import ShellSuite.Discovery
import ShellSuite.Proofs.Files.Lookup

set_option autoImplicit false
set_option relaxedAutoImplicit false

/-!
What is to be found below a directory, as a recursion over the tree that hands the configuration
down. No test is in it twice, and the configuration of a test is made by the settings on the way to
it and by nothing else.
-/

namespace ShellSuite.Discovery

/-- Whether an entry and all below it is left out, by its name. -/
def leavesOut (c : Config) (name : String) : Bool :=
  name.toList.head? = some '.' || c.excludes.contains name

def namesTest (c : Config) (name : String) : Bool :=
  name ≠ "lit.yaml" && name ≠ "lit.toml" && (Path.extensionOf name).any c.suffixes.contains

def Scope.inner (scope : Scope) (dir : Path) (config : Config) : Scope :=
  if config = scope.config then scope else ⟨config, dir⟩

/-- The items of a directory that has been entered, or the one that says why it cannot be read. -/
def walkOpen (fs : FileSystem) (dir : Path) (below : List Item) : List Item :=
  match fs.list dir with
  | .error cause => [.unreadable dir cause]
  | .ok _ => below

/-- The items of a directory in its scope, or the one that says what is wrong with its settings. -/
def walkInto (fs : FileSystem) (dir : Path) (scope : Scope) (below : Scope → List Item) :
    List Item :=
  match Config.resolve fs dir scope.config with
  | .error cause => [.broken cause]
  | .ok config => walkOpen fs dir (below (scope.inner dir config))

mutual

/-- The items below a directory, entry by entry. -/
def walk (fs : FileSystem) (dir : Path) (scope : Scope) : List (String × Node) → List Item
  | [] => []
  | (name, n) :: es => walkEntry fs dir scope name n ++ walk fs dir scope es

def walkEntry (fs : FileSystem) (dir : Path) (scope : Scope) (name : String) : Node → List Item
  | .directory es =>
    if leavesOut scope.config name then []
    else walkInto fs (dir.child name) scope fun inner => walk fs (dir.child name) inner es
  | _ =>
    if leavesOut scope.config name then []
    else if namesTest scope.config name then
      [.test (.ofFile (dir.child name) scope.config scope.directory)]
    else []

end

def tests (items : List Item) : List Test :=
  items.filterMap fun
    | .test t => some t
    | _ => none

/-- Settings of directories, one after the other, that make one configuration of another. Each of
the directories has no settings or valid ones. -/
def Layered (fs : FileSystem) (c : Config) (dirs : List Path) (c' : Config) : Prop :=
  ∃ layers : List (Path × Option Override), layers.map (·.1) = dirs ∧
    (∀ l ∈ layers, Override.ofDirectory fs l.1 = .ok l.2) ∧
    c' = layers.foldl (fun c l => c.under l.1 l.2) c

/-- A test of a file below a directory, which is no directory itself. The configuration of the test
is made from that of the directory by the settings on the way. -/
def ComesFrom (fs : FileSystem) (dir : Path) (c : Config) (n : Node) (t : Test) : Prop :=
  ∃ names name file, n.descend? (names ++ [name]) = some file ∧ file.isDirectory = false ∧
    t.path = (dir.descend names).child name ∧ Layered fs c (dir.along names) t.config

variable {fs : FileSystem} {dir : Path} {scope : Scope} {name : String} {n : Node} {t : Test}

private theorem mem_tests {items : List Item} : t ∈ tests items ↔ .test t ∈ items := by
  unfold tests
  rw [List.mem_filterMap]
  constructor
  · rintro ⟨item, hmem, heq⟩
    cases item with
    | test t' =>
      cases heq
      exact hmem
    | broken cause => cases heq
    | unreadable path cause => cases heq
  · intro hmem
    exact ⟨.test t, hmem, rfl⟩

theorem tests_append (items items' : List Item) :
    tests (items ++ items') = tests items ++ tests items' :=
  List.filterMap_append

theorem Layered.nil (fs : FileSystem) (c : Config) : Layered fs c [] c :=
  ⟨[], rfl, by simp, rfl⟩

theorem Layered.cons {c c' : Config} {o : Option Override} {dirs : List Path}
    (h : Override.ofDirectory fs dir = .ok o) (hrest : Layered fs (c.under dir o) dirs c') :
    Layered fs c (dir :: dirs) c' := by
  obtain ⟨layers, hdirs, hvalid, rfl⟩ := hrest
  refine ⟨(dir, o) :: layers, by rw [List.map_cons, hdirs], ?_, rfl⟩
  intro l hl
  rcases List.mem_cons.mp hl with rfl | hl
  · exact h
  · exact hvalid l hl

theorem Scope.inner_config (scope : Scope) (dir : Path) (config : Config) :
    (scope.inner dir config).config = config := by
  unfold Scope.inner
  split
  case isTrue h => exact h.symm
  case isFalse => rfl

theorem resolve_eq_ok {parent config : Config} (h : Config.resolve fs dir parent = .ok config) :
    ∃ o, Override.ofDirectory fs dir = .ok o ∧ config = parent.under dir o := by
  obtain ⟨o, hload, rfl⟩ := map_eq_ok h
  exact ⟨o, hload, rfl⟩

private theorem mem_walk {es : List (String × Node)} {item : Item} :
    item ∈ walk fs dir scope es ↔ ∃ e ∈ es, item ∈ walkEntry fs dir scope e.1 e.2 := by
  induction es with
  | nil => simp [walk]
  | cons e es ih => simp [walk, ih]

theorem walkEntry_file (fs : FileSystem) (dir : Path) (scope : Scope) (name : String)
    (h : n.isDirectory = false) :
    walkEntry fs dir scope name n =
      if leavesOut scope.config name then []
      else if namesTest scope.config name then
        [.test (.ofFile (dir.child name) scope.config scope.directory)]
      else [] := by
  cases n with
  | directory es => cases h
  | file | link | null | tool => rw [walkEntry.eq_def]

private theorem walkEntry_cases (fs : FileSystem) (dir : Path) (scope : Scope) (name : String)
    (n : Node) :
    tests (walkEntry fs dir scope name n) = [] ∨
    (n.isDirectory = false ∧ walkEntry fs dir scope name n =
      [.test (.ofFile (dir.child name) scope.config scope.directory)]) ∨
    ∃ es o inner, n = .directory es ∧ Override.ofDirectory fs (dir.child name) = .ok o ∧
      inner.config = scope.config.under (dir.child name) o ∧
      walkEntry fs dir scope name n = walk fs (dir.child name) inner es := by
  by_cases hdir : n.isDirectory
  · obtain ⟨es, rfl⟩ : ∃ es, n = .directory es := by
      cases n with
      | directory es => exact ⟨es, rfl⟩
      | file | link | null | tool => cases hdir
    rw [walkEntry]
    split
    · exact Or.inl rfl
    · unfold walkInto
      split
      · exact Or.inl rfl
      case h_2 config hresolve =>
        obtain ⟨o, hload, rfl⟩ := resolve_eq_ok hresolve
        unfold walkOpen
        split
        · exact Or.inl rfl
        · exact Or.inr (Or.inr ⟨es, o, _, rfl, hload, Scope.inner_config _ _ _, rfl⟩)
  · rw [Bool.not_eq_true] at hdir
    rw [walkEntry_file fs dir scope name hdir]
    split
    · exact Or.inl rfl
    · split
      · exact Or.inr (Or.inl ⟨hdir, rfl⟩)
      · exact Or.inl rfl

private theorem within_of_mem_walkEntry (hn : n.WellFormed) (hname : Path.IsName name)
    (h : .test t ∈ walkEntry fs dir scope name n) : t.path.Within (dir.child name) := by
  induction hn using Node.WellFormed.by_entries generalizing dir scope name with
  | step n hn ih =>
    rcases walkEntry_cases fs dir scope name n with hnone | ⟨-, heq⟩ | ⟨es, o, inner, rfl, -, -, heq⟩
    · rw [← mem_tests, hnone] at h
      cases h
    · rw [heq, List.mem_singleton] at h
      cases h
      exact .refl _
    · rw [heq, mem_walk] at h
      obtain ⟨e, he, hmem⟩ := h
      obtain ⟨-, ihe⟩ := ih e he
      exact .of_child hname (hn.isName he) (ihe (hn.isName he) hmem)

private theorem paths_disjoint {e : String × Node} {es : List (String × Node)} {t t' : Test}
    (hes : (Node.directory (e :: es)).WellFormed) (ht : .test t ∈ walkEntry fs dir scope e.1 e.2)
    (ht' : .test t' ∈ walk fs dir scope es) : t.path ≠ t'.path := by
  intro hpath
  obtain ⟨e', he', hmem⟩ := mem_walk.mp ht'
  have hhead : e ∈ e :: es := List.mem_cons_self
  have htail : e' ∈ e :: es := List.mem_cons_of_mem e he'
  have hwithin := within_of_mem_walkEntry (hes.entry hhead) (hes.isName hhead) ht
  have hwithin' := within_of_mem_walkEntry (hes.entry htail) (hes.isName htail) hmem
  rw [hpath] at hwithin
  have hlt := (List.pairwise_cons.mp hes.sorted).1 e' he'
  rw [Path.Within.name_unique (hes.isName hhead) (hes.isName htail) hwithin hwithin'] at hlt
  exact String.lt_irrefl _ hlt

private theorem paths_nodup_of_entries {es : List (String × Node)}
    (hes : (Node.directory es).WellFormed)
    (h : ∀ e ∈ es, ((tests (walkEntry fs dir scope e.1 e.2)).map (·.path)).Nodup) :
    ((tests (walk fs dir scope es)).map (·.path)).Nodup := by
  induction es with
  | nil => simp [walk, tests]
  | cons e es ih =>
    rw [walk, tests_append, List.map_append, List.nodup_append]
    refine ⟨h e List.mem_cons_self, ih hes.tail fun e he => h e (List.mem_cons_of_mem _ he), ?_⟩
    intro path hpath path' hpath'
    obtain ⟨t, ht, rfl⟩ := List.mem_map.mp hpath
    obtain ⟨t', ht', rfl⟩ := List.mem_map.mp hpath'
    exact paths_disjoint hes (mem_tests.mp ht) (mem_tests.mp ht')

private theorem paths_nodup_walkEntry (hn : n.WellFormed) :
    ((tests (walkEntry fs dir scope name n)).map (·.path)).Nodup := by
  induction hn using Node.WellFormed.by_entries generalizing dir scope name with
  | step n hn ih =>
    rcases walkEntry_cases fs dir scope name n with hnone | ⟨-, heq⟩ | ⟨es, o, inner, rfl, -, -, heq⟩
    · simp [hnone]
    · simp [heq, tests]
    · rw [heq]
      apply paths_nodup_of_entries hn
      intro e he
      obtain ⟨-, ihe⟩ := ih e he
      exact ihe

theorem paths_nodup_walk {es : List (String × Node)} (hes : (Node.directory es).WellFormed) :
    ((tests (walk fs dir scope es)).map (·.path)).Nodup :=
  paths_nodup_of_entries hes fun _ he => paths_nodup_walkEntry (hes.entry he)

private theorem comesFrom_of_mem_walkEntry {outer : Node} (hn : n.WellFormed)
    (hchild : outer.child? name = some n) (h : .test t ∈ walkEntry fs dir scope name n) :
    ComesFrom fs dir scope.config outer t := by
  induction hn using Node.WellFormed.by_entries generalizing dir scope name outer with
  | step n hn ih =>
    rcases walkEntry_cases fs dir scope name n with
      hnone | ⟨hfile, heq⟩ | ⟨es, o, inner, rfl, hload, hinner, heq⟩
    · rw [← mem_tests, hnone] at h
      cases h
    · rw [heq, List.mem_singleton] at h
      cases h
      refine ⟨[], name, n, ?_, hfile, rfl, .nil fs scope.config⟩
      simp [Node.descend?, hchild]
    · rw [heq, mem_walk] at h
      obtain ⟨⟨entry, m⟩, he, hmem⟩ := h
      obtain ⟨-, ihe⟩ := ih _ he
      obtain ⟨names, last, file, hdescend, hfile, hpath, hlayers⟩ :=
        ihe (hn.child?_of_mem he) hmem
      -- the settings of this directory lie below those of the directories in it
      rw [hinner] at hlayers
      refine ⟨name :: names, last, file, ?_, hfile, hpath, .cons hload hlayers⟩
      simp only [List.cons_append, Node.descend?, hchild]
      exact hdescend

theorem comesFrom_of_mem_walk {es : List (String × Node)} (hes : (Node.directory es).WellFormed)
    (h : .test t ∈ walk fs dir scope es) : ComesFrom fs dir scope.config (.directory es) t := by
  obtain ⟨⟨name, n⟩, he, hmem⟩ := mem_walk.mp h
  exact comesFrom_of_mem_walkEntry (hes.entry he) (hes.child?_of_mem he) hmem

end ShellSuite.Discovery
