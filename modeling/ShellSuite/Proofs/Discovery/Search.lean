import ShellSuite.Proofs.Discovery.Walk

set_option autoImplicit false
set_option relaxedAutoImplicit false

/-!
A search goes from entry to entry with the open directories on a stack, and looks up what holds in
the directory of each entry. It finds what the recursive walk over the tree lists, in the same order,
if it starts at a directory: then the scope that is looked up for an entry is the one its directory
was entered with. A start that is a link to a directory is walked through too, but it has not been
entered, so nothing below it is a test.
-/

namespace ShellSuite.Discovery

open Search.all (collect)

variable {fs : FileSystem} {root scope : Scope} {scopes : Scopes} {dir : Path} {name : String}
  {n : Node} {es : List (String × Node)} {entries : List Entry} {outer : List Level}

/-! ### Scopes that are looked up -/

/-- A table of scopes has grown by paths of more than so many components. -/
def Grown (length : Nat) (before after : Scopes) : Prop :=
  ∀ key : List Path.Component, key.length ≤ length → after.lookup key = before.lookup key

theorem Grown.refl (length : Nat) (scopes : Scopes) : Grown length scopes scopes :=
  fun _ _ => rfl

theorem Grown.trans {length : Nat} {a b c : Scopes} (hab : Grown length a b)
    (hbc : Grown length b c) : Grown length a c :=
  fun key hkey => (hbc key hkey).trans (hab key hkey)

theorem Grown.of_child (hname : Path.IsName name) {after : Scopes}
    (h : Grown (dir.child name).components.length (((dir.child name).components, scope) :: scopes)
      after) : Grown dir.components.length scopes after := by
  intro key hkey
  have hlength : (dir.child name).components.length = dir.components.length + 1 := by
    rw [Path.components_child dir hname, List.length_append, List.length_singleton]
  have hne : (key == (dir.child name).components) = false := by
    rw [beq_eq_false_iff_ne]
    rintro rfl
    omega
  rw [h key (by omega), List.lookup_cons, hne]

private theorem scopeOf?_parent_child (hname : Path.IsName name) (s : Search) :
    (dir.child name).parent.bind s.scopeOf? = s.scopeOf? dir := by
  obtain ⟨p, hparent, hcomponents⟩ := Path.parent_child dir hname
  rw [hparent, Option.bind_some, Search.scopeOf?, hcomponents]
  rfl

/-! ### One entry -/

abbrev Search.amid (root : Scope) (scopes : Scopes) (levels : List Level) : Search :=
  ⟨root, ⟨none, levels⟩, scopes⟩

def listed (e : String × Node) : Entry :=
  .named e.1 e.2.isDirectory

/-- From an open directory with this entry in front, a search finds the items of the entry and then
stands behind it. -/
def Passes (fs : FileSystem) (root : Scope) (dir : Path) (scope : Scope) (e : String × Node) :
    Prop :=
  ∀ entries outer scopes, scopes.lookup dir.components = some scope →
    ∃ k ≤ 3 * nodeCount e.2, ∃ scopes', Grown dir.components.length scopes scopes' ∧ ∀ m,
      collect fs (k + m) (.amid root scopes (⟨dir, listed e :: entries⟩ :: outer)) =
        walkEntry fs dir scope e.1 e.2 ++
          collect fs m (.amid root scopes' (⟨dir, entries⟩ :: outer))

private theorem nodeCount_le_entryCount {e : String × Node} (h : e ∈ es) :
    nodeCount e.2 ≤ entryCount es := by
  induction es with
  | nil => cases h
  | cons first es ih =>
    rw [entryCount]
    rcases List.mem_cons.mp h with rfl | hmem
    · exact Nat.le_add_right _ _
    · have := ih hmem
      omega

theorem nodeCount_le_of_descend? {names : List String} {c : Node} (h : n.descend? names = some c) :
    nodeCount c ≤ nodeCount n := by
  refine Node.descend?_preserves (P := fun c => nodeCount c ≤ nodeCount n) ?_ (Nat.le_refl _) h
  intro inner hinner e he
  cases inner with
  | directory es =>
    have hle : nodeCount e.2 ≤ entryCount es := nodeCount_le_entryCount he
    rw [nodeCount] at hinner
    omega
  | file | link | null | tool => cases he

private theorem collect_step {s s' : Search} {item : Option Item} (h : s.step fs = some (item, s'))
    (m : Nat) : collect fs (1 + m) s = item.toList ++ collect fs m s' := by
  rw [Nat.add_comm, collect, h]

theorem all_step {s s' : Search} {item : Option Item} (h : s.step fs = some (item, s')) :
    s.all fs = item.toList ++ collect fs (3 * nodeCount fs.root + 2) s' := by
  rw [Search.all, enough, collect, h]

private theorem collect_done (root : Scope) (scopes : Scopes) (m : Nat) :
    collect fs m (.amid root scopes []) = [] := by
  cases m <;> rfl

theorem step_named (hname : Path.IsName name) (hscope : scopes.lookup dir.components = some scope)
    (isDir : Bool) (rest : List Level) {outer : List Level}
    (hrest : rest = ⟨dir, entries⟩ :: outer) :
    Search.step fs (.amid root scopes (⟨dir, .named name isDir :: entries⟩ :: outer)) =
      some (
        if isHidden scope.config name then (none, .amid root scopes rest)
        else if isDir then
          match enter fs (dir.child name) scope with
          | .error cause => (some (.broken cause), .amid root scopes rest)
          | .ok inner => (none, .amid root (((dir.child name).components, inner) :: scopes)
              (.ofDirectory fs (dir.child name) :: rest))
        else ((testOf? scope (dir.child name)).map .test, .amid root scopes rest)) := by
  subst hrest
  have hparent (w : Walker) :
      (dir.child name).parent.bind (Search.scopeOf? ⟨root, w, scopes⟩) = some scope := by
    rw [scopeOf?_parent_child hname]
    exact hscope
  simp only [Search.step, Walker.step, Search.lookAt, Search.lookAtEntry, hparent]
  cases isDir with
  | false => simp only [Bool.false_eq_true, if_false]
  | true =>
    simp only [if_true, Search.skip, Walker.skip, List.tail_cons]
    split
    · rfl
    · cases enter fs (dir.child name) scope <;> rfl

private theorem collect_entries (h : ∀ e ∈ es, Passes fs root dir scope e)
    (hscope : scopes.lookup dir.components = some scope) (outer : List Level) :
    ∃ k ≤ 3 * entryCount es + 1, ∃ scopes', Grown dir.components.length scopes scopes' ∧ ∀ m,
      collect fs (k + m) (.amid root scopes (⟨dir, es.map listed⟩ :: outer)) =
        walk fs dir scope es ++ collect fs m (.amid root scopes' outer) := by
  induction es generalizing scopes with
  | nil =>
    -- the step that closes the directory
    refine ⟨1, by simp, scopes, .refl _ _, ?_⟩
    intro m
    rw [collect_step rfl, walk]
    rfl
  | cons e es ih =>
    obtain ⟨k, hk, middle, hmiddle, hentry⟩ :=
      h e List.mem_cons_self (es.map listed) outer scopes hscope
    obtain ⟨k', hk', last, hlast, hrest⟩ := ih (fun e he => h e (List.mem_cons_of_mem _ he))
      ((hmiddle dir.components (Nat.le_refl _)).trans hscope)
    refine ⟨k + k', ?_, last, hmiddle.trans hlast, ?_⟩
    · rw [entryCount]
      omega
    · intro m
      rw [Nat.add_assoc, List.map_cons, hentry, hrest, walk, List.append_assoc]

private theorem testOf?_child (hname : Path.IsName name) :
    testOf? scope (dir.child name) =
      if namesTest scope.config name then
        some (.ofFile (dir.child name) scope.config scope.directory)
      else none := by
  have hcond : (!Override.isFileName (dir.child name) && scope.config.isTestFile (dir.child name)) =
      namesTest scope.config name := by
    unfold Override.isFileName Config.isTestFile namesTest
    rw [Path.fileName_child hname, Path.extension_child hname]
    simp [Override.fileNames]
  unfold testOf?
  rw [hcond]

theorem nodeCount_pos (n : Node) : 0 < nodeCount n := by
  cases n <;> simp [nodeCount]

private theorem passes_of_step (item : Option Item)
    (hstep : ∀ entries outer scopes, scopes.lookup dir.components = some scope →
      Search.step fs (.amid root scopes (⟨dir, listed (name, n) :: entries⟩ :: outer)) =
        some (item, .amid root scopes (⟨dir, entries⟩ :: outer)))
    (hitems : walkEntry fs dir scope name n = item.toList) :
    Passes fs root dir scope (name, n) := by
  intro entries outer scopes hscope
  refine ⟨1, ?_, scopes, .refl _ _, ?_⟩
  · have hpos := nodeCount_pos n
    change 1 ≤ 3 * nodeCount n
    omega
  · intro m
    rw [hitems]
    exact collect_step (hstep entries outer scopes hscope) m

private theorem passes_leftOut (hname : Path.IsName name) (h : leavesOut scope.config name = true) :
    Passes fs root dir scope (name, n) := by
  have hhidden : isHidden scope.config name = true := h
  apply passes_of_step none
  · intro entries outer scopes hscope
    rw [listed, step_named hname hscope _ _ rfl, if_pos hhidden]
  · cases n <;> simp [walkEntry, h]

private theorem passes_file (fs : FileSystem) (root : Scope) (dir : Path) (scope : Scope)
    (hname : Path.IsName name) (hfile : n.isDirectory = false) :
    Passes fs root dir scope (name, n) := by
  by_cases hout : leavesOut scope.config name
  · exact passes_leftOut hname hout
  · have hhidden : ¬ isHidden scope.config name := hout
    apply passes_of_step ((testOf? scope (dir.child name)).map .test)
    · intro entries outer scopes hscope
      rw [listed, step_named hname hscope _ _ rfl, if_neg hhidden, hfile]
      rfl
    · rw [walkEntry_file fs dir scope name hfile, testOf?_child hname, if_neg hout]
      split <;> rfl

theorem node_of_list {p : Path} (h : fs.list p = .ok es) : fs.node true p = .ok (.directory es) := by
  obtain ⟨n, hnode, hentries⟩ := bind_eq_ok h
  cases n with
  | directory es' =>
    cases hentries
    exact hnode
  | file | link | null | tool => cases hentries

theorem list_of_node {p : Path} (h : fs.node true p = .ok (.directory es)) :
    fs.list p = .ok es := by
  unfold FileSystem.list
  rw [h]
  rfl

theorem ofDirectory_of_list {p : Path} (h : fs.list p = .ok es) :
    Level.ofDirectory fs p = ⟨p, es.map listed⟩ := by
  unfold Level.ofDirectory
  rw [h]
  rfl

theorem ofDirectory_of_error {p : Path} {cause : OsError} (h : fs.list p = .error cause) :
    Level.ofDirectory fs p = ⟨p, [.fault cause]⟩ := by
  rw [Level.ofDirectory, h]

theorem enter_eq (fs : FileSystem) (dir : Path) (scope : Scope) :
    enter fs dir scope = scope.inner dir <$> Config.resolve fs dir scope.config := by
  unfold enter
  cases Config.resolve fs dir scope.config <;> rfl

private theorem collect_level {sub : List (String × Node)}
    (hsub : ∀ listing, fs.list dir = .ok listing → listing = sub)
    (hbelow : fs.node true dir = .ok (.directory sub) → ∀ e ∈ sub, Passes fs root dir scope e)
    (hscope : scopes.lookup dir.components = some scope) (outer : List Level) :
    ∃ k ≤ 3 * entryCount sub + 2, ∃ scopes', Grown dir.components.length scopes scopes' ∧ ∀ m,
      collect fs (k + m) (.amid root scopes (.ofDirectory fs dir :: outer)) =
        walkOpen fs dir (walk fs dir scope sub) ++ collect fs m (.amid root scopes' outer) := by
  unfold walkOpen
  cases hlist : fs.list dir with
  | error cause =>
    refine ⟨2, by omega, scopes, .refl _ _, ?_⟩
    intro m
    rw [ofDirectory_of_error hlist, Nat.add_assoc 1 1 m, collect_step rfl, collect_step rfl]
    rfl
  | ok listing =>
    obtain rfl := hsub listing hlist
    obtain ⟨k, hk, last, hlast, hrun⟩ := collect_entries (hbelow (node_of_list hlist)) hscope outer
    refine ⟨k, by omega, last, hlast, ?_⟩
    intro m
    rw [ofDirectory_of_list hlist, hrun]

private theorem passes_directory {sub : List (String × Node)}
    (hdir : fs.node true dir = .ok (.directory es)) (hname : Path.IsName name)
    (hchild : (Node.directory es).child? name = some (.directory sub))
    (hbelow : fs.node true (dir.child name) = .ok (.directory sub) →
      ∀ inner, ∀ e ∈ sub, Passes fs root (dir.child name) inner e) :
    Passes fs root dir scope (name, .directory sub) := by
  by_cases hout : leavesOut scope.config name
  · exact passes_leftOut hname hout
  have hhidden : ¬ isHidden scope.config name := hout
  cases hresolve : Config.resolve fs (dir.child name) scope.config with
  | error cause =>
    have henter : enter fs (dir.child name) scope = .error cause := by
      rw [enter_eq, hresolve]
      rfl
    apply passes_of_step (some (.broken cause))
    · intro entries outer scopes hscope
      rw [listed, step_named hname hscope _ _ rfl, if_neg hhidden, henter]
      rfl
    · rw [walkEntry, if_neg hout, walkInto, hresolve]
      rfl
  | ok config =>
    have henter : enter fs (dir.child name) scope = .ok (scope.inner (dir.child name) config) := by
      rw [enter_eq, hresolve]
      rfl
    -- what is listed at the path of the entry is what the tree has there
    have hsub : ∀ listing, fs.list (dir.child name) = .ok listing → listing = sub := by
      intro listing hlist
      have hnode := FileSystem.node_child hdir hname hchild (node_of_list hlist)
      injection hnode
    intro entries outer scopes hscope
    let recorded : Scopes :=
      ((dir.child name).components, scope.inner (dir.child name) config) :: scopes
    have hinner : recorded.lookup (dir.child name).components = some _ := List.lookup_cons_self
    obtain ⟨k, hk, last, hlast, hrun⟩ :=
      collect_level hsub (fun hnode => hbelow hnode _) hinner (⟨dir, entries⟩ :: outer)
    have hstep : Search.step fs (.amid root scopes (⟨dir, .named name true :: entries⟩ :: outer)) =
        some _ := step_named hname hscope true _ rfl
    rw [if_neg hhidden, if_pos rfl, henter] at hstep
    refine ⟨1 + k, ?_, last, hlast.of_child hname, ?_⟩
    · change 1 + k ≤ 3 * nodeCount (.directory sub)
      rw [nodeCount]
      omega
    · intro m
      rw [walkEntry, if_neg hout, walkInto, hresolve]
      dsimp only
      rw [← hrun m, Nat.add_assoc]
      exact collect_step hstep (k + m)

/-- A search passes every entry of a directory of the tree. -/
theorem passes (hn : n.WellFormed) (hname : Path.IsName name)
    (hdir : fs.node true dir = .ok (.directory es))
    (hchild : (Node.directory es).child? name = some n) : Passes fs root dir scope (name, n) := by
  induction hn using Node.WellFormed.by_entries generalizing dir scope name es with
  | step n hn ih =>
    cases n with
    | directory sub =>
      apply passes_directory hdir hname hchild
      intro hnode inner e he
      obtain ⟨-, ihe⟩ := ih e he
      exact ihe (hn.isName he) hnode (hn.child?_of_mem he)
    | file | link | null | tool => exact passes_file fs root dir scope hname rfl

/-! ### The start -/

theorem visitStart_cases (fs : FileSystem) (path : Path) :
    (∃ cause, Walker.visitStart fs path = (.fault path cause, [])) ∨
      Walker.visitStart fs path = (.start path true, [.ofDirectory fs path]) ∨
      Walker.visitStart fs path = (.start path false, []) ∨
      ((∃ es, fs.list path = .ok es) ∧
        Walker.visitStart fs path = (.start path false, [.ofDirectory fs path])) := by
  unfold Walker.visitStart
  split
  next cause _ => exact .inl ⟨cause, rfl⟩
  next n _ =>
    split
    · exact .inr (.inl rfl)
    split
    · split
      next cause _ => exact .inl ⟨cause, rfl⟩
      next target htarget =>
        cases target with
        | directory es => exact .inr (.inr (.inr ⟨⟨es, list_of_node htarget⟩, rfl⟩))
        | file | link | null | tool => exact .inr (.inr (.inl rfl))
    · exact .inr (.inr (.inl rfl))

theorem Walker.started_of_step {w w' : Walker} {sight : Option Sight}
    (h : w.step fs = some (sight, w')) : w'.start = none := by
  unfold Walker.step at h
  split at h <;> cases h <;> rfl

private theorem Search.start_lookAt (s : Search) (sight : Sight) :
    (s.lookAt fs sight).2.walker.start = s.walker.start := by
  unfold Search.lookAt
  split
  · rfl
  · rfl
  · split <;> rfl
  · unfold Search.lookAtEntry
    split
    · rfl
    split
    · split <;> rfl
    split
    · split <;> rfl
    · rfl

theorem Search.started_of_step {s s' : Search} {item : Option Item}
    (h : s.step fs = some (item, s')) : s'.walker.start = none := by
  unfold Search.step at h
  split at h
  · cases h
  next hwalk =>
    cases h
    exact Walker.started_of_step hwalk
  next sight w hwalk =>
    have hstart : (Search.lookAt fs { s with walker := w } sight).2.walker.start = w.start :=
      Search.start_lookAt _ sight
    rw [Option.some.inj h] at hstart
    exact hstart.trans (Walker.started_of_step hwalk)

/-! ### From a directory -/

theorem rootOf_directory {path : Path} (h : fs.node true path = .ok (.directory es)) :
    rootOf fs path = path := by
  have hfile : fs.isFile path = false := by
    unfold FileSystem.isFile
    rw [h]
    rfl
  simp [rootOf, hfile]

theorem start_of_directory {path : Path} {config : Config}
    (hpath : fs.node true path = .ok (.directory es))
    (hconfig : Config.ofRoot fs path = .ok config) :
    start fs path = .ok ⟨⟨config, path⟩, ⟨some path, []⟩, []⟩ := by
  simp only [start, rootOf_directory hpath, hconfig]
  rfl

theorem all_eq_walk {path : Path} (scope : Scope) (htree : fs.root.WellFormed)
    (hpath : fs.node false path = .ok (.directory es)) :
    Search.all fs ⟨scope, ⟨some path, []⟩, []⟩ = walk fs path scope es := by
  have hnode := FileSystem.node_follow hpath
  have hes := FileSystem.wellFormed_of_node htree hpath
  have hpasses : ∀ e ∈ es, Passes fs scope path scope e := by
    intro e he
    exact passes (hes.entry he) (hes.isName he) hnode (hes.child?_of_mem he)
  have hstep : Search.step fs ⟨scope, ⟨some path, []⟩, []⟩ =
      some (none, ⟨scope, ⟨none, [⟨path, es.map listed⟩]⟩, [(path.components, scope)]⟩) := by
    simp only [Search.step, Walker.step, Walker.visitStart, hpath, Node.isDirectory, if_true,
      ofDirectory_of_list (list_of_node hnode)]
    rfl
  obtain ⟨k, hk, last, -, hrun⟩ := collect_entries hpasses List.lookup_cons_self []
  obtain ⟨goal, -, hdescend⟩ := FileSystem.leads_of_node hpath
  have hcount := nodeCount_le_of_descend? hdescend
  rw [nodeCount] at hcount
  -- one step opens the root, `k` go through the tree, and those left over find nothing
  obtain ⟨m, hm⟩ : ∃ m, enough fs = 1 + (k + m) := by
    refine ⟨enough fs - 1 - k, ?_⟩
    unfold enough
    omega
  unfold Search.all
  rw [hm, collect_step hstep, hrun, collect_done]
  simp

/-- Discovery in a directory that is no link and whose configuration resolves. It lists the walk over
the directory, no test twice. A test is that of a file of the tree, and its configuration is made by
the valid settings of the directories on the way to it. -/
theorem start_all_eq_walk {root : Path} {config : Config} (htree : fs.root.WellFormed)
    (hroot : fs.node false root = .ok (.directory es))
    (hconfig : Config.ofRoot fs root = .ok config) :
    ∃ search, start fs root = .ok search ∧
      search.all fs = walk fs root ⟨config, root⟩ es ∧
      ((tests (search.all fs)).map (·.path)).Nodup ∧
      ∀ t, .test t ∈ search.all fs → ∃ names name file,
        (Node.directory es).descend? (names ++ [name]) = some file ∧ file.isDirectory = false ∧
        t.path = (root.descend names).child name ∧
        Layered fs (Config.initial root) (root :: root.along names) t.config := by
  have hes := FileSystem.wellFormed_of_node htree hroot
  have hall := all_eq_walk ⟨config, root⟩ htree hroot
  refine ⟨_, start_of_directory (FileSystem.node_follow hroot) hconfig, hall, ?_, ?_⟩
  · rw [hall]
    exact paths_nodup_walk hes
  · intro t ht
    rw [hall] at ht
    obtain ⟨names, name, file, hfound, hfile, hpath, hlayers⟩ := comesFrom_of_mem_walk hes ht
    obtain ⟨o, hload, rfl⟩ := resolve_eq_ok hconfig
    exact ⟨names, name, file, hfound, hfile, hpath, .cons hload hlayers⟩

/-! ### From a link to a directory -/

private theorem step_of_scopes_nil {levels : List Level} {s : Search} {item : Option Item}
    (h : Search.step fs (.amid root [] levels) = some (item, s)) :
    (∃ levels', s = .amid root [] levels') ∧
      ∀ i ∈ item, ∃ path cause, i = .unreadable path cause := by
  match levels with
  | [] => cases h
  | ⟨_, []⟩ :: outer =>
    cases h
    exact ⟨⟨outer, rfl⟩, by simp⟩
  | ⟨dir, .fault cause :: entries⟩ :: outer =>
    cases h
    exact ⟨⟨_, rfl⟩, by simp⟩
  | ⟨dir, .named name isDir :: entries⟩ :: outer =>
    have hunknown (p : Option Path) (w : Walker) :
        p.bind (Search.scopeOf? ⟨root, w, []⟩) = none := by
      cases p <;> rfl
    simp only [Search.step, Walker.step, Search.lookAt, Search.lookAtEntry, hunknown] at h
    cases h
    exact ⟨⟨_, rfl⟩, by simp⟩

private theorem unreadable_of_mem_collect {levels : List Level} {n : Nat} {item : Item}
    (h : item ∈ collect fs n (.amid root [] levels)) :
    ∃ path cause, item = .unreadable path cause := by
  induction n generalizing levels with
  | zero => cases h
  | succ n ih =>
    unfold collect at h
    split at h
    · cases h
    next found s hstep =>
      obtain ⟨⟨levels', rfl⟩, hfound⟩ := step_of_scopes_nil hstep
      rcases List.mem_append.mp h with hnow | hlater
      · exact hfound item (Option.mem_toList.mp hnow)
      · exact ih hlater

/-- Discovery from a link to a directory. The link itself is a test if its name has a suffix of
tests. There is no other test, and no settings below are looked at: all that can be found there are
directories that cannot be read. -/
theorem start_all_of_link {path : Path} {target : String} {config : Config}
    (hlink : fs.node false path = .ok (.link target))
    (hpath : fs.node true path = .ok (.directory es))
    (hconfig : Config.ofRoot fs path = .ok config) :
    ∃ search, start fs path = .ok search ∧
      tests (search.all fs) =
        (if config.isTestFile path then [.ofFile path config path] else []) ∧
      ∀ item ∈ search.all fs, (∃ t, item = .test t) ∨ ∃ p cause, item = .unreadable p cause := by
  let item : Option Item :=
    if config.isTestFile path then some (.test (.ofFile path config path)) else none
  have hstep : Search.step fs ⟨⟨config, path⟩, ⟨some path, []⟩, []⟩ =
      some (item, .amid ⟨config, path⟩ [] [.ofDirectory fs path]) := by
    simp only [Search.step, Walker.step, Walker.visitStart, hlink, hpath, Node.isDirectory,
      Node.isLink, Bool.false_eq_true, if_false, if_true, Search.lookAt, item]
    split <;> rfl
  have hall := all_step hstep
  have hbelow : tests (collect fs (3 * nodeCount fs.root + 2)
      (.amid ⟨config, path⟩ [] [.ofDirectory fs path])) = [] := by
    rw [tests, List.filterMap_eq_nil_iff]
    intro i hi
    obtain ⟨p, cause, rfl⟩ := unreadable_of_mem_collect hi
    rfl
  refine ⟨_, start_of_directory hpath hconfig, ?_, ?_⟩
  · rw [hall, tests_append, hbelow, List.append_nil]
    dsimp only [item]
    split <;> rfl
  · intro i hi
    rw [hall] at hi
    rcases List.mem_append.mp hi with hfirst | hlater
    · dsimp only [item] at hfirst
      split at hfirst
      · exact .inl ⟨_, List.mem_singleton.mp hfirst⟩
      · cases hfirst
    · exact .inr (unreadable_of_mem_collect hlater)

/-! ### A suite and a link to it -/

private theorem ofDirectory_eq_ok {file : Path} {o : Override}
    (hfind : Override.find fs dir = .ok (some file)) (hload : Override.load fs file = .ok o)
    (hfault : o.fault? = none) : Override.ofDirectory fs dir = .ok (some o) := by
  unfold Override.ofDirectory
  rw [hfind]
  dsimp only
  rw [hload]
  dsimp only
  rw [hfault]

theorem ofDirectory_of_none (hyaml : fs.isFile (dir.child "lit.yaml") = false)
    (htoml : fs.isFile (dir.child "lit.toml") = false) : Override.ofDirectory fs dir = .ok none := by
  have hfind : Override.find fs dir = .ok none := by
    unfold Override.find Override.fileNames
    simp only [List.map_cons, List.map_nil, List.filter_cons, hyaml, htoml, Bool.false_eq_true,
      if_false, List.filter_nil]
  unfold Override.ofDirectory
  rw [hfind]

/-- A suite at `/s` with a test and settings, and a directory in it with another test. -/
def sampleEntries : List (String × Node) :=
  [("a.t", .file 0 false), ("lit.toml", .file 1 false), ("sub", .directory [("b.t", .file 0 false)])]

/-- The settings of the sample make files that end in `.t` tests. -/
def sampleSettings : Override :=
  { Override.empty with suffixes := ["t"] }

theorem ofDirectory_of_tomlText {fs : FileSystem} {dir : Path} {id : Nat} {executable : Bool}
    {text : String} {o : Override} (hyaml : fs.isFile (dir.child "lit.yaml") = false)
    (htoml : fs.node true (dir.child "lit.toml") = .ok (.file id executable))
    (hbytes : Text.decode? (fs.bytesOf id) = some text) (hblank : ¬ (Text.trim text).isEmpty)
    (htext : Toml.override? text = some o) (hfault : o.fault? = none) :
    Override.ofDirectory fs dir = .ok (some o) := by
  have hfile : fs.isFile (dir.child "lit.toml") = true := by
    simp only [FileSystem.isFile, htoml]
    rfl
  have hfind : Override.find fs dir = .ok (some (dir.child "lit.toml")) := by
    unfold Override.find Override.fileNames
    rw [List.map_cons, List.map_singleton, List.filter_cons_of_neg (by rw [hyaml]; decide),
      List.filter_cons_of_pos hfile]
    rfl
  have hload : Override.load fs (dir.child "lit.toml") = .ok o := by
    have hext : ((dir.child "lit.toml").extension).getD "" = "toml" := by
      rw [Path.extension_child (by decide)]
      decide
    simp only [Override.load, FileSystem.readText, FileSystem.read, htoml, bind, Except.bind, pure,
      Except.pure, hbytes, hext]
    rw [Override.ofText, if_neg hblank, if_neg (by decide), if_pos rfl, htext]
  exact ofDirectory_eq_ok hfind hload hfault

theorem ofDirectory_of_toml {fs : FileSystem} {dir : Path} {id : Nat} {executable : Bool}
    (hyaml : fs.isFile (dir.child "lit.yaml") = false)
    (htoml : fs.node true (dir.child "lit.toml") = .ok (.file id executable))
    (hbytes : Text.decode? (fs.bytesOf id) = some "suffixes=[\"t\"]") :
    Override.ofDirectory fs dir = .ok (some sampleSettings) :=
  ofDirectory_of_tomlText hyaml htoml hbytes (by decide) (by decide +kernel) (by decide +kernel)

def sample : FileSystem where
  root := .directory [("l", .link "s"), ("s", .directory sampleEntries)]
  contents := #[[], Text.encode "suffixes=[\"t\"]"]
  home := ⟨"/"⟩

theorem sample_wellFormed : sample.root.WellFormed := by decide

theorem sample_settings : Override.ofDirectory sample ⟨"/s"⟩ = .ok (some sampleSettings) := by
  have htoml : sample.IsPlain ⟨"/s/lit.toml"⟩ ["s", "lit.toml"] := by decide
  have hyaml : sample.IsPlain ⟨"/s/lit.yaml"⟩ ["s", "lit.yaml"] := by decide
  exact ofDirectory_of_toml (hyaml.isFile.trans rfl) (htoml.node true) (by decide +kernel)

def sampleScope (dir : Path) : Scope :=
  ⟨(Config.initial dir).under dir (some sampleSettings), dir⟩

theorem ofRoot_of_settings {dir : Path}
    (h : Override.ofDirectory fs dir = .ok (some sampleSettings)) :
    Config.ofRoot fs dir = .ok (sampleScope dir).config := by
  simp only [Config.ofRoot, Config.resolve, h]
  rfl

theorem walk_sampleEntries (dir : Path)
    (hlist : fs.list (dir.child "sub") = .ok [("b.t", .file 0 false)])
    (hnone : Override.ofDirectory fs (dir.child "sub") = .ok none) :
    walk fs dir (sampleScope dir) sampleEntries =
      [.test (.ofFile (dir.child "a.t") (sampleScope dir).config dir),
        .test (.ofFile ((dir.child "sub").child "b.t") (sampleScope dir).config dir)] := by
  -- the names of tests do not depend on where the suite is
  have hnames : ∀ name ∈ ["a.t", "b.t", "lit.toml", "sub"],
      leavesOut (sampleScope dir).config name = false ∧
        namesTest (sampleScope dir).config name = (name == "a.t" || name == "b.t") :=
    show ∀ name ∈ ["a.t", "b.t", "lit.toml", "sub"],
      leavesOut (sampleScope ⟨"/s"⟩).config name = false ∧
        namesTest (sampleScope ⟨"/s"⟩).config name = (name == "a.t" || name == "b.t") by
    decide +kernel
  simp only [List.forall_mem_cons, List.not_mem_nil] at hnames
  obtain ⟨ha, hb, htoml, hsub, -⟩ := hnames
  have hresolve : Config.resolve fs (dir.child "sub") (sampleScope dir).config =
      .ok (sampleScope dir).config := by
    rw [Config.resolve, hnone]
    rfl
  have hinner : (sampleScope dir).inner (dir.child "sub") (sampleScope dir).config =
      sampleScope dir := if_pos rfl
  simp only [sampleEntries, walk, walkEntry, walkInto, walkOpen, ha, hb, htoml, hsub, hresolve,
    hinner, hlist]
  rfl

theorem sample_sub : sample.list ⟨"/s/sub"⟩ = .ok [("b.t", .file 0 false)] ∧
    Override.ofDirectory sample ⟨"/s/sub"⟩ = .ok none := by
  have hplain : sample.IsPlain ⟨"/s/sub"⟩ ["s", "sub"] := by decide
  have htoml : sample.IsPlain ⟨"/s/sub/lit.toml"⟩ ["s", "sub", "lit.toml"] := by decide
  have hyaml : sample.IsPlain ⟨"/s/sub/lit.yaml"⟩ ["s", "sub", "lit.yaml"] := by decide
  exact ⟨list_of_node (hplain.node true),
    ofDirectory_of_none (hyaml.isFile.trans rfl) (htoml.isFile.trans rfl)⟩

theorem start_all_eq_walk_sample : ∃ search, start sample ⟨"/s"⟩ = .ok search ∧
    search.all sample =
      [.test (.ofFile ⟨"/s/a.t"⟩ (sampleScope ⟨"/s"⟩).config ⟨"/s"⟩),
        .test (.ofFile ⟨"/s/sub/b.t"⟩ (sampleScope ⟨"/s"⟩).config ⟨"/s"⟩)] := by
  have hplain : sample.IsPlain ⟨"/s"⟩ ["s"] := by decide
  obtain ⟨search, hstart, hwalk, -, -⟩ := start_all_eq_walk sample_wellFormed (hplain.node false)
    (ofRoot_of_settings sample_settings)
  refine ⟨search, hstart, ?_⟩
  rw [hwalk]
  exact walk_sampleEntries ⟨"/s"⟩ sample_sub.1 sample_sub.2

private theorem sample_node_behind_link {p : Path} {names : List String}
    (h : sample.Spells p ("l" :: names))
    (hplain : FileSystem.plain sample.root ("s" :: names) = true) :
    sample.node true p =
      match sample.root.descend? ("s" :: names) with
      | some n => .ok n
      | none => .error .noEntry := by
  have hname : Path.IsName "l" := by decide
  have hlink : sample.root.child? "l" = some (.link "s") := rfl
  have hsteps : FileSystem.steps "s" = ["s"] := by decide
  have hnode := h.node_behind_link hname (by decide) hlink (by decide) (by decide)
  rw [hsteps] at hnode
  exact hnode hplain

/-- From the link to the sample, no test is found, although the walk over the directory lists
two. -/
theorem start_all_ne_walk_link : ∃ search,
    sample.node true ⟨"/l"⟩ = .ok (.directory sampleEntries) ∧
      Config.ofRoot sample ⟨"/l"⟩ = .ok (sampleScope ⟨"/l"⟩).config ∧
      start sample ⟨"/l"⟩ = .ok search ∧ tests (search.all sample) = [] ∧
      (tests (walk sample ⟨"/l"⟩ (sampleScope ⟨"/l"⟩) sampleEntries)).map (·.path) =
        [⟨"/l/a.t"⟩, ⟨"/l/sub/b.t"⟩] := by
  have hspells : sample.Spells ⟨"/l"⟩ ["l"] := by decide
  have hlink : sample.node false ⟨"/l"⟩ = .ok (.link "s") :=
    hspells.node_link (by decide) (by decide) rfl
  have hnode : sample.node true ⟨"/l"⟩ = .ok (.directory sampleEntries) :=
    sample_node_behind_link hspells (by decide)
  have hfile : sample.Spells ⟨"/l/lit.toml"⟩ ["l", "lit.toml"] := by decide
  have htoml : sample.node true ⟨"/l/lit.toml"⟩ = .ok (.file 1 false) :=
    sample_node_behind_link hfile (by decide)
  have hdir : sample.Spells ⟨"/l/sub"⟩ ["l", "sub"] := by decide
  have hsub : sample.node true ⟨"/l/sub"⟩ = .ok (.directory [("b.t", .file 0 false)]) :=
    sample_node_behind_link hdir (by decide)
  have hmissing (file : String) (names : List String) (h : sample.Spells ⟨file⟩ ("l" :: names))
      (hplain : FileSystem.plain sample.root ("s" :: names) = true)
      (hnone : sample.root.descend? ("s" :: names) = none) : sample.isFile ⟨file⟩ = false := by
    unfold FileSystem.isFile
    rw [sample_node_behind_link h hplain, hnone]
  have hsettings : Override.ofDirectory sample ⟨"/l"⟩ = .ok (some sampleSettings) :=
    ofDirectory_of_toml (hmissing "/l/lit.yaml" ["lit.yaml"] (by decide) (by decide) rfl) htoml
      (by decide +kernel)
  have hnone : Override.ofDirectory sample ⟨"/l/sub"⟩ = .ok none :=
    ofDirectory_of_none
      (hmissing "/l/sub/lit.yaml" ["sub", "lit.yaml"] (by decide) (by decide) rfl)
      (hmissing "/l/sub/lit.toml" ["sub", "lit.toml"] (by decide) (by decide) rfl)
  have hconfig := ofRoot_of_settings hsettings
  obtain ⟨search, hstart, htests, -⟩ := start_all_of_link hlink hnode hconfig
  refine ⟨search, hnode, hconfig, hstart, ?_, ?_⟩
  · rw [htests, if_neg (by decide +kernel)]
  · rw [walk_sampleEntries ⟨"/l"⟩ (list_of_node hsub) hnone]
    rfl

end ShellSuite.Discovery
