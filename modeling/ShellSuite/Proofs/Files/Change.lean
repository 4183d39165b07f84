import ShellSuite.Files.Change
import ShellSuite.Proofs.Files.Lookup

set_option autoImplicit false
set_option relaxedAutoImplicit false

/-!
Changes keep file trees well-formed. All names on the way to a place are names that entries can
have, so nothing is ever put under another one.
-/

namespace ShellSuite

/-- A place in a tree: its node is the one at the end of its names, and entries can have each of
them. -/
structure Place.In (p : Place) (root : Node) : Prop where
  node : p.node = root.descend? p.names
  names : ∀ x ∈ p.names, Path.IsName x

private theorem Place.In.isDirectory_root {root : Node} {place : Place} (h : place.In root)
    (hnode : ∀ es, place.node ≠ some (.directory es)) (hnil : place.names = []) :
    root.isDirectory = false := by
  have hroot : place.node = some root := by
    rw [h.node, hnil]
    rfl
  cases root with
  | directory es => exact absurd hroot (hnode es)
  | file | link | null | tool => rfl

namespace FileSystem

private theorem isName_of_step {step : String} (h : step ≠ "" ∧ '/' ∉ step.toList)
    (hhere : step ≠ ".")
    (hup : step ≠ "..") : Path.IsName step :=
  ⟨h.1, hhere, hup, h.2⟩

private theorem no_slash_of_mem_steps {text step : String} (h : step ∈ steps text) :
    step ≠ "" ∧ '/' ∉ step.toList := by
  obtain ⟨hpiece, hne⟩ := List.mem_filter.mp h
  obtain ⟨piece, hmem, rfl⟩ := List.mem_map.mp hpiece
  refine ⟨by simpa using hne, ?_⟩
  intro hslash
  rw [String.toList_ofList] at hslash
  simpa using Text.cut_eq_false_of_mem hmem hslash

private theorem place_of_entryAt? {root : Node} {here : List String} {name : String}
    {node : Option Node}
    (ending : PathEnd) (slash : Bool) (h : entryAt? root here name = node)
    (hhere : ∀ x ∈ here, Path.IsName x) (hname : Path.IsName name) :
    Place.In ⟨(name :: here).reverse, node, ending, slash⟩ root := by
  constructor
  · rw [List.reverse_cons, Node.descend?_concat]
    exact h.symm
  · intro x hx
    rcases List.mem_cons.mp (List.mem_reverse.mp hx) with rfl | hx
    · exact hname
    · exact hhere x hx

private theorem place_of_walk {root : Node} {last : LastLink} {slash : Bool} {links : Nat}
    {here names : List String} {ending : PathEnd} {place : Place}
    (h : walk root last slash links here ending names = .ok place)
    (hhere : ∀ x ∈ here, Path.IsName x) (hnames : ∀ x ∈ names, x ≠ "" ∧ '/' ∉ x.toList) :
    place.In root := by
  fun_induction walk root last slash links here ending names with
  | case1 slash links here ending =>
    cases h
    exact ⟨rfl, fun x hx => hhere x (List.mem_reverse.mp hx)⟩
  | case2 slash links here ending rest ih =>
    exact ih h hhere (List.forall_mem_cons.mp hnames).2
  | case3 slash links here ending rest _ ih =>
    exact ih h (fun x hx => hhere x (List.mem_of_mem_tail hx)) (List.forall_mem_cons.mp hnames).2
  | case8 slash links here ending name rest hne hup _ _ es _ ih =>
    obtain ⟨hstep, hrest⟩ := List.forall_mem_cons.mp hnames
    exact ih h (List.forall_mem_cons.mpr ⟨isName_of_step hstep hne hup, hhere⟩) hrest
  | case12 slash here ending name rest _ _ _ _ target _ _ _ links start _ ih =>
    refine ih h ?_ ?_
    · intro x hx
      unfold start at hx
      split at hx
      · cases hx
      · exact hhere x hx
    · intro x hx
      rcases List.mem_append.mp hx with hx | hx
      · exact no_slash_of_mem_steps hx
      · exact hnames x (List.mem_cons_of_mem _ hx)
  -- walks that end at nothing, at a link or at a file
  | case6 slash links here ending name rest hne hup _ _ hfound
  | case9 slash links here ending name rest hne hup _ _ _ hfound
  | case14 slash links here ending name rest hne hup _ _ _ _ _ hfound =>
    cases h
    have hname := isName_of_step (hnames name (List.mem_cons_self ..)) hne hup
    exact place_of_entryAt? .name slash hfound hhere hname
  -- walks that fail
  | case4 | case5 | case7 | case10 | case11 | case13 => cases h

variable {fs fs' : FileSystem} {p : Path} {place : Place} {n : Node}

private theorem place_of_lookUp {last : LastLink} (h : fs.lookUp last p = .ok place) :
    place.In fs.root :=
  place_of_walk ((lookUp_eq_walk h last).2.symm.trans h) (by simp)
    fun _ hx => no_slash_of_mem_steps hx

private theorem place_of_locate {follow : Bool} (h : fs.locate follow p = .ok (place, n)) :
    place.In fs.root ∧ fs.root.descend? place.names = some n := by
  obtain ⟨place', hresolve, hfound⟩ := bind_eq_ok h
  have hplace := place_of_lookUp hresolve
  cases hnode : place'.node with
  | none =>
    rw [hnode] at hfound
    cases hfound
  | some m =>
    rw [hnode] at hfound
    cases hfound
    exact ⟨hplace, hplace.node.symm.trans hnode⟩

private theorem wellFormed_put_split (htree : fs.root.WellFormed) (hn : n.WellFormed)
    (hnames : ∀ x ∈ place.names, Path.IsName x)
    (hroot : place.names = [] → fs.root.isDirectory = false) :
    (fs.put place.split.1 place.split.2 n).root.WellFormed := by
  -- only the root of a tree has no name to be put under, and nothing can be put into a root that
  -- is no directory
  unfold Place.split
  rcases List.eq_nil_or_concat place.names with hnil | ⟨dir, name, hnames'⟩
  · have hsame : (fs.put [] "" n).root = fs.root := by
      have hfile := hroot hnil
      unfold put
      cases hnode : fs.root with
      | directory es => simp [hnode, Node.isDirectory] at hfile
      | file | link | null | tool => rfl
    rw [hnil]
    exact hsame ▸ htree
  · rw [List.concat_eq_append] at hnames'
    rw [hnames', List.dropLast_concat, List.getLast?_concat, Option.getD_some]
    exact wellFormed_put htree dir (hnames name (by simp [hnames'])) hn

/-! What makes and fills files and directories -/

theorem wellFormed_createDir (htree : fs.root.WellFormed) (h : fs.createDir p = .ok fs') :
    fs'.root.WellFormed := by
  obtain ⟨place, hresolve, hput⟩ := bind_eq_ok h
  have hplace := place_of_lookUp hresolve
  split at hput
  case h_1 hnode _ =>
    cases hput
    refine wellFormed_put_split htree (.directory .nil (by simp) (by simp)) hplace.names ?_
    exact hplace.isDirectory_root (by simp [hnode])
  case h_2 => cases hput

private theorem createDirsWithin_keeps {P : FileSystem → Prop}
    (hmake : ∀ {fs fs' : FileSystem} {p : Path}, P fs → fs.createDir p = .ok fs' → P fs')
    (hfs : P fs) (n : Nat) (p : Path) : P (createDirsWithin n fs p).1 := by
  induction n generalizing fs p with
  | zero => exact hfs
  | succ n ih =>
    unfold createDirsWithin
    split
    · exact hfs
    · split
      case h_1 fs' hmade => exact hmake hfs hmade
      case h_2 =>
        split
        · exact hfs
        case h_2 parent _ =>
          have hparent := ih hfs parent
          split
          case h_1 fs' e hfailed => exact hfailed ▸ hparent
          case h_2 fs' hmade =>
            rw [hmade] at hparent
            split
            case h_1 fs'' hmade' => exact hmake hparent hmade'
            case h_2 => exact hparent
      case h_3 => exact hfs

theorem wellFormed_createDirs (htree : fs.root.WellFormed) (p : Path) :
    (fs.createDirs p).1.root.WellFormed :=
  createDirsWithin_keeps wellFormed_createDir htree _ p

private theorem home_createDir (h : fs.createDir p = .ok fs') : fs'.home = fs.home := by
  obtain ⟨place, -, hput⟩ := bind_eq_ok h
  split at hput
  · cases hput
    rfl
  · cases hput

theorem home_createDirs (fs : FileSystem) (p : Path) : (fs.createDirs p).1.home = fs.home :=
  createDirsWithin_keeps (P := fun made => made.home = fs.home)
    (fun hhome hmade => (home_createDir hmade).trans hhome) rfl _ p

theorem IsPlain.createDir {names : List String} (h : fs.IsPlain p names) (hbare : bare p = p)
    (hnone : fs.root.descend? names = none) :
    fs.createDir p = .ok (fs.put names.dropLast (names.getLast?.getD "") (.directory [])) := by
  have hnames : names.isEmpty = false := by
    cases names with
    | nil => cases hnone
    | cons name names => rfl
  simp only [FileSystem.createDir, hbare, h.resolve, bind, Except.bind, hnone, hnames]
  rfl

theorem IsPlain.createDirs {names : List String} {es : List (String × Node)}
    (h : fs.IsPlain p names) (hbare : bare p = p)
    (hdir : fs.root.descend? names = some (.directory es)) : fs.createDirs p = (fs, none) := by
  have hmade : fs.createDir p = .error .fileExists := by
    simp only [FileSystem.createDir, hbare, h.resolve, bind, Except.bind, hdir]
    rfl
  have hthere : fs.isDirectory p = true := by
    unfold isDirectory
    rw [h.node, hdir]
    rfl
  unfold FileSystem.createDirs createDirsWithin
  rw [hmade, hthere]
  split <;> rfl

theorem IsPlain.openWrite_new {names : List String} (h : fs.IsPlain p names)
    (hnone : fs.root.descend? names = none) (truncate : Bool) :
    fs.openWrite truncate p =
      let (made, id) := fs.putFile names.dropLast (names.getLast?.getD "") [] false
      .ok (made, .file id) := by
  simp only [FileSystem.openWrite, h.lookUp, bind, Except.bind, hnone]
  rfl

theorem IsPlain.openWrite_file {names : List String} {id : Nat} {executable : Bool}
    (h : fs.IsPlain p names) (hfile : fs.root.descend? names = some (.file id executable))
    (truncate : Bool) :
    fs.openWrite truncate p = .ok (if truncate then fs.setBytes id [] else fs, .file id) := by
  simp only [FileSystem.openWrite, h.lookUp, bind, Except.bind, hfile]
  rfl

theorem wellFormed_openWrite {truncate : Bool} {sink : Sink} (htree : fs.root.WellFormed)
    (h : fs.openWrite truncate p = .ok (fs', sink)) : fs'.root.WellFormed := by
  obtain ⟨place, hlook, hopened⟩ := bind_eq_ok h
  have hplace := place_of_lookUp hlook
  split at hopened
  case h_1 hnode =>
    cases hopened
    refine wellFormed_put_split ?_ (.file _ _) hplace.names ?_
    · exact htree
    · exact hplace.isDirectory_root (by simp [hnode])
  case h_2 =>
    cases hopened
    split <;> exact htree
  case h_3 =>
    cases hopened
    exact htree
  case h_4 | h_5 => cases hopened

private theorem wellFormed_setExecutable {executable : Bool} (htree : fs.root.WellFormed)
    (h : fs.setExecutable p executable = .ok fs') : fs'.root.WellFormed := by
  obtain ⟨⟨place, n⟩, hlocate, hset⟩ := bind_eq_ok h
  obtain ⟨hplace, hnode⟩ := place_of_locate hlocate
  rw [← hplace.node] at hnode
  simp only at hset
  split at hset
  case h_1 =>
    cases hset
    refine wellFormed_put_split htree (.file _ _) hplace.names ?_
    exact hplace.isDirectory_root (by simp [hnode])
  case h_2 =>
    cases hset
    exact htree

theorem wellFormed_copy {source target : Path} (htree : fs.root.WellFormed)
    (h : fs.copy source target = .ok fs') : fs'.root.WellFormed := by
  obtain ⟨n, -, hcopy⟩ := bind_eq_ok h
  split at hcopy
  case h_1 =>
    obtain ⟨⟨opened, sink⟩, hopen, hfill⟩ := bind_eq_ok hcopy
    have hopened := wellFormed_openWrite htree hopen
    cases sink with
    | file new =>
      simp only at hfill
      refine wellFormed_setExecutable ?_ hfill
      exact hopened
    | null =>
      cases hfill
      exact hopened
  case h_2 => cases hcopy

/-! What removes and moves them -/

theorem wellFormed_removeFile (htree : fs.root.WellFormed) (h : fs.removeFile p = .ok fs') :
    fs'.root.WellFormed := by
  obtain ⟨⟨place, n⟩, -, hdrop⟩ := bind_eq_ok h
  simp only at hdrop
  split at hdrop
  · cases hdrop
  · cases hdrop
    exact wellFormed_drop htree _ _

private theorem wellFormed_removeDir (htree : fs.root.WellFormed) (h : fs.removeDir p = .ok fs') :
    fs'.root.WellFormed := by
  obtain ⟨⟨place, n⟩, -, hdrop⟩ := bind_eq_ok h
  simp only at hdrop
  split at hdrop
  case h_4 =>
    split at hdrop
    · cases hdrop
    · split at hdrop
      · cases hdrop
      · cases hdrop
        exact wellFormed_drop htree _ _
  case h_1 | h_2 | h_3 => cases hdrop

theorem wellFormed_attempt {change : FileSystem → Except OsError FileSystem}
    (htree : fs.root.WellFormed) (h : ∀ fs', change fs = .ok fs' → fs'.root.WellFormed) :
    (fs.attempt change).1.root.WellFormed := by
  unfold attempt
  split
  case h_1 fs' hchange => exact h fs' hchange
  case h_2 => exact htree

theorem wellFormed_removeAll (htree : fs.root.WellFormed) (p : Path) :
    (fs.removeAll p).1.root.WellFormed := by
  unfold removeAll
  split
  · exact htree
  case h_2 place n _ =>
    split
    · have hemptied : (fs.root.alter (fun _ => []) place.names).WellFormed :=
        htree.alter (fun _ _ => .directory .nil (by simp) (by simp)) place.names
      simp only
      split
      case h_1 fs' hremoved => exact wellFormed_removeDir hemptied hremoved
      case h_2 => exact hemptied
    · split
      · exact wellFormed_attempt htree fun _ h => wellFormed_removeFile htree h
      · exact htree

theorem wellFormed_rename {source target : Path} (htree : fs.root.WellFormed)
    (h : fs.rename source target = .ok fs') : fs'.root.WellFormed := by
  -- nothing goes to a directory around it, so nothing goes to the root
  obtain ⟨old, hold, h⟩ := bind_eq_ok h
  obtain ⟨new, hnew, h⟩ := bind_eq_ok h
  obtain ⟨-, h⟩ := guard_eq_ok h
  cases hnode : old.node with
  | none =>
    rw [hnode] at h
    cases h
  | some n =>
    rw [hnode] at h
    obtain ⟨-, h⟩ := guard_eq_ok h
    obtain ⟨-, h⟩ := guard_eq_ok h
    obtain ⟨haround, h⟩ := guard_eq_ok h
    by_cases hsame : old.names = new.names
    · rw [if_pos hsame] at h
      cases h
      exact htree
    rw [if_neg hsame] at h
    have hn : n.WellFormed := htree.descend? ((place_of_lookUp hold).node.symm.trans hnode)
    have hmoved :
        ((fs.drop old.split.1 old.split.2).put new.split.1 new.split.2 n).root.WellFormed := by
      refine wellFormed_put_split (wellFormed_drop htree _ _) hn (place_of_lookUp hnew).names ?_
      intro hnil
      have hold : old.names = [] := by simpa [hnil] using haround
      exact absurd (hold.trans hnil.symm) hsame
    cases hgoal : new.node with
    | none =>
      rw [hgoal] at h
      cases h
      exact hmoved
    | some m =>
      simp only [hgoal] at h
      by_cases hfile : sameFile n m = true
      · rw [if_pos hfile] at h
        cases h
        exact htree
      · rw [if_neg hfile] at h
        obtain ⟨-, h⟩ := guard_eq_ok h
        obtain ⟨-, h⟩ := guard_eq_ok h
        obtain ⟨-, h⟩ := guard_eq_ok h
        cases h
        exact hmoved

end FileSystem

end ShellSuite
