import ShellSuite.Files.Lookup
import ShellSuite.Proofs.Except
import ShellSuite.Proofs.Files.Tree

set_option autoImplicit false
set_option relaxedAutoImplicit false

/-!
Where the path of an entry leads. A path that leads to a directory, with the name of an entry behind
it, leads to that entry, whatever links were followed on the way. Without links, a path leads where
its names do.
-/

namespace ShellSuite

namespace FileSystem

/-- The names lead from one directory to another, through directories and at most so many links. -/
inductive Leads (root : Node) : Nat → List String → List String → List String → Prop
  | done {links : Nat} {here : List String} : Leads root links here [] here
  | stay {links : Nat} {here rest goal : List String} (next : Leads root links here rest goal) :
      Leads root links here ("." :: rest) goal
  | up {links : Nat} {here rest goal : List String} (next : Leads root links here.tail rest goal) :
      Leads root links here (".." :: rest) goal
  | down {links : Nat} {here rest goal : List String} {name : String} {es : List (String × Node)}
      (notHere : name ≠ ".") (notUp : name ≠ "..") (short : ¬ maxName < name.utf8ByteSize)
      (found : entryAt? root here name = some (.directory es))
      (next : Leads root links (name :: here) rest goal) : Leads root links here (name :: rest) goal
  | link {links : Nat} {here rest goal : List String} {name target : String}
      (notHere : name ≠ ".") (notUp : name ≠ "..") (short : ¬ maxName < name.utf8ByteSize)
      (found : entryAt? root here name = some (.link target))
      (nonempty : target ≠ "")
      (next : Leads root links (if target.toList.head? = some '/' then [] else here)
        (steps target ++ rest) goal) : Leads root (links + 1) here (name :: rest) goal

variable {root : Node} {slash : Bool} {links : Nat} {here names goal : List String}
  {ending : PathEnd} {place : Place} {es : List (String × Node)}

private theorem leads_of_walk {last : LastLink}
    (h : walk root last slash links here ending names = .ok place)
    (hnode : place.node = some (.directory es)) :
    Leads root links here names place.names.reverse ∧
      root.descend? place.names = some (.directory es) := by
  fun_induction walk root last slash links here ending names with
  | case1 slash links here ending =>
    cases h
    rw [List.reverse_reverse]
    exact ⟨.done, hnode⟩
  | case2 slash links here ending rest ih =>
    exact ⟨.stay (ih h).1, (ih h).2⟩
  | case3 slash links here ending rest _ ih =>
    exact ⟨.up (ih h).1, (ih h).2⟩
  | case8 slash links here ending name rest hhere hup _ hshort es found ih =>
    exact ⟨.down hhere hup hshort found (ih h).1, (ih h).2⟩
  | case12 slash here ending name rest hhere hup _ hshort target found _ hne links start _ ih =>
    exact ⟨.link hhere hup hshort found hne (ih h).1, (ih h).2⟩
  -- walks that end at nothing, at a link or at a file
  | case6 | case9 =>
    cases h
    simp at hnode
  | case14 slash links here ending name rest _ _ _ _ n hdir =>
    cases h
    exact absurd (Option.some.inj hnode) (hdir es)
  -- walks that fail
  | case4 | case5 | case7 | case10 | case11 | case13 => cases h

private theorem Leads.walk_append (h : Leads root links here names goal) (slash : Bool)
    (ending : PathEnd)
    (more : List String) :
    ∃ slash' links' ending', walk root .follow slash links here ending (names ++ more) =
      walk root .follow slash' links' goal ending' more := by
  induction h generalizing slash ending with
  | done => exact ⟨slash, _, ending, rfl⟩
  | stay _ ih =>
    obtain ⟨slash', links', ending', heq⟩ := ih slash .here
    refine ⟨slash', links', ending', ?_⟩
    rw [← heq, List.cons_append, walk]
    simp
  | up _ ih =>
    obtain ⟨slash', links', ending', heq⟩ := ih slash .up
    refine ⟨slash', links', ending', ?_⟩
    rw [← heq, List.cons_append, walk]
    simp
  | down notHere notUp short found _ ih =>
    obtain ⟨slash', links', ending', heq⟩ := ih slash .name
    refine ⟨slash', links', ending', ?_⟩
    rw [← heq, List.cons_append, walk]
    simp [notHere, notUp, short, found]
  | @link links here rest goal name target notHere notUp short found nonempty _ ih =>
    -- a slash at the end of the target counts if nothing stands behind the link
    obtain ⟨slash', links', ending', heq⟩ :=
      ih (slash || ((rest ++ more).isEmpty && target.toList.getLast? = some '/')) .root
    refine ⟨slash', links', ending', ?_⟩
    rw [← heq, List.cons_append, walk]
    simp [notHere, notUp, short, found, nonempty]

private theorem steps_child (dir : Path) {name : String} (h : Path.IsName name) :
    steps (dir.child name).text = steps dir.text ++ [name] := by
  -- a slash at the end adds an empty piece, which is no step
  have hlead : steps dir.text =
      ((Text.splitAt (· == '/') dir.lead).map String.ofList).filter (· ≠ "") := by
    unfold Path.lead
    split
    · rfl
    · rw [Text.splitAt_append_cons _ _ _ rfl]
      simp [steps, Text.split, Text.splitAt]
  rw [hlead]
  unfold steps Text.split
  rw [Path.child_toList dir h]
  rcases dir.lead_cases with hcase | ⟨front, hcase⟩
  · rw [hcase, List.nil_append, Path.splitAt_name h]
    simp [Text.splitAt, h.ne_empty]
  · rw [hcase, List.append_assoc, List.singleton_append, Text.splitAt_append_cons _ _ _ rfl,
      Text.splitAt_append_cons _ _ _ rfl, Path.splitAt_name h]
    simp [Text.splitAt, h.ne_empty]

private theorem absolute_child (fs : FileSystem) {dir : Path} {name : String} (hdir : dir.text ≠ "")
    (h : Path.IsName name) : fs.absolute (dir.child name) = (fs.absolute dir).child name := by
  unfold absolute
  rw [Path.isAbsolute_child hdir h]
  split
  · rfl
  case isFalse hrel =>
    rw [Bool.not_eq_true] at hrel
    have htext := Path.join_toList fs.home hrel
    apply Path.eq_of_toList
    calc (fs.home.join (dir.child name)).text.toList
        = fs.home.lead ++ (dir.child name).text.toList :=
          Path.join_toList fs.home ((Path.isAbsolute_child hdir h).trans hrel)
      _ = fs.home.lead ++ dir.lead ++ name.toList := by
          rw [Path.child_toList dir h, List.append_assoc]
      _ = (fs.home.join dir).lead ++ name.toList := by rw [Path.lead_append htext hdir]
      _ = ((fs.home.join dir).child name).text.toList := (Path.child_toList _ h).symm

variable {fs : FileSystem} {p dir : Path} {name : String} {n : Node}

theorem lookUp_eq_walk {last : LastLink} (h : fs.lookUp last p = .ok place) (last' : LastLink) :
    p.text ≠ "" ∧ fs.lookUp last' p =
      walk fs.root last' ((fs.absolute p).text.toList.getLast? = some '/') maxLinks [] .root
        (steps (fs.absolute p).text) := by
  unfold lookUp at h ⊢
  split at h
  case isTrue => cases h
  case isFalse hnul =>
    split at h
    case isTrue => cases h
    case isFalse hempty =>
      split at h
      case isTrue => cases h
      case isFalse hlong =>
        rw [if_neg hnul, if_neg hempty, if_neg hlong]
        exact ⟨hempty, rfl⟩

private theorem node_eq_ok_iff {follow : Bool} :
    fs.node follow p = .ok n ↔ ∃ place, fs.resolve follow p = .ok place ∧ place.node = some n := by
  constructor
  · intro h
    obtain ⟨⟨place, m⟩, hlocate, rfl⟩ := map_eq_ok h
    obtain ⟨place', hresolve, hfound⟩ := bind_eq_ok hlocate
    cases hnode : place'.node with
    | none =>
      rw [hnode] at hfound
      cases hfound
    | some found =>
      rw [hnode] at hfound
      cases hfound
      exact ⟨place, hresolve, hnode⟩
  · rintro ⟨place, hresolve, hnode⟩
    unfold node locate
    rw [hresolve]
    simp only [bind, Except.bind, hnode]
    rfl

theorem leads_of_node {follow : Bool} (h : fs.node follow p = .ok (.directory es)) :
    ∃ goal, Leads fs.root maxLinks [] (steps (fs.absolute p).text) goal ∧
      fs.root.descend? goal.reverse = some (.directory es) := by
  obtain ⟨place, hresolve, hnode⟩ := node_eq_ok_iff.mp h
  have hwalk := (lookUp_eq_walk hresolve _).2.symm.trans hresolve
  obtain ⟨hleads, hdescend⟩ := leads_of_walk hwalk hnode
  exact ⟨place.names.reverse, hleads, by rwa [List.reverse_reverse]⟩

theorem wellFormed_of_node {follow : Bool} (htree : fs.root.WellFormed)
    (h : fs.node follow p = .ok (.directory es)) : (Node.directory es).WellFormed := by
  obtain ⟨goal, -, hdescend⟩ := leads_of_node h
  exact htree.descend? hdescend

theorem node_follow (h : fs.node false p = .ok (.directory es)) :
    fs.node true p = .ok (.directory es) := by
  obtain ⟨place, hresolve, hnode⟩ := node_eq_ok_iff.mp h
  obtain ⟨goal, hleads, hdescend⟩ := leads_of_node h
  obtain ⟨slash, links, ending, hwalk⟩ := hleads.walk_append
    ((fs.absolute p).text.toList.getLast? = some '/') .root []
  rw [List.append_nil, walk] at hwalk
  exact node_eq_ok_iff.mpr ⟨_, (lookUp_eq_walk hresolve .follow).2.trans hwalk, hdescend⟩

/-- The path of a directory with the name of a directory in it leads there, if it leads anywhere. -/
theorem node_child {sub : List (String × Node)} (hdir : fs.node true dir = .ok (.directory es))
    (hname : Path.IsName name) (hchild : (Node.directory es).child? name = some (.directory sub))
    (h : fs.node true (dir.child name) = .ok n) : n = .directory sub := by
  obtain ⟨dirPlace, hdirResolve, -⟩ := node_eq_ok_iff.mp hdir
  have hdirText := (lookUp_eq_walk hdirResolve .follow).1
  obtain ⟨goal, hleads, hdescend⟩ := leads_of_node hdir
  obtain ⟨place, hresolve, hnode⟩ := node_eq_ok_iff.mp h
  have hwalk := (lookUp_eq_walk hresolve .follow).2.symm.trans hresolve
  rw [absolute_child fs hdirText hname, steps_child _ hname] at hwalk
  -- the walk goes the way of the directory's own path, and one step further
  obtain ⟨slash, links, ending, heq⟩ := hleads.walk_append
    (((fs.absolute dir).child name).text.toList.getLast? = some '/') .root [name]
  have hentry : entryAt? fs.root goal name = some (.directory sub) := by
    unfold entryAt?
    rw [hdescend]
    exact hchild
  have hfound : fs.root.descend? (name :: goal).reverse = some (.directory sub) := by
    rw [List.reverse_cons, Node.descend?_concat]
    exact hentry
  rw [heq, walk] at hwalk
  simp only [hname.ne_here, hname.ne_up, hentry, if_false, reduceCtorEq, decide_false, Bool.and_false,
    Bool.false_eq_true] at hwalk
  split at hwalk
  · cases hwalk
  · rw [walk] at hwalk
    cases hwalk
    exact Option.some.inj (hnode.symm.trans hfound)

/-- Names that lead from a node through directories, and to no link. -/
def plain : Node → List String → Bool
  | _, [] => true
  | n, name :: rest =>
    name ≠ "." && name ≠ ".." && name.utf8ByteSize ≤ maxName &&
      match n.child? name with
      | some (.directory es) => plain (.directory es) rest
      | some (.link _) => false
      | _ => rest.isEmpty

private theorem walk_of_plain {n : Node} (last : LastLink) (links : Nat)
    (ending : PathEnd) (hn : root.descend? here.reverse = some n) (h : plain n names = true) :
    walk root last false links here ending names =
      .ok ⟨here.reverse ++ names, root.descend? (here.reverse ++ names),
        if names.isEmpty then ending else .name, false⟩ := by
  induction names generalizing here n ending with
  | nil =>
    rw [walk, List.append_nil]
    rfl
  | cons name rest ih =>
    have hentry : entryAt? root here name = n.child? name := by
      unfold entryAt?
      rw [hn, Option.bind_some]
    have hfound : root.descend? (name :: here).reverse = n.child? name := by
      rw [List.reverse_cons, Node.descend?_concat, hn, Option.bind_some]
    simp only [plain, Bool.and_eq_true, decide_eq_true_eq] at h
    obtain ⟨⟨⟨hhere, hup⟩, hshort⟩, hnext⟩ := h
    rw [walk, if_neg hhere, if_neg hup, Bool.and_false, Bool.false_and,
      if_neg Bool.false_ne_true, if_neg (Nat.not_lt.mpr hshort), hentry]
    cases hchild : n.child? name with
    | none =>
      rw [hchild] at hnext hfound
      rw [List.isEmpty_iff.mp hnext, ← List.reverse_cons, hfound]
      rfl
    | some c =>
      rw [hchild] at hnext hfound
      cases c with
      | directory es =>
        have hwalk := ih .name hfound hnext
        rw [List.reverse_cons, List.append_assoc, List.singleton_append, ite_self] at hwalk
        exact hwalk
      | link target => cases hnext
      | file | null | tool =>
        simp only at hnext
        rw [List.isEmpty_iff.mp hnext, ← List.reverse_cons, hfound]
        rfl

/-- A path that consists of these names and has nothing else to it. -/
def Spells (fs : FileSystem) (p : Path) (names : List String) : Prop :=
  p.text.toList.contains (Char.ofNat 0) = false ∧ p.text ≠ "" ∧ p.text.utf8ByteSize < maxPath ∧
    steps (fs.absolute p).text = names ∧ (fs.absolute p).text.toList.getLast? ≠ some '/'

/-- A path that can be looked up by its names alone. -/
def IsPlain (fs : FileSystem) (p : Path) (names : List String) : Prop :=
  fs.Spells p names ∧ plain fs.root names = true

instance (names : List String) : Decidable (fs.Spells p names) :=
  inferInstanceAs (Decidable (_ ∧ _))

instance (names : List String) : Decidable (fs.IsPlain p names) :=
  inferInstanceAs (Decidable (_ ∧ _))

theorem Spells.lookUp (h : fs.Spells p names) (last : LastLink) :
    fs.lookUp last p = walk fs.root last false maxLinks [] .root names := by
  obtain ⟨hnul, hempty, hlong, hsteps, hslash⟩ := h
  unfold FileSystem.lookUp
  rw [hnul, if_neg Bool.false_ne_true, if_neg hempty, if_neg (Nat.not_le.mpr hlong)]
  simp only [hsteps, hslash, decide_false]

theorem IsPlain.lookUp (h : fs.IsPlain p names) (last : LastLink) :
    fs.lookUp last p =
      .ok ⟨names, fs.root.descend? names, if names.isEmpty then .root else .name, false⟩ :=
  (h.1.lookUp last).trans (walk_of_plain last maxLinks .root rfl h.2)

theorem IsPlain.resolve (h : fs.IsPlain p names) (follow : Bool) :
    fs.resolve follow p =
      .ok ⟨names, fs.root.descend? names, if names.isEmpty then .root else .name, false⟩ :=
  h.lookUp _

private theorem node_of_resolve {follow : Bool} (h : fs.resolve follow p = .ok place) :
    fs.node follow p =
      match place.node with
      | some n => .ok n
      | none => .error .noEntry := by
  simp only [FileSystem.node, locate, h, bind, Except.bind]
  cases place.node with
  | none => rfl
  | some n => rfl

theorem IsPlain.node (h : fs.IsPlain p names) (follow : Bool) :
    fs.node follow p =
      match fs.root.descend? names with
      | some n => .ok n
      | none => .error .noEntry :=
  node_of_resolve (h.resolve follow)

theorem IsPlain.isFile (h : fs.IsPlain p names) :
    fs.isFile p = (fs.root.descend? names).any Node.isFile := by
  unfold FileSystem.isFile
  rw [h.node true]
  cases fs.root.descend? names with
  | none => rfl
  | some n => rfl

theorem IsPlain.read {id : Nat} {executable : Bool} (h : fs.IsPlain p names)
    (hfile : fs.root.descend? names = some (.file id executable)) :
    fs.read p = .ok (fs.bytesOf id) := by
  simp only [FileSystem.read, h.node, hfile]
  rfl

/-! ### Through a link in the root -/

section Link

variable {name target : String} (hname : Path.IsName name) (hshort : name.utf8ByteSize ≤ maxName)
  (hlink : fs.root.child? name = some (.link target))

include hname hshort hlink

theorem Spells.node_link (h : fs.Spells p [name]) : fs.node false p = .ok (.link target) := by
  have hentry : entryAt? fs.root [] name = some (.link target) := hlink
  have hwalk : walk fs.root .keep false maxLinks [] .root [name] =
      .ok ⟨[name], some (.link target), .name, false⟩ := by
    rw [walk, if_neg hname.ne_here, if_neg hname.ne_up, if_neg (by simp),
      if_neg (Nat.not_lt.mpr hshort), hentry]
    rfl
  exact node_eq_ok_iff.mpr ⟨_, (h.lookUp .keep).trans hwalk, rfl⟩

theorem Spells.node_behind_link (h : fs.Spells p (name :: names)) (htarget : target ≠ "")
    (hslash : target.toList.getLast? ≠ some '/')
    (hplain : plain fs.root (steps target ++ names) = true) :
    fs.node true p =
      match fs.root.descend? (steps target ++ names) with
      | some n => .ok n
      | none => .error .noEntry := by
  have hentry : entryAt? fs.root [] name = some (.link target) := hlink
  have hwalk : walk fs.root .follow false maxLinks [] .root (name :: names) =
      walk fs.root .follow false 39 [] .root (steps target ++ names) := by
    rw [walk, if_neg hname.ne_here, if_neg hname.ne_up, if_neg (by simp),
      if_neg (Nat.not_lt.mpr hshort), hentry]
    simp [htarget, hslash, maxLinks]
  have hplace : fs.resolve true p = .ok _ :=
    (h.lookUp .follow).trans (hwalk.trans (walk_of_plain .follow 39 .root rfl hplain))
  exact node_of_resolve hplace

end Link

end FileSystem

end ShellSuite
