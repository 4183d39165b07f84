import ShellSuite.Path
import ShellSuite.Proofs.Text

set_option autoImplicit false
set_option relaxedAutoImplicit false

/-!
The path of an entry of a directory: what it is written as, and that the entry's name can be read
off it again.
-/

namespace ShellSuite.Path

structure IsName (name : String) : Prop where
  ne_empty : name ≠ ""
  ne_here : name ≠ "."
  ne_up : name ≠ ".."
  no_slash : '/' ∉ name.toList

instance : DecidablePred IsName := fun name =>
  decidable_of_iff (name ≠ "" ∧ name ≠ "." ∧ name ≠ ".." ∧ '/' ∉ name.toList)
    ⟨fun ⟨h₁, h₂, h₃, h₄⟩ => ⟨h₁, h₂, h₃, h₄⟩, fun ⟨h₁, h₂, h₃, h₄⟩ => ⟨h₁, h₂, h₃, h₄⟩⟩

/-- What stands in front of the name in the path of an entry of a directory. -/
def lead (dir : Path) : List Char :=
  if dir.text = "" || dir.text.toList.getLast? == some '/' then dir.text.toList
  else dir.text.toList ++ ['/']

def descend (dir : Path) (names : List String) : Path :=
  names.foldl child dir

/-- The paths of the directories below a directory on the way through names. -/
def along (dir : Path) : List String → List Path
  | [] => []
  | name :: names => dir.child name :: along (dir.child name) names

variable {dir : Path} {name : String}

private theorem IsName.not_isAbsolute (h : IsName name) : isAbsolute ⟨name⟩ = false := by
  unfold isAbsolute
  rw [beq_eq_false_iff_ne]
  intro hhead
  exact h.no_slash (List.mem_of_mem_head? (by rw [hhead]; rfl))

theorem join_toList (base : Path) {next : Path} (h : next.isAbsolute = false) :
    (base.join next).text.toList = base.lead ++ next.text.toList := by
  unfold join lead
  rw [h]
  simp only [Bool.false_eq_true, if_false]
  split
  · rw [String.toList_append]
  · rw [String.toList_append, String.toList_append]
    rfl

theorem child_toList (dir : Path) (h : IsName name) :
    (dir.child name).text.toList = dir.lead ++ name.toList :=
  join_toList dir h.not_isAbsolute

theorem eq_of_toList {p q : Path} (h : p.text.toList = q.text.toList) : p = q := by
  cases p
  cases q
  exact congrArg Path.mk (String.toList_inj.mp h)

theorem isAbsolute_child (hdir : dir.text ≠ "") (h : IsName name) :
    (dir.child name).isAbsolute = dir.isAbsolute := by
  obtain ⟨c, cs, htext⟩ : ∃ c cs, dir.text.toList = c :: cs :=
    List.exists_cons_of_ne_nil (mt String.toList_eq_nil_iff.mp hdir)
  have hlead : ∃ after, dir.lead = c :: after := by
    unfold lead
    rw [htext]
    split
    · exact ⟨cs, rfl⟩
    · exact ⟨cs ++ ['/'], rfl⟩
  obtain ⟨after, hlead⟩ := hlead
  simp only [isAbsolute, child_toList dir h, hlead, htext, List.cons_append, List.head?_cons]

theorem isAbsolute_join {base : Path} (h : base.isAbsolute = true) (next : Path) :
    (base.join next).isAbsolute = true := by
  cases hnext : next.isAbsolute with
  | true => simp [join, hnext]
  | false =>
    have htext := join_toList base hnext
    have hlead : base.lead.head? = some '/' := by
      have hhead : base.text.toList.head? = some '/' := by simpa [isAbsolute] using h
      unfold lead
      split
      · exact hhead
      · rw [List.head?_append, hhead]
        rfl
    rw [isAbsolute, htext, List.head?_append, hlead]
    rfl

theorem lead_append {p q : Path} {before : List Char}
    (htext : p.text.toList = before ++ q.text.toList) (hq : q.text ≠ "") :
    p.lead = before ++ q.lead := by
  have hnil : q.text.toList ≠ [] := mt String.toList_eq_nil_iff.mp hq
  have hp : p.text ≠ "" := by
    intro hp
    rw [hp, String.toList_empty] at htext
    exact hnil (List.append_eq_nil_iff.mp htext.symm).2
  have hlast : p.text.toList.getLast? = q.text.toList.getLast? := by
    rw [htext, List.getLast?_append, List.getLast?_eq_some_getLast hnil, Option.some_or]
  unfold lead
  rw [hlast, htext]
  simp only [hp, hq, decide_false, Bool.false_or]
  split
  · rfl
  · rw [List.append_assoc]

private theorem lead_child (h : IsName name) :
    (dir.child name).lead = (dir.child name).text.toList ++ ['/'] := by
  have hlast : name.toList.getLast? ≠ some '/' := by
    intro hlast
    exact h.no_slash (List.mem_of_getLast? hlast)
  rw [lead_append (q := ⟨name⟩) (child_toList dir h) h.ne_empty, child_toList dir h]
  simp [lead, h.ne_empty, hlast]

theorem lead_cases (dir : Path) : dir.lead = [] ∨ ∃ front, dir.lead = front ++ ['/'] := by
  unfold lead
  split
  case isTrue h =>
    rw [Bool.or_eq_true, decide_eq_true_iff, beq_iff_eq] at h
    rcases h with hempty | hlast
    · left
      rw [hempty]
      rfl
    · right
      obtain ⟨front, hfront⟩ := List.getLast?_eq_some_iff.mp hlast
      exact ⟨front, hfront⟩
  case isFalse => exact Or.inr ⟨_, rfl⟩

theorem splitAt_name (h : IsName name) : Text.splitAt (· == '/') name.toList = [name.toList] := by
  apply Text.splitAt_of_forall_not
  intro c hc
  rw [beq_eq_false_iff_ne]
  rintro rfl
  exact h.no_slash hc

theorem IsName.innerComponent? (h : IsName name) :
    Path.innerComponent? name = some (.name name) := by
  simp [Path.innerComponent?, h.ne_empty, h.ne_here, h.ne_up]

theorem IsName.firstComponent? (h : IsName name) (more : Bool) :
    Path.firstComponent? more name = some (.name name) := by
  simp [Path.firstComponent?, h.ne_empty, h.ne_here, h.innerComponent?]

private theorem components_of_pieces {p : Path} {first : String} {rest : List String}
    (h : p.pieces = first :: rest) :
    p.components = (Path.firstComponent? (!rest.isEmpty) first).toList ++
      rest.filterMap Path.innerComponent? := by
  unfold components
  rw [h]

private theorem components_of_pieces_concat {p : Path} {first last : String} {rest : List String}
    (h : p.pieces = first :: (rest ++ [last])) :
    p.components = (Path.firstComponent? true first).toList ++
      rest.filterMap Path.innerComponent? ++ (Path.innerComponent? last).toList := by
  have hmore : (rest ++ [last]).isEmpty = false := by
    cases rest <;> rfl
  rw [components_of_pieces h, hmore, List.filterMap_append, List.append_assoc]
  cases hlast : Path.innerComponent? last with
  | none => simp [hlast]
  | some c => simp [hlast]

theorem exists_pieces (p : Path) : ∃ first rest, p.pieces = first :: rest := by
  refine List.exists_cons_of_ne_nil ?_
  simp [pieces, Text.split, Text.splitAt_ne_nil]

private theorem firstComponent?_of_pieces {p : Path} {first : String} {rest : List String}
    (h : p.pieces = first :: rest) (hp : p.text ≠ "") :
    Path.firstComponent? (!rest.isEmpty) first = Path.firstComponent? true first := by
  cases rest with
  | cons second rest => rfl
  | nil =>
    have hfirst : first ≠ "" := by
      rintro rfl
      have hsplit : Text.splitAt (· == '/') p.text.toList = [[]] := by
        simpa [pieces, Text.split] using h
      exact hp (String.toList_eq_nil_iff.mp (Text.eq_nil_of_splitAt hsplit))
    simp [Path.firstComponent?, hfirst]

private theorem pieces_child (hdir : dir.text ≠ "") (h : IsName name) :
    ∃ first rest, (dir.child name).pieces = first :: (rest ++ [name]) ∧
      dir.components = (Path.firstComponent? true first).toList ++
        rest.filterMap Path.innerComponent? := by
  have hsplit : ∀ front : List Char, dir.lead = front ++ ['/'] →
      (dir.child name).pieces = Text.split (String.ofList front) '/' ++ [name] := by
    intro front hfront
    simp [pieces, Text.split, child_toList dir h, hfront, Text.splitAt_append_cons, splitAt_name h]
  by_cases hlast : dir.text.toList.getLast? = some '/'
  · obtain ⟨front, hfront⟩ := List.getLast?_eq_some_iff.mp hlast
    obtain ⟨first, rest, hpieces⟩ := exists_pieces ⟨String.ofList front⟩
    have hdirPieces : dir.pieces = first :: (rest ++ [""]) := by
      have happend : dir.pieces = pieces ⟨String.ofList front⟩ ++ [""] := by
        simp [pieces, Text.split, hfront, Text.splitAt_append_cons, Text.splitAt]
      rw [happend, hpieces, List.cons_append]
    refine ⟨first, rest, ?_, ?_⟩
    · rw [hsplit front (by simp [lead, hfront])]
      change pieces ⟨String.ofList front⟩ ++ [name] = _
      rw [hpieces, List.cons_append]
    · rw [components_of_pieces_concat hdirPieces]
      simp [Path.innerComponent?]
  · obtain ⟨first, rest, hpieces⟩ := exists_pieces dir
    refine ⟨first, rest, ?_, ?_⟩
    · rw [hsplit dir.text.toList (by simp [lead, hlast, hdir]), String.ofList_toList]
      change dir.pieces ++ [name] = _
      rw [hpieces, List.cons_append]
    · rw [components_of_pieces hpieces, firstComponent?_of_pieces hpieces hdir]

theorem components_child (dir : Path) (h : IsName name) :
    (dir.child name).components = dir.components ++ [.name name] := by
  by_cases hempty : dir.text = ""
  · have hdir : dir.components = [] := by
      obtain ⟨text⟩ := dir
      subst hempty
      rfl
    have hchild : (dir.child name).pieces = [name] := by
      simp [pieces, Text.split, child_toList dir h, lead, hempty, splitAt_name h]
    rw [hdir, components_of_pieces hchild, h.firstComponent?]
    rfl
  · obtain ⟨first, rest, hpieces, hdir⟩ := pieces_child hempty h
    rw [components_of_pieces_concat hpieces, hdir, h.innerComponent?]
    rfl

theorem fileName_child (h : IsName name) : (dir.child name).fileName = some name := by
  unfold fileName
  rw [components_child dir h, List.getLast?_concat]

theorem extension_child (h : IsName name) : (dir.child name).extension = extensionOf name := by
  unfold extension
  rw [fileName_child h]
  rfl

private theorem components_ofPieces {first : String} {rest : List String}
    (h : ∀ piece ∈ first :: rest, '/' ∉ piece.toList) :
    (ofPieces (first :: rest)).components = (Path.firstComponent? true first).toList ++
      rest.filterMap Path.innerComponent? := by
  have hpieces : pieces ⟨Text.join "/" (first :: rest)⟩ = first :: rest :=
    Text.split_join rfl (by simp) h
  unfold ofPieces
  split
  next hroot =>
    cases hroot
    decide
  next hroot =>
    rw [components_of_pieces hpieces]
    cases rest with
    | cons => rfl
    | nil =>
      have hfirst : first ≠ "" := fun he => hroot (by rw [he])
      simp [Path.firstComponent?, hfirst]

private theorem dropIdle_cons (last : String) {rest : List String} (h : rest ≠ []) :
    dropIdle (last :: rest) =
      if (Path.innerComponent? last).isNone then dropIdle rest else last :: rest := by
  cases rest with
  | nil => exact absurd rfl h
  | cons => rfl

private theorem exists_dropIdle (first : String) (pieces : List String) :
    ∃ kept, dropIdle (pieces ++ [first]) = kept ++ [first] ∧
      kept.filterMap Path.innerComponent? = pieces.filterMap Path.innerComponent? ∧
        ∀ piece ∈ kept, piece ∈ pieces := by
  induction pieces with
  | nil => exact ⟨[], rfl, rfl, by simp⟩
  | cons last pieces ih =>
    rw [List.cons_append, dropIdle_cons last (by simp)]
    split
    next hidle =>
      obtain ⟨kept, hkept, hcomponents, hmem⟩ := ih
      refine ⟨kept, hkept, ?_, fun piece hpiece => List.mem_cons_of_mem _ (hmem piece hpiece)⟩
      rw [hcomponents, List.filterMap_cons_none (Option.isNone_iff_eq_none.mp hidle)]
    next => exact ⟨last :: pieces, rfl, rfl, fun _ => id⟩

/-- The path of an entry without its last component leads to its directory, though it may be written
in another way. -/
theorem parent_child (dir : Path) (h : IsName name) :
    ∃ p, (dir.child name).parent = some p ∧ p.components = dir.components := by
  by_cases hempty : dir.text = ""
  · have hchild : (dir.child name).pieces = [name] := by
      simp [pieces, Text.split, child_toList dir h, lead, hempty, splitAt_name h]
    refine ⟨⟨""⟩, ?_, ?_⟩
    · simp [parent, hchild, dropIdle, h.ne_empty]
    · obtain ⟨text⟩ := dir
      subst hempty
      rfl
  · obtain ⟨first, rest, hpieces, hdir⟩ := pieces_child hempty h
    have hslash : ∀ piece ∈ first :: (rest ++ [name]), '/' ∉ piece.toList := by
      intro piece hpiece hmem
      rw [← hpieces, Path.pieces, Text.split] at hpiece
      obtain ⟨cs, hcs, rfl⟩ := List.mem_map.mp hpiece
      rw [String.toList_ofList] at hmem
      exact absurd (Text.cut_eq_false_of_mem hcs hmem) (by decide)
    obtain ⟨kept, hkept, hcomponents, hmem⟩ := exists_dropIdle first rest.reverse
    refine ⟨ofPieces (first :: kept.reverse), ?_, ?_⟩
    · have hname : (Path.innerComponent? name).isNone = false := by
        rw [h.innerComponent?]
        rfl
      have hdrop : dropIdle (dir.child name).pieces.reverse = name :: (rest.reverse ++ [first]) := by
        rw [hpieces, List.reverse_cons, List.reverse_concat, List.cons_append,
          dropIdle_cons name (by simp), hname]
        rfl
      unfold parent
      rw [hdrop]
      split
      next hnil => cases hnil
      next hone => simp at hone
      next front _ hcons =>
        obtain ⟨-, rfl⟩ := List.cons.inj hcons
        rw [hkept, List.reverse_concat]
    · rw [components_ofPieces, hdir, List.filterMap_reverse, hcomponents, List.filterMap_reverse,
        List.reverse_reverse]
      intro piece hpiece
      refine hslash piece ?_
      rcases List.mem_cons.mp hpiece with rfl | hpiece
      · exact List.mem_cons_self
      · have hrest := hmem piece (List.mem_reverse.mp hpiece)
        simp [List.mem_reverse.mp hrest]

/-- A path whose text starts with that of an entry and goes on, if at all, below it. -/
def Within (p entry : Path) : Prop :=
  ∃ rest, p.text.toList = entry.text.toList ++ rest ∧ ∀ c ∈ rest.head?, c = '/'

theorem Within.refl (p : Path) : p.Within p :=
  ⟨[], by simp, by simp⟩

theorem Within.of_child {p : Path} {inner : String} (h : IsName name) (hinner : IsName inner)
    (hp : p.Within ((dir.child name).child inner)) : p.Within (dir.child name) := by
  obtain ⟨rest, htext, -⟩ := hp
  refine ⟨'/' :: inner.toList ++ rest, ?_, by simp⟩
  rw [htext, child_toList _ hinner, lead_child h]
  simp

private theorem takeWhile_name {rest : List Char} (h : IsName name)
    (hrest : ∀ c ∈ rest.head?, c = '/') :
    (name.toList ++ rest).takeWhile (· != '/') = name.toList := by
  have hname : ∀ c ∈ name.toList, (c != '/') = true := by
    intro c hc
    rw [bne_iff_ne]
    rintro rfl
    exact h.no_slash hc
  rw [List.takeWhile_append_of_pos hname]
  cases rest with
  | nil => simp
  | cons c cs =>
    obtain rfl : c = '/' := hrest c rfl
    simp

theorem Within.name_unique {p : Path} {a b : String} (ha : IsName a) (hb : IsName b)
    (hpa : p.Within (dir.child a)) (hpb : p.Within (dir.child b)) : a = b := by
  obtain ⟨ra, hta, hra⟩ := hpa
  obtain ⟨rb, htb, hrb⟩ := hpb
  rw [child_toList dir ha, List.append_assoc] at hta
  rw [child_toList dir hb, List.append_assoc] at htb
  have hsame : a.toList ++ ra = b.toList ++ rb :=
    List.append_cancel_left (hta.symm.trans htb)
  apply String.toList_inj.mp
  rw [← takeWhile_name ha hra, hsame, takeWhile_name hb hrb]

end ShellSuite.Path
