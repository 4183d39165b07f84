import ShellSuite.Text.Blank
import ShellSuite.Text.Lines
import ShellSuite.Text.Pieces

set_option autoImplicit false
set_option relaxedAutoImplicit false

/-!
Blanks at the ends of a text, what a text starts with, the lines of a text that was made of lines,
and the text of the first lines.
-/

namespace ShellSuite.Text

theorem dropFront?_eq_some_iff {front cs rest : List Char} :
    dropFront? front cs = some rest ↔ cs = front ++ rest := by
  induction front generalizing cs with
  | nil => simp [dropFront?]
  | cons f fs ih =>
    cases cs with
    | nil => simp [dropFront?]
    | cons c cs =>
      by_cases h : f = c
      · simp [dropFront?, h, ih]
      · simp [dropFront?, h, Ne.symm h]

theorem dropFront?_append (front rest : List Char) : dropFront? front (front ++ rest) = some rest :=
  dropFront?_eq_some_iff.mpr rfl

/-- Characters with no blank at either end. -/
structure Bare (cs : List Char) : Prop where
  front : ∀ c ∈ cs.head?, isBlank c = false
  back : ∀ c ∈ cs.getLast?, isBlank c = false

theorem exists_eq_append_dropBlanks (cs : List Char) :
    ∃ blanks, cs = blanks ++ dropBlanks cs ∧ ∀ c ∈ blanks, isBlank c = true := by
  refine ⟨cs.takeWhile isBlank, (List.takeWhile_append_dropWhile).symm, ?_⟩
  intro c hc
  exact List.all_eq_true.mp List.all_takeWhile c hc

theorem dropBlanks_append {blanks : List Char} (h : ∀ c ∈ blanks, isBlank c = true)
    (cs : List Char) : dropBlanks (blanks ++ cs) = dropBlanks cs :=
  List.dropWhile_append_of_pos h

theorem dropBlanks_of_head {cs : List Char} (h : ∀ c ∈ cs.head?, isBlank c = false) :
    dropBlanks cs = cs := by
  cases cs with
  | nil => rfl
  | cons c cs => simp [dropBlanks, h c rfl]

theorem dropTrailingBlanks_of_last {cs : List Char} (h : ∀ c ∈ cs.getLast?, isBlank c = false) :
    dropTrailingBlanks cs = cs := by
  have hback : dropBlanks cs.reverse = cs.reverse :=
    dropBlanks_of_head (by rwa [List.head?_reverse])
  rw [dropBlanks] at hback
  rw [dropTrailingBlanks, hback, List.reverse_reverse]

theorem dropTrailingBlanks_append (cs : List Char) {blanks : List Char}
    (h : ∀ c ∈ blanks, isBlank c = true) :
    dropTrailingBlanks (cs ++ blanks) = dropTrailingBlanks cs := by
  have hblanks : ∀ c ∈ blanks.reverse, isBlank c = true := by simpa using h
  rw [dropTrailingBlanks, List.reverse_append, List.dropWhile_append_of_pos hblanks]
  rfl

theorem Bare.trimBlanks {cs : List Char} (h : Bare cs) : trimBlanks cs = cs := by
  rw [Text.trimBlanks, dropBlanks_of_head h.front, dropTrailingBlanks_of_last h.back]

theorem trimBlanks_cons {c : Char} (h : isBlank c = true) (cs : List Char) :
    trimBlanks (c :: cs) = trimBlanks cs := by
  simp [trimBlanks, dropBlanks, h]

theorem bare_trimBlanks (cs : List Char) : Bare (trimBlanks cs) := by
  have hfront : ∀ ds : List Char, ∀ c ∈ (dropBlanks ds).head?, isBlank c = false := by
    intro ds c hc
    have hhead := List.head?_dropWhile_not isBlank ds
    rw [dropBlanks] at hc
    rw [hc] at hhead
    simpa using hhead
  constructor
  · intro c hc
    -- the blanks at the end are dropped from a text that starts with no blank
    have hprefix : trimBlanks cs <+: dropBlanks cs := by
      rw [trimBlanks, dropTrailingBlanks, ← List.reverse_suffix, List.reverse_reverse]
      exact List.dropWhile_suffix _
    obtain ⟨tail, htail⟩ := hprefix
    refine hfront cs c ?_
    rw [← htail, List.head?_append, hc]
    rfl
  · intro c hc
    rw [trimBlanks, dropTrailingBlanks, List.getLast?_reverse] at hc
    exact hfront (dropBlanks cs).reverse c hc

theorem bare_of_trim {s : String} (h : trim s = s) : Bare s.toList := by
  have heq : trimBlanks s.toList = s.toList := by
    have := congrArg String.toList h
    rwa [trim, String.toList_ofList] at this
  rw [← heq]
  exact bare_trimBlanks s.toList

/-- The lines of a text that is made of lines with a line feed between any two: a carriage return
at the end of a line is lost if a further line follows, and an empty last line is not seen. -/
def reread : List (List Char) → List (List Char)
  | [] => []
  | [line] => if line.isEmpty then [] else [line]
  | line :: lines => dropReturn (line, true) :: reread lines

private theorem markedLines_append {line : List Char} (h : '\n' ∉ line) (front rest : List Char) :
    markedLines front (line ++ rest) = markedLines (line.reverse ++ front) rest := by
  induction line generalizing front with
  | nil => rfl
  | cons c cs ih =>
    rw [List.mem_cons, not_or] at h
    have hc : (c == '\n') = false := by simpa using Ne.symm h.1
    simp [markedLines, hc, ih h.2]

private theorem markedLines_line {line : List Char} (h : '\n' ∉ line) (rest : List Char) :
    markedLines [] (line ++ '\n' :: rest) = (line, true) :: markedLines [] rest := by
  rw [markedLines_append h]
  simp [markedLines]

private theorem markedLines_last {line : List Char} (h : '\n' ∉ line) :
    (markedLines [] line).map dropReturn = reread [line] := by
  have hend := markedLines_append h [] []
  rw [List.append_nil, List.append_nil] at hend
  rw [hend, markedLines, reread]
  by_cases hline : line = [] <;> simp [hline, dropReturn]

theorem lines_join {ls : List String} (h : ∀ line ∈ ls, '\n' ∉ line.toList) :
    (lines (join "\n" ls)).map String.toList = reread (ls.map String.toList) := by
  have hmarked : (markedLines [] (join "\n" ls).toList).map dropReturn =
      reread (ls.map String.toList) := by
    induction ls with
    | nil => rfl
    | cons line rest ih =>
      have hline := h line List.mem_cons_self
      have hrest := ih fun l hl => h l (List.mem_cons_of_mem _ hl)
      cases rest with
      | nil =>
        rw [join, String.intercalate_singleton]
        exact markedLines_last hline
      | cons next rest =>
        have hjoin : (join "\n" (line :: next :: rest)).toList =
            line.toList ++ '\n' :: (join "\n" (next :: rest)).toList := by
          simp [join, String.intercalate_cons_cons]
        rw [hjoin, markedLines_line hline, List.map_cons, hrest]
        rfl
  rw [lines, List.map_map, ← hmarked]
  refine List.map_congr_left ?_
  intro l _
  simp

theorem reread_append {ls : List (List Char)} (h : ∀ l ∈ ls, l ≠ [] ∧ l.getLast? ≠ some '\r')
    (rest : List (List Char)) : reread (ls ++ rest) = ls ++ reread rest := by
  induction ls with
  | nil => rfl
  | cons line ls ih =>
    obtain ⟨hline, hreturn⟩ := h line List.mem_cons_self
    have hls := ih fun l hl => h l (List.mem_cons_of_mem _ hl)
    have hkept : dropReturn (line, true) = line := by simp [dropReturn, hreturn]
    cases hmore : ls ++ rest with
    | nil =>
      obtain ⟨rfl, rfl⟩ := List.append_eq_nil_iff.mp hmore
      simp [reread, hline]
    | cons next more =>
      rw [List.cons_append, hmore, reread, hkept, ← hmore, hls]
      · rfl
      · simp

/-! Lines ended by line feeds -/

private theorem splitLines_append {line : List Char} (h : '\n' ∉ line) (front rest : List Char) :
    splitLines '\n' front (line ++ rest) = splitLines '\n' (line.reverse ++ front) rest := by
  induction line generalizing front with
  | nil => rfl
  | cons c cs ih =>
    rw [List.mem_cons, not_or] at h
    have hc : (c == '\n') = false := by simpa using Ne.symm h.1
    simp [splitLines, hc, ih h.2]

theorem splitLines_flatMap {lines : List (List Char)} (h : ∀ line ∈ lines, '\n' ∉ line)
    {last : List Char} (hlast : '\n' ∉ last) :
    splitLines '\n' [] (lines.flatMap (· ++ ['\n']) ++ last) =
      lines ++ if last.isEmpty then [] else [last] := by
  induction lines with
  | nil =>
    have hend := splitLines_append hlast [] []
    rw [List.append_nil, List.append_nil] at hend
    simp [hend, splitLines]
  | cons line lines ih =>
    rw [List.forall_mem_cons] at h
    have hsplit : (line :: lines).flatMap (· ++ ['\n']) ++ last =
        line ++ '\n' :: (lines.flatMap (· ++ ['\n']) ++ last) := by simp
    rw [hsplit, splitLines_append h.1, List.append_nil, splitLines, if_pos (by rfl),
      List.reverse_reverse, ih h.2, List.cons_append]

private theorem exists_eq_flatMap (cs : List Char) : ∃ (lines : List (List Char))
    (last : List Char),
    cs = lines.flatMap (· ++ ['\n']) ++ last ∧ (∀ line ∈ lines, '\n' ∉ line) ∧ '\n' ∉ last := by
  induction cs with
  | nil => exact ⟨[], [], rfl, by simp, by simp⟩
  | cons c cs ih =>
    obtain ⟨lines, last, rfl, hlines, hlast⟩ := ih
    by_cases hc : c = '\n'
    · exact ⟨[] :: lines, last, by simp [hc], by simpa using hlines, hlast⟩
    · cases lines with
      | nil => exact ⟨[], c :: last, rfl, by simp, by simp [hlast, Ne.symm hc]⟩
      | cons line lines =>
        rw [List.forall_mem_cons] at hlines
        refine ⟨(c :: line) :: lines, last, by simp, ?_, hlast⟩
        rw [List.forall_mem_cons]
        exact ⟨by simp [hlines.1, Ne.symm hc], hlines.2⟩

theorem not_mem_of_mem_splitLines (cs : List Char) :
    ∀ line ∈ splitLines '\n' [] cs, '\n' ∉ line := by
  obtain ⟨lines, last, rfl, hlines, hlast⟩ := exists_eq_flatMap cs
  intro line hline
  rw [splitLines_flatMap hlines hlast] at hline
  rcases List.mem_append.mp hline with hline | hline
  · exact hlines line hline
  · split at hline
    · cases hline
    · rwa [List.mem_singleton.mp hline]

def closed {α : Type} [DecidableEq α] (feed : α) (text : List α) : List α :=
  if text = [] ∨ text.getLast? = some feed then text else text ++ [feed]

private theorem flatMap_splitLines (cs : List Char) :
    (splitLines '\n' [] cs).flatMap (· ++ ['\n']) = closed '\n' cs := by
  obtain ⟨lines, last, rfl, hlines, hlast⟩ := exists_eq_flatMap cs
  rw [splitLines_flatMap hlines hlast, closed]
  cases last.eq_nil_or_concat with
  | inl hnil =>
    subst hnil
    cases lines.eq_nil_or_concat with
    | inl hnil => simp [hnil]
    | inr hconcat =>
      obtain ⟨lines, line, rfl⟩ := hconcat
      simp
  | inr hconcat =>
    obtain ⟨last, c, rfl⟩ := hconcat
    have hc : c ≠ '\n' := by
      rintro rfl
      simp at hlast
    simp [hc]

private theorem splitLines_closed (cs : List Char) :
    splitLines '\n' [] (closed '\n' cs) = splitLines '\n' [] cs := by
  have hsplit := splitLines_flatMap (not_mem_of_mem_splitLines cs) (List.not_mem_nil (a := '\n'))
  rw [List.append_nil, flatMap_splitLines] at hsplit
  simpa using hsplit

/-- Texts have the same lines exactly if they are the same up to the end of the last one. -/
theorem splitLines_eq_iff {cs ds : List Char} :
    splitLines '\n' [] cs = splitLines '\n' [] ds ↔ closed '\n' cs = closed '\n' ds := by
  constructor
  · intro h
    rw [← flatMap_splitLines, h, flatMap_splitLines]
  · intro h
    rw [← splitLines_closed, h, splitLines_closed]

theorem dropBlanks_subset (cs : List Char) : dropBlanks cs ⊆ cs :=
  (List.dropWhile_sublist _).subset

theorem trimBlanks_subset (cs : List Char) : trimBlanks cs ⊆ cs := by
  intro c hc
  rw [trimBlanks, dropTrailingBlanks, List.mem_reverse] at hc
  have hc := (List.dropWhile_sublist _).subset hc
  exact dropBlanks_subset cs (List.mem_reverse.mp hc)

theorem dropFront?_subset {front cs rest : List Char} (h : dropFront? front cs = some rest) :
    rest ⊆ cs := by
  rw [dropFront?_eq_some_iff] at h
  subst h
  exact List.subset_append_right front rest

def firstLines : Nat → List Char → List Char
  | 0, _ => []
  | _ + 1, [] => []
  | n + 1, c :: cs => if c = '\n' then c :: firstLines n cs else c :: firstLines (n + 1) cs

private theorem markedLines_firstLines (n : Nat) (line cs : List Char) :
    markedLines line (firstLines (n + 1) cs) = (markedLines line cs).take (n + 1) := by
  induction cs generalizing n line with
  | nil => by_cases hline : line = [] <;> simp [firstLines, markedLines, hline]
  | cons c cs ih =>
    by_cases hc : c = '\n'
    · cases n with
      | zero => simp [firstLines, markedLines, hc]
      | succ n => simp [firstLines, markedLines, hc, ih]
    · simp [firstLines, markedLines, hc, ih]

theorem lines_firstLines (n : Nat) (s : String) :
    lines (String.ofList (firstLines n s.toList)) = (lines s).take n := by
  cases n with
  | zero => simp [firstLines, lines, markedLines]
  | succ n => simp [lines, markedLines_firstLines, List.map_take]

private theorem not_mem_of_mem_markedLines {line cs : List Char} (h : '\n' ∉ line) :
    ∀ l ∈ markedLines line cs, '\n' ∉ l.1 := by
  induction cs generalizing line with
  | nil => by_cases hline : line = [] <;> simp [markedLines, hline, h]
  | cons c cs ih =>
    by_cases hc : c = '\n'
    · simp only [markedLines, hc, beq_self_eq_true, if_true, List.forall_mem_cons]
      exact ⟨by simpa using h, ih (by simp)⟩
    · have hnext : '\n' ∉ c :: line := by simp [h, Ne.symm hc]
      simpa [markedLines, hc] using ih hnext

theorem not_mem_of_mem_lines {s line : String} (h : line ∈ lines s) : '\n' ∉ line.toList := by
  obtain ⟨⟨front, ended⟩, hl, rfl⟩ := List.mem_map.mp h
  have hfront : '\n' ∉ front := not_mem_of_mem_markedLines (by simp) _ hl
  rw [String.toList_ofList]
  cases ended with
  | false => exact hfront
  | true =>
    rw [dropReturn]
    split
    · exact fun hmem => hfront (List.dropLast_subset front hmem)
    · exact hfront

end ShellSuite.Text
