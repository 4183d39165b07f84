import ShellSuite.Diff.Compact
import ShellSuite.Proofs.Text
import ShellSuite.Proofs.Text.Lines

set_option autoImplicit false
set_option relaxedAutoImplicit false

/-!
Patches: hunks with their ranges and lines, the text of them, which says all about them, and when
they are right for two lists of lines.
-/

namespace ShellSuite.Diff

/-- Where a line of a hunk is: in both lists, only in the old one, or only in the new one. -/
inductive Mark where
  | kept
  | removed
  | added
  deriving DecidableEq, Repr

def Mark.sign : Mark → String
  | .kept => " "
  | .removed => "-"
  | .added => "+"

/-- A hunk: the ranges of old and new lines it is about, and its lines. -/
structure Hunk where
  old : Span
  new : Span
  body : List (Mark × String)
  deriving DecidableEq, Repr

/-- The number a header gives for a range: that of its first line, and without any line that of the
line before. -/
def Span.number (s : Span) : Nat :=
  if s.count = 0 then s.start else s.start + 1

/-- A range as a header gives it: its number, and the count of its lines unless that is one. -/
def Span.text (s : Span) : String :=
  toString s.number ++ if s.count = 1 then "" else "," ++ toString s.count

namespace Hunk

def header (h : Hunk) : String :=
  "@@ -" ++ h.old.text ++ " +" ++ h.new.text ++ " @@"

def lines (h : Hunk) : List String :=
  h.header :: h.body.map fun l => l.1.sign ++ l.2

def oldLines (h : Hunk) : List String :=
  (h.body.filter (·.1 ≠ .added)).map Prod.snd

def newLines (h : Hunk) : List String :=
  (h.body.filter (·.1 ≠ .removed)).map Prod.snd

end Hunk

def patchText (hunks : List Hunk) : String :=
  String.join ((hunks.flatMap Hunk.lines).map (· ++ "\n"))

/-- The old lines from a position on, with the old lines of each hunk replaced by its new ones. -/
def patched (old : List String) (x : Nat) : List Hunk → List String
  | [] => old.drop x
  | h :: hs =>
    (old.drop x).take (h.old.start - x) ++ h.newLines ++ patched old h.old.stop hs

/-- From a position in each list on, there are as many lines before the next hunk in the one as in
the other. -/
def Aligned (x y : Nat) : List Hunk → Prop
  | [] => True
  | h :: hs =>
    (∃ gap, h.old.start = x + gap ∧ h.new.start = y + gap) ∧ Aligned h.old.stop h.new.stop hs

/-- Hunks that are right for two lists of lines of which only `key` counts. Each has the right
numbers of lines in its ranges and the lines that are there in the old list. The hunks follow each
other without overlap, each stands at the place in the new list that those before lead to, and
together they turn the old lines into the new ones. -/
structure IsPatch (key : String → String) (old new : List String) (hunks : List Hunk) : Prop where
  oneLine : ∀ h ∈ hunks, ∀ l ∈ h.body, '\n' ∉ l.2.toList
  oldCount : ∀ h ∈ hunks, h.old.count = h.oldLines.length
  newCount : ∀ h ∈ hunks, h.new.count = h.newLines.length
  oldLines : ∀ h ∈ hunks, h.oldLines = h.old.of old
  ordered : hunks.Pairwise fun a b => a.old.stop < b.old.start ∧ a.new.stop < b.new.start
  aligned : Aligned 0 0 hunks
  result : (patched old 0 hunks).map key = new.map key

/-! Reading a text of hunks -/

private theorem append_cons_inj {c : Char} {a a' b b' : List Char} (ha : c ∉ a) (ha' : c ∉ a')
    (h : a ++ c :: b = a' ++ c :: b') : a = a' ∧ b = b' := by
  have hcut := Text.cutFirst_append_cons ha b
  rw [h, Text.cutFirst_append_cons ha' b'] at hcut
  simpa [eq_comm] using hcut

private theorem not_mem_toString {c : Char} (hc : c.isDigit = false) (n : Nat) :
    c ∉ (toString n).toList := by
  intro hmem
  have hdigits : c ∈ Nat.toDigits 10 n := by simpa using hmem
  rw [Nat.isDigit_of_mem_toDigits (by decide) (by decide) hdigits] at hc
  cases hc

private theorem Span.text_toList (s : Span) : s.text.toList =
    (toString s.number).toList ++ if s.count = 1 then [] else ',' :: (toString s.count).toList := by
  unfold Span.text
  split <;> simp

private theorem Span.not_mem_text {c : Char} (hdigit : c.isDigit = false) (hcomma : c ≠ ',')
    (s : Span) :
    c ∉ s.text.toList := by
  rw [Span.text_toList, List.mem_append, not_or]
  refine ⟨not_mem_toString hdigit s.number, ?_⟩
  split
  · exact List.not_mem_nil
  · rw [List.mem_cons, not_or]
    exact ⟨hcomma, not_mem_toString hdigit s.count⟩

private theorem eq_of_toString {m n : Nat} (h : (toString m).toList = (toString n).toList) :
    m = n := by
  have hdigits : Nat.toDigits 10 m = Nat.toDigits 10 n := by simpa using h
  rw [← Nat.ofDigitChars_ten_toDigits (n := m), hdigits, Nat.ofDigitChars_ten_toDigits]

private theorem Span.text_injective {s s' : Span} (h : s.text = s'.text) : s = s' := by
  have hcomma : ∀ n : Nat, ',' ∉ (toString n).toList := not_mem_toString rfl
  have hlist := congrArg String.toList h
  rw [Span.text_toList, Span.text_toList] at hlist
  obtain ⟨start, count⟩ := s
  obtain ⟨start', count'⟩ := s'
  -- a comma tells whether the count is given
  have hall : Span.number ⟨start, count⟩ = Span.number ⟨start', count'⟩ ∧ count = count' := by
    by_cases hone : count = 1 <;> by_cases hone' : count' = 1
    · rw [if_pos hone, if_pos hone', List.append_nil, List.append_nil] at hlist
      exact ⟨eq_of_toString hlist, hone.trans hone'.symm⟩
    · rw [if_pos hone, if_neg hone', List.append_nil] at hlist
      refine absurd ?_ (hcomma (Span.number ⟨start, count⟩))
      exact hlist ▸ List.mem_append_right _ List.mem_cons_self
    · rw [if_neg hone, if_pos hone', List.append_nil] at hlist
      refine absurd ?_ (hcomma (Span.number ⟨start', count'⟩))
      exact hlist ▸ List.mem_append_right _ List.mem_cons_self
    · rw [if_neg hone, if_neg hone'] at hlist
      obtain ⟨hnumber, hcount⟩ := append_cons_inj (hcomma _) (hcomma _) hlist
      exact ⟨eq_of_toString hnumber, eq_of_toString hcount⟩
  obtain ⟨hnumber, rfl⟩ := hall
  by_cases hzero : count = 0 <;> simpa [Span.number, hzero] using hnumber

private theorem Hunk.header_injective {h h' : Hunk} (heq : h.header = h'.header) :
    h.old = h'.old ∧ h.new = h'.new := by
  have hlist : h.old.text.toList ++ ' ' :: ('+' :: (h.new.text.toList ++ ' ' :: "@@".toList)) =
      h'.old.text.toList ++ ' ' :: ('+' :: (h'.new.text.toList ++ ' ' :: "@@".toList)) := by
    have := congrArg String.toList heq
    simpa [Hunk.header] using this
  have hspace := Span.not_mem_text (c := ' ') rfl (by decide)
  obtain ⟨hold, hrest⟩ := append_cons_inj (hspace h.old) (hspace h'.old) hlist
  obtain ⟨hnew, -⟩ := append_cons_inj (hspace h.new) (hspace h'.new) (List.cons.inj hrest).2
  exact ⟨Span.text_injective (String.toList_inj.mp hold),
    Span.text_injective (String.toList_inj.mp hnew)⟩

private theorem append_inj_of_head {α : Type} {P : α → Prop} {a a' b b' : List α}
    (ha : ∀ x ∈ a, ¬ P x)
    (ha' : ∀ x ∈ a', ¬ P x) (hb : ∀ x ∈ b.head?, P x) (hb' : ∀ x ∈ b'.head?, P x)
    (h : a ++ b = a' ++ b') : a = a' ∧ b = b' := by
  induction a generalizing a' with
  | nil =>
    cases a' with
    | nil => exact ⟨rfl, h⟩
    | cons x a' =>
      refine absurd (hb x ?_) (ha' x List.mem_cons_self)
      rw [List.nil_append] at h
      simp [h]
  | cons y a ih =>
    cases a' with
    | nil =>
      refine absurd (hb' y ?_) (ha y List.mem_cons_self)
      rw [List.nil_append] at h
      simp [← h]
    | cons x a' =>
      rw [List.forall_mem_cons] at ha ha'
      obtain ⟨rfl, htail⟩ := List.cons.inj h
      obtain ⟨rfl, rfl⟩ := ih ha.2 ha'.2 htail
      exact ⟨rfl, rfl⟩

def IsHeader (line : String) : Prop :=
  line.toList.head? = some '@'

private theorem isHeader_of_mem_head? {hs : List Hunk} :
    ∀ line ∈ (hs.flatMap Hunk.lines).head?, IsHeader line := by
  intro line hline
  cases hs with
  | nil => cases hline
  | cons h hs =>
    obtain rfl : h.header = line := by simpa [Hunk.lines] using hline
    simp [IsHeader, Hunk.header]

private theorem sign_append_injective : Function.Injective fun l :
    Mark × String => l.1.sign ++ l.2 := by
  rintro ⟨mark, line⟩ ⟨mark', line'⟩ h
  have hlist : mark.sign.toList ++ line.toList = mark'.sign.toList ++ line'.toList := by
    simpa using congrArg String.toList h
  cases mark <;> cases mark' <;> simp [Mark.sign, String.toList_inj] at hlist ⊢ <;> exact hlist

private theorem not_isHeader_of_mem_body {h : Hunk} :
    ∀ line ∈ h.body.map fun l => l.1.sign ++ l.2, ¬ IsHeader line := by
  intro line hline
  obtain ⟨⟨mark, text⟩, -, rfl⟩ := List.mem_map.mp hline
  cases mark <;> simp [IsHeader, Mark.sign]

private theorem lines_injective {hs hs' : List Hunk}
    (h : hs.flatMap Hunk.lines = hs'.flatMap Hunk.lines) :
    hs = hs' := by
  induction hs generalizing hs' with
  | nil =>
    cases hs' with
    | nil => rfl
    | cons h' hs' => simp [Hunk.lines] at h
  | cons k hs ih =>
    cases hs' with
    | nil => simp [Hunk.lines] at h
    | cons k' hs' =>
      simp only [List.flatMap_cons, Hunk.lines, List.cons_append] at h
      obtain ⟨hheader, hrest⟩ := List.cons.inj h
      obtain ⟨hbody, hlines⟩ := append_inj_of_head not_isHeader_of_mem_body
        not_isHeader_of_mem_body isHeader_of_mem_head? isHeader_of_mem_head? hrest
      obtain ⟨hold, hnew⟩ := Hunk.header_injective hheader
      have hbody := (List.map_inj_right sign_append_injective).mp hbody
      obtain rfl := ih hlines
      obtain ⟨old, new, body⟩ := k
      obtain ⟨old', new', body'⟩ := k'
      obtain ⟨rfl, rfl, rfl⟩ : old = old' ∧ new = new' ∧ body = body' := ⟨hold, hnew, hbody⟩
      rfl

private theorem oneLine_lines {hs : List Hunk}
    (hlines : ∀ h ∈ hs, ∀ l ∈ h.body, '\n' ∉ l.2.toList) :
    ∀ line ∈ hs.flatMap Hunk.lines, '\n' ∉ line.toList := by
  intro line hline
  obtain ⟨h, hh, hline⟩ := List.mem_flatMap.mp hline
  rcases List.mem_cons.mp hline with rfl | hline
  · have hspan := Span.not_mem_text (c := '\n') rfl (by decide)
    simp [Hunk.header, hspan]
  · obtain ⟨⟨mark, text⟩, hl, rfl⟩ := List.mem_map.mp hline
    have htext := hlines h hh _ hl
    cases mark <;> simpa [Mark.sign] using htext

/-- The text of hunks says all about them. -/
theorem patchText_injective {hs hs' : List Hunk}
    (hlines : ∀ h ∈ hs, ∀ l ∈ h.body, '\n' ∉ l.2.toList)
    (hlines' : ∀ h ∈ hs', ∀ l ∈ h.body, '\n' ∉ l.2.toList) (h : patchText hs = patchText hs') :
    hs = hs' := by
  -- the lines of a text of hunks are the lines of the hunks
  have hread : ∀ hs : List Hunk, (∀ h ∈ hs, ∀ l ∈ h.body, '\n' ∉ l.2.toList) →
      Text.splitLines '\n' [] (patchText hs).toList =
        (hs.flatMap Hunk.lines).map String.toList := by
    intro hs hlines
    have hfree : ∀ line ∈ (hs.flatMap Hunk.lines).map String.toList, '\n' ∉ line := by
      intro line hline
      obtain ⟨l, hl, rfl⟩ := List.mem_map.mp hline
      exact oneLine_lines hlines l hl
    have hsplit := Text.splitLines_flatMap hfree (List.not_mem_nil (a := '\n'))
    have htext : (patchText hs).toList =
        ((hs.flatMap Hunk.lines).map String.toList).flatMap (· ++ ['\n']) ++ [] := by
      simp [patchText, List.flatMap_map, String.toList_join]
    rw [htext, hsplit]
    simp
  have hall := hread hs hlines
  rw [h, hread hs' hlines'] at hall
  refine lines_injective ((List.map_inj_right ?_).mp hall.symm)
  intro line line'
  exact String.toList_inj.mp

end ShellSuite.Diff
