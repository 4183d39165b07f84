import ShellSuite.Proofs.Directive.RoundTrip

set_option autoImplicit false
set_option relaxedAutoImplicit false

/-!
How the lines of a test file are shared out among its directives: each directive takes its first
line and those that complete its text, and no line that starts a directive is left over.
-/

namespace ShellSuite.Directive

def GoesOn (text : List Char) : Prop :=
  text.getLast? = some '\\'

def extended (marker : List Char) (kind : Kind) (text line : List Char) : List Char :=
  glue (Text.dropTrailingBlanks text.dropLast) (continuation marker kind line)

def joined (marker : List Char) (kind : Kind) (text : List Char) (more : List (List Char)) :
    List Char :=
  more.foldl (extended marker kind) text

/-- Lines that complete a text: it goes on before each of them, and not behind the last one. -/
structure Completes (marker : List Char) (kind : Kind) (text : List Char)
    (more : List (List Char)) : Prop where
  goesOn : ∀ i < more.length, GoesOn (joined marker kind text (more.take i))
  ends : ¬ GoesOn (joined marker kind text more)

/-- Lines behind which a text still goes on, whatever number of them is taken. -/
def RunsPast (marker : List Char) (kind : Kind) (text : List Char) (rest : List (List Char)) :
    Prop :=
  ∀ i ≤ rest.length, GoesOn (joined marker kind text (rest.take i))

/-- A directive is made of so many of the lines that are numbered from `n` on: a first line that
starts a directive of its kind, and lines that complete its text. -/
def Owns (marker : List Char) (n : Nat) (lines : List (List Char)) (d : Directive) (count : Nat) :
    Prop :=
  ∃ before first more after text, lines = before ++ first :: (more ++ after) ∧
    d.line = n + before.length ∧ count = more.length + 1 ∧
    matchLine marker first = some (d.kind, text) ∧ Completes marker d.kind text more ∧
    d.text = String.ofList (joined marker d.kind text more)

variable {marker text line : List Char} {kind : Kind} {n : Nat} {more rest : List (List Char)}

/-! Texts that go on -/

private theorem beforeBackslash?_of_goesOn (h : GoesOn text) :
    beforeBackslash? text = some (Text.dropTrailingBlanks text.dropLast) :=
  if_pos h

private theorem beforeBackslash?_of_not_goesOn (h : ¬ GoesOn text) : beforeBackslash? text = none :=
  if_neg h

private theorem completes_cons_iff : Completes marker kind text (line :: more) ↔
    GoesOn text ∧ Completes marker kind (extended marker kind text line) more := by
  constructor
  · intro h
    refine ⟨h.goesOn 0 (Nat.succ_pos _), ?_, h.ends⟩
    intro i hi
    exact h.goesOn (i + 1) (Nat.succ_lt_succ hi)
  · rintro ⟨htext, hmore⟩
    refine ⟨?_, hmore.ends⟩
    intro i hi
    cases i with
    | zero => exact htext
    | succ i => exact hmore.goesOn i (Nat.lt_of_succ_lt_succ hi)

private theorem runsPast_cons_iff : RunsPast marker kind text (line :: rest) ↔
    GoesOn text ∧ RunsPast marker kind (extended marker kind text line) rest := by
  constructor
  · intro h
    refine ⟨h 0 (Nat.zero_le _), ?_⟩
    intro i hi
    exact h (i + 1) (Nat.succ_le_succ hi)
  · rintro ⟨htext, hrest⟩ i hi
    cases i with
    | zero => exact htext
    | succ i => exact hrest i (Nat.le_of_succ_le_succ hi)

private theorem Completes.not_runsPast (h : Completes marker kind text more)
    (after : List (List Char)) :
    ¬ RunsPast marker kind text (more ++ after) := by
  intro hpast
  have hend := hpast more.length (by simp)
  rw [List.take_left] at hend
  exact h.ends hend

private theorem completes_or_runsPast (marker : List Char) (kind : Kind) (text : List Char)
    (rest : List (List Char)) :
    (∃ more after, rest = more ++ after ∧ Completes marker kind text more) ∨
      RunsPast marker kind text rest := by
  induction rest generalizing text with
  | nil =>
    by_cases htext : GoesOn text
    · refine .inr ?_
      intro i _
      simpa [joined] using htext
    · exact .inl ⟨[], [], rfl, by simp, htext⟩
  | cons line rest ih =>
    by_cases htext : GoesOn text
    · rcases ih (extended marker kind text line) with ⟨more, after, rfl, hmore⟩ | hrest
      · exact .inl ⟨line :: more, after, rfl, completes_cons_iff.mpr ⟨htext, hmore⟩⟩
      · exact .inr (runsPast_cons_iff.mpr ⟨htext, hrest⟩)
    · exact .inl ⟨[], line :: rest, rfl, by simp, htext⟩

/-! What is read of one directive -/

def readFrom (marker : List Char) (n : Nat) (kind : Kind) (line : Nat) (text : List Char)
    (rest : List (List Char)) : Except Error (List Directive) :=
  match beforeBackslash? text with
  | some front => parseLines marker n (some ⟨kind, line, front⟩) rest
  | none =>
    if text.isEmpty then .error (.empty line kind)
    else (⟨kind, String.ofList text, line⟩ :: ·) <$> parseLines marker n none rest

private theorem parseLines_of_match {first : List Char}
    (h : matchLine marker first = some (kind, text)) :
    parseLines marker n none (first :: rest) = readFrom marker (n + 1) kind n text rest := by
  rw [parseLines, h]
  rfl

private theorem readFrom_of_goesOn {start : Nat} (h : GoesOn text) :
    readFrom marker n kind start text (line :: rest) =
      readFrom marker (n + 1) kind start (extended marker kind text line) rest := by
  rw [readFrom, beforeBackslash?_of_goesOn h]
  rfl

private theorem readFrom_of_completes {start : Nat} {after : List (List Char)}
    (h : Completes marker kind text more) :
    readFrom marker n kind start text (more ++ after) =
      if (joined marker kind text more).isEmpty then .error (.empty start kind)
      else (⟨kind, String.ofList (joined marker kind text more), start⟩ :: ·) <$>
        parseLines marker (n + more.length) none after := by
  induction more generalizing n text with
  | nil =>
    have htext : ¬ GoesOn text := h.ends
    rw [readFrom, beforeBackslash?_of_not_goesOn htext]
    simp [joined]
  | cons line more ih =>
    obtain ⟨htext, hmore⟩ := completes_cons_iff.mp h
    rw [List.cons_append, readFrom_of_goesOn htext, ih hmore, List.length_cons, Nat.add_assoc,
      Nat.add_comm 1]
    rfl

private theorem readFrom_of_runsPast {start : Nat} (h : RunsPast marker kind text rest) :
    readFrom marker n kind start text rest = .error (.unterminated start kind) := by
  induction rest generalizing n text with
  | nil =>
    have htext : GoesOn text := h 0 (Nat.zero_le _)
    rw [readFrom, beforeBackslash?_of_goesOn htext]
    rfl
  | cons line rest ih =>
    obtain ⟨htext, hrest⟩ := runsPast_cons_iff.mp h
    rw [readFrom_of_goesOn htext, ih hrest]

/-! The whole file -/

/-- How lines numbered from `n` on are shared out: those that start no directive are passed over,
each directive takes so many lines. -/
inductive Layout (marker : List Char) : Nat → List (List Char) → List (Directive × Nat) → Prop
  | done (n : Nat) : Layout marker n [] []
  | filler {n : Nat} {line : List Char} {lines : List (List Char)}
      {blocks : List (Directive × Nat)} :
      matchLine marker line = none → Layout marker (n + 1) lines blocks →
      Layout marker n (line :: lines) blocks
  | block {n : Nat} {first text : List Char} {kind : Kind} {more after : List (List Char)}
      {blocks : List (Directive × Nat)} :
      matchLine marker first = some (kind, text) → Completes marker kind text more →
      joined marker kind text more ≠ [] → Layout marker (n + (more.length + 1)) after blocks →
      Layout marker n (first :: (more ++ after))
        ((⟨kind, String.ofList (joined marker kind text more), n⟩, more.length + 1) :: blocks)

private theorem Layout.parseLines_append {lines : List (List Char)}
    {blocks : List (Directive × Nat)}
    (h : Layout marker n lines blocks) (rest : List (List Char)) :
    parseLines marker n none (lines ++ rest) =
      (blocks.map Prod.fst ++ ·) <$> parseLines marker (n + lines.length) none rest := by
  induction h with
  | done n => simp
  | @filler n line lines blocks hline _ ih =>
    rw [List.cons_append, parseLines, hline, List.length_cons, Nat.add_comm lines.length,
      ← Nat.add_assoc]
    exact ih
  | @block n first text kind more after blocks hfirst hmore hne _ ih =>
    have hcount : n + (first :: (more ++ after)).length =
        n + (more.length + 1) + after.length := by
      simp only [List.length_cons, List.length_append]
      omega
    rw [List.cons_append, List.append_assoc, parseLines_of_match hfirst,
      readFrom_of_completes hmore, if_neg (by simpa using hne), hcount, Nat.add_assoc n,
      Nat.add_comm 1, ih]
    simp

private theorem Layout.parseLines_eq {lines : List (List Char)} {blocks : List (Directive × Nat)}
    (h : Layout marker n lines blocks) :
    parseLines marker n none lines = .ok (blocks.map Prod.fst) := by
  have hall := h.parseLines_append []
  rw [List.append_nil] at hall
  rw [hall, parseLines]
  simp

/-- What is wrong with a directive that has a text and is followed by lines. -/
inductive Fault (marker : List Char) (start : Nat) (kind : Kind) (text : List Char)
    (rest : List (List Char)) : Error → Prop
  | unterminated : RunsPast marker kind text rest →
      Fault marker start kind text rest (.unterminated start kind)
  | empty {more after : List (List Char)} : rest = more ++ after →
      Completes marker kind text more → joined marker kind text more = [] →
      Fault marker start kind text rest (.empty start kind)

private theorem Fault.readFrom_eq {start : Nat} {e : Error}
    (h : Fault marker start kind text rest e) :
    readFrom marker n kind start text rest = .error e := by
  cases h with
  | unterminated hpast => exact readFrom_of_runsPast hpast
  | empty hrest hmore hempty =>
    rw [hrest, readFrom_of_completes hmore, if_pos (by simpa using hempty)]

/-- Lines can be shared out up to the first directive with a fault. -/
theorem exists_layout (marker : List Char) (n : Nat) (lines : List (List Char)) :
    (∃ blocks, Layout marker n lines blocks) ∨
      ∃ before blocks first rest kind text e, lines = before ++ first :: rest ∧
        Layout marker n before blocks ∧ matchLine marker first = some (kind, text) ∧
        Fault marker (n + before.length) kind text rest e := by
  induction hlength : lines.length using Nat.strongRecOn generalizing n lines with
  | ind length ih =>
    cases lines with
    | nil => exact .inl ⟨[], .done n⟩
    | cons first rest =>
      cases hfirst : matchLine marker first with
      | none =>
        rcases ih rest.length (by simp [← hlength]) (n + 1) rest rfl with
          ⟨blocks, h⟩ | ⟨before, blocks, first', rest', kind, text, e, rfl, h, hmatch, hfault⟩
        · exact .inl ⟨blocks, .filler hfirst h⟩
        · refine .inr ⟨first :: before, blocks, first', rest', kind, text, e, rfl,
            .filler hfirst h, hmatch, ?_⟩
          rwa [List.length_cons, Nat.add_comm before.length, ← Nat.add_assoc]
      | some found =>
        obtain ⟨kind, text⟩ := found
        rcases completes_or_runsPast marker kind text rest with ⟨more, after, rfl, hmore⟩ | hpast
        · by_cases hempty : joined marker kind text more = []
          · exact .inr ⟨[], [], first, more ++ after, kind, text, _, rfl, .done n, hfirst,
              .empty rfl hmore hempty⟩
          · have hlt : after.length < length := by
              simp only [← hlength, List.length_cons, List.length_append]
              omega
            rcases ih after.length hlt (n + (more.length + 1)) after rfl with
              ⟨blocks, h⟩ | ⟨before, blocks, first', rest', kind', text', e, rfl, h, hmatch, hfault⟩
            · exact .inl ⟨_, .block hfirst hmore hempty h⟩
            · refine .inr ⟨first :: (more ++ before), _, first', rest', kind', text', e, by simp,
                .block hfirst hmore hempty h, hmatch, ?_⟩
              have hcount : n + (first :: (more ++ before)).length =
                  n + (more.length + 1) + before.length := by
                simp only [List.length_cons, List.length_append]
                omega
              rwa [hcount]
        · exact .inr ⟨[], [], first, rest, kind, text, _, rfl, .done n, hfirst, .unterminated hpast⟩

/-! Texts of directives -/

/-- A text with no blank at either end, in one line. -/
structure Neat (text : List Char) : Prop where
  bare : Text.Bare text
  oneLine : '\n' ∉ text

private theorem neat_trimBlanks {cs : List Char} (h : '\n' ∉ cs) : Neat (Text.trimBlanks cs) :=
  ⟨Text.bare_trimBlanks cs, fun hmem => h (Text.trimBlanks_subset cs hmem)⟩

private theorem neat_of_matchLine {first : List Char} (h : '\n' ∉ first)
    (hfirst : matchLine marker first = some (kind, text)) : Neat text := by
  unfold matchLine at hfirst
  obtain ⟨rest, hrest, hfirst⟩ := Option.bind_eq_some_iff.mp hfirst
  obtain ⟨k, -, hk⟩ := List.exists_of_findSome?_eq_some hfirst
  obtain ⟨after, hafter, hpair⟩ := Option.map_eq_some_iff.mp hk
  obtain ⟨-, rfl⟩ := Prod.mk.inj hpair
  refine neat_trimBlanks ?_
  intro hmem
  have hmem := Text.dropFront?_subset hafter hmem
  have hmem := Text.dropFront?_subset hrest (Text.dropBlanks_subset _ hmem)
  exact h (Text.dropBlanks_subset _ hmem)

private theorem neat_continuation (h : '\n' ∉ line) : Neat (continuation marker kind line) := by
  refine neat_trimBlanks ?_
  have hrest : ∀ rest, '\n' ∉ rest → '\n' ∉ (afterKeyword? kind rest).getD rest := by
    intro rest hrest
    cases hafter : afterKeyword? kind rest with
    | none => exact hrest
    | some after => exact fun hmem => hrest (Text.dropFront?_subset hafter hmem)
  refine hrest _ ?_
  have hline : '\n' ∉ Text.dropBlanks line := fun hmem => h (Text.dropBlanks_subset _ hmem)
  cases hafter : Text.dropFront? marker (Text.dropBlanks line) with
  | none => exact hline
  | some after =>
    exact fun hmem => hline (Text.dropFront?_subset hafter (Text.dropBlanks_subset _ hmem))

private theorem Neat.beforeBackslash (h : Neat text) : Neat
    (Text.dropTrailingBlanks text.dropLast) := by
  have hfront : ∀ c ∈ text.dropLast.head?, Text.isBlank c = false := by
    intro c hc
    refine h.bare.front c ?_
    obtain ⟨back, hback⟩ := List.dropLast_prefix text
    rw [← hback, List.head?_append, hc]
    rfl
  have htrim := neat_trimBlanks fun hmem => h.oneLine (List.dropLast_subset text hmem)
  rwa [Text.trimBlanks, Text.dropBlanks_of_head hfront] at htrim

theorem Neat.glue {front back : List Char} (hfront : Neat front) (hback : Neat back) :
    Neat (glue front back) := by
  by_cases hfe : front = []
  · simpa [Directive.glue, hfe] using hback
  by_cases hbe : back = []
  · simpa [Directive.glue, hfe, hbe] using hfront
  rw [glue_of_ne_nil hfe hbe]
  refine ⟨⟨?_, ?_⟩, ?_⟩
  · rw [List.head?_append_of_ne_nil _ hfe]
    exact hfront.bare.front
  · have hlast := List.getLast?_append_of_ne_nil (front ++ [' ']) hbe
    rw [List.append_assoc] at hlast
    rw [show front ++ ' ' :: back = front ++ ([' '] ++ back) from rfl, hlast]
    exact hback.bare.back
  · simp [hfront.oneLine, hback.oneLine]

theorem Neat.extended (htext : Neat text) (hline : '\n' ∉ line) :
    Neat (extended marker kind text line) :=
  htext.beforeBackslash.glue (neat_continuation hline)

theorem Neat.joined (htext : Neat text) (hmore : ∀ line ∈ more, '\n' ∉ line) :
    Neat (joined marker kind text more) := by
  induction more generalizing text with
  | nil => exact htext
  | cons line more ih =>
    rw [List.forall_mem_cons] at hmore
    exact ih (htext.extended hmore.1) hmore.2

/-! What a layout says -/

variable {lines : List (List Char)} {blocks : List (Directive × Nat)}

private theorem Layout.le_line (h : Layout marker n lines blocks) : ∀ b ∈ blocks, n ≤ b.1.line := by
  induction h with
  | done n => simp
  | filler _ _ ih => exact fun b hb => Nat.le_of_succ_le (ih b hb)
  | block _ _ _ _ ih =>
    rw [List.forall_mem_cons]
    exact ⟨Nat.le_refl _, fun b hb => Nat.le_trans (Nat.le_add_right _ _) (ih b hb)⟩

private theorem Layout.disjoint (h : Layout marker n lines blocks) :
    blocks.Pairwise fun a b => a.1.line + a.2 ≤ b.1.line := by
  induction h with
  | done n => exact .nil
  | filler _ _ ih => exact ih
  | block _ _ _ hafter ih => exact .cons hafter.le_line ih

theorem Owns.cons {d : Directive} {count : Nat} (h : Owns marker (n + 1) lines d count)
    (first : List Char) : Owns marker n (first :: lines) d count := by
  obtain ⟨before, start, more, after, text, rfl, hline, hrest⟩ := h
  refine ⟨first :: before, start, more, after, text, rfl, ?_, hrest⟩
  rw [hline, List.length_cons]
  omega

theorem Owns.append {d : Directive} {count : Nat} (front : List (List Char))
    (h : Owns marker (n + front.length) lines d count) :
    Owns marker n (front ++ lines) d count := by
  obtain ⟨before, start, more, after, text, rfl, hline, hrest⟩ := h
  refine ⟨front ++ before, start, more, after, text, by simp, ?_, hrest⟩
  rw [hline, List.length_append, Nat.add_assoc]

private theorem Layout.owns (h : Layout marker n lines blocks) :
    ∀ b ∈ blocks, Owns marker n lines b.1 b.2 := by
  induction h with
  | done n => simp
  | filler _ _ ih => exact fun b hb => (ih b hb).cons _
  | @block n first text kind more after blocks hfirst hmore _ _ ih =>
    rw [List.forall_mem_cons]
    refine ⟨⟨[], first, more, after, text, rfl, rfl, rfl, hfirst, hmore, rfl⟩, ?_⟩
    intro b hb
    exact Owns.append (first :: more) (ih b hb)

theorem Layout.matchLine_eq_none (h : Layout marker n lines blocks)
    {before after : List (List Char)} (hlines : lines = before ++ line :: after)
    (hfree : ∀ b ∈ blocks, ¬ (b.1.line ≤ n + before.length ∧ n + before.length < b.1.line + b.2)) :
    matchLine marker line = none := by
  induction h generalizing before with
  | done n => simp at hlines
  | @filler n first lines blocks hfirst _ ih =>
    cases before with
    | nil =>
      obtain ⟨rfl, -⟩ := List.cons.inj hlines
      exact hfirst
    | cons _ before =>
      refine ih (List.cons.inj hlines).2 ?_
      intro b hb
      have hb := hfree b hb
      rw [List.length_cons] at hb
      omega
  | @block n first text kind more after' blocks _ _ _ _ ih =>
    rw [List.forall_mem_cons] at hfree
    -- the line is none of the first directive's, so that it lies behind them
    have hbehind : (first :: more).length ≤ before.length := by
      have := hfree.1
      simp only [List.length_cons] at this ⊢
      omega
    have hprefix : first :: more <+: before := by
      refine List.prefix_of_prefix_length_le ⟨after', rfl⟩ ⟨line :: after, hlines.symm⟩ hbehind
    obtain ⟨before', rfl⟩ := hprefix
    have hlines' : after' = before' ++ line :: after := by simpa using hlines
    refine ih hlines' ?_
    intro b hb
    have hb := hfree.2 b hb
    simp only [List.cons_append, List.length_cons, List.length_append] at hb
    omega

private theorem Layout.isSegment (h : Layout marker n lines blocks)
    (hlines : ∀ line ∈ lines, '\n' ∉ line) :
    ∀ b ∈ blocks, IsSegment b.1.text := by
  induction h with
  | done n => simp
  | filler _ _ ih => exact ih fun l hl => hlines l (List.mem_cons_of_mem _ hl)
  | @block n first text kind more after blocks hfirst hmore hne _ ih =>
    simp only [List.forall_mem_cons, List.forall_mem_append] at hlines ⊢
    obtain ⟨hline, hlines, hafter⟩ := hlines
    have hneat : Neat (joined marker kind text more) :=
      (neat_of_matchLine hline hfirst).joined hlines
    refine ⟨⟨?_, ?_, ?_, ?_⟩, ih hafter⟩
    · simpa using hne
    · simp [Text.trim, hneat.bare.trimBlanks]
    · simpa using hneat.oneLine
    · simpa [GoesOn] using hmore.ends

def fileLines (contents : String) : List (List Char) :=
  (Text.lines contents).map String.toList

private theorem parse_eq (contents marker : String) :
    parse contents marker = parseLines marker.toList 1 none (fileLines contents) :=
  rfl

private theorem not_mem_of_mem_fileLines {contents : String} (h : line ∈ fileLines contents) :
    '\n' ∉ line := by
  obtain ⟨l, hl, rfl⟩ := List.mem_map.mp h
  exact Text.not_mem_of_mem_lines hl

/-- The blocks of lines of the directives of a file account for every line that starts a
directive. -/
structure Accounts (marker : List Char) (lines : List (List Char))
    (blocks : List (Directive × Nat)) : Prop where
  increasing : blocks.Pairwise fun a b => a.1.line < b.1.line
  owns : ∀ b ∈ blocks, Owns marker 1 lines b.1 b.2
  disjoint : blocks.Pairwise fun a b => a.1.line + a.2 ≤ b.1.line
  covers : ∀ before line after, lines = before ++ line :: after →
    (∀ b ∈ blocks, ¬ (b.1.line ≤ before.length + 1 ∧ before.length + 1 < b.1.line + b.2)) →
    matchLine marker line = none
  texts : ∀ b ∈ blocks, IsSegment b.1.text

private theorem Layout.accounts {contents : String} {blocks : List (Directive × Nat)}
    (h : Layout marker 1 (fileLines contents) blocks) :
    Accounts marker (fileLines contents) blocks := by
  refine ⟨?_, h.owns, h.disjoint, ?_, h.isSegment fun _ => not_mem_of_mem_fileLines⟩
  · refine h.disjoint.imp_of_mem ?_
    intro a b ha _ hab
    obtain ⟨_, _, _, _, _, _, _, hcount, -⟩ := h.owns a ha
    omega
  · intro before line after hlines hfree
    refine h.matchLine_eq_none hlines ?_
    rwa [Nat.add_comm 1]

private theorem Fault.unterminated_iff {start : Nat} {e : Error}
    (h : Fault marker start kind text rest e) :
    e = .unterminated start kind ↔ RunsPast marker kind text rest := by
  cases h with
  | unterminated hpast => exact ⟨fun _ => hpast, fun _ => rfl⟩
  | @empty more after hrest hmore _ =>
    subst hrest
    exact ⟨nofun, fun hpast => absurd hpast (hmore.not_runsPast after)⟩

private theorem Fault.empty_iff {start : Nat} {e : Error}
    (h : Fault marker start kind text rest e) :
    e = .empty start kind ↔ ∃ more after, rest = more ++ after ∧
      Completes marker kind text more ∧ joined marker kind text more = [] := by
  cases h with
  | unterminated hpast =>
    refine ⟨nofun, ?_⟩
    rintro ⟨more, after, rfl, hmore, -⟩
    exact absurd hpast (hmore.not_runsPast after)
  | empty hrest hmore hempty => exact ⟨fun _ => ⟨_, _, hrest, hmore, hempty⟩, fun _ => rfl⟩

private theorem Fault.eq_or_eq {start : Nat} {e : Error} (h : Fault marker start kind text rest e) :
    e = .unterminated start kind ∨ e = .empty start kind := by
  cases h with
  | unterminated => exact .inl rfl
  | empty => exact .inr rfl

/-- If a file can be read, each of its directives has a block of lines of its own, and all lines
that start a directive are in one. A fault is that of the first directive that cannot be read: all
lines before it can be, and it is unterminated or empty as its lines say. -/
theorem parse_accounts (contents marker : String) :
    (∀ ds, parse contents marker = .ok ds → ∃ blocks : List (Directive × Nat),
      ds = blocks.map Prod.fst ∧ Accounts marker.toList (fileLines contents) blocks) ∧
    ∀ e, parse contents marker = .error e → ∃ before first rest kind text,
      fileLines contents = before ++ first :: rest ∧
      matchLine marker.toList first = some (kind, text) ∧
      (∃ ds, parse (String.ofList (Text.firstLines before.length contents.toList)) marker = .ok ds) ∧
      (e = .unterminated (before.length + 1) kind ∨ e = .empty (before.length + 1) kind) ∧
      (e = .unterminated (before.length + 1) kind ↔ RunsPast marker.toList kind text rest) ∧
      (e = .empty (before.length + 1) kind ↔ ∃ more after, rest = more ++ after ∧
        Completes marker.toList kind text more ∧ joined marker.toList kind text more = []) := by
  rw [parse_eq]
  rcases exists_layout marker.toList 1 (fileLines contents) with
    ⟨blocks, h⟩ | ⟨before, blocks, first, rest, kind, text, e, hlines, h, hfirst, hfault⟩
  · rw [h.parseLines_eq]
    refine ⟨?_, nofun⟩
    rintro ds ⟨⟩
    exact ⟨blocks, rfl, h.accounts⟩
  · have hread : parseLines marker.toList 1 none (fileLines contents) = .error e := by
      rw [hlines, h.parseLines_append, parseLines_of_match hfirst, hfault.readFrom_eq]
      rfl
    have hbefore : fileLines (String.ofList (Text.firstLines before.length contents.toList)) =
        before := by
      rw [fileLines, Text.lines_firstLines, List.map_take, ← fileLines, hlines, List.take_left]
    rw [Nat.add_comm 1] at hfault
    rw [hread]
    refine ⟨nofun, ?_⟩
    rintro _ ⟨⟩
    refine ⟨before, first, rest, kind, text, hlines, hfirst, ⟨blocks.map Prod.fst, ?_⟩,
      hfault.eq_or_eq, hfault.unterminated_iff, hfault.empty_iff⟩
    rw [parse_eq, hbefore, h.parseLines_eq]

/-- A directive over four lines: of two backslashes one is left over, and with it the text goes on
behind an empty line. A file whose second directive has two lines and no text. -/
theorem parse_accounts_swallowed :
    (∃ blocks : List (Directive × Nat),
      [⟨.run, "a CHECK: b XFAIL: *", 1⟩, ⟨.run, "c", 5⟩] = blocks.map Prod.fst ∧
      Accounts ['#'] (fileLines "# RUN: a \\\n# CHECK: b \\\\\n\n# XFAIL: *\n# RUN: c") blocks) ∧
    ∃ before first rest kind text,
      fileLines "# RUN: c\n# CHECK: \\\n#" = before ++ first :: rest ∧
      matchLine ['#'] first = some (kind, text) ∧
      (Error.empty 2 .check = .empty (before.length + 1) kind ↔ ∃ more after,
        rest = more ++ after ∧ Completes ['#'] kind text more ∧
          joined ['#'] kind text more = []) := by
  have hblocks := (parse_accounts
    "# RUN: a \\\n# CHECK: b \\\\\n\n# XFAIL: *\n# RUN: c" "#").1 _ rfl
  have hfault := (parse_accounts "# RUN: c\n# CHECK: \\\n#" "#").2 (.empty 2 .check) rfl
  obtain ⟨before, first, rest, kind, text, hlines, hfirst, -, -, -, hempty⟩ := hfault
  exact ⟨hblocks, before, first, rest, kind, text, hlines, hfirst, hempty⟩

end ShellSuite.Directive
