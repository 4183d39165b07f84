import Mathlib.Data.List.Basic
import ShellSuite.Directive
import ShellSuite.Proofs.Text.Lines

set_option autoImplicit false
set_option relaxedAutoImplicit false

/-!
Test files as they are written: lines without a meaning, and directives that go over one or more
lines. What is written in this way is what is read.
-/

namespace ShellSuite.Directive

/-- A part of a test file: a line that is no directive, or a directive in one or more segments. -/
inductive Block where
  | filler (line : String)
  | directive (kind : Kind) (first : String) (more : List String)
  deriving DecidableEq, Repr

def writtenLine (marker : String) (kind : Kind) (text : String) : String :=
  marker ++ " " ++ kind.keyword ++ ": " ++ text

/-- The lines of a directive: every segment but the last one goes on in the next line. -/
def writtenLines (marker : String) (kind : Kind) : String → List String → List String
  | last, [] => [writtenLine marker kind last]
  | segment, next :: more =>
    writtenLine marker kind (segment ++ " \\") :: writtenLines marker kind next more

def Block.lines (marker : String) : Block → List String
  | .filler line => [line]
  | .directive kind first more => writtenLines marker kind first more

def Block.directive? (line : Nat) : Block → Option Directive
  | .filler _ => none
  | .directive kind first more => some ⟨kind, Text.join " " (first :: more), line⟩

/-- The directives of a file whose lines are numbered from `n` on. -/
def Block.directives (marker : String) (n : Nat) : List Block → List Directive
  | [] => []
  | b :: bs => (b.directive? n).toList ++ Block.directives marker (n + (b.lines marker).length) bs

/-- Markers are not empty, do not start with a blank, and stand in one line. -/
structure IsMarker (marker : String) : Prop where
  nonempty : marker ≠ ""
  front : ∀ c ∈ marker.toList.head?, Text.isBlank c = false
  oneLine : '\n' ∉ marker.toList

/-- Segments are not empty, have no blanks around them, stand in one line, and do not end in a
backslash. -/
structure IsSegment (segment : String) : Prop where
  nonempty : segment ≠ ""
  trimmed : Text.trim segment = segment
  oneLine : '\n' ∉ segment.toList
  back : segment.toList.getLast? ≠ some '\\'

/-- A line that starts a directive: the marker and a keyword with its colon, with nothing but blanks
before them and between them. -/
def Starts (marker line : String) : Prop :=
  ∃ (indent gap text : List Char) (kind : Kind), line.toList =
      indent ++ (marker.toList ++ (gap ++ (kind.keyword.toList ++ ':' :: text))) ∧
    (∀ c ∈ indent, Text.isBlank c = true) ∧ ∀ c ∈ gap, Text.isBlank c = true

/-- Parts of a file that can be written: fillers start no directive. -/
def Block.WellFormed (marker : String) : Block → Prop
  | .filler line => '\n' ∉ line.toList ∧ ¬ Starts marker line
  | .directive _ first more => ∀ segment ∈ first :: more, IsSegment segment

variable {marker : String} {kind : Kind} {segment : String}

/-! Lines of a directive -/

private theorem keyword_front (kind : Kind) (text : List Char) :
    ∀ c ∈ (kind.keyword.toList ++ ':' :: text).head?, Text.isBlank c = false := by
  cases kind <;> simp [Kind.keyword] <;> decide

private theorem afterKeyword?_keyword (kind : Kind) (text : List Char) :
    afterKeyword? kind (kind.keyword.toList ++ ':' :: text) = some text := by
  have h := Text.dropFront?_append (kind.keyword.toList ++ [':']) text
  rwa [List.append_assoc] at h

private theorem afterKeyword?_other {k : Kind} (h : k ≠ kind) (text : List Char) :
    afterKeyword? k (kind.keyword.toList ++ ':' :: text) = none := by
  cases k <;> cases kind <;>
    first
    | exact absurd rfl h
    | simp [afterKeyword?, Kind.keyword, Text.dropFront?]

private theorem findSome?_keyword (kind : Kind) (text : List Char) :
    (kinds.findSome? fun k =>
      (afterKeyword? k (kind.keyword.toList ++ ':' :: text)).map fun t => (k, Text.trimBlanks t)) =
    some (kind, Text.trimBlanks text) := by
  cases kind <;> simp [kinds, afterKeyword?_keyword, afterKeyword?_other]

private theorem IsMarker.front_append (h : IsMarker marker) (rest : List Char) :
    ∀ c ∈ (marker.toList ++ rest).head?, Text.isBlank c = false := by
  have hne : marker.toList ≠ [] := by simpa using h.nonempty
  intro c hc
  rw [List.head?_append_of_ne_nil _ hne] at hc
  exact h.front c hc

private theorem matchLine_of_starts (h : IsMarker marker) {indent gap : List Char}
    (hindent : ∀ c ∈ indent, Text.isBlank c = true) (hgap : ∀ c ∈ gap, Text.isBlank c = true)
    (kind : Kind) (text : List Char) :
    matchLine marker.toList
        (indent ++ (marker.toList ++ (gap ++ (kind.keyword.toList ++ ':' :: text)))) =
      some (kind, Text.trimBlanks text) := by
  have hkeyword := findSome?_keyword kind text
  unfold matchLine
  rw [Text.dropBlanks_append hindent, Text.dropBlanks_of_head (h.front_append _),
    Text.dropFront?_append]
  simp only [Option.bind_eq_bind, Option.bind_some]
  rw [Text.dropBlanks_append hgap, Text.dropBlanks_of_head (keyword_front kind text)]
  exact hkeyword

private theorem starts_of_matchLine {line : String} {text : List Char}
    (h : matchLine marker.toList line.toList = some (kind, text)) : Starts marker line := by
  unfold matchLine at h
  obtain ⟨rest, hrest, h⟩ := Option.bind_eq_some_iff.mp h
  obtain ⟨k, -, hk⟩ := List.exists_of_findSome?_eq_some h
  obtain ⟨after, hafter, -⟩ := Option.map_eq_some_iff.mp hk
  obtain ⟨indent, hline, hindent⟩ := Text.exists_eq_append_dropBlanks line.toList
  obtain ⟨gap, hgap, hblank⟩ := Text.exists_eq_append_dropBlanks rest
  rw [Text.dropFront?_eq_some_iff] at hrest
  rw [afterKeyword?, Text.dropFront?_eq_some_iff, List.append_assoc] at hafter
  refine ⟨indent, gap, after, k, ?_, hindent, hblank⟩
  rw [hline, hrest, hgap, hafter]
  simp

theorem matchLine_eq_none {line : String} (h : ¬ Starts marker line) :
    matchLine marker.toList line.toList = none := by
  cases hmatch : matchLine marker.toList line.toList with
  | none => rfl
  | some found => exact absurd (starts_of_matchLine hmatch) h

private theorem not_starts_of_matchLine (h : IsMarker marker) {line : String}
    (hnone : matchLine marker.toList line.toList = none) : ¬ Starts marker line := by
  rintro ⟨indent, gap, text, k, hline, hindent, hgap⟩
  rw [hline, matchLine_of_starts h hindent hgap] at hnone
  cases hnone

theorem Starts.of_append {line front : String} {back : List Char}
    (hline : line.toList = front.toList ++ back) (h : Starts marker front) : Starts marker line := by
  obtain ⟨indent, gap, text, k, hfront, hindent, hgap⟩ := h
  refine ⟨indent, gap, text ++ back, k, ?_, hindent, hgap⟩
  rw [hline, hfront]
  simp

theorem writtenLine_toList (marker : String) (kind : Kind) (text : String) :
    (writtenLine marker kind text).toList =
      marker.toList ++ ([' '] ++ (kind.keyword.toList ++ ':' :: ' ' :: text.toList)) := by
  simp [writtenLine]

theorem matchLine_written (h : IsMarker marker) (kind : Kind) (text : String) :
    matchLine marker.toList (writtenLine marker kind text).toList =
      some (kind, Text.trimBlanks text.toList) := by
  have hnone : ∀ c ∈ ([] : List Char), Text.isBlank c = true := by simp
  have hspace : ∀ c ∈ [' '], Text.isBlank c = true := by simp; decide
  have hmatch := matchLine_of_starts h hnone hspace kind (' ' :: text.toList)
  rw [Text.trimBlanks_cons (by decide)] at hmatch
  rw [writtenLine_toList]
  exact hmatch

private theorem continuation_written (h : IsMarker marker) (kind : Kind) (text : String) :
    continuation marker.toList kind (writtenLine marker kind text).toList =
      Text.trimBlanks text.toList := by
  have hspace : ∀ c ∈ [' '], Text.isBlank c = true := by simp; decide
  simp only [continuation, writtenLine_toList, Text.dropBlanks_of_head (h.front_append _),
    Text.dropFront?_append, Option.map_some, Option.getD_some]
  rw [Text.dropBlanks_append hspace, Text.dropBlanks_of_head (keyword_front kind _),
    afterKeyword?_keyword, Option.getD_some, Text.trimBlanks_cons (by decide)]

/-! Segments -/

theorem IsSegment.bare (h : IsSegment segment) : Text.Bare segment.toList :=
  Text.bare_of_trim h.trimmed

private theorem IsSegment.toList_ne_nil (h : IsSegment segment) : segment.toList ≠ [] := by
  simpa using h.nonempty

/-- A text that is complete so far: it ends neither in a blank nor in a backslash. -/
structure Whole (text : List Char) : Prop where
  nonempty : text ≠ []
  blank : ∀ c ∈ text.getLast?, Text.isBlank c = false
  backslash : text.getLast? ≠ some '\\'

theorem IsSegment.whole (h : IsSegment segment) : Whole segment.toList :=
  ⟨h.toList_ne_nil, h.bare.back, h.back⟩

theorem Whole.after {text : List Char} (h : Whole text) (front : List Char) :
    Whole (front ++ ' ' :: text) := by
  have hlast : (front ++ ' ' :: text).getLast? = text.getLast? := by
    rw [← List.getLast?_append_of_ne_nil (front ++ [' ']) h.nonempty]
    simp
  refine ⟨by simp, ?_, ?_⟩
  · rw [hlast]
    exact h.blank
  · rw [hlast]
    exact h.backslash

theorem Whole.beforeBackslash? {text : List Char} (h : Whole text) :
    beforeBackslash? text = none := by
  rw [Directive.beforeBackslash?, if_neg h.backslash]

private theorem Whole.beforeBackslash?_open {text : List Char} (h : Whole text) :
    Directive.beforeBackslash? (text ++ [' ', '\\']) = some text := by
  have hspace : ∀ c ∈ [' '], Text.isBlank c = true := by simp; decide
  have hfront : (text ++ [' ', '\\']).dropLast = text ++ [' '] := by
    rw [List.dropLast_append_of_ne_nil (by simp)]
    rfl
  rw [Directive.beforeBackslash?, if_pos (by simp), hfront,
    Text.dropTrailingBlanks_append _ hspace, Text.dropTrailingBlanks_of_last h.blank]

theorem IsSegment.trimBlanks (h : IsSegment segment) :
    Text.trimBlanks segment.toList = segment.toList :=
  h.bare.trimBlanks

private theorem IsSegment.trimBlanks_open (h : IsSegment segment) :
    Text.trimBlanks (segment ++ " \\").toList = segment.toList ++ [' ', '\\'] := by
  have hbare : Text.Bare (segment.toList ++ [' ', '\\']) := by
    constructor
    · intro c hc
      rw [List.head?_append_of_ne_nil _ h.toList_ne_nil] at hc
      exact h.bare.front c hc
    · intro c hc
      obtain rfl : '\\' = c := by simpa using hc
      decide
  simpa using hbare.trimBlanks

theorem glue_of_ne_nil {front back : List Char} (hfront : front ≠ []) (hback : back ≠ []) :
    glue front back = front ++ ' ' :: back := by
  simp [glue, hfront, hback]

/-! Files -/

private theorem join_toList_cons (first next : String) (more : List String) :
    (Text.join " " (first :: next :: more)).toList =
      first.toList ++ ' ' :: (Text.join " " (next :: more)).toList := by
  simp [Text.join, String.intercalate_cons_cons]

private theorem length_writtenLines (marker : String) (kind : Kind) (first : String)
    (more : List String) : (writtenLines marker kind first more).length = more.length + 1 := by
  induction more generalizing first with
  | nil => rfl
  | cons next more ih => rw [writtenLines, List.length_cons, ih, List.length_cons]

private theorem parseLines_open (hmarker : IsMarker marker) {front : List Char}
    (hfront : Whole front)
    {first : String} {more : List String} (h : ∀ segment ∈ first :: more, IsSegment segment)
    (kind : Kind) (line n : Nat) (rest : List (List Char)) :
    parseLines marker.toList n (some ⟨kind, line, front⟩)
        ((writtenLines marker kind first more).map String.toList ++ rest) =
      (⟨kind, String.ofList (front ++ ' ' :: (Text.join " " (first :: more)).toList), line⟩ :: ·) <$>
        parseLines marker.toList (n + (more.length + 1)) none rest := by
  have hfirst := h first List.mem_cons_self
  have hwhole := hfirst.whole.after front
  induction more generalizing first front n with
  | nil =>
    have htext : (front ++ ' ' :: first.toList).isEmpty = false := by simp
    simp only [writtenLines, List.map_cons, List.map_nil, List.cons_append, List.nil_append,
      parseLines, continuation_written hmarker, hfirst.trimBlanks,
      glue_of_ne_nil hfront.nonempty hfirst.toList_ne_nil, hwhole.beforeBackslash?, htext, Text.join,
      String.intercalate_singleton]
    rfl
  | cons next more ih =>
    have hmore : ∀ segment ∈ next :: more, IsSegment segment :=
      fun segment hs => h segment (List.mem_cons_of_mem _ hs)
    have hglue : glue front (first.toList ++ [' ', '\\']) =
        (front ++ ' ' :: first.toList) ++ [' ', '\\'] := by
      rw [glue_of_ne_nil hfront.nonempty (by simp)]
      simp
    have hnext := hmore next List.mem_cons_self
    have hrest := ih hwhole hmore (n + 1) hnext (hnext.whole.after _)
    have hcount : n + 1 + (more.length + 1) = n + ((next :: more).length + 1) := by
      rw [List.length_cons]
      omega
    simp only [writtenLines, List.map_cons, List.cons_append, parseLines,
      continuation_written hmarker, hfirst.trimBlanks_open, hglue, hwhole.beforeBackslash?_open,
      hrest, hcount, join_toList_cons]
    simp

private theorem parseLines_written (hmarker : IsMarker marker) {first : String} {more : List String}
    (h : ∀ segment ∈ first :: more, IsSegment segment) (kind : Kind) (n : Nat)
    (rest : List (List Char)) :
    parseLines marker.toList n none
        ((writtenLines marker kind first more).map String.toList ++ rest) =
      (⟨kind, Text.join " " (first :: more), n⟩ :: ·) <$>
        parseLines marker.toList (n + (more.length + 1)) none rest := by
  have hfirst := h first List.mem_cons_self
  cases more with
  | nil =>
    have htext : first.toList.isEmpty = false := by simpa using hfirst.nonempty
    simp only [writtenLines, List.map_cons, List.map_nil, List.cons_append, List.nil_append,
      parseLines, matchLine_written hmarker, hfirst.trimBlanks, hfirst.whole.beforeBackslash?,
      htext, Text.join, String.intercalate_singleton, String.ofList_toList]
    rfl
  | cons next more =>
    have hmore : ∀ segment ∈ next :: more, IsSegment segment :=
      fun segment hs => h segment (List.mem_cons_of_mem _ hs)
    have hopen := parseLines_open hmarker hfirst.whole hmore kind n (n + 1) rest
    have hcount : n + 1 + (more.length + 1) = n + ((next :: more).length + 1) := by
      rw [List.length_cons]
      omega
    simp only [writtenLines, List.map_cons, List.cons_append, parseLines,
      matchLine_written hmarker, hfirst.trimBlanks_open, hfirst.whole.beforeBackslash?_open, hopen,
      hcount, ← join_toList_cons, String.ofList_toList]

private theorem parseLines_filler {line : String} (h : ¬ Starts marker line) (n : Nat)
    (lines : List (List Char)) :
    parseLines marker.toList n none (Text.reread (line.toList :: lines)) =
      parseLines marker.toList (n + 1) none (Text.reread lines) := by
  cases lines with
  | nil =>
    by_cases hline : line.toList = []
    · simp [Text.reread, hline, parseLines]
    · simp [Text.reread, hline, parseLines, matchLine_eq_none h]
  | cons next lines =>
    have hkept : ∃ front back, line.toList = front ++ back ∧
        Text.dropReturn (line.toList, true) = front := by
      refine ⟨Text.dropReturn (line.toList, true), ?_⟩
      by_cases hlast : line.toList.getLast? = some '\r'
      · have hsplit := List.dropLast_append_getLast? _ hlast
        exact ⟨['\r'], by simp [Text.dropReturn, hlast, hsplit], rfl⟩
      · exact ⟨[], by simp [Text.dropReturn, hlast], rfl⟩
    obtain ⟨front, back, hline, hfront⟩ := hkept
    have hnone : matchLine marker.toList front = none := by
      have hstarts : ¬ Starts marker (String.ofList front) := by
        intro hfront
        have hcut : line.toList = (String.ofList front).toList ++ back := by simpa using hline
        exact h (hfront.of_append hcut)
      simpa using matchLine_eq_none hstarts
    rw [Text.reread, hfront, parseLines, hnone]
    simp

private theorem writtenLines_seen (marker : String) (kind : Kind) {first : String}
    {more : List String}
    (h : ∀ segment ∈ first :: more, IsSegment segment) :
    ∀ l ∈ (writtenLines marker kind first more).map String.toList,
      l ≠ [] ∧ l.getLast? ≠ some '\r' := by
  have hline : ∀ text : String, (∀ c ∈ text.toList.getLast?, Text.isBlank c = false) →
      text.toList ≠ [] → (writtenLine marker kind text).toList ≠ [] ∧
        (writtenLine marker kind text).toList.getLast? ≠ some '\r' := by
    intro text hback hne
    rw [writtenLine_toList]
    refine ⟨by simp, ?_⟩
    intro hreturn
    have hlast : text.toList.getLast? = some '\r' := by
      rw [← hreturn, ← List.getLast?_append_of_ne_nil
        (marker.toList ++ ([' '] ++ (kind.keyword.toList ++ [':', ' ']))) hne]
      simp
    exact absurd (hback '\r' hlast) (by decide)
  induction more generalizing first with
  | nil =>
    have hfirst := h first List.mem_cons_self
    simpa [writtenLines] using hline first hfirst.bare.back hfirst.toList_ne_nil
  | cons next more ih =>
    have hmore := ih fun segment hs => h segment (List.mem_cons_of_mem _ hs)
    intro l hl
    rw [writtenLines, List.map_cons, List.mem_cons] at hl
    rcases hl with rfl | hl
    · refine hline (first ++ " \\") ?_ (by simp)
      intro c hc
      obtain rfl : '\\' = c := by simpa using hc
      decide
    · exact hmore l hl

theorem Block.oneLine (hmarker : IsMarker marker) {b : Block} (h : b.WellFormed marker) :
    ∀ line ∈ b.lines marker, '\n' ∉ line.toList := by
  have hwritten : ∀ kind text, '\n' ∉ String.toList text →
      '\n' ∉ (writtenLine marker kind text).toList := by
    intro kind text htext
    have hkeyword : '\n' ∉ kind.keyword.toList := by cases kind <;> decide
    rw [writtenLine_toList]
    simp [hmarker.oneLine, hkeyword, htext]
  cases b with
  | filler line => simpa [Block.lines] using h.1
  | directive kind first more =>
    rw [Block.lines]
    rw [Block.WellFormed] at h
    induction more generalizing first with
    | nil =>
      have hfirst := (h first List.mem_cons_self).oneLine
      simpa [writtenLines] using hwritten kind first hfirst
    | cons next more ih =>
      have hfirst := (h first List.mem_cons_self).oneLine
      intro line hline
      rw [writtenLines, List.mem_cons] at hline
      rcases hline with rfl | hline
      · exact hwritten kind _ (by simpa using hfirst)
      · exact ih next (fun segment hs => h segment (List.mem_cons_of_mem _ hs)) line hline

private theorem parseLines_blocks (hmarker : IsMarker marker) {bs : List Block}
    (h : ∀ b ∈ bs, b.WellFormed marker) (n : Nat) :
    parseLines marker.toList n none
        (Text.reread ((bs.flatMap (Block.lines marker)).map String.toList)) =
      .ok (Block.directives marker n bs) := by
  induction bs generalizing n with
  | nil => rfl
  | cons b bs ih =>
    have hb := h b List.mem_cons_self
    have hbs := ih fun b hb => h b (List.mem_cons_of_mem _ hb)
    rw [List.flatMap_cons, List.map_append]
    cases b with
    | filler line =>
      have hskip := parseLines_filler hb.2 n
        ((bs.flatMap (Block.lines marker)).map String.toList)
      rw [hbs] at hskip
      exact hskip
    | directive kind first more =>
      rw [Block.lines, Text.reread_append (writtenLines_seen marker kind hb),
        parseLines_written hmarker hb kind n, hbs, Block.directives, Block.lines, length_writtenLines]
      rfl

/-- A file that is written as parts, for a marker that a line can start with, is read as the
directives of its parts in order, each with its segments joined by single spaces and the number of
its first line. -/
theorem parse_written (marker : String) (hmarker : IsMarker marker) (bs : List Block)
    (h : ∀ b ∈ bs, b.WellFormed marker) :
    parse (Text.join "\n" (bs.flatMap (Block.lines marker))) marker =
      .ok (Block.directives marker 1 bs) := by
  have hlines : ∀ line ∈ bs.flatMap (Block.lines marker), '\n' ∉ line.toList := by
    intro line hline
    obtain ⟨b, hb, hline⟩ := List.mem_flatMap.mp hline
    exact Block.oneLine hmarker (h b hb) line hline
  rw [parse, Text.lines_join hlines]
  exact parseLines_blocks hmarker h 1

/-- A directive over two lines whose segments look like directives themselves, between a line that
ends in a carriage return and an empty line. -/
theorem parse_written_continued :
    parse "intro\r\n# RUN: echo # RUN: a\\b \\\n# RUN: RUN: c\n\n# CHECK: x" "#" =
      .ok [⟨.run, "echo # RUN: a\\b RUN: c", 2⟩, ⟨.check, "x", 5⟩] := by
  have hfront : ∀ c ∈ "#".toList.head?, Text.isBlank c = false := by
    rintro c ⟨⟩
    rfl
  have hmarker : IsMarker "#" := ⟨by decide, hfront, by decide⟩
  have hsegment : ∀ segment ∈ ["echo # RUN: a\\b", "RUN: c", "x"], IsSegment segment := by
    intro segment hs
    simp only [List.mem_cons, List.not_mem_nil, or_false] at hs
    rcases hs with rfl | rfl | rfl <;> exact ⟨by decide, by decide, by decide, by decide⟩
  have hfiller : ∀ line ∈ ["intro\r", ""], '\n' ∉ line.toList ∧ ¬ Starts "#" line := by
    intro line hline
    simp only [List.mem_cons, List.not_mem_nil, or_false] at hline
    rcases hline with rfl | rfl <;>
      exact ⟨by decide, not_starts_of_matchLine hmarker (by decide)⟩
  have hread := parse_written "#" hmarker
    [.filler "intro\r", .directive .run "echo # RUN: a\\b" ["RUN: c"], .filler "",
      .directive .check "x" []] (by
    simp only [List.forall_mem_cons, Block.WellFormed]
    simp [hsegment, hfiller])
  have htext : Text.join "\n" (([.filler "intro\r",
      .directive .run "echo # RUN: a\\b" ["RUN: c"], .filler "",
      .directive .check "x" []] : List Block).flatMap (Block.lines "#")) =
      "intro\r\n# RUN: echo # RUN: a\\b \\\n# RUN: RUN: c\n\n# CHECK: x" := by
    decide
  rw [htext] at hread
  exact hread

end ShellSuite.Directive
