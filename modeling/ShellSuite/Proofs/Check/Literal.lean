import ShellSuite.Proofs.Check.Blocks
import ShellSuite.Proofs.Check.Placement

set_option autoImplicit false
set_option relaxedAutoImplicit false

/-!
A pattern without blocks is looked for as a text, and not as the regular expression that the escaped
text is. Both find the same. The machine of a text is a chain with a node for each end of the text,
and the threads of a search are the attempts that have not failed yet, the oldest one first.
-/

namespace ShellSuite

private theorem Text.CharSet.mem_single (c d : Char) : (single d).mem c = (d == c) := by
  have hchar : d = c ↔ d.toNat = c.toNat := ⟨congrArg Char.toNat, Char.toNat_inj.mp⟩
  rw [Bool.eq_iff_iff, beq_iff_eq, hchar]
  simp only [mem, hasCode, single, range, holds]
  grind

namespace Check

open Regex (Program Thread Frontier)

def literal (text : List Char) : Regex :=
  .concat (text.map fun c => .chars (.single c))

/-! ### The machine of a text -/

/-- The machine is a chain: the node for an end of the text reads its first character. -/
structure Spells (p : Program) (text : List Char) : Prop where
  entry : p.entry = text.length
  size : p.nodes.size = text.length + 1
  accept : p.nodes.getD 0 .accept = .accept
  chars : ∀ c rest, c :: rest <:+ text →
    p.nodes.getD (rest.length + 1) .accept = .chars (.single c) rest.length

variable {p : Program} {text : List Char}

private theorem Spells.push (h : Spells p text) (c : Char) :
    Spells (p.push (.chars (.single c) p.entry)) (c :: text) := by
  have hnode (i : Nat) (hi : i ≤ text.length) :
      (p.push (.chars (.single c) p.entry)).nodes.getD i .accept = p.nodes.getD i .accept := by
    simp only [Program.push, Array.getD_eq_getD_getElem?, Array.getElem?_push, h.size]
    rw [if_neg (by omega)]
  refine ⟨h.size, ?_, ?_, ?_⟩
  · simp [Program.push, h.size]
  · rw [hnode 0 (Nat.zero_le _), h.accept]
  · intro d rest hsuffix
    rcases List.suffix_cons_iff.mp hsuffix with heq | hsuffix
    · cases heq
      rw [Program.push, Array.getD_eq_getD_getElem?, Array.getElem?_push, h.size, if_pos rfl,
        h.entry]
      rfl
    · have hle := hsuffix.length_le
      rw [List.length_cons] at hle
      rw [hnode _ hle, h.chars d rest hsuffix]

private theorem prepend_concat (r : Regex) (rs : List Regex) (p : Program) :
    Program.prepend (.concat (r :: rs)) p = Program.prepend r (Program.prepend (.concat rs) p) := by
  cases rs <;> rfl

private theorem spells_literal (text : List Char) : Spells (.ofRegex (literal text)) text := by
  induction text with
  | nil => exact ⟨rfl, rfl, rfl, by simp⟩
  | cons c text ih =>
    rw [Program.ofRegex, literal, List.map_cons, prepend_concat]
    exact ih.push c

/-! ### Attempts -/

/-- A match that has begun: what is still to be read of the text, and where it began. -/
structure Attempt where
  rest : List Char
  start : Nat

def Attempt.thread (a : Attempt) : Thread :=
  ⟨a.rest.length, a.start⟩

def Attempt.match? (position : Nat) (input : List Char) (a : Attempt) : Option (Nat × Nat) :=
  if a.rest.isPrefixOf input then some (a.start, position + byteLength a.rest) else none

def Attempt.read? (c : Char) (a : Attempt) : Option Attempt :=
  match a.rest with
  | [] => none
  | d :: rest => if d == c then some ⟨rest, a.start⟩ else none

/-- Attempts at a text, of which the older ones have less to read. -/
structure Live (text : List Char) (as : List Attempt) : Prop where
  ends : ∀ a ∈ as, a.rest <:+ text
  sorted : as.Pairwise fun a b => a.rest.length < b.rest.length

variable {as : List Attempt} {a : Attempt}

private theorem Live.tail (h : Live text (a :: as)) : Live text as :=
  ⟨fun b hb => h.ends b (List.mem_cons_of_mem _ hb), (List.pairwise_cons.mp h.sorted).2⟩

private theorem Live.rest_ne_nil (h : Live text (a :: as)) (ha : a.rest ≠ []) :
    ∀ b ∈ a :: as, b.rest ≠ [] := by
  have hsorted := (List.pairwise_cons.mp h.sorted).1
  intro b hb hnil
  rcases List.mem_cons.mp hb with rfl | hb
  · exact ha hnil
  · have hlt := hsorted b hb
    simp [hnil] at hlt

private theorem Live.read (h : Live text as) (c : Char) (position : Nat) :
    Live text (as.filterMap (Attempt.read? c) ++ [⟨text, position⟩]) := by
  have hread : ∀ a b : Attempt, a.read? c = some b → ∃ d, a.rest = d :: b.rest := by
    intro a b hab
    unfold Attempt.read? at hab
    split at hab
    · cases hab
    next d rest hrest =>
      split at hab
      · cases hab
        exact ⟨d, hrest⟩
      · cases hab
  have hends : ∀ b ∈ as.filterMap (Attempt.read? c), b.rest.length < text.length ∧
      b.rest <:+ text := by
    intro b hb
    obtain ⟨a, ha, hab⟩ := List.mem_filterMap.mp hb
    obtain ⟨d, hrest⟩ := hread a b hab
    have hsuffix := h.ends a ha
    rw [hrest] at hsuffix
    exact ⟨hsuffix.length_le, (List.suffix_cons d b.rest).trans hsuffix⟩
  refine ⟨?_, ?_⟩
  · intro b hb
    rcases List.mem_append.mp hb with hb | hb
    · exact (hends b hb).2
    · rw [List.mem_singleton.mp hb]
  · rw [List.pairwise_append]
    refine ⟨?_, List.pairwise_singleton _ _, ?_⟩
    · refine List.Pairwise.filterMap _ ?_ h.sorted
      intro a a' hlt b hb b' hb'
      obtain ⟨d, hrest⟩ := hread a b hb
      obtain ⟨d', hrest'⟩ := hread a' b' hb'
      simpa [hrest, hrest'] using hlt
    · intro b hb b' hb'
      rw [List.mem_singleton.mp hb']
      exact (hends b hb).1

/-! ### One place of the input -/

private theorem add_attempt (hp : Spells p text) (ha : a.rest <:+ text) {f : Frontier}
    (hfresh : f.seen.getD a.rest.length true = false) (holds : Regex.Look → Bool) :
    Frontier.add p holds a.start p.nodes.size a.rest.length f =
      ⟨f.seen.setIfInBounds a.rest.length true, a.thread :: f.threads⟩ := by
  rw [hp.size, Frontier.add, hfresh]
  simp only [Bool.false_eq_true, if_false]
  cases hrest : a.rest with
  | nil =>
    rw [List.length_nil, hp.accept]
    simp [Attempt.thread, hrest]
  | cons c rest =>
    rw [hrest] at ha
    rw [List.length_cons, hp.chars c rest ha]
    simp [Attempt.thread, hrest]

private theorem threads_of_live (hp : Spells p text) (has : Live text as) {f : Frontier}
    (hfresh : ∀ a ∈ as, f.seen.getD a.rest.length true = false) (holds : Regex.Look → Bool) :
    ((as.map Attempt.thread).foldl
      (fun f t => Frontier.add p holds t.start p.nodes.size t.node f) f).threads =
      (as.map Attempt.thread).reverse ++ f.threads := by
  -- no two attempts are at the same node, so each of them has its thread
  induction as generalizing f with
  | nil => rfl
  | cons a as ih =>
    have hadd : Frontier.add p holds a.thread.start p.nodes.size a.thread.node f = _ :=
      add_attempt hp (has.ends a List.mem_cons_self) (hfresh a List.mem_cons_self) holds
    rw [List.map_cons, List.foldl_cons, hadd, ih has.tail, List.reverse_cons, List.append_assoc]
    · rfl
    · intro b hb
      have hne : a.rest.length ≠ b.rest.length :=
        ((List.pairwise_cons.mp has.sorted).1 b hb).ne
      have hb' := hfresh b (List.mem_cons_of_mem _ hb)
      rw [Array.getD_eq_getD_getElem?] at hb' ⊢
      rw [Array.getElem?_setIfInBounds_ne hne, hb']

private theorem Spells.node_thread (hp : Spells p text) (ha : a.rest <:+ text) (hne : a.rest ≠ []) :
    ∃ c rest, a.rest = c :: rest ∧
      p.nodes.getD a.thread.node .accept = .chars (.single c) rest.length := by
  obtain ⟨c, rest, hrest⟩ := List.exists_cons_of_ne_nil hne
  rw [hrest] at ha
  refine ⟨c, rest, hrest, ?_⟩
  rw [Attempt.thread, hrest]
  exact hp.chars c rest ha

private theorem cutAtAccept_of_ne_nil (hp : Spells p text) (has : Live text as)
    (hrest : ∀ a ∈ as, a.rest ≠ []) :
    Regex.cutAtAccept p (as.map Attempt.thread) = (as.map Attempt.thread, none) := by
  induction as with
  | nil => rfl
  | cons a as ih =>
    have htail := ih has.tail fun b hb => hrest b (List.mem_cons_of_mem _ hb)
    obtain ⟨c, rest, -, hnode⟩ :=
      hp.node_thread (has.ends a List.mem_cons_self) (hrest a List.mem_cons_self)
    rw [List.map_cons, Regex.cutAtAccept, hnode]
    simp only [htail]

private theorem arrive_of_live (hp : Spells p text) {position : Nat} (before after : Option Char)
    {first : Attempt} {others : List Attempt} (has : Live text (as ++ [⟨text, position⟩]))
    (hfirst : as ++ [⟨text, position⟩] = first :: others) :
    Regex.arrive p before after position (as.map Attempt.thread) none =
      if first.rest = [] then ([], some (first.start, position))
      else ((first :: others).map Attempt.thread, none) := by
  have hfresh : ∀ a ∈ as ++ [⟨text, position⟩],
      (Frontier.empty p.nodes.size).seen.getD a.rest.length true = false := by
    intro a ha
    have hle := (has.ends a ha).length_le
    have hlt : a.rest.length < p.nodes.size := by
      rw [hp.size]
      omega
    simp [Frontier.empty, Array.getD_eq_getD_getElem?, hlt]
  have hthreads : (Frontier.add p (Regex.Look.holds before after) position p.nodes.size p.entry
      ((as.map Attempt.thread).foldl (fun f t => Frontier.add p (Regex.Look.holds before after)
        t.start p.nodes.size t.node f) (Frontier.empty p.nodes.size))).threads =
      ((first :: others).map Attempt.thread).reverse ++ [] := by
    rw [← hfirst, hp.entry]
    refine Eq.trans ?_ (threads_of_live hp has hfresh (Regex.Look.holds before after))
    rw [List.map_append, List.foldl_append]
    rfl
  unfold Regex.arrive
  simp only [Option.isNone_none, if_true]
  rw [hthreads]
  simp only [List.append_nil, List.reverse_reverse]
  rw [hfirst] at has
  split
  next hnil =>
    have hnode : p.nodes.getD first.thread.node .accept = .accept := by
      rw [Attempt.thread, hnil]
      exact hp.accept
    rw [List.map_cons, Regex.cutAtAccept, hnode]
    rfl
  next hne =>
    rw [cutAtAccept_of_ne_nil hp has (has.rest_ne_nil hne)]
    rfl

private theorem advance_of_live (hp : Spells p text) (has : Live text as) (c : Char)
    (hrest : ∀ a ∈ as, a.rest ≠ []) :
    Regex.advance p c (as.map Attempt.thread) =
      (as.filterMap (Attempt.read? c)).map Attempt.thread := by
  rw [Regex.advance, List.filterMap_map, List.map_filterMap]
  refine List.filterMap_congr ?_
  intro a ha
  obtain ⟨d, rest, hcons, hnode⟩ := hp.node_thread (has.ends a ha) (hrest a ha)
  simp only [Function.comp_apply, hnode, Attempt.read?, hcons, Text.CharSet.mem_single]
  split <;> rfl

/-! ### The search -/

private theorem match?_read? (c : Char) (position : Nat) (input : List Char) (ha : a.rest ≠ []) :
    (a.read? c).bind (Attempt.match? (position + c.utf8Size) input) =
      a.match? position (c :: input) := by
  obtain ⟨d, rest, hrest⟩ := List.exists_cons_of_ne_nil ha
  by_cases hd : d = c
  · subst hd
    simp [Attempt.read?, Attempt.match?, hrest, Nat.add_assoc]
  · simp [Attempt.read?, Attempt.match?, hrest, List.isPrefixOf, hd]

private theorem findSome?_read? {c : Char} (position : Nat) (input : List Char)
    (hrest : ∀ a ∈ as, a.rest ≠ []) :
    (as.filterMap (Attempt.read? c)).findSome? (Attempt.match? (position + c.utf8Size) input) =
      as.findSome? (Attempt.match? position (c :: input)) := by
  induction as with
  | nil => rfl
  | cons a as ih =>
    have htail := ih fun b hb => hrest b (List.mem_cons_of_mem _ hb)
    have hread := match?_read? c position input (hrest a List.mem_cons_self)
    rw [List.findSome?_cons, ← hread, ← htail, List.filterMap_cons]
    cases a.read? c <;> rfl

/-- What is found from a place on: the match of the oldest attempt that succeeds, or else the first
place of the text. -/
def Attempt.firstMatch (text : List Char) (position : Nat) (input : List Char)
    (as : List Attempt) : Option (Nat × Nat) :=
  (as.findSome? (match? position input)).or (findText text position input)

private theorem firstMatch_of_nil {position : Nat} {input : List Char} {first : Attempt}
    {others : List Attempt} (hfirst : as ++ [⟨text, position⟩] = first :: others)
    (hnil : first.rest = []) :
    Attempt.firstMatch text position input as = some (first.start, position) := by
  cases as with
  | nil =>
    cases hfirst
    cases input <;> simp_all [Attempt.firstMatch, findText, byteLength]
  | cons a as =>
    cases hfirst
    simp [Attempt.firstMatch, Attempt.match?, hnil, byteLength]

private theorem firstMatch_cons {position : Nat} {c : Char} {input : List Char}
    (hrest : ∀ a ∈ as ++ [Attempt.mk text position], a.rest ≠ []) :
    Attempt.firstMatch text position (c :: input) as =
      Attempt.firstMatch text (position + c.utf8Size) input
        ((as ++ [Attempt.mk text position]).filterMap (Attempt.read? c)) := by
  have hnew : (Attempt.match? position (c :: input) ⟨text, position⟩).or
      (findText text (position + c.utf8Size) input) = findText text position (c :: input) := by
    rw [findText, Attempt.match?]
    split <;> rfl
  rw [Attempt.firstMatch, Attempt.firstMatch, findSome?_read? position input hrest,
    List.findSome?_append, List.findSome?_singleton, Option.or_assoc, hnew]

private theorem firstMatch_nil {position : Nat}
    (hrest : ∀ a ∈ as ++ [Attempt.mk text position], a.rest ≠ []) :
    Attempt.firstMatch text position [] as = none := by
  have htext : text ≠ [] := hrest ⟨text, position⟩ (by simp)
  have hnone : as.findSome? (Attempt.match? position []) = none := by
    rw [List.findSome?_eq_none_iff]
    intro a ha
    have hne := hrest a (List.mem_append_left _ ha)
    simp [Attempt.match?, hne]
  simp [Attempt.firstMatch, hnone, findText, htext]

private theorem arrive_cases (hp : Spells p text) {position : Nat} (before after : Option Char)
    (has : Live text (as ++ [⟨text, position⟩])) :
    (∃ start,
      Regex.arrive p before after position (as.map Attempt.thread) none =
        ([], some (start, position)) ∧
      ∀ input, Attempt.firstMatch text position input as = some (start, position)) ∨
    Regex.arrive p before after position (as.map Attempt.thread) none =
      ((as ++ [Attempt.mk text position]).map Attempt.thread, none) ∧
    ∀ a ∈ as ++ [Attempt.mk text position], a.rest ≠ [] := by
  obtain ⟨first, others, hfirst⟩ := List.exists_cons_of_ne_nil
    (List.append_ne_nil_of_right_ne_nil as (List.cons_ne_nil ⟨text, position⟩ []))
  rw [arrive_of_live hp before after has hfirst]
  by_cases hnil : first.rest = []
  · exact .inl ⟨first.start, if_pos hnil, fun _ => firstMatch_of_nil hfirst hnil⟩
  · rw [hfirst] at has ⊢
    exact .inr ⟨if_neg hnil, has.rest_ne_nil hnil⟩

private theorem searchFrom_eq_firstMatch (hp : Spells p text) (input : List Char)
    (before : Option Char) {position : Nat} (has : Live text (as ++ [⟨text, position⟩])) :
    Regex.searchFrom p before position (as.map Attempt.thread) none input =
      Attempt.firstMatch text position input as := by
  induction input generalizing before position as with
  | nil =>
    rw [Regex.searchFrom]
    rcases arrive_cases hp before none has with ⟨start, harrive, hmatch⟩ | ⟨harrive, hrest⟩
    · rw [harrive, hmatch]
    · rw [harrive, firstMatch_nil hrest]
  | cons c input ih =>
    rw [Regex.searchFrom]
    rcases arrive_cases hp before (some c) has with ⟨start, harrive, hmatch⟩ | ⟨harrive, hrest⟩
    · rw [harrive, hmatch]
      rfl
    · rw [harrive, firstMatch_cons hrest]
      simp only [advance_of_live hp has c hrest, Option.isSome_none, Bool.and_false,
        Bool.false_eq_true, if_false]
      exact ih (some c) (has.read c _)

private theorem find_literal (text : List Char) (c : Cursor) :
    (Pattern.machine (.ofRegex (literal text))).find c = (Pattern.text text).find c := by
  have hlive : Live text ([] ++ [⟨text, c.offset⟩]) := ⟨by simp, List.pairwise_singleton _ _⟩
  exact searchFrom_eq_firstMatch (spells_literal text) c.rest c.before hlive

/-! ### Patterns without blocks -/

private theorem assembled_text (text : List Char) :
    (assembled [.text text]).regex = literal text := by
  simp [assembled, Regex.Branches.regex, Regex.Branches.branch, Regex.anyOf, Piece.parts, literal,
    List.filterMap_map]

private theorem nesting_le_one {depths : List Nat} (h : ∀ depth ∈ depths, depth = 0) :
    Regex.nesting depths ≤ 1 := by
  have hmax : depths.foldr max 0 = 0 := by
    induction depths with
    | nil => rfl
    | cons depth depths ih =>
      have hrest := ih fun d hd => h d (List.mem_cons_of_mem _ hd)
      rw [List.foldr_cons, hrest, h depth List.mem_cons_self]
      rfl
  match depths with
  | [] => exact Nat.zero_le 1
  | [depth] => simp [Regex.nesting, h depth]
  | _ :: _ :: _ => simp only [Regex.nesting, hmax, Nat.zero_add, le_refl]

private theorem depth_text (text : List Char) : (assembled [.text text]).depth ≤ 1 := by
  have hdepths : ∀ depth ∈ (assembled [.text text]).parts.map Regex.Part.depth, depth = 0 := by
    simp [assembled, Piece.parts]
  have hbranch : (assembled [.text text]).branchDepth ≤ 1 := nesting_le_one hdepths
  exact hbranch

private theorem size_literal (text : List Char) : (literal text).size = text.length := by
  have hconcat (r : Regex) (rs : List Regex) :
      (Regex.concat (r :: rs)).size = r.size + (Regex.concat rs).size := by
    cases rs <;> rfl
  induction text with
  | nil => rfl
  | cons c text ih =>
    rw [literal, List.map_cons, hconcat, List.length_cons, Nat.add_comm]
    exact congrArg (· + 1) ih

theorem fits_literal_iff (text : List Char) :
    Regex.fits (literal text) = true ↔ text.length ≤ Regex.sizeLimit := by
  rw [Regex.fits, decide_eq_true_iff, size_literal]

private theorem machine_escape {fits : Regex → Bool} {text : List Char}
    (hfits : fits (literal text) = true) :
    machine fits (Regex.escape text) = .ok (.machine (.ofRegex (literal text))) := by
  have hsource : source [.text text] = Regex.escape text := by
    simp [source, Piece.source]
  have hdepth : (assembled [.text text]).depth ≤ Regex.nestLimit :=
    (depth_text text).trans (by decide)
  rw [← assembled_text] at hfits ⊢
  rw [← hsource]
  exact (machine_eq_ok_iff_of_standsAlone (by simp) _).mpr ⟨List.nodup_nil, hdepth, hfits, rfl⟩

/-- A pattern without blocks finds what it finds as the regular expression of its escaped text, if
that fits. -/
theorem compileWithin_agrees {fits : Regex → Bool} {pattern : String} (h : IsLiteral pattern)
    (hfits : fits (literal pattern.toList) = true) :
    ∃ p q, compileWithin fits pattern = .ok p ∧
      machine fits (Regex.escape pattern.toList) = .ok q ∧ ∀ c, p.find c = q.find c :=
  ⟨_, _, compileWithin_of_isLiteral fits h, machine_escape hfits,
    fun c => (find_literal pattern.toList c).symm⟩

end Check

end ShellSuite
