import Mathlib.Data.List.Infix
import Mathlib.Data.List.MinMax
import ShellSuite.Check
import ShellSuite.Proofs.Regex.Reading

set_option autoImplicit false
set_option relaxedAutoImplicit false

/-!
Regular expressions in double braces. They are put between parentheses as they are written, and what
is read there need not be what they are on their own. Main statement: a pattern is refused if its
braces are not all closed. If each block can stand alone, the pattern is its pieces one behind the
other, unless a name is used twice or the whole is too deep or too large; and only if each block can
stand alone does the reader of an accepted pattern keep all of them between their parentheses.
-/

namespace ShellSuite.Check

open Regex (Reader Reads ComesTo Whole)

/-! ### Braces -/

def Piece.written : Piece → List Char
  | .text cs => cs
  | .block cs => ['\x7b', '\x7b'] ++ cs ++ ['\x7d', '\x7d']

/-- Two opening braces are closed by two closing ones behind them, wherever they stand. -/
def Closed (cs : List Char) : Prop :=
  ∀ before after, cs = before ++ '\x7b' :: '\x7b' :: after → ['\x7d', '\x7d'] <:+: after

private theorem closed_nil : Closed [] := by
  intro before after h
  simp at h

private theorem closed_cons {c : Char} {cs : List Char} : Closed (c :: cs) ↔
    (∀ after, c :: cs = '\x7b' :: '\x7b' :: after → ['\x7d', '\x7d'] <:+: after) ∧ Closed cs := by
  constructor
  · intro h
    exact ⟨fun after => h [] after, fun before after hcs => h (c :: before) after (by simp [hcs])⟩
  · rintro ⟨hhere, hlater⟩ before after h
    cases before with
    | nil => exact hhere after h
    | cons b before =>
      obtain ⟨-, hcs⟩ := List.cons.inj h
      exact hlater before after hcs

private theorem closing_of_cons {c : Char} {cs : List Char}
    (hc : ∀ rest, c :: cs ≠ '\x7d' :: '\x7d' :: rest) (h : ['\x7d', '\x7d'] <:+: c :: cs) :
    ['\x7d', '\x7d'] <:+: cs := by
  rcases List.infix_cons_iff.mp h with ⟨rest, hrest⟩ | h
  · exact absurd hrest.symm (hc rest)
  · exact h

private theorem closed_cons_of_closing {c : Char} {cs : List Char} (h : ['\x7d', '\x7d'] <:+: cs) :
    Closed (c :: cs) ↔ Closed cs := by
  refine closed_cons.trans (and_iff_right fun after hafter => ?_)
  obtain ⟨-, rfl⟩ := List.cons.inj hafter
  exact closing_of_cons (by simp) h

private theorem closed_cons_of_ne {c : Char} {cs : List Char}
    (hc : ∀ rest, c :: cs ≠ '\x7b' :: '\x7b' :: rest) : Closed (c :: cs) ↔ Closed cs :=
  closed_cons.trans (and_iff_right fun after hafter => absurd hafter (hc after))

private theorem exists_map_eq_ok_iff {ε α β : Type} {f : α → β} {x : Except ε α} :
    (∃ b, f <$> x = .ok b) ↔ ∃ a, x = .ok a := by
  constructor
  · rintro ⟨b, h⟩
    obtain ⟨a, ha, -⟩ := map_eq_ok h
    exact ⟨a, ha⟩
  · rintro ⟨a, rfl⟩
    exact ⟨f a, rfl⟩

private theorem exists_piecesFrom_iff (inBlock : Bool) (piece cs : List Char) :
    (∃ ps, piecesFrom inBlock piece cs = .ok ps) ↔
      (inBlock = true → ['\x7d', '\x7d'] <:+: cs) ∧ Closed cs := by
  fun_induction piecesFrom inBlock piece cs with
  | case1 => simp
  | case2 inBlock piece hblock => simp [hblock, closed_nil]
  | case3 piece cs ih =>
    rw [exists_map_eq_ok_iff, ih, closed_cons]
    constructor
    · rintro ⟨hclosing, hclosed⟩
      refine ⟨by simp, fun after hafter => ?_, (closed_cons_of_closing (hclosing rfl)).mpr hclosed⟩
      cases hafter
      exact hclosing rfl
    · rintro ⟨-, hhere, hclosed⟩
      exact ⟨fun _ => hhere cs rfl, (closed_cons.mp hclosed).2⟩
  | case4 piece cs ih =>
    rw [exists_map_eq_ok_iff, ih, closed_cons_of_ne (by simp), closed_cons_of_ne (by simp)]
    exact and_congr_left fun _ => ⟨fun _ _ => ⟨[], cs, rfl⟩, fun _ => by simp⟩
  | case5 piece inBlock c cs hopen hclose ih =>
    rw [ih]
    cases inBlock with
    | false =>
      have hne : ∀ rest, c :: cs ≠ '\x7b' :: '\x7b' :: rest := by
        rintro rest hcs
        obtain ⟨hc, hcs⟩ := List.cons.inj hcs
        exact hopen rest rfl hc hcs
      rw [closed_cons_of_ne hne]
      exact and_congr_left fun _ => by simp
    | true =>
      have hne : ∀ rest, c :: cs ≠ '\x7d' :: '\x7d' :: rest := by
        rintro rest hcs
        obtain ⟨hc, hcs⟩ := List.cons.inj hcs
        exact hclose rest rfl hc hcs
      constructor
      · rintro ⟨hclosing, hclosed⟩
        exact ⟨fun _ => List.infix_cons (hclosing rfl),
          (closed_cons_of_closing (hclosing rfl)).mpr hclosed⟩
      · rintro ⟨hclosing, hclosed⟩
        exact ⟨fun _ => closing_of_cons hne (hclosing rfl), (closed_cons.mp hclosed).2⟩

private theorem eq_unterminated_of_piecesFrom {inBlock : Bool} {piece cs : List Char}
    {e : PatternError}
    (h : piecesFrom inBlock piece cs = .error e) : e = .unterminated := by
  fun_induction piecesFrom inBlock piece cs with
  | case1 =>
    cases h
    rfl
  | case2 => cases h
  | case3 piece cs ih | case4 piece cs ih =>
    cases hcs : piecesFrom _ [] cs with
    | error e' =>
      rw [hcs] at h
      cases h
      exact ih hcs
    | ok ps =>
      rw [hcs] at h
      cases h
  | case5 piece inBlock c cs hopen hclose ih => exact ih h

private theorem flatMap_written_of_piecesFrom {inBlock : Bool} {piece cs : List Char}
    {ps : List Piece}
    (h : piecesFrom inBlock piece cs = .ok ps) : ps.flatMap Piece.written =
      (if inBlock then ['\x7b', '\x7b'] else []) ++ piece.reverse ++ cs := by
  fun_induction piecesFrom inBlock piece cs generalizing ps with
  | case1 => cases h
  | case2 inBlock piece hblock =>
    cases h
    simp [hblock, Piece.written]
  | case3 piece cs ih | case4 piece cs ih =>
    obtain ⟨ps, hps, rfl⟩ := map_eq_ok h
    simp [ih hps, Piece.written]
  | case5 piece inBlock c cs hopen hclose ih => simpa using ih h

private theorem exists_eq_text_of_piecesFrom {inBlock : Bool} {piece cs : List Char}
    {ps : List Piece}
    (h : piecesFrom inBlock piece cs = .ok ps) (htexts : ∀ cs, .block cs ∉ ps) :
    inBlock = false ∧ ∃ text, ps = [.text text] := by
  fun_induction piecesFrom inBlock piece cs generalizing ps with
  | case1 => cases h
  | case2 inBlock piece hblock =>
    cases h
    exact ⟨by simpa using hblock, _, rfl⟩
  | case3 piece cs ih =>
    obtain ⟨ps, hps, rfl⟩ := map_eq_ok h
    obtain ⟨hfalse, -⟩ := ih hps fun cs hcs => htexts cs (List.mem_cons_of_mem _ hcs)
    cases hfalse
  | case4 piece cs ih =>
    obtain ⟨ps, -, rfl⟩ := map_eq_ok h
    exact absurd List.mem_cons_self (htexts piece.reverse)
  | case5 piece inBlock c cs hopen hclose ih => exact ih h htexts

/-! ### Pieces on their own -/

/-- A block can stand alone: it is a regular expression, and does not end inside a comment, to which
a parenthesis behind it would belong. -/
def StandsAlone (cs : List Char) : Prop :=
  (∃ x, Regex.parse cs = .ok x) ∧ ∀ x, Regex.parse (cs ++ [')']) ≠ .ok x

private theorem standsAlone_iff_isOk {cs : List Char} : StandsAlone cs ↔
    (Regex.parse cs).isOk = true ∧ (Regex.parse (cs ++ [')'])).isOk = false := by
  have hok : ∀ ds, (∃ x, Regex.parse ds = .ok x) ↔ (Regex.parse ds).isOk = true := by
    intro ds
    cases Regex.parse ds <;> simp [Except.isOk, Except.toBool]
  rw [StandsAlone, hok, ← not_exists, hok, Bool.not_eq_true]

instance (cs : List Char) : Decidable (StandsAlone cs) :=
  decidable_of_iff _ standsAlone_iff_isOk.symm

/-- The parts that a piece adds to a pattern: its characters, or a group. -/
def Piece.parts : Piece → List Regex.Part
  | .text cs => cs.map fun c => ⟨some (.chars (.single c)), 0⟩
  | .block cs =>
    match Regex.read cs with
    | .ok r => [⟨some r.current.regex, r.current.depth + 1⟩]
    | .error _ => []

def Piece.names : Piece → List String
  | .text _ => []
  | .block cs =>
    match Regex.read cs with
    | .ok r => r.names
    | .error _ => []

/-- The pieces one behind the other, each read on its own. -/
def assembled (ps : List Piece) : Regex.Branches :=
  ⟨[], (ps.flatMap Piece.parts).reverse⟩

theorem parse_eq_ok_iff {cs : List Char} {x : Regex} : Regex.parse cs = .ok x ↔
    ∃ r, Regex.read cs = .ok r ∧ r.current.depth ≤ Regex.nestLimit ∧ x = r.current.regex := by
  constructor
  · intro h
    obtain ⟨r, hread, hr⟩ := bind_eq_ok h
    split at hr
    next => cases hr
    next hdepth =>
      cases hr
      exact ⟨r, hread, Nat.le_of_not_lt hdepth, rfl⟩
  · rintro ⟨r, hread, hdepth, rfl⟩
    rw [Regex.parse, hread]
    exact if_neg (Nat.not_lt.mpr hdepth)

private theorem standsAlone_iff {cs : List Char} :
    StandsAlone cs ↔ ∃ r, Whole cs r ∧ r.current.depth ≤ Regex.nestLimit := by
  constructor
  · rintro ⟨⟨x, hx⟩, hparen⟩
    obtain ⟨r, hread, hdepth, -⟩ := parse_eq_ok_iff.mp hx
    obtain ⟨hend, houter⟩ := Regex.read_eq_ok_iff.mp hread
    rcases hend.append with hall | hcomment
    · exact ⟨r, Regex.whole_iff.mpr ⟨houter, hall⟩, hdepth⟩
    · have hread' := Regex.read_eq_ok_iff.mpr ⟨hcomment, houter⟩
      exact absurd (parse_eq_ok_iff.mpr ⟨r, hread', hdepth, rfl⟩) (hparen _)
  · rintro ⟨r, ⟨hread, hparen⟩, hdepth⟩
    refine ⟨⟨_, parse_eq_ok_iff.mpr ⟨r, hread, hdepth, rfl⟩⟩, fun x hx => ?_⟩
    obtain ⟨s, hs, -⟩ := parse_eq_ok_iff.mp hx
    exact hparen s hs

theorem StandsAlone.whole {cs : List Char} (h : StandsAlone cs) : ∃ r, Whole cs r := by
  obtain ⟨r, hwhole, -⟩ := standsAlone_iff.mp h
  exact ⟨r, hwhole⟩

/-! ### Pieces in their pattern -/

/-- The regular expression that pieces are put into. -/
def source (ps : List Piece) : List Char :=
  ps.flatMap Piece.source

/-- The reader goes over the pieces of a pattern and keeps each block between its parentheses: inside
the group that the first one opens, it comes to the other one, and has not left the group before. -/
inductive Encloses : Reader → List Piece → Reader → Prop
  | done (r : Reader) : Encloses r [] r
  | text {r r₁ r' : Reader} {cs : List Char} {ps : List Piece}
      (hreads : Reads 0 r (Regex.escape cs ++ source ps) r₁ (source ps))
      (hrest : Encloses r₁ ps r') : Encloses r (.text cs :: ps) r'
  | block {r r₁ r₂ r₃ r' : Reader} {cs : List Char} {ps : List Piece}
      (henter : r.apply (.enter r.flags none) = .ok r₁)
      (hcomes : ComesTo r₁.outer.length r₁ (cs ++ ')' :: source ps) r₂ (')' :: source ps))
      (houter : r₂.outer.length = r₁.outer.length) (hleave : r₂.apply .leave = .ok r₃)
      (hrest : Encloses r₃ ps r') : Encloses r (.block cs :: ps) r'

private theorem readConstruct_enter (f : Regex.Flags) (cs : List Char) :
    Regex.readConstruct f '(' ('?' :: ':' :: cs) = .ok (.enter f none, cs) := by
  change Regex.readGroup f (f.skip _) = _
  rw [Regex.Flags.skip_cons rfl (by decide)]
  rfl

private theorem source_block (cs : List Char) (ps : List Piece) :
    source (.block cs :: ps) = '(' :: '?' :: ':' :: (cs ++ ')' :: source ps) := by
  simp [source, Piece.source]

theorem Encloses.reads {r r' : Reader} {ps : List Piece} (h : Encloses r ps r') :
    Reads 0 r (source ps) r' [] := by
  induction h with
  | done r => exact .refl r []
  | text hreads _ ih => exact hreads.trans ih
  | @block r r₁ r₂ r₃ r' cs ps henter hcomes houter hleave _ ih =>
    obtain ⟨rest, hreads, hparen⟩ := hcomes
    rw [source_block]
    refine .step (Regex.Flags.skip_cons rfl (by decide) _) (readConstruct_enter _ _) henter
      (Nat.zero_le _) ((hreads.mono (Nat.zero_le _)).trans ?_)
    exact .step hparen rfl hleave (Nat.zero_le _) ih

/-- The reader between pieces: no group is open, and the flags are those of the start. -/
def between (parts : List Regex.Part) (names : List String) : Reader :=
  ⟨.initial, ⟨[], parts⟩, [], names⟩

private theorem readConstruct_literal {c : Char} (hc : Regex.metaChars.contains c = false)
    (cs : List Char) :
    Regex.readConstruct .initial c cs = .ok (.part (.chars (.single c)) 0, cs) := by
  unfold Regex.readConstruct
  split
  all_goals first
    | exact absurd hc (by decide)
    | rfl

private theorem readConstruct_escaped {c : Char} (hc : Regex.metaChars.contains c = true)
    (cs : List Char) :
    Regex.readConstruct .initial '\\' (c :: cs) = .ok (.part (.chars (.single c)) 0, cs) := by
  have hescape : Regex.readEscape .initial (c :: cs) = .ok (.literal c false, cs) :=
    if_pos (by simp only [Regex.isEscapable, hc, Bool.true_or])
  change (Regex.readEscape .initial (c :: cs) >>= _) = _
  rw [hescape]
  rfl

private theorem reads_escape (cs rest : List Char) (parts : List Regex.Part) (names : List String) :
    Reads 0 (between parts names) (Regex.escape cs ++ rest)
      (between ((Piece.text cs).parts.reverse ++ parts) names) rest := by
  induction cs generalizing parts with
  | nil => exact .refl _ _
  | cons c cs ih =>
    have hparts : (Piece.text (c :: cs)).parts.reverse ++ parts =
        (Piece.text cs).parts.reverse ++ ⟨some (.chars (.single c)), 0⟩ :: parts := by
      simp [Piece.parts]
    rw [hparts]
    cases hc : Regex.metaChars.contains c with
    | false =>
      have hescape : Regex.escape (c :: cs) = c :: Regex.escape cs := by
        simp only [Regex.escape, List.flatMap_cons, hc]
        rfl
      rw [hescape]
      exact .step rfl (readConstruct_literal hc _) rfl (Nat.zero_le _) (ih _)
    | true =>
      have hescape : Regex.escape (c :: cs) = '\\' :: c :: Regex.escape cs := by
        simp only [Regex.escape, List.flatMap_cons, hc]
        rfl
      rw [hescape]
      exact .step rfl (readConstruct_escaped hc _) rfl (Nat.zero_le _) (ih _)

private theorem between_enter (parts : List Regex.Part) (names : List String) :
    (between parts names).apply (.enter .initial none) =
      .ok (Reader.start.within [(.initial, ⟨[], parts⟩)] names) :=
  rfl

private theorem Piece.parts_block {cs : List Char} {r : Reader} (h : Regex.read cs = .ok r) :
    (Piece.block cs).parts = [⟨some r.current.regex, r.current.depth + 1⟩] := by
  simp only [Piece.parts, h]

private theorem Piece.names_block {cs : List Char} {r : Reader} (h : Regex.read cs = .ok r) :
    (Piece.block cs).names = r.names := by
  simp only [Piece.names, h]

private theorem leave_within {cs : List Char} {r : Reader} (h : Whole cs r)
    (parts : List Regex.Part)
    (names : List String) :
    (r.within [(.initial, ⟨[], parts⟩)] names).apply .leave =
      .ok (between ((Piece.block cs).parts.reverse ++ parts) (r.names ++ names)) := by
  have hopen : r.outer = [] := (Regex.whole_iff.mp h).1
  rw [Piece.parts_block h.1]
  simp only [Reader.apply, Reader.within_outer, hopen]
  rfl

private theorem encloses_text_iff {cs : List Char} {ps : List Piece} {parts : List Regex.Part}
    {names : List String} {r' : Reader} : Encloses (between parts names) (.text cs :: ps) r' ↔
      Encloses (between ((Piece.text cs).parts.reverse ++ parts) names) ps r' := by
  have htext := reads_escape cs (source ps) parts names
  constructor
  · intro h
    cases h with
    | text hreads hrest =>
      cases hreads.unique htext
      exact hrest
  · exact .text htext

private theorem encloses_block_iff {cs : List Char} {ps : List Piece} {parts : List Regex.Part}
    {names : List String} {r' : Reader} : Encloses (between parts names) (.block cs :: ps) r' ↔
      ∃ r, Whole cs r ∧ (∀ name ∈ r.names, name ∉ names) ∧
        Encloses (between ((Piece.block cs).parts.reverse ++ parts) (r.names ++ names)) ps r' := by
  constructor
  · intro h
    cases h with
    | block henter hcomes houter hleave hrest =>
      cases (between_enter parts names).symm.trans henter
      obtain ⟨r, hwhole, hfresh, rfl⟩ := Regex.comesTo_within_iff.mp ⟨hcomes, houter⟩
      cases (leave_within hwhole parts names).symm.trans hleave
      exact ⟨r, hwhole, hfresh, hrest⟩
  · rintro ⟨r, hwhole, hfresh, hrest⟩
    obtain ⟨hcomes, houter⟩ := Regex.comesTo_within_iff.mpr ⟨r, hwhole, hfresh, rfl⟩
    exact .block (between_enter parts names) hcomes houter (leave_within hwhole parts names) hrest

theorem nodup_names {cs : List Char} {r : Reader} (h : Whole cs r) : r.names.Nodup := by
  obtain ⟨⟨rest, hreads, -⟩, -⟩ := Regex.read_eq_ok_iff.mp h.1
  exact hreads.nodup_names List.nodup_nil

/-- The reader keeps all blocks between their parentheses exactly if each can stand there and no name
is used twice. -/
theorem exists_encloses_iff {ps : List Piece} {parts : List Regex.Part} {names : List String}
    (hnodup : names.Nodup) : (∃ r', Encloses (between parts names) ps r') ↔
      (∀ cs, .block cs ∈ ps → ∃ r, Whole cs r) ∧ (names ++ ps.flatMap Piece.names).Nodup := by
  induction ps generalizing parts names with
  | nil => exact ⟨fun _ => ⟨by simp, by simpa using hnodup⟩, fun _ => ⟨_, .done _⟩⟩
  | cons p ps ih =>
    cases p with
    | text cs => simpa [encloses_text_iff, Piece.names] using ih hnodup
    | block cs =>
      -- The names of the block come first in what the reader has seen, and last in the list.
      have hperm (new rest : List String) : (new ++ names ++ rest).Perm (names ++ (new ++ rest)) := by
        rw [← List.append_assoc]
        exact List.perm_append_comm.append_right rest
      have hlist : ∀ {r}, Whole cs r → (Piece.block cs :: ps).flatMap Piece.names =
          r.names ++ ps.flatMap Piece.names := fun h => by
        rw [List.flatMap_cons, Piece.names_block h.1]
      simp only [encloses_block_iff]
      constructor
      · rintro ⟨r', r, hwhole, hfresh, hrest⟩
        have hnew : (r.names ++ names).Nodup := List.nodup_append.mpr
          ⟨nodup_names hwhole, hnodup, fun a ha b hb hab => hfresh a ha (hab ▸ hb)⟩
        obtain ⟨hps, hnames⟩ := (ih hnew).mp ⟨r', hrest⟩
        rw [hlist hwhole, ← (hperm r.names _).nodup_iff]
        refine ⟨fun cs' hcs' => ?_, hnames⟩
        rcases List.mem_cons.mp hcs' with hcs' | hcs'
        · cases hcs'
          exact ⟨r, hwhole⟩
        · exact hps cs' hcs'
      · rintro ⟨hwhole, hnames⟩
        obtain ⟨r, hr⟩ := hwhole cs List.mem_cons_self
        rw [hlist hr, ← (hperm r.names _).nodup_iff] at hnames
        have hnew := (List.nodup_append.mp hnames).1
        obtain ⟨r', hrest⟩ := (ih hnew).mpr
          ⟨fun cs' hcs' => hwhole cs' (List.mem_cons_of_mem _ hcs'), hnames⟩
        exact ⟨r', r, hr, fun name hname hold =>
          (List.nodup_append.mp hnew).2.2 name hname name hold rfl, hrest⟩

theorem Encloses.current {ps : List Piece} {parts : List Regex.Part} {names : List String}
    {r' : Reader} (h : Encloses (between parts names) ps r') :
    r'.outer = [] ∧ r'.current = ⟨[], (ps.flatMap Piece.parts).reverse ++ parts⟩ := by
  induction ps generalizing parts names with
  | nil =>
    cases h
    exact ⟨rfl, rfl⟩
  | cons p ps ih =>
    cases p with
    | text cs => simpa using ih (encloses_text_iff.mp h)
    | block cs =>
      obtain ⟨r, -, -, hrest⟩ := encloses_block_iff.mp h
      simpa using ih hrest

/-- If all blocks can stand alone and the reader comes to the end, then it has kept them between
their parentheses. -/
theorem exists_encloses_of_comesTo {ps : List Piece} {parts : List Regex.Part}
    {names : List String} {s : Reader} (hwhole : ∀ cs, .block cs ∈ ps → ∃ r, Whole cs r)
    (h : ComesTo 0 (between parts names) (source ps) s []) :
    ∃ r', Encloses (between parts names) ps r' := by
  induction ps generalizing parts names with
  | nil => exact ⟨_, .done _⟩
  | cons p ps ih =>
    have hps : ∀ cs, .block cs ∈ ps → ∃ r, Whole cs r := fun cs hcs =>
      hwhole cs (List.mem_cons_of_mem p hcs)
    cases p with
    | text cs =>
      simp only [encloses_text_iff]
      exact ih hps ((reads_escape cs (source ps) parts names).comesTo_of_comesTo h)
    | block cs =>
      obtain ⟨r, hr⟩ := hwhole cs List.mem_cons_self
      obtain ⟨-, hall⟩ := Regex.whole_iff.mp hr
      obtain ⟨rest, hreads, hrest⟩ := hall (source ps)
      rw [source_block] at h
      -- The reader enters the group, comes to the parenthesis, and leaves the group.
      have henter : Reads 0 (between parts names) _ _ (cs ++ ')' :: source ps) :=
        .single rfl (readConstruct_enter _ _) (between_enter parts names)
      have hinside := henter.comesTo_of_comesTo h
      have hfresh := hreads.fresh_of_comesTo hinside (by simp [Reader.start])
      have hparen := (hreads.within hfresh).comesTo_of_comesTo hinside
      have hleave : Reads 0 (r.within _ names) rest _ (source ps) :=
        .single hrest rfl (leave_within hr parts names)
      have hbehind := hleave.comesTo_of_comesTo hparen
      obtain ⟨r', hr'⟩ := ih hps hbehind
      exact ⟨r', encloses_block_iff.mpr ⟨r, hr, hfresh, hr'⟩⟩

/-! ### Compilation -/

private theorem le_nesting {depth : Nat} {depths : List Nat} (h : depth ∈ depths) :
    depth ≤ Regex.nesting depths := by
  unfold Regex.nesting
  split
  next => cases h
  next => exact (List.mem_singleton.mp h).le
  next => exact (List.le_max_of_le' 0 h le_rfl).trans (Nat.le_succ _)

private theorem depth_lt_of_mem {ps : List Piece} {cs : List Char} {r : Reader}
    (hcs : .block cs ∈ ps)
    (hread : Regex.read cs = .ok r) : r.current.depth < (assembled ps).depth := by
  have hpart : ⟨some r.current.regex, r.current.depth + 1⟩ ∈ (assembled ps).parts := by
    simp only [assembled, List.mem_reverse, List.mem_flatMap]
    exact ⟨_, hcs, by simp [Piece.parts_block hread]⟩
  have hbranch : r.current.depth + 1 ≤ (assembled ps).branchDepth :=
    le_nesting (List.mem_map_of_mem (f := Regex.Part.depth) hpart)
  exact hbranch

private theorem Encloses.read_eq {ps : List Piece} {r : Reader} (h : Encloses .start ps r) :
    Regex.read (source ps) = .ok r ∧ r.current = assembled ps := by
  have hstart : Encloses (between [] []) ps r := h
  obtain ⟨houter, hcurrent⟩ := hstart.current
  have hend : ComesTo 0 .start (source ps) r [] :=
    ⟨[], h.reads, by simp [Regex.Flags.skip, Regex.dropIdle]⟩
  exact ⟨Regex.read_eq_ok_iff.mpr ⟨hend, houter⟩, by simpa [assembled] using hcurrent⟩

section Fits

variable {fits : Regex → Bool}

private theorem machine_eq_ok_iff {cs : List Char} {p : Pattern} : machine fits cs = .ok p ↔
    ∃ r, Regex.read cs = .ok r ∧ r.current.depth ≤ Regex.nestLimit ∧
      fits r.current.regex = true ∧ p = .machine (.ofRegex r.current.regex) := by
  constructor
  · intro h
    unfold machine at h
    split at h
    next => cases h
    next x hx =>
      obtain ⟨r, hread, hdepth, rfl⟩ := parse_eq_ok_iff.mp hx
      split at h
      next hfits =>
        cases h
        exact ⟨r, hread, hdepth, hfits, rfl⟩
      next => cases h
  · rintro ⟨r, hread, hdepth, hfits, rfl⟩
    rw [machine, parse_eq_ok_iff.mpr ⟨r, hread, hdepth, rfl⟩]
    exact if_pos hfits

private theorem compile_of_block {pattern : String} {ps : List Piece} {cs : List Char}
    (hps : pieces pattern = .ok ps) (hcs : .block cs ∈ ps) :
    compileWithin fits pattern = machine fits (source ps) := by
  rw [compileWithin, hps]
  dsimp only [bind, Except.bind]
  split
  next => simp at hcs
  next => rfl

/-- What a pattern with these pieces compiles to: a text, if there are no blocks; the pieces one
behind the other, if all blocks can stand alone, no name is used twice and the whole is neither too
deep nor too large. If it compiles, its blocks have been kept between their parentheses exactly if
all of them can stand alone. -/
structure CompilesBlockwise (fits : Regex → Bool) (pattern : String) (ps : List Piece) : Prop where
  written : ps.flatMap Piece.written = pattern.toList
  texts : (∀ cs, .block cs ∉ ps) → compileWithin fits pattern = .ok (.text pattern.toList)
  alone : (∃ cs, .block cs ∈ ps) → (∀ cs, .block cs ∈ ps → StandsAlone cs) → ∀ p,
    compileWithin fits pattern = .ok p ↔
      (ps.flatMap Piece.names).Nodup ∧ (assembled ps).depth ≤ Regex.nestLimit ∧
        fits (assembled ps).regex = true ∧ p = .machine (.ofRegex (assembled ps).regex)
  enclosed : (∃ p, compileWithin fits pattern = .ok p) →
    ((∃ r, Encloses .start ps r) ↔ ∀ cs, .block cs ∈ ps → StandsAlone cs)

private theorem exists_encloses_start_iff {ps : List Piece} : (∃ r, Encloses .start ps r) ↔
    (∀ cs, .block cs ∈ ps → ∃ r, Whole cs r) ∧ (ps.flatMap Piece.names).Nodup :=
  exists_encloses_iff List.nodup_nil

private theorem encloses_of_read {ps : List Piece} {s : Reader}
    (halone : ∀ cs, .block cs ∈ ps → StandsAlone cs) (hread : Regex.read (source ps) = .ok s) :
    Encloses .start ps s := by
  obtain ⟨hend, -⟩ := Regex.read_eq_ok_iff.mp hread
  obtain ⟨r, hr⟩ := exists_encloses_of_comesTo (fun cs hcs => (halone cs hcs).whole) hend
  cases hr.read_eq.1.symm.trans hread
  exact hr

theorem machine_eq_ok_iff_of_standsAlone {ps : List Piece}
    (halone : ∀ cs, .block cs ∈ ps → StandsAlone cs) (p : Pattern) :
    machine fits (source ps) = .ok p ↔
      (ps.flatMap Piece.names).Nodup ∧ (assembled ps).depth ≤ Regex.nestLimit ∧
        fits (assembled ps).regex = true ∧ p = .machine (.ofRegex (assembled ps).regex) := by
  rw [machine_eq_ok_iff]
  constructor
  · rintro ⟨s, hread, hs⟩
    have hencloses := encloses_of_read halone hread
    rw [hencloses.read_eq.2] at hs
    exact ⟨(exists_encloses_start_iff.mp ⟨s, hencloses⟩).2, hs⟩
  · rintro ⟨hnames, hlimits⟩
    obtain ⟨r, hr⟩ := exists_encloses_start_iff.mpr
      ⟨fun cs hcs => (halone cs hcs).whole, hnames⟩
    obtain ⟨hread, hcurrent⟩ := hr.read_eq
    exact ⟨r, hread, by rwa [hcurrent]⟩

private theorem standsAlone_of_encloses {ps : List Piece} {p : Pattern} {r : Reader}
    (hp : machine fits (source ps) = .ok p) (hr : Encloses .start ps r) {cs : List Char}
    (hcs : .block cs ∈ ps) : StandsAlone cs := by
  obtain ⟨hread, hcurrent⟩ := hr.read_eq
  obtain ⟨s, hread', hdepth, -⟩ := machine_eq_ok_iff.mp hp
  cases hread.symm.trans hread'
  obtain ⟨x, hwhole⟩ := (exists_encloses_start_iff.mp ⟨r, hr⟩).1 cs hcs
  have hlt := depth_lt_of_mem hcs hwhole.1
  exact standsAlone_iff.mpr ⟨x, hwhole, hlt.le.trans (hcurrent ▸ hdepth)⟩

end Fits

/-- A pattern whose braces are not all closed is refused, and every other one has pieces by which it
is compiled, whatever the measure of what fits. -/
theorem compile_blockwise (fits : Regex → Bool) (pattern : String) :
    (¬ Closed pattern.toList → compileWithin fits pattern = .error .unterminated) ∧
      (Closed pattern.toList →
        ∃ ps, pieces pattern = .ok ps ∧ CompilesBlockwise fits pattern ps) := by
  have hpieces : (∃ ps, pieces pattern = .ok ps) ↔ _ := exists_piecesFrom_iff false [] _
  constructor
  · intro hopen
    cases hps : pieces pattern with
    | ok ps => exact absurd (hpieces.mp ⟨ps, hps⟩).2 hopen
    | error e =>
      cases eq_unterminated_of_piecesFrom hps
      rw [compileWithin, hps]
      rfl
  · intro hclosed
    obtain ⟨ps, hps⟩ := hpieces.mpr ⟨by simp, hclosed⟩
    have hwritten : ps.flatMap Piece.written = pattern.toList := by
      simpa using flatMap_written_of_piecesFrom hps
    refine ⟨ps, hps, hwritten, fun htexts => ?_, fun ⟨cs, hcs⟩ halone p => ?_, fun ⟨p, hp⟩ => ?_⟩
    · obtain ⟨-, text, rfl⟩ := exists_eq_text_of_piecesFrom hps htexts
      simp only [List.flatMap_cons, List.flatMap_nil, List.append_nil, Piece.written] at hwritten
      rw [compileWithin, hps, hwritten]
      rfl
    · rw [compile_of_block hps hcs]
      exact machine_eq_ok_iff_of_standsAlone halone p
    · by_cases hblock : ∃ cs, .block cs ∈ ps
      · obtain ⟨cs, hcs⟩ := hblock
        rw [compile_of_block hps hcs] at hp
        constructor
        · rintro ⟨r, hr⟩ cs hcs
          exact standsAlone_of_encloses hp hr hcs
        · intro halone
          obtain ⟨s, hread, -⟩ := machine_eq_ok_iff.mp hp
          exact ⟨s, encloses_of_read halone hread⟩
      · have htexts : ∀ cs, .block cs ∉ ps := not_exists.mp hblock
        obtain ⟨-, text, rfl⟩ := exists_eq_text_of_piecesFrom hps htexts
        exact iff_of_true (exists_encloses_start_iff.mpr ⟨by simp, List.nodup_nil⟩) (by simp)

theorem compile_blockwise_choice :
    Closed "v\x7b\x7ba|(b)\x7d\x7d.\x7b\x7bc+\x7d\x7d".toList ∧
      StandsAlone "a|(b)".toList ∧ StandsAlone "c+".toList ∧
        compile "v\x7b\x7ba|(b)\x7d\x7d.\x7b\x7bc+\x7d\x7d" =
          .ok (.machine (.ofRegex (assembled [.text ['v'], .block "a|(b)".toList, .text ['.'],
            .block "c+".toList, .text []]).regex)) := by
  have hchoice : StandsAlone "a|(b)".toList := by decide +kernel
  have hplus : StandsAlone "c+".toList := by decide +kernel
  have hpieces : pieces "v\x7b\x7ba|(b)\x7d\x7d.\x7b\x7bc+\x7d\x7d" =
    .ok [.text ['v'], .block "a|(b)".toList, .text ['.'], .block "c+".toList, .text []] := rfl
  have hclosed := ((exists_piecesFrom_iff false [] _).mp ⟨_, hpieces⟩).2
  refine ⟨hclosed, hchoice, hplus, ?_⟩
  obtain ⟨ps, hps, h⟩ := (compile_blockwise Regex.fits _).2 hclosed
  cases hpieces.symm.trans hps
  refine (h.alone ⟨"c+".toList, by simp⟩ (fun cs hcs => ?_) _).mpr
    ⟨by decide +kernel, by decide +kernel, by decide +kernel, rfl⟩
  simp only [List.mem_cons, Piece.block.injEq, reduceCtorEq, List.not_mem_nil, false_or,
    or_false] at hcs
  rcases hcs with rfl | rfl
  · exact hchoice
  · exact hplus

/-- Two accepted patterns with blocks that are no regular expressions, and a refused one whose block
is one: its comment takes the parenthesis in. -/
theorem compile_unbalanced_blocks :
    (compile "\x7b\x7ba)(?:b\x7d\x7d").isOk = true ∧ (Regex.parse "a)(?:b".toList).isOk = false ∧
      (compile "\x7b\x7b[\x7d\x7dx\x7b\x7b]\x7d\x7d").isOk = true ∧
        (Regex.parse "[".toList).isOk = false ∧
          (compile "\x7b\x7b(?x)a#\x7d\x7d").isOk = false ∧
            (Regex.parse "(?x)a#".toList).isOk = true := by
  decide +kernel

end ShellSuite.Check
