import Mathlib.Data.List.Chain
import Mathlib.Data.List.Forall2
import Mathlib.Data.List.Infix
import ShellSuite.Check

set_option autoImplicit false
set_option relaxedAutoImplicit false

/-!
Patterns without blocks are texts. Each is looked for at its first place behind the one before and
never moved again; still, a list of texts is found whenever it can be placed in the output at all.
-/

namespace ShellSuite.Check

def IsLiteral (pattern : String) : Prop :=
  ¬ ['\x7b', '\x7b'] <:+: pattern.toList

instance (pattern : String) : Decidable (IsLiteral pattern) :=
  inferInstanceAs (Decidable (¬ _))

/-- A text stands in an output at an offset in bytes. -/
def OccursAt (output text : String) (place : Nat) : Prop :=
  ∃ front back : String, output = front ++ text ++ back ∧ front.utf8ByteSize = place

/-- Places for texts in an output, in order and without overlap. -/
structure IsPlacement (output : String) (texts : List String) (places : List Nat) : Prop where
  occurs : List.Forall₂ (OccursAt output) texts places
  inOrder : (texts.zip places).IsChain fun a b => a.2 + a.1.utf8ByteSize ≤ b.2

def Placeable (output : String) (texts : List String) : Prop :=
  ∃ places, IsPlacement output texts places

/-! Bytes -/

private theorem byteLength_eq (cs : List Char) : byteLength cs =
    (String.ofList cs).utf8ByteSize := by
  have hsum : ∀ (ds : List Char) (n : Nat),
      ds.foldl (fun n c => n + c.utf8Size) n = n + (String.ofList ds).utf8ByteSize := by
    intro ds
    induction ds with
    | nil => simp
    | cons d ds ih =>
      intro n
      rw [List.foldl_cons, ih, String.ofList_cons, String.utf8ByteSize_append,
        String.utf8ByteSize_singleton, Nat.add_assoc]
  rw [byteLength, hsum, Nat.zero_add]

@[simp]
theorem byteLength_toList (s : String) : byteLength s.toList = s.utf8ByteSize := by
  rw [byteLength_eq, String.ofList_toList]

@[simp]
theorem byteLength_append (cs ds : List Char) :
    byteLength (cs ++ ds) = byteLength cs + byteLength ds := by
  simp only [byteLength_eq, String.ofList_append, String.utf8ByteSize_append]

@[simp]
theorem byteLength_cons (c : Char) (cs : List Char) :
    byteLength (c :: cs) = c.utf8Size + byteLength cs := by
  simp only [byteLength_eq, String.ofList_cons, String.utf8ByteSize_append,
    String.utf8ByteSize_singleton]

private theorem eq_nil_of_byteLength {cs : List Char} (h : byteLength cs = 0) : cs = [] := by
  cases cs with
  | nil => rfl
  | cons c cs =>
    have hc := c.utf8Size_pos
    rw [byteLength_cons] at h
    omega

private theorem prefix_of_byteLength_le {front₁ front₂ cs : List Char} (h₁ : front₁ <+: cs)
    (h₂ : front₂ <+: cs) (hle : byteLength front₁ ≤ byteLength front₂) : front₁ <+: front₂ := by
  -- of two fronts of a text, the one with fewer bytes is a front of the other one
  rcases List.prefix_or_prefix_of_prefix h₁ h₂ with h | ⟨more, rfl⟩
  · exact h
  · have hmore : more = [] := by
      rw [byteLength_append] at hle
      exact eq_nil_of_byteLength (by omega)
    simp [hmore]

private theorem occursAt_iff {output text : String} {place : Nat} :
    OccursAt output text place ↔
      ∃ front back, output.toList = front ++ text.toList ++ back ∧ byteLength front = place := by
  constructor
  · rintro ⟨front, back, rfl, rfl⟩
    exact ⟨front.toList, back.toList, by simp, by simp⟩
  · rintro ⟨front, back, houtput, rfl⟩
    refine ⟨String.ofList front, String.ofList back, ?_, (byteLength_eq front).symm⟩
    rw [← String.toList_inj, houtput]
    simp

/-! Texts one behind the other -/

/-- Texts that stand one behind the other in a list of characters. -/
inductive Fits : List Char → List (List Char) → Prop
  | nil (rest : List Char) : Fits rest []
  | cons (before text : List Char) {after : List Char} {texts : List (List Char)} :
      Fits after texts → Fits (before ++ text ++ after) (text :: texts)

theorem Fits.of_suffix {after rest : List Char} {texts : List (List Char)} (h : Fits after texts)
    (hsuffix : after <:+ rest) : Fits rest texts := by
  obtain ⟨more, rfl⟩ := hsuffix
  cases h with
  | nil => exact .nil _
  | cons before text h =>
    have hmore := Fits.cons (more ++ before) text h
    simpa using hmore

private theorem exists_placement_iff {output : String} (texts : List String)
    {front rest : List Char}
    (houtput : output.toList = front ++ rest) :
    (∃ places, IsPlacement output texts places ∧
        ∀ a ∈ (texts.zip places).head?, byteLength front ≤ a.2) ↔
      Fits rest (texts.map String.toList) := by
  constructor
  · rintro ⟨places, ⟨hoccurs, horder⟩, hfirst⟩
    induction hoccurs generalizing front rest with
    | nil => exact .nil rest
    | @cons text place texts places htext _ ih =>
      obtain ⟨head, back, hhead, rfl⟩ := occursAt_iff.mp htext
      -- the place is behind `front`, so that what is skipped lies in the rest
      have hprefix : front <+: head := by
        have hfront : front <+: output.toList := ⟨rest, houtput.symm⟩
        have hplace : head <+: output.toList := ⟨text.toList ++ back, by simp [hhead]⟩
        exact prefix_of_byteLength_le hfront hplace (hfirst _ rfl)
      obtain ⟨before, rfl⟩ := hprefix
      have hrest : rest = before ++ text.toList ++ back := by
        rw [houtput] at hhead
        simpa using hhead
      rw [List.zip_cons_cons, List.isChain_cons] at horder
      rw [hrest]
      refine .cons before text.toList (ih hhead ?_ horder.2)
      intro a ha
      simpa [Nat.add_assoc] using horder.1 a ha
  · intro h
    induction texts generalizing front rest with
    | nil => exact ⟨[], ⟨.nil, .nil⟩, by simp⟩
    | cons text texts ih =>
      cases h with
      | @cons before _ after _ h =>
        have hafter : output.toList = (front ++ before ++ text.toList) ++ after := by
          simp [houtput]
        obtain ⟨places, ⟨hoccurs, horder⟩, hfirst⟩ := ih hafter h
        have hplace : OccursAt output text (byteLength (front ++ before)) :=
          occursAt_iff.mpr ⟨front ++ before, after, hafter, rfl⟩
        refine ⟨byteLength (front ++ before) :: places, ⟨.cons hplace hoccurs, ?_⟩, ?_⟩
        · rw [List.zip_cons_cons, List.isChain_cons]
          refine ⟨?_, horder⟩
          intro a ha
          simpa [Nat.add_assoc] using hfirst a ha
        · simp

private theorem placeable_iff {output : String} {texts : List String} :
    Placeable output texts ↔ Fits output.toList (texts.map String.toList) := by
  have h := exists_placement_iff texts (List.nil_append output.toList).symm
  simpa [Placeable, byteLength] using h

/-! The search -/

private theorem findText_eq_none_iff {text rest : List Char} {offset : Nat} :
    findText text offset rest = none ↔ ¬ text <:+: rest := by
  induction rest generalizing offset with
  | nil => simp [findText]
  | cons c cs ih =>
    unfold findText
    rw [List.infix_cons_iff, ← List.isPrefixOf_iff_prefix]
    split
    next h => simp [h]
    next h => simp [h, ih]

private theorem findText_eq_some {text rest : List Char} {offset start stop : Nat}
    (h : findText text offset rest = some (start, stop)) :
    ∃ before after, rest = before ++ text ++ after ∧ stop = offset + byteLength (before ++ text) ∧
      ∀ before' after', rest = before' ++ text ++ after' → after' <:+ after := by
  induction rest generalizing offset with
  | nil =>
    obtain ⟨htext, -, rfl⟩ : text = [] ∧ offset = start ∧ offset = stop := by
      simpa [findText] using h
    refine ⟨[], [], by simp [htext], by simp [htext, byteLength], ?_⟩
    intro before' after' hrest
    obtain ⟨-, -, rfl⟩ : before' = [] ∧ text = [] ∧ after' = [] := by simpa using hrest.symm
    exact List.suffix_refl []
  | cons c cs ih =>
    unfold findText at h
    split at h
    next hprefix =>
      obtain ⟨after, hafter⟩ := List.isPrefixOf_iff_prefix.mp hprefix
      obtain ⟨rfl, rfl⟩ : offset = start ∧ offset + byteLength text = stop := by simpa using h
      refine ⟨[], after, by simp [hafter], by simp, ?_⟩
      intro before' after' hrest
      have hlength : after'.length ≤ after.length := by
        have := congrArg List.length (hafter.trans hrest)
        simp only [List.length_append] at this
        omega
      have hsuffix : after <:+ c :: cs := ⟨text, hafter⟩
      have hsuffix' : after' <:+ c :: cs := ⟨before' ++ text, hrest.symm⟩
      exact List.suffix_of_suffix_length_le hsuffix' hsuffix hlength
    next hprefix =>
      obtain ⟨before, after, hcs, hstop, hfirst⟩ := ih h
      refine ⟨c :: before, after, by simp [hcs], ?_, ?_⟩
      · simp only [hstop, byteLength_append, byteLength_cons, List.cons_append]
        omega
      · intro before' after' hrest
        cases before' with
        | nil =>
          refine absurd ?_ hprefix
          rw [List.isPrefixOf_iff_prefix, hrest]
          exact ⟨after', by simp⟩
        | cons d ds =>
          obtain ⟨-, htail⟩ := List.cons.inj hrest
          exact hfirst ds after' htail

private theorem advance_byteLength (before : Option Char) (offset : Nat) (done rest : List Char) :
    (advance (offset + byteLength done) before offset (done ++ rest)).rest = rest := by
  induction done generalizing before offset with
  | nil =>
    cases rest with
    | nil => rfl
    | cons c cs => simp [advance, byteLength]
  | cons d ds ih =>
    have hd := d.utf8Size_pos
    have hlt : ¬ offset + (d.utf8Size + byteLength ds) ≤ offset := by omega
    rw [List.cons_append, byteLength_cons, advance, if_neg hlt, ← Nat.add_assoc]
    exact ih (some d) (offset + d.utf8Size)

private theorem piecesFrom_of_not_infix {cs : List Char} (h : ¬ ['\x7b', '\x7b'] <:+: cs)
    (piece : List Char) : piecesFrom false piece cs = .ok [.text (piece.reverse ++ cs)] := by
  induction cs generalizing piece with
  | nil => simp [piecesFrom]
  | cons c cs ih =>
    rw [List.infix_cons_iff, not_or] at h
    unfold piecesFrom
    split
    next cs _ => exact absurd ⟨cs, rfl⟩ h.1
    next heq => cases heq
    next => simpa using ih h.2 (_ :: piece)

theorem compileWithin_of_isLiteral (fits : Regex → Bool) {pattern : String}
    (h : IsLiteral pattern) : compileWithin fits pattern = .ok (.text pattern.toList) := by
  rw [compileWithin, pieces, piecesFrom_of_not_infix h]
  rfl

private theorem compile_of_isLiteral {pattern : String} (h : IsLiteral pattern) :
    compile pattern = .ok (.text pattern.toList) :=
  compileWithin_of_isLiteral Regex.fits h

/-- One step of the search: the first text occurs nowhere, or the search goes on behind its first
place, where the other texts fit if they do behind any place of it. -/
theorem checkFrom_cons {d : Directive} (hliteral : IsLiteral d.text) (c : Cursor)
    (ds : List Directive) :
    (checkFrom c (d :: ds) = .error (.notFound d.line d.text) ∧
        ∀ texts, ¬ Fits c.rest (d.text.toList :: texts)) ∨
      ∃ c', checkFrom c (d :: ds) = checkFrom c' ds ∧
        ∀ texts, Fits c.rest (d.text.toList :: texts) ↔ Fits c'.rest texts := by
  cases hfind : findText d.text.toList c.offset c.rest with
  | none =>
    refine .inl ⟨by simp [checkFrom, compile_of_isLiteral hliteral, Pattern.find, hfind], ?_⟩
    intro texts hfits
    refine findText_eq_none_iff.mp hfind ?_
    generalize c.rest = rest at hfits
    cases hfits with
    | @cons before _ after _ _ => exact ⟨before, after, rfl⟩
  | some found =>
    obtain ⟨start, stop⟩ := found
    obtain ⟨before, after, hrest, hstop, hfirst⟩ := findText_eq_some hfind
    refine .inr ⟨advance stop c.before c.offset c.rest, ?_, ?_⟩
    · simp [checkFrom, compile_of_isLiteral hliteral, Pattern.find, hfind]
    · intro texts
      have hafter : (advance stop c.before c.offset c.rest).rest = after := by
        rw [hstop, hrest]
        exact advance_byteLength c.before c.offset (before ++ d.text.toList) after
      rw [hafter]
      constructor
      · intro hfits
        generalize hwhole : c.rest = rest at hfits
        cases hfits with
        | @cons before' _ after' _ h => exact h.of_suffix (hfirst before' after' hwhole)
      · intro hfits
        rw [hrest]
        exact .cons before d.text.toList hfits

variable {checks : List Directive}

private theorem checkFrom_eq_ok_iff (hliteral : ∀ d ∈ checks, IsLiteral d.text) (c : Cursor) :
    checkFrom c checks = .ok () ↔ Fits c.rest (checks.map (·.text.toList)) := by
  induction checks generalizing c with
  | nil => exact ⟨fun _ => .nil _, fun _ => rfl⟩
  | cons d ds ih =>
    have hds := ih fun e he => hliteral e (List.mem_cons_of_mem d he)
    rcases checkFrom_cons (hliteral d List.mem_cons_self) c ds with
      ⟨herror, hnone⟩ | ⟨c', hstep, hfits⟩
    · simp [herror, hnone]
    · rw [hstep, List.map_cons, hfits, hds]

private theorem checkFrom_eq_error_iff (hliteral : ∀ d ∈ checks, IsLiteral d.text) (c : Cursor)
    (e : Error) :
    checkFrom c checks = .error e ↔ ∃ front d back, checks = front ++ d :: back ∧
      Fits c.rest (front.map (·.text.toList)) ∧ ¬ Fits c.rest ((front ++ [d]).map (·.text.toList)) ∧
      e = .notFound d.line d.text := by
  induction checks generalizing c with
  | nil => simp [checkFrom]
  | cons d ds ih =>
    have hds := ih fun e he => hliteral e (List.mem_cons_of_mem d he)
    rcases checkFrom_cons (hliteral d List.mem_cons_self) c ds with
      ⟨herror, hnone⟩ | ⟨c', hstep, hfits⟩
    · rw [herror]
      constructor
      · rintro ⟨⟩
        exact ⟨[], d, ds, rfl, .nil _, hnone [], rfl⟩
      · rintro ⟨front, d', back, hsplit, hfront, -, rfl⟩
        cases front with
        | nil =>
          obtain ⟨rfl, -⟩ := List.cons.inj hsplit
          rfl
        | cons first front =>
          obtain ⟨rfl, -⟩ := List.cons.inj hsplit
          exact absurd hfront (hnone _)
    · rw [hstep, hds]
      constructor
      · rintro ⟨front, d', back, rfl, hfront, hmore, rfl⟩
        refine ⟨d :: front, d', back, rfl, (hfits _).mpr hfront, ?_, rfl⟩
        exact fun h => hmore ((hfits _).mp h)
      · rintro ⟨front, d', back, hsplit, hfront, hmore, rfl⟩
        cases front with
        | nil =>
          obtain ⟨rfl, -⟩ := List.cons.inj hsplit
          exact absurd ((hfits []).mpr (.nil _)) hmore
        | cons first front =>
          obtain ⟨rfl, rfl⟩ := List.cons.inj hsplit
          refine ⟨front, d', back, rfl, (hfits _).mp hfront, ?_, rfl⟩
          exact fun h => hmore ((hfits _).mpr h)

private theorem fits_texts {output : String} :
    Fits output.toList (checks.map (·.text.toList)) ↔ Placeable output (checks.map (·.text)) := by
  rw [placeable_iff, List.map_map]
  rfl

/-- Texts are found in an output exactly if there are places for all of them. Otherwise the first
one is reported up to which there are none. -/
theorem check_literal_iff (output : String) (checks : List Directive)
    (hliteral : ∀ d ∈ checks, IsLiteral d.text) :
    (check output checks = .ok () ↔ Placeable output (checks.map (·.text))) ∧
      ∀ e, check output checks = .error e ↔ ∃ front d back, checks = front ++ d :: back ∧
        Placeable output (front.map (·.text)) ∧ ¬ Placeable output ((front ++ [d]).map (·.text)) ∧
        e = .notFound d.line d.text := by
  simp only [← fits_texts]
  exact ⟨checkFrom_eq_ok_iff hliteral _, checkFrom_eq_error_iff hliteral _⟩

theorem check_literal_iff_overlapping :
    (check "aéaéaé" [⟨.check, "éa", 1⟩, ⟨.check, "éa", 2⟩] = .ok () ∧
        Placeable "aéaéaé" ["éa", "éa"]) ∧
      check "aéaéaé" [⟨.check, "aéa", 1⟩, ⟨.check, "aéa", 2⟩] = .error (.notFound 2 "aéa") ∧
        ¬ Placeable "aéaéaé" ["aéa", "aéa"] := by
  have hfound : check "aéaéaé" [⟨.check, "éa", 1⟩, ⟨.check, "éa", 2⟩] = .ok () := rfl
  have hmissed : check "aéaéaé" [⟨.check, "aéa", 1⟩, ⟨.check, "aéa", 2⟩] =
      .error (.notFound 2 "aéa") := rfl
  have hplaces := check_literal_iff "aéaéaé" [⟨.check, "éa", 1⟩, ⟨.check, "éa", 2⟩] (by decide)
  have hnone := check_literal_iff "aéaéaé" [⟨.check, "aéa", 1⟩, ⟨.check, "aéa", 2⟩] (by decide)
  refine ⟨⟨hfound, hplaces.1.mp hfound⟩, hmissed, ?_⟩
  intro hplaced
  rw [hnone.1.mpr hplaced] at hmissed
  cases hmissed

end ShellSuite.Check
