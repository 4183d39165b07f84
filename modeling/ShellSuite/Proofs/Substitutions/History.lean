import Mathlib.Data.List.Induction
import Mathlib.Data.List.Nodup
import Mathlib.Tactic.WLOG
import ShellSuite.Proofs.Dict
import ShellSuite.Proofs.Substitutions

set_option autoImplicit false
set_option relaxedAutoImplicit false

/-!
Tables of substitutions by what was put into them. A table holds for each key the value that was
put in last, whatever came in between, and what it finds at the front of a text is the longest of
these keys.
-/

namespace ShellSuite.Substitutions

open Dict (valueIn valueIn_cons)

inductive Operation where
  | insert (key value : String)
  | extend (entries : Dict String)

inductive Origin where
  | empty
  | test (path scratch : Path)

def Operation.run (t : Substitutions) : Operation → Substitutions
  | .insert key value => t.insert key value
  | .extend entries => t.extend entries

def Origin.table : Origin → Substitutions
  | .empty => .empty
  | .test path scratch => .forTest path scratch

/-- The table after some operations, one behind the other. -/
def Origin.after (origin : Origin) (operations : List Operation) : Substitutions :=
  operations.foldl Operation.run origin.table

/-- The keys that an operation puts in, with their values, the first one first. -/
def Operation.pairs : Operation → List (String × String)
  | .insert key value => [(key, value)]
  | .extend entries => entries.entries

def Origin.pairs : Origin → List (String × String)
  | .empty => []
  | .test path scratch =>
    [("%s", path.text), ("%S", (sourceDir path).text), ("%p", (sourceDir path).text),
      ("%t", (scratch.child (path.fileName.getD "test" ++ ".tmp")).text), ("%T", scratch.text),
      ("%%", "%")]

def Origin.history (origin : Origin) (operations : List Operation) : List (String × String) :=
  origin.pairs ++ operations.flatMap Operation.pairs

/-- The value that was put in last for a key. The empty key has none. -/
def latest (history : List (String × String)) (key : String) : Option String :=
  if key = "" then none else valueIn history.reverse key

/-- A key that was put in and that a text starts with. -/
structure Applies (history : List (String × String)) (text key : String) : Prop where
  ne_empty : key ≠ ""
  inserted : ∃ value, (key, value) ∈ history
  front : key.toList <+: text.toList

/-- The longest key that was put in and that a text starts with, by its bytes. -/
structure AppliesLongest (history : List (String × String)) (text key : String) : Prop where
  applies : Applies history text key
  longest : ∀ other, Applies history text other → other.utf8ByteSize ≤ key.utf8ByteSize

theorem latest_append_singleton (history : List (String × String)) (e : String × String)
    (key : String) :
    latest (history ++ [e]) key =
      if e.1 = key ∧ e.1 ≠ "" then some e.2 else latest history key := by
  rw [latest, latest, List.reverse_concat, valueIn_cons]
  by_cases hempty : key = ""
  · subst hempty
    by_cases he : e.1 = "" <;> simp [he]
  · by_cases he : e.1 = key
    · simp [he, hempty]
    · simp [he, hempty]

theorem exists_latest_iff (history : List (String × String)) (key : String) :
    (∃ value, latest history key = some value) ↔ key ≠ "" ∧ ∃ value, (key, value) ∈ history := by
  rw [latest]
  split
  case isTrue hempty => simp [hempty]
  case isFalse hempty =>
    rw [← Option.isSome_iff_exists, valueIn, Option.isSome_map, List.find?_isSome]
    simp [hempty]

private theorem valueIn_place (key value : String) (es : List (String × String)) (other : String) :
    valueIn (place key value es) other = if key = other then some value else valueIn es other := by
  induction es with
  | nil => rw [place, valueIn_cons]
  | cons e es ih =>
    unfold place
    split
    case isTrue hkey =>
      rw [valueIn_cons, valueIn_cons, hkey]
      split <;> rfl
    case isFalse hkey =>
      split
      · rw [valueIn_cons]
      · rw [valueIn_cons, valueIn_cons, ih]
        -- both keys cannot be the other one
        by_cases he : e.1 = other
        · have hne : key ≠ other := by
            rintro rfl
            exact hkey he
          simp [he, hne]
        · simp [he]

theorem valueIn_insert (t : Substitutions) (key value other : String) :
    valueIn (t.insert key value).entries other =
      if key = other ∧ key ≠ "" then some value else valueIn t.entries other := by
  unfold insert
  split
  case isTrue hempty => simp [hempty]
  case isFalse hempty => simp [valueIn_place, hempty]

/-- The table of some pairs, put in one behind the other. -/
def ofPairs (pairs : List (String × String)) : Substitutions :=
  pairs.foldl (fun t e => t.insert e.1 e.2) empty

theorem Operation.run_ofPairs (pairs : List (String × String)) (operation : Operation) :
    operation.run (ofPairs pairs) = ofPairs (pairs ++ operation.pairs) := by
  cases operation with
  | insert key value => simp [run, Operation.pairs, ofPairs]
  | extend entries => simp [run, Operation.pairs, ofPairs, Substitutions.extend]

private theorem Origin.table_eq_ofPairs (origin : Origin) :
    origin.table = ofPairs origin.pairs := by
  cases origin with
  | empty => rfl
  | test path scratch => rfl

private theorem Origin.after_eq_ofPairs (origin : Origin) (operations : List Operation) :
    origin.after operations = ofPairs (origin.history operations) := by
  have hrun : ∀ (operations : List Operation) (pairs : List (String × String)),
      operations.foldl Operation.run (ofPairs pairs) =
        ofPairs (pairs ++ operations.flatMap Operation.pairs) := by
    intro operations
    induction operations with
    | nil => simp
    | cons operation operations ih =>
      intro pairs
      rw [List.foldl_cons, Operation.run_ofPairs, ih, List.flatMap_cons, List.append_assoc]
  rw [after, history, origin.table_eq_ofPairs, hrun]

private theorem valueIn_ofPairs (pairs : List (String × String)) (key : String) :
    valueIn (ofPairs pairs).entries key = latest pairs key := by
  induction pairs using List.reverseRecOn with
  | nil => by_cases h : key = "" <;> simp [ofPairs, empty, latest, valueIn, h]
  | append_singleton pairs e ih =>
    have hlast : ofPairs (pairs ++ [e]) = (ofPairs pairs).insert e.1 e.2 := by simp [ofPairs]
    rw [hlast, valueIn_insert, latest_append_singleton, ih]

private theorem eq_of_mem_of_key_eq {t : Substitutions} {a b : String × String} (ha : a ∈ t.entries)
    (hb : b ∈ t.entries) (h : a.1 = b.1) : a = b :=
  List.inj_on_of_nodup_map t.keys_nodup ha hb h

theorem mem_entries_iff (t : Substitutions) (key value : String) :
    (key, value) ∈ t.entries ↔ valueIn t.entries key = some value := by
  rw [valueIn, Option.map_eq_some_iff]
  constructor
  · intro hmem
    have hsome : (t.entries.find? fun e => e.1 = key).isSome :=
      List.find?_isSome.mpr ⟨(key, value), hmem, by simp⟩
    obtain ⟨e, he⟩ := Option.isSome_iff_exists.mp hsome
    have hkey : e.1 = key := by simpa using List.find?_some he
    have heq : e = (key, value) := eq_of_mem_of_key_eq (List.mem_of_find?_eq_some he) hmem hkey
    exact ⟨e, he, by rw [heq]⟩
  · rintro ⟨e, he, rfl⟩
    have hkey : e.1 = key := by simpa using List.find?_some he
    rw [← hkey]
    exact List.mem_of_find?_eq_some he

private theorem ext_valueIn {t₁ t₂ : Substitutions}
    (h : ∀ key, valueIn t₁.entries key = valueIn t₂.entries key) : t₁ = t₂ := by
  have hnodup : ∀ t : Substitutions, t.entries.Nodup := fun t => List.Nodup.of_map _ t.keys_nodup
  have hmem : ∀ e, e ∈ t₁.entries ↔ e ∈ t₂.entries := by
    rintro ⟨key, value⟩
    rw [mem_entries_iff, mem_entries_iff, h]
  have hentries : t₁.entries = t₂.entries := by
    refine List.Perm.eq_of_pairwise ?_ t₁.sorted t₂.sorted
      ((List.perm_ext_iff_of_nodup (hnodup t₁) (hnodup t₂)).mpr hmem)
    intro a b _ _ hab hba
    have hself := keyBefore_trans hab hba
    rw [keyBefore_irrefl] at hself
    exact (Bool.false_ne_true hself).elim
  cases t₁
  cases t₂
  cases hentries
  rfl

private theorem keyBefore_iff (a b : String) :
    keyBefore a b ↔
      b.utf8ByteSize < a.utf8ByteSize ∨ a.utf8ByteSize = b.utf8ByteSize ∧ a < b := by
  simp [keyBefore]

private theorem eq_of_front_of_size {a b : String} {cs : List Char} (ha : a.toList <+: cs)
    (hb : b.toList <+: cs) (h : a.utf8ByteSize = b.utf8ByteSize) : a = b := by
  wlog hab : a.toList <+: b.toList generalizing a b
  · have hba := (List.prefix_or_prefix_of_prefix ha hb).resolve_left hab
    exact (this hb ha h.symm hba).symm
  obtain ⟨more, hmore⟩ := hab
  have hsplit : b = a ++ String.ofList more := by
    apply String.toList_injective
    simp [hmore]
  have hnone : (String.ofList more).utf8ByteSize = 0 := by
    rw [hsplit, String.utf8ByteSize_append] at h
    omega
  rw [hsplit, String.utf8ByteSize_eq_zero_iff.mp hnone, String.append_empty]

theorem matchAt_eq_some_iff (t : Substitutions) (cs : List Char) (key value : String) :
    t.matchAt cs = some (key, value) ↔
      (key, value) ∈ t.entries ∧ key.toList <+: cs ∧
        ∀ e ∈ t.entries, e.1.toList <+: cs → e.1.utf8ByteSize ≤ key.utf8ByteSize := by
  have hlongest : ∀ found, t.matchAt cs = some found →
      ∀ e ∈ t.entries, e.1.toList <+: cs → e.1.utf8ByteSize ≤ found.1.utf8ByteSize := by
    intro found hfound e he hfront
    obtain ⟨_, before, behind, hsplit, hbefore⟩ := List.find?_eq_some_iff_append.mp hfound
    have hsorted := t.sorted
    rw [hsplit] at he hsorted
    rcases List.mem_append.mp he with he | he
    · have hnot := hbefore e he
      rw [List.isPrefixOf_iff_prefix.mpr hfront] at hnot
      exact absurd hnot (by decide)
    · rcases List.mem_cons.mp he with rfl | he
      · exact Nat.le_refl _
      · have hlater := (List.pairwise_cons.mp (List.pairwise_append.mp hsorted).2.1).1 e he
        rcases (keyBefore_iff _ _).mp hlater with hlt | ⟨heq, _⟩
        · exact hlt.le
        · exact heq.ge
  constructor
  · intro h
    exact ⟨List.mem_of_find?_eq_some h, (matchAt_isPrefixOf h).2, hlongest _ h⟩
  · rintro ⟨hmem, hfront, hlong⟩
    have hsome : (t.matchAt cs).isSome :=
      List.find?_isSome.mpr ⟨(key, value), hmem, List.isPrefixOf_iff_prefix.mpr hfront⟩
    obtain ⟨found, hfound⟩ := Option.isSome_iff_exists.mp hsome
    have hfoundFront := (matchAt_isPrefixOf hfound).2
    have hfoundMem := List.mem_of_find?_eq_some hfound
    -- neither of the two keys is longer, and both are fronts of one text
    have hsize : found.1.utf8ByteSize = key.utf8ByteSize :=
      Nat.le_antisymm (hlong found hfoundMem hfoundFront)
        (hlongest found hfound (key, value) hmem hfront)
    have hkey : found.1 = key := eq_of_front_of_size hfoundFront hfront hsize
    rw [hfound, eq_of_mem_of_key_eq hfoundMem hmem hkey]

private theorem matchAt_eq_none_iff (t : Substitutions) (cs : List Char) :
    t.matchAt cs = none ↔ ∀ e ∈ t.entries, ¬ e.1.toList <+: cs := by
  rw [matchAt, List.find?_eq_none]
  simp only [List.isPrefixOf_iff_prefix]

section

variable (pairs : List (String × String))

theorem mem_ofPairs_iff (key value : String) :
    (key, value) ∈ (ofPairs pairs).entries ↔ latest pairs key = some value := by
  rw [mem_entries_iff, valueIn_ofPairs]

private theorem applies_iff (text key : String) :
    Applies pairs text key ↔
      (∃ value, (key, value) ∈ (ofPairs pairs).entries) ∧ key.toList <+: text.toList := by
  simp only [mem_ofPairs_iff, exists_latest_iff]
  constructor
  · rintro ⟨hempty, hmem, hfront⟩
    exact ⟨⟨hempty, hmem⟩, hfront⟩
  · rintro ⟨⟨hempty, hmem⟩, hfront⟩
    exact ⟨hempty, hmem, hfront⟩

private theorem matchAt_ofPairs_eq_some_iff (text key value : String) :
    (ofPairs pairs).matchAt text.toList = some (key, value) ↔
      AppliesLongest pairs text key ∧ latest pairs key = some value := by
  rw [matchAt_eq_some_iff, mem_ofPairs_iff]
  constructor
  · rintro ⟨hvalue, hfront, hlong⟩
    have hmem := (mem_ofPairs_iff pairs key value).mpr hvalue
    refine ⟨⟨(applies_iff pairs text key).mpr ⟨⟨value, hmem⟩, hfront⟩, ?_⟩, hvalue⟩
    intro other hother
    obtain ⟨⟨otherValue, hotherMem⟩, hotherFront⟩ := (applies_iff pairs text other).mp hother
    exact hlong _ hotherMem hotherFront
  · rintro ⟨⟨happlies, hlong⟩, hvalue⟩
    refine ⟨hvalue, happlies.front, ?_⟩
    intro e he hfront
    exact hlong e.1 ((applies_iff pairs text e.1).mpr ⟨⟨e.2, he⟩, hfront⟩)

private theorem matchAt_ofPairs_eq_none_iff (text : String) :
    (ofPairs pairs).matchAt text.toList = none ↔ ∀ key, ¬ Applies pairs text key := by
  rw [matchAt_eq_none_iff]
  constructor
  · intro h key happlies
    obtain ⟨⟨value, hmem⟩, hfront⟩ := (applies_iff pairs text key).mp happlies
    exact h _ hmem hfront
  · intro h e he hfront
    exact h e.1 ((applies_iff pairs text e.1).mpr ⟨⟨e.2, he⟩, hfront⟩)

end

/-- A table maps each key to the value that was put in last, finds the longest of its keys at the
front of a text, and does not depend on the order in which different keys were put in. -/
theorem after_longest_match (origin : Origin) (operations : List Operation) :
    ((origin.after operations).keys.Nodup ∧
      (∀ key ∈ (origin.after operations).keys, key ≠ "") ∧
      (origin.after operations).keys.Pairwise fun a b =>
        b.utf8ByteSize < a.utf8ByteSize ∨ a.utf8ByteSize = b.utf8ByteSize ∧ a < b) ∧
    (∀ text size value,
      ((origin.after operations).matchAt text.toList).map (fun e => (e.1.utf8ByteSize, e.2)) =
          some (size, value) ↔
        ∃ key, AppliesLongest (origin.history operations) text key ∧ key.utf8ByteSize = size ∧
          latest (origin.history operations) key = some value) ∧
    (∀ text, (origin.after operations).matchAt text.toList = none ↔
      ∀ key, ¬ Applies (origin.history operations) text key) ∧
    ∀ (other : Origin) (others : List Operation),
      latest (origin.history operations) = latest (other.history others) →
        origin.after operations = other.after others := by
  refine ⟨⟨keys_nodup _, fun _ => keys_ne_empty _, ?_⟩, ?_, ?_, ?_⟩
  · exact (keys_pairwise _).imp fun h => (keyBefore_iff _ _).mp h
  · intro text size value
    rw [origin.after_eq_ofPairs, Option.map_eq_some_iff]
    constructor
    · rintro ⟨⟨key, found⟩, hfound, hpair⟩
      obtain ⟨hlongest, hvalue⟩ := (matchAt_ofPairs_eq_some_iff _ text key found).mp hfound
      obtain ⟨hsize, rfl⟩ := Prod.mk.inj hpair
      exact ⟨key, hlongest, hsize, hvalue⟩
    · rintro ⟨key, hlongest, rfl, hvalue⟩
      exact ⟨(key, value), (matchAt_ofPairs_eq_some_iff _ text key value).mpr ⟨hlongest, hvalue⟩,
        rfl⟩
  · intro text
    rw [origin.after_eq_ofPairs]
    exact matchAt_ofPairs_eq_none_iff _ text
  · intro other others hsame
    rw [origin.after_eq_ofPairs, other.after_eq_ofPairs]
    apply ext_valueIn
    intro key
    rw [valueIn_ofPairs, valueIn_ofPairs, hsame]

example :
    (Origin.empty.after [.insert "%a" "1", .insert "" "2", .insert "%ab" "3",
      .insert "%a" "4"]).matchAt "%ac".toList = some ("%a", "4") := by
  decide

end ShellSuite.Substitutions
