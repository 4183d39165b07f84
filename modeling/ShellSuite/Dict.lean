set_option autoImplicit false
set_option relaxedAutoImplicit false

/-!
Maps from names to values, held as a list in ascending order of the names.
-/

namespace ShellSuite

/-- A map from names to values, in ascending order of the names. -/
structure Dict (β : Type) where
  entries : List (String × β)
  sorted : entries.Pairwise fun a b => a.1 < b.1

namespace Dict

variable {β : Type}

instance [DecidableEq β] : DecidableEq (Dict β) := fun a b =>
  if h : a.entries = b.entries then
    isTrue (by cases a; cases b; cases h; rfl)
  else
    isFalse fun e => h (e ▸ rfl)

instance [Repr β] : Repr (Dict β) := ⟨fun d n => reprPrec d.entries n⟩

def empty : Dict β := ⟨[], List.Pairwise.nil⟩

instance : Inhabited (Dict β) := ⟨empty⟩

def insertEntry (key : String) (value : β) : List (String × β) → List (String × β)
  | [] => [(key, value)]
  | e :: es =>
    if key < e.1 then (key, value) :: e :: es
    else if key = e.1 then (key, value) :: es
    else e :: insertEntry key value es

theorem mem_insertEntry {key : String} {value : β} {es : List (String × β)} {x : String × β}
    (h : x ∈ insertEntry key value es) : x = (key, value) ∨ x ∈ es := by
  induction es with
  | nil => simpa [insertEntry] using h
  | cons e es ih =>
    simp only [insertEntry] at h
    split at h
    · simpa using h
    · split at h
      · rcases List.mem_cons.mp h with h | h
        · exact Or.inl h
        · exact Or.inr (List.mem_cons_of_mem _ h)
      · rcases List.mem_cons.mp h with h | h
        · exact Or.inr (h ▸ List.mem_cons_self)
        · rcases ih h with h | h
          · exact Or.inl h
          · exact Or.inr (List.mem_cons_of_mem _ h)

theorem insertEntry_sorted {key : String} {value : β} {es : List (String × β)}
    (h : es.Pairwise fun a b => a.1 < b.1) :
    (insertEntry key value es).Pairwise fun a b => a.1 < b.1 := by
  induction es with
  | nil => simp [insertEntry]
  | cons e es ih =>
    rw [List.pairwise_cons] at h
    simp only [insertEntry]
    split
    · rename_i less
      refine List.Pairwise.cons ?_ (List.Pairwise.cons h.1 h.2)
      intro x hx
      rcases List.mem_cons.mp hx with hx | hx
      · exact hx ▸ less
      · exact String.lt_trans less (h.1 x hx)
    · split
      · rename_i same
        refine List.Pairwise.cons ?_ h.2
        intro x hx
        exact same ▸ h.1 x hx
      · rename_i notLess notSame
        refine List.Pairwise.cons ?_ (ih h.2)
        intro x hx
        rcases mem_insertEntry hx with hx | hx
        · have less : e.1 < key := by
            apply Decidable.byContradiction
            intro notLess'
            exact notSame (String.le_antisymm (String.not_lt.mp notLess')
              (String.not_lt.mp notLess))
          exact hx ▸ less
        · exact h.1 x hx

/-- The map in which `key` has `value`, and every other name what it had. -/
def insert (d : Dict β) (key : String) (value : β) : Dict β :=
  ⟨insertEntry key value d.entries, insertEntry_sorted d.sorted⟩

def erase (d : Dict β) (key : String) : Dict β :=
  ⟨d.entries.filter fun e => e.1 ≠ key, d.sorted.filter _⟩

def get? (d : Dict β) (key : String) : Option β :=
  (d.entries.find? fun e => e.1 = key).map (·.2)

def contains (d : Dict β) (key : String) : Bool :=
  d.entries.any fun e => e.1 = key

/-- Enters a list of entries one after the other, so that a later one wins. -/
def insertAll (d : Dict β) (es : List (String × β)) : Dict β :=
  es.foldl (fun d e => d.insert e.1 e.2) d

/-- The map laid over another one: its values win. -/
def overlay (under top : Dict β) : Dict β :=
  under.insertAll top.entries

def ofList (es : List (String × β)) : Dict β :=
  empty.insertAll es

def keys (d : Dict β) : List String :=
  d.entries.map (·.1)

def isEmpty (d : Dict β) : Bool :=
  d.entries.isEmpty

end Dict

abbrev NameSet := Dict Unit

namespace NameSet

def insertNames (s : NameSet) (names : List String) : NameSet :=
  s.insertAll (names.map fun n => (n, ()))

def ofNames (names : List String) : NameSet :=
  insertNames Dict.empty names

end NameSet

end ShellSuite
