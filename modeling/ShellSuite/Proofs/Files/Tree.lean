import ShellSuite.Files.Node
import ShellSuite.Proofs.Path

set_option autoImplicit false
set_option relaxedAutoImplicit false

/-!
Well-formed file trees: in every directory the names ascend, so that no name stands for two entries.
Putting entries in and taking them out keeps a tree well-formed.
-/

namespace ShellSuite

/-- A tree in which the names of every directory ascend and are names. -/
inductive Node.WellFormed : Node → Prop
  | file (id : Nat) (executable : Bool) : WellFormed (.file id executable)
  | link (target : String) : WellFormed (.link target)
  | null : WellFormed .null
  | tool (name : String) : WellFormed (.tool name)
  | directory {es : List (String × Node)} (sorted : es.Pairwise fun a b => a.1 < b.1)
      (names : ∀ e ∈ es, Path.IsName e.1) (below : ∀ e ∈ es, WellFormed e.2) :
      WellFormed (.directory es)

namespace Node

/-- What holds of a node if it holds of the entries below it holds of every tree. -/
@[elab_as_elim]
theorem WellFormed.by_entries {P : ∀ n : Node, n.WellFormed → Prop}
    (step : ∀ (n : Node) (hn : n.WellFormed),
      (∀ e ∈ n.entries, ∃ he : e.2.WellFormed, P e.2 he) → P n hn)
    {n : Node} (h : n.WellFormed) : P n h := by
  induction h with
  | file | link | null | tool => exact step _ _ (by simp [entries])
  | directory sorted names below ih => exact step _ _ fun e he => ⟨below e he, ih e he⟩

variable {es : List (String × Node)} {name : String} {n : Node}

theorem WellFormed.sorted (h : (Node.directory es).WellFormed) :
    es.Pairwise fun a b => a.1 < b.1 := by
  cases h with
  | directory sorted _ _ => exact sorted

theorem WellFormed.isName {e : String × Node} (h : (Node.directory es).WellFormed) (he : e ∈ es) :
    Path.IsName e.1 := by
  cases h with
  | directory _ names _ => exact names e he

theorem WellFormed.entry {e : String × Node} (h : (Node.directory es).WellFormed) (he : e ∈ es) :
    e.2.WellFormed := by
  cases h with
  | directory _ _ below => exact below e he

mutual

def decideWellFormed : (n : Node) → Decidable n.WellFormed
  | .file id executable => isTrue (.file id executable)
  | .link target => isTrue (.link target)
  | .null => isTrue .null
  | .tool name => isTrue (.tool name)
  | .directory es =>
    have := decideEntries es
    decidable_of_iff
      ((es.Pairwise fun a b => a.1 < b.1) ∧ (∀ e ∈ es, Path.IsName e.1) ∧ ∀ e ∈ es, e.2.WellFormed)
      ⟨fun h => .directory h.1 h.2.1 h.2.2, fun h => ⟨h.sorted, fun _ => h.isName, fun _ => h.entry⟩⟩

def decideEntries : (es : List (String × Node)) → Decidable (∀ e ∈ es, e.2.WellFormed)
  | [] => isTrue (List.forall_mem_nil _)
  | (_, n) :: es =>
    have := decideWellFormed n
    have := decideEntries es
    decidable_of_iff (n.WellFormed ∧ ∀ e ∈ es, e.2.WellFormed) (by simp)

end

instance : DecidablePred WellFormed := decideWellFormed

theorem WellFormed.tail {e : String × Node} (h : (Node.directory (e :: es)).WellFormed) :
    (Node.directory es).WellFormed :=
  .directory (List.pairwise_cons.mp h.sorted).2
    (fun _ he => h.isName (List.mem_cons_of_mem _ he))
    fun _ he => h.entry (List.mem_cons_of_mem _ he)

theorem WellFormed.child?_of_mem (hes : (Node.directory es).WellFormed) (h : (name, n) ∈ es) :
    (Node.directory es).child? name = some n := by
  unfold Node.child? entries
  induction es with
  | nil => cases h
  | cons e es ih =>
    rcases List.mem_cons.mp h with rfl | hmem
    · simp
    · have hne : e.1 ≠ name := by
        intro he
        have hlt := (List.pairwise_cons.mp hes.sorted).1 _ hmem
        rw [he] at hlt
        exact String.lt_irrefl _ hlt
      rw [List.find?_cons_of_neg (by simpa using hne)]
      exact ih hes.tail hmem

private theorem mem_entries_of_child? {c : Node} (h : n.child? name = some c) :
    (name, c) ∈ n.entries := by
  obtain ⟨e, hfind, rfl⟩ := Option.map_eq_some_iff.mp h
  have hname : e.1 = name := by simpa using List.find?_some hfind
  rw [← hname]
  exact List.mem_of_find?_eq_some hfind

theorem descend?_preserves {P : Node → Prop} {c : Node} {names : List String}
    (step : ∀ n, P n → ∀ e ∈ n.entries, P e.2) (hn : P n) (h : n.descend? names = some c) :
    P c := by
  induction names generalizing n with
  | nil =>
    cases h
    exact hn
  | cons name names ih =>
    unfold Node.descend? at h
    split at h
    case h_1 child hchild => exact ih (step n hn _ (mem_entries_of_child? hchild)) h
    case h_2 => cases h

theorem WellFormed.descend? {c : Node} {names : List String} (hn : n.WellFormed)
    (h : n.descend? names = some c) : c.WellFormed := by
  refine descend?_preserves ?_ hn h
  intro n hn e he
  cases n with
  | directory es => exact hn.entry he
  | file | link | null | tool => cases he

theorem descend?_concat (names : List String) (name : String) (n : Node) :
    n.descend? (names ++ [name]) = (n.descend? names).bind (·.child? name) := by
  induction names generalizing n with
  | nil =>
    simp only [List.nil_append, descend?, Option.bind_some]
    cases n.child? name <;> rfl
  | cons first names ih =>
    simp only [List.cons_append, descend?]
    cases n.child? first with
    | none => rfl
    | some c => exact ih c

theorem WellFormed.alter {change : List (String × Node) → List (String × Node)} (hn : n.WellFormed)
    (hchange : ∀ es, (Node.directory es).WellFormed → (Node.directory (change es)).WellFormed)
    (names : List String) : (n.alter change names).WellFormed := by
  induction names generalizing n with
  | nil =>
    cases n with
    | directory es => exact hchange es hn
    | file | link | null | tool => exact hn
  | cons name names ih =>
    cases n with
    | directory es =>
      -- only nodes change, so that the names stay in order
      refine .directory ?_ ?_ ?_
      · refine List.pairwise_map.mpr (hn.sorted.imp ?_)
        intro a b hlt
        split <;> split <;> exact hlt
      · intro e he
        obtain ⟨e', he', rfl⟩ := List.mem_map.mp he
        have hname := hn.isName he'
        split <;> exact hname
      · intro e he
        obtain ⟨e', he', rfl⟩ := List.mem_map.mp he
        split
        · exact ih (hn.entry he')
        · exact hn.entry he'
    | file | link | null | tool => exact hn

theorem WellFormed.insertEntry (hes : (Node.directory es).WellFormed) (hname : Path.IsName name)
    (hn : n.WellFormed) : (Node.directory (Dict.insertEntry name n es)).WellFormed := by
  refine .directory (Dict.insertEntry_sorted hes.sorted) ?_ ?_
  · intro e he
    rcases Dict.mem_insertEntry he with rfl | he
    · exact hname
    · exact hes.isName he
  · intro e he
    rcases Dict.mem_insertEntry he with rfl | he
    · exact hn
    · exact hes.entry he

theorem WellFormed.filter (hes : (Node.directory es).WellFormed) (keep : String × Node → Bool) :
    (Node.directory (es.filter keep)).WellFormed := by
  refine .directory (hes.sorted.filter keep) ?_ ?_
  · intro e he
    exact hes.isName (List.mem_filter.mp he).1
  · intro e he
    exact hes.entry (List.mem_filter.mp he).1

end Node

/-- Trees that grow from well-formed ones by entries with names are well-formed. -/
theorem FileSystem.wellFormed_put {fs : FileSystem} {name : String} {n : Node}
    (h : fs.root.WellFormed) (dir : List String) (hname : Path.IsName name) (hn : n.WellFormed) :
    (fs.put dir name n).root.WellFormed :=
  h.alter (fun _ hes => hes.insertEntry hname hn) dir

theorem FileSystem.wellFormed_drop {fs : FileSystem} (h : fs.root.WellFormed) (dir : List String)
    (name : String) : (fs.drop dir name).root.WellFormed :=
  h.alter (fun _ hes => hes.filter _) dir

end ShellSuite
