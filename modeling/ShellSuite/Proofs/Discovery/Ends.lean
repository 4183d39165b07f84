import ShellSuite.Proofs.Discovery.Order

set_option autoImplicit false
set_option relaxedAutoImplicit false

/-!
A search comes to its end, whatever has become of the tree since its open directories were listed.
An entry that was listed may be anything by now, but what lies below it is a part of the tree. So the
steps that are made for the next item suffice, and there is no next item only if nothing is left to
be found.
-/

namespace ShellSuite.Discovery

open Search.all (collect)

variable {fs : FileSystem} {s s' : Search} {item : Option Item} {dir : Path} {m n : Nat}
  {outer levels : List Level}

/-- A search that comes to its end in at most so many steps. -/
inductive Search.EndsWithin (fs : FileSystem) : Nat → Search → Prop
  | done {n : Nat} {s : Search} (h : s.step fs = none) : EndsWithin fs n s
  | step {n : Nat} {s s' : Search} {item : Option Item} (h : s.step fs = some (item, s'))
      (rest : EndsWithin fs n s') : EndsWithin fs (n + 1) s

private theorem Search.EndsWithin.mono (h : s.EndsWithin fs m) (hle : m ≤ n) :
    s.EndsWithin fs n := by
  induction h generalizing n with
  | done hstep => exact .done hstep
  | step hstep _ ih =>
    obtain ⟨k, rfl⟩ := Nat.exists_eq_add_of_le' (Nat.le_of_add_left_le hle)
    exact .step hstep (ih (Nat.le_of_add_le_add_right hle))

private theorem Search.EndsWithin.of_step (h : s.EndsWithin fs (n + 1))
    (hstep : s.step fs = some (item, s')) : s'.EndsWithin fs n := by
  cases h with
  | done hdone => cases hdone.symm.trans hstep
  | step hfirst rest =>
    cases hfirst.symm.trans hstep
    exact rest

/-! ### Open directories -/

/-- Searches with these directories open come to their end, whatever they have entered. -/
def EndsIn (fs : FileSystem) (n : Nat) (levels : List Level) : Prop :=
  ∀ root scopes, Search.EndsWithin fs n (.amid root scopes levels)

/-- Opening a directory takes so many steps more, whatever is open around it. -/
def OpensWithin (fs : FileSystem) (k : Nat) (dir : Path) : Prop :=
  ∀ n outer, EndsIn fs n outer → EndsIn fs (n + k) (.ofDirectory fs dir :: outer)

private theorem EndsIn.mono (h : EndsIn fs m levels) (hle : m ≤ n) : EndsIn fs n levels :=
  fun root scopes => (h root scopes).mono hle

private theorem EndsIn.endsWithin (h : EndsIn fs n levels) (hs : s.walker = ⟨none, levels⟩) :
    s.EndsWithin fs n := by
  obtain ⟨root, walker, scopes⟩ := s
  subst hs
  exact h root scopes

/-- The steps for entries, given how many each of them takes. -/
def stepsFor : List (Entry × Nat) → Nat
  | [] => 0
  | e :: es => e.2 + stepsFor es

private theorem endsIn_cons {es : List (Entry × Nat)} (houter : EndsIn fs n outer)
    (hpos : ∀ e ∈ es, 0 < e.2)
    (hopen : ∀ name k, (.named name true, k) ∈ es → OpensWithin fs (k - 1) (dir.child name)) :
    EndsIn fs (n + stepsFor es + 1) (⟨dir, es.map Prod.fst⟩ :: outer) := by
  induction es with
  | nil => exact fun root scopes => .step rfl (houter root scopes)
  | cons e es ih =>
    have hrest : EndsIn fs (n + stepsFor es + 1) (⟨dir, es.map Prod.fst⟩ :: outer) :=
      ih (fun e he => hpos e (List.mem_cons_of_mem _ he))
        fun name k hmem => hopen name k (List.mem_cons_of_mem _ hmem)
    have he := hpos e List.mem_cons_self
    intro root scopes
    cases hstep : Search.step fs (.amid root scopes (⟨dir, e.1 :: es.map Prod.fst⟩ :: outer)) with
    | none => exact .done hstep
    | some next =>
      obtain ⟨item, s⟩ := next
      refine .step hstep ?_
      have htakes := takes_of_step hstep
      generalize hw : s.walker = w at htakes
      cases htakes with
      | found =>
        refine (hrest.endsWithin hw).mono ?_
        rw [stepsFor]
        omega
      | opened hdir =>
        obtain ⟨entry, k⟩ := e
        cases entry with
        | fault cause => cases hdir
        | named name isDir =>
          obtain rfl : isDir = true := hdir
          have hopened := hopen name k List.mem_cons_self _ _ hrest
          refine (hopened.endsWithin hw).mono ?_
          rw [stepsFor]
          omega

private theorem stepsFor_listed (es : List (String × Node)) :
    stepsFor (es.map fun e => (listed e, 3 * nodeCount e.2)) = 3 * entryCount es := by
  induction es with
  | nil => rfl
  | cons e es ih =>
    rw [List.map_cons, stepsFor, ih, entryCount, Nat.mul_add]

private theorem stepsFor_replicate (entries : List Entry) (k : Nat) :
    stepsFor (entries.map fun e => (e, k)) = k * entries.length := by
  induction entries with
  | nil => rfl
  | cons e entries ih =>
    rw [List.map_cons, stepsFor, ih, List.length_cons, Nat.mul_add_one, Nat.add_comm]

private theorem opensWithin_of_node {node : Node} (hnode : node.WellFormed)
    (hdir : ∀ es, fs.list dir = .ok es → node = .directory es) :
    OpensWithin fs (3 * nodeCount node - 1) dir := by
  -- the induction is on the node that stands at the path, as long as one can be read there
  induction hnode using Node.WellFormed.by_entries generalizing dir with
  | step node hnode ih =>
    intro n outer houter
    have hpos := nodeCount_pos node
    cases hlist : fs.list dir with
    | error cause =>
      have hlevel : Level.ofDirectory fs dir = ⟨dir, [(Entry.fault cause, 1)].map Prod.fst⟩ :=
        ofDirectory_of_error hlist
      rw [hlevel]
      refine (endsIn_cons houter (by simp) (by simp)).mono ?_
      simp only [stepsFor]
      omega
    | ok es =>
      obtain rfl := hdir es hlist
      have hlevel : Level.ofDirectory fs dir =
          ⟨dir, (es.map fun e => (listed e, 3 * nodeCount e.2)).map Prod.fst⟩ := by
        rw [ofDirectory_of_list hlist, List.map_map]
        rfl
      rw [hlevel]
      refine (endsIn_cons houter ?_ ?_).mono ?_
      · intro e he
        obtain ⟨e, -, rfl⟩ := List.mem_map.mp he
        have := nodeCount_pos e.2
        simp only
        omega
      · intro name k hmem
        obtain ⟨⟨_, child⟩, he, heq⟩ := List.mem_map.mp hmem
        obtain ⟨hentry, rfl⟩ := Prod.mk.inj heq
        obtain ⟨rfl, hchild⟩ := Entry.named.inj hentry
        obtain ⟨-, ihe⟩ := ih _ he
        refine ihe ?_
        intro sub hsub
        cases child with
        | directory sub' =>
          exact (FileSystem.node_child (node_of_list hlist) (hnode.isName he)
            (hnode.child?_of_mem he) (node_of_list hsub)).symm
        | file | link | null | tool => cases hchild
      · rw [stepsFor_listed, nodeCount]
        omega

/-- Below a path there is at most the whole tree. -/
private theorem opensWithin (htree : fs.root.WellFormed) (dir : Path) :
    OpensWithin fs (3 * nodeCount fs.root - 1) dir := by
  intro n outer houter
  have hpos := nodeCount_pos fs.root
  cases hlist : fs.list dir with
  | error cause =>
    have hnull : Node.null.WellFormed := by decide
    have hcount : nodeCount .null = 1 := rfl
    have hopens : OpensWithin fs (3 * nodeCount .null - 1) dir :=
      opensWithin_of_node hnull (by simp [hlist])
    refine (hopens n outer houter).mono ?_
    omega
  | ok es =>
    have hnode := node_of_list hlist
    obtain ⟨goal, -, hdescend⟩ := FileSystem.leads_of_node hnode
    have hcount := nodeCount_le_of_descend? hdescend
    have hes := FileSystem.wellFormed_of_node htree hnode
    refine (opensWithin_of_node hes (by simp [hlist]) n outer houter).mono ?_
    omega

/-- Whatever the entries of open directories are by now, each of them takes the steps of the whole
tree at most. -/
private theorem endsIn (htree : fs.root.WellFormed) (levels : List Level) :
    EndsIn fs (enough fs * levels.foldr (fun l n => l.entries.length + 1 + n) 0) levels := by
  induction levels with
  | nil => exact fun _ _ => .done rfl
  | cons level levels ih =>
    obtain ⟨path, entries⟩ := level
    have hpos := nodeCount_pos fs.root
    have hentries : (entries.map fun e => (e, 3 * nodeCount fs.root)).map Prod.fst = entries := by
      simp [Function.comp_def]
    have hopen : ∀ name k, (Entry.named name true, k) ∈ entries.map
        (fun e => (e, 3 * nodeCount fs.root)) → OpensWithin fs (k - 1) (path.child name) := by
      intro name k hmem
      obtain ⟨e, -, heq⟩ := List.mem_map.mp hmem
      obtain ⟨-, rfl⟩ := Prod.mk.inj heq
      exact opensWithin htree _
    have hlevel := endsIn_cons ih (by simp [hpos]) hopen
    rw [hentries, stepsFor_replicate] at hlevel
    refine hlevel.mono ?_
    have hmul : 3 * nodeCount fs.root * entries.length ≤ enough fs * entries.length :=
      Nat.mul_le_mul_right _ (Nat.le_add_right _ 3)
    have hone : 1 ≤ enough fs := Nat.le_add_left 1 _
    rw [List.foldr_cons, Nat.mul_add, Nat.mul_add_one]
    change _ ≤ enough fs * entries.length + enough fs + _
    omega

private theorem walker_of_step_start {root : Scope} {path : Path} {scopes : Scopes}
    (h : Search.step fs ⟨root, ⟨some path, levels⟩, scopes⟩ = some (item, s')) :
    s'.walker = ⟨none, []⟩ ∨ s'.walker = ⟨none, [.ofDirectory fs path]⟩ := by
  simp only [Search.step, Walker.step] at h
  rcases visitStart_cases fs path with ⟨cause, hvisit⟩ | hvisit | hvisit | ⟨-, hvisit⟩
  · rw [hvisit] at h
    cases h
    exact .inl rfl
  · rw [hvisit] at h
    cases h
    exact .inr rfl
  · rw [hvisit] at h
    obtain ⟨rfl, -⟩ := lookAt_file (Option.some.inj h)
    exact .inl rfl
  · rw [hvisit] at h
    obtain ⟨rfl, -⟩ := lookAt_file (Option.some.inj h)
    exact .inr rfl

private theorem foldr_add_one (levels : List Level) :
    levels.foldr (fun l n => l.entries.length + 1 + n) 1 =
      levels.foldr (fun l n => l.entries.length + 1 + n) 0 + 1 := by
  induction levels with
  | nil => rfl
  | cons level levels ih =>
    rw [List.foldr_cons, List.foldr_cons, ih]
    omega

/-- The steps that are made for the next item suffice to come to the end. -/
theorem Search.endsWithin (htree : fs.root.WellFormed) (s : Search) :
    s.EndsWithin fs (s.stepsLeft fs) := by
  obtain ⟨root, ⟨start, levels⟩, scopes⟩ := s
  have hsteps : Search.stepsLeft fs ⟨root, ⟨start, levels⟩, scopes⟩ =
      enough fs * levels.foldr (fun l n => l.entries.length + 1 + n) 0 + enough fs := by
    rw [← Nat.mul_add_one, ← foldr_add_one]
    rfl
  rw [hsteps]
  cases start with
  | none => exact (endsIn htree levels root scopes).mono (Nat.le_add_right _ _)
  | some path =>
    cases hstep : Search.step fs ⟨root, ⟨some path, levels⟩, scopes⟩ with
    | none => exact .done hstep
    | some next =>
      obtain ⟨item, s⟩ := next
      have hnil : EndsIn fs 0 [] := fun _ _ => .done rfl
      have hrest : s.EndsWithin fs (3 * nodeCount fs.root - 1) := by
        rcases walker_of_step_start hstep with hwalker | hwalker
        · exact (hnil.endsWithin hwalker).mono (Nat.zero_le _)
        · exact ((opensWithin htree path 0 [] hnil).endsWithin hwalker).mono (by omega)
      refine (EndsWithin.step hstep hrest).mono ?_
      unfold enough
      omega

/-! ### The next item -/

private theorem Search.EndsWithin.nextWithin_eq (h : s.EndsWithin fs m) (hle : m ≤ n) :
    s.nextWithin fs n = s.nextWithin fs m := by
  induction h generalizing n with
  | @done m s hstep =>
    cases m <;> cases n <;> simp [Search.nextWithin, hstep]
  | @step m s s' item hstep _ ih =>
    obtain ⟨k, rfl⟩ := Nat.exists_eq_add_of_le' (Nat.le_of_add_left_le hle)
    have hrest := ih (Nat.le_of_add_le_add_right hle)
    cases item <;> simp [Search.nextWithin, hstep, hrest]

private theorem Search.exists_stepsLeft (fs : FileSystem) (s : Search) :
    ∃ n, s.stepsLeft fs = n + 1 := by
  have hpos : 0 < s.stepsLeft fs := by
    rw [Search.stepsLeft, foldr_add_one]
    exact Nat.mul_pos (Nat.succ_pos _) (Nat.succ_pos _)
  exact ⟨s.stepsLeft fs - 1, by omega⟩

theorem Search.next_of_done (h : s.step fs = none) : s.next fs = none := by
  obtain ⟨n, hn⟩ := Search.exists_stepsLeft fs s
  rw [Search.next, hn, Search.nextWithin, h]

theorem Search.next_of_found {i : Item} (h : s.step fs = some (some i, s')) :
    s.next fs = some (i, s') := by
  obtain ⟨n, hn⟩ := Search.exists_stepsLeft fs s
  rw [Search.next, hn, Search.nextWithin, h]

/-- It makes no difference how many steps are made, as long as they suffice. -/
theorem Search.next_of_idle (htree : fs.root.WellFormed) (h : s.step fs = some (none, s')) :
    s.next fs = s'.next fs := by
  obtain ⟨n, hn⟩ := Search.exists_stepsLeft fs s
  have hends := s.endsWithin htree
  rw [hn] at hends
  have hrest := hends.of_step h
  have hother := s'.endsWithin htree
  rw [Search.next, hn, Search.nextWithin, h, Search.next]
  rcases Nat.le_total n (s'.stepsLeft fs) with hle | hle
  · exact (hrest.nextWithin_eq hle).symm
  · exact hother.nextWithin_eq hle

/-- There is no next item only if no number of steps finds one. -/
theorem Search.next_eq_none_iff (htree : fs.root.WellFormed) (s : Search) :
    s.next fs = none ↔ ∀ n, collect fs n s = [] := by
  have hends := s.endsWithin htree
  generalize s.stepsLeft fs = k at hends
  induction hends with
  | @done _ s h =>
    refine iff_of_true (Search.next_of_done h) fun n => ?_
    cases n with
    | zero => rfl
    | succ n => rw [collect, h]
  | @step _ s s' item h _ ih =>
    cases item with
    | some i =>
      refine iff_of_false (by simp [Search.next_of_found h]) fun hnone => ?_
      have hone := hnone 1
      rw [collect, h] at hone
      cases hone
    | none =>
      have hcollect (n : Nat) : collect fs (n + 1) s = collect fs n s' := by
        rw [collect, h]
        rfl
      rw [Search.next_of_idle htree h]
      refine ih.trans ⟨?_, ?_⟩
      · intro hnone n
        cases n with
        | zero => rfl
        | succ n => rw [hcollect, hnone n]
      · intro hnone n
        rw [← hcollect, hnone (n + 1)]

end ShellSuite.Discovery
