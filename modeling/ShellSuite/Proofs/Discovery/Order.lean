import ShellSuite.Proofs.Discovery.Search
import ShellSuite.Proofs.Path.Order

set_option autoImplicit false
set_option relaxedAutoImplicit false

/-!
The order in which a search finds items. The entries that open directories still have to offer are
places in the tree, and these places stand in the order of paths, each with all that lies below it
before the next one. A step looks at the first place. What it finds lies there, and so do the places
it opens; so items come in the order of their paths, even if the tree changes between two steps.
-/

namespace ShellSuite

namespace Override

private theorem encloses_of_ofDirectory {fs : FileSystem} {dir : Path} {cause : ConfigError}
    (h : ofDirectory fs dir = .error cause) : dir.Encloses cause.path := by
  have hfile : ∀ file, find fs dir = .ok (some file) → dir.Encloses file := by
    intro file hfind
    have hmem : file ∈ (fileNames.map dir.child).filter fs.isFile := by
      unfold find at hfind
      split at hfind
      · cases hfind
      case h_2 found hfound =>
        cases hfind
        rw [hfound]
        exact List.mem_singleton_self _
      · cases hfind
    obtain ⟨name, hname, rfl⟩ := List.mem_map.mp (List.mem_filter.mp hmem).1
    refine Path.encloses_child dir ?_
    simp only [fileNames, List.mem_cons, List.not_mem_nil, or_false] at hname
    rcases hname with rfl | rfl <;> decide
  unfold ofDirectory at h
  split at h
  · cases h
    exact .refl dir
  · cases h
  case h_3 file hfind =>
    split at h
    · cases h
      exact hfile file hfind
    · split at h
      · cases h
        exact hfile file hfind
      · cases h

end Override

namespace Discovery

def Entry.place (dir : Path) : Entry → Path
  | .named name _ => dir.child name
  | .fault _ => dir

def Entry.isDir : Entry → Bool
  | .named _ isDir => isDir
  | .fault _ => false

def Level.places (l : Level) : List Path :=
  l.entries.map (Entry.place l.path)

namespace Walker

def places (w : Walker) : List Path :=
  w.levels.flatMap Level.places

/-- The places of a walk have names and stand in the order of paths. -/
structure Orderly (w : Walker) : Prop where
  names : ∀ l ∈ w.levels, ∀ name isDir, .named name isDir ∈ l.entries → Path.IsName name
  apart : w.places.Pairwise Path.Before

/-- A walk is past a path: it has started, and all it has still to come to lies behind. -/
structure Past (w : Walker) (p : Path) : Prop where
  started : w.start = none
  ahead : ∀ q ∈ w.places, p.Precedes q

end Walker

variable {fs : FileSystem} {s s' : Search} {w w' : Walker} {item : Option Item} {dir : Path}
  {rest : List Level}

private theorem ofDirectory_spec (htree : fs.root.WellFormed) (dir : Path) :
    (∀ name isDir, .named name isDir ∈ (Level.ofDirectory fs dir).entries → Path.IsName name) ∧
      (Level.ofDirectory fs dir).places.Pairwise Path.Before ∧
        ∀ q ∈ (Level.ofDirectory fs dir).places, dir.Encloses q := by
  cases hlist : fs.list dir with
  | error cause =>
    simp [ofDirectory_of_error hlist, Level.places, Entry.place, Path.Encloses.refl]
  | ok es =>
    have hes := FileSystem.wellFormed_of_node htree (node_of_list hlist)
    have hplaces : Level.places ⟨dir, es.map listed⟩ = es.map fun e => dir.child e.1 := by
      simp [Level.places, listed, Entry.place]
    rw [ofDirectory_of_list hlist, hplaces, List.pairwise_map]
    refine ⟨?_, ?_, ?_⟩
    · intro name isDir hmem
      obtain ⟨e, he, heq⟩ := List.mem_map.mp hmem
      cases heq
      exact hes.isName he
    · refine hes.sorted.imp_of_mem ?_
      intro a b ha hb hab
      exact Path.before_child dir (hes.isName ha) (hes.isName hb) hab
    · intro q hq
      obtain ⟨e, he, rfl⟩ := List.mem_map.mp hq
      exact Path.encloses_child dir (hes.isName he)

private theorem encloses_of_enter {scope : Scope} {cause : ConfigError}
    (h : enter fs dir scope = .error cause) : dir.Encloses cause.path := by
  have hload : Override.ofDirectory fs dir = .error cause := by
    unfold enter Config.resolve at h
    cases hload : Override.ofDirectory fs dir with
    | error e =>
      rw [hload] at h
      cases h
      rfl
    | ok o =>
      rw [hload] at h
      cases h
  exact Override.encloses_of_ofDirectory hload

private theorem path_of_testOf? {scope : Scope} {file : Path} {t : Test}
    (h : testOf? scope file = some t) :
    t.path = file := by
  unfold testOf? at h
  split at h
  · cases h
    rfl
  · cases h

/-- What becomes of the first place of a walk: an item that lies there, or, if it is a directory, one
that is open now. -/
inductive Takes (fs : FileSystem) (place : Path) (isDir : Bool) (rest : List Level) :
    Option Item → Walker → Prop
  | found {item : Option Item} (hitem : ∀ i ∈ item, place.Encloses i.path) :
      Takes fs place isDir rest item ⟨none, rest⟩
  | opened (hdir : isDir = true) :
      Takes fs place isDir rest none ⟨none, .ofDirectory fs place :: rest⟩

private theorem takes_of_lookAtEntry {path : Path} {name : String} {isDir : Bool}
    (hs : s.walker = ⟨none, if isDir then .ofDirectory fs path :: rest else rest⟩)
    (h : s.lookAtEntry fs path name isDir = (item, s')) :
    Takes fs path isDir rest item s'.walker := by
  have hleft (hdir : ¬ isDir = true) : s.walker = ⟨none, rest⟩ := by
    simp [hs, hdir]
  have hopen (hdir : isDir = true) : s.walker = ⟨none, .ofDirectory fs path :: rest⟩ := by
    simp [hs, hdir]
  have hskip (hdir : isDir = true) : s.skip.walker = ⟨none, rest⟩ := by
    simp [Search.skip, Walker.skip, hopen hdir]
  unfold Search.lookAtEntry at h
  split at h
  · cases h
    by_cases hdir : isDir = true
    · exact hopen hdir ▸ .opened hdir
    · exact hleft hdir ▸ .found (by simp)
  · split at h
    · cases h
      split
      next hdir => exact hskip hdir ▸ .found (by simp)
      next hdir => exact hleft hdir ▸ .found (by simp)
    · split at h
      next hdir =>
        split at h
        next cause henter =>
          cases h
          refine hskip hdir ▸ .found ?_
          rintro i ⟨⟩
          exact encloses_of_enter henter
        next =>
          cases h
          exact (hopen hdir : (s.record path _).walker = _) ▸ .opened hdir
      next hdir =>
        cases h
        refine hleft hdir ▸ .found ?_
        intro i hi
        obtain ⟨t, ht, rfl⟩ := Option.map_eq_some_iff.mp hi
        have hpath : (Item.test t).path = path := path_of_testOf? ht
        rw [hpath]
        exact .refl _

theorem takes_of_step {root : Scope} {scopes : Scopes} {e : Entry} {entries : List Entry}
    {outer : List Level}
    (h : Search.step fs (.amid root scopes (⟨dir, e :: entries⟩ :: outer)) = some (item, s')) :
    Takes fs (e.place dir) e.isDir (⟨dir, entries⟩ :: outer) item s'.walker := by
  cases e with
  | fault cause =>
    cases h
    refine .found ?_
    rintro i ⟨⟩
    exact .refl _
  | named name isDir => exact takes_of_lookAtEntry rfl (Option.some.inj h)

private theorem places_cons (start : Option Path) (l : Level) (outer : List Level) :
    Walker.places ⟨start, l :: outer⟩ = l.places ++ Walker.places ⟨start, outer⟩ :=
  rfl

theorem Walker.Orderly.open (htree : fs.root.WellFormed) (hrest : Orderly ⟨none, rest⟩)
    (hbefore : ∀ q ∈ places ⟨none, rest⟩, dir.Before q) :
    Orderly ⟨none, .ofDirectory fs dir :: rest⟩ := by
  obtain ⟨hnames, hsorted, hinside⟩ := ofDirectory_spec htree dir
  refine ⟨List.forall_mem_cons.mpr ⟨hnames, hrest.names⟩, ?_⟩
  rw [places_cons, List.pairwise_append]
  exact ⟨hsorted, hrest.apart, fun p hp q hq => (hbefore q hq).below (hinside p hp) (.refl q)⟩

theorem Walker.Past.open {p : Path} (htree : fs.root.WellFormed) (hrest : Past ⟨none, rest⟩ p)
    (hbefore : p.Precedes dir) : Past ⟨none, .ofDirectory fs dir :: rest⟩ p := by
  refine ⟨rfl, ?_⟩
  intro q hq
  rw [places_cons, List.mem_append] at hq
  rcases hq with hq | hq
  · exact hbefore.below ((ofDirectory_spec htree dir).2.2 q hq)
  · exact hrest.ahead q hq

/-- What a step does to a walk: it stays in order, it gets past what is found, and it does not come
back to what it was past before. -/
structure Walker.Moves (w : Walker) (item : Option Item) (w' : Walker) : Prop where
  orderly : w'.Orderly
  past : ∀ i ∈ item, w'.Past i.path
  onward : ∀ p, w.Past p → w'.Past p ∧ ∀ i ∈ item, p.less i.path = true

private theorem Walker.Orderly.moves_of_takes {e : Entry} {entries : List Entry}
    {outer : List Level}
    (htree : fs.root.WellFormed) (hw : Orderly ⟨none, ⟨dir, e :: entries⟩ :: outer⟩)
    (h : Takes fs (e.place dir) e.isDir (⟨dir, entries⟩ :: outer) item w') :
    Moves ⟨none, ⟨dir, e :: entries⟩ :: outer⟩ item w' := by
  have hplaces : places ⟨none, ⟨dir, e :: entries⟩ :: outer⟩ =
      e.place dir :: places ⟨none, ⟨dir, entries⟩ :: outer⟩ := rfl
  have hapart := hw.apart
  rw [hplaces, List.pairwise_cons] at hapart
  have hrest : Orderly ⟨none, ⟨dir, entries⟩ :: outer⟩ := by
    obtain ⟨hfirst, houter⟩ := List.forall_mem_cons.mp hw.names
    refine ⟨List.forall_mem_cons.mpr ⟨?_, houter⟩, hapart.2⟩
    exact fun name isDir hmem => hfirst name isDir (List.mem_cons_of_mem _ hmem)
  have honward : ∀ p, Past ⟨none, ⟨dir, e :: entries⟩ :: outer⟩ p →
      p.Precedes (e.place dir) ∧ Past ⟨none, ⟨dir, entries⟩ :: outer⟩ p := by
    intro p hp
    have hahead := hp.ahead
    rw [hplaces, List.forall_mem_cons] at hahead
    exact ⟨hahead.1, rfl, hahead.2⟩
  cases h with
  | found hitem =>
    refine ⟨hrest, ?_, ?_⟩
    · intro i hi
      exact ⟨rfl, fun q hq => ((hapart.1 q hq).below (hitem i hi) (.refl q)).precedes⟩
    · intro p hp
      obtain ⟨hbefore, hpast⟩ := honward p hp
      exact ⟨hpast, fun i hi => hbefore i.path (hitem i hi)⟩
  | opened =>
    refine ⟨hrest.open htree hapart.1, by simp, ?_⟩
    intro p hp
    obtain ⟨hbefore, hpast⟩ := honward p hp
    exact ⟨hpast.open htree hbefore, by simp⟩

theorem lookAt_file {path : Path} (h : s.lookAt fs (.start path false) = (item, s')) :
    s' = s ∧ ∀ i ∈ item, i.path = path := by
  rw [Search.lookAt] at h
  split at h
  · cases h
    exact ⟨rfl, by rintro i ⟨⟩; rfl⟩
  · cases h
    exact ⟨rfl, by simp⟩

private theorem moves_of_step_start {root : Scope} {path : Path} {levels : List Level}
    {scopes : Scopes}
    (htree : fs.root.WellFormed)
    (h : Search.step fs ⟨root, ⟨some path, levels⟩, scopes⟩ = some (item, s')) :
    Walker.Moves ⟨some path, levels⟩ item s'.walker := by
  -- a link to a directory may be an item itself. All that lies in the directory comes behind it
  have hnil : Walker.Orderly ⟨none, []⟩ := ⟨by simp, .nil⟩
  have hopen : Walker.Orderly ⟨none, [.ofDirectory fs path]⟩ :=
    hnil.open htree (by simp [Walker.places])
  have hpast : ∀ p, Walker.Past ⟨none, []⟩ p := fun p => ⟨rfl, by simp [Walker.places]⟩
  -- a walk that has not started is past nothing
  have honward : ∀ p, ¬ Walker.Past ⟨some path, levels⟩ p := by
    rintro p ⟨⟨⟩⟩
  simp only [Search.step, Walker.step] at h
  rcases visitStart_cases fs path with ⟨cause, hvisit⟩ | hvisit | hvisit | ⟨⟨es, hlist⟩, hvisit⟩
  · rw [hvisit] at h
    cases h
    exact ⟨hnil, fun i _ => hpast i.path, fun p hp => absurd hp (honward p)⟩
  · rw [hvisit] at h
    cases h
    exact ⟨hopen, by simp, fun p hp => absurd hp (honward p)⟩
  · rw [hvisit] at h
    obtain ⟨rfl, -⟩ := lookAt_file (Option.some.inj h)
    exact ⟨hnil, fun i _ => hpast i.path, fun p hp => absurd hp (honward p)⟩
  · rw [hvisit] at h
    obtain ⟨rfl, hitem⟩ := lookAt_file (Option.some.inj h)
    refine ⟨hopen, ?_, fun p hp => absurd hp (honward p)⟩
    intro i hi
    rw [hitem i hi]
    refine ⟨rfl, ?_⟩
    have hes := FileSystem.wellFormed_of_node htree (node_of_list hlist)
    rw [places_cons, ofDirectory_of_list hlist]
    intro q hq
    obtain ⟨e, he, rfl⟩ : ∃ e ∈ es, path.child e.1 = q := by
      simpa [Level.places, Walker.places, listed, Entry.place] using hq
    exact Path.precedes_child path (hes.isName he)

private theorem Search.step_moves (htree : fs.root.WellFormed) (hs : s.walker.Orderly)
    (h : s.step fs = some (item, s')) : s.walker.Moves item s'.walker := by
  obtain ⟨root, ⟨start, levels⟩, scopes⟩ := s
  match start, levels with
  | some path, levels => exact moves_of_step_start htree h
  | none, [] => cases h
  | none, ⟨dir, []⟩ :: outer =>
    cases h
    refine ⟨⟨?_, hs.apart⟩, by simp, fun p hp => ⟨⟨rfl, hp.ahead⟩, by simp⟩⟩
    exact fun l hl => hs.names l (List.mem_cons_of_mem _ hl)
  | none, ⟨dir, e :: entries⟩ :: outer => exact hs.moves_of_takes htree (takes_of_step h)

/-- Pulling an item goes over steps that find nothing. -/
theorem Search.nextWithin_moves {n : Nat} {i : Item} (htree : fs.root.WellFormed)
    (hs : s.walker.Orderly) (h : s.nextWithin fs n = some (i, s')) :
    s.walker.Moves (some i) s'.walker := by
  induction n generalizing s with
  | zero => cases h
  | succ n ih =>
    unfold Search.nextWithin at h
    split at h
    · cases h
    next hstep =>
      cases h
      exact Search.step_moves htree hs hstep
    next t hstep =>
      have hfirst := Search.step_moves htree hs hstep
      have hrest := ih hfirst.orderly h
      refine ⟨hrest.orderly, hrest.past, ?_⟩
      intro p hp
      exact hrest.onward p (hfirst.onward p hp).1

theorem Search.next_moves {i : Item} (htree : fs.root.WellFormed) (hs : s.walker.Orderly)
    (h : s.next fs = some (i, s')) : s.walker.Moves (some i) s'.walker :=
  Search.nextWithin_moves htree hs h

/-- The items of a search come in the order of their paths, behind all that it was past before. -/
theorem Search.less_of_collect (htree : fs.root.WellFormed) (hs : s.walker.Orderly) (n : Nat) :
    ((all.collect fs n s).Pairwise fun a b => a.path.less b.path = true) ∧
      ∀ p, s.walker.Past p → ∀ i ∈ all.collect fs n s, p.less i.path = true := by
  induction n generalizing s with
  | zero => exact ⟨.nil, by simp [all.collect]⟩
  | succ n ih =>
    unfold all.collect
    split
    · exact ⟨.nil, by simp⟩
    case h_2 item s' hstep =>
      have hmoves := Search.step_moves htree hs hstep
      obtain ⟨hpairwise, hbehind⟩ := ih hmoves.orderly
      constructor
      · rw [List.pairwise_append]
        refine ⟨?_, hpairwise, ?_⟩
        · cases item <;> simp
        · intro i hi j hj
          exact hbehind i.path (hmoves.past i (Option.mem_toList.mp hi)) j hj
      · intro p hp i hi
        obtain ⟨hpast, hitem⟩ := hmoves.onward p hp
        rcases List.mem_append.mp hi with hi | hi
        · exact hitem i (Option.mem_toList.mp hi)
        · exact hbehind p hpast i hi

theorem orderly_of_start {root : Path} (h : start fs root = .ok s) : s.walker.Orderly := by
  obtain ⟨config, -, hs⟩ := bind_eq_ok h
  cases hs
  exact ⟨by simp, .nil⟩

end Discovery

end ShellSuite
