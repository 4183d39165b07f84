import ShellSuite.Proofs.Text
import ShellSuite.RunLine.Script

set_option autoImplicit false
set_option relaxedAutoImplicit false

/-!
Commands and the words they are made of. A command is read from a list of words exactly when the
words are its assignments, its name and its arguments, and the name is the first word that is no
assignment.
-/

namespace ShellSuite.RunLine

def assignmentWord (a : String × String) : String :=
  a.1 ++ "=" ++ a.2

/-- Whether a word has the form `NAME=value`. -/
def IsAssignment (word : String) : Prop :=
  ∃ a : String × String, isName a.1 = true ∧ word = assignmentWord a

def Command.words (c : Command) : List String :=
  c.env.map assignmentWord ++ c.name :: c.args

/-- Whether a command is what its own words say. -/
structure Command.Readable (c : Command) : Prop where
  names : ∀ a ∈ c.env, isName a.1 = true
  named : ¬ IsAssignment c.name

section Assignments

theorem isNameChar_of_mem {name : List Char} (h : isNameChars name = true) {c : Char}
    (hc : c ∈ name) : isNameChar c = true := by
  cases name with
  | nil => simp at hc
  | cons d ds =>
    simp only [isNameChars, Bool.and_eq_true, List.all_eq_true] at h
    rcases List.mem_cons.mp hc with rfl | hc
    · have hstart := h.1
      simp only [isNameStart, Bool.or_eq_true] at hstart
      simp only [isNameChar, Char.isAlphanum, Bool.or_eq_true]
      exact hstart.imp_left Or.inl
    · exact h.2 c hc

theorem not_mem_of_isName {name : String} (h : isName name = true) : '=' ∉ name.toList := by
  intro hmem
  exact absurd (isNameChar_of_mem h hmem) (by decide)

theorem cutFirst_assignmentWord {name : String} (h : isName name = true) (value : String) :
    Text.cutFirst '=' (assignmentWord (name, value)).toList =
      some (name.toList, value.toList) := by
  rw [← Text.cutFirst_append_cons (not_mem_of_isName h) value.toList]
  simp [assignmentWord]

theorem assignment?_eq_some_iff {word : String} {a : String × String} :
    assignment? word = some a ↔ isName a.1 = true ∧ word = assignmentWord a := by
  obtain ⟨name, value⟩ := a
  constructor
  · intro h
    unfold assignment? at h
    split at h
    · rename_i front back hcut
      split at h
      · rename_i hname
        obtain ⟨rfl, rfl⟩ : String.ofList front = name ∧ String.ofList back = value := by
          simpa using h
        obtain ⟨hword, -⟩ := Text.cutFirst_eq_some hcut
        refine ⟨by simpa [isName] using hname, ?_⟩
        rw [← String.toList_inj, hword]
        simp [assignmentWord]
      · simp at h
    · simp at h
  · rintro ⟨hname, rfl⟩
    have hcut := cutFirst_assignmentWord hname value
    have hchars : isNameChars name.toList = true := hname
    simp [assignment?, hcut, hchars]

theorem assignment?_eq_none_iff {word : String} : assignment? word = none ↔ ¬ IsAssignment word := by
  rw [Option.eq_none_iff_forall_ne_some]
  constructor
  · rintro h ⟨a, ha⟩
    exact h a (assignment?_eq_some_iff.mpr ha)
  · intro h a ha
    exact h ⟨a, assignment?_eq_some_iff.mp ha⟩

private theorem takeAssignments_append {env : List (String × String)}
    (henv : ∀ a ∈ env, isName a.1 = true)
    {name : String} (hname : ¬ IsAssignment name) (args : List String) :
    takeAssignments (env.map assignmentWord ++ name :: args) = (env, name :: args) := by
  induction env with
  | nil => simp [takeAssignments, assignment?_eq_none_iff.mpr hname]
  | cons a env ih =>
    have ha : assignment? (assignmentWord a) = some a :=
      assignment?_eq_some_iff.mpr ⟨henv a List.mem_cons_self, rfl⟩
    simp [takeAssignments, ha, ih fun b hb => henv b (List.mem_cons_of_mem a hb)]

private theorem takeAssignments_spec (words : List String) :
    words = (takeAssignments words).1.map assignmentWord ++ (takeAssignments words).2 ∧
      (∀ a ∈ (takeAssignments words).1, isName a.1 = true) ∧
      ∀ w ∈ (takeAssignments words).2.head?, ¬ IsAssignment w := by
  induction words with
  | nil => simp [takeAssignments]
  | cons w ws ih =>
    cases hw : assignment? w with
    | none => simpa [takeAssignments, hw] using assignment?_eq_none_iff.mp hw
    | some a =>
      obtain ⟨hname, hword⟩ := assignment?_eq_some_iff.mp hw
      obtain ⟨hws, hnames, hhead⟩ := ih
      simp only [takeAssignments, hw]
      refine ⟨?_, ?_, hhead⟩
      · rw [List.map_cons, List.cons_append, ← hws, ← hword]
      · intro b hb
        rcases List.mem_cons.mp hb with rfl | hb
        · exact hname
        · exact hnames b hb

end Assignments

theorem Command.ofParts_eq_ok_iff {words : List String} {redirects : List Redirect} {c : Command} :
    Command.ofParts words redirects = .ok c ↔
      c.words = words ∧ c.redirects = redirects ∧ c.Readable := by
  constructor
  · intro h
    obtain ⟨hwords, hnames, hhead⟩ := takeAssignments_spec words
    unfold Command.ofParts at h
    split at h
    · simp at h
    · rename_i env name args htake
      obtain rfl := Except.ok.inj h
      rw [htake] at hwords hnames hhead
      exact ⟨hwords.symm, rfl, hnames, hhead name rfl⟩
  · rintro ⟨rfl, rfl, hnames, hnamed⟩
    unfold Command.ofParts Command.words
    rw [takeAssignments_append hnames hnamed]

theorem Command.exists_ofParts_iff {words : List String} {redirects : List Redirect} :
    (∃ c, Command.ofParts words redirects = .ok c) ↔ ∃ w ∈ words, ¬ IsAssignment w := by
  constructor
  · rintro ⟨c, h⟩
    obtain ⟨rfl, -, hread⟩ := Command.ofParts_eq_ok_iff.mp h
    exact ⟨c.name, by simp [Command.words], hread.named⟩
  · rintro ⟨w, hw, hassign⟩
    obtain ⟨hwords, hnames, hhead⟩ := takeAssignments_spec words
    cases hrest : (takeAssignments words).2 with
    | nil =>
      rw [hrest, List.append_nil] at hwords
      rw [hwords] at hw
      obtain ⟨a, ha, rfl⟩ := List.mem_map.mp hw
      exact absurd ⟨a, hnames a ha, rfl⟩ hassign
    | cons name args =>
      rw [hrest] at hwords hhead
      exact ⟨⟨_, name, args, redirects⟩,
        Command.ofParts_eq_ok_iff.mpr ⟨hwords.symm, rfl, hnames, hhead name rfl⟩⟩

end ShellSuite.RunLine
