import ShellSuite.Proofs.Files.Change
import ShellSuite.Shell.Builtin

set_option autoImplicit false
set_option relaxedAutoImplicit false

/-!
What built-in commands leave as it is. File trees stay well-formed under all of them, and only `cd`
and `export` change the session: the one the working directory, the other one the environment.
-/

namespace ShellSuite

/-- The session after `export`: the assignments among its arguments hold, one after the other. -/
def Session.exported (s : Session) (args : List String) : Session :=
  { s with env := s.env.insertAll (args.filterMap RunLine.assignment?) }

namespace Scene

/-- The session is the same, and the files are still a well-formed tree if they were one. -/
structure Keeps (before after : Scene) : Prop where
  session : after.session = before.session
  tree : before.files.root.WellFormed → after.files.root.WellFormed

theorem Keeps.refl (s : Scene) : s.Keeps s :=
  ⟨rfl, id⟩

theorem Keeps.trans {a b c : Scene} (hab : a.Keeps b) (hbc : b.Keeps c) : a.Keeps c :=
  ⟨hbc.session.trans hab.session, fun h => hbc.tree (hab.tree h)⟩

private theorem keeps_fail (s : Scene) (name message : String) : s.Keeps (s.fail name message).2 :=
  ⟨rfl, id⟩

private theorem keeps_withFiles {s : Scene} (path : String) {change : FileSystem × Option OsError}
    (h : s.files.root.WellFormed → change.1.root.WellFormed) : s.Keeps (s.withFiles path change).1 :=
  ⟨rfl, h⟩

def advance (name : String) (step : Scene → String → Scene × Option String) (s : Scene)
    (text : String) : Scene :=
  match step s text with
  | (s, none) => s
  | (s, some message) => s.complain name message

private theorem forEach_scene (name : String) (step : Scene → String → Scene × Option String)
    (s : Scene)
    (texts : List String) : (s.forEach name step texts).2 = texts.foldl (advance name step) s := by
  -- the exit code is carried along without being looked at
  refine (List.foldl_hom Prod.snd ?_).symm
  rintro ⟨code, s⟩ text
  simp only [advance]
  rcases step s text with ⟨s', _ | message⟩
  · rfl
  · rfl

private theorem keeps_forEach {name : String} {step : Scene → String → Scene × Option String}
    (hstep : ∀ (s : Scene) text, s.Keeps (step s text).1) (s : Scene) (texts : List String) :
    s.Keeps (s.forEach name step texts).2 := by
  rw [forEach_scene]
  induction texts generalizing s with
  | nil => exact .refl s
  | cons text texts ih =>
    have hfirst : s.Keeps (advance name step s text) := by
      have h := hstep s text
      unfold advance
      split
      next heq => simpa [heq] using h
      next heq =>
        rw [heq] at h
        exact ⟨h.session, h.tree⟩
    rw [List.foldl_cons]
    exact hfirst.trans (ih _)

end Scene

namespace Builtin

open FileSystem

private theorem echo_keeps (args : List String) (s : Scene) : s.Keeps (echo args s).2 :=
  ⟨rfl, id⟩

private theorem mkdir_keeps (args : List String) (s : Scene) : s.Keeps (mkdir args s).2 := by
  unfold mkdir
  split
  · exact s.keeps_fail _ _
  · split
    · exact s.keeps_fail _ _
    · refine Scene.keeps_forEach ?_ s _
      intro s path
      apply Scene.keeps_withFiles
      intro htree
      split
      · exact wellFormed_attempt htree fun _ h => wellFormed_createDir htree h
      · exact wellFormed_createDirs htree _

private theorem rm_keeps (args : List String) (s : Scene) : s.Keeps (rm args s).2 := by
  unfold rm
  split
  · exact s.keeps_fail _ _
  · simp only
    split
    · exact s.keeps_fail _ _
    · refine Scene.keeps_forEach ?_ s _
      intro s path
      unfold removeOne
      simp only
      split
      · exact .refl s
      · split
        · apply Scene.keeps_withFiles
          intro htree
          exact wellFormed_attempt htree fun _ h => wellFormed_removeFile htree h
        · split
          · apply Scene.keeps_withFiles
            intro htree
            exact wellFormed_removeAll htree _
          · exact .refl s

private theorem toTarget_keeps {name : String}
    {step : Path → Scene → String → Scene × Option String}
    (hstep : ∀ target (s : Scene) source, s.Keeps (step target s source).1) (operands : List String)
    (s : Scene) : s.Keeps (toTarget name operands step s).2 := by
  unfold toTarget
  split
  · simp only
    split
    · exact s.keeps_fail _ _
    · exact Scene.keeps_forEach (hstep _) s _
  · exact s.keeps_fail _ _

private theorem mv_keeps (args : List String) (s : Scene) : s.Keeps (mv args s).2 := by
  refine toTarget_keeps ?_ args s
  intro target s source
  apply Scene.keeps_withFiles
  intro htree
  exact wellFormed_attempt htree fun _ h => wellFormed_rename htree h

mutual

private theorem wellFormed_copyNode {fs : FileSystem} (htree : fs.root.WellFormed)
    (source target : Path) :
    ∀ n : Node, (copyNode fs source target n).1.root.WellFormed
  | .directory es => by
    have hmade := wellFormed_createDirs htree target
    unfold copyNode
    split
    next fs' e heq => exact heq ▸ hmade
    next fs' heq =>
      rw [heq] at hmade
      exact wellFormed_copyEntries hmade source target es
  | .file .. | .link _ | .null | .tool _ => by
    unfold copyNode
    exact wellFormed_attempt htree fun _ h => wellFormed_copy htree h

private theorem wellFormed_copyEntries {fs : FileSystem} (htree : fs.root.WellFormed)
    (source target : Path) :
    ∀ es : List (String × Node), (copyEntries fs source target es).1.root.WellFormed
  | [] => by
    unfold copyEntries
    exact htree
  | (name, n) :: es => by
    have hfirst := wellFormed_copyNode htree (source.child name) (target.child name) n
    unfold copyEntries
    split
    next fs' e heq => exact heq ▸ hfirst
    next fs' heq =>
      rw [heq] at hfirst
      exact wellFormed_copyEntries hfirst source target es

end

private theorem wellFormed_copyTree {fs : FileSystem} (htree : fs.root.WellFormed)
    (source target : Path) :
    (copyTree fs source target).1.root.WellFormed := by
  unfold copyTree
  split
  · have hmade := wellFormed_createDirs htree (target.child "")
    split
    next fs' e heq => exact heq ▸ hmade
    next fs' heq =>
      rw [heq] at hmade
      exact wellFormed_copyEntries hmade source target _
  · exact wellFormed_attempt htree fun _ h => wellFormed_copy htree h

private theorem cp_keeps (args : List String) (s : Scene) : s.Keeps (cp args s).2 := by
  unfold cp
  split
  · exact s.keeps_fail _ _
  · refine toTarget_keeps ?_ _ s
    intro target s source
    simp only
    split
    · apply Scene.keeps_withFiles
      intro htree
      exact wellFormed_attempt htree fun _ h => wellFormed_copy htree h
    · split
      · exact .refl s
      · apply Scene.keeps_withFiles
        intro htree
        exact wellFormed_copyTree htree _ _

private theorem cat_keeps (args : List String) (s : Scene) : s.Keeps (cat args s).2 := by
  refine Scene.keeps_forEach ?_ s _
  intro s file
  simp only
  split
  · exact ⟨rfl, id⟩
  · split
    · exact ⟨rfl, id⟩
    · exact .refl s

private theorem touch_keeps (args : List String) (s : Scene) : s.Keeps (touch args s).2 := by
  unfold touch
  split
  · exact s.keeps_fail _ _
  · refine Scene.keeps_forEach ?_ s args
    intro s path
    simp only
    split
    · exact .refl s
    · apply Scene.keeps_withFiles
      intro htree
      refine wellFormed_attempt htree ?_
      intro fs' h
      obtain ⟨⟨opened, sink⟩, hopen, rfl⟩ := map_eq_ok h
      exact wellFormed_openWrite htree hopen

private theorem diffRead_keeps (s : Scene) (name : String) : s.Keeps (diffRead s name).2 := by
  unfold diffRead
  split
  · exact ⟨rfl, id⟩
  · exact .refl s

private theorem diff_keeps (args : List String) (s : Scene) : s.Keeps (diff args s).2 := by
  unfold diff
  split
  · exact ⟨rfl, id⟩
  next o oldName newName _ =>
    have hold := diffRead_keeps s oldName
    have hnew := diffRead_keeps (diffRead s oldName).2 newName
    have hread := hold.trans hnew
    simp only
    split
    · split
      · exact hread
      · exact hread.trans ⟨rfl, id⟩
    · exact hread.trans ⟨rfl, id⟩
    · exact hread.trans ⟨rfl, id⟩
  · exact ⟨rfl, id⟩

/-! The commands that change the session -/

private theorem cd_cases (args : List String) (s : Scene) :
    (∃ dir, args = [dir] ∧ s.files.isDirectory (s.session.resolve dir) = true ∧
      cd args s = (0, { s with session := { s.session with cwd := s.session.resolve dir } })) ∨
    s.Keeps (cd args s).2 := by
  unfold cd
  split
  next dir =>
    simp only
    split
    next hdir => exact .inl ⟨dir, rfl, hdir, rfl⟩
    next => exact .inr (s.keeps_fail _ _)
  next => exact .inr (s.keeps_fail _ _)

theorem exported_cons (session : Session) (arg : String) (args : List String) :
    (session.exported [arg]).exported args = session.exported (arg :: args) := by
  unfold Session.exported
  rw [List.filterMap_cons, List.filterMap_cons, List.filterMap_nil]
  cases RunLine.assignment? arg with
  | none => rfl
  | some a => rfl

private theorem advance_exportOne (s : Scene) (arg : String) :
    (s.advance "export" exportOne arg).session = s.session.exported [arg] ∧
      (s.advance "export" exportOne arg).files = s.files := by
  unfold Scene.advance exportOne Session.exported RunLine.isName
  rw [List.filterMap_cons, List.filterMap_nil, RunLine.assignment?]
  cases Text.cutFirst '=' arg.toList with
  | none =>
    cases hname : RunLine.isNameChars arg.toList with
    | false => simp [hname, Scene.complain, Dict.insertAll]
    | true => simp [hname, Dict.insertAll]
  | some parts =>
    obtain ⟨name, value⟩ := parts
    cases hname : RunLine.isNameChars name with
    | false => simp [hname, Scene.complain, Dict.insertAll]
    | true => simp [hname, Dict.insertAll]

theorem export_session (args : List String) (s : Scene) :
    («export» args s).2.session = s.session.exported args ∧ («export» args s).2.files = s.files := by
  unfold «export»
  split
  next hnil =>
    rw [List.isEmpty_iff.mp hnil]
    exact ⟨rfl, rfl⟩
  next hne =>
    rw [Scene.forEach_scene]
    clear hne
    induction args generalizing s with
    | nil => exact ⟨rfl, rfl⟩
    | cons arg args ih =>
      obtain ⟨hsession, hfiles⟩ := advance_exportOne s arg
      rw [List.foldl_cons, (ih _).1, (ih _).2, hsession, hfiles, exported_cons]
      exact ⟨rfl, rfl⟩

/-! All of them -/

theorem mem_all_of_find? {name : String} {run : Builtin} (h : find? name = some run) :
    (name, run) ∈ all := by
  obtain ⟨b, hfind, rfl⟩ := Option.map_eq_some_iff.mp h
  have hname : b.1 = name := by simpa using List.find?_some hfind
  rw [← hname]
  exact List.mem_of_find?_eq_some hfind

theorem changesSession_iff {name : String} :
    changesSession name = true ↔ name = "cd" ∨ name = "export" := by
  simp [changesSession]

theorem keeps_of_find? {name : String} {run : Builtin} (h : find? name = some run)
    (hname : changesSession name = false) (args : List String) (s : Scene) :
    s.Keeps (run args s).2 := by
  have hall : ∀ b ∈ all, changesSession b.1 = false →
      ∀ args (s : Scene), s.Keeps (b.2 args s).2 := by
    simp only [all, List.forall_mem_cons, List.not_mem_nil, false_imp_iff, implies_true, and_true]
    exact ⟨fun _ => echo_keeps, fun _ _ s => .refl s, fun _ _ s => .refl s, fun _ _ s => .refl s,
      fun h => absurd h (by decide), fun _ => mkdir_keeps, fun _ => rm_keeps, fun _ => mv_keeps,
      fun _ => cp_keeps, fun _ => diff_keeps, fun _ => cat_keeps, fun h => absurd h (by decide),
      fun _ => touch_keeps⟩
  exact hall _ (mem_all_of_find? h) hname args s

theorem wellFormed_of_find? {name : String} {run : Builtin} (h : find? name = some run)
    (args : List String) {s : Scene} (htree : s.files.root.WellFormed) :
    (run args s).2.files.root.WellFormed := by
  cases hname : changesSession name with
  | false => exact (keeps_of_find? h hname args s).tree htree
  | true =>
    rcases changesSession_iff.mp hname with rfl | rfl
    · obtain rfl : cd = run := Option.some.inj h
      rcases cd_cases args s with ⟨_, _, _, heq⟩ | hkeeps
      · rw [heq]
        exact htree
      · exact hkeeps.tree htree
    · obtain rfl : «export» = run := Option.some.inj h
      rw [(export_session args s).2]
      exact htree

end Builtin

end ShellSuite
