import ShellSuite.Proofs.RunLine.Finer
import ShellSuite.Proofs.RunLine.Reading
import ShellSuite.Proofs.Shell.Prefixes
import ShellSuite.Proofs.Text.Utf8

set_option autoImplicit false
set_option relaxedAutoImplicit false

/-!
The listing of `export` as a line of commands. Its line ends only separate words, so that all of it
is one `export` whose arguments are the assignments with the word `export` between them. This word
is a name without a value and sets nothing.
-/

namespace ShellSuite

/-! ### Reading a listing -/

namespace RunLine

def exportWords (e : String × String) : List String :=
  ["export", assignmentWord e]

private theorem tokensFrom_exportLine {t : Substitutions} (ht : Quiet t) (env : Dict String)
    {e : String × String} (hname : isName e.1 = true) (cs : List Char) :
    tokensFrom t env .bare .fresh
        (("export " ++ e.1 ++ "=" ++ quote e.2 ++ "\n").toList ++ cs) =
      ((exportWords e).map .word ++ ·) <$> tokensFrom t env .bare .fresh cs := by
  obtain ⟨q, hq, hread⟩ := tokensFrom_assignment env ht hname
  have hsplit : ("export " ++ e.1 ++ "=" ++ quote e.2 ++ "\n").toList ++ cs =
      "export".toList ++ ' ' :: (e.1.toList ++ '=' :: (quote e.2).toList ++ '\n' :: cs) := by
    simp
  have hsafe : ∀ c ∈ "export".toList, isSafe c = true := by
    intro c hc
    have hexport : isNameChars "export".toList = true := by decide
    exact isSafe_of_isNameChar (isNameChar_of_mem hexport hc)
  have hword : ("export".toList.foldl Pending.push .fresh).tokens = [.word "export"] := by decide
  rw [hsplit, tokensFrom_safe ht hsafe, tokensFrom_separator _ (by decide), hword, hread,
    tokensFrom_separator q (by decide), hq.tokens, String.ofList_toList]
  simp [exportWords]

private theorem tokensFrom_listing {t : Substitutions} (ht : Quiet t) (env : Dict String)
    {es : List (String × String)} (hnames : ∀ e ∈ es, isName e.1 = true) :
    tokensFrom t env .bare .fresh
        (String.join (es.map fun (name, value) =>
          "export " ++ name ++ "=" ++ quote value ++ "\n")).toList =
      .ok ((es.flatMap exportWords).map .word) := by
  induction es with
  | nil => simp [finish, Pending.tokens, Pending.fresh]
  | cons e es ih =>
    rw [List.forall_mem_cons] at hnames
    rw [List.map_cons, String.join_cons, String.toList_append,
      tokensFrom_exportLine ht env hnames.1, ih hnames.2]
    simp

private theorem parse_words {name : String} (h : ¬ IsAssignment name) (args : List String) :
    parse ((name :: args).map .word) = .ok ⟨⟨⟨[], name, args, []⟩, []⟩, []⟩ := by
  have hwords := parseFrom_words none [] [] [] (name :: args) []
  have hparts : Command.ofParts (name :: args) [] = .ok ⟨[], name, args, []⟩ :=
    Command.ofParts_eq_ok_iff.mpr ⟨rfl, rfl, by simp, h⟩
  rw [List.append_nil, List.nil_append, parseFrom_end _ _ _ _ (by simp), hparts] at hwords
  unfold parse
  rw [hwords]
  rfl

private theorem filterMap_exportWords {es : List (String × String)}
    (hnames : ∀ e ∈ es, isName e.1 = true) :
    (es.flatMap exportWords).filterMap assignment? = es := by
  induction es with
  | nil => rfl
  | cons e es ih =>
    rw [List.forall_mem_cons] at hnames
    have hnone : assignment? "export" = none := by decide
    have hsome : assignment? (assignmentWord e) = some e :=
      assignment?_eq_some_iff.mpr ⟨hnames.1, rfl⟩
    rw [List.flatMap_cons, exportWords, List.cons_append, List.singleton_append,
      List.filterMap_cons_none hnone, List.filterMap_cons_some hsome, ih hnames.2]

private theorem isName_or_isAssignment_of_mem {es : List (String × String)}
    (hnames : ∀ e ∈ es, isName e.1 = true) :
    ∀ word ∈ es.flatMap exportWords, isName word = true ∨ IsAssignment word := by
  intro word hword
  obtain ⟨e, he, hword⟩ := List.mem_flatMap.mp hword
  simp only [exportWords, List.mem_cons, List.not_mem_nil, or_false] at hword
  rcases hword with rfl | rfl
  · exact .inl (by decide)
  · exact .inr ⟨e, hnames e he, rfl⟩

private theorem parseLine_exportListing {listed : Dict String} (hne : listed.entries ≠ [])
    (hnames : ∀ e ∈ listed.entries, isName e.1 = true) (env : Dict String) :
    ∃ args, parseLine (Builtin.exportListing listed) .empty env =
        .ok ⟨⟨⟨[], "export", args, []⟩, []⟩, []⟩ ∧
      (∀ arg ∈ args, isName arg = true ∨ IsAssignment arg) ∧
      args.filterMap assignment? = listed.entries := by
  have hquiet : Quiet .empty := by
    intro key hkey
    cases hkey
  have hexport : ¬ IsAssignment "export" := assignment?_eq_none_iff.mp (by decide)
  obtain ⟨args, hargs⟩ : ∃ args, listed.entries.flatMap exportWords = "export" :: args := by
    obtain ⟨e, es, hes⟩ := List.exists_cons_of_ne_nil hne
    rw [hes]
    exact ⟨_, rfl⟩
  have htokens := tokensFrom_listing hquiet env hnames
  have hset := filterMap_exportWords hnames
  have hwords := isName_or_isAssignment_of_mem hnames
  rw [hargs] at htokens hset hwords
  refine ⟨args, ?_, ?_, ?_⟩
  · unfold parseLine tokenize Builtin.exportListing
    rw [htokens]
    exact parse_words hexport args
  · intro arg harg
    exact hwords arg (List.mem_cons_of_mem _ harg)
  · rwa [List.filterMap_cons_none (by decide)] at hset

end RunLine

/-! ### Running a listing -/

namespace Builtin

private theorem exportOne_eq (s : Scene) {arg : String}
    (h : RunLine.isName arg = true ∨ RunLine.IsAssignment arg) :
    exportOne s arg = ({ s with session := s.session.exported [arg] }, none) := by
  rcases h with hname | ⟨⟨name, value⟩, hname, rfl⟩
  · have hcut : Text.cutFirst '=' arg.toList = none := by
      rw [Option.eq_none_iff_forall_ne_some]
      rintro ⟨front, back⟩ hcut
      obtain ⟨hsplit, -⟩ := Text.cutFirst_eq_some hcut
      exact RunLine.not_mem_of_isName hname (by simp [hsplit])
    simp [exportOne, hcut, hname, Session.exported, RunLine.assignment?, Dict.insertAll]
  · have hcut := RunLine.cutFirst_assignmentWord hname value
    have hchars : RunLine.isNameChars name.toList = true := hname
    simp [exportOne, hcut, hname, hchars, Session.exported, RunLine.assignment?, Dict.insertAll]

private theorem forEach_exportOne (s : Scene) {args : List String}
    (h : ∀ arg ∈ args, RunLine.isName arg = true ∨ RunLine.IsAssignment arg) :
    s.forEach "export" exportOne args = (0, { s with session := s.session.exported args }) := by
  induction args generalizing s with
  | nil => rfl
  | cons arg args ih =>
    rw [List.forall_mem_cons] at h
    have hrest := ih { s with session := s.session.exported [arg] } h.2
    rw [exported_cons] at hrest
    unfold Scene.forEach at hrest ⊢
    rw [List.foldl_cons]
    simp only [exportOne_eq s h.1]
    exact hrest

private theorem export_eq (s : Scene) {args : List String} (hne : args ≠ [])
    (h : ∀ arg ∈ args, RunLine.isName arg = true ∨ RunLine.IsAssignment arg) :
    «export» args s = (0, { s with session := s.session.exported args }) := by
  unfold «export»
  rw [if_neg (by simpa using hne)]
  exact forEach_exportOne s h

end Builtin

private theorem Pipeline.run_export (m : Machine) (deadline : Option Duration) (sh : Shell)
    {args : List String} (hne : args ≠ [])
    (h : ∀ arg ∈ args, RunLine.isName arg = true ∨ RunLine.IsAssignment arg) :
    run m deadline ⟨⟨[], "export", args, []⟩, []⟩ sh =
      (.ok ⟨0, "", "", [⟨RunLine.Command.render ⟨[], "export", args, []⟩, 0, "", ""⟩], false⟩,
        { sh with session := sh.session.exported args }) := by
  have hlone : Lone ⟨⟨[], "export", args, []⟩, []⟩ sh
      ⟨false, false, sh.session.env, "export" :: args⟩ ⟨sh.world.files, []⟩ .initial :=
    ⟨rfl, rfl, rfl⟩
  rw [hlone.run_eq, actionOf_builtin rfl (rfl : Builtin.find? "export" = some Builtin.export)]
  simp only [runHere, Scene.start, Builtin.export_eq _ hne h]
  rfl

/-- What `export` lists can be run as a line, and sets in any shell the variables that were listed:
they have the values they had, and every other name has the value it has in the shell. -/
theorem Shell.runLine_exportListing (files : FileSystem) (listed : Session) (input : Option Bytes)
    (hne : listed.env.entries ≠ [])
    (hnames : ∀ e ∈ listed.env.entries, RunLine.isName e.1 = true) (m : Machine) (w : Watchdog)
    (sh : Shell) (hgo : stop w sh = none) :
    ∃ r env, runLine m w .empty
        (Text.decodeLossy (Builtin.export [] (.start files listed input)).2.output) sh =
          (.ok r, { sh with session := { sh.session with env := env } }) ∧
      r.exitCode = 0 ∧ r.stdout = "" ∧ r.stderr = "" ∧ r.timedOut = false ∧
      ∀ key, env.get? key = (listed.env.get? key).or (sh.session.env.get? key) := by
  have hlisting : Text.decodeLossy (Builtin.export [] (.start files listed input)).2.output =
      Builtin.exportListing listed.env :=
    Text.decodeLossy_encode _
  obtain ⟨args, hparse, hwords, hset⟩ :=
    RunLine.parseLine_exportListing hne hnames sh.session.env
  have hsome : args ≠ [] := by
    rintro rfl
    exact hne hset.symm
  have hrun : Line.runScript (executor m w) ⟨⟨⟨[], "export", args, []⟩, []⟩, []⟩ sh =
      Pipeline.run m w.deadline ⟨⟨[], "export", args, []⟩, []⟩ sh :=
    Line.runScript_single hgo _
  rw [Pipeline.run_export m w.deadline sh hsome hwords] at hrun
  rw [hlisting, runLine, hparse]
  simp only [hrun, Session.exported, hset]
  exact ⟨_, _, rfl, rfl, rfl, rfl, rfl, Dict.get?_overlay sh.session.env listed.env⟩

/-- A session whose values would mean something else without quotes. -/
def quotedSession : Session :=
  ⟨⟨"/"⟩, (Dict.empty.insert "A" "it's\n; $B | x=y").insert "_b" "", false⟩

/-- The listing has a quote, a line end and operators inside a word. The shell that runs it had
another value of `A`. -/
theorem Shell.runLine_exportListing_quoted :
    quotedSession.env.entries ≠ [] ∧
    (∀ e ∈ quotedSession.env.entries, RunLine.isName e.1 = true) ∧
    stop ⟨none, none⟩ narrowShell = none ∧
    narrowShell.session.env.get? "A" = some "0" ∧
    ∃ r env, runLine Pipeline.stopped ⟨none, none⟩ .empty
        "export A='it'\\''s\n; $B | x=y'\nexport _b=''\n" narrowShell =
          (.ok r, { narrowShell with session := { narrowShell.session with env := env } }) ∧
      r.exitCode = 0 ∧ env.get? "A" = some "it's\n; $B | x=y" ∧ env.get? "_b" = some "" ∧
      env.get? "export" = none := by
  have hnames : ∀ e ∈ quotedSession.env.entries, RunLine.isName e.1 = true := by decide
  have hgo : stop ⟨none, none⟩ narrowShell = none := by decide
  have htext : Text.decodeLossy (Builtin.export [] (.start narrowShell.world.files quotedSession
      none)).2.output = "export A='it'\\''s\n; $B | x=y'\nexport _b=''\n" := by
    decide +kernel
  obtain ⟨r, env, hrun, hcode, -, -, -, hget⟩ := runLine_exportListing narrowShell.world.files
    quotedSession none (by decide) hnames Pipeline.stopped ⟨none, none⟩ narrowShell hgo
  rw [htext] at hrun
  refine ⟨by decide, hnames, hgo, by decide, r, env, hrun, hcode, ?_, ?_, ?_⟩
  · rw [hget]
    rfl
  · rw [hget]
    rfl
  · rw [hget]
    rfl

end ShellSuite
