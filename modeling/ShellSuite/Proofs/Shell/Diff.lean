import ShellSuite.Proofs.Diff.Hunk
import ShellSuite.Proofs.Files.Lookup
import ShellSuite.Proofs.Text.Utf8
import ShellSuite.Shell.Builtin.Diff

set_option autoImplicit false
set_option relaxedAutoImplicit false

/-!
The command that compares two files: what it takes for equal, and what it prints otherwise.
-/

namespace ShellSuite.Builtin

open Diff (Hunk IsPatch Located patched patchText shown)
open Text (closed decodeLossy encode)

variable {args files : List String} {s rest : Scene} {oldName newName old new : String}

/-! Arguments -/

def isDiffOption (arg : String) : Bool :=
  arg = "-u" || arg = "-b" || arg = "-w" || arg = "--strip-trailing-cr"

def operands (args : List String) : List String :=
  args.filter (!isDiffOption ·)

def DiffOptions.ofArgs (args : List String) : DiffOptions :=
  ⟨"-b" ∈ args, "-w" ∈ args, "--strip-trailing-cr" ∈ args⟩

def IsName (name : String) : Prop :=
  name = "-" ∨ name.toList.head? ≠ some '-'

private theorem diffArgs_eq (o : DiffOptions) (files : List String)
    (h : ∀ name ∈ operands args, IsName name) :
    diffArgs o files args = .ok (⟨o.ignoreSpaceChange || "-b" ∈ args,
      o.ignoreAllSpace || "-w" ∈ args, o.stripReturn || "--strip-trailing-cr" ∈ args⟩,
      files ++ operands args) := by
  induction args generalizing o files with
  | nil => simp [diffArgs, operands]
  | cons arg args ih =>
    rw [diffArgs]
    by_cases hoption : isDiffOption arg = true
    · have hrest : operands (arg :: args) = operands args := by simp [operands, hoption]
      rw [hrest] at h ⊢
      simp only [isDiffOption, Bool.or_eq_true, decide_eq_true_eq, or_assoc] at hoption
      rcases hoption with rfl | rfl | rfl | rfl <;> simp [ih _ _ h]
    · have hfirst : operands (arg :: args) = arg :: operands args := by simp [operands, hoption]
      rw [hfirst, List.forall_mem_cons] at h
      simp only [isDiffOption, Bool.or_eq_true, decide_eq_true_eq, not_or] at hoption
      obtain ⟨⟨⟨hu, hb⟩, hw⟩, hstrip⟩ := hoption
      have hname : ¬ (arg.toList.head? = some '-' && arg ≠ "-") = true := by
        rcases h.1 with rfl | hhead
        · decide
        · simp [hhead]
      rw [if_neg hu, if_neg hb, if_neg hw, if_neg hstrip, if_neg hname, ih _ _ h.2, hfirst]
      simp [Ne.symm hb, Ne.symm hw, Ne.symm hstrip]

private theorem diffArgs_eq_ofArgs (h : ∀ name ∈ operands args, IsName name) :
    diffArgs {} [] args = .ok (.ofArgs args, operands args) := by
  simpa [DiffOptions.ofArgs] using diffArgs_eq {} [] h

/-! Texts -/

/-- Two texts that can be read under the names of a command line. -/
structure Compares (args : List String) (s : Scene) (oldName newName old new : String)
    (rest : Scene) : Prop where
  operands : operands args = [oldName, newName]
  names : ∀ name ∈ [oldName, newName], IsName name
  read : ∃ between,
    diffRead s oldName = (.ok old, between) ∧ diffRead between newName = (.ok new, rest)

private theorem diffRead_scene (s : Scene) (name : String) :
    (diffRead s name).2.output = s.output ∧ (diffRead s name).2.errors = s.errors := by
  unfold diffRead
  split <;> exact ⟨rfl, rfl⟩

private theorem Compares.unwritten (h : Compares args s oldName newName old new rest) :
    rest.output = s.output ∧ rest.errors = s.errors := by
  obtain ⟨between, hold, hnew⟩ := h.read
  have hfirst := diffRead_scene s oldName
  have hsecond := diffRead_scene between newName
  rw [hold] at hfirst
  rw [hnew] at hsecond
  exact ⟨hsecond.1.trans hfirst.1, hsecond.2.trans hfirst.2⟩

/-- The bytes of two files that a command line names. -/
structure Finds (args : List String) (s : Scene) (oldName newName : String) (old new : Bytes) :
    Prop where
  operands : operands args = [oldName, newName]
  names : ∀ name ∈ [oldName, newName], name.toList.head? ≠ some '-'
  old : s.files.read (s.session.resolve oldName) = .ok old
  new : s.files.read (s.session.resolve newName) = .ok new

private theorem Finds.compares {old new : Bytes} (h : Finds args s oldName newName old new) :
    Compares args s oldName newName (decodeLossy old) (decodeLossy new) s := by
  have hread : ∀ {name : String} {bytes : Bytes}, name.toList.head? ≠ some '-' →
      s.files.read (s.session.resolve name) = .ok bytes →
      diffRead s name = (.ok (decodeLossy bytes), s) := by
    intro name bytes hhead hread
    have hname : name ≠ "-" := by
      rintro rfl
      exact hhead rfl
    rw [diffRead, if_neg hname, hread]
    rfl
  refine ⟨h.operands, fun name hname => .inr (h.names name hname), s, ?_, ?_⟩
  · exact hread (h.names _ (by simp)) h.old
  · exact hread (h.names _ (by simp)) h.new

/-- Two files in the directory where the session works. -/
def desk (old new : Bytes) : Scene :=
  .start ⟨.directory [("a", .file 0 false), ("b", .file 1 false)], #[old, new], ⟨"/"⟩⟩
    ⟨⟨"/"⟩, .empty, false⟩ none

private theorem desk_finds (args : List String) (h : operands args = ["a", "b"]) (old new : Bytes) :
    Finds args (desk old new) "a" "b" old new := by
  -- what the files hold does not matter for finding them
  have ha : (desk old new).files.IsPlain ((desk old new).session.resolve "a") ["a"] :=
    show (desk [] []).files.IsPlain ((desk [] []).session.resolve "a") ["a"] by decide
  have hb : (desk old new).files.IsPlain ((desk old new).session.resolve "b") ["b"] :=
    show (desk [] []).files.IsPlain ((desk [] []).session.resolve "b") ["b"] by decide
  refine ⟨h, by decide, ?_, ?_⟩
  · simp only [FileSystem.read, ha.node]
    rfl
  · simp only [FileSystem.read, hb.node]
    rfl

/-- What is printed about two texts that differ: their names, and hunks. -/
def report (oldName newName : String) (hunks : List Hunk) : String :=
  "--- " ++ oldName ++ "\n+++ " ++ newName ++ "\n" ++ patchText hunks

private theorem diffText_eq (o : DiffOptions) (oldName newName old new : String) :
    diffText o oldName newName old new =
      if (feedLines old).map o.key = (feedLines new).map o.key then none
      else some (report oldName newName (shown o.key (feedLines old) (feedLines new))) := by
  have hkeep := Diff.edits_all_keep_iff (.keyed o.key (feedLines old) (feedLines new))
  have htext := Diff.join_hunkText_eq o.key (feedLines old) (feedLines new)
  simp only [Diff.Lines.keyed] at hkeep htext
  simp only [diffText, hkeep, htext, report]

private theorem diff_eq (h : Compares args s oldName newName old new rest) :
    diff args s =
      if (feedLines old).map (DiffOptions.ofArgs args).key =
        (feedLines new).map (DiffOptions.ofArgs args).key then (0, rest)
      else (1, rest.print (report oldName newName
        (shown (DiffOptions.ofArgs args).key (feedLines old) (feedLines new)))) := by
  obtain ⟨between, hold, hnew⟩ := h.read
  have hargs := diffArgs_eq_ofArgs (h.operands ▸ h.names)
  rw [h.operands] at hargs
  simp only [diff, hargs, hold, hnew, diffText_eq]
  by_cases hsame : (feedLines old).map (DiffOptions.ofArgs args).key =
      (feedLines new).map (DiffOptions.ofArgs args).key
  · rw [if_pos hsame, if_pos hsame]
  · rw [if_neg hsame, if_neg hsame]

/-! Patches -/

private theorem not_mem_of_mem_feedLines (text : String) :
    ∀ line ∈ feedLines text, '\n' ∉ line.toList := by
  intro line hline
  obtain ⟨cs, hcs, rfl⟩ := List.mem_map.mp hline
  rw [String.toList_ofList]
  exact Text.not_mem_of_mem_splitLines text.toList cs hcs

private theorem oneLine_feedLines (old new : String) :
    ∀ line ∈ feedLines old ++ feedLines new, '\n' ∉ line.toList := by
  intro line hline
  rcases List.mem_append.mp hline with hline | hline
  · exact not_mem_of_mem_feedLines old line hline
  · exact not_mem_of_mem_feedLines new line hline

private theorem print_report_inj {hunks hunks' : List Hunk}
    (h : s.print (report oldName newName hunks) = s.print (report oldName newName hunks')) :
    patchText hunks = patchText hunks' := by
  have hbytes := congrArg Scene.output h
  simp only [Scene.print, Scene.emit, List.append_cancel_left_eq] at hbytes
  have hchars := congrArg String.toList (Text.encode_injective hbytes)
  simpa [report, String.toList_inj] using hchars

private theorem exists_patch_iff (h : Compares args s oldName newName old new rest) :
    (∃ hunks, IsPatch (DiffOptions.ofArgs args).key (feedLines old) (feedLines new) hunks ∧
      diff args s = (1, rest.print (report oldName newName hunks))) ↔
    (feedLines old).map (DiffOptions.ofArgs args).key ≠
      (feedLines new).map (DiffOptions.ofArgs args).key ∧
      Located (.keyed (DiffOptions.ofArgs args).key (feedLines old) (feedLines new)) := by
  rw [← Diff.exists_patchText_iff _ (oneLine_feedLines old new), diff_eq h]
  split
  next hsame => simp [hsame]
  next hdiffer =>
    constructor
    · rintro ⟨hunks, hpatch, heq⟩
      exact ⟨hdiffer, hunks, hpatch, print_report_inj (Prod.mk.inj heq).2⟩
    · rintro ⟨-, hunks, hpatch, htext⟩
      refine ⟨hunks, hpatch, ?_⟩
      simp only [report, htext]

def IsExact (args : List String) : Prop :=
  "-b" ∉ args ∧ "-w" ∉ args ∧ "--strip-trailing-cr" ∉ args

instance (args : List String) : Decidable (IsExact args) :=
  inferInstanceAs (Decidable (_ ∧ _))

private theorem key_ofArgs (h : IsExact args) (line : String) :
    (DiffOptions.ofArgs args).key line = line := by
  obtain ⟨hb, hw, hstrip⟩ := h
  simp [DiffOptions.ofArgs, DiffOptions.key, hb, hw, hstrip]

private theorem map_key_ofArgs (h : IsExact args) (lines : List String) :
    lines.map (DiffOptions.ofArgs args).key = lines := by
  rw [List.map_congr_left fun line _ => key_ofArgs h line, List.map_id']

/-- Two texts are compared line by line, and the code tells whether all lines count as the same. The
lines that are printed are always those of a patch. The headers are right exactly if the first edit
and the last one are located truly. -/
theorem diff_patch_iff_located (h : Compares args s oldName newName old new rest) :
    let key := (DiffOptions.ofArgs args).key
    let before := feedLines old
    let after := feedLines new
    (rest.output = s.output ∧ rest.errors = s.errors) ∧
    (diff args s = (0, rest) ↔ before.map key = after.map key) ∧
    (before.map key ≠ after.map key → ∃ hunks right,
      diff args s = (1, rest.print (report oldName newName hunks)) ∧
      IsPatch key before after right ∧ hunks.map Hunk.body = right.map Hunk.body) ∧
    ((∃ hunks, IsPatch key before after hunks ∧
        diff args s = (1, rest.print (report oldName newName hunks))) ↔
      before.map key ≠ after.map key ∧ Located (.keyed key before after)) ∧
    (IsExact args → ∀ hunks, IsPatch key before after hunks → patched before 0 hunks = after) := by
  intro key before after
  refine ⟨h.unwritten, ?_, ?_, exists_patch_iff h, ?_⟩
  · rw [diff_eq h]
    split
    next hsame => simpa using hsame
    next hdiffer => simpa using hdiffer
  · intro hdiffer
    obtain ⟨right, hpatch, hbodies⟩ := Diff.exists_isPatch key (oneLine_feedLines old new)
    refine ⟨shown key before after, right, ?_, hpatch, hbodies⟩
    rw [diff_eq h, if_neg hdiffer]
  · intro hexact hunks hpatch
    have hresult := hpatch.result
    rwa [map_key_ofArgs hexact, map_key_ofArgs hexact] at hresult

theorem diff_patch_iff_located_replaced :
    Compares ["-w", "a", "b"] (desk (encode "1\n2\n3 \n4\n5\n") (encode "1\n2\n3\n4\n6\n")) "a" "b"
        "1\n2\n3 \n4\n5\n" "1\n2\n3\n4\n6\n"
        (desk (encode "1\n2\n3 \n4\n5\n") (encode "1\n2\n3\n4\n6\n")) ∧
      ∃ hunks, IsPatch (DiffOptions.ofArgs ["-w", "a", "b"]).key ["1", "2", "3 ", "4", "5"]
          ["1", "2", "3", "4", "6"] hunks ∧
        diff ["-w", "a", "b"] (desk (encode "1\n2\n3 \n4\n5\n") (encode "1\n2\n3\n4\n6\n")) =
          (1, (desk (encode "1\n2\n3 \n4\n5\n") (encode "1\n2\n3\n4\n6\n")).print
            (report "a" "b" hunks)) := by
  have h := (desk_finds ["-w", "a", "b"] (by decide) (encode "1\n2\n3 \n4\n5\n")
    (encode "1\n2\n3\n4\n6\n")).compares
  rw [Text.decodeLossy_encode, Text.decodeLossy_encode] at h
  exact ⟨h, (diff_patch_iff_located h).2.2.2.1.mpr (by decide +kernel)⟩

/-- The line at the start is removed, and one at the end is added. The header of the hunk counts one
old and one new line where there are two of each, and has the new ones start at the second. -/
theorem diff_misplaced :
    diff ["a", "b"] (desk (encode "a\nb\n") (encode "b\nb\n")) =
        (1, (desk (encode "a\nb\n") (encode "b\nb\n")).print
          "--- a\n+++ b\n@@ -1 +2 @@\n-a\n b\n+b\n") ∧
      ¬ ∃ hunks, IsPatch (DiffOptions.ofArgs ["a", "b"]).key ["a", "b"] ["b", "b"] hunks ∧
        diff ["a", "b"] (desk (encode "a\nb\n") (encode "b\nb\n")) =
          (1, (desk (encode "a\nb\n") (encode "b\nb\n")).print (report "a" "b" hunks)) := by
  have h := (desk_finds ["a", "b"] (by decide) (encode "a\nb\n") (encode "b\nb\n")).compares
  rw [Text.decodeLossy_encode, Text.decodeLossy_encode] at h
  refine ⟨?_, ?_⟩
  · have htext : report "a" "b" (shown (DiffOptions.ofArgs ["a", "b"]).key (feedLines "a\nb\n")
        (feedLines "b\nb\n")) = "--- a\n+++ b\n@@ -1 +2 @@\n-a\n b\n+b\n" := by
      decide +kernel
    rw [diff_eq h, if_neg (by decide +kernel), htext]
  · intro hpatch
    have hlocated := ((exists_patch_iff h).mp hpatch).2
    revert hlocated
    decide +kernel

/-! Equal files -/

private theorem feedLines_eq_iff (old new : String) :
    feedLines old = feedLines new ↔ closed '\n' old.toList = closed '\n' new.toList := by
  rw [← Text.splitLines_eq_iff]
  constructor
  · intro h
    exact (List.map_inj_right fun _ _ => String.ofList_inj.mp).mp h
  · intro h
    rw [feedLines, feedLines, h]

private theorem diff_code_iff (h : Compares args s oldName newName old new rest)
    (hexact : IsExact args) :
    (diff args s).1 = 0 ↔ closed '\n' old.toList = closed '\n' new.toList := by
  rw [← feedLines_eq_iff, diff_eq h, map_key_ofArgs hexact, map_key_ofArgs hexact]
  split
  next hsame => simpa using hsame
  next hdiffer => simpa using hdiffer

/-- Without options for blanks, two files count as equal exactly if they have the same text, with
the replacement character for bytes that are none, up to the line feed behind the last line. For
files in UTF-8 that is so exactly if they have the same bytes up to there. -/
theorem diff_code_zero_iff {old new : Bytes} (h : Finds args s oldName newName old new)
    (hexact : IsExact args) :
    ((diff args s).1 = 0 ↔
      closed '\n' (decodeLossy old).toList = closed '\n' (decodeLossy new).toList) ∧
    ∀ oldText newText, old = encode oldText → new = encode newText →
      ((diff args s).1 = 0 ↔ closed 10 old = closed 10 new) := by
  have hcode := diff_code_iff h.compares hexact
  refine ⟨hcode, ?_⟩
  rintro oldText newText rfl rfl
  rw [hcode, Text.decodeLossy_encode, Text.decodeLossy_encode, Text.closed_encode,
    Text.closed_encode, Text.encode_injective.eq_iff, String.ofList_inj]

theorem diff_code_zero_iff_unended :
    Finds ["-u", "a", "b"] (desk (encode "é") (encode "é\n")) "a" "b" (encode "é") (encode "é\n") ∧
      IsExact ["-u", "a", "b"] ∧
      (diff ["-u", "a", "b"] (desk (encode "é") (encode "é\n"))).1 = 0 := by
  have h := desk_finds ["-u", "a", "b"] (by decide) (encode "é") (encode "é\n")
  have hexact : IsExact ["-u", "a", "b"] := by decide
  exact ⟨h, hexact, ((diff_code_zero_iff h hexact).2 "é" "é\n" rfl rfl).mpr (by decide +kernel)⟩

/-- Different files count as equal: one has no line feed at the end, or both have bytes that are no
characters. -/
theorem diff_code_zero_of_different :
    (Finds ["a", "b"] (desk (encode "x") (encode "x\n")) "a" "b" (encode "x") (encode "x\n") ∧
      (diff ["a", "b"] (desk (encode "x") (encode "x\n"))).1 = 0 ∧ encode "x" ≠ encode "x\n") ∧
    Finds ["a", "b"] (desk [0xFE] [0xFF]) "a" "b" [0xFE] [0xFF] ∧
      (diff ["a", "b"] (desk [0xFE] [0xFF])).1 = 0 ∧ ([0xFE] : Bytes) ≠ [0xFF] := by
  have hunended := desk_finds ["a", "b"] (by decide) (encode "x") (encode "x\n")
  have hbytes := desk_finds ["a", "b"] (by decide) [0xFE] [0xFF]
  refine ⟨⟨hunended, ?_, by decide +kernel⟩, hbytes, ?_, by decide⟩
  · exact (diff_code_iff hunended.compares (by decide)).mpr (by decide +kernel)
  · exact (diff_code_iff hbytes.compares (by decide)).mpr (by decide +kernel)

end ShellSuite.Builtin
