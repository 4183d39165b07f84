import ShellSuite.Proofs.Shell.Builtin

set_option autoImplicit false
set_option relaxedAutoImplicit false

/-!
What built-in commands see of their input. They take all of it or leave it, so an empty input and
none are the same to them.
-/

namespace ShellSuite

namespace Scene

/-- Scenes that are the same, up to an empty input in place of none. -/
inductive Alike : Scene → Scene → Prop
  | mk {files : FileSystem} {session : Session} {output errors : Bytes} {i j : Option Bytes}
      (input : i.getD [] = j.getD []) :
      Alike ⟨files, session, i, output, errors⟩ ⟨files, session, j, output, errors⟩

structure SameAnswer (x y : Int × Scene) : Prop where
  code : x.1 = y.1
  scene : Alike x.2 y.2

variable {a b : Scene}

theorem Alike.emit (h : Alike a b) (bytes : Bytes) : Alike (a.emit bytes) (b.emit bytes) := by
  cases h with
  | mk input => exact .mk input

theorem Alike.take (h : Alike a b) : a.take.1 = b.take.1 ∧ Alike a.take.2 b.take.2 := by
  cases h with
  | mk input => exact ⟨input, .mk rfl⟩

theorem Alike.fail (h : Alike a b) (name message : String) :
    SameAnswer (a.fail name message) (b.fail name message) := by
  cases h with
  | mk input => exact ⟨rfl, .mk input⟩

theorem Alike.forEach (h : Alike a b) {name : String}
    {step : Scene → String → Scene × Option String}
    (hstep : ∀ text a b, Alike a b →
      (step a text).2 = (step b text).2 ∧ Alike (step a text).1 (step b text).1)
    (texts : List String) : SameAnswer (a.forEach name step texts) (b.forEach name step texts) := by
  refine List.foldl_rel (r := SameAnswer) ⟨rfl, h⟩ ?_
  rintro text - ⟨code, a⟩ ⟨code', b⟩ ⟨hcode, hab⟩
  have hnext := hstep text a b hab
  dsimp only
  generalize step a text = x at hnext ⊢
  generalize step b text = y at hnext ⊢
  obtain ⟨a', fault⟩ := x
  obtain ⟨b', fault'⟩ := y
  obtain ⟨rfl, hscene⟩ := hnext
  cases fault with
  | none => exact ⟨hcode, hscene⟩
  | some message => exact hscene.fail name message

end Scene

namespace Builtin

/-- A command to which an empty input is as good as none. -/
def Steady (run : Builtin) : Prop :=
  ∀ args a b, Scene.Alike a b → Scene.SameAnswer (run args a) (run args b)

private theorem echo_steady : Steady echo := by
  rintro args _ _ ⟨input⟩
  exact ⟨rfl, .mk input⟩

private theorem answer_steady (code : Int) : Steady (answer code) := by
  intro args a b h
  exact ⟨rfl, h⟩

private theorem mkdir_steady : Steady mkdir := by
  intro args a b h
  unfold mkdir
  rcases options "p" args with letter | ⟨letters, paths⟩
  · exact h.fail ..
  · dsimp only
    split
    · exact h.fail ..
    · refine h.forEach ?_ paths
      rintro path _ _ ⟨input⟩
      exact ⟨rfl, .mk input⟩

private theorem rm_steady : Steady rm := by
  intro args a b h
  unfold rm
  rcases options "rRf" args with letter | ⟨letters, paths⟩
  · exact h.fail ..
  · dsimp only
    split
    · exact h.fail ..
    · refine h.forEach ?_ paths
      rintro path _ _ ⟨input⟩
      unfold removeOne
      dsimp only
      split
      · exact ⟨rfl, .mk input⟩
      · split
        · exact ⟨rfl, .mk input⟩
        · split
          · exact ⟨rfl, .mk input⟩
          · exact ⟨rfl, .mk input⟩

private theorem toTarget_steady {name : String}
    {step : Path → Scene → String → Scene × Option String}
    (hstep : ∀ target text a b, Scene.Alike a b →
      (step target a text).2 = (step target b text).2 ∧
        Scene.Alike (step target a text).1 (step target b text).1)
    {a b : Scene} (h : a.Alike b) (operands : List String) :
    Scene.SameAnswer (toTarget name operands step a) (toTarget name operands step b) := by
  obtain ⟨hfiles, hsession⟩ : a.files = b.files ∧ a.session = b.session := by
    cases h with
    | mk input => exact ⟨rfl, rfl⟩
  unfold toTarget
  rw [hfiles, hsession]
  split
  · dsimp only
    split
    · exact h.fail ..
    · exact h.forEach (hstep _) _
  · exact h.fail ..

private theorem mv_steady : Steady mv := by
  intro args a b h
  refine toTarget_steady ?_ h args
  rintro target source _ _ ⟨input⟩
  exact ⟨rfl, .mk input⟩

private theorem cp_steady : Steady cp := by
  intro args a b h
  unfold cp
  rcases options "rR" args with letter | ⟨letters, operands⟩
  · exact h.fail ..
  · refine toTarget_steady ?_ h operands
    rintro target source _ _ ⟨input⟩
    dsimp only
    split
    · exact ⟨rfl, .mk input⟩
    · split
      · exact ⟨rfl, .mk input⟩
      · exact ⟨rfl, .mk input⟩

private theorem diffRead_steady {a b : Scene} (h : a.Alike b) (name : String) :
    (diffRead a name).1 = (diffRead b name).1 ∧ (diffRead a name).2.Alike (diffRead b name).2 := by
  unfold diffRead
  split
  · obtain ⟨hbytes, hscene⟩ := h.take
    exact ⟨congrArg (Except.ok ∘ Text.decodeLossy) hbytes, hscene⟩
  · cases h with
    | mk input => exact ⟨rfl, .mk input⟩

private theorem diff_steady : Steady diff := by
  intro args a b h
  have hcomplain : ∀ {a b : Scene}, a.Alike b → ∀ message,
      Scene.SameAnswer (2, a.complain "diff" message) (2, b.complain "diff" message) :=
    fun h message => ⟨rfl, (h.fail "diff" message).scene⟩
  unfold diff
  split
  · exact hcomplain h _
  next oldName newName _ =>
    obtain ⟨hold, hscene⟩ := diffRead_steady h oldName
    obtain ⟨hnew, hscene'⟩ := diffRead_steady hscene newName
    dsimp only
    rw [hold, hnew]
    split
    · split
      · exact ⟨rfl, hscene'⟩
      · exact ⟨rfl, hscene'.emit _⟩
    · exact hcomplain hscene' _
    · exact hcomplain hscene' _
  · exact hcomplain h _

private theorem cat_steady : Steady cat := by
  intro args a b h
  refine h.forEach ?_ _
  intro file a b h
  split
  · obtain ⟨hbytes, hscene⟩ := h.take
    dsimp only
    rw [hbytes]
    exact ⟨rfl, hscene.emit _⟩
  · cases h with
    | mk input =>
      dsimp only
      split
      · exact ⟨rfl, .mk input⟩
      · exact ⟨rfl, .mk input⟩

private theorem touch_steady : Steady touch := by
  intro args a b h
  unfold touch
  split
  · exact h.fail ..
  · refine h.forEach ?_ args
    rintro path _ _ ⟨input⟩
    dsimp only
    split
    · exact ⟨rfl, .mk input⟩
    · exact ⟨rfl, .mk input⟩

theorem steady_of_find? {name : String} {run : Builtin} (h : find? name = some run)
    (hname : changesSession name = false) : Steady run := by
  have hall : ∀ b ∈ all, changesSession b.1 = false → Steady b.2 := by
    simp only [all, List.forall_mem_cons, List.not_mem_nil, false_imp_iff, implies_true, and_true]
    exact ⟨fun _ => echo_steady, fun _ => answer_steady 0, fun _ => answer_steady 0,
      fun _ => answer_steady 1, fun h => absurd h (by decide), fun _ => mkdir_steady,
      fun _ => rm_steady, fun _ => mv_steady, fun _ => cp_steady, fun _ => diff_steady,
      fun _ => cat_steady, fun h => absurd h (by decide), fun _ => touch_steady⟩
  exact hall _ (mem_all_of_find? h) hname

end Builtin

end ShellSuite
