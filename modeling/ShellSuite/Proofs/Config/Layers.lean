import ShellSuite.Config
import ShellSuite.Proofs.Dict
import ShellSuite.Proofs.Path

set_option autoImplicit false
set_option relaxedAutoImplicit false

/-!
Layers of settings. Laying the settings of two directories over a configuration, one after the other,
is laying one set of settings over it, which can be made without the configuration. Each kind of
setting has its own law: collections that may be cleared, and values that may be replaced.
-/

namespace ShellSuite

namespace Override

/-- A collection laid over another one, or in its place. -/
def layer {α : Type} (clear : Bool) (extend : α → α → α) (under top : α) : α :=
  if clear then top else extend under top

/-- The settings of a directory and those laid over them, as one set of settings. A place for scratch
directories that is relative is taken from the directory it was written in. -/
def compose (dir : Path) (under top : Override) : Override where
  name := top.name.or under.name
  suffixes := layer top.clearSuffixes (· ++ ·) under.suffixes top.suffixes
  clearSuffixes := under.clearSuffixes || top.clearSuffixes
  substitutions := layer top.clearSubstitutions Dict.overlay under.substitutions top.substitutions
  clearSubstitutions := under.clearSubstitutions || top.clearSubstitutions
  env := layer top.clearEnv Dict.overlay under.env top.env
  clearEnv := under.clearEnv || top.clearEnv
  inheritEnv := top.inheritEnv.or under.inheritEnv
  excludes := layer top.clearExcludes (· ++ ·) under.excludes top.excludes
  clearExcludes := under.clearExcludes || top.clearExcludes
  timeout := top.timeout.or under.timeout
  format := top.format.or under.format
  features := layer top.clearFeatures (· ++ ·) under.features top.features
  clearFeatures := under.clearFeatures || top.clearFeatures
  commentMarker := top.commentMarker.or under.commentMarker
  pipefail := top.pipefail.or under.pipefail
  execRoot := top.execRoot.or (under.execRoot.map (Config.resolveRoot dir))

end Override

namespace Config

section Collections

variable (clear clear₁ clear₂ : Bool)

private theorem extendNames_extendNames (inherited : NameSet) (names₁ names₂ : List String) :
    extendNames clear₂ (extendNames clear₁ inherited names₁) names₂ =
      extendNames (clear₁ || clear₂) inherited (Override.layer clear₂ (· ++ ·) names₁ names₂) := by
  cases clear₂ with
  | true => simp [extendNames, Override.layer]
  | false => simp [extendNames, Override.layer, NameSet.insertNames_append]

private theorem extendMap_extendMap (inherited added₁ added₂ : Dict String) :
    extendMap clear₂ (extendMap clear₁ inherited added₁) added₂ =
      extendMap (clear₁ || clear₂) inherited (Override.layer clear₂ Dict.overlay added₁ added₂) := by
  cases clear₂ with
  | true => simp [extendMap, Override.layer]
  | false => simp [extendMap, Override.layer, Dict.overlay_assoc]

private theorem extendNames_twice (inherited : NameSet) (names : List String) :
    extendNames clear (extendNames clear inherited names) names =
      extendNames clear inherited names := by
  cases clear with
  | true => simp [extendNames]
  | false => simp [extendNames, NameSet.insertNames_insertNames]

private theorem extendMap_twice (inherited added : Dict String) :
    extendMap clear (extendMap clear inherited added) added = extendMap clear inherited added := by
  cases clear with
  | true => simp [extendMap]
  | false => simp [extendMap, Dict.overlay_overlay]

end Collections

private theorem resolveRoot_resolveRoot {dir : Path} (h : dir.isAbsolute = true) (other : Path)
    (r : ExecRoot) : resolveRoot other (resolveRoot dir r) = resolveRoot dir r := by
  -- a place that was taken from an absolute directory is not taken from another one
  cases r with
  | temp => rfl
  | underSuite => rfl
  | path p =>
    have habsolute : (if p.isAbsolute then p else dir.join p).isAbsolute = true := by
      split
      case isTrue hp => exact hp
      case isFalse => exact Path.isAbsolute_join h p
    simp only [resolveRoot, habsolute, if_true]

private theorem map_layer_bareSuffix (clear : Bool) (names₁ names₂ : List String) :
    (Override.layer clear (· ++ ·) names₁ names₂).map Override.bareSuffix =
      Override.layer clear (· ++ ·) (names₁.map Override.bareSuffix)
        (names₂.map Override.bareSuffix) := by
  cases clear <;> simp [Override.layer]

private theorem merge_merge {dir : Path} (h : dir.isAbsolute = true) (under top : Override)
    (other : Path)
    (c : Config) :
    (c.merge dir under).merge other top = c.merge other (Override.compose dir under top) := by
  have hroot : ((top.execRoot.or (under.execRoot.map (resolveRoot dir))).map (resolveRoot other)) =
      (top.execRoot.map (resolveRoot other)).or (under.execRoot.map (resolveRoot dir)) := by
    cases top.execRoot with
    | some r => rfl
    | none =>
      cases under.execRoot with
      | none => rfl
      | some r => simp [resolveRoot_resolveRoot h]
  simp only [merge, Override.compose, extendNames_extendNames, extendMap_extendMap, Option.getD_or,
    hroot, map_layer_bareSuffix, Option.map_or, Option.or_assoc]

private theorem merge_twice (dir : Path) (o : Override) (c : Config) :
    (c.merge dir o).merge dir o = c.merge dir o := by
  simp only [merge, extendNames_twice, extendMap_twice, ← Option.getD_or, ← Option.or_assoc,
    Option.or_self]

/-- Two layers come to one, which is made of them and of the directory of the lower one. Laying
settings over a configuration twice is laying them over it once, and the root of the suite is the
same under all layers. -/
theorem merge_compose {dir : Path} (h : dir.isAbsolute = true) (under top : Override) :
    (∀ (other : Path) (c : Config), (c.merge dir under).merge other top =
      c.merge other (Override.compose dir under top)) ∧
    (∀ (place : Path) (o : Override) (c : Config),
      (c.merge place o).merge place o = c.merge place o) ∧
    ∀ (place : Path) (o : Override) (c : Config), (c.merge place o).sourceRoot = c.sourceRoot := by
  refine ⟨merge_merge h under top, merge_twice, ?_⟩
  intro place o c
  rfl

/-- Settings with a relative place for scratch directories. -/
def lowerLayer : Override :=
  { Override.empty with
    suffixes := [".t"]
    env := .ofList [("A", "1"), ("B", "2")]
    substitutions := .ofList [("%a", "x"), ("%b", "y")]
    execRoot := some (.path ⟨"tmp"⟩) }

/-- Settings that clear the environment and replace a substitution. -/
def upperLayer : Override :=
  { Override.empty with
    suffixes := ["u"]
    clearEnv := true
    env := .ofList [("B", "3")]
    substitutions := .ofList [("%b", "z")] }

/-- The environment of the lower layer is gone, and its scratch directories stay below its own
directory. -/
theorem merge_compose_cleared :
    Path.isAbsolute ⟨"/s"⟩ = true ∧
    ∀ c : Config, (c.merge ⟨"/s"⟩ lowerLayer).merge ⟨"/s/d"⟩ upperLayer =
      c.merge ⟨"/s/d"⟩
        { Override.empty with
          suffixes := [".t", "u"]
          clearEnv := true
          env := .ofList [("B", "3")]
          substitutions := .ofList [("%a", "x"), ("%b", "z")]
          execRoot := some (.path ⟨"/s/tmp"⟩) } := by
  have habsolute : Path.isAbsolute ⟨"/s"⟩ = true := by decide
  refine ⟨habsolute, ?_⟩
  intro c
  rw [(merge_compose habsolute lowerLayer upperLayer).1]
  have hcompose : Override.compose ⟨"/s"⟩ lowerLayer upperLayer =
      { Override.empty with
        suffixes := [".t", "u"]
        clearEnv := true
        env := .ofList [("B", "3")]
        substitutions := .ofList [("%a", "x"), ("%b", "z")]
        execRoot := some (.path ⟨"/s/tmp"⟩) } := by
    decide +kernel
  rw [hcompose]

end Config

end ShellSuite
