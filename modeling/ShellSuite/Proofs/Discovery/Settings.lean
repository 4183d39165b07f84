import ShellSuite.Proofs.Discovery.Configs

set_option autoImplicit false
set_option relaxedAutoImplicit false

/-!
Settings files among the tests. A search passes over the settings files of all directories it looks
at, even if the file tree changes while it goes on. Only the place it starts at is not asked for its
name: a settings file that is given as the start is a test if its own settings make it one.
-/

namespace ShellSuite.Discovery

variable {fs : FileSystem} {path : Path} {scope : Scope} {t : Test} {s s' : Search}

/-! ### Behind the start -/

private theorem Walker.sight_of_step {w w' : Walker} {sight : Sight} (hw : w.start = none)
    (h : w.step fs = some (some sight, w')) :
    (∃ path cause, sight = .fault path cause) ∨
      ∃ path name isDir, sight = .entry path name isDir := by
  unfold Walker.step at h
  split at h
  · cases hw
  · cases h
  · cases h
  · cases h
    exact .inl ⟨_, _, rfl⟩
  · cases h
    exact .inr ⟨_, _, _, rfl⟩

private theorem lookAtEntry_test_not_settings {name : String} {isDir : Bool}
    (h : (s.lookAtEntry fs path name isDir).1 = some (.test t)) :
    Override.isFileName t.path = false := by
  unfold Search.lookAtEntry at h
  split at h
  · cases h
  split at h
  · cases h
  split at h
  · split at h <;> cases h
  · obtain ⟨t', htest, heq⟩ := Option.map_eq_some_iff.mp h
    obtain rfl := Item.test.inj heq
    unfold testOf? at htest
    split at htest
    case isTrue hcond =>
      obtain rfl := Option.some.inj htest
      rw [Bool.and_eq_true, Bool.not_eq_true'] at hcond
      exact hcond.1
    case isFalse => cases htest

private theorem Search.step_past_start (hs : s.walker.start = none)
    (h : s.step fs = some (some (.test t), s')) : Override.isFileName t.path = false := by
  unfold Search.step at h
  split at h
  · cases h
  · cases h
  next sight w hwalk =>
    rcases Walker.sight_of_step hs hwalk with ⟨place, cause, rfl⟩ | ⟨place, name, isDir, rfl⟩
    · cases h
    · exact lookAtEntry_test_not_settings (congrArg Prod.fst (Option.some.inj h))

private theorem Search.Finds.not_settings (h : s.Finds (.test t)) (hs : s.walker.start = none) :
    Override.isFileName t.path = false := by
  generalize hitem : Item.test t = item at h
  induction h with
  | now hstep => exact step_past_start hs (hitem ▸ hstep)
  | later hstep _ ih => exact ih (started_of_step hstep) hitem

/-! ### At the start -/

/-- A search from this path looks at a single file: what stands there is no directory and no link
that leads nowhere. -/
def IsFileStart (fs : FileSystem) (path : Path) : Prop :=
  ∃ n, fs.node false path = .ok n ∧ n.isDirectory = false ∧
    (n.isLink = true → fs.pathExists path = true)

private theorem isFileStart_iff : IsFileStart fs path ↔
    ∃ levels, Walker.visitStart fs path = (.start path false, levels) := by
  unfold IsFileStart Walker.visitStart FileSystem.pathExists
  cases fs.node false path with
  | error cause => simp
  | ok n =>
    cases n with
    | link target =>
      cases fs.node true path <;> simp [Node.isDirectory, Node.isLink, Except.isOk, Except.toBool]
    | directory | file | null | tool => simp [Node.isDirectory, Node.isLink]

private theorem Search.lookAt_file_test
    (h : s.lookAt fs (.start path false) = (some (.test t), s')) :
    s.root.config.isTestFile path = true ∧ t = .ofFile path s.root.config s.root.directory := by
  rw [Search.lookAt] at h
  split at h
  next htest =>
    cases h
    exact ⟨htest, rfl⟩
  next => cases h

private theorem Search.step_start_test_iff :
    (∃ s', Search.step fs ⟨scope, ⟨some path, []⟩, []⟩ = some (some (.test t), s')) ↔
      IsFileStart fs path ∧ scope.config.isTestFile path = true ∧
        t = .ofFile path scope.config scope.directory := by
  rw [isFileStart_iff]
  simp only [Search.step, Walker.step]
  constructor
  · rintro ⟨s', h⟩
    rcases visitStart_cases fs path with ⟨cause, hvisit⟩ | hvisit | hvisit | ⟨-, hvisit⟩
    · rw [hvisit] at h
      cases h
    · rw [hvisit] at h
      cases h
    · rw [hvisit] at h
      exact ⟨⟨_, hvisit⟩, lookAt_file_test (Option.some.inj h)⟩
    · rw [hvisit] at h
      exact ⟨⟨_, hvisit⟩, lookAt_file_test (Option.some.inj h)⟩
  · rintro ⟨⟨levels, hvisit⟩, htest, rfl⟩
    rw [hvisit]
    refine ⟨⟨scope, ⟨none, levels⟩, []⟩, ?_⟩
    simp only [Search.lookAt, htest, if_true]

private theorem Search.Finds.eq_start (h : Search.Finds ⟨scope, ⟨some path, []⟩, []⟩ (.test t))
    (hname : Override.isFileName t.path) : t = .ofFile path scope.config scope.directory := by
  cases h with
  | now hstep => exact (step_start_test_iff.mp ⟨_, hstep⟩).2.2
  | later hstep rest =>
    rw [rest.not_settings (started_of_step hstep)] at hname
    exact absurd hname Bool.false_ne_true

/-- A settings file is found if and only if it is the start, and the settings there make it a
test. -/
theorem exists_settings_iff (fs : FileSystem) (path : Path) (scope : Scope) :
    (∃ t, .test t ∈ Search.all fs ⟨scope, ⟨some path, []⟩, []⟩ ∧ Override.isFileName t.path) ↔
      Override.isFileName path ∧ IsFileStart fs path ∧ scope.config.isTestFile path := by
  constructor
  · rintro ⟨t, ht, hname⟩
    obtain ⟨item, s', hstep⟩ : ∃ item s',
        Search.step fs ⟨scope, ⟨some path, []⟩, []⟩ = some (item, s') := ⟨_, _, rfl⟩
    rw [all_step hstep] at ht
    rcases List.mem_append.mp ht with hfirst | hlater
    · obtain rfl := Option.mem_toList.mp hfirst
      obtain ⟨hfile, htest, rfl⟩ := Search.step_start_test_iff.mp ⟨s', hstep⟩
      exact ⟨hname, hfile, htest⟩
    · have hbehind := (Search.finds_of_mem_collect hlater).not_settings
        (Search.started_of_step hstep)
      rw [hbehind] at hname
      exact absurd hname Bool.false_ne_true
  · rintro ⟨hname, hfile, htest⟩
    obtain ⟨s', hstep⟩ := Search.step_start_test_iff.mpr ⟨hfile, htest, rfl⟩
    rw [all_step hstep]
    exact ⟨_, List.mem_cons_self, hname⟩

private theorem start_eq_ok (h : start fs path = .ok s) :
    ∃ config, Config.ofRoot fs (rootOf fs path) = .ok config ∧
      s = ⟨⟨config, rootOf fs path⟩, ⟨some path, []⟩, []⟩ := by
  obtain ⟨config, hconfig, hs⟩ := bind_eq_ok h
  exact ⟨config, hconfig, (Except.ok.inj hs).symm⟩

/-- No settings file below the start is ever found as a test, even if every step sees a file tree of
its own. On a tree that does not change one is found if and only if it is itself the start, as a
file, and the settings of its directory make it a test. -/
theorem finds_settings_only_at_start (h : start fs path = .ok s) :
    ∃ config, Config.ofRoot fs (rootOf fs path) = .ok config ∧
      (∀ t, s.Finds (.test t) → Override.isFileName t.path →
        t = .ofFile path config (rootOf fs path)) ∧
      ((∃ t, .test t ∈ s.all fs ∧ Override.isFileName t.path) ↔
        Override.isFileName path ∧ IsFileStart fs path ∧ config.isTestFile path) := by
  obtain ⟨config, hconfig, rfl⟩ := start_eq_ok h
  exact ⟨config, hconfig, fun t ht hname => ht.eq_start hname, exists_settings_iff _ _ _⟩

/-! ### A suite of `toml` files -/

/-- Settings that make files that end in `.toml` tests. -/
def tomlSettings : Override :=
  { Override.empty with suffixes := ["toml"] }

def tomlSuite : FileSystem where
  root := .directory [("s", .directory [("a.toml", .file 0 false), ("lit.toml", .file 1 false)])]
  contents := #[[], Text.encode "suffixes=[\"toml\"]"]
  home := ⟨"/"⟩

def tomlConfig : Config :=
  (Config.initial ⟨"/s"⟩).merge ⟨"/s"⟩ tomlSettings

private theorem tomlSuite_ofRoot : Config.ofRoot tomlSuite ⟨"/s"⟩ = .ok tomlConfig := by
  have htoml : tomlSuite.IsPlain ⟨"/s/lit.toml"⟩ ["s", "lit.toml"] := by decide
  have hyaml : tomlSuite.IsPlain ⟨"/s/lit.yaml"⟩ ["s", "lit.yaml"] := by decide
  have hbytes : Text.decode? (tomlSuite.bytesOf 1) = some "suffixes=[\"toml\"]" := by
    decide +kernel
  have hsettings : Override.ofDirectory tomlSuite ⟨"/s"⟩ = .ok (some tomlSettings) :=
    ofDirectory_of_tomlText (hyaml.isFile.trans rfl) (htoml.node true) hbytes (by decide)
      (by decide +kernel) (by decide +kernel)
  simp only [Config.ofRoot, Config.resolve, hsettings]
  rfl

/-- From the directory, the search passes over its settings file, although that file has a suffix of
tests. -/
theorem finds_settings_only_at_start_directory :
    ∃ s, start tomlSuite ⟨"/s"⟩ = .ok s ∧ tomlConfig.isTestFile ⟨"/s/lit.toml"⟩ ∧
      ¬ ∃ t, .test t ∈ s.all tomlSuite ∧ Override.isFileName t.path := by
  have hplain : tomlSuite.IsPlain ⟨"/s"⟩ ["s"] := by decide
  have hstart := start_of_directory (hplain.node true) tomlSuite_ofRoot
  obtain ⟨config, -, -, hiff⟩ := finds_settings_only_at_start hstart
  refine ⟨_, hstart, by decide +kernel, ?_⟩
  rw [hiff]
  rintro ⟨hname, -⟩
  exact absurd hname (by decide)

/-- From the settings file itself, the search finds it as a test. -/
theorem settings_file_found :
    ∃ s, start tomlSuite ⟨"/s/lit.toml"⟩ = .ok s ∧
      ∃ t, .test t ∈ s.all tomlSuite ∧ Override.isFileName t.path := by
  have hplain : tomlSuite.IsPlain ⟨"/s/lit.toml"⟩ ["s", "lit.toml"] := by decide
  have hfile : IsFileStart tomlSuite ⟨"/s/lit.toml"⟩ :=
    ⟨.file 1 false, hplain.node false, rfl, by decide⟩
  have hroot : rootOf tomlSuite ⟨"/s/lit.toml"⟩ = ⟨"/s"⟩ := by
    have hisFile : tomlSuite.isFile ⟨"/s/lit.toml"⟩ = true := hplain.isFile.trans rfl
    rw [rootOf, if_pos hisFile]
    decide
  refine ⟨⟨⟨tomlConfig, ⟨"/s"⟩⟩, ⟨some ⟨"/s/lit.toml"⟩, []⟩, []⟩, ?_, ?_⟩
  · simp only [start, hroot, tomlSuite_ofRoot]
    rfl
  · exact (exists_settings_iff _ _ _).mpr ⟨by decide, hfile, by decide +kernel⟩

end ShellSuite.Discovery
