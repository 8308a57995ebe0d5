import VendorBuild.Program
import VendorBuild.Proofs.Lowering

/-!
# The level of a run

The name of the level comes from the options or from the environment. It is lowered when it is taken
up and lowered again when it is looked up for the log, but the check of the settings looks it up as
it is. Since lowering twice is lowering once, the log takes the level for unknown exactly if the
check refuses it, and then the run ends before it touches the tree.

Results:
* `settingsOf_logLevel`: where the name of the level comes from.
* `levelNames_contains_iff`: the check and the log know the same names.
* `check_settingsOf_eq_ok_iff`: the settings of a run pass exactly if the log knows their level.
* `level_settingsOf_agrees`: what the log and the check make of the level of a run.
-/

namespace VendorBuild

/-- The name of the level that a run is asked for, by the options first and by the environment
last. -/
def askedLevel (env : Environment) (options : Options) : String :=
  match options.logLevel with
  | some level => Text.lowercase level
  | none =>
    if options.verbose then "debug"
    else if options.quiet then "error"
    else
      match env.level with
      | some level => Text.lowercase level
      | none => "info"

variable {root : Path} {env : Environment} {options : Options}

theorem settingsOf_logLevel (root : Path) (env : Environment) (options : Options) :
    (settingsOf root env options).logLevel = askedLevel env options := by
  have hnames : Text.lowercase "debug" = "debug" ∧ Text.lowercase "error" = "error" ∧
      Text.lowercase "info" = "info" := by
    decide +kernel
  obtain ⟨given, verbose, quiet⟩ := options
  obtain ⟨filter, level, json⟩ := env
  cases given with
  | some given => rfl
  | none =>
    cases verbose <;> cases quiet <;> cases level <;>
      simp only [settingsOf, Options.requestedLevel, Settings.ofEnvironment, askedLevel, hnames,
        Option.getD, if_true, if_false, Bool.false_eq_true]

theorem lowercase_logLevel (root : Path) (env : Environment) (options : Options) :
    Text.lowercase (settingsOf root env options).logLevel =
      (settingsOf root env options).logLevel := by
  unfold settingsOf Settings.ofEnvironment
  split <;> exact Text.lowercase_lowercase _

theorem ofText?_logLevel (root : Path) (env : Environment) (options : Options) :
    LogLevel.ofText? (settingsOf root env options).logLevel =
      LogLevel.ofName? (settingsOf root env options).logLevel := by
  rw [LogLevel.ofText?, lowercase_logLevel]

/-- The check of the settings passes the names that the log knows, though each has a table of its
own. -/
theorem levelNames_contains_iff {text : String} :
    levelNames.contains text = true ↔ LogLevel.ofName? text ≠ none := by
  have htables : levelNames = LogLevel.all.map LogLevel.name := rfl
  rw [htables, List.contains_iff_mem, List.mem_map, Option.ne_none_iff_exists']
  simp only [LogLevel.ofName?_eq_some_iff]
  constructor
  · rintro ⟨level, -, hlevel⟩
    exact ⟨level, hlevel.symm⟩
  · rintro ⟨level, rfl⟩
    exact ⟨level, by cases level <;> decide, rfl⟩

/-- The settings of a run pass exactly if the log knows their level: the rest of them is fixed. -/
theorem check_settingsOf_eq_ok_iff :
    (settingsOf root env options).check = .ok () ↔
      LogLevel.ofText? (settingsOf root env options).logLevel ≠ none := by
  obtain ⟨hvendor, hfile, hcell⟩ : (settingsOf root env options).vendorName = "vendor" ∧
      (settingsOf root env options).buildFileName = "BUCK" ∧
        (settingsOf root env options).cell = "vendor" := by
    unfold settingsOf Settings.ofEnvironment
    split <;> exact ⟨rfl, rfl, rfl⟩
  have hfixed : isSingleSegment "vendor" = true ∧ isSingleSegment "BUCK" = true ∧
      isCell "vendor" = true := by
    decide
  rw [Settings.check_eq_ok_iff, ofText?_logLevel, levelNames_contains_iff, hvendor, hfile, hcell]
  simp only [hfixed, true_and]

/-- What the log and the check make of the level of a run. It has the name that the options or the
environment give, in lower case. The log takes it for unknown, and falls back to `info`, exactly if
the check refuses the settings; the run then fails and leaves the tree as it was. Otherwise the log
has the level of that name. -/
theorem level_settingsOf_agrees {σ : Type} (fs : Storage σ) (root : Path) (env : Environment)
    (options : Options) (s : σ) :
    (settingsOf root env options).logLevel = askedLevel env options ∧
      (LogLevel.ofText? (settingsOf root env options).logLevel = none ↔
        (settingsOf root env options).check ≠ .ok ()) ∧
      ((settingsOf root env options).check ≠ .ok () →
        (settingsOf root env options).level = .info ∧
          (generate fs (settingsOf root env options) s).exitCode = 1 ∧
          (generate fs (settingsOf root env options) s).state = s) ∧
      ((settingsOf root env options).check = .ok () →
        (settingsOf root env options).level.name = (settingsOf root env options).logLevel) := by
  refine ⟨settingsOf_logLevel root env options, ?_, fun hcheck => ?_, fun hcheck => ?_⟩
  · rw [Ne, check_settingsOf_eq_ok_iff, Classical.not_not]
  · have hunknown := Classical.not_not.1 (mt check_settingsOf_eq_ok_iff.2 hcheck)
    refine ⟨by rw [Settings.level, hunknown]; rfl, ?_⟩
    cases hfault : (settingsOf root env options).check with
    | ok => exact absurd hfault hcheck
    | error fault => exact (generate_invalid hfault).symm
  · obtain ⟨level, hlevel⟩ := Option.ne_none_iff_exists'.1 (check_settingsOf_eq_ok_iff.1 hcheck)
    have hname := LogLevel.ofName?_eq_some_iff.1
      ((ofText?_logLevel root env options).symm.trans hlevel)
    rw [Settings.level, hlevel]
    exact hname.symm

/-- A dotted capital I is two characters in lower case, so a level that it is in is unknown. -/
example :
    (settingsOf ⟨"/r"⟩ { level := some "WaRN" } {}).level = .warn ∧
      (settingsOf ⟨"/r"⟩ {} { logLevel := some "\u0130NFO" }).logLevel = "i\u0307nfo" ∧
      (settingsOf ⟨"/r"⟩ {} { logLevel := some "\u0130NFO" }).check.toOption = none := by
  decide +kernel

end VendorBuild
