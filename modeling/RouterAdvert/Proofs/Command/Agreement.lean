import RouterAdvert.Command.Run
import RouterAdvert.Proofs.Config.Build

/-!
# Checking and showing

Showing a configuration goes on from where checking it ends: it builds the session, attaches a loop
and starts it. Whatever passes validation passes these steps too, so both commands end alike.
-/

namespace RouterAdvert

open World

theorem Findings.hasFaults_iff {f : Findings} : f.hasFaults = true ↔ f.faults ≠ [] := by
  simp [hasFaults]

/-- A session that was built from a configuration without any fault accepts what comes before it is
shown. -/
theorem Config.launches_of_no_faults {c : Config} (h : c.validate.faults = []) :
    c.build.result = .ok () ∧
      let attached := c.build.state.step (.attach sessionName none 0)
      attached.reply = .done ∧ (attached.world.step (.start sessionName)).reply = .done := by
  have haccepts : AcceptsAll {} c.plan := by
    rw [(acceptsAll_plan c).1, ← forgives_faults_iff]
    simp [h]
  obtain ⟨t, ht, hrouter⟩ := (acceptsAll_plan c).2 haccepts
  obtain ⟨hattached, hname, loop, hlive⟩ := ht.attachDefault 0
  have hinterface := interface_of_no_faults h
  rw [← hrouter] at hinterface
  rw [state_build haccepts]
  exact ⟨(result_build c).mpr haccepts, hattached,
    (start_named hname hlive ht.idle rfl hinterface).1⟩

namespace Command

theorem present_succeeds (logging : Logging) (w : World) :
    (present logging w).errors = [] ∧ (present logging w).exitCode = 0 := by
  unfold present
  split <;> exact ⟨rfl, rfl⟩

theorem launchAndPresent_succeeds (logging : Logging) {w : World} {ops : List (Op × String)}
    (h : w.AcceptsAll (ops.map (·.1))) :
    (launchAndPresent logging w ops).errors = [] ∧
      (launchAndPresent logging w ops).exitCode = 0 := by
  induction ops generalizing w with
  | nil => exact present_succeeds logging w
  | cons first rest ih =>
    obtain ⟨op, complaint⟩ := first
    obtain ⟨hop, hrest⟩ := h
    cases hreply : (w.step op).reply with
    | failed e => exact absurd hreply (hop e)
    | done | nothing | unknownHandle =>
      simp only [launchAndPresent, hreply]
      exact ih hrest

theorem previewLoaded_succeeds (logging : Logging) {config : Config}
    (h : config.validate.faults = []) :
    (previewLoaded logging config).errors = [] ∧ (previewLoaded logging config).exitCode = 0 := by
  obtain ⟨hbuilt, hattached, hstarted⟩ := config.launches_of_no_faults h
  have haccepts : config.build.state.AcceptsAll (launch.map (·.1)) :=
    ⟨accepts_of_done hattached, accepts_of_done hstarted, trivial⟩
  have hnone := mt Findings.hasFaults_iff.mp (not_not_intro h)
  simp only [previewLoaded, hnone, hbuilt]
  exact launchAndPresent_succeeds logging haccepts

/-- A path after the short option is taken as it stands, unless it looks like an option itself or is
empty. -/
theorem ofArguments?_path (a : Action) (path : String) :
    Request.ofArguments? [a.keyword, "-c", path] =
      if isOption path ∨ path = "" then none else some (.run a path) := by
  have hkeyword : Action.ofKeyword? a.keyword = some a := by cases a <;> rfl
  have hargument : Argument.ofChars "-c".toList = .config none := rfl
  simp only [Request.ofArguments?, hkeyword, readAction?, hargument, takePath?]
  by_cases hoption : isOption path
  · simp [hoption]
  · by_cases hempty : path = "" <;> simp [hoption, hempty]

def greeting (path : String) : Line := .answer ("[INFO] Validating " ++ path ++ "...")

def findingLines (config : Config) : List Line := config.validate.lines.map .answer

variable {reporter : Toml.Reporter} {source : Except ReadFailure String} {config : Config}

theorem check_of_load_error {e : LoadError} (h : Config.load reporter source = .error e)
    (path : String) :
    check reporter path source =
      .failed [greeting path] ("Failed to load config: " ++ e.message) := by
  simp only [check, h, greeting]

theorem preview_of_load_error {e : LoadError} (h : Config.load reporter source = .error e)
    (directives : Option String) :
    preview reporter directives source = .failed [] ("Failed to load config: " ++ e.message) := by
  simp only [preview, h]

theorem check_of_faults (h : Config.load reporter source = .ok config)
    (hfaults : config.validate.faults ≠ []) (path : String) :
    check reporter path source =
      .failed (greeting path :: findingLines config) "Validation failed" := by
  have hsome := Findings.hasFaults_iff.mpr hfaults
  simp only [check, h, hsome, if_true, greeting, findingLines]

theorem preview_of_faults (h : Config.load reporter source = .ok config)
    (hfaults : config.validate.faults ≠ []) (directives : Option String) :
    preview reporter directives source =
      (Report.failed (findingLines config) "Validation failed").warned
        (Logging.complaints directives) := by
  have hsome := Findings.hasFaults_iff.mpr hfaults
  simp only [preview, h, previewLoaded, hsome, if_true, findingLines]

theorem check_of_no_faults (h : Config.load reporter source = .ok config)
    (hfaults : config.validate.faults = []) (path : String) :
    (check reporter path source).errors = [] ∧ (check reporter path source).exitCode = 0 := by
  have hnone := Bool.eq_false_iff.mpr (mt Findings.hasFaults_iff.mp (not_not_intro hfaults))
  simp [check, h, hnone]

theorem preview_of_no_faults (h : Config.load reporter source = .ok config)
    (hfaults : config.validate.faults = []) (directives : Option String) :
    (preview reporter directives source).errors = Logging.complaints directives ∧
      (preview reporter directives source).exitCode = 0 := by
  obtain ⟨herrors, hcode⟩ := previewLoaded_succeeds (Logging.of config.log directives) hfaults
  simp [preview, h, Report.warned, herrors, hcode]

/-- Checking and showing one file end with the same exit code, given directives that can be read.
They name the same failure to load it, whatever the words of the report. If validation finds faults
they write the same lines about its findings, which is all that showing writes. If it finds none,
then building the session, attaching a loop to it and starting it all succeed. -/
theorem check_and_preview_agree (reporter : Toml.Reporter)
    (read : String → Except ReadFailure String) (path : String) (directives : Option String)
    (hreadable : Logging.complaints directives = []) :
    let checked := (Request.run .check path).report reporter directives read
    let shown := (Request.run .preview path).report reporter directives read
    (∀ a, Request.ofArguments? [Action.keyword a, "-c", path] =
        if isOption path ∨ path = "" then none else some (.run a path)) ∧
      (shown.exitCode = 0 ↔ checked.exitCode = 0) ∧
      (checked.exitCode ≠ 0 → checked.exitCode = 1 ∧ shown.exitCode = 1) ∧
      (∀ e, Config.load reporter (read path) = .error e → checked.exitCode = 1 ∧
        checked.errors = ["[ERROR] Failed to load config: " ++ e.message] ∧
        shown.errors = ["[ERROR] Failed to load config: " ++ e.message]) ∧
      ∀ config, Config.load reporter (read path) = .ok config →
        (config.validate.faults ≠ [] → checked.exitCode = 1 ∧
          checked.output = greeting path :: config.validate.lines.map .answer ∧
          shown.output = config.validate.lines.map .answer ∧
          checked.errors = ["[ERROR] Validation failed"] ∧
          shown.errors = ["[ERROR] Validation failed"]) ∧
        (config.validate.faults = [] → checked.exitCode = 0 ∧ shown.errors = [] ∧
          config.build.result = .ok () ∧
          let attached := config.build.state.step (.attach Config.sessionName none 0)
          attached.reply = .done ∧
            (attached.world.step (.start Config.sessionName)).reply = .done) := by
  intro checked shown
  refine ⟨fun a => ofArguments?_path a path, ?_⟩
  cases hload : Config.load reporter (read path) with
  | error e =>
    have hchecked : checked = _ := check_of_load_error hload path
    have hshown : shown = _ := preview_of_load_error hload directives
    rw [hchecked, hshown]
    refine ⟨.rfl, fun _ => ⟨rfl, rfl⟩, ?_, nofun⟩
    rintro _ ⟨⟩
    exact ⟨rfl, rfl, rfl⟩
  | ok config =>
    by_cases hfaults : config.validate.faults = []
    · obtain ⟨-, hchecked⟩ : checked.errors = [] ∧ checked.exitCode = 0 :=
        check_of_no_faults hload hfaults path
      obtain ⟨herrors, hshown⟩ : shown.errors = Logging.complaints directives ∧
          shown.exitCode = 0 := preview_of_no_faults hload hfaults directives
      rw [hchecked, hshown, herrors, hreadable]
      refine ⟨.rfl, fun h => absurd rfl h, nofun, ?_⟩
      rintro _ ⟨⟩
      exact ⟨fun h => absurd hfaults h, fun _ => ⟨rfl, rfl, config.launches_of_no_faults hfaults⟩⟩
    · have hchecked : checked = _ := check_of_faults hload hfaults path
      have hshown : shown = _ := preview_of_faults hload hfaults directives
      rw [hchecked, hshown, hreadable]
      refine ⟨.rfl, fun _ => ⟨rfl, rfl⟩, nofun, ?_⟩
      rintro _ ⟨⟩
      exact ⟨fun _ => ⟨rfl, rfl, rfl, rfl, rfl⟩, fun h => absurd h hfaults⟩

private theorem exists_loaded {good : Config → Bool}
    (h : (Config.load reporter source).toOption.any good = true) :
    ∃ config, Config.load reporter source = .ok config ∧ good config = true := by
  cases hload : Config.load reporter source with
  | error e => simp [hload, Except.toOption] at h
  | ok config => exact ⟨config, rfl, by simpa [hload, Except.toOption] using h⟩

/-- Here one file does not exist, one sets no interface, and one sets nothing else. -/
theorem check_and_preview_agree_of_files :
    let read : String → Except ReadFailure String := fun path =>
      if path = "empty.toml" then .ok "" else if path = "radv.toml" then .ok "router.ifindex=2"
      else .error .notFound
    let checked := fun path => (Request.run .check path).report .plain (some "radv=debug") read
    let shown := fun path => (Request.run .preview path).report .plain (some "radv=debug") read
    (checked "none.toml").errors = (shown "none.toml").errors ∧
      (checked "none.toml").errors =
        ["[ERROR] Failed to load config: I/O error: No such file or directory (os error 2)"] ∧
      (checked "empty.toml").exitCode = 1 ∧ (shown "empty.toml").exitCode = 1 ∧
      (checked "empty.toml").output = greeting "empty.toml" :: (shown "empty.toml").output ∧
      (checked "radv.toml").exitCode = 0 ∧ (shown "radv.toml").exitCode = 0 ∧
      (shown "radv.toml").errors = [] := by
  intro read checked shown
  have hreadable : Logging.complaints (some "radv=debug") = [] := by decide +kernel
  obtain ⟨-, -, -, hmissing, -⟩ :=
    check_and_preview_agree .plain read "none.toml" (some "radv=debug") hreadable
  obtain ⟨-, -, hfails, -, hempty⟩ :=
    check_and_preview_agree .plain read "empty.toml" (some "radv=debug") hreadable
  obtain ⟨-, hends, -, -, hset⟩ :=
    check_and_preview_agree .plain read "radv.toml" (some "radv=debug") hreadable
  obtain ⟨-, hchecked, hshown⟩ := hmissing (.unreadable .notFound) rfl
  obtain ⟨empty, hload, hfaults⟩ : ∃ c, Config.load .plain (read "empty.toml") = .ok c ∧
      decide (c.validate.faults ≠ []) = true := exists_loaded (by decide +kernel)
  obtain ⟨hcode, hcheckedOutput, hshownOutput, -⟩ :=
    (hempty empty hload).1 (of_decide_eq_true hfaults)
  obtain ⟨config, hload, hfaults⟩ : ∃ c, Config.load .plain (read "radv.toml") = .ok c ∧
      decide (c.validate.faults = []) = true := exists_loaded (by decide +kernel)
  obtain ⟨hsucceeds, herrors, -⟩ := (hset config hload).2 (of_decide_eq_true hfaults)
  refine ⟨hchecked.trans hshown.symm, hchecked, hcode, (hfails ?_).2, ?_, hsucceeds,
    hends.mpr hsucceeds, herrors⟩
  · rw [hcode]
    decide
  · rw [hcheckedOutput, hshownOutput]

end Command

end RouterAdvert
