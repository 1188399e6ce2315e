import Mathlib
import RouterAdvert.Proofs.Command.Agreement
import RouterAdvert.Proofs.Config.Records

/-!
# Logging and answers

Log lines share the standard output with the answers, but no answer depends on how a command is told
to log: neither the `log` section of a configuration nor the directives change anything but the log
lines, and the report on a text that is no configuration, which shows the text. Only showing a
configuration that is valid writes any log lines.
-/

namespace RouterAdvert

namespace Config

def withoutLog (c : Config) : Config := { c with log := none }

theorem validate_withoutLog (c : Config) : c.withoutLog.validate = c.validate := rfl

theorem build_withoutLog (c : Config) : c.withoutLog.build = c.build := rfl

/-- A source as it is loaded, but for the `log` section. -/
def loadWithoutLog (reporter : Toml.Reporter) (source : Except ReadFailure String) :
    Except LoadError Config :=
  (load reporter source).map withoutLog

theorem load_eq_error_iff {reporter : Toml.Reporter} {source : Except ReadFailure String}
    {e : LoadError} :
    load reporter source = .error e ↔ loadWithoutLog reporter source = .error e := by
  unfold loadWithoutLog
  cases load reporter source <;> simp [Except.map]

end Config

namespace Decode

open Toml

theorem withoutLog_set {p : Slot Config} (hp : p ∈ configSlots) (hkey : p.key ≠ "log") (c : Config)
    (a : p.Read) : (p.set c a).withoutLog = p.set c.withoutLog a := by
  simp only [configSlots, List.mem_cons, List.not_mem_nil, or_false] at hp
  rcases hp with rfl | rfl | rfl
  · exact absurd rfl hkey
  · rfl
  · rfl

/-- A `log` section that can be read makes no difference to the rest of a configuration, nor to the
first error in it. -/
theorem ofEntries_withoutLog (c : Config) {entries : Entries}
    (hlog : ∀ v, ("log", v) ∈ entries → ∃ section_, log v = .ok section_) :
    (ofEntries configFields c entries).map Config.withoutLog =
      ofEntries configFields c.withoutLog (entries.filter (·.1 ≠ "log")) := by
  induction entries generalizing c with
  | nil => rfl
  | cons entry rest ih =>
    obtain ⟨key, v⟩ := entry
    have hrest : ∀ v, ("log", v) ∈ rest → ∃ section_, log v = .ok section_ :=
      fun v hv => hlog v (List.mem_cons_of_mem _ hv)
    by_cases hkey : key = "log"
    · -- On the left the section is stored and dropped in the end; on the right it is left out.
      subst hkey
      obtain ⟨section_, hsection⟩ := hlog v List.mem_cons_self
      have hread : configFields.lookup "log" =
          some (field log fun c section_ => { c with log := some section_ }) := rfl
      rw [ofEntries_cons_of_known v hread, field_eq_ok_iff.mpr ⟨section_, hsection, rfl⟩,
        List.filter_cons_of_neg (by simp)]
      exact ih _ hrest
    · rw [List.filter_cons_of_pos (by simpa using hkey)]
      rcases lookup_slots_cases configSlots key with ⟨p, hp, rfl, hread⟩ | ⟨-, hread⟩
      · rw [← configFields_eq] at hread
        rw [ofEntries_cons_of_known v hread, ofEntries_cons_of_known v hread]
        unfold field
        cases p.decoder v with
        | error e => rfl
        | ok a =>
          change (ofEntries configFields (p.set c a) rest).map _ =
            ofEntries configFields (p.set c.withoutLog a) _
          rw [ih _ hrest, withoutLog_set hp hkey]
      · rw [← configFields_eq] at hread
        rw [ofEntries_cons_of_unknown v hread, ofEntries_cons_of_unknown v hread]
        exact ih c hrest

end Decode

/-- Sources that differ at most in their `log` sections, which can be read where they are there. -/
inductive SameButLog : Except ReadFailure String → Except ReadFailure String → Prop
  | unreadable (failure : ReadFailure) : SameButLog (.error failure) (.error failure)
  | malformed {text text' : String} (read : Toml.read? text = none)
      (read' : Toml.read? text' = none) : SameButLog (.ok text) (.ok text')
  | documents {text text' : String} {entries entries' : Toml.Entries}
      (read : Toml.read? text = some entries) (read' : Toml.read? text' = some entries')
      (log : ∀ v, ("log", v) ∈ entries → ∃ section_, Decode.log v = .ok section_)
      (log' : ∀ v, ("log", v) ∈ entries' → ∃ section_, Decode.log v = .ok section_)
      (rest : entries.filter (·.1 ≠ "log") = entries'.filter (·.1 ≠ "log")) :
      SameButLog (.ok text) (.ok text')

theorem Config.load_of_not_read (reporter : Toml.Reporter) {text : String}
    (hread : Toml.read? text = none) :
    load reporter (.ok text) = .error (.syntaxError (reporter.syntaxError text)) := by
  rw [load, parse, hread]

theorem Config.loadWithoutLog_of_read (reporter : Toml.Reporter) {text : String}
    {entries : Toml.Entries} (hread : Toml.read? text = some entries)
    (hlog : ∀ v, ("log", v) ∈ entries → ∃ section_, Decode.log v = .ok section_) :
    loadWithoutLog reporter (.ok text) =
      (Decode.config (entries.filter (·.1 ≠ "log"))).mapError fun e =>
        .schema e (reporter.schema text e.message) := by
  have hdecode := Decode.ofEntries_withoutLog {} hlog
  change _ = Decode.config (entries.filter (·.1 ≠ "log")) at hdecode
  rw [← hdecode]
  simp only [loadWithoutLog, load, parse, hread]
  change Except.map _ (Except.mapError _ (Decode.config entries)) = _
  unfold Decode.config
  cases Decode.ofEntries Decode.configFields {} entries <;> rfl

/-- Refusals of two texts for the same reason, each with the report on its own text. -/
inductive LoadError.SameRefusal : LoadError → LoadError → Prop
  | syntaxError (report report' : String) : SameRefusal (.syntaxError report) (.syntaxError report')
  | schema (error : SchemaError) (report report' : String) :
      SameRefusal (.schema error report) (.schema error report')

/-- Sources that differ at most in their `log` sections are loaded alike but for these, or both are
refused. -/
theorem SameButLog.loads {source source' : Except ReadFailure String}
    (h : SameButLog source source') (reporter : Toml.Reporter) :
    Config.loadWithoutLog reporter source = Config.loadWithoutLog reporter source' ∨
      ∃ e e', Config.load reporter source = .error e ∧ Config.load reporter source' = .error e' ∧
        e.SameRefusal e' := by
  cases h with
  | unreadable failure => exact .inl rfl
  | malformed read read' =>
    exact .inr ⟨_, _, Config.load_of_not_read reporter read, Config.load_of_not_read reporter read',
      .syntaxError _ _⟩
  | documents read read' log log' rest =>
    have hload := Config.loadWithoutLog_of_read reporter read log
    have hload' := Config.loadWithoutLog_of_read reporter read' log'
    rw [← rest] at hload'
    cases hdecode : Decode.config _ with
    | ok config =>
      rw [hdecode] at hload hload'
      exact .inl (hload.trans hload'.symm)
    | error e =>
      rw [hdecode] at hload hload'
      exact .inr ⟨_, _, Config.load_eq_error_iff.mpr hload, Config.load_eq_error_iff.mpr hload',
        .schema e _ _⟩

namespace Command

def Line.answer? : Line → Option String
  | .answer text => some text
  | .log .. => none

namespace Report

/-- The lines of a report that are no log lines. -/
def answers (r : Report) : List String := r.output.filterMap (·.answer?)

structure SameAnswers (r r' : Report) : Prop where
  exitCode : r.exitCode = r'.exitCode
  errors : r.errors = r'.errors
  answers : r.answers = r'.answers

def Unlogged (r : Report) : Prop := ∀ line ∈ r.output, line.answer?.isSome

theorem SameAnswers.refl (r : Report) : SameAnswers r r := ⟨rfl, rfl, rfl⟩

end Report

theorem filterMap_answer?_lines (l : Logging) (entries : List World.Entry) :
    (l.lines entries).filterMap (·.answer?) = [] := by
  rw [List.filterMap_eq_nil_iff]
  intro line hmem
  obtain ⟨entry, -, rfl⟩ := List.mem_map.mp hmem
  rfl

variable {reporter : Toml.Reporter} {r r' : Report}

theorem Report.SameAnswers.after (h : r.SameAnswers r') (l l' : Logging)
    (entries : List World.Entry) :
    (r.after (l.lines entries)).SameAnswers (r'.after (l'.lines entries)) where
  exitCode := h.exitCode
  errors := h.errors
  answers := by
    have hanswers := h.answers
    unfold Report.answers at hanswers ⊢
    simp only [Report.after, List.filterMap_append, filterMap_answer?_lines, hanswers]

theorem sameAnswers_failed (l l' : Logging) (entries : List World.Entry) (message : String) :
    (Report.failed (l.lines entries) message).SameAnswers
      (Report.failed (l'.lines entries) message) where
  exitCode := rfl
  errors := rfl
  answers := by simp only [Report.answers, Report.failed, filterMap_answer?_lines]

theorem sameAnswers_present (l l' : Logging) (w : World) :
    (present l w).SameAnswers (present l' w) := by
  unfold present
  cases Config.namedSession? w Config.sessionName with
  | none => exact .refl _
  | some s =>
    refine ⟨rfl, rfl, ?_⟩
    simp only [Report.answers, List.filterMap_append, filterMap_answer?_lines]

theorem sameAnswers_launchAndPresent (l l' : Logging) (w : World) (ops : List (Op × String)) :
    (launchAndPresent l w ops).SameAnswers (launchAndPresent l' w ops) := by
  induction ops generalizing w with
  | nil => exact sameAnswers_present l l' w
  | cons first rest ih =>
    obtain ⟨op, complaint⟩ := first
    simp only [launchAndPresent]
    cases (w.step op).reply with
    | failed e => exact sameAnswers_failed l l' _ _
    | done | nothing | unknownHandle => exact (ih _).after l l' _

theorem sameAnswers_previewLoaded (l l' : Logging) (config : Config) :
    (previewLoaded l config).SameAnswers (previewLoaded l' config) := by
  simp only [previewLoaded]
  by_cases hfaults : config.validate.hasFaults
  · rw [if_pos hfaults, if_pos hfaults]
    exact .refl _
  · rw [if_neg hfaults, if_neg hfaults]
    cases config.build.result with
    | error e => exact sameAnswers_failed l l' _ _
    | ok _ => exact (sameAnswers_launchAndPresent l l' _ _).after l l' _

theorem previewLoaded_withoutLog (l : Logging) (config : Config) :
    previewLoaded l config.withoutLog = previewLoaded l config := by
  rw [previewLoaded, previewLoaded, config.validate_withoutLog, config.build_withoutLog]

theorem sameAnswers_preview {directives directives' : Option String}
    (h : Logging.complaints directives = []) (h' : Logging.complaints directives' = [])
    {source source' : Except ReadFailure String}
    (hload : Config.loadWithoutLog reporter source = Config.loadWithoutLog reporter source') :
    (preview reporter directives source).SameAnswers (preview reporter directives' source') := by
  unfold Config.loadWithoutLog at hload
  cases hsource : Config.load reporter source with
  | error e =>
    cases hsource' : Config.load reporter source' with
    | ok config' =>
      rw [hsource, hsource'] at hload
      cases hload
    | error e' =>
      rw [hsource, hsource'] at hload
      cases hload
      rw [preview_of_load_error hsource, preview_of_load_error hsource']
      exact .refl _
  | ok config =>
    cases hsource' : Config.load reporter source' with
    | error e' =>
      rw [hsource, hsource'] at hload
      cases hload
    | ok config' =>
      rw [hsource, hsource'] at hload
      have hsame : config.withoutLog = config'.withoutLog := Except.ok.inj hload
      simp only [preview, hsource, hsource', h, h', Report.warned, List.nil_append]
      rw [← previewLoaded_withoutLog _ config, ← previewLoaded_withoutLog _ config', hsame]
      exact sameAnswers_previewLoaded _ _ _

theorem Report.unlogged_of_output {texts : List String} (h : r.output = texts.map .answer) :
    r.Unlogged := by
  intro line hmem
  rw [h] at hmem
  obtain ⟨text, -, rfl⟩ := List.mem_map.mp hmem
  rfl

theorem unlogged_check (path : String) (source : Except ReadFailure String) :
    (check reporter path source).Unlogged := by
  let first := "[INFO] Validating " ++ path ++ "..."
  cases hload : Config.load reporter source with
  | error e =>
    have houtput : (check reporter path source).output = [first].map .answer := by
      rw [check_of_load_error hload]
      rfl
    exact Report.unlogged_of_output houtput
  | ok config =>
    by_cases hfaults : config.validate.faults = []
    · have hnone := Bool.eq_false_iff.mpr (mt Findings.hasFaults_iff.mp (not_not_intro hfaults))
      have houtput : (check reporter path source).output =
          (first :: config.validate.lines ++ ["[INFO] Configuration is valid"]).map .answer := by
        simp [check, hload, hnone, first]
      exact Report.unlogged_of_output houtput
    · have houtput : (check reporter path source).output =
          (first :: config.validate.lines).map .answer := by
        rw [check_of_faults hload hfaults]
        rfl
      exact Report.unlogged_of_output houtput

theorem unlogged_preview_of_load_error {source : Except ReadFailure String} {e : LoadError}
    (h : Config.load reporter source = .error e) (directives : Option String) :
    (preview reporter directives source).Unlogged := by
  rw [preview_of_load_error h]
  exact List.forall_mem_nil _

theorem unlogged_preview_of_faults {source : Except ReadFailure String} {config : Config}
    (h : Config.load reporter source = .ok config) (hfaults : config.validate.faults ≠ [])
    (directives : Option String) : (preview reporter directives source).Unlogged := by
  have houtput : (preview reporter directives source).output =
      config.validate.lines.map .answer := by
    rw [preview_of_faults h hfaults]
    rfl
  exact Report.unlogged_of_output houtput

/-- How to log changes no answer. Showing two files that differ at most in their `log` sections,
under any two lists of directives that can be read or under none, ends with the same exit code and
the same answers. The errors are the same too, unless both files are refused as configurations: then
each run tells the report on its own text, for the same reason. For two files that are loaded alike
but for their `log` sections the errors are always the same. Whatever the directives, no log line is
shown of a file that cannot be loaded or in which validation finds faults, and none by a check. -/
theorem logging_changes_no_answer (reporter : Toml.Reporter)
    (read read' : String → Except ReadFailure String) (path path' : String)
    (directives directives' : Option String)
    (h : Logging.complaints directives = []) (h' : Logging.complaints directives' = []) :
    let shown := (Request.run .preview path).report reporter directives read
    let shown' := (Request.run .preview path').report reporter directives' read'
    (SameButLog (read path) (read' path') →
        shown.exitCode = shown'.exitCode ∧ shown.answers = shown'.answers ∧
          (shown.errors = shown'.errors ∨
            ∃ e e', Config.load reporter (read path) = .error e ∧
              Config.load reporter (read' path') = .error e' ∧ e.SameRefusal e' ∧
              shown.errors = ["[ERROR] Failed to load config: " ++ e.message] ∧
              shown'.errors = ["[ERROR] Failed to load config: " ++ e'.message])) ∧
      (Config.loadWithoutLog reporter (read path) =
          Config.loadWithoutLog reporter (read' path') → shown.SameAnswers shown') ∧
      ∀ anyDirectives,
        (∀ e, Config.load reporter (read path) = .error e →
          ((Request.run .preview path).report reporter anyDirectives read).Unlogged) ∧
        (∀ config, Config.load reporter (read path) = .ok config →
          config.validate.faults ≠ [] →
          ((Request.run .preview path).report reporter anyDirectives read).Unlogged) ∧
        ((Request.run .check path).report reporter anyDirectives read).Unlogged := by
  intro shown shown'
  refine ⟨fun hsame => ?_, fun hload => ?_, fun anyDirectives => ⟨?_, ?_, ?_⟩⟩
  · rcases hsame.loads reporter with hload | ⟨e, e', hload, hload', hrefusal⟩
    · have hanswers : shown.SameAnswers shown' := sameAnswers_preview h h' hload
      exact ⟨hanswers.exitCode, hanswers.answers, .inl hanswers.errors⟩
    · have hshown : shown = _ := preview_of_load_error hload directives
      have hshown' : shown' = _ := preview_of_load_error hload' directives'
      rw [hshown, hshown']
      exact ⟨rfl, rfl, .inr ⟨e, e', hload, hload', hrefusal, rfl, rfl⟩⟩
  · exact sameAnswers_preview h h' hload
  · intro e hload
    exact unlogged_preview_of_load_error hload anyDirectives
  · intro config hload hfaults
    exact unlogged_preview_of_faults hload hfaults anyDirectives
  · exact unlogged_check path (read path)

/-- Here one file asks for a verbose log, and the other is shown under directives that turn it
off. -/
theorem logging_changes_no_answer_of_section :
    let read : String → Except ReadFailure String := fun path =>
      if path = "loud.toml" then .ok "log.level='debug'\nrouter.ifindex=2"
      else .ok "router.ifindex=2"
    let shown := fun path directives =>
      (Request.run .preview path).report .plain directives read
    let loud := shown "loud.toml" none
    let quiet := shown "plain.toml" (some "radv=off")
    SameButLog (read "loud.toml") (read "plain.toml") ∧ Logging.complaints (some "radv=off") = [] ∧
      loud.output.any (·.answer?.isNone) = true ∧ quiet.output.any (·.answer?.isNone) = false ∧
      loud.exitCode = quiet.exitCode ∧ loud.answers = quiet.answers ∧
      loud.errors = [] ∧ quiet.errors = [] := by
  intro read shown loud quiet
  have hloud : Toml.read? "log.level='debug'\nrouter.ifindex=2" =
      some [("log", .table [("level", .string "debug")]),
        ("router", .table [("ifindex", .integer 2)])] := by cbv
  have hplain : Toml.read? "router.ifindex=2" =
      some [("router", .table [("ifindex", .integer 2)])] := by cbv
  have hsame : SameButLog (read "loud.toml") (read "plain.toml") := by
    simp only [read, if_true, String.reduceEq, if_false]
    refine .documents hloud hplain ?_ (by simp) rfl
    intro v hv
    obtain rfl : v = .table [("level", .string "debug")] := by simpa using hv
    exact ⟨_, rfl⟩
  have hreadable : Logging.complaints (some "radv=off") = [] := by decide +kernel
  obtain ⟨halike, -⟩ := logging_changes_no_answer .plain read read "loud.toml" "plain.toml" none
    (some "radv=off") rfl hreadable
  obtain ⟨hcode, hanswers, -⟩ := halike hsame
  exact ⟨hsame, hreadable, by decide +kernel, by decide +kernel, hcode, hanswers,
    by decide +kernel, by decide +kernel⟩

/-- A `log` section moves the lines below it, and with them what is reported of a wrong value. The
reports are those on these two texts. -/
theorem log_section_moves_report :
    let plain := "[router]\nifindex = \"x\"\n"
    let logged := "[log]\nlevel = \"info\"\n" ++ plain
    let place : String → String := fun text =>
      if text = plain then
        "TOML parse error at line 2, column 11\n  |\n2 | ifindex = \"x\"\n  |           ^^^\n"
      else "TOML parse error at line 4, column 11\n  |\n4 | ifindex = \"x\"\n  |           ^^^\n"
    let reporter : Toml.Reporter :=
      { Toml.Reporter.plain with schema := fun text message => place text ++ message ++ "\n" }
    let errors := fun text =>
      ((Request.run .preview "radv.toml").report reporter none fun _ => .ok text).errors
    let told := fun text => "[ERROR] Failed to load config: config error: " ++ place text ++
      "invalid type: string \"x\", expected i32\n"
    SameButLog (.ok plain) (.ok logged) ∧ errors plain = [told plain] ∧
      errors logged = [told logged] ∧ errors plain ≠ errors logged := by
  intro plain logged place reporter errors told
  have hplain : Toml.read? plain = some [("router", .table [("ifindex", .string "x")])] := by cbv
  have hlogged : Toml.read? logged = some [("log", .table [("level", .string "info")]),
      ("router", .table [("ifindex", .string "x")])] := by cbv
  refine ⟨.documents hplain hlogged (by simp) ?_ rfl, ?_, ?_, ?_⟩
  · intro v hv
    obtain rfl : v = .table [("level", .string "info")] := by simpa using hv
    exact ⟨_, rfl⟩
  all_goals decide +kernel

end Command

end RouterAdvert
