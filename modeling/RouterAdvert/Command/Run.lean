import RouterAdvert.Command.Arguments
import RouterAdvert.Config.Build
import RouterAdvert.Config.Load
import RouterAdvert.Config.Validation
import RouterAdvert.Log.Filter
import RouterAdvert.World.View

/-!
# Running commands

What a command writes and how it ends, as a function of the configuration file and the log settings.
Log lines and answers share the standard output, in order of time.
-/

namespace RouterAdvert.Command

inductive Line
  | answer (text : String)
  | log (event : Log.Event) (format : Log.Format)

/-- The text of a line; the time is that at which a log line is written. -/
def Line.text (time : String) : Line → String
  | .answer text => text
  | .log event format => event.line format time

structure Report where
  output : List Line := []
  errors : List String := []
  exitCode : Nat := 0

namespace Report

def failed (output : List Line) (message : String) : Report :=
  { output, errors := ["[ERROR] " ++ message], exitCode := 1 }

def after (r : Report) (lines : List Line) : Report := { r with output := lines ++ r.output }

def warned (r : Report) (complaints : List String) : Report :=
  { r with errors := complaints ++ r.errors }

end Report

/-- Which events are logged and in what form. -/
structure Logging where
  filter : Log.Filter
  format : Log.Format

namespace Logging

/-- The verbosity of a configured level. Any name but those of the levels counts as `info`. -/
def verbosityOf (level : String) : Nat :=
  match String.ofList (level.toList.map Char.toLower) with
  | "error" => Log.Level.error.verbosity
  | "warn" => Log.Level.warn.verbosity
  | "debug" => Log.Level.debug.verbosity
  | "trace" => Log.Level.trace.verbosity
  | _ => Log.Level.info.verbosity

/-- The log settings: directives from the environment win over the configured level, and that over
`info`. -/
def of (config : Option LogConfig) (directives : Option String) : Logging where
  filter :=
    match directives with
    | some text => .read text
    | none => .ofVerbosity (verbosityOf (config.getD {}).level)
  format := (config.getD {}).format

def complaints (directives : Option String) : List String :=
  (directives.map Log.Filter.complaints).getD []

/-- The lines of those events that are shown. -/
def lines (l : Logging) (entries : List World.Entry) : List Line :=
  (entries.filter fun entry => l.filter.shows entry.event).map fun entry =>
    .log entry.event l.format

end Logging

def check (reporter : Toml.Reporter) (path : String) (source : Except ReadFailure String) :
    Report :=
  let greeting := Line.answer ("[INFO] Validating " ++ path ++ "...")
  match Config.load reporter source with
  | .error e => .failed [greeting] ("Failed to load config: " ++ e.message)
  | .ok config =>
    let findings := config.validate
    let lines := greeting :: findings.lines.map .answer
    if findings.hasFaults then .failed lines "Validation failed"
    else { output := lines ++ [.answer "[INFO] Configuration is valid"] }

def orDash (text : Option String) : String := text.getD "-"

def padded (width : Nat) (text : String) : String :=
  text ++ String.ofList (List.replicate (width - text.length) ' ')

def bit (on : Bool) : String := if on then "1" else "0"

def prefixLines (o : PrefixInformation) : List String :=
  ["prefix " ++ padded 24 o.network.text ++ " L=" ++ bit o.onLink ++ " A=" ++ bit o.autonomous
      ++ " valid=" ++ Numeral.decimal o.validLifetime.toNat
      ++ " preferred=" ++ Numeral.decimal o.preferredLifetime.toNat,
    "  " ++ Octets.hex o.encode]

def summary (w : World) (s : Session) : List String :=
  let r := s.router
  ["ifindex:         " ++ Numeral.signed r.interface.toInt,
    "mac:             " ++ orDash (r.linkAddress.map fun a =>
      a.text ++ " (link-local " ++ a.linkLocal.text ++ ")"),
    "mtu:             " ++ orDash (r.mtu.map fun size => Numeral.decimal size.toNat),
    "hop limit:       " ++ Numeral.decimal r.hopLimit.toNat,
    "router lifetime: " ++ Numeral.decimal r.lifetime.toNat ++ "s",
    "flags:           0x" ++ Octets.hex [s.flagsByte] ++ " " ++ r.flags.layout.line]
    ++ s.members.flatMap fun id => prefixLines (w.option id)

def launch : List (Op × String) :=
  [(.attach Config.sessionName none 0, "Failed to attach event loop: "),
    (.start Config.sessionName, "Failed to start: ")]

def present (logging : Logging) (w : World) : Report :=
  match Config.namedSession? w Config.sessionName with
  | none => {}
  | some s =>
    let ready : World.Entry := ⟨.command, .ready s.router.interface s.members.length⟩
    let stopped := w.step (.stop Config.sessionName)
    let released := stopped.world.step (.dropSession Config.sessionName)
    { output := logging.lines [ready] ++ (summary w s).map .answer
        ++ logging.lines (stopped.log ++ released.log) }

/-- Carries out the operations before the session is shown; the first that fails ends the
command. -/
def launchAndPresent (logging : Logging) (w : World) : List (Op × String) → Report
  | [] => present logging w
  | (op, complaint) :: rest =>
    let next := w.step op
    match next.reply with
    | .failed e =>
      let released := next.world.step (.dropSession Config.sessionName)
      .failed (logging.lines (next.log ++ released.log)) (complaint ++ e.message)
    | _ => (launchAndPresent logging next.world rest).after (logging.lines next.log)

/-- Builds the session of a configuration and shows what it would advertise. -/
def previewLoaded (logging : Logging) (config : Config) : Report :=
  let findings := config.validate
  if findings.hasFaults then .failed (findings.lines.map .answer) "Validation failed"
  else
    let built := config.build
    match built.result with
    | .error e => .failed (logging.lines built.log) ("Failed to build session: " ++ e.message)
    | .ok () => (launchAndPresent logging built.state launch).after (logging.lines built.log)

/-- Builds the session of a configuration file and shows what it would advertise. Directives that
cannot be read are complained about once the file has been loaded. -/
def preview (reporter : Toml.Reporter) (directives : Option String)
    (source : Except ReadFailure String) : Report :=
  match Config.load reporter source with
  | .error e => .failed [] ("Failed to load config: " ++ e.message)
  | .ok config =>
    (previewLoaded (Logging.of config.log directives) config).warned (Logging.complaints directives)

/-- Carries out a request, given a way to read files and the reports of the reader of TOML. -/
def Request.report (reporter : Toml.Reporter) (directives : Option String)
    (read : String → Except ReadFailure String) : Request → Report
  | .help topic => { output := (helpLines topic).map .answer }
  | .run .check path => check reporter path (read path)
  | .run .preview path => preview reporter directives (read path)

def usageExitCode : Nat := 2

def usageLines : List String :=
  ["error: invalid arguments", "", "Usage: radv <COMMAND>", "",
    "For more information, try '--help'."]

end RouterAdvert.Command
