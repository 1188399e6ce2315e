import RouterAdvert.Command.Run
import RouterAdvert.Log.Time
import Std.Time.DateTime.Timestamp

/-!
# The command line tool

Reads the arguments, the environment and the configuration file, and writes the report of the
request.
-/

namespace RouterAdvert

def ReadFailure.ofError : IO.Error → ReadFailure
  | .noFileOrDirectory .. => .notFound
  | .inappropriateType _ _ "not a directory" => .notDirectory
  | .inappropriateType .. => .isDirectory
  | .invalidArgument _ 36 _ => .nameTooLong
  | e => .other (toString e)

def readFile (path : String) : IO (Except ReadFailure String) := do
  try
    return readText (← IO.FS.readBinFile path)
  catch e => return .error (.ofError e)

def presentTime : IO String := do
  let now ← Std.Time.Timestamp.now
  return Log.timeText (now.toNanosecondsSinceUnixEpoch.val.toNat / 1000)

def perform (request : Command.Request) : IO UInt32 := do
  let directives ← IO.getEnv "RUST_LOG"
  let source ←
    match request with
    | .run _ path => readFile path
    | .help _ => pure (.error .notFound)
  let report := request.report .plain directives fun _ => source
  for line in report.output do
    IO.println (line.text (← presentTime))
  for line in report.errors do
    IO.eprintln line
  return UInt32.ofNat report.exitCode

end RouterAdvert

def main (arguments : List String) : IO UInt32 := do
  match RouterAdvert.Command.Request.ofArguments? arguments with
  | some request => RouterAdvert.perform request
  | none =>
    for line in RouterAdvert.Command.usageLines do
      IO.eprintln line
    return UInt32.ofNat RouterAdvert.Command.usageExitCode
