import RouterAdvert.Config.Decode
import RouterAdvert.Files
import RouterAdvert.Toml.Document

/-!
# Loading configurations

A configuration file is text, the text is TOML, and the TOML has the shape of a configuration. What
is wrong with a file that is none is reported by the reader of TOML, in words of its own: a report
shows the line it is about and the number of this line, so it depends on the whole text.
-/

namespace RouterAdvert

/-- How the reader of TOML words its reports: on a text that is no TOML, and on a text with a value
that is not what was asked for, given what is wrong with the value. -/
structure Toml.Reporter where
  syntaxError : String → String
  schema : String → String → String

/-- Reports that say what is wrong and not where: `Toml.read?` keeps no places. -/
def Toml.Reporter.plain : Toml.Reporter where
  syntaxError _ := "TOML parse error"
  schema _ message := message

/-- Why a configuration cannot be loaded, with the report of the reader of TOML if it has one. -/
inductive LoadError
  | unreadable (failure : ReadFailure)
  | syntaxError (report : String)
  | schema (error : SchemaError) (report : String)

def LoadError.message : LoadError → String
  | unreadable failure => "I/O error: " ++ failure.message
  | syntaxError report | schema _ report => "config error: " ++ report

namespace Config

def parse (reporter : Toml.Reporter) (text : String) : Except LoadError Config :=
  match Toml.read? text with
  | none => .error (.syntaxError (reporter.syntaxError text))
  | some entries =>
    (Decode.config entries).mapError fun e => .schema e (reporter.schema text e.message)

/-- The configuration in a file that may have been impossible to read. -/
def load (reporter : Toml.Reporter) (source : Except ReadFailure String) :
    Except LoadError Config :=
  match source with
  | .error failure => .error (.unreadable failure)
  | .ok text => parse reporter text

end Config

end RouterAdvert
