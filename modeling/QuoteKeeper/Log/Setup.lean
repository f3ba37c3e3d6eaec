import QuoteKeeper.Config.Settings
import QuoteKeeper.Text.Json
/-
  QuoteKeeper.Log.Setup — how the process log is set up: the threshold level, where entries
  go (`stdout`, `stderr`, `file`), the file for `file` output, a separate file that receives
  errors only, and the stream format (`json` or `console`; files are always JSON).

  The settings file may leave any of these out: the level defaults to `info`, the format to
  `json` and the outputs to standard output; the two file names are taken as given.
-/

namespace QuoteKeeper

structure LogSetup where
  level : String
  outputs : List String
  outputFile : String
  errorFile : String
  format : String
  deriving Repr, Inhabited

namespace LogSetup

def default : LogSetup := ⟨"info", ["stdout"], "", "", "json"⟩

/-- The setup a settings file asks for, defaults filling what it leaves out. -/
def ofSettings (s : Config.LogSettings) : LogSetup :=
  let outputs := s.outputs.getD []
  { level := if s.level != "" then s.level else default.level
    outputs := if outputs.isEmpty then default.outputs else outputs
    outputFile := s.outputFile
    errorFile := s.errorFile
    format := if s.format != "" then s.format else default.format }

def toJson (s : LogSetup) : Json :=
  .obj [("level", .str s.level), ("outputs", Json.ofStrings s.outputs),
    ("output_file", .str s.outputFile), ("error_file", .str s.errorFile), ("format", .str s.format)]

end LogSetup

end QuoteKeeper
