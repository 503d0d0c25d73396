import PlaneCalc.Config.Discovery
import PlaneCalc.Invocation
import PlaneCalc.Shell

/-!
# The command line

The program as a function of its arguments, its input and its surroundings. A configuration that
cannot be used ends it with code 2, a line that fails in a batch with code 1. The log goes to the
error stream if the configured level lets it.

Reference: `vecalc.cli`.
-/

namespace PlaneCalc

/-- The version of the program. -/
def version : String := "0.1.0"

/-- What the program leaves behind. -/
structure Run where
  exitCode : Nat
  output : String
  errors : String
deriving DecidableEq

namespace CommandLine

/-- The lines of an input; a line end at the very end begins no line. -/
def inputLines (text : String) : List String :=
  let pieces := ((plainLineEnds text.toList).splitOn '\n').map String.ofList
  if pieces.getLast? = some "" then pieces.dropLast else pieces

/-- The log as the error stream shows it: every record is for debugging. -/
def logText (level : LogLevel) (log : List LogRecord) : String :=
  if level = .debug then String.join (log.map fun r => r.line ++ "\n") else ""

/-- A transcript as the program leaves it behind. -/
def ofTranscript (config : Config) (t : Shell.Transcript) : Run :=
  ⟨t.exitCode, t.output, logText config.level t.log⟩

/-- What is left behind when a configuration cannot be used. -/
def ofConfigFault (r : Rendering) (f : ConfigFault) : Run :=
  ⟨2, "", r.printed ("Config error: " ++ f.text)⟩

/-- A run with the configuration that applies. A breakdown ends the program without an answer. -/
def withConfig (r : Rendering) (env : Environment) (path : Option String)
    (go : Config → Shell.Transcript) : Except Breakdown Run :=
  match Config.resolve env (path.map Path.ofText) with
  | .ok config => .ok (ofTranscript config (go config))
  | .error (.config f) => .ok (ofConfigFault r f)
  | .error (.breakdown b) => .error b

/-- The program. -/
def run (r : Rendering) (env : Environment) (args : List String) (input : String) :
    Except Breakdown Run :=
  match Invocation.ofArguments args with
  | .error .noArguments => .ok ⟨2, "usage", ""⟩
  | .error .misuse => .ok ⟨2, "", "usage"⟩
  | .ok .version => .ok ⟨0, "vecalc " ++ version ++ "\n", ""⟩
  | .ok .help => .ok ⟨0, "usage", ""⟩
  | .ok (.evaluate lines path) =>
    withConfig r env path fun config => Shell.batch r config.language .empty lines
  | .ok (.interact path) =>
    withConfig r env path fun config => Shell.interact r config (inputLines input)

end CommandLine

end PlaneCalc
