import PlaneCalc.CommandLine

/-!
# The program

The outer layer: it fetches what the program may want to read, runs it, and writes what it leaves
behind. A dialogue is fed with portions of the input as they arrive, so that each answer appears before
the next line is asked for; by `Shell.converse_append` it is the same dialogue as with the whole input
at once.
-/

namespace PlaneCalc.Main

/-- The number and the wording of an error of the system; an error without a number gets none that the
system uses. -/
def fileFault (tellsPath : Bool) (e : IO.Error) : FileFault :=
  match e with
  | .otherError code reason | .resourceBusy code reason | .resourceVanished code reason
  | .unsupportedOperation code reason | .hardwareFault code reason
  | .unsatisfiedConstraints code reason | .illegalOperation code reason
  | .protocolError code reason | .timeExpired code reason => ⟨code.toNat, reason, tellsPath⟩
  | .interrupted _ code reason | .noFileOrDirectory _ code reason => ⟨code.toNat, reason, tellsPath⟩
  | .alreadyExists _ code reason | .invalidArgument _ code reason | .permissionDenied _ code reason
  | .resourceExhausted _ code reason | .inappropriateType _ code reason
  | .noSuchThing _ code reason => ⟨code.toNat, reason, tellsPath⟩
  | .unexpectedEof | .userError _ => ⟨0, toString e, tellsPath⟩

/-- An answer of the system, or why there is none. -/
def asked {α : Type} (tellsPath : Bool) (question : IO α) : IO (Except FileFault α) := do
  try
    return .ok (← question)
  catch e =>
    return .error (fileFault tellsPath e)

/-- The kind of what is at a path. -/
def kindAt (path : Path) : IO FileKind := do
  match (← (← IO.FS.realPath path.text).metadata).type with
  | .file => return .file
  | .dir => return .directory
  | _ => return .other

/-- The surroundings, as far as the configuration may depend on them. Of the usual file the kind is
asked first, and only a regular one is read. -/
def environment (path : Option String) : IO Environment := do
  let configPath ← IO.getEnv "VECALC_CONFIG"
  let logLevel ← IO.getEnv "VECALC_LOG_LEVEL"
  let directory ← asked false do return Path.ofText (← IO.currentDir).toString
  let usual := directory.toOption.toList.map fun d => d.child Config.fileName
  let kinds ← usual.mapM fun p => do return (p, ← asked true (kindAt p))
  let regular := kinds.filterMap fun (p, kind) => if kind.toOption = some .file then some p else none
  let named := [path, configPath.map Text.trim].filterMap fun p => p.map Path.ofText
  let contents ← (regular ++ named).mapM fun p => do
    return (p, ← asked true (IO.FS.readBinFile p.text))
  return {
    workingDirectory := directory
    kindOf := fun p => (kinds.lookup p).getD (.error .missing)
    readFile := fun p => (contents.lookup p).getD (.error .missing)
    configPath := configPath
    logLevel := logLevel
    limits := .usual
    complaint := fun _ => "not well-formed" }

/-- The lines of the next portion of the input, none at its end; a portion may hold line ends of other
kinds. -/
def nextLines : IO (List String) := do
  return CommandLine.inputLines (← (← IO.getStdin).getLine)

/-- A dialogue fed with the rest of the input, from the bindings on. -/
partial def feed (config : Config) (b : Bindings) : IO Unit := do
  (← IO.getStdout).flush
  let lines ← nextLines
  unless lines.isEmpty do
    let spoken := Shell.converse .terminal config b lines
    IO.eprint (CommandLine.logText config.level spoken.log)
    IO.print spoken.output
    if let some b' := spoken.next then feed config b'

/-- Write what a run leaves behind. -/
def finish (r : Run) : IO UInt32 := do
  IO.print r.output
  IO.eprint r.errors
  return r.exitCode.toUInt32

/-- A dialogue with the configuration that applies. -/
def interact (env : Environment) (path : Option String) : IO UInt32 := do
  match Config.resolve env (path.map Path.ofText) with
  | .ok config =>
    IO.print (Shell.opening .terminal config)
    feed config .empty
    return 0
  | .error (.config f) => finish (CommandLine.ofConfigFault .terminal f)
  | .error (.breakdown b) =>
    IO.eprintln b.text
    return 1

end PlaneCalc.Main

open PlaneCalc in
/-- The entry point. -/
def main (args : List String) : IO UInt32 := do
  match Invocation.ofArguments args with
  | .ok (.interact path) => Main.interact (← Main.environment path) path
  | invocation =>
    let path := match invocation with
      | .ok (.evaluate _ path) => path
      | _ => none
    match CommandLine.run .terminal (← Main.environment path) args "" with
    | .ok r => Main.finish r
    | .error b =>
      IO.eprintln b.text
      return 1
