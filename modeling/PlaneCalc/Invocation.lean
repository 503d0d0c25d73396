/-!
# Invocations

What the arguments of the command line ask for. Options that belong to the program as a whole come
before the command; those of a command may stand anywhere among its arguments. An argument that
begins with a dash and is longer is an option, up to a double dash that stands alone.

Reference: `vecalc.cli`.
-/

namespace PlaneCalc

/-- What the program is asked to do. -/
inductive Invocation where
  | version
  | help
  | evaluate (lines : List String) (config : Option String)
  | interact (config : Option String)
deriving DecidableEq

/-- Arguments that ask for nothing the program can do. -/
inductive UsageFault where
  | noArguments
  | misuse
deriving DecidableEq

namespace Invocation

/-- Whether an argument is an option. -/
def isOption (arg : String) : Bool :=
  match arg.toList with
  | '-' :: _ :: _ => true
  | _ => false

/-! ## Options of the program -/

/-- The options of the program that one argument gives: a long one, or a cluster of letters. -/
def programOptions (arg : String) : Except UsageFault (List Invocation) :=
  if arg = "--version" then .ok [.version]
  else if arg = "--help" then .ok [.help]
  else
    match arg.toList with
    | '-' :: letters =>
      if letters.all (· = 'v') then .ok (letters.map fun _ => .version) else .error .misuse
    | _ => .error .misuse

/-- The options before the command, and the command with its arguments. -/
def splitProgramOptions : List String → Except UsageFault (List Invocation × List String)
  | [] => .ok ([], [])
  | "--" :: rest => .ok ([], rest)
  | arg :: rest =>
    if isOption arg then do
      let asked ← programOptions arg
      let (more, command) ← splitProgramOptions rest
      return (asked ++ more, command)
    else .ok ([], arg :: rest)

/-! ## Options of a command -/

/-- The arguments of a command. -/
structure Arguments where
  positional : List String
  config : Option String
  help : Bool

/-- What an option of a command asks for. -/
inductive CommandOption where
  | help
  /-- The configuration file, unless the next argument names it. -/
  | config (path : Option String)

/-- The option of a command that one argument gives. -/
def commandOption (arg : String) : Except UsageFault CommandOption :=
  match arg.toList with
  | '-' :: '-' :: word =>
    let name := String.ofList (word.takeWhile (· ≠ '='))
    match name, word.dropWhile (· ≠ '=') with
    | "help", [] => .ok .help
    | "config", [] => .ok (.config none)
    | "config", _ :: value => .ok (.config (some (String.ofList value)))
    | _, _ => .error .misuse
  | ['-', 'c'] => .ok (.config none)
  | '-' :: 'c' :: value => .ok (.config (some (String.ofList value)))
  | _ => .error .misuse

/-- The arguments of a command, sorted out; a later configuration file wins over an earlier one. -/
def arguments : List String → Except UsageFault Arguments
  | [] => .ok ⟨[], none, false⟩
  | "--" :: rest => .ok ⟨rest, none, false⟩
  | arg :: rest =>
    if isOption arg then
      match commandOption arg with
      | .error f => .error f
      | .ok .help => do
        let more ← arguments rest
        return { more with help := true }
      | .ok (.config (some path)) => do
        let more ← arguments rest
        return { more with config := more.config.or (some path) }
      | .ok (.config none) =>
        match rest with
        | [] => .error .misuse
        | path :: rest => do
          let more ← arguments rest
          return { more with config := more.config.or (some path) }
    else do
      let more ← arguments rest
      return { more with positional := arg :: more.positional }

/-- What arguments without a known command ask for: a double dash may have hidden options of the
program, which count nevertheless. -/
def ofUnknown (args : List String) : Except UsageFault Invocation := do
  let (asked, _) ← splitProgramOptions args
  match asked with
  | first :: _ => return first
  | [] => throw .misuse

/-- What a command and its arguments ask for. -/
def ofCommand : List String → Except UsageFault Invocation
  | "eval" :: args => do
    let a ← arguments args
    if a.help then return .help
    else if a.positional.isEmpty then throw .misuse
    else return .evaluate a.positional a.config
  | "repl" :: args => do
    let a ← arguments args
    if a.help then return .help
    else if a.positional.isEmpty then return .interact a.config
    else throw .misuse
  | args => ofUnknown args

/-- What arguments ask for; the first option of the program wins over any command. -/
def ofArguments (args : List String) : Except UsageFault Invocation :=
  if args.isEmpty then .error .noArguments
  else do
    let (asked, command) ← splitProgramOptions args
    match asked with
    | first :: _ => return first
    | [] => ofCommand command

end Invocation

end PlaneCalc
