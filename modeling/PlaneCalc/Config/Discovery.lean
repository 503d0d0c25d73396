import PlaneCalc.Config
import PlaneCalc.Text.Blank
import PlaneCalc.Toml.Document

/-!
# Finding and loading a configuration

A configuration file is named explicitly, or by the environment, or lies in the working directory
under its usual name; without one everything has its standard value. The file holds UTF-8 text with
any kind of line end. What goes wrong beside the settings and beside reading the file, such as a text
that is not UTF-8 or a working directory that is gone, is a breakdown and no fault of the configuration.

Reference: `vecalc.core.config`.
-/

namespace PlaneCalc

/-- What the calculator sees of its surroundings. -/
structure Environment where
  /-- The working directory, unless it is gone. -/
  workingDirectory : Except FileFault Path
  /-- The kind of what is at a path. -/
  kindOf : Path → Except FileFault FileKind
  /-- The content of what is at a path. -/
  readFile : Path → Except FileFault ByteArray
  /-- Where the configuration file is said to be. -/
  configPath : Option String
  /-- The log level that overrides the configured one. -/
  logLevel : Option String
  /-- What the host has room for. -/
  limits : Limits
  /-- What the reader of documents has to say about a text that is none. -/
  complaint : String → String

/-- The surroundings that a picture of a file system makes where nothing is overridden. -/
def Environment.ofFiles (files : FileTree) : Environment where
  workingDirectory := .ok ⟨.slash, files.workingDirectory⟩
  kindOf := files.kindOf
  readFile := files.read
  configPath := none
  logLevel := none
  limits := .usual
  complaint := fun _ => "not well-formed"

/-- A text with every line end written as one newline. -/
def plainLineEnds : List Char → List Char
  | '\r' :: '\n' :: rest => '\n' :: plainLineEnds rest
  | '\r' :: rest => '\n' :: plainLineEnds rest
  | c :: rest => c :: plainLineEnds rest
  | [] => []

namespace Config

/-- The usual name of a configuration file. -/
def fileName : String := "vecalc.toml"

/-- The configuration in the content of a file. -/
def ofContent (env : Environment) (path : Path) (content : ByteArray) : Except LoadFault Config :=
  match String.fromUTF8? content with
  | none => .error (.breakdown (.undecodable path))
  | some text =>
    match Toml.read env.limits (plainLineEnds text.toList) with
    | .error .malformed => .error (.config (.malformed path (env.complaint text)))
    | .error (.oversized digits) => .error (.breakdown (.oversized env.limits.digits digits))
    | .error .nestedTooDeeply => .error (.breakdown .nestedTooDeeply)
    | .ok data => ofTable env.limits env.logLevel data

/-- The configuration in a file. -/
def load (env : Environment) (path : Path) : Except LoadFault Config :=
  if path.isSpellable then
    match env.readFile path with
    | .error reason => .error (.config (.unreadable path reason))
    | .ok content => ofContent env path content
  else .error (.breakdown (.unspellable path))

/-- Whether there is a regular file at a path. A path that leads nowhere or to something else is none;
one that the system refuses to look up is neither. -/
def isFile (env : Environment) (path : Path) : Except LoadFault Bool :=
  if path.isSpellable then
    match env.kindOf path with
    | .ok kind => .ok (kind = .file)
    | .error reason =>
      if reason.meansAbsent then .ok false else .error (.breakdown (.inaccessible path reason))
  else .ok false

/-- The directory to look into: the given one, or the working directory. -/
def directoryOf (env : Environment) : Option Path → Except LoadFault Path
  | some start => .ok start
  | none =>
    match env.workingDirectory with
    | .ok directory => .ok directory
    | .error reason => .error (.breakdown (.adrift reason))

/-- The configuration file to use: the one that the environment names, or the one with the usual name
in a directory. -/
def find (env : Environment) (start : Option Path) : Except LoadFault (Option Path) :=
  let named := Text.trim (env.configPath.getD "")
  if named.isEmpty then do
    let directory ← directoryOf env start
    let found ← isFile env (directory.child fileName)
    return if found then some (directory.child fileName) else none
  else .ok (some (.ofText named))

/-- The configuration: from the given file, else from the one that is found, else the standard one. -/
def resolve (env : Environment) (path : Option Path) : Except LoadFault Config := do
  let file ← match path with
    | some p => pure (some p)
    | none => find env none
  match file with
  | some p => load env p
  | none => ofTable env.limits env.logLevel []

/-- Without a file the configuration is that of no settings. -/
theorem resolve_of_missing {env : Environment} {directory : Path} (hname : env.configPath = none)
    (hdirectory : env.workingDirectory = .ok directory)
    (hkind : env.kindOf (directory.child fileName) = .error .missing) :
    resolve env none = ofTable env.limits env.logLevel [] := by
  have hunnamed : (Text.trim "").isEmpty = true := by decide +kernel
  have habsent : FileFault.missing.meansAbsent = true := by decide
  have hfile : isFile env (directory.child fileName) = .ok false := by
    simp only [isFile, hkind, habsent, if_true, ite_self]
  have hfind : find env none = .ok none := by
    simp only [find, hname, Option.getD_none, hunnamed, if_true, directoryOf, hdirectory, bind,
      Except.bind, hfile]
    rfl
  simp only [resolve, hfind, bind, Except.bind]

end Config

end PlaneCalc
