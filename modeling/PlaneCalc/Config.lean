import PlaneCalc.Files
import PlaneCalc.Language
import PlaneCalc.Setting
import PlaneCalc.Text.Capital

/-!
# Configuration

What can be chosen about the calculator: the assignment symbol, the shell's prompt and manners, and
how much is logged. `Config.ofTable` checks a table of settings in a fixed order and reports the first
setting that is wrong; keys that it does not know are ignored. A report shows the setting, and where that
cannot be done there is no report but a breakdown, like any other failure that is not about settings.

Reference: `vecalc.core.config`.
-/

namespace PlaneCalc

/-- How much is logged. -/
inductive LogLevel where
  | critical
  | debug
  | error
  | info
  | warning
deriving DecidableEq

namespace LogLevel

/-- The name of a level. -/
def name : LogLevel → String
  | critical => "CRITICAL"
  | debug => "DEBUG"
  | error => "ERROR"
  | info => "INFO"
  | warning => "WARNING"

/-- Every level, by name. -/
def all : List LogLevel := [critical, debug, error, info, warning]

/-- The level that a text names, in small or capital letters and with blanks around it or not. -/
def ofText? (text : String) : Option LogLevel :=
  all.find? fun l => l.name = Text.trim (Text.capitals text)

end LogLevel

/-- What can be wrong with a configuration. A setting that is wrong is named as messages show it. -/
inductive ConfigFault where
  /-- A section is not a table. -/
  | notTable (name : String)
  /-- The assignment symbol is not one character. -/
  | symbolNotSingle (given : String)
  /-- The assignment symbol has another meaning already. -/
  | symbolCollides (given : String)
  /-- The prompt is not a text. -/
  | promptNotText (given : String)
  /-- A switch is neither on nor off. -/
  | notSwitch (key : String) (given : String)
  /-- There is no such log level. -/
  | unknownLevel (given : String)
  /-- The file cannot be read. -/
  | unreadable (path : Path) (reason : FileFault)
  /-- The file is not well-formed. -/
  | malformed (path : Path) (detail : String)
deriving DecidableEq

namespace ConfigFault

/-- The wording of a configuration fault. -/
def text : ConfigFault → String
  | notTable name => "[" ++ name ++ "] must be a table"
  | symbolNotSingle given => "assignment_symbol must be a single character, got " ++ given
  | symbolCollides given => "assignment_symbol " ++ given ++ " collides with the grammar"
  | promptNotText given => "shell.prompt must be a string, got " ++ given
  | notSwitch key given => key ++ " must be true or false, got " ++ given
  | unknownLevel given =>
    "Unknown log level '" ++ given ++ "'. Valid values: " ++
      ", ".intercalate (LogLevel.all.map LogLevel.name)
  | unreadable path reason => "Cannot read config file " ++ path.text ++ ": " ++ reason.message path
  | malformed path detail => "Invalid TOML in " ++ path.text ++ ": " ++ detail

end ConfigFault

/-- Faults that are not about settings, and that no part of the calculator answers for. -/
inductive Breakdown where
  /-- A file is not UTF-8 text. -/
  | undecodable (path : Path)
  /-- A path holds the null character. -/
  | unspellable (path : Path)
  /-- There is no working directory. -/
  | adrift (reason : FileFault)
  /-- The system does not say whether a file exists. -/
  | inaccessible (path : Path) (reason : FileFault)
  /-- An integer in a file has too many digits. -/
  | oversized (limit digits : Nat)
  /-- The arrays and tables of a file are nested too deeply. -/
  | nestedTooDeeply
  /-- A setting that is wrong cannot be shown. -/
  | unshowable (reason : Unshowable)
deriving DecidableEq

/-- The wording of a breakdown. -/
def Breakdown.text : Breakdown → String
  | undecodable path => path.text ++ " is not UTF-8 text"
  | unspellable _ => "embedded null byte"
  | adrift reason => reason.text
  | inaccessible path reason => reason.message path
  | oversized limit digits =>
    "Exceeds the limit (" ++ toString limit ++ " digits) for integer string conversion: " ++
      "value has " ++ toString digits ++
      " digits; use sys.set_int_max_str_digits() to increase the limit"
  | nestedTooDeeply => "maximum recursion depth exceeded"
  | unshowable reason => reason.text

/-- Why there is no configuration. -/
inductive LoadFault where
  | config (fault : ConfigFault)
  | breakdown (b : Breakdown)
deriving DecidableEq

/-- A complete configuration. -/
structure Config where
  language : Language
  prompt : String
  banner : Bool
  quitOnEmptyLine : Bool
  level : LogLevel

namespace Config

/-- The fields of a section; a section that is left out has none. -/
def sectionOf (data : Table) (name : String) : Except LoadFault Table :=
  match data.lookup name with
  | none => .ok []
  | some (.table fields) => .ok fields
  | some _ => .error (.config (.notTable name))

/-- What becomes of a setting that is wrong: a fault that shows it, or a breakdown if it cannot be
shown. -/
def refuse {α : Type} (fault : String → ConfigFault) : Except Unshowable String → Except LoadFault α
  | .ok text => .error (.config (fault text))
  | .error reason => .error (.breakdown (.unshowable reason))

/-- The language with the chosen assignment symbol, or the standard one. -/
def languageOf (limits : Limits) : Option Setting → Except LoadFault Language
  | none => .ok .standard
  | some (.string s) =>
    match s.toList with
    | [c] =>
      match Language.ofSymbol? c with
      | some lang => .ok lang
      | none => refuse .symbolCollides ((Setting.string s).shown limits "assignment_symbol")
    | _ => refuse .symbolNotSingle ((Setting.string s).shown limits "assignment_symbol")
  | some given => refuse .symbolNotSingle (given.shown limits "assignment_symbol")

/-- The chosen prompt, or the standard one. -/
def promptOf (limits : Limits) : Option Setting → Except LoadFault String
  | none => .ok ">>> "
  | some (.string s) => .ok s
  | some given => refuse .promptNotText (given.shown limits "prompt")

/-- A switch, on unless it is turned off. -/
def switchOf (limits : Limits) (fields : Table) (key : String) : Except LoadFault Bool :=
  match fields.lookup key with
  | none => .ok true
  | some (.bool b) => .ok b
  | some given => refuse (.notSwitch key) (given.shown limits key)

/-- The text that names the log level: an override that is not empty wins over the setting, which has
to be written out as a text. -/
def levelText (limits : Limits) (override : Option String) (given : Option Setting) :
    Except Unshowable String :=
  match override.filter fun s => !s.isEmpty with
  | some s => .ok s
  | none =>
    match given with
    | none => .ok "WARNING"
    | some s => s.plain limits "level"

/-- The log level that a text names. -/
def levelOf (text : Except Unshowable String) : Except LoadFault LogLevel :=
  match text.toOption.bind LogLevel.ofText? with
  | some level => .ok level
  | none => refuse .unknownLevel text

/-- The configuration of a table of settings, with the log level overridden or not. -/
def ofTable (limits : Limits) (override : Option String) (data : Table) :
    Except LoadFault Config := do
  let language ← sectionOf data "language"
  let shell ← sectionOf data "shell"
  let logging ← sectionOf data "logging"
  let lang ← languageOf limits (language.lookup "assignment_symbol")
  let prompt ← promptOf limits (shell.lookup "prompt")
  let banner ← switchOf limits shell "banner"
  let quit ← switchOf limits shell "quit_on_empty_line"
  let level ← levelOf (levelText limits override (logging.lookup "level"))
  return ⟨lang, prompt, banner, quit, level⟩

/-- Where nothing is chosen, every setting has a standard value that passes its check. -/
theorem ofTable_nil (limits : Limits) :
    ofTable limits none [] = .ok ⟨.standard, ">>> ", true, true, .warning⟩ := by
  have hlevel : LogLevel.ofText? "WARNING" = some .warning := by decide +kernel
  simp [ofTable, sectionOf, languageOf, promptOf, switchOf, levelText, levelOf, hlevel,
    Except.toOption, bind, Except.bind, pure, Except.pure]

end Config

end PlaneCalc
