import PlaneCalc.Text.Quoted

/-!
# Files

Paths and a picture of a file system. A path is normalised when it is read: empty and single-dot parts
are dropped, double dots stay and are followed when the path is walked. Two slashes at the front are
kept apart from one; three or more count as one.
-/

namespace PlaneCalc

/-- Where a path starts from. -/
inductive PathRoot where
  | workingDirectory
  | slash
  | doubleSlash
deriving DecidableEq

/-- The text of a root. -/
def PathRoot.text : PathRoot → String
  | workingDirectory => ""
  | slash => "/"
  | doubleSlash => "//"

/-- A path by its parts. -/
structure Path where
  root : PathRoot
  parts : List String
deriving DecidableEq

namespace Path

/-- The root that a text spells by the slashes at its front. -/
def rootOf : List Char → PathRoot
  | '/' :: '/' :: '/' :: _ => .slash
  | '/' :: '/' :: _ => .doubleSlash
  | '/' :: _ => .slash
  | _ => .workingDirectory

/-- The path that a text spells. -/
def ofText (text : String) : Path :=
  let parts := (text.toList.splitOn '/').map String.ofList
  ⟨rootOf text.toList, parts.filter fun p => p ≠ "" ∧ p ≠ "."⟩

/-- The working directory. -/
def here : Path := ⟨.workingDirectory, []⟩

/-- The text of a path. -/
def text (p : Path) : String :=
  if p = here then "." else p.root.text ++ "/".intercalate p.parts

/-- The path of an entry of a directory. -/
def child (p : Path) (name : String) : Path := { p with parts := p.parts ++ [name] }

/-- Whether the system can be asked about a path: no name of a file holds the null character. -/
def isSpellable (p : Path) : Bool := p.parts.all fun name => !name.toList.contains '\x00'

end Path

/-- Why the system does not do what it is asked for: a number and its wording. -/
structure FileFault where
  code : Nat
  reason : String
  /-- Whether the fault tells the path; one that arises after a file was opened does not. -/
  tellsPath : Bool
deriving DecidableEq

namespace FileFault

/-- Nothing is there. -/
def missing : FileFault := ⟨2, "No such file or directory", true⟩

/-- The path leads through something that is no directory. -/
def notDirectory : FileFault := ⟨20, "Not a directory", true⟩

/-- A directory has no content. -/
def isDirectory : FileFault := ⟨21, "Is a directory", true⟩

/-- A name or the whole path is too long. -/
def nameTooLong : FileFault := ⟨36, "File name too long", true⟩

/-- Whether the fault means that nothing is there: there is no such entry, the path leads through
something that is no directory, its handle is bad, or its links go in a circle. -/
def meansAbsent (f : FileFault) : Bool := [2, 20, 9, 40].contains f.code

/-- A fault with its number. -/
def text (f : FileFault) : String := "[Errno " ++ toString f.code ++ "] " ++ f.reason

/-- A fault with its number and the path it is about, if it tells that. -/
def message (f : FileFault) (p : Path) : String :=
  f.text ++ if f.tellsPath then ": " ++ Text.Quoted.encode p.text else ""

end FileFault

/-- What kind of thing a path leads to. -/
inductive FileKind where
  /-- A regular file. -/
  | file
  | directory
  /-- Something else, such as a device. -/
  | other
deriving DecidableEq

/-- Something that a path can lead to. -/
inductive FileNode where
  | file (content : ByteArray)
  | directory
  | device (content : ByteArray)

namespace FileNode

/-- The kind of a node. -/
def kind : FileNode → FileKind
  | file _ => .file
  | directory => .directory
  | device _ => .other

/-- The content of a node. -/
def content : FileNode → Except FileFault ByteArray
  | file content | device content => .ok content
  | directory => .error .isDirectory

end FileNode

/-- A picture of a file system: some files and directories by their places below the root, and the
place of the working directory. -/
structure FileTree where
  workingDirectory : List String
  entries : List (List String × FileNode)

namespace FileTree

/-- What is at a place. Whatever contains an entry is a directory. -/
def node? (t : FileTree) (place : List String) : Option FileNode :=
  match t.entries.find? fun e => e.1 = place with
  | some e => some e.2
  | none =>
    if place.isPrefixOf t.workingDirectory || t.entries.any fun e => place.isPrefixOf e.1 then
      some .directory
    else none

/-- The greatest size of a name in bytes. -/
def nameLimit : Nat := 255

/-- The greatest size of a path in bytes. -/
def pathLimit : Nat := 4095

/-- What the parts of a path lead to from a directory. -/
def walk (t : FileTree) (place : List String) : List String → Except FileFault FileNode
  | [] => .ok .directory
  | ".." :: rest => t.walk place.dropLast rest
  | name :: rest =>
    if nameLimit < name.utf8ByteSize then .error .nameTooLong
    else
      match t.node? (place ++ [name]) with
      | none => .error .missing
      | some .directory => t.walk (place ++ [name]) rest
      | some node => if rest.isEmpty then .ok node else .error .notDirectory

/-- The place that a path starts from. -/
def start (t : FileTree) : PathRoot → List String
  | .workingDirectory => t.workingDirectory
  | _ => []

/-- What is at a path. -/
def locate (t : FileTree) (p : Path) : Except FileFault FileNode :=
  if pathLimit < p.text.utf8ByteSize then .error .nameTooLong
  else t.walk (t.start p.root) p.parts

/-- The kind of what is at a path. -/
def kindOf (t : FileTree) (p : Path) : Except FileFault FileKind := (t.locate p).map FileNode.kind

/-- The content of what is at a path. -/
def read (t : FileTree) (p : Path) : Except FileFault ByteArray := do
  let node ← t.locate p
  node.content

end FileTree

end PlaneCalc
