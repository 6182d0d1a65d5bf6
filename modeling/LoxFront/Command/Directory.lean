import LoxFront.Text.Bytes

/-! # Reading scripts

A script is read whole, as bytes, by its path.  Reading can fail because the path is too long, or
leads nowhere, or to something that has no content, or because the content is not text.  A
directory held in memory, with its files and folders, answers paths the way a disk does: component
by component from the directory itself, where a file has no components below it.
-/

namespace LoxFront.Command

inductive ReadError where
  | noSuchFile
  | notDirectory
  | isDirectory
  | nameTooLong
  | notText
  | other (message : String)
deriving DecidableEq, Repr

def ReadError.message : ReadError → String
  | noSuchFile => "No such file or directory (os error 2)"
  | notDirectory => "Not a directory (os error 20)"
  | isDirectory => "Is a directory (os error 21)"
  | nameTooLong => "File name too long (os error 36)"
  | notText => "stream did not contain valid UTF-8"
  | other message => message

def decode? (bytes : List UInt8) : Option String :=
  String.fromUTF8? bytes.toByteArray

def readText (read : String → Except ReadError (List UInt8)) (path : String) :
    Except ReadError String := do
  let bytes ← read path
  match decode? bytes with
  | none => .error .notText
  | some text => .ok text

/-! ## A directory in memory -/

/-- The names that lead from one place to another. -/
abbrev Names : Type :=
  List (List Char)

/-- A directory in memory: files with their content, and folders, each by the names that lead to
    it.  It stands in a file system of which only the devices are known; one of them is the input
    of the process. -/
structure Directory where
  files : List (Names × List UInt8)
  folders : List Names
  input : List UInt8
deriving Repr

namespace Directory

def longestName : Nat :=
  255

def longestPath : Nat :=
  4095

/-- Where a path leads: a folder in the directory, a file, a folder counted from the root of the
    file system, or above the directory, where nothing is known but that there are folders. -/
inductive Spot where
  | folder (names : Names)
  | file (content : List UInt8)
  | system (names : Names)
  | above
deriving Repr

def empty : Directory :=
  ⟨[], [], []⟩

/-- The names that a path inside the directory leads along, when every step of it exists. -/
def namesOf (path : String) : Names :=
  (path.toList.splitOn '/').foldl
    (fun names component =>
      if component = [] ∨ component = ['.'] then names
      else if component = ['.', '.'] then names.dropLast
      else names ++ [component])
    []

def withFile (d : Directory) (path : String) (content : List UInt8) : Directory :=
  { d with files := (namesOf path, content) :: d.files }

def withFolder (d : Directory) (path : String) : Directory :=
  { d with folders := namesOf path :: d.folders }

def withInput (d : Directory) (input : List UInt8) : Directory :=
  { d with input := input }

/-- What stands at the end of names that lead down from the directory; the folders on the way to a
    file exist with it. -/
def lookup (d : Directory) (names : Names) : Except ReadError Spot :=
  match d.files.find? (·.1 == names) with
  | some (_, content) => .ok (.file content)
  | none =>
      if d.folders.contains names || d.files.any (names.isPrefixOf ·.1) then .ok (.folder names)
      else .error .noSuchFile

def systemFolders : List String :=
  ["bin", "boot", "dev", "etc", "home", "lib", "media", "mnt", "opt", "proc", "root", "run", "sbin",
   "srv", "sys", "tmp", "usr", "var"]

def lookupSystem (d : Directory) (names : Names) : Except ReadError Spot :=
  match names.map String.ofList with
  | ["dev", "null"] => .ok (.file [])
  | ["dev", "stdin"] => .ok (.file d.input)
  | [name] => if systemFolders.contains name then .ok (.system names) else .error .noSuchFile
  | _ => .error .noSuchFile

def enter (d : Directory) (spot : Spot) (name : List Char) : Except ReadError Spot :=
  if longestName < Text.byteLength name then .error .nameTooLong
  else
    match spot with
    | .folder names => d.lookup (names ++ [name])
    | .file _ => .error .notDirectory
    | .system names => d.lookupSystem (names ++ [name])
    | .above => .error .noSuchFile

/-- The folder that a folder is in; the root of the file system is in itself. -/
def parent : Spot → Spot
  | .folder [] => .above
  | .folder names => .folder names.dropLast
  | .file content => .file content
  | .system names => .system names.dropLast
  | .above => .above

/-- Follow one component of a path.  An empty component or a dot stays in a folder, two dots leave
    it, and below a file there is nothing. -/
def follow (d : Directory) (spot : Spot) (component : List Char) : Except ReadError Spot :=
  match spot with
  | .file _ => .error .notDirectory
  | _ =>
      if component = [] ∨ component = ['.'] then .ok spot
      else if component = ['.', '.'] then .ok (parent spot)
      else d.enter spot component

/-- Read the file that a path leads to.  A path that begins with a slash starts at the root of the
    file system. -/
def read (d : Directory) (path : String) : Except ReadError (List UInt8) := do
  let start : Spot := if path.toList.head? = some '/' then .system [] else .folder []
  if longestPath < path.utf8ByteSize then .error .nameTooLong
  else if path.isEmpty then .error .noSuchFile
  else
    match ← (path.toList.splitOn '/').foldlM d.follow start with
    | .file content => .ok content
    | _ => .error .isDirectory

end Directory

end LoxFront.Command
