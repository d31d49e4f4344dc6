import JavaLex.Source.Unit

/-! # Reading source units

Source units are read from a directory of plain files and empty directories, by paths with the
usual meaning of `.` and `..`. Outside of it nothing is known but that there are directories above,
so a path that leaves it, as an absolute one does, reaches no file.
-/

namespace JavaLex

inductive FileError where
  | notFound
  | isDirectory
  /-- The path goes on after a plain file. -/
  | notDirectory
  | nameTooLong
  /-- The path holds the character U+0000, which ends a name. -/
  | holdsNul
  | notUtf8
deriving DecidableEq, Repr, Inhabited

def FileError.message : FileError → String
  | notFound => "No such file or directory (os error 2)"
  | notDirectory => "Not a directory (os error 20)"
  | isDirectory => "Is a directory (os error 21)"
  | nameTooLong => "File name too long (os error 36)"
  | holdsNul => "file name contained an unexpected NUL byte"
  | notUtf8 => "stream did not contain valid UTF-8"

structure LoadError where
  path : String
  cause : FileError
deriving DecidableEq, Repr, Inhabited

def LoadError.message (error : LoadError) : String :=
  "cannot read '" ++ error.path ++ "': " ++ error.cause.message

inductive Entry where
  | file (content : ByteArray)
  | directory

/-- The entries of a directory by name; of two with one name the later one counts. -/
structure Directory where
  entries : List (String × Entry)

namespace Directory

def empty : Directory := ⟨[]⟩

def entry? (directory : Directory) (name : String) : Option Entry :=
  (directory.entries.reverse.find? (·.1 == name)).map (·.2)

/-- Where a path has led so far. -/
inductive Place where
  /-- A directory outside the one described. -/
  | outside
  /-- The directory described. -/
  | here
  /-- One of its directories, which are empty. -/
  | inside
  /-- A plain file. -/
  | file (content : ByteArray)

/-- The directory above a place; the topmost one is above itself. -/
def Place.parent : Place → Place
  | inside => here
  | _ => outside

def maxNameSize : Nat := 255

def maxPathSize : Nat := 4095

def enter (directory : Directory) (place : Place) (name : String) : Except FileError Place :=
  match place with
  | .file _ => .error .notDirectory
  | place =>
      if name == "" || name == "." then
        .ok place
      else if name == ".." then
        .ok place.parent
      else if maxNameSize < name.utf8ByteSize then
        .error .nameTooLong
      else
        match place with
        | .here =>
            match directory.entry? name with
            | some (.file content) => .ok (.file content)
            | some .directory => .ok .inside
            | none => .error .notFound
        | _ => .error .notFound

def startOf (path : String) : Place :=
  if path.toList.head? == some '/' then .outside else .here

def names (path : String) : List String :=
  (path.toList.splitOn '/').map String.ofList

def bytes (directory : Directory) (path : String) : Except FileError ByteArray :=
  if path.toList.contains '\x00' then
    .error .holdsNul
  else if path == "" then
    .error .notFound
  else if maxPathSize < path.utf8ByteSize then
    .error .nameTooLong
  else
    match (names path).foldlM directory.enter (startOf path) with
    | .ok (.file content) => .ok content
    | .ok _ => .error .isDirectory
    | .error cause => .error cause

def decode (content : ByteArray) : Except FileError String :=
  match String.fromUTF8? content with
  | some text => .ok text
  | none => .error .notUtf8

def load (directory : Directory) (path : String) : Except LoadError SourceUnit :=
  match directory.bytes path >>= decode with
  | .ok text => .ok ⟨path, text⟩
  | .error cause => .error ⟨path, cause⟩

end Directory

end JavaLex
