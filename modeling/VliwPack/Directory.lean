/-! # Files of a directory

A directory holds files and no directories. A path names a file by its parts; dots
and empty parts before the name stand for the directory itself. Two dots, and a slash
at the start, lead out of the directory, where there are no files. A file is read as
text, so its bytes must be UTF-8.
-/

namespace VliwPack

/-- Why a file is not read. -/
inductive ReadError where
  /-- There is no such file. -/
  | notFound
  /-- The path goes through a file. -/
  | notDirectory
  /-- The path names a directory. -/
  | isDirectory
  /-- The file is not text. -/
  | notText
  /-- The system gives another reason. -/
  | other (reason : String)
  deriving DecidableEq

/-- The report of a reading error. -/
def ReadError.message : ReadError → String
  | notFound => "No such file or directory (os error 2)"
  | notDirectory => "Not a directory (os error 20)"
  | isDirectory => "Is a directory (os error 21)"
  | notText => "stream did not contain valid UTF-8"
  | other reason => reason

/-- Gives the text of the file at a path. -/
abbrev FileReader : Type := String → Except ReadError String

/-- The text that bytes encode. -/
def textOfBytes (bytes : ByteArray) : Except ReadError String :=
  match String.fromUTF8? bytes with
  | some text => .ok text
  | none => .error .notText

/-- Files by name. -/
structure Directory where
  files : List (String × ByteArray)

namespace Directory

/-- Follows the parts of a path outside of the directory. -/
def followOutside : List String → Except ReadError String
  | [] => .error .isDirectory
  | part :: rest => if part ∈ ["", ".", ".."] then followOutside rest else .error .notFound

/-- Follows the parts of a path. -/
def follow (directory : Directory) : List String → Except ReadError String
  | [] => .error .isDirectory
  | part :: rest =>
      if part = "" || part = "." then
        directory.follow rest
      else if part = ".." then
        followOutside rest
      else
        match directory.files.lookup part with
        | none => .error .notFound
        | some bytes => if rest.isEmpty then textOfBytes bytes else .error .notDirectory

/-- The text of the file at a path. -/
def read (directory : Directory) : FileReader := fun path =>
  if path = "" then .error .notFound
  else if path.startsWith "/" then followOutside (path.splitOn "/")
  else directory.follow (path.splitOn "/")

end Directory

end VliwPack
