/-!
# Source files

What comes of an attempt to read a source file: its text, or why there is none.
-/

namespace PocketMips

/-- Why a file could not be read as a text. -/
inductive ReadError where
  /-- There is no such file. -/
  | notFound
  /-- The path leads to a folder. -/
  | isFolder
  /-- The path goes on after a file. -/
  | notFolder
  /-- The path, or a name in it, is too long. -/
  | nameTooLong
  /-- The path has a character that no path can have. -/
  | badPath
  /-- The bytes of the file are not UTF-8. -/
  | notText
  /-- Anything else, in the words of the system. -/
  | other (why : String)
  deriving DecidableEq, Repr

/-- The wording of the error. -/
def ReadError.message : ReadError → String
  | .notFound => "No such file or directory (os error 2)"
  | .isFolder => "Is a directory (os error 21)"
  | .notFolder => "Not a directory (os error 20)"
  | .nameTooLong => "File name too long (os error 36)"
  | .badPath => "file name contained an unexpected NUL byte"
  | .notText => "stream did not contain valid UTF-8"
  | .other why => why

/-- What was read of a file. -/
abbrev SourceFile := Except ReadError (List Char)

/-- The text that the bytes of a file stand for. -/
def SourceFile.ofBytes (bytes : ByteArray) : SourceFile :=
  match String.fromUTF8? bytes with
  | some text => .ok text.toList
  | none => .error .notText

/-- The files that can be read, by their paths. -/
abbrev Disk := String → SourceFile

end PocketMips
