/-!
# Files

Variable files and settings are read by path. Whoever calls the library says what a path leads to,
so that everything above this file is a function of the files' contents.
-/

namespace HostsBlock

/-- Why no text could be read at a path. -/
inductive FileError where
  | notFound
  | isDirectory
  /-- A part of the path that should be a directory is a file. -/
  | notDirectory
  | nameTooLong
  /-- There is a file, but it may not be read. -/
  | denied
  /-- The path holds a character that no path can hold. -/
  | badPath
  /-- There is a file, but not of text in UTF-8. -/
  | notText
deriving DecidableEq

/-- The system's words for an error. -/
def FileError.message : FileError → String
  | .notFound => "No such file or directory (os error 2)"
  | .isDirectory => "Is a directory (os error 21)"
  | .notDirectory => "Not a directory (os error 20)"
  | .nameTooLong => "File name too long (os error 36)"
  | .denied => "Permission denied (os error 13)"
  | .badPath => "file name contained an unexpected NUL byte"
  | .notText => "stream did not contain valid UTF-8"

/-- What is read at each path. -/
abbrev Files := String → Except FileError String

namespace Files

/-- Whether there is anything at a path, be it a text or not. -/
def contains (files : Files) (path : String) : Bool :=
  match files path with
  | .ok _ | .error .isDirectory | .error .denied | .error .notText => true
  | .error _ => false

/-- The parts of a text between the places where a sign stands. -/
def partsAt (mark : Char) (s : String) : List String := (s.toList.splitOn mark).map String.ofList

/-- The name of the file that a path leads to. -/
def name? (path : String) : Option String :=
  match ((partsAt '/' path).filter fun part => part ≠ "" && part ≠ ".").getLast? with
  | some ".." => none
  | name => name

/-- What stands behind the last dot of a file's name; a dot at the very start does not count. -/
def extension? (path : String) : Option String :=
  (name? path).bind fun name =>
    match partsAt '.' name with
    | [_] | ["", _] => none
    | parts => parts.getLast?

end Files

end HostsBlock
