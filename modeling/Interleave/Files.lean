/-!
# Files

What a program can see of a file system.

* `Entry`: what stands at a path.
* `Files`: a look-up of paths.
* `Entry.text`: the text of a file, or the reason why it has none.
-/

namespace Interleave

inductive Entry where
  | file (bytes : ByteArray)
  | folder
  /-- Something that cannot be read, with the operating system's text. -/
  | unreadable (cause : String)

/-- Nothing stands at a path without an entry. -/
abbrev Files := (path : String) → Option Entry

namespace Entry

def text : Entry → Except String String
  | .file bytes => match String.fromUTF8? bytes with
    | some text => .ok text
    | none => .error "stream did not contain valid UTF-8"
  | .folder => .error "Is a directory (os error 21)"
  | .unreadable cause => .error cause

end Entry

/-- The text of the file at a path. -/
def Files.read (files : Files) (path : String) : Except String String :=
  match files path with
  | some entry => entry.text
  | none => .error "No such file or directory (os error 2)"

/-- Where a walk along the steps of a path has come to. -/
inductive Place where
  | workingDirectory
  /-- Anywhere above the working directory. -/
  | above
  /-- A folder in the working directory, with nothing in it. -/
  | folder

/-- What the steps of a path lead to, beginning at a place. A file is the end of its path: not even
an empty step may follow it. Above the working directory there are only folders, whose names are not
known. -/
def Files.walk (entries : List (String × Entry)) : Place → List String → Option Entry
  | _, [] => some .folder
  | place, step :: steps =>
    if step = "" ∨ step = "." then walk entries place steps
    else match place with
      | .workingDirectory =>
        if step = ".." then walk entries .above steps
        else match entries.lookup step with
          | none => none
          | some .folder => walk entries .folder steps
          | some entry => if steps.isEmpty then some entry else none
      | .above => if step = ".." then walk entries .above steps else none
      | .folder => if step = ".." then walk entries .workingDirectory steps else none

/-- The files of a working directory, by relative paths. -/
def Files.ofDirectory (entries : List (String × Entry)) : Files := fun path =>
  if path = "" ∨ path.startsWith "/" then none
  else Files.walk entries .workingDirectory (path.splitOn "/")

end Interleave
