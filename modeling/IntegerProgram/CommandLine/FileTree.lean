import IntegerProgram.CommandLine.Path
import IntegerProgram.Fault

/-!
# Trees of files

The files and directories that paths lead to, and the operations on them that a run needs. A place
is a list of names below the working directory, or below the root if its first name is a slash. It
starts with two dots for every directory that it lies further up. A path is followed name by name,
and every name but the last has to lead to a directory.

## Main definitions

* `FileTree`: places with what is there.
* `FileTree.read`, `FileTree.write`: the bytes of a file.
* `FileTree.makeDirectories`: a directory with those above it.
-/
namespace IntegerProgram

/-- What is at a place. -/
inductive FileTree.Entry where
  | file (bytes : ByteArray)
  | directory
  deriving Inhabited

/-- Texts of places and what is at each. -/
structure FileTree where
  entries : List (String × FileTree.Entry) := []
  deriving Inhabited

namespace FileTree

/-- The text of a place. -/
def placeText (place : List String) : String := "/".intercalate place

/-- Whether a place is the working directory or one of those above it. -/
def isAbove (place : List String) : Bool := place.all (· = "..")

/-- What is at a place. The root, the working directory and those above it are always there. -/
def entryAt? (t : FileTree) (place : List String) : Option Entry :=
  if isAbove place || place = ["/"] then some .directory
  else
    let text := placeText place
    (t.entries.find? fun e => e.1 = text).map (·.2)

/-- The tree with something put at a place. -/
def put (t : FileTree) (place : List String) (entry : Entry) : FileTree :=
  let text := placeText place
  ⟨(text, entry) :: t.entries.filter fun e => e.1 ≠ text⟩

/-- The place that two dots lead to. The root lies above itself. -/
def above (place : List String) : List String :=
  if isAbove place then place ++ [".."] else if place = ["/"] then place else place.dropLast

/-- The most bytes that a name may have. -/
def maxNameSize : Nat := 255

/-- The most bytes that the text of a path may have. -/
def maxPathSize : Nat := 4095

/-- The most directories that are made at once. -/
def maxLevels : Nat := 975

/-- Checks that the text of a path may be one. -/
def requirePath (p : Path) : Except FileProblem Unit := do
  if (Text.bytes? p.text).isNone then throw .unwritableName
  if p.names.any fun name => name.contains '\x00' then throw .invalidName
  if maxPathSize < Text.size p.text then throw .nameTooLong

/-- The place that names lead to from another place. -/
def walk (t : FileTree) (place : List String) : List String → Except FileProblem (List String)
  | [] => pure place
  | name :: rest =>
    match t.entryAt? place with
    | none => throw .missing
    | some (.file _) => throw .notDirectory
    | some .directory =>
      if name = ".." then t.walk (above place) rest
      else if maxNameSize < Text.size name then throw .nameTooLong
      else t.walk (place ++ [name]) rest

/-- The place that a path starts from. -/
def startOf (p : Path) : List String := if p.root.isEmpty then [] else ["/"]

/-- The place that a path leads to. -/
def placeOf (t : FileTree) (p : Path) : Except FileProblem (List String) := do
  requirePath p
  t.walk (startOf p) p.names

/-- The bytes of a file. -/
def read (t : FileTree) (p : Path) : Except FileProblem ByteArray := do
  match t.entryAt? (← t.placeOf p) with
  | some (.file bytes) => return bytes
  | some .directory => throw .isDirectory
  | none => throw .missing

/-- The tree with a file written or replaced. -/
def write (t : FileTree) (p : Path) (bytes : ByteArray) : Except FileProblem FileTree := do
  let place ← t.placeOf p
  match t.entryAt? place with
  | some .directory => throw .isDirectory
  | _ => return t.put place (.file bytes)

/-- The tree with directories made for the names below a place that lead to nothing. A file in the
way is told apart by whether a directory has been made before it. -/
def makeBelow (t : FileTree) (place : List String) (made : Bool) :
    List String → Except FileProblem FileTree
  | [] => pure t
  | name :: rest =>
    if name = ".." then t.makeBelow (above place) made rest
    else if maxNameSize < Text.size name then throw .nameTooLong
    else
      let place := place ++ [name]
      match t.entryAt? place with
      | some .directory => t.makeBelow place made rest
      | some (.file _) => throw (if made || rest.isEmpty then .occupied else .notDirectory)
      | none =>
        if !made && maxLevels < rest.length + 1 then throw .tooManyLevels
        else (t.put place .directory).makeBelow place true rest

/-- The tree with a directory and all above it. -/
def makeDirectories (t : FileTree) (p : Path) : Except FileProblem FileTree := do
  requirePath p
  t.makeBelow (startOf p) false p.names

/-- The tree with a file and the directories above it, whatever was there before. -/
def plant (t : FileTree) (p : Path) (bytes : ByteArray) : FileTree :=
  let above := (List.range p.names.length).drop 1 |>.map fun n => p.names.take n
  (above.foldl (fun t place => t.put place .directory) t).put p.names (.file bytes)

end FileTree

end IntegerProgram
