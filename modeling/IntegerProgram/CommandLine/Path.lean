/-!
# Paths

A path is a list of names below a root or below the working directory. Empty names and single dots
are dropped when it is read; two dots are kept, since what they lead to depends on the files.
-/
namespace IntegerProgram

/-- A path, absolute if it has a root. -/
structure Path where
  root : String
  names : List String
  deriving DecidableEq, Inhabited, Repr

namespace Path

/-- The root that a text starts with: one slash or, if there are exactly two, both. -/
def rootOf (s : String) : String :=
  match s.toList with
  | '/' :: '/' :: '/' :: _ => "/"
  | '/' :: '/' :: _ => "//"
  | '/' :: _ => "/"
  | _ => ""

/-- The path that a text writes. -/
def ofText (s : String) : Path :=
  ⟨rootOf s, (s.splitOn "/").filter fun name => name ≠ "" && name ≠ "."⟩

/-- The text of a path. -/
def text (p : Path) : String :=
  let body := p.root ++ "/".intercalate p.names
  if body.isEmpty then "." else body

/-- The path without its last name. -/
def parent (p : Path) : Path := { p with names := p.names.dropLast }

end Path

end IntegerProgram
