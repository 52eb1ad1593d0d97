import SchemaStruct.Text.Blank

/-!
# Paths

A path is a root, if there is one, and the names on the way. Empty names and single points do not
count; double points do, and are kept. The written form of a path without names is a point.
-/

namespace SchemaStruct

/-- A path. -/
structure Path where
  /-- The root: empty for a path that starts at the working directory. -/
  root : String
  /-- The names on the way. -/
  parts : List String
  deriving DecidableEq, Repr, Inhabited

namespace Path

/-- The path that a text denotes. Two slashes in front are a root of their own, three are one. -/
def ofString (s : String) : Path :=
  let cs := s.toList
  let root := match cs with
    | '/' :: '/' :: '/' :: _ => "/"
    | '/' :: '/' :: _ => "//"
    | '/' :: _ => "/"
    | _ => ""
  let parts := (Text.splitOn '/' cs).filter fun p => p != [] && p != ['.']
  ⟨root, parts.map String.ofList⟩

/-- The written form of a path. -/
def toString (p : Path) : String :=
  if p.root.isEmpty && p.parts.isEmpty then "." else p.root ++ String.intercalate "/" p.parts

/-- The last name, or the empty text if there is none. -/
def name (p : Path) : String := p.parts.getLast?.getD ""

/-- The characters in front of the last point and those from it on, unless one of them would be
nothing but the point. -/
def splitSuffix (cs : List Char) : List Char × List Char :=
  let after := (cs.reverse.takeWhile (· != '.')).reverse
  let before := (cs.reverse.dropWhile (· != '.')).drop 1 |>.reverse
  if before.isEmpty || after.isEmpty then (cs, []) else (before, '.' :: after)

/-- The last name without its suffix. -/
def stem (p : Path) : String := String.ofList (splitSuffix p.name.toList).1

/-- The suffix of the last name, beginning with a point, or the empty text. -/
def suffix (p : Path) : String := String.ofList (splitSuffix p.name.toList).2

end Path

end SchemaStruct
