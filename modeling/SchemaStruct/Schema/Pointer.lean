import SchemaStruct.Fault
import SchemaStruct.Text.Blank

/-!
# References

A reference points into its own document: `#` is the document, and `#/a/b` the member `b` of its
member `a`, where `~1` stands for a slash in a name and `~0` for a tilde. `Pointer.resolve` follows
a reference and insists on meeting a schema at its end.
-/

namespace SchemaStruct.Pointer

/-- The text with every pair of a tilde and the digit `d` replaced by `c`, from left to right. -/
def replaceTilde (d c : Char) : List Char → List Char
  | '~' :: x :: rest =>
    if x = d then c :: replaceTilde d c rest else '~' :: replaceTilde d c (x :: rest)
  | x :: rest => x :: replaceTilde d c rest
  | [] => []

/-- The name that a part of a reference stands for. -/
def unescape (part : List Char) : List Char := replaceTilde '0' '~' (replaceTilde '1' '/' part)

/-- The names on the way of a reference that begins with `#/`. -/
def steps (ref : String) : List String :=
  (Text.splitOn '/' (ref.toList.drop 2)).map fun part => String.ofList (unescape part)

/-- The value at the end of a way of names. -/
def follow : List String → Json → Option Json
  | [], v => some v
  | name :: names, v => do follow names (← v.get? name)

/-- The schema that a reference points to. -/
def resolve (document : Json) (ref : String) : Except Fault Json :=
  if ref = "#" then .ok document
  else if !("#/".toList.isPrefixOf ref.toList) then .error (.schema (.foreignReference ref))
  else match follow (steps ref) document with
    | none => .error (.schema (.unresolvedReference ref))
    | some (.obj members) => .ok (.obj members)
    | some _ => .error (.schema (.notASchema ref))

/-- The schema that a reference points to, whatever value stands for the reference. -/
def resolveValue (document : Json) : Json → Except Fault Json
  | .str ref => resolve document ref
  | v => .error (.misfit (.lacks v.kindName "startswith"))

/-- The name that a reference ends in, slashes at its end not counted. -/
def lastStep (ref : String) : String :=
  let parts := Text.splitOn '/' (Text.trimEndWhile (· == '/') ref.toList)
  String.ofList (parts.getLast?.getD [])

end SchemaStruct.Pointer
