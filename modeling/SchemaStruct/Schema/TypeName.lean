import SchemaStruct.Json.Entries
import SchemaStruct.Naming.Fresh
import SchemaStruct.Text.Alphanumeric
import SchemaStruct.Text.Blank
import SchemaStruct.Text.Case

/-!
# Type Names from Free Text

A record is named after free text: a title, a property, the end of a reference. Letters and numbers
of any script make up words, everything else separates them, and every word begins with a capital.
A text without words gives the name `Type`.
-/

namespace SchemaStruct.TypeName

/-- The words between the separators, a separator being a blank. -/
def words (cs : List Char) : List (List Char) :=
  ((cs.map fun c => if Text.isBlank c then ' ' else c) |> Text.splitOn ' ').filter (!·.isEmpty)

/-- A word with its first character in upper case. -/
def capitalized : List Char → List Char
  | [] => []
  | c :: rest => Text.upperChar c ++ rest

/-- The name made of some words. -/
def ofWords (ws : List (List Char)) : String :=
  match ws.flatMap capitalized with
  | [] => "Type"
  | cs => String.ofList cs

/-- A piece of the free text: itself if it consists of letters and numbers, and else a blank. -/
def piece (cs : List Char) : List Char :=
  if cs.isEmpty || !cs.all Text.alphanumeric.contains then [' '] else cs

/-- The name made of a text. -/
def ofText (s : String) : String := ofWords (words (s.toList.flatMap fun c => piece [c]))

/-- The name made of a value that stands where a text belongs: what one meets when walking through
it has to be texts. -/
def ofValue : Json → Except Fault String
  | .str s => .ok (ofText s)
  | v => do
    let parts ← (← v.walk).mapM fun part =>
      match part with
      | .str s => Except.ok (piece s.toList)
      | other => .error (.misfit (.lacks other.kindName "isalnum"))
    return ofWords (words parts.flatten)

/-- The name of an entry, made into a type name. -/
def ofEntry : EntryName → Except Fault String
  | .text s => .ok (ofText s)
  | .other v => ofValue v

/-- A name that differs from all taken ones: the name itself, or the first free one among the name
with 2, 3, ... behind it. -/
def unique (taken : List String) (base : String) : String :=
  if taken.contains base then fresh taken (fun n => base ++ toString n) 2 else base

end SchemaStruct.TypeName
