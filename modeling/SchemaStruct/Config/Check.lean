import SchemaStruct.Config.Configuration
import SchemaStruct.Text.Blank
import SchemaStruct.Text.Case
import SchemaStruct.Text.Identifier

/-!
# Checked Configurations

What a configuration is warned about: naming styles beyond the usual three, a depth below one, and
for C# a namespace of which some part is no identifier.
-/

namespace SchemaStruct.Configuration

/-- The usual naming styles. -/
def usualStyles : List String := ["pascal", "camel", "snake"]

/-- The warning about a naming style, if it is not one of the usual ones. -/
def checkStyle (setting : String) (v : Json) : Except Fault (List String) := do
  v.requireHashable
  return if v.text?.any usualStyles.contains then [] else
    ["Invalid " ++ setting ++ ": " ++ v.plain]

/-- The warning about the size of a level of depth, if it is below one. -/
def checkIndent (v : Json) : Except Fault (List String) := do
  let tooSmall ← match v with
    | .int n => pure (decide (n < 1))
    | .bool b => pure (!b)
    | .float x => pure x.lessThanOne
    | v => throw (.misfit (.notComparable v.kindName))
  return if tooSmall then ["Invalid indent_size: " ++ v.plain] else []

/-- Whether a namespace consists of identifiers between points. -/
def isNamespace (s : String) : Bool := (Text.splitOn '.' s.toList).all Text.isIdentifier

/-- The warning about a namespace, if it is none. -/
def checkNamespace (v : Json) : Except Fault (List String) := do
  let valid ← match v with
    | .str s => pure (isNamespace s)
    | v => if v.truthy then throw (.misfit (.lacks v.kindName "split")) else pure false
  return if valid then [] else ["Invalid C# namespace: " ++ v.plain]

/-- The warnings about a configuration for a language. -/
def check (c : Configuration) (language : String) : Except Fault (List String) := do
  let types ← checkStyle "type_case" c.typeCase
  let fields ← checkStyle "field_case" c.fieldCase
  let indent ← checkIndent c.indentSize
  let space ← if Text.lowerCase language = "csharp" then checkNamespace c.namespaceName
    else pure []
  return types ++ fields ++ indent ++ space

end SchemaStruct.Configuration
