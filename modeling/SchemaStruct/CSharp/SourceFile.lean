import SchemaStruct.CSharp.Struct
import SchemaStruct.Template.Filter

/-!
# Source Files

A source file: a remark about its origin, the namespace, and in it the namespaces that are used and
the declarations, one level deep. A blank line stands between the two only if any namespaces are
used.
-/

namespace SchemaStruct.CSharp

/-- What a source file is made of. -/
structure SourceFile where
  /-- The namespace of the declarations. -/
  namespaceText : String
  /-- The namespaces that are used. -/
  usings : List Using
  /-- The lines of the declarations. -/
  body : List String
  /-- What a level of depth looks like. -/
  indentUnit : String
  deriving Repr, Inhabited

namespace SourceFile

/-- The name of the layout of source files. -/
def layoutName : String := "file.cs.j2"

/-- The lines above the namespace. -/
def header : String :=
  "// <auto-generated />\n//\n" ++
    "// Immutable value types generated by structgen from a JSON Schema document.\n\n"

/-- A line that puts a namespace to use. -/
def usingLine (unit : String) (u : Using) : String := "\n" ++ unit ++ "using " ++ u.name ++ ";"

/-- A line of the body, one level deep; a line without text becomes empty. -/
def indentLine (unit : String) (line : List Char) : List Char :=
  if Template.Filter.hasText line then unit.toList ++ line else []

/-- The declarations, one level deep. -/
def indentedBody (f : SourceFile) : String :=
  let lines := Text.splitOn '\n' (String.intercalate "\n" f.body).toList
  String.ofList (Text.joinWith ['\n'] (lines.map (indentLine f.indentUnit)))

/-- The text of a source file. -/
def text (f : SourceFile) : String :=
  header ++ "namespace " ++ f.namespaceText ++ "\n\x7b" ++
    String.join (f.usings.map (usingLine f.indentUnit)) ++
    (if f.usings.isEmpty then "" else "\n") ++ "\n" ++ f.indentedBody ++ "\n\x7d"

end SourceFile

end SchemaStruct.CSharp
