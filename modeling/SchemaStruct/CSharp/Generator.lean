import SchemaStruct.Config.Load
import SchemaStruct.CSharp.Audit
import SchemaStruct.CSharp.SourceFile

/-!
# The Generator of C#

Readonly structs for the records of a graph, as one source file.
-/

namespace SchemaStruct.CSharp

/-- The text of a graph as a source file. The layout of source files may be missing, which shows
only after the declarations are written. -/
def sourceText (c : Configuration) (options : Options) (hasLayout : Bool) (g : TypeGraph) :
    Except Fault String := do
  let typeStyle ← NamingStyle.read c.typeCase
  let fieldStyle ← NamingStyle.read c.fieldCase
  let names := assignNames g typeStyle fieldStyle
  let indentUnit ← c.indentUnit
  let r : Renderer := { names, options, comments := c.addComments.truthy, indentUnit }
  let (body, usings) ← (Printer.render (r.structs writableProperty) {}).1
  -- the layout is looked for last, so faults of the declarations come first
  unless hasLayout do throw (.noFileTemplate SourceFile.layoutName)
  return SourceFile.text { namespaceText := c.namespaceName.plain, usings, body, indentUnit }

/-- The generator with a configuration. -/
def generator (c : Configuration) (hasLayout : Bool := true) : Except Fault Generator := do
  let options ← Options.read (← c.language.toEntries)
  return {
    language := "csharp"
    fileExtension := ".cs"
    configuration := c
    visibility := options.visibility
    baseType := options.baseClass
    findings := findings options c
    code := sourceText c options hasLayout }

/-- The generator with some settings over the defaults. -/
def create (custom : Json) (hasLayout : Bool := true) : Except Fault Generator := do
  generator (← Configuration.load {} "csharp" custom .null) hasLayout

/-- The settings of models that stay inside their assembly, overridden by the caller's. -/
def internalOverrides (custom : List (String × Json)) : Json :=
  Json.ofMembers (Options.internalSettings ++ custom)

end SchemaStruct.CSharp
