import SchemaStruct.CSharp.Generator
import SchemaStruct.Generator.Registry
import SchemaStruct.Schema.Convert
import SchemaStruct.Web.Load

/-!
# From Documents to Code

The whole way: a generator is created for a language, the document is turned into a graph with the
generator's visibility and base type, and code is generated for the graph. `standardRegistry` holds
the one language that comes with the library.
-/

namespace SchemaStruct

/-- The generators of C# as a kind. -/
def csharpKind : GeneratorKind := { name := "CSharpGenerator", create := CSharp.generator }

/-- The registry with the languages that come with the library. -/
def standardRegistry : Registry GeneratorKind :=
  { languages := [("csharp", csharpKind)], aliases := [("cs", "csharp"), ("c#", "csharp")] }

/-- The title of a document, if it is a text with more than blanks. -/
def usableTitle? (document : Json) : Option String := do
  let s ← (← document.get? "title").text?
  if s.toList.all Text.isBlank then none else some s

/-- The name for the record that a document describes: the wanted one, or else its title, or else
`Root`. -/
def topLevelName (document wanted : Json) : Json :=
  if wanted.truthy then wanted else .str ((usableTitle? document).getD "Root")

namespace Generator

/-- The graph of a document for a generator. -/
def graphOf (gen : Generator) (document wanted : Json) : Logged TypeGraph :=
  Document.toGraph ⟨document, gen.visibility, gen.baseType⟩ (topLevelName document wanted)

/-- Generates code for a document. -/
def runDocument (gen : Generator) (document wanted : Json) : Logged Outcome :=
  match gen.graphOf document wanted with
  | (.error f, log) => (.error f, log)
  | (.ok g, log) =>
    let (outcome, more) := gen.run g
    (.ok outcome, log ++ more)

end Generator

/-- Generates code for a document in a language, with a configuration given as a value. -/
def generate (files : FileTree) (document : Json) (language : String) (config wanted : Json) :
    Logged Outcome :=
  match standardRegistry.create files language (.value config) with
  | .error f => (.error f, [])
  | .ok (_, gen) => gen.runDocument document wanted

/-- The names of the arguments beside the options. -/
def argumentNames : List String := ["schema", "language", "top_level"]

/-- The code for a document, which may be given as a text; a fault on the way is the result. No
option may have the name of another argument. -/
def generateCode (schema : Json) (language : String) (wanted : Json)
    (options : List (String × Json)) : Except Fault String := do
  if let some (name, _) := options.find? (argumentNames.contains ·.1) then
    throw (.misfit (.repeatedSetting name))
  let document ← match schema with
    | .str s =>
      match Json.read s with
      | .ok v => pure v
      | .error e => throw (.misread e)
    | v => pure v
  match (generate {} document language (.obj options) wanted).1 with
  | .error f => throw f
  | .ok (.failure f) => throw (.generation f)
  | .ok (.success code _ _) => return code

end SchemaStruct
