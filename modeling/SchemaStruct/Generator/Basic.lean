import SchemaStruct.Config.Check
import SchemaStruct.Log
import SchemaStruct.Schema.Graph
import SchemaStruct.Text.Blank

/-!
# Generators

What a generator of any language is, and what every generation of code goes through: the findings
about the graph are reported, the code is generated and tidied, and the outcome tells about both. A
fault on the way is an outcome too.
-/

namespace SchemaStruct

/-- A generator: what it is called, how it is configured, and what it does to a graph. -/
structure Generator where
  /-- The language that it generates. -/
  language : String
  /-- The suffix of files in that language. -/
  fileExtension : String
  /-- The configuration. -/
  configuration : Configuration
  /-- Who may see the records of its graphs. -/
  visibility : Visibility := .exported
  /-- The type that the records of its graphs extend, if any. -/
  baseType : Json := .null
  /-- The findings about a graph. -/
  findings : TypeGraph → Except Fault (List String)
  /-- The code for a graph. -/
  code : TypeGraph → Except Fault String

/-- What the generation of code tells about itself. -/
structure Metadata where
  /-- The language. -/
  language : String
  /-- The suffix of files in that language. -/
  fileExtension : String
  /-- The number of records. -/
  recordCount : Nat
  /-- The key of the record that the document itself describes. -/
  topLevel : Option String
  /-- The number of properties of all records. -/
  propertyCount : Nat
  deriving DecidableEq, Repr, Inhabited

/-- What comes of the generation of code. -/
inductive Outcome
  /-- Code, the findings about the graph, and what there is to tell. -/
  | success (code : String) (findings : List String) (metadata : Metadata)
  /-- A fault. -/
  | failure (cause : Fault)
  deriving Inhabited

namespace TypeGraph

/-- The finding about a property of a graph, if there is one: it says nothing about its value, or
refers to a record that the graph does not have. -/
def finding? (g : TypeGraph) (r : Record) (p : Property) : Option String :=
  match p.type.kind with
  | .any => some ("Untyped property " ++ r.key ++ "." ++ p.name)
  | .object =>
    if p.type.record.any g.contains then none
    else some ("Property " ++ r.key ++ "." ++ p.name ++ " references unknown record '" ++
      p.type.record.getD "None" ++ "'")
  | _ => none

/-- The findings about a graph, whatever the language. -/
def findings (g : TypeGraph) : List String :=
  g.records.flatMap fun r => r.properties.filterMap (g.finding? r)

end TypeGraph

namespace Tidy

/-- The lines without blank ones that follow a blank one; `blank` says whether one stands in
front. -/
def collapse (blank : Bool) : List (List Char) → List (List Char)
  | [] => []
  | line :: rest =>
    if line.isEmpty then if blank then collapse true rest else [] :: collapse true rest
    else line :: collapse false rest

/-- Code in tidy form: no blanks at the ends of lines, single blank lines only, none of them at
either end, and one line feed at the very end. -/
def code (s : String) : String :=
  -- lines end at line feeds here; other breaks stay inside their lines
  let lines := (Text.splitOn '\n' s.toList).map Text.trimEnd
  let joined := Text.joinWith ['\n'] (collapse false lines)
  String.ofList (Text.trimWhile (· == '\n') joined ++ ['\n'])

end Tidy

namespace Generator

/-- What a generator tells about code for a graph. -/
def metadata (gen : Generator) (g : TypeGraph) : Metadata :=
  { language := gen.language
    fileExtension := gen.fileExtension
    recordCount := g.size
    topLevel := g.topLevel
    propertyCount := g.propertyCount }

/-- Generates code for a graph. -/
def run (gen : Generator) (g : TypeGraph) : Outcome × List Notice :=
  match gen.findings g with
  | .error f => (.failure f, [.generationFailed f])
  | .ok findings =>
    -- findings are reported even if there is no code in the end
    let log := findings.map Notice.finding
    match gen.code g with
    | .error f => (.failure f, log ++ [.generationFailed f])
    | .ok code => (.success (Tidy.code code) findings (gen.metadata g), log)

end Generator

namespace Outcome

/-- The lines of the code. -/
def lines : Outcome → List String
  | success code _ _ => (Text.lines code.toList).map String.ofList
  | failure _ => []

end Outcome

end SchemaStruct
