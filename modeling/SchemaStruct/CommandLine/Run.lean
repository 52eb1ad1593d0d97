import SchemaStruct.CommandLine.Arguments
import SchemaStruct.CommandLine.Console
import SchemaStruct.CommandLine.Help
import SchemaStruct.CommandLine.Table
import SchemaStruct.Generate

/-!
# Runs of the Command Line

What a run of the program prints and how it ends. Code goes to the output line by line. Faults that
a user can cause by what the program is given become a message; others end the run as they are.

The output takes every text. It does not take a lone surrogate, at which printing ends in a fault
that nothing prepares for. Where a surrogate of the document would come to stand in the code is not
followed: a run ends in the fault as soon as it has loaded a document with one.
-/

namespace SchemaStruct.CommandLine

/-- How a run ends. -/
inductive Ending
  /-- With some lines of output. -/
  | output (lines : List String)
  /-- With an error message. -/
  | failed (message : String)
  /-- With a remark about the command line. -/
  | misused (e : UsageError)
  /-- With a fault that nothing prepares for. -/
  | broken (f : Fault)
  deriving Inhabited

/-- The language that the program generates. -/
def language : String := "csharp"

namespace Arguments

/-- A text that is given and not empty. -/
def given (s : Option String) : Option String := s.filter (!·.isEmpty)

/-- The settings that the arguments override. -/
def overrides (a : Arguments) : List (String × Json) :=
  let text (name : String) (s : Option String) : List (String × Json) :=
    ((given s).map fun s => (name, Json.str s)).toList
  let off (name : String) (b : Bool) : List (String × Json) :=
    if b then [(name, .bool false)] else []
  text "namespace" a.namespaceName ++ text "access_modifier" a.accessModifier ++
    text "array_type" a.arrayType ++ off "json_attributes" a.noJsonAttributes ++
    off "add_comments" a.noComments

/-- The name that the place of a document suggests: its last name without suffix. -/
def nameOfSource (source : String) : Except Fault String := do
  let url ← Url.parse source
  let path := if url.isWeb then url.path else source
  let name := Naming.identifier .pascal (Path.ofString path).stem
  return if name.isEmpty then "Root" else name

/-- The name for the record that a document describes: the wanted one, or else its title, or else
the one that its place suggests. -/
def topLevelName (a : Arguments) (document : Json) (source : String) : Except Fault String :=
  match given a.topLevel, usableTitle? document with
  | some name, _ => .ok name
  | none, some title => .ok title
  | none, none => nameOfSource source

/-- Generates code for the document at a place. -/
def generate (a : Arguments) (w : World) (source : String) : Except Fault Outcome := do
  -- the document comes first: if it cannot be loaded, a bad configuration does not show
  let loaded ← (w.load source).1
  if let some e := loaded.loss then throw (.misread e)
  let document := Json.obj loaded.members
  let config ← Configuration.load w.files language (.obj a.overrides)
    (a.configFile.elim .null .str)
  let (_, gen) ← standardRegistry.create w.files language (.given config)
  let name ← a.topLevelName document source
  (gen.runDocument document (.str name)).1

end Arguments

/-- Whether a fault is one that a user can cause by what the program is given. -/
def isExpected : Fault → Bool
  | .load _ | .schema _ | .config _ => true
  | f => Registry.isOwnFault f

/-- How a run ends that generates code for the document at a place. -/
def generateCode (a : Arguments) (w : World) (source : String) : Ending :=
  match a.generate w source with
  | .ok (.failure f) => .failed (Fault.generation f).message
  | .ok outcome => .output outcome.lines
  | .error f => if isExpected f then .failed f.message else .broken f

/-- The row of a language in the listing of languages. -/
def languageRow (name : String) (info : LanguageInfo) : List String :=
  let aliases := if info.aliases.isEmpty then "none" else String.intercalate ", " info.aliases
  [name, info.fileExtension, info.kind, aliases]

/-- The listing of languages. -/
def listLanguages : Ending :=
  match standardRegistry.allInfo with
  | .ok infos => .output (Table.lines {
      title := "Supported Languages"
      header := ["Language", "Extension", "Generator Class", "Aliases"]
      rows := infos.map fun (name, info) => languageRow name info })
  | .error f => .broken f

/-- How a run with given words ends. -/
def run (w : World) (words : List String) : Ending :=
  match Arguments.ofWords words with
  | .error .help => .output helpLines
  | .error (.refused e) => .misused e
  | .ok a =>
    if a.listLanguages then listLanguages
    else match Arguments.given a.schema with
      | none => .misused .missingSchema
      | some source => generateCode a w source

namespace Ending

/-- The number by which a run tells how it ended. -/
def exitCode : Ending → Nat
  | output _ => 0
  | failed _ => 1
  | misused _ => 2
  | broken _ => 1

/-- What a run prints on the output. -/
def printed : Ending → String
  | output lines => String.join (lines.map (· ++ "\n"))
  | _ => ""

/-- What a run prints on the console for errors. -/
def remark : Ending → String
  | output _ => ""
  | failed message => Console.errorText message
  | misused e => "structgen: error: " ++ e.message ++ "\n"
  | broken f => f.message ++ "\n"

end Ending

end SchemaStruct.CommandLine
