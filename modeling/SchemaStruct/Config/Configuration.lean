import SchemaStruct.Json.Entries
import SchemaStruct.Text.Blank

/-!
# Configurations

The settings of a generator. A configuration is read from values of any kind and keeps them as they
came; what a setting has to be is checked where it is used. The settings of the language itself
are entries of their own, in `LanguageSettings`.
-/

namespace SchemaStruct

/-- The settings that are about the target language alone. -/
inductive LanguageSettings
  /-- Entries by name. -/
  | entries (es : Entries)
  /-- Some other value, which no language understands. -/
  | other (v : Json)
  deriving Inhabited

namespace LanguageSettings

/-- The language settings that a value stands for. -/
def ofJson : Json → LanguageSettings
  | .obj members => entries (Entries.ofMembers members)
  | v => other v

/-- The language settings as a value. -/
def toJson : LanguageSettings → Json
  | entries es => Json.ofMembers (es.map fun (k, v) =>
    (match k with
      | .text s => s
      | .other w => w.toText, v))
  | other v => v

/-- The entries, if there are any: other values are none. -/
def toEntries : LanguageSettings → Except Fault Entries
  | entries es => .ok es
  | other v => .error (.misfit (.notSettings v.kindName))

end LanguageSettings

/-- The settings of a generator. -/
structure Configuration where
  /-- Where the code is meant to go. -/
  outputFile : Json := .null
  /-- The namespace of the generated types. -/
  namespaceName : Json := .str "Generated"
  /-- The number of blanks of a level of depth. -/
  indentSize : Json := .int 4
  /-- Whether a level of depth is a tabulator. -/
  useTabs : Json := .bool false
  /-- The naming style of types. -/
  typeCase : Json := .str "pascal"
  /-- The naming style of properties. -/
  fieldCase : Json := .str "pascal"
  /-- Whether descriptions become comments. -/
  addComments : Json := .bool true
  /-- The settings of the language. -/
  language : LanguageSettings := .entries []
  deriving Inhabited

namespace Configuration

/-- The name of the setting that holds the settings of the language. -/
def languageField : String := "language_config"

/-- The configuration with one of its own settings changed, if there is one of that name. -/
def set? (c : Configuration) (name : String) (v : Json) : Option Configuration :=
  match name with
  | "output_file" => some { c with outputFile := v }
  | "namespace" => some { c with namespaceName := v }
  | "indent_size" => some { c with indentSize := v }
  | "use_tabs" => some { c with useTabs := v }
  | "type_case" => some { c with typeCase := v }
  | "field_case" => some { c with fieldCase := v }
  | "add_comments" => some { c with addComments := v }
  | "language_config" => some { c with language := .ofJson v }
  | _ => none

/-- The settings with their names. -/
def toJson (c : Configuration) : Json :=
  .obj [("output_file", c.outputFile), ("namespace", c.namespaceName),
    ("indent_size", c.indentSize), ("use_tabs", c.useTabs), ("type_case", c.typeCase),
    ("field_case", c.fieldCase), ("add_comments", c.addComments),
    (languageField, c.language.toJson)]

/-- The configuration with the given settings and defaults for the others. Only its own settings
are known. -/
def ofFields : List (String × Json) → Except Fault Configuration :=
  List.foldlM (fun c (name, v) =>
    match set? c name v with
    | some c => .ok c
    | none => .error (.misfit (.unknownSetting name))) {}

/-- The text of a level of depth. -/
def indentUnit (c : Configuration) : Except Fault String :=
  if c.useTabs.truthy then .ok "\t"
  else match c.indentSize with
    | .int n =>
      if n < -Text.lengthLimit || Text.lengthLimit ≤ n then .error (.misfit .countTooLarge)
      else if Text.memoryLimit ≤ n then .error (.misfit .textTooLong)
      else .ok ("".pushn ' ' n.toNat)
    | .bool b => .ok (if b then " " else "")
    | v => .error (.misfit (.notCount v.kindName))

end Configuration

end SchemaStruct
