/-!
# Switches

The switches of the command line: how they are spelled, and what value they take. The order of the
spellings is that of the listing of candidates for an abbreviation.
-/

namespace SchemaStruct.CommandLine

/-- A switch. -/
inductive Switch
  /-- Shows the help. -/
  | help
  /-- Names the record that the document describes. -/
  | topLevel
  /-- Sets the namespace of the generated types. -/
  | namespaceName
  /-- Names a configuration file. -/
  | configFile
  /-- Sets who may see the generated types. -/
  | accessModifier
  /-- Sets how lists are declared. -/
  | arrayType
  /-- Leaves out the attributes with the names of properties. -/
  | noJsonAttributes
  /-- Leaves out the comments. -/
  | noComments
  /-- Lists the languages. -/
  | listLanguages
  /-- Sets how much is reported. -/
  | logLevel
  deriving DecidableEq, Repr, Inhabited

namespace Switch

/-- The spellings of the switches. -/
def spellings : List (String × Switch) :=
  [("-h", help), ("--help", help), ("--top-level", topLevel), ("--namespace", namespaceName),
    ("--config", configFile), ("--access-modifier", accessModifier), ("--array-type", arrayType),
    ("--no-json-attributes", noJsonAttributes), ("--no-comments", noComments),
    ("--list-languages", listLanguages), ("--log-level", logLevel)]

/-- The switch of a spelling. -/
def ofSpelling? (s : String) : Option Switch := spellings.lookup s

/-- The name of a switch in messages: all of its spellings. -/
def name (s : Switch) : String :=
  String.intercalate "/" ((spellings.filter (·.2 == s)).map (·.1))

/-- What a switch takes. -/
inductive Operand
  /-- Nothing. -/
  | nothing
  /-- Any text. -/
  | text
  /-- One of some texts. -/
  | choice (choices : List String)
  deriving DecidableEq, Repr, Inhabited

/-- What a switch takes. -/
def operand : Switch → Operand
  | topLevel | namespaceName | configFile => .text
  | accessModifier => .choice ["public", "internal", "none"]
  | arrayType => .choice ["array", "list"]
  | logLevel => .choice ["DEBUG", "INFO", "WARNING", "ERROR"]
  | help | noJsonAttributes | noComments | listLanguages => .nothing

end Switch

end SchemaStruct.CommandLine
