import SchemaStruct.Config.Load

/-!
# Managers of Configurations

A manager keeps the default settings of the languages and puts configurations together from them.
Dictionaries of settings are changed in place, and whoever knows the place of one sees the change: a
configuration that is handed out shares the settings of its language with whatever else is kept at
their place. So the defaults are copied before anything is merged into them. What comes of all this
is `Configuration.load`.
-/

namespace SchemaStruct

/-- The settings that a configuration is put together from. -/
structure Settings where
  /-- The configuration's own settings. -/
  own : List (String × Json) := []
  /-- The settings of the language. -/
  language : Entries := []
  deriving Inhabited

namespace Settings

/-- The names of a configuration's own settings. -/
def ownNames : List String :=
  ["output_file", "namespace", "indent_size", "use_tabs", "type_case", "field_case", "add_comments"]

/-- The settings with one of them overridden. A setting that is none of the configuration's own
belongs to the language. -/
def write (s : Settings) (name : String) (v : Json) : Except Fault Settings :=
  if name = Configuration.languageField then do
    let more ← v.entries
    return { s with language := s.language.update more }
  else if name ∈ ownNames then .ok { s with own := Json.setMember name v s.own }
  else .ok { s with language := s.language.set (.text name) v }

end Settings

/-- A dictionary of a configuration's own settings, and the place of the one for its language. -/
structure Draft where
  /-- The configuration's own settings. -/
  own : List (String × Json) := []
  /-- Where the settings of the language are kept. -/
  language : Nat := 0
  deriving Inhabited

/-- All dictionaries, each at its place. -/
structure Store where
  /-- The dictionaries of configurations. -/
  drafts : List Draft := []
  /-- The dictionaries for languages. -/
  tables : List Entries := []

namespace Store

/-- The settings for a language that are kept at a place. -/
def table (s : Store) (place : Nat) : Entries := s.tables.getD place []

/-- The settings that are kept at a place. -/
def settings (s : Store) (place : Nat) : Settings :=
  let draft := s.drafts.getD place {}
  ⟨draft.own, s.table draft.language⟩

/-- The store with a dictionary for a language changed. -/
def setTable (s : Store) (place : Nat) (es : Entries) : Store :=
  { s with tables := s.tables.set place es }

/-- The store with the dictionaries at a place changed to the given settings. -/
def put (s : Store) (place : Nat) (new : Settings) : Store :=
  let draft := s.drafts.getD place {}
  { s.setTable draft.language new.language with
    drafts := s.drafts.set place { draft with own := new.own } }

/-- The store with new dictionaries for some settings. -/
def push (s : Store) (new : Settings) : Store :=
  { drafts := s.drafts ++ [⟨new.own, s.tables.length⟩], tables := s.tables ++ [new.language] }

end Store

/-- A step that changes dictionaries and may fail. -/
abbrev Keep (α : Type) := ExceptT Fault (StateM Store) α

/-- A configuration that is handed out: its own settings, and the place of those of its language. -/
structure Issued where
  /-- The configuration's own settings. -/
  own : Configuration
  /-- Where the settings of the language are kept. -/
  language : Nat

namespace Issued

/-- The configuration as it stands. -/
def read (l : Issued) (s : Store) : Configuration :=
  { l.own with language := .entries (s.table l.language) }

/-- Changes a setting of the language in a configuration. -/
def assign (l : Issued) (name : String) (v : Json) : Keep Unit :=
  modify fun s => s.setTable l.language ((s.table l.language).set (.text name) v)

end Issued

namespace Manager

/-- The places of the defaults, under the names of languages. -/
def places : List (String × Nat) := [("csharp", 0)]

/-- The defaults of C#. -/
def csharpDefaults : Settings where
  own := [("namespace", .str "Generated"), ("type_case", .str "pascal"),
    ("field_case", .str "pascal"), ("add_comments", .bool true)]
  language := Entries.ofMembers Configuration.csharpSettings

/-- The dictionaries of a new manager. -/
def store : Store := ({} : Store).push csharpDefaults

/-- The defaults of a language as they are kept, whatever the case of its name. -/
def defaults (s : Store) (language : String) : Settings :=
  match places.lookup (Text.lowerCase language) with
  | some place => s.settings place
  | none => {}

/-- Copies the defaults of a language to a new place. -/
def copy (language : String) : Keep Nat := do
  let s ← get
  set (s.push (defaults s language))
  return s.drafts.length

/-- A result that depends on no dictionary. -/
def ofExcept {α : Type} : Except Fault α → Keep α
  | .ok a => pure a
  | .error f => throw f

/-- Overrides a setting at a place. -/
def override (place : Nat) (name : String) (v : Json) : Keep Unit := do
  let s ← get
  let new ← ofExcept ((s.settings place).write name v)
  set (s.put place new)

/-- Overrides settings at a place, one after the other. -/
def merge (place : Nat) (overrides : List (String × Json)) : Keep Unit :=
  overrides.forM fun (name, v) => override place name v

/-- Overrides settings at a place by those of a layer, if it is there. -/
def mergeLayer (place : Nat) (layer : Except Fault (List (String × Json))) : Keep Unit := do
  merge place (← ofExcept layer)

/-- Hands out the configuration at a place. -/
def release (place : Nat) : Keep Issued := do
  let draft := (← get).drafts.getD place {}
  return ⟨← ofExcept (Configuration.ofFields draft.own), draft.language⟩

/-- The settings of the file that is named, if one is. -/
def fileLayer (files : FileTree) (file : Json) : Except Fault (List (String × Json)) := do
  if file.truthy then Configuration.readFile files (← Configuration.pathOf file) else return []

/-- The settings that the caller gives, if there are any. -/
def callerLayer (custom : Json) : Except Fault (List (String × Json)) :=
  if custom.truthy then
    match custom with
    | .obj members => .ok members
    | v => .error (.misfit (.lacks v.kindName "items"))
  else .ok []

/-- The configuration of a language: a copy of its defaults, with a file on top and the caller's
settings on top of both. -/
def load (files : FileTree) (language : String) (custom file : Json) : Keep Issued := do
  let place ← copy language
  mergeLayer place (fileLayer files file)
  mergeLayer place (callerLayer custom)
  release place

end Manager

end SchemaStruct
