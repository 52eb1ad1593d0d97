import SchemaStruct.Config.Configuration
import SchemaStruct.Files.Tree
import SchemaStruct.Text.Case

/-!
# Layers of Configuration

A configuration is put together from layers: the defaults of a language, a file, and settings given
by the caller. A later layer overrides an earlier one setting by setting. A setting that is none of
the configuration's own belongs to the language, and the settings of the language are merged one by
one as well.
-/

namespace SchemaStruct

namespace Configuration

/-- The settings of C# by default. -/
def csharpSettings : List (String × Json) :=
  [("access_modifier", .str "public"), ("int_type", .str "int"), ("float_type", .str "double"),
    ("any_type", .str "object"), ("time_type", .str "DateTimeOffset"),
    ("array_type", .str "array"), ("json_attributes", .bool true),
    ("nullable_optionals", .bool true), ("density", .str "normal")]

/-- The languages that have defaults. -/
def languages : List String := ["csharp"]

/-- The defaults of a language, whatever the case of its name. -/
def defaults (language : String) : Configuration :=
  if Text.lowerCase language = "csharp" then
    { language := .entries (Entries.ofMembers csharpSettings) }
  else {}

/-- The configuration with one more entry for the language. -/
def setLanguage (c : Configuration) (name : String) (v : Json) : Configuration :=
  match c.language with
  | .entries es => { c with language := .entries (es.set (.text name) v) }
  | .other _ => c

/-- The configuration with one setting overridden. -/
def override (c : Configuration) (name : String) (v : Json) : Except Fault Configuration :=
  if name = languageField then do
    let more ← v.entries
    let es ← c.language.toEntries
    return { c with language := .entries (es.update more) }
  else .ok ((c.set? name v).getD (c.setLanguage name v))

/-- The configuration with some settings overridden, one after the other. -/
def merge (c : Configuration) (overrides : List (String × Json)) : Except Fault Configuration :=
  overrides.foldlM (fun c (name, v) => c.override name v) c

/-- The settings of a configuration file. -/
def readFile (files : FileTree) (path : Path) : Except Fault (List (String × Json)) := do
  let shown := path.toString
  unless ← files.hasEntry path do throw (.config (.fileNotFound shown))
  unless Text.lowerCase path.suffix = ".json" do throw (.config (.notJsonFile shown))
  -- a file that is there and cannot be read is a fault of the configuration
  let text ← match files.read path with
    | .error (.file f) => throw (.config (.unreadable shown f))
    | result => result
  match Json.read text with
  | .ok (.obj members) => return members
  | .ok _ => throw (.config (.notAnObject shown))
  | .error e => throw (if e.isMalformed then .config (.invalidJson shown e) else .misread e)

/-- The path that a value stands for. -/
def pathOf : Json → Except Fault Path
  | .str s => .ok (.ofString s)
  | v => .error (.misfit (.notPath v.kindName))

/-- The configuration of a language from its defaults, a file and the caller's settings. The latter
two do not count unless they are given. -/
def load (files : FileTree) (language : String) (custom file : Json) :
    Except Fault Configuration := do
  let base := defaults language
  -- the file goes over the defaults, and the caller's settings over both
  let base ← if file.truthy then do base.merge (← readFile files (← pathOf file)) else pure base
  if custom.truthy then
    match custom with
    | .obj members => base.merge members
    | v => throw (.misfit (.lacks v.kindName "items"))
  else return base

end Configuration

end SchemaStruct
