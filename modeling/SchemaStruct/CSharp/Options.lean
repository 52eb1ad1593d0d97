import SchemaStruct.CSharp.Type
import SchemaStruct.Json.Entries
import SchemaStruct.Text.Case

/-!
# Options for C#

The settings that are about C# alone, read from the entries of a configuration. A setting that is
absent has a default, one with a value outside its choices is refused. Settings are read in a fixed
order, so that of several faults the first one in that order is reported.
-/

namespace SchemaStruct.CSharp

/-- How close members stand. -/
inductive Density
  /-- With a blank line between properties. -/
  | normal
  /-- On consecutive lines. -/
  | dense
  deriving DecidableEq, Repr, Inhabited

namespace Density

/-- All densities. -/
def all : List Density := [normal, dense]

/-- The name of the setting. -/
def name : Density → String
  | normal => "normal"
  | dense => "dense"

end Density

/-- The settings that are about C# alone. -/
structure Options where
  /-- Who may see the generated types. -/
  visibility : Visibility := .exported
  /-- Which types the kinds of the record model become. -/
  choices : TypeChoices := {}
  /-- Whether each property carries its name in documents as an attribute. -/
  jsonAttributes : Bool := true
  /-- The type that all generated types extend, if any. -/
  baseClass : Json := .null
  /-- How close members stand. -/
  density : Density := .normal
  deriving Repr, Inhabited

namespace Options

/-- The value of a setting, or its default. -/
def setting (settings : Entries) (name : String) (default : Json) : Json :=
  (settings.find? (·.1 == .text name)).elim default (·.2)

/-- A setting of which the name of the value counts, in any case of letters. -/
def readName {α : Type} (all : List α) (nameOf : α → String) (name : String) (v : Json) :
    Except Fault α :=
  let wanted := Text.lowerCase v.plain
  match all.find? (nameOf · == wanted) with
  | some a => .ok a
  | none => .error (.config (.invalidChoice name v.plain (all.map nameOf)))

/-- A setting of which the exact text counts. -/
def readChoice {α : Type} (all : List α) (nameOf : α → String) (name : String) (v : Json) :
    Except Fault α := do
  v.requireHashable
  match v.text?.bind fun s => all.find? (nameOf · == s) with
  | some a => return a
  | none => throw (.config (.invalidChoice name v.plain (all.map nameOf)))

/-- Checks that entries are settings: their names are texts, and none is the name under which the
settings themselves are known. -/
def checkNames (settings : Entries) : Except Fault Unit := do
  if settings.any (fun (k, _) => match k with | .other _ => true | .text _ => false) then
    throw (.misfit .nameNotText)
  if settings.any (·.1 == .text "self") then throw (.misfit (.repeatedSetting "self"))

/-- The options that some settings stand for. -/
def read (settings : Entries) : Except Fault Options := do
  checkNames settings
  let get := setting settings
  let visibility ← readName Visibility.all Visibility.name "access_modifier"
    (get "access_modifier" (.str "public"))
  let intType ← readChoice IntType.all IntType.name "int_type" (get "int_type" (.str "int"))
  let floatType ← readChoice FloatType.all FloatType.name "float_type"
    (get "float_type" (.str "double"))
  let anyType ← readChoice AnyType.all AnyType.name "any_type" (get "any_type" (.str "object"))
  let timeType ← readChoice TimeType.all TimeType.name "time_type"
    (get "time_type" (.str "DateTimeOffset"))
  let arrayStyle ← readName ArrayStyle.all ArrayStyle.name "array_type"
    (get "array_type" (.str "array"))
  let nullableOptionals := (get "nullable_optionals" (.bool true)).truthy
  let jsonAttributes := (get "json_attributes" (.bool true)).truthy
  let base := get "base_class" .null
  let density ← readName Density.all Density.name "density" (get "density" (.str "normal"))
  return {
    visibility, jsonAttributes, density
    choices := { intType, floatType, timeType, anyType, arrayStyle, nullableOptionals }
    baseClass := if base.truthy then base else .null }

/-- The settings of models that stay inside their assembly: internal types and growing lists. -/
def internalSettings : List (String × Json) :=
  [("access_modifier", .str "internal"), ("array_type", .str "list")]

end Options

end SchemaStruct.CSharp
