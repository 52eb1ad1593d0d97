/-!
# Kinds and Visibilities

The two small vocabularies of the record model: what sort of value a property holds, and who may
see a record.
-/

namespace SchemaStruct

/-- What sort of value a property holds, whatever the target language calls it. -/
inductive FieldKind
  /-- Text. -/
  | string
  /-- A whole number. -/
  | integer
  /-- A number with a fraction. -/
  | float
  /-- A truth value. -/
  | boolean
  /-- A point in time. -/
  | timestamp
  /-- A value of a record of the graph. -/
  | object
  /-- A list of values of one type. -/
  | array
  /-- Values of one type under text keys. -/
  | map
  /-- A value about which nothing is known. -/
  | any
  deriving DecidableEq, Repr, Inhabited

namespace FieldKind

/-- All kinds, in the order in which they are listed. -/
def all : List FieldKind :=
  [string, integer, float, boolean, timestamp, object, array, map, any]

/-- The name of a kind in messages and answers. -/
def name : FieldKind → String
  | string => "string"
  | integer => "integer"
  | float => "float"
  | boolean => "boolean"
  | timestamp => "timestamp"
  | object => "object"
  | array => "array"
  | map => "map"
  | any => "any"

/-- The kind of a given name. -/
def ofName? (s : String) : Option FieldKind := all.find? (·.name == s)

end FieldKind

/-- Who may see a record. -/
inductive Visibility
  /-- Everyone. -/
  | exported
  /-- The code of the same assembly. -/
  | internal
  /-- The enclosing type. -/
  | hidden
  /-- Left to the language. -/
  | unstated
  deriving DecidableEq, Repr, Inhabited

namespace Visibility

/-- All visibilities, in the order in which they are listed. -/
def all : List Visibility := [exported, internal, hidden, unstated]

/-- The name of a visibility in settings and answers. -/
def name : Visibility → String
  | exported => "public"
  | internal => "internal"
  | hidden => "private"
  | unstated => "none"

/-- The visibility of a given name. -/
def ofName? (s : String) : Option Visibility := all.find? (·.name == s)

end Visibility

end SchemaStruct
