import SchemaStruct.Schema.Graph
import SchemaStruct.Source.Page

/-!
# Types of C#

The type of a property as C# writes it (`CSharpType`), and the mapping from the kinds of the
record model to it. Records are value types, lists and dictionaries are references. A value type
that may be absent gets a question mark once; a reference may be absent anyway and stays.
-/

namespace SchemaStruct.CSharp

/-- The type of whole numbers. -/
inductive IntType
  /-- Signed, 32 bits. -/
  | int
  /-- Signed, 64 bits. -/
  | long
  /-- Signed, 16 bits. -/
  | short
  /-- Unsigned, 8 bits. -/
  | byte
  /-- Signed, 8 bits. -/
  | sbyte
  /-- Unsigned, 32 bits. -/
  | uint
  /-- Unsigned, 64 bits. -/
  | ulong
  /-- Unsigned, 16 bits. -/
  | ushort
  deriving DecidableEq, Repr, Inhabited

namespace IntType

/-- All types of whole numbers, in the order of their names. -/
def all : List IntType := [byte, int, long, sbyte, short, uint, ulong, ushort]

/-- The name of the type. -/
def name : IntType → String
  | int => "int"
  | long => "long"
  | short => "short"
  | byte => "byte"
  | sbyte => "sbyte"
  | uint => "uint"
  | ulong => "ulong"
  | ushort => "ushort"

end IntType

/-- The type of numbers with a fraction. -/
inductive FloatType
  /-- Binary, 64 bits. -/
  | double
  /-- Binary, 32 bits. -/
  | float
  /-- Decimal. -/
  | decimal
  deriving DecidableEq, Repr, Inhabited

namespace FloatType

/-- All types of numbers with a fraction, in the order of their names. -/
def all : List FloatType := [decimal, double, float]

/-- The name of the type. -/
def name : FloatType → String
  | double => "double"
  | float => "float"
  | decimal => "decimal"

end FloatType

/-- The type of values about which nothing is known. -/
inductive AnyType
  /-- The root of all types. -/
  | object
  /-- Members are looked up when the code runs. -/
  | dynamic
  deriving DecidableEq, Repr, Inhabited

namespace AnyType

/-- All types for unknown values, in the order of their names. -/
def all : List AnyType := [dynamic, object]

/-- The name of the type. -/
def name : AnyType → String
  | object => "object"
  | dynamic => "dynamic"

end AnyType

/-- The type of points in time. -/
inductive TimeType
  /-- With the distance from universal time. -/
  | dateTimeOffset
  /-- Without it. -/
  | dateTime
  /-- The text of the document. -/
  | string
  deriving DecidableEq, Repr, Inhabited

namespace TimeType

/-- All types of points in time, in the order of their names. -/
def all : List TimeType := [dateTime, dateTimeOffset, string]

/-- The name of the type. -/
def name : TimeType → String
  | dateTimeOffset => "DateTimeOffset"
  | dateTime => "DateTime"
  | string => "string"

/-- Whether the type belongs to the basic types of the library, which are value types. -/
def isSystem : TimeType → Bool
  | string => false
  | _ => true

end TimeType

/-- How lists are declared. -/
inductive ArrayStyle
  /-- As arrays. -/
  | array
  /-- As lists that can grow. -/
  | list
  deriving DecidableEq, Repr, Inhabited

namespace ArrayStyle

/-- All ways to declare lists. -/
def all : List ArrayStyle := [array, list]

/-- The name of the setting. -/
def name : ArrayStyle → String
  | array => "array"
  | list => "list"

end ArrayStyle

/-- Which types the kinds of the record model become. -/
structure TypeChoices where
  /-- For whole numbers. -/
  intType : IntType := .int
  /-- For numbers with a fraction. -/
  floatType : FloatType := .double
  /-- For points in time. -/
  timeType : TimeType := .dateTimeOffset
  /-- For values about which nothing is known. -/
  anyType : AnyType := .object
  /-- For lists. -/
  arrayStyle : ArrayStyle := .array
  /-- Whether an optional property of a value type may have no value. -/
  nullableOptionals : Bool := true
  deriving DecidableEq, Repr, Inhabited

end CSharp

/-- A type of C#, with what code that uses it needs. -/
structure CSharpType where
  /-- The type as it is written. -/
  fragment : Fragment
  /-- Whether its values are copied rather than shared. -/
  isValueType : Bool := false
  /-- Whether it is marked as possibly absent. -/
  isNullable : Bool := false
  /-- The namespaces that it needs. -/
  usings : List Using := []
  /-- What a reader of the code should know about it. -/
  hints : List String := []
  deriving Repr, Inhabited

namespace CSharpType

open CSharp

/-- A type with a name of its own. -/
def named (name : String) (isValueType : Bool) : CSharpType :=
  { fragment := .text name, isValueType }

/-- The same type, with no value allowed too. -/
def asNullable (t : CSharpType) : CSharpType :=
  if t.isNullable || !t.isValueType then t
  else { t with fragment := .group .round [t.fragment, .text "?"], isNullable := true }

/-- The same type with one more hint. -/
def withHint (t : CSharpType) (hint : String) : CSharpType := { t with hints := t.hints ++ [hint] }

/-- The type of points in time. -/
def ofTime (time : TimeType) : CSharpType :=
  { named time.name time.isSystem with usings := if time.isSystem then [.system] else [] }

/-- The type of values about which nothing is known. -/
def ofAny (any : AnyType) : CSharpType :=
  (named any.name false).withHint ("Untyped value mapped to " ++ any.name)

/-- The type of lists of a type. -/
def listOf (style : ArrayStyle) (element : CSharpType) : CSharpType :=
  match style with
  | .list =>
    { fragment := .group .round [.text "List<", element.fragment, .text ">"]
      usings := .collections :: element.usings
      hints := element.hints }
  | .array =>
    { fragment := .group .round [element.fragment, .text "[]"]
      usings := element.usings
      hints := element.hints }

/-- The type of dictionaries with values of a type. -/
def mapOf (values : CSharpType) : CSharpType :=
  { fragment := .group .round [.text "Dictionary<string, ", values.fragment, .text ">"]
    usings := .collections :: values.usings
    hints := values.hints }

/-- The type without regard to whether there may be no value, given the type of the items. -/
def base (choices : TypeChoices) (recordName : Option String → Except Fault Fragment)
    (kind : FieldKind) (record : Option String) (items : Except Fault CSharpType) :
    Except Fault CSharpType :=
  match kind with
  | .string => .ok (named "string" false)
  | .integer => .ok (named choices.intType.name true)
  | .float => .ok (named choices.floatType.name true)
  | .boolean => .ok (named "bool" true)
  | .timestamp => .ok (ofTime choices.timeType)
  | .object => do return { fragment := ← recordName record, isValueType := true }
  | .array => do return listOf choices.arrayStyle (← items)
  | .map => do return mapOf (← items)
  | .any => .ok (ofAny choices.anyType)

/-- The type that a type of the record model becomes, where `recordName` gives the type of a record
key. Items about which nothing is said are unknown values. -/
def ofRef (choices : TypeChoices) (recordName : Option String → Except Fault Fragment) :
    TypeRef → Except Fault CSharpType
  | ⟨kind, record, some items, nullable⟩ => do
    let t ← base choices recordName kind record (ofRef choices recordName items)
    return if nullable then t.asNullable else t
  | ⟨kind, record, none, nullable⟩ => do
    let t ← base choices recordName kind record (.ok (ofAny choices.anyType))
    return if nullable then t.asNullable else t

/-- The type of a property. -/
def ofProperty (choices : TypeChoices) (recordName : Option String → Except Fault Fragment)
    (p : Property) : Except Fault CSharpType := do
  let t ← ofRef choices recordName p.type
  -- a type that is nullable already gets no second mark
  return if p.optional && choices.nullableOptionals then t.asNullable else t

end CSharpType

end SchemaStruct
