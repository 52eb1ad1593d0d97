import SchemaStruct.Number.Binary64

/-!
# Document Values

A JSON value as it stands in a document: objects keep their members in order, and integers are
kept apart from floating numbers. `Json.ofMembers` is the one place where repeated names are
settled: a name keeps its first place and takes its last value.
-/

namespace SchemaStruct

/-- A JSON value. -/
inductive Json
  /-- The null value. -/
  | null
  /-- A truth value. -/
  | bool (b : Bool)
  /-- A number written without point and exponent. -/
  | int (i : Int)
  /-- A number written with a point or an exponent. -/
  | float (x : Binary64)
  /-- A text. -/
  | str (s : String)
  /-- A list of values. -/
  | arr (items : List Json)
  /-- Named values, in order. -/
  | obj (members : List (String × Json))
  deriving Inhabited, Repr

namespace Json

mutual

/-- Whether two values are written alike: same kinds, same order of members. -/
def beq : Json → Json → Bool
  | null, null => true
  | bool a, bool b => a == b
  | int a, int b => a == b
  | float a, float b => a == b
  | str a, str b => a == b
  | arr a, arr b => beqItems a b
  | obj a, obj b => beqMembers a b
  | _, _ => false

/-- Whether two lists of values are alike. -/
def beqItems : List Json → List Json → Bool
  | [], [] => true
  | a :: as, b :: bs => beq a b && beqItems as bs
  | _, _ => false

/-- Whether two lists of members are alike. -/
def beqMembers : List (String × Json) → List (String × Json) → Bool
  | [], [] => true
  | (k, a) :: as, (l, b) :: bs => k == l && beq a b && beqMembers as bs
  | _, _ => false

end

instance : BEq Json := ⟨beq⟩

mutual

/-- The number of values in a value, itself included. -/
def size : Json → Nat
  | arr items => 1 + sizeItems items
  | obj members => 1 + sizeMembers members
  | _ => 1

/-- The number of values in a list of values. -/
def sizeItems : List Json → Nat
  | [] => 0
  | v :: vs => size v + sizeItems vs

/-- The number of values in a list of members. -/
def sizeMembers : List (String × Json) → Nat
  | [] => 0
  | (_, v) :: vs => size v + sizeMembers vs

end

/-- The value under a name in a list of members. -/
def lookup (name : String) : List (String × Json) → Option Json
  | [] => none
  | (k, v) :: rest => if k = name then some v else lookup name rest

/-- The members with `name` set to `value`: in its old place, or else at the end. -/
def setMember (name : String) (value : Json) : List (String × Json) → List (String × Json)
  | [] => [(name, value)]
  | (k, v) :: rest =>
    if k = name then (k, value) :: rest else (k, v) :: setMember name value rest

/-- The object of the given members: a repeated name keeps its first place and takes its last
value. -/
def ofMembers (members : List (String × Json)) : Json :=
  obj (members.foldl (fun acc (k, v) => setMember k v acc) [])

/-- The value of a member of an object. -/
def get? (name : String) : Json → Option Json
  | obj members => lookup name members
  | _ => none

/-- The members of an object. -/
def members? : Json → Option (List (String × Json))
  | obj members => some members
  | _ => none

/-- The text of a text value. -/
def text? : Json → Option String
  | str s => some s
  | _ => none

/-- The value that an absent member stands for, or the member itself. -/
def orNull (v : Option Json) : Json := v.getD null

/-- Whether a value counts as given: null, false, zero and everything empty do not. -/
def truthy : Json → Bool
  | null => false
  | bool b => b
  | int i => i != 0
  | float x => !x.isZero
  | str s => !s.isEmpty
  | arr items => !items.isEmpty
  | obj members => !members.isEmpty

/-- The name of a value's kind in messages. -/
def kindName : Json → String
  | null => "NoneType"
  | bool _ => "bool"
  | int _ => "int"
  | float _ => "float"
  | str _ => "str"
  | arr _ => "list"
  | obj _ => "dict"

/-- Whether the value is an object without members. -/
def isEmptyObject : Json → Bool
  | obj [] => true
  | _ => false

/-- What one meets when walking through a value: the items of a list, the characters of a text,
the names of an object. Other values cannot be walked through. -/
def walk? : Json → Option (List Json)
  | arr items => some items
  | str s => some (s.toList.map fun c => str (String.singleton c))
  | obj members => some (members.map fun m => str m.1)
  | _ => none

/-- Whether a value can be looked up in a set: lists and objects cannot. -/
def isHashable : Json → Bool
  | arr _ => false
  | obj _ => false
  | _ => true

end Json

end SchemaStruct
