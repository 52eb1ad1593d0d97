import SchemaStruct.Fault

/-!
# Entries

The entries that a value contributes to a mapping. An object contributes its members; every other
value that can be walked through contributes the pairs that it consists of, where a pair is
anything with two parts. The name of such a pair may be something else than a text: it is kept
until someone needs the name.
-/

namespace SchemaStruct

/-- The name of an entry. -/
inductive EntryName
  /-- A text. -/
  | text (s : String)
  /-- Some other value that can be looked up in a set. -/
  | other (v : Json)
  deriving Repr, Inhabited

namespace EntryName

/-- Whether two names are the same. -/
def beq : EntryName → EntryName → Bool
  | text a, text b => a == b
  | other a, other b => a == b
  | _, _ => false

instance : BEq EntryName := ⟨beq⟩

/-- The name as a value. -/
def toJson : EntryName → Json
  | text s => .str s
  | other v => v

end EntryName

/-- Named values, in order. -/
abbrev Entries := List (EntryName × Json)

namespace Entries

/-- The entries of an object. -/
def ofMembers (members : List (String × Json)) : Entries :=
  members.map fun (k, v) => (.text k, v)

/-- The entries with `name` set to `value`: in its old place, or else at the end. -/
def set (name : EntryName) (value : Json) : Entries → Entries
  | [] => [(name, value)]
  | (k, v) :: rest => if k == name then (k, value) :: rest else (k, v) :: set name value rest

/-- The entries, overridden and extended by `more`. -/
def update (entries more : Entries) : Entries :=
  more.foldl (fun acc (k, v) => acc.set k v) entries

/-- The entry that one element of a list of pairs stands for. -/
def ofPair (index : Nat) (v : Json) : Except Fault (EntryName × Json) :=
  match v.walk? with
  | none => .error (.misfit (.notPair index))
  | some [.str name, value] => .ok (.text name, value)
  | some [name, value] => do
    name.requireHashable
    return (.other name, value)
  | some parts => .error (.value (.pairLength index parts.length))

/-- The entries of the elements of a list of pairs, the first one having number `index`. -/
def ofPairs (index : Nat) : List Json → Except Fault Entries
  | [] => .ok []
  | v :: vs => do
    let entry ← ofPair index v
    let rest ← ofPairs (index + 1) vs
    return entry :: rest

end Entries

/-- The entries that a value contributes to a mapping. -/
def Json.entries : Json → Except Fault Entries
  | .obj members => .ok (Entries.ofMembers members)
  | v => do Entries.ofPairs 0 (← v.walk)

end SchemaStruct
