import SchemaStruct.Schema.Graph

/-!
# Names

Records and properties are referred to by handles while code is put together; the text of a handle
is assigned in a table and looked up only when the text is written. Two handles are the same only
if they denote the same entity, whatever texts they have.
-/

namespace SchemaStruct

/-- What a name denotes. -/
inductive Handle
  /-- The record of a key. -/
  | record (key : String)
  /-- The property of a record at a place. -/
  | property (record : String) (index : Nat)
  /-- Something outside of the graph. -/
  | loose (number : Nat)
  deriving DecidableEq, Repr, Inhabited

/-- A handle, with the text that was proposed for it. -/
structure Name where
  /-- What the name denotes. -/
  handle : Handle
  /-- The text that was proposed. -/
  proposed : String
  deriving DecidableEq, Repr, Inhabited

/-- The texts of names: those of a graph, and loose ones. -/
structure NameTable where
  /-- The graph whose entities have names. -/
  graph : TypeGraph := .empty
  /-- The assigned texts, the latest ones first. -/
  texts : List (Handle × String) := []
  /-- The number of loose names made so far. -/
  looseCount : Nat := 0
  deriving Inhabited

namespace NameTable

/-- The table of a graph, nothing being assigned. -/
def ofGraph (graph : TypeGraph) : NameTable := { graph }

/-- The name of a record. -/
def recordName (r : Record) : Name := ⟨.record r.key, r.key⟩

/-- The names of the properties of a record, in order. -/
def propertyNames (r : Record) : List (Name × Property) :=
  r.properties.zipIdx.map fun (p, i) => (⟨.property r.key i, p.name⟩, p)

/-- The text of a name, if it is assigned. -/
def text? (t : NameTable) (n : Name) : Option String := t.texts.lookup n.handle

/-- The text of a name. -/
def text (t : NameTable) (n : Name) : Except Fault String :=
  match t.text? n with
  | some s => .ok s
  | none => .error (.unassignedName n.proposed)

/-- The table with a text assigned to a name. -/
def assign (t : NameTable) (n : Name) (s : String) : NameTable :=
  { t with texts := (n.handle, s) :: t.texts }

/-- A name that denotes nothing else, and the table that knows about it. -/
def loose (t : NameTable) (proposed : String) : Name × NameTable :=
  (⟨.loose t.looseCount, proposed⟩, { t with looseCount := t.looseCount + 1 })

/-- A name as it appears in messages: the proposed text and the assigned one. -/
def shown (t : NameTable) (n : Name) : String :=
  let assigned := match t.text? n with
    | some s => Text.quotedText s
    | none => "None"
  "Name(" ++ Text.quotedText n.proposed ++ " -> " ++ assigned ++ ")"

/-- A text looked up right after its assignment. -/
theorem text?_assign_self (t : NameTable) (n : Name) (s : String) :
    (t.assign n s).text? n = some s := by
  simp [text?, assign]

/-- An assignment leaves the texts of other names alone. -/
theorem text?_assign_of_ne (t : NameTable) {m n : Name} (s : String) (h : m.handle ≠ n.handle) :
    (t.assign n s).text? m = t.text? m := by
  have : (m.handle == n.handle) = false := by simpa using h
  simp [text?, assign, List.lookup_cons, this]

end NameTable

end SchemaStruct
