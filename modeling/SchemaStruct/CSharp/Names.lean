import SchemaStruct.CSharp.Keyword
import SchemaStruct.Naming.Name

/-!
# Assigned Names and Parameters

`assignNames` gives every record and property of a graph its identifier: record names are unique
in the graph, property names unique in their record and different from the record's own name, which
C# forbids for members. `parameter` makes the identifier of a constructor parameter: a name that
is an identifier stays as it is, with an at sign in front if it is a keyword.
-/

namespace SchemaStruct.CSharp

/-- Assigns identifiers to the records, one after the other. -/
def assignRecords (style : NamingStyle) :
    List Record → Sanitizer → NameTable → NameTable
  | [], _, t => t
  | r :: rs, s, t =>
    let (id, s) := s.unique r.key style
    assignRecords style rs s (t.assign (NameTable.recordName r) id)

/-- Assigns identifiers to the properties of a record, one after the other. -/
def assignProperties (style : NamingStyle) :
    List (Name × Property) → Sanitizer → NameTable → NameTable
  | [], _, t => t
  | (n, p) :: ps, s, t =>
    let (id, s) := s.unique p.name style
    assignProperties style ps s (t.assign n id)

/-- Assigns identifiers to the properties of each record, the record's own identifier being in
use. -/
def assignMembers (style : NamingStyle) : List Record → NameTable → NameTable
  | [], t => t
  | r :: rs, t =>
    -- a member must not have the name of its type
    let own := (t.text? (NameTable.recordName r)).getD ""
    assignMembers style rs
      (assignProperties style (NameTable.propertyNames r) (sanitizer.addUsed own) t)

/-- The table of a graph with all its names assigned. -/
def assignNames (graph : TypeGraph) (typeStyle fieldStyle : NamingStyle) : NameTable :=
  let t := assignRecords typeStyle graph.records sanitizer (.ofGraph graph)
  assignMembers fieldStyle graph.records t

/-- Whether a name is taken over as an identifier: a letter or underscore, then letters, digits and
underscores, all of ASCII. A line feed at the very end does not count. -/
def isPlainName (cs : List Char) : Bool :=
  let body := if cs.getLast? = some '\n' then cs.dropLast else cs
  match body with
  | [] => false
  | c :: rest => (c.isAlpha || c = '_') && rest.all fun c => c.isAlphanum || c = '_'

/-- The identifier of a parameter without regard to other parameters. -/
def parameterBase (name : String) : String :=
  let id := if isPlainName name.toList then name else sanitizer.shared name .camel
  if keywords.contains id then "@" ++ id else id

/-- The identifier of the parameter for a property, different from all those in use. -/
def parameter (used : List String) (name : String) : String :=
  let base := parameterBase name
  if used.contains base then fresh used (fun n => base ++ toString n) 2 else base

/-- The identifiers of the parameters for some properties, with `used` in use beforehand. -/
def parameters (used : List String) : List String → List String
  | [] => []
  | name :: names =>
    let id := parameter used name
    id :: parameters (id :: used) names

end SchemaStruct.CSharp
