import SchemaStruct.CSharp.Options
import SchemaStruct.Generator.Basic

/-!
# Findings about Graphs for C#

What a reader of the generated structs should know: records without properties, records that
contain themselves by value, and what the types of properties hint at. Lists and dictionaries are
references, so a record that refers to itself through them has a layout.
-/

namespace SchemaStruct.CSharp

/-- The keys of the records that a record of a graph holds by value. -/
def heldBy (g : TypeGraph) (r : Record) : List String :=
  r.properties.filterMap fun p =>
    if p.type.kind = .object then p.type.record.filter g.contains else none

/-- The keys of the records that the record of a key holds by value. -/
def held (g : TypeGraph) (key : String) : List String := ((g.get? key).map (heldBy g)).getD []

/-- Whether `start` is among the keys of `stack` or held by one of them, directly or not. Keys in
`seen` are done with. The fuel bounds the number of keys that are looked at. -/
def reaches (g : TypeGraph) (start : String) : Nat → List String → List String → Bool
  | 0, _, _ => false
  | _ + 1, _, [] => false
  | fuel + 1, seen, key :: stack =>
    if key = start then true
    -- what a record holds is looked at once
    else if seen.contains key then reaches g start fuel seen stack
    else reaches g start fuel (key :: seen) (held g key ++ stack)

/-- Whether a record contains itself by value. The search enters each record once and meets every
property at most once. -/
def isCyclic (g : TypeGraph) (key : String) : Bool :=
  reaches g key (g.propertyCount + 1) [] (held g key)

/-- The findings about records without properties. -/
def emptyFindings (g : TypeGraph) : List String :=
  (g.records.filter (·.properties.isEmpty)).map fun r =>
    "Record " ++ r.key ++
      " has no properties - its parameterless constructor requires C# 10 or later"

/-- The findings about records that contain themselves. -/
def cycleFindings (g : TypeGraph) : List String :=
  (g.keys.filter (isCyclic g)).map fun key =>
    "Record " ++ key ++ " contains itself by value - C# rejects struct layout cycles"

/-- The type of a record key where its name does not matter. -/
def keyType (key : Option String) : Except Fault Fragment :=
  .ok (key.elim .empty Fragment.text)

/-- What the type of a property hints at. -/
def hintFindings (choices : TypeChoices) (r : Record) (p : Property) :
    Except Fault (List String) := do
  let t ← CSharpType.ofProperty choices keyType p
  return t.hints.map fun hint => r.key ++ "." ++ p.name ++ ": " ++ hint

/-- The findings about a graph, and the warnings about the configuration behind them. -/
def findings (options : Options) (c : Configuration) (g : TypeGraph) :
    Except Fault (List String) := do
  let hints ← g.records.mapM fun r => r.properties.mapM (hintFindings options.choices r)
  let warnings ← c.check "csharp"
  return g.findings ++ emptyFindings g ++ cycleFindings g ++ hints.flatten.flatten ++ warnings

end SchemaStruct.CSharp
