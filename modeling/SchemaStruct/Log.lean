import SchemaStruct.Fault

/-!
# Notices

What an operation reports beside its result. A notice is kept as its cause; `Notice.text` words
it. A notice about a fault that this program does not word itself shows only its own form.
-/

namespace SchemaStruct

/-- How serious a notice is. -/
inductive Severity
  /-- The result may not be what was meant. -/
  | warning
  /-- There is no result. -/
  | error
  deriving DecidableEq, Repr, Inhabited

/-- The name of a severity. -/
def Severity.name : Severity → String
  | warning => "WARNING"
  | error => "ERROR"

/-- What an operation reports beside its result. -/
inductive Notice
  /-- A reference comes back to itself without a record in between. -/
  | recursiveReference (ref : String)
  /-- A list of types that leaves not exactly one. -/
  | unionType (types : Json) (hint : String)
  /-- A list with a type for each place. -/
  | tupleItems (hint : String)
  /-- Alternatives that leave not exactly one. -/
  | unionOf (count : Nat) (hint : String)
  /-- An answer of the web that does not call itself JSON. -/
  | contentType (url type : String)
  /-- A finding about a graph. -/
  | finding (text : String)
  /-- The generation of code ended in a fault. -/
  | generationFailed (cause : Fault)
  deriving Repr, Inhabited

namespace Notice

/-- How serious the notice is. -/
def severity : Notice → Severity
  | generationFailed _ => .error
  | _ => .warning

/-- The text of the notice. -/
def text : Notice → String
  | recursiveReference ref => "Recursive reference " ++ ref ++ " outside a record mapped to any"
  | unionType types hint => "Union type " ++ types.shown ++ " for '" ++ hint ++ "' mapped to any"
  | tupleItems hint => "Tuple items for '" ++ hint ++ "' mapped to any"
  | unionOf count hint =>
    "Union of " ++ toString count ++ " alternatives for '" ++ hint ++ "' mapped to any"
  | contentType url type => "URL " ++ url ++ " does not have a JSON content type: " ++ type
  | finding text => text
  | generationFailed cause => "Code generation failed: " ++ cause.message?.getD "%s"

end Notice

end SchemaStruct
