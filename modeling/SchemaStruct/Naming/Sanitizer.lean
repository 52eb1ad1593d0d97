import SchemaStruct.Naming.Fresh
import SchemaStruct.Naming.Style
import SchemaStruct.Text.Case

/-!
# Name Sanitizers

A sanitizer turns names into identifiers of a target language. It knows the reserved words of the
language, which get a suffix, and remembers the identifiers that it handed out as unique, so that
it hands out none of them again.
-/

namespace SchemaStruct

/-- The state of a sanitizer. -/
structure Sanitizer where
  /-- The reserved words. -/
  reserved : List String := []
  /-- Whether only the exact spelling of a reserved word is reserved. -/
  caseSensitive : Bool := false
  /-- The identifiers that are in use. -/
  used : List String := []
  deriving Repr, Inhabited

namespace Sanitizer

/-- Whether an identifier is a reserved word. -/
def isReserved (s : Sanitizer) (name : String) : Bool :=
  s.reserved.contains (if s.caseSensitive then name else Text.lowerCase name)

/-- The sanitizer with one more identifier in use. -/
def addUsed (s : Sanitizer) (name : String) : Sanitizer := { s with used := name :: s.used }

/-- An identifier that is no reserved word, made by a suffix if need be. -/
def avoidReserved (s : Sanitizer) (suffix name : String) : String :=
  if s.isReserved name then name ++ suffix else name

/-- The candidates beside an identifier that is in use: it with a number behind it, and with an
underscore in between if that is the suffix. -/
def candidate (suffix name : String) (n : Nat) : String :=
  if suffix = "_" then name ++ suffix ++ toString n else name ++ toString n

/-- An identifier that is not in use. -/
def avoidUsed (s : Sanitizer) (suffix name : String) : String :=
  if s.used.contains name then fresh s.used (candidate suffix name) 1 else name

/-- The identifier for a name without regard to those in use. -/
def shared (s : Sanitizer) (name : String) (style : NamingStyle) (suffix : String := "_") :
    String :=
  s.avoidReserved suffix (Naming.identifier style name)

/-- The identifier for a name, different from all in use, which is in use from now on. -/
def unique (s : Sanitizer) (name : String) (style : NamingStyle) (suffix : String := "_") :
    String × Sanitizer :=
  -- a reserved word gets its suffix first: only then is it compared with those in use
  let id := s.avoidUsed suffix (s.shared name style suffix)
  (id, s.addUsed id)

end Sanitizer

end SchemaStruct
