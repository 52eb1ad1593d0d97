import SchemaStruct.Template.Filter

/-!
# Template Expressions

What a place of a template is filled in with: names and literals, with signs and negations in front
and filters behind. `Expression.eval` gives the value, where a function tells what the names stand
for.
-/

namespace SchemaStruct.Template

/-- An expression. -/
inductive Expression
  /-- A name, to be looked up. -/
  | name (s : String)
  /-- A literal. -/
  | literal (v : Json)
  /-- A number with a sign in front. -/
  | signed (negative : Bool) (operand : Expression)
  /-- A truth value, negated. -/
  | negated (operand : Expression)
  /-- A value put through a filter. -/
  | filtered (operand : Expression) (filter : String) (args : List Expression)
  deriving Repr, Inhabited

namespace Expression

mutual

/-- The names in an expression, in the order of the text. -/
def names : Expression → List String
  | name s => [s]
  | literal _ => []
  | signed _ e => e.names
  | negated e => e.names
  | filtered e _ args => e.names ++ namesOfAll args

/-- The names in a list of expressions. -/
def namesOfAll : List Expression → List String
  | [] => []
  | e :: es => e.names ++ namesOfAll es

end

mutual

/-- The filters in an expression. -/
def filters : Expression → List String
  | name _ => []
  | literal _ => []
  | signed _ e => e.filters
  | negated e => e.filters
  | filtered e filter args => filter :: e.filters ++ filtersOfAll args

/-- The filters in a list of expressions. -/
def filtersOfAll : List Expression → List String
  | [] => []
  | e :: es => e.filters ++ filtersOfAll es

end

mutual

/-- The value of an expression. -/
def eval (look : String → Value) : Expression → Except Fault Value
  | name s => .ok (look s)
  | literal v => .ok (.given v)
  | signed negative e => do
    match (← e.eval look).signed? negative with
    | some v => return v
    | none => Filter.unfillable
  | negated e => do return .given (.bool !(← e.eval look).isTrue)
  | filtered e filter args => do
    match Filter.ofName? filter with
    | some f => return .ofText (← f.apply (← evalAll look args) (← e.eval look))
    | none => .error (.brokenTemplate .unknownFilter)

/-- The values of some expressions. -/
def evalAll (look : String → Value) : List Expression → Except Fault (List Value)
  | [] => .ok []
  | e :: es => do return (← e.eval look) :: (← evalAll look es)

end

end Expression

end SchemaStruct.Template
