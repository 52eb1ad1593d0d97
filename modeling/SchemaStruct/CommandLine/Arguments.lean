import SchemaStruct.CommandLine.Token
import SchemaStruct.Text.Case

/-!
# Arguments

What a command line asks for. The words are taken from left to right: a switch takes effect where
it stands, the first plain word names the document, and words without a meaning are collected and
refused at the end.
-/

namespace SchemaStruct.CommandLine

/-- What a command line asks for. -/
structure Arguments where
  /-- Where the document is. -/
  schema : Option String := none
  /-- The name for the record that the document describes. -/
  topLevel : Option String := none
  /-- The namespace of the generated types. -/
  namespaceName : Option String := none
  /-- The configuration file. -/
  configFile : Option String := none
  /-- Who may see the generated types. -/
  accessModifier : Option String := none
  /-- How lists are declared. -/
  arrayType : Option String := none
  /-- Whether the attributes with the names of properties are left out. -/
  noJsonAttributes : Bool := false
  /-- Whether the comments are left out. -/
  noComments : Bool := false
  /-- Whether the languages are to be listed. -/
  listLanguages : Bool := false
  /-- How much is reported. -/
  logLevel : String := "WARNING"
  deriving DecidableEq, Repr, Inhabited

namespace Arguments

/-- The arguments with a switch that takes no value. -/
def setFlag (a : Arguments) : Switch → Arguments
  | .noJsonAttributes => { a with noJsonAttributes := true }
  | .noComments => { a with noComments := true }
  | .listLanguages => { a with listLanguages := true }
  | _ => a

/-- The arguments with the value of a switch. -/
def setValue (a : Arguments) (s : Switch) (v : String) : Arguments :=
  match s with
  | .topLevel => { a with topLevel := some v }
  | .namespaceName => { a with namespaceName := some v }
  | .configFile => { a with configFile := some v }
  | .accessModifier => { a with accessModifier := some v }
  | .arrayType => { a with arrayType := some v }
  | .logLevel => { a with logLevel := v }
  | _ => a

/-- The value of a switch as it counts: the level of reports is written in capitals. -/
def adapt (s : Switch) (v : String) : String := if s = .logLevel then Text.upperCase v else v

/-- The arguments with the value of a switch, which has to be one of its choices. -/
def takeValue (a : Arguments) (s : Switch) (v : String) : Except UsageError Arguments :=
  let v := adapt s v
  match s.operand with
  | .choice choices =>
    if choices.contains v then .ok (a.setValue s v) else .error (.invalidChoice s v choices)
  | _ => .ok (a.setValue s v)

/-- Checks the letters behind the short spelling of the help: each of them has to be the help
again. -/
def checkLetters : List Char → Except UsageError Unit
  | [] => .ok ()
  | 'h' :: rest => checkLetters rest
  | cs => .error (.unusedValue .help (String.ofList cs))

/-- Checks that nothing that counts is attached to a switch without a value. -/
def checkAttached (s : Switch) : Attached → Except UsageError Unit
  | .nothing => .ok ()
  | .value v => .error (.unusedValue s v)
  | .letters cs => checkLetters cs.toList

end Arguments

/-- Why the reading of a command line ends early. -/
inductive Halt
  /-- The help is asked for. -/
  | help
  /-- The command line is refused. -/
  | refused (e : UsageError)
  deriving DecidableEq, Repr, Inhabited

/-- The place of the document on the command line. -/
inductive Place
  /-- It is free. -/
  | free
  /-- The end of the switches announces it. -/
  | announced
  /-- It has just been taken; the end of the switches right behind it does not count. -/
  | filled
  /-- It is over. -/
  | closed
  deriving DecidableEq, Repr, Inhabited

/-- How far the reading of a command line has come. -/
structure Progress where
  /-- What is asked for so far. -/
  arguments : Arguments := {}
  /-- The place of the document. -/
  place : Place := .free
  /-- The switch that waits for its value. -/
  pending : Option Switch := none
  /-- Words without a meaning, the latest ones first. -/
  extras : List String := []
  deriving Repr, Inhabited

namespace Progress

/-- Once something else stands behind the document, its place is over. -/
def passDocument (p : Progress) : Progress :=
  if p.place = .filled then { p with place := .closed } else p

/-- One more word without a meaning. -/
def addExtra (p : Progress) (word : String) : Progress :=
  { p.passDocument with extras := word :: p.extras }

/-- Reads the end of the switches. -/
def separate (p : Progress) : Progress :=
  match p.place with
  | .free => { p with place := .announced }
  | .filled => p.passDocument
  | _ => p.addExtra "--"

/-- Reads a plain word that is no value. -/
def addWord (p : Progress) (word : String) : Progress :=
  match p.place with
  | .free | .announced =>
    { p with place := .filled, arguments := { p.arguments with schema := some word } }
  | _ => p.addExtra word

/-- Reads a value. -/
def addValue (p : Progress) (s : Switch) (v : String) : Except Halt Progress :=
  match p.arguments.takeValue s v with
  | .ok arguments => .ok { p with arguments, pending := none }
  | .error e => .error (.refused e)

/-- Reads a switch. -/
def addSwitch (p : Progress) (s : Switch) (attached : Attached) : Except Halt Progress :=
  let p := p.passDocument
  match s.operand, attached with
  | .nothing, _ =>
    match Arguments.checkAttached s attached with
    | .error e => .error (.refused e)
    | .ok _ =>
      if s = .help then .error .help else .ok { p with arguments := p.arguments.setFlag s }
  | _, .value v => p.addValue s v
  | _, _ => .ok { p with pending := some s }

/-- Reads one token. A switch that waits for its value takes nothing but a plain word. -/
def step (p : Progress) (t : Token) : Except Halt Progress :=
  match p.pending, t with
  | some s, .plain v => p.addValue s v
  | some s, _ => .error (.refused (.missingValue s))
  | none, .plain w => .ok (p.addWord w)
  | none, .separator => .ok p.separate
  | none, .unknown w => .ok (p.addExtra w)
  | none, .switch s attached => p.addSwitch s attached

/-- What is asked for when all words are read. -/
def finish (p : Progress) : Except Halt Arguments :=
  match p.pending with
  | some s => .error (.refused (.missingValue s))
  | none =>
    if p.extras.isEmpty then .ok p.arguments
    else .error (.refused (.unrecognized p.extras.reverse))

end Progress

/-- What the words of a command line ask for. -/
def Arguments.ofWords (words : List String) : Except Halt Arguments :=
  match Token.ofWords words with
  | .error e => .error (.refused e)
  | .ok tokens => do (← tokens.foldlM Progress.step {}).finish

end SchemaStruct.CommandLine
