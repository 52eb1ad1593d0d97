import SchemaStruct.CommandLine.Switch
import SchemaStruct.Json.Shown
import SchemaStruct.Text.Blank
import SchemaStruct.Text.Digit

/-!
# Words of a Command Line

What each word of a command line is: a switch, possibly abbreviated and possibly with a value
attached, or a plain word. Words behind a double hyphen are plain. A word is recognized whatever
stands around it, so an ambiguous abbreviation is an error even behind a switch that ends the
program.
-/

namespace SchemaStruct.CommandLine

/-- Why a command line is refused. -/
inductive UsageError
  /-- An abbreviation of several switches. -/
  | ambiguous (word : String) (candidates : List String)
  /-- A switch without its value. -/
  | missingValue (s : Switch)
  /-- A switch with a value that it does not take. -/
  | unusedValue (s : Switch) (value : String)
  /-- A value that is not among the choices. -/
  | invalidChoice (s : Switch) (value : String) (choices : List String)
  /-- Words that mean nothing. -/
  | unrecognized (words : List String)
  /-- No document is named. -/
  | missingSchema
  deriving DecidableEq, Repr, Inhabited

namespace UsageError

/-- The message. -/
def message : UsageError → String
  | ambiguous word candidates =>
    "ambiguous option: " ++ word ++ " could match " ++ String.intercalate ", " candidates
  | missingValue s => "argument " ++ s.name ++ ": expected one argument"
  | unusedValue s value =>
    "argument " ++ s.name ++ ": ignored explicit argument " ++ Text.quotedText value
  | invalidChoice s value choices =>
    "argument " ++ s.name ++ ": invalid choice: " ++ Text.quotedText value ++ " (choose from " ++
      String.intercalate ", " (choices.map Text.quotedText) ++ ")"
  | unrecognized words => "unrecognized arguments: " ++ String.intercalate " " words
  | missingSchema => "the following arguments are required: SCHEMA"

end UsageError

/-- What stands behind a switch in the same word. -/
inductive Attached
  /-- Nothing. -/
  | nothing
  /-- A value behind an equals sign. -/
  | value (s : String)
  /-- Letters behind a switch of one letter. -/
  | letters (s : String)
  deriving DecidableEq, Repr, Inhabited

/-- What a word is. -/
inductive Token
  /-- The double hyphen that ends the switches. -/
  | separator
  /-- A plain word. -/
  | plain (word : String)
  /-- A switch. -/
  | switch (s : Switch) (attached : Attached)
  /-- A word in the form of a switch that is none. -/
  | unknown (word : String)
  deriving DecidableEq, Repr, Inhabited

namespace Token

/-- The text in front of the first equals sign, and the text behind it if there is one. -/
def splitValue (cs : List Char) : List Char × Attached :=
  let front := cs.takeWhile (· != '=')
  match cs.drop front.length with
  | _ :: rest => (front, .value (String.ofList rest))
  | [] => (front, .nothing)

/-- Whether a word reads as a negative number. A line feed at the very end does not count. -/
def isNegativeNumber (cs : List Char) : Bool :=
  let body := if cs.getLast? = some '\n' then cs.dropLast else cs
  match body with
  | '-' :: rest =>
    match Text.splitOn '.' rest with
    | [whole] => !whole.isEmpty && whole.all Text.isDecimalDigit
    | [whole, fraction] =>
      !fraction.isEmpty && whole.all Text.isDecimalDigit && fraction.all Text.isDecimalDigit
    | _ => false
  | _ => false

/-- The switches that a word abbreviates, by their spellings. -/
def candidates (front : List Char) : List (String × Switch) :=
  Switch.spellings.filter fun (spelling, _) => front.isPrefixOf spelling.toList

/-- What a word is that begins with a hyphen and is no exact spelling of a switch. -/
def ofAbbreviation (word : String) : Except UsageError Token :=
  let cs := word.toList
  let (front, attached) := splitValue cs
  let found : List (String × Token) := match cs with
    | '-' :: '-' :: _ => (candidates front).map fun (spelling, s) => (spelling, switch s attached)
    | '-' :: 'h' :: rest => [("-h", switch .help (.letters (String.ofList rest)))]
    | _ => []
  match found with
  | [(_, token)] => .ok token
  | [] =>
    -- numbers and phrases are no switches, whatever they begin with
    if isNegativeNumber cs || cs.contains ' ' then .ok (plain word) else .ok (unknown word)
  | _ => .error (.ambiguous word (found.map (·.1)))

/-- A switch with a value behind an equals sign. Behind a switch of one letter, a value reads as
more letters. -/
def ofValue (front : List Char) (s : Switch) (v : String) : Token :=
  switch s (if front.length = 2 && v != "" then .letters v else .value v)

/-- What a word is, unless it stands behind the end of the switches. -/
def ofWord (word : String) : Except UsageError Token :=
  match Switch.ofSpelling? word with
  | some s => .ok (switch s .nothing)
  | none =>
    let (front, attached) := splitValue word.toList
    match Switch.ofSpelling? (String.ofList front), attached with
    | some s, .value v => .ok (ofValue front s v)
    | _, _ =>
      if word.startsWith "-" && word != "-" then ofAbbreviation word else .ok (plain word)

/-- What the words of a command line are. -/
def ofWords : List String → Except UsageError (List Token)
  | [] => .ok []
  | word :: words =>
    -- behind the first double hyphen, even another one is a plain word
    if word = "--" then .ok (separator :: words.map plain)
    else do
      let token ← ofWord word
      return token :: (← ofWords words)

end Token

end SchemaStruct.CommandLine
