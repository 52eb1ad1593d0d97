import SchemaStruct.Text.Emoji

/-!
# The Console

How an error message appears on the console. Text in square brackets could be markup: brackets that
would open a tag are kept by the console, and those that would not lose a backslash in front of
them. Names of emoji between colons become the emoji. Control characters do not appear, and
tabulators become blanks up to the next stop.
-/

namespace SchemaStruct.CommandLine.Console

/-- Whether the text behind a bracket makes it the beginning of a tag: a small letter or one of
three signs, and a closing bracket before the next opening one. -/
def opensTag : List Char → Bool
  | [] => false
  | c :: rest =>
    (c.isLower || c = '#' || c = '/' || c = '@') && (rest.takeWhile (· != '[')).contains ']'

/-- The text, cut in front of each tag and behind it. `acc` holds the piece so far in reverse, and
`inTag` tells whether it is a tag. -/
def pieces (inTag : Bool) (acc : List Char) : List Char → List (List Char)
  | [] => [acc.reverse]
  | c :: rest =>
    if inTag && c = ']' then (c :: acc).reverse :: pieces false [] rest
    else if !inTag && c = '[' && opensTag rest then acc.reverse :: pieces true [c] rest
    else pieces inTag (c :: acc) rest

/-- The text without the backslashes right in front of brackets. -/
def dropBackslashes : List Char → List Char
  | '\\' :: '[' :: rest => '[' :: dropBackslashes rest
  | c :: rest => c :: dropBackslashes rest
  | [] => []

/-- The text with a single backslash at its end written twice. -/
def closeBackslash (cs : List Char) : List Char :=
  match cs.reverse with
  | '\\' :: '\\' :: _ => cs
  | '\\' :: _ => cs ++ ['\\']
  | _ => cs

/-- Whether the console leaves a character out. -/
def isSkipped (c : Char) : Bool :=
  c.toNat = 7 || c.toNat = 8 || c.toNat = 11 || c.toNat = 12 || c.toNat = 13

/-- The distance between two stops of the tabulator. -/
def tabStop : Nat := 8

/-- The parts of a line with blanks in place of the tabulators between them. A tabulator becomes a
blank and as many more as lead to the next stop. -/
def joinAtStops (column : Nat) : List (List Char) → List Char
  | [] => []
  | [part] => part
  | part :: parts =>
    let column := column + Text.width (part ++ [' '])
    let blanks := (tabStop - column % tabStop) % tabStop
    part ++ ' ' :: List.replicate blanks ' ' ++ joinAtStops (column + blanks) parts

/-- The text with blanks in place of tabulators. -/
def expandTabs (cs : List Char) : List Char :=
  Text.joinWith ['\n'] ((Text.splitOn '\n' cs).map fun line =>
    joinAtStops 0 (Text.splitOn '\t' line))

/-- What stands in front of an error message. -/
def errorHead : List Char := "✗ Error: ".toList

/-- An error message as it appears on the console. -/
def errorText (message : String) : String :=
  -- a tag is a piece of its own: backslashes in front of it stay, and no name reaches into it
  let shown := (pieces false [] (closeBackslash message.toList)).flatMap fun piece =>
    Text.replaceEmoji (dropBackslashes piece)
  -- controls go last: one between a backslash and a bracket keeps them apart
  String.ofList (expandTabs (errorHead ++ shown.filter fun c => !isSkipped c) ++ ['\n'])

end SchemaStruct.CommandLine.Console
