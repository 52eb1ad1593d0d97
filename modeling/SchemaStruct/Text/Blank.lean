import SchemaStruct.Text.CharSet

/-!
# Blanks, Trimming and Lines

Texts are handled as lists of characters. This module cuts them: at their ends (`trim`), at a
separator (`splitOn`) and at line breaks (`lines`). The blank characters and the line breaks are
those of the Unicode standard together with the four information separators of ASCII.
-/

namespace SchemaStruct.Text

/-- The blank characters: the separators of lines, paragraphs and words. -/
def blank : CharSet :=
  ⟨[(9, 13), (28, 32), (133, 133), (160, 160), (5760, 5760), (8192, 8202), (8232, 8233),
    (8239, 8239), (8287, 8287), (12288, 12288)]⟩

/-- Whether a character is blank. -/
def isBlank (c : Char) : Bool := blank.contains c

/-- The text without its longest ending of characters with property `p`. -/
def trimEndWhile (p : Char → Bool) (cs : List Char) : List Char :=
  (cs.reverse.dropWhile p).reverse

/-- The text without characters with property `p` at either end. -/
def trimWhile (p : Char → Bool) (cs : List Char) : List Char :=
  trimEndWhile p (cs.dropWhile p)

/-- The text without blanks at its end. -/
def trimEnd (cs : List Char) : List Char := trimEndWhile isBlank cs

/-- The text without blanks at either end. -/
def trim (cs : List Char) : List Char := trimWhile isBlank cs

/-- The pieces between the occurrences of a separator. There is always at least one piece. -/
def splitOn (sep : Char) : List Char → List (List Char)
  | [] => [[]]
  | c :: rest =>
    if c = sep then [] :: splitOn sep rest
    else match splitOn sep rest with
      | [] => [[c]]
      | piece :: pieces => (c :: piece) :: pieces

/-- The pieces, joined by a separator. -/
def joinWith (sep : List Char) : List (List Char) → List Char
  | [] => []
  | [piece] => piece
  | piece :: pieces => piece ++ sep ++ joinWith sep pieces

/-- Splitting a text gives at least one piece. -/
theorem splitOn_ne_nil (sep : Char) (cs : List Char) : splitOn sep cs ≠ [] := by
  induction cs with
  | nil => simp [splitOn]
  | cons c rest ih =>
    rw [splitOn]
    split
    · simp
    · cases h : splitOn sep rest <;> simp

/-- Joining the pieces by the separator gives back the text. -/
theorem joinWith_splitOn (sep : Char) (cs : List Char) : joinWith [sep] (splitOn sep cs) = cs := by
  induction cs with
  | nil => rfl
  | cons c rest ih =>
    rw [splitOn]
    cases h : splitOn sep rest with
    | nil => exact absurd h (splitOn_ne_nil sep rest)
    | cons piece pieces =>
      rw [h] at ih
      split
      · next hc => simp [joinWith, ih, hc]
      · cases pieces with
        | nil => simpa [joinWith] using ih
        | cons p ps => simpa [joinWith] using ih

/-- Whether a character ends a line. A carriage return with a line feed behind it is one break. -/
def isLineBreak (c : Char) : Bool :=
  c = '\n' || c = '\r' || c = '\x0b' || c = '\x0c' || c = '\x1c' || c = '\x1d' || c = '\x1e' ||
    c = '\u0085' || c = '\u2028' || c = '\u2029'

/-- The lines of a text, where `line` holds the characters of the current line in reverse. A break
at the end of the text opens no further line. -/
def linesFrom (line : List Char) : List Char → List (List Char)
  | [] => if line.isEmpty then [] else [line.reverse]
  | '\r' :: '\n' :: rest => line.reverse :: linesFrom [] rest
  | c :: rest =>
    if isLineBreak c then line.reverse :: linesFrom [] rest else linesFrom (c :: line) rest

/-- The lines of a text, without their breaks. -/
def lines (cs : List Char) : List (List Char) := linesFrom [] cs

/-- The text with every carriage return, alone or before a line feed, turned into one line feed. -/
def unifyNewlines : List Char → List Char
  | [] => []
  | '\r' :: '\n' :: rest => '\n' :: unifyNewlines rest
  | c :: rest => (if c = '\r' then '\n' else c) :: unifyNewlines rest

/-- The number of characters from which on nothing is a text. -/
def lengthLimit : Int := 9223372036854775808

/-- The number of characters from which on a text does not fit into the memory. -/
def memoryLimit : Int := 100000000000

/-- A function on lists of characters, as one on texts. -/
def onChars (f : List Char → List Char) (s : String) : String := String.ofList (f s.toList)

end SchemaStruct.Text
