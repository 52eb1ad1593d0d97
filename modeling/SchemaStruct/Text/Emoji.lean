import SchemaStruct.Text.Case
import SchemaStruct.Text.Code
import SchemaStruct.Text.EmojiTable
import SchemaStruct.Text.Width

/-!
# Emoji

A name between colons stands for an emoji. `findEmoji?` looks a name up, and `replaceEmoji` puts
the emoji in the place of every name in a text that is one.
-/

namespace SchemaStruct.Text

/-- An emoji. -/
structure Emoji where
  /-- Its characters. -/
  chars : List Char
  /-- Whether it comes in skin tones. -/
  toned : Bool
  deriving DecidableEq, Repr, Inhabited

/-- The character that asks for the form of a text. -/
def textForm : Char := '\ufe0e'

namespace Emoji

/-- The emoji of an entry behind its equals sign. -/
def ofCode (code : List Char) : Emoji :=
  { chars := charsOfCode (code.filter (· != '+')), toned := code.contains '+' }

/-- The emoji of a name among the entries of a line. -/
def inLine? (name line : List Char) : Option Emoji :=
  (splitOn ' ' line).findSome? fun entry =>
    if entry.takeWhile (· != '=') = name then some (ofCode (entry.drop (name.length + 1))) else none

/-- The emoji of a name in the table. -/
def ofName? (name : List Char) : Option Emoji :=
  emojiTable.findSome? fun line => inLine? name line.toList

/-- The endings of names that ask for a skin tone, and the characters for it. -/
def tones : List (String × Char) :=
  [("_light_skin_tone", Char.ofNat 0x1F3FB), ("_medium-light_skin_tone", Char.ofNat 0x1F3FC),
    ("_medium_skin_tone", Char.ofNat 0x1F3FD), ("_medium-dark_skin_tone", Char.ofNat 0x1F3FE),
    ("_dark_skin_tone", Char.ofNat 0x1F3FF)]

/-- The characters of an emoji in a skin tone. The tone stands behind the first character, in the
place of a demand for a picture. -/
def withTone (e : Emoji) (tone : Char) : List Char :=
  let rest := e.chars.drop 1
  e.chars.take 1 ++ tone :: (if rest.head? = some pictureForm then rest.drop 1 else rest)

/-- The characters of a name that asks for a skin tone. -/
def tonedOfName? (name : List Char) : Option (List Char) :=
  tones.findSome? fun (ending, tone) =>
    if ending.toList.isSuffixOf name then
      match ofName? (name.take (name.length - ending.length)) with
      | some e => if e.toned then some (e.withTone tone) else none
      | none => none
    else none

end Emoji

/-- The characters of the emoji with a given name. -/
def findEmoji? (name : List Char) : Option (List Char) :=
  match Emoji.ofName? name with
  | some e => some e.chars
  | none => Emoji.tonedOfName? name

/-- A name up to the colon that ends it, a demand for a form in front of that colon, and the text
behind it. The text begins behind the first colon, and `acc` holds the name so far in reverse. -/
def readEmojiName (acc : List Char) : List Char → Option (List Char × List Char × List Char)
  | [] => none
  | ':' :: rest => some (acc.reverse, [], rest)
  | '-' :: 'e' :: 'm' :: 'o' :: 'j' :: 'i' :: ':' :: rest => some (acc.reverse, [pictureForm], rest)
  | '-' :: 't' :: 'e' :: 'x' :: 't' :: ':' :: rest => some (acc.reverse, [textForm], rest)
  | c :: rest => if isBlank c then none else readEmojiName (c :: acc) rest

/-- What is left behind a name is shorter than the text. -/
theorem length_of_readEmojiName {acc cs name form rest : List Char}
    (h : readEmojiName acc cs = some (name, form, rest)) : rest.length < cs.length := by
  fun_induction readEmojiName acc cs <;> simp_all <;> grind

/-- The text with emoji in the place of their names between colons, in any case of letters. A name
that no emoji has stays as it is, and so do the colons around it. -/
def replaceEmoji : List Char → List Char
  | [] => []
  | ':' :: cs =>
    match h : readEmojiName [] cs with
    | none => ':' :: replaceEmoji cs
    | some (name, form, rest) =>
      let found := findEmoji? (lowerCase (String.ofList name)).toList
      have := length_of_readEmojiName h
      (match found with
        | some chars => chars ++ form
        | none => ':' :: cs.take (cs.length - rest.length)) ++ replaceEmoji rest
  | c :: cs => c :: replaceEmoji cs
  termination_by cs => cs.length

end SchemaStruct.Text
