import SchemaStruct.Naming.Name

/-!
# Fragments of Source Text

Source text is put together from fragments: texts, names that are looked up late, and groups.
`Fragment.serialize` is the text of a fragment, and `Fragment.shown` how it appears in messages,
where groups keep their brackets.
-/

namespace SchemaStruct

/-- The brackets of a group in messages. -/
inductive Bracket
  /-- Square brackets: the group was built piece by piece. -/
  | square
  /-- Round brackets: the group has a fixed form. -/
  | round
  deriving DecidableEq, Repr, Inhabited

/-- A fragment of source text. -/
inductive Fragment
  /-- Nothing. -/
  | empty
  /-- A text. -/
  | text (s : String)
  /-- A name, whose text is looked up when the fragment is serialized. -/
  | name (n : Name)
  /-- Fragments, one behind the other. -/
  | group (bracket : Bracket) (parts : List Fragment)
  /-- A value that has no source text. -/
  | value (v : Json)
  deriving Repr, Inhabited

namespace Fragment

mutual

/-- The text of a fragment. -/
def serialize (names : NameTable) : Fragment → Except Fault String
  | empty => .ok ""
  | text s => .ok s
  | name n => names.text n
  | group _ parts => serializeAll names parts
  | value v => .error (.misfit (.notIterable v.kindName))

/-- The texts of some fragments, one behind the other. -/
def serializeAll (names : NameTable) : List Fragment → Except Fault String
  | [] => .ok ""
  | f :: fs => do
    let s ← serialize names f
    let rest ← serializeAll names fs
    return s ++ rest

end

mutual

/-- A fragment as it appears in messages. -/
def shown (names : NameTable) : Fragment → String
  | empty => "None"
  | text s => Text.quotedText s
  | name n => names.shown n
  | group .square parts => "[" ++ shownAll names parts ++ "]"
  | group .round [part] => "(" ++ shown names part ++ ",)"
  | group .round parts => "(" ++ shownAll names parts ++ ")"
  | value v => v.shown

/-- Some fragments as they appear in messages, with commas between them. -/
def shownAll (names : NameTable) : List Fragment → String
  | [] => ""
  | [f] => shown names f
  | f :: fs => shown names f ++ ", " ++ shownAll names fs

end

mutual

/-- The fragment that a value stands for: of an object only its names count. -/
def ofJson : Json → Fragment
  | .null => empty
  | .str s => text s
  | .arr items => group .square (ofItems items)
  | .obj members => group .square (members.map fun m => text m.1)
  | v => value v

/-- The fragments that some values stand for. -/
def ofItems : List Json → List Fragment
  | [] => []
  | v :: vs => ofJson v :: ofItems vs

end

/-- Some fragments with a separator between neighbours. -/
def intersperse (separator : Fragment) : List Fragment → List Fragment
  | [] => []
  | [f] => [f]
  | f :: fs => f :: separator :: intersperse separator fs

end Fragment

end SchemaStruct
