import SchemaStruct.Fault
import SchemaStruct.Text.Blank

/-!
# Naming Styles

The five styles of identifiers and how a name is brought into one of them. A name is first cleaned:
what is neither a letter or digit of ASCII nor a connector becomes an underscore, connectors at the
ends go, and an empty rest becomes `field`. All later steps meet ASCII only. The styles are built
on the snake form: words in small letters between single underscores, where a capital behind a
small letter or a digit opens a word.
-/

namespace SchemaStruct

/-- A style of identifiers. -/
inductive NamingStyle
  /-- Like `user_name`. -/
  | snake
  /-- Like `userName`. -/
  | camel
  /-- Like `UserName`. -/
  | pascal
  /-- Like `user-name`. -/
  | kebab
  /-- Like `USER_NAME`. -/
  | screamingSnake
  deriving DecidableEq, Repr, Inhabited

namespace NamingStyle

/-- All styles. -/
def all : List NamingStyle := [snake, camel, pascal, kebab, screamingSnake]

/-- The name of a style in settings. -/
def name : NamingStyle → String
  | snake => "snake"
  | camel => "camel"
  | pascal => "pascal"
  | kebab => "kebab"
  | screamingSnake => "screaming_snake"

/-- The style of a given name. -/
def ofName? (s : String) : Option NamingStyle := all.find? (·.name == s)

/-- The style that a setting names. -/
def read (v : Json) : Except Fault NamingStyle := Fault.readMember "NamingCase" ofName? v

end NamingStyle

namespace Naming

/-- Whether a character joins words: the underscore and the hyphen. -/
def isConnector (c : Char) : Bool := c = '_' || c = '-'

/-- A name without foreign characters, and without connectors at its ends; never empty. -/
def clean (cs : List Char) : List Char :=
  let kept := cs.map fun c => if c.isAlphanum || isConnector c then c else '_'
  match Text.trimWhile isConnector kept with
  | [] => ['f', 'i', 'e', 'l', 'd']
  | rest => rest

/-- A name with an underscore between a small letter or digit and the capital behind it. -/
def splitCapitals : List Char → List Char
  | a :: b :: rest =>
    if (a.isLower || a.isDigit) && b.isUpper then a :: '_' :: splitCapitals (b :: rest)
    else a :: splitCapitals (b :: rest)
  | cs => cs

/-- A name with every run of underscores turned into one. -/
def squeeze : List Char → List Char
  | '_' :: '_' :: rest => squeeze ('_' :: rest)
  | c :: rest => c :: squeeze rest
  | [] => []

/-- The snake form of a name. -/
def snake (cs : List Char) : List Char :=
  -- hyphens join words as underscores do, and capitals open them
  let joined := cs.map fun c => if c = '-' then '_' else c
  Text.trimWhile (· == '_') (squeeze ((splitCapitals joined).map Char.toLower))

/-- The words of a name. -/
def words (cs : List Char) : List (List Char) := Text.splitOn '_' (snake cs)

/-- A word with a capital in front and small letters behind. -/
def capitalize : List Char → List Char
  | [] => []
  | c :: rest => c.toUpper :: rest.map Char.toLower

/-- A clean name in a style. -/
def restyle (style : NamingStyle) (cs : List Char) : List Char :=
  match style with
  | .snake => snake cs
  | .camel =>
    match words cs with
    | [] => []
    | first :: rest => first.map Char.toLower ++ rest.flatMap capitalize
  | .pascal => (words cs).flatMap capitalize
  | .kebab => (snake cs).map fun c => if c = '_' then '-' else c
  | .screamingSnake => (snake cs).map Char.toUpper

/-- A name with an underscore in front if it begins with a digit. -/
def guardDigit : List Char → List Char
  | c :: rest => if c.isDigit then '_' :: c :: rest else c :: rest
  | [] => []

/-- The identifier that a name becomes in a style, whatever other names there are. -/
def identifier (style : NamingStyle) (name : String) : String :=
  String.ofList (guardDigit (restyle style (clean name.toList)))

end Naming

end SchemaStruct
