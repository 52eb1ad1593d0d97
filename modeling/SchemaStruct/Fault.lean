import SchemaStruct.Schema.Kind
import SchemaStruct.Json.Read
import SchemaStruct.Json.Shown

/-!
# Faults

Every way in which an operation can fail, as a cause; `Fault.message` is the one place that words
them. Some faults are about a value that does not fit the operation it is put to (`Misfit`):
their wording is that of the operation and says nothing about this program, so answers leave it
out. `Fault.isWorded` says for a fault whether its message is the program's own from the outermost
cause to the innermost.
-/

namespace SchemaStruct

/-- How a value fails to fit an operation. The texts are kinds of values. -/
inductive Misfit
  /-- It cannot be walked through. -/
  | notIterable (kind : String)
  /-- It cannot be looked up in a set. -/
  | notHashable (kind : String)
  /-- It cannot be compared with a number. -/
  | notComparable (kind : String)
  /-- It is no number of repetitions. -/
  | notCount (kind : String)
  /-- It is a number of repetitions beyond every text. -/
  | countTooLarge
  /-- It is a number of repetitions that makes a text too long for the memory. -/
  | textTooLong
  /-- It stands in a list of pairs and is no list itself. -/
  | notPair (index : Nat)
  /-- It lacks an operation. -/
  | lacks (kind operation : String)
  /-- It is a setting whose name is no text. -/
  | nameNotText
  /-- It is a setting that nobody knows. -/
  | unknownSetting (name : String)
  /-- It is a setting whose name is taken already. -/
  | repeatedSetting (name : String)
  /-- It stands for a set of settings and is none. -/
  | notSettings (kind : String)
  /-- It cannot be put behind or between texts. -/
  | notText (kind : String)
  /-- It is no path. -/
  | notPath (kind : String)
  /-- It is no level of severity. -/
  | notLevel (kind : String)
  /-- It is a key that a table does not have. -/
  | missingKey (key : String)
  deriving DecidableEq, Repr, Inhabited

namespace Misfit

/-- Whether the fault lies in a missing operation rather than in the kind of the value. -/
def isMissingOperation : Misfit → Bool
  | lacks _ _ => true
  | _ => false

/-- The message. -/
def message : Misfit → String
  | notIterable kind => "'" ++ kind ++ "' object is not iterable"
  | notHashable kind => "unhashable type: '" ++ kind ++ "'"
  | notComparable kind => "'<' not supported between instances of '" ++ kind ++ "' and 'int'"
  | notCount kind => "can't multiply sequence by non-int of type '" ++ kind ++ "'"
  | countTooLarge => "cannot fit 'int' into an index-sized integer"
  | textTooLong => ""
  | notPair index =>
    "cannot convert dictionary update sequence element #" ++ toString index ++ " to a sequence"
  | lacks kind operation => "'" ++ kind ++ "' object has no attribute '" ++ operation ++ "'"
  | nameNotText => "keywords must be strings"
  | unknownSetting name => "got an unexpected keyword argument '" ++ name ++ "'"
  | repeatedSetting name => "got multiple values for argument '" ++ name ++ "'"
  | notSettings kind => "argument after ** must be a mapping, not " ++ kind
  | notText kind => "expected a text, got " ++ kind
  | notPath kind => "expected a path, got " ++ kind
  | notLevel kind => "expected a level, got " ++ kind
  | missingKey key => Text.quotedText key

end Misfit

/-- Why a document or a graph is refused. -/
inductive SchemaFault
  /-- The document is no object. -/
  | notAnObject (kind : String)
  /-- The document allows everything. -/
  | describesAnything
  /-- The document describes something else than a record. -/
  | describesOther (kind : FieldKind)
  /-- Something that is no schema stands where one belongs. -/
  | invalidNode (hint shown : String)
  /-- A type name that no schema may have. -/
  | unsupportedType (hint shown : String)
  /-- A reference out of the document. -/
  | foreignReference (ref : String)
  /-- A reference to nothing. -/
  | unresolvedReference (ref : String)
  /-- A reference to something that is no schema. -/
  | notASchema (ref : String)
  /-- A record that the graph does not have. -/
  | unknownRecord (key : String)
  /-- A record that the graph has already. -/
  | duplicateRecord (key : String)
  deriving DecidableEq, Repr, Inhabited

namespace SchemaFault

/-- The message. -/
def message : SchemaFault → String
  | notAnObject kind => "Top-level schema must be a JSON object, got " ++ kind
  | describesAnything => "Top-level schema must describe an object"
  | describesOther kind => "Top-level schema must describe an object, got " ++ kind.name
  | invalidNode hint shown => "Invalid schema for '" ++ hint ++ "': " ++ shown
  | unsupportedType hint shown => "Unsupported schema type for '" ++ hint ++ "': " ++ shown
  | foreignReference ref => "Only local references are supported: " ++ ref
  | unresolvedReference ref => "Cannot resolve reference: " ++ ref
  | notASchema ref => "Reference does not point to a schema: " ++ ref
  | unknownRecord key => "Unknown record type: " ++ key
  | duplicateRecord key => "Duplicate record type: " ++ key

end SchemaFault

/-- Why a file or a directory cannot be used. -/
inductive FileFault
  /-- There is nothing at the path. -/
  | missing (path : String)
  /-- There is a directory at the path. -/
  | directory (path : String)
  /-- A file stands in the middle of the path. -/
  | notDirectory (path : String)
  /-- A part of the path is too long for a name. -/
  | nameTooLong (path : String)
  deriving DecidableEq, Repr, Inhabited

namespace FileFault

/-- The message. -/
def message : FileFault → String
  | missing path => "[Errno 2] No such file or directory: " ++ Text.quotedText path
  | directory path => "[Errno 21] Is a directory: " ++ Text.quotedText path
  | notDirectory path => "[Errno 20] Not a directory: " ++ Text.quotedText path
  | nameTooLong path => "[Errno 36] File name too long: " ++ Text.quotedText path

end FileFault

/-- Why a configuration is refused. -/
inductive ConfigFault
  /-- A setting has a value that is not among its choices. -/
  | invalidChoice (setting shown : String) (choices : List String)
  /-- The configuration file does not exist. -/
  | fileNotFound (path : String)
  /-- The configuration file has another suffix. -/
  | notJsonFile (path : String)
  /-- The configuration file is malformed. -/
  | invalidJson (path : String) (cause : Json.Misread)
  /-- The configuration file cannot be read. -/
  | unreadable (path : String) (cause : FileFault)
  /-- The configuration file holds something else than an object. -/
  | notAnObject (path : String)
  deriving DecidableEq, Repr, Inhabited

namespace ConfigFault

/-- The message. -/
def message : ConfigFault → String
  | invalidChoice setting shown choices =>
    "Invalid " ++ setting ++ ": " ++ shown ++ " (expected one of: " ++
      String.intercalate ", " choices ++ ")"
  | fileNotFound path => "Configuration file not found: " ++ path
  | notJsonFile path => "Configuration file must be JSON: " ++ path
  | invalidJson path cause => "Invalid JSON in configuration file " ++ path ++ ": " ++ cause.message
  | unreadable path cause => "Failed to load configuration file " ++ path ++ ": " ++ cause.message
  | notAnObject path => "Configuration file must contain a JSON object: " ++ path

end ConfigFault

/-- Why a document cannot be loaded. -/
inductive LoadFault
  /-- There is no such file. -/
  | fileNotFound (path : String)
  /-- The file is malformed. -/
  | invalidJson (path : String) (cause : Json.Misread)
  /-- The document is no object. -/
  | notAnObject (source : String)
  /-- The address is none of the web. -/
  | invalidUrl (url : String)
  /-- The answer did not come in time. -/
  | timeout (url : String)
  /-- The server cannot be reached. -/
  | connection (url : String)
  /-- The server answers with an error. -/
  | status (code : Int) (url : String)
  /-- The answer is malformed. -/
  | invalidResponse (url : String) (cause : Json.Misread)
  /-- The request fails in another way. -/
  | request (url reason : String)
  deriving DecidableEq, Repr, Inhabited

namespace LoadFault

/-- The message. -/
def message : LoadFault → String
  | fileNotFound path => "File not found: " ++ path
  | invalidJson path cause => "Invalid JSON in file " ++ path ++ ": " ++ cause.message
  | notAnObject source => "Schema in " ++ source ++ " must be a JSON object"
  | invalidUrl url => "Invalid URL: " ++ url
  | timeout url => "Request timeout for URL: " ++ url
  | connection url => "Connection error for URL: " ++ url
  | status code url =>
    "HTTP error " ++ String.ofList (integerText code) ++ " for URL: " ++ url
  | invalidResponse url cause => "Invalid JSON response from URL " ++ url ++ ": " ++ cause.message
  | request url reason => "Request error for URL " ++ url ++ ": " ++ reason

end LoadFault

/-- Why a text has no value of the kind asked for. -/
inductive ValueFault
  /-- A value is not among the members of an enumeration. -/
  | notAMember (shown enumeration : String)
  /-- An entry of a list of pairs has another length. -/
  | pairLength (index length : Nat)
  /-- The brackets of an address do not match, or do not stand around its host. -/
  | brackets
  /-- The text between the brackets is no address of a host. -/
  | hostAddress (shown : String)
  /-- The text between the brackets has the form of a future version and is not of it. -/
  | futureAddress
  /-- The text between the brackets is an address of the old version. -/
  | oldAddress
  /-- The host holds a character whose plain form is a delimiter. -/
  | hostDelimiter (host : String)
  /-- A text of another origin. -/
  | refused (text : String)
  deriving DecidableEq, Repr, Inhabited

namespace ValueFault

/-- The message. -/
def message : ValueFault → String
  | notAMember shown enumeration => shown ++ " is not a valid " ++ enumeration
  | pairLength index length =>
    "dictionary update sequence element #" ++ toString index ++ " has length " ++
      toString length ++ "; 2 is required"
  | brackets => "Invalid IPv6 URL"
  | hostAddress shown => shown ++ " does not appear to be an IPv4 or IPv6 address"
  | futureAddress => "IPvFuture address is invalid"
  | oldAddress => "An IPv4 address cannot be in brackets"
  | hostDelimiter host =>
    "netloc '" ++ host ++ "' contains invalid characters under NFKC normalization"
  | refused text => text

end ValueFault

/-- What is wrong with a template. -/
inductive TemplateFlaw
  /-- Its text is malformed. -/
  | malformed
  /-- It uses a filter that does not exist. -/
  | unknownFilter
  /-- It cannot be filled in with the values given. -/
  | unfillable
  deriving DecidableEq, Repr, Inhabited

/-- Why an operation failed. -/
inductive Fault
  /-- A value does not fit an operation. -/
  | misfit (cause : Misfit)
  /-- A text has no value of the kind asked for. -/
  | value (cause : ValueFault)
  /-- A text is malformed. -/
  | misread (cause : Json.Misread)
  /-- A document or a graph is refused. -/
  | schema (cause : SchemaFault)
  /-- The parts of a schema contain each other without end. -/
  | endless
  /-- A display name is used before it is assigned. -/
  | unassignedName (proposed : String)
  /-- A handle names no record. -/
  | unknownName (shown : String)
  /-- A default rendering has another shape than its refinement relies on. -/
  | unexpectedShape (property shown : String)
  /-- A configuration is refused. -/
  | config (cause : ConfigFault)
  /-- A document cannot be loaded. -/
  | load (cause : LoadFault)
  /-- A file cannot be used. -/
  | file (cause : FileFault)
  /-- The bytes of a file are no text. -/
  | undecodable
  /-- There is no template of that name. -/
  | missingTemplate (name : String)
  /-- Something is wrong with a template. -/
  | brokenTemplate (flaw : TemplateFlaw)
  /-- A template cannot be rendered; without a name, it is a template given as a text. -/
  | rendering (template : Option String) (cause : Fault)
  /-- A generator lacks its template. -/
  | noFileTemplate (name : String)
  /-- A generator refuses a graph. -/
  | refusedGraph (text : String)
  /-- The generation of code ended in a fault. -/
  | generation (cause : Fault)
  /-- What is registered is no generator. -/
  | notAGenerator
  /-- An alias is a language already. -/
  | aliasIsLanguage (name : String)
  /-- An alias belongs to another language. -/
  | aliasTaken (name target : String)
  /-- No generator is registered under that name. -/
  | unknownLanguage (language : String) (available : List String)
  /-- A configuration is given in a form that is none. -/
  | invalidConfig (kind : String)
  /-- A generator cannot be created. -/
  | creation (language : String) (cause : Fault)
  deriving Repr, Inhabited

namespace Fault

/-- The message. -/
def message : Fault → String
  | misfit cause => cause.message
  | value cause => cause.message
  | misread cause => cause.message
  | schema cause => cause.message
  | endless => "maximum recursion depth exceeded"
  | unassignedName proposed => "Name for '" ++ proposed ++ "' has not been assigned"
  | unknownName shown => "Could not look up record type by name: " ++ shown
  | unexpectedShape property shown =>
    "Unexpected default definition for property " ++ property ++ ": " ++ shown
  | config cause => cause.message
  | load cause => cause.message
  | file cause => cause.message
  | undecodable => "invalid bytes"
  | missingTemplate name => name
  | brokenTemplate _ => "invalid template"
  | rendering (some name) cause => "Failed to render template " ++ name ++ ": " ++ cause.message
  | rendering none cause => "Failed to render template string: " ++ cause.message
  | noFileTemplate name => name ++ " template not found"
  | refusedGraph text => text
  | generation cause => "Code generation failed: " ++ cause.message
  | notAGenerator => "Generator class must inherit from CodeGenerator"
  | aliasIsLanguage name => "Alias '" ++ name ++ "' conflicts with existing primary language"
  | aliasTaken name target => "Alias '" ++ name ++ "' already points to '" ++ target ++ "'"
  | unknownLanguage language available =>
    "No generator registered for language: " ++ language ++ ". Available: " ++
      String.intercalate ", " available
  | invalidConfig kind => "Invalid config type: <class '" ++ kind ++ "'>"
  | creation language cause =>
    "Failed to create " ++ language ++ " generator: " ++ cause.message

/-- Whether the message is worded by this program, and so is that of every fault behind it. -/
def isWorded : Fault → Bool
  | misfit _ => false
  | endless => false
  | undecodable => false
  | brokenTemplate _ => false
  | file (.directory _) => true
  | file _ => false
  | rendering _ cause => cause.isWorded
  | generation cause => cause.isWorded
  | creation _ cause => cause.isWorded
  | _ => true

/-- The message, if it is worded by this program. -/
def message? (f : Fault) : Option String := if f.isWorded then some f.message else none

/-- Reads a member of an enumeration by its name; other values are refused by what they show. -/
def readMember {α : Type} (enumeration : String) (ofName? : String → Option α) (v : Json) :
    Except Fault α :=
  match v.text?.bind ofName? with
  | some member => .ok member
  | none => .error (.value (.notAMember v.shown enumeration))

end Fault

namespace Json

/-- What one meets when walking through a value, or the fault that one cannot. -/
def walk (v : Json) : Except Fault (List Json) :=
  match v.walk? with
  | some items => .ok items
  | none => .error (.misfit (.notIterable v.kindName))

/-- Checks that a value can be looked up in a set. -/
def requireHashable (v : Json) : Except Fault Unit :=
  if v.isHashable then .ok () else .error (.misfit (.notHashable v.kindName))

end Json

end SchemaStruct
