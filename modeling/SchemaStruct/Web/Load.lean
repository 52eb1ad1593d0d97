import SchemaStruct.Files.Tree
import SchemaStruct.Log
import SchemaStruct.Web.Url

/-!
# Loading Documents

A document is loaded from a file or from the web, and has to be a JSON object. What the web answers
is a table of replies by address; an address without a reply cannot be reached. A document with a
lone surrogate is loaded like any other, and marked as one whose texts are not all there.
-/

namespace SchemaStruct

/-- Why a request has no answer. -/
inductive RequestFailure
  /-- It took too long. -/
  | timeout
  /-- The server cannot be reached. -/
  | connection
  /-- The answer is an error without a status. -/
  | withoutStatus
  /-- Another reason. -/
  | other
  deriving DecidableEq, Repr, Inhabited

/-- What comes of a request. -/
inductive Reply
  /-- An answer with its status, the type of its content if it tells, and its text. -/
  | answer (status : Int) (contentType : Option String) (body : String)
  /-- No answer. -/
  | failure (kind : RequestFailure) (reason : String)
  deriving Repr, Inhabited

/-- Where documents come from. -/
structure World where
  /-- The files below the working directory. -/
  files : FileTree := {}
  /-- What the web answers. -/
  web : List (String × Reply) := []
  deriving Inhabited

/-- A result with the notices on the way to it. -/
abbrev Logged (α : Type) := Except Fault α × List Notice

/-- A document and where it comes from. -/
structure Loaded where
  /-- Where it comes from. -/
  source : String
  /-- The members of the document. -/
  members : List (String × Json)
  /-- The first lone surrogate of the document, if it has one. The members have the replacement
  character U+FFFD for it, and nothing goes on to use them. -/
  loss : Option Json.Misread := none
  deriving Inhabited

namespace World

/-- A document that has to be an object. -/
def requireObject (source : String) (v : Json) (loss : Option Json.Misread) : Except Fault Loaded :=
  match v with
  | .obj members => .ok { source, members, loss }
  | _ => .error (.load (.notAnObject source))

/-- Loads a document from a file. -/
def loadFile (w : World) (path : Path) : Except Fault Loaded := do
  let shown := path.toString
  unless ← w.files.isFile path do throw (.load (.fileNotFound shown))
  match Json.readLossy (← w.files.read path) with
  | .ok (v, loss) => requireObject shown v loss
  | .error e => throw (if e.isLong then .misread e else .load (.invalidJson shown e))

/-- Whether a text occurs in another one. -/
def occursIn (part : List Char) : List Char → Bool
  | [] => part.isEmpty
  | c :: rest => part.isPrefixOf (c :: rest) || occursIn part rest

/-- The document of an answer, and a notice if the answer does not call itself JSON. -/
def readAnswer (url : String) (status : Int) (contentType : Option String) (body : String) :
    Logged Loaded :=
  if 400 ≤ status ∧ status < 600 then (.error (.load (.status status url)), [])
  else
    -- a wrong type of content is worth a notice and no fault
    let type := Text.lowerCase (contentType.getD "")
    let log := if occursIn "json".toList type.toList then [] else [.contentType url type]
    match Json.readLossy body with
    | .ok (v, loss) => (requireObject url v loss, log)
    | .error e => (.error (if e.isLong then .misread e else .load (.invalidResponse url e)), log)

/-- The fault of a request without an answer. -/
def requestFault (url : String) (kind : RequestFailure) (reason : String) : Fault :=
  match kind with
  | .timeout => .load (.timeout url)
  | .connection => .load (.connection url)
  | .withoutStatus => .misfit (.lacks "NoneType" "status_code")
  | .other => .load (.request url reason)

/-- Loads a document from the web. -/
def loadUrl (w : World) (url : String) : Logged Loaded :=
  match isWebAddress url with
  | .error f => (.error f, [])
  | .ok false => (.error (.load (.invalidUrl url)), [])
  | .ok true =>
    match w.web.lookup url with
    | some (.answer status contentType body) => readAnswer url status contentType body
    | some (.failure kind reason) => (.error (requestFault url kind reason), [])
    | none => (.error (requestFault url .connection ""), [])

/-- Loads a document from the web or from a file, whatever the text denotes. -/
def load (w : World) (source : String) : Logged Loaded :=
  match isWebAddress source with
  | .error f => (.error f, [])
  | .ok true => w.loadUrl source
  | .ok false => (w.loadFile (.ofString source), [])

end World

end SchemaStruct
