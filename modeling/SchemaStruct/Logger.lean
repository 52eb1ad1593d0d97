import SchemaStruct.Files.Tree
import SchemaStruct.Text.Case

/-!
# The Logger

The logger of the package and what it has written to files. Records pass it if their level reaches
its threshold; the ones that pass go to its handlers, of which a file handler appends a line to its
file. Loggers below it have no settings of their own.
-/

namespace SchemaStruct

/-- The least level of the records that pass a logger. -/
inductive Threshold
  /-- A number. -/
  | number (n : Int)
  /-- A truth value, which counts as one or zero. -/
  | flag (b : Bool)
  deriving DecidableEq, Repr, Inhabited

namespace Threshold

/-- The threshold as a number. -/
def value : Threshold → Int
  | number n => n
  | flag b => if b then 1 else 0

/-- The threshold as the value that it came from. -/
def toJson : Threshold → Json
  | number n => .int n
  | flag b => .bool b

end Threshold

/-- Where records go. -/
inductive Handler
  /-- To the console. -/
  | console
  /-- To the end of a file. -/
  | file (path : Path)
  deriving DecidableEq, Repr, Inhabited

/-- The logger of the package. -/
structure Logger where
  /-- The least level of the records that pass. -/
  threshold : Threshold := .number 10
  /-- Whether records also go to the handlers above. -/
  propagates : Bool := true
  /-- Where records go. -/
  handlers : List Handler := []
  /-- The files. -/
  files : FileTree := {}
  deriving Inhabited

namespace Logger

/-- The name of the logger. -/
def rootName : String := "structgen"

/-- The full name of a logger: every name is one below the package. -/
def qualify (name : String) : String :=
  if name = rootName || name.startsWith (rootName ++ ".") then name else rootName ++ "." ++ name

/-- The names of levels. Of two names for a number, the first one is written. -/
def levels : List (String × Int) :=
  [("CRITICAL", 50), ("FATAL", 50), ("ERROR", 40), ("WARNING", 30), ("WARN", 30), ("INFO", 20),
    ("DEBUG", 10), ("NOTSET", 0)]

/-- The threshold where none is set: that of warnings. -/
def defaultThreshold : Int := 30

/-- The threshold that a value stands for: a number, or the name of a level in any case of letters.
Unknown names stand for the default. -/
def readThreshold : Json → Except Fault Threshold
  | .str s => .ok (.number ((levels.lookup (Text.upperCase s)).getD defaultThreshold))
  | .int n => .ok (.number n)
  | .bool b => .ok (.flag b)
  | v => .error (.misfit (.notLevel v.kindName))

/-- The names with one more of them; a double point takes back the last name. -/
def follow (names : List String) (name : String) : List String :=
  if name = ".." then names.dropLast else names ++ [name]

/-- The path without double points: each one takes back the name in front of it. -/
def direct (path : Path) : Path := { path with parts := path.parts.foldl follow [] }

/-- The files when one of them is opened for appending: it is created if it does not exist. -/
def openFile (files : FileTree) (path : Path) : Except Fault FileTree :=
  match files.find path with
  | .ok .directory => .error (.file (.directory path.toString))
  | .ok _ => .ok files
  | .error (.missing shown) =>
    match files.find { path with parts := path.parts.dropLast } with
    | .ok .directory => .ok (files.put path (.text ""))
    | _ => .error (.file (.missing shown))
  | .error f => .error (.file f)

/-- The file handler that a value asks for, if it asks for one, and the files with its file. -/
def openHandler (files : FileTree) (v : Json) : Except Fault (List Handler × FileTree) :=
  if !v.truthy then .ok ([], files)
  else match v with
    | .str s => do
      let path := direct (.ofString s)
      return ([.file path], ← openFile files path)
    | v => .error (.misfit (.notPath v.kindName))

/-- Sets up the logger with a threshold, a console handler and possibly a file handler. If the file
cannot be opened, the threshold and the console handler are set nevertheless. -/
def setup (l : Logger) (level file : Json) : Except Fault Unit × Logger :=
  match readThreshold level with
  | .error f => (.error f, l)
  | .ok threshold =>
    -- old handlers are gone before the new file is opened
    let l := { l with threshold, handlers := [.console] }
    match openHandler l.files file with
    | .error f => (.error f, l)
    | .ok (more, files) =>
      (.ok (), { l with handlers := l.handlers ++ more, files, propagates := false })

/-- The least level that passes: the default one if the logger has none. -/
def effective (l : Logger) : Int :=
  if l.threshold.value = 0 then defaultThreshold else l.threshold.value

/-- The line of a record in a file. -/
def line (level : Int) (name text : String) : String :=
  let levelName := ((levels.find? (·.2 == level)).map (·.1)).getD ""
  levelName ++ " " ++ qualify name ++ ": " ++ text ++ "\n"

/-- The files with a text at the end of one of them. -/
def append (files : FileTree) (path : Path) (text : String) : FileTree :=
  match files.readRaw path with
  | .ok old => files.put path (.text (old ++ text))
  | .error _ => files

/-- Logs a record through the logger of a name. -/
def log (l : Logger) (name : String) (level : Int) (text : String) : Logger :=
  if level < l.effective then l
  else { l with files := l.handlers.foldl (fun files h => match h with
    | .console => files
    | .file path => append files path (line level name text)) l.files }

end Logger

end SchemaStruct
