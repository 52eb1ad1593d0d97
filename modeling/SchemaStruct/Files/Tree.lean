import SchemaStruct.Fault
import SchemaStruct.Files.Path

/-!
# Files

A tree of files below the working directory, each given by its path and its content. The
directories on the way to a file exist with it. Landmarks are files and directories that are known
by one path only. What else lies outside of the tree is a directory at best: nothing in it can be
read.
-/

namespace SchemaStruct

/-- What is found at a path. -/
inductive FileEntry
  /-- A directory. -/
  | directory
  /-- A file with a text. -/
  | text (s : String)
  /-- A file with any bytes. -/
  | bytes (b : ByteArray)
  deriving Inhabited

/-- Files and directories by the names on the way to them. -/
structure FileTree where
  /-- The files and directories, each path once. -/
  entries : List (List String × FileEntry) := []
  /-- What else is known to be there, by the very path that leads to it. -/
  landmarks : List (Path × FileEntry) := []
  deriving Inhabited

namespace FileTree

/-- The tree with an entry at a path, in the place of an older one. -/
def put (t : FileTree) (path : Path) (e : FileEntry) : FileTree :=
  { t with entries := (path.parts, e) :: t.entries.filter (·.1 != path.parts) }

/-- What is found at the names on the way from the working directory. -/
def entry? (t : FileTree) (parts : List String) : Option FileEntry :=
  match t.entries.lookup parts with
  | some e => some e
  | none => if t.entries.any (parts.isPrefixOf ·.1) || parts.isEmpty then some .directory else none

/-- Where a walk along a path has come to. -/
inductive Place
  /-- Inside the tree, at the given names. -/
  | inside (parts : List String)
  /-- Outside of the tree. -/
  | outside

/-- The most bytes that a name may have. -/
def nameLimit : Nat := 255

/-- The most bytes that a whole path may have. -/
def pathLimit : Nat := 4095

/-- Walks on along some names. A file on the way is the end of it, and so is a name that does not
exist or is too long. -/
def walk (t : FileTree) (shown : String) : Place → List String → Except FileFault FileEntry
  | .inside here, [] =>
    match t.entry? here with
    | some e => .ok e
    | none => .error (.missing shown)
  | .outside, [] => .ok .directory
  | .outside, name :: names =>
    if name = ".." then walk t shown .outside names else .error (.missing shown)
  | .inside here, name :: names =>
    match t.entry? here with
    | some .directory =>
      -- a double point leads upwards from a directory, and from nothing else
      if name = ".." then
        walk t shown (if here.isEmpty then .outside else .inside here.dropLast) names
      else if nameLimit < name.utf8ByteSize then .error (.nameTooLong shown)
      else walk t shown (.inside (here ++ [name])) names
    | some _ => .error (.notDirectory shown)
    | none => .error (.missing shown)

/-- What is found at a path. -/
def find (t : FileTree) (path : Path) : Except FileFault FileEntry :=
  let shown := path.toString
  if shown.toList.contains '\x00' then .error (.missing shown)
  else if pathLimit < shown.utf8ByteSize then .error (.nameTooLong shown)
  else match t.landmarks.lookup path with
    | some e => .ok e
    | none => t.walk shown (if path.root.isEmpty then .inside [] else .outside) path.parts

/-- Whether there is a file at a path. Only a path with too long a name is no question. -/
def isFile (t : FileTree) (path : Path) : Except Fault Bool :=
  match t.find path with
  | .ok .directory => .ok false
  | .ok _ => .ok true
  | .error (.nameTooLong p) => .error (.file (.nameTooLong p))
  | .error _ => .ok false

/-- Whether there is anything at a path. Only a path with too long a name is no question. -/
def hasEntry (t : FileTree) (path : Path) : Except Fault Bool :=
  match t.find path with
  | .ok _ => .ok true
  | .error (.nameTooLong p) => .error (.file (.nameTooLong p))
  | .error _ => .ok false

/-- The text of a file as it is, or the fault that there is no file or no text. -/
def readRaw (t : FileTree) (path : Path) : Except Fault String :=
  match t.find path with
  | .ok .directory => .error (.file (.directory path.toString))
  | .ok (.text s) => .ok s
  | .ok (.bytes b) =>
    match String.fromUTF8? b with
    | some s => .ok s
    | none => .error .undecodable
  | .error f => .error (.file f)

/-- The text of a file, with all line breaks written as line feeds. -/
def read (t : FileTree) (path : Path) : Except Fault String := do
  return Text.onChars Text.unifyNewlines (← t.readRaw path)

end FileTree

end SchemaStruct
