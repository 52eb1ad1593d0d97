import SchemaStruct.Source.Fragment
import SchemaStruct.Text.Blank

/-!
# Pages

A page collects source lines. A `Printer` writes on it: lines at the current depth, indented parts,
blocks and comments. The namespaces that the lines need are collected beside them. What was written
before a fault stays on the page, and the depth is restored in any case; `Printer.render` begins a
new page, so that the outcome does not depend on what was on the old one.
-/

namespace SchemaStruct

/-- A namespace that generated code may need. -/
inductive Using
  /-- The basic types. -/
  | system
  /-- Lists and dictionaries. -/
  | collections
  /-- Attributes that fix the names of properties in documents. -/
  | serialization
  deriving DecidableEq, Repr, Inhabited

namespace Using

/-- All namespaces, in the order of their names. -/
def all : List Using := [system, collections, serialization]

/-- The name of a namespace. -/
def name : Using → String
  | system => "System"
  | collections => "System.Collections.Generic"
  | serialization => "System.Text.Json.Serialization"

/-- The namespaces of a list, each one once, in the order of their names. -/
def sorted (needed : List Using) : List Using := all.filter needed.contains

end Using

/-- The lines written so far, the depth of the next one and the namespaces needed. -/
structure Page where
  /-- The lines. -/
  lines : Array String := #[]
  /-- The depth of the next line. -/
  depth : Nat := 0
  /-- The namespaces needed, possibly repeated. -/
  needed : List Using := []
  deriving Repr, Inhabited

namespace Page

/-- Whether a blank line would separate the next line from something. -/
def wantsBlank (p : Page) : Bool :=
  match p.lines.back? with
  | some line => line != ""
  | none => false

/-- The page without blank lines at its end. -/
def trimmed (p : Page) : Page :=
  { p with lines := (p.lines.toList.reverse.dropWhile (· == "")).reverse.toArray }

end Page

/-- A writing step: it may fail, and keeps what was written in either case. -/
abbrev Emit (α : Type) := ExceptT Fault (StateM Page) α

namespace Emit

/-- A result that depends on nothing written. -/
def ofExcept {α : Type} : Except Fault α → Emit α
  | .ok a => pure a
  | .error f => throw f

/-- Records that the code needs some namespaces. -/
def need (usings : List Using) : Emit Unit :=
  modify fun p => { p with needed := usings ++ p.needed }

/-- Writes one level deeper. The depth is restored even after a fault. -/
def indented {α : Type} (body : Emit α) : Emit α := ExceptT.mk fun p =>
  let (result, after) := body.run { p with depth := p.depth + 1 }
  (result, { after with depth := p.depth })

end Emit

/-- What a writer needs to know: the texts of names, and what a level of depth looks like. -/
structure Printer where
  /-- The texts of names. -/
  names : NameTable
  /-- What stands in front of a line for each level. -/
  indentUnit : String := "    "

namespace Printer

/-- Some copies of a text, one behind the other. -/
def copies (s : String) : Nat → String
  | 0 => ""
  | n + 1 => s ++ copies s n

/-- Writes a line made of the given parts; a line without text stays empty. -/
def line (pr : Printer) (parts : List Fragment) : Emit Unit := do
  let s ← Emit.ofExcept (Fragment.serializeAll pr.names parts)
  modify fun p =>
    { p with lines := p.lines.push (if s.isEmpty then "" else copies pr.indentUnit p.depth ++ s) }

/-- Writes a line with a fixed text. -/
def textLine (pr : Printer) (s : String) : Emit Unit := pr.line [.text s]

/-- Writes an opening line, something one level deeper, and a closing line. -/
def block (pr : Printer) (body : Emit Unit) (opening : Fragment := .text "\x7b")
    (closing : Fragment := .text "\x7d") : Emit Unit := do
  pr.line [opening]
  Emit.indented body
  pr.line [closing]

/-- Writes a comment: each line behind `start`, between the lines `before` and `after` if they are
given. An empty line gets `start` without the blanks at its end. -/
def comment (pr : Printer) (lines : List String) (start : String := "// ")
    (before after : Option String := none) : Emit Unit := do
  if let some s := before then pr.textLine s
  lines.forM fun s =>
    pr.textLine (if s.isEmpty then Text.onChars Text.trimEnd start else start ++ s)
  if let some s := after then pr.textLine s

/-- Writes a blank line, unless nothing or a blank line stands in front. -/
def separate (pr : Printer) : Emit Unit := do
  if (← get).wantsBlank then pr.line []

/-- Writes something for each record, in order, with blank lines in between if wanted. -/
def eachRecord (pr : Printer) (blankLines : Bool) (body : Record → Name → Emit Unit) :
    Emit Unit :=
  pr.names.graph.records.zipIdx.forM fun (r, i) => do
    if blankLines && i != 0 then pr.separate
    body r (NameTable.recordName r)

/-- Begins a new page, writes on it, and gives its lines and the namespaces they need. -/
def render (body : Emit Unit) (old : Page) : Except Fault (List String × List Using) × Page :=
  -- nothing of the old page is left: neither its lines nor its depth nor its needs
  let (result, page) := body.run { old with lines := #[], depth := 0, needed := [] }
  match result with
  | .error f => (.error f, page)
  | .ok _ =>
    let page := page.trimmed
    (.ok (page.lines.toList, Using.sorted page.needed), page)

end Printer

end SchemaStruct
