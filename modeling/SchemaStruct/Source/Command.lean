import SchemaStruct.Source.Page

/-!
# Layout Programs

A layout program writes lines by commands instead of by a function: lines, indented parts, blocks,
comments, blank lines and a listing of all records. It is the printer's own vocabulary as data.
-/

namespace SchemaStruct

/-- A command of a layout program. -/
inductive Command
  /-- A line made of some parts. -/
  | line (parts : List Fragment)
  /-- Commands one level deeper. -/
  | indent (body : List Command)
  /-- Commands one level deeper, between an opening and a closing line. -/
  | block (body : List Command) (opening closing : Fragment)
  /-- A comment. -/
  | comment (lines : List String) (start : String) (before after : Option String)
  /-- A description in the form of a plain comment. -/
  | description (lines : List String)
  /-- A blank line, unless nothing or a blank line stands in front. -/
  | separate
  /-- A listing of all records with their properties. -/
  | records (blankLines : Bool)
  deriving Repr, Inhabited

namespace Command

/-- Lists a record: its name, and for each property its name and the one in the document. -/
def listRecord (pr : Printer) (r : Record) (n : Name) : Emit Unit := do
  pr.line [.text "record ", .name n]
  (NameTable.propertyNames r).forM fun (name, p) =>
    pr.line [.text "  ", .name name, .text " <- ", .text p.name]

mutual

/-- Carries out a command. -/
def run (pr : Printer) : Command → Emit Unit
  | line parts => pr.line parts
  | indent body => Emit.indented (runAll pr body)
  | block body opening closing => pr.block (runAll pr body) opening closing
  | comment lines start before after => pr.comment lines start before after
  | description lines => pr.comment lines
  | separate => pr.separate
  | records blankLines => pr.eachRecord blankLines (listRecord pr)

/-- Carries out some commands, one after the other. -/
def runAll (pr : Printer) : List Command → Emit Unit
  | [] => pure ()
  | c :: cs => do
    run pr c
    runAll pr cs

end

end Command

end SchemaStruct
