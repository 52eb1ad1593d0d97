import Mathlib.Data.List.DropRight
import SchemaStruct.Proofs.Source.Depths
import SchemaStruct.Proofs.Source.Leaves
import SchemaStruct.Proofs.Source.Renders

/-!
# Listings of Layout Programs

A layout program is a tree: blocks and indented parts stand in one another. Read from left to right
it has entries, lines with the number of the indented parts around them and separators, and its
listing is what these come to, one line for each entry. A printer gets there with a counter for the
depth and with a page that it looks back at for separators; `Puts` says that a step does to a page
what some entries do to its lines.

## Main definitions

* `Entry` and `Command.entriesAll`: the entries of a program, with their depths;
* `Command.listing`: the lines that they come to;
* `Command.IsReadable`: a program whose names are all assigned;
* `Puts`: a step that puts entries on a page.

## Main results

* `Puts.bind`, `Puts.forM`, `Puts.indented`: steps one behind the other and one level deeper;
* `Command.puts_run`: what a command puts on a page;
* `Command.render_eq_listing`: the rendering of a program is its listing, and the depth behind each
  indented part is the one in front.
-/

namespace SchemaStruct

/-- An entry of a program. -/
inductive Entry
  /-- A line at some depth. -/
  | line (depth : Nat) (parts : List Fragment)
  /-- A blank line, unless nothing or a blank line stands in front. -/
  | separator

namespace Entry

/-- Whether an entry has a text. -/
def IsReadable (names : NameTable) : Entry → Prop
  | line _ parts => Fragment.IsReadable names parts
  | separator => True

instance (names : NameTable) : DecidablePred (IsReadable names)
  | line _ parts => inferInstanceAs (Decidable (Fragment.IsReadable names parts))
  | separator => inferInstanceAs (Decidable True)

/-- The lines with an entry behind them: a line with text stands behind one unit for each level of
its depth, and a line without text is empty. -/
def put (pr : Printer) (lines : List String) : Entry → List String
  | line depth parts =>
    let s := Fragment.reading pr.names parts
    lines ++ [if s = "" then "" else String.join (List.replicate depth pr.indentUnit) ++ s]
  | separator => if lines.getLast?.any (· != "") then lines ++ [""] else lines

/-- The lines with some entries behind them. -/
def putAll (pr : Printer) (lines : List String) (entries : List Entry) : List String :=
  entries.foldl (put pr) lines

end Entry

namespace Command

/-- The entries of a record that is listed. -/
def recordEntries (d : Nat) (r : Record) : List Entry :=
  .line d [.text "record ", .name (NameTable.recordName r)] ::
    (NameTable.propertyNames r).map fun (name, p) =>
      .line d [.text "  ", .name name, .text " <- ", .text p.name]

mutual

/-- The entries of a command in `d` indented parts. -/
def entries (graph : TypeGraph) (d : Nat) : Command → List Entry
  | line parts => [.line d parts]
  | indent body => entriesAll graph (d + 1) body
  | block body opening closing =>
    .line d [opening] :: (entriesAll graph (d + 1) body ++ [.line d [closing]])
  | comment lines start before after =>
    (Printer.commentTexts lines start before after).map fun s => .line d [.text s]
  | description lines =>
    (Printer.commentTexts lines "// " none none).map fun s => .line d [.text s]
  | separate => [.separator]
  | records blankLines => graph.records.zipIdx.flatMap fun (r, i) =>
    (if blankLines && i != 0 then [.separator] else []) ++ recordEntries d r

/-- The entries of some commands. -/
def entriesAll (graph : TypeGraph) (d : Nat) : List Command → List Entry
  | [] => []
  | c :: cs => entries graph d c ++ entriesAll graph d cs

end

/-- Whether all names in a program are assigned, and all its lines have texts. -/
def IsReadable (names : NameTable) (program : List Command) : Prop :=
  ∀ e ∈ entriesAll names.graph 0 program, e.IsReadable names

instance (names : NameTable) : DecidablePred (IsReadable names) := fun program =>
  inferInstanceAs (Decidable (∀ e ∈ entriesAll names.graph 0 program, e.IsReadable names))

/-- The listing of a program: the lines of its entries, without blank ones at the very end. -/
def listing (pr : Printer) (program : List Command) : List String :=
  (Entry.putAll pr [] (entriesAll pr.names.graph 0 program)).rdropWhile (· == "")

end Command

/-- On any page at depth `d`, the step `m` returns and does to the lines what the entries do; the
rest of the page stays. -/
def Puts (pr : Printer) (m : Emit Unit) (d : Nat) (es : List Entry) : Prop :=
  ∀ p : Page, p.depth = d →
    Returns m p () { p with lines := (Entry.putAll pr p.lines.toList es).toArray }

namespace Puts

variable {pr : Printer} {α : Type} {d : Nat} {es fs : List Entry}

/-- A step that does nothing. -/
theorem pure (d : Nat) : Puts pr (pure ()) d [] :=
  fun p _ => returns_pure_iff.mpr ⟨rfl, by simp [Entry.putAll]⟩

/-- One step behind another one. -/
theorem bind {m : Emit Unit} {k : Unit → Emit Unit} (hm : Puts pr m d es)
    (hk : Puts pr (k ()) d fs) : Puts pr (m >>= k) d (es ++ fs) := by
  intro p hp
  refine returns_bind_iff.mpr ⟨(), _, hm p hp, ?_⟩
  -- the page in between differs in its lines only, so the second step finds the same depth
  have hbehind := hk { p with lines := (Entry.putAll pr p.lines.toList es).toArray } hp
  simpa [Entry.putAll] using hbehind

/-- A step for each item of a list. -/
theorem forM {m : α → Emit Unit} {entries : α → List Entry} {xs : List α}
    (h : ∀ x ∈ xs, Puts pr (m x) d (entries x)) : Puts pr (xs.forM m) d (xs.flatMap entries) := by
  induction xs with
  | nil => exact pure d
  | cons x xs ih =>
    obtain ⟨hx, hxs⟩ := List.forall_mem_cons.mp h
    exact hx.bind (ih hxs)

/-- What is put on a page one level deeper. The counter is back where it was afterwards. -/
theorem indented {body : Emit Unit} (h : Puts pr body (d + 1) es) :
    Puts pr (Emit.indented body) d es := by
  rintro p rfl
  have hbody := h { p with depth := p.depth + 1 } rfl
  exact returns_indented_iff.mpr ⟨_, hbody, rfl⟩

end Puts

namespace Printer

variable {pr : Printer} {d : Nat}

/-- Copies of a text are joined. -/
theorem copies_eq_join (s : String) (n : Nat) : copies s n = String.join (List.replicate n s) := by
  induction n with
  | zero => rfl
  | succ n ih => rw [copies, ih, List.replicate_succ, String.join_cons]

/-- A line is put on the page if it has a text. -/
theorem puts_line {parts : List Fragment} (h : Fragment.IsReadable pr.names parts) :
    Puts pr (pr.line parts) d [.line d parts] := by
  rintro p rfl
  simp only [line, returns_bind_iff, returns_emit_iff, returns_modify_iff]
  refine ⟨_, p, ⟨Fragment.serializeAll_of_isReadable h, rfl⟩, ?_⟩
  -- the counter of the page is the number of units that the entry asks for
  simp [Entry.putAll, Entry.put, copies_eq_join, ← Array.toList_inj]

/-- A line with a fixed text has one. -/
theorem puts_textLine (s : String) : Puts pr (pr.textLine s) d [.line d [.text s]] :=
  puts_line fun l hl => by
    obtain rfl := List.mem_singleton.mp hl
    trivial

/-- A separator puts a blank line on the page where the last line is not blank. -/
theorem puts_separate : Puts pr pr.separate d [.separator] := by
  intro p _
  -- the page looks at the end of its array, and the entry at the end of the list of lines
  have hlast : p.wantsBlank = p.lines.toList.getLast?.any (· != "") := by
    rw [Page.wantsBlank, Array.getLast?_toList]
    cases p.lines.back? <;> rfl
  have hput : Entry.putAll pr p.lines.toList [.separator] =
      if p.wantsBlank then p.lines.toList ++ [""] else p.lines.toList := by
    rw [hlast]
    rfl
  rw [hput]
  by_cases h : p.wantsBlank
  · rw [if_pos h]
    have hpage : p.append [""] = { p with lines := (p.lines.toList ++ [""]).toArray } := by
      simp [Page.append, ← Array.toList_inj]
    exact hpage ▸ returns_separate h
  · simp only [separate, returns_bind_iff, returns_get_iff]
    exact ⟨p, p, ⟨rfl, rfl⟩, by simp [h]⟩

/-- A comment puts its lines on the page. -/
theorem puts_comment (lines : List String) (start : String) (before after : Option String) :
    Puts pr (pr.comment lines start before after) d
      ((commentTexts lines start before after).map fun s => .line d [.text s]) := by
  rw [comment_eq_forM, List.map_eq_flatMap]
  exact .forM fun s _ => puts_textLine s

end Printer

namespace Command

variable {pr : Printer} {d : Nat}

/-- A record that is listed puts its entries on the page. -/
theorem puts_listRecord {r : Record} (h : ∀ e ∈ recordEntries d r, e.IsReadable pr.names) :
    Puts pr (listRecord pr r (NameTable.recordName r)) d (recordEntries d r) := by
  obtain ⟨hrecord, hproperties⟩ := List.forall_mem_cons.mp h
  rw [recordEntries, ← List.flatMap_singleton' (List.map _ _), List.flatMap_map]
  refine (Printer.puts_line hrecord).bind (.forM ?_)
  rintro ⟨name, p⟩ hentry
  exact Printer.puts_line (hproperties _ (List.mem_map_of_mem hentry))

mutual

/-- A command whose entries have texts puts them on the page. -/
theorem puts_run : (c : Command) → (d : Nat) →
    (∀ e ∈ entries pr.names.graph d c, e.IsReadable pr.names) →
    Puts pr (run pr c) d (entries pr.names.graph d c)
  | line parts, d, h => Printer.puts_line (h _ List.mem_cons_self)
  | indent body, d, h => (puts_runAll body (d + 1) h).indented
  | block body opening closing, d, h => by
    obtain ⟨hopening, h⟩ := List.forall_mem_cons.mp h
    obtain ⟨hbody, hclosing⟩ := List.forall_mem_append.mp h
    exact (Printer.puts_line hopening).bind ((puts_runAll body (d + 1) hbody).indented.bind
      (Printer.puts_line (hclosing _ List.mem_cons_self)))
  | comment lines start before after, _, _ => Printer.puts_comment lines start before after
  | description lines, _, _ => Printer.puts_comment lines "// " none none
  | separate, _, _ => Printer.puts_separate
  | records blankLines, d, h => by
    rw [entries] at h ⊢
    refine .forM ?_
    rintro ⟨r, i⟩ hr
    have hrecord := List.forall_mem_append.mp fun e he => h e (List.mem_flatMap.mpr ⟨_, hr, he⟩)
    have hlist := puts_listRecord hrecord.2
    dsimp only
    -- the first record has no separator in front, and without blank lines none has
    split
    · exact Printer.puts_separate.bind hlist
    · exact hlist

/-- So do some commands. -/
theorem puts_runAll : (program : List Command) → (d : Nat) →
    (∀ e ∈ entriesAll pr.names.graph d program, e.IsReadable pr.names) →
    Puts pr (runAll pr program) d (entriesAll pr.names.graph d program)
  | [], d, _ => .pure d
  | c :: cs, d, h => by
    obtain ⟨hc, hcs⟩ := List.forall_mem_append.mp h
    exact (puts_run c d hc).bind (puts_runAll cs d hcs)

end

/-- Emission prints a tree. The rendering of a program whose names are all assigned is its listing,
whatever was on the page before. A program that counts the depth does the same as one that sets it
back, and whether it returns or fails at some depth, the depth behind each of its indented parts is
the one in front of it. -/
theorem render_eq_listing (pr : Printer) (program : List Command) :
    (IsReadable pr.names program → ∀ old, ∃ page,
      Printer.render (runAll pr program) old = (.ok (listing pr program, []), page)) ∧
    runAllCounted pr program = runAll pr program ∧
    ∀ p, ((Emit.counted (runAllCounted pr program)).run.run p).2.depth = p.depth := by
  refine ⟨fun h old => ?_, runAllCounted_eq_runAll pr program, ?_⟩
  · -- the page that a rendering begins with is blank, so the lines on it are the program's own
    have hreturns : Returns (runAll pr program) {} () { lines :=
        (Entry.putAll pr [] (entriesAll pr.names.graph 0 program)).toArray } :=
      puts_runAll program 0 h {} rfl
    exact ⟨_, Printer.render_of_returns hreturns old⟩
  · rw [runAllCounted_eq_runAll, ← (printed_runAll pr program).balanced.indented_eq_counted]
    exact Balanced.indented _

/-- A program with blocks in blocks, a comment that has an empty line, and separators, some of them
at places where no blank line is wanted. -/
def nested : List Command :=
  [.separate, .line [.text "namespace ", .name ⟨.loose 0, "space"⟩],
    .block
      [.comment ["first", "", "last"] "/// " (some "/// <summary>") (some "/// </summary>"),
        .block
          [.line [.group .square [.text "int ", .empty, .text "x;"]], .line [], .separate,
            .indent [.line [.text "+ 1"], .line [.group .round []]], .separate]
          (.text "struct (") (.text ")"),
        .separate]
      (.text "[") (.text "]"),
    .line [], .separate, .line [.empty]]

/-- The theorem at that program, with its listing. -/
theorem render_nested :
    let pr : Printer := ⟨(NameTable.ofGraph .empty).assign ⟨.loose 0, "space"⟩ "Models", "  "⟩
    IsReadable pr.names nested ∧
      (∀ old, ∃ page, Printer.render (runAll pr nested) old = (.ok (listing pr nested, []), page)) ∧
      listing pr nested =
        ["namespace Models", "[", "  /// <summary>", "  /// first", "  ///", "  /// last",
          "  /// </summary>", "  struct (", "    int x;", "", "      + 1", "", "  )", "", "]"] := by
  intro pr
  have hreadable : IsReadable pr.names nested := by decide
  exact ⟨hreadable, (render_eq_listing pr nested).1 hreadable, by decide⟩

end Command

end SchemaStruct
