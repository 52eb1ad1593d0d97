import SchemaStruct.Proofs.CSharp.Layout
import SchemaStruct.Proofs.CSharp.Printing
import SchemaStruct.Proofs.Source.Deepening
import SchemaStruct.Proofs.Source.Renders
import SchemaStruct.Proofs.Template.Indentation

/-!
# Nested Indentation

Lines come to stand deeper in two ways: a printer writes them one level deeper, or they are written,
joined to a text, and the text is indented. For a file the second way is taken: its declarations are
rendered at the outermost level and indented below the namespace. The two ways lead to the same
text, if the lines that are rendered are the lines of that text. A layout program can also write
lines of nothing but blanks: those stay as they are when they are printed deeper, and are emptied
when they are indented. In declarations there are no such lines.

## Main definitions

* `CSharp.IsDeclaring`: what writes the declarations of a file.

## Main results

* `CSharp.IsDeclaring.hasText_of_render`: the lines of declarations are empty or have text;
* `CSharp.indented_intercalate`: indenting joined lines;
* `CSharp.indentation_nests`: indentation composes, keeps the lines of a text, and is the rendering
  one level deeper.
-/

namespace SchemaStruct.CSharp

open Template Template.Filter Text

/-- What writes the records of a graph, as structs or as classes. -/
inductive IsDeclaring (pr : Printer) : Emit Unit → Prop
  /-- The records as structs. -/
  | structs (r : Renderer) (h : r.printer = pr) : IsDeclaring pr (r.structs writableProperty)
  /-- The records as classes. -/
  | classes (r : Renderer) (h : r.printer = pr) : IsDeclaring pr r.classes

namespace IsDeclaring

variable {pr : Printer} {body : Emit Unit}

/-- Declarations are printed, with words in their lines. -/
theorem printed (h : IsDeclaring pr body) : Printed pr HasWords body fun _ => True := by
  cases h with
  | structs r h => exact h ▸ r.printed_structs
  | classes r h => exact h ▸ r.printed_classes

/-- The lines of declarations are empty or have text. -/
theorem hasText_of_render (h : IsDeclaring pr body) {old page : Page} {lines : List String}
    {usings : List Using} (hrender : Printer.render body old = (.ok (lines, usings), page)) :
    ∀ line ∈ lines, line = "" ∨ hasText line.toList = true := by
  have hpage (q : Page) (hq : Returns body {} () q) :
      ∀ line ∈ q.lines, line = "" ∨ hasText line.toList = true := by
    have hlines := h.printed.forall_mem_lines
      (L := fun line => line = "" ∨ hasText line.toList = true) (.inl rfl)
      (fun parts s depth hparts hs hne => .inr (by
        rw [String.toList_append, hasText_append, (hparts.hasText hs).resolve_left hne,
          Bool.or_true])) {} (by simp)
    rw [show body.run.run {} = (.ok (), q) from hq] at hlines
    exact hlines
  rcases returns_or_throws body {} with ⟨_, q, hq⟩ | ⟨f, q, hq⟩
  · rw [Printer.render_of_returns hq] at hrender
    obtain ⟨rfl, -⟩ := Prod.mk.inj (Except.ok.inj (Prod.mk.inj hrender).1)
    intro line hline
    -- the lines that are kept are lines of the page
    refine hpage q hq line ?_
    simp only [Page.trimmed, List.mem_reverse] at hline
    simpa using List.dropWhile_subset _ hline
  · rw [Printer.render_of_throws hq] at hrender
    cases (Prod.mk.inj hrender).1

end IsDeclaring

section

variable {unit line : String} {lines : List String}

/-- Indenting a line that is empty or has text takes it one level deeper. -/
theorem indentLine_eq_deeper (h : line = "" ∨ hasText line.toList = true) :
    indentLine unit.toList line.toList = (Line.deeper unit line).toList := by
  rcases h with rfl | htext
  · rfl
  · have hne : line ≠ "" := by
      rintro rfl
      cases htext
    rw [indentLine_of_hasText htext, Line.deeper, if_neg hne, String.toList_append]

/-- Texts are joined by line feeds as lists of characters are. -/
theorem toList_intercalate_lineFeed (lines : List String) :
    (String.intercalate "\n" lines).toList = joinWith ['\n'] (lines.map String.toList) := by
  rw [String.toList_intercalate, intercalate_eq]
  rfl

/-- Indenting joined lines takes each of them one level deeper, if there are no line feeds in them
and each one is empty or has text. -/
theorem indented_intercalate (hfeed : ∀ line ∈ lines, '\n' ∉ line.toList)
    (htext : ∀ line ∈ lines, line = "" ∨ hasText line.toList = true) :
    indented unit.toList (String.intercalate "\n" lines) =
      String.intercalate "\n" (lines.map (Line.deeper unit)) := by
  rw [← String.toList_inj, indented, String.toList_ofList, toList_intercalate_lineFeed,
    toList_intercalate_lineFeed]
  cases hlines : lines with
  | nil => rfl
  | cons first rest =>
    rw [← hlines]
    have hne : lines.map String.toList ≠ [] := by simp [hlines]
    have hsplit : splitOn '\n' (joinWith ['\n'] (lines.map String.toList)) =
        lines.map String.toList := by
      refine splitOn_joinWith_of_not_mem hne fun piece hpiece => ?_
      obtain ⟨line, hline, rfl⟩ := List.mem_map.mp hpiece
      exact hfeed line hline
    rw [hsplit, List.map_map, List.map_map]
    exact congrArg (joinWith ['\n']) (List.map_congr_left fun line hline =>
      indentLine_eq_deeper (htext line hline))

/-- The declarations of a file are indented as any text is. -/
theorem SourceFile.indentedBody_eq (f : SourceFile) :
    f.indentedBody = indented f.indentUnit.toList (String.intercalate "\n" f.body) :=
  rfl

/-- What is printed, joined and indented is what is printed one level deeper. -/
theorem exists_render_indented {pr : Printer} {P : List Fragment → Prop} {body : Emit Unit}
    {Q : Unit → Prop} (hbody : Printed pr P body Q) {old page : Page} {usings : List Using}
    (hrender : Printer.render body old = (.ok (lines, usings), page))
    (hfeed : ∀ line ∈ lines, '\n' ∉ line.toList)
    (htext : ∀ line ∈ lines, line = "" ∨ hasText line.toList = true) (new : Page) :
    ∃ deeper, (Printer.render (Emit.indented body) new).1 = .ok (deeper, usings) ∧
      indented pr.indentUnit.toList (String.intercalate "\n" lines) =
        String.intercalate "\n" deeper := by
  refine ⟨lines.map (Line.deeper pr.indentUnit), ?_, indented_intercalate hfeed htext⟩
  rw [hbody.render_indented old new, hrender]
  rfl

end

/-- Indentation nests. Indenting a text and then indenting it again is indenting it once with both
fronts, the later one first. Indenting keeps the number of lines, empties the lines without text,
and leaves those with text behind the front, so that these come back when the front is taken away.
And indenting what is rendered is rendering it one level deeper: this goes for declarations, also as
they stand in a file, and for the layout programs whose lines are empty or have text.

A front with a line feed in it breaks the lines that it stands before, so it cannot be the earlier
one of two, and it does not keep the lines. A line of the rendering has to be a line of the joined
text. -/
theorem indentation_nests {v w : Value} {p q : List Char} (hv : StandsFor v p)
    (hw : StandsFor w q) (s : String) :
    ('\n' ∉ q → ∃ inner outer, indentLines w s = .ok inner ∧ indentLines v inner = .ok outer ∧
      indentLines (.ofText (String.ofList (p ++ q))) s = .ok outer) ∧
    ('\n' ∉ p → ∃ t, indentLines v s = .ok t ∧
      (splitOn '\n' t.toList).length = (splitOn '\n' s.toList).length ∧
      List.Forall₂ (fun line out => hasText line = false → out = [])
        (splitOn '\n' s.toList) (splitOn '\n' t.toList) ∧
      (splitOn '\n' t.toList).filter (fun line => !line.isEmpty) =
        ((splitOn '\n' s.toList).filter hasText).map (p ++ ·)) ∧
    ∀ pr body old lines usings page,
      Printer.render body old = (.ok (lines, usings), page) →
      (∀ line ∈ lines, '\n' ∉ line.toList) →
      (IsDeclaring pr body ∨ (∃ commands, body = Command.runAll pr commands) ∧
        ∀ line ∈ lines, line = "" ∨ hasText line.toList = true) →
      ∀ new, ∃ deeper, (Printer.render (Emit.indented body) new).1 = .ok (deeper, usings) ∧
        indentLines (.ofText pr.indentUnit) (String.intercalate "\n" lines) =
          .ok (String.intercalate "\n" deeper) ∧
        ∀ f : SourceFile, f.body = lines → f.indentUnit = pr.indentUnit →
          f.indentedBody = String.intercalate "\n" deeper := by
  refine ⟨fun hq => ?_, fun hp => ?_, ?_⟩
  · have hboth := standsFor_ofText (String.ofList (p ++ q))
    rw [String.toList_ofList] at hboth
    exact ⟨_, _, indentLines_eq hw s, indentLines_eq hv _,
      by rw [indentLines_eq hboth, indented_indented hq]⟩
  · refine ⟨_, indentLines_eq hv s, ?_⟩
    rw [splitOn_indented hp]
    refine ⟨List.length_map _, ?_, filter_map_indentLine _⟩
    rw [List.forall₂_map_right_iff, List.forall₂_same]
    exact fun line _ => indentLine_of_not_hasText
  · intro pr body old lines usings page hrender hfeed hbody new
    obtain ⟨deeper, hdeeper, hindented⟩ :
        ∃ deeper, (Printer.render (Emit.indented body) new).1 = .ok (deeper, usings) ∧
          indented pr.indentUnit.toList (String.intercalate "\n" lines) =
            String.intercalate "\n" deeper := by
      rcases hbody with hdeclaring | ⟨⟨commands, rfl⟩, htext⟩
      · exact exists_render_indented hdeclaring.printed hrender hfeed
          (hdeclaring.hasText_of_render hrender) new
      · exact exists_render_indented (Command.printed_runAll pr commands) hrender hfeed htext new
    refine ⟨deeper, hdeeper, ?_, ?_⟩
    · rw [indentLines_eq (standsFor_ofText pr.indentUnit), hindented]
    · rintro f rfl hunit
      rw [f.indentedBody_eq, hunit, hindented]

/-- The renderer of a graph with one record that has no properties. -/
def buoyRenderer : Renderer where
  names := assignNames
    { records := [{ key := "Buoy", suggestedName := .str "buoy", description := .str "At sea." }]
      keys_nodup := by decide } .pascal .pascal
  indentUnit := "  "

/-- The theorem at two blanks and a tab before three lines, the middle one of which is blank, and at
a struct and the file that it stands in. -/
theorem indentation_nests_buoy :
    let lines := ["/// <summary>", "/// At sea.", "/// </summary>", "public readonly struct Buoy",
      "\x7b", "  public Buoy()", "  \x7b", "  \x7d", "", "\x7d"]
    StandsFor (.given (.int 2)) [' ', ' '] ∧ StandsFor (.ofText "\t") ['\t'] ∧
      (∃ inner outer, indentLines (.ofText "\t") "a\n \n\tb" = .ok inner ∧
        indentLines (.given (.int 2)) inner = .ok outer ∧
        indentLines (.ofText "  \t") "a\n \n\tb" = .ok outer) ∧
      (∃ t, indentLines (.given (.int 2)) "a\n \n\tb" = .ok t ∧
        (splitOn '\n' t.toList).length = 3 ∧
        (splitOn '\n' t.toList).filter (fun line => !line.isEmpty) =
          ["  a".toList, "  \tb".toList]) ∧
      (Printer.render (buoyRenderer.structs writableProperty) {}).1.toOption = some (lines, []) ∧
      ∃ deeper, (Printer.render (Emit.indented (buoyRenderer.structs writableProperty)) {}).1 =
          .ok (deeper, []) ∧
        SourceFile.indentedBody ⟨"Harbour", [], lines, "  "⟩ = String.intercalate "\n" deeper := by
  intro lines
  have hblanks : StandsFor (.given (.int 2)) [' ', ' '] := standsFor_int (by decide) (by decide)
  have htab : StandsFor (.ofText "\t") ['\t'] := standsFor_ofText "\t"
  obtain ⟨hboth, hlines, hrendered⟩ := indentation_nests hblanks htab "a\n \n\tb"
  have hrender : (Printer.render (buoyRenderer.structs writableProperty) {}).1.toOption =
      some (lines, []) := by decide +kernel
  refine ⟨hblanks, htab, hboth (by decide), ?_, hrender, ?_⟩
  · obtain ⟨t, ht, hlength, -, hkept⟩ := hlines (by decide)
    exact ⟨t, ht, hlength, hkept⟩
  · have hunit : "  " = buoyRenderer.printer.indentUnit := rfl
    obtain ⟨deeper, hdeeper, -, hfile⟩ := hrendered buoyRenderer.printer
      (buoyRenderer.structs writableProperty) {} lines [] _
      (Prod.fst_eq_iff.mp (ok_of_toOption hrender)) (by decide)
      (.inl (.structs buoyRenderer rfl)) {}
    exact ⟨deeper, hdeeper, hfile ⟨"Harbour", [], lines, "  "⟩ rfl hunit⟩

/-- A front with a line feed, and lines that are blank or hold line feeds. Indenting with a line
feed and then with a letter is not indenting with both, and makes two lines of one. A line of one
blank stays when it is printed one level deeper and is emptied when it is indented; and of a line
with a line feed in it only the first part is printed deeper. -/
theorem indentation_breaks :
    (∃ inner outer both, indentLines (.ofText "\n") "a" = .ok inner ∧
        indentLines (.ofText "x") inner = .ok outer ∧
        indentLines (.ofText ("x" ++ "\n")) "a" = .ok both ∧ outer ≠ both ∧
        (splitOn '\n' inner.toList).length ≠ (splitOn '\n' "a".toList).length) ∧
      (∀ line ∈ [" ", "a\nb"], ∃ lines deeper t,
        (Printer.render (Command.runAll buoyRenderer.printer [.line [.text line]]) {}).1.toOption =
          some (lines, []) ∧
        (Printer.render (Emit.indented
          (Command.runAll buoyRenderer.printer [.line [.text line]])) {}).1.toOption =
            some (deeper, []) ∧
        indentLines (.ofText "  ") (String.intercalate "\n" lines) = .ok t ∧
        t ≠ String.intercalate "\n" deeper) := by
  refine ⟨⟨"\na", "\nxa", "x\na", rfl, rfl, rfl, by decide, by decide⟩, ?_⟩
  rw [List.forall_mem_cons, List.forall_mem_singleton]
  exact ⟨⟨[" "], ["   "], "", by decide +kernel, by decide +kernel, rfl, by decide⟩,
    ⟨["a\nb"], ["  a\nb"], "  a\n  b", by decide +kernel, by decide +kernel, rfl, by decide⟩⟩

end SchemaStruct.CSharp
