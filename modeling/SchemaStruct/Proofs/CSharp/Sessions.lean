import SchemaStruct.Proofs.CSharp.Printing
import SchemaStruct.Proofs.CSharp.Refinement
import SchemaStruct.Proofs.Source.Depths

/-!
# Sessions with a Renderer

A renderer can be used again and again: it is asked for renderings, single steps write on its page,
and between them texts are assigned to names. A rendering that meets a name without a text ends in
the middle of a block, and the lines, the depth and the namespaces that it had got to are left on
the page. The next rendering is not touched by any of this: it is what a new renderer over the same
table gives, and the page that it leaves is the same as well.

The depth does not even have to wait for the next rendering. Whatever fails, fails in steps that put
the depth back, so single steps behind a failed rendering write at the outermost level again.

## Main definitions

* `Session`: a renderer with the page that it has got to;
* `Action` and `Session.afterAll`: what is done in a session, and what that comes to.

## Main results

* `depth_render`: a rendering leaves the page at the outermost level, wherever it ends;
* `Session.exists_texts_afterAll`: a history changes the texts of names, and nothing else about the
  renderer;
* `Session.depth_afterAll`: the depth is that of a new page;
* `Session.output_afterAll`: the next rendering is that of a new renderer.
-/

namespace SchemaStruct.CSharp

open NameTable

/-! ### Depths -/

namespace Renderer

/-- What stands between the brackets of a record. -/
def structBody (r : Renderer) (record : Record) : Emit Unit := do
  r.constructor readOnlyRule (.name (recordName record))
  r.properties readOnlyRule record

/-- A struct is written as its head and, between brackets, its body. -/
theorem structOf_eq_structBody (r : Renderer) (record : Record) :
    structOf writableProperty r record (recordName record) =
      r.recordAs (structDeclaration record.visibility) (r.structBody record) record
        (recordName record) :=
  rfl

/-- Between the brackets of a record the depth may be counted, wherever the record ends. -/
theorem counted_structBody (r : Renderer) (record : Record) :
    Emit.counted (r.structBody record) = Emit.indented (r.structBody record) :=
  ((printed_constructor r.prints_readOnly _).bind fun _ _ =>
    printed_properties r.prints_readOnly record).balanced.indented_eq_counted.symm

end Renderer

/-- A rendering of a balanced program leaves a page at the outermost level, whatever it began with
and wherever it ended. -/
theorem depth_render {program : Emit Unit} (h : Balanced program) (old : Page) :
    (Printer.render program old).2.depth = 0 := by
  have hdepth : (program.run.run {}).2.depth = 0 := h {}
  rcases returns_or_throws program {} with ⟨_, page, hreturns⟩ | ⟨f, page, hthrows⟩
  · rw [Printer.render_of_returns hreturns]
    rw [show program.run.run {} = (.ok (), page) from hreturns] at hdepth
    exact hdepth
  · rw [Printer.render_of_throws hthrows]
    rw [show program.run.run {} = (.error f, page) from hthrows] at hdepth
    exact hdepth

/-! ### Sessions -/

/-- A renderer, and the page that it has got to. -/
structure Session where
  /-- The renderer, with the texts that names have so far. -/
  renderer : Renderer
  /-- The page: what the last rendering and the steps behind it have left. -/
  page : Page := {}

/-- What can be done in a session. -/
inductive Action
  /-- A text is assigned to a name. -/
  | assign (n : Name) (s : String)
  /-- All records are rendered. -/
  | render
  /-- A step of a renderer writes on the page. -/
  | emit (step : Renderer → Emit Unit)

/-- Whether an action leaves the depth as it was, for any renderer. -/
def Action.IsBalanced : Action → Prop
  | assign _ _ | render => True
  | emit step => ∀ r, Balanced (step r)

namespace Session

/-- What a rendering would give in a session, and the page that it would leave. -/
def output (s : Session) : Except Fault (List String × List Using) × Page :=
  Printer.render (s.renderer.structs writableProperty) s.page

/-- The session after an action, whether or not the action ends in a fault. -/
def after (s : Session) : Action → Session
  | .assign n text =>
    { s with renderer := { s.renderer with names := s.renderer.names.assign n text } }
  | .render => { s with page := s.output.2 }
  | .emit step => { s with page := ((step s.renderer).run.run s.page).2 }

/-- The session after some actions. -/
def afterAll (s : Session) (history : List Action) : Session := history.foldl after s

variable {s : Session}

/-- An action changes the texts of names, and nothing else about the renderer. -/
theorem exists_texts_after (s : Session) (a : Action) :
    ∃ texts, (s.after a).renderer =
      { s.renderer with names := { s.renderer.names with texts } } := by
  cases a with
  | assign n text => exact ⟨_, rfl⟩
  | render => exact ⟨_, rfl⟩
  | emit step => exact ⟨_, rfl⟩

/-- So does a history. In particular, the graph stays the same. -/
theorem exists_texts_afterAll (s : Session) (history : List Action) :
    ∃ texts, (s.afterAll history).renderer =
      { s.renderer with names := { s.renderer.names with texts } } := by
  induction history generalizing s with
  | nil => exact ⟨_, rfl⟩
  | cons a history ih =>
    obtain ⟨texts, ha⟩ := s.exists_texts_after a
    obtain ⟨later, hlater⟩ := ih (s.after a)
    -- the texts of the whole history take the place of those of its first action
    rw [ha] at hlater
    exact ⟨later, hlater⟩

/-- An action at the outermost level ends there. -/
theorem depth_after {a : Action} (ha : a.IsBalanced) (hs : s.page.depth = 0) :
    (s.after a).page.depth = 0 := by
  cases a with
  | assign n text => exact hs
  | render => exact depth_render s.renderer.printed_structs.balanced s.page
  | emit step => exact (ha s.renderer s.page).trans hs

/-- So does a history, even if some of its actions end in faults. -/
theorem depth_afterAll {history : List Action} (h : ∀ a ∈ history, a.IsBalanced)
    (hs : s.page.depth = 0) : (s.afterAll history).page.depth = 0 := by
  induction history generalizing s with
  | nil => exact hs
  | cons a history ih =>
    obtain ⟨ha, hhistory⟩ := List.forall_mem_cons.mp h
    exact ih hhistory (depth_after ha hs)

/-- A rendering begins with a new page, so the page that there was does not matter. -/
theorem output_eq_of_renderer_eq {t : Session} (h : s.renderer = t.renderer) :
    s.output = t.output := by
  rw [output, output, h]
  rfl

/-- What a rendering gives when all names have texts and all references lead to records: the lines
of the records, unless a text of the document is none. -/
theorem output_of_assigned (hassigned : s.renderer.names.Assigned)
    (hgraph : s.renderer.names.graph.Resolved) :
    match s.renderer.names.graph.records.forM s.renderer.check with
    | .ok _ => ∃ sections,
      List.Forall₂ s.renderer.IsSection s.renderer.names.graph.records sections ∧
        s.output.1 = .ok (sourceLines sections, Using.sorted s.renderer.usings)
    | .error f => s.output.1 = .error f := by
  cases hcheck : s.renderer.names.graph.records.forM s.renderer.check with
  | error f => exact (Renderer.render_of_check hassigned hgraph hcheck s.page {}).1
  | ok _ =>
    obtain ⟨sections, hsections, hstructs, -⟩ :=
      Renderer.exists_sections hassigned hgraph hcheck s.page {}
    exact ⟨sections, hsections, hstructs⟩

/-- The past of a renderer does not matter. After any history of a renderer that was new, it knows
the same graph and the same records, and a rendering gives what a new renderer over the table of
that moment gives, fault or not, and leaves the same page. When all names have texts and all
references lead to records, these are the lines of the records, unless a text of the document is
none. Nor is the depth displaced in between: faults pass through indented parts that count it up
and down. -/
theorem output_afterAll (r : Renderer) (history : List Action) :
    let s := afterAll { renderer := r } history
    (∃ texts, s.renderer = { r with names := { r.names with texts } }) ∧
    RecordIndex.ofGraph s.renderer.names.graph = RecordIndex.ofGraph r.names.graph ∧
    s.output = output { renderer := s.renderer } ∧
    (s.renderer.names.Assigned → s.renderer.names.graph.Resolved →
      match s.renderer.names.graph.records.forM s.renderer.check with
      | .ok _ => ∃ sections,
        List.Forall₂ s.renderer.IsSection s.renderer.names.graph.records sections ∧
          s.output.1 = .ok (sourceLines sections, Using.sorted s.renderer.usings)
      | .error f => s.output.1 = .error f) ∧
    ((∀ a ∈ history, a.IsBalanced) → s.page.depth = 0) ∧
    ∀ record, Emit.counted (s.renderer.structBody record) =
      Emit.indented (s.renderer.structBody record) := by
  intro s
  obtain ⟨texts, hrenderer⟩ : ∃ texts, s.renderer = { r with names := { r.names with texts } } :=
    exists_texts_afterAll { renderer := r } history
  refine ⟨⟨texts, hrenderer⟩, ?_, output_eq_of_renderer_eq rfl, output_of_assigned, ?_,
    s.renderer.counted_structBody⟩
  · -- the index is made of the graph alone, which no text changes
    rw [hrenderer]
  · exact fun hbalanced => depth_afterAll hbalanced rfl

/-- A history in which a rendering meets a name without a text. -/
def interrupted : List Action :=
  [.emit fun r => r.printer.block (r.printer.textLine "draft"),
    .assign ⟨.record "Ledger", "Ledger"⟩ "Ledger",
    .assign ⟨.property "Ledger" 0, "entries"⟩ "Entries",
    .render,
    .emit fun r => do r.jsonAttribute "note"; r.printer.line [.name ⟨.loose 0, "nobody"⟩]]

/-- The rest of the names get texts. -/
def completed : List Action :=
  interrupted ++
    [.assign ⟨.property "Ledger" 1, "closed"⟩ "Closed", .assign ⟨.record "Entry", "Entry"⟩ "Entry"]

/-- The theorem at that history, with what the interrupted rendering has left on the page, and the
lines that come next. -/
theorem output_completed :
    let r : Renderer := { names := .ofGraph ledger, indentUnit := "  ", comments := false }
    let before := afterAll { renderer := r } interrupted
    let s := afterAll { renderer := r } completed
    before.page.lines.toList =
        ["internal readonly struct Ledger", "\x7b", "[JsonPropertyName(\"note\")]"] ∧
      before.page.depth = 0 ∧ before.output.1.toOption = none ∧
      s.renderer.names.Assigned ∧ s.renderer.names.graph.Resolved ∧
      s.output = output { renderer := s.renderer } ∧
      (∃ sections, s.output.1 = .ok (sourceLines sections, Using.sorted s.renderer.usings)) ∧
      s.output.1.toOption =
        some (["internal readonly struct Ledger", "\x7b",
          "  public Ledger(Entry[] entries, DateTimeOffset? closed)", "  \x7b",
          "    this.Entries = entries;", "    this.Closed = closed;", "  \x7d", "",
          "  [JsonPropertyName(\"entries\")]", "  public Entry[] Entries \x7b get; \x7d", "",
          "  [JsonPropertyName(\"closed\")]", "  public DateTimeOffset? Closed \x7b get; \x7d",
          "\x7d", "", "private partial class Entry : Row", "\x7b", "  public Entry()", "  \x7b",
          "  \x7d", "", "\x7d"], [.system, .serialization]) := by
  intro r before s
  have hrecords : ∀ record ∈ s.renderer.names.graph.records,
      (s.renderer.names.text? (recordName record)).isSome ∧
        ∀ entry ∈ propertyNames record, (s.renderer.names.text? entry.1).isSome := by
    decide
  have hassigned : s.renderer.names.Assigned :=
    ⟨fun record hrecord => Option.isSome_iff_exists.mp (hrecords record hrecord).1,
      fun record hrecord entry hentry =>
        Option.isSome_iff_exists.mp ((hrecords record hrecord).2 entry hentry)⟩
  have hresolved : s.renderer.names.graph.Resolved := by decide
  have hbalanced : ∀ a ∈ interrupted, a.IsBalanced := by
    simp only [interrupted, List.forall_mem_cons, Action.IsBalanced, true_and]
    exact ⟨fun r => (Printed.block (P := fun _ => True) (.line trivial) trivial trivial).balanced,
      fun r => (r.printed_jsonAttribute "note").balanced.bind fun _ _ _ _ =>
        (Printed.line (P := fun _ => True) trivial).balanced, by simp⟩
  obtain ⟨-, -, -, -, hdepth, -⟩ := output_afterAll r interrupted
  obtain ⟨-, -, hnew, hlines, -⟩ := output_afterAll r completed
  have hcheck : (s.renderer.names.graph.records.forM s.renderer.check).toOption = some () := by
    decide
  refine ⟨by decide +kernel, hdepth hbalanced, by decide +kernel, hassigned, hresolved, hnew, ?_,
    by decide +kernel⟩
  have hsections := hlines hassigned hresolved
  rw [ok_of_toOption hcheck] at hsections
  obtain ⟨sections, -, hout⟩ := hsections
  exact ⟨sections, hout⟩

end Session

end SchemaStruct.CSharp
