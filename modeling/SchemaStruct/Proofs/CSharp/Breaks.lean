import SchemaStruct.Proofs.CSharp.Layout
import SchemaStruct.Proofs.CSharp.Pieces

/-!
# Line Breaks in Generated Code

The pieces that declarations are put together from have no line breaks but line feeds, and neither
the printer nor the layout of source files nor tidying brings one in. So the generated code has none
either, unless it comes with the namespace or with the type that records extend, which are any texts
that a caller likes.

## Main definitions

* `Renderer.FeedsOnly`: the names and the level of depth of a renderer;
* `Rendered.FeedsOnly`: the declaration of a property.

## Main results

* `Renderer.keeps_property`, `Renderer.keeps_constructor`, `Renderer.keeps_structs`: what is written
  for a property, for a constructor and for all records;
* `SourceFile.feedsOnly_text`: the text of a source file;
* `CSharp.feedsOnly_of_run`: the code that is generated.
-/

namespace SchemaStruct

open Text (ConsistsOf FeedsOnly IsOrdinary)

namespace CSharp

/-- The names of a renderer and its level of depth have no line breaks but line feeds. -/
structure Renderer.FeedsOnly (r : Renderer) : Prop where
  /-- The names. -/
  names : ∀ n s, r.names.text? n = some s → Text.FeedsOnly s
  /-- The level of depth. -/
  indentUnit : Text.FeedsOnly r.indentUnit

/-- The declaration of a property has no line breaks but line feeds, its name apart. -/
def Rendered.FeedsOnly (names : NameTable) : Rendered → Prop
  | .definition d => Text.FeedsOnly d.modifier ∧ d.type.ConsistsOf names IsOrdinary ∧
      Text.FeedsOnly d.accessors
  | .bare f => f.ConsistsOf names IsOrdinary

namespace Renderer

open NameTable
open Fragment (consistsOf_text)

variable {r : Renderer} (hr : r.FeedsOnly)

include hr

/-- A name as a fragment. -/
theorem consistsOf_name (n : Name) : (Fragment.name n).ConsistsOf r.names IsOrdinary :=
  Fragment.consistsOf_name (hr.names n)

/-- The declaration of a property as it is written. -/
theorem consistsOf_toFragment {d : Rendered} (h : d.FeedsOnly r.names) :
    d.toFragment.ConsistsOf r.names IsOrdinary := by
  cases d with
  | definition d =>
    obtain ⟨hmodifier, htype, haccessors⟩ := h
    have hblank : (Fragment.text " ").ConsistsOf r.names IsOrdinary := consistsOf_text (by decide)
    exact Fragment.consistsOf_group ⟨consistsOf_text hmodifier, hblank, htype, hblank,
      consistsOf_name hr d.name, hblank, consistsOf_text haccessors⟩
  | bare f => exact h

/-- The type of a property. -/
theorem keeps_propertyType (p : Property) :
    Keeps IsOrdinary (r.propertyType p) fun f => f.ConsistsOf r.names IsOrdinary := by
  have hrecord : ∀ key f, r.recordType key = .ok f → f.ConsistsOf r.names IsOrdinary := by
    intro key f h s hs
    obtain ⟨record, -, -, hname⟩ := exists_of_recordType h hs
    exact hr.names _ s hname
  refine Keeps.bind (.ofExcept fun t ht => CSharpType.feedsOnly_ofProperty _ hrecord ht)
    fun t ht => ?_
  exact (Keeps.need t.usings).bind fun _ _ => .pure ht

/-- The declaration of a property that can only be read. -/
theorem keeps_readOnlyRule (p : Property) (name : Name) (record : Record) :
    Keeps IsOrdinary (readOnlyRule r p name record) fun d => d.FeedsOnly r.names := by
  have hpublic : Text.FeedsOnly "public" := by decide
  have hboth : Text.FeedsOnly "\x7b get; set; \x7d" := by decide
  have hget : Text.FeedsOnly "\x7b get; \x7d" := by decide
  have hwritable : Keeps IsOrdinary (writableProperty r p name record) fun d =>
      d.FeedsOnly r.names :=
    (keeps_propertyType hr p).bind fun f hf => .pure ⟨hpublic, hf, hboth⟩
  refine hwritable.bind fun d hd => ?_
  cases d with
  | bare f => exact .throw _
  | definition d =>
    dsimp only
    split
    · exact .throw _
    · exact .pure ⟨hd.1, hd.2.1, hget⟩

/-- A description as a comment. -/
theorem keeps_description {lines : List String} (h : ∀ line ∈ lines, Text.FeedsOnly line) :
    Keeps IsOrdinary (r.description lines) fun _ => True := by
  have hescape : ∀ line ∈ lines.map escape, Text.FeedsOnly line := by
    intro line hline
    obtain ⟨s, hs, rfl⟩ := List.mem_map.mp hline
    exact consistsOf_escape (fun c hc _ _ _ => h s hs c hc) (by decide)
  unfold description
  split
  · exact .pure trivial
  · exact Printer.keeps_comment hr.indentUnit hescape (by decide) (by decide) (by decide)

omit hr in
/-- The description of a record or of a property, if descriptions become comments. -/
theorem keeps_commentLines (v : Json) :
    Keeps IsOrdinary (Emit.ofExcept (r.commentLines v)) fun lines =>
      ∀ line ∈ lines, Text.FeedsOnly line := by
  refine .ofExcept fun lines h => ?_
  unfold commentLines at h
  split at h
  · exact Description.feedsOnly_of_mem_lines h
  · rw [← Except.ok.inj h]
    exact List.forall_mem_nil _

/-- What stands above a property. -/
theorem keeps_above (isFirst : Bool) (p : Property) :
    Keeps IsOrdinary (r.above isFirst p) fun _ => True := by
  have hgap : Keeps IsOrdinary (r.gap isFirst) fun _ => True := by
    unfold gap
    split
    · exact Printer.keeps_line hr.indentUnit trivial
    · exact .pure trivial
  have hattribute : Keeps IsOrdinary (r.attributeOf p) fun _ => True := by
    unfold attributeOf
    split
    · have hname : Text.FeedsOnly (String.ofList (Json.escapeString p.name)) :=
        Text.consistsOf_ofList.mpr Json.isOrdinary_of_mem_escapeString
      exact (Keeps.need [.serialization]).bind fun _ _ => Printer.keeps_line hr.indentUnit
        ⟨consistsOf_text (by decide), consistsOf_text hname, consistsOf_text (by decide)⟩
    · exact .pure trivial
  exact hgap.bind fun _ _ => (keeps_commentLines p.description).bind fun lines hlines =>
    (keeps_description hr hlines).bind fun _ _ => hattribute

/-- A property, with what stands above it. -/
theorem keeps_property (record : Record) (isFirst : Bool) (entry : Name × Property) :
    Keeps IsOrdinary (r.property readOnlyRule record isFirst entry) fun _ => True := by
  rw [property_eq]
  refine (keeps_above hr isFirst entry.2).bind fun _ _ => ?_
  refine (keeps_readOnlyRule hr entry.2 entry.1 record).bind fun d hd => ?_
  exact Printer.keeps_line hr.indentUnit (consistsOf_toFragment hr hd)

/-- The parameters and the assignments of a constructor. -/
theorem keeps_constructorParts (record : Record) :
    Keeps IsOrdinary (r.constructorParts readOnlyRule record) fun parts =>
      ∀ part ∈ parts, part.1.ConsistsOf r.names IsOrdinary ∧
        part.2.ConsistsOf r.names IsOrdinary := by
  refine .mapM ?_
  rintro ⟨⟨name, p⟩, id⟩ hentry
  have hid : Text.FeedsOnly id := feedsOnly_of_mem_parameters id (List.of_mem_zip hentry).2
  refine (keeps_readOnlyRule hr p name record).bind fun d hd => .pure ⟨?_, ?_⟩
  · have htype : (parameterType d).ConsistsOf r.names IsOrdinary := by
      cases d with
      | definition d => exact hd.2.1
      | bare f => exact hd
    exact Fragment.consistsOf_group
      ⟨htype, consistsOf_text (by decide), consistsOf_text hid⟩
  · exact Fragment.consistsOf_group ⟨consistsOf_text (by decide), consistsOf_name hr name,
      consistsOf_text (by decide), consistsOf_text hid, consistsOf_text (by decide)⟩

/-- The constructor of a record. -/
theorem keeps_constructor (name : Name) :
    Keeps IsOrdinary (r.constructor readOnlyRule (.name name)) fun _ => True := by
  refine Keeps.bind (Q := fun _ => True) (.ofExcept fun _ _ => trivial) fun record _ => ?_
  refine (keeps_constructorParts hr record).bind fun parts hparts => ?_
  have hparameters : (Fragment.group .square (Fragment.intersperse (.text ", ")
      (parts.map (·.1)))).ConsistsOf r.names IsOrdinary := by
    refine Fragment.consistsOf_group
      (Fragment.forall_intersperse (consistsOf_text (by decide)) ?_)
    exact List.forall_mem_map.mpr fun part hpart => (hparts part hpart).1
  refine Keeps.bind (Q := fun _ => True) (Printer.keeps_line hr.indentUnit
    ⟨consistsOf_text (by decide), consistsOf_name hr name, consistsOf_text (by decide), hparameters,
      consistsOf_text (by decide)⟩) fun _ _ => ?_
  refine (Printer.keeps_block hr.indentUnit (by decide) (.forM fun part hpart => ?_)).bind
    fun _ _ => Printer.keeps_line hr.indentUnit trivial
  exact Printer.keeps_line hr.indentUnit (hparts part hpart).2

/-- A record as a struct, if the type that it extends has no line breaks but line feeds. -/
theorem keeps_structOf {record : Record}
    (hbase : (Fragment.ofJson record.baseType).ConsistsOf r.names IsOrdinary) :
    Keeps IsOrdinary (structOf writableProperty r record (recordName record)) fun _ => True := by
  have hkeywords : (structDeclaration record.visibility).ConsistsOf r.names IsOrdinary := by
    cases record.visibility <;>
      exact Fragment.consistsOf_group ⟨consistsOf_text (by decide), consistsOf_text (by decide)⟩
  have hdeclared : (declared record).Forall (Fragment.ConsistsOf r.names IsOrdinary) := by
    have hname := consistsOf_name hr (recordName record)
    unfold declared
    split
    · exact ⟨consistsOf_text (by decide), hname⟩
    · exact ⟨consistsOf_text (by decide), hname, consistsOf_text (by decide), hbase⟩
  rw [structOf_eq]
  refine (keeps_commentLines record.description).bind fun lines hlines => ?_
  rw [head_eq]
  refine Keeps.bind (Q := fun _ => True) ((keeps_description hr hlines).bind fun _ _ =>
    Printer.keeps_line hr.indentUnit ((List.forall_cons _ _ _).mpr ⟨hkeywords, hdeclared⟩))
      fun _ _ => ?_
  refine Printer.keeps_block hr.indentUnit (by decide) ?_
  refine (keeps_constructor hr (recordName record)).bind fun _ _ => ?_
  exact .forM fun entry _ => keeps_property hr record (entry.2 == 0) entry.1

/-- All records as structs. -/
theorem keeps_structs (hbase : ∀ record ∈ r.names.graph.records,
      (Fragment.ofJson record.baseType).ConsistsOf r.names IsOrdinary) :
    Keeps IsOrdinary (r.structs writableProperty) fun _ => True :=
  Printer.keeps_eachRecord hr.indentUnit true fun record hrecord =>
    keeps_structOf hr (hbase record hrecord)

end Renderer

namespace SourceFile

/-- The text of a source file has no line breaks but line feeds if none of its parts has. -/
theorem feedsOnly_text {f : SourceFile} (hnamespace : FeedsOnly f.namespaceText)
    (hunit : FeedsOnly f.indentUnit) (hbody : ∀ line ∈ f.body, FeedsOnly line) :
    FeedsOnly f.text := by
  have hfeed : IsOrdinary '\n' := fun _ => rfl
  have husings : FeedsOnly (String.join (f.usings.map (usingLine f.indentUnit))) := by
    refine Text.consistsOf_join (List.forall_mem_map.mpr fun u _ => ?_)
    have hname : FeedsOnly u.name := by cases u <;> decide
    simp only [usingLine, Text.consistsOf_append]
    exact ⟨⟨⟨⟨by decide, hunit⟩, by decide⟩, hname⟩, by decide⟩
  have hgap : FeedsOnly (if f.usings.isEmpty then "" else "\n") := by
    split <;> decide
  have hjoined : FeedsOnly (String.intercalate "\n" f.body) := by
    intro c hc
    rw [String.toList_intercalate, Text.intercalate_eq] at hc
    rcases Text.mem_of_mem_joinWith hc with hc | ⟨piece, hpiece, hc⟩
    · rw [List.mem_singleton.mp hc]
      exact hfeed
    · obtain ⟨line, hline, rfl⟩ := List.mem_map.mp hpiece
      exact hbody line hline c hc
  have hindented : FeedsOnly f.indentedBody := by
    refine Text.consistsOf_ofList.mpr fun c hc => ?_
    rcases Text.mem_of_mem_joinWith hc with hc | ⟨piece, hpiece, hc⟩
    · rw [List.mem_singleton.mp hc]
      exact hfeed
    · obtain ⟨line, hline, rfl⟩ := List.mem_map.mp hpiece
      unfold indentLine at hc
      split at hc
      · rcases List.mem_append.mp hc with hc | hc
        · exact hunit c hc
        · exact hjoined c (Text.mem_of_mem_splitOn hline hc).1
      · cases hc
  simp only [text, Text.consistsOf_append]
  exact ⟨⟨⟨⟨⟨⟨⟨⟨by decide +kernel, by decide⟩, hnamespace⟩, by decide⟩, husings⟩, hgap⟩, by decide⟩,
    hindented⟩, by decide⟩

end SourceFile

end CSharp

/-- A level of depth has no line breaks. -/
theorem Configuration.feedsOnly_of_indentUnit {c : Configuration} {unit : String}
    (h : c.indentUnit = .ok unit) : FeedsOnly unit := by
  intro ch hch
  rcases c.mem_indentUnit h hch with rfl | rfl <;> decide

/-- A run that succeeds has tidied the code of the generator. -/
theorem Generator.exists_code_of_run {gen : Generator} {g : TypeGraph} {code : String}
    {found : List String} {metadata : Metadata}
    (h : (gen.run g).1 = .success code found metadata) :
    ∃ text, gen.code g = .ok text ∧ Tidy.code text = code := by
  unfold run at h
  split at h
  · cases h
  · split at h
    · cases h
    · next text htext =>
      injection h with hcode
      exact ⟨text, htext, hcode⟩

namespace CSharp

/-- The code that is generated has no line breaks but line feeds, if the namespace and the types
that records extend have none. -/
theorem feedsOnly_of_run {c : Configuration} {gen : Generator} (hgen : generator c = .ok gen)
    {g : TypeGraph} {code : String} {found : List String} {metadata : Metadata}
    (hsuccess : (gen.run g).1 = .success code found metadata)
    (htype : NamingStyle.read c.typeCase ≠ .ok .kebab)
    (hfield : NamingStyle.read c.fieldCase ≠ .ok .kebab)
    (hnamespace : FeedsOnly c.namespaceName.plain)
    (hbase : ∀ record ∈ g.records, ∀ names,
      (Fragment.ofJson record.baseType).ConsistsOf names IsOrdinary) : FeedsOnly code := by
  obtain ⟨es, options, hlanguage, hoptions, -, -, hcode⟩ := exists_options_of_generator hgen
  obtain ⟨text, htext, rfl⟩ := Generator.exists_code_of_run hsuccess
  rw [hcode] at htext
  obtain ⟨r, body, usings, page, hrenders, hrender, rfl⟩ :=
    exists_renders_of_sourceText (by rw [hlanguage]; rfl) hoptions htext
  obtain ⟨typeStyle, fieldStyle, htypeStyle, hfieldStyle, hnames⟩ := hrenders.names
  have hunit := Configuration.feedsOnly_of_indentUnit hrenders.indentUnit
  have hr : r.FeedsOnly := by
    refine ⟨fun n s hs => ?_, hunit⟩
    rw [hnames] at hs
    have hlegal : IsLegalName s := by
      refine isLegalName_of_text? ?_ ?_ hs
      · rintro rfl
        exact htype htypeStyle
      · rintro rfl
        exact hfield hfieldStyle
    exact feedsOnly_of_isIdentifier hlegal.1
  have hstructs : Keeps IsOrdinary (r.structs writableProperty) fun _ => True := by
    refine Renderer.keeps_structs hr fun record hrecord => hbase record ?_ r.names
    rwa [hnames, graph_assignNames] at hrecord
  have hbody := Printer.consistsOf_of_render hstructs hrender
  exact Tidy.consistsOf_code (fun _ => rfl) (SourceFile.feedsOnly_text hnamespace hunit hbody)

end CSharp

end SchemaStruct
