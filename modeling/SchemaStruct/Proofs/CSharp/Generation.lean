import SchemaStruct.CSharp.Generator
import SchemaStruct.Proofs.CSharp.Refinement
import SchemaStruct.Proofs.Schema.Closure
import SchemaStruct.Proofs.Schema.Records

/-!
# Generation Succeeds

The graph of a document has what the generator of C# looks for: every record has a name, every
object in a type has a record, and what a record extends is a text. So nothing but the
configuration can make the generator fail. One that has values of the right kinds does not, with a
single exception: the number of blanks of a level of depth may be one that no text can have. Such a
number is not refused beforehand, since one that is too small is only warned about.

## Main definitions

* `Configuration.Typed`: the settings have values of the right kinds;
* `Configuration.FitsIndent`: a level of depth is a text;
* `Record.Described`: the descriptions of a record are texts.

## Main results

* `CSharp.exists_findings`: there are findings about every graph;
* `CSharp.exists_sourceText` and `CSharp.sourceText_of_indentUnit`: there is code, unless a level of
  depth is no text;
* `CSharp.run_succeeds`: code is generated for every document.
-/

namespace SchemaStruct

/-- The value is a text, or there is none. -/
inductive Json.IsOptionalText : Json → Prop
  | null : IsOptionalText .null
  | str (s : String) : IsOptionalText (.str s)

instance : DecidablePred Json.IsOptionalText
  | .null => .isTrue .null
  | .str s => .isTrue (.str s)
  | .bool _ | .int _ | .float _ | .arr _ | .obj _ => .isFalse nofun

/-- What is said about the record and its properties are texts. -/
structure Record.Described (r : Record) : Prop where
  /-- The description of the record. -/
  own : r.description.IsOptionalText
  /-- The descriptions of its properties. -/
  properties : ∀ p ∈ r.properties, p.description.IsOptionalText

instance (r : Record) : Decidable r.Described :=
  decidable_of_iff
    (r.description.IsOptionalText ∧ ∀ p ∈ r.properties, p.description.IsOptionalText)
    ⟨fun h => ⟨h.1, h.2⟩, fun h => ⟨h.own, h.properties⟩⟩

/-- A description that is a text, or none, has lines. -/
theorem Json.IsOptionalText.exists_lines {v : Json} (h : v.IsOptionalText) :
    ∃ lines, Description.lines v = .ok lines := by
  cases h with
  | null => exact ⟨[], rfl⟩
  | str s => exact ⟨_, rfl⟩

/-- A type to extend that is a text, or none, can be written. -/
theorem Json.IsOptionalText.exists_serialize {v : Json} (h : v.IsOptionalText)
    (names : NameTable) : ∃ s, (Fragment.ofJson v).serialize names = .ok s := by
  cases h with
  | null => exact ⟨"", rfl⟩
  | str s => exact ⟨s, rfl⟩

/-- The name of a style is read as the style. -/
theorem NamingStyle.read_name (style : NamingStyle) :
    NamingStyle.read (.str style.name) = .ok style := by
  cases style <;> rfl

namespace Configuration

/-- The settings have values of the kinds that they are declared with, and the naming styles are
among those that there are. A truth value is a number too. -/
structure Typed (c : Configuration) : Prop where
  /-- The file is a text, or there is none. -/
  outputFile : c.outputFile.IsOptionalText
  /-- The namespace is a text. -/
  namespaceName : ∃ s, c.namespaceName = .str s
  /-- The number of blanks is a whole number. -/
  indentSize : (∃ n, c.indentSize = .int n) ∨ ∃ b, c.indentSize = .bool b
  /-- Whether there are tabulators is a truth value. -/
  useTabs : ∃ b, c.useTabs = .bool b
  /-- The naming style of types has a name. -/
  typeCase : ∃ style : NamingStyle, c.typeCase = .str style.name
  /-- The naming style of properties has a name. -/
  fieldCase : ∃ style : NamingStyle, c.fieldCase = .str style.name
  /-- Whether there are comments is a truth value. -/
  addComments : ∃ b, c.addComments = .bool b
  /-- The settings of the language are entries. -/
  language : ∃ es, c.language = .entries es

/-- The default settings are of the right kinds. -/
theorem typed_default : Typed {} where
  outputFile := .null
  namespaceName := ⟨_, rfl⟩
  indentSize := .inl ⟨_, rfl⟩
  useTabs := ⟨_, rfl⟩
  typeCase := ⟨.pascal, rfl⟩
  fieldCase := ⟨.pascal, rfl⟩
  addComments := ⟨_, rfl⟩
  language := ⟨_, rfl⟩

/-- The type that generated types extend is set to a text, or not set. -/
def HasTextBase (c : Configuration) : Prop :=
  ∀ es, c.language = .entries es →
    (CSharp.Options.setting es "base_class" .null).IsOptionalText

/-- A level of depth is a text: a tabulator, or a number of blanks that a text can have. -/
def FitsIndent (c : Configuration) : Prop :=
  c.useTabs = .bool true ∨
    ∀ n, c.indentSize = .int n → -Text.lengthLimit ≤ n ∧ n < Text.memoryLimit

variable {c : Configuration}

/-- There are warnings about a configuration with values of the right kinds, or none. -/
theorem exists_check (hc : c.Typed) (language : String) :
    ∃ warnings, c.check language = .ok warnings := by
  obtain ⟨space, hspace⟩ := hc.namespaceName
  obtain ⟨typeStyle, htype⟩ := hc.typeCase
  obtain ⟨fieldStyle, hfield⟩ := hc.fieldCase
  have hstyle (setting : String) (s : String) :
      ∃ warnings, checkStyle setting (.str s) = .ok warnings := ⟨_, rfl⟩
  obtain ⟨types, htypes⟩ := hstyle "type_case" typeStyle.name
  obtain ⟨fields, hfields⟩ := hstyle "field_case" fieldStyle.name
  obtain ⟨indent, hindent⟩ : ∃ warnings, checkIndent c.indentSize = .ok warnings := by
    rcases hc.indentSize with ⟨n, hn⟩ | ⟨b, hb⟩
    · exact hn ▸ ⟨_, rfl⟩
    · exact hb ▸ ⟨_, rfl⟩
  have hnamespace : checkNamespace (.str space) = .ok
      (if isNamespace space then [] else ["Invalid C# namespace: " ++ space]) := rfl
  rw [check, hspace, htype, hfield, htypes, hfields, hindent, hnamespace]
  split
  · exact ⟨_, rfl⟩
  · exact ⟨_, rfl⟩

/-- A level of depth that fits has a text. -/
theorem exists_indentUnit (hc : c.Typed) (hindent : c.FitsIndent) :
    ∃ unit, c.indentUnit = .ok unit := by
  unfold indentUnit
  split
  · exact ⟨_, rfl⟩
  · next htabs =>
    rcases hc.indentSize with ⟨n, hn⟩ | ⟨b, hb⟩
    · rcases hindent with htab | hfits
      · exact absurd (htab ▸ rfl) htabs
      · obtain ⟨hlow, hhigh⟩ := hfits n hn
        rw [hn]
        have hlimit : n < Text.lengthLimit := hhigh.trans (by decide)
        simp [not_lt.mpr hlow, not_le.mpr hlimit, not_le.mpr hhigh]
    · exact hb ▸ ⟨_, rfl⟩

end Configuration

namespace CSharp

section

variable {settings : Entries} {options : Options} {c : Configuration} {gen : Generator}

/-- The type to extend is the one that is set, if it is given. -/
theorem Options.baseClass_of_read (h : Options.read settings = .ok options) :
    options.baseClass =
      if (setting settings "base_class" .null).truthy then setting settings "base_class" .null
      else .null := by
  unfold Options.read at h
  -- the names are checked, and seven other settings are read
  iterate 8 obtain ⟨_, -, h⟩ := ok_of_bind h
  exact congrArg Options.baseClass (Except.ok.inj h).symm

/-- A generator is made of its configuration and the options that are read from it. -/
theorem exists_options_of_generator (h : generator c = .ok gen) :
    ∃ es options, c.language = .entries es ∧ Options.read es = .ok options ∧
      gen.baseType = options.baseClass ∧ gen.findings = findings options c ∧
      gen.code = sourceText c options true := by
  obtain ⟨es, hes, h⟩ := ok_of_bind h
  obtain ⟨options, hoptions, h⟩ := ok_of_bind h
  obtain rfl := Except.ok.inj h
  refine ⟨es, options, ?_, hoptions, rfl, rfl, rfl⟩
  cases hlanguage : c.language with
  | entries es' =>
    rw [hlanguage] at hes
    rw [Except.ok.inj hes]
  | other v =>
    rw [hlanguage] at hes
    cases hes

/-- The generator's own type to extend is a text if it is set to one. -/
theorem isOptionalText_baseType (hbase : c.HasTextBase) (h : generator c = .ok gen) :
    gen.baseType.IsOptionalText := by
  obtain ⟨es, options, hes, hread, hgen, -⟩ := exists_options_of_generator h
  rw [hgen, Options.baseClass_of_read hread]
  split
  · exact hbase es hes
  · exact .null

end

/-- The type of a record key has a text where names do not matter, so every property has a type. -/
theorem exists_hintFindings (choices : TypeChoices) (r : Record) (p : Property) :
    ∃ hints, hintFindings choices r p = .ok hints := by
  have hkey : ∀ u ∈ p.type.layers, u.kind = .object →
      ∃ f s, keyType u.record = .ok f ∧ f.serialize (NameTable.ofGraph .empty) = .ok s := by
    intro u _ _
    cases hrecord : u.record with
    | none => exact ⟨.empty, "", rfl, rfl⟩
    | some key => exact ⟨.text key, key, rfl, rfl⟩
  obtain ⟨t, ht, -⟩ := CSharpType.exists_ofProperty choices hkey
  rw [hintFindings, ht]
  exact ⟨_, rfl⟩

/-- There are findings about every graph, or none. -/
theorem exists_findings {c : Configuration} (hc : c.Typed) (options : Options) (g : TypeGraph) :
    ∃ found, findings options c g = .ok found := by
  obtain ⟨hints, hhints⟩ := exists_mapM fun r (_ : r ∈ g.records) =>
    exists_mapM fun p (_ : p ∈ r.properties) => exists_hintFindings options.choices r p
  obtain ⟨warnings, hwarnings⟩ := c.exists_check hc "csharp"
  rw [findings, hhints, hwarnings]
  exact ⟨_, rfl⟩

/-- A record whose texts are texts passes the check. -/
theorem Renderer.check_of_described {record : Record} (hbase : record.baseType.IsOptionalText)
    (hdescribed : record.Described) (r : Renderer) : r.check record = .ok () := by
  have hlines {description : Json} (h : description.IsOptionalText) :
      ∃ lines, r.commentLines description = .ok lines := by
    unfold commentLines
    split
    · exact h.exists_lines
    · exact ⟨[], rfl⟩
  exact check_eq_ok_iff.mpr ⟨hlines hdescribed.own, hbase.exists_serialize r.names,
    fun p hp => hlines (hdescribed.properties p hp)⟩

section

variable {c : Configuration} (hc : c.Typed)

include hc

/-- There is a text for every graph that resolves its references, if a level of depth has one. -/
theorem exists_sourceText {unit : String} (hunit : c.indentUnit = .ok unit) {g : TypeGraph}
    (hgraph : g.Resolved) (hbase : ∀ r ∈ g.records, r.baseType.IsOptionalText)
    (hdescribed : ∀ r ∈ g.records, r.Described) (options : Options) :
    ∃ text, sourceText c options true g = .ok text := by
  obtain ⟨typeStyle, htype⟩ := hc.typeCase
  obtain ⟨fieldStyle, hfield⟩ := hc.fieldCase
  let r : Renderer :=
    { names := assignNames g typeStyle fieldStyle, options, comments := c.addComments.truthy,
      indentUnit := unit }
  have hnames : r.names.graph = g := graph_assignNames g typeStyle fieldStyle
  have hcheck : r.names.graph.records.forM r.check = .ok () := by
    rw [hnames]
    exact forM_eq_ok_iff.mpr fun record hrecord =>
      r.check_of_described (hbase record hrecord) (hdescribed record hrecord)
  obtain ⟨sections, -, hrender, -⟩ := Renderer.exists_sections
    (assigned_assignNames g typeStyle fieldStyle) (hnames ▸ hgraph) hcheck {} {}
  rw [sourceText, htype, hfield, NamingStyle.read_name, NamingStyle.read_name, hunit]
  -- styles and depth are there, so what is left is to render the graph and to lay it out
  show ∃ text, ((Printer.render (r.structs writableProperty) {}).1 >>= _) = .ok text
  rw [hrender]
  exact ⟨_, rfl⟩

/-- A level of depth without text is a fault before anything is written. -/
theorem sourceText_of_indentUnit {f : Fault} (hunit : c.indentUnit = .error f)
    (options : Options) (hasLayout : Bool) (g : TypeGraph) :
    sourceText c options hasLayout g = .error f := by
  obtain ⟨typeStyle, htype⟩ := hc.typeCase
  obtain ⟨fieldStyle, hfield⟩ := hc.fieldCase
  rw [sourceText, htype, hfield, NamingStyle.read_name, NamingStyle.read_name, hunit]
  rfl

/-- A level of depth without text makes the generator fail at every graph. -/
theorem run_of_indentUnit {f : Fault} (hunit : c.indentUnit = .error f) {gen : Generator}
    (hgen : generator c = .ok gen) (g : TypeGraph) : (gen.run g).1 = .failure f := by
  obtain ⟨es, options, -, -, -, hfindings, hcode⟩ := exists_options_of_generator hgen
  obtain ⟨found, hfound⟩ := exists_findings hc options g
  rw [Generator.run, hfindings, hcode, hfound, sourceText_of_indentUnit hc hunit]

end

/-- Code is generated for every document, as long as a level of depth is a text: the generator does
not fail, and nothing but its findings is reported. -/
theorem run_succeeds {c : Configuration} (hc : c.Typed) (hbase : c.HasTextBase)
    (hindent : c.FitsIndent) {gen : Generator} (hgen : generator c = .ok gen) {d : Document}
    (hd : d.baseType.IsOptionalText ∨ d.baseType = gen.baseType) {topLevel : Json}
    {g : TypeGraph} (hg : (d.toGraph topLevel).1 = .ok g)
    (hdescribed : ∀ r ∈ g.records, r.Described) :
    ∃ code findings,
      gen.run g = (.success code findings (gen.metadata g), findings.map .finding) := by
  obtain ⟨es, options, -, -, -, hfindings, hcode⟩ := exists_options_of_generator hgen
  obtain ⟨found, hfound⟩ := exists_findings hc options g
  obtain ⟨unit, hunit⟩ := c.exists_indentUnit hc hindent
  have hextends : ∀ r ∈ g.records, r.baseType.IsOptionalText := by
    intro r hr
    -- all records of a document extend the same type
    obtain ⟨n, call, -, -, -, flat, -, hrecord⟩ := Document.exists_collects hg hr
    rw [hrecord.baseType]
    exact hd.elim id fun h => h ▸ isOptionalText_baseType hbase hgen
  obtain ⟨text, htext⟩ := exists_sourceText hc hunit (Document.resolved_of_toGraph hg) hextends
    hdescribed options
  refine ⟨Tidy.code text, found, ?_⟩
  rw [Generator.run, hfindings, hcode, hfound, htext]

/-- A document with a record that refers to itself, and with descriptions. -/
def shelf : Document where
  root := .obj
    [("description", .str "Where it stands."), ("properties", .obj
      [("books", .obj
          [("type", .str "array"), ("items", .obj [("$ref", .str "#/definitions/book")])]),
        ("next", .obj [("$ref", .str "#")])]),
      ("definitions", .obj
        [("book", .obj [("properties", .obj
          [("title", .obj [("type", .str "string"), ("description", .str "As printed.")])])])])]
  baseType := .str "Entity"

/-- A configuration with styles, options and a depth of its own. -/
def shelfConfiguration : Configuration where
  namespaceName := .str "Library"
  indentSize := .int 2
  fieldCase := .str "camel"
  language := .entries [(.text "base_class", .str "Entity"), (.text "array_type", .str "list"),
    (.text "json_attributes", .bool false)]

/-- The theorem at a document with two records, with the keys of its graph. -/
theorem run_succeeds_shelf :
    shelfConfiguration.Typed ∧ shelfConfiguration.HasTextBase ∧ shelfConfiguration.FitsIndent ∧
      shelf.baseType.IsOptionalText ∧
      ∃ gen g, generator shelfConfiguration = .ok gen ∧
        (shelf.toGraph (.str "Shelf")).1 = .ok g ∧ g.keys = ["Shelf", "Book"] ∧
        (∀ r ∈ g.records, r.Described) ∧
        ∃ code findings,
          gen.run g = (.success code findings (gen.metadata g), findings.map .finding) := by
  have htyped : shelfConfiguration.Typed :=
    { Configuration.typed_default with
      namespaceName := ⟨_, rfl⟩
      indentSize := .inl ⟨_, rfl⟩
      fieldCase := ⟨.camel, rfl⟩
      language := ⟨_, rfl⟩ }
  have hbase : shelfConfiguration.HasTextBase := by
    rintro es ⟨⟩
    decide
  have hindent : shelfConfiguration.FitsIndent := .inr (by rintro n ⟨⟩; decide)
  obtain ⟨gen, hgen⟩ : ∃ gen, generator shelfConfiguration = .ok gen := ⟨_, rfl⟩
  have hrecords : (shelf.toGraph (.str "Shelf")).1.toOption.map (fun g =>
      (g.keys, decide (∀ r ∈ g.records, r.Described))) =
        some (["Shelf", "Book"], true) := by decide +kernel
  obtain ⟨g, hg, hrecords⟩ := Option.map_eq_some_iff.mp hrecords
  obtain ⟨hkeys, hdescribed⟩ := Prod.mk.inj hrecords
  have hgraph := Document.toGraph_of_toOption hg
  have hdescribed := of_decide_eq_true hdescribed
  exact ⟨htyped, hbase, hindent, .str "Entity", gen, g, hgen, hgraph, hkeys, hdescribed,
    run_succeeds htyped hbase hindent hgen (.inl (.str "Entity")) hgraph hdescribed⟩

/-- A document of one record. -/
def point : Document where
  root := .obj [("properties", .obj [("x", .obj [("type", .str "integer")])])]

/-- A configuration with a number of blanks that is too small for a text. -/
def outdented : Configuration where
  indentSize := .int (-9223372036854775809)

/-- The values may be of the right kinds and the document accepted, and still there is no code. -/
theorem run_fails_outdented :
    outdented.Typed ∧ outdented.HasTextBase ∧ point.baseType.IsOptionalText ∧
      ∃ gen g, generator outdented = .ok gen ∧ (point.toGraph (.str "Point")).1 = .ok g ∧
        (∀ r ∈ g.records, r.Described) ∧ (gen.run g).1 = .failure (.misfit .countTooLarge) := by
  have htyped : outdented.Typed :=
    { Configuration.typed_default with indentSize := .inl ⟨_, rfl⟩ }
  have hbase : outdented.HasTextBase := by
    rintro es ⟨⟩
    decide
  obtain ⟨gen, hgen⟩ : ∃ gen, generator outdented = .ok gen := ⟨_, rfl⟩
  have hrecords : (point.toGraph (.str "Point")).1.toOption.map (fun g =>
      decide (∀ r ∈ g.records, r.Described)) = some true := by decide +kernel
  obtain ⟨g, hg, hdescribed⟩ := Option.map_eq_some_iff.mp hrecords
  exact ⟨htyped, hbase, .null, gen, g, hgen, Document.toGraph_of_toOption hg,
    of_decide_eq_true hdescribed, run_of_indentUnit htyped rfl hgen g⟩

end CSharp

end SchemaStruct
