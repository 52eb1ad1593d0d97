import SchemaStruct.Proofs.CSharp.Constructors
import SchemaStruct.Proofs.Source.Renders

/-!
# Sections of Source Text

The lines that are written for one record, part by part. A struct and a class of the same record are
written by different programs that find the same things in the same order: a comment, a
declaration line, and for each property what stands above it and its declaration. They differ in the
keywords of the declaration line, in the accessors of the properties and in the constructor, which
looks at every type a second time and needs nothing new. So the class is read off the struct by
taking the constructor out and replacing these words, and a record that cannot be written fails in
both forms alike.

## Main definitions

* `Section`: the lines of a record, part by part;
* `Section.asClass`: the lines of the class, read off those of the struct;
* `Renderer.check`: the texts of a record that may be no texts;
* `Renderer.IsSection`: the parts of a section are what is written for the record.

## Main results

* `Renderer.property_eq`, `Renderer.classOf_eq`, `Renderer.structOf_eq`: what the two forms share;
* `Renderer.exists_section` and `Renderer.fails_of_check`: the lines of a record, or its fault.
-/

namespace SchemaStruct.CSharp

open NameTable

/-- The text `s` with `new` in the place of `old` at its end, if it ends so. -/
def replaceSuffix (old new s : String) : String :=
  if old.toList <:+ s.toList then
    String.ofList (s.toList.take (s.toList.length - old.toList.length)) ++ new
  else s

/-- The text `s` with `new` in the place of `old` at its beginning, if it begins so. -/
def replacePrefix (old new s : String) : String :=
  if old.toList <+: s.toList then new ++ String.ofList (s.toList.drop old.toList.length) else s

/-- What stands at the end is replaced. -/
theorem replaceSuffix_append (old new s : String) :
    replaceSuffix old new (s ++ old) = s ++ new := by
  simp [replaceSuffix]

/-- What stands at the beginning is replaced. -/
theorem replacePrefix_append (old new s : String) :
    replacePrefix old new (old ++ s) = new ++ s := by
  simp [replacePrefix]

/-- The lines about a property: what stands above it, and its declaration. -/
structure PropertyLines where
  /-- A blank line, a comment and an attribute, as far as there are any. -/
  above : List String
  /-- The line that declares the property. -/
  declaration : String

/-- The lines of a record, part by part. -/
structure Section where
  /-- The description of the record. -/
  comment : List String
  /-- The line that declares the record. -/
  declaration : String
  /-- The constructor, with the blank line behind it. -/
  constructor : List String
  /-- The properties, in order. -/
  properties : List PropertyLines

namespace Section

/-- All lines of a record. -/
def lines (s : Section) : List String :=
  s.comment ++ s.declaration :: "\x7b" ::
    (s.constructor ++ s.properties.flatMap (fun p => p.above ++ [p.declaration]) ++ ["\x7d"])

/-- The lines of the class of a record, read off those of its struct: the constructor is left out,
the properties get setters, and a visible type is declared as a class. -/
def asClass (v : Visibility) (s : Section) : Section where
  comment := s.comment
  declaration :=
    if v = .exported ∨ v = .internal then
      replacePrefix (accessKeyword v ++ "readonly struct") (accessKeyword v ++ "partial class")
        s.declaration
    else s.declaration
  constructor := []
  properties := s.properties.map fun p =>
    { p with declaration := replaceSuffix "\x7b get; \x7d" "\x7b get; set; \x7d" p.declaration }

/-- The last line of a record closes it. -/
theorem endsInText_lines (s : Section) : EndsInText s.lines :=
  ⟨s.comment ++ s.declaration :: "\x7b" ::
    (s.constructor ++ s.properties.flatMap (fun p => p.above ++ [p.declaration])), "\x7d",
    by simp [lines], by decide⟩

end Section

namespace Renderer

variable {r : Renderer} {record : Record} {rule : PropertyRule} {f : Fault}

/-- The lines of a description, if descriptions become comments. -/
def commentLines (r : Renderer) (description : Json) : Except Fault (List String) :=
  if r.comments then Description.lines description else .ok []

/-- Writes the blank line between two properties, if there is one. -/
def gap (r : Renderer) (isFirst : Bool) : Emit Unit :=
  if isFirst = false ∧ r.options.density = .normal then r.printer.line [] else pure ()

/-- Writes the attribute of a property, if there is one. -/
def attributeOf (r : Renderer) (p : Property) : Emit Unit :=
  if r.options.jsonAttributes then r.jsonAttribute p.name else pure ()

/-- Writes what stands above the declaration of a property. -/
def above (r : Renderer) (isFirst : Bool) (p : Property) : Emit Unit := do
  r.gap isFirst
  r.description (← Emit.ofExcept (r.commentLines p.description))
  r.attributeOf p

/-- Writes the declaration of a property. -/
def declare (r : Renderer) (rule : PropertyRule) (record : Record) (entry : Name × Property) :
    Emit Unit := do
  let d ← rule r entry.2 entry.1 record
  r.printer.line [d.toFragment]

/-- Writes a record, given what its declaration begins with and what stands between the brackets. -/
def recordAs (r : Renderer) (declaration : Fragment) (body : Emit Unit) (record : Record)
    (name : Name) : Emit Unit := do
  let lines ← Emit.ofExcept (r.recordLines record)
  r.head lines declaration (.name name) record.baseType
  r.printer.block body

/-- What stands above a property does not depend on the rule that declares it. -/
theorem property_eq (r : Renderer) (rule : PropertyRule) (record : Record) (isFirst : Bool)
    (entry : Name × Property) :
    r.property rule record isFirst entry =
      (do r.above isFirst entry.2; r.declare rule record entry) := by
  have hsilent : r.description [] = pure () := rfl
  by_cases hblank : isFirst = false ∧ r.options.density = .normal <;>
    cases hcomments : r.comments <;> cases hattributes : r.options.jsonAttributes <;>
    simp [property, above, gap, attributeOf, declare, commentLines, hblank, hcomments,
      hattributes, hsilent, Emit.ofExcept]

/-- A class, in terms of what all forms share. -/
theorem classOf_eq (r : Renderer) (record : Record) (name : Name) :
    r.classOf record name =
      r.recordAs (classDeclaration record.visibility) (r.properties writableProperty record) record
        name :=
  rfl

/-- A struct, in terms of what all forms share. -/
theorem structOf_eq (r : Renderer) (record : Record) (name : Name) :
    structOf writableProperty r record name =
      r.recordAs (structDeclaration record.visibility)
        (do r.constructor readOnlyRule (.name name); r.properties readOnlyRule record) record
        name :=
  rfl

/-- Checks the description of a property, if descriptions become comments. -/
def checkProperty (r : Renderer) (p : Property) : Except Fault Unit := do
  let _ ← r.commentLines p.description

/-- Checks the texts of a record that need not be texts: the descriptions, as far as they become
comments, and the type that it extends. -/
def check (r : Renderer) (record : Record) : Except Fault Unit := do
  let _ ← r.commentLines record.description
  let _ ← (Fragment.ofJson record.baseType).serialize r.names
  record.properties.forM r.checkProperty

/-- A property passes the check if its description has lines. -/
theorem checkProperty_eq_ok_iff {p : Property} :
    r.checkProperty p = .ok () ↔ ∃ lines, r.commentLines p.description = .ok lines := by
  unfold checkProperty
  cases r.commentLines p.description <;> simp [bind, Except.bind, pure, Except.pure]

/-- A record passes the check if all its texts are there. -/
theorem check_eq_ok_iff :
    r.check record = .ok () ↔ (∃ lines, r.commentLines record.description = .ok lines) ∧
      (∃ s, (Fragment.ofJson record.baseType).serialize r.names = .ok s) ∧
      ∀ p ∈ record.properties, ∃ lines, r.commentLines p.description = .ok lines := by
  unfold check
  cases r.commentLines record.description with
  | error f => simp [bind, Except.bind]
  | ok lines =>
    cases (Fragment.ofJson record.baseType).serialize r.names with
    | error f => simp [bind, Except.bind]
    | ok s =>
      simp only [← checkProperty_eq_ok_iff, ← forM_eq_ok_iff]
      simp [bind, Except.bind]

section

variable {p : Property} {isFirst : Bool} {d : Nat}

/-- The blank line between two properties, if there is one. -/
def gapLines (r : Renderer) (isFirst : Bool) : List String :=
  if isFirst = false ∧ r.options.density = .normal then [""] else []

/-- The blank line between two properties. -/
theorem writes_gap (r : Renderer) (isFirst : Bool) (d : Nat) :
    Writes (r.gap isFirst) d () (r.gapLines isFirst) := by
  unfold gap gapLines
  split
  · show Writes (r.printer.line []) d () [r.printer.indented d ""]
    exact Printer.writes_line rfl d
  · exact .pure () d

/-- The attribute of a property, if there is one. -/
def attributeLines (r : Renderer) (d : Nat) (p : Property) : List String :=
  if r.options.jsonAttributes then [r.attributeLine d p.name] else []

/-- The attribute of a property. -/
theorem writes_attributeOf (r : Renderer) (p : Property) (d : Nat) :
    Writes (r.attributeOf p) d () (r.attributeLines d p) := by
  unfold attributeOf attributeLines
  split
  · exact r.writes_jsonAttribute p.name d
  · exact .pure () d

/-- What stands above a property whose description has the lines `lines`. -/
def aboveLines (r : Renderer) (isFirst : Bool) (d : Nat) (lines : List String) (p : Property) :
    List String :=
  r.gapLines isFirst ++ (r.descriptionLines d lines ++ r.attributeLines d p)

/-- Above a property stands what its description and the options say. -/
theorem writes_above {lines : List String} (hlines : r.commentLines p.description = .ok lines)
    (isFirst : Bool) (d : Nat) :
    Writes (r.above isFirst p) d () (r.aboveLines isFirst d lines p) :=
  (r.writes_gap isFirst d).bind ((Writes.ofExcept hlines d).bind
    ((r.writes_description lines d).bind (r.writes_attributeOf p d)))

/-- Above a property stands something. -/
theorem exists_writes_above (h : ∃ lines, r.commentLines p.description = .ok lines)
    (isFirst : Bool) (d : Nat) : ∃ above, Writes (r.above isFirst p) d () above := by
  obtain ⟨lines, hlines⟩ := h
  exact ⟨_, writes_above hlines isFirst d⟩

/-- A description that has no lines is a fault above the property. -/
theorem fails_above (h : r.commentLines p.description = .error f) (isFirst : Bool) (d : Nat) :
    Fails (r.above isFirst p) d f :=
  .of_writes (r.writes_gap isFirst d) (Fails.ofExcept h d).bind

end

/-- The rule declares every property with the given accessors, and writes nothing. -/
def Accesses (r : Renderer) (rule : PropertyRule) (accessors : String) : Prop :=
  ∀ record p name fragment d, Writes (r.propertyType p) d fragment [] →
    Writes (rule r p name record) d (.definition ⟨"public", fragment, name, accessors⟩) []

/-- The properties of classes have setters. -/
theorem accesses_writable (r : Renderer) :
    r.Accesses writableProperty "{ get; set; }" :=
  fun _ _ _ _ d h => h.bind (.pure _ d)

/-- The properties of structs have none. -/
theorem accesses_readOnly (r : Renderer) : r.Accesses readOnlyRule "{ get; }" :=
  fun record p name fragment d h =>
    (r.accesses_writable record p name fragment d h).bind (.pure _ d)

/-- The declaration of a property, up to its accessors. -/
theorem exists_writes_declare {entry : Name × Property} (hassigned : r.names.Assigned)
    (hname : ∃ s, r.names.text? entry.1 = some s)
    (htype : entry.2.type.ResolvesIn r.names.graph) (record : Record) (d : Nat) :
    ∃ stem, ∀ rule accessors, r.Accesses rule accessors →
      Writes (r.declare rule record entry) d () [stem ++ accessors] := by
  obtain ⟨name, hname⟩ := hname
  obtain ⟨fragment, type, htext, hwrites⟩ := exists_propertyType hassigned htype
  refine ⟨r.printer.indented d (String.join ["public", " ", type, " ", name, " "]), ?_⟩
  intro rule accessors hrule
  have hline : Fragment.serializeAll r.names
      [(Definition.mk "public" fragment entry.1 accessors).toFragment] =
        .ok (String.join ["public", " ", type, " ", name, " "] ++ accessors) := by
    rw [Definition.toFragment, Fragment.serializeAll, Fragment.serialize,
      Fragment.serializeAll_eq_join (.cons rfl (.cons rfl (.cons htext (.cons rfl
        (.cons (Fragment.serialize_name hname) (.cons rfl (.cons rfl .nil)))))))]
    simp [-String.reduceAppend, Fragment.serializeAll, bind, Except.bind, pure, Except.pure,
      String.append_assoc]
  rw [← Printer.indented_append (by simp)]
  exact (hrule record entry.2 entry.1 fragment d (hwrites d)).bind
    (Printer.writes_line hline d)

/-- What is written for the properties of a record, up to their accessors. -/
theorem exists_writes_properties (hassigned : r.names.Assigned) {entries : List (Name × Property)}
    (hnames : ∀ entry ∈ entries, ∃ s, r.names.text? entry.1 = some s)
    (htypes : ∀ entry ∈ entries, entry.2.type.ResolvesIn r.names.graph)
    (hlines : ∀ entry ∈ entries, ∃ lines, r.commentLines entry.2.description = .ok lines)
    (record : Record) (k : Nat) :
    ∃ stems : List (List String × String), ∀ rule accessors, r.Accesses rule accessors →
      List.Forall₂ (fun entry stem =>
        Writes (r.declare rule record entry) 1 () [stem.2 ++ accessors]) entries stems ∧
      Writes ((entries.zipIdx k).forM fun (entry, i) => r.property rule record (i == 0) entry) 1 ()
        (stems.flatMap fun stem => stem.1 ++ [stem.2 ++ accessors]) := by
  induction entries generalizing k with
  | nil => exact ⟨[], fun _ _ _ => ⟨.nil, .pure () 1⟩⟩
  | cons entry entries ih =>
    obtain ⟨hname, hnames⟩ := List.forall_mem_cons.mp hnames
    obtain ⟨htype, htypes⟩ := List.forall_mem_cons.mp htypes
    obtain ⟨hline, hlines⟩ := List.forall_mem_cons.mp hlines
    obtain ⟨stems, hstems⟩ := ih hnames htypes hlines (k + 1)
    obtain ⟨above, habove⟩ := exists_writes_above hline (k == 0) 1
    obtain ⟨stem, hstem⟩ := exists_writes_declare hassigned hname htype record 1
    refine ⟨(above, stem) :: stems, fun rule accessors hrule => ?_⟩
    obtain ⟨hdeclared, hwritten⟩ := hstems rule accessors hrule
    have hfirst : Writes (r.property rule record (k == 0) entry) 1 ()
        (above ++ [stem ++ accessors]) := by
      rw [property_eq]
      exact habove.bind (hstem rule accessors hrule)
    exact ⟨.cons (hstem rule accessors hrule) hdeclared, hfirst.bind hwritten⟩

/-- What stands behind the keywords in the declaration line of a record. -/
def declared (record : Record) : List Fragment :=
  match record.baseType with
  | .null => [.text " ", .name (recordName record)]
  | base => [.text " ", .name (recordName record), .text " : ", Fragment.ofJson base]

/-- The head of a record is its description and its declaration line. -/
theorem head_eq (r : Renderer) (lines : List String) (declaration : Fragment) (record : Record) :
    r.head lines declaration (.name (recordName record)) record.baseType =
      (do r.description lines; r.printer.line (declaration :: declared record)) := by
  unfold head declared
  cases record.baseType <;> rfl

/-- The text behind the keywords of a record whose texts are there. -/
theorem exists_declared (hname : ∃ s, r.names.text? (recordName record) = some s)
    (hbase : ∃ s, (Fragment.ofJson record.baseType).serialize r.names = .ok s) :
    ∃ rest, Fragment.serializeAll r.names (declared record) = .ok rest := by
  obtain ⟨own, hown⟩ := hname
  obtain ⟨base, hbase⟩ := hbase
  have hown := Fragment.serialize_name hown
  unfold declared
  split
  · exact ⟨_, Fragment.serializeAll_eq_join (.cons rfl (.cons hown .nil))⟩
  · exact ⟨_, Fragment.serializeAll_eq_join
      (.cons rfl (.cons hown (.cons rfl (.cons hbase .nil))))⟩

/-- A type to extend that is no text is a fault behind the keywords. -/
theorem declared_eq_error (hname : ∃ s, r.names.text? (recordName record) = some s)
    (hbase : (Fragment.ofJson record.baseType).serialize r.names = .error f) :
    Fragment.serializeAll r.names (declared record) = .error f := by
  obtain ⟨own, hown⟩ := hname
  have hown := Fragment.serialize_name hown
  unfold declared
  split
  · next hnull =>
    rw [hnull] at hbase
    cases hbase
  · simp only [Fragment.serializeAll, hown, hbase]
    rfl

/-- The lines of a record, whatever its declaration begins with and whatever stands between the
brackets. -/
theorem exists_writes_recordAs (hname : ∃ s, r.names.text? (recordName record) = some s)
    (hlines : ∃ lines, r.commentLines record.description = .ok lines)
    (hbase : ∃ s, (Fragment.ofJson record.baseType).serialize r.names = .ok s) :
    ∃ comment rest, ∀ declaration keywords body lines,
      Fragment.serialize r.names declaration = .ok keywords → Writes body 1 () lines →
        Writes (r.recordAs declaration body record (recordName record)) 0 ()
          (comment ++ (keywords ++ rest) :: "\x7b" :: (lines ++ ["\x7d"])) := by
  obtain ⟨description, hdescription⟩ := hlines
  obtain ⟨comment, hcomment⟩ := exists_writes_description r description 0
  obtain ⟨rest, hrest⟩ := exists_declared hname hbase
  refine ⟨comment, rest, fun declaration keywords body lines hkeywords hbody => ?_⟩
  have htext : Fragment.serializeAll r.names (declaration :: declared record) =
      .ok (keywords ++ rest) := by
    rw [Fragment.serializeAll, hkeywords, hrest]
    rfl
  have hline : Writes (r.printer.line (declaration :: declared record)) 0 ()
      [r.printer.indented 0 (keywords ++ rest)] := Printer.writes_line htext 0
  have hblock : Writes (r.printer.block body) 0 ()
      (r.printer.indented 0 "\x7b" :: (lines ++ [r.printer.indented 0 "\x7d"])) :=
    Printer.writes_block hbody
  rw [Printer.indented_zero] at hline
  rw [Printer.indented_zero, Printer.indented_zero] at hblock
  have hhead : Writes (r.head description declaration (.name (recordName record)) record.baseType)
      0 () (comment ++ [keywords ++ rest]) := by
    rw [head_eq]
    exact hcomment.bind hline
  have hwritten : Writes (r.recordAs declaration body record (recordName record)) 0 ()
      ([] ++ ((comment ++ [keywords ++ rest]) ++ ("\x7b" :: (lines ++ ["\x7d"])))) := by
    unfold recordAs
    exact (Writes.ofExcept hdescription 0).bind (hhead.bind hblock)
  simpa using hwritten

/-- A record fails where its texts do, whatever its declaration begins with and whatever stands
between the brackets. -/
theorem fails_recordAs (hname : ∃ s, r.names.text? (recordName record) = some s)
    (h : r.commentLines record.description = .error f ∨
      (∃ lines, r.commentLines record.description = .ok lines) ∧
        (Fragment.ofJson record.baseType).serialize r.names = .error f)
    {declaration : Fragment} {keywords : String}
    (hkeywords : Fragment.serialize r.names declaration = .ok keywords) (body : Emit Unit) :
    Fails (r.recordAs declaration body record (recordName record)) 0 f := by
  unfold recordAs
  simp only [head_eq]
  rcases h with h | ⟨⟨description, hdescription⟩, h⟩
  · exact (Fails.ofExcept h 0).bind
  · obtain ⟨comment, hcomment⟩ := exists_writes_description r description 0
    have htext : Fragment.serializeAll r.names (declaration :: declared record) = .error f := by
      rw [Fragment.serializeAll, hkeywords, declared_eq_error hname h]
      rfl
    refine .of_writes (Writes.ofExcept hdescription 0) (Fails.bind ?_)
    exact .of_writes hcomment (Printer.fails_line htext 0)

/-- A record fails where its body does. -/
theorem fails_recordAs_body (hname : ∃ s, r.names.text? (recordName record) = some s)
    (hlines : ∃ lines, r.commentLines record.description = .ok lines)
    (hbase : ∃ s, (Fragment.ofJson record.baseType).serialize r.names = .ok s)
    {declaration : Fragment} {keywords : String}
    (hkeywords : Fragment.serialize r.names declaration = .ok keywords) {body : Emit Unit}
    (h : Fails body 1 f) :
    Fails (r.recordAs declaration body record (recordName record)) 0 f := by
  obtain ⟨description, hdescription⟩ := hlines
  obtain ⟨comment, hcomment⟩ := exists_writes_description r description 0
  obtain ⟨rest, hrest⟩ := exists_declared hname hbase
  have htext : Fragment.serializeAll r.names (declaration :: declared record) =
      .ok (keywords ++ rest) := by
    rw [Fragment.serializeAll, hkeywords, hrest]
    rfl
  unfold recordAs
  simp only [head_eq]
  refine .of_writes (Writes.ofExcept hdescription 0) ?_
  exact .of_writes (hcomment.bind (Printer.writes_line htext 0)) (Printer.fails_block h)

/-- The first words of a struct. -/
def structKeywords (v : Visibility) : String :=
  if v = .exported ∨ v = .internal then accessKeyword v ++ "readonly struct"
  else accessKeyword v ++ "partial class"

/-- A class begins with its access keyword. -/
theorem serialize_classDeclaration (names : NameTable) (v : Visibility) :
    Fragment.serialize names (classDeclaration v) = .ok (accessKeyword v ++ "partial class") := by
  rw [classDeclaration, Fragment.serialize,
    Fragment.serializeAll_eq_join (.cons rfl (.cons rfl .nil))]
  simp

/-- A struct begins with its keywords. -/
theorem serialize_structDeclaration (names : NameTable) (v : Visibility) :
    Fragment.serialize names (structDeclaration v) = .ok (structKeywords v) := by
  have htwo (a b : String) :
      Fragment.serialize names (.group .square [.text a, .text b]) = .ok (a ++ b) := by
    rw [Fragment.serialize, Fragment.serializeAll_eq_join (.cons rfl (.cons rfl .nil))]
    simp
  cases v with
  | exported => exact htwo "public " "readonly struct"
  | internal => exact htwo "internal " "readonly struct"
  | hidden => exact serialize_classDeclaration names .hidden
  | unstated => exact serialize_classDeclaration names .unstated

/-- The parts of a section are what is written for the record as a struct. -/
structure IsSection (r : Renderer) (record : Record) (s : Section) : Prop where
  /-- All parts together are the lines of the struct. -/
  lines : Writes (structOf writableProperty r record (recordName record)) 0 () s.lines
  /-- The constructor is what is written as constructor. -/
  constructor : Writes (r.constructor readOnlyRule (.name (recordName record))) 1 () s.constructor
  /-- Visible types are declared as structs. -/
  declaration : record.visibility = .exported ∨ record.visibility = .internal →
    ∃ rest, s.declaration = accessKeyword record.visibility ++ "readonly struct" ++ rest
  /-- In order, the properties are declared as properties that can only be read. -/
  properties : List.Forall₂ (fun entry lines =>
    Writes (r.declare readOnlyRule record entry) 1 () [lines.declaration] ∧
      ∃ stem, lines.declaration = stem ++ "{ get; }") (propertyNames record) s.properties

section

variable (hassigned : r.names.Assigned) (hgraph : r.names.graph.Resolved)
  (hrecord : record ∈ r.names.graph.records)

include hgraph hrecord in
/-- The types of the properties of a record resolve in the graph. -/
theorem resolvesIn_of_mem {entry : Name × Property} (h : entry ∈ propertyNames record) :
    entry.2.type.ResolvesIn r.names.graph := by
  obtain ⟨⟨p, i⟩, hp, rfl⟩ := List.mem_map.mp h
  exact hgraph record hrecord p (List.fst_mem_of_mem_zipIdx hp)

/-- The properties with names of a record are its properties. -/
theorem map_snd_propertyNames (record : Record) :
    (propertyNames record).map Prod.snd = record.properties := by
  rw [propertyNames, List.map_map]
  conv_rhs => rw [← List.zipIdx_map_fst 0 record.properties]
  rfl

/-- The properties of a record are those that have names. -/
theorem mem_of_mem_propertyNames {entry : Name × Property} (h : entry ∈ propertyNames record) :
    entry.2 ∈ record.properties := by
  obtain ⟨⟨p, i⟩, hp, rfl⟩ := List.mem_map.mp h
  exact List.fst_mem_of_mem_zipIdx hp

include hassigned hgraph hrecord

/-- The constructor of a record is written without a fault. -/
theorem exists_writes_constructor (d : Nat) :
    ∃ lines, Writes (r.constructor readOnlyRule (.name (recordName record))) d () lines := by
  obtain ⟨own, hown⟩ := hassigned.record record hrecord
  obtain ⟨members, hmembers, hids⟩ := exists_members hassigned
    (hassigned.property record hrecord) (fun _ h => resolvesIn_of_mem hgraph hrecord h)
    (CSharp.parameters [] ((propertyNames record).map (·.2.name))) (by simp) record
  exact ⟨r.constructorLines d own members, writes_constructor hrecord hown hmembers hids d⟩

/-- A record whose texts are there is written as a struct, in parts, and as the class that is read
off them. -/
theorem exists_section (hcheck : r.check record = .ok ()) :
    ∃ s, r.IsSection record s ∧
      Writes (r.classOf record (recordName record)) 0 () (s.asClass record.visibility).lines := by
  obtain ⟨hdescription, hbase, hdescriptions⟩ := check_eq_ok_iff.mp hcheck
  obtain ⟨constructor, hconstructor⟩ := exists_writes_constructor hassigned hgraph hrecord 1
  obtain ⟨stems, hstems⟩ := exists_writes_properties hassigned
    (hassigned.property record hrecord) (fun _ h => resolvesIn_of_mem hgraph hrecord h)
    (fun _ h => hdescriptions _ (mem_of_mem_propertyNames h)) record 0
  obtain ⟨comment, rest, hrecordAs⟩ :=
    exists_writes_recordAs (hassigned.record record hrecord) hdescription hbase
  obtain ⟨hdeclared, hreadOnly⟩ := hstems _ _ r.accesses_readOnly
  obtain ⟨-, hwritable⟩ := hstems _ _ r.accesses_writable
  let s : Section :=
    { comment
      declaration := structKeywords record.visibility ++ rest
      constructor
      properties := stems.map fun stem => ⟨stem.1, stem.2 ++ "{ get; }"⟩ }
  have hstruct : Writes (structOf writableProperty r record (recordName record)) 0 () s.lines := by
    rw [structOf_eq]
    have hbody := hconstructor.bind (f := fun _ => r.properties readOnlyRule record) hreadOnly
    have hwritten := hrecordAs _ _ _ _ (serialize_structDeclaration r.names record.visibility) hbody
    simpa [Section.lines, s, List.flatMap_map] using hwritten
  have hclass : Writes (r.classOf record (recordName record)) 0 ()
      (s.asClass record.visibility).lines := by
    rw [classOf_eq]
    have hwritten := hrecordAs _ _ (r.properties writableProperty record) _
      (serialize_classDeclaration r.names record.visibility) hwritable
    have hdeclaration : (s.asClass record.visibility).declaration =
        accessKeyword record.visibility ++ "partial class" ++ rest := by
      by_cases hvisible : record.visibility = .exported ∨ record.visibility = .internal
      · simp only [Section.asClass, s, structKeywords, if_pos hvisible, replacePrefix_append]
      · simp only [Section.asClass, s, structKeywords, if_neg hvisible]
    have hproperties : (s.asClass record.visibility).properties =
        stems.map fun stem => ⟨stem.1, stem.2 ++ "\x7b get; set; \x7d"⟩ := by
      simp only [Section.asClass, s, List.map_map]
      exact List.map_congr_left fun stem _ => by simp [replaceSuffix_append]
    rw [Section.lines, hdeclaration, hproperties]
    simpa [Section.asClass, s, List.flatMap_map] using hwritten
  refine ⟨s, ⟨hstruct, hconstructor, ?_, ?_⟩, hclass⟩
  · intro hvisible
    exact ⟨rest, by simp [s, structKeywords, hvisible]⟩
  · rw [List.forall₂_map_right_iff]
    exact hdeclared.imp fun entry stem h => ⟨h, _, rfl⟩

/-- The properties of a record fail where the description of one of them has no lines. -/
theorem fails_properties {accessors : String} (hrule : r.Accesses rule accessors)
    (h : record.properties.forM r.checkProperty = .error f) :
    Fails (r.properties rule record) 1 f := by
  rw [← map_snd_propertyNames, List.forM_eq_forM, List.forM_map, ← List.forM_eq_forM,
    ← forM_zipIdx _ 0] at h
  refine Fails.forM (fun x => r.checkProperty x.1.2) ?_ ?_ h
  · rintro ⟨entry, i⟩ hx hcheck
    have hentry := List.fst_mem_of_mem_zipIdx hx
    obtain ⟨above, habove⟩ := exists_writes_above (checkProperty_eq_ok_iff.mp hcheck) (i == 0) 1
    obtain ⟨stem, hstem⟩ := exists_writes_declare hassigned
      (hassigned.property record hrecord entry hentry) (resolvesIn_of_mem hgraph hrecord hentry)
      record 1
    dsimp only
    rw [property_eq]
    exact (habove.bind (hstem rule accessors hrule)).passes
  · rintro ⟨entry, i⟩ hx f hcheck
    dsimp only
    rw [property_eq]
    rcases error_of_bind hcheck with hlines | ⟨_, -, hlines⟩
    · exact (fails_above hlines (i == 0) 1).bind
    · cases hlines

/-- A record that does not pass the check fails alike as a struct and as a class. -/
theorem fails_of_check (h : r.check record = .error f) :
    Fails (structOf writableProperty r record (recordName record)) 0 f ∧
      Fails (r.classOf record (recordName record)) 0 f := by
  have hname := hassigned.record record hrecord
  have hclass := serialize_classDeclaration r.names record.visibility
  have hstruct := serialize_structDeclaration r.names record.visibility
  rw [structOf_eq, classOf_eq]
  rcases error_of_bind h with h | ⟨lines, hlines, h⟩
  · exact ⟨fails_recordAs hname (.inl h) hstruct _, fails_recordAs hname (.inl h) hclass _⟩
  · rcases error_of_bind h with h | ⟨base, hbase, h⟩
    · exact ⟨fails_recordAs hname (.inr ⟨⟨lines, hlines⟩, h⟩) hstruct _,
        fails_recordAs hname (.inr ⟨⟨lines, hlines⟩, h⟩) hclass _⟩
    · obtain ⟨constructor, hconstructor⟩ :=
        exists_writes_constructor hassigned hgraph hrecord 1
      refine ⟨fails_recordAs_body hname ⟨lines, hlines⟩ ⟨base, hbase⟩ hstruct ?_,
        fails_recordAs_body hname ⟨lines, hlines⟩ ⟨base, hbase⟩ hclass ?_⟩
      · exact .of_writes hconstructor
          (fails_properties hassigned hgraph hrecord r.accesses_readOnly h)
      · exact fails_properties hassigned hgraph hrecord r.accesses_writable h

end

end Renderer

end SchemaStruct.CSharp
