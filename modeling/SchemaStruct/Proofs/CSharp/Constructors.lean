import Mathlib
import SchemaStruct.CSharp.Struct
import SchemaStruct.Proofs.CSharp.AssignedNames
import SchemaStruct.Proofs.CSharp.Types

/-!
# Constructors

A readonly struct has a constructor with a parameter for each property of its record. The parameter
and the declaration of the property are made at different times, by two runs of one rule, and what
they have in common is a `Member`: the text of the type, the name of the property and the name of
the parameter. The members of a record say what all lines of the constructor are, and what the line
is that declares each property.

## Main definitions

* `Member`: a property as the lines about it show it;
* `Renderer.constructorLines`: the constructor of a record with some members;
* `Renderer.HasConstructor`: the constructor, the declarations and the members belong together.

## Main results

* `RecordIndex.lookup_ofGraph`: the constructor finds its record by the record's handle;
* `Renderer.writes_readOnly`: what the rule of readonly structs makes of a property;
* `Renderer.exists_writes_property`: the declaration stands in the last line about a property;
* `Renderer.exists_hasConstructor`: every record of a graph has a constructor of that form.
-/

namespace SchemaStruct.CSharp

open NameTable

/-- A property as the lines about it show it. -/
structure Member where
  /-- The text of its type. -/
  type : String
  /-- The text of its name. -/
  name : String
  /-- The parameter that it is set from. -/
  parameter : String

namespace Member

/-- The parameter, with its type. -/
def parameterText (m : Member) : String := m.type ++ " " ++ m.parameter

/-- The assignment of the parameter to the property. -/
def assignment (m : Member) : String := "this." ++ m.name ++ " = " ++ m.parameter ++ ";"

/-- The declaration of a property that can only be read. -/
def declaration (m : Member) : String := "public " ++ m.type ++ " " ++ m.name ++ " \x7b get; \x7d"

end Member

/-- After the assignment of names all names have texts. -/
theorem assigned_assignNames (g : TypeGraph) (typeStyle fieldStyle : NamingStyle) :
    (assignNames g typeStyle fieldStyle).Assigned := by
  constructor
  · intro r hr
    rw [graph_assignNames] at hr
    obtain ⟨s, -, hs⟩ := exists_text?_record typeStyle fieldStyle hr
    exact ⟨s, hs⟩
  · intro r hr entry hentry
    rw [graph_assignNames] at hr
    obtain ⟨own, -, hown⟩ := exists_text?_record typeStyle fieldStyle hr
    obtain ⟨s, -, hs⟩ := exists_text?_property hr hown hentry
    exact ⟨s, hs⟩

/-- The rule of readonly structs. -/
abbrev readOnlyRule : PropertyRule := readOnlyProperty writableProperty

namespace RecordIndex

/-- The records of a graph are found under the handles of their names. -/
theorem find?_ofGraph {g : TypeGraph} {record : Record} (h : record ∈ g.records) :
    (ofGraph g).find? (recordName record).handle = some record := by
  obtain ⟨records, top, hkeys⟩ := g
  simp only [ofGraph, find?] at h ⊢
  induction records with
  | nil => simp at h
  | cons q rs ih =>
    rw [List.map_cons, List.nodup_cons] at hkeys
    rw [List.map_cons, List.lookup_cons]
    rcases List.mem_cons.mp h with rfl | h
    · simp
    · have hne : record.key ≠ q.key := fun heq => hkeys.1 (heq ▸ List.mem_map_of_mem h)
      have hhandle : ((recordName record).handle == (recordName q).handle) = false := by
        simpa [recordName] using hne
      rw [hhandle]
      exact ih hkeys.2 h

/-- The name of a record of the graph leads to that record, whatever texts there are. -/
theorem lookup_ofGraph {t : NameTable} {record : Record} (h : record ∈ t.graph.records) :
    (ofGraph t.graph).lookup t (.name (recordName record)) = .ok record := by
  simp only [lookup, find?_ofGraph h]

end RecordIndex

namespace Renderer

variable {r : Renderer} {record : Record}

/-- The header of the constructor of a record. -/
def constructorHeader (own : String) (members : List Member) : String :=
  "public " ++ own ++ "(" ++ ", ".intercalate (members.map Member.parameterText) ++ ")"

/-- The lines of the constructor of a record, at some depth: the header, an assignment for each
member between two brackets, and a blank line. -/
def constructorLines (r : Renderer) (d : Nat) (own : String) (members : List Member) :
    List String :=
  r.printer.indented d (constructorHeader own members) :: r.printer.indented d "\x7b" ::
    (members.map (fun m => r.printer.indented (d + 1) m.assignment) ++
      [r.printer.indented d "\x7d", ""])

/-- A constructor has four lines more than members. -/
theorem length_constructorLines (r : Renderer) (d : Nat) (own : String)
    (members : List Member) :
    (r.constructorLines d own members).length = members.length + 4 := by
  simp [constructorLines]

/-- A property of the record has the name and the type of a member, and the rule of readonly structs
declares it so, without writing anything. -/
def Declares (r : Renderer) (record : Record) (entry : Name × Property) (m : Member) : Prop :=
  r.names.text? entry.1 = some m.name ∧
    ∃ f, f.serialize r.names = .ok m.type ∧ ∀ d,
      Writes (readOnlyRule r entry.2 entry.1 record) d
        (.definition ⟨"public", f, entry.1, "\x7b get; \x7d"⟩) []

/-- What the rule of readonly structs makes of a property whose type resolves in the graph. -/
theorem writes_readOnly (hassigned : r.names.Assigned) {p : Property}
    (hp : p.type.ResolvesIn r.names.graph) (name : Name) (record : Record) :
    ∃ f s, f.serialize r.names = .ok s ∧ ∀ d,
      Writes (readOnlyRule r p name record) d
        (.definition ⟨"public", f, name, "\x7b get; \x7d"⟩) [] := by
  obtain ⟨f, s, hs, hwrites⟩ := exists_propertyType hassigned hp
  refine ⟨f, s, hs, fun d => ?_⟩
  have hdeclared : Writes (writableProperty r p name record) d
      (.definition ⟨"public", f, name, "\x7b get; set; \x7d"⟩) [] :=
    (hwrites d).bind (.pure _ d)
  -- the setter is taken away from a declaration that has accessors
  exact hdeclared.bind (.pure _ d)

/-- The properties of a record have members with parameters of any names. -/
theorem exists_members (hassigned : r.names.Assigned) {entries : List (Name × Property)}
    (hnames : ∀ entry ∈ entries, ∃ s, r.names.text? entry.1 = some s)
    (htypes : ∀ entry ∈ entries, entry.2.type.ResolvesIn r.names.graph) (ids : List String)
    (hlength : ids.length = entries.length) (record : Record) :
    ∃ members, List.Forall₂ (r.Declares record) entries members ∧
      members.map Member.parameter = ids := by
  induction entries generalizing ids with
  | nil => exact ⟨[], .nil, (List.length_eq_zero_iff.mp hlength).symm⟩
  | cons entry entries ih =>
    obtain ⟨id, ids, rfl⟩ := List.exists_cons_of_length_eq_add_one hlength
    obtain ⟨members, hmembers, hids⟩ :=
      ih (fun e he => hnames e (List.mem_cons_of_mem _ he))
        (fun e he => htypes e (List.mem_cons_of_mem _ he)) ids (by simpa using hlength)
    obtain ⟨name, hname⟩ := hnames entry List.mem_cons_self
    obtain ⟨f, type, htype, hwrites⟩ :=
      writes_readOnly hassigned (htypes entry List.mem_cons_self) entry.1 record
    exact ⟨⟨type, name, id⟩ :: members, .cons ⟨hname, f, htype, hwrites⟩ hmembers,
      congrArg (id :: ·) hids⟩

/-- The parts of a constructor are the parameters and assignments of the members, in order. -/
theorem exists_constructorParts {members : List Member}
    (hmembers : List.Forall₂ (r.Declares record) (propertyNames record) members)
    (hids : members.map Member.parameter =
      parameters [] ((propertyNames record).map (·.2.name))) :
    ∃ parts, (∀ d, Writes (r.constructorParts readOnlyRule record) d parts []) ∧
      List.Forall₂ (fun part m => Fragment.serialize r.names part.1 = .ok m.parameterText ∧
        Fragment.serialize r.names part.2 = .ok m.assignment) parts members := by
  simp only [constructorParts, ← hids]
  clear hids
  generalize propertyNames record = entries at hmembers
  induction hmembers with
  | nil => exact ⟨[], fun d => .pure [] d, .nil⟩
  | @cons entry m entries members hentry _ ih =>
    obtain ⟨parts, hparts, htexts⟩ := ih
    obtain ⟨hname, f, htype, hwrites⟩ := hentry
    let parameter : Fragment := .group .square [f, .text " ", .text m.parameter]
    let assignment : Fragment := .group .square
      [.text "this.", .name entry.1, .text " = ", .text m.parameter, .text ";"]
    have hparameter : parameter.serialize r.names = .ok m.parameterText := by
      rw [Fragment.serialize,
        Fragment.serializeAll_eq_join (.cons htype (.cons rfl (.cons rfl .nil)))]
      simp [Member.parameterText, String.append_assoc]
    have hassignment : assignment.serialize r.names = .ok m.assignment := by
      rw [Fragment.serialize, Fragment.serializeAll_eq_join (.cons rfl
        (.cons (Fragment.serialize_name hname) (.cons rfl (.cons rfl (.cons rfl .nil)))))]
      simp [Member.assignment, String.append_assoc]
    refine ⟨(parameter, assignment) :: parts, fun d => ?_,
      .cons ⟨hparameter, hassignment⟩ htexts⟩
    rw [List.map_cons, List.zip_cons_cons, List.mapM_cons]
    have hfirst : Writes (pure (parameter, assignment)) d (parameter, assignment) [] :=
      .pure _ d
    show Writes _ d _ ([] ++ [])
    refine Writes.bind (a := (parameter, assignment)) ?_ ?_
    · exact (hwrites d).bind hfirst
    · exact (hparts d).bind (.pure _ d)

/-- The constructor of a record whose properties have members consists of their lines. -/
theorem writes_constructor (hrecord : record ∈ r.names.graph.records) {own : String}
    (hown : r.names.text? (recordName record) = some own) {members : List Member}
    (hmembers : List.Forall₂ (r.Declares record) (propertyNames record) members)
    (hids : members.map Member.parameter =
      parameters [] ((propertyNames record).map (·.2.name))) (d : Nat) :
    Writes (r.constructor readOnlyRule (.name (recordName record))) d ()
      (r.constructorLines d own members) := by
  obtain ⟨parts, hparts, htexts⟩ := exists_constructorParts hmembers hids
  have hparameters : Fragment.serialize r.names
      (.group .square (Fragment.intersperse (.text ", ") (parts.map (·.1)))) =
        .ok (", ".intercalate (members.map Member.parameterText)) := by
    rw [Fragment.serialize]
    refine Fragment.serializeAll_intersperse ", " ?_
    rw [List.forall₂_map_left_iff, List.forall₂_map_right_iff]
    exact htexts.imp fun _ _ h => h.1
  have hheader : Fragment.serializeAll r.names
      [.text "public ", .name (recordName record), .text "(",
        .group .square (Fragment.intersperse (.text ", ") (parts.map (·.1))), .text ")"] =
          .ok (constructorHeader own members) := by
    rw [Fragment.serializeAll_eq_join (.cons rfl (.cons (Fragment.serialize_name hown)
      (.cons rfl (.cons hparameters (.cons rfl .nil)))))]
    simp [constructorHeader, String.append_assoc]
  have hassignments : Writes
      (parts.forM fun part => r.printer.line [part.2]) (d + 1) ()
        (members.map fun m => r.printer.indented (d + 1) m.assignment) := by
    refine Writes.forM ?_
    rw [List.forall₂_map_right_iff]
    refine htexts.imp fun part m h => ?_
    have hline : Fragment.serializeAll r.names [part.2] = .ok m.assignment := by
      rw [Fragment.serializeAll_eq_join (.cons h.2 .nil)]
      simp
    exact Printer.writes_line hline (d + 1)
  have hlines : r.constructorLines d own members =
      [r.printer.indented d (constructorHeader own members)] ++
        ((r.printer.indented d "\x7b" ::
          (members.map (fun m => r.printer.indented (d + 1) m.assignment) ++
            [r.printer.indented d "\x7d"])) ++ [r.printer.indented d ""]) := by
    simp [constructorLines, Printer.indented]
  rw [hlines]
  -- the record is looked up, the parts are made, and then the lines are written
  refine (Writes.ofExcept (RecordIndex.lookup_ofGraph hrecord) d).bind ?_
  refine (hparts d).bind ?_
  refine (Printer.writes_line hheader d).bind ?_
  exact (Printer.writes_block hassignments).bind (Printer.writes_line rfl d)

/-- The lines of a description, at some depth: the lines of the text between two tags, or none. -/
def descriptionLines (r : Renderer) (d : Nat) (lines : List String) : List String :=
  if lines.isEmpty then []
  else r.printer.indented d "/// <summary>" :: ((lines.map escape).map (fun s =>
      r.printer.indented d (if s.isEmpty then "///" else "/// " ++ s)) ++
    [r.printer.indented d "/// </summary>"])

/-- A description is written as its lines. -/
theorem writes_description (r : Renderer) (lines : List String) (d : Nat) :
    Writes (r.description lines) d () (r.descriptionLines d lines) := by
  unfold description descriptionLines
  by_cases h : lines.isEmpty
  · simpa [h] using Writes.pure () d
  · have htext (s : String) : Writes (r.printer.textLine s) d () [r.printer.indented d s] :=
      Printer.writes_line (Fragment.serializeAll_text r.names s) d
    have hstart : Text.onChars Text.trimEnd "/// " = "///" := by decide
    simp only [h, Bool.false_eq_true, if_false]
    refine (htext _).bind ((Writes.forM (List.forall₂_map_right_iff.mpr
      (List.forall₂_same.mpr fun s _ => ?_))).bind (htext _))
    rw [hstart]
    exact htext _

/-- A description is written as some lines. -/
theorem exists_writes_description (r : Renderer) (lines : List String) (d : Nat) :
    ∃ written, Writes (r.description lines) d () written :=
  ⟨_, r.writes_description lines d⟩

/-- The line of the attribute of a property, at some depth. -/
def attributeLine (r : Renderer) (d : Nat) (name : String) : String :=
  r.printer.indented d
    (String.join ["[JsonPropertyName(", String.ofList (Json.escapeString name), ")]"])

/-- The attribute of a property is written as its line. -/
theorem writes_jsonAttribute (r : Renderer) (name : String) (d : Nat) :
    Writes (r.jsonAttribute name) d () [r.attributeLine d name] :=
  (Writes.need [.serialization] d).bind (Printer.writes_line
    (Fragment.serializeAll_eq_join (.cons rfl (.cons rfl (.cons rfl .nil)))) d)

/-- A step that may stand in front of another one leaves the end of what is written alone. -/
theorem exists_writes_before {c : Bool} {m rest : Emit Unit} {d : Nat} {line : String}
    (hm : c = true → ∃ written, Writes m d () written)
    (hrest : ∃ above, Writes rest d () (above ++ [line])) :
    ∃ above, Writes (if c then m >>= fun _ => rest else rest) d () (above ++ [line]) := by
  obtain ⟨above, hrest⟩ := hrest
  cases c with
  | false => exact ⟨above, hrest⟩
  | true =>
    obtain ⟨written, hm⟩ := hm rfl
    exact ⟨written ++ above, by simpa using hm.bind hrest⟩

/-- A property is declared as its member is. -/
theorem Declares.writes {entry : Name × Property} {m : Member} (hm : r.Declares record entry m)
    (d : Nat) :
    Writes (do
        let declared ← readOnlyRule r entry.2 entry.1 record
        r.printer.line [declared.toFragment]) d ()
      [r.printer.indented d m.declaration] := by
  obtain ⟨hname, f, htype, hwrites⟩ := hm
  have hdeclaration : Fragment.serializeAll r.names
      [(Definition.mk "public" f entry.1 "\x7b get; \x7d").toFragment] = .ok m.declaration := by
    rw [Definition.toFragment, Fragment.serializeAll, Fragment.serialize,
      Fragment.serializeAll_eq_join (.cons rfl (.cons rfl (.cons htype (.cons rfl
        (.cons (Fragment.serialize_name hname) (.cons rfl (.cons rfl .nil)))))))]
    have hpublic : "public" ++ " " = "public " := by decide
    have haccessors : " " ++ "\x7b get; \x7d" = " \x7b get; \x7d" := by decide
    rw [Member.declaration, ← hpublic, ← haccessors]
    simp [-String.reduceAppend, Fragment.serializeAll, bind, Except.bind, pure,
      Except.pure, String.append_assoc]
  exact (hwrites d).bind (Printer.writes_line hdeclaration d)

/-- Whatever stands above it, the last line about a property declares it as its member does. -/
theorem exists_writes_property {entry : Name × Property} {m : Member}
    (hm : r.Declares record entry m) {d : Nat}
    (hdescription : r.comments = true →
      ∃ lines, Description.lines entry.2.description = .ok lines) (isFirst : Bool) :
    ∃ above, Writes (r.property readOnlyRule record isFirst entry) d ()
      (above ++ [r.printer.indented d m.declaration]) := by
  -- the blank line, the comment and the attribute may each stand above or not
  refine exists_writes_before (fun _ => ⟨_, Printer.writes_line rfl d⟩) ?_
  have hattribute := exists_writes_before (c := r.options.jsonAttributes)
    (fun _ => ⟨_, r.writes_jsonAttribute entry.2.name d⟩) ⟨[], hm.writes d⟩
  by_cases hcomments : r.comments
  · obtain ⟨lines, hlines⟩ := hdescription hcomments
    obtain ⟨written, hwritten⟩ := exists_writes_description r lines d
    obtain ⟨above, habove⟩ := hattribute
    simp only [hcomments, if_true]
    exact ⟨written ++ above,
      by simpa using (Writes.ofExcept hlines d).bind (hwritten.bind habove)⟩
  · rw [if_neg hcomments]
    exact hattribute

/-- The constructor of a record, the declarations of its properties and some members belong
together. -/
structure HasConstructor (r : Renderer) (record : Record) (own : String)
    (members : List Member) : Prop where
  /-- The record has that name. -/
  text : r.names.text? (recordName record) = some own
  /-- On any page the constructor is written whole, and nothing but the constructor. -/
  writes : ∀ d, Writes (r.constructor readOnlyRule (.name (recordName record))) d ()
    (r.constructorLines d own members)
  /-- It has a line for each property, and four more. -/
  length : ∀ d, (r.constructorLines d own members).length = record.properties.length + 4
  /-- In order, the members have the names of the properties. -/
  names : (propertyNames record).map (fun entry => r.names.text? entry.1) =
    members.map fun m => some m.name
  /-- In order, the members have the types and names of the declarations in the body. -/
  declares : List.Forall₂ (fun entry m => ∀ d isFirst,
    (r.comments = true → ∃ lines, Description.lines entry.2.description = .ok lines) →
      ∃ above, Writes (r.property readOnlyRule record isFirst entry) d ()
        (above ++ [r.printer.indented d m.declaration])) (propertyNames record) members
  /-- The parameters are made from the names in the document. -/
  parameters : members.map Member.parameter =
    CSharp.parameters [] (record.properties.map Property.name)
  /-- No two parameters have the same name. -/
  parameters_nodup : (members.map Member.parameter).Nodup
  /-- No two properties have the same name if the names were assigned to a graph. -/
  names_nodup : ∀ g typeStyle fieldStyle, r.names = assignNames g typeStyle fieldStyle →
    (members.map Member.name).Nodup

/-- Every record of a graph that resolves its references has a constructor, whatever names are
assigned: each property is set from the parameter of its own, which has the type of the
declaration. -/
theorem exists_hasConstructor (r : Renderer) (hassigned : r.names.Assigned)
    (hgraph : r.names.graph.Resolved) {record : Record}
    (hrecord : record ∈ r.names.graph.records) :
    ∃ own members, r.HasConstructor record own members := by
  obtain ⟨own, hown⟩ := hassigned.record record hrecord
  have htypes : ∀ entry ∈ propertyNames record, entry.2.type.ResolvesIn r.names.graph := by
    intro entry hentry
    obtain ⟨⟨p, i⟩, hp, rfl⟩ := List.mem_map.mp hentry
    exact hgraph record hrecord p (List.fst_mem_of_mem_zipIdx hp)
  obtain ⟨members, hmembers, hids⟩ := exists_members hassigned
    (hassigned.property record hrecord) htypes
    (CSharp.parameters [] ((propertyNames record).map (·.2.name))) (by simp) record
  have hnames : (propertyNames record).map (fun entry => r.names.text? entry.1) =
      members.map fun m => some m.name := by
    rw [← List.forall₂_eq_eq_eq, List.forall₂_map_left_iff, List.forall₂_map_right_iff]
    exact hmembers.imp fun _ _ h => h.1
  refine ⟨own, members, hown, fun d => writes_constructor hrecord hown hmembers hids d,
    fun d => ?_, hnames, ?_, ?_, ?_, ?_⟩
  · rw [length_constructorLines, ← hmembers.length_eq, length_propertyNames]
  · exact hmembers.imp fun entry m h d isFirst hdescription =>
      exists_writes_property h hdescription isFirst
  · rw [hids, map_name_propertyNames]
  · rw [hids]
    exact nodup_parameters _ _
  · intro g typeStyle fieldStyle hassign
    -- the texts of the members are those that the sanitizer of the record has handed out
    obtain rfl : r.names.graph = g := by rw [hassign, graph_assignNames]
    have howner : (assignNames r.names.graph typeStyle fieldStyle).text? (recordName record) =
        some own := hassign ▸ hown
    have hlegal := map_text?_properties hrecord howner
    rw [← hassign, hnames] at hlegal
    have hsome : (members.map fun m => some m.name).Nodup := by
      rw [hlegal]
      exact (Sanitizer.nodup_identifiers _ _ _).map (Option.some_injective _)
    refine List.Nodup.of_map some ?_
    rwa [List.map_map]

end Renderer

/-- A record with lists of records, a record of its own kind, a keyword and a name that occurs
twice. -/
def order : Record where
  key := "Order"
  suggestedName := .str "Order"
  properties :=
    [⟨"class", .array (.object "Item"), false, .null⟩, ⟨"order", .object "Order", true, .null⟩,
      ⟨"unit price", { kind := .float }, true, .null⟩,
      ⟨"class", .map { kind := .string }, false, .null⟩]

/-- A graph of two records that refers to both of them. -/
def orders : TypeGraph where
  records := [order, { key := "Item", suggestedName := .str "Item" }]
  keys_nodup := by decide

/-- The renderer of that graph, with names assigned. -/
def ordersRenderer : Renderer := { names := assignNames orders .pascal .pascal }

/-- The theorem at a record whose properties need all sorts of names and types, with the lines that
are written about it. -/
theorem exists_hasConstructor_order :
    ordersRenderer.names.Assigned ∧ ordersRenderer.names.graph.Resolved ∧
      order ∈ ordersRenderer.names.graph.records ∧
      (∃ own members, ordersRenderer.HasConstructor order own members) ∧
      ((ordersRenderer.constructor readOnlyRule (.name (recordName order))).run.run {}).2.lines =
        #["public Order(Item[] @class, Order? order, double? unitPrice, " ++
            "Dictionary<string, string> @class2)",
          "\x7b", "    this.Class = @class;", "    this.Order_1 = order;",
          "    this.UnitPrice = unitPrice;", "    this.Class_1 = @class2;", "\x7d", ""] := by
  have hassigned : ordersRenderer.names.Assigned := assigned_assignNames orders .pascal .pascal
  have hgraph : ordersRenderer.names.graph = orders := graph_assignNames orders .pascal .pascal
  have hresolved : ordersRenderer.names.graph.Resolved := by
    rw [hgraph]
    decide
  have horder : order ∈ ordersRenderer.names.graph.records := by
    rw [hgraph]
    exact List.mem_cons_self
  exact ⟨hassigned, hresolved, horder,
    Renderer.exists_hasConstructor ordersRenderer hassigned hresolved horder, by decide⟩

end SchemaStruct.CSharp
