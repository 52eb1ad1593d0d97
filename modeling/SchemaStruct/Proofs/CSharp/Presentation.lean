import SchemaStruct.Proofs.CSharp.Layout

/-!
# Presentation

Comments, attributes and the density of members are about how a record looks. What is declared does
not depend on them: the texts that the declarations are put together from, its `Substance`, are the
same however the record is presented, and the lines that the options are about are told from the
others by their first characters. So the lines of code of two renderings of one graph agree, line by
line.

## Main definitions

* `LineKind`: what a line of generated code is, by the characters behind its indentation;
* `Presentation`: the options that say how a record looks;
* `Substance`: the texts of a record that do not depend on them;
* `Renderer.sectionOf`: the lines of a record with some substance, part by part.

## Main results

* `Renderer.isSection_sectionOf`: these lines are what is written for the record;
* `Renderer.codeOf_sectionOf`: the lines of code among them are those of its substance;
* `Renderer.structs_presentedBy`: two presentations of a graph have the same lines of code;
* `sourceText_presentedBy`: so have the source files that are generated.
-/

namespace SchemaStruct

/-- What a line of generated code is. -/
inductive LineKind
  /-- A line without text. -/
  | blank
  /-- A line of a documentation comment. -/
  | documentation
  /-- The attribute of a property. -/
  | attribute
  /-- Any other line. -/
  | code
  deriving DecidableEq, Repr

namespace LineKind

/-- The kind of a text without blanks in front. -/
def ofText (cs : List Char) : LineKind :=
  if cs.isEmpty then .blank
  else if "///".toList.isPrefixOf cs then .documentation
  else if "[JsonPropertyName(".toList.isPrefixOf cs then .attribute
  else .code

/-- The kind of a line: what counts is the text behind its indentation. -/
def of (line : String) : LineKind := ofText (line.toList.dropWhile Text.isBlank)

/-- The lines of code among some lines. -/
def codeOf (lines : List String) : List String := lines.filter (of · = .code)

/-- Lines one behind the other. -/
theorem codeOf_append (lines more : List String) :
    codeOf (lines ++ more) = codeOf lines ++ codeOf more :=
  List.filter_append ..

/-- A line of code stays. -/
theorem codeOf_cons {line : String} (h : of line = .code) (lines : List String) :
    codeOf (line :: lines) = line :: codeOf lines := by
  rw [codeOf, List.filter_cons_of_pos (by simpa using h), codeOf]

/-- Of lines that are no code nothing stays. -/
theorem codeOf_eq_nil {lines : List String} (h : ∀ line ∈ lines, of line ≠ .code) :
    codeOf lines = [] := by
  simpa [codeOf] using h

/-- The kind of a line that begins with a character of code. -/
theorem of_eq_code {line : String} {c : Char} {cs : List Char} (h : line.toList = c :: cs)
    (hblank : Text.isBlank c = false) (hslash : c ≠ '/') (hbracket : c ≠ '[') :
    of line = .code := by
  rw [of, h, List.dropWhile_cons_of_neg (by simp [hblank])]
  simp [ofText, hslash.symm, hbracket.symm]

/-- What stands in front of a line for each level of depth does not count if it is blank. -/
theorem of_indented {pr : Printer} (hunit : ∀ c ∈ pr.indentUnit.toList, Text.isBlank c = true)
    (d : Nat) (s : String) : of (pr.indented d s) = of s := by
  have hcopies : ∀ c ∈ (Printer.copies pr.indentUnit d).toList, Text.isBlank c = true := by
    induction d with
    | zero => simp [Printer.copies]
    | succ d ih =>
      intro c hc
      rw [Printer.copies, String.toList_append, List.mem_append] at hc
      exact hc.elim (hunit c) (ih c)
  unfold Printer.indented
  split
  · next h => rw [String.isEmpty_iff.mp h]
  · rw [of, String.toList_append, List.dropWhile_append_of_pos hcopies, of]

/-- A line of a comment. -/
theorem of_comment (s : String) : of ("/// " ++ s) = .documentation := by
  rw [of, String.toList_append]
  rfl

/-- An attribute. -/
theorem of_attribute (s : String) :
    of (String.join ["[JsonPropertyName(", s, ")]"]) = .attribute := by
  rw [String.join_cons, of, String.toList_append]
  rfl

end LineKind

namespace CSharp

open NameTable

/-- The options that say how a record looks. -/
structure Presentation where
  /-- Whether descriptions become comments. -/
  comments : Bool
  /-- Whether each property carries its name in documents as an attribute. -/
  jsonAttributes : Bool
  /-- How close members stand. -/
  density : Density
  deriving DecidableEq, Repr

/-- The texts of a record that do not depend on how it is presented. -/
structure Substance where
  /-- The name of the record. -/
  own : String
  /-- What stands behind the keywords in its declaration line. -/
  declared : String
  /-- Its properties. -/
  members : List Member

namespace Renderer

variable {r : Renderer} {record : Record} {t : Substance} {d : Nat}

/-- The renderer with another presentation. -/
def presentedBy (r : Renderer) (c : Presentation) : Renderer :=
  { r with
    comments := c.comments
    options := { r.options with jsonAttributes := c.jsonAttributes, density := c.density } }

/-- The substance of a record is what its names, its types and the type that it extends make of
it. -/
structure HasSubstance (r : Renderer) (record : Record) (t : Substance) : Prop where
  /-- The name is the one that is assigned to the record. -/
  own : r.names.text? (recordName record) = some t.own
  /-- Behind the keywords stand the name and the type that the record extends. -/
  declared : Fragment.serializeAll r.names (declared record) = .ok t.declared
  /-- In order, the members are the properties. -/
  members : List.Forall₂ (r.Declares record) (propertyNames record) t.members
  /-- The parameters are made from the names in the document. -/
  parameters : t.members.map Member.parameter =
    parameters [] ((propertyNames record).map (·.2.name))

/-- The lines of a description as far as they become a comment. -/
def notes (r : Renderer) (description : Json) : List String :=
  (r.commentLines description).toOption.getD []

/-- The descriptions of a record have lines, as far as they become comments. -/
structure Noted (r : Renderer) (record : Record) : Prop where
  /-- The one of the record has. -/
  own : r.commentLines record.description = .ok (r.notes record.description)
  /-- Those of its properties have. -/
  properties : ∀ p ∈ record.properties, r.commentLines p.description = .ok (r.notes p.description)

/-- The lines about some properties with their members, the first of which has the number `k`. -/
def propertyLines (r : Renderer) (k : Nat) : List (Name × Property) → List Member →
    List PropertyLines
  | entry :: entries, m :: members =>
    { above := r.aboveLines (k == 0) 1 (r.notes entry.2.description) entry.2
      declaration := r.printer.indented 1 m.declaration } ::
        r.propertyLines (k + 1) entries members
  | _, _ => []

/-- The lines of a record with some substance, part by part. -/
def sectionOf (r : Renderer) (record : Record) (t : Substance) : Section where
  comment := r.descriptionLines 0 (r.notes record.description)
  declaration := structKeywords record.visibility ++ t.declared
  constructor := r.constructorLines 1 t.own t.members
  properties := r.propertyLines 0 (propertyNames record) t.members

/-- The lines of code of a record with some substance. -/
def codeLines (r : Renderer) (record : Record) (t : Substance) : List String :=
  (structKeywords record.visibility ++ t.declared) :: "\x7b" ::
    (LineKind.codeOf (r.constructorLines 1 t.own t.members) ++
      (t.members.map fun m => r.printer.indented 1 m.declaration) ++ ["\x7d"])

/-- The substance of a record does not depend on its presentation. -/
theorem HasSubstance.presentedBy (h : r.HasSubstance record t) (c : Presentation) :
    (r.presentedBy c).HasSubstance record t :=
  ⟨h.own, h.declared, h.members, h.parameters⟩

/-- Every record has a substance, if the type that it extends has a text. -/
theorem exists_hasSubstance (hassigned : r.names.Assigned) (hgraph : r.names.graph.Resolved)
    (hrecord : record ∈ r.names.graph.records)
    (hbase : ∃ s, (Fragment.ofJson record.baseType).serialize r.names = .ok s) :
    ∃ t, r.HasSubstance record t := by
  obtain ⟨own, hown⟩ := hassigned.record record hrecord
  obtain ⟨text, htext⟩ := exists_declared ⟨own, hown⟩ hbase
  obtain ⟨members, hmembers, hids⟩ := exists_members hassigned
    (hassigned.property record hrecord) (fun _ h => resolvesIn_of_mem hgraph hrecord h)
    (CSharp.parameters [] ((propertyNames record).map (·.2.name))) (by simp) record
  exact ⟨⟨own, text, members⟩, hown, htext, hmembers, hids⟩

/-- The lines that a description has are those that are noted of it. -/
theorem commentLines_eq_notes_of_eq_ok {description : Json} {lines : List String}
    (h : r.commentLines description = .ok lines) :
    r.commentLines description = .ok (r.notes description) := by
  rw [notes, h]
  rfl

/-- A description that is a text, or none, has the lines that are noted of it. -/
theorem commentLines_eq_notes {description : Json} (h : description.IsOptionalText) :
    r.commentLines description = .ok (r.notes description) := by
  obtain ⟨lines, hlines⟩ := h.exists_lines
  unfold notes commentLines
  split
  · rw [hlines]
    rfl
  · rfl

/-- So have the descriptions of a record that are texts. -/
theorem noted_of_described (h : record.Described) : r.Noted record :=
  ⟨commentLines_eq_notes h.own, fun p hp => commentLines_eq_notes (h.properties p hp)⟩

section

variable {entries : List (Name × Property)} {members : List Member}
  (hmembers : List.Forall₂ (r.Declares record) entries members)

include hmembers

/-- The properties of a record are written as what stands above each of them and its declaration. -/
theorem writes_properties (hnoted : ∀ entry ∈ entries,
    r.commentLines entry.2.description = .ok (r.notes entry.2.description)) (k : Nat) :
    Writes ((entries.zipIdx k).forM fun (entry, i) =>
        r.property readOnlyRule record (i == 0) entry) 1 ()
      ((r.propertyLines k entries members).flatMap fun p => p.above ++ [p.declaration]) := by
  -- the number tells the first property, so it goes on with the entries
  induction hmembers generalizing k with
  | nil => exact .pure () 1
  | @cons entry m entries members hm _ ih =>
    obtain ⟨hfirst, hnoted⟩ := List.forall_mem_cons.mp hnoted
    have hproperty : Writes (r.property readOnlyRule record (k == 0) entry) 1 ()
        (r.aboveLines (k == 0) 1 (r.notes entry.2.description) entry.2 ++
          [r.printer.indented 1 m.declaration]) := by
      rw [property_eq]
      exact (writes_above hfirst (k == 0) 1).bind (hm.writes 1)
    exact hproperty.bind (ih hnoted (k + 1))

/-- In order, the properties are declared as their members are. -/
theorem forall₂_propertyLines (k : Nat) :
    List.Forall₂ (fun entry lines =>
      Writes (r.declare readOnlyRule record entry) 1 () [lines.declaration] ∧
        ∃ stem, lines.declaration = stem ++ "{ get; }") entries
      (r.propertyLines k entries members) := by
  induction hmembers generalizing k with
  | nil => exact .nil
  | @cons entry m entries members hm _ ih =>
    have hdeclaration : m.declaration =
        "public " ++ m.type ++ " " ++ m.name ++ " " ++ "\x7b get; \x7d" := by
      simp only [Member.declaration, String.append_assoc]
      rfl
    refine .cons ⟨hm.writes 1, ?_⟩ (ih (k + 1))
    exact ⟨_, by rw [hdeclaration, Printer.indented_append (by simp)]⟩

end

/-- The declaration line of a record. -/
theorem writes_head (ht : r.HasSubstance record t) (lines : List String) :
    Writes (r.head lines (structDeclaration record.visibility) (.name (recordName record))
        record.baseType) 0 ()
      (r.descriptionLines 0 lines ++ [structKeywords record.visibility ++ t.declared]) := by
  have htext : Fragment.serializeAll r.names
      (structDeclaration record.visibility :: declared record) =
        .ok (structKeywords record.visibility ++ t.declared) := by
    rw [Fragment.serializeAll, serialize_structDeclaration, ht.declared]
    rfl
  have hline : Writes (r.printer.line (structDeclaration record.visibility :: declared record)) 0 ()
      [r.printer.indented 0 (structKeywords record.visibility ++ t.declared)] :=
    Printer.writes_line htext 0
  rw [Printer.indented_zero] at hline
  rw [head_eq]
  exact (r.writes_description lines 0).bind hline

/-- The lines of a record with some substance are what is written for the record, if there are lines
for its comments. -/
theorem isSection_of_noted (hrecord : record ∈ r.names.graph.records)
    (ht : r.HasSubstance record t) (hnoted : r.Noted record) :
    r.IsSection record (r.sectionOf record t) := by
  have hproperties := writes_properties ht.members
    (fun entry h => hnoted.properties _ (mem_of_mem_propertyNames h)) 0
  have hconstructor := writes_constructor hrecord ht.own ht.members ht.parameters 1
  have hbody := hconstructor.bind (f := fun _ => r.properties readOnlyRule record) hproperties
  refine ⟨?_, hconstructor, ?_, ?_⟩
  · have hblock : Writes (r.printer.block (do
          r.constructor readOnlyRule (.name (recordName record))
          r.properties readOnlyRule record)) 0 () _ := Printer.writes_block hbody
    rw [Printer.indented_zero, Printer.indented_zero] at hblock
    have hlines : r.recordLines record = .ok (r.notes record.description) := hnoted.own
    have hhead := writes_head ht (r.notes record.description)
    have hall : (r.sectionOf record t).lines = [] ++
        ((r.descriptionLines 0 (r.notes record.description) ++
          [structKeywords record.visibility ++ t.declared]) ++ "\x7b" ::
            ((r.constructorLines 1 t.own t.members ++
              (r.propertyLines 0 (propertyNames record) t.members).flatMap fun p =>
                p.above ++ [p.declaration]) ++ ["\x7d"])) := by
      simp [Section.lines, sectionOf]
    rw [structOf_eq, recordAs, hall]
    exact (Writes.ofExcept hlines 0).bind (hhead.bind hblock)
  · intro hvisible
    exact ⟨t.declared, by simp [sectionOf, structKeywords, hvisible]⟩
  · exact forall₂_propertyLines ht.members 0

/-- So they are if the descriptions are texts. -/
theorem isSection_sectionOf (hrecord : record ∈ r.names.graph.records)
    (ht : r.HasSubstance record t) (hdescribed : record.Described) :
    r.IsSection record (r.sectionOf record t) :=
  isSection_of_noted hrecord ht (noted_of_described hdescribed)

/-- The lines about a property are what stands above it and the declaration of a member. -/
theorem exists_of_mem_propertyLines {k : Nat} {entries : List (Name × Property)}
    {members : List Member} {p : PropertyLines} (h : p ∈ r.propertyLines k entries members) :
    ∃ isFirst, ∃ (q : Property) (m : Member),
      p = ⟨r.aboveLines isFirst 1 (r.notes q.description) q,
        r.printer.indented 1 m.declaration⟩ := by
  fun_induction propertyLines r k entries members with
  | case1 k entry entries m members ih =>
    rcases List.mem_cons.mp h with rfl | h
    · exact ⟨k == 0, entry.2, m, rfl⟩
    · exact ih h
  | case2 => simp at h

/-- Descriptions have no lines where they do not become comments. -/
theorem notes_of_not_comments (h : r.comments = false) (description : Json) :
    r.notes description = [] := by
  rw [notes, commentLines, h]
  rfl

/-- A struct begins with code. -/
theorem kind_structKeywords (v : Visibility) (s : String) :
    LineKind.of (structKeywords v ++ s) = .code := by
  cases v <;>
    exact LineKind.of_eq_code (by rw [String.toList_append]; rfl) (by decide) (by decide)
      (by decide)

section

variable (hunit : ∀ c ∈ r.indentUnit.toList, Text.isBlank c = true)

include hunit

/-- A description has lines of documentation only. -/
theorem kind_of_mem_descriptionLines {lines : List String} {line : String}
    (h : line ∈ r.descriptionLines d lines) : LineKind.of line = .documentation := by
  have hkind (s : String) : LineKind.of (r.printer.indented d s) = LineKind.of s :=
    LineKind.of_indented hunit d s
  unfold descriptionLines at h
  split at h
  · cases h
  · rcases List.mem_cons.mp h with rfl | h
    · rw [hkind]
      decide
    · rcases List.mem_append.mp h with h | h
      · obtain ⟨s, -, rfl⟩ := List.mem_map.mp h
        rw [hkind]
        split
        · decide
        · exact LineKind.of_comment s
      · rw [List.mem_singleton.mp h, hkind]
        decide

/-- A constructor has lines of code, and blank ones. -/
theorem kind_of_mem_constructorLines {own : String} {members : List Member} {line : String}
    (h : line ∈ r.constructorLines d own members) :
    LineKind.of line = .code ∨ LineKind.of line = .blank := by
  have hkind (d : Nat) (s : String) : LineKind.of (r.printer.indented d s) = LineKind.of s :=
    LineKind.of_indented hunit d s
  simp only [constructorLines, List.mem_cons, List.mem_append, List.mem_map, List.not_mem_nil,
    or_false] at h
  rcases h with rfl | rfl | ⟨m, -, rfl⟩ | rfl | rfl
  · refine .inl ((hkind d _).trans ?_)
    exact LineKind.of_eq_code (by simp only [constructorHeader, String.toList_append]; rfl)
      (by decide) (by decide) (by decide)
  · exact .inl ((hkind d _).trans (by decide))
  · refine .inl ((hkind (d + 1) _).trans ?_)
    exact LineKind.of_eq_code (by simp only [Member.assignment, String.toList_append]; rfl)
      (by decide) (by decide) (by decide)
  · exact .inl ((hkind d _).trans (by decide))
  · exact .inr (by decide)

/-- A property is declared by code. -/
theorem kind_declaration (m : Member) :
    LineKind.of (r.printer.indented d m.declaration) = .code := by
  rw [LineKind.of_indented hunit]
  exact LineKind.of_eq_code (by simp only [Member.declaration, String.toList_append]; rfl)
    (by decide) (by decide) (by decide)

/-- Above a property there is no code: a blank line, documentation and an attribute, as far as the
options ask for them. -/
theorem kind_of_mem_aboveLines {isFirst : Bool} {p : Property} {line : String}
    (h : line ∈ r.aboveLines isFirst d (r.notes p.description) p) :
    (LineKind.of line = .blank ∧ r.options.density = .normal) ∨
      (LineKind.of line = .documentation ∧ r.comments = true) ∨
      (LineKind.of line = .attribute ∧ r.options.jsonAttributes = true) := by
  rw [aboveLines, List.mem_append, List.mem_append] at h
  rcases h with h | h | h
  · unfold gapLines at h
    split at h
    · next hgap =>
      rw [List.mem_singleton.mp h]
      exact .inl ⟨by decide, hgap.2⟩
    · cases h
  · refine .inr (.inl ⟨kind_of_mem_descriptionLines hunit h, ?_⟩)
    by_contra hcomments
    rw [notes_of_not_comments (by simpa using hcomments)] at h
    cases h
  · unfold attributeLines at h
    split at h
    · next hattributes =>
      rw [List.mem_singleton.mp h, attributeLine, LineKind.of_indented hunit]
      exact .inr (.inr ⟨LineKind.of_attribute _, hattributes⟩)
    · cases h

/-- Of the lines about some properties, the declarations are code. -/
theorem codeOf_propertyLines {entries : List (Name × Property)} {members : List Member}
    (hmembers : List.Forall₂ (r.Declares record) entries members) (k : Nat) :
    LineKind.codeOf ((r.propertyLines k entries members).flatMap fun p =>
        p.above ++ [p.declaration]) =
      members.map fun m => r.printer.indented 1 m.declaration := by
  induction hmembers generalizing k with
  | nil => rfl
  | @cons entry m entries members _ _ ih =>
    have habove : LineKind.codeOf
        (r.aboveLines (k == 0) 1 (r.notes entry.2.description) entry.2) = [] := by
      refine LineKind.codeOf_eq_nil fun line hline => ?_
      rcases kind_of_mem_aboveLines hunit hline with ⟨h, -⟩ | ⟨h, -⟩ | ⟨h, -⟩ <;> simp [h]
    rw [propertyLines, List.flatMap_cons, List.append_assoc, LineKind.codeOf_append, habove,
      List.singleton_append, List.nil_append, LineKind.codeOf_cons (kind_declaration hunit m), ih,
      List.map_cons]

/-- The lines of code of a record are those of its substance. -/
theorem codeOf_sectionOf (ht : r.HasSubstance record t) :
    LineKind.codeOf (r.sectionOf record t).lines = r.codeLines record t := by
  have hcomment : LineKind.codeOf (r.descriptionLines 0 (r.notes record.description)) = [] := by
    refine LineKind.codeOf_eq_nil fun line hline => ?_
    simp [kind_of_mem_descriptionLines hunit hline]
  have hopening : LineKind.of "\x7b" = .code := by decide
  have hclosing : LineKind.codeOf ["\x7d"] = ["\x7d"] := by decide
  rw [Section.lines, LineKind.codeOf_append, sectionOf, hcomment, List.nil_append,
    LineKind.codeOf_cons (kind_structKeywords record.visibility t.declared),
    LineKind.codeOf_cons hopening, LineKind.codeOf_append, LineKind.codeOf_append,
    codeOf_propertyLines hunit ht.members, hclosing, codeLines]

/-- Documentation and attributes stand in the lines of a record only if the options ask for them. -/
theorem kind_of_mem_sectionOf {line : String} (h : line ∈ (r.sectionOf record t).lines) :
    (LineKind.of line = .documentation → r.comments = true) ∧
      (LineKind.of line = .attribute → r.options.jsonAttributes = true) := by
  have hcode (hline : LineKind.of line = .code) : (LineKind.of line = .documentation →
      r.comments = true) ∧ (LineKind.of line = .attribute → r.options.jsonAttributes = true) := by
    simp [hline]
  rw [Section.lines, List.mem_append, List.mem_cons, List.mem_cons, List.mem_append,
    List.mem_append, List.mem_flatMap, List.mem_singleton] at h
  rcases h with h | rfl | rfl | (h | ⟨p, hp, h⟩) | rfl
  · -- a comment has lines only where descriptions become comments
    have hcomments : r.comments = true := by
      by_contra hcomments
      rw [sectionOf, notes_of_not_comments (by simpa using hcomments)] at h
      cases h
    simp [kind_of_mem_descriptionLines hunit h, hcomments]
  · exact hcode (kind_structKeywords record.visibility t.declared)
  · exact hcode (by decide)
  · rcases kind_of_mem_constructorLines hunit h with hline | hline <;> simp [hline]
  · obtain ⟨isFirst, q, m, rfl⟩ := exists_of_mem_propertyLines hp
    rcases List.mem_append.mp h with h | h
    · rcases kind_of_mem_aboveLines hunit h with ⟨hline, -⟩ | ⟨hline, hc⟩ | ⟨hline, ha⟩
      · simp [hline]
      · simp [hline, hc]
      · simp [hline, ha]
    · rw [List.mem_singleton.mp h] at hcode ⊢
      exact hcode (kind_declaration hunit m)
  · exact hcode (by decide)

end

/-- The lines of code of several records are those of each record, one behind the other. -/
theorem codeOf_sourceLines (sections : List Section) :
    LineKind.codeOf (sourceLines sections) =
      sections.flatMap fun s => LineKind.codeOf s.lines := by
  have hblank : LineKind.codeOf [""] = [] := by decide
  cases sections with
  | nil => rfl
  | cons first rest =>
    rw [sourceLines, List.map_cons, Printer.intercalate_blank, LineKind.codeOf_append,
      List.flatMap_cons]
    refine congrArg (LineKind.codeOf first.lines ++ ·) ?_
    -- the blank line in front of each further record is no code
    induction rest with
    | nil => rfl
    | cons s rest ih =>
      rw [List.map_cons, List.flatMap_cons, List.flatMap_cons, LineKind.codeOf_append, ih,
        ← List.singleton_append, LineKind.codeOf_append, hblank, List.nil_append]

/-- A line of several records is a line of one of them, or the blank line between two. -/
theorem mem_sourceLines {sections : List Section} {line : String}
    (h : line ∈ sourceLines sections) : line = "" ∨ ∃ s ∈ sections, line ∈ s.lines := by
  cases sections with
  | nil => cases h
  | cons first rest =>
    rw [sourceLines, List.map_cons, Printer.intercalate_blank, List.mem_append] at h
    rcases h with h | h
    · exact .inr ⟨first, List.mem_cons_self, h⟩
    · obtain ⟨lines, hlines, h⟩ := List.mem_flatMap.mp h
      obtain ⟨s, hs, rfl⟩ := List.mem_map.mp hlines
      rcases List.mem_cons.mp h with h | h
      · exact .inl h
      · exact .inr ⟨s, List.mem_cons_of_mem first hs, h⟩

end Renderer

/-- The options that say how records look hold of the lines of some records. -/
structure Presentation.Governs (c : Presentation) (sections : List Section) : Prop where
  /-- Without comments there is no line of documentation. -/
  comments : c.comments = false →
    ∀ line ∈ sourceLines sections, LineKind.of line ≠ .documentation
  /-- Without attributes there is none. -/
  attributes : c.jsonAttributes = false →
    ∀ line ∈ sourceLines sections, LineKind.of line ≠ .attribute
  /-- In dense code there is no blank line above a property. -/
  gaps : c.density = .dense →
    ∀ s ∈ sections, ∀ p ∈ s.properties, ∀ line ∈ p.above, LineKind.of line ≠ .blank

namespace Renderer

variable {r : Renderer} {record : Record} {t : Substance} {c : Presentation}

/-- The lines of records under a presentation are governed by it. -/
theorem governs_sectionOf (hunit : ∀ c ∈ r.indentUnit.toList, Text.isBlank c = true)
    (c : Presentation) (records : List (Record × Substance)) :
    c.Governs (records.map fun x => (r.presentedBy c).sectionOf x.1 x.2) := by
  have hkinds : ∀ line ∈ sourceLines (records.map fun x =>
      (r.presentedBy c).sectionOf x.1 x.2),
      (LineKind.of line = .documentation → c.comments = true) ∧
        (LineKind.of line = .attribute → c.jsonAttributes = true) := by
    intro line hline
    rcases mem_sourceLines hline with rfl | ⟨s, hs, hline⟩
    · have hblank : LineKind.of "" = .blank := by decide
      simp [hblank]
    · obtain ⟨x, -, rfl⟩ := List.mem_map.mp hs
      exact kind_of_mem_sectionOf (r := r.presentedBy c) hunit hline
  refine ⟨fun hc line hline hkind => ?_, fun hc line hline hkind => ?_, ?_⟩
  · exact Bool.false_ne_true (hc ▸ (hkinds line hline).1 hkind)
  · exact Bool.false_ne_true (hc ▸ (hkinds line hline).2 hkind)
  · rintro hdense s hs p hp line hline hkind
    obtain ⟨x, -, rfl⟩ := List.mem_map.mp hs
    obtain ⟨isFirst, q, m, rfl⟩ := exists_of_mem_propertyLines hp
    rcases kind_of_mem_aboveLines (r := r.presentedBy c) hunit hline with
      ⟨-, hnormal⟩ | ⟨h, -⟩ | ⟨h, -⟩
    · exact Density.noConfusion (hdense.symm.trans hnormal)
    · exact LineKind.noConfusion (hkind.symm.trans h)
    · exact LineKind.noConfusion (hkind.symm.trans h)

/-- Checks the type that a record extends. -/
def checkBase (r : Renderer) (record : Record) : Except Fault Unit := do
  let _ ← (Fragment.ofJson record.baseType).serialize r.names

/-- Of a record whose descriptions are texts, only the type that it extends may be none. -/
theorem check_eq_checkBase (hdescribed : record.Described) :
    r.check record = r.checkBase record := by
  have hproperties : record.properties.forM r.checkProperty = .ok () :=
    forM_eq_ok_iff.mpr fun p hp =>
      checkProperty_eq_ok_iff.mpr ⟨_, commentLines_eq_notes (hdescribed.properties p hp)⟩
  rw [check, checkBase, commentLines_eq_notes hdescribed.own, hproperties]
  rfl

/-- Steps that agree at all items of a list agree at the list. -/
theorem forM_congr {m : Type → Type} [Monad m] {α : Type} {k k' : α → m Unit} {xs : List α}
    (h : ∀ x ∈ xs, k x = k' x) : xs.forM k = xs.forM k' := by
  induction xs with
  | nil => rfl
  | cons x xs ih =>
    obtain ⟨hx, hxs⟩ := List.forall_mem_cons.mp h
    show (k x >>= fun _ => xs.forM k) = (k' x >>= fun _ => xs.forM k')
    rw [hx, ih hxs]

section

variable (hassigned : r.names.Assigned) (hgraph : r.names.graph.Resolved)
  (hdescribed : ∀ record ∈ r.names.graph.records, record.Described)

include hdescribed

/-- Whether the records can be written does not depend on the presentation. -/
theorem forM_check_presentedBy (c : Presentation) :
    r.names.graph.records.forM (r.presentedBy c).check =
      r.names.graph.records.forM r.checkBase :=
  forM_congr fun record hrecord => check_eq_checkBase (hdescribed record hrecord)

include hassigned hgraph

/-- Records of which one extends what is no text are written under no presentation. -/
theorem render_of_checkBase {f : Fault}
    (hbase : r.names.graph.records.forM r.checkBase = .error f) :
    (∃ record ∈ r.names.graph.records,
        (Fragment.ofJson record.baseType).serialize r.names = .error f) ∧
      ∀ c old, (Printer.render ((r.presentedBy c).structs writableProperty) old).1 = .error f := by
  refine ⟨?_, fun c old => ?_⟩
  · obtain ⟨record, hrecord, hf⟩ := error_of_forM hbase
    obtain hf | ⟨s, -, hf⟩ := error_of_bind hf
    · exact ⟨record, hrecord, hf⟩
    · cases hf
  · exact (render_of_check (r := r.presentedBy c) hassigned hgraph
      ((forM_check_presentedBy hdescribed c).trans hbase) old old).1

/-- Other records are written under all presentations, with the same lines of code. -/
theorem exists_code_of_checkBase (hunit : ∀ c ∈ r.indentUnit.toList, Text.isBlank c = true)
    (hbase : r.names.graph.records.forM r.checkBase = .ok ()) :
    ∃ code, ∀ c old, ∃ sections usings,
      (Printer.render ((r.presentedBy c).structs writableProperty) old).1 =
        .ok (sourceLines sections, usings) ∧
      List.Forall₂ (r.presentedBy c).IsSection r.names.graph.records sections ∧
      LineKind.codeOf (sourceLines sections) = code ∧ c.Governs sections := by
  -- one substance for each record serves all presentations
  obtain ⟨ts, hts⟩ : ∃ ts, List.Forall₂ (fun record t =>
      record ∈ r.names.graph.records ∧ r.HasSubstance record t) r.names.graph.records ts := by
    refine exists_forall₂ fun record hrecord => ?_
    obtain ⟨s, hs, -⟩ := ok_of_bind (forM_eq_ok_iff.mp hbase record hrecord)
    obtain ⟨t, ht⟩ := exists_hasSubstance hassigned hgraph hrecord ⟨s, hs⟩
    exact ⟨t, hrecord, ht⟩
  let records := r.names.graph.records.zip ts
  refine ⟨records.flatMap fun x => r.codeLines x.1 x.2, fun c old => ?_⟩
  let sections := records.map fun x => (r.presentedBy c).sectionOf x.1 x.2
  have hsections : List.Forall₂ (r.presentedBy c).IsSection r.names.graph.records sections := by
    have hzip : sections = List.zipWith (r.presentedBy c).sectionOf r.names.graph.records ts :=
      List.map_zip_eq_zipWith
    have hsection (record : Record) (t : Substance)
        (h : record ∈ r.names.graph.records ∧ r.HasSubstance record t) :
        (r.presentedBy c).IsSection record ((r.presentedBy c).sectionOf record t) :=
      isSection_sectionOf h.1 (h.2.presentedBy c) (hdescribed record h.1)
    rw [hzip]
    exact forall₂_zipWith hsection hts
  have hcode : LineKind.codeOf (sourceLines sections) =
      records.flatMap fun x => r.codeLines x.1 x.2 := by
    rw [codeOf_sourceLines, List.flatMap_map]
    refine List.flatMap_congr fun x hx => ?_
    exact codeOf_sectionOf (r := r.presentedBy c) hunit
      ((List.forall₂_zip hts hx).2.presentedBy c)
  refine ⟨sections, Using.sorted (r.presentedBy c).usings, ?_, hsections, hcode,
    governs_sectionOf hunit c records⟩
  refine Printer.render_eachRecord old ?_ ?_
    (Printer.requires_eachRecord true fun record hrecord => requires_structOf hrecord)
  · rw [List.forall₂_map_right_iff]
    exact hsections.imp fun _ _ h => h.lines
  · intro lines hlines
    obtain ⟨s, -, rfl⟩ := List.mem_map.mp hlines
    exact s.endsInText_lines

end

/-- Presentation changes nothing else: whatever options say how records look, the same lines of code
are written, and they are written at all unless the type that some record extends is no text. Only
the lines that an option is about depend on it: without comments there is no documentation, without
attributes there are none, and in dense code no blank line stands between two properties. -/
theorem structs_presentedBy (r : Renderer) (hassigned : r.names.Assigned)
    (hgraph : r.names.graph.Resolved) (hdescribed : ∀ record ∈ r.names.graph.records,
      record.Described) (hunit : ∀ c ∈ r.indentUnit.toList, Text.isBlank c = true) :
    (∃ f, (∃ record ∈ r.names.graph.records,
        (Fragment.ofJson record.baseType).serialize r.names = .error f) ∧
      ∀ c old, (Printer.render ((r.presentedBy c).structs writableProperty) old).1 = .error f) ∨
    ∃ code, ∀ c old, ∃ sections usings,
      (Printer.render ((r.presentedBy c).structs writableProperty) old).1 =
        .ok (sourceLines sections, usings) ∧
      List.Forall₂ (r.presentedBy c).IsSection r.names.graph.records sections ∧
      LineKind.codeOf (sourceLines sections) = code ∧ c.Governs sections := by
  cases hbase : r.names.graph.records.forM r.checkBase with
  | error f => exact .inl ⟨f, render_of_checkBase hassigned hgraph hdescribed hbase⟩
  | ok _ => exact .inr (exists_code_of_checkBase hassigned hgraph hdescribed hunit hbase)

end Renderer

/-- The theorem at two records, with all lines of the plainest presentation of them. -/
theorem structs_presentedBy_ledger :
    ledgerRenderer.names.Assigned ∧ ledgerRenderer.names.graph.Resolved ∧
      (∀ record ∈ ledgerRenderer.names.graph.records, record.Described) ∧
      (∀ c ∈ ledgerRenderer.indentUnit.toList, Text.isBlank c = true) ∧
      (∃ code, ∀ c old, ∃ sections usings,
        (Printer.render ((ledgerRenderer.presentedBy c).structs writableProperty) old).1 =
          .ok (sourceLines sections, usings) ∧
        List.Forall₂ (ledgerRenderer.presentedBy c).IsSection
          ledgerRenderer.names.graph.records sections ∧
        LineKind.codeOf (sourceLines sections) = code ∧ c.Governs sections) ∧
      (Printer.render ((ledgerRenderer.presentedBy ⟨false, false, .dense⟩).structs
          writableProperty) {}).1.toOption =
        some (["internal readonly struct Ledger", "\x7b",
          "  public Ledger(Entry[] entries, DateTimeOffset? closed)", "  \x7b",
          "    this.Entries = entries;", "    this.Closed = closed;", "  \x7d", "",
          "  public Entry[] Entries \x7b get; \x7d",
          "  public DateTimeOffset? Closed \x7b get; \x7d", "\x7d", "",
          "private partial class Entry : Row", "\x7b", "  public Entry()", "  \x7b",
          "  \x7d", "", "\x7d"], [.system]) := by
  have hassigned : ledgerRenderer.names.Assigned := assigned_assignNames ledger .pascal .pascal
  have hgraph : ledgerRenderer.names.graph = ledger := graph_assignNames ledger .pascal .pascal
  have hresolved : ledgerRenderer.names.graph.Resolved := by
    rw [hgraph]
    decide
  have hdescribed : ∀ record ∈ ledgerRenderer.names.graph.records, record.Described := by
    rw [hgraph]
    decide
  have hunit : ∀ c ∈ ledgerRenderer.indentUnit.toList, Text.isBlank c = true := by
    intro c hc
    obtain rfl : c = ' ' := by simpa [ledgerRenderer] using hc
    decide
  have hbase : ∀ record ∈ ledgerRenderer.names.graph.records,
      ((Fragment.ofJson record.baseType).serialize ledgerRenderer.names).toOption.isSome := by
    rw [hgraph]
    decide
  refine ⟨hassigned, hresolved, hdescribed, hunit, ?_, by decide +kernel⟩
  rcases Renderer.structs_presentedBy ledgerRenderer hassigned hresolved hdescribed hunit with
    ⟨f, ⟨record, hrecord, hf⟩, -⟩ | hcode
  · have hsome := hbase record hrecord
    rw [hf] at hsome
    cases hsome
  · exact hcode

/-- A level of depth is blank, whatever the configuration says. -/
theorem isBlank_of_indentUnit {c : Configuration} {unit : String} (h : c.indentUnit = .ok unit) :
    ∀ ch ∈ unit.toList, Text.isBlank ch = true := by
  intro ch hch
  rcases c.mem_indentUnit h hch with rfl | rfl <;> decide

/-- The options with a presentation. -/
def Presentation.setOptions (p : Presentation) (o : Options) : Options :=
  { o with jsonAttributes := p.jsonAttributes, density := p.density }

/-- The configuration with a presentation. -/
def Presentation.setComments (p : Presentation) (c : Configuration) : Configuration :=
  { c with addComments := .bool p.comments }

/-- The source files of a graph under two presentations have the same lines of code in their
bodies, or there is a source file under none. -/
theorem sourceText_presentedBy {c : Configuration} {typeStyle fieldStyle : NamingStyle}
    {unit : String} {g : TypeGraph} (options : Options)
    (htype : NamingStyle.read c.typeCase = .ok typeStyle)
    (hfield : NamingStyle.read c.fieldCase = .ok fieldStyle) (hunit : c.indentUnit = .ok unit)
    (hgraph : g.Resolved) (hdescribed : ∀ record ∈ g.records, record.Described) :
    (∃ f, ∀ p : Presentation,
        sourceText (p.setComments c) (p.setOptions options) true g = .error f) ∨
      ∃ code, ∀ p : Presentation, ∃ body usings,
        sourceText (p.setComments c) (p.setOptions options) true g =
          .ok (SourceFile.text ⟨c.namespaceName.plain, usings, body, unit⟩) ∧
        LineKind.codeOf body = code := by
  let r : Renderer :=
    { names := assignNames g typeStyle fieldStyle, options, comments := true, indentUnit := unit }
  have hassigned : r.names.Assigned := assigned_assignNames g typeStyle fieldStyle
  have hnames : r.names.graph = g := graph_assignNames g typeStyle fieldStyle
  rw [← hnames] at hgraph hdescribed
  have hsource (p : Presentation) : sourceText (p.setComments c) (p.setOptions options) true g = do
      let x ← (Printer.render ((r.presentedBy p).structs writableProperty) {}).1
      return SourceFile.text ⟨c.namespaceName.plain, x.2, x.1, unit⟩ := by
    have hunit : (p.setComments c).indentUnit = .ok unit := hunit
    have htype : NamingStyle.read (p.setComments c).typeCase = .ok typeStyle := htype
    have hfield : NamingStyle.read (p.setComments c).fieldCase = .ok fieldStyle := hfield
    rw [sourceText, htype, hfield, hunit]
    rfl
  cases hbase : r.names.graph.records.forM r.checkBase with
  | error f =>
    obtain ⟨-, hrender⟩ := r.render_of_checkBase hassigned hgraph hdescribed hbase
    exact .inl ⟨f, fun p => by rw [hsource, hrender]; rfl⟩
  | ok _ =>
    obtain ⟨code, hcode⟩ := r.exists_code_of_checkBase hassigned hgraph hdescribed
      (isBlank_of_indentUnit hunit) hbase
    refine .inr ⟨code, fun p => ?_⟩
    obtain ⟨sections, usings, hrender, -, hsame, -⟩ := hcode p {}
    exact ⟨sourceLines sections, usings, by rw [hsource, hrender]; rfl, hsame⟩

end CSharp

end SchemaStruct
