import SchemaStruct.Proofs.CSharp.TypeNames

/-!
# Texts of Types

What the type of a property looks like in code, by recursion on the type: a name for what has
nothing inside, and brackets around the text of the items or values for lists and maps. A question
mark stands behind a level if its values are copied rather than shared, and if the type allows that
there is no value there; at the outermost level the second is also so for a property that may be
absent, if such properties are to be nullable. The mapping to types of C# gets there in another way.
It carries along whether a type is a value type and whether it is marked already, and puts a mark on
what it has made so far.

Lists and maps are shared, and so are texts and unknown values. So no mark stands anywhere but
behind the innermost level, and there at most once.

## Main definitions

* `TypeRef.levels` and `TypeRef.innermost`: what lies inside of a type, through lists and maps only;
* `CSharp.isValueKind`: the kinds whose values are copied;
* `CSharp.typeText` and `CSharp.propertyText`: the text of a type, and of the type of a property.

## Main results

* `CSharpType.flags_of_base`: what is a value type, and that nothing is marked beforehand;
* `CSharpType.serialize_level`: one level of a type, with its marks;
* `CSharp.exists_typeText`: there is a text, and how many question marks it has;
* `CSharp.serialize_ofProperty`: the type of a property has the text that is read off the property.
-/

namespace SchemaStruct

namespace FieldKind

/-- Whether there is something inside of values of the kind: they are lists or maps. -/
def isContainer : FieldKind → Bool
  | array | map => true
  | _ => false

end FieldKind

namespace TypeRef

/-- A type, the type of its items or values if it is a list or a map, and so on. What a list or a
map does not say about its items is taken for an unknown value. -/
def levels : TypeRef → List TypeRef
  | ⟨kind, record, some items, nullable⟩ =>
    ⟨kind, record, some items, nullable⟩ :: if kind.isContainer then items.levels else []
  | ⟨kind, record, none, nullable⟩ =>
    ⟨kind, record, none, nullable⟩ :: if kind.isContainer then [any] else []

/-- The last one of these types, which is neither a list nor a map. -/
def innermost : TypeRef → TypeRef
  | ⟨kind, record, some items, nullable⟩ =>
    if kind.isContainer then items.innermost else ⟨kind, record, some items, nullable⟩
  | ⟨kind, record, none, nullable⟩ =>
    if kind.isContainer then any else ⟨kind, record, none, nullable⟩

section

variable {t : TypeRef}

/-- The types on the way inside of a list or a map are itself and those of its items. -/
theorem levels_of_isContainer (h : t.kind.isContainer = true) :
    t.levels = t :: (t.items.getD any).levels := by
  obtain ⟨kind, record, items, nullable⟩ := t
  cases items <;> rw [levels, if_pos h] <;> rfl

/-- There is no way inside of other types. -/
theorem levels_of_not_isContainer (h : t.kind.isContainer = false) : t.levels = [t] := by
  obtain ⟨kind, record, items, nullable⟩ := t
  cases items <;> rw [levels, if_neg (Bool.eq_false_iff.mp h)]

/-- The innermost type of a list or a map is that of its items. -/
theorem innermost_of_isContainer (h : t.kind.isContainer = true) :
    t.innermost = (t.items.getD any).innermost := by
  obtain ⟨kind, record, items, nullable⟩ := t
  cases items <;> rw [innermost, if_pos h] <;> rfl

/-- Other types are their own innermost type. -/
theorem innermost_of_not_isContainer (h : t.kind.isContainer = false) : t.innermost = t := by
  obtain ⟨kind, record, items, nullable⟩ := t
  cases items <;> rw [innermost, if_neg (Bool.eq_false_iff.mp h)]

/-- What holds of types with nothing inside, and of lists and maps if it holds of their items, holds
of all types. -/
theorem induction_levels {motive : TypeRef → Prop}
    (innermost : ∀ t, t.kind.isContainer = false → motive t)
    (container : ∀ t, t.kind.isContainer = true → motive (t.items.getD any) → motive t)
    (t : TypeRef) : motive t := by
  induction t using layers.induct with
  | case1 kind record items nullable ih =>
    cases h : kind.isContainer with
    | true => exact container _ h ih
    | false => exact innermost _ h
  | case2 kind record nullable =>
    cases h : kind.isContainer with
    | true => exact container _ h (innermost any rfl)
    | false => exact innermost _ h

end

end TypeRef

namespace CSharp

/-- Whether values of the kind are copied: numbers, truth values, records, and points in time unless
they are texts. -/
def isValueKind (choices : TypeChoices) : FieldKind → Bool
  | .integer | .float | .boolean | .object => true
  | .timestamp => choices.timeType ≠ .string
  | .string | .array | .map | .any => false

/-- The text of a level without a mark, from the text of the record and of what is inside. -/
def bareText (choices : TypeChoices) (kind : FieldKind) (record inside : Except Fault String) :
    Except Fault String :=
  match kind with
  | .string => .ok "string"
  | .integer => .ok choices.intType.name
  | .float => .ok choices.floatType.name
  | .boolean => .ok "bool"
  | .timestamp => .ok choices.timeType.name
  | .any => .ok choices.anyType.name
  | .object => record
  | .array =>
    match choices.arrayStyle with
    | .array => (· ++ "[]") <$> inside
    | .list => (fun s => "List<" ++ s ++ ">") <$> inside
  | .map => (fun s => "Dictionary<string, " ++ s ++ ">") <$> inside

/-- A text with a question mark behind it, if `mark` holds. -/
def markText (mark : Bool) (s : String) : String := if mark then s ++ "?" else s

section

variable (choices : TypeChoices) (recordText : Option String → Except Fault String)

/-- The text of a type, given the texts of records. The outermost level is taken to allow no value
too if `absent` holds. -/
def typeText (absent : Bool) : TypeRef → Except Fault String
  | ⟨kind, record, some items, nullable⟩ =>
    markText (isValueKind choices kind && (nullable || absent)) <$>
      bareText choices kind (recordText record) (typeText false items)
  | ⟨kind, record, none, nullable⟩ =>
    markText (isValueKind choices kind && (nullable || absent)) <$>
      bareText choices kind (recordText record) (.ok choices.anyType.name)

/-- The text of a type by its parts, where a list or a map without items is one of unknown
values. -/
theorem typeText_eq (absent : Bool) (t : TypeRef) :
    typeText choices recordText absent t =
      markText (isValueKind choices t.kind && (t.nullable || absent)) <$>
        bareText choices t.kind (recordText t.record)
          (typeText choices recordText false (t.items.getD .any)) := by
  obtain ⟨kind, record, items, nullable⟩ := t
  cases items <;> rfl

/-- The text of the type of a property. -/
def propertyText (p : Property) : Except Fault String :=
  typeText choices recordText (p.optional && choices.nullableOptionals) p.type

end

end CSharp

namespace CSharpType

open CSharp

variable {choices : TypeChoices} {recordName : Option String → Except Fault Fragment}
  {names : NameTable}

/-- The text of a fragment between two texts. -/
theorem serialize_between (before after : String) (f : Fragment) :
    (Fragment.group .round [.text before, f, .text after]).serialize names =
      (fun s => before ++ s ++ after) <$> f.serialize names := by
  simp only [Fragment.serialize, Fragment.serializeAll]
  cases f.serialize names with
  | error e => rfl
  | ok s => simp [bind, Except.bind, pure, Except.pure, String.append_assoc]

/-- The text of a fragment in front of a text. -/
theorem serialize_front (after : String) (f : Fragment) :
    (Fragment.group .round [f, .text after]).serialize names =
      (· ++ after) <$> f.serialize names := by
  simp only [Fragment.serialize, Fragment.serializeAll]
  cases f.serialize names with
  | error e => rfl
  | ok s => simp [bind, Except.bind, pure, Except.pure]

section

variable {kind : FieldKind} {record : Option String} {inside : Except Fault CSharpType}

/-- A level is a value type if values of its kind are copied, and it is not marked by itself. -/
theorem flags_of_base {t : CSharpType} (h : base choices recordName kind record inside = .ok t) :
    t.isValueType = isValueKind choices kind ∧ t.isNullable = false := by
  cases kind with
  | string | integer | float | boolean | any =>
    obtain rfl := Except.ok.inj h
    exact ⟨rfl, rfl⟩
  | timestamp =>
    obtain rfl := Except.ok.inj h
    cases htime : choices.timeType <;> simp [ofTime, named, isValueKind, TimeType.isSystem, htime]
  | object =>
    obtain ⟨f, -, h⟩ := ok_of_bind h
    obtain rfl := Except.ok.inj h
    exact ⟨rfl, rfl⟩
  | array =>
    obtain ⟨element, -, h⟩ := ok_of_bind h
    obtain rfl := Except.ok.inj h
    unfold listOf
    split <;> exact ⟨rfl, rfl⟩
  | map =>
    obtain ⟨values, -, h⟩ := ok_of_bind h
    obtain rfl := Except.ok.inj h
    exact ⟨rfl, rfl⟩

/-- The text of a level that is not marked. -/
theorem serialize_base :
    (base choices recordName kind record inside >>= fun t => t.fragment.serialize names) =
      bareText choices kind (recordName record >>= fun f => f.serialize names)
        (inside >>= fun t => t.fragment.serialize names) := by
  cases kind with
  | string | integer | float | boolean | timestamp | any => rfl
  | object =>
    unfold base bareText
    cases recordName record <;> rfl
  | array =>
    unfold base bareText
    cases inside with
    | error e => cases choices.arrayStyle <;> rfl
    | ok t =>
      cases harray : choices.arrayStyle with
      | array => exact serialize_front "[]" t.fragment
      | list => exact serialize_between "List<" ">" t.fragment
  | map =>
    unfold base bareText
    cases inside with
    | error e => rfl
    | ok t => exact serialize_between "Dictionary<string, " ">" t.fragment

/-- A type that is not marked yet is marked once, if it is a value type, whichever of two reasons
there is for it. -/
theorem serialize_asNullableIf {t : CSharpType} (h : t.isNullable = false)
    (nullable absent : Bool) :
    ((t.asNullableIf nullable).asNullableIf absent).fragment.serialize names =
      markText (t.isValueType && (nullable || absent)) <$> t.fragment.serialize names := by
  have hplain : t.fragment.serialize names = markText false <$> t.fragment.serialize names := by
    cases t.fragment.serialize names <;> rfl
  cases hvalue : t.isValueType with
  | false =>
    -- a type that is shared stays as it is
    have hsame : t.asNullable = t := by simp [asNullable, hvalue]
    cases nullable <;> cases absent <;> simpa [asNullableIf, hsame] using hplain
  | true =>
    have hmark : t.asNullable.fragment.serialize names =
        markText true <$> t.fragment.serialize names := by
      rw [asNullable, h, hvalue]
      exact serialize_front "?" t.fragment
    cases nullable <;> cases absent
    · simpa [asNullableIf] using hplain
    · simpa [asNullableIf] using hmark
    · simpa [asNullableIf] using hmark
    · simpa [asNullableIf, asNullable_asNullable] using hmark

/-- The text of a level with its marks. -/
theorem serialize_level (nullable absent : Bool) :
    (do
      let t ← base choices recordName kind record inside
      ((t.asNullableIf nullable).asNullableIf absent).fragment.serialize names) =
      markText (isValueKind choices kind && (nullable || absent)) <$>
        bareText choices kind (recordName record >>= fun f => f.serialize names)
          (inside >>= fun t => t.fragment.serialize names) := by
  rw [← serialize_base]
  cases hbase : base choices recordName kind record inside with
  | error e => rfl
  | ok t =>
    obtain ⟨hvalue, hnullable⟩ := flags_of_base hbase
    rw [← hvalue]
    exact serialize_asNullableIf hnullable nullable absent

end

/-- A type has its text if what is inside has. -/
theorem serialize_ofRef_of_inside {t : TypeRef}
    (hinside : (ofRef choices recordName (t.items.getD .any) >>= fun c =>
      c.fragment.serialize names) =
      typeText choices (fun key => recordName key >>= fun f => f.serialize names) false
        (t.items.getD .any)) (absent : Bool) :
    (do
      let c ← ofRef choices recordName t
      (c.asNullableIf absent).fragment.serialize names) =
      typeText choices (fun key => recordName key >>= fun f => f.serialize names) absent t := by
  rw [typeText_eq, ← hinside, ← serialize_level, ofRef_eq, bind_assoc]
  rfl

/-- The text of a type, with or without another reason for a mark. -/
theorem serialize_ofRef (t : TypeRef) (absent : Bool) :
    (do
      let c ← ofRef choices recordName t
      (c.asNullableIf absent).fragment.serialize names) =
      typeText choices (fun key => recordName key >>= fun f => f.serialize names) absent t := by
  -- the items never have another reason, whether or not the whole has one
  induction t using TypeRef.layers.induct generalizing absent with
  | case1 kind record items nullable ih => exact serialize_ofRef_of_inside (ih false) absent
  | case2 kind record nullable => exact serialize_ofRef_of_inside rfl absent

end CSharpType

namespace CSharp

/-- How many question marks a text has. -/
def marks (s : String) : Nat := s.toList.count '?'

section

variable {choices : TypeChoices} {kind : FieldKind} {record inside : Except Fault String}

/-- The name of a type has no mark. -/
theorem marks_of_scalarName? {name : String} (h : scalarName? choices kind = some name) :
    marks name = 0 :=
  List.count_eq_zero.mpr (mark_not_mem_of_scalarName? h)

/-- A type with a name of its own has the name for a text. -/
theorem bareText_of_scalarName? {name : String} (h : scalarName? choices kind = some name) :
    bareText choices kind record inside = .ok name := by
  cases kind with
  | object | array | map => cases h
  | _ => exact congrArg Except.ok (Option.some.inj h)

/-- A mark is one more than there are. -/
theorem marks_markText (mark : Bool) (s : String) :
    marks (markText mark s) = marks s + if mark then 1 else 0 := by
  cases mark with
  | false => rfl
  | true => simp [markText, marks, String.toList_append]

/-- Values of lists and maps are shared. -/
theorem isValueKind_of_isContainer (choices : TypeChoices) (h : kind.isContainer = true) :
    isValueKind choices kind = false := by
  cases kind with
  | array | map => rfl
  | _ => cases h

/-- A level with nothing inside has a text without marks, if it is no record or the name of its
record is such a text. -/
theorem exists_bareText_of_innermost (hkind : kind.isContainer = false)
    (hrecord : kind = .object → ∃ name, record = .ok name ∧ marks name = 0) :
    ∃ s, bareText choices kind record inside = .ok s ∧ marks s = 0 := by
  cases hname : scalarName? choices kind with
  | some name => exact ⟨name, bareText_of_scalarName? hname, marks_of_scalarName? hname⟩
  | none =>
    cases kind with
    | object => exact hrecord rfl
    | array | map => cases hkind
    | _ => cases hname

/-- A level with something inside has a text with the marks that are inside. -/
theorem exists_bareText_of_isContainer {a : String} (hkind : kind.isContainer = true) :
    ∃ s, bareText choices kind record (.ok a) = .ok s ∧ marks s = marks a := by
  cases kind with
  | array =>
    cases harray : choices.arrayStyle with
    | array =>
      exact ⟨a ++ "[]", by rw [bareText, harray]; rfl, by simp [marks, String.toList_append]⟩
    | list =>
      exact ⟨"List<" ++ a ++ ">", by rw [bareText, harray]; rfl,
        by simp [marks, String.toList_append]⟩
  | map =>
    exact ⟨"Dictionary<string, " ++ a ++ ">", rfl, by simp [marks, String.toList_append]⟩
  | _ => cases hkind

/-- The marks of a level with nothing inside: its own. -/
theorem exists_level_of_innermost (hkind : kind.isContainer = false)
    (hrecord : kind = .object → ∃ name, record = .ok name ∧ marks name = 0) (mark : Bool) :
    ∃ s, markText mark <$> bareText choices kind record inside = .ok s ∧
      marks s = if mark then 1 else 0 := by
  obtain ⟨s, hs, hmarks⟩ := exists_bareText_of_innermost hkind hrecord
  exact ⟨markText mark s, by rw [hs]; rfl, by rw [marks_markText, hmarks, Nat.zero_add]⟩

/-- The marks of a level with something inside: those that are inside. -/
theorem exists_level_of_isContainer {a : String} (hkind : kind.isContainer = true)
    (hinside : inside = .ok a) (nullable : Bool) :
    ∃ s, markText (isValueKind choices kind && nullable) <$> bareText choices kind record inside =
      .ok s ∧ marks s = marks a := by
  obtain ⟨s, hs, hmarks⟩ : ∃ s, bareText choices kind record (.ok a) = .ok s ∧ marks s = marks a :=
    exists_bareText_of_isContainer hkind
  rw [isValueKind_of_isContainer choices hkind, hinside, hs]
  exact ⟨s, rfl, hmarks⟩

/-- A type has a text if its innermost type is no record or one with a name. No mark stands in it
but behind the innermost level, and there one if there is a reason for it. -/
theorem exists_typeText {recordText : Option String → Except Fault String} {t : TypeRef}
    (hrecord : t.innermost.kind = .object →
      ∃ name, recordText t.innermost.record = .ok name ∧ marks name = 0) (absent : Bool) :
    ∃ s, typeText choices recordText absent t = .ok s ∧
      marks s = if isValueKind choices t.innermost.kind &&
        (t.innermost.nullable || absent && !t.kind.isContainer) then 1 else 0 := by
  induction t using TypeRef.induction_levels generalizing absent with
  | innermost t hkind =>
    rw [TypeRef.innermost_of_not_isContainer hkind] at hrecord ⊢
    rw [typeText_eq, hkind, Bool.not_false, Bool.and_true]
    exact exists_level_of_innermost hkind hrecord _
  | container t hkind ih =>
    rw [TypeRef.innermost_of_isContainer hkind] at hrecord ⊢
    obtain ⟨a, ha, hinside⟩ := ih hrecord false
    obtain ⟨s, hs, hmarks⟩ := exists_level_of_isContainer hkind ha (t.nullable || absent)
    rw [typeText_eq]
    exact ⟨s, hs, by simpa [hkind, hmarks] using hinside⟩

end

/-- Whatever the choices and the names of records, the type of a property has the text that is read
off the property, or fails for the same reason. There is a text if the innermost type is no record
or one with a name, and it has one question mark or none: one if the values of the innermost type
are copied and it allows no value, or if it is the type of the property itself, which may be absent
and is then to be nullable. -/
theorem serialize_ofProperty (choices : TypeChoices)
    (recordName : Option String → Except Fault Fragment) (names : NameTable) (p : Property) :
    (do
      let t ← CSharpType.ofProperty choices recordName p
      t.fragment.serialize names) =
      propertyText choices (fun key => recordName key >>= fun f => f.serialize names) p ∧
    ((p.type.innermost.kind = .object → ∃ f name, recordName p.type.innermost.record = .ok f ∧
        f.serialize names = .ok name ∧ marks name = 0) →
      ∃ s, propertyText choices (fun key => recordName key >>= fun f => f.serialize names) p =
        .ok s ∧
        marks s = if isValueKind choices p.type.innermost.kind && (p.type.innermost.nullable ||
          p.optional && choices.nullableOptionals && !p.type.kind.isContainer) then 1 else 0) := by
  constructor
  · rw [CSharpType.ofProperty, bind_assoc]
    exact CSharpType.serialize_ofRef p.type _
  · intro hrecord
    refine exists_typeText (fun hobject => ?_) _
    obtain ⟨f, name, hf, hname, hmarks⟩ := hrecord hobject
    exact ⟨name, by rw [hf]; exact hname, hmarks⟩

/-- A property that may be absent: for every direction the berths there, some of which are
missing. -/
def neighbours : Property where
  name := "neighbours"
  type := .map (.array ((TypeRef.object "Berth").withNullable))
  optional := true

/-- Berths, each of which knows its neighbours, when it was taken and what is to be kept in mind. -/
def harbour : TypeGraph where
  records := [{
    key := "Berth"
    suggestedName := .str "Berth"
    properties := [neighbours, ⟨"takenAt", { kind := .timestamp }, true, .null⟩,
      ⟨"notes", { kind := .array }, false, .null⟩] }]
  keys_nodup := by decide

/-- The renderer of that graph, with lists that can grow. -/
def harbourRenderer : Renderer where
  names := assignNames harbour .pascal .pascal
  options := { choices := { arrayStyle := .list } }

/-- The theorem at that property: neither the map, though it may be absent, nor the lists in it are
marked, and the berths in the lists are. -/
theorem serialize_ofProperty_neighbours :
    neighbours.type.innermost.kind = .object ∧
    (∃ f name, harbourRenderer.recordType neighbours.type.innermost.record = .ok f ∧
      f.serialize harbourRenderer.names = .ok name ∧ marks name = 0) ∧
    (do
      let t ← CSharpType.ofProperty harbourRenderer.options.choices harbourRenderer.recordType
        neighbours
      t.fragment.serialize harbourRenderer.names) = .ok "Dictionary<string, List<Berth?>>" ∧
    marks "Dictionary<string, List<Berth?>>" = 1 := by
  have hrecord : ∃ f name, harbourRenderer.recordType neighbours.type.innermost.record = .ok f ∧
      f.serialize harbourRenderer.names = .ok name ∧ marks name = 0 :=
    ⟨_, "Berth", rfl, rfl, by decide⟩
  obtain ⟨htext, hmarks⟩ := serialize_ofProperty harbourRenderer.options.choices
    harbourRenderer.recordType harbourRenderer.names neighbours
  obtain ⟨s, hs, hcount⟩ := hmarks fun _ => hrecord
  obtain rfl : "Dictionary<string, List<Berth?>>" = s := Except.ok.inj (Eq.trans rfl hs)
  exact ⟨rfl, hrecord, htext.trans hs, hcount⟩

end CSharp

end SchemaStruct
