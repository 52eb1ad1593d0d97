import Mathlib
import SchemaStruct.Proofs.CSharp.AssignedNames
import SchemaStruct.Proofs.CSharp.Types
import SchemaStruct.Proofs.Faults
import SchemaStruct.Proofs.Naming.Initials

/-!
# Names of Types

A record has a name of its own in code, and so have the types of numbers, texts, points in time and
unknown values. Names of records avoid the reserved words, and most names of other types are
reserved words. Two sorts are not: the types of points in time of the library, which only a name in
the pascal style can be equal to, and the type of values whose members are looked up when the code
runs, which only a name in another style can be equal to. A property whose type is written with the
name of a record is therefore a reference to that record, except if the record has captured one of
these two types.

## Main definitions

* `CSharp.scalarName?`: the name of the type of a kind other than records, lists and maps;
* `CSharp.CapturesTime` and `CSharp.CapturesAny`: the names of records that are names of such types.

## Main results

* `CSharpType.base_cases`: which types there are without regard to marks;
* `CSharpType.text_of_ofProperty`: what the type of a property looks like;
* `CSharp.captures_of_scalarName?`: which types the names of records can capture;
* `CSharp.recordName_captures`: the properties that are written with the name of a record.
-/

namespace SchemaStruct

namespace CSharp

/-- The name of the type that the values of a kind have, if the kind is neither that of records nor
one with items. -/
def scalarName? (choices : TypeChoices) : FieldKind → Option String
  | .string => some "string"
  | .integer => some choices.intType.name
  | .float => some choices.floatType.name
  | .boolean => some "bool"
  | .timestamp => some choices.timeType.name
  | .any => some choices.anyType.name
  | .object | .array | .map => none

/-- A record in the pascal style with the name of the type of points in time. -/
def CapturesTime (style : NamingStyle) (choices : TypeChoices) (own : String) : Prop :=
  style = .pascal ∧ choices.timeType ≠ .string ∧ own = choices.timeType.name

/-- A record in another style with the name of the type of unknown values. -/
def CapturesAny (style : NamingStyle) (choices : TypeChoices) (own : String) : Prop :=
  style ≠ .pascal ∧ choices.anyType = .dynamic ∧ own = "dynamic"

end CSharp

namespace Fragment

/-- The text of some fragments has all characters of the texts among them. -/
theorem mem_of_serializeAll {names : NameTable} {fragments : List Fragment} {s a : String}
    (h : serializeAll names fragments = .ok s) (ha : .text a ∈ fragments) :
    ∀ c ∈ a.toList, c ∈ s.toList := by
  induction fragments generalizing s with
  | nil => cases ha
  | cons f rest ih =>
    rw [serializeAll] at h
    obtain ⟨first, hfirst, h⟩ := ok_of_bind h
    obtain ⟨others, hothers, h⟩ := ok_of_bind h
    obtain rfl := Except.ok.inj h
    intro c hc
    rw [String.toList_append, List.mem_append]
    rcases List.mem_cons.1 ha with rfl | hrest
    · obtain rfl := Except.ok.inj hfirst
      exact .inl hc
    · exact .inr (ih hothers hrest c hc)

end Fragment

namespace CSharpType

open CSharp

variable {names : NameTable} {choices : TypeChoices}
  {recordName : Option String → Except Fault Fragment}

/-- Marking a type twice is marking it once. -/
theorem asNullable_asNullable (t : CSharpType) : t.asNullable.asNullable = t.asNullable := by
  unfold asNullable
  by_cases h : t.isNullable || !t.isValueType
  · simp only [h, if_true]
  · simp [h]

/-- A type that may be marked is written with or without a question mark. -/
theorem text_of_asNullable {t : CSharpType} {s : String}
    (h : t.asNullable.fragment.serialize names = .ok s) :
    ∃ b, t.fragment.serialize names = .ok b ∧ (s = b ∨ s = b ++ "?") := by
  unfold asNullable at h
  split at h
  · exact ⟨s, h, .inl rfl⟩
  · obtain ⟨b, hb, h⟩ := ok_of_bind (h : Fragment.serializeAll names [_, _] = .ok s)
    refine ⟨b, hb, .inr ?_⟩
    rw [Fragment.serializeAll_text] at h
    exact (Except.ok.inj h).symm

/-- What there is without regard to marks: a type with a name of its own, a record, or a list or a
map of the type of the items. -/
theorem base_cases {kind : FieldKind} {record : Option String} {items : Except Fault CSharpType}
    {t : CSharpType} (h : base choices recordName kind record items = .ok t) :
    (∃ s, scalarName? choices kind = some s ∧ t.fragment = .text s) ∨
      kind = .object ∧ recordName record = .ok t.fragment ∨
      ∃ inside, items = .ok inside ∧ (t = listOf choices.arrayStyle inside ∨ t = mapOf inside) := by
  cases kind with
  | string | integer | float | boolean | timestamp | any =>
    obtain rfl := Except.ok.inj h
    exact .inl ⟨_, rfl, rfl⟩
  | object =>
    obtain ⟨f, hf, h⟩ := ok_of_bind h
    obtain rfl := Except.ok.inj h
    exact .inr (.inl ⟨rfl, hf⟩)
  | array =>
    obtain ⟨inside, hinside, h⟩ := ok_of_bind h
    exact .inr (.inr ⟨inside, hinside, .inl (Except.ok.inj h).symm⟩)
  | map =>
    obtain ⟨inside, hinside, h⟩ := ok_of_bind h
    exact .inr (.inr ⟨inside, hinside, .inr (Except.ok.inj h).symm⟩)

/-- The text of a type without regard to marks: a name of its own, that of a record, or one with a
bracket in it. -/
theorem text_of_base {kind : FieldKind} {record : Option String} {items : Except Fault CSharpType}
    {t : CSharpType} {b : String} (hbase : base choices recordName kind record items = .ok t)
    (htext : t.fragment.serialize names = .ok b) :
    scalarName? choices kind = some b ∨
      kind = .object ∧ (∃ f, recordName record = .ok f ∧ f.serialize names = .ok b) ∨
      '[' ∈ b.toList ∨ '<' ∈ b.toList := by
  obtain ⟨s, hs, hfragment⟩ | ⟨hobject, hrecord⟩ | ⟨inside, -, rfl | rfl⟩ := base_cases hbase
  · rw [hfragment] at htext
    obtain rfl := Except.ok.inj htext
    exact .inl hs
  · exact .inr (.inl ⟨hobject, _, hrecord, htext⟩)
  · refine .inr (.inr ?_)
    cases harray : choices.arrayStyle with
    | array =>
      rw [harray] at htext
      exact .inl (Fragment.mem_of_serializeAll htext (a := "[]") (by simp) '[' (by decide))
    | list =>
      rw [harray] at htext
      exact .inr (Fragment.mem_of_serializeAll htext (a := "List<") (by simp) '<' (by decide))
  · exact .inr (.inr (.inr (Fragment.mem_of_serializeAll htext (a := "Dictionary<string, ")
      (by simp) '<' (by decide))))

/-- The type of a property is that of its kind, perhaps marked. -/
theorem exists_base_of_ofProperty {p : Property} {t : CSharpType}
    (h : ofProperty choices recordName p = .ok t) :
    ∃ items bare, base choices recordName p.type.kind p.type.record items = .ok bare ∧
      (t = bare ∨ t = bare.asNullable) := by
  obtain ⟨marked, hmarked, h⟩ := ok_of_bind h
  rw [ofRef_eq] at hmarked
  obtain ⟨bare, hbare, hmarked⟩ := ok_of_bind hmarked
  obtain rfl := Except.ok.inj hmarked
  obtain rfl := Except.ok.inj h
  refine ⟨_, bare, hbare, ?_⟩
  cases p.type.nullable <;> cases p.optional && choices.nullableOptionals
  · exact .inl rfl
  · exact .inr rfl
  · exact .inr rfl
  · -- a second mark is none
    exact .inr (asNullable_asNullable bare)

/-- The type of a property is written with the name of its kind, with that of its record or with a
bracket, and perhaps with a question mark behind it. -/
theorem text_of_ofProperty {p : Property} {t : CSharpType} {s : String}
    (h : ofProperty choices recordName p = .ok t) (htext : t.fragment.serialize names = .ok s) :
    ∃ b, (s = b ∨ s = b ++ "?") ∧
      (scalarName? choices p.type.kind = some b ∨
        p.type.kind = .object ∧
          (∃ f, recordName p.type.record = .ok f ∧ f.serialize names = .ok b) ∨
        '[' ∈ b.toList ∨ '<' ∈ b.toList) := by
  obtain ⟨items, bare, hbase, rfl | rfl⟩ := exists_base_of_ofProperty h
  · exact ⟨s, .inl rfl, text_of_base hbase htext⟩
  · obtain ⟨b, hb, hs⟩ := text_of_asNullable htext
    exact ⟨b, hs, text_of_base hbase hb⟩

end CSharpType

namespace CSharp

open NameTable

variable {choices : TypeChoices} {style : NamingStyle}

/-- The names of types are reserved words, but for two. -/
theorem mem_keywords_of_scalarName? {kind : FieldKind} {s : String}
    (h : scalarName? choices kind = some s) :
    s ∈ keywords ∨
      kind = .timestamp ∧ choices.timeType ≠ .string ∧ s = choices.timeType.name ∨
      kind = .any ∧ choices.anyType = .dynamic ∧ s = "dynamic" := by
  cases kind with
  | string | boolean =>
    obtain rfl := Option.some.inj h
    exact .inl (by decide)
  | integer =>
    obtain rfl := Option.some.inj h
    exact .inl (by cases choices.intType <;> decide)
  | float =>
    obtain rfl := Option.some.inj h
    exact .inl (by cases choices.floatType <;> decide)
  | timestamp =>
    obtain rfl := Option.some.inj h
    cases htime : choices.timeType with
    | string => exact .inl (by decide)
    | dateTime | dateTimeOffset => exact .inr (.inl ⟨rfl, by simp, rfl⟩)
  | any =>
    obtain rfl := Option.some.inj h
    cases hany : choices.anyType with
    | object => exact .inl (by decide)
    | dynamic => exact .inr (.inr ⟨rfl, rfl, rfl⟩)
  | object | array | map => cases h

/-- The name of a type has no question mark in it. -/
theorem mark_not_mem_of_scalarName? {kind : FieldKind} {s : String}
    (h : scalarName? choices kind = some s) : '?' ∉ s.toList := by
  have hkeywords : ∀ word ∈ keywords, '?' ∉ word.toList := by decide
  rcases mem_keywords_of_scalarName? h with hkeyword | ⟨-, -, rfl⟩ | ⟨-, -, rfl⟩
  · exact hkeywords s hkeyword
  · cases choices.timeType <;> decide
  · decide

/-- A record whose name is that of another type has captured the type of points in time or that of
unknown values. -/
theorem captures_of_scalarName? (hstyle : style = .pascal ∨ style = .camel ∨ style = .snake)
    {names : List String} {own : String} (hown : own ∈ sanitizer.identifiers style names)
    {kind : FieldKind} (h : scalarName? choices kind = some own) :
    kind = .timestamp ∧ CapturesTime style choices own ∨
      kind = .any ∧ CapturesAny style choices own := by
  have hkebab : style ≠ .kebab := by rcases hstyle with rfl | rfl | rfl <;> decide
  obtain ⟨c, rest, hfirst, hbegins⟩ := Sanitizer.exists_eq_cons_of_mem_identifiers own hown
  rcases mem_keywords_of_scalarName? h with hkeyword | ⟨rfl, htime, rfl⟩ | ⟨rfl, hany, rfl⟩
  · exact absurd hkeyword (isLegalName_of_mem_identifiers hkebab own hown).2
  · -- both types of the library begin with a capital
    have hcapital : c.isUpper = true := by
      cases htype : choices.timeType with
      | string => exact absurd htype htime
      | dateTime | dateTimeOffset =>
        rw [htype] at hfirst
        obtain ⟨rfl, -⟩ := List.cons.inj hfirst
        decide
    have hpascal : style = .pascal := by
      rcases hstyle with rfl | rfl | rfl
      · rfl
      · exact absurd hbegins (by simp [NamingStyle.Begins, hcapital])
      · exact absurd hbegins (by simp [NamingStyle.Begins, hcapital])
    exact .inl ⟨rfl, hpascal, htime, rfl⟩
  · refine .inr ⟨rfl, ?_, hany, rfl⟩
    rintro rfl
    obtain ⟨rfl, -⟩ := List.cons.inj hfirst
    have hsmall : 'd'.isLower = false := hbegins
    exact absurd hsmall (by decide)

/-- What a record captures is the name of a type. -/
theorem exists_scalarName?_of_captures {own : String}
    (h : CapturesTime style choices own ∨ CapturesAny style choices own) :
    ∃ kind, scalarName? choices kind = some own := by
  rcases h with ⟨-, -, rfl⟩ | ⟨-, hany, rfl⟩
  · exact ⟨.timestamp, rfl⟩
  · exact ⟨.any, by rw [scalarName?, hany]; rfl⟩

/-- The key of a record leads to the name of that record. -/
theorem Renderer.exists_of_recordType {r : Renderer} {key : Option String} {f : Fragment}
    {s : String} (h : r.recordType key = .ok f) (htext : f.serialize r.names = .ok s) :
    ∃ q ∈ r.names.graph.records, key = some q.key ∧ r.names.text? (recordName q) = some s := by
  cases key with
  | none => cases h
  | some k =>
    cases hget : r.names.graph.get? k with
    | none => simp [recordType, TypeGraph.get, hget, bind, Except.bind] at h
    | some q =>
      have hname : Fragment.name (recordName q) = f := by
        simpa [recordType, TypeGraph.get, hget, bind, Except.bind, pure, Except.pure] using h
      subst hname
      have hkey : q.key = k := by simpa using List.find?_some hget
      refine ⟨q, List.mem_of_find?_eq_some hget, by rw [hkey], ?_⟩
      rw [Fragment.serialize, NameTable.text] at htext
      split at htext
      · rename_i found hfound
        rw [hfound, Except.ok.inj htext]
      · cases htext

/-- Records with the same name are the same. -/
theorem eq_of_text?_eq {g : TypeGraph} {typeStyle fieldStyle : NamingStyle} {q q' : Record}
    {s : String} (hq : q ∈ g.records) (hq' : q' ∈ g.records)
    (h : (assignNames g typeStyle fieldStyle).text? (recordName q) = some s)
    (h' : (assignNames g typeStyle fieldStyle).text? (recordName q') = some s) : q = q' := by
  have hnodup : (g.records.map fun r =>
      (assignNames g typeStyle fieldStyle).text? (recordName r)).Nodup := by
    rw [map_text?_records]
    exact (Sanitizer.nodup_identifiers _ _ _).map (Option.some_injective _)
  exact List.inj_on_of_nodup_map hnodup hq hq' (h.trans h'.symm)

/-- A question mark behind an identifier is told apart from the identifier. -/
theorem eq_of_marked {own b s : String} (hown : '?' ∉ own.toList) (hb : '?' ∉ b.toList)
    (hs : s = own ∨ s = own ++ "?") (hs' : s = b ∨ s = b ++ "?") : own = b := by
  rcases hs with rfl | rfl <;> rcases hs' with heq | heq
  · exact heq
  · exact absurd (by simp [heq, String.toList_append]) hown
  · exact absurd (by simp [← heq, String.toList_append]) hb
  · rw [← String.toList_inj, String.toList_append, String.toList_append] at heq
    exact String.toList_inj.1 (List.append_cancel_right heq)

/-- A character that stands in no identifier stands in no marked one, unless it is the mark. -/
theorem not_mem_of_marked {own b s : String} {c : Char} (hown : c ∉ own.toList) (hc : c ≠ '?')
    (hs : s = own ∨ s = own ++ "?") (hs' : s = b ∨ s = b ++ "?") : c ∉ b.toList := by
  intro hmem
  have hmem : c ∈ s.toList := by
    rcases hs' with rfl | rfl
    · exact hmem
    · exact String.toList_append ▸ List.mem_append_left _ hmem
  rcases hs with rfl | rfl
  · exact hown hmem
  · rw [String.toList_append, List.mem_append] at hmem
    exact hmem.elim hown fun h => hc (by simpa using h)

/-- Whatever the graph and the options, in the pascal, camel and snake styles a record has the name
of the type of a kind that is no record, list or map in two cases only: in the pascal style that of
the type of points in time, if this is one of the library, and in the other styles that of the type
of unknown values, if this is `dynamic`. So a property whose type is written with the name of a
record, with or without a question mark, is a reference to the record, or in these cases a property
of that type. -/
theorem recordName_captures (g : TypeGraph) {typeStyle : NamingStyle}
    (hstyle : typeStyle = .pascal ∨ typeStyle = .camel ∨ typeStyle = .snake)
    (fieldStyle : NamingStyle) {r : Renderer}
    (hnames : r.names = assignNames g typeStyle fieldStyle) {record : Record}
    (hrecord : record ∈ g.records) :
    ∃ own, r.names.text? (recordName record) = some own ∧
      ((∃ kind, scalarName? r.options.choices kind = some own) ↔
        CapturesTime typeStyle r.options.choices own ∨
          CapturesAny typeStyle r.options.choices own) ∧
      ∀ p t s, CSharpType.ofProperty r.options.choices r.recordType p = .ok t →
        t.fragment.serialize r.names = .ok s → s = own ∨ s = own ++ "?" →
        p.type.kind = .object ∧ p.type.record = some record.key ∨
          p.type.kind = .timestamp ∧ CapturesTime typeStyle r.options.choices own ∨
          p.type.kind = .any ∧ CapturesAny typeStyle r.options.choices own := by
  have hkebab : typeStyle ≠ .kebab := by rcases hstyle with rfl | rfl | rfl <;> decide
  obtain ⟨own, hown, htext⟩ := exists_text?_record typeStyle fieldStyle hrecord
  refine ⟨own, hnames ▸ htext, ⟨?captured, exists_scalarName?_of_captures⟩, ?written⟩
  case captured =>
    rintro ⟨kind, hkind⟩
    exact (captures_of_scalarName? hstyle hown hkind).imp And.right And.right
  case written =>
    intro p t s htype hs hwritten
    obtain ⟨b, hb, hkind⟩ := CSharpType.text_of_ofProperty htype hs
    have hword : ∀ id ∈ sanitizer.identifiers typeStyle g.keys, ∀ c, ¬ IsWordChar c →
        c ∉ id.toList :=
      fun id hid c hc hmem =>
        hc ((isLegalName_of_mem_identifiers hkebab id hid).1.isWordChar hmem)
    have hmark : ¬ IsWordChar '?' := by simp [IsWordChar, Char.isAlphanum, Char.isAlpha]
    rcases hkind with hscalar | ⟨hobject, f, hf, hfb⟩ | hbracket | hbracket
    · obtain rfl := eq_of_marked (hword own hown _ hmark) (mark_not_mem_of_scalarName? hscalar)
        hwritten hb
      exact .inr (captures_of_scalarName? hstyle hown hscalar)
    · obtain ⟨q, hq, hkey, hqtext⟩ := Renderer.exists_of_recordType hf hfb
      rw [hnames] at hq hqtext
      rw [graph_assignNames] at hq
      obtain ⟨id, hid, hidtext⟩ := exists_text?_record typeStyle fieldStyle hq
      obtain rfl : b = id := Option.some.inj (hqtext.symm.trans hidtext)
      obtain rfl := eq_of_marked (hword own hown _ hmark) (hword b hid _ hmark) hwritten hb
      obtain rfl := eq_of_text?_eq hq hrecord hqtext htext
      exact .inl ⟨hobject, hkey⟩
    · have hsquare : ¬ IsWordChar '[' := by simp [IsWordChar, Char.isAlphanum, Char.isAlpha]
      exact absurd hbracket
        (not_mem_of_marked (hword own hown _ hsquare) (by decide) hwritten hb)
    · have hangle : ¬ IsWordChar '<' := by simp [IsWordChar, Char.isAlphanum, Char.isAlpha]
      exact absurd hbracket
        (not_mem_of_marked (hword own hown _ hangle) (by decide) hwritten hb)

/-- A record that is called like the type of points in time, and has a property of that type. -/
def clock : Record where
  key := "DateTimeOffset"
  suggestedName := .null
  properties := [⟨"at", { kind := .timestamp }, true, .null⟩]

/-- A graph with that record, and with one that is called like the type of dynamic values. -/
def clocks : TypeGraph where
  records := [clock, { key := "dynamic", suggestedName := .null }]
  keys_nodup := by decide

/-- A renderer for that graph with the default options. -/
def clockRenderer : Renderer := { names := assignNames clocks .pascal .pascal }

/-- With the default options, the record in the pascal style has the name of the type of points in
time, and the type of its property, which is no record, is written with this name and a question
mark. In the snake style, the other record has the name of the type of dynamic values. -/
theorem scalarName?_clocks :
    clockRenderer.names.text? (recordName clock) = some "DateTimeOffset" ∧
    scalarName? clockRenderer.options.choices .timestamp = some "DateTimeOffset" ∧
    (∃ p ∈ clock.properties, p.type.kind ≠ .object ∧ ∃ t,
      CSharpType.ofProperty clockRenderer.options.choices clockRenderer.recordType p = .ok t ∧
        t.fragment.serialize clockRenderer.names = .ok "DateTimeOffset?") ∧
    (∃ q ∈ clocks.records,
      (assignNames clocks .snake .pascal).text? (recordName q) = some "dynamic") ∧
    scalarName? { anyType := .dynamic } .any = some "dynamic" := by
  refine ⟨by decide +kernel, rfl, ⟨_, List.mem_cons_self, by decide, _, rfl, by rfl⟩, ?_, rfl⟩
  exact ⟨{ key := "dynamic", suggestedName := .null }, by simp [clocks], by decide +kernel⟩

/-- The theorem at that graph: the property that is written with the name of the record is a point
in time, whose type the record has captured. -/
theorem recordName_captures_clocks :
    clockRenderer.names = assignNames clocks .pascal .pascal ∧ clock ∈ clocks.records ∧
    ∃ own, clockRenderer.names.text? (recordName clock) = some own ∧
      CapturesTime .pascal clockRenderer.options.choices own ∧
      ∀ p ∈ clock.properties, p.type.kind = .timestamp := by
  have hmem : clock ∈ clocks.records := List.mem_cons_self
  obtain ⟨own, hown, hcaptures, hwritten⟩ :=
    recordName_captures clocks (.inl rfl) .pascal (r := clockRenderer) rfl hmem
  obtain rfl : own = "DateTimeOffset" :=
    Option.some.inj (hown.symm.trans (by decide +kernel))
  have hcaptured := (hcaptures.1 ⟨.timestamp, rfl⟩).resolve_right fun h => h.1 rfl
  refine ⟨rfl, hmem, _, hown, hcaptured, fun p hp => ?_⟩
  obtain rfl : p = ⟨"at", { kind := .timestamp }, true, .null⟩ := List.mem_singleton.1 hp
  have hprinted : ∃ t, CSharpType.ofProperty clockRenderer.options.choices
        clockRenderer.recordType ⟨"at", { kind := .timestamp }, true, .null⟩ = .ok t ∧
      t.fragment.serialize clockRenderer.names = .ok "DateTimeOffset?" := ⟨_, rfl, by rfl⟩
  obtain ⟨t, htype, htext⟩ := hprinted
  rcases hwritten _ t _ htype htext (.inr rfl) with ⟨-, hrecord⟩ | ⟨htime, -⟩ | ⟨-, hany⟩
  · cases hrecord
  · exact htime
  · exact absurd rfl hany.1

end CSharp

end SchemaStruct
