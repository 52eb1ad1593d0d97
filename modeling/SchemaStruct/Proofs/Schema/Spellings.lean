import SchemaStruct.Proofs.Schema.FlatMerge
import SchemaStruct.Proofs.Schema.Outcomes

/-!
# Spellings of Schemas That Allow No Value

A schema with a type says in one of two ways that there may be no value: the type becomes a list of
types with `null` in it, or the schema becomes one of two alternatives, next to the type without
values. The list of types is read from the flat form of the schema, the alternatives are read before
anything in the schema is. Still the walk does the same in all spellings, and what the schema comes
to, with no value allowed too, is what every spelling of it comes to.

A schema of the type `null` is the exception. Then no alternative is left to look into, while the
list of types is still read from the flat form. So a schema of this type with parts that cannot be
gathered is at fault if it is spelled with a list, and describes anything if it is an alternative.

## Main definitions

* `NamesType`: a schema with a type, and with no keyword that is looked at before;
* `Spelling.write`: the spellings of a schema that allows no value.

## Main results

* `Node.exists_flatten_setMember`: another type makes no other difference to a flat form;
* `Convert.typed_withType`: a node whose type is named is described without looking at its type;
* `Convert.spellings_agree`: what the spellings of a schema come to;
* `Convert.not_spellings_agree_adrift`: spellings that come to nothing in common.
-/

namespace SchemaStruct

open Document

namespace Json

variable {name other : String} {v : Json} {members : List (String × Json)}

/-- A member that is set is found. -/
@[simp]
theorem lookup_setMember_self : lookup name (setMember name v members) = some v := by
  induction members with
  | nil => simp [setMember, lookup]
  | cons m members ih =>
    obtain ⟨k, u⟩ := m
    by_cases hk : k = name <;> simp [setMember, lookup, hk, ih]

/-- The other members are found as before. -/
theorem lookup_setMember_of_ne (h : other ≠ name) :
    lookup other (setMember name v members) = lookup other members := by
  induction members with
  | nil => simp [setMember, lookup, h.symm]
  | cons m members ih =>
    obtain ⟨k, u⟩ := m
    by_cases hk : k = name
    · simp [setMember, lookup, hk, h.symm]
    · simp [setMember, lookup, hk, ih]

/-- Setting a member to what it is changes nothing. -/
theorem setMember_of_lookup (h : lookup name members = some v) :
    setMember name v members = members := by
  induction members with
  | nil => cases h
  | cons m members ih =>
    obtain ⟨k, u⟩ := m
    rw [lookup] at h
    rw [setMember]
    split_ifs at h ⊢ with hk
    · rw [Option.some.inj h]
    · rw [ih h]

/-- A member may be set before or after other members are left out. -/
theorem filter_setMember {p : String → Bool} (h : p name = true) :
    (setMember name v members).filter (fun m => p m.1) =
      setMember name v (members.filter fun m => p m.1) := by
  induction members with
  | nil => simp [setMember, h]
  | cons m members ih =>
    obtain ⟨k, u⟩ := m
    by_cases hk : k = name
    · subst hk
      simp [setMember, h]
    · by_cases hp : p k <;> simp [setMember, hk, hp, ih]

end Json

namespace Node

/-- The node with another type. -/
def withType (n : Node) (v : Json) : Node :=
  { n with keywords := Json.setMember "type" v n.keywords }

section

variable (n : Node) (v : Json)

@[simp]
theorem get?_type_withType : (n.withType v).get? "type" = some v :=
  Json.lookup_setMember_self

/-- The other keywords are as before. -/
@[simp]
theorem get?_withType {keyword : String} (h : keyword ≠ "type") :
    (n.withType v).get? keyword = n.get? keyword :=
  Json.lookup_setMember_of_ne h

@[simp]
theorem hasProperties_withType : (n.withType v).hasProperties = n.hasProperties := by
  rw [hasProperties, hasProperties, get?_withType n v (by decide)]
  rfl

@[simp]
theorem contributed_withType : (n.withType v).contributed = n.contributed := by
  rw [contributed, contributed, get?_withType n v (by decide)]
  rfl

@[simp]
theorem listed_withType : (n.withType v).listed = n.listed := by
  rw [listed, listed, get?_withType n v (by decide)]
  rfl

@[simp]
theorem required_withType : (n.withType v).required = n.required := by
  rw [required, required, get?_withType n v (by decide)]
  rfl

@[simp]
theorem requiredNames_withType : (n.withType v).requiredNames = n.requiredNames := by
  rw [requiredNames, requiredNames, required_withType]

/-- Nor does a node contribute anything else with another type. -/
@[simp]
theorem addNode_withType (g : Gathered) : g.addNode (n.withType v) = g.addNode n := by
  rw [Gathered.addNode, Gathered.addNode, contributed_withType, required_withType]

end

section

variable (document : Json) (flat : List (String × Json) → Except Fault Node) (g : Gathered)

/-- What a part adds to what has been gathered does not depend on the keywords, if there is a type
among them: no other type is adopted then. -/
theorem exists_addPart_eq (part : Json) : ∃ r : Except Fault Gathered,
    ∀ keywords, (Json.lookup "type" keywords).isSome = true →
      addPart document flat (keywords, g) part = (fun gathered => (keywords, gathered)) <$> r := by
  cases part with
  | obj own =>
    refine ⟨do
      let target ← partTarget document own
      let node ← flat (target.members?.getD [])
      g.addNode node, fun keywords htype => ?_⟩
    have hadopt : ∀ node, adoptType keywords node = keywords := by
      intro node
      obtain ⟨t, ht⟩ := Option.isSome_iff_exists.mp htype
      rw [adoptType, ht]
    rw [addPart_obj]
    simp only [hadopt, map_eq_pure_bind, bind_assoc]
  | _ => exact ⟨.ok g, fun keywords _ => rfl⟩

/-- Nor does what all parts add. -/
theorem exists_foldlM_addPart_eq (parts : List Json) : ∃ r : Except Fault Gathered,
    ∀ keywords, (Json.lookup "type" keywords).isSome = true →
      parts.foldlM (addPart document flat) (keywords, g) =
        (fun gathered => (keywords, gathered)) <$> r := by
  induction parts generalizing g with
  | nil => exact ⟨.ok g, fun keywords _ => rfl⟩
  | cons part parts ih =>
    obtain ⟨first, hfirst⟩ := exists_addPart_eq document flat g part
    cases first with
    | error f =>
      refine ⟨.error f, fun keywords htype => ?_⟩
      rw [List.foldlM_cons, hfirst keywords htype]
      rfl
    | ok gathered =>
      obtain ⟨r, hr⟩ := ih gathered
      refine ⟨r, fun keywords htype => ?_⟩
      rw [List.foldlM_cons, hfirst keywords htype]
      exact hr keywords htype

/-- Another type makes no other difference to the flat form of a schema. -/
theorem exists_flatten_setMember (members : List (String × Json)) :
    ∃ r : Except Fault (Option Gathered), ∀ v,
      flatten document (Json.setMember "type" v members) =
        (fun gathered => withType ⟨members.filter (·.1 != "allOf"), gathered⟩ v) <$> r := by
  have hkept : ∀ v, (Json.setMember "type" v members).filter (·.1 != "allOf") =
      Json.setMember "type" v (members.filter (·.1 != "allOf")) :=
    fun v => Json.filter_setMember (p := (· != "allOf")) (by decide)
  have hparts : ∀ v, Json.lookup "allOf" (Json.setMember "type" v members) =
      Json.lookup "allOf" members := fun v => Json.lookup_setMember_of_ne (by decide)
  cases hallOf : Json.lookup "allOf" members with
  | none =>
    -- without parts, no keyword is left out
    have hall : members.filter (·.1 != "allOf") = members := by
      have hnot : "allOf" ∉ members.map (·.1) :=
        fun hmem => by simpa [hallOf] using Json.isSome_lookup_iff.mpr hmem
      exact List.filter_eq_self.mpr fun m hm =>
        bne_iff_ne.mpr fun heq => hnot (heq ▸ List.mem_map_of_mem hm)
    refine ⟨.ok none, fun v => ?_⟩
    rw [flatten, flattenWith, hparts, hallOf, hall]
    rfl
  | some listed =>
    cases hwalk : listed.walk with
    | error f =>
      refine ⟨.error f, fun v => ?_⟩
      simp only [flatten, flattenWith, hparts, hallOf, hwalk]
      rfl
    | ok parts =>
      obtain ⟨r, hr⟩ := exists_foldlM_addPart_eq document
        (flattenWith document (document.size + 1)) Gathered.empty parts
      refine ⟨do
        let gathered ← r
        return some (← gathered.addNode { keywords := members }), fun v => ?_⟩
      have hown : ∀ gathered : Gathered,
          gathered.addNode { keywords := Json.setMember "type" v members } =
            gathered.addNode { keywords := members } :=
        addNode_withType { keywords := members } v
      -- there is a type to begin with, so the parts contribute the same for each of them
      have hfold := hr (Json.setMember "type" v (members.filter (·.1 != "allOf"))) (by simp)
      rw [flatten, flattenWith, hparts, hallOf]
      dsimp only
      rw [hwalk, hkept]
      show (parts.foldlM (addPart document (flattenWith document (document.size + 1)))
        (Json.setMember "type" v (members.filter (·.1 != "allOf")), Gathered.empty) >>= _) = _
      rw [hfold]
      cases r with
      | error f => rfl
      | ok gathered =>
        show (gathered.addNode _ >>= _) = _ <$> (gathered.addNode _ >>= _)
        rw [hown]
        cases gathered.addNode { keywords := members } <;> rfl

end

end Node

/-- A schema with a type, and without the keywords that go before types. -/
structure NamesType (members : List (String × Json)) (t : String) : Prop where
  /-- The type. -/
  type : Json.lookup "type" members = some (.str t)
  /-- It is no reference. -/
  reference : Json.lookup "$ref" members = none
  /-- It has no alternatives. -/
  anyOf : Json.lookup "anyOf" members = none
  /-- Nor has it any by the other name. -/
  oneOf : Json.lookup "oneOf" members = none
  /-- It has no list of allowed values. -/
  enum : Json.lookup "enum" members = none

/-- The spellings of a schema that allows no value. -/
inductive Spelling
  /-- The type of the schema stands in a list, in front of `null`. -/
  | typeAndNull
  /-- The type of the schema stands in a list, behind `null`. -/
  | nullAndType
  /-- The schema is the first of two alternatives. -/
  | anyOf
  /-- The schema is the last of two alternatives. -/
  | oneOf

namespace Spelling

/-- The schema without values. -/
def nullSchema : Json := .obj [("type", .str "null")]

/-- A schema of the type `t` with no value allowed too. -/
def write (members : List (String × Json)) (t : String) : Spelling → List (String × Json)
  | typeAndNull => Json.setMember "type" (.arr [.str t, .str "null"]) members
  | nullAndType => Json.setMember "type" (.arr [.str "null", .str t]) members
  | anyOf => [("anyOf", .arr [.obj members, nullSchema])]
  | oneOf => [("oneOf", .arr [nullSchema, .obj members])]

/-- Whether the type of the schema stands in a list. -/
def isList : Spelling → Bool
  | typeAndNull => true
  | nullAndType => true
  | anyOf => false
  | oneOf => false

variable {s : Spelling} {members : List (String × Json)} {t : String}

/-- In a list of types, the type is the only one besides `null`, unless it is `null` too. -/
theorem exists_write_of_isList (hs : s.isList = true) (members : List (String × Json))
    (t : String) : ∃ types, s.write members t = Json.setMember "type" (.arr types) members ∧
      types.length = 2 ∧
      types.filter (!Convert.isNullType ·) = if t = "null" then [] else [.str t] := by
  have hnull : Convert.isNullType (.str "null") = true := by decide
  have htype : Convert.isNullType (.str t) = decide (t = "null") := rfl
  cases s with
  | typeAndNull => exact ⟨_, rfl, rfl, by by_cases ht : t = "null" <;> simp [htype, hnull, ht]⟩
  | nullAndType => exact ⟨_, rfl, rfl, by by_cases ht : t = "null" <;> simp [htype, hnull, ht]⟩
  | anyOf | oneOf => cases hs

/-- Of two alternatives, the schema is the only one besides that without values, unless it has none
either. -/
theorem exists_write_of_not_isList (hs : s.isList = false) (h : NamesType members t) :
    ∃ keyword listed, (keyword = "anyOf" ∨ keyword = "oneOf") ∧
      s.write members t = [(keyword, .arr listed)] ∧ listed.length = 2 ∧
      listed.filter (!Convert.isNullAlternative ·) = if t = "null" then [] else [.obj members] := by
  have hnull : Convert.isNullAlternative nullSchema = true := by decide
  have htype : Convert.isNullAlternative (.obj members) = decide (t = "null") := by
    rw [Convert.isNullAlternative, Json.get?, h.type]
    rfl
  cases s with
  | typeAndNull | nullAndType => cases hs
  | anyOf =>
    refine ⟨"anyOf", _, .inl rfl, rfl, rfl, ?_⟩
    by_cases ht : t = "null" <;> simp [htype, hnull, ht]
  | oneOf =>
    refine ⟨"oneOf", _, .inr rfl, rfl, rfl, ?_⟩
    by_cases ht : t = "null" <;> simp [htype, hnull, ht]

end Spelling

namespace Convert

variable {d : Document} {w : Walk} {site : Site} {members : List (String × Json)} {t : String}
  {b : Builder}

/-- A node whose type is named is described without looking at its type. -/
theorem typed_withType (node : Node) (v type : Json) :
    typed d w site (node.withType v) type = typed d w site node type := by
  simp [typed, record, recordKey]

section

variable {node : Node} (henum : node.get? "enum" = none)

include henum

/-- A type that is a text is the one that is described. -/
theorem plainNode_of_str :
    plainNode d w site (node.withType (.str t)) = typed d w site node (.str t) := by
  simp [plainNode, henum, Json.orNull, typed_withType]

/-- Of a list of types, the only one besides `null` is described. -/
theorem plainNode_of_types {types : List Json} {type : Json}
    (hnamed : types.filter (!isNullType ·) = [type]) :
    plainNode d w site (node.withType (.arr types)) = (do
      return (← typed d w site node type).withNullableIf (1 != types.length)) := by
  simp [plainNode, henum, Json.orNull, hnamed, typed_withType]

/-- Where there is none besides `null`, anything is described. -/
theorem plainNode_of_nulls {types : List Json} (hnamed : types.filter (!isNullType ·) = []) :
    plainNode d w site (node.withType (.arr types)) = (do
      Build.note (.unionType (.arr types) site.hintText)
      return TypeRef.any.withNullableIf (0 != types.length)) := by
  simp [plainNode, henum, Json.orNull, hnamed]

end

/-- A schema is described by its flat form, whatever type it is given. -/
theorem step_setMember (h : NamesType members t) {r : Except Fault (Option Gathered)} {v : Json}
    (hflat : Node.flatten d.root (Json.setMember "type" v members) =
      (fun gathered => Node.withType ⟨members.filter (·.1 != "allOf"), gathered⟩ v) <$> r) :
    step d w site (.obj (Json.setMember "type" v members)) = (do
      let gathered ← Build.ofExcept r
      plainNode d w site (Node.withType ⟨members.filter (·.1 != "allOf"), gathered⟩ v)) := by
  have hnil : Json.setMember "type" v members = [] → False := by
    intro hnil
    have htype : Json.lookup "type" (Json.setMember "type" v members) = some v :=
      Json.lookup_setMember_self
    rw [hnil] at htype
    cases htype
  have hkept : ∀ keyword, keyword ≠ "type" →
      Json.lookup keyword (Json.setMember "type" v members) = Json.lookup keyword members :=
    fun keyword => Json.lookup_setMember_of_ne
  rw [step.eq_3 _ _ _ _ hnil, hkept "$ref" (by decide), hkept "anyOf" (by decide),
    hkept "oneOf" (by decide), h.reference, h.anyOf, h.oneOf]
  dsimp only [Option.or]
  rw [hflat]
  cases r <;> rfl

/-- The flat form of a schema with a type has no list of allowed values if the schema has none. -/
theorem get?_enum_of_namesType (h : NamesType members t) (gathered : Option Gathered) :
    Node.get? ⟨members.filter (·.1 != "allOf"), gathered⟩ "enum" = none := by
  rw [Node.get?, Node.lookup_filter_allOf, if_neg (by decide), h.enum]

/-- A schema with a list of types is described as one with the only type besides `null`. -/
theorem step_types (h : NamesType members t) {types : List Json}
    (hnamed : types.filter (!isNullType ·) = [.str t]) :
    step d w site (.obj (Json.setMember "type" (.arr types) members)) = (do
      return (← step d w site (.obj members)).withNullableIf (1 != types.length)) := by
  obtain ⟨r, hflat⟩ := Node.exists_flatten_setMember d.root members
  have hown : step d w site (.obj members) = _ :=
    (congrArg (fun own => step d w site (.obj own)) (Json.setMember_of_lookup h.type).symm).trans
      (step_setMember h (hflat (.str t)))
  rw [step_setMember h (hflat _), hown, bind_assoc]
  -- the two are the same up to the flat form, and differ in its type only
  refine congrArg (Build.ofExcept r >>= ·) (funext fun gathered => ?_)
  have henum := get?_enum_of_namesType h gathered
  rw [plainNode_of_types henum hnamed, plainNode_of_str henum]

/-- A single alternative besides those without values is gone into. -/
theorem step_alternatives {keyword : String} (hkeyword : keyword = "anyOf" ∨ keyword = "oneOf")
    {listed : List Json} (hothers : listed.filter (!isNullAlternative ·) = [.obj members]) :
    step d w site (.obj [(keyword, .arr listed)]) = (do
      return (← w site.anonymous (.obj members)).withNullableIf (1 != listed.length)) := by
  have hwalk : Json.walk (.arr listed) = .ok listed := rfl
  rcases hkeyword with rfl | rfl <;>
    simp [step, Json.lookup, alternatives, hwalk, hothers, Build.ofExcept]

/-- Where there is none besides those without values, nothing is gone into. -/
theorem step_nullAlternatives {keyword : String} (hkeyword : keyword = "anyOf" ∨ keyword = "oneOf")
    {listed : List Json} (hothers : listed.filter (!isNullAlternative ·) = []) :
    step d w site (.obj [(keyword, .arr listed)]) = (do
      Build.note (.unionOf 0 site.hintText)
      return TypeRef.any.withNullableIf (0 != listed.length)) := by
  have hwalk : Json.walk (.arr listed) = .ok listed := rfl
  rcases hkeyword with rfl | rfl <;>
    simp [step, Json.lookup, alternatives, hwalk, hothers, Build.ofExcept]

/-- A schema of the type `null` describes anything, once it is flat, and no value is allowed. -/
theorem outcome_of_null (h : NamesType members "null") :
    (step d w site (.obj members)).outcome b =
      (Node.flatten d.root members).map fun _ => (TypeRef.any.withNullable, b.silent) := by
  obtain ⟨r, hflat⟩ := Node.exists_flatten_setMember d.root members
  have hown := hflat (.str "null")
  have hstep : step d w site (.obj (Json.setMember "type" (.str "null") members)) = _ :=
    step_setMember h hown
  rw [Json.setMember_of_lookup h.type] at hown hstep
  rw [hstep, hown]
  cases r with
  | error f => rfl
  | ok gathered =>
    refine Build.outcome_of_returns ?_
    rw [Build.ofExcept, pure_bind, plainNode_of_str (get?_enum_of_namesType h gathered)]
    rfl

/-- A list with the type `null` only says the same. -/
theorem outcome_of_nulls (h : NamesType members "null") {types : List Json}
    (hnamed : types.filter (!isNullType ·) = []) (hlength : types.length ≠ 0) :
    (step d w site (.obj (Json.setMember "type" (.arr types) members))).outcome b =
      (Node.flatten d.root members).map fun _ => (TypeRef.any.withNullable, b.silent) := by
  obtain ⟨r, hflat⟩ := Node.exists_flatten_setMember d.root members
  have hown := hflat (.str "null")
  rw [Json.setMember_of_lookup h.type] at hown
  rw [step_setMember h (hflat _), hown]
  cases r with
  | error f => rfl
  | ok gathered =>
    rw [Build.ofExcept, pure_bind, plainNode_of_nulls (get?_enum_of_namesType h gathered) hnamed]
    have hnullable : (0 != types.length) = true := by simpa using hlength.symm
    rw [hnullable]
    rfl

variable {o : Build.Outcome}

/-- What a schema comes to, with no value allowed too, is what all its spellings come to, unless its
type is `null`. -/
theorem comesTo_write (hsite : site.reference = none) (h : NamesType members t) (ht : t ≠ "null")
    (ho : ComesTo d ⟨site, .obj members, b⟩ o) (s : Spelling) :
    ComesTo d ⟨site, .obj (s.write members t), b⟩ o.nullable := by
  obtain ⟨depth, hdepth⟩ := ho
  refine ⟨depth + 1, fun n hn => ?_⟩
  obtain ⟨n, rfl⟩ : ∃ k, n = k + 1 := ⟨n - 1, by omega⟩
  cases hs : s.isList with
  | true =>
    -- the list is read where the type would be
    obtain ⟨types, hwrite, hlength, hnamed⟩ := Spelling.exists_write_of_isList hs members t
    rw [if_neg ht] at hnamed
    show (step d (walk d n) site (.obj (s.write members t))).outcome b = _
    rw [hwrite, step_types h hnamed, hlength]
    refine (Build.outcome_withNullable _ b).trans (congrArg Build.Outcome.nullable ?_)
    exact hdepth (n + 1) (by omega)
  | false =>
    -- the schema is one level deeper
    obtain ⟨keyword, listed, hkeyword, hwrite, hlength, hothers⟩ :=
      Spelling.exists_write_of_not_isList hs h
    rw [if_neg ht] at hothers
    have hanonymous : site.anonymous = site := by
      rw [Site.anonymous, ← hsite]
    show (step d (walk d n) site (.obj (s.write members t))).outcome b = _
    rw [hwrite, step_alternatives hkeyword hothers, hlength, hanonymous]
    refine (Build.outcome_withNullable _ b).trans (congrArg Build.Outcome.nullable ?_)
    exact hdepth n (by omega)

/-- What the spellings of a schema of the type `null` come to: the schema is flattened in a list of
types only. -/
theorem comesTo_of_null (h : NamesType members "null") (s : Spelling) :
    ComesTo d ⟨site, .obj (s.write members "null"), b⟩ (if s.isList then
      (Node.flatten d.root members).map fun _ => (TypeRef.any.withNullable, b.silent)
      else .ok (TypeRef.any.withNullable, b.silent)) := by
  refine comesTo_of_step fun n => ?_
  show (step d (walk d n) site (.obj (s.write members "null"))).outcome b = _
  cases hs : s.isList with
  | true =>
    obtain ⟨types, hwrite, hlength, hnamed⟩ := Spelling.exists_write_of_isList hs members "null"
    rw [if_pos rfl] at hnamed
    rw [hwrite, outcome_of_nulls h hnamed (by omega), if_pos rfl]
  | false =>
    obtain ⟨keyword, listed, hkeyword, hwrite, hlength, hothers⟩ :=
      Spelling.exists_write_of_not_isList hs h
    rw [if_pos rfl] at hothers
    rw [hwrite, step_nullAlternatives hkeyword hothers, hlength]
    rfl

/-- A schema with a type comes to some outcome, and all its spellings come to the same with no value
allowed too: the same fault, or the same type and the same records, keys and bindings. Only a schema
of the type `null` has to have a flat form for that. If it has none, a list of types is at fault,
and the alternatives describe anything. -/
theorem spellings_agree (d : Document) (b : Builder) (hsite : site.reference = none)
    (h : NamesType members t) :
    ((t = "null" → ∃ flat, Node.flatten d.root members = .ok flat) →
      ∃ o, ComesTo d ⟨site, .obj members, b⟩ o ∧
        ∀ s : Spelling, ComesTo d ⟨site, .obj (s.write members t), b⟩ o.nullable) ∧
    ∀ f, t = "null" → Node.flatten d.root members = .error f →
      ∀ s : Spelling, ComesTo d ⟨site, .obj (s.write members t), b⟩
        (if s.isList then .error f else .ok (TypeRef.any.withNullable, b.silent)) := by
  refine ⟨fun hflat => ?_, ?_⟩
  · by_cases ht : t = "null"
    · subst ht
      obtain ⟨flat, hflat⟩ := hflat rfl
      refine ⟨.ok (TypeRef.any.withNullable, b.silent), comesTo_of_step fun n => ?_, fun s => ?_⟩
      · exact (outcome_of_null h).trans (by rw [hflat]; rfl)
      · have hcomes : ComesTo d ⟨site, .obj (s.write members "null"), b⟩ _ := comesTo_of_null h s
        rw [hflat] at hcomes
        cases hs : s.isList <;> rwa [hs] at hcomes
    · obtain ⟨o, ho⟩ := exists_comesTo d ⟨site, .obj members, b⟩
      exact ⟨o, ho, comesTo_write hsite h ht ho⟩
  · rintro f rfl hflat s
    have hcomes : ComesTo d ⟨site, .obj (s.write members "null"), b⟩ _ := comesTo_of_null h s
    rwa [hflat] at hcomes

/-- A document in which ships refer to ships. -/
def fleet : Document where
  root := .obj [("definitions", .obj [("ship", .obj
    [("type", .str "object"), ("properties", .obj
      [("escort", .obj [("type", .str "array"), ("items", refNode "#/definitions/ship")])])])])]

/-- A record with a part, and with a property that refers to a ship. -/
def crew : List (String × Json) :=
  [("title", .str "Crew"), ("type", .str "object"),
    ("allOf", .arr [.obj [("properties", .obj [("size", .obj [("type", .str "integer")])])]]),
    ("properties", .obj [("ship", refNode "#/definitions/ship")])]

/-- A schema of the type `null` with a part that leads nowhere. -/
def adrift : List (String × Json) :=
  [("type", .str "null"), ("allOf", .arr [refNode "#/nope"])]

/-- The theorem at a record, of which all spellings give that record and collect the records in it,
and at a schema without a flat form. -/
theorem spellings_agree_crew :
    NamesType crew "object" ∧ ∃ after : Builder, after.graph.keys = ["Crew", "Ship"] ∧
      ComesTo fleet ⟨{ hint := .str "Root" }, .obj crew, {}⟩ (.ok (.object "Crew", after)) ∧
      (∀ s : Spelling, ComesTo fleet ⟨{ hint := .str "Root" }, .obj (s.write crew "object"), {}⟩
        (.ok ((TypeRef.object "Crew").withNullable, after))) ∧
      ComesTo fleet ⟨{ hint := .str "Root" }, .obj (Spelling.typeAndNull.write adrift "null"), {}⟩
        (.error (.schema (.unresolvedReference "#/nope"))) ∧
      ComesTo fleet ⟨{ hint := .str "Root" }, .obj (Spelling.anyOf.write adrift "null"), {}⟩
        (.ok (TypeRef.any.withNullable, {})) := by
  have hsite : ({ hint := .str "Root" } : Site).reference = none := rfl
  have hnames : NamesType crew "object" := ⟨rfl, rfl, rfl, rfl, rfl⟩
  have hshown :
      ((Call.outcome ⟨{ hint := .str "Root" }, .obj crew, {}⟩ (walk fleet 5)).toOption.map
        fun result => (result.1, result.2.graph.keys)) =
      some (.object "Crew", ["Crew", "Ship"]) := rfl
  obtain ⟨⟨t, after⟩, houtcome, hafter⟩ := Option.map_eq_some_iff.mp hshown
  obtain ⟨rfl, hkeys⟩ := Prod.mk.inj hafter
  have hcomes : ComesTo fleet ⟨{ hint := .str "Root" }, .obj crew, {}⟩
      (.ok (.object "Crew", after)) := comesTo_of_outcome (ok_of_toOption houtcome) (by simp)
  obtain ⟨o, ho, hspellings⟩ := (spellings_agree fleet {} hsite hnames).1 (by simp)
  obtain rfl := ho.unique hcomes
  have hflat : Node.flatten fleet.root adrift =
      .error (.schema (.unresolvedReference "#/nope")) := rfl
  have hadrift := (spellings_agree fleet {} hsite ⟨rfl, rfl, rfl, rfl, rfl⟩).2 _ rfl hflat
  exact ⟨hnames, after, hkeys, hcomes, hspellings, hadrift .typeAndNull, hadrift .anyOf⟩

/-- The spellings of a schema without a flat form come to nothing in common: a list of types is at
fault, alternatives are not. -/
theorem not_spellings_agree_adrift :
    NamesType adrift "null" ∧
      ¬ ∃ o, ∀ s : Spelling,
        ComesTo fleet ⟨{ hint := .str "Root" }, .obj (s.write adrift "null"), {}⟩ o := by
  have hnames : NamesType adrift "null" := ⟨rfl, rfl, rfl, rfl, rfl⟩
  refine ⟨hnames, ?_⟩
  rintro ⟨o, ho⟩
  have hflat : Node.flatten fleet.root adrift =
      .error (.schema (.unresolvedReference "#/nope")) := rfl
  have hlist := (ho .typeAndNull).unique (comesTo_of_null hnames .typeAndNull)
  have halternative := (ho .anyOf).unique (comesTo_of_null hnames .anyOf)
  rw [hflat] at hlist
  cases hlist.symm.trans halternative

end Convert

end SchemaStruct
