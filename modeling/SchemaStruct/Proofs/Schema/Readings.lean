import SchemaStruct.Proofs.Returns
import SchemaStruct.Proofs.Schema.Forms

/-!
# Reading and Performing Schemas

A step of the walk first reads what the schema describes, which may end in a fault, and then
performs it: only here something is collected, and only here the walk goes on inside. Later proofs
take a step apart into these two, and never open what it is made of.

## Main definitions

* `Form.read`: the form of a schema, or the fault that reading it ends in;
* `Convert.perform`: what a step does about a shape.

## Main results

* `Form.toOption_read`: a schema has a form if it can be read;
* `Convert.exists_step_eq`: a step reads the form of the schema, reports something and performs it.
-/

namespace SchemaStruct

/-- What has been collected, with some notices more. -/
def Builder.noted (b : Builder) (notices : List Notice) : Builder :=
  { b with log := b.log ++ notices }

namespace Builder

variable (b : Builder) (notices : List Notice)

@[simp]
theorem graph_noted : (b.noted notices).graph = b.graph := rfl

@[simp]
theorem bound_noted : (b.noted notices).bound = b.bound := rfl

@[simp]
theorem taken_noted : (b.noted notices).taken = b.taken := rfl

@[simp]
theorem noted_nil : b.noted [] = b := by
  simp [noted]

end Builder

/-- Allowing no value twice is allowing it once. -/
@[simp]
theorem TypeRef.withNullableIf_withNullableIf (a b : Bool) (t : TypeRef) :
    (t.withNullableIf a).withNullableIf b = t.withNullableIf (a || b) := by
  cases a <;> cases b <;> rfl

@[simp]
theorem TypeRef.withNullableIf_false (t : TypeRef) : t.withNullableIf false = t := rfl

namespace Form

/-- The form of a node whose type is named. The fault names `hint` as what is described. -/
def readTyped (hint : String) (node : Node) (type : Json) : Except Fault Form := do
  type.requireHashable
  match ofTyped node type with
  | some form => return form
  | none => throw (.schema (.unsupportedType hint type.plain))

/-- The form of a node without parts. -/
def readFlat (hint : String) (node : Node) : Except Fault Form :=
  match node.get? "enum" with
  | some values => do
    let t ← Convert.enumeration values
    return ⟨.scalar t.kind, false⟩
  | none =>
    match Json.orNull (node.get? "type") with
    | .arr types =>
      let named := types.filter (!Convert.isNullType ·)
      let nullable := named.length != types.length
      match named with
      | [type] => withNullableIf nullable <$> readTyped hint node type
      | _ => .ok ⟨.scalar .any, nullable⟩
    | .null => readTyped hint node (if node.hasProperties then .str "object" else .null)
    | type => readTyped hint node type

/-- The form of a schema with a reference. -/
def readReference (ref : Json) : Except Fault Form := do
  ref.requireHashable
  match ref with
  | .str r => return ⟨.reference r, false⟩
  | v => throw (.misfit (.lacks v.kindName "startswith"))

/-- The form of a schema in a document. -/
def read (document : Json) (hint : String) : Json → Except Fault Form
  | .bool true => .ok ⟨.scalar .any, false⟩
  | .obj [] => .ok ⟨.scalar .any, false⟩
  | .obj members =>
    match Json.lookup "$ref" members with
    | some ref => readReference ref
    | none =>
      match (Json.lookup "anyOf" members).or (Json.lookup "oneOf" members) with
      | some listed => ofAlternatives <$> listed.walk
      | none => do readFlat hint (← Node.flatten document members)
  | v => .error (.schema (.invalidNode hint v.shown))

variable {node : Node} {hint : String}

/-- A node whose type is named has a form if it can be read. -/
theorem toOption_readTyped (hint : String) (node : Node) (type : Json) :
    (readTyped hint node type).toOption = ofTyped node type := by
  unfold readTyped
  cases type with
  | arr items => rfl
  | obj members => rfl
  | _ =>
    generalize ofTyped node _ = form
    cases form <;> rfl

/-- What has a form can be read if the type can be looked up. -/
theorem readTyped_eq_ok {type : Json} {form : Form} (hhash : type.isHashable = true)
    (hform : ofTyped node type = some form) : readTyped hint node type = .ok form := by
  simp only [readTyped, Json.requireHashable, hhash, hform]
  rfl

/-- A node without parts has a form if it can be read. -/
theorem toOption_readFlat (hint : String) (node : Node) :
    (readFlat hint node).toOption = ofFlat node := by
  unfold readFlat
  split
  · next values henum =>
    rw [ofFlat_of_enum henum]
    cases Convert.enumeration values <;> rfl
  · next henum =>
    split
    · next types htypes =>
      rw [ofFlat_of_types henum htypes]
      dsimp only
      split
      · next type htype =>
        simp only [ofTypes, htype, ← toOption_readTyped hint]
        cases readTyped hint node type <;> rfl
      · next hmany =>
        rw [ofTypes_of_many hmany]
        rfl
    · next hnull => rw [ofFlat_of_null henum hnull, toOption_readTyped]
    · next htypes hnull => rw [ofFlat_of_type henum htypes hnull, toOption_readTyped]

/-- A schema has a form if it can be read. -/
theorem toOption_read (root : Json) (hint : String) (node : Json) :
    (read root hint node).toOption = of root node := by
  unfold read
  split
  · rfl
  · rfl
  · next members hmembers =>
    split
    · next ref href =>
      cases ref with
      | str r => rw [of_ref hmembers href]; rfl
      | _ =>
        rw [of.eq_3 _ _ hmembers, href]
        rfl
    · next href =>
      split
      · next listed hlisted =>
        rw [of_listed hmembers href hlisted]
        cases listed.walk <;> rfl
      · next hlisted =>
        rw [of_flat hmembers href hlisted]
        cases Node.flatten root members with
        | error f => rfl
        | ok flat => exact toOption_readFlat hint flat
  · next hbool hempty hobj => rw [of.eq_4 _ _ hbool hempty hobj]; rfl

/-- The form that has been read is a proper one. -/
theorem proper_of_read {root schema : Json} {form : Form}
    (h : read root hint schema = .ok form) :
    form.shape.Proper := by
  have hform : of root schema = some form := by
    rw [← toOption_read root hint, h]
    rfl
  exact proper_of hform

end Form

namespace Convert

/-- Reports notices. -/
def tell (notices : List Notice) : Build Unit := modify fun b => b.noted notices

/-- Reporting nothing does nothing. -/
@[simp]
theorem tell_nil : tell [] = pure () := by
  simp only [tell, Builder.noted_nil]
  rfl

/-- What a step does about a shape, where `w` goes on inside. Something may be reported about shapes
with nothing inside. -/
def perform (d : Document) (w : Walk) (site : Site) (notices : List Notice) :
    Shape → Build TypeRef
  | .scalar kind => do
    tell notices
    return { kind }
  | .list none => do
    tell notices
    return .array .any
  | .list (some items) => return .array (← w (site.inner "Element") items)
  | .map none => return .map .any
  | .map (some values) => return .map (← w (site.inner "Value") values)
  | .record node => return .object (← record d w site node)
  | .reference r => reference d.root w site (.str r)
  | .alternative one => w site.anonymous one

/-- Performs a form, if it could be read. -/
def performForm (d : Document) (w : Walk) (site : Site) (notices : List Notice)
    (read : Except Fault Form) : Build TypeRef := do
  let form ← Build.ofExcept read
  return (← perform d w site notices form.shape).withNullableIf form.nullable

variable {d : Document} {w : Walk} {site : Site}

@[simp]
theorem performForm_error {notices : List Notice} {f : Fault} :
    performForm d w site notices (.error f) = throw f := rfl

@[simp]
theorem performForm_ok {notices : List Notice} {form : Form} :
    performForm d w site notices (.ok form) =
      return (← perform d w site notices form.shape).withNullableIf form.nullable := rfl

/-- A name can always be looked up. -/
@[simp]
theorem ofExcept_requireHashable_str (name : String) :
    Build.ofExcept (Json.str name).requireHashable = pure () := rfl

/-- A list is read and performed. Only lists whose items have a schema each are reported. -/
theorem exists_typed_array_eq (d : Document) (site : Site) (node : Node) :
    ∃ notices, ∀ w, typed d w site node (.str "array") =
      performForm d w site notices (Form.readTyped site.hintText node (.str "array")) := by
  by_cases htuple : ∃ items, node.get? "items" = some (.arr items)
  · obtain ⟨items, hitems⟩ := htuple
    refine ⟨[.tupleItems site.hintText], fun w => ?_⟩
    have hform : Form.ofTyped node (.str "array") = some ⟨.list none, false⟩ := by
      simp only [Form.ofTyped, hitems, Form.ofItems]
    rw [Form.readTyped_eq_ok rfl hform, performForm_ok]
    simp only [typed, hitems]
    rfl
  · have hitems : ∀ items, node.get? "items" = some (.arr items) → False :=
      fun items hitems => htuple ⟨items, hitems⟩
    refine ⟨[], fun w => ?_⟩
    have hform : Form.ofTyped node (.str "array") = _ := congrArg some (Form.ofItems.eq_2 _ hitems)
    rw [Form.readTyped_eq_ok rfl hform, performForm_ok]
    simp [typed, perform]

/-- An object is read and performed, as a record if it has properties. -/
theorem typed_object_eq (d : Document) (w : Walk) (site : Site) (node : Node) :
    typed d w site node (.str "object") =
      performForm d w site [] (Form.readTyped site.hintText node (.str "object")) := by
  by_cases hproperties : node.hasProperties
  · have hform : Form.ofTyped node (.str "object") = _ := if_pos hproperties
    rw [Form.readTyped_eq_ok rfl hform, performForm_ok]
    simp [typed, perform, hproperties]
  · simp only [typed, if_neg hproperties]
    split
    · next hvalues =>
      have hform : Form.ofTyped node (.str "object") = some ⟨.map none, false⟩ := by
        simp only [Form.ofTyped, if_neg hproperties, hvalues, Form.ofValues]
      rw [Form.readTyped_eq_ok rfl hform, performForm_ok]
      rfl
    · next hvalues =>
      have hform : Form.ofTyped node (.str "object") = _ :=
        (if_neg hproperties).trans (congrArg some (Form.ofValues.eq_2 _ hvalues))
      rw [Form.readTyped_eq_ok rfl hform, performForm_ok]
      simp [perform]

/-- Any other name is looked up among the primitive types. -/
theorem typed_name_eq (d : Document) (w : Walk) (site : Site) (node : Node) {name : String}
    (hnull : name ≠ "null") (harray : name ≠ "array") (hobject : name ≠ "object") :
    typed d w site node (.str name) =
      performForm d w site [] (Form.readTyped site.hintText node (.str name)) := by
  have hform := Form.ofTyped.eq_5 node name hnull harray hobject
  cases hlookup : primitives.lookup name with
  | none =>
    rw [hlookup] at hform
    simp only [typed, hlookup, Form.readTyped, hform]
    rfl
  | some kind =>
    rw [hlookup] at hform
    cases kind <;>
      rw [Form.readTyped_eq_ok rfl hform, performForm_ok, perform, tell_nil] <;>
      simp only [typed, hlookup] <;> rfl

/-- A node whose type is named is read and performed. -/
theorem exists_typed_eq (d : Document) (site : Site) (node : Node) (type : Json) :
    ∃ notices, ∀ w, typed d w site node type =
      performForm d w site notices (Form.readTyped site.hintText node type) := by
  by_cases harray : type = .str "array"
  · exact harray ▸ exists_typed_array_eq d site node
  refine ⟨[], fun w => ?_⟩
  cases type with
  | null =>
    rw [Form.readTyped_eq_ok rfl rfl, performForm_ok, perform, tell_nil]
    rfl
  | str name =>
    by_cases hnull : name = "null"
    · subst hnull
      rw [Form.readTyped_eq_ok rfl rfl, performForm_ok, perform, tell_nil]
      rfl
    by_cases hobject : name = "object"
    · exact hobject ▸ typed_object_eq d w site node
    exact typed_name_eq d w site node hnull (fun h => harray (congrArg Json.str h)) hobject
  -- what is no name is refused, some of it because it cannot even be looked up
  | _ => rfl

/-- Allowing no value of what is performed is performing the form that allows it. -/
theorem performForm_withNullableIf (notices : List Notice) (read : Except Fault Form)
    (nullable : Bool) :
    (do return (← performForm d w site notices read).withNullableIf nullable) =
      performForm d w site notices (Form.withNullableIf nullable <$> read) := by
  cases read with
  | error f => rfl
  | ok form =>
    show _ = performForm d w site notices (.ok (form.withNullableIf nullable))
    simp [Form.withNullableIf]

/-- A node without parts is read and performed. -/
theorem exists_plainNode_eq (d : Document) (site : Site) (node : Node) :
    ∃ notices, ∀ w, plainNode d w site node =
      performForm d w site notices (Form.readFlat site.hintText node) := by
  unfold plainNode Form.readFlat
  cases henum : node.get? "enum" with
  | some values =>
    refine ⟨[], fun w => ?_⟩
    dsimp only
    cases hvalues : enumeration values with
    | error f => rfl
    | ok t =>
      obtain ⟨kind, rfl, -⟩ := Form.kind_of_enumeration hvalues
      show _ = performForm d w site [] (.ok ⟨.scalar kind, false⟩)
      rw [performForm_ok, perform, tell_nil]
      rfl
  | none =>
    dsimp only
    cases htype : Json.orNull (node.get? "type") with
    | arr types =>
      dsimp only
      -- only a single type besides the one without values is gone into
      rcases types.filter (!isNullType ·) with _ | ⟨type, _ | ⟨other, rest⟩⟩
      · exact ⟨[.unionType (.arr types) site.hintText], fun w => rfl⟩
      · obtain ⟨notices, htyped⟩ := exists_typed_eq d site node type
        refine ⟨notices, fun w => ?_⟩
        simp only [htyped]
        exact performForm_withNullableIf notices _ _
      · exact ⟨[.unionType (.arr types) site.hintText], fun w => rfl⟩
    | _ => exact exists_typed_eq d site node _

/-- Alternatives are read and performed. -/
theorem exists_alternatives_eq (d : Document) (site : Site) (listed : Json) :
    ∃ notices, ∀ w, alternatives w site listed =
      performForm d w site notices (Form.ofAlternatives <$> listed.walk) := by
  unfold alternatives
  cases listed.walk with
  | error f => exact ⟨[], fun w => rfl⟩
  | ok all =>
    show ∃ notices, ∀ w, _ = performForm d w site notices (.ok (Form.ofAlternatives all))
    simp only [Form.ofAlternatives, Build.ofExcept, pure_bind]
    rcases all.filter (!isNullAlternative ·) with _ | ⟨one, _ | ⟨other, rest⟩⟩
    · exact ⟨[.unionOf _ site.hintText], fun w => rfl⟩
    · exact ⟨[], fun w => rfl⟩
    · exact ⟨[.unionOf _ site.hintText], fun w => rfl⟩

/-- A reference is read and performed. -/
theorem reference_eq (ref : Json) :
    reference d.root w site ref = performForm d w site [] (Form.readReference ref) := by
  cases ref with
  | str r =>
    show _ = performForm d w site [] (.ok ⟨.reference r, false⟩)
    simp [perform]
  | _ => rfl

/-- A step reads what stands there, reports something and performs what has been read. -/
theorem exists_step_eq (d : Document) (site : Site) (node : Json) :
    ∃ notices, ∀ w, step d w site node =
      performForm d w site notices (Form.read d.root site.hintText node) := by
  have hany : ∀ w, (pure .any : Build TypeRef) =
      performForm d w site [] (.ok ⟨.scalar .any, false⟩) := by
    intro w
    rw [performForm_ok, perform, tell_nil]
    rfl
  unfold Form.read
  split
  · exact ⟨[], hany⟩
  · exact ⟨[], hany⟩
  · next members hmembers =>
    simp only [step.eq_3 _ _ _ _ hmembers]
    cases Json.lookup "$ref" members with
    | some ref => exact ⟨[], fun w => reference_eq ref⟩
    | none =>
      dsimp only
      cases (Json.lookup "anyOf" members).or (Json.lookup "oneOf" members) with
      | some listed => exact exists_alternatives_eq d site listed
      | none =>
        dsimp only
        cases Node.flatten d.root members with
        | error f => exact ⟨[], fun w => rfl⟩
        | ok flat => exact exists_plainNode_eq d site flat
  · next hbool hempty hobj => exact ⟨[], fun w => step.eq_4 _ _ _ _ hbool hempty hobj⟩

end Convert

end SchemaStruct
