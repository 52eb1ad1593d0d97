import SchemaStruct.Proofs.Schema.References

/-!
# The Name of a Document's Own Record

The key made of the requested name is bound to the whole document before anything is walked, so that
nothing else takes it. The document's own record has this key if the schema at the top describes the
record itself. If the schema refers to the record, or has it as its single alternative, then nothing
leads from the record back to the bound key: it is named like any other record, after the titles and
references on the way to it, and since the requested name is in use it gets another one in any case.

## Main definitions

* `Document.DescribesItself`: the schema at the top describes the values of a record;
* `NamedAfter`: what the record is named after that a schema leads to.

## Main results

* `Convert.record_of_namedAfter`: the key of the record that a walk from the top leads to;
* `Document.topLevel_eq_iff`: whether the document's own record has the requested name, and which
  one it has otherwise.
-/

namespace SchemaStruct

/-- The schema at the top of the document describes the values of a record. -/
def Document.DescribesItself (root : Json) : Prop :=
  ∃ flat nullable, Form.of root root = some ⟨.record flat, nullable⟩

open Document

/-- What the record is named after that a schema leads to, through references and single
alternatives, where a name is suggested at the schema. -/
inductive NamedAfter (root : Json) : Json → Json → Json → Prop
  | record {hint node : Json} {flat : Node} {nullable : Bool}
      (hform : Form.of root node = some ⟨.record flat, nullable⟩) :
      NamedAfter root hint node (nameSource (flat.get? "title") hint)
  | reference {hint node target name : Json} {r : String} {nullable : Bool}
      (hform : Form.of root node = some ⟨.reference r, nullable⟩)
      (hresolve : Pointer.resolve root r = .ok target)
      (h : NamedAfter root (nameSource (target.get? "title") (.str (Pointer.lastStep r))) target
        name) :
      NamedAfter root hint node name
  | alternative {hint node one name : Json} {nullable : Bool}
      (hform : Form.of root node = some ⟨.alternative one, nullable⟩)
      (h : NamedAfter root hint one name) : NamedAfter root hint node name

/-- No reference stands for a record at the beginning. -/
theorem Builder.record?_opening (own r : String) : (Builder.opening own).record? r = none := by
  simp [Builder.opening, Builder.record?, TypeGraph.contains, TypeGraph.empty]

namespace Convert

variable {d : Document} {site : Site} {b b' : Builder} {t : TypeRef}

/-- The key of the record that a schema leads to, if the schema at the top does not describe it and
only the requested name is in use. -/
theorem record_of_namedAfter {own : String} {n : Nat} {node : Json}
    (h : Returns (walk d n site node) (.opening own) t b') (hkind : t.kind = .object)
    (hsite : site.reference = some "#" → node = d.root) (hroot : ¬ DescribesItself d.root) :
    ∃ name base, NamedAfter d.root site.hint node name ∧ TypeName.ofValue name = .ok base ∧
      t.record = some (TypeName.unique [own] base) := by
  induction n generalizing site node t with
  | zero => exact absurd h (not_returns_throw _)
  | succ n ih =>
    obtain ⟨⟨shape, nullable⟩, u, hform, hgives, rfl⟩ := returns_step h
    rw [TypeRef.kind_withNullableIf] at hkind
    rw [TypeRef.record_withNullableIf]
    cases hgives with
    | scalar notices hscalar => exact absurd hkind hscalar.1
    | listOfAny notices => cases hkind
    | list h => cases hkind
    | mapOfAny => cases hkind
    | map h => cases hkind
    | @record flat key _ hrecord =>
      obtain ⟨b₁, _, _, _, _, hopen, -, -, -, -⟩ := returns_record hrecord
      simp only [openRecord, returns_bind_iff, returns_pure_iff] at hopen
      obtain ⟨_, b₂, hkey, _, _, -, rfl, -⟩ := hopen
      -- a reference to the top would lead to the schema there
      have hunbound : ∀ r, site.reference = some r →
          (Builder.opening own).bound.lookup r = none := by
        intro r hr
        refine Option.eq_none_iff_forall_ne_some.mpr fun key hbound => ?_
        obtain ⟨rfl, -⟩ := Builder.lookup_opening_iff.mp hbound
        exact hroot ⟨flat, nullable, hsite hr ▸ hform⟩
      obtain ⟨base, hbase, rfl⟩ := key_of_unbound hkey hunbound
      exact ⟨_, base, .record hform, hbase, rfl⟩
    | known hknown =>
      rw [Builder.record?_opening] at hknown
      cases hknown
    | cut _ _ => cases hkind
    | @target r target _ _ _ _ hresolve hwalk =>
      have hsite' : (site.target r target).reference = some "#" → target = d.root := by
        intro hr
        obtain rfl := Option.some.inj hr
        exact (Except.ok.inj hresolve).symm
      obtain ⟨name, base, hnamed, hbase, hrecord⟩ := ih hwalk hkind hsite'
      exact ⟨name, base, .reference hform hresolve hnamed, hbase, hrecord⟩
    | alternative hwalk =>
      obtain ⟨name, base, hnamed, hbase, hrecord⟩ := ih hwalk hkind (by simp [Site.anonymous])
      exact ⟨name, base, .alternative hform hnamed, hbase, hrecord⟩

/-- The record that the schema at the top describes has the requested name. -/
theorem record_of_describesItself {own : String} {topLevel : Json} {n : Nat}
    (h : Returns (walk d n (.opening topLevel) d.root) (.opening own) t b')
    (hroot : DescribesItself d.root) : t.record = some own := by
  obtain ⟨flat, nullable, hform⟩ := hroot
  obtain ⟨m, rfl, form, u, hform', hgives, rfl⟩ := returns_walk h
  obtain rfl := Option.some.inj (hform.symm.trans hform')
  rw [TypeRef.record_withNullableIf]
  cases hgives with
  | record hrecord =>
    obtain ⟨b₁, _, _, _, _, hopen, -, -, -, -⟩ := returns_record hrecord
    obtain ⟨r, hr, hlookup, -, -⟩ | ⟨hnone, -, -, -⟩ := (returns_openRecord hopen).key
    · obtain rfl := Option.some.inj hr
      have hown : some own = some _ := hlookup
      exact hown.symm
    · cases hnone "#" rfl

end Convert

namespace Document

/-- The document's own record has the requested name if and only if the schema at the top describes
the record itself. Otherwise it is named after what the schema leads to, and differs from the
requested name in any case. -/
theorem topLevel_eq_iff {d : Document} {topLevel : Json} {g : TypeGraph}
    (hg : (d.toGraph topLevel).1 = .ok g) :
    ∃ own, TypeName.ofValue topLevel = .ok own ∧
      (g.topLevel = some own ↔ DescribesItself d.root) ∧
      (¬ DescribesItself d.root → ∃ name base, NamedAfter d.root topLevel d.root name ∧
        TypeName.ofValue name = .ok base ∧ g.topLevel = some (TypeName.unique [own] base)) := by
  obtain ⟨own, t, b, hown, hwalk, hkind, rfl⟩ := returns_toGraph hg
  have hnamed : ¬ DescribesItself d.root → ∃ name base, NamedAfter d.root topLevel d.root name ∧
      TypeName.ofValue name = .ok base ∧ t.record = some (TypeName.unique [own] base) :=
    fun hroot => Convert.record_of_namedAfter hwalk hkind (fun _ => rfl) hroot
  refine ⟨own, hown, ⟨fun heq => ?_, Convert.record_of_describesItself hwalk⟩, hnamed⟩
  by_contra hroot
  obtain ⟨name, base, -, -, hrecord⟩ := hnamed hroot
  -- a fresh name is not the one in use
  have hmem : TypeName.unique [own] base ∈ [own] := by
    rw [Option.some.inj (hrecord.symm.trans heq)]
    exact List.mem_singleton_self own
  exact TypeName.unique_not_mem [own] base hmem

/-- A document that refers to its record, which has a title. -/
def badge : Document where
  root := .obj
    [("$ref", .str "#/definitions/person"),
      ("definitions", .obj
        [("person", .obj [("title", .str "staff member"), ("properties", .obj [])])])]

/-- The theorem at a document with a reference at the top. -/
theorem topLevel_eq_iff_badge :
    ∃ g, (badge.toGraph (.str "Root")).1 = .ok g ∧
      ∃ own, TypeName.ofValue (.str "Root") = .ok own ∧
        (g.topLevel = some own ↔ DescribesItself badge.root) ∧
        (¬ DescribesItself badge.root → ∃ name base,
          NamedAfter badge.root (.str "Root") badge.root name ∧
            TypeName.ofValue name = .ok base ∧
            g.topLevel = some (TypeName.unique [own] base)) := by
  have hsome : (badge.toGraph (.str "Root")).1.toOption.isSome := by decide
  obtain ⟨g, hg⟩ := Option.isSome_iff_exists.mp hsome
  have hgraph := toGraph_of_toOption hg
  exact ⟨g, hgraph, topLevel_eq_iff hgraph⟩

/-- A document with a single alternative at the top. -/
def choice : Document where
  root := .obj [("anyOf", .arr [.obj [("properties", .obj [])]])]

/-- Neither a document with a reference at the top nor one with a single alternative there gives its
record the requested name. -/
theorem topLevel_ne_badge :
    TypeName.ofValue (.str "Root") = .ok "Root" ∧
      (badge.toGraph (.str "Root")).1.toOption.map TypeGraph.topLevel =
        some (some "StaffMember") ∧
      (choice.toGraph (.str "Root")).1.toOption.map TypeGraph.topLevel = some (some "Root2") :=
  ⟨rfl, by decide, by decide⟩

end Document

end SchemaStruct
