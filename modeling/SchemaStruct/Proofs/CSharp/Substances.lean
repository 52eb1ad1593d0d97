import SchemaStruct.Proofs.CSharp.Presentation

/-!
# Substances of Written Records

A record that has a substance, and lines for its comments, is written. Here is the converse: what a
renderer has written tells that the record has both. So whatever texts are assigned to names, and
whichever references resolve, the lines of a rendering that comes to its end are those of some
substances, one for each record.

The steps of a program that returned have returned themselves, each of them on some page. Which page
that was does not matter: what is read off a step holds on every page.

## Main definitions

* `MayReturn`: a step returns some value on some page.

## Main results

* `CSharp.Renderer.exists_hasSubstance_of_mayReturn`: a record that is written has a substance;
* `CSharp.Renderer.exists_substances_of_render`: the lines of a rendering are those of some
  substances.
-/

namespace SchemaStruct

/-- The items of a list have numbers. -/
theorem exists_mem_zipIdx {α : Type} {xs : List α} {x : α} (h : x ∈ xs) : ∃ i, (x, i) ∈ xs.zipIdx := by
  rw [← List.zipIdx_map_fst 0 xs] at h
  obtain ⟨⟨x, i⟩, hi, rfl⟩ := List.mem_map.mp h
  exact ⟨i, hi⟩

/-- On some page the step `m` returns `a`. -/
def MayReturn {α : Type} (m : Emit α) (a : α) : Prop := ∃ p q, Returns m p a q

namespace MayReturn

variable {α β : Type} {a : α} {b : β}

/-- Of two steps one behind the other, each returns. -/
theorem of_bind {m : Emit α} {k : α → Emit β} (h : MayReturn (m >>= k) b) :
    ∃ a, MayReturn m a ∧ MayReturn (k a) b := by
  obtain ⟨p, q, h⟩ := h
  obtain ⟨a, u, hm, hk⟩ := returns_bind_iff.mp h
  exact ⟨a, ⟨p, u, hm⟩, u, q, hk⟩

/-- A result that depends on nothing written is what is returned. -/
theorem eq_ok {r : Except Fault α} (h : MayReturn (Emit.ofExcept r) a) : r = .ok a := by
  obtain ⟨p, q, h⟩ := h
  exact (returns_emit_iff.mp h).1

/-- What is written on every page returns nothing else. -/
theorem eq_of_writes {m : Emit α} {a' : α} {lines : List String} (h : MayReturn m a)
    (hwrites : ∀ d, Writes m d a' lines) : a = a' := by
  obtain ⟨p, q, h⟩ := h
  obtain ⟨usings, hwritten⟩ := hwrites p.depth p rfl
  have hsame : (Except.ok a, q) = (Except.ok (ε := Fault) a', _) := h.symm.trans hwritten
  exact Except.ok.inj (Prod.mk.inj hsame).1

/-- What is written one level deeper returns. -/
theorem of_indented {body : Emit α} (h : MayReturn (Emit.indented body) a) :
    MayReturn body a := by
  obtain ⟨p, q, h⟩ := h
  obtain ⟨u, hbody, -⟩ := returns_indented_iff.mp h
  exact ⟨_, u, hbody⟩

/-- Of the steps for the items of a list, each returns. -/
theorem of_forM {m : α → Emit Unit} {xs : List α} (h : MayReturn (xs.forM m) ()) :
    ∀ x ∈ xs, MayReturn (m x) () := by
  induction xs with
  | nil => simp
  | cons x xs ih =>
    obtain ⟨_, hx, hxs⟩ := of_bind (h : MayReturn (m x >>= fun _ => xs.forM m) ())
    exact List.forall_mem_cons.mpr ⟨hx, ih hxs⟩

variable {pr : Printer}

/-- A line that is written has a text. -/
theorem exists_of_line {parts : List Fragment} (h : MayReturn (pr.line parts) ()) :
    ∃ s, Fragment.serializeAll pr.names parts = .ok s := by
  obtain ⟨s, htext, -⟩ := of_bind h
  exact ⟨s, htext.eq_ok⟩

/-- The body of a block that is written returns. -/
theorem of_block {body : Emit Unit} (h : MayReturn (pr.block body) ()) : MayReturn body () := by
  obtain ⟨_, -, h⟩ := of_bind h
  obtain ⟨_, hbody, -⟩ := of_bind h
  exact hbody.of_indented

/-- Of what is written for the records of a graph, each part returns. -/
theorem of_eachRecord {blankLines : Bool} {body : Record → Name → Emit Unit}
    (h : MayReturn (pr.eachRecord blankLines body) ()) :
    ∀ record ∈ pr.names.graph.records, MayReturn (body record (NameTable.recordName record)) () := by
  intro record hrecord
  obtain ⟨i, hi⟩ := exists_mem_zipIdx hrecord
  have hbody := of_forM h _ hi
  dsimp only at hbody
  -- the blank line in front is written or not
  split at hbody
  · obtain ⟨_, -, hbody⟩ := of_bind hbody
    exact hbody
  · exact hbody

/-- A rendering with lines comes to its end. -/
theorem of_render {program : Emit Unit} {old : Page} {out : List String × List Using}
    (h : (Printer.render program old).1 = .ok out) : MayReturn program () := by
  obtain ⟨after, hreturns, -⟩ := Printer.exists_of_render (Prod.ext h rfl)
  exact ⟨{}, after, hreturns⟩

end MayReturn

namespace Fragment

/-- The parts of a text have texts. -/
theorem exists_of_serializeAll {names : NameTable} {fragments : List Fragment} {s : String}
    (h : serializeAll names fragments = .ok s) :
    ∀ f ∈ fragments, ∃ text, serialize names f = .ok text := by
  induction fragments generalizing s with
  | nil => simp
  | cons f fragments ih =>
    obtain ⟨text, htext, h⟩ := ok_of_bind h
    obtain ⟨rest, hrest, -⟩ := ok_of_bind h
    exact List.forall_mem_cons.mpr ⟨⟨text, htext⟩, ih hrest⟩

/-- A name with a text has one that is assigned to it. -/
theorem text?_of_serialize {names : NameTable} {n : Name} {s : String}
    (h : serialize names (.name n) = .ok s) : names.text? n = some s := by
  rw [serialize, NameTable.text] at h
  split at h
  · next text htext =>
    rw [htext, Except.ok.inj h]
  · cases h

end Fragment

namespace CSharp

open NameTable

namespace Renderer

variable {r : Renderer} {record : Record}

/-- What the rule of readonly structs makes of a property, if it makes anything of it. -/
theorem exists_of_mayReturn_readOnly {p : Property} {name : Name} {declared : Rendered}
    (h : MayReturn (readOnlyRule r p name record) declared) :
    ∃ f, declared = .definition ⟨"public", f, name, "\x7b get; \x7d"⟩ ∧
      ∀ d, Writes (readOnlyRule r p name record) d declared [] := by
  obtain ⟨_, hwritable, -⟩ := h.of_bind
  obtain ⟨_, htype, -⟩ := hwritable.of_bind
  obtain ⟨c, hc, -⟩ := htype.of_bind
  have hwrites (d : Nat) : Writes (readOnlyRule r p name record) d
      (.definition ⟨"public", c.fragment, name, "\x7b get; \x7d"⟩) [] :=
    r.accesses_readOnly record p name c.fragment d
      ((Writes.ofExcept hc.eq_ok d).bind ((Writes.need c.usings d).bind (.pure _ d)))
  obtain rfl := h.eq_of_writes hwrites
  exact ⟨c.fragment, rfl, hwrites⟩

/-- A property that is declared has a member with any parameter. -/
theorem exists_declares {entry : Name × Property}
    (h : MayReturn (r.declare readOnlyRule record entry) ()) (id : String) :
    ∃ m, r.Declares record entry m ∧ m.parameter = id := by
  obtain ⟨declared, hrule, hline⟩ := h.of_bind
  obtain ⟨f, rfl, hwrites⟩ := exists_of_mayReturn_readOnly hrule
  obtain ⟨s, hs⟩ := hline.exists_of_line
  obtain ⟨text, htext⟩ := Fragment.exists_of_serializeAll hs _ List.mem_cons_self
  -- the type and the name are two of the parts of the declaration
  have hjoined : Fragment.serializeAll r.names [.text "public", .text " ", f, .text " ",
      .name entry.1, .text " ", .text "\x7b get; \x7d"] = .ok text := htext
  have hparts := Fragment.exists_of_serializeAll hjoined
  obtain ⟨type, htype⟩ := hparts f (by simp)
  obtain ⟨name, hname⟩ := hparts (.name entry.1) (by simp)
  exact ⟨⟨type, name, id⟩, ⟨Fragment.text?_of_serialize hname, f, htype, hwrites⟩, rfl⟩

/-- Properties that are declared have members with parameters of any names. -/
theorem exists_members_of_declare {entries : List (Name × Property)} {ids : List String}
    (hlength : ids.length = entries.length)
    (h : ∀ entry ∈ entries, MayReturn (r.declare readOnlyRule record entry) ()) :
    ∃ members, List.Forall₂ (r.Declares record) entries members ∧
      members.map Member.parameter = ids := by
  induction entries generalizing ids with
  | nil => exact ⟨[], .nil, (List.length_eq_zero_iff.mp hlength).symm⟩
  | cons entry entries ih =>
    obtain ⟨id, ids, rfl⟩ := List.exists_cons_of_length_eq_add_one hlength
    obtain ⟨hentry, hentries⟩ := List.forall_mem_cons.mp h
    obtain ⟨m, hm, rfl⟩ := exists_declares hentry id
    obtain ⟨members, hmembers, rfl⟩ := ih (by simpa using hlength) hentries
    exact ⟨m :: members, .cons hm hmembers, rfl⟩

/-- A property that is written has lines for its comment, and is declared. -/
theorem noted_and_declared_of_property {isFirst : Bool} {entry : Name × Property}
    (h : MayReturn (r.property readOnlyRule record isFirst entry) ()) :
    r.commentLines entry.2.description = .ok (r.notes entry.2.description) ∧
      MayReturn (r.declare readOnlyRule record entry) () := by
  rw [property_eq] at h
  obtain ⟨_, habove, hdeclare⟩ := h.of_bind
  obtain ⟨_, -, habove⟩ := habove.of_bind
  obtain ⟨lines, hlines, -⟩ := habove.of_bind
  exact ⟨commentLines_eq_notes_of_eq_ok hlines.eq_ok, hdeclare⟩

/-- A record that is written has lines for its comments, and a substance. -/
theorem exists_hasSubstance_of_mayReturn
    (h : MayReturn (structOf writableProperty r record (recordName record)) ()) :
    r.Noted record ∧ ∃ t, r.HasSubstance record t := by
  rw [structOf_eq, recordAs] at h
  obtain ⟨lines, hlines, h⟩ := h.of_bind
  obtain ⟨_, hhead, hblock⟩ := h.of_bind
  rw [head_eq] at hhead
  obtain ⟨_, -, hline⟩ := hhead.of_bind
  obtain ⟨s, hs⟩ := hline.exists_of_line
  obtain ⟨_, -, hproperties⟩ := hblock.of_block.of_bind
  unfold properties at hproperties
  -- the number of a property does not matter for what it is written as
  have hentries : ∀ entry ∈ propertyNames record,
      r.commentLines entry.2.description = .ok (r.notes entry.2.description) ∧
        MayReturn (r.declare readOnlyRule record entry) () := by
    intro entry hentry
    obtain ⟨i, hi⟩ := exists_mem_zipIdx hentry
    have hproperty := hproperties.of_forM (entry, i) hi
    exact noted_and_declared_of_property hproperty
  have hnoted : r.Noted record := by
    refine ⟨commentLines_eq_notes_of_eq_ok hlines.eq_ok, fun p hp => ?_⟩
    rw [← map_snd_propertyNames] at hp
    obtain ⟨entry, hentry, rfl⟩ := List.mem_map.mp hp
    exact (hentries entry hentry).1
  have hlength : (parameters [] ((propertyNames record).map (·.2.name))).length =
      (propertyNames record).length := by simp
  obtain ⟨members, hmembers, hids⟩ :=
    exists_members_of_declare hlength fun entry hentry => (hentries entry hentry).2
  obtain ⟨_, -, hdeclared⟩ := ok_of_bind hs
  obtain ⟨text, htext, -⟩ := ok_of_bind hdeclared
  have hname : Fragment.name (recordName record) ∈ declared record := by
    unfold declared
    split <;> simp
  obtain ⟨own, hown⟩ := Fragment.exists_of_serializeAll htext _ hname
  exact ⟨hnoted, ⟨own, text, members⟩, Fragment.text?_of_serialize hown, htext, hmembers, hids⟩

/-- The lines of a rendering that comes to its end are those of some substances, one for each
record. -/
theorem exists_substances_of_render {old : Page} {lines : List String} {usings : List Using}
    (h : (Printer.render (r.structs writableProperty) old).1 = .ok (lines, usings)) :
    ∃ ts, List.Forall₂ r.HasSubstance r.names.graph.records ts ∧
      List.Forall₂ r.IsSection r.names.graph.records
        (List.zipWith r.sectionOf r.names.graph.records ts) ∧
      lines = sourceLines (List.zipWith r.sectionOf r.names.graph.records ts) := by
  obtain ⟨ts, hts⟩ : ∃ ts, List.Forall₂ (fun record t => record ∈ r.names.graph.records ∧
      r.Noted record ∧ r.HasSubstance record t) r.names.graph.records ts := by
    refine exists_forall₂ fun record hrecord => ?_
    obtain ⟨hnoted, t, ht⟩ := exists_hasSubstance_of_mayReturn
      ((MayReturn.of_render h).of_eachRecord record hrecord)
    exact ⟨t, hrecord, hnoted, ht⟩
  have hsection (record : Record) (t : Substance) (h : record ∈ r.names.graph.records ∧
      r.Noted record ∧ r.HasSubstance record t) : r.IsSection record (r.sectionOf record t) :=
    isSection_of_noted h.1 h.2.2 h.2.1
  have hsections : List.Forall₂ r.IsSection r.names.graph.records
      (List.zipWith r.sectionOf r.names.graph.records ts) := forall₂_zipWith hsection hts
  refine ⟨ts, hts.imp fun _ _ h => h.2.2, hsections, ?_⟩
  have hrender : (Printer.render (r.structs writableProperty) old).1 =
      .ok (sourceLines (List.zipWith r.sectionOf r.names.graph.records ts),
        Using.sorted r.usings) := by
    refine Printer.render_eachRecord old ?_ ?_
      (Printer.requires_eachRecord true fun record hrecord => requires_structOf hrecord)
    · rw [List.forall₂_map_right_iff]
      exact hsections.imp fun _ _ h => h.lines
    · intro part hpart
      obtain ⟨s, -, rfl⟩ := List.mem_map.mp hpart
      exact s.endsInText_lines
  exact (Prod.mk.inj (Except.ok.inj (h.symm.trans hrender))).1

end Renderer

end CSharp

end SchemaStruct
