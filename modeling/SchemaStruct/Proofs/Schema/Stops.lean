import SchemaStruct.Proofs.Schema.Calls

/-!
# What Stops a Step

A step of the walk ends in a fault in one of two ways: something about its own call is at fault, or
one of the calls that it makes ends in that fault. What may be at fault about a call by itself is
the schema, which is read first, a reference that leads nowhere, or the record that the schema
describes: what it is named after, its required names, its properties, or the name of one of them.

The place of a record can always be taken, since no record has the key that is found for it: a key
that is bound to a reference is free as long as the reference does not stand for a record, and a new
key is unlike all keys in use.

## Main definitions

* `Convert.CallStops`: a call ends in a fault;
* `Convert.RecordTrips` and `Convert.CallTrips`: what stops a record and a call by itself;
* `Call.Open`: the reference that led to a call is not known yet.

## Main results

* `Convert.stops_record_iff`: what stops a record;
* `Convert.callStops_step_iff`: what stops a step;
* `Document.stops_collect_iff`: what stops the conversion of a document.
-/

namespace SchemaStruct

open Document

/-- The reference that led to a call does not stand for a record yet. -/
def Call.Open (c : Call) : Prop :=
  ∀ r, c.site.reference = some r → c.before.record? r = none

/-- A call that no reference led to is open. -/
theorem Call.open_of_none {c : Call} (h : c.site.reference = none) : c.Open := by
  intro r hr
  rw [h] at hr
  cases hr

/-- A record that cannot be added has the key of another one. -/
theorem TypeGraph.mem_keys_of_add {g : TypeGraph} {r : Record} {f : Fault}
    (h : g.add r = .error f) : r.key ∈ g.keys := by
  unfold add at h
  split at h
  · next hmem => exact hmem
  · cases h

namespace Convert

variable {d : Document} {w : Walk} {site : Site} {b b' : Builder} {f : Fault}

/-- The call ends in the fault if `w` makes it. -/
def CallStops (w : Walk) (f : Fault) (c : Call) : Prop := Stops (w c.site c.node) c.before f

/-- No record has the key that is found for a record, if its reference does not stand for one. -/
theorem not_mem_keys_of_recordKey {node : Node} {key : String}
    (h : Returns (recordKey site node) b key b') (htaken : ∀ key ∈ b.graph.keys, key ∈ b.taken)
    (hopen : ∀ r, site.reference = some r → b.record? r = none) : key ∉ b'.graph.keys := by
  intro hmem
  rcases returns_recordKey h with ⟨r, hr, hlookup, rfl⟩ | ⟨-, base, -, rfl, rfl⟩
  · -- the reference would stand for the record of that key
    have hknown := Builder.record?_eq_some_iff.mpr ⟨hlookup, hmem⟩
    rw [hopen r hr] at hknown
    cases hknown
  · exact TypeName.unique_not_mem b.taken base (htaken _ hmem)

/-- The name of an entry, among those of a record, that makes no part of a key: the properties in
front of it are there already. -/
inductive EntryTrips (w : Walk) (site : Site) (key : String) (f : Fault) : Entries → Builder → Prop
  | here {name : EntryName} {schema : Json} {rest : Entries} {b : Builder}
      (h : TypeName.ofEntry name = .error f) : EntryTrips w site key f ((name, schema) :: rest) b
  | later {name : EntryName} {schema : Json} {rest : Entries} {b b' : Builder} {suffix : String}
      {t : TypeRef} (hname : TypeName.ofEntry name = .ok suffix)
      (hwalk : Returns (w { hint := .str (key ++ suffix), pending := site.pending } schema) b t b')
      (h : EntryTrips w site key f rest b') : EntryTrips w site key f ((name, schema) :: rest) b

/-- What stops a record by itself: what it is named after, its required names, its properties or the
name of one of them. -/
inductive RecordTrips (w : Walk) (site : Site) (b : Builder) (node : Node) (f : Fault) : Prop
  | name (hbound : site.reference.bind (b.bound.lookup ·) = none)
      (h : TypeName.ofValue (nameSource (node.get? "title") site.hint) = .error f) :
      RecordTrips w site b node f
  | required {key : String} {opened : Builder}
      (hopen : Returns (openRecord site node) b key opened) (h : node.requiredNames = .error f) :
      RecordTrips w site b node f
  | listed {key : String} {opened : Builder} {required : List String}
      (hopen : Returns (openRecord site node) b key opened)
      (hrequired : node.requiredNames = .ok required) (h : node.listed = .error f) :
      RecordTrips w site b node f
  | entry {key : String} {opened : Builder} {required : List String} {entries : Entries}
      (hopen : Returns (openRecord site node) b key opened)
      (hrequired : node.requiredNames = .ok required) (hlisted : node.listed = .ok entries)
      (h : EntryTrips w site key f entries opened) : RecordTrips w site b node f

section

variable {key : String} {required : List String} {name : EntryName} {schema : Json}
  {entries : Entries}

/-- The first name is reached by itself, the others behind a property that is there. -/
theorem entryTrips_cons_iff :
    EntryTrips w site key f ((name, schema) :: entries) b ↔ TypeName.ofEntry name = .error f ∨
      ∃ suffix, TypeName.ofEntry name = .ok suffix ∧ ∃ t b',
        Returns (w { hint := .str (key ++ suffix), pending := site.pending } schema) b t b' ∧
          EntryTrips w site key f entries b' := by
  constructor
  · intro h
    cases h with
    | here h => exact .inl h
    | later hname hwalk h => exact .inr ⟨_, hname, _, _, hwalk, h⟩
  · rintro (h | ⟨suffix, hname, t, b', hwalk, h⟩)
    · exact .here h
    · exact .later hname hwalk h

/-- A name of an entry that stops a record is that of one of its entries. -/
theorem EntryTrips.exists_mem (h : EntryTrips w site key f entries b) :
    ∃ entry ∈ entries, TypeName.ofEntry entry.1 = .error f := by
  induction h with
  | here h => exact ⟨_, List.mem_cons_self, h⟩
  | later _ _ _ ih =>
    obtain ⟨entry, hentry, h⟩ := ih
    exact ⟨entry, List.mem_cons_of_mem _ hentry, h⟩

/-- The first call stops by itself, the others behind a property that is there. -/
theorem exists_propertyCalls_cons_iff :
    (∃ c ∈ propertyCalls w site key ((name, schema) :: entries) b, CallStops w f c) ↔
      ∃ suffix, TypeName.ofEntry name = .ok suffix ∧
        (Stops (w { hint := .str (key ++ suffix), pending := site.pending } schema) b f ∨
          ∃ t b', Returns (w { hint := .str (key ++ suffix), pending := site.pending } schema)
              b t b' ∧ ∃ c ∈ propertyCalls w site key entries b', CallStops w f c) := by
  cases hname : TypeName.ofEntry name with
  | error g =>
    -- nothing is called at or behind a name that makes no part of a key
    simp [propertyCalls, hname]
  | ok suffix =>
    simp only [Except.ok.injEq, exists_eq_left']
    rcases hrun : (w { hint := .str (key ++ suffix), pending := site.pending } schema).run.run b
      with ⟨r, after⟩
    cases r with
    | error g =>
      have hthrows : Throws _ b g after := hrun
      simp [propertyCalls_of_throws hname hthrows, hthrows.not_returns, CallStops]
    | ok t =>
      have hreturns : Returns _ b t after := hrun
      simp [propertyCalls_of_returns hname hreturns, hreturns.iff_eq, CallStops]

/-- A property stops at its name, or where its call does. -/
theorem stops_property_iff :
    Stops (property w site key required (name, schema)) b f ↔ TypeName.ofEntry name = .error f ∨
      ∃ suffix, TypeName.ofEntry name = .ok suffix ∧
        Stops (w { hint := .str (key ++ suffix), pending := site.pending } schema) b f := by
  unfold property
  rw [stops_build_bind_iff]
  simp

/-- The properties of a record stop at the name of one of them, or where a call does. -/
theorem stops_properties_iff :
    Stops (entries.mapM (property w site key required)) b f ↔
      EntryTrips w site key f entries b ∨
        ∃ c ∈ propertyCalls w site key entries b, CallStops w f c := by
  -- each property begins with what those in front of it have collected
  induction entries generalizing b with
  | nil =>
    have htrips : ¬ EntryTrips w site key f [] b := by
      intro h
      cases h
    simp [propertyCalls, htrips]
  | cons entry entries ih =>
    obtain ⟨name, schema⟩ := entry
    rw [List.mapM_cons, entryTrips_cons_iff, exists_propertyCalls_cons_iff]
    simp only [stops_bind_iff, not_stops_pure, stops_property_iff, returns_property_iff, ih]
    cases TypeName.ofEntry name with
    | error g => simp
    | ok suffix =>
      simp only [reduceCtorEq, false_or, Except.ok.injEq, exists_eq_left']
      grind

end

/-- Finding the key of a record stops where it is not bound and what the record is named after is no
name. -/
theorem stops_recordKey_iff {node : Node} :
    Stops (recordKey site node) b f ↔ site.reference.bind (b.bound.lookup ·) = none ∧
      TypeName.ofValue (nameSource (node.get? "title") site.hint) = .error f := by
  unfold recordKey
  simp only [stops_bind_iff, not_stops_get, returns_get_iff, false_or, and_assoc, exists_and_left,
    exists_eq_left]
  split
  · next key hkey => simp [hkey]
  · next hunbound =>
    rw [and_iff_right hunbound]
    -- binding the new key cannot fail
    cases site.reference <;> simp [Build.freshKey, Build.bind, nameSource]

/-- The place of a record can be taken if the reference that led to it does not stand for one. -/
theorem not_stops_addRecord {node : Node} {r : Record}
    (h : Returns (recordKey site node) b r.key b') (htaken : ∀ key ∈ b.graph.keys, key ∈ b.taken)
    (hopen : ∀ s, site.reference = some s → b.record? s = none) :
    ¬ Stops (Build.addRecord r) b' f := by
  have hfree := not_mem_keys_of_recordKey h htaken hopen
  have hadd : b'.graph.add r ≠ .error f := fun hadd => hfree (TypeGraph.mem_keys_of_add hadd)
  simp [Build.addRecord, hadd]

/-- Taking the place of a record stops where finding its key does. -/
theorem stops_openRecord_iff {node : Node} (htaken : ∀ key ∈ b.graph.keys, key ∈ b.taken)
    (hopen : ∀ r, site.reference = some r → b.record? r = none) :
    Stops (openRecord site node) b f ↔ site.reference.bind (b.bound.lookup ·) = none ∧
      TypeName.ofValue (nameSource (node.get? "title") site.hint) = .error f := by
  unfold openRecord
  rw [stops_bind_iff, stops_recordKey_iff]
  refine or_iff_left ?_
  rintro ⟨key, u, hkey, hstops⟩
  simp only [stops_bind_iff, not_stops_pure, and_false, exists_false, or_false] at hstops
  exact not_stops_addRecord hkey htaken hopen hstops

/-- A call for a property is made where the place of the record is taken and its properties are
listed. -/
theorem exists_recordCalls_iff {node : Node} :
    (∃ c ∈ recordCalls w site node b, CallStops w f c) ↔ ∃ key opened,
      Returns (openRecord site node) b key opened ∧ ∃ required, node.requiredNames = .ok required ∧
        ∃ entries, node.listed = .ok entries ∧
          ∃ c ∈ propertyCalls w site key entries opened, CallStops w f c := by
  unfold recordCalls
  split
  · next key opened required entries hopen hrequired hlisted =>
    have hreturns : Returns _ b key opened := hopen
    simp [hreturns.iff_eq, hrequired, hlisted]
  · next hother =>
    refine ⟨by simp, ?_⟩
    rintro ⟨key, opened, hopen, required, hrequired, entries, hlisted, -⟩
    exact (hother key opened required entries hopen hrequired hlisted).elim

/-- A record stops where its place cannot be taken, or behind that. -/
theorem stops_record_iff_openRecord {node : Node} :
    Stops (record d w site node) b f ↔ Stops (openRecord site node) b f ∨ ∃ key opened,
      Returns (openRecord site node) b key opened ∧ (node.requiredNames = .error f ∨
        ∃ required, node.requiredNames = .ok required ∧ (node.listed = .error f ∨
          ∃ entries, node.listed = .ok entries ∧ (EntryTrips w site key f entries opened ∨
            ∃ c ∈ propertyCalls w site key entries opened, CallStops w f c))) := by
  -- the place of the record is taken before anything else is read
  have hrecord : record d w site node = (do
      let key ← openRecord site node
      let required ← Build.ofExcept node.requiredNames
      let entries ← Build.ofExcept node.listed
      let properties ← entries.mapM (property w site key required)
      Build.replaceRecord (recordOf d site node key properties)
      return key) := by
    simp only [record, openRecord, bind_assoc, pure_bind]
    rfl
  -- and once there are properties, nothing can fail any more
  have hfilled : ∀ key properties u, ¬ Stops (do
      Build.replaceRecord (recordOf d site node key properties)
      return key) u f := by
    simp [Build.replaceRecord]
  rw [hrecord, stops_bind_iff]
  simp only [stops_build_bind_iff]
  simp only [stops_bind_iff (m := List.mapM _ _), stops_properties_iff, hfilled, and_false,
    exists_false, or_false]

/-- A record stops by itself, or where a call for one of its properties does. -/
theorem stops_record_iff {node : Node} (htaken : ∀ key ∈ b.graph.keys, key ∈ b.taken)
    (hopen : ∀ r, site.reference = some r → b.record? r = none) :
    Stops (record d w site node) b f ↔ RecordTrips w site b node f ∨
      ∃ c ∈ recordCalls w site node b, CallStops w f c := by
  rw [stops_record_iff_openRecord, stops_openRecord_iff htaken hopen, exists_recordCalls_iff]
  constructor
  · rintro (⟨hbound, h⟩ |
      ⟨key, opened, hopen, h | ⟨required, hrequired, h | ⟨entries, hlisted, h⟩⟩⟩)
    · exact .inl (.name hbound h)
    · exact .inl (.required hopen h)
    · exact .inl (.listed hopen hrequired h)
    · exact h.imp (.entry hopen hrequired hlisted)
        fun h => ⟨key, opened, hopen, required, hrequired, entries, hlisted, h⟩
  · rintro (h | ⟨key, opened, hopen, required, hrequired, entries, hlisted, h⟩)
    · cases h with
      | name hbound h => exact .inl ⟨hbound, h⟩
      | required hopen h => exact .inr ⟨_, _, hopen, .inl h⟩
      | listed hopen hrequired h => exact .inr ⟨_, _, hopen, .inr ⟨_, hrequired, .inl h⟩⟩
      | entry hopen hrequired hlisted h =>
        exact .inr ⟨_, _, hopen, .inr ⟨_, hrequired, .inr ⟨_, hlisted, .inl h⟩⟩⟩
    · exact .inr ⟨key, opened, hopen, .inr ⟨required, hrequired, .inr ⟨entries, hlisted, .inr h⟩⟩⟩

/-- A reference stops where it leads nowhere, or where what it points to does. -/
theorem stops_reference_iff {r : String} :
    Stops (reference d.root w site (.str r)) b f ↔
      (b.record? r = none ∧ r ∉ site.pending ∧ Pointer.resolve d.root r = .error f) ∨
        ∃ c ∈ shapeCalls d w site b (.reference r), CallStops w f c := by
  have hhash : (Json.str r).requireHashable = .ok () := rfl
  unfold reference shapeCalls
  rw [stops_build_bind_iff, hhash]
  simp only [reduceCtorEq, false_or, exists_const, true_and, stops_bind_iff, not_stops_get,
    returns_get_iff, and_assoc, exists_and_left, exists_eq_left]
  -- a reference to a known record, and one that is being followed, is looked up nowhere
  cases hknown : b.record? r with
  | some key => simp
  | none =>
    by_cases hpending : r ∈ site.pending
    · simp [hpending]
    · cases hresolve : Pointer.resolve d.root r with
      | error g => simp [hpending]
      | ok target => simp [hpending, CallStops, Site.target]

/-- What stops what a schema describes by itself: a record may be stopped, and a reference may lead
nowhere. -/
def ShapeTrips (d : Document) (w : Walk) (site : Site) (b : Builder) (f : Fault) : Shape → Prop
  | .record node => RecordTrips w site b node f
  | .reference r =>
    b.record? r = none ∧ r ∉ site.pending ∧ Pointer.resolve d.root r = .error f
  | _ => False

/-- Performing a shape stops by itself, or where one of its calls does. -/
theorem stops_perform_iff {notices : List Notice} {shape : Shape}
    (htaken : ∀ key ∈ b.graph.keys, key ∈ b.taken)
    (hopen : ∀ r, site.reference = some r → b.record? r = none) :
    Stops (perform d w site notices shape) b f ↔ ShapeTrips d w site b f shape ∨
      ∃ c ∈ shapeCalls d w site b shape, CallStops w f c := by
  cases shape with
  | scalar kind => simp [perform, tell, ShapeTrips, shapeCalls]
  | list items =>
    cases items with
    | none => simp [perform, tell, ShapeTrips, shapeCalls]
    | some items => simp [perform, ShapeTrips, shapeCalls, CallStops]
  | map values =>
    cases values with
    | none => simp [perform, ShapeTrips, shapeCalls]
    | some values => simp [perform, ShapeTrips, shapeCalls, CallStops]
  | record node => simp [perform, ShapeTrips, shapeCalls, stops_record_iff htaken hopen]
  | reference r => exact stops_reference_iff
  | alternative one => simp [perform, ShapeTrips, shapeCalls, CallStops]

/-- What stops a call by itself, where `w` goes on inside: its schema cannot be read, or what the
schema describes is stopped. -/
inductive CallTrips (d : Document) (w : Walk) (c : Call) (f : Fault) : Prop
  | schema (h : Form.read d.root c.site.hintText c.node = .error f) : CallTrips d w c f
  | shape {form : Form} (hform : Form.of d.root c.node = some form)
      (h : ShapeTrips d w c.site c.before f form.shape) : CallTrips d w c f

/-- A call is stopped by one of two things. -/
theorem callTrips_iff {c : Call} :
    CallTrips d w c f ↔ Form.read d.root c.site.hintText c.node = .error f ∨
      ∃ form, Form.of d.root c.node = some form ∧ ShapeTrips d w c.site c.before f form.shape := by
  constructor
  · intro h
    cases h with
    | schema h => exact .inl h
    | shape hform h => exact .inr ⟨_, hform, h⟩
  · rintro (h | ⟨form, hform, h⟩)
    · exact .schema h
    · exact .shape hform h

/-- A step stops by itself, or where one of the calls that it makes does. -/
theorem callStops_step_iff {c : Call} (htaken : ∀ key ∈ c.before.graph.keys, key ∈ c.before.taken)
    (hopen : c.Open) :
    CallStops (step d w) f c ↔ CallTrips d w c f ∨ ∃ c' ∈ calls d w c, CallStops w f c' := by
  obtain ⟨notices, hstep⟩ := exists_step_eq d c.site c.node
  rw [CallStops, hstep, callTrips_iff, calls, ← Form.toOption_read d.root c.site.hintText]
  cases Form.read d.root c.site.hintText c.node with
  | error g => simp [Except.toOption, eq_comm]
  | ok form => simp [Except.toOption, stops_perform_iff htaken hopen]

end Convert

namespace Document

variable {d : Document} {topLevel : Json} {f : Fault}

/-- The conversion of a document ends in the faults that collecting its records stops with. -/
theorem toGraph_eq_error_iff_stops :
    (d.toGraph topLevel).1 = .error f ↔ Stops (d.collect topLevel) {} f := by
  constructor
  · exact fun h => ⟨_, Prod.ext h rfl⟩
  · rintro ⟨b, h⟩
    exact congrArg Prod.fst h

/-- Nothing is in use at first, so the name that is asked for is free. -/
theorem returns_freshKey_first {key : String} (hkey : TypeName.ofValue topLevel = .ok key) :
    Returns (Build.freshKey topLevel) {} key { taken := [key] } := by
  simp only [Build.freshKey, returns_bind_iff, returns_build_iff, returns_get_iff,
    returns_modify_iff, returns_pure_iff]
  exact ⟨key, _, ⟨hkey, rfl⟩, _, _, ⟨rfl, rfl⟩, (), _, rfl, rfl, rfl⟩

/-- A document that is no object with members is refused before it is walked. -/
theorem schema_of_stops_collect (hroot : ∀ member members, d.root ≠ .obj (member :: members))
    (h : Stops (d.collect topLevel) {} f) :
    ∃ cause, f = .schema cause ∧ (∀ key, cause ≠ .duplicateRecord key) ∧
      ∀ key, cause ≠ .unknownRecord key := by
  unfold collect at h
  split at h
  · exact ⟨_, stops_throw_iff.mp h, by simp, by simp⟩
  · exact ⟨_, stops_throw_iff.mp h, by simp, by simp⟩
  · next members hmembers heq =>
    cases members with
    | nil => exact (hmembers rfl).elim
    | cons member members => exact absurd heq (hroot member members)
  · exact ⟨_, stops_throw_iff.mp h, by simp, by simp⟩

/-- Collecting the records of an object with members stops at the name that is asked for, where the
walk does, or behind a walk that ends in something else than a record. -/
theorem stops_collect_iff {member : String × Json} {members : List (String × Json)}
    (hroot : d.root = .obj (member :: members)) :
    Stops (d.collect topLevel) {} f ↔ TypeName.ofValue topLevel = .error f ∨
      ∃ key, TypeName.ofValue topLevel = .ok key ∧
        (Convert.CallStops (Convert.walk d (Convert.fuel d.root)) f (d.openingCall topLevel key) ∨
          ∃ t b, Returns (Convert.walk d (Convert.fuel d.root) (.opening topLevel) d.root)
              (.opening key) t b ∧ t.kind ≠ .object ∧ f = .schema (.describesOther t.kind)) := by
  have hkind : ∀ (t : TypeRef) (b : Builder), Stops (do
      if t.kind = .object then return { (← get).graph with topLevel := t.record }
      else throw (.schema (.describesOther t.kind)) : Build TypeGraph) b f ↔
        t.kind ≠ .object ∧ f = .schema (.describesOther t.kind) := by
    intro t b
    split <;> simp_all
  unfold collect
  rw [hroot]
  cases hkey : TypeName.ofValue topLevel with
  | error g => simp [Build.freshKey, hkey]
  | ok key =>
    have hfresh := returns_freshKey_first hkey
    dsimp only
    rw [stops_bind_iff, or_iff_right hfresh.not_stops]
    simp only [hfresh.iff_eq, Build.bind, stops_bind_iff, not_stops_modify, returns_modify_iff,
      hkind]
    simp [hroot, Convert.CallStops, openingCall, Site.opening, Builder.opening]

end Document

end SchemaStruct
