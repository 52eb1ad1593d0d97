import Mathlib.Data.List.GetD
import SchemaStruct.Proofs.Config.Layers

/-!
# Managers and Their Defaults

A manager never writes on the dictionaries of its defaults: it copies them to a new place, and all
merging is done there. So what it hands out depends on its defaults, the file and the caller's
settings alone, whatever has been loaded before and whatever has been changed in configurations that
were handed out, and each loading leaves one new pair of dictionaries behind.

## Main definitions

* `Store.Extends`: a store that has the dictionaries of another one as they were;
* `Manager.Gathers` and `Manager.gather`: the settings that a configuration is put together from;
* `Manager.Action` and `Manager.Session.afterAll`: what is done with a manager, and what that comes
  to.

## Main results

* `Manager.run_load`: what loading does, by value;
* `Manager.exists_push_of_load`: loading leaves all dictionaries that there were;
* `Manager.Session.isApart_afterAll`: whatever is done, the defaults stay as they were.
-/

namespace SchemaStruct

namespace Store

variable {s t : Store} {new other : Settings}

/-- New dictionaries stand at the first place that was free. -/
@[simp]
theorem settings_push (s : Store) (new : Settings) :
    (s.push new).settings s.drafts.length = new := by
  simp [settings, push, table]

/-- New dictionaries may be changed before they are put there. -/
@[simp]
theorem put_push (s : Store) (new other : Settings) :
    (s.push new).put s.drafts.length other = s.push other := by
  simp [put, push, setTable]

/-- Whether all dictionaries of the store `t` stand in `s` as they were, at their places. -/
def Extends (s t : Store) : Prop :=
  ∃ drafts tables, s = { drafts := t.drafts ++ drafts, tables := t.tables ++ tables }

namespace Extends

/-- Nothing has happened. -/
theorem refl (s : Store) : s.Extends s := ⟨[], [], by simp⟩

/-- New dictionaries change no other ones. -/
theorem push (h : s.Extends t) (new : Settings) : (s.push new).Extends t := by
  obtain ⟨drafts, tables, rfl⟩ := h
  exact ⟨drafts ++ [⟨new.own, (t.tables ++ tables).length⟩], tables ++ [new.language],
    by simp [Store.push]⟩

/-- Nor does a change at a place beyond the others. -/
theorem setTable (h : s.Extends t) {place : Nat} (hplace : t.tables.length ≤ place) (es : Entries) :
    (s.setTable place es).Extends t := by
  obtain ⟨drafts, tables, rfl⟩ := h
  refine ⟨drafts, tables.set (place - t.tables.length) es, ?_⟩
  simp [Store.setTable, List.set_append_right _ _ hplace]

/-- The settings at a place are those that were there. -/
theorem settings_eq (h : s.Extends t) {place : Nat} (hdraft : place < t.drafts.length)
    (htable : (t.drafts.getD place {}).language < t.tables.length) :
    s.settings place = t.settings place := by
  obtain ⟨drafts, tables, rfl⟩ := h
  have hkept : (t.drafts ++ drafts).getD place {} = t.drafts.getD place {} :=
    List.getD_append _ _ _ _ hdraft
  simp only [settings, table, hkept]
  rw [List.getD_append _ _ _ _ htable]

end Extends

end Store

namespace Manager

variable {s : Store} {files : FileTree} {language : String} {custom file : Json}

/-- A result that depends on no dictionary changes none. -/
theorem run_ofExcept {α : Type} (r : Except Fault α) (s : Store) :
    (ofExcept r).run.run s = (r, s) := by
  cases r <;> rfl

/-- A copy stands at a new place. -/
theorem run_copy (language : String) (s : Store) :
    (copy language).run.run s = (.ok s.drafts.length, s.push (defaults s language)) :=
  rfl

/-- Where new dictionaries with the settings `old` have been put, the step `m` gets on as `r` says,
and changes nothing but these: in the end they hold the settings of `r`, if it has any. -/
def Gathers (s : Store) (old : Settings) (m : Keep Unit) (r : Except Fault Settings) : Prop :=
  ∃ new, m.run.run (s.push old) = ((fun _ => ()) <$> r, s.push new) ∧
    ∀ gathered, r = .ok gathered → new = gathered

namespace Gathers

variable {old : Settings} {m m' : Keep Unit} {r : Except Fault Settings}

/-- Nothing is done. -/
theorem pure (s : Store) (old : Settings) : Gathers s old (pure ()) (.ok old) :=
  ⟨old, rfl, fun _ => Except.ok.inj⟩

/-- One step behind another one. -/
theorem bind {k : Settings → Except Fault Settings} (hm : Gathers s old m r)
    (hk : ∀ gathered, Gathers s gathered m' (k gathered)) :
    Gathers s old (m >>= fun _ => m') (r >>= k) := by
  obtain ⟨new, hrun, hnew⟩ := hm
  cases r with
  | error f => exact ⟨new, by rw [run_bind, hrun]; rfl, fun _ h => by cases h⟩
  | ok gathered =>
    obtain rfl := hnew gathered rfl
    obtain ⟨last, hlast, hgathered⟩ := hk new
    exact ⟨last, by rw [run_bind, hrun]; exact hlast, hgathered⟩

/-- A setting is overridden. -/
theorem override (s : Store) (old : Settings) (name : String) (v : Json) :
    Gathers s old (override s.drafts.length name v) (old.write name v) := by
  have hrun : (Manager.override s.drafts.length name v).run.run (s.push old) =
      match old.write name v with
      | .ok new => (.ok (), s.push new)
      | .error f => (.error f, s.push old) := by
    show (do
      let new ← ofExcept (((s.push old).settings s.drafts.length).write name v)
      set ((s.push old).put s.drafts.length new) : Keep Unit).run.run (s.push old) = _
    rw [Store.settings_push, run_bind, run_ofExcept]
    cases old.write name v with
    | error f => rfl
    | ok new =>
      show (Except.ok (), (s.push old).put s.drafts.length new) = _
      rw [Store.put_push]
  cases hwrite : old.write name v with
  | error f => exact ⟨old, by rw [hrun, hwrite]; rfl, fun _ h => by cases h⟩
  | ok new => exact ⟨new, by rw [hrun, hwrite]; rfl, fun _ => Except.ok.inj⟩

/-- Settings are overridden, one after the other. -/
theorem merge (s : Store) (old : Settings) (layer : List (String × Json)) :
    Gathers s old (merge s.drafts.length layer) (old.writeAll layer) := by
  induction layer generalizing old with
  | nil => exact pure s old
  | cons m layer ih => exact (override s old m.1 m.2).bind ih

/-- Settings are overridden by those of a layer, if it is there. -/
theorem mergeLayer (s : Store) (old : Settings) (layer : Except Fault (List (String × Json))) :
    Gathers s old (mergeLayer s.drafts.length layer) (layer >>= old.writeAll) := by
  cases layer with
  | error f => exact ⟨old, rfl, fun _ h => by cases h⟩
  | ok layer => exact merge s old layer

end Gathers

/-- The configuration at a new place is handed out as it stands there. -/
theorem run_release (s : Store) (new : Settings) :
    (release s.drafts.length).run.run (s.push new) =
      ((do
        let own ← Configuration.ofFields new.own
        return ⟨own, s.tables.length⟩), s.push new) := by
  have hdraft : (s.push new).drafts.getD s.drafts.length {} = ⟨new.own, s.tables.length⟩ := by
    simp [Store.push]
  rw [release, run_bind]
  show (do
    let own ← ofExcept (Configuration.ofFields ((s.push new).drafts.getD s.drafts.length {}).own)
    return ⟨own, ((s.push new).drafts.getD s.drafts.length {}).language⟩ : Keep Issued).run.run
      (s.push new) = _
  rw [hdraft, run_bind, run_ofExcept]
  cases Configuration.ofFields new.own <;> rfl

/-- The settings of a configuration, from those of its language and the two layers on top. -/
def gather (base : Settings) (files : FileTree) (custom file : Json) : Except Fault Settings :=
  (fileLayer files file >>= base.writeAll) >>= fun s => callerLayer custom >>= s.writeAll

/-- What loading does, by value: it leaves one new pair of dictionaries, with the settings in them
if they come together, and hands these out. -/
theorem run_load (s : Store) (files : FileTree) (language : String) (custom file : Json) :
    ∃ new, (load files language custom file).run.run s =
        ((do
          let gathered ← gather (defaults s language) files custom file
          let own ← Configuration.ofFields gathered.own
          return ⟨own, s.tables.length⟩), s.push new) ∧
      ∀ gathered, gather (defaults s language) files custom file = .ok gathered →
        new = gathered := by
  obtain ⟨new, hrun, hnew⟩ :=
    (Gathers.mergeLayer s (defaults s language) (fileLayer files file)).bind
      fun first => Gathers.mergeLayer s first (callerLayer custom)
  refine ⟨new, ?_, hnew⟩
  -- both layers are merged on the copy, and then it is handed out
  have hload : (load files language custom file).run.run s =
      ((mergeLayer s.drafts.length (fileLayer files file) >>= fun _ =>
        mergeLayer s.drafts.length (callerLayer custom)) >>= fun _ =>
          release s.drafts.length).run.run (s.push (defaults s language)) := by
    rw [load, run_bind, run_copy, bind_assoc]
  rw [hload, run_bind, hrun]
  rw [gather]
  generalize (fileLayer files file >>= (defaults s language).writeAll) >>= _ = r at hnew ⊢
  cases r with
  | error f => rfl
  | ok gathered =>
    obtain rfl := hnew gathered rfl
    exact run_release s new

/-- Whether or not a configuration is loaded, this leaves one new pair of dictionaries, and what is
handed out stands there. -/
theorem exists_push_of_load (s : Store) (files : FileTree) (language : String)
    (custom file : Json) :
    ∃ r new, (load files language custom file).run.run s = (r, s.push new) ∧
      ∀ issued, r = .ok issued → issued.language = s.tables.length := by
  obtain ⟨new, hrun, -⟩ := run_load s files language custom file
  refine ⟨_, new, hrun, fun issued h => ?_⟩
  obtain ⟨gathered, -, h⟩ := ok_of_bind h
  obtain ⟨own, -, h⟩ := ok_of_bind h
  exact congrArg Issued.language (Except.ok.inj h).symm

/-! ### Histories -/

/-- What can be done with a manager and with the configurations that it hands out. -/
inductive Action
  /-- A configuration is loaded, if this succeeds. -/
  | load (files : FileTree) (language : String) (custom file : Json)
  /-- A setting of the language is changed in a configuration that has been handed out. -/
  | assign (index : Nat) (name : String) (v : Json)

/-- A manager that is in use: its dictionaries, and what it has handed out so far. -/
structure Session where
  /-- The dictionaries. -/
  store : Store := Manager.store
  /-- The configurations that were handed out, in order. -/
  issued : List Issued := []

namespace Session

/-- The session after an action, whether or not the action ends in a fault. -/
def after (session : Session) : Action → Session
  | .load files language custom file =>
    match (Manager.load files language custom file).run.run session.store with
    | (.ok issued, store) => { store, issued := session.issued ++ [issued] }
    | (.error _, store) => { session with store }
  | .assign index name v =>
    match session.issued[index]? with
    | some issued => { session with store := ((issued.assign name v).run.run session.store).2 }
    | none => session

/-- The session of a new manager after some actions. -/
def afterAll (history : List Action) : Session := history.foldl after {}

/-- Whether the defaults are where they were, and nothing that was handed out shares a place with
them. -/
structure IsApart (session : Session) : Prop where
  /-- The dictionaries of the new manager stand as they were. -/
  extends_store : session.store.Extends Manager.store
  /-- What was handed out stands behind them. -/
  le_language : ∀ issued ∈ session.issued, Manager.store.tables.length ≤ issued.language

/-- An action leaves the defaults where they are. -/
theorem IsApart.after {session : Session} (h : session.IsApart) (a : Action) :
    (session.after a).IsApart := by
  cases a with
  | load files language custom file =>
    obtain ⟨r, new, hrun, hplace⟩ := exists_push_of_load session.store files language custom file
    have hextends := h.extends_store.push new
    rw [Session.after, hrun]
    cases r with
    | error f => exact ⟨hextends, h.le_language⟩
    | ok issued =>
      refine ⟨hextends, List.forall_mem_append.mpr ⟨h.le_language, ?_⟩⟩
      -- the new dictionaries stand behind all that there were
      obtain ⟨drafts, tables, hstore⟩ := h.extends_store
      rw [List.forall_mem_singleton, hplace issued rfl, hstore, List.length_append]
      exact Nat.le_add_right _ _
  | assign index name v =>
    rw [Session.after]
    cases hissued : session.issued[index]? with
    | none => exact h
    | some issued =>
      have hplace := h.le_language issued (List.mem_of_getElem? hissued)
      exact ⟨h.extends_store.setTable hplace _, h.le_language⟩

/-- So does a history. -/
theorem isApart_afterAll (history : List Action) : (afterAll history).IsApart := by
  have hnew : IsApart {} := ⟨.refl _, by simp⟩
  unfold afterAll
  generalize ({} : Session) = session at hnew
  induction history generalizing session with
  | nil => exact hnew
  | cons a history ih => exact ih _ (hnew.after a)

end Session

end Manager

end SchemaStruct
