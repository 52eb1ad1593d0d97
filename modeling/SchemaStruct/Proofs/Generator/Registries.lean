import Mathlib
import SchemaStruct.Generator.Registry
import SchemaStruct.Proofs.Faults
import SchemaStruct.Proofs.Text.Case

/-!
# Registries Over a Whole Run

A registry begins empty and changes by registrations, which may fail or be skipped, and by
unregistrations. Its two tables are written separately, an alias can be taken over by another
language, and a name can be a language and an alias at once. What survives all of this is that
every alias leads to a language, so looking up any name at all ends in something registered or in
the fault for unknown names. A registration that fails has written nothing, and one of a new
language is undone by unregistering it.

## Main definitions

* `Registry.added`: the registry behind a registration that takes place;
* `Registry.Change` and `Registry.afterAll`: a run of changes;
* `Registry.Sound`: the invariant of such a run.

## Main results

* `Registry.returns_enter_iff` and `Registry.eq_of_throws_enter`: what a registration comes to;
* `Registry.sound_afterAll`: every run keeps the invariant;
* `Registry.unregister_added`: unregistering undoes a registration;
* `Registry.afterAll_integrity`: all of this for the registry behind any run.
-/

namespace SchemaStruct.Registry

variable {α : Type}

section Tables

variable {β : Type} {key name : String} {b : β} {entries : List (String × β)}

/-- Setting a key leaves the other entries and adds one. -/
theorem mem_put {e : String × β} (h : e ∈ put key b entries) : e = (key, b) ∨ e ∈ entries := by
  induction entries with
  | nil => simpa [put] using h
  | cons first rest ih =>
    obtain ⟨k, c⟩ := first
    rw [put] at h
    split at h
    · rename_i hk
      subst hk
      rcases List.mem_cons.1 h with rfl | hrest
      · exact .inl rfl
      · exact .inr (List.mem_cons_of_mem _ hrest)
    · rcases List.mem_cons.1 h with rfl | hrest
      · exact .inr List.mem_cons_self
      · exact (ih hrest).imp_right (List.mem_cons_of_mem _)

/-- A key that is set already keeps its place; a new one goes to the end. -/
theorem keys_put (key : String) (b : β) (entries : List (String × β)) :
    (put key b entries).map Prod.fst =
      if key ∈ entries.map Prod.fst then entries.map Prod.fst
      else entries.map Prod.fst ++ [key] := by
  induction entries with
  | nil => simp [put]
  | cons first rest ih =>
    obtain ⟨k, c⟩ := first
    by_cases hk : k = key
    · simp [put, hk]
    · have hkey : key ≠ k := fun h => hk h.symm
      by_cases hrest : key ∈ rest.map Prod.fst
      · rw [if_pos hrest] at ih
        rw [put, if_neg hk, List.map_cons, ih, List.map_cons,
          if_pos (List.mem_cons_of_mem _ hrest)]
      · rw [if_neg hrest] at ih
        have hnot : key ∉ k :: rest.map Prod.fst := List.not_mem_cons_of_ne_of_not_mem hkey hrest
        rw [put, if_neg hk, List.map_cons, ih, List.map_cons, if_neg hnot, List.cons_append]

/-- The keys behind setting one. -/
theorem mem_keys_put_iff :
    name ∈ (put key b entries).map Prod.fst ↔ name = key ∨ name ∈ entries.map Prod.fst := by
  rw [keys_put]
  split
  case isTrue h => exact ⟨.inr, fun hname => hname.elim (fun heq => heq ▸ h) id⟩
  case isFalse => rw [List.mem_append, List.mem_singleton, or_comm]

/-- Keys do not become ambiguous by setting one. -/
theorem nodup_keys_put (h : (entries.map Prod.fst).Nodup) :
    ((put key b entries).map Prod.fst).Nodup := by
  rw [keys_put]
  split
  case isTrue => exact h
  case isFalse hkey =>
    refine List.nodup_append.2 ⟨h, List.nodup_singleton key, ?_⟩
    rintro k hk k' hk' rfl
    exact hkey (List.mem_singleton.1 hk' ▸ hk)

/-- What is found behind setting a key. -/
theorem lookup_put (name key : String) (b : β) (entries : List (String × β)) :
    (put key b entries).lookup name = if name = key then some b else entries.lookup name := by
  induction entries with
  | nil =>
    rw [put, List.lookup_cons]
    by_cases hname : name = key
    · simp [hname]
    · simp [beq_eq_false_iff_ne.2 hname, hname]
  | cons first rest ih =>
    obtain ⟨k, c⟩ := first
    rw [put]
    by_cases hk : k = key
    · rw [if_pos hk, List.lookup_cons, List.lookup_cons, hk]
      by_cases hname : name = key
      · simp [hname]
      · simp [beq_eq_false_iff_ne.2 hname, hname]
    · rw [if_neg hk, List.lookup_cons, List.lookup_cons, ih]
      by_cases hname : name = k
      · simp [hname, hk]
      · simp [beq_eq_false_iff_ne.2 hname]

/-- A key is found if it has an entry. -/
theorem lookup_isSome_iff : (entries.lookup name).isSome = true ↔ name ∈ entries.map Prod.fst := by
  rw [← not_iff_not, Bool.not_eq_true, Option.isSome_eq_false_iff, Option.isNone_iff_eq_none,
    List.lookup_eq_none_iff]
  simp only [List.mem_map, bne_iff_ne, not_exists, not_and]
  exact ⟨fun h e he heq => h e he heq.symm, fun h e he heq => h e he heq.symm⟩

/-- What is found has an entry. -/
theorem mem_of_lookup (h : entries.lookup name = some b) : (name, b) ∈ entries := by
  obtain ⟨front, back, heq, -⟩ := List.lookup_eq_some_iff.1 h
  simp [heq]

end Tables

variable {r r' : Registry α} {key name language : String} {a : α} {candidate : Option α}
  {names : List String} {replace : Bool}

/-- A language is one that has an entry. -/
theorem hasLanguage_iff : r.hasLanguage name = true ↔ name ∈ r.languages.map Prod.fst :=
  lookup_isSome_iff

/-- The languages behind putting something under one. -/
theorem hasLanguage_putLanguage :
    (r.putLanguage key a).hasLanguage name = true ↔ name = key ∨ r.hasLanguage name = true := by
  rw [hasLanguage_iff, hasLanguage_iff]
  exact mem_keys_put_iff

/-- An alias is free for a language if it is no language and leads to no other one. -/
theorem checkAlias_eq_ok_iff :
    r.checkAlias key name = .ok () ↔
      r.hasLanguage name = false ∧
        ∀ target, r.aliases.lookup name = some target → target = key := by
  rw [checkAlias]
  cases r.hasLanguage name with
  | true => simp
  | false =>
    cases hlookup : r.aliases.lookup name with
    | none => simp
    | some target => by_cases htarget : target = key <;> simp [htarget]

/-! ### What a registration comes to -/

/-- The registry behind a registration that takes place. -/
def added (r : Registry α) (key : String) (a : α) (names : List String) : Registry α :=
  names.foldl (fun acc name => acc.putAlias key name) (r.putLanguage key a)

/-- A result that depends on nothing registered. -/
theorem returns_ofExcept_iff {x : Except Fault Unit} :
    Returns (ofExcept x : ExceptT Fault (StateM (Registry α)) Unit) r () r' ↔
      x = .ok () ∧ r' = r := by
  cases x with
  | ok u => exact returns_pure_iff.trans (by simp)
  | error f => exact ⟨fun h => absurd h (not_returns_throw f), fun h => nomatch h.1⟩

/-- A fault that depends on nothing registered. -/
theorem throws_ofExcept_iff {x : Except Fault Unit} {f : Fault} :
    Throws (ofExcept x : ExceptT Fault (StateM (Registry α)) Unit) r f r' ↔
      x = .error f ∧ r' = r := by
  cases x with
  | ok u => exact ⟨fun h => absurd h not_throws_pure, fun h => nomatch h.1⟩
  | error e => exact throws_throw_iff.trans (by simp [eq_comm])

/-- Checking aliases reads the registry and leaves it alone. -/
theorem returns_checkAliases_iff {u : Unit} :
    Returns (checkAliases key names) r u r' ↔
      (∀ name ∈ names, r.checkAlias key name = .ok ()) ∧ r' = r := by
  unfold checkAliases
  induction names with
  | nil => simp
  | cons name rest ih =>
    simp only [List.forM_eq_forM, List.forM_cons, returns_bind_iff, returns_get_iff] at ih ⊢
    constructor
    · rintro ⟨⟨⟩, _, ⟨_, _, ⟨rfl, rfl⟩, hname⟩, hrest⟩
      obtain ⟨hname, rfl⟩ := returns_ofExcept_iff.1 hname
      obtain ⟨hrest, rfl⟩ := ih.1 hrest
      exact ⟨List.forall_mem_cons.2 ⟨hname, hrest⟩, rfl⟩
    · rintro ⟨hall, rfl⟩
      obtain ⟨hname, hrest⟩ := List.forall_mem_cons.1 hall
      exact ⟨(), _, ⟨_, _, ⟨rfl, rfl⟩, returns_ofExcept_iff.2 ⟨hname, rfl⟩⟩, ih.2 ⟨hrest, rfl⟩⟩

/-- A check that fails leaves the registry alone. -/
theorem eq_of_throws_checkAliases {f : Fault} (h : Throws (checkAliases key names) r f r') :
    r' = r := by
  unfold checkAliases at h
  induction names with
  | nil => exact absurd h not_throws_pure
  | cons name rest ih =>
    simp only [List.forM_eq_forM, List.forM_cons, throws_bind_iff, returns_bind_iff,
      returns_get_iff, not_throws_get, false_or] at h ih
    rcases h with ⟨_, _, ⟨rfl, rfl⟩, hname⟩ | ⟨⟨⟩, _, ⟨_, _, ⟨rfl, rfl⟩, hname⟩, hrest⟩
    · exact (throws_ofExcept_iff.1 hname).2
    · obtain ⟨-, rfl⟩ := returns_ofExcept_iff.1 hname
      exact ih hrest

/-- Writing a language and its aliases succeeds. -/
theorem run_write (r : Registry α) (key : String) (a : α) (names : List String) :
    (write key a names).run.run r = (.ok (), r.added key a names) := by
  have haliases : ∀ acc : Registry α,
      Returns (names.forM fun name => modify fun acc : Registry α => acc.putAlias key name) acc ()
        (names.foldl (fun acc name => acc.putAlias key name) acc) := by
    induction names with
    | nil => exact fun acc => returns_pure_iff.2 ⟨rfl, rfl⟩
    | cons name rest ih =>
      exact fun acc => returns_bind_iff.2 ⟨⟨⟩, _, returns_modify_iff.2 rfl, ih _⟩
  exact returns_bind_iff.2 ⟨⟨⟩, _, returns_modify_iff.2 rfl, haliases _⟩

/-- The registry behind writing. -/
theorem returns_write_iff {u : Unit} :
    Returns (write key a names) r u r' ↔ r' = r.added key a names := by
  rw [Returns, run_write]
  exact ⟨fun h => (congrArg Prod.snd h).symm, fun h => h ▸ rfl⟩

/-- Writing cannot fail. -/
theorem not_throws_write {f : Fault} : ¬ Throws (write key a names) r f r' := by
  rw [Throws, run_write]
  intro h
  cases congrArg Prod.fst h

/-- A registration that succeeds was skipped, or took place: then its language was new and its
aliases were free, unless it was to replace what was there. -/
theorem returns_enter_iff {u : Unit} :
    Returns (enter language candidate names replace) r u r' ↔
      ∃ a, candidate = some a ∧
        (r.hasLanguage (Text.lowerCase language) = true ∧ replace = false ∧ r' = r ∨
          (replace = false → r.hasLanguage (Text.lowerCase language) = false ∧
            ∀ name ∈ aliasKeys (Text.lowerCase language) names,
              r.checkAlias (Text.lowerCase language) name = .ok ()) ∧
          r' = r.added (Text.lowerCase language) a
            (aliasKeys (Text.lowerCase language) names)) := by
  cases candidate with
  | none => simp [enter]
  | some a =>
    cases hlanguage : r.hasLanguage (Text.lowerCase language) <;> cases replace <;>
      simp [enter, hlanguage, returns_write_iff, returns_checkAliases_iff, and_assoc]

/-- A registration that fails has written nothing. -/
theorem eq_of_throws_enter {f : Fault}
    (h : Throws (enter language candidate names replace) r f r') : r' = r := by
  cases candidate with
  | none => exact (throws_throw_iff.1 h).2
  | some a =>
    -- only the checks of a new language can fail
    cases hlanguage : r.hasLanguage (Text.lowerCase language) <;> cases replace <;>
      simp [enter, hlanguage, not_throws_write] at h
    exact eq_of_throws_checkAliases h

/-- A registration gives the registry that it ends in. -/
theorem register_eq_ok_iff :
    r.register language candidate names replace = .ok r' ↔
      Returns (enter language candidate names replace) r () r' := by
  rcases hrun : (enter language candidate names replace).run.run r with ⟨result, after⟩
  rw [register, Returns, hrun]
  cases result with
  | error f =>
    constructor
    · intro h
      cases h
    · intro h
      cases congrArg Prod.fst h
  | ok u =>
    constructor
    · intro h
      rw [Except.ok.inj h]
    · intro h
      exact congrArg (Except.ok ∘ Prod.snd) h

/-! ### The invariant -/

/-- What holds of a registry behind any run of changes. -/
structure Sound (r : Registry α) : Prop where
  /-- An alias leads to a language. -/
  leads : ∀ e ∈ r.aliases, r.hasLanguage e.2 = true
  /-- No alias leads to itself. -/
  proper : ∀ e ∈ r.aliases, e.1 ≠ e.2
  /-- Languages are in small letters. -/
  lower_languages : ∀ name ∈ r.languages.map Prod.fst, Text.lowerCase name = name
  /-- Aliases are in small letters. -/
  lower_aliases : ∀ name ∈ r.aliases.map Prod.fst, Text.lowerCase name = name
  /-- Every alias has one entry. -/
  nodup_aliases : (r.aliases.map Prod.fst).Nodup

namespace Sound

/-- Nothing is registered at first. -/
theorem empty : Sound ({} : Registry α) :=
  ⟨by simp, by simp, by simp, by simp, by simp⟩

/-- Putting something under a language keeps the invariant. -/
theorem putLanguage (h : r.Sound) (hkey : Text.lowerCase key = key) :
    (r.putLanguage key a).Sound where
  leads e he := hasLanguage_putLanguage.2 (.inr (h.leads e he))
  proper := h.proper
  lower_languages name hname := by
    rcases mem_keys_put_iff.1 hname with rfl | hname
    · exact hkey
    · exact h.lower_languages name hname
  lower_aliases := h.lower_aliases
  nodup_aliases := h.nodup_aliases

/-- An alias of a language keeps the invariant, also one that led to another language. -/
theorem putAlias (h : r.Sound) (hkey : r.hasLanguage key = true)
    (hname : Text.lowerCase name = name) (hne : name ≠ key) : (r.putAlias key name).Sound where
  leads e he := by
    rcases mem_put he with rfl | he
    · exact hkey
    · exact h.leads e he
  proper e he := by
    rcases mem_put he with rfl | he
    · exact hne
    · exact h.proper e he
  lower_languages := h.lower_languages
  lower_aliases k hk := by
    rcases mem_keys_put_iff.1 hk with rfl | hk
    · exact hname
    · exact h.lower_aliases k hk
  nodup_aliases := nodup_keys_put h.nodup_aliases

/-- A registration that takes place keeps the invariant. -/
theorem added (h : r.Sound) (hkey : Text.lowerCase key = key)
    (hnames : ∀ name ∈ names, Text.lowerCase name = name ∧ name ≠ key) :
    (r.added key a names).Sound := by
  -- the language is there while the aliases are written
  have hwritten : ∀ acc : Registry α, acc.Sound → acc.hasLanguage key = true →
      (names.foldl (fun acc name => acc.putAlias key name) acc).Sound := by
    induction names with
    | nil => exact fun acc hacc _ => hacc
    | cons name rest ih =>
      intro acc hacc hlanguage
      obtain ⟨hname, hrest⟩ := List.forall_mem_cons.1 hnames
      exact ih hrest (acc.putAlias key name) (hacc.putAlias hlanguage hname.1 hname.2) hlanguage
  exact hwritten (r.putLanguage key a) (h.putLanguage hkey) (hasLanguage_putLanguage.2 (.inl rfl))

/-- Unregistering a language takes its aliases along, so those that stay lead to languages that
stay. -/
theorem unregister (h : r.Sound) (language : String) : (r.unregister language).Sound where
  leads e he := by
    obtain ⟨he, hne⟩ := List.mem_filter.1 he
    have htarget := hasLanguage_iff.1 (h.leads e he)
    obtain ⟨entry, hentry, heq⟩ := List.mem_map.1 htarget
    exact hasLanguage_iff.2 (List.mem_map.2 ⟨entry, List.mem_filter.2 ⟨hentry, heq ▸ hne⟩, heq⟩)
  proper e he := h.proper e (List.mem_of_mem_filter he)
  lower_languages name hname :=
    h.lower_languages name (List.map_subset _ (List.filter_subset_self _) hname)
  lower_aliases name hname :=
    h.lower_aliases name (List.map_subset _ (List.filter_subset_self _) hname)
  nodup_aliases := h.nodup_aliases.sublist (List.filter_sublist.map _)

end Sound

/-- The aliases that a language is registered with are in small letters and other than it. -/
theorem of_mem_aliasKeys (h : name ∈ aliasKeys key names) :
    Text.lowerCase name = name ∧ name ≠ key := by
  obtain ⟨hname, hne⟩ := List.mem_filter.1 h
  obtain ⟨written, -, rfl⟩ := List.mem_map.1 hname
  exact ⟨Text.lowerCase_lowerCase written, bne_iff_ne.1 hne⟩

/-! ### Runs of changes -/

/-- A change of a registry. -/
inductive Change (α : Type)
  /-- Something is registered for a language and some aliases. -/
  | register (language : String) (candidate : Option α) (names : List String) (replace : Bool)
  /-- A language is unregistered. -/
  | unregister (language : String)

/-- The registry that a change leaves behind, whether or not it succeeds. -/
def Change.apply (r : Registry α) : Change α → Registry α
  | .register language candidate names replace =>
    ((enter language candidate names replace).run.run r).2
  | .unregister language => r.unregister language

/-- The registry behind a run of changes that begins with an empty one. -/
def afterAll (changes : List (Change α)) : Registry α := changes.foldl Change.apply {}

/-- A registration leaves the registry alone or takes place. -/
theorem apply_register (r : Registry α) (language : String) (candidate : Option α)
    (names : List String) (replace : Bool) :
    (Change.register language candidate names replace).apply r = r ∨
      ∃ a, Returns (enter language candidate names replace) r ()
          ((Change.register language candidate names replace).apply r) ∧
        (Change.register language candidate names replace).apply r =
          r.added (Text.lowerCase language) a (aliasKeys (Text.lowerCase language) names) := by
  rcases hrun : (enter language candidate names replace).run.run r with ⟨result, r'⟩
  simp only [Change.apply, hrun]
  cases result with
  | error f => exact .inl (eq_of_throws_enter hrun)
  | ok u =>
    obtain ⟨a, -, ⟨-, -, hskipped⟩ | ⟨-, hadded⟩⟩ := returns_enter_iff.1 hrun
    · exact .inl hskipped
    · exact .inr ⟨a, hrun, hadded⟩

/-- A change keeps the invariant. -/
theorem Sound.apply (h : r.Sound) (change : Change α) : (change.apply r).Sound := by
  cases change with
  | register language candidate names replace =>
    obtain hsame | ⟨a, -, hadded⟩ := apply_register r language candidate names replace
    · rwa [hsame]
    · rw [hadded]
      exact h.added (Text.lowerCase_lowerCase language) fun name hname => of_mem_aliasKeys hname
  | unregister language => exact h.unregister language

/-- The invariant holds behind every run of changes. -/
theorem sound_afterAll (changes : List (Change α)) : (afterAll changes).Sound :=
  List.foldlRecOn changes Change.apply Sound.empty fun _ h change _ => h.apply change

/-! ### Undoing a registration -/

/-- Something put under a language goes with the language. -/
theorem unregister_putLanguage (r : Registry α) (a : α) (language : String) :
    (r.putLanguage (Text.lowerCase language) a).unregister language = r.unregister language := by
  have hfilter : ∀ entries : List (String × α),
      (put (Text.lowerCase language) a entries).filter (·.1 != Text.lowerCase language) =
        entries.filter (·.1 != Text.lowerCase language) := by
    intro entries
    induction entries with
    | nil => simp [put]
    | cons first rest ih =>
      rw [put]
      split
      · rename_i hkey
        simp [hkey]
      · rw [List.filter_cons, List.filter_cons, ih]
  simp only [unregister, putLanguage, hfilter]

/-- An alias that is free for a language goes with the language. -/
theorem unregister_putAlias
    (h : ∀ target, r.aliases.lookup name = some target → target = Text.lowerCase language) :
    (r.putAlias (Text.lowerCase language) name).unregister language = r.unregister language := by
  have hfilter : ∀ entries : List (String × String),
      (∀ target, entries.lookup name = some target → target = Text.lowerCase language) →
      (put name (Text.lowerCase language) entries).filter (·.2 != Text.lowerCase language) =
        entries.filter (·.2 != Text.lowerCase language) := by
    intro entries hfree
    induction entries with
    | nil => simp [put]
    | cons first rest ih =>
      obtain ⟨k, target⟩ := first
      rw [put]
      split
      · rename_i hk
        have htarget : target = Text.lowerCase language :=
          hfree target (by simp [hk])
        simp [htarget]
      · rename_i hk
        have hne : (name == k) = false := beq_eq_false_iff_ne.2 fun heq => hk heq.symm
        have hrest := ih fun t ht => hfree t (by rw [List.lookup_cons, hne, ht])
        rw [List.filter_cons, List.filter_cons, hrest]
  simp only [unregister, putAlias, hfilter _ h]

/-- Aliases that are free for a language go with the language. -/
theorem unregister_foldl_putAlias {acc : Registry α}
    (h : ∀ name ∈ names, ∀ target, acc.aliases.lookup name = some target →
      target = Text.lowerCase language) :
    (names.foldl (fun acc name => acc.putAlias (Text.lowerCase language) name) acc).unregister
      language = acc.unregister language := by
  induction names generalizing acc with
  | nil => rfl
  | cons name rest ih =>
    obtain ⟨hname, hrest⟩ := List.forall_mem_cons.1 h
    rw [List.foldl_cons, ih, unregister_putAlias hname]
    -- an alias that has been written leads to the language itself
    intro other hother target htarget
    rw [putAlias, lookup_put] at htarget
    split at htarget
    · exact (Option.some.inj htarget).symm
    · exact hrest other hother target htarget

/-- Unregistering a language that is not there changes nothing. -/
theorem Sound.unregister_eq_self (h : r.Sound)
    (hnew : r.hasLanguage (Text.lowerCase language) = false) : r.unregister language = r := by
  have hlanguages : r.languages.filter (·.1 != Text.lowerCase language) = r.languages :=
    List.filter_eq_self.2 fun e he => bne_iff_ne.2 fun heq => by
      have hthere := hasLanguage_iff.2 (List.mem_map.2 ⟨e, he, heq⟩)
      rw [hnew] at hthere
      cases hthere
  have haliases : r.aliases.filter (·.2 != Text.lowerCase language) = r.aliases :=
    List.filter_eq_self.2 fun e he => bne_iff_ne.2 fun heq => by
      have hthere := h.leads e he
      rw [heq, hnew] at hthere
      cases hthere
  simp only [Registry.unregister, hlanguages, haliases]

/-- A registration of a new language that takes place is undone by unregistering the language. -/
theorem Sound.unregister_added (h : r.Sound)
    (hnew : r.hasLanguage (Text.lowerCase language) = false)
    (hfree : ∀ name ∈ names, r.checkAlias (Text.lowerCase language) name = .ok ()) :
    (r.added (Text.lowerCase language) a names).unregister language = r := by
  have hlookup : ∀ name ∈ names, ∀ target,
      (r.putLanguage (Text.lowerCase language) a).aliases.lookup name = some target →
        target = Text.lowerCase language :=
    fun name hname => (checkAlias_eq_ok_iff.1 (hfree name hname)).2
  calc (r.added (Text.lowerCase language) a names).unregister language
      = (r.putLanguage (Text.lowerCase language) a).unregister language :=
        unregister_foldl_putAlias hlookup
    _ = r.unregister language := unregister_putLanguage r a language
    _ = r := h.unregister_eq_self hnew

/-! ### Looking up names -/

/-- A language that is there has something registered. -/
theorem exists_lookup_of_hasLanguage (h : r.hasLanguage key = true) :
    ∃ a, (key, a) ∈ r.languages ∧ r.languages.lookup key = some a := by
  obtain ⟨a, ha⟩ := Option.isSome_iff_exists.1 h
  exact ⟨a, mem_of_lookup ha, ha⟩

/-- Looking up a name that leads somewhere gives something registered. -/
theorem Sound.exists_find (h : r.Sound) (hresolve : r.resolve name = .ok key) :
    ∃ a, (key, a) ∈ r.languages ∧ r.find name = .ok a := by
  have hlanguage : r.hasLanguage key = true := by
    rw [resolve] at hresolve
    split at hresolve
    · rename_i hlanguage
      cases hresolve
      exact hlanguage
    · split at hresolve
      · rename_i target htarget
        cases hresolve
        exact h.leads _ (mem_of_lookup htarget)
      · cases hresolve
  obtain ⟨a, ha, hlookup⟩ := exists_lookup_of_hasLanguage hlanguage
  refine ⟨a, ha, ?_⟩
  simp [find, hresolve, hlookup, bind, Except.bind, pure, Except.pure]

/-- A name that leads nowhere is unknown. -/
theorem eq_of_resolve_eq_error {f : Fault} (h : r.resolve name = .error f) :
    f = .unknownLanguage name r.names := by
  rw [resolve] at h
  split at h
  · cases h
  · split at h
    · cases h
    · exact (Except.error.inj h).symm

/-- The registry behind any run of changes: its aliases lead to languages; looking up any name gives
something registered or is refused as a fault of the registry; a registration that fails leaves the
registry as it is; and a new language that is registered, and not as a replacement, is undone by
unregistering it. -/
theorem afterAll_integrity (changes : List (Change α)) :
    (∀ name target, (name, target) ∈ (afterAll changes).aliases →
      ∃ a, (target, a) ∈ (afterAll changes).languages) ∧
    (∀ name, (∃ key a, (afterAll changes).resolve name = .ok key ∧
        (key, a) ∈ (afterAll changes).languages ∧ (afterAll changes).find name = .ok a) ∨
      (afterAll changes).find name =
        .error (.unknownLanguage name (afterAll changes).names)) ∧
    (∀ language candidate names replace f r',
      Throws (enter language candidate names replace) (afterAll changes) f r' →
        r' = afterAll changes) ∧
    (∀ language candidate names r',
      (afterAll changes).hasLanguage (Text.lowerCase language) = false →
      (afterAll changes).register language candidate names = .ok r' →
        r'.unregister language = afterAll changes) := by
  have hsound := sound_afterAll changes
  refine ⟨?leads, ?found, ?failed, ?undone⟩
  case leads =>
    intro name target halias
    obtain ⟨a, ha, -⟩ := exists_lookup_of_hasLanguage (hsound.leads _ halias)
    exact ⟨a, ha⟩
  case found =>
    intro name
    cases hresolve : (afterAll changes).resolve name with
    | ok key =>
      obtain ⟨a, ha, hfind⟩ := hsound.exists_find hresolve
      exact .inl ⟨key, a, rfl, ha, hfind⟩
    | error f =>
      rw [← eq_of_resolve_eq_error hresolve]
      exact .inr (by simp [find, hresolve, bind, Except.bind])
  case failed => exact fun _ _ _ _ _ _ h => eq_of_throws_enter h
  case undone =>
    intro language candidate names r' hnew hrun
    obtain ⟨a, -, ⟨hold, -, -⟩ | ⟨hchecks, rfl⟩⟩ :=
      returns_enter_iff.1 (register_eq_ok_iff.1 hrun)
    · rw [hnew] at hold
      cases hold
    · exact hsound.unregister_added hnew (hchecks rfl).2

/-- A run with a registration that takes place, one that fails and a language that is not there. -/
def gems : List (Change String) :=
  [.register "Ruby" (some "FixedGenerator") ["gem", "RB"] false, .register "perl" none [] false,
    .unregister "python"]

/-- Behind that run an alias leads to Ruby and is found in any case of letters; a registration that
wants this alias for Perl fails and leaves the registry alone; and Perl with an alias of its own
comes and goes without a trace. -/
theorem afterAll_integrity_gems :
    (∃ a, ("ruby", a) ∈ (afterAll gems).languages) ∧
    (∃ key a, (afterAll gems).resolve "Gem" = .ok key ∧ (key, a) ∈ (afterAll gems).languages ∧
      (afterAll gems).find "Gem" = .ok a) ∧
    (∃ r', Throws (enter "Perl" (some "OtherGenerator") ["pl", "gem"] false) (afterAll gems)
      (.aliasTaken "gem" "ruby") r' ∧ r' = afterAll gems) ∧
    ∃ r', (afterAll gems).register "Perl" (some "OtherGenerator") ["pl"] = .ok r' ∧
      r'.aliases = [("gem", "ruby"), ("rb", "ruby"), ("pl", "perl")] ∧
      r'.unregister "Perl" = afterAll gems := by
  obtain ⟨hleads, hfound, hfailed, hundone⟩ := afterAll_integrity gems
  have hruby := hleads "gem" "ruby" (by decide +kernel)
  have hgem := (hfound "Gem").resolve_right fun h => nomatch h
  have htaken : ∃ r', Throws (enter "Perl" (some "OtherGenerator") ["pl", "gem"] false)
      (afterAll gems) (.aliasTaken "gem" "ruby") r' := ⟨_, rfl⟩
  obtain ⟨kept, htaken⟩ := htaken
  have hpl : ∃ r', (afterAll gems).register "Perl" (some "OtherGenerator") ["pl"] = .ok r' ∧
      r'.aliases = [("gem", "ruby"), ("rb", "ruby"), ("pl", "perl")] := ⟨_, rfl, rfl⟩
  obtain ⟨grown, hregister, haliases⟩ := hpl
  have hgone := hundone "Perl" (some "OtherGenerator") ["pl"] grown (by decide +kernel) hregister
  exact ⟨hruby, hgem, ⟨kept, htaken, hfailed "Perl" _ _ _ _ kept htaken⟩,
    ⟨grown, hregister, haliases, hgone⟩⟩

end SchemaStruct.Registry
