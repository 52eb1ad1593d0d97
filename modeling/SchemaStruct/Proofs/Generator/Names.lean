import Mathlib
import SchemaStruct.Proofs.Generator.Registries

/-!
# Names in a Registry

A name that is a language and an alias of another language at once is ambiguous: it is listed for
both languages and leads to the first one only. A registration checks its aliases against the
languages that are there, but not its own language against the aliases that are there. So the names
of a registry stay unambiguous as long as nothing is registered under the name of an alias, and no
longer.

## Main definitions

* `Registry.Unambiguous`: no name is a language and an alias;
* `Registry.ListsResolved` and `Registry.ListsOnce`: what this says about the lists of names.

## Main results

* `Registry.Sound.unambiguous_iff_listsResolved` and `Registry.Sound.unambiguous_iff_listsOnce`: the
  three are the same;
* `Registry.Unambiguous.apply`: one change keeps the names unambiguous unless it makes an alias a
  language;
* `Registry.unambiguous_run_iff`: when the names stay unambiguous over a whole run.
-/

namespace SchemaStruct.Registry

variable {α : Type} {r r' : Registry α} {key name language : String} {a : α}
  {candidate : Option α} {names : List String}

/-- No name is a language and an alias. -/
def Unambiguous (r : Registry α) : Prop :=
  ∀ name ∈ r.aliases.map Prod.fst, r.hasLanguage name = false

/-- Every name that is listed for a language leads to it. -/
def ListsResolved (r : Registry α) : Prop :=
  ∀ entry ∈ r.allNames, ∀ name ∈ entry.2, r.resolve name = .ok entry.1

/-- No name is listed for two languages. -/
def ListsOnce (r : Registry α) : Prop :=
  ∀ entry ∈ r.allNames, ∀ other ∈ r.allNames, ∀ name ∈ entry.2, name ∈ other.2 →
    entry.1 = other.1

/-! ### The lists of names -/

/-- The lists of names are those of the languages. -/
theorem mem_allNames_iff {entry : String × List String} :
    entry ∈ r.allNames ↔
      r.hasLanguage entry.1 = true ∧ entry.2 = entry.1 :: r.aliasesOf entry.1 := by
  rw [hasLanguage_iff, allNames, List.mem_map]
  constructor
  · rintro ⟨⟨key, a⟩, hkey, rfl⟩
    exact ⟨List.mem_map.2 ⟨_, hkey, rfl⟩, rfl⟩
  · rintro ⟨hkey, hnames⟩
    obtain ⟨e, he, hfst⟩ := List.mem_map.1 hkey
    exact ⟨e, he, Prod.ext hfst (by rw [hnames, ← hfst])⟩

/-- The aliases of a language are those that lead to it. -/
theorem Sound.mem_aliasesOf_iff (h : r.Sound) (hkey : r.hasLanguage key = true) :
    name ∈ r.aliasesOf key ↔ (name, key) ∈ r.aliases := by
  have hlower := h.lower_languages key (hasLanguage_iff.1 hkey)
  simp [aliasesOf, hlower]

/-- An alias leads to its language unless it is a language itself. -/
theorem Sound.resolve_alias (h : r.Sound) (halias : (name, key) ∈ r.aliases)
    (hname : r.hasLanguage name = false) : r.resolve name = .ok key := by
  have hmem : name ∈ r.aliases.map Prod.fst := List.mem_map.2 ⟨_, halias, rfl⟩
  have hlookup : r.aliases.lookup name = some key := by
    obtain ⟨target, htarget⟩ := Option.isSome_iff_exists.1 (lookup_isSome_iff.2 hmem)
    have hentry := List.inj_on_of_nodup_map h.nodup_aliases halias (mem_of_lookup htarget) rfl
    rw [htarget, (Prod.mk.inj hentry).2]
  simp [resolve, h.lower_aliases name hmem, hname, hlookup]

/-- A language leads to itself. -/
theorem Sound.resolve_language (h : r.Sound) (hkey : r.hasLanguage key = true) :
    r.resolve key = .ok key := by
  simp [resolve, h.lower_languages key (hasLanguage_iff.1 hkey), hkey]

/-- Lists of names that lead to their languages have no name in common. -/
theorem ListsResolved.listsOnce (h : r.ListsResolved) : r.ListsOnce := by
  intro entry hentry other hother name hname hname'
  have hresolve := h entry hentry name hname
  rw [h other hother name hname'] at hresolve
  exact (Except.ok.inj hresolve).symm

/-- If no name is ambiguous, every name that is listed for a language leads to it. -/
theorem Sound.listsResolved (h : r.Sound) (hnames : r.Unambiguous) : r.ListsResolved := by
  intro entry hentry name hname
  obtain ⟨hkey, hlist⟩ := mem_allNames_iff.1 hentry
  rw [hlist] at hname
  rcases List.mem_cons.1 hname with rfl | halias
  · exact h.resolve_language hkey
  · have halias := (h.mem_aliasesOf_iff hkey).1 halias
    exact h.resolve_alias halias (hnames name (List.mem_map.2 ⟨_, halias, rfl⟩))

/-- If no name is listed for two languages, none is ambiguous: a language that is an alias would be
listed for itself and for the language that the alias leads to. -/
theorem Sound.unambiguous (h : r.Sound) (honce : r.ListsOnce) : r.Unambiguous := by
  intro name hname
  obtain ⟨⟨name, target⟩, halias, rfl⟩ := List.mem_map.1 hname
  by_contra hlanguage
  rw [Bool.not_eq_false] at hlanguage
  have htarget : r.hasLanguage target = true := h.leads _ halias
  have hlisted := (h.mem_aliasesOf_iff htarget).2 halias
  have heq := honce (name, name :: r.aliasesOf name) (mem_allNames_iff.2 ⟨hlanguage, rfl⟩)
    (target, target :: r.aliasesOf target) (mem_allNames_iff.2 ⟨htarget, rfl⟩) name
    List.mem_cons_self (List.mem_cons_of_mem _ hlisted)
  exact h.proper _ halias heq

/-- Names are unambiguous if all that are listed lead to the language they are listed for. -/
theorem Sound.unambiguous_iff_listsResolved (h : r.Sound) : r.Unambiguous ↔ r.ListsResolved :=
  ⟨h.listsResolved, fun hlists => h.unambiguous hlists.listsOnce⟩

/-- Names are unambiguous if none is listed for two languages. -/
theorem Sound.unambiguous_iff_listsOnce (h : r.Sound) : r.Unambiguous ↔ r.ListsOnce :=
  ⟨fun hnames => (h.listsResolved hnames).listsOnce, h.unambiguous⟩

/-! ### What a change does to the names -/

/-- The languages behind a registration. -/
theorem hasLanguage_added_iff :
    (r.added key a names).hasLanguage name = true ↔ name = key ∨ r.hasLanguage name = true := by
  have hfold : ∀ acc : Registry α,
      (names.foldl (fun acc name => acc.putAlias key name) acc).hasLanguage name =
        acc.hasLanguage name := by
    induction names with
    | nil => exact fun _ => rfl
    | cons first rest ih => exact fun acc => ih (acc.putAlias key first)
  rw [added, hfold, hasLanguage_putLanguage]

/-- The aliases behind a registration. -/
theorem mem_aliases_added_iff :
    name ∈ (r.added key a names).aliases.map Prod.fst ↔
      name ∈ names ∨ name ∈ r.aliases.map Prod.fst := by
  have hfold : ∀ acc : Registry α,
      name ∈ (names.foldl (fun acc name => acc.putAlias key name) acc).aliases.map Prod.fst ↔
        name ∈ names ∨ name ∈ acc.aliases.map Prod.fst := by
    induction names with
    | nil => simp
    | cons first rest ih =>
      intro acc
      rw [List.foldl_cons, ih, putAlias, mem_keys_put_iff, List.mem_cons]
      tauto
  exact hfold (r.putLanguage key a)

/-- A registration of a language that is no alias, with aliases that are free, keeps the names
unambiguous. -/
theorem Unambiguous.added (h : r.Unambiguous) (hkey : key ∉ r.aliases.map Prod.fst)
    (hfree : ∀ name ∈ names, r.checkAlias key name = .ok ()) (hne : ∀ name ∈ names, name ≠ key) :
    (r.added key a names).Unambiguous := by
  intro name hname
  by_contra hlanguage
  rw [Bool.not_eq_false] at hlanguage
  rcases mem_aliases_added_iff.1 hname with hnew | hold <;>
    rcases hasLanguage_added_iff.1 hlanguage with rfl | hthere
  · exact hne name hnew rfl
  · rw [(checkAlias_eq_ok_iff.1 (hfree name hnew)).1] at hthere
    cases hthere
  · exact hkey hold
  · rw [h name hold] at hthere
    cases hthere

/-- Unregistering a language keeps the names unambiguous. -/
theorem Unambiguous.unregister (h : r.Unambiguous) (language : String) :
    (r.unregister language).Unambiguous := by
  intro name hname
  have hname : name ∈ r.aliases.map Prod.fst :=
    List.map_subset _ (List.filter_subset_self _) hname
  by_contra hlanguage
  rw [Bool.not_eq_false, hasLanguage_iff] at hlanguage
  have hlanguage : r.hasLanguage name = true :=
    hasLanguage_iff.2 (List.map_subset _ (List.filter_subset_self _) hlanguage)
  rw [h name hname] at hlanguage
  cases hlanguage

/-- A registration that makes a language of an alias leaves the name ambiguous. -/
theorem not_unambiguous_added (hkey : key ∈ r.aliases.map Prod.fst) :
    ¬ (r.added key a names).Unambiguous := by
  intro h
  have hlanguage := h key (mem_aliases_added_iff.2 (.inr hkey))
  rw [hasLanguage_added_iff.2 (.inl rfl)] at hlanguage
  cases hlanguage

/-- Whether a change replaces what is registered. -/
def Change.replaces : Change α → Bool
  | .register _ _ _ replace => replace
  | .unregister _ => false

/-! ### Whole runs -/

/-- The registry behind one more change. -/
theorem afterAll_append (front : List (Change α)) (change : Change α) :
    afterAll (front ++ [change]) = change.apply (afterAll front) := by
  rw [afterAll, List.foldl_append]
  rfl

/-- A change that replaces nothing keeps the names unambiguous, unless it makes a language of an
alias. -/
theorem Unambiguous.apply (h : r.Unambiguous) (change : Change α) (hkeep : change.replaces = false)
    (hspares : ∀ language candidate names, change = .register language candidate names false →
      Text.lowerCase language ∈ r.aliases.map Prod.fst →
      ∃ f, r.register language candidate names = .error f) : (change.apply r).Unambiguous := by
  cases change with
  | unregister language => exact h.unregister language
  | register language candidate names replace =>
    obtain rfl : replace = false := hkeep
    obtain hsame | ⟨a, hrun, hadded⟩ := apply_register r language candidate names false
    · rwa [hsame]
    · obtain ⟨_, -, ⟨-, -, hsame⟩ | ⟨hchecks, -⟩⟩ := returns_enter_iff.1 hrun
      · rwa [hsame]
      · -- the registration takes place, so its language is no alias
        have hkey : Text.lowerCase language ∉ r.aliases.map Prod.fst := by
          intro halias
          obtain ⟨f, hfails⟩ := hspares language candidate names rfl halias
          rw [register_eq_ok_iff.2 hrun] at hfails
          cases hfails
        rw [hadded]
        exact h.added hkey (hchecks rfl).2 fun name hname => (of_mem_aliasKeys hname).2

/-- A registration under the name of an alias fails if the names are unambiguous before and behind
it. -/
theorem Unambiguous.exists_error (h : r.Unambiguous)
    (hafter : ((Change.register language candidate names false).apply r).Unambiguous)
    (halias : Text.lowerCase language ∈ r.aliases.map Prod.fst) :
    ∃ f, r.register language candidate names = .error f := by
  cases hregister : r.register language candidate names with
  | error f => exact ⟨f, rfl⟩
  | ok r' =>
    have hrun := register_eq_ok_iff.1 hregister
    have happly : (Change.register language candidate names false).apply r = r' :=
      congrArg Prod.snd hrun
    rw [happly] at hafter
    obtain ⟨a, -, ⟨hthere, -, -⟩ | ⟨-, rfl⟩⟩ := returns_enter_iff.1 hrun
    · rw [h _ halias] at hthere
      cases hthere
    · exact absurd hafter (not_unambiguous_added halias)

/-- The names of the registry behind a run are unambiguous if and only if all that are listed lead
to their languages, and if and only if none is listed twice. They stay unambiguous throughout a run
that replaces nothing if and only if each registration whose language is an alias at the time
fails. -/
theorem unambiguous_run_iff (changes : List (Change α))
    (hkeep : ∀ change ∈ changes, change.replaces = false) :
    ((afterAll changes).Unambiguous ↔ (afterAll changes).ListsResolved) ∧
    ((afterAll changes).Unambiguous ↔ (afterAll changes).ListsOnce) ∧
    ((∀ front, front <+: changes → (afterAll front).Unambiguous) ↔
      ∀ front language candidate names,
        front ++ [.register language candidate names false] <+: changes →
        Text.lowerCase language ∈ (afterAll front).aliases.map Prod.fst →
        ∃ f, (afterAll front).register language candidate names = .error f) := by
  have hsound := sound_afterAll changes
  refine ⟨hsound.unambiguous_iff_listsResolved, hsound.unambiguous_iff_listsOnce, ?mp, ?mpr⟩
  case mp =>
    intro hall front language candidate names hprefix
    have hafter := hall _ hprefix
    rw [afterAll_append] at hafter
    exact (hall front ((List.prefix_append _ _).trans hprefix)).exists_error hafter
  case mpr =>
    intro hspares front
    -- the run is followed from its beginning, one change after the other
    induction front using List.reverseRecOn with
    | nil => exact fun _ => by simp [Unambiguous, afterAll]
    | append_singleton front change ih =>
      intro hprefix
      have hfront := ih ((List.prefix_append _ _).trans hprefix)
      have hmem : change ∈ changes := hprefix.subset (by simp)
      rw [afterAll_append]
      refine hfront.apply change (hkeep change hmem) fun language candidate names heq => ?_
      exact hspares front language candidate names (heq ▸ hprefix)

/-- A run that gives Ruby an alias and then registers something under the alias. -/
def gemTwice : List (Change String) :=
  [.register "ruby" (some "FixedGenerator") ["gem"] false,
    .register "gem" (some "OtherGenerator") [] false]

/-- That run replaces nothing and leaves a name that is a language and an alias. It is listed for
Ruby and does not lead to it, and it is listed for two languages. -/
theorem not_unambiguous_gemTwice :
    (∀ change ∈ gemTwice, change.replaces = false) ∧ ¬ (afterAll gemTwice).Unambiguous ∧
      ¬ (afterAll gemTwice).ListsResolved ∧ ¬ (afterAll gemTwice).ListsOnce := by
  have hsound := sound_afterAll gemTwice
  have hgem : ¬ (afterAll gemTwice).Unambiguous := by
    intro h
    cases h "gem" (by decide +kernel)
  exact ⟨by decide, hgem, mt hsound.unambiguous_iff_listsResolved.2 hgem,
    mt hsound.unambiguous_iff_listsOnce.2 hgem⟩

/-- As the second registration of that run succeeds under the name of an alias, the names do not
stay unambiguous. -/
theorem unambiguous_run_iff_gemTwice :
    (∀ change ∈ gemTwice, change.replaces = false) ∧
      ¬ ∀ front, front <+: gemTwice → (afterAll front).Unambiguous := by
  have hkeep : ∀ change ∈ gemTwice, change.replaces = false := by decide
  obtain ⟨-, -, hrun⟩ := unambiguous_run_iff gemTwice hkeep
  refine ⟨hkeep, fun hall => ?_⟩
  obtain ⟨f, hfails⟩ := hrun.1 hall [.register "ruby" (some "FixedGenerator") ["gem"] false] "gem"
    (some "OtherGenerator") [] List.prefix_rfl (by decide +kernel)
  cases hfails

end SchemaStruct.Registry
