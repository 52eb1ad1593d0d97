import SchemaStruct.CommandLine.Run
import SchemaStruct.Proofs.CSharp.Breaks

/-!
# Settings from the Command Line

The options of a command line override a handful of settings, and nothing else reaches the
configuration when no file is named. So such a configuration always loads. It names everything in
the styles that are set by default, its records extend nothing, and the namespace is the only text
of the caller in it that is written into the code.

## Main definitions

* `CommandLine.IsOption`: a setting that an option overrides;
* `Configuration.IsPlain`: a configuration that such settings can lead to.

## Main results

* `CommandLine.Arguments.isOption_of_mem_overrides`: what the arguments override;
* `Configuration.IsPlain.override` and `Configuration.IsPlain.merge`: overriding such settings
  succeeds and keeps a configuration plain;
* `CommandLine.Arguments.exists_load`: the configuration of a command line without a file.
-/

namespace SchemaStruct

open Text (FeedsOnly)

namespace CommandLine

/-- A setting that an option of the command line overrides: the namespace, whether there are
comments, or one of three settings of the language. -/
inductive IsOption : String × Json → Prop
  | namespaceName {s : String} (h : FeedsOnly s) : IsOption ("namespace", .str s)
  | comments (v : Json) : IsOption ("add_comments", v)
  | language {name : String} (h : name ∈ ["access_modifier", "array_type", "json_attributes"])
      (v : Json) : IsOption (name, v)

namespace Arguments

/-- A text that is given is the one on the command line. -/
theorem eq_some_of_given {s : Option String} {t : String} (h : given s = some t) : s = some t :=
  (Option.filter_eq_some_iff.mp h).1

/-- The arguments override nothing but such settings if the namespace has no line breaks but line
feeds. -/
theorem isOption_of_mem_overrides {a : Arguments}
    (hnamespace : ∀ s, a.namespaceName = some s → FeedsOnly s) :
    ∀ entry ∈ a.overrides, IsOption entry := by
  have htext (name : String) (s : Option String) {entry : String × Json}
      (h : entry ∈ ((given s).map fun s => (name, Json.str s)).toList) :
      ∃ t, s = some t ∧ entry = (name, .str t) := by
    obtain ⟨t, ht, rfl⟩ := Option.map_eq_some_iff.mp (Option.mem_toList.mp h)
    exact ⟨t, eq_some_of_given ht, rfl⟩
  have hoff (name : String) (b : Bool) {entry : String × Json}
      (h : entry ∈ if b then [(name, Json.bool false)] else []) : entry = (name, .bool false) := by
    cases b with
    | false => cases h
    | true => exact List.mem_singleton.mp h
  intro entry h
  simp only [overrides, List.mem_append] at h
  rcases h with (((h | h) | h) | h) | h
  · obtain ⟨s, hs, rfl⟩ := htext "namespace" a.namespaceName h
    exact .namespaceName (hnamespace s hs)
  · obtain ⟨s, -, rfl⟩ := htext "access_modifier" a.accessModifier h
    exact .language (by decide) _
  · obtain ⟨s, -, rfl⟩ := htext "array_type" a.arrayType h
    exact .language (by decide) _
  · rw [hoff "json_attributes" a.noJsonAttributes h]
    exact .language (by decide) _
  · rw [hoff "add_comments" a.noComments h]
    exact .comments _

end Arguments

end CommandLine

/-- Setting one entry leaves the others alone. -/
theorem CSharp.Options.setting_set_of_ne {name key : String} (hne : name ≠ key) (es : Entries)
    (v default : Json) :
    setting (es.set (.text name) v) key default = setting es key default := by
  have hset : (EntryName.text name == .text key) = false := by
    show (name == key) = false
    simpa using hne
  unfold setting
  congr 1
  induction es with
  | nil => simp [Entries.set, hset]
  | cons entry es ih =>
    obtain ⟨k, w⟩ := entry
    rw [Entries.set]
    split
    · next hk =>
      have hk' : k = .text name := by
        cases k with
        | text s =>
          have hs : (s == name) = true := hk
          rw [beq_iff_eq.mp hs]
        | other w => cases hk
      subst hk'
      rw [List.find?_cons_of_neg (by simp [hset]), List.find?_cons_of_neg (by simp [hset])]
    · rw [List.find?_cons, List.find?_cons, ih]

/-- The configuration has the naming styles that are set by default, a namespace without line breaks
but line feeds, and no type that records extend. -/
structure Configuration.IsPlain (c : Configuration) : Prop where
  /-- The naming style of types. -/
  typeCase : c.typeCase = .str "pascal"
  /-- The naming style of properties. -/
  fieldCase : c.fieldCase = .str "pascal"
  /-- The namespace. -/
  namespaceName : ∃ s, c.namespaceName = .str s ∧ FeedsOnly s
  /-- The type that records extend. -/
  language : ∃ es, c.language = .entries es ∧
    CSharp.Options.setting es "base_class" .null = .null

namespace Configuration

open CommandLine (IsOption)

variable {c : Configuration}

/-- The defaults are plain. -/
theorem isPlain_defaults : (defaults "csharp").IsPlain := by
  have hlanguage : Text.lowerCase "csharp" = "csharp" := by decide +kernel
  rw [defaults, if_pos hlanguage]
  exact ⟨rfl, rfl, ⟨"Generated", rfl, by decide⟩, _, rfl, rfl⟩

/-- Overriding a setting of the command line succeeds and keeps a configuration plain. -/
theorem IsPlain.override (hc : c.IsPlain) {entry : String × Json} (h : IsOption entry) :
    ∃ c', c.override entry.1 entry.2 = .ok c' ∧ c'.IsPlain := by
  cases h with
  | @namespaceName s hs => exact ⟨{ c with namespaceName := .str s }, rfl, { hc with
      namespaceName := ⟨s, rfl, hs⟩ }⟩
  | comments v => exact ⟨{ c with addComments := v }, rfl, { hc with }⟩
  | @language name hname v =>
    obtain ⟨es, hes, hbase⟩ := hc.language
    have hne : name ≠ "base_class" := by
      rintro rfl
      exact absurd hname (by decide)
    have hset : c.override name v = .ok (c.setLanguage name v) := by
      simp only [List.mem_cons, List.not_mem_nil, or_false] at hname
      rcases hname with rfl | rfl | rfl <;> rfl
    refine ⟨_, hset, ?_⟩
    rw [setLanguage, hes]
    exact { hc with
      language := ⟨_, rfl, (CSharp.Options.setting_set_of_ne hne es v .null).trans hbase⟩ }

/-- So does overriding some of them. -/
theorem IsPlain.merge (hc : c.IsPlain) {overrides : List (String × Json)}
    (h : ∀ entry ∈ overrides, IsOption entry) :
    ∃ c', c.merge overrides = .ok c' ∧ c'.IsPlain := by
  induction overrides generalizing c with
  | nil => exact ⟨c, rfl, hc⟩
  | cons entry overrides ih =>
    obtain ⟨hentry, hoverrides⟩ := List.forall_mem_cons.mp h
    obtain ⟨next, hnext, hplain⟩ := hc.override hentry
    obtain ⟨last, hlast, hplain⟩ := ih hplain hoverrides
    refine ⟨last, ?_, hplain⟩
    show (c.override entry.1 entry.2 >>= fun c => c.merge overrides) = .ok last
    rw [hnext]
    exact hlast

/-- Settings given as an object go over the defaults. -/
theorem load_obj (files : FileTree) (language : String) (members : List (String × Json)) :
    load files language (.obj members) .null = (defaults language).merge members := by
  cases members with
  | nil => rfl
  | cons entry members => rfl

/-- A generator with a plain configuration has no type that records extend. -/
theorem IsPlain.baseType_eq (hc : c.IsPlain) {gen : Generator}
    (h : CSharp.generator c = .ok gen) : gen.baseType = .null := by
  obtain ⟨es, options, hes, hread, hbase, -⟩ := CSharp.exists_options_of_generator h
  obtain ⟨es', hes', hnone⟩ := hc.language
  obtain rfl : es = es' := LanguageSettings.entries.inj (hes.symm.trans hes')
  rw [hbase, CSharp.Options.baseClass_of_read hread, hnone]
  rfl

end Configuration

namespace CommandLine.Arguments

/-- The configuration of a command line without a file loads and is plain. -/
theorem exists_load {a : Arguments} (hnamespace : ∀ s, a.namespaceName = some s → FeedsOnly s)
    (files : FileTree) :
    ∃ c, Configuration.load files language (.obj a.overrides) .null = .ok c ∧ c.IsPlain := by
  rw [Configuration.load_obj]
  exact Configuration.isPlain_defaults.merge (isOption_of_mem_overrides hnamespace)

end CommandLine.Arguments

end SchemaStruct
