import SchemaStruct.Proofs.Config.Managers

/-!
# Which Setting Counts

A setting of a configuration is the one that the caller gives, or else the one in the file, or else
the default of the language, or else the default of all configurations. The settings of the language
are those by default, updated by the ones in the file and then by the caller's, one by one. None of
this depends on what the manager has done before: it loads what `Configuration.load` gives.

## Main definitions

* `Settings.Makes`: settings and the configuration that they belong to;
* `Manager.IsFileLayer` and `Manager.IsCallerLayer`: the layers of a configuration.

## Main results

* `Manager.run_load_eq`: loading with a manager is loading by value;
* `Manager.load_layers`: which settings count, and what stays as it was.
-/

namespace SchemaStruct

namespace Configuration

/-- The own settings of a configuration do not depend on those of its language. -/
theorem setting_language (c : Configuration) (l : LanguageSettings) (k : String) :
    ({ c with language := l } : Configuration).setting k = c.setting k :=
  rfl

/-- Other settings than a configuration's own cannot be changed as these are. -/
theorem set?_eq_none (c : Configuration) {name : String} (hname : name ≠ languageField)
    (hown : name ∉ Settings.ownNames) (v : Json) : c.set? name v = none := by
  unfold set?
  split <;> simp_all [Settings.ownNames, languageField]

end Configuration

namespace Settings

/-- Whether settings are those of a configuration: its own ones as they were written, and those of
its language. -/
def Makes (s : Settings) (c : Configuration) : Prop :=
  ∃ own, s.own = Json.overridden own ∧ (∀ m ∈ own, m.1 ∈ ownNames) ∧
    (∀ k, c.setting k = (Json.lookup k own.reverse).or (({} : Configuration).setting k)) ∧
    c.language = .entries s.language

variable {s : Settings} {c : Configuration}

/-- A configuration that is made of settings is the one that they belong to. -/
theorem Makes.ofFields_eq (h : s.Makes c) :
    ∃ own, Configuration.ofFields s.own = .ok own ∧
      { own with language := .entries s.language } = c := by
  obtain ⟨own, hown, hnames, hsetting, hlanguage⟩ := h
  have hknown : ∀ m ∈ Json.overridden own, m.1 ∈ ownNames := by
    intro m hm
    have hmem : m.1 ∈ (Json.overridden own).map (·.1) := List.mem_map_of_mem hm
    rw [Json.map_fst_overridden, List.mem_eraseDups] at hmem
    obtain ⟨n, hn, hname⟩ := List.mem_map.mp hmem
    exact hname ▸ hnames n hn
  obtain ⟨made, hmade, -, hmade'⟩ := Configuration.ofFields_setting hknown
  refine ⟨made, hown ▸ hmade, Configuration.ext_setting (fun k => ?_) hlanguage.symm⟩
  rw [Configuration.setting_language, hmade' k, hsetting k, Json.lookup_reverse_overridden]

/-- Settings and the configuration that they belong to are overridden alike. -/
theorem Makes.write (h : s.Makes c) (name : String) (v : Json) :
    (∃ s' c', s.write name v = .ok s' ∧ c.override name v = .ok c' ∧ s'.Makes c') ∨
      ∃ f, s.write name v = .error f ∧ c.override name v = .error f := by
  obtain ⟨own, hown, hnames, hsetting, hlanguage⟩ := h
  by_cases hname : name = Configuration.languageField
  · rw [Settings.write, if_pos hname, Configuration.override, if_pos hname, hlanguage]
    cases v.entries with
    | error f => exact .inr ⟨f, rfl, rfl⟩
    | ok more => exact .inl ⟨_, _, rfl, rfl, own, hown, hnames, hsetting, rfl⟩
  · rw [Settings.write, if_neg hname, Configuration.override, if_neg hname]
    by_cases hmem : name ∈ ownNames
    · obtain ⟨d, hset, hkept, hnew⟩ := c.exists_set? hmem v
      rw [if_pos hmem, hset]
      refine .inl ⟨_, _, rfl, rfl, own ++ [(name, v)], ?_, ?_, fun k => ?_, hkept.trans hlanguage⟩
      · rw [← Json.setMember_overridden, ← hown]
      · exact List.forall_mem_append.mpr ⟨hnames, List.forall_mem_singleton.mpr hmem⟩
      · show d.setting k = _
        rw [hnew, hsetting, List.reverse_append, Json.lookup_append]
        by_cases hk : k = name
        · simp [Json.lookup, hk]
        · simp [Json.lookup, hk, Ne.symm hk]
    · rw [if_neg hmem, c.set?_eq_none hname hmem v, Option.getD_none, Configuration.setLanguage,
        hlanguage]
      exact .inl ⟨_, _, rfl, rfl, own, hown, hnames, hsetting, rfl⟩

/-- The same for all settings of a layer. -/
theorem Makes.writeAll (h : s.Makes c) (layer : List (String × Json)) :
    (∃ s' c', s.writeAll layer = .ok s' ∧ c.merge layer = .ok c' ∧ s'.Makes c') ∨
      ∃ f, s.writeAll layer = .error f ∧ c.merge layer = .error f := by
  induction layer generalizing s c with
  | nil => exact .inl ⟨s, c, rfl, rfl, h⟩
  | cons m layer ih =>
    have hwrite : s.writeAll (m :: layer) = s.write m.1 m.2 >>= fun s => s.writeAll layer := rfl
    have hmerge : c.merge (m :: layer) = c.override m.1 m.2 >>= fun c => c.merge layer := rfl
    rw [hwrite, hmerge]
    rcases h.write m.1 m.2 with ⟨s', c', hs, hc, hmakes⟩ | ⟨f, hs, hc⟩
    · rw [hs, hc]
      exact ih hmakes
    · exact .inr ⟨f, by rw [hs]; rfl, by rw [hc]; rfl⟩

/-- The same for a layer that may not be there. -/
theorem Makes.mergeLayer (h : s.Makes c) (layer : Except Fault (List (String × Json))) :
    (∃ s' c', (layer >>= s.writeAll) = .ok s' ∧ (layer >>= c.merge) = .ok c' ∧ s'.Makes c') ∨
      ∃ f, (layer >>= s.writeAll) = .error f ∧ (layer >>= c.merge) = .error f := by
  cases layer with
  | error f => exact .inr ⟨f, rfl, rfl⟩
  | ok layer => exact h.writeAll layer

end Settings

namespace Manager

/-- There are defaults for C#. -/
theorem lookup_places (name : String) :
    places.lookup name = if name = "csharp" then some 0 else none := by
  rw [places, List.lookup_cons]
  split_ifs with h
  · rw [h]
    rfl
  · rw [beq_eq_false_iff_ne.mpr h]
    rfl

/-- The defaults of a new manager. -/
theorem defaults_store (language : String) :
    defaults store language =
      if Text.lowerCase language = "csharp" then csharpDefaults else {} := by
  rw [defaults, lookup_places]
  split_ifs <;> rfl

/-- The defaults of a new manager are those of configurations. -/
theorem makes_defaults (language : String) :
    (defaults store language).Makes (Configuration.defaults language) := by
  rw [defaults_store, Configuration.defaults]
  split_ifs with h
  · refine ⟨csharpDefaults.own, by rfl, by decide, fun k => ?_, rfl⟩
    -- what is stored for C# is what holds for all configurations
    show ({} : Configuration).setting k = _
    simp only [csharpDefaults, List.reverse_cons, List.reverse_nil, List.nil_append,
      List.cons_append, Json.lookup]
    split_ifs with h₁ h₂ h₃ h₄
    · exact h₁ ▸ rfl
    · exact h₂ ▸ rfl
    · exact h₃ ▸ rfl
    · exact h₄ ▸ rfl
    · rfl
  · exact ⟨[], rfl, by simp, fun k => rfl, rfl⟩

/-- The defaults stay as they are while the dictionaries of the new manager do. -/
theorem defaults_of_extends {s : Store} (h : s.Extends store) (language : String) :
    defaults s language = defaults store language := by
  rw [defaults, defaults, lookup_places]
  split_ifs
  · exact h.settings_eq (by decide) (by decide)
  · rfl

/-- Loading by value, in terms of the layers. -/
theorem load_eq_layers (files : FileTree) (language : String) (custom file : Json) :
    Configuration.load files language custom file =
      ((fileLayer files file >>= (Configuration.defaults language).merge) >>= fun c =>
        callerLayer custom >>= c.merge) := by
  rw [Configuration.load, fileLayer]
  by_cases hfile : file.truthy
  · rw [if_pos hfile, if_pos hfile, bind_assoc, bind_assoc]
    refine bind_congr fun path => bind_congr fun settings => bind_congr fun c => ?_
    cases custom <;> (unfold callerLayer; split <;> rfl)
  · rw [if_neg hfile, if_neg hfile]
    cases custom <;> (unfold callerLayer; split <;> rfl)

/-- Where settings come together, the configuration that they make is handed out. -/
theorem exists_returns_load {s : Store} {files : FileTree} {language : String} {custom file : Json}
    {gathered : Settings} {c : Configuration}
    (hgathered : gather (defaults s language) files custom file = .ok gathered)
    (hmakes : gathered.Makes c) :
    ∃ issued, Returns (load files language custom file) s issued (s.push gathered) ∧
      issued.read (s.push gathered) = c := by
  obtain ⟨new, hrun, hnew⟩ := run_load s files language custom file
  obtain rfl := hnew gathered hgathered
  obtain ⟨own, hown, hread⟩ := hmakes.ofFields_eq
  refine ⟨⟨own, s.tables.length⟩, ?_, ?_⟩
  · rw [Returns, hrun, hgathered]
    show ((Configuration.ofFields new.own >>= _ : Except Fault Issued), _) = _
    rw [hown]
    rfl
  · rw [← hread, Issued.read]
    simp [Store.table, Store.push]

/-- Where they do not, loading ends in the same fault. -/
theorem exists_throws_load {s : Store} {files : FileTree} {language : String} {custom file : Json}
    {f : Fault} (hgathered : gather (defaults s language) files custom file = .error f) :
    ∃ t, Throws (load files language custom file) s f t := by
  obtain ⟨new, hrun, -⟩ := run_load s files language custom file
  refine ⟨s.push new, ?_⟩
  rw [Throws, hrun, hgathered]
  rfl

/-- Loading with a manager gives what loading by value gives, or ends in the same fault, if the
defaults are where they were. -/
theorem run_load_eq {s : Store} (h : s.Extends store) (files : FileTree) (language : String)
    (custom file : Json) :
    match Configuration.load files language custom file with
    | .ok c => ∃ issued t, Returns (load files language custom file) s issued t ∧ issued.read t = c
    | .error f => ∃ t, Throws (load files language custom file) s f t := by
  have hgather := defaults_of_extends h language
  rw [load_eq_layers]
  rcases (makes_defaults language).mergeLayer (fileLayer files file) with
    ⟨first, c, hfirst, hc, hmakes⟩ | ⟨f, hfirst, hc⟩
  · have hsecond : gather (defaults s language) files custom file =
        callerLayer custom >>= first.writeAll := by
      rw [gather, hgather, hfirst]
      rfl
    rw [hc]
    show match callerLayer custom >>= c.merge with
      | .ok c => _
      | .error f => _
    rcases hmakes.mergeLayer (callerLayer custom) with
      ⟨gathered, c', hgathered, hc', hmakes'⟩ | ⟨f, hgathered, hc'⟩
    · rw [hc']
      obtain ⟨issued, hreturns, hread⟩ := exists_returns_load (hsecond.trans hgathered) hmakes'
      exact ⟨issued, _, hreturns, hread⟩
    · rw [hc']
      exact exists_throws_load (hsecond.trans hgathered)
  · rw [hc]
    refine exists_throws_load (?_ : gather (defaults s language) files custom file = .error f)
    rw [gather, hgather, hfirst]
    rfl

/-! ### Layers -/

/-- What a file contributes to a configuration: nothing if none is named, or the object in it. -/
inductive IsFileLayer (files : FileTree) : Json → List (String × Json) → Prop
  /-- No file is named. -/
  | absent {file : Json} (h : file.truthy = false) : IsFileLayer files file []
  /-- A file is named that is there, is meant to be a document, and holds an object. -/
  | object {file : Json} {path : Path} {text : String} {settings : List (String × Json)}
      (hgiven : file.truthy = true) (hpath : Configuration.pathOf file = .ok path)
      (hthere : files.hasEntry path = .ok true) (hsuffix : Text.lowerCase path.suffix = ".json")
      (htext : files.read path = .ok text) (hobject : Json.read text = .ok (.obj settings)) :
      IsFileLayer files file settings

/-- What a caller contributes to a configuration: nothing, or the settings that are given. -/
inductive IsCallerLayer : Json → List (String × Json) → Prop
  /-- No settings are given. -/
  | absent {custom : Json} (h : custom.truthy = false) : IsCallerLayer custom []
  /-- Settings are given. -/
  | object (overrides : List (String × Json)) : IsCallerLayer (.obj overrides) overrides

section

variable {files : FileTree} {custom file : Json} {settings overrides : List (String × Json)}

/-- The layer of a file is found. -/
theorem IsFileLayer.fileLayer_eq (h : IsFileLayer files file settings) :
    fileLayer files file = .ok settings := by
  cases h with
  | absent h => rw [fileLayer, h]; rfl
  | object hgiven hpath hthere hsuffix htext hobject =>
    rw [fileLayer, hgiven, hpath]
    show Configuration.readFile files _ = _
    simp [Configuration.readFile, hthere, hsuffix, htext, hobject, bind, Except.bind, pure,
      Except.pure]

/-- The layer of a caller is found. -/
theorem IsCallerLayer.callerLayer_eq (h : IsCallerLayer custom overrides) :
    callerLayer custom = .ok overrides := by
  cases h with
  | absent h => exact if_neg (Bool.eq_false_iff.mp h)
  | object overrides => cases overrides <;> rfl

end

/-- The settings of a configuration whose layers are there. -/
theorem gather_ofWrites {own language : List (String × Json)} {files : FileTree}
    {custom file : Json} {settings overrides : List (String × Json)}
    (hfile : IsFileLayer files file settings) (hcustom : IsCallerLayer custom overrides)
    (hsettings : Settings.IsNested settings) (hoverrides : Settings.IsNested overrides) :
    gather (Settings.ofWrites own language) files custom file =
      .ok (Settings.ofWrites (own ++ Settings.ownPart settings ++ Settings.ownPart overrides)
        (language ++ Settings.languagePart settings ++ Settings.languagePart overrides)) := by
  rw [gather, hfile.fileLayer_eq, hcustom.callerLayer_eq]
  show (Settings.writeAll _ settings >>= fun s => s.writeAll overrides) = _
  rw [Settings.writeAll_ofWrites hsettings]
  exact Settings.writeAll_ofWrites hoverrides

/-- The defaults of a language as writes. -/
theorem exists_ofWrites_defaults (language : String) :
    ∃ own entries, defaults store language = Settings.ofWrites own entries ∧
      ∀ m ∈ own, m.1 ∈ Settings.ownNames := by
  rw [defaults_store]
  split_ifs
  · exact ⟨csharpDefaults.own, Configuration.csharpSettings, by rfl, by decide⟩
  · exact ⟨[], [], rfl, by simp⟩

section

variable {s : Store} {language : String} {own entries : List (String × Json)} {files : FileTree}
  {custom file : Json} {settings overrides : List (String × Json)}

/-- A configuration whose layers are there is loaded, with the settings that they come to. -/
theorem exists_returns_of_layers (hs : s.Extends store)
    (hkept : defaults store language = Settings.ofWrites own entries)
    (hown : ∀ m ∈ own, m.1 ∈ Settings.ownNames) (hfile : IsFileLayer files file settings)
    (hcustom : IsCallerLayer custom overrides) (hsettings : Settings.IsNested settings)
    (hoverrides : Settings.IsNested overrides) :
    ∃ issued t, Returns (load files language custom file) s issued t ∧ t.Extends store ∧
      (issued.read t).language = .entries (Entries.ofMembers (Json.overridden
        (entries ++ Settings.languagePart settings ++ Settings.languagePart overrides))) ∧
      ∀ k, (issued.read t).setting k = (Json.lookup k
        (own ++ Settings.ownPart settings ++ Settings.ownPart overrides).reverse).or
          (({} : Configuration).setting k) := by
  have hnames : ∀ m ∈ own ++ Settings.ownPart settings ++ Settings.ownPart overrides,
      m.1 ∈ Settings.ownNames := by
    simp only [List.forall_mem_append, Settings.ownPart, List.mem_filter, decide_eq_true_eq]
    exact ⟨⟨hown, fun m hm => hm.2⟩, fun m hm => hm.2⟩
  obtain ⟨made, -, -, hmade⟩ := Configuration.ofFields_setting hnames
  let gathered : Settings :=
    .ofWrites (own ++ Settings.ownPart settings ++ Settings.ownPart overrides)
      (entries ++ Settings.languagePart settings ++ Settings.languagePart overrides)
  have hmakes : gathered.Makes { made with language := .entries gathered.language } :=
    ⟨_, rfl, hnames, hmade, rfl⟩
  have hgathered : gather (defaults s language) files custom file = .ok gathered := by
    rw [defaults_of_extends hs, hkept]
    exact gather_ofWrites hfile hcustom hsettings hoverrides
  obtain ⟨issued, hreturns, hread⟩ := exists_returns_load hgathered hmakes
  exact ⟨issued, _, hreturns, hs.push gathered, by rw [hread]; rfl, by rw [hread]; exact hmade⟩

/-- Layers that only differ in where a setting of the language stands come to the same settings, but
for their order. -/
theorem agrees_of_relocates {settings' overrides' : List (String × Json)} {c d : Configuration}
    (h : settings = settings' ∧ Settings.Relocates overrides overrides' ∨
      Settings.Relocates settings settings' ∧ overrides = overrides')
    (hc : c.language = .entries (Entries.ofMembers (Json.overridden
      (entries ++ Settings.languagePart settings ++ Settings.languagePart overrides))))
    (hcsetting : ∀ k, c.setting k = (Json.lookup k
      (own ++ Settings.ownPart settings ++ Settings.ownPart overrides).reverse).or
        (({} : Configuration).setting k))
    (hd : d.language = .entries (Entries.ofMembers (Json.overridden
      (entries ++ Settings.languagePart settings' ++ Settings.languagePart overrides'))))
    (hdsetting : ∀ k, d.setting k = (Json.lookup k
      (own ++ Settings.ownPart settings' ++ Settings.ownPart overrides').reverse).or
        (({} : Configuration).setting k)) :
    c.Agrees d := by
  have hparts : Settings.ownPart settings = Settings.ownPart settings' ∧
      Settings.ownPart overrides = Settings.ownPart overrides' ∧
      ∀ k, Json.lookup k (Settings.languagePart settings).reverse =
          Json.lookup k (Settings.languagePart settings').reverse ∧
        Json.lookup k (Settings.languagePart overrides).reverse =
          Json.lookup k (Settings.languagePart overrides').reverse := by
    rcases h with ⟨rfl, h⟩ | ⟨h, rfl⟩
    · exact ⟨rfl, h.ownPart_eq, fun k => ⟨rfl, h.lookup_languagePart k⟩⟩
    · exact ⟨h.ownPart_eq, rfl, fun k => ⟨h.lookup_languagePart k, rfl⟩⟩
  obtain ⟨hsettings, hoverrides, hlookup⟩ := hparts
  refine ⟨_, _, hc, Configuration.ext_setting (fun k => ?_) hd, ?_⟩
  · rw [hdsetting, Configuration.setting_language, hcsetting, hsettings, hoverrides]
  · refine (Json.perm_overridden fun k => ?_).map _
    obtain ⟨hfirst, hsecond⟩ := hlookup k
    simp only [List.reverse_append, Json.lookup_append, hfirst, hsecond]

end

/-- Which setting counts. After anything that has been done with a manager and what it has handed
out, a configuration is loaded wherever its layers are there and nest the settings of the language
in objects. Each of its own settings is the caller's, or else the file's, or else the language's, or
else the default of configurations. Those of the language are its defaults, updated by the settings
of the file that belong there and by the caller's then, one after the other. So a setting of the
language may stand beside or inside of the object, if it comes up once in its layer. And the
defaults that the manager keeps are those that it began with, before and afterwards. -/
theorem load_layers (history : List Action) {files : FileTree} (language : String)
    {custom file : Json} {settings overrides : List (String × Json)}
    (hfile : IsFileLayer files file settings) (hcustom : IsCallerLayer custom overrides)
    (hsettings : Settings.IsNested settings) (hoverrides : Settings.IsNested overrides) :
    let s := (Session.afterAll history).store
    let kept := defaults store language
    ∃ issued t, Returns (load files language custom file) s issued t ∧
      (∀ name ∈ Settings.ownNames, (issued.read t).setting name =
        (((Json.lookup name overrides.reverse).or (Json.lookup name settings.reverse)).or
          (Json.lookup name kept.own.reverse)).or (({} : Configuration).setting name)) ∧
      (issued.read t).language = .entries
        ((kept.language.update (Entries.ofMembers (Settings.languagePart settings))).update
          (Entries.ofMembers (Settings.languagePart overrides))) ∧
      (∀ files' custom' file' settings' overrides',
        IsFileLayer files' file' settings' → IsCallerLayer custom' overrides' →
        Settings.IsNested settings' → Settings.IsNested overrides' →
        settings = settings' ∧ Settings.Relocates overrides overrides' ∨
          Settings.Relocates settings settings' ∧ overrides = overrides' →
        ∃ issued' t', Returns (load files' language custom' file') s issued' t' ∧
          (issued.read t).Agrees (issued'.read t')) ∧
      ∀ other, defaults s other = defaults store other ∧
        defaults t other = defaults store other := by
  intro s kept
  have hs : s.Extends store := (Session.isApart_afterAll history).extends_store
  obtain ⟨own, entries, hkept, hown⟩ := exists_ofWrites_defaults language
  obtain ⟨issued, t, hreturns, ht, hlanguage, hsetting⟩ :=
    exists_returns_of_layers hs hkept hown hfile hcustom hsettings hoverrides
  refine ⟨issued, t, hreturns, fun name hname => ?_, ?_, ?_, fun other => ?_⟩
  · -- what is looked up in the writes is looked up in the layers, the last one first
    rw [hsetting, List.reverse_append, List.reverse_append, Json.lookup_append,
      Json.lookup_append, Settings.lookup_ownPart hname, Settings.lookup_ownPart hname,
      show kept.own = Json.overridden own from congrArg Settings.own hkept,
      Json.lookup_reverse_overridden]
    simp only [Option.or_assoc]
  · rw [hlanguage, show kept.language = Entries.ofMembers (Json.overridden entries) from
      congrArg Settings.language hkept, Entries.update_overridden, Entries.update_overridden]
  · intro files' custom' file' settings' overrides' hfile' hcustom' hsettings' hoverrides' hlayers
    obtain ⟨issued', t', hreturns', -, hlanguage', hsetting'⟩ :=
      exists_returns_of_layers hs hkept hown hfile' hcustom' hsettings' hoverrides'
    exact ⟨issued', t', hreturns',
      agrees_of_relocates hlayers hlanguage hsetting hlanguage' hsetting'⟩
  · exact ⟨defaults_of_extends hs other, defaults_of_extends ht other⟩

/-- The text of a file with settings. -/
def pierText : String :=
  "\x7b\"type_case\": \"camel\", \"namespace\": \"Pier\", \"density\": \"dense\"\x7d"

/-- A tree with that file. -/
def pier : FileTree where
  entries := [(["pier.json"], .text pierText)]

/-- A history in which a loading fails after it has begun to merge, and a configuration is changed
after it was handed out. -/
def tampered : List Action :=
  [.load {} "csharp" (.obj [("density", .str "loose"), ("language_config", .int 5)]) .null,
    .load {} "csharp" .null .null, .assign 0 "density" (.str "loose")]

/-- The theorem after that history, at a file and two ways to give a setting of the language. -/
theorem load_layers_pier :
    let s := (Session.afterAll tampered).store
    let inside : Json := .obj [("namespace", .str "Dock"),
      ("language_config", .obj [("unit", .str "knot")])]
    let beside : Json := .obj [("unit", .str "knot"), ("namespace", .str "Dock")]
    ∃ issued t issued' t', Returns (load pier "CSharp" inside (.str "pier.json")) s issued t ∧
      (issued.read t).setting "namespace" = some (.str "Dock") ∧
      (issued.read t).setting "type_case" = some (.str "camel") ∧
      (issued.read t).setting "field_case" = some (.str "pascal") ∧
      (issued.read t).setting "indent_size" = some (.int 4) ∧
      (issued.read t).language = .entries (Entries.ofMembers
        [("access_modifier", .str "public"), ("int_type", .str "int"),
          ("float_type", .str "double"), ("any_type", .str "object"),
          ("time_type", .str "DateTimeOffset"), ("array_type", .str "array"),
          ("json_attributes", .bool true), ("nullable_optionals", .bool true),
          ("density", .str "dense"), ("unit", .str "knot")]) ∧
      Returns (load pier "CSharp" beside (.str "pier.json")) s issued' t' ∧
      (issued.read t).Agrees (issued'.read t') ∧
      defaults s "csharp" = csharpDefaults ∧ defaults t "csharp" = csharpDefaults := by
  intro s inside beside
  have htext : pier.read (.ofString "pier.json") = .ok pierText :=
    ok_of_toOption (by decide +kernel)
  have hfile : IsFileLayer pier (.str "pier.json")
      [("type_case", .str "camel"), ("namespace", .str "Pier"), ("density", .str "dense")] :=
    .object rfl rfl (ok_of_toOption (by decide +kernel)) (by decide +kernel) htext (by cbv)
  have hsettings : Settings.IsNested
      [("type_case", .str "camel"), ("namespace", .str "Pier"), ("density", .str "dense")] := by
    simp [Settings.IsNested, Configuration.languageField]
  have hinside : Settings.IsNested [("namespace", .str "Dock"),
      ("language_config", .obj [("unit", .str "knot")])] := by
    simp [Settings.IsNested, Configuration.languageField]
  have hbeside : Settings.IsNested [("unit", .str "knot"), ("namespace", .str "Dock")] := by
    simp [Settings.IsNested, Configuration.languageField]
  have hrelocates : Settings.Relocates
      [("namespace", .str "Dock"), ("language_config", .obj [("unit", .str "knot")])]
      [("unit", .str "knot"), ("namespace", .str "Dock")] :=
    ⟨"unit", .str "knot", [("namespace", .str "Dock")], by decide, by decide, by decide,
      .alone [("namespace", .str "Dock")] [], .beside [] [("namespace", .str "Dock")]⟩
  have hkept : defaults store "CSharp" = csharpDefaults := by
    rw [defaults_store, if_pos (by decide +kernel)]
  have hcsharp : defaults store "csharp" = csharpDefaults := by
    rw [defaults_store, if_pos (by decide +kernel)]
  obtain ⟨issued, t, hreturns, hown, hlanguage, hmoved, hdefaults⟩ :=
    load_layers tampered "CSharp" hfile (.object _) hsettings hinside
  obtain ⟨issued', t', hreturns', hagrees⟩ := hmoved pier beside _ _ _ hfile (.object _) hsettings
    hbeside (.inl ⟨rfl, hrelocates⟩)
  rw [hkept] at hown hlanguage
  refine ⟨issued, t, issued', t', hreturns, (hown _ (by decide)).trans rfl,
    (hown _ (by decide)).trans rfl, (hown _ (by decide)).trans rfl, (hown _ (by decide)).trans rfl,
    hlanguage.trans rfl, hreturns', hagrees, (hdefaults _).1.trans hcsharp,
    (hdefaults _).2.trans hcsharp⟩

end Manager

end SchemaStruct
