import Mathlib.Data.List.Nodup
import SchemaStruct.Config.Manager
import SchemaStruct.Proofs.Faults
import SchemaStruct.Proofs.Json.Overrides

/-!
# Layers of Settings

Settings are written one after the other, and each one goes to one of two places: to the
configuration's own settings, or to those of the language, one by one if it is an object that holds
them. What the writes of a layer come to are therefore two lists, and layers on top of each other
are these lists behind each other, where a name keeps its first place and takes its last value.

## Main definitions

* `Settings.ownPart` and `Settings.languagePart`: where the settings of a layer go;
* `Settings.ofWrites`: what some writes come to;
* `Configuration.setting`: one of a configuration's own settings by its name;
* `Settings.Placed` and `Settings.Relocates`: a setting of the language that stands beside or inside
  of the object;
* `Configuration.Agrees`: configurations that differ in the order of their language settings only.

## Main results

* `Settings.writeAll_ofWrites`: a layer on top of others;
* `Configuration.ofFields_setting`: the configuration that is made of some fields;
* `Settings.Relocates.lookup_languagePart`: beside or inside makes no difference;
* `Json.perm_overridden`: members with the same values are the same but for their order.
-/

namespace SchemaStruct

namespace Json

/-- Members with the same last values are the same, but for their order. -/
theorem perm_overridden {xs ys : List (String × Json)}
    (h : ∀ k, lookup k xs.reverse = lookup k ys.reverse) :
    (overridden xs).Perm (overridden ys) := by
  have hnames (k : String) : k ∈ xs.map (·.1) ↔ k ∈ ys.map (·.1) := by
    have hk : k ∈ xs.reverse.map (·.1) ↔ k ∈ ys.reverse.map (·.1) := by
      rw [← isSome_lookup_iff, ← isSome_lookup_iff, h k]
    simpa using hk
  have hperm : (xs.map (·.1)).eraseDups.Perm (ys.map (·.1)).eraseDups :=
    (List.perm_ext_iff_of_nodup (nodup_eraseDups _) (nodup_eraseDups _)).mpr fun k => by
      rw [List.mem_eraseDups, List.mem_eraseDups, hnames k]
  have hvalues : overridden ys =
      (ys.map (·.1)).eraseDups.map fun k => (k, (lookup k xs.reverse).getD .null) :=
    List.map_congr_left fun k _ => by rw [h k]
  rw [hvalues]
  exact hperm.map _

/-- A name that comes up once among members has its value there, and the others have theirs. -/
theorem lookup_reverse_insert {front back : List (String × Json)} {name : String} {v : Json}
    (h : name ∉ (front ++ back).map (·.1)) (k : String) :
    lookup k (front ++ (name, v) :: back).reverse =
      if name = k then some v else lookup k (front ++ back).reverse := by
  have hback : lookup name back.reverse = none := by
    rw [← Option.not_isSome_iff_eq_none, isSome_lookup_iff]
    exact fun hmem => h (by simp_all)
  rw [List.reverse_append, List.reverse_cons, lookup_append, lookup_append, List.reverse_append,
    lookup_append]
  by_cases hk : name = k
  · subst hk
    simp [hback, lookup]
  · simp [lookup, hk]

end Json

namespace Settings

/-- The settings of a layer that are a configuration's own. -/
def ownPart (layer : List (String × Json)) : List (String × Json) :=
  layer.filter fun m => m.1 ∈ ownNames

/-- What a setting contributes to those of the language: the members of the object that holds them,
or itself if it is none of the configuration's own. -/
def contribution (m : String × Json) : List (String × Json) :=
  if m.1 = Configuration.languageField then m.2.members?.getD []
  else if m.1 ∈ ownNames then [] else [m]

/-- The settings of a layer that belong to the language, in order. -/
def languagePart (layer : List (String × Json)) : List (String × Json) :=
  layer.flatMap contribution

/-- Whether the settings of the language are in objects, as far as they are nested. -/
def IsNested (layer : List (String × Json)) : Prop :=
  ∀ m ∈ layer, m.1 = Configuration.languageField → ∃ members, m.2 = .obj members

/-- The settings that some writes come to: a name keeps its first place and takes its last value. -/
def ofWrites (own language : List (String × Json)) : Settings :=
  ⟨Json.overridden own, Entries.ofMembers (Json.overridden language)⟩

/-- The settings with those of a layer on top. -/
def writeAll (s : Settings) (layer : List (String × Json)) : Except Fault Settings :=
  layer.foldlM (fun s m => s.write m.1 m.2) s

variable {own language layer : List (String × Json)} {name : String} {v : Json}

/-- The settings of the language are none of the configuration's own. -/
theorem languageField_notMem : Configuration.languageField ∉ ownNames := by decide

/-- A setting is written to one place or the other. -/
theorem write_ofWrites
    (h : name = Configuration.languageField → ∃ members, v = .obj members) :
    (ofWrites own language).write name v =
      .ok (ofWrites (own ++ ownPart [(name, v)]) (language ++ languagePart [(name, v)])) := by
  have hlanguage : languagePart [(name, v)] = contribution (name, v) := List.append_nil _
  rw [hlanguage]
  by_cases hname : name = Configuration.languageField
  · obtain ⟨members, rfl⟩ := h hname
    have hown : ownPart [(name, .obj members)] = [] := by
      simp [ownPart, hname, languageField_notMem]
    rw [write, if_pos hname, hown, List.append_nil, contribution, if_pos hname]
    show Except.ok { ofWrites own language with
      language := (ofWrites own language).language.update (Entries.ofMembers members) } = _
    rw [ofWrites, Entries.update_overridden]
    rfl
  · rw [write, if_neg hname, contribution, if_neg hname]
    by_cases hmem : name ∈ ownNames
    · have hown : ownPart [(name, v)] = [(name, v)] := by simp [ownPart, hmem]
      rw [if_pos hmem, if_pos hmem, hown, List.append_nil, ofWrites, Json.setMember_overridden]
      rfl
    · have hown : ownPart [(name, v)] = [] := by simp [ownPart, hmem]
      rw [if_neg hmem, if_neg hmem, hown, List.append_nil, ofWrites, Entries.set_ofMembers,
        Json.setMember_overridden]
      rfl

/-- A layer whose language settings are in objects goes on top of the others. -/
theorem writeAll_ofWrites (h : IsNested layer) :
    (ofWrites own language).writeAll layer =
      .ok (ofWrites (own ++ ownPart layer) (language ++ languagePart layer)) := by
  induction layer generalizing own language with
  | nil => simp [writeAll, ownPart, languagePart, pure, Except.pure]
  | cons m layer ih =>
    obtain ⟨hm, hlayer⟩ := List.forall_mem_cons.mp h
    have hown : ownPart (m :: layer) = ownPart [m] ++ ownPart layer :=
      List.filter_append [m] layer
    have hlanguage : languagePart (m :: layer) = languagePart [m] ++ languagePart layer := by
      simp [languagePart]
    rw [writeAll, List.foldlM_cons, write_ofWrites hm]
    show (ofWrites (own ++ ownPart [m]) (language ++ languagePart [m])).writeAll layer = _
    rw [ih hlayer, hown, hlanguage, List.append_assoc, List.append_assoc]

/-- What is looked up among the own settings of a layer is looked up in the layer. -/
theorem lookup_ownPart (hname : name ∈ ownNames) :
    Json.lookup name (ownPart layer).reverse = Json.lookup name layer.reverse := by
  rw [ownPart, ← List.filter_reverse]
  induction layer.reverse with
  | nil => rfl
  | cons m rest ih =>
    rw [List.filter_cons, Json.lookup]
    split
    · rw [Json.lookup, ih]
    · next hm =>
      have hne : m.1 ≠ name := fun h => hm (by simpa [h] using hname)
      rw [if_neg hne, ih]

end Settings

namespace Configuration

/-- One of a configuration's own settings, by its name. -/
def setting (c : Configuration) : String → Option Json
  | "output_file" => some c.outputFile
  | "namespace" => some c.namespaceName
  | "indent_size" => some c.indentSize
  | "use_tabs" => some c.useTabs
  | "type_case" => some c.typeCase
  | "field_case" => some c.fieldCase
  | "add_comments" => some c.addComments
  | _ => none

variable {c d : Configuration} {own : List (String × Json)} {name : String}

/-- Configurations are the same if their settings are. -/
theorem ext_setting (h : ∀ name, c.setting name = d.setting name)
    (hlanguage : c.language = d.language) : c = d := by
  cases c
  cases d
  obtain rfl := hlanguage
  congr
  · exact Option.some.inj (h "output_file")
  · exact Option.some.inj (h "namespace")
  · exact Option.some.inj (h "indent_size")
  · exact Option.some.inj (h "use_tabs")
  · exact Option.some.inj (h "type_case")
  · exact Option.some.inj (h "field_case")
  · exact Option.some.inj (h "add_comments")

/-- One of a configuration's own settings can be changed, and the others stay as they are. -/
theorem exists_set? (c : Configuration) (hname : name ∈ Settings.ownNames) (v : Json) :
    ∃ d, c.set? name v = some d ∧ d.language = c.language ∧
      ∀ k, d.setting k = if k = name then some v else c.setting k := by
  simp only [Settings.ownNames, List.mem_cons, List.not_mem_nil, or_false] at hname
  rcases hname with rfl | rfl | rfl | rfl | rfl | rfl | rfl
  all_goals
    refine ⟨_, rfl, rfl, fun k => ?_⟩
    unfold setting
    split <;> simp_all

/-- A configuration that is made of some fields has the values that they are given last, and the
defaults for the other ones. -/
theorem ofFields_setting (h : ∀ m ∈ own, m.1 ∈ Settings.ownNames) :
    ∃ c, ofFields own = .ok c ∧ c.language = .entries [] ∧
      ∀ k, c.setting k = (Json.lookup k own.reverse).or (({} : Configuration).setting k) := by
  -- from the end, since the field that comes last counts
  induction own using List.reverseRecOn with
  | nil => exact ⟨{}, rfl, rfl, fun k => rfl⟩
  | append_singleton own m ih =>
    obtain ⟨hown, hm⟩ := List.forall_mem_append.mp h
    obtain ⟨c, hc, hlanguage, hsetting⟩ := ih hown
    obtain ⟨d, hd, hkept, hnew⟩ := c.exists_set? (hm m (List.mem_singleton_self m)) m.2
    refine ⟨d, ?_, hkept.trans hlanguage, fun k => ?_⟩
    · rw [ofFields] at hc
      rw [ofFields, List.foldlM_append, hc]
      simp [hd, bind, Except.bind, pure, Except.pure]
    · rw [hnew, hsetting, List.reverse_append, Json.lookup_append]
      by_cases hk : k = m.1
      · simp [Json.lookup, hk]
      · simp [Json.lookup, hk, Ne.symm hk]

/-- Whether two configurations are the same but for the order of their language settings. -/
def Agrees (c d : Configuration) : Prop :=
  ∃ es es', c.language = .entries es ∧ d = { c with language := .entries es' } ∧ es.Perm es'

end Configuration

namespace Settings

/-- Whether a layer is another one with one setting of the language more: beside the object that
holds these, inside of it, or in an object of its own. -/
inductive Placed (name : String) (v : Json) : List (String × Json) → List (String × Json) → Prop
  /-- Beside the object. -/
  | beside (front back : List (String × Json)) : Placed name v (front ++ back)
      (front ++ (name, v) :: back)
  /-- Inside of the object. -/
  | inside (front back inner more : List (String × Json)) : Placed name v
      (front ++ (Configuration.languageField, .obj (inner ++ more)) :: back)
      (front ++ (Configuration.languageField, .obj (inner ++ (name, v) :: more)) :: back)
  /-- In an object that holds nothing else. -/
  | alone (front back : List (String × Json)) : Placed name v (front ++ back)
      (front ++ (Configuration.languageField, .obj [(name, v)]) :: back)

/-- Whether two layers are the same but for the place of one setting of the language, which comes up
nowhere else in them. -/
def Relocates (layer other : List (String × Json)) : Prop :=
  ∃ name v rest, name ≠ Configuration.languageField ∧ name ∉ ownNames ∧
    name ∉ (languagePart rest).map (·.1) ∧ Placed name v rest layer ∧ Placed name v rest other

section

variable {layer other rest : List (String × Json)} {name : String} {v : Json}

/-- The setting is the language's, wherever it is placed. -/
theorem Placed.parts (h : Placed name v rest layer) (hname : name ≠ Configuration.languageField)
    (hown : name ∉ ownNames) : ownPart layer = ownPart rest ∧
      ∃ front back, languagePart rest = front ++ back ∧
        languagePart layer = front ++ (name, v) :: back := by
  cases h with
  | beside front back =>
    refine ⟨?_, languagePart front, languagePart back, by simp [languagePart], ?_⟩
    · simp [ownPart, List.filter_append, hown]
    · simp [languagePart, contribution, hname, hown]
  | inside front back inner more =>
    refine ⟨?_, languagePart front ++ inner, more ++ languagePart back, ?_, ?_⟩
    · simp [ownPart, List.filter_append, languageField_notMem]
    · simp [languagePart, contribution, Json.members?]
    · simp [languagePart, contribution, Json.members?]
  | alone front back =>
    refine ⟨?_, languagePart front, languagePart back, by simp [languagePart], ?_⟩
    · simp [ownPart, List.filter_append, languageField_notMem]
    · simp [languagePart, contribution, Json.members?]

/-- Beside or inside makes no difference to the values of the language's settings. -/
theorem Relocates.lookup_languagePart (h : Relocates layer other) (k : String) :
    Json.lookup k (languagePart layer).reverse = Json.lookup k (languagePart other).reverse := by
  obtain ⟨name, v, rest, hname, hown, honce, hlayer, hother⟩ := h
  obtain ⟨-, front, back, hrest, hpart⟩ := hlayer.parts hname hown
  obtain ⟨-, front', back', hrest', hpart'⟩ := hother.parts hname hown
  rw [hpart, hpart', Json.lookup_reverse_insert (hrest ▸ honce),
    Json.lookup_reverse_insert (hrest' ▸ honce), ← hrest, ← hrest']

/-- Nor does it make one to the configuration's own settings. -/
theorem Relocates.ownPart_eq (h : Relocates layer other) : ownPart layer = ownPart other := by
  obtain ⟨name, v, rest, hname, hown, -, hlayer, hother⟩ := h
  rw [(hlayer.parts hname hown).1, (hother.parts hname hown).1]

end

end Settings

end SchemaStruct
