import Mathlib.Data.List.Forall2
import Mathlib.Tactic.ByContra
import Mathlib.Tactic.Tauto
import SchemaStruct.Proofs.Source.Leaves

/-!
# Regrouping Fragments

How fragments are nested makes no difference to their text: opening a group, closing one around
neighbours, or doing so somewhere inside leaves all leaves where they are. A fragment of texts,
names and groups has a text as soon as its names have one, and where it has none the first name
without a text is the one that is complained about. Separators are put between fragments as they
are put between the texts of these.

## Main definitions

* `Fragment.IsSource`: a fragment of texts, names and groups;
* `Fragment.Regroups`: fragments that differ in their groups only.

## Main results

* `Fragment.leavesAll_of_regroups`: regrouping keeps the leaves;
* `Fragment.exists_serialize_iff` and `Fragment.exists_unassigned`: where there is a text, and which
  name is to blame where there is none;
* `Fragment.serializeAll_intersperse_eq`: the text of fragments with separators;
* `Fragment.serialize_flattens`: all of this for one fragment and for separated ones.
-/

namespace SchemaStruct

/-- Whether a leaf is a value without source text. -/
def Leaf.isValue : Leaf → Bool
  | value _ => true
  | _ => false

namespace Fragment

/-- A fragment that is made of texts, names and groups, and of nothing. -/
def IsSource (f : Fragment) : Prop := ∀ l ∈ leaves f, l.isValue = false

instance : DecidablePred IsSource := fun f =>
  inferInstanceAs (Decidable (∀ l ∈ leaves f, l.isValue = false))

/-- Whether fragments differ in their groups only: groups are opened and closed, anywhere. -/
inductive Regroups : List Fragment → List Fragment → Prop
  /-- Nothing changes. -/
  | refl (fs : List Fragment) : Regroups fs fs
  /-- What is opened may be closed. -/
  | symm {fs gs : List Fragment} : Regroups fs gs → Regroups gs fs
  /-- One change behind another. -/
  | trans {fs gs hs : List Fragment} : Regroups fs gs → Regroups gs hs → Regroups fs hs
  /-- A group is opened. -/
  | opened (b : Bracket) (parts : List Fragment) : Regroups [group b parts] parts
  /-- Neighbours change by themselves. -/
  | append {fs gs fs' gs' : List Fragment} :
      Regroups fs gs → Regroups fs' gs' → Regroups (fs ++ fs') (gs ++ gs')

variable {names : NameTable} {f g separator : Fragment} {fs gs : List Fragment}

/-- The leaves of neighbours. -/
theorem leavesAll_append (fs gs : List Fragment) :
    leavesAll (fs ++ gs) = leavesAll fs ++ leavesAll gs := by
  induction fs with
  | nil => rfl
  | cons f fs ih => rw [List.cons_append, leavesAll, ih, leavesAll, List.append_assoc]

/-- The leaves of a fragment by itself. -/
theorem leavesAll_singleton (f : Fragment) : leavesAll [f] = leaves f :=
  List.append_nil (leaves f)

/-- Groups are nothing but a way to hold leaves together. -/
theorem leavesAll_of_regroups (h : Regroups fs gs) : leavesAll fs = leavesAll gs := by
  induction h with
  | refl fs => rfl
  | symm _ ih => exact ih.symm
  | trans _ _ ih ih' => exact ih.trans ih'
  | opened b parts => exact leavesAll_singleton (group b parts)
  | append _ _ ih ih' => rw [leavesAll_append, leavesAll_append, ih, ih']

/-- Leaves have texts, one behind the other, as soon as each of them has one. -/
theorem joinLeaves_of_isReadable {ls : List Leaf} (h : ∀ l ∈ ls, l.IsReadable names) :
    joinLeaves names ls = .ok (String.join (ls.map (Leaf.reading names))) := by
  have hread : ls.mapM (Leaf.read names) = .ok (ls.map (Leaf.reading names)) :=
    mapM_eq_ok fun l hl => Leaf.read_of_isReadable (h l hl)
  rw [joinLeaves, hread]
  rfl

/-- A leaf without a text is to blame if all leaves in front of it have one. -/
theorem joinLeaves_eq_error {front back : List Leaf} {l : Leaf} {fault : Fault}
    (hfront : ∀ l ∈ front, l.IsReadable names) (hl : l.read names = .error fault) :
    joinLeaves names (front ++ l :: back) = .error fault := by
  rw [joinLeaves_append, joinLeaves_of_isReadable hfront, ← List.singleton_append,
    joinLeaves_append, joinLeaves_singleton, hl]
  rfl

/-- A leaf of a source fragment has a text if it is no name, or an assigned one. -/
theorem isReadable_iff_of_isValue {l : Leaf} (h : l.isValue = false) :
    l.IsReadable names ↔ ∀ n, l = .name n → (names.text? n).isSome := by
  cases l with
  | text s => exact iff_of_true trivial fun n hn => Leaf.noConfusion hn
  | name n => exact ⟨fun hn m hm => Leaf.name.inj hm ▸ hn, fun hn => hn n rfl⟩
  | value v => cases h

/-- All leaves of a source fragment have texts if all its names have one. -/
theorem forall_isReadable_iff (hf : f.IsSource) :
    (∀ l ∈ leaves f, l.IsReadable names) ↔
      ∀ n, Leaf.name n ∈ leaves f → (names.text? n).isSome := by
  constructor
  · exact fun h n hn => h _ hn
  · intro h l hl
    refine (isReadable_iff_of_isValue (hf l hl)).mpr ?_
    rintro n rfl
    exact h n hl

/-- Where a name of a source fragment is not assigned, the first such name is to blame. -/
theorem exists_unassigned (hf : f.IsSource)
    (h : ¬ ∀ n, Leaf.name n ∈ leaves f → (names.text? n).isSome) :
    ∃ front n back, leaves f = front ++ .name n :: back ∧ (∀ l ∈ front, l.IsReadable names) ∧
      names.text? n = none ∧ serialize names f = .error (.unassignedName n.proposed) := by
  -- the first leaf without a text is a name, since the fragment has no values
  rw [← forall_isReadable_iff hf] at h
  obtain ⟨l, hl⟩ : ∃ l, (leaves f).find? (fun l => !decide (l.IsReadable names)) = some l := by
    rw [← Option.isSome_iff_exists, List.find?_isSome]
    simpa using h
  obtain ⟨hunreadable, front, back, hleaves, hfront⟩ := List.find?_eq_some_iff_append.mp hl
  have hfront : ∀ l ∈ front, l.IsReadable names := by simpa using hfront
  have hunreadable : ¬ l.IsReadable names := by simpa using hunreadable
  have hmem : l ∈ leaves f := hleaves ▸ List.mem_append_right front List.mem_cons_self
  cases l with
  | text s => exact absurd trivial hunreadable
  | value v => cases hf _ hmem
  | name n =>
    have hnone : names.text? n = none := Option.not_isSome_iff_eq_none.mp hunreadable
    have hread : (Leaf.name n).read names = .error (.unassignedName n.proposed) := by
      rw [Leaf.read, NameTable.text, hnone]
    refine ⟨front, n, back, hleaves, hfront, hnone, ?_⟩
    rw [serialize_eq_joinLeaves, hleaves, joinLeaves_eq_error hfront hread]

/-- A source fragment has a text if all its names are assigned. -/
theorem serialize_of_assigned (hf : f.IsSource)
    (h : ∀ n, Leaf.name n ∈ leaves f → (names.text? n).isSome) :
    serialize names f = .ok (String.join ((leaves f).map (Leaf.reading names))) := by
  rw [serialize_eq_joinLeaves]
  exact joinLeaves_of_isReadable ((forall_isReadable_iff hf).mpr h)

/-- It has none otherwise. -/
theorem exists_serialize_iff (hf : f.IsSource) :
    (∃ s, serialize names f = .ok s) ↔
      ∀ n, Leaf.name n ∈ leaves f → (names.text? n).isSome := by
  constructor
  · rintro ⟨s, hs⟩
    by_contra h
    obtain ⟨-, n, -, -, -, -, hfault⟩ := exists_unassigned hf h
    rw [hs] at hfault
    cases hfault
  · exact fun h => ⟨_, serialize_of_assigned hf h⟩

/-- Some fragments have a text if each of them has one. -/
theorem exists_serializeAll_iff :
    (∃ s, serializeAll names fs = .ok s) ↔ ∀ f ∈ fs, ∃ s, serialize names f = .ok s := by
  induction fs with
  | nil => simp [serializeAll]
  | cons f fs ih =>
    rw [List.forall_mem_cons, ← ih, serializeAll]
    constructor
    · rintro ⟨s, h⟩
      obtain ⟨first, hfirst, h⟩ := ok_of_bind h
      obtain ⟨rest, hrest, -⟩ := ok_of_bind h
      exact ⟨⟨first, hfirst⟩, rest, hrest⟩
    · rintro ⟨⟨first, hfirst⟩, rest, hrest⟩
      exact ⟨first ++ rest, by rw [hfirst, hrest]; rfl⟩

/-- Separated fragments are the fragments and, if there are neighbours, the separator. -/
theorem mem_intersperse :
    f ∈ intersperse separator fs ↔ f ∈ fs ∨ f = separator ∧ 2 ≤ fs.length := by
  induction fs with
  | nil => simp [intersperse]
  | cons g fs ih =>
    cases fs with
    | nil => simp [intersperse]
    | cons next fs =>
      rw [show intersperse separator (g :: next :: fs) =
        g :: separator :: intersperse separator (next :: fs) from rfl]
      rw [List.mem_cons, List.mem_cons, ih]
      have hlength : 2 ≤ (g :: next :: fs).length := by simp
      -- the separator stands between these two, so it does not matter whether it comes again
      simp only [List.mem_cons, hlength, and_true]
      tauto

/-- The text of separated fragments: their texts with the text of the separator in between. Without
neighbours the separator needs no text. -/
theorem serializeAll_intersperse_eq {texts : List String} {s : String}
    (hseparator : 2 ≤ fs.length → serialize names separator = .ok s)
    (h : List.Forall₂ (fun f t => serialize names f = .ok t) fs texts) :
    serializeAll names (intersperse separator fs) = .ok (s.intercalate texts) := by
  induction h with
  | nil => rfl
  | @cons f t fs texts hf htail ih =>
    cases htail with
    | nil =>
      rw [intersperse, String.intercalate_singleton, serializeAll, hf]
      exact congrArg Except.ok (String.append_empty)
    | @cons g u fs texts hg htail =>
      have hs : serialize names separator = .ok s := hseparator (by simp)
      rw [show intersperse separator (f :: g :: fs) =
        f :: separator :: intersperse separator (g :: fs) from rfl]
      rw [serializeAll, hf, serializeAll, hs, ih fun _ => hs, String.intercalate_cons_cons,
        String.append_assoc]
      rfl

/-- Serializing flattens. A fragment of texts, names and groups has a text if and only if all names
in it are assigned; the text is that of its leaves from left to right, and otherwise the fault is
that of the first name without a text. Regrouping changes neither the text nor the fault. Separated
fragments have a text if and only if the fragments have, and between neighbours the separator; it is
the texts of the fragments joined by that of the separator. -/
theorem serialize_flattens (names : NameTable) {f : Fragment} (hf : f.IsSource) :
    ((∃ s, serialize names f = .ok s) ↔
      ∀ n, Leaf.name n ∈ leaves f → (names.text? n).isSome) ∧
    ((∀ n, Leaf.name n ∈ leaves f → (names.text? n).isSome) →
      serialize names f = .ok (String.join ((leaves f).map (Leaf.reading names)))) ∧
    ((¬ ∀ n, Leaf.name n ∈ leaves f → (names.text? n).isSome) →
      ∃ front n back, leaves f = front ++ .name n :: back ∧
        (∀ l ∈ front, l.IsReadable names) ∧ names.text? n = none ∧
        serialize names f = .error (.unassignedName n.proposed)) ∧
    (∀ g, Regroups [f] [g] → serialize names g = serialize names f) ∧
    ∀ (separator : Fragment) (fs : List Fragment),
      ((∃ s, serializeAll names (intersperse separator fs) = .ok s) ↔
        (∀ g ∈ fs, ∃ s, serialize names g = .ok s) ∧
          (2 ≤ fs.length → ∃ s, serialize names separator = .ok s)) ∧
      ∀ (s : String) (texts : List String),
        (2 ≤ fs.length → serialize names separator = .ok s) →
        List.Forall₂ (fun g t => serialize names g = .ok t) fs texts →
        serializeAll names (intersperse separator fs) = .ok (s.intercalate texts) := by
  refine ⟨exists_serialize_iff hf, serialize_of_assigned hf, exists_unassigned hf, fun g hg => ?_,
    fun separator fs => ⟨?_, fun s texts => serializeAll_intersperse_eq⟩⟩
  · have hleaves := leavesAll_of_regroups hg
    rw [leavesAll_singleton, leavesAll_singleton] at hleaves
    rw [serialize_eq_joinLeaves, serialize_eq_joinLeaves, hleaves]
  · rw [exists_serializeAll_iff]
    constructor
    · exact fun h => ⟨fun g hg => h g (mem_intersperse.mpr (.inl hg)),
        fun hlength => h separator (mem_intersperse.mpr (.inr ⟨rfl, hlength⟩))⟩
    · rintro ⟨hfs, hseparator⟩ g hg
      rcases mem_intersperse.mp hg with hg | ⟨rfl, hlength⟩
      · exact hfs g hg
      · exact hseparator hlength

/-- A declaration in nested groups, with two names. -/
def declaration : Fragment :=
  .group .square [.text "public ", .group .round [.name ⟨.loose 0, "type"⟩, .empty, .text " "],
    .group .square [], .name ⟨.loose 1, "name"⟩]

/-- The same without nested groups. -/
def flatDeclaration : Fragment :=
  .group .round [.text "public ", .name ⟨.loose 0, "type"⟩, .empty, .text " ",
    .name ⟨.loose 1, "name"⟩]

/-- The nested groups are opened one after the other, and a round one is closed around all. -/
theorem regroups_declaration : Regroups [declaration] [flatDeclaration] :=
  have hinner : Regroups
      [.text "public ", .group .round [.name ⟨.loose 0, "type"⟩, .empty, .text " "],
        .group .square [], .name ⟨.loose 1, "name"⟩]
      [.text "public ", .name ⟨.loose 0, "type"⟩, .empty, .text " ", .name ⟨.loose 1, "name"⟩] :=
    (Regroups.refl [_]).append ((Regroups.opened _ _).append
      ((Regroups.opened _ _).append (.refl [_])))
  (Regroups.opened _ _).trans (hinner.trans (Regroups.opened _ _).symm)

/-- The theorem at that declaration: with both names assigned, with one of them assigned, regrouped,
and twice with a name in between. -/
theorem serialize_flattens_declaration :
    let half := (NameTable.ofGraph .empty).assign ⟨.loose 0, "type"⟩ "int"
    let names := half.assign ⟨.loose 1, "name"⟩ "Width"
    let doubled := intersperse (.name ⟨.loose 0, "type"⟩) [declaration, .empty, flatDeclaration]
    declaration.IsSource ∧
      serialize names declaration = .ok "public int Width" ∧
      serialize names flatDeclaration = serialize names declaration ∧
      serialize half declaration = .error (.unassignedName "name") ∧
      serializeAll names doubled = .ok "public int Widthintintpublic int Width" := by
  intro half names doubled
  have hsource : declaration.IsSource := by decide
  obtain ⟨-, htext, -, hregroups, hseparated⟩ := serialize_flattens names hsource
  obtain ⟨-, -, hfault, -⟩ := serialize_flattens half hsource
  have hleaves : leaves declaration =
      [.text "public ", .name ⟨.loose 0, "type"⟩, .text " ", .name ⟨.loose 1, "name"⟩] := rfl
  have hassigned : ∀ n, Leaf.name n ∈ leaves declaration → (names.text? n).isSome := by
    intro n hn
    rw [hleaves] at hn
    simp only [List.mem_cons, Leaf.name.injEq, reduceCtorEq, List.not_mem_nil, false_or,
      or_false] at hn
    rcases hn with rfl | rfl <;> rfl
  have hserialized : serialize names declaration = .ok "public int Width" := htext hassigned
  have hflat := hregroups _ regroups_declaration
  refine ⟨hsource, hserialized, hflat, ?_, ?_⟩
  · obtain ⟨front, n, back, hsplit, -, hnone, hfault⟩ := hfault fun h =>
      absurd (h ⟨.loose 1, "name"⟩ (by rw [hleaves]; simp)) (by decide)
    -- of the two names, the second one has no text
    have hn : Leaf.name n ∈ leaves declaration :=
      hsplit ▸ List.mem_append_right front List.mem_cons_self
    rw [hleaves] at hn
    simp only [List.mem_cons, Leaf.name.injEq, reduceCtorEq, List.not_mem_nil, false_or,
      or_false] at hn
    rcases hn with rfl | rfl
    · cases hnone
    · exact hfault
  · exact (hseparated _ _).2 "int" ["public int Width", "", "public int Width"] (fun _ => rfl)
      (.cons hserialized (.cons rfl (.cons (hflat.trans hserialized) .nil)))

end Fragment

end SchemaStruct
