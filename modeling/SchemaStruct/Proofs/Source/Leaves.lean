import SchemaStruct.Proofs.Faults
import SchemaStruct.Source.Fragment

/-!
# Leaves of Fragments

Groups only hold fragments together: what a fragment says is said by its leaves, the texts, names
and values that are left when all groups are opened. Its text is that of the leaves, one behind the
other, and the fault of a fragment without a text is that of its first leaf without one.

## Main definitions

* `Leaf`: a text, a name or a value in a fragment;
* `Fragment.leavesAll`: the leaves of some fragments, in order;
* `Fragment.IsReadable` and `Fragment.reading`: fragments that have a text, and that text.

## Main results

* `Fragment.serializeAll_eq_joinLeaves`: the text of fragments comes from their leaves;
* `Fragment.serializeAll_of_isReadable`: it is there where all names are assigned.
-/

namespace SchemaStruct

/-- What a fragment is made of. -/
inductive Leaf
  /-- A text. -/
  | text (s : String)
  /-- A name. -/
  | name (n : Name)
  /-- A value without source text. -/
  | value (v : Json)

namespace Leaf

/-- The text of a leaf. -/
def read (names : NameTable) : Leaf → Except Fault String
  | text s => .ok s
  | name n => names.text n
  | value v => .error (.misfit (.notIterable v.kindName))

/-- Whether a leaf has a text: names need an assigned one, and values have none. -/
def IsReadable (names : NameTable) : Leaf → Prop
  | text _ => True
  | name n => (names.text? n).isSome
  | value _ => False

instance (names : NameTable) : DecidablePred (IsReadable names)
  | text _ => inferInstanceAs (Decidable True)
  | name n => inferInstanceAs (Decidable (names.text? n).isSome)
  | value _ => inferInstanceAs (Decidable False)

/-- The text of a leaf that has one. -/
def reading (names : NameTable) : Leaf → String
  | text s => s
  | name n => (names.text? n).getD ""
  | value _ => ""

/-- What is read of a leaf that has a text. -/
theorem read_of_isReadable {names : NameTable} {l : Leaf} (h : l.IsReadable names) :
    l.read names = .ok (l.reading names) := by
  cases l with
  | text s => rfl
  | name n =>
    obtain ⟨s, hs⟩ := Option.isSome_iff_exists.mp h
    rw [read, NameTable.text, reading, hs]
    rfl
  | value v => exact h.elim

end Leaf

namespace Fragment

mutual

/-- The leaves of a fragment, from left to right. -/
def leaves : Fragment → List Leaf
  | empty => []
  | text s => [.text s]
  | name n => [.name n]
  | group _ parts => leavesAll parts
  | value v => [.value v]

/-- The leaves of some fragments. -/
def leavesAll : List Fragment → List Leaf
  | [] => []
  | f :: fs => leaves f ++ leavesAll fs

end

/-- The texts of some leaves, one behind the other. -/
def joinLeaves (names : NameTable) (ls : List Leaf) : Except Fault String :=
  String.join <$> ls.mapM (Leaf.read names)

/-- The texts of leaves behind others. -/
theorem joinLeaves_append (names : NameTable) (ls more : List Leaf) :
    joinLeaves names (ls ++ more) = (do
      let s ← joinLeaves names ls
      let rest ← joinLeaves names more
      return s ++ rest) := by
  unfold joinLeaves
  rw [List.mapM_append]
  rcases ls.mapM (Leaf.read names) with f | texts
  · rfl
  · rcases more.mapM (Leaf.read names) with f | others
    · rfl
    · exact congrArg Except.ok String.join_append

/-- The text of one leaf. -/
theorem joinLeaves_singleton (names : NameTable) (l : Leaf) :
    joinLeaves names [l] = l.read names := by
  rw [joinLeaves, List.mapM_cons, List.mapM_nil]
  cases l.read names with
  | error f => rfl
  | ok s =>
    show Except.ok (String.join [s]) = Except.ok s
    simp

mutual

/-- The text of a fragment is that of its leaves. -/
theorem serialize_eq_joinLeaves (names : NameTable) :
    (f : Fragment) → serialize names f = joinLeaves names (leaves f)
  | empty => rfl
  | text s => (joinLeaves_singleton names (.text s)).symm
  | name n => (joinLeaves_singleton names (.name n)).symm
  | group _ parts => serializeAll_eq_joinLeaves names parts
  | value v => (joinLeaves_singleton names (.value v)).symm

/-- So is the text of some fragments. -/
theorem serializeAll_eq_joinLeaves (names : NameTable) :
    (fs : List Fragment) → serializeAll names fs = joinLeaves names (leavesAll fs)
  | [] => rfl
  | f :: fs => by
    rw [serializeAll, serialize_eq_joinLeaves names f, serializeAll_eq_joinLeaves names fs,
      leavesAll, joinLeaves_append]

end

/-- Whether some fragments have a text: all their leaves have one. -/
def IsReadable (names : NameTable) (fs : List Fragment) : Prop :=
  ∀ l ∈ leavesAll fs, l.IsReadable names

instance (names : NameTable) : DecidablePred (IsReadable names) := fun fs =>
  inferInstanceAs (Decidable (∀ l ∈ leavesAll fs, l.IsReadable names))

/-- The text of fragments that have one: the texts of their leaves, from left to right. -/
def reading (names : NameTable) (fs : List Fragment) : String :=
  String.join ((leavesAll fs).map (Leaf.reading names))

/-- Fragments whose leaves have texts have a text. -/
theorem serializeAll_of_isReadable {names : NameTable} {fs : List Fragment}
    (h : IsReadable names fs) : serializeAll names fs = .ok (reading names fs) := by
  rw [serializeAll_eq_joinLeaves, joinLeaves, reading]
  have hread : (leavesAll fs).mapM (Leaf.read names) =
      .ok ((leavesAll fs).map (Leaf.reading names)) :=
    mapM_eq_ok fun l hl => Leaf.read_of_isReadable (h l hl)
  rw [hread]
  rfl

end Fragment

end SchemaStruct
