import SchemaStruct.Proofs.CSharp.Sections
import SchemaStruct.Proofs.Source.Leaves
import SchemaStruct.Proofs.Source.Printed
import SchemaStruct.Proofs.Text.Lines

/-!
# Renderers Are Printers

Everything that a renderer does is put together from the steps of its printer, whether it writes
structs or classes. So what holds of all printing holds of the declarations of a file. The lines
that it writes are empty or have words in them, since each of them has a fixed text somewhere.

## Main definitions

* `HasWords`: parts of a line that are none at all, or one of which is a fixed text;
* `Rendered.IsPublic`: the declarations that properties get.

## Main results

* `Renderer.printed_properties` and `Renderer.printed_constructor`: what stands in a record;
* `Renderer.printed_structs` and `Renderer.printed_classes`: all records;
* `HasWords.hasText`: a line with words has text.
-/

namespace SchemaStruct.CSharp

open Template.Filter (hasText)

/-- Whether a line made of these parts has words in it, if it has any parts. -/
def HasWords (parts : List Fragment) : Prop :=
  parts = [] ∨ ∃ s, Leaf.text s ∈ Fragment.leavesAll parts ∧ hasText s.toList = true

namespace HasWords

variable {parts : List Fragment} {s : String}

/-- A line without parts. -/
theorem nil : HasWords [] := .inl rfl

/-- A line with a text among its leaves. -/
theorem of_mem (hs : hasText s.toList = true) (hmem : Leaf.text s ∈ Fragment.leavesAll parts) :
    HasWords parts :=
  .inr ⟨s, hmem, hs⟩

/-- A line that is one text. -/
theorem text (hs : Template.Filter.hasText s.toList = true) : HasWords [.text s] :=
  of_mem hs List.mem_cons_self

/-- A line with words has text. -/
theorem hasText {names : NameTable} (h : HasWords parts)
    (hs : Fragment.serializeAll names parts = .ok s) :
    s = "" ∨ Template.Filter.hasText s.toList = true := by
  rcases h with rfl | ⟨word, hmem, hword⟩
  · exact .inl (Except.ok.inj hs).symm
  · refine .inr ?_
    -- the word stands in the text of the line, between what is in front of it and behind it
    obtain ⟨front, back, hleaves⟩ := List.append_of_mem hmem
    rw [Fragment.serializeAll_eq_joinLeaves, hleaves, Fragment.joinLeaves_append,
      ← List.singleton_append, Fragment.joinLeaves_append, Fragment.joinLeaves_singleton] at hs
    obtain ⟨before, -, hs⟩ := ok_of_bind hs
    obtain ⟨rest, hrest, hs⟩ := ok_of_bind hs
    obtain ⟨_, hread, hrest⟩ := ok_of_bind hrest
    obtain rfl := Except.ok.inj hread
    obtain ⟨after, -, hrest⟩ := ok_of_bind hrest
    obtain rfl : word ++ after = rest := Except.ok.inj hrest
    obtain rfl : before ++ (word ++ after) = s := Except.ok.inj hs
    rw [String.toList_append, String.toList_append, Text.hasText_append, Text.hasText_append, hword,
      Bool.true_or, Bool.or_true]

end HasWords

/-- Whether a declaration is one in pieces that begins with a keyword, as those of properties do. -/
def Rendered.IsPublic : Rendered → Prop
  | .definition d => d.modifier = "public"
  | .bare _ => False

/-- The declaration of a property has words. -/
theorem Rendered.IsPublic.hasWords {d : Rendered} (h : d.IsPublic) : HasWords [d.toFragment] := by
  cases d with
  | definition d =>
    have hmem : Leaf.text d.modifier ∈ Fragment.leavesAll [(definition d).toFragment] := by
      simp [toFragment, Definition.toFragment, Fragment.leavesAll, Fragment.leaves]
    refine .of_mem ?_ hmem
    rw [show d.modifier = "public" from h]
    decide
  | bare f => exact h.elim

namespace Renderer

open NameTable

variable {r : Renderer} {rule : PropertyRule}

/-- A rule does nothing but print, and declares properties that begin with a keyword. -/
def Prints (r : Renderer) (rule : PropertyRule) : Prop :=
  ∀ p name record, Printed r.printer HasWords (rule r p name record) Rendered.IsPublic

/-- The declaration of a property that can be written. -/
theorem prints_writable (r : Renderer) : r.Prints writableProperty := fun p _ _ =>
  have htype : Printed r.printer HasWords (r.propertyType p) fun _ => True :=
    (Printed.ofExcept fun _ _ => trivial).bind fun t _ => (Printed.need t.usings).bind fun _ _ =>
      .pure trivial
  htype.bind fun _ _ => .pure rfl

/-- The declaration of a property that can only be read, or the fault that there is none. -/
theorem prints_readOnly (r : Renderer) : r.Prints readOnlyRule := by
  intro p name record
  refine (r.prints_writable p name record).bind fun declared hdeclared => ?_
  dsimp only
  split
  · split
    · exact .throw _
    · exact .pure hdeclared
  · exact .throw _

/-- The comment above a declaration. -/
theorem printed_description (r : Renderer) (lines : List String) :
    Printed r.printer HasWords (r.description lines) fun _ => True := by
  unfold description
  split
  · exact .pure trivial
  · refine .comment fun s hs => .text ?_
    -- each line of the comment begins with slashes
    simp only [Printer.commentTexts, List.mem_append, List.mem_map, Option.toList_some,
      List.mem_singleton] at hs
    rcases hs with (rfl | ⟨line, -, rfl⟩) | rfl
    · decide
    · split
      · decide
      · rw [String.toList_append, Text.hasText_append]
        exact Bool.or_eq_true_iff.mpr (.inl (by decide))
    · decide

/-- The attribute of a property. -/
theorem printed_jsonAttribute (r : Renderer) (name : String) :
    Printed r.printer HasWords (r.jsonAttribute name) fun _ => True :=
  (Printed.need _).bind fun _ _ =>
    .line (.of_mem (show hasText "[JsonPropertyName(".toList = true by decide)
      (by simp [Fragment.leavesAll, Fragment.leaves]))

/-- The head of a record whose declaration has a keyword. -/
theorem printed_head (r : Renderer) (lines : List String) {declaration : Fragment} {word : String}
    (hword : hasText word.toList = true) (hmem : Leaf.text word ∈ declaration.leaves)
    (name : Fragment) (base : Json) :
    Printed r.printer HasWords (r.head lines declaration name base) fun _ => True := by
  refine (r.printed_description lines).bind fun _ _ => ?_
  split <;> exact .line (.of_mem hword (by simp [Fragment.leavesAll, hmem]))

/-- What stands above the declaration of a property. -/
theorem printed_above (r : Renderer) (isFirst : Bool) (p : Property) :
    Printed r.printer HasWords (r.above isFirst p) fun _ => True := by
  have hgap : Printed r.printer HasWords (r.gap isFirst) fun _ => True := by
    unfold gap
    split
    · exact .line .nil
    · exact .pure trivial
  have hattribute : Printed r.printer HasWords (r.attributeOf p) fun _ => True := by
    unfold attributeOf
    split
    · exact r.printed_jsonAttribute p.name
    · exact .pure trivial
  have hlines : Printed r.printer HasWords (Emit.ofExcept (r.commentLines p.description))
      fun _ => True := .ofExcept fun _ _ => trivial
  exact hgap.bind fun _ _ => hlines.bind fun lines _ =>
    (r.printed_description lines).bind fun _ _ => hattribute

/-- The properties of a record. -/
theorem printed_properties (hrule : r.Prints rule) (record : Record) :
    Printed r.printer HasWords (r.properties rule record) fun _ => True := by
  refine .forM fun entry _ => ?_
  dsimp only
  rw [property_eq]
  exact (r.printed_above _ _).bind fun _ _ => (hrule _ _ record).bind fun _ hd =>
    .line hd.hasWords

/-- The constructor of a record. -/
theorem printed_constructor (hrule : r.Prints rule) (name : Fragment) :
    Printed r.printer HasWords (r.constructor rule name) fun _ => True := by
  have hrecord : Printed r.printer HasWords
      (Emit.ofExcept ((RecordIndex.ofGraph r.names.graph).lookup r.names name)) fun _ => True :=
    .ofExcept fun _ _ => trivial
  have hparts (record : Record) : Printed r.printer HasWords (r.constructorParts rule record)
      fun parts => ∀ part ∈ parts, HasWords [part.2] := by
    refine .mapM fun _ _ => (hrule _ _ record).bind fun _ _ => .pure ?_
    exact .of_mem (show hasText "this.".toList = true by decide)
      (by simp [Fragment.leavesAll, Fragment.leaves])
  refine hrecord.bind fun record _ => (hparts record).bind fun parts hassigned => ?_
  refine (Printed.line ?_).bind fun _ _ => ?_
  · exact .of_mem (show hasText "public ".toList = true by decide)
      (by simp [Fragment.leavesAll, Fragment.leaves])
  · exact (Printed.block (.forM fun part hpart => .line (hassigned part hpart))
      (.text (by decide)) (.text (by decide))).bind fun _ _ => .line .nil

/-- A record whose declaration has a keyword and whose body is printed. -/
theorem printed_recordAs {body : Emit Unit} (hbody : Printed r.printer HasWords body fun _ => True)
    {declaration : Fragment} {word : String} (hword : hasText word.toList = true)
    (hmem : Leaf.text word ∈ declaration.leaves) (record : Record) (name : Name) :
    Printed r.printer HasWords (r.recordAs declaration body record name) fun _ => True := by
  have hlines : Printed r.printer HasWords (Emit.ofExcept (r.recordLines record)) fun _ => True :=
    .ofExcept fun _ _ => trivial
  exact hlines.bind fun lines _ => (r.printed_head lines hword hmem _ _).bind fun _ _ =>
    hbody.block (.text (by decide)) (.text (by decide))

/-- All records as classes. -/
theorem printed_classes (r : Renderer) : Printed r.printer HasWords r.classes fun _ => True :=
  .eachRecord true fun record _ => by
    rw [classOf_eq]
    exact printed_recordAs (printed_properties r.prints_writable record)
      (show hasText "partial class".toList = true by decide)
      (by simp [classDeclaration, Fragment.leavesAll, Fragment.leaves]) record _

/-- The declaration of a struct, or of a class, has a keyword. -/
theorem exists_word_structDeclaration (v : Visibility) :
    ∃ word, hasText word.toList = true ∧ Leaf.text word ∈ (structDeclaration v).leaves := by
  cases v with
  | exported | internal =>
    exact ⟨"readonly struct", by decide, by
      simp [structDeclaration, Fragment.leavesAll, Fragment.leaves]⟩
  | hidden | unstated =>
    exact ⟨"partial class", by decide, by
      simp [structDeclaration, classDeclaration, Fragment.leavesAll, Fragment.leaves]⟩

/-- All records as structs. -/
theorem printed_structs (r : Renderer) :
    Printed r.printer HasWords (r.structs writableProperty) fun _ => True :=
  .eachRecord true fun record _ => by
    rw [structOf_eq]
    obtain ⟨word, hword, hmem⟩ := exists_word_structDeclaration record.visibility
    exact printed_recordAs ((printed_constructor r.prints_readOnly _).bind fun _ _ =>
      printed_properties r.prints_readOnly record) hword hmem record _

end Renderer

end SchemaStruct.CSharp
