import SchemaStruct.CSharp.Definition
import SchemaStruct.Proofs.CSharp.TypeNames
import SchemaStruct.Proofs.Json.Escapes
import SchemaStruct.Proofs.Schema.Layers
import SchemaStruct.Proofs.Source.Contents

/-!
# Line Breaks in the Pieces of Code

Texts of the document reach the code in four places: in names, in parameters, in comments and in
attributes. Names are identifiers. A parameter that is not made into one consists of word characters
and possibly a line feed at its end. A comment is cut into lines at all line breaks, and an
attribute is written in printable ASCII. None of these pieces has a line break other than the line
feed, and neither have the types that are put together from names.

## Main results

* `CSharp.isLegalName_of_text?`: all names in the table of a graph are legal;
* `CSharp.feedsOnly_of_mem_parameters`: parameters;
* `Description.feedsOnly_of_mem_lines`, `CSharp.Renderer.consistsOf_escape`: the lines of comments;
* `Json.isOrdinary_of_mem_escapeString`: attributes;
* `CSharpType.feedsOnly_ofProperty`: types.
-/

namespace SchemaStruct

open Text (ConsistsOf FeedsOnly IsOrdinary)

namespace NameTable

/-- A text in a table with some assignments was there before or is one of those assigned. -/
theorem text?_assignAll {t : NameTable} {pairs : List (Name × String)} {n : Name} {s : String}
    (h : (t.assignAll pairs).text? n = some s) : t.text? n = some s ∨ s ∈ pairs.map Prod.snd := by
  induction pairs generalizing t with
  | nil => exact .inl h
  | cons pair pairs ih =>
    rw [List.map_cons, List.mem_cons]
    rcases ih (h : ((t.assign pair.1 pair.2).assignAll pairs).text? n = some s) with h | h
    · by_cases hn : n.handle = pair.1.handle
      · have hself : (t.assign pair.1 pair.2).text? n = some pair.2 := by
          rw [text?, hn]
          exact text?_assign_self t pair.1 pair.2
        rw [hself] at h
        exact .inr (.inl (Option.some.inj h).symm)
      · rw [text?_assign_of_ne t pair.2 hn] at h
        exact .inl h
    · exact .inr (.inr h)

end NameTable

namespace CSharp

section

variable {style : NamingStyle} (hstyle : style ≠ .kebab)

include hstyle

/-- The names that are assigned to properties are legal if those before are. -/
theorem isLegalName_of_text?_assignMembers {records : List Record} {t : NameTable}
    (ht : ∀ n s, t.text? n = some s → IsLegalName s) :
    ∀ n s, (assignMembers style records t).text? n = some s → IsLegalName s := by
  induction records generalizing t with
  | nil => exact ht
  | cons r records ih =>
    rw [assignMembers]
    refine ih fun n s hs => ?_
    rw [assignProperties_eq] at hs
    rcases NameTable.text?_assignAll hs with hs | hs
    · exact ht n s hs
    · obtain ⟨pair, hpair, rfl⟩ := List.mem_map.mp hs
      exact isLegalName_of_mem_identifiers hstyle pair.2 (List.of_mem_zip hpair).2

end

/-- All names that are assigned to a graph are legal. -/
theorem isLegalName_of_text? {g : TypeGraph} {typeStyle fieldStyle : NamingStyle}
    (htype : typeStyle ≠ .kebab) (hfield : fieldStyle ≠ .kebab) {n : Name} {s : String}
    (h : (assignNames g typeStyle fieldStyle).text? n = some s) : IsLegalName s := by
  refine isLegalName_of_text?_assignMembers hfield (fun n s hs => ?_) n s h
  rw [assignRecords_eq] at hs
  rcases NameTable.text?_assignAll hs with hs | hs
  · -- nothing is assigned in the beginning
    cases hs
  · obtain ⟨pair, hpair, rfl⟩ := List.mem_map.mp hs
    exact isLegalName_of_mem_identifiers htype pair.2 (List.of_mem_zip hpair).2

/-- An identifier has no line breaks. -/
theorem feedsOnly_of_isIdentifier {s : String} (h : IsIdentifier s) : FeedsOnly s :=
  fun _ hc => Text.isOrdinary_of_isWordChar (h.isWordChar hc)

/-- The name of a type has no line breaks. -/
theorem feedsOnly_of_scalarName? {choices : TypeChoices} {kind : FieldKind} {s : String}
    (h : scalarName? choices kind = some s) : FeedsOnly s := by
  have hkeywords : ∀ word ∈ keywords, FeedsOnly word := by decide
  rcases mem_keywords_of_scalarName? h with hkeyword | ⟨-, -, rfl⟩ | ⟨-, -, rfl⟩
  · exact hkeywords s hkeyword
  · cases choices.timeType <;> decide
  · decide

/-- A name that is taken over as a parameter consists of word characters, with a line feed at the
end at most. -/
theorem isOrdinary_of_isPlainName {cs : List Char} (h : isPlainName cs = true) :
    ∀ c ∈ cs, IsOrdinary c := by
  unfold isPlainName at h
  dsimp only at h
  generalize hbody : (if cs.getLast? = some '\n' then cs.dropLast else cs) = body at h
  have hordinary : ∀ c ∈ body, IsOrdinary c := by
    intro c hc
    cases body with
    | nil => cases h
    | cons first rest =>
      simp only [Bool.and_eq_true, Bool.or_eq_true, decide_eq_true_eq, List.all_eq_true] at h
      refine Text.isOrdinary_of_isWordChar ?_
      rcases List.mem_cons.mp hc with rfl | hc
      · exact h.1.imp_left fun halpha => by simp [Char.isAlphanum, halpha]
      · exact h.2 c hc
  by_cases hlast : cs.getLast? = some '\n'
  · obtain ⟨front, rfl⟩ := List.getLast?_eq_some_iff.mp hlast
    rw [if_pos hlast, List.dropLast_concat] at hbody
    intro c hc
    rcases List.mem_append.mp hc with hc | hc
    · exact hordinary c (hbody ▸ hc)
    · rw [List.mem_singleton.mp hc]
      exact fun _ => rfl
  · rw [if_neg hlast] at hbody
    exact hbody ▸ hordinary

/-- The parameter for a name has no line breaks but line feeds. -/
theorem feedsOnly_parameterBase (name : String) : FeedsOnly (parameterBase name) := by
  have hid : FeedsOnly
      (if isPlainName name.toList then name else sanitizer.shared name .camel) := by
    split
    · next h => exact isOrdinary_of_isPlainName h
    · unfold Sanitizer.shared Sanitizer.avoidReserved
      have hname := feedsOnly_of_isIdentifier
        (Naming.isIdentifier_identifier (show NamingStyle.camel ≠ .kebab by decide) name)
      split
      · exact Text.consistsOf_append.mpr ⟨hname, by decide⟩
      · exact hname
  have hat : FeedsOnly "@" := by decide
  unfold parameterBase
  generalize (if isPlainName name.toList then name else sanitizer.shared name .camel) = id at hid ⊢
  dsimp only
  split
  · exact Text.consistsOf_append.mpr ⟨hat, hid⟩
  · exact hid

/-- The parameters of a constructor have no line breaks but line feeds. -/
theorem feedsOnly_of_mem_parameters {used names : List String} :
    ∀ id ∈ parameters used names, FeedsOnly id := by
  rw [parameters_eq_handOut]
  refine forall_mem_handOut (fun used name => ?_) used names
  have hbase := feedsOnly_parameterBase name
  unfold parameter
  dsimp only
  split
  · obtain ⟨k, -, hk, -⟩ := firstFree_eq_candidate used
      (fun n => parameterBase name ++ toString n) used.length 2
    rw [fresh, hk]
    exact Text.consistsOf_append.mpr
      ⟨hbase, fun c hc => Text.isOrdinary_of_isWordChar (isWordChar_of_mem_number hc)⟩
  · exact hbase

end CSharp

/-- The lines of a description have no line breaks. -/
theorem Description.feedsOnly_of_mem_lines {v : Json} {lines : List String}
    (h : Description.lines v = .ok lines) : ∀ line ∈ lines, FeedsOnly line := by
  intro line hline
  unfold Description.lines at h
  split at h
  · rw [← Except.ok.inj h] at hline
    obtain ⟨piece, hpiece, rfl⟩ := List.mem_map.mp hline
    refine Text.consistsOf_ofList.mpr fun c hc => Text.isOrdinary_of_not_isLineBreak ?_
    exact Text.not_isLineBreak_of_mem_lines hpiece c (Text.mem_of_mem_trimEnd hc)
  · split at h
    · cases h
    · rw [← Except.ok.inj h] at hline
      cases hline

namespace CSharp.Renderer

/-- A character inside a comment stays as it is, or an escape stands for it. -/
theorem escapeChar_cases (c : Char) :
    (escapeChar c = [c] ∧ c ≠ '&' ∧ c ≠ '<' ∧ c ≠ '>') ∨
      (c = '&' ∧ escapeChar c = ['&', 'a', 'm', 'p', ';']) ∨
      (c = '<' ∧ escapeChar c = ['&', 'l', 't', ';']) ∨
      (c = '>' ∧ escapeChar c = ['&', 'g', 't', ';']) := by
  unfold escapeChar
  split_ifs with hamp hlt hgt
  · exact .inr (.inl ⟨hamp, rfl⟩)
  · exact .inr (.inr (.inl ⟨hlt, rfl⟩))
  · exact .inr (.inr (.inr ⟨hgt, rfl⟩))
  · exact .inl ⟨rfl, hamp, hlt, hgt⟩

/-- A text inside a comment has the characters of the escapes, and those of the text that have no
escape. -/
theorem consistsOf_escape {p : Char → Prop} {s : String}
    (hs : ∀ c ∈ s.toList, c ≠ '&' → c ≠ '<' → c ≠ '>' → p c)
    (hescapes : ConsistsOf p "&amp;&lt;&gt;") : ConsistsOf p (escape s) := by
  refine Text.consistsOf_ofList.mpr fun c hc => ?_
  obtain ⟨d, hd, hc⟩ := List.mem_flatMap.mp hc
  have hmem : ∀ chars ⊆ "&amp;&lt;&gt;".toList, c ∈ chars → p c :=
    fun chars hchars hc => hescapes c (hchars hc)
  obtain ⟨hkept, hamp, hlt, hgt⟩ | ⟨-, hesc⟩ | ⟨-, hesc⟩ | ⟨-, hesc⟩ := escapeChar_cases d
  · rw [hkept] at hc
    rw [List.mem_singleton.mp hc]
    exact hs d hd hamp hlt hgt
  all_goals
    rw [hesc] at hc
    exact hmem _ (by simp) hc

end CSharp.Renderer

namespace Json

/-- A written text has no line breaks, whatever text it is. -/
theorem isOrdinary_of_mem_escapeString {s : String} : ∀ c ∈ escapeString s, IsOrdinary c :=
  fun _ hc => Text.isOrdinary_of_not_isLineBreak
    (Text.isLineBreak_of_isPrintableAscii (isPrintableAscii_of_mem_escapeString hc))

end Json

namespace CSharpType

open CSharp

variable {names : NameTable} (choices : TypeChoices)
  {recordName : Option String → Except Fault Fragment}
  (hrecord : ∀ key f, recordName key = .ok f → f.ConsistsOf names IsOrdinary)

/-- A type that may be marked has no line breaks but line feeds if the type has none. -/
theorem feedsOnly_asNullableIf {t : CSharpType} (h : t.fragment.ConsistsOf names IsOrdinary)
    (b : Bool) : (t.asNullableIf b).fragment.ConsistsOf names IsOrdinary := by
  cases b with
  | false => exact h
  | true =>
    show t.asNullable.fragment.ConsistsOf names IsOrdinary
    unfold asNullable
    split
    · exact h
    · exact Fragment.consistsOf_group ⟨h, Fragment.consistsOf_text (by decide)⟩

include hrecord

/-- A layer of a type has no line breaks but line feeds if what is inside has none. -/
theorem feedsOnly_base {kind : FieldKind} {record : Option String}
    {items : Except Fault CSharpType} {t : CSharpType}
    (hitems : ∀ inside, items = .ok inside → inside.fragment.ConsistsOf names IsOrdinary)
    (h : base choices recordName kind record items = .ok t) :
    t.fragment.ConsistsOf names IsOrdinary := by
  obtain ⟨s, hs, hfragment⟩ | ⟨-, hf⟩ | ⟨inside, hinside, rfl | rfl⟩ := base_cases h
  · rw [hfragment]
    exact Fragment.consistsOf_text (feedsOnly_of_scalarName? hs)
  · exact hrecord record t.fragment hf
  · have hinside := hitems inside hinside
    unfold listOf
    split
    · exact Fragment.consistsOf_group
        ⟨Fragment.consistsOf_text (by decide), hinside, Fragment.consistsOf_text (by decide)⟩
    · exact Fragment.consistsOf_group ⟨hinside, Fragment.consistsOf_text (by decide)⟩
  · exact Fragment.consistsOf_group ⟨Fragment.consistsOf_text (by decide), hitems inside hinside,
      Fragment.consistsOf_text (by decide)⟩

/-- A type has no line breaks but line feeds if the names of records have none. -/
theorem feedsOnly_ofRef {ref : TypeRef} {t : CSharpType}
    (h : ofRef choices recordName ref = .ok t) : t.fragment.ConsistsOf names IsOrdinary := by
  induction ref using TypeRef.layers.induct generalizing t with
  | case1 kind record items nullable ih =>
    rw [ofRef_eq] at h
    obtain ⟨plain, hplain, h⟩ := ok_of_bind h
    obtain rfl := Except.ok.inj h
    exact feedsOnly_asNullableIf (feedsOnly_base choices hrecord (fun _ => ih) hplain) nullable
  | case2 kind record nullable =>
    rw [ofRef_eq] at h
    obtain ⟨plain, hplain, h⟩ := ok_of_bind h
    obtain rfl := Except.ok.inj h
    refine feedsOnly_asNullableIf (feedsOnly_base choices hrecord (fun inside hinside => ?_) hplain)
      nullable
    -- a list or a map without items is one of anything
    obtain rfl := Except.ok.inj hinside
    exact Fragment.consistsOf_text (by cases choices.anyType <;> decide)

/-- So has the type of a property. -/
theorem feedsOnly_ofProperty {p : Property} {t : CSharpType}
    (h : ofProperty choices recordName p = .ok t) : t.fragment.ConsistsOf names IsOrdinary := by
  obtain ⟨plain, hplain, h⟩ := ok_of_bind (h : (ofRef choices recordName p.type >>= _) = _)
  obtain rfl := Except.ok.inj h
  exact feedsOnly_asNullableIf (feedsOnly_ofRef choices hrecord hplain) _

end CSharpType

end SchemaStruct
