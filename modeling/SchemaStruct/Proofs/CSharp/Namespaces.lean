import SchemaStruct.Config.Check
import SchemaStruct.CSharp.Keyword
import SchemaStruct.Proofs.CSharp.Layout
import SchemaStruct.Proofs.Source.NormalForm

/-!
# Namespaces

A namespace is checked part by part: each part has to be an identifier by the default syntax of the
Unicode standard. What counts in the generated code is the syntax of C#: its identifiers are made of
classes of characters, its keywords are no identifiers, and a namespace is declared by identifiers
between points. The check knows nothing of keywords, and the two notions of an identifier differ in
a few signs. Apart from these, a namespace that passes the check is declared by a line of the code
that is as it should be.

## Main definitions

* `CSharp.isIdentifierStart` and `CSharp.isIdentifierPart`: the characters of identifiers;
* `CSharp.IsNamespaceLine`: a line that declares a namespace;
* `CSharp.isStray`: an identifier of the standard with signs that C# does not know.

## Main results

* `CSharp.hasIdentifierForm_iff`: where the two notions of an identifier agree;
* `CSharp.namespaceLine_mem_splitOn`: the line that declares the namespace in generated code;
* `CSharp.namespace_legal_iff`: what it means that a namespace passes the check.
-/

namespace SchemaStruct

open Text
open Template.Filter (hasText)

namespace CSharp

/-! ### The syntax of C# -/

/-- Signs that begin identifiers by the default syntax, although they are no letters. -/
def strayStart : CharSet := ⟨[(6277, 6278), (8472, 8472), (8494, 8494)]⟩

/-- Signs that continue identifiers by the default syntax, although they are neither letters nor
marks, digits or connectors. -/
def strayPart : CharSet :=
  ⟨[(183, 183), (903, 903), (4969, 4977), (6618, 6618), (8472, 8472), (8494, 8494)]⟩

/-- Letters that the default syntax leaves out, because their compatibility forms are no
identifiers. -/
def compatibilityLetter : CharSet :=
  ⟨[(890, 890), (3635, 3635), (3763, 3763), (11823, 11823), (64606, 64611), (65018, 65019),
    (65136, 65136), (65138, 65138), (65140, 65140), (65142, 65142), (65144, 65144), (65146, 65146),
    (65148, 65148), (65150, 65150), (65438, 65439)]⟩

/-- The characters that format text and show nothing. -/
def formatting : CharSet :=
  ⟨[(173, 173), (1536, 1541), (1564, 1564), (1757, 1757), (1807, 1807), (2192, 2193), (2274, 2274),
    (6158, 6158), (8203, 8207), (8234, 8238), (8288, 8292), (8294, 8303), (65279, 65279),
    (65529, 65531), (69821, 69821), (69837, 69837), (78896, 78904), (113824, 113827),
    (119155, 119162), (917505, 917505), (917536, 917631)]⟩

/-- Whether an identifier of C# may begin with a character: the letters of all kinds, the numbers
that are letters, and the underscore. -/
def isIdentifierStart (c : Char) : Bool :=
  !strayStart.contains c &&
    (c == '_' || identifierStart.contains c || compatibilityLetter.contains c)

/-- Whether an identifier of C# may go on with a character: also with marks, digits, connectors and
formatting characters. -/
def isIdentifierPart (c : Char) : Bool :=
  !strayPart.contains c && (identifierContinue.contains c || compatibilityLetter.contains c ||
    formatting.contains c)

/-- Whether a text has the form of an identifier of C#. -/
def hasIdentifierForm : List Char → Bool
  | [] => false
  | c :: rest => isIdentifierStart c && rest.all isIdentifierPart

/-- Whether a line declares a namespace: by identifiers that are no keywords, between points.
Identifiers behind an at sign or with escapes, none of which passes the check, are left out. -/
def IsNamespaceLine (line : List Char) : Prop :=
  ∃ parts, parts ≠ [] ∧ line = "namespace ".toList ++ joinWith ['.'] parts ∧
    ∀ part ∈ parts, hasIdentifierForm part = true ∧ String.ofList part ∉ keywords

/-- Whether a text begins or goes on with a sign that is an identifier's by the default syntax, and
none in C#. -/
def isStray : List Char → Bool
  | [] => false
  | c :: rest => strayStart.contains c || rest.any strayPart.contains

variable {part : List Char} {s : String}

/-- No identifier has a point in it. -/
theorem point_not_mem (h : hasIdentifierForm part = true) : '.' ∉ part := by
  have hstart : isIdentifierStart '.' = false := by decide +kernel
  have hpart : isIdentifierPart '.' = false := by decide +kernel
  cases part with
  | nil => exact List.not_mem_nil
  | cons c rest =>
    obtain ⟨hc, hrest⟩ := Bool.and_eq_true_iff.mp h
    rintro (_ | ⟨_, hmem⟩)
    · simp [hstart] at hc
    · have hpoint := List.all_eq_true.mp hrest _ hmem
      simp [hpart] at hpoint

/-- An identifier by the default syntax is one of C#, unless it has a stray sign in it. -/
theorem hasIdentifierForm_iff (h : Text.isIdentifier part = true) :
    hasIdentifierForm part = true ↔ isStray part = false := by
  cases part with
  | nil => cases h
  | cons c rest =>
    obtain ⟨hc, hrest⟩ := Bool.and_eq_true_iff.mp h
    have hstart : isIdentifierStart c = !strayStart.contains c := by
      rw [isIdentifierStart, hc, Bool.true_or, Bool.and_true]
    have hpart (d : Char) (hd : d ∈ rest) : isIdentifierPart d = !strayPart.contains d := by
      rw [isIdentifierPart, List.all_eq_true.mp hrest d hd, Bool.true_or, Bool.true_or,
        Bool.and_true]
    rw [hasIdentifierForm, isStray, hstart, Bool.and_eq_true, Bool.or_eq_false_iff,
      Bool.not_eq_true', List.all_eq_true, List.any_eq_false]
    refine and_congr_right' (forall₂_congr fun d hd => ?_)
    rw [hpart d hd, Bool.not_eq_true', Bool.not_eq_true]

/-- A line declares a namespace if the parts of the namespace are identifiers and no keywords. -/
theorem isNamespaceLine_iff {name : List Char} :
    IsNamespaceLine ("namespace ".toList ++ name) ↔
      ∀ part ∈ splitOn '.' name, hasIdentifierForm part = true ∧ String.ofList part ∉ keywords := by
  constructor
  · rintro ⟨parts, hne, hline, hparts⟩
    obtain rfl := List.append_cancel_left hline
    rwa [splitOn_joinWith_of_not_mem hne fun part hpart => point_not_mem (hparts part hpart).1]
  · exact fun h => ⟨splitOn '.' name, splitOn_ne_nil '.' name, by rw [joinWith_splitOn], h⟩

/-! ### The check -/

/-- A code point in a set is in one of its ranges. -/
theorem exists_range_of_covers {ranges : List (Nat × Nat)} {n : Nat}
    (h : CharSet.covers ranges n = true) : ∃ range ∈ ranges, range.1 ≤ n ∧ n ≤ range.2 := by
  induction ranges with
  | nil => cases h
  | cons range rest ih =>
    rw [CharSet.covers] at h
    split_ifs at h with hlow hhigh
    · exact ⟨range, List.mem_cons_self, by omega, hhigh⟩
    · obtain ⟨other, hother, hn⟩ := ih h
      exact ⟨other, List.mem_cons_of_mem range hother, hn⟩

/-- No blank character belongs to an identifier. -/
theorem not_isBlank {c : Char}
    (h : c = '_' ∨ identifierStart.contains c = true ∨ identifierContinue.contains c = true) :
    isBlank c = false := by
  have hcodes : ∀ range ∈ blank.ranges, ∀ n ∈ List.range' range.1 (range.2 + 1 - range.1),
      CharSet.covers identifierStartRanges n = false ∧
        CharSet.covers identifierContinueRanges n = false := by
    decide +kernel
  by_contra hc
  obtain ⟨range, hrange, hlow, hhigh⟩ := exists_range_of_covers (Bool.eq_true_of_not_eq_false hc)
  obtain ⟨hstart, hcontinue⟩ :=
    hcodes range hrange c.toNat (List.mem_range'_1.mpr ⟨hlow, by omega⟩)
  rcases h with rfl | h | h
  · exact hc (by decide)
  · exact Bool.false_ne_true (hstart.symm.trans h)
  · exact Bool.false_ne_true (hcontinue.symm.trans h)

/-- A namespace that passes the check has no blank characters. -/
theorem not_isBlank_of_isNamespace (h : Configuration.isNamespace s = true) :
    ∀ c ∈ s.toList, isBlank c = false := by
  intro c hc
  by_cases hpoint : c = '.'
  · subst hpoint
    decide
  · obtain ⟨part, hpart, hmem⟩ := exists_mem_splitOn hc hpoint
    have hidentifier : Text.isIdentifier part = true := List.all_eq_true.mp h part hpart
    cases part with
    | nil => cases hmem
    | cons first rest =>
      obtain ⟨hfirst, hrest⟩ := Bool.and_eq_true_iff.mp hidentifier
      rcases List.mem_cons.mp hmem with rfl | hmem
      · rw [Bool.or_eq_true, beq_iff_eq] at hfirst
        exact not_isBlank (hfirst.imp_right .inl)
      · exact not_isBlank (.inr (.inr (List.all_eq_true.mp hrest c hmem)))

/-- A namespace that passes the check is not empty. -/
theorem toList_ne_nil_of_isNamespace (h : Configuration.isNamespace s = true) : s.toList ≠ [] := by
  intro hnil
  rw [Configuration.isNamespace, hnil] at h
  cases h

/-- In generated code, a namespace that passes the check is declared on a line of its own. -/
theorem namespaceLine_mem_splitOn {c : Configuration} {hasLayout : Bool} {gen : Generator}
    (hgen : generator c hasLayout = .ok gen) {g : TypeGraph} {code : String}
    {found : List String} {metadata : Metadata}
    (hsuccess : (gen.run g).1 = .success code found metadata) (hs : c.namespaceName = .str s)
    (hvalid : Configuration.isNamespace s = true) :
    "namespace ".toList ++ s.toList ∈ splitOn '\n' code.toList := by
  obtain ⟨r, body, usings, page, hrenders, -, rfl⟩ := exists_tidy_of_run hgen hsuccess
  rw [hs]
  let f : SourceFile := { namespaceText := s, usings, body, indentUnit := r.indentUnit }
  have hblank := not_isBlank_of_isNamespace hvalid
  have hfeed : '\n' ∉ s.toList := fun hmem => absurd (hblank _ hmem) (by decide)
  have hunit : '\n' ∉ r.indentUnit.toList := Configuration.not_mem_of_indentUnit hrenders.indentUnit
  have hlisted : f.namespaceLine.toList ∈ (splitOn '\n' f.text.toList).filter hasText := by
    rw [SourceFile.filter_splitOn_text (f := f) hfeed hunit]
    simp [SourceFile.listing]
  -- tidying trims the line at its end, where the namespace has no blanks
  have htrimmed : trimEnd f.namespaceLine.toList = "namespace ".toList ++ s.toList := by
    rw [SourceFile.namespaceLine, String.toList_append]
    refine Tidy.trimEnd_eq_self fun last hlast => hblank last ?_
    rw [List.getLast?_append_of_ne_nil _ (toList_ne_nil_of_isNamespace hvalid)] at hlast
    exact List.mem_of_getLast? hlast
  have hkept : trimEnd f.namespaceLine.toList ∈
      (splitOn '\n' (Tidy.code f.text).toList).filter hasText := by
    rw [Tidy.filter_splitOn_code]
    exact List.mem_map_of_mem hlisted
  exact htrimmed ▸ List.mem_of_mem_filter hkept

end CSharp

namespace Configuration

/-- What is warned about other settings is not what is warned about a namespace. -/
theorem warning_ne {front rest s : String} {c : Char} (hfront : front.toList[8]? = some c)
    (hc : c ≠ 'C') : "Invalid C# namespace: " ++ s ≠ front ++ rest := by
  intro h
  have hlength : 8 < front.toList.length := (List.getElem?_eq_some_iff.mp hfront).1
  have hchars := congrArg (fun t : String => t.toList[8]?) h
  simp only [String.toList_append] at hchars
  rw [List.getElem?_append_left hlength, hfront] at hchars
  exact hc (Option.some.inj hchars).symm

/-- A naming style is not warned about as a namespace. -/
theorem not_mem_of_checkStyle {setting s : String} {c : Char} {v : Json} {warnings : List String}
    (hsetting : ("Invalid " ++ setting ++ ": ").toList[8]? = some c) (hc : c ≠ 'C')
    (h : checkStyle setting v = .ok warnings) : "Invalid C# namespace: " ++ s ∉ warnings := by
  obtain ⟨_, -, h⟩ := ok_of_bind h
  obtain rfl := Except.ok.inj h
  split
  · exact List.not_mem_nil
  · exact fun hmem => warning_ne hsetting hc (List.mem_singleton.mp hmem)

/-- A depth is not warned about as a namespace. -/
theorem not_mem_of_checkIndent {s : String} {v : Json} {warnings : List String}
    (h : checkIndent v = .ok warnings) : "Invalid C# namespace: " ++ s ∉ warnings := by
  obtain ⟨tooSmall, rfl⟩ : ∃ tooSmall : Bool,
      (if tooSmall then ["Invalid indent_size: " ++ v.plain] else []) = warnings := by
    cases v with
    | int _ | bool _ | float _ => exact ⟨_, Except.ok.inj h⟩
    | _ => cases h
  split
  · exact fun hmem => warning_ne (c := 'i') (by decide) (by decide) (List.mem_singleton.mp hmem)
  · exact List.not_mem_nil

/-- A configuration for C# is warned about its namespace if some part of it is no identifier. -/
theorem mem_check_iff {c : Configuration} {s language : String} {warnings : List String}
    (hs : c.namespaceName = .str s) (hlanguage : lowerCase language = "csharp")
    (hcheck : c.check language = .ok warnings) :
    "Invalid C# namespace: " ++ s ∈ warnings ↔ isNamespace s = false := by
  obtain ⟨types, htypes, h⟩ := ok_of_bind hcheck
  obtain ⟨fields, hfields, h⟩ := ok_of_bind h
  obtain ⟨indent, hindent, h⟩ := ok_of_bind h
  simp only [if_pos hlanguage] at h
  obtain ⟨space, hspace, h⟩ := ok_of_bind h
  obtain rfl := Except.ok.inj h
  have htypes' := not_mem_of_checkStyle (s := s) (c := 't') (by decide) (by decide) htypes
  have hfields' := not_mem_of_checkStyle (s := s) (c := 'f') (by decide) (by decide) hfields
  have hindent' := not_mem_of_checkIndent (s := s) hindent
  rw [hs] at hspace
  obtain rfl : (if isNamespace s then [] else ["Invalid C# namespace: " ++ s]) = space :=
    Except.ok.inj hspace
  cases hvalid : isNamespace s <;> simp [htypes', hfields', hindent']

end Configuration

namespace CSharp

/-- What it means that a configuration for C# is not warned about its namespace. All parts of the
namespace are identifiers by the default syntax then, and there is a warning otherwise. Generated
code declares the namespace on a line of its own; the line is as it should be if and only if no part
is a keyword, and no part has one of the few signs in it that make it an identifier by the default
syntax only. The check looks for neither. -/
theorem namespace_legal_iff {c : Configuration} {s language : String} {warnings : List String}
    (hs : c.namespaceName = .str s) (hlanguage : lowerCase language = "csharp")
    (hcheck : c.check language = .ok warnings) :
    ("Invalid C# namespace: " ++ s ∉ warnings ↔
      ∀ part ∈ splitOn '.' s.toList, Text.isIdentifier part = true) ∧
    ("Invalid C# namespace: " ++ s ∉ warnings →
      (∀ part ∈ splitOn '.' s.toList, part ≠ [] ∧
        (hasIdentifierForm part = true ↔ isStray part = false)) ∧
      (∀ hasLayout gen g code found metadata, generator c hasLayout = .ok gen →
        (gen.run g).1 = .success code found metadata →
        "namespace ".toList ++ s.toList ∈ splitOn '\n' code.toList) ∧
      (IsNamespaceLine ("namespace ".toList ++ s.toList) ↔
        ∀ part ∈ splitOn '.' s.toList, String.ofList part ∉ keywords ∧ isStray part = false)) := by
  have hmem := Configuration.mem_check_iff hs hlanguage hcheck
  have hsilent : "Invalid C# namespace: " ++ s ∉ warnings ↔ Configuration.isNamespace s = true := by
    rw [hmem, Bool.not_eq_false]
  refine ⟨hsilent.trans List.all_eq_true, fun h => ?_⟩
  have hvalid := hsilent.mp h
  have hparts : ∀ part ∈ splitOn '.' s.toList, Text.isIdentifier part = true :=
    List.all_eq_true.mp hvalid
  refine ⟨fun part hpart => ⟨?_, hasIdentifierForm_iff (hparts part hpart)⟩, ?_, ?_⟩
  · rintro rfl
    exact absurd (hparts [] hpart) (by decide)
  · exact fun hasLayout gen g code found metadata hgen hsuccess =>
      namespaceLine_mem_splitOn hgen hsuccess hs hvalid
  · rw [isNamespaceLine_iff]
    refine forall₂_congr fun part hpart => ?_
    rw [hasIdentifierForm_iff (hparts part hpart), and_comm]

/-- The theorem at a namespace of two parts, none of which is a keyword. -/
theorem namespace_legal_iff_harbour :
    let c : Configuration := { namespaceName := .str "Harbour.Låg" }
    ∃ warnings, c.check "CSharp" = .ok warnings ∧ "Invalid C# namespace: Harbour.Låg" ∉ warnings ∧
      IsNamespaceLine "namespace Harbour.Låg".toList := by
  intro c
  have hcheck : (c.check "CSharp").toOption = some [] := by decide +kernel
  have hlanguage : lowerCase "CSharp" = "csharp" := by decide +kernel
  have hparts : ∀ part ∈ splitOn '.' "Harbour.Låg".toList, String.ofList part ∉ keywords ∧
      isStray part = false := by decide +kernel
  obtain ⟨-, hlegal⟩ := namespace_legal_iff (c := c) rfl hlanguage (ok_of_toOption hcheck)
  exact ⟨[], ok_of_toOption hcheck, List.not_mem_nil,
    (hlegal List.not_mem_nil).2.2.mpr hparts⟩

/-- A namespace with a keyword in it passes the check, and its line does not declare it. -/
theorem not_legal_class :
    let c : Configuration := { namespaceName := .str "Game.class" }
    c.check "csharp" = .ok [] ∧ "class" ∈ keywords ∧
      "class".toList ∈ splitOn '.' "Game.class".toList ∧
      ¬ IsNamespaceLine "namespace Game.class".toList := by
  have hcheck : (Configuration.check { namespaceName := .str "Game.class" } "csharp").toOption =
      some [] := by decide +kernel
  refine ⟨ok_of_toOption hcheck, by decide, by decide, fun hline => ?_⟩
  have hparts := isNamespaceLine_iff.mp (show IsNamespaceLine
    ("namespace ".toList ++ "Game.class".toList) from hline)
  exact (hparts "class".toList (by decide)).2 (by decide)

end CSharp

end SchemaStruct
