import Mathlib
import SchemaStruct.Proofs.CSharp.AssignedNames

/-!
# Names of Parameters

The parameter of a property is named after the property as the document spells it. A name that is an
identifier is taken over, a keyword gets an at sign, any other name is made into an identifier, and
a number goes behind what is in use already. So a parameter has a name that can stand in code,
unless the document's name is an identifier with a line feed behind it: the test for identifiers
does not see the line feed, and it is taken over with the name.

## Main definitions

* `CSharp.IsLegalParameter`: a name of a parameter that can stand in code;
* `CSharp.IsTerminatedName`: an identifier with a line feed behind it.

## Main results

* `CSharp.isPlainName_iff`: what is taken over as an identifier;
* `CSharp.parameterBase_cases` and `CSharp.exists_parameter_eq`: where the name of a parameter comes
  from;
* `CSharp.parameter_legal_iff`: which names of parameters can stand in code.
-/

namespace SchemaStruct.CSharp

/-- Whether a text can stand as the name of a parameter: a legal name, or a keyword behind an at
sign, with digits behind it if need be. -/
def IsLegalParameter (s : String) : Prop :=
  IsLegalName s ∨ ∃ word ∈ keywords, ∃ digits : String,
    s = "@" ++ word ++ digits ∧ ∀ c ∈ digits.toList, c.isDigit

/-- Whether a text is an identifier with a line feed behind it. -/
def IsTerminatedName (name : String) : Prop := ∃ body, IsIdentifier body ∧ name = body ++ "\n"

section

variable {s name : String}

/-- A line feed is no word character. -/
theorem not_isWordChar_lineFeed : ¬ IsWordChar '\n' := by
  rw [IsWordChar]
  decide

/-- No line feed stands in an identifier. -/
theorem lineFeed_not_mem_of_isIdentifier (h : IsIdentifier s) : '\n' ∉ s.toList := by
  intro hmem
  obtain ⟨first, rest, hs, hfirst, hrest⟩ := h
  rw [hs] at hmem
  rcases List.mem_cons.mp hmem with rfl | hmem
  · exact absurd hfirst (by decide)
  · exact not_isWordChar_lineFeed (hrest _ hmem)

/-- The test for identifiers looks at a text without the line feed at its end. -/
theorem isPlainName_iff_body (cs : List Char) :
    isPlainName cs = true ↔
      IsIdentifier (String.ofList (if cs.getLast? = some '\n' then cs.dropLast else cs)) := by
  rw [isPlainName, IsIdentifier, String.toList_ofList]
  cases (if cs.getLast? = some '\n' then cs.dropLast else cs) with
  | nil => simp
  | cons c rest => simp [IsWordChar]

/-- An identifier is taken over and does not end in a line feed. -/
theorem isIdentifier_iff :
    IsIdentifier name ↔ isPlainName name.toList = true ∧ name.toList.getLast? ≠ some '\n' := by
  rw [isPlainName_iff_body]
  constructor
  · intro h
    have hlast : name.toList.getLast? ≠ some '\n' := fun hlast =>
      lineFeed_not_mem_of_isIdentifier h (List.mem_of_getLast? hlast)
    rw [if_neg hlast, String.ofList_toList]
    exact ⟨h, hlast⟩
  · rintro ⟨h, hlast⟩
    rwa [if_neg hlast, String.ofList_toList] at h

/-- An identifier with a line feed behind it is taken over, too. -/
theorem isTerminatedName_iff :
    IsTerminatedName name ↔ isPlainName name.toList = true ∧ name.toList.getLast? = some '\n' := by
  rw [isPlainName_iff_body]
  constructor
  · rintro ⟨body, hbody, rfl⟩
    have hlast : (body ++ "\n").toList = body.toList ++ ['\n'] := String.toList_append
    rw [hlast, if_pos (by simp), List.dropLast_concat, String.ofList_toList]
    exact ⟨hbody, by simp⟩
  · rintro ⟨h, hlast⟩
    obtain ⟨front, hfront⟩ := List.getLast?_eq_some_iff.mp hlast
    rw [if_pos hlast, hfront, List.dropLast_concat] at h
    refine ⟨_, h, ?_⟩
    rw [← String.toList_inj, String.toList_append, String.toList_ofList, hfront]
    rfl

/-- A name is taken over if it is an identifier, or one with a line feed behind it. -/
theorem isPlainName_iff :
    isPlainName name.toList = true ↔ IsIdentifier name ∨ IsTerminatedName name := by
  rw [isIdentifier_iff, isTerminatedName_iff, ← and_or_left]
  exact (and_iff_left (ne_or_eq _ _)).symm

instance : DecidablePred IsIdentifier := fun _ => decidable_of_iff _ isIdentifier_iff.symm

instance : DecidablePred IsTerminatedName := fun _ => decidable_of_iff _ isTerminatedName_iff.symm

/-- The digits of a number. -/
theorem isDigit_of_mem_number {n : Nat} {c : Char} (h : c ∈ (toString n).toList) :
    c.isDigit := by
  have h : c ∈ n.repr.toList := h
  rw [Nat.toList_repr] at h
  exact Nat.isDigit_of_mem_toDigits (by decide) (by decide) h

/-- A text with a digit in it is no keyword. -/
theorem not_mem_keywords_of_isDigit {c : Char} (hc : c ∈ s.toList) (hdigit : c.isDigit) :
    s ∉ keywords := by
  have hnone : ∀ k ∈ keywords, k.toList.all (!·.isDigit) := by decide
  intro hs
  have hother := List.all_eq_true.mp (hnone s hs) c hc
  rw [hdigit] at hother
  cases hother

/-- A legal name stays one with digits behind it. -/
theorem IsLegalName.append_digits {digits : String} (h : IsLegalName s)
    (hdigits : ∀ c ∈ digits.toList, c.isDigit) : IsLegalName (s ++ digits) := by
  refine ⟨h.1.append fun c hc => .inl ?_, ?_⟩
  · rw [Char.isAlphanum, hdigits c hc, Bool.or_true]
  · cases hlist : digits.toList with
    | nil =>
      rw [String.toList_eq_nil_iff.mp hlist, String.append_empty]
      exact h.2
    | cons c rest =>
      have hc : c ∈ digits.toList := hlist ▸ List.mem_cons_self
      exact not_mem_keywords_of_isDigit (by simp [String.toList_append, hc]) (hdigits c hc)

/-- A name with a line feed behind it has a line feed. -/
theorem IsTerminatedName.lineFeed_mem (h : IsTerminatedName name) : '\n' ∈ name.toList := by
  obtain ⟨body, -, rfl⟩ := h
  simp [String.toList_append]

/-- No line feed stands in a keyword. -/
theorem lineFeed_not_mem_of_mem_keywords (h : s ∈ keywords) : '\n' ∉ s.toList := by
  have hnone : ∀ k ∈ keywords, '\n' ∉ k.toList := by decide
  exact hnone s h

/-- No line feed stands in a name of a parameter that can stand in code. -/
theorem lineFeed_not_mem_of_isLegalParameter (h : IsLegalParameter s) : '\n' ∉ s.toList := by
  rcases h with h | ⟨word, hword, digits, rfl, hdigits⟩
  · exact lineFeed_not_mem_of_isIdentifier h.1
  · rw [String.toList_append, String.toList_append, List.mem_append, List.mem_append]
    rintro ((hmem | hmem) | hmem)
    · exact absurd hmem (by decide)
    · exact lineFeed_not_mem_of_mem_keywords hword hmem
    · exact absurd (hdigits _ hmem) (by decide)

/-- Keywords are identifiers. -/
theorem isPlainName_of_mem_keywords (h : name ∈ keywords) : isPlainName name.toList = true := by
  have hall : ∀ k ∈ keywords, isPlainName k.toList = true := by decide +kernel
  exact hall name h

/-- A parameter is named after a keyword with an at sign, after a name that is taken over, or by the
sanitizer. -/
theorem parameterBase_cases (name : String) :
    (name ∈ keywords ∧ parameterBase name = "@" ++ name) ∨
      (name ∉ keywords ∧ (IsIdentifier name ∨ IsTerminatedName name) ∧
        parameterBase name = name) ∨
      (¬ (IsIdentifier name ∨ IsTerminatedName name) ∧ IsLegalName (parameterBase name)) := by
  rw [← isPlainName_iff]
  by_cases hkeyword : name ∈ keywords
  · have hplain := isPlainName_of_mem_keywords hkeyword
    exact .inl ⟨hkeyword, by simp [parameterBase, hplain, hkeyword]⟩
  · by_cases hplain : isPlainName name.toList = true
    · exact .inr (.inl ⟨hkeyword, hplain, by simp [parameterBase, hplain, hkeyword]⟩)
    · -- what the sanitizer makes is no keyword, so it needs no at sign
      have hlegal : IsLegalName (sanitizer.shared name .camel) :=
        isLegalName_shared (by decide) [] name
      refine .inr (.inr ⟨hplain, ?_⟩)
      simpa [parameterBase, hplain, hlegal.2] using hlegal

/-- A name with a line feed behind it is taken over. -/
theorem parameterBase_of_isTerminatedName (h : IsTerminatedName name) :
    parameterBase name = name := by
  have hkeyword : name ∉ keywords := fun hmem =>
    lineFeed_not_mem_of_mem_keywords hmem h.lineFeed_mem
  simp [parameterBase, isPlainName_iff.mpr (.inr h), hkeyword]

/-- The name of a parameter has digits behind it, as far as it needs some. -/
theorem exists_parameter_eq (used : List String) (name : String) :
    ∃ digits, parameter used name = parameterBase name ++ digits ∧
      ∀ c ∈ digits.toList, c.isDigit := by
  unfold parameter
  dsimp only
  split
  · obtain ⟨n, -, hn, -⟩ := firstFree_eq_candidate used
      (fun n => parameterBase name ++ toString n) used.length 2
    exact ⟨toString n, hn, fun c hc => isDigit_of_mem_number hc⟩
  · exact ⟨"", String.append_empty.symm, by simp⟩

/-- The name of a parameter can stand in code, unless the document's name is an identifier with a
line feed behind it. -/
theorem isLegalParameter_iff (used : List String) (name : String) :
    IsLegalParameter (parameter used name) ↔ ¬ IsTerminatedName name := by
  obtain ⟨digits, hparameter, hdigits⟩ := exists_parameter_eq used name
  rw [hparameter]
  rcases parameterBase_cases name with
    ⟨hkeyword, hbase⟩ | ⟨hkeyword, hplain, hbase⟩ | ⟨hplain, hbase⟩
  · refine iff_of_true (.inr ⟨name, hkeyword, digits, by rw [hbase], hdigits⟩) fun h => ?_
    exact lineFeed_not_mem_of_mem_keywords hkeyword h.lineFeed_mem
  · rw [hbase]
    rcases hplain with hidentifier | hterminated
    · have hlegal : IsLegalName name := ⟨hidentifier, hkeyword⟩
      refine iff_of_true (.inl (hlegal.append_digits hdigits)) fun h => ?_
      exact lineFeed_not_mem_of_isIdentifier hidentifier h.lineFeed_mem
    · -- the line feed has been taken over with the name
      refine iff_of_false (fun h => lineFeed_not_mem_of_isLegalParameter h ?_)
        (not_not_intro hterminated)
      rw [String.toList_append]
      exact List.mem_append_left _ hterminated.lineFeed_mem
  · exact iff_of_true (.inl (hbase.append_digits hdigits)) fun h => hplain (.inr h)

/-- A legal name that is not in use is taken over. -/
theorem parameter_eq_self {used : List String} (hlegal : IsLegalName name) (hfree : name ∉ used) :
    parameter used name = name := by
  have hplain : isPlainName name.toList = true := isPlainName_iff.mpr (.inl hlegal.1)
  have hbase : parameterBase name = name := by simp [parameterBase, hplain, hlegal.2]
  simp [parameter, hbase, hfree]

/-- The name of a parameter differs from all names in use, and it is one more name in use for the
parameters behind it. It can stand in code, unless the document's name is an identifier with a line
feed behind it: that is taken over, line feed and all. A legal name that is not in use is taken
over, too. -/
theorem parameter_legal_iff (used : List String) (name : String) :
    parameter used name ∉ used ∧
    (∀ others, parameters used (name :: others) =
      parameter used name :: parameters (parameter used name :: used) others) ∧
    (IsLegalParameter (parameter used name) ↔ ¬ IsTerminatedName name) ∧
    (IsTerminatedName name → ∃ digits, parameter used name = name ++ digits ∧
      ∀ c ∈ digits.toList, c.isDigit) ∧
    (IsLegalName name → name ∉ used → parameter used name = name) := by
  refine ⟨parameter_not_mem used name, fun _ => rfl, isLegalParameter_iff used name,
    fun hterminated => ?_, parameter_eq_self⟩
  obtain ⟨digits, hparameter, hdigits⟩ := exists_parameter_eq used name
  exact ⟨digits, by rw [hparameter, parameterBase_of_isTerminatedName hterminated], hdigits⟩

end

/-- The theorem at a keyword, at a name with a line feed behind it and at a name that is taken over,
each of them with something in use. -/
theorem parameter_legal_iff_width :
    (parameter ["@int"] "int" = "@int2" ∧ IsLegalParameter (parameter ["@int"] "int")) ∧
    (parameter ["width\n"] "width\n" = "width\n2" ∧ IsTerminatedName "width\n" ∧
      ¬ IsLegalParameter (parameter ["width\n"] "width\n")) ∧
    (IsLegalName "width" ∧ "width" ∉ ["@int"] ∧ parameter ["@int"] "width" = "width") := by
  have hterminated : IsTerminatedName "width\n" := by decide
  have hlegal : IsLegalName "width" := ⟨by decide, by decide⟩
  obtain ⟨-, -, hint, -⟩ := parameter_legal_iff ["@int"] "int"
  obtain ⟨-, -, hwidth, -⟩ := parameter_legal_iff ["width\n"] "width\n"
  obtain ⟨-, -, -, -, hkept⟩ := parameter_legal_iff ["@int"] "width"
  refine ⟨⟨by decide, hint.mpr (by decide)⟩, ⟨by decide, hterminated, ?_⟩, hlegal, by decide, ?_⟩
  · exact fun h => hwidth.mp h hterminated
  · exact hkept hlegal (by decide)

/-- A name with a line feed behind it makes a parameter that cannot stand in code. -/
theorem not_isLegalParameter_width : ¬ IsLegalParameter (parameter [] "width\n") :=
  fun h => (isLegalParameter_iff [] "width\n").mp h (by decide)

end SchemaStruct.CSharp
