import SchemaStruct.Proofs.Text.Lines
import SchemaStruct.Schema.Pointer

/-!
# References and the Ways They Name

A way into a document is a list of names, one for each object that it goes through. Every way but
the empty one has a reference, in which the tildes and slashes of its names are escaped, and
resolving the reference leads to the end of the way. The order of the escapes matters: the tildes of
a name are escaped before its slashes, and the slashes are put back before the tildes. Otherwise a
name with an escape in it would come back as another name.

## Main definitions

* `Pointer.Leads`: the ways that lead from one value to another;
* `Pointer.escape` and `Pointer.ofNames`: how a name and a way are written in a reference.

## Main results

* `Pointer.unescape_escape`: a name is what its escaped form stands for;
* `Pointer.steps_ofNames`: the names in the reference of a way are those of the way;
* `Pointer.follow_eq_some_iff`: following names means going the way that they are;
* `Pointer.resolve_roundTrip`: the reference of a way resolves to its end, and references resolve to
  ends of ways only.
-/

namespace SchemaStruct.Pointer

open Text

/-- The names lead from one value to another: each of them is that of a member of the object that
has been reached. -/
inductive Leads : Json → List String → Json → Prop
  | here (v : Json) : Leads v [] v
  | member {members : List (String × Json)} {name : String} {names : List String} {v w : Json}
      (hname : Json.lookup name members = some v) (h : Leads v names w) :
      Leads (.obj members) (name :: names) w

/-- The text with some characters in the place of every `c`. -/
def replaceEach (c : Char) (instead cs : List Char) : List Char :=
  cs.flatMap fun x => if x = c then instead else [x]

/-- The part of a reference that stands for a name. -/
def escape (name : List Char) : List Char :=
  replaceEach '/' ['~', '1'] (replaceEach '~' ['~', '0'] name)

/-- The reference of a way. -/
def ofNames (names : List String) : String :=
  String.ofList ('#' :: '/' :: joinWith ['/'] (names.map fun name => escape name.toList))

/-- Why a reference may be refused. -/
def refusals (ref : String) : List SchemaFault :=
  [.foreignReference ref, .unresolvedReference ref, .notASchema ref]

section

variable {c x : Char} (cs : List Char)

/-- What is replaced gives way to what stands instead of it. -/
theorem replaceEach_cons_self (instead : List Char) :
    replaceEach c instead (c :: cs) = instead ++ replaceEach c instead cs := by
  simp [replaceEach]

/-- Any other character stays. -/
theorem replaceEach_cons_of_ne (instead : List Char) (hx : x ≠ c) :
    replaceEach c instead (x :: cs) = x :: replaceEach c instead cs := by
  simp [replaceEach, hx]

variable {d : Char}

/-- A character that is no tilde begins no escape. -/
theorem replaceTilde_cons (hx : x ≠ '~') :
    replaceTilde d c (x :: cs) = x :: replaceTilde d c cs :=
  replaceTilde.eq_2 d c x cs fun _ _ h _ => hx h

/-- A tilde with the digit behind it is replaced. -/
theorem replaceTilde_digit : replaceTilde d c ('~' :: d :: cs) = c :: replaceTilde d c cs := by
  rw [replaceTilde, if_pos rfl]

/-- A tilde with something else behind it stays. -/
theorem replaceTilde_other (hd : x ≠ d) (hx : x ≠ '~') :
    replaceTilde d c ('~' :: x :: cs) = '~' :: x :: replaceTilde d c cs := by
  rw [replaceTilde, if_neg hd, replaceTilde_cons cs hx]

end

section

variable (name : List Char)

/-- Putting the slashes back leaves the escapes of the tildes. -/
theorem replaceTilde_escape :
    replaceTilde '1' '/' (escape name) = replaceEach '~' ['~', '0'] name := by
  induction name with
  | nil => rfl
  | cons c name ih =>
    by_cases htilde : c = '~'
    · -- the escape of a tilde is none of a slash, since a zero stands in it
      subst htilde
      show replaceTilde '1' '/' ('~' :: '0' :: escape name) = _
      rw [replaceTilde_other _ (by decide) (by decide), ih, replaceEach_cons_self]
      rfl
    · rw [replaceEach_cons_of_ne name _ htilde, escape, replaceEach_cons_of_ne name _ htilde]
      by_cases hslash : c = '/'
      · subst hslash
        rw [replaceEach_cons_self]
        show replaceTilde '1' '/' ('~' :: '1' :: escape name) = _
        rw [replaceTilde_digit, ih]
      · rw [replaceEach_cons_of_ne _ _ hslash]
        show replaceTilde '1' '/' (c :: escape name) = _
        rw [replaceTilde_cons _ htilde, ih]

/-- Putting the tildes back undoes their escapes. -/
theorem replaceTilde_replaceEach :
    replaceTilde '0' '~' (replaceEach '~' ['~', '0'] name) = name := by
  induction name with
  | nil => rfl
  | cons c name ih =>
    by_cases htilde : c = '~'
    · subst htilde
      show replaceTilde '0' '~' ('~' :: '0' :: replaceEach '~' ['~', '0'] name) = _
      rw [replaceTilde_digit, ih]
    · rw [replaceEach_cons_of_ne name _ htilde, replaceTilde_cons _ htilde, ih]

/-- A name is what its escaped form stands for. -/
theorem unescape_escape : unescape (escape name) = name := by
  rw [unescape, replaceTilde_escape, replaceTilde_replaceEach]

/-- There are no slashes in the escaped form of a name. -/
theorem slash_not_mem_escape : '/' ∉ escape name := by
  intro h
  obtain ⟨x, -, hx⟩ := List.mem_flatMap.mp h
  split at hx
  · simp at hx
  · next hne => exact hne (List.mem_singleton.mp hx).symm

end

section

variable {names : List String}

/-- The names in the reference of a way are those of the way. -/
theorem steps_ofNames (hne : names ≠ []) : steps (ofNames names) = names := by
  have hsplit : splitOn '/' (joinWith ['/'] (names.map fun name => escape name.toList)) =
      names.map fun name => escape name.toList := by
    refine splitOn_joinWith_of_not_mem (by simpa using hne) fun part hpart => ?_
    obtain ⟨name, -, rfl⟩ := List.mem_map.mp hpart
    exact slash_not_mem_escape name.toList
  have hname : ∀ name : String, String.ofList (unescape (escape name.toList)) = name := by
    intro name
    rw [unescape_escape, String.ofList_toList]
  rw [steps, ofNames, String.toList_ofList]
  show (splitOn '/' (joinWith ['/'] _)).map _ = names
  rw [hsplit, List.map_map]
  simp [Function.comp_def, hname]

/-- There is a name behind the slash of a reference, if only the empty one. -/
theorem steps_ne_nil (ref : String) : steps ref ≠ [] := by
  simpa [steps] using splitOn_ne_nil '/' (ref.toList.drop 2)

/-- Following names means going the way that they are. -/
theorem follow_eq_some_iff {v w : Json} : follow names v = some w ↔ Leads v names w := by
  constructor
  · intro h
    induction names generalizing v with
    | nil =>
      obtain rfl := Option.some.inj h
      exact .here v
    | cons name names ih =>
      obtain ⟨u, hu, hrest⟩ := Option.bind_eq_some_iff.mp h
      cases v with
      | obj members => exact .member hu (ih hrest)
      | _ => cases hu
  · intro h
    induction h with
    | here v => rfl
    | member hname _ ih => exact Option.bind_eq_some_iff.mpr ⟨_, hname, ih⟩

end

section

variable {document : Json} {ref : String}

/-- Behind a number sign and a slash stand the names of the way to follow, which has to end at an
object. -/
theorem resolve_of_steps (hne : ref ≠ "#") (hlocal : "#/".toList.isPrefixOf ref.toList = true) :
    resolve document ref = match follow (steps ref) document with
      | none => .error (.schema (.unresolvedReference ref))
      | some (.obj members) => .ok (.obj members)
      | some _ => .error (.schema (.notASchema ref)) := by
  rw [resolve, if_neg hne, hlocal]
  rfl

/-- The reference of a way resolves to the object at its end. -/
theorem resolve_ofNames {names : List String} {members : List (String × Json)} (hne : names ≠ [])
    (h : Leads document names (.obj members)) :
    resolve document (ofNames names) = .ok (.obj members) := by
  have hsign : ofNames names ≠ "#" := by
    intro heq
    simpa [ofNames] using congrArg String.toList heq
  have hlocal : "#/".toList.isPrefixOf (ofNames names).toList = true := by
    simp [ofNames]
  rw [resolve_of_steps hsign hlocal, steps_ofNames hne, follow_eq_some_iff.mpr h]

/-- A reference other than the number sign resolves to an object at the end of a way, or it is
refused by its name. -/
theorem resolve_cases (document : Json) (hne : ref ≠ "#") :
    (∃ names members, names ≠ [] ∧ Leads document names (.obj members) ∧
      resolve document ref = .ok (.obj members)) ∨
    ∃ cause ∈ refusals ref, resolve document ref = .error (.schema cause) := by
  by_cases hlocal : "#/".toList.isPrefixOf ref.toList = true
  · rw [resolve_of_steps hne hlocal]
    split
    · exact .inr ⟨.unresolvedReference ref, by simp [refusals], rfl⟩
    · next members hfollow =>
      exact .inl ⟨steps ref, members, steps_ne_nil ref, follow_eq_some_iff.mp hfollow, rfl⟩
    · exact .inr ⟨.notASchema ref, by simp [refusals], rfl⟩
  · refine .inr ⟨.foreignReference ref, by simp [refusals], ?_⟩
    rw [resolve, if_neg hne, Bool.eq_false_iff.mpr hlocal]
    rfl

/-- The reference of a way through objects to an object resolves to that object. And every reference
resolves to the document, if it is the number sign, or to an object at the end of a way, or is
refused by its name. -/
theorem resolve_roundTrip (document : Json) :
    (∀ names members, names ≠ [] → Leads document names (.obj members) →
      resolve document (ofNames names) = .ok (.obj members)) ∧
    ∀ ref, (ref = "#" ∧ resolve document ref = .ok document) ∨
      (∃ names members, names ≠ [] ∧ Leads document names (.obj members) ∧
        resolve document ref = .ok (.obj members)) ∨
      ∃ cause ∈ refusals ref, resolve document ref = .error (.schema cause) := by
  refine ⟨fun names members hne h => resolve_ofNames hne h, fun ref => ?_⟩
  by_cases hsign : ref = "#"
  · exact .inl ⟨hsign, by rw [resolve, if_pos hsign]⟩
  · exact .inr (resolve_cases document hsign)

/-- A document with an empty name, a name with a slash and two names that look like escapes, each
inside of the one before it. -/
def oddlyNamed : Json :=
  .obj [("", .obj [("a/b", .obj [("~1", .obj [("~01", .obj [("type", .str "string")])])])])]

/-- The way through all odd names resolves to the object at its end. -/
theorem resolve_roundTrip_oddlyNamed :
    Leads oddlyNamed ["", "a/b", "~1", "~01"] (.obj [("type", .str "string")]) ∧
      ofNames ["", "a/b", "~1", "~01"] = "#//a~1b/~01/~001" ∧
      resolve oddlyNamed "#//a~1b/~01/~001" = .ok (.obj [("type", .str "string")]) := by
  have hleads : Leads oddlyNamed ["", "a/b", "~1", "~01"] (.obj [("type", .str "string")]) :=
    .member rfl (.member rfl (.member rfl (.member rfl (.here _))))
  have hname : ofNames ["", "a/b", "~1", "~01"] = "#//a~1b/~01/~001" := by decide
  refine ⟨hleads, hname, ?_⟩
  rw [← hname]
  exact (resolve_roundTrip oddlyNamed).1 _ _ (by simp) hleads

end

end SchemaStruct.Pointer
