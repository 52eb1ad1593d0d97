import Mathlib
import SchemaStruct.Proofs.Naming.Unique

/-!
# Histories of a Sanitizer

A sanitizer is asked for identifiers and told about names in use, in any order. `Call` is what it
can be asked and told, and a transcript holds the calls with their answers. Names are claimed by
telling the sanitizer about them and by asking for a unique identifier, and by nothing else: the
names in use behind any calls are the claimed ones of their transcript. So a unique identifier is
none that was claimed before, and a call for a shared one can be left out of a history without a
trace.

A search for a free name is said to end here without counting its tries: the identifier that is
answered is the first one that is not in use among all that the search could ever try.

## Main definitions

* `Sanitizer.Call` and `Sanitizer.transcript`: a history, and what was answered in it;
* `Sanitizer.claims`: the names that a transcript claims;
* `Sanitizer.attempt`: the identifiers that a search tries, without an end.

## Main results

* `Sanitizer.avoidUsed_isLeast`: a search ends with the first attempt that is not in use;
* `Sanitizer.afterAll_eq`: the names in use are those that the transcript claims;
* `Sanitizer.transcript_keepsApart`: unique identifiers are kept apart over any history.
-/

namespace SchemaStruct

namespace Sanitizer

variable {s : Sanitizer} {suffix id : String}

/-- The identifiers that are tried one after the other in the place of an identifier: it comes
first, and then the candidates beside it, numbered from one on. -/
def attempt (suffix id : String) : Nat → String
  | 0 => id
  | n + 1 => candidate suffix id (n + 1)

/-- An identifier is none of the candidates beside it, which are longer. -/
theorem candidate_ne (suffix id : String) (n : Nat) : candidate suffix id n ≠ id := by
  intro h
  unfold candidate at h
  split at h
  · simp [String.append_assoc] at h
  · simp at h

/-- No identifier is tried twice. -/
theorem attempt_injective (suffix id : String) : Function.Injective (attempt suffix id) := by
  intro m n h
  cases m with
  | zero =>
    cases n with
    | zero => rfl
    | succ n => exact absurd h.symm (candidate_ne suffix id (n + 1))
  | succ m =>
    cases n with
    | zero => exact absurd h (candidate_ne suffix id (m + 1))
    | succ n => exact candidate_injective suffix id h

/-- The search for an identifier ends, with the first attempt that is not in use. -/
theorem avoidUsed_isLeast (s : Sanitizer) (suffix id : String) :
    ∃ n, s.avoidUsed suffix id = attempt suffix id n ∧
      IsLeast {k | attempt suffix id k ∉ s.used} n := by
  have hfree := s.avoidUsed_not_mem suffix id
  unfold avoidUsed at hfree ⊢
  split at hfree
  · next hused =>
    rw [if_pos hused]
    obtain ⟨m, hm, hfound, htaken⟩ :=
      firstFree_eq_candidate s.used (candidate suffix id) s.used.length 1
    obtain ⟨n, rfl⟩ : ∃ n, m = n + 1 := ⟨m - 1, by omega⟩
    refine ⟨n + 1, hfound, by rwa [fresh, hfound] at hfree, fun k hk => ?_⟩
    -- an attempt in front of the one that is found is the identifier itself or a taken candidate
    by_contra hlt
    cases k with
    | zero => exact hk (by simpa [attempt] using hused)
    | succ k => exact hk (htaken (k + 1) (by omega) (by omega))
  · next hused =>
    rw [if_neg hused]
    exact ⟨0, rfl, hfree, fun k _ => Nat.zero_le k⟩

/-- At most as many attempts fail as there are names in use. -/
theorem le_length_of_isLeast {used : List String} {n : Nat}
    (h : IsLeast {k | attempt suffix id k ∉ used} n) : n ≤ used.length := by
  have hnodup : ((List.range n).map (attempt suffix id)).Nodup :=
    List.nodup_range.map (attempt_injective suffix id)
  have hsubset : (List.range n).map (attempt suffix id) ⊆ used := by
    intro a ha
    obtain ⟨k, hk, rfl⟩ := List.mem_map.mp ha
    by_contra hfree
    exact absurd (h.2 hfree) (by simpa using hk)
  simpa using hnodup.length_le_of_subset hsubset

/-! ### Calls and transcripts -/

/-- What a sanitizer can be told and asked. -/
inductive Call
  /-- A name is in use. -/
  | addUsed (name : String)
  /-- An identifier for a name is wanted, with the suffix for reserved words; `unique` says whether
  it has to be different from all in use. -/
  | sanitize (name : String) (style : NamingStyle) (suffix : String) (unique : Bool)
  deriving DecidableEq, Repr

namespace Call

/-- The answer to a call, if it wants one, and the sanitizer behind it. -/
def answer (s : Sanitizer) : Call → Option String × Sanitizer
  | addUsed name => (none, s.addUsed name)
  | sanitize name style suffix true =>
    let (id, s) := s.unique name style suffix
    (some id, s)
  | sanitize name style suffix false => (some (s.shared name style suffix), s)

/-- Whether a call wants an identifier that may be in use. -/
def isShared : Call → Bool
  | sanitize _ _ _ unique => !unique
  | addUsed _ => false

end Call

/-- The calls of a history, each with its answer. -/
def transcript (s : Sanitizer) : List Call → List (Call × Option String)
  | [] => []
  | call :: calls => (call, (call.answer s).1) :: (call.answer s).2.transcript calls

/-- The sanitizer behind some calls. -/
def afterAll (s : Sanitizer) (calls : List Call) : Sanitizer :=
  calls.foldl (fun s call => (call.answer s).2) s

/-- The name that a call with its answer claims: the one that it tells, or the unique identifier
that it was given. -/
def claim? : Call × Option String → Option String
  | (.addUsed name, _) => some name
  | (.sanitize _ _ _ true, answer) => answer
  | (.sanitize _ _ _ false, _) => none

/-- The names that a transcript claims, in order. -/
def claims (entries : List (Call × Option String)) : List String := entries.filterMap claim?

/-- What a transcript claims begins with the claim of its first call, if that makes one. -/
theorem claims_cons (entry : Call × Option String) (entries : List (Call × Option String)) :
    claims (entry :: entries) = (claim? entry).toList ++ claims entries := by
  rw [claims, List.filterMap_cons]
  cases claim? entry <;> rfl

/-- A call puts what it claims in use and changes nothing else. -/
theorem answer_snd (s : Sanitizer) (call : Call) :
    (call.answer s).2 = { s with used := (claim? (call, (call.answer s).1)).toList ++ s.used } := by
  cases call with
  | addUsed name => rfl
  | sanitize name style suffix unique => cases unique <;> rfl

/-- A call for a shared identifier leaves the sanitizer as it is. -/
theorem answer_snd_of_isShared {call : Call} (h : call.isShared = true) :
    (call.answer s).2 = s := by
  cases call with
  | addUsed name => cases h
  | sanitize name style suffix unique =>
    cases unique with
    | true => cases h
    | false => rfl

/-- Behind some calls, the names in use are those that their transcript claims, and those that were
in use before. -/
theorem afterAll_eq (s : Sanitizer) (calls : List Call) :
    s.afterAll calls = { s with used := (claims (s.transcript calls)).reverse ++ s.used } := by
  induction calls generalizing s with
  | nil => rfl
  | cons call calls ih =>
    show (call.answer s).2.afterAll calls = _
    rw [ih, transcript, claims_cons]
    generalize claims ((call.answer s).2.transcript calls) = names
    rw [answer_snd, List.reverse_append, List.append_assoc]
    -- one call claims one name at most, so its claim may be read in either direction
    cases claim? (call, (call.answer s).1) <;> rfl

/-- Calls behind other calls are answered by the sanitizer that these leave behind. -/
theorem transcript_append (s : Sanitizer) (before after : List Call) :
    s.transcript (before ++ after) =
      s.transcript before ++ (s.afterAll before).transcript after := by
  induction before generalizing s with
  | nil => rfl
  | cons call before ih =>
    rw [List.cons_append, transcript, transcript, List.cons_append, ih]
    rfl

/-- Every call is answered. -/
@[simp]
theorem length_transcript (s : Sanitizer) (calls : List Call) :
    (s.transcript calls).length = calls.length := by
  induction calls generalizing s with
  | nil => rfl
  | cons call calls ih => simp [transcript, ih]

/-- Each call claims one name at most. -/
theorem length_claims_le (s : Sanitizer) (calls : List Call) :
    (claims (s.transcript calls)).length ≤ calls.length := by
  rw [← length_transcript s calls]
  exact List.length_filterMap_le claim? _

/-- What a call for a unique identifier is answered behind some calls: an identifier that they do
not claim and that was not in use before them. It is the first attempt of that sort, and no more
attempts fail than there are names in use. -/
theorem exists_answer_unique (s : Sanitizer) (before : List Call) (name : String)
    (style : NamingStyle) (suffix : String) :
    ∃ id n, ((Call.sanitize name style suffix true).answer (s.afterAll before)).1 = some id ∧
      id ∉ s.used ∧ id ∉ claims (s.transcript before) ∧
      id = attempt suffix (s.shared name style suffix) n ∧
      IsLeast {k | attempt suffix (s.shared name style suffix) k ∉
        claims (s.transcript before) ++ s.used} n ∧ n ≤ s.used.length + before.length := by
  obtain ⟨n, hid, hleast⟩ :=
    (s.afterAll before).avoidUsed_isLeast suffix ((s.afterAll before).shared name style suffix)
  -- reserved words and case mode are those of the beginning, so the attempts are, too
  have hshared : (s.afterAll before).shared name style suffix = s.shared name style suffix := by
    rw [afterAll_eq]
    rfl
  have hused (a : String) : a ∈ (s.afterAll before).used ↔
      a ∈ claims (s.transcript before) ++ s.used := by
    simp [afterAll_eq]
  rw [hshared] at hid hleast
  simp only [hused] at hleast
  have hfree : attempt suffix (s.shared name style suffix) n ∉
      claims (s.transcript before) ++ s.used := hleast.1
  rw [List.mem_append, not_or] at hfree
  have hclaims := s.length_claims_le before
  have hbound := le_length_of_isLeast hleast
  rw [List.length_append] at hbound
  refine ⟨_, n, ?_, hfree.2, hfree.1, rfl, hleast, by omega⟩
  rw [← hid, ← hshared]
  rfl

/-- Without the calls for shared identifiers, the other calls are answered as they are with them. -/
theorem transcript_filter (s : Sanitizer) (calls : List Call) :
    s.transcript (calls.filter fun call => !call.isShared) =
      (s.transcript calls).filter fun entry => !entry.1.isShared := by
  induction calls generalizing s with
  | nil => rfl
  | cons call calls ih =>
    rw [transcript, List.filter_cons, List.filter_cons]
    cases hshared : call.isShared with
    | true => simpa [answer_snd_of_isShared hshared] using ih s
    | false => simpa [transcript] using ih _

/-- Over any history of calls, in any order and with any names, styles and suffixes, a sanitizer
keeps unique identifiers apart. The search for one always ends, with the first attempt that was
neither in use at the beginning nor told to the sanitizer nor given out as unique before. Calls for
shared identifiers change nothing: one of them or all of them can be left out, and all other answers
stay. -/
theorem transcript_keepsApart (s : Sanitizer) (calls : List Call) :
    (∀ before name style suffix after, calls = before ++ .sanitize name style suffix true :: after →
      ∃ id n rest, s.transcript calls =
          s.transcript before ++ (.sanitize name style suffix true, some id) :: rest ∧
        id ∉ s.used ∧ id ∉ claims (s.transcript before) ∧
        id = attempt suffix (s.shared name style suffix) n ∧
        IsLeast {k | attempt suffix (s.shared name style suffix) k ∉
          claims (s.transcript before) ++ s.used} n ∧ n ≤ s.used.length + before.length) ∧
    (∀ before name style suffix after, calls = before ++ .sanitize name style suffix false :: after →
      s.afterAll (before ++ [.sanitize name style suffix false]) = s.afterAll before ∧
        s.transcript (before ++ after) = (s.transcript calls).eraseIdx before.length) ∧
    s.transcript (calls.filter fun call => !call.isShared) =
      (s.transcript calls).filter fun entry => !entry.1.isShared := by
  refine ⟨?unique, ?shared, s.transcript_filter calls⟩
  case unique =>
    rintro before name style suffix after rfl
    obtain ⟨id, n, hanswer, hrest⟩ := s.exists_answer_unique before name style suffix
    let answering := (Call.sanitize name style suffix true).answer (s.afterAll before)
    refine ⟨id, n, answering.2.transcript after, ?_, hrest⟩
    rw [transcript_append, transcript, hanswer]
  case shared =>
    rintro before name style suffix after rfl
    refine ⟨?_, ?_⟩
    · rw [afterAll, List.foldl_append]
      rfl
    · have hlength : before.length = (s.transcript before).length := by simp
      rw [transcript_append, transcript_append, hlength, List.eraseIdx_append_of_length_le le_rfl,
        Nat.sub_self]
      rfl

end Sanitizer

end SchemaStruct
