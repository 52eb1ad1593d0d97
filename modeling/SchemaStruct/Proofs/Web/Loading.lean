import Mathlib
import SchemaStruct.Web.Load
import SchemaStruct.Proofs.Faults

/-!
# What Comes of Loading

A document is loaded, or loading ends in a fault of its own, which names the source. Some faults get
past it: an address may be malformed beyond being none of the web, a name on a path may be too long,
the bytes of a file may be no text, an integer may have too many digits, and an error of a request
may have no status to be named by. There are no others in what is described here, and that leaves
out three things: documents may be nested to any depth, where a reader of JSON has a limit to its
recursion; an answer of the web comes as a text, however its bytes were decoded; and every directory
on a path can be searched, so that asking for a file is never refused.

A document with a lone surrogate is loaded like any other. It is known from it that it is one, and
where the first surrogate stands.

## Main definitions

* `FileTree.Breaks`, `Reply.Breaks` and `World.Breaks`: the faults that get past loading;
* `World.Supplies`: the text that a document is read from;
* `World.LoadsOrRefuses`: loading ends in an object or in a fault of its own.

## Main results

* `World.loads_loadFile` and `World.loads_loadUrl`: loading from a file and from the web;
* `World.load_breaks_iff`: loading ends in an object or in a fault of its own exactly where none of
  the faults that get past it occurs.
-/

namespace SchemaStruct

/-- An integer of a text has too many digits. -/
def Json.Misread.IsLong (e : Json.Misread) : Prop := ∃ digits, e.slip = .longInteger digits

/-- Whether an integer has too many digits can be computed. -/
theorem Json.Misread.isLong_iff {e : Json.Misread} : e.IsLong ↔ e.isLong = true := by
  rw [IsLong, isLong]
  cases e.slip <;> simp

/-- The faults of a file that get past loading. -/
@[mk_iff]
inductive FileTree.Breaks (t : FileTree) (path : Path) : Fault → Prop
  /-- A name on the path is too long, or all of the path. -/
  | nameTooLong {shown : String} (hfind : t.find path = .error (.nameTooLong shown)) :
      Breaks t path (.file (.nameTooLong shown))
  /-- The bytes of the file are no text. -/
  | undecodable {bytes : ByteArray} (hfind : t.find path = .ok (.bytes bytes))
      (hbytes : String.fromUTF8? bytes = none) : Breaks t path .undecodable
  /-- The text of the file holds an integer with too many digits. -/
  | longInteger {text : String} {e : Json.Misread} (htext : t.read path = .ok text)
      (hread : Json.readLossy text = .error e) (hlong : e.IsLong) : Breaks t path (.misread e)

/-- Whether an answer is an error by its status. -/
def Reply.IsErrorStatus (status : Int) : Prop := 400 ≤ status ∧ status < 600

/-- The faults of a reply that get past loading. -/
@[mk_iff]
inductive Reply.Breaks : Reply → Fault → Prop
  /-- The request fails by an error that has no status. -/
  | withoutStatus (reason : String) :
      Breaks (.failure .withoutStatus reason) (.misfit (.lacks "NoneType" "status_code"))
  /-- The text of the answer holds an integer with too many digits. -/
  | longInteger {status : Int} {contentType : Option String} {body : String} {e : Json.Misread}
      (hstatus : ¬ IsErrorStatus status) (hread : Json.readLossy body = .error e)
      (hlong : e.IsLong) : Breaks (.answer status contentType body) (.misread e)

namespace World

/-- The faults that get past loading. -/
@[mk_iff]
inductive Breaks (w : World) (source : String) : Fault → Prop
  /-- The source is a malformed address. -/
  | address {cause : ValueFault} (hparse : Url.parse source = .error (.value cause)) :
      Breaks w source (.value cause)
  /-- The source is a file that cannot be used. -/
  | file {f : Fault} (hweb : isWebAddress source = .ok false)
      (h : w.files.Breaks (.ofString source) f) : Breaks w source f
  /-- The source is an address with a reply that cannot be used. -/
  | reply {r : Reply} {f : Fault} (hweb : isWebAddress source = .ok true)
      (hreply : w.web.lookup source = some r) (h : r.Breaks f) : Breaks w source f

/-- The text that a document is read from: that of a file, or that of an answer. -/
inductive Supplies (w : World) (source : String) : String → Prop
  | file {text : String} (hweb : isWebAddress source = .ok false)
      (htext : w.files.read (.ofString source) = .ok text) : Supplies w source text
  | reply {status : Int} {contentType : Option String} {body : String}
      (hweb : isWebAddress source = .ok true)
      (hreply : w.web.lookup source = some (.answer status contentType body))
      (hstatus : ¬ Reply.IsErrorStatus status) : Supplies w source body

/-- What a loaded document is said to come from: the address, or the written form of the path. -/
def sourceName (source : String) : String :=
  if (isWebAddress source).toOption = some true then source else (Path.ofString source).toString

end World

/-- A document comes from one of the given texts, or the fault is one of loading, or it is one of
the given faults; if there are such, then it is each of them. -/
structure Loads (r : Except Fault Loaded) (shown : String) (texts : String → Prop)
    (faults : Fault → Prop) : Prop where
  /-- There are three ways in which loading may end. -/
  outcome : (∃ text members loss, texts text ∧ Json.readLossy text = .ok (.obj members, loss) ∧
      r = .ok ⟨shown, members, loss⟩) ∨ (∃ cause, r = .error (.load cause)) ∨ ∃ f, faults f
  /-- The given faults do occur. -/
  broken : ∀ f, faults f → r = .error f

namespace World

variable {w : World} {source : String}

/-- What comes of a text: the document in it, or what it is refused by. -/
def document (shown : String) (refusal : Json.Misread → LoadFault) (text : String) :
    Except Fault Loaded :=
  match Json.readLossy text with
  | .ok (v, loss) => requireObject shown v loss
  | .error e => .error (if e.isLong then .misread e else .load (refusal e))

/-- A text holds a document, or it is refused, or an integer of it has too many digits. -/
theorem loads_document {shown text : String} {refusal : Json.Misread → LoadFault}
    {texts : String → Prop} {faults : Fault → Prop} (htext : texts text)
    (hfaults : ∀ f, faults f ↔ ∃ e, Json.readLossy text = .error e ∧ e.IsLong ∧ f = .misread e) :
    Loads (document shown refusal text) shown texts faults := by
  cases hread : Json.readLossy text with
  | ok result =>
    obtain ⟨v, loss⟩ := result
    have hnone : ∀ f, ¬ faults f := by simp [hfaults, hread]
    refine ⟨?_, fun f hf => absurd hf (hnone f)⟩
    rw [document, hread]
    cases v with
    | obj members => exact .inl ⟨text, members, loss, htext, hread, rfl⟩
    | _ => exact .inr (.inl ⟨_, rfl⟩)
  | error e =>
    have hf : ∀ f, faults f ↔ e.IsLong ∧ f = .misread e := by simp [hfaults, hread]
    rw [document, hread]
    by_cases hlong : e.IsLong
    · -- no clause is about such a text: it is not malformed
      simp only [Json.Misread.isLong_iff.mp hlong]
      exact ⟨.inr (.inr ⟨_, (hf _).mpr ⟨hlong, rfl⟩⟩), fun f h => by rw [((hf f).mp h).2]; rfl⟩
    · have hshort : e.isLong = false := Bool.eq_false_iff.mpr (mt Json.Misread.isLong_iff.mpr hlong)
      simp only [hshort]
      exact ⟨.inr (.inl ⟨refusal e, rfl⟩), fun f h => absurd ((hf f).mp h).1 hlong⟩

/-- A fault of loading itself. -/
theorem loads_load {shown : String} {cause : LoadFault} {texts : String → Prop}
    {faults : Fault → Prop} (hnone : ∀ f, ¬ faults f) :
    Loads (.error (.load cause)) shown texts faults :=
  ⟨.inr (.inl ⟨cause, rfl⟩), fun f hf => absurd hf (hnone f)⟩

/-- A fault that gets past loading, and the only one. -/
theorem loads_fault {shown : String} {f : Fault} {texts : String → Prop} {faults : Fault → Prop}
    (hf : ∀ g, faults g ↔ g = f) : Loads (.error f) shown texts faults :=
  ⟨.inr (.inr ⟨f, (hf f).mpr rfl⟩), fun g hg => by rw [(hf g).mp hg]⟩

variable {path : Path}

/-- A file that is there is read and its text taken for a document. -/
theorem loadFile_of_isFile (h : w.files.isFile path = .ok true) :
    w.loadFile path =
      w.files.read path >>= document path.toString (.invalidJson path.toString) := by
  rw [loadFile, h]
  refine congrArg (w.files.read path >>= ·) (funext fun text => ?_)
  rw [document]
  cases Json.readLossy text <;> rfl

/-- The text that is read of a file is taken for a document. -/
theorem loadFile_of_read {text : String} (h : w.files.isFile path = .ok true)
    (hread : w.files.read path = .ok text) :
    w.loadFile path = document path.toString (.invalidJson path.toString) text := by
  rw [loadFile_of_isFile h, hread]
  rfl

/-- Nothing that is no file is loaded. -/
theorem loadFile_of_not_isFile (h : w.files.isFile path = .ok false) :
    w.loadFile path = .error (.load (.fileNotFound path.toString)) := by
  rw [loadFile, h]
  rfl

/-- What is read of a file is its text, with all line breaks written alike. -/
theorem read_eq {t : FileTree} :
    t.read path = (t.readRaw path).map (Text.onChars Text.unifyNewlines) := by
  rw [FileTree.read]
  cases t.readRaw path <;> rfl

/-- Loading from a file ends in a document, in a fault of its own, or in a fault of the file that
gets past it. -/
theorem loads_loadFile (w : World) (path : Path) :
    Loads (w.loadFile path) path.toString (w.files.read path = .ok ·) (w.files.Breaks path) := by
  -- what is found decides both whether there is a file and what is read of it
  cases hfind : w.files.find path with
  | error f =>
    have hread : w.files.read path = .error (.file f) := by
      rw [read_eq, FileTree.readRaw, hfind]; rfl
    cases f with
    | nameTooLong shown =>
      rw [show w.loadFile path = .error (.file (.nameTooLong shown)) by
        rw [loadFile, FileTree.isFile, hfind]; rfl]
      exact loads_fault fun f => by simp [FileTree.breaks_iff, hfind, hread]
    | _ =>
      rw [loadFile_of_not_isFile (by rw [FileTree.isFile, hfind])]
      exact loads_load fun f => by simp [FileTree.breaks_iff, hfind, hread]
  | ok entry =>
    cases entry with
    | directory =>
      have hread : w.files.read path = .error (.file (.directory path.toString)) := by
        rw [read_eq, FileTree.readRaw, hfind]; rfl
      rw [loadFile_of_not_isFile (by rw [FileTree.isFile, hfind])]
      exact loads_load fun f => by simp [FileTree.breaks_iff, hfind, hread]
    | text s =>
      have hread : w.files.read path = .ok (Text.onChars Text.unifyNewlines s) := by
        rw [read_eq, FileTree.readRaw, hfind]; rfl
      rw [loadFile_of_read (by rw [FileTree.isFile, hfind]) hread]
      exact loads_document hread fun f => by simp [FileTree.breaks_iff, hfind, hread]
    | bytes b =>
      have hfile : w.files.isFile path = .ok true := by rw [FileTree.isFile, hfind]
      cases htext : String.fromUTF8? b with
      | none =>
        have hread : w.files.read path = .error .undecodable := by
          rw [read_eq, FileTree.readRaw, hfind]; simp [htext]; rfl
        rw [show w.loadFile path = .error .undecodable by
          rw [loadFile_of_isFile hfile, hread]; rfl]
        exact loads_fault fun f => by simp [FileTree.breaks_iff, hfind, hread, htext]
      | some s =>
        have hread : w.files.read path = .ok (Text.onChars Text.unifyNewlines s) := by
          rw [read_eq, FileTree.readRaw, hfind]; simp [htext]; rfl
        rw [loadFile_of_read hfile hread]
        exact loads_document hread fun f => by simp [FileTree.breaks_iff, hfind, hread, htext]

/-- The text of an answer that is no error is taken for a document. -/
theorem readAnswer_of_status {url body : String} {status : Int} {contentType : Option String}
    (h : ¬ Reply.IsErrorStatus status) :
    (readAnswer url status contentType body).1 = document url (.invalidResponse url) body := by
  rw [Reply.IsErrorStatus] at h
  rw [readAnswer, if_neg h, document]
  cases Json.readLossy body <;> rfl

/-- Loading from the web ends in the document of an answer, in a fault of its own, or in a fault of
the reply that gets past it. -/
theorem loads_loadUrl (hweb : isWebAddress source = .ok true) :
    Loads (w.loadUrl source).1 source (w.Supplies source)
      (fun f => ∃ r, w.web.lookup source = some r ∧ r.Breaks f) := by
  rw [loadUrl, hweb]
  cases hreply : w.web.lookup source with
  | none => exact loads_load (by simp)
  | some r =>
    cases r with
    | failure kind reason =>
      cases kind with
      | withoutStatus => exact loads_fault fun f => by simp [Reply.breaks_iff, requestFault]
      | _ => exact loads_load fun f => by simp [Reply.breaks_iff]
    | answer status contentType body =>
      show Loads (readAnswer source status contentType body).1 _ _ _
      by_cases hstatus : Reply.IsErrorStatus status
      · rw [readAnswer, if_pos (show 400 ≤ status ∧ status < 600 from hstatus)]
        exact loads_load fun f => by simp [Reply.breaks_iff, hstatus]
      · rw [readAnswer_of_status hstatus]
        refine loads_document (.reply hweb hreply hstatus) fun f => ?_
        simp [Reply.breaks_iff, hstatus]

/-- Only a malformed address is no question whether it is one of the web. -/
theorem isWebAddress_cases (source : String) :
    (∃ cause, isWebAddress source = .error (.value cause) ∧
      Url.parse source = .error (.value cause)) ∨
    (∃ b u, isWebAddress source = .ok b ∧ Url.parse source = .ok u) := by
  rw [isWebAddress]
  cases hparse : Url.parse source with
  | ok u => exact .inr ⟨_, u, rfl, rfl⟩
  | error f =>
    refine .inl ?_
    -- parsing has two ways to fail, and both are about a malformed value
    rw [Url.parse] at hparse
    dsimp only at hparse
    split at hparse
    · obtain rfl := Except.error.inj hparse
      exact ⟨_, rfl, rfl⟩
    · obtain rfl := Except.error.inj hparse
      exact ⟨_, rfl, rfl⟩
    · cases hparse

/-- Loading from a source ends in a document, in a fault of its own, or in one of the faults that
get past it. -/
theorem loads_source (w : World) (source : String) :
    Loads (w.load source).1 (sourceName source) (w.Supplies source) (w.Breaks source) := by
  obtain ⟨cause, hweb, hparse⟩ | ⟨b, u, hweb, hparse⟩ := isWebAddress_cases source
  · rw [load, hweb]
    exact loads_fault fun f => by simp [breaks_iff, hparse, hweb]
  · cases b with
    | true =>
      have h := loads_loadUrl (w := w) hweb
      rw [load, hweb, sourceName, hweb]
      refine ⟨h.outcome.imp_right (Or.imp_right ?_), ?_⟩
      · rintro ⟨f, r, hreply, hf⟩
        exact ⟨f, .reply hweb hreply hf⟩
      · rintro f hf
        exact h.broken f (by simpa [breaks_iff, hparse, hweb] using hf)
    | false =>
      have h := loads_loadFile w (.ofString source)
      rw [load, hweb, sourceName, hweb]
      refine ⟨?_, ?_⟩
      · obtain ⟨text, members, loss, htext, hread, hok⟩ | hload | ⟨f, hf⟩ := h.outcome
        · exact .inl ⟨text, members, loss, .file hweb htext, hread, hok⟩
        · exact .inr (.inl hload)
        · exact .inr (.inr ⟨f, .file hweb hf⟩)
      · intro f hf
        exact h.broken f (by simpa [breaks_iff, hparse, hweb] using hf)

/-- The faults that get past loading are none of its own. -/
theorem Breaks.ne_load {f : Fault} (h : w.Breaks source f) (cause : LoadFault) :
    f ≠ .load cause := by
  obtain _ | ⟨_, h⟩ | ⟨_, _, h⟩ := h
  · exact Fault.noConfusion
  · cases h <;> exact Fault.noConfusion
  · cases h <;> exact Fault.noConfusion

/-- Loading ends in an object or in a fault of its own. -/
def LoadsOrRefuses (w : World) (source : String) : Prop :=
  (∃ loaded, (w.load source).1 = .ok loaded) ∨ ∃ cause, (w.load source).1 = .error (.load cause)

/-- A loaded document is the object in the text that its source supplies, with what is lost of it in
reading the text. The faults that loading ends in are its own, but for those of a malformed address,
of a name that is too long, of bytes that are no text, of an integer with too many digits, and of a
request that fails without a status. Each of these does end the loading, so it gives an object or a
fault of its own where none of them occurs, and nowhere else. -/
theorem load_breaks_iff (w : World) (source : String) :
    (∀ loaded, (w.load source).1 = .ok loaded → loaded.source = sourceName source ∧
      ∃ text, w.Supplies source text ∧
        Json.readLossy text = .ok (.obj loaded.members, loaded.loss)) ∧
    (∀ f, w.Breaks source f ↔ (w.load source).1 = .error f ∧ ∀ cause, f ≠ .load cause) ∧
    (w.LoadsOrRefuses source ↔ ∀ f, ¬ w.Breaks source f) := by
  obtain ⟨outcome, broken⟩ := loads_source w source
  refine ⟨fun loaded hloaded => ?_, fun f => ⟨fun hf => ⟨broken f hf, hf.ne_load⟩, ?_⟩, ?_, ?_⟩
  · obtain ⟨text, members, loss, htext, hread, hok⟩ | ⟨cause, hcause⟩ | ⟨f, hf⟩ := outcome
    · obtain rfl : _ = loaded := Except.ok.inj (hok.symm.trans hloaded)
      exact ⟨rfl, text, htext, hread⟩
    · exact nomatch hcause.symm.trans hloaded
    · exact nomatch (broken f hf).symm.trans hloaded
  · -- a result is one fault, so that of the third outcome is the given one
    rintro ⟨hload, hne⟩
    obtain ⟨text, members, loss, -, -, hok⟩ | ⟨cause, hcause⟩ | ⟨g, hg⟩ := outcome
    · exact nomatch hok.symm.trans hload
    · exact absurd (Except.error.inj (hload.symm.trans hcause)) (hne cause)
    · exact Except.error.inj ((broken g hg).symm.trans hload) ▸ hg
  · rintro (⟨loaded, hloaded⟩ | ⟨cause, hcause⟩) f hf
    · exact nomatch (broken f hf).symm.trans hloaded
    · exact hf.ne_load cause (Except.error.inj ((broken f hf).symm.trans hcause))
  · intro hnone
    obtain ⟨text, members, loss, -, -, hok⟩ | hcause | ⟨f, hf⟩ := outcome
    · exact .inl ⟨_, hok⟩
    · exact .inr hcause
    · exact absurd hf (hnone f)

/-- A directory with a file whose only byte is no text. -/
def blurred : World := { files := { entries := [(["s.json"], .bytes ⟨#[0xff]⟩)] } }

/-- Bytes that are no text get past the loading of a file. -/
theorem not_loadsOrRefuses_blurred : ¬ LoadsOrRefuses blurred "s.json" := by
  have h : (blurred.load "s.json").1 = .error .undecodable := rfl
  simp [LoadsOrRefuses, h]

end World

end SchemaStruct
