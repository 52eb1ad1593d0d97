import SchemaStruct.CSharp.Generator
import SchemaStruct.Proofs.CSharp.Generation
import SchemaStruct.Proofs.Source.Tidy

/-!
# Layout of Source Files

On its way into a source file the text of the declarations is joined, indented, laid out below the
namespaces that are used, and tidied. None of these steps loses, adds or moves a line with text: the
file has a fixed head, a line for each namespace, the lines of the declarations one level deeper,
and a closing brace. A line of the declarations may hold line feeds, since the type that records
extend is any text; its parts count as lines then.

## Main definitions

* `SourceFile.lines`: the lines that a source file is joined from;
* `SourceFile.listing`: the lines with text that it has;
* `Configuration.Renders`: the renderer that a configuration asks for at a graph.

## Main results

* `SourceFile.toList_text`: a source file is joined from its lines;
* `SourceFile.filter_splitOn_text`: which of its lines have text;
* `CSharp.code_eq_listing`: the same for the code that is generated, which is tidy.
-/

namespace SchemaStruct

open Text
open Template.Filter (hasText)

namespace Text

/-- A joined text begins with its first piece; the others stand behind a separator each. -/
theorem joinWith_cons (sep piece : List Char) (pieces : List (List Char)) :
    joinWith sep (piece :: pieces) = piece ++ pieces.flatMap (sep ++ ·) := by
  induction pieces generalizing piece with
  | nil => simp [joinWith]
  | cons next pieces ih =>
    calc joinWith sep (piece :: next :: pieces)
        = piece ++ sep ++ joinWith sep (next :: pieces) := rfl
      _ = piece ++ (next :: pieces).flatMap (sep ++ ·) := by
        rw [ih, List.flatMap_cons, List.append_assoc, List.append_assoc]

/-- Further pieces are joined to a text behind a separator each. -/
theorem joinWith_append (sep : List Char) {front : List (List Char)} (hne : front ≠ [])
    (back : List (List Char)) :
    joinWith sep (front ++ back) = joinWith sep front ++ back.flatMap (sep ++ ·) := by
  cases front with
  | nil => exact absurd rfl hne
  | cons piece front =>
    rw [List.cons_append, joinWith_cons, joinWith_cons, List.flatMap_append, List.append_assoc]

/-- Pieces behind a separator each are a joined text behind a separator. -/
theorem flatMap_append_eq (sep : List Char) {pieces : List (List Char)} (hne : pieces ≠ []) :
    pieces.flatMap (sep ++ ·) = sep ++ joinWith sep pieces := by
  cases pieces with
  | nil => exact absurd rfl hne
  | cons piece pieces => rw [joinWith_cons, List.flatMap_cons, List.append_assoc]

/-- Texts are joined as lists are. -/
theorem intercalate_eq (sep : List Char) (pieces : List (List Char)) :
    sep.intercalate pieces = joinWith sep pieces := by
  induction pieces with
  | nil => rfl
  | cons piece pieces ih =>
    cases pieces with
    | nil => simp [joinWith]
    | cons next pieces =>
      rw [List.intercalate_cons_cons, ih]
      rfl

end Text

namespace CSharp

namespace SourceFile

/-- The lines above the namespace. -/
def headerLines : List String :=
  ["// <auto-generated />", "//",
    "// Immutable value types generated by structgen from a JSON Schema document."]

/-- The line that opens the namespace. -/
def namespaceLine (f : SourceFile) : String := "namespace " ++ f.namespaceText

/-- A line that puts a namespace to use. -/
def usingText (unit : String) (u : Using) : String := unit ++ "using " ++ u.name ++ ";"

/-- The lines above the declarations. -/
def topLines (f : SourceFile) : List String :=
  headerLines ++ ["", f.namespaceLine, "\x7b"] ++ f.usings.map (usingText f.indentUnit) ++
    (if f.usings.isEmpty then [] else [""])

/-- The pieces of the declarations between line feeds. -/
def bodyPieces (f : SourceFile) : List (List Char) :=
  splitOn '\n' (joinWith ['\n'] (f.body.map String.toList))

/-- All lines of a source file. -/
def lines (f : SourceFile) : List (List Char) :=
  f.topLines.map String.toList ++ f.bodyPieces.map (indentLine f.indentUnit) ++ ["\x7d".toList]

/-- The lines of a source file that have text: those above the namespace, the line that opens it, a
line for each namespace that is used, the lines of the declarations that have text, one level
deeper, and the closing brace. -/
def listing (f : SourceFile) : List (List Char) :=
  (headerLines ++ [f.namespaceLine, "\x7b"] ++ f.usings.map (usingText f.indentUnit)).map
      String.toList ++
    f.body.flatMap (fun line =>
      ((splitOn '\n' line.toList).filter hasText).map (f.indentUnit.toList ++ ·)) ++
    ["\x7d".toList]

variable (f : SourceFile)

/-- The text above the namespace is joined from its lines, with a blank line below them. -/
theorem toList_header :
    header.toList = joinWith ['\n'] (headerLines.map String.toList) ++ ['\n', '\n'] := by
  decide +kernel

/-- The declarations are joined from their indented pieces. -/
theorem toList_indentedBody :
    f.indentedBody.toList = joinWith ['\n'] (f.bodyPieces.map (indentLine f.indentUnit)) := by
  rw [indentedBody, String.toList_ofList, bodyPieces, String.toList_intercalate, intercalate_eq]
  rfl

/-- The lines that put namespaces to use stand behind a line feed each. -/
theorem toList_join_usings (unit : String) (usings : List Using) :
    (String.join (usings.map (usingLine unit))).toList =
      usings.flatMap fun u => ['\n'] ++ (usingText unit u).toList := by
  rw [String.toList_join, List.flatMap_map]
  refine List.flatMap_congr fun u _ => ?_
  simp only [usingLine, usingText, String.toList_append, List.append_assoc]
  rfl

/-- A source file is joined from its lines. -/
theorem toList_text : f.text.toList = joinWith ['\n'] f.lines := by
  have hgap : (if f.usings.isEmpty then "" else "\n").toList =
      (if f.usings.isEmpty then [] else [""]).flatMap (['\n'] ++ ·.toList) := by
    split <;> rfl
  have hpieces : f.bodyPieces.map (indentLine f.indentUnit) ≠ [] := by
    simp [bodyPieces, splitOn_ne_nil]
  have hheader : headerLines.map String.toList ≠ [] := List.cons_ne_nil _ _
  -- every line but the first one stands behind a line feed
  have hlines : joinWith ['\n'] f.lines = joinWith ['\n'] (headerLines.map String.toList) ++
      (['\n'] ++ (['\n'] ++ (f.namespaceLine.toList ++ (['\n', '\x7b'] ++
        ((String.join (f.usings.map (usingLine f.indentUnit))).toList ++
          ((if f.usings.isEmpty then "" else "\n").toList ++
            (['\n'] ++ (f.indentedBody.toList ++ ['\n', '\x7d'])))))))) := by
    simp only [lines, topLines, List.map_append, List.append_assoc]
    rw [joinWith_append _ hheader, toList_join_usings, hgap, toList_indentedBody]
    simp only [List.flatMap_append, List.flatMap_map, List.map_cons, List.map_nil,
      List.flatMap_cons, List.flatMap_nil, flatMap_append_eq _ hpieces, List.append_assoc]
    rfl
  rw [hlines, text]
  simp only [String.toList_append, toList_header, namespaceLine, List.append_assoc]
  rfl

variable {f} (hnamespace : '\n' ∉ f.namespaceText.toList) (hunit : '\n' ∉ f.indentUnit.toList)

include hunit in
/-- A line that puts a namespace to use has no line feed in it. -/
theorem not_mem_usingText (u : Using) : '\n' ∉ (usingText f.indentUnit u).toList := by
  have hname : '\n' ∉ u.name.toList := by cases u <;> decide
  simp [usingText, hname, hunit]

include hnamespace hunit in
/-- No line above the declarations has a line feed in it. -/
theorem not_mem_of_mem_topLines {line : String} (h : line ∈ f.topLines) : '\n' ∉ line.toList := by
  have hheader : ∀ line ∈ headerLines, '\n' ∉ line.toList := by decide +kernel
  have hopening : '\n' ∉ f.namespaceLine.toList := by simp [namespaceLine, hnamespace]
  simp only [topLines, List.mem_append, List.mem_map, List.mem_cons, List.not_mem_nil,
    or_false] at h
  rcases h with ((h | rfl | rfl | rfl) | ⟨u, -, rfl⟩) | h
  · exact hheader line h
  · decide
  · exact hopening
  · decide
  · exact not_mem_usingText hunit u
  · split at h
    · exact absurd h List.not_mem_nil
    · obtain rfl := List.mem_singleton.mp h
      decide

include hunit in
/-- An indented line has no line feed in it if the line has none. -/
theorem not_mem_indentLine {line : List Char} (hline : '\n' ∉ line) :
    '\n' ∉ indentLine f.indentUnit line := by
  rw [indentLine]
  split
  · simp [hunit, hline]
  · simp

include hnamespace hunit in
/-- No line has a line feed in it, unless the namespace or a level of depth has one. -/
theorem not_mem_of_mem_lines {line : List Char} (h : line ∈ f.lines) : '\n' ∉ line := by
  simp only [lines, List.mem_append, List.mem_map, List.mem_singleton] at h
  rcases h with (⟨top, htop, rfl⟩ | ⟨piece, hpiece, rfl⟩) | rfl
  · exact not_mem_of_mem_topLines hnamespace hunit htop
  · exact not_mem_indentLine hunit (not_mem_of_mem_splitOn hpiece)
  · decide

/-- The indented lines with text are those that had text before. -/
theorem filter_map_indentLine (unit : String) (pieces : List (List Char)) :
    (pieces.map (indentLine unit)).filter hasText =
      (pieces.filter hasText).map (unit.toList ++ ·) := by
  induction pieces with
  | nil => rfl
  | cons piece pieces ih =>
    rw [List.map_cons, List.filter_cons, List.filter_cons, ih, indentLine]
    by_cases h : hasText piece
    · rw [if_pos h, if_pos (by rw [hasText_append, h, Bool.or_true]), if_pos h, List.map_cons]
    · rw [if_neg h, if_neg h, if_neg (by decide)]

/-- The pieces of the declarations that have text are those of its lines. -/
theorem filter_bodyPieces (f : SourceFile) :
    f.bodyPieces.filter hasText =
      f.body.flatMap fun line => (splitOn '\n' line.toList).filter hasText := by
  rw [bodyPieces]
  cases hbody : f.body with
  | nil => rfl
  | cons line rest =>
    rw [splitOn_joinWith (by simp), List.filter_flatMap, List.flatMap_map]

/-- The lines above the declarations that have text are all but the blank ones. -/
theorem filter_topLines (f : SourceFile) :
    (f.topLines.map String.toList).filter hasText =
      (headerLines ++ [f.namespaceLine, "\x7b"] ++ f.usings.map (usingText f.indentUnit)).map
        String.toList := by
  have hheader :
      (headerLines.map String.toList).filter hasText = headerLines.map String.toList := by
    decide +kernel
  have hopening : hasText f.namespaceLine.toList = true :=
    hasText_iff.mpr ⟨'n', by simp [namespaceLine], by decide⟩
  have husings : ((f.usings.map (usingText f.indentUnit)).map String.toList).filter hasText =
      (f.usings.map (usingText f.indentUnit)).map String.toList := by
    refine List.filter_eq_self.mpr fun line hline => ?_
    simp only [List.map_map, List.mem_map, Function.comp] at hline
    obtain ⟨u, -, rfl⟩ := hline
    exact hasText_iff.mpr ⟨';', by simp [usingText], by decide⟩
  have hgap : ((if f.usings.isEmpty then [] else [""]).map String.toList).filter hasText = [] := by
    split <;> decide
  have hblank : hasText "".toList = false := by decide
  have hbrace : hasText "\x7b".toList = true := by decide
  simp only [topLines, List.map_append, List.filter_append, hheader, husings, hgap, List.append_nil,
    List.map_cons, List.map_nil, List.filter_cons, hopening, hblank, hbrace, List.filter_nil,
    if_true, Bool.false_eq_true, if_false]

include hnamespace hunit in
/-- The lines with text that a source file has. -/
theorem filter_splitOn_text : (splitOn '\n' f.text.toList).filter hasText = f.listing := by
  have hne : f.lines ≠ [] := by simp [lines]
  have hbrace : ["\x7d".toList].filter hasText = ["\x7d".toList] := by decide
  calc (splitOn '\n' f.text.toList).filter hasText
      = f.lines.filter hasText := by
        rw [toList_text, splitOn_joinWith_of_not_mem hne fun line =>
          not_mem_of_mem_lines hnamespace hunit]
    _ = f.listing := by
        rw [lines, List.filter_append, List.filter_append, filter_topLines, filter_map_indentLine,
          filter_bodyPieces, List.map_flatMap, hbrace, listing]

end SourceFile

end CSharp

namespace Using

/-- The namespaces that are listed are those that are needed. -/
theorem mem_sorted {needed : List Using} {u : Using} : u ∈ sorted needed ↔ u ∈ needed := by
  have hall : u ∈ all := by cases u <;> decide
  rw [sorted, List.mem_filter, List.contains_iff_mem]
  exact and_iff_right hall

/-- They are listed once each, in the order of their names. -/
theorem pairwise_sorted (needed : List Using) :
    (sorted needed).Pairwise fun u v => u.name < v.name := by
  have hall : all.Pairwise fun u v => u.name < v.name := by decide +kernel
  exact hall.filter _

end Using

/-- A rendering that succeeds lists the namespaces that its page needs. -/
theorem Printer.usings_of_render {body : Emit Unit} {old page : Page} {lines : List String}
    {usings : List Using} (h : Printer.render body old = (.ok (lines, usings), page)) :
    usings = Using.sorted page.needed := by
  obtain ⟨_, -, -, -, husings⟩ := exists_of_render h
  exact husings

/-- A level of depth is a tab or some blanks. -/
theorem Configuration.mem_indentUnit {c : Configuration} {unit : String}
    (h : c.indentUnit = .ok unit) {ch : Char} (hch : ch ∈ unit.toList) : ch = '\t' ∨ ch = ' ' := by
  have hblanks : ∀ n, ch ∈ ("".pushn ' ' n).toList → ch = ' ' := by
    intro n hn
    induction n with
    | zero => cases (show ch ∈ ([] : List Char) from hn)
    | succ n ih =>
      have hpush : "".pushn ' ' (n + 1) = ("".pushn ' ' n).push ' ' := rfl
      rw [hpush, String.toList_push, List.mem_append, List.mem_singleton] at hn
      exact hn.elim ih id
  unfold indentUnit at h
  split at h
  · obtain rfl := Except.ok.inj h
    exact .inl (List.mem_singleton.mp hch)
  · split at h
    · split at h
      · cases h
      · split at h
        · cases h
        · obtain rfl := Except.ok.inj h
          exact .inr (hblanks _ hch)
    · obtain rfl := Except.ok.inj h
      split at hch
      · exact .inr (List.mem_singleton.mp hch)
      · cases hch
    · cases h

/-- A level of depth has no line feed in it. -/
theorem Configuration.not_mem_of_indentUnit {c : Configuration} {unit : String}
    (h : c.indentUnit = .ok unit) : '\n' ∉ unit.toList := by
  intro hfeed
  rcases c.mem_indentUnit h hfeed with hfeed | hfeed <;> cases hfeed

/-- What the renderer is that a configuration asks for at a graph: it writes the names that the
styles of the configuration give to the graph, with the options, comments and depth that are set. -/
structure Configuration.Renders (c : Configuration) (g : TypeGraph) (r : CSharp.Renderer) :
    Prop where
  /-- The names are those of the styles that are set. -/
  names : ∃ typeStyle fieldStyle, NamingStyle.read c.typeCase = .ok typeStyle ∧
    NamingStyle.read c.fieldCase = .ok fieldStyle ∧
    r.names = CSharp.assignNames g typeStyle fieldStyle
  /-- The options are those that are set. -/
  options : ∃ es, c.language.toEntries = .ok es ∧ CSharp.Options.read es = .ok r.options
  /-- Descriptions become comments if the configuration says so. -/
  comments : r.comments = c.addComments.truthy
  /-- A level of depth is the one that is set. -/
  indentUnit : c.indentUnit = .ok r.indentUnit

namespace CSharp

/-- A source text is laid out from what the renderer of the configuration writes. -/
theorem exists_renders_of_sourceText {c : Configuration} {es : Entries} {options : Options}
    {hasLayout : Bool} {g : TypeGraph} {text : String} (hes : c.language.toEntries = .ok es)
    (hoptions : Options.read es = .ok options) (h : sourceText c options hasLayout g = .ok text) :
    ∃ r body usings page, c.Renders g r ∧
      Printer.render (r.structs writableProperty) {} = (.ok (body, usings), page) ∧
      text = SourceFile.text
        { namespaceText := c.namespaceName.plain, usings, body, indentUnit := r.indentUnit } := by
  obtain ⟨typeStyle, htype, h⟩ := ok_of_bind h
  obtain ⟨fieldStyle, hfield, h⟩ := ok_of_bind h
  obtain ⟨unit, hunit, h⟩ := ok_of_bind h
  obtain ⟨⟨body, usings⟩, hrender, h⟩ := ok_of_bind h
  -- the layout is there, or there is no text
  cases hasLayout with
  | false => cases h
  | true =>
    let r : Renderer :=
      { names := assignNames g typeStyle fieldStyle, options, comments := c.addComments.truthy,
        indentUnit := unit }
    have hrenders : c.Renders g r :=
      { names := ⟨typeStyle, fieldStyle, htype, hfield, rfl⟩
        options := ⟨es, hes, hoptions⟩
        comments := rfl
        indentUnit := hunit }
    exact ⟨r, body, usings, _, hrenders, Prod.ext hrender rfl, (Except.ok.inj h).symm⟩

/-- The code that is generated is a source text in tidy form. -/
theorem exists_tidy_of_run {c : Configuration} {hasLayout : Bool} {gen : Generator}
    (hgen : generator c hasLayout = .ok gen) {g : TypeGraph} {code : String}
    {found : List String} {metadata : Metadata}
    (hsuccess : (gen.run g).1 = .success code found metadata) :
    ∃ r body usings page, c.Renders g r ∧
      Printer.render (r.structs writableProperty) {} = (.ok (body, usings), page) ∧
      code = Tidy.code (SourceFile.text
        { namespaceText := c.namespaceName.plain, usings, body, indentUnit := r.indentUnit }) := by
  obtain ⟨es, hes, h⟩ := ok_of_bind hgen
  obtain ⟨options, hoptions, h⟩ := ok_of_bind h
  obtain rfl := Except.ok.inj h
  unfold Generator.run at hsuccess
  split at hsuccess
  · cases hsuccess
  · split at hsuccess
    · cases hsuccess
    · next text htext =>
      injection hsuccess with hcode
      obtain ⟨r, body, usings, page, hrenders, hrender, rfl⟩ :=
        exists_renders_of_sourceText hes hoptions htext
      exact ⟨r, body, usings, page, hrenders, hrender, hcode.symm⟩

/-- The code that is generated has the lines of the source file that the renderer of the
configuration asks for, with the namespaces that the rendering needs: all that have text, in order,
without the blanks at their ends. No two lines in a row are blank, and one line feed stands at the
end. -/
theorem code_eq_listing {c : Configuration} {hasLayout : Bool} {gen : Generator}
    (hgen : generator c hasLayout = .ok gen) {g : TypeGraph} {code : String}
    {found : List String} {metadata : Metadata}
    (hsuccess : (gen.run g).1 = .success code found metadata)
    (hnamespace : '\n' ∉ c.namespaceName.plain.toList) :
    ∃ r body usings page, c.Renders g r ∧
      Printer.render (r.structs writableProperty) {} = (.ok (body, usings), page) ∧
      usings.Pairwise (fun u v => u.name < v.name) ∧ (∀ u, u ∈ usings ↔ u ∈ page.needed) ∧
      (splitOn '\n' code.toList).filter hasText =
        (SourceFile.listing
          { namespaceText := c.namespaceName.plain, usings, body,
            indentUnit := r.indentUnit }).map trimEnd ∧
      (splitOn '\n' code.toList).IsChain Tidy.Apart ∧
      ∃ front last, code.toList = front ++ [last, '\n'] ∧ last ≠ '\n' := by
  obtain ⟨r, body, usings, page, hrenders, hrender, rfl⟩ := exists_tidy_of_run hgen hsuccess
  let f : SourceFile :=
    { namespaceText := c.namespaceName.plain, usings, body, indentUnit := r.indentUnit }
  have hunit : '\n' ∉ f.indentUnit.toList := Configuration.not_mem_of_indentUnit hrenders.indentUnit
  have hlines : (splitOn '\n' f.text.toList).filter hasText = f.listing :=
    SourceFile.filter_splitOn_text hnamespace hunit
  -- a source file has text, whatever is in it: at least the closing brace
  have hsome : ∃ line ∈ splitOn '\n' f.text.toList, hasText line = true := by
    have hbrace : "\x7d".toList ∈ f.listing := by simp [SourceFile.listing]
    rw [← hlines] at hbrace
    exact ⟨_, List.mem_filter.mp hbrace⟩
  refine ⟨r, body, usings, page, hrenders, hrender, ?_, ?_, ?_, ?_, ?_⟩
  · exact Printer.usings_of_render hrender ▸ Using.pairwise_sorted page.needed
  · intro u
    rw [Printer.usings_of_render hrender, Using.mem_sorted]
  · rw [Tidy.filter_splitOn_code, hlines]
  · exact Tidy.isChain_splitOn_code hsome
  · exact Tidy.exists_code_eq hsome

/-- A document with a moment, whose record extends types that stand on two lines. -/
def stamp : Document where
  root := .obj [("properties", .obj
    [("at", .obj [("type", .str "string"), ("format", .str "date-time")])])]
  baseType := .str "Entity,\n  IStamped"

/-- A configuration with a namespace and a depth of its own. -/
def stampConfiguration : Configuration where
  namespaceName := .str "Library"
  indentSize := .int 2

/-- The theorem at a record of which one line is two. -/
theorem code_eq_listing_stamp :
    ∃ gen g code found metadata, generator stampConfiguration = .ok gen ∧
      (stamp.toGraph (.str "Stamp")).1 = .ok g ∧
      (gen.run g).1 = .success code found metadata ∧
      '\n' ∉ stampConfiguration.namespaceName.plain.toList ∧
      ∃ r body usings page, stampConfiguration.Renders g r ∧
        Printer.render (r.structs writableProperty) {} = (.ok (body, usings), page) ∧
        usings.Pairwise (fun u v => u.name < v.name) ∧ (∀ u, u ∈ usings ↔ u ∈ page.needed) ∧
        (splitOn '\n' code.toList).filter hasText =
          (SourceFile.listing
            { namespaceText := "Library", usings, body, indentUnit := r.indentUnit }).map trimEnd ∧
        (splitOn '\n' code.toList).IsChain Tidy.Apart ∧
        ∃ front last, code.toList = front ++ [last, '\n'] ∧ last ≠ '\n' := by
  have htyped : stampConfiguration.Typed :=
    { Configuration.typed_default with
      namespaceName := ⟨_, rfl⟩
      indentSize := .inl ⟨_, rfl⟩ }
  have hindent : stampConfiguration.FitsIndent := .inr (by rintro n ⟨⟩; decide)
  obtain ⟨unit, hunit⟩ := stampConfiguration.exists_indentUnit htyped hindent
  obtain ⟨gen, hgen⟩ : ∃ gen, generator stampConfiguration = .ok gen := ⟨_, rfl⟩
  obtain ⟨es, options, -, -, -, hfindings, hcode⟩ := exists_options_of_generator hgen
  have hrecords : (stamp.toGraph (.str "Stamp")).1.toOption.map (fun g =>
      decide (∀ r ∈ g.records, r.baseType.IsOptionalText ∧ r.Described)) = some true := by
    decide +kernel
  obtain ⟨g, hg, hrecords⟩ := Option.map_eq_some_iff.mp hrecords
  have hgraph := Document.toGraph_of_toOption hg
  have hrecords := of_decide_eq_true hrecords
  obtain ⟨found, hfound⟩ := exists_findings htyped options g
  obtain ⟨text, htext⟩ := exists_sourceText htyped hunit (Document.resolved_of_toGraph hgraph)
    (fun r hr => (hrecords r hr).1) (fun r hr => (hrecords r hr).2) options
  have hrun : (gen.run g).1 = .success (Tidy.code text) found (gen.metadata g) := by
    rw [Generator.run, hfindings, hcode, hfound, htext]
  have hnamespace : '\n' ∉ stampConfiguration.namespaceName.plain.toList := by decide +kernel
  exact ⟨gen, g, _, found, _, hgen, hgraph, hrun, hnamespace,
    code_eq_listing hgen hrun hnamespace⟩

end CSharp

end SchemaStruct
