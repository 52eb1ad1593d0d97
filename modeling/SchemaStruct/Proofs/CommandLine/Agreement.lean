import SchemaStruct.Proofs.CommandLine.Settings

/-!
# The Command Line and the Library

A run of the command line loads a configuration and a document, creates a generator, names the
record of the document and prints the lines of the code. The library does the same on another way:
it takes the settings as a value and gives the code in one piece. Without a configuration file both
come to the same configuration and so to the same generator. What is printed is the code itself,
since the only line breaks in the code are line feeds and one of them stands at its end.

All of this is about documents and words without lone surrogates. The library takes a text with one
like any other, and hands it out in the code if it stands in a description; printing such a line
ends in a fault that the run does not turn into a message.

## Main definitions

* `Ending.Reports`: the end of a run that says what the library gives.

## Main results

* `Registry.create_congr`: a generator depends on what its configuration is, not on where it comes
  from;
* `Arguments.generate_eq`: both ways give the same;
* `Ending.printed_lines`: when the lines of a code print the code;
* `run_reports`: a run says what the library gives.
-/

namespace SchemaStruct

open Text (FeedsOnly)

namespace Registry

/-- Creating a generator depends on the configuration that is read and not on where it comes
from. -/
theorem create_congr {r : Registry GeneratorKind} {files : FileTree} {name key : String}
    {source other : ConfigSource} (hkey : r.resolve name = .ok key)
    (h : source.read files key = other.read files key) :
    r.create files name source = r.create files name other := by
  unfold create
  rw [hkey]
  simp only [bind, Except.bind, h]

/-- The name of the language leads to itself in the registry of the library. -/
theorem resolve_standardRegistry :
    standardRegistry.resolve CommandLine.language = .ok "csharp" := by
  have hsmall : Text.lowerCase CommandLine.language = "csharp" := by decide +kernel
  rw [resolve, hsmall]
  rfl

/-- What the registry of the library creates is a generator of C#. -/
theorem generator_of_create {files : FileTree} {c : Configuration} {kind : GeneratorKind}
    {gen : Generator} (h : standardRegistry.create files CommandLine.language (.given c) =
      .ok (kind, gen)) : CSharp.generator c = .ok gen := by
  unfold create at h
  obtain ⟨key, hkey, h⟩ := ok_of_bind h
  obtain ⟨found, hfound, h⟩ := ok_of_bind h
  obtain rfl : csharpKind = found := by
    rw [find, resolve_standardRegistry] at hfound
    exact Except.ok.inj hfound
  split at h
  · next made hmade =>
    obtain ⟨-, rfl⟩ := Prod.mk.inj (Except.ok.inj h)
    exact hmade
  · cases h

end Registry

/-- A document in a file is loaded if the file has a text that is read as an object. -/
theorem World.load_of_file {w : World} {source text : String} {members : List (String × Json)}
    (hweb : isWebAddress source = .ok false) (hfile : w.files.isFile (.ofString source) = .ok true)
    (htext : w.files.read (.ofString source) = .ok text)
    (hread : Json.read text = .ok (.obj members)) :
    (w.load source).1 = .ok ⟨(Path.ofString source).toString, members, none⟩ := by
  rw [load, hweb]
  simp only [loadFile, hfile, htext, bind, Except.bind, Json.read_eq_ok_iff.mp hread]
  rfl

namespace Outcome

/-- Whether there is code. -/
def isSuccess : Outcome → Bool
  | success _ _ _ => true
  | failure _ => false

/-- A result that gives code has it. -/
theorem exists_success {r : Except Fault Outcome} (h : r.toOption.any isSuccess = true) :
    ∃ code found metadata, r = .ok (.success code found metadata) := by
  cases r with
  | error f => cases h
  | ok outcome =>
    cases outcome with
    | failure f => cases h
    | success code found metadata => exact ⟨code, found, metadata, rfl⟩

end Outcome

namespace CommandLine

namespace Arguments

/-- A place from which a document is loaded suggests a name. -/
theorem exists_nameOfSource {w : World} {source : String} {loaded : Loaded}
    (h : (w.load source).1 = .ok loaded) : ∃ name, nameOfSource source = .ok name := by
  -- the place is taken apart as an address first, and that has not failed
  obtain ⟨url, hurl⟩ : ∃ url, Url.parse source = .ok url := by
    cases hparse : Url.parse source with
    | ok url => exact ⟨url, rfl⟩
    | error f =>
      have hweb : isWebAddress source = .error f := by
        rw [isWebAddress, hparse]
        rfl
      rw [World.load, hweb] at h
      cases h
  rw [nameOfSource, hurl]
  exact ⟨_, rfl⟩

/-- The record of a document that is loaded has a name. -/
theorem exists_topLevelName (a : Arguments) {w : World} {source : String} {loaded : Loaded}
    (h : (w.load source).1 = .ok loaded) :
    ∃ name, a.topLevelName (.obj loaded.members) source = .ok name := by
  unfold topLevelName
  split
  · exact ⟨_, rfl⟩
  · exact ⟨_, rfl⟩
  · exact exists_nameOfSource h

/-- Without a configuration file, the command line gives what the library gives for the document,
the settings that are overridden and the name of the record. -/
theorem generate_eq {a : Arguments} {w : World} {source name : String} {loaded : Loaded}
    {c : Configuration} (hconfig : a.configFile = none) (hload : (w.load source).1 = .ok loaded)
    (hloss : loaded.loss = none)
    (hc : Configuration.load w.files "csharp" (.obj a.overrides) .null = .ok c)
    (hname : a.topLevelName (.obj loaded.members) source = .ok name) :
    a.generate w source = (SchemaStruct.generate w.files (.obj loaded.members) language
      (.obj a.overrides) (.str name)).1 := by
  have hcreate : standardRegistry.create w.files language (.value (.obj a.overrides)) =
      standardRegistry.create w.files language (.given c) :=
    Registry.create_congr Registry.resolve_standardRegistry hc
  rw [SchemaStruct.generate, hcreate, generate, hload, hconfig]
  have hc : Configuration.load w.files language (.obj a.overrides) .null = .ok c := hc
  simp only [bind, Except.bind, hloss, Option.elim, hc]
  cases standardRegistry.create w.files language (.given c) with
  | error f => rfl
  | ok created => simp only [hname]

end Arguments

/-- What the library gives comes from a generator of C# that is run on the graph of the document. -/
theorem exists_run_of_generate {files : FileTree} {document wanted : Json}
    {overrides : List (String × Json)} {c : Configuration} {outcome : Outcome}
    (hc : Configuration.load files "csharp" (.obj overrides) .null = .ok c)
    (h : (SchemaStruct.generate files document language (.obj overrides) wanted).1 = .ok outcome) :
    ∃ gen g, CSharp.generator c = .ok gen ∧ (gen.graphOf document wanted).1 = .ok g ∧
      (gen.run g).1 = outcome := by
  have hcreate : standardRegistry.create files language (.value (.obj overrides)) =
      standardRegistry.create files language (.given c) :=
    Registry.create_congr Registry.resolve_standardRegistry hc
  rw [SchemaStruct.generate, hcreate] at h
  cases hcreated : standardRegistry.create files language (.given c) with
  | error f =>
    rw [hcreated] at h
    cases h
  | ok created =>
    obtain ⟨kind, gen⟩ := created
    rw [hcreated] at h
    refine ⟨gen, ?_⟩
    unfold Generator.runDocument at h
    rcases hgraph : gen.graphOf document wanted with ⟨result, log⟩
    simp only [hgraph] at h
    cases result with
    | error f => cases h
    | ok g => exact ⟨g, Registry.generator_of_create hcreated, rfl, Except.ok.inj h⟩

/-- With a plain configuration the code of the library has no line breaks but line feeds, and one
of them at its end. -/
theorem feedsOnly_of_generate {files : FileTree} {document wanted : Json}
    {overrides : List (String × Json)} {c : Configuration} {code : String} {found : List String}
    {metadata : Metadata} (hplain : c.IsPlain)
    (hc : Configuration.load files "csharp" (.obj overrides) .null = .ok c)
    (h : (SchemaStruct.generate files document language (.obj overrides) wanted).1 =
      .ok (.success code found metadata)) :
    FeedsOnly code ∧ code.toList.getLast? = some '\n' := by
  obtain ⟨gen, g, hgen, hgraph, hrun⟩ := exists_run_of_generate hc h
  obtain ⟨s, hs, hfeeds⟩ := hplain.namespaceName
  have hpascal : NamingStyle.read (.str "pascal") ≠ .ok .kebab := by
    have hread : NamingStyle.read (.str "pascal") = .ok .pascal := NamingStyle.read_name .pascal
    rw [hread]
    exact fun heq => by cases heq
  constructor
  · refine CSharp.feedsOnly_of_run hgen hrun ?_ ?_ ?_ fun record hrecord names => ?_
    · rwa [hplain.typeCase]
    · rwa [hplain.fieldCase]
    · rw [hs]
      exact hfeeds
    · -- all records of a document extend the same type, which is none
      obtain ⟨n, call, -, -, -, flat, -, hcollected⟩ := Document.exists_collects hgraph hrecord
      have hbase : record.baseType = .null := by
        rw [hcollected.baseType]
        exact hplain.baseType_eq hgen
      rw [hbase]
      intro t ht
      rw [← Except.ok.inj (ht : Except.ok "" = .ok t)]
      exact Text.consistsOf_empty
  · obtain ⟨text, -, rfl⟩ := Generator.exists_code_of_run hrun
    exact Tidy.getLast?_code text

namespace Ending

/-- The lines of a code print the code, if line feeds are its only line breaks and one of them
stands at its end. -/
theorem printed_lines {code : String} {found : List String} {metadata : Metadata}
    (hfeeds : FeedsOnly code) (hlast : code.toList.getLast? = some '\n') :
    (output (Outcome.success code found metadata).lines).printed = code := by
  refine String.ext ?_
  rw [printed, Outcome.lines, List.map_map, String.toList_join, List.flatMap_map]
  calc (Text.lines code.toList).flatMap (fun line => (String.ofList line ++ "\n").toList)
      = (Text.lines code.toList).flatMap (· ++ ['\n']) :=
        List.flatMap_congr fun line _ => by rw [String.toList_append, String.toList_ofList]; rfl
    _ = code.toList := Text.flatMap_lines hfeeds hlast

/-- How the end of a run says what the library gives: code is printed as it is, and what a user can
cause becomes a message. -/
structure Reports (e : Ending) (r : Except Fault Outcome) : Prop where
  /-- Code is the only output, and the run has succeeded. -/
  success : ∀ code found metadata, r = .ok (.success code found metadata) →
    e.exitCode = 0 ∧ e.printed = code
  /-- A fault of the generation, of the document or of the registry is a message, nothing is
  printed, and the run has failed. -/
  failure : ∀ f, r = .ok (.failure f) ∨
      r = .error f ∧ ((∃ cause, f = .schema cause) ∨ Registry.isOwnFault f = true) →
    (∃ message, e = failed message) ∧ e.exitCode = 1 ∧ e.printed = ""

end Ending

/-- For every document that loads without the loss of a surrogate and all options but a
configuration file and the listing of languages, a run says what the library gives for the document,
the settings that the options override and the name of the record: it prints the very same code, or
fails with a message. -/
theorem run_reports {w : World} {words : List String} {a : Arguments} {source : String}
    {loaded : Loaded} (hwords : Arguments.ofWords words = .ok a) (hconfig : a.configFile = none)
    (hlist : a.listLanguages = false) (hsource : Arguments.given a.schema = some source)
    (hload : (w.load source).1 = .ok loaded) (hloss : loaded.loss = none)
    (hnamespace : ∀ s, a.namespaceName = some s → ∀ c ∈ s.toList, Text.isLineBreak c = false) :
    ∃ name, a.topLevelName (.obj loaded.members) source = .ok name ∧
      (run w words).Reports (SchemaStruct.generate w.files (.obj loaded.members) language
        (.obj a.overrides) (.str name)).1 := by
  obtain ⟨name, hname⟩ := a.exists_topLevelName hload
  obtain ⟨c, hc, hplain⟩ := Arguments.exists_load
    (fun s hs d hd => Text.isOrdinary_of_not_isLineBreak (hnamespace s hs d hd)) w.files
  have hgenerate := Arguments.generate_eq hconfig hload hloss hc hname
  have hrun : run w words = generateCode a w source := by
    rw [run, hwords]
    simp only [hlist, hsource]
    rfl
  refine ⟨name, hname, ?_⟩
  rw [hrun, generateCode, hgenerate]
  constructor
  · intro code found metadata hsuccess
    obtain ⟨hfeeds, hlast⟩ := feedsOnly_of_generate hplain hc hsuccess
    rw [hsuccess]
    exact ⟨rfl, Ending.printed_lines hfeeds hlast⟩
  · rintro f (hfailure | ⟨hfault, hcause⟩)
    · rw [hfailure]
      exact ⟨⟨_, rfl⟩, rfl, rfl⟩
    · -- both sorts of faults are ones that a user can cause
      have hexpected : isExpected f = true := by
        rcases hcause with ⟨cause, rfl⟩ | hown
        · rfl
        · cases f <;> first | rfl | exact hown
      rw [hfault]
      simp only [hexpected]
      exact ⟨⟨_, rfl⟩, rfl, rfl⟩

/-- The members of a document with line breaks in the name of a property and in its description. -/
def jetty : List (String × Json) :=
  [("title", .str "Jetty"), ("properties", .obj
    [("berth\n", .obj [("type", .str "integer"), ("description", .str "Near\u2028the lock")])])]

/-- The members of a document that describes no record. -/
def buoy : List (String × Json) := [("type", .str "string")]

/-- A world with the two documents in files. -/
def harbour : World where
  files := { entries :=
    [(["jetty.json"], .text (Json.obj jetty).toText),
      (["buoy.json"], .text (Json.obj buoy).toText)] }

/-- The theorem at the first document, for which the library gives code. -/
theorem run_reports_jetty :
    ∃ a loaded name code found metadata,
      Arguments.ofWords ["jetty.json", "--namespace", "Docks"] = .ok a ∧
      a.configFile = none ∧ a.listLanguages = false ∧
      Arguments.given a.schema = some "jetty.json" ∧
      (harbour.load "jetty.json").1 = .ok loaded ∧ loaded.loss = none ∧
      (∀ s, a.namespaceName = some s → ∀ c ∈ s.toList, Text.isLineBreak c = false) ∧
      a.topLevelName (.obj loaded.members) "jetty.json" = .ok name ∧
      (SchemaStruct.generate harbour.files (.obj loaded.members) language
        (.obj a.overrides) (.str name)).1 = .ok (.success code found metadata) ∧
      (run harbour ["jetty.json", "--namespace", "Docks"]).Reports
        (.ok (.success code found metadata)) := by
  let a : Arguments := { schema := some "jetty.json", namespaceName := some "Docks" }
  have hwords : Arguments.ofWords ["jetty.json", "--namespace", "Docks"] = .ok a := by cbv
  have htext : harbour.files.read (.ofString "jetty.json") = .ok (Json.obj jetty).toText :=
    ok_of_toOption (by decide +kernel)
  have hload : (harbour.load "jetty.json").1 =
      .ok ⟨(Path.ofString "jetty.json").toString, jetty, none⟩ :=
    World.load_of_file (ok_of_toOption (by decide +kernel)) (ok_of_toOption (by decide +kernel))
      htext (by cbv)
  have hnamespace : ∀ s, a.namespaceName = some s →
      ∀ c ∈ s.toList, Text.isLineBreak c = false := by
    rintro s ⟨⟩
    rw [← List.all_iff_forall_prop]
    decide
  obtain ⟨name, hname, hreports⟩ := run_reports hwords rfl rfl rfl hload rfl hnamespace
  obtain rfl : "Jetty" = name := Except.ok.inj hname
  obtain ⟨code, found, metadata, hresult⟩ := Outcome.exists_success (r :=
    (SchemaStruct.generate harbour.files (.obj jetty) language (.obj a.overrides) (.str "Jetty")).1)
    (by decide +kernel)
  exact ⟨a, _, _, code, found, metadata, hwords, rfl, rfl, rfl, hload, rfl, hnamespace, hname,
    hresult, hresult ▸ hreports⟩

/-- The languages are listed in the place of a message about the second document. -/
theorem not_reports_buoy :
    ∃ a loaded name, Arguments.ofWords ["buoy.json", "--list-languages"] = .ok a ∧
      a.configFile = none ∧ a.namespaceName = none ∧
      Arguments.given a.schema = some "buoy.json" ∧
      (harbour.load "buoy.json").1 = .ok loaded ∧ loaded.loss = none ∧
      a.topLevelName (.obj loaded.members) "buoy.json" = .ok name ∧
      ¬ (run harbour ["buoy.json", "--list-languages"]).Reports
        (SchemaStruct.generate harbour.files (.obj loaded.members) language
          (.obj a.overrides) (.str name)).1 := by
  let a : Arguments := { schema := some "buoy.json", listLanguages := true }
  have hwords : Arguments.ofWords ["buoy.json", "--list-languages"] = .ok a := by cbv
  have htext : harbour.files.read (.ofString "buoy.json") = .ok (Json.obj buoy).toText :=
    ok_of_toOption (by decide +kernel)
  have hload : (harbour.load "buoy.json").1 =
      .ok ⟨(Path.ofString "buoy.json").toString, buoy, none⟩ :=
    World.load_of_file (ok_of_toOption (by decide +kernel)) (ok_of_toOption (by decide +kernel))
      htext (by cbv)
  have hname : a.topLevelName (.obj buoy) "buoy.json" = .ok "Buoy" :=
    ok_of_toOption (by decide +kernel)
  refine ⟨a, _, _, hwords, rfl, rfl, rfl, hload, rfl, hname, fun hreports => ?_⟩
  have hrefused : (SchemaStruct.generate harbour.files (.obj buoy) language
      (.obj a.overrides) (.str "Buoy")).1 = .error (.schema (.describesOther .string)) := by rfl
  obtain ⟨-, hexit, -⟩ := hreports.failure _ (.inr ⟨hrefused, .inl ⟨_, rfl⟩⟩)
  -- the run lists the languages and succeeds
  obtain ⟨infos, hinfos⟩ : ∃ infos, standardRegistry.allInfo = .ok infos := by
    have hnames : standardRegistry.names = ["csharp"] := by
      simp [Registry.names, standardRegistry]
    rw [Registry.allInfo, hnames]
    exact (Option.isSome_iff_exists.mp (by decide +kernel)).imp fun _ => ok_of_toOption
  have hrun : run harbour ["buoy.json", "--list-languages"] = listLanguages := by
    rw [run, hwords]
    rfl
  rw [hrun, listLanguages, hinfos] at hexit
  cases hexit

end CommandLine

end SchemaStruct
