import SchemaStruct.Config.Load
import SchemaStruct.Generator.Basic

/-!
# Registries of Generators

A registry maps languages, and aliases of languages, to what is registered for them; names count in
any case of letters. An alias leads to a language that was registered with it, and is never stolen
from another language unless the registration replaces what is there.
-/

namespace SchemaStruct

/-- What is registered by language, and the languages that aliases lead to. Names are in small
letters. -/
structure Registry (α : Type) where
  /-- What is registered, in the order of registration. -/
  languages : List (String × α) := []
  /-- The aliases and their languages. -/
  aliases : List (String × String) := []
  deriving Inhabited

namespace Registry

variable {α : Type}

/-- The pairs with a key set to a value: in its old place, or else at the end. -/
def put {β : Type} (key : String) (b : β) : List (String × β) → List (String × β)
  | [] => [(key, b)]
  | (k, c) :: rest => if k = key then (k, b) :: rest else (k, c) :: put key b rest

/-- Whether something is registered for a language of that exact name. -/
def hasLanguage (r : Registry α) (key : String) : Bool := (r.languages.lookup key).isSome

/-- Checks that an alias is free for a language. -/
def checkAlias (r : Registry α) (language name : String) : Except Fault Unit :=
  if r.hasLanguage name then .error (.aliasIsLanguage name)
  else match r.aliases.lookup name with
    | some target => if target = language then .ok () else .error (.aliasTaken name target)
    | none => .ok ()

/-- The registry with something put under a language. -/
def putLanguage (r : Registry α) (key : String) (a : α) : Registry α :=
  { r with languages := put key a r.languages }

/-- The registry with an alias that leads to a language. -/
def putAlias (r : Registry α) (key name : String) : Registry α :=
  { r with aliases := put name key r.aliases }

/-- The aliases that a language is registered with; the language itself is none. -/
def aliasKeys (key : String) (names : List String) : List String :=
  (names.map Text.lowerCase).filter (· != key)

/-- Checks that aliases are free for a language of the registry at hand. -/
def checkAliases (key : String) (names : List String) : ExceptT Fault (StateM (Registry α)) Unit :=
  names.forM fun name => do ofExcept ((← get).checkAlias key name)

/-- Writes a language and its aliases into the registry at hand. -/
def write (key : String) (a : α) (names : List String) :
    ExceptT Fault (StateM (Registry α)) Unit := do
  modify (·.putLanguage key a)
  names.forM fun name => modify (·.putAlias key name)

/-- Registers something for a language and some aliases in the registry at hand. What is registered
already stays, unless it is to be replaced; nothing at all is no generator. Whatever was written
when a fault turns up stays written. -/
def enter (language : String) (candidate : Option α) (names : List String) (replace : Bool) :
    ExceptT Fault (StateM (Registry α)) Unit := do
  let some a := candidate | throw .notAGenerator
  let key := Text.lowerCase language
  -- a second registration does nothing, not even for new aliases
  if (← get).hasLanguage key && !replace then return
  unless replace do checkAliases key (aliasKeys key names)
  write key a (aliasKeys key names)

/-- The registry with something registered for a language and some aliases. -/
def register (r : Registry α) (language : String) (candidate : Option α)
    (names : List String := []) (replace : Bool := false) : Except Fault (Registry α) :=
  match (enter language candidate names replace).run.run r with
  | (.ok (), after) => .ok after
  | (.error f, _) => .error f

/-- The registry without a language and its aliases. -/
def unregister (r : Registry α) (language : String) : Registry α :=
  let key := Text.lowerCase language
  { languages := r.languages.filter (·.1 != key)
    aliases := r.aliases.filter (·.2 != key) }

/-- The names of all languages, in alphabetical order. -/
def names (r : Registry α) : List String := (r.languages.map (·.1)).mergeSort (· ≤ ·)

/-- The language that a name leads to. -/
def resolve (r : Registry α) (name : String) : Except Fault String :=
  let key := Text.lowerCase name
  if r.hasLanguage key then .ok key
  else match r.aliases.lookup key with
    | some target => .ok target
    | none => .error (.unknownLanguage name r.names)

/-- What is registered for a name. -/
def find (r : Registry α) (name : String) : Except Fault α := do
  let key ← r.resolve name
  match r.languages.lookup key with
  | some a => return a
  | none => throw (.misfit (.missingKey key))

/-- Whether a name leads to a language. -/
def isSupported (r : Registry α) (name : String) : Bool :=
  let key := Text.lowerCase name
  r.hasLanguage key || (r.aliases.lookup key).isSome

/-- The aliases of a language, in alphabetical order. -/
def aliasesOf (r : Registry α) (language : String) : List String :=
  let key := Text.lowerCase language
  ((r.aliases.filter (·.2 == key)).map (·.1)).mergeSort (· ≤ ·)

/-- Each language with all of its names, itself first, in the order of registration. -/
def allNames (r : Registry α) : List (String × List String) :=
  r.languages.map fun (key, _) => (key, key :: r.aliasesOf key)

end Registry

/-- A kind of generators: what it is called, and how one is created. -/
structure GeneratorKind where
  /-- The name of the kind. -/
  name : String
  /-- Creates a generator with a configuration. -/
  create : Configuration → Except Fault Generator

/-- Where the configuration of a generator comes from. -/
inductive ConfigSource
  /-- A configuration as it is. -/
  | given (c : Configuration)
  /-- A value: settings over the defaults, the path of a file, or nothing. -/
  | value (v : Json)
  deriving Inhabited

namespace ConfigSource

/-- The configuration for a language. -/
def read (files : FileTree) (language : String) : ConfigSource → Except Fault Configuration
  | given c => .ok c
  | value (.str s) => Configuration.load files language .null (.str s)
  | value (.obj members) => Configuration.load files language (.obj members) .null
  | value .null => Configuration.load files language .null .null
  | value v => .error (.invalidConfig v.kindName)

end ConfigSource

/-- What is known about a registered language. -/
structure LanguageInfo where
  /-- The language, as its generator calls it. -/
  name : String
  /-- The kind of its generator. -/
  kind : String
  /-- The suffix of files in that language. -/
  fileExtension : String
  /-- The aliases of the language. -/
  aliases : List String
  deriving DecidableEq, Repr, Inhabited

namespace Registry

/-- Whether a fault is one of the registry itself. -/
def isOwnFault : Fault → Bool
  | .notAGenerator | .aliasIsLanguage _ | .aliasTaken _ _ | .unknownLanguage _ _
  | .invalidConfig _ | .creation _ _ => true
  | _ => false

/-- Creates a generator for a name, and tells the kind of it. -/
def create (r : Registry GeneratorKind) (files : FileTree) (name : String)
    (source : ConfigSource := .value .null) : Except Fault (GeneratorKind × Generator) := do
  let key ← r.resolve name
  let kind ← r.find name
  match (do kind.create (← source.read files key) : Except Fault Generator) with
  | .ok gen => return (kind, gen)
  | .error f => throw (if isOwnFault f then f else .creation name f)

/-- What is known about the language that a name leads to. -/
def info (r : Registry GeneratorKind) (name : String) : Except Fault LanguageInfo := do
  let key ← r.resolve name
  let (kind, gen) ← r.create {} key
  return {
    name := gen.language
    kind := kind.name
    fileExtension := gen.fileExtension
    aliases := r.aliasesOf key }

/-- What is known about all languages, in alphabetical order. -/
def allInfo (r : Registry GeneratorKind) : Except Fault (List (String × LanguageInfo)) :=
  r.names.mapM fun name => do return (name, ← r.info name)

end Registry

end SchemaStruct
