import ModelForge.CSharp.Generator
import ModelForge.Settings.Load

/-! The registry of generator classes: one for each language, and aliases for languages. Names count in lower case. -/

namespace ModelForge

inductive RegistryError where
  | notGenerator
  | aliasIsLanguage (name : String)
  | aliasTaken (name target : String)
  | unknown (language : String) (available : List String)
  | dangling (key : String)
  | badConfig (kind : String)
  | notCreated (language reason : String)
  deriving DecidableEq, Repr

def RegistryError.message : RegistryError → String
  | notGenerator => "Generator class must inherit from CodeGenerator"
  | aliasIsLanguage name => "Alias '" ++ name ++ "' conflicts with existing primary language"
  | aliasTaken name target => "Alias '" ++ name ++ "' already points to '" ++ target ++ "'"
  | unknown language available =>
    "No generator registered for language: " ++ language ++ ". Available: " ++ ", ".intercalate available
  | dangling key => Text.quoted key
  | badConfig kind => "Invalid config type: <class '" ++ kind ++ "'>"
  | notCreated language reason => "Failed to create " ++ language ++ " generator: " ++ reason

structure Registry where
  generators : List (String × GeneratorClass)
  aliases : List (String × String)

namespace Registry

open Text (lower)

def empty : Registry := ⟨[], []⟩

def class? (r : Registry) (key : String) : Option GeneratorClass := Entries.find? key r.generators

/-- The language that a name stands for: itself before any alias. -/
def resolve (r : Registry) (name : String) : Option String :=
  if (r.class? (lower name)).isSome then some (lower name) else Entries.find? (lower name) r.aliases

def isSupported (r : Registry) (name : String) : Bool := (r.resolve name).isSome

def conflict? (r : Registry) (language name : String) : Option RegistryError :=
  if (r.class? (lower name)).isSome then some (.aliasIsLanguage name)
  else
    match Entries.find? (lower name) r.aliases with
    | some target => if target = language then none else some (.aliasTaken name target)
    | none => none

/-- Sets aliases up to the first that is refused. The language itself is no alias. -/
def addAliases (r : Registry) (language : String) (replace : Bool) : List String → Registry × Option RegistryError
  | [] => (r, none)
  | name :: rest =>
    if lower name = language then r.addAliases language replace rest
    else
      match if replace then none else r.conflict? language name with
      | some e => (r, some e)
      | none => { r with aliases := Entries.put (lower name) language r.aliases }.addAliases language replace rest

/-- Registers a class for a language. A language that is there stays as it is unless it is to be replaced. -/
def register (r : Registry) (language : String) (c : Option GeneratorClass) (aliases : List String) (replace : Bool) :
    Registry × Option RegistryError :=
  match c with
  | none => (r, some .notGenerator)
  | some c =>
    let key := lower language
    if (r.class? key).isSome && !replace then (r, none)
    else { r with generators := Entries.put key c r.generators }.addAliases key replace aliases

def ascending (names : List String) : List String := names.mergeSort fun a b => decide (a ≤ b)

def languages (r : Registry) : List String := ascending (Entries.keys r.generators)

def aliasesOf (r : Registry) (language : String) : List String :=
  ascending (Entries.keys (r.aliases.filter (·.2 = lower language)))

def unknown (r : Registry) (name : String) : RegistryError := .unknown name r.languages

/-- The language of a name with its class. A name never stands for a language without one. -/
def lookup (r : Registry) (name : String) : Except RegistryError (String × GeneratorClass) :=
  match r.resolve name with
  | none => .error (r.unknown name)
  | some key =>
    match r.class? key with
    | some c => .ok (key, c)
    | none => .error (.dangling key)

def builtin : Registry := (empty.register "csharp" (some CSharp.generatorClass) ["cs", "c#"] false).1

theorem resolve_eq_lower {r : Registry} {name : String} (h : (r.class? (lower name)).isSome = true) :
    r.resolve name = some (lower name) := by
  simp [resolve, h]

theorem register_none (r : Registry) (language : String) (aliases : List String) (replace : Bool) :
    r.register language none aliases replace = (r, some .notGenerator) := rfl

end Registry

end ModelForge
