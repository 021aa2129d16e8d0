import ModelForge.Model.Schema
import ModelForge.Settings.Basic

/-! Generators: what turns a model into source files, and how that can fail. -/

namespace ModelForge

structure Artifact where
  name : String
  source : String
  deriving DecidableEq, Repr

/-- The first two are refusals by the generator itself, the third is a layout that cannot be filled in, the others are
failures that nobody foresaw. -/
inductive GenerationError where
  | layoutsMissing (directory : String)
  | refused (message : String)
  | layout (message : String)
  | mismatch (m : Mismatch)
  | crashed (message : String)

namespace GenerationError

def message : GenerationError → String
  | layoutsMissing directory => "C# templates not found in " ++ directory
  | refused m => m
  | layout m => m
  | mismatch m => m.message
  | crashed m => m

def isForeseen : GenerationError → Bool
  | mismatch _ => false
  | crashed _ => false
  | _ => true

end GenerationError

structure Generator where
  language : String
  settings : Settings
  warnings : Schema → Except Mismatch (List String)
  generate : Schema → Except GenerationError (List Artifact)

structure GeneratorClass where
  name : String
  create : Settings → Except Mismatch Generator

def Generator.extension (g : Generator) : Value := g.settings.get .fileExtension

end ModelForge
