import ModelForge.Registry

/-! Making generators: the class comes from the registry, the settings from a table of overrides or from a file. -/

namespace ModelForge

inductive CreationError where
  | registry (e : RegistryError)
  | load (e : LoadError)
  | mismatch (m : Mismatch)

def CreationError.message : CreationError → String
  | registry e => e.message
  | load e => e.message
  | mismatch m => m.message

def LoadError.isForeseen : LoadError → Bool
  | config _ => true
  | mismatch m => m.cause = .kind
  | _ => false

namespace Registry

/-- A text names a file, an object holds overrides, and null stands for neither. -/
def settingsOf (t : FileTree) (language : String) : Value → Except CreationError Settings
  | .null => (Settings.load t language [] none).mapError .load
  | .object overrides => (Settings.load t language overrides none).mapError .load
  | .text file => (Settings.load t language [] (some file)).mapError .load
  | v => .error (.registry (.badConfig v.kind))

def foresee (language : String) : CreationError → CreationError
  | .load e => if e.isForeseen then .registry (.notCreated language e.message) else .load e
  | e => e

def createWith (r : Registry) (name : String) (settings : Settings) : Except CreationError (GeneratorClass × Generator) := do
  let (_, c) ← (r.lookup name).mapError .registry
  let g ← (c.create settings).mapError .mismatch
  return (c, g)

def create (r : Registry) (t : FileTree) (name : String) (config : Value) :
    Except CreationError (GeneratorClass × Generator) := do
  let (key, c) ← (r.lookup name).mapError .registry
  let settings ← (settingsOf t key config).mapError (foresee name)
  let g ← (c.create settings).mapError .mismatch
  return (c, g)

structure Info where
  name : String
  className : String
  extension : Value
  aliases : List String

def info (r : Registry) (t : FileTree) (name : String) : Except CreationError Info := do
  let (key, c) ← (r.lookup name).mapError .registry
  let settings ← (Settings.load t key [] none).mapError .load
  let g ← (c.create settings).mapError .mismatch
  return ⟨g.language, c.name, g.extension, r.aliasesOf key⟩

end Registry

end ModelForge
