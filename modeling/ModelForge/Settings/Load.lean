import ModelForge.FileTree.TextFile
import ModelForge.Json.Reader
import ModelForge.Settings.Merge

/-! Settings files: JSON documents that hold one object. -/

namespace ModelForge

inductive ConfigError where
  | notFound (p : Path)
  | notJson (p : Path)
  | invalid (p : Path) (reason : String)
  | unreadable (p : Path) (f : FileFault)
  | noObject (p : Path)
  deriving DecidableEq, Repr

def ConfigError.message : ConfigError → String
  | notFound p => "Configuration file not found: " ++ p.display
  | notJson p => "Configuration file must be JSON: " ++ p.display
  | invalid p reason => "Invalid JSON in configuration file " ++ p.display ++ ": " ++ reason
  | unreadable p f => "Failed to load configuration file " ++ p.display ++ ": " ++ f.message
  | noObject p => "Configuration file must contain a JSON object: " ++ p.display

/-- Only the first kind is foreseen. -/
inductive LoadError where
  | config (e : ConfigError)
  | encoding (f : Text.Utf8.Fault)
  | longNumber (f : Json.Fault)
  | tooDeep (f : Json.Fault)
  | fault (f : FileFault)
  | mismatch (m : Mismatch)

def LoadError.message : LoadError → String
  | config e => e.message
  | encoding f => f.message
  | longNumber f => f.message []
  | tooDeep f => f.message []
  | fault f => f.message
  | mismatch m => m.message

namespace Settings

def ofDocument (p : Path) (document : String) (levels : Nat := Json.maxLevels) : Except LoadError (List (String × Value)) :=
  match Json.read document.toList levels with
  | .ok (.object entries) => .ok entries
  | .ok _ => .error (.config (.noObject p))
  | .error (.at flaw rest) => .error (.config (.invalid p (Json.Fault.message document.toList (.at flaw rest))))
  | .error (.longNumber digits) => .error (.longNumber (.longNumber digits))
  | .error (.tooDeep bracket) => .error (.tooDeep (.tooDeep bracket))

def isJsonFile (p : Path) : Bool := Text.lower p.suffix = ".json"

def readFile (t : FileTree) (p : Path) (levels : Nat := Json.maxLevels) :
    Except LoadError (List (String × Value)) := do
  if (← (t.look p).mapError .fault).isNone then throw (.config (.notFound p))
  if !isJsonFile p then throw (.config (.notJson p))
  match t.readText p with
  | .error (.file f) => throw (.config (.unreadable p f))
  | .error (.encoding f) => throw (.encoding f)
  | .ok document => ofDocument p document levels

/-- An empty name of a file stands for no file. In a file there may be as many lists and objects in one another as the stack
has levels left. -/
def load (t : FileTree) (language : String) (overrides : List (String × Value)) (file : Option String)
    (levels : Nat := Json.maxLevels) : Except LoadError Settings := do
  let entries ← match file.filter (· ≠ "") with
    | none => pure []
    | some name => readFile t (.ofText name) levels
  (merge language entries overrides).mapError .mismatch

end Settings

end ModelForge
