import ModelForge.FileTree.Search
import ModelForge.FileTree.TextFile
import ModelForge.Value.Display
import ModelForge.Value.Mismatch

/-! Finding model documents: files that are named, and files with a given ending below folders that are named. -/

namespace ModelForge

inductive DiscoveryError where
  | notFound (p : Path)
  | badPattern
  | fault (f : FileFault)
  | mismatch (m : Mismatch)

namespace DiscoveryError

def message : DiscoveryError → String
  | notFound p => "Path not found: " ++ p.display
  | badPattern => "Invalid pattern: '**' can only be an entire path component"
  | fault f => f.message
  | mismatch m => m.message

end DiscoveryError

structure SourceUnit where
  identifier : String
  text : Option String
  deriving DecidableEq, Repr

def documentSuffix : String := ".model.xml"

/-- The ending of a named file is only worth a note in the log, but it has to be a text for that. -/
def checkEnding (suffix : Value) : Except DiscoveryError Unit :=
  match suffix with
  | .text _ => .ok ()
  | v => .error (.mismatch (.notSuffix v.kind))

namespace FileTree

/-- The ending is read as a part of a pattern. -/
def documentsBelow (t : FileTree) (suffix : Value) (p : Path) : Except DiscoveryError (List Path) :=
  match Segment.ofPattern? ('*' :: suffix.display.toList) with
  | none => .error .badPattern
  | some segments => (t.search segments p).mapError .fault

def documentsAt (t : FileTree) (suffix : Value) (p : Path) : Except DiscoveryError (List Path) := do
  match ← (t.look p).mapError .fault with
  | none => throw (.notFound p)
  | some .folder => t.documentsBelow suffix p
  | some (.file _) => do
    checkEnding suffix
    return [p]

/-- Every document once, in the order of paths. -/
def discover (t : FileTree) (suffix : Value) (inputs : List String) : Except DiscoveryError (List Path) := do
  let found ← inputs.mapM fun input => t.documentsAt suffix (.ofText input)
  return found.flatten.eraseDups.mergeSort Path.before

def unit (t : FileTree) (p : Path) : SourceUnit := ⟨p.display, (t.readText p).toOption⟩

def units (t : FileTree) (suffix : Value) (inputs : List String) : Except DiscoveryError (List SourceUnit) :=
  (t.discover suffix inputs).map (·.map t.unit)

theorem discover_nil (t : FileTree) (suffix : Value) : t.discover suffix [] = .ok [] := by
  simp [discover, pure, Except.pure, bind, Except.bind]

end FileTree

end ModelForge
