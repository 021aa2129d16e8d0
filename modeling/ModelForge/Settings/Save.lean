import ModelForge.FileTree.Basic
import ModelForge.Json.Writer
import ModelForge.Settings.Basic
import ModelForge.Value.Table

/-! Saving settings as a JSON document: every setting under its key, and the custom table merged in. -/

namespace ModelForge

namespace Value

mutual

/-- How many calls are on the stack at once while a value is copied: two for a list or an object and those for its parts,
three for anything else. -/
def calls : Value → Nat
  | list items => callsOfItems items + 2
  | object entries => callsOfEntries entries + 2
  | _ => 3

def callsOfItems : List Value → Nat
  | [] => 0
  | v :: rest => max v.calls (callsOfItems rest)

def callsOfEntries : List (String × Value) → Nat
  | [] => 0
  | (_, v) :: rest => max (max 3 v.calls) (callsOfEntries rest)

end

end Value

inductive SaveError where
  | config (p : Path) (f : FileFault)
  | fault (f : FileFault)
  | mismatch (m : Mismatch)

def SaveError.message : SaveError → String
  | config p f => "Failed to save configuration to " ++ p.display ++ ": " ++ f.message
  | fault f => f.message
  | mismatch m => m.message

namespace Settings

def ownEntries (s : Settings) : List (String × Value) :=
  (Setting.all.filter (· ≠ .custom)).map fun n => (n.key, s.get n)

/-- A key of the custom table wins over a setting of that name. -/
def document (s : Settings) : Except Mismatch (List (String × Value)) :=
  (s.get .custom).table.map (Entries.putAll s.ownEntries)

def documentText (s : Settings) : Except Mismatch String :=
  s.document.map fun entries => String.ofList (Json.write 0 (.object entries))

/-- How many calls the stack has room for where nothing else takes of it. -/
def maxCalls : Nat := 990

/-- The values are copied first, which takes more of the stack than writing them does. -/
def save (s : Settings) (t : FileTree) (p : Path) (room : Nat := maxCalls) : Except SaveError FileTree := do
  if Setting.all.any fun n => decide (room < (s.get n).calls) then throw (.mismatch .tooDeep)
  let text ← s.documentText.mapError .mismatch
  (t.write p text.toUTF8).mapError fun f => if f.isReported then .config p f else .fault f

end Settings

end ModelForge
