import ModelForge.Entries
import ModelForge.FileTree.Fault

/-! A tree of folders and files. Every node has one address: the names on the way to it from the root. -/

namespace ModelForge

inductive Node where
  | folder
  | file (content : ByteArray)

instance : DecidableEq Node
  | .folder, .folder => isTrue rfl
  | .folder, .file _ => isFalse nofun
  | .file _, .folder => isFalse nofun
  | .file a, .file b =>
    if h : a.data = b.data then isTrue (congrArg Node.file (ByteArray.ext h)) else isFalse fun e => h (by cases e; rfl)

abbrev Address := List String

/-- Paths that start with no slash are followed from `home`. -/
structure FileTree where
  home : Address
  entries : List (Address × Node)

namespace FileTree

/-- The root is always a folder. -/
def node? (t : FileTree) (a : Address) : Option Node := if a = [] then some .folder else Entries.find? a t.entries

def set (t : FileTree) (a : Address) (n : Node) : FileTree := { t with entries := Entries.put a n t.entries }

theorem node?_set {a : Address} (ha : a ≠ []) (t : FileTree) (n : Node) (b : Address) :
    (t.set a n).node? b = if a = b then some n else t.node? b := by
  unfold node? set
  by_cases hb : b = []
  · subst hb
    simp [ha]
  · simp [hb, Entries.find?_put]

def start (t : FileTree) (p : Path) : Address := if p.slashes = 0 then t.home else []

/-- Longest name, and the length from which on a path is too long, in bytes. -/
def longestName : Nat := 255

def pathLimit : Nat := 4096

def step (t : FileTree) (a : Address) (part : String) : Except Trouble Address :=
  match t.node? a with
  | none => .error .missing
  | some (.file _) => .error .notFolder
  | some .folder =>
    if part = ".." then .ok a.dropLast
    else if longestName < part.utf8ByteSize then .error .nameTooLong
    else .ok (a ++ [part])

/-- The address that a path leads to. All that it passes has to be there, only the last part may be new. -/
def locate (t : FileTree) (p : Path) : Except Trouble Address :=
  if p.parts.any (·.toList.contains '\x00') then .error .nullByte
  else if pathLimit ≤ p.display.utf8ByteSize then .error .nameTooLong
  else p.parts.foldlM t.step (t.start p)

def find (t : FileTree) (p : Path) : Except Trouble Node := do
  let a ← t.locate p
  match t.node? a with
  | some n => return n
  | none => throw .missing

def look (t : FileTree) (p : Path) : Except FileFault (Option Node) :=
  match t.find p with
  | .ok n => .ok (some n)
  | .error .nameTooLong => .error ⟨.nameTooLong, p⟩
  | .error _ => .ok none

/-- The address that a path means by its parts alone, whatever stands there. -/
def resolve (t : FileTree) (p : Path) : Address :=
  p.parts.foldl (fun a part => if part = ".." then a.dropLast else a ++ [part]) (t.start p)

def read (t : FileTree) (p : Path) : Except FileFault ByteArray :=
  match t.find p with
  | .ok (.file content) => .ok content
  | .ok .folder => .error ⟨.isFolder, p⟩
  | .error trouble => .error ⟨trouble, p⟩

def write (t : FileTree) (p : Path) (content : ByteArray) : Except FileFault FileTree :=
  match t.locate p with
  | .error trouble => .error ⟨trouble, p⟩
  | .ok a => if t.node? a = some .folder then .error ⟨.isFolder, p⟩ else .ok (t.set a (.file content))

def names (t : FileTree) (a : Address) : List String :=
  t.entries.filterMap fun (b, _) => if b.dropLast = a then b.getLast? else none

theorem step_eq_ok {t : FileTree} {a b : Address} {part : String} (h : t.step a part = .ok b) :
    b = if part = ".." then a.dropLast else a ++ [part] := by
  unfold step at h
  split at h
  · simp at h
  · simp at h
  · split at h
    · next hp => rw [if_pos hp]; exact (Except.ok.inj h).symm
    · next hp =>
      rw [if_neg hp]
      split at h
      · simp at h
      · exact (Except.ok.inj h).symm

theorem foldlM_step_eq_ok {t : FileTree} {parts : List String} {a b : Address}
    (h : parts.foldlM t.step a = .ok b) :
    b = parts.foldl (fun a part => if part = ".." then a.dropLast else a ++ [part]) a := by
  induction parts generalizing a with
  | nil => exact (Except.ok.inj h).symm
  | cons part rest ih =>
    rw [List.foldlM_cons] at h
    cases hs : t.step a part with
    | error e => rw [hs] at h; simp [bind, Except.bind] at h
    | ok c =>
      rw [hs] at h
      rw [List.foldl_cons, ← step_eq_ok hs]
      exact ih h

theorem locate_eq_resolve {t : FileTree} {p : Path} {a : Address} (h : t.locate p = .ok a) : a = t.resolve p := by
  unfold locate at h
  split at h
  · simp at h
  · split at h
    · simp at h
    · exact foldlM_step_eq_ok h

end FileTree

end ModelForge
