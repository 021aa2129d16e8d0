import ModelForge.FileTree.Basic
import ModelForge.Text.LineEnds
import ModelForge.Text.Utf8

/-! Files as texts. -/

namespace ModelForge

inductive TextFault where
  | file (f : FileFault)
  | encoding (f : Text.Utf8.Fault)

namespace FileTree

/-- The text of a file, with every line end as a line feed. -/
def readText (t : FileTree) (p : Path) : Except TextFault String :=
  match t.read p with
  | .error f => .error (.file f)
  | .ok content =>
    match Text.Utf8.decode content with
    | .error f => .error (.encoding f)
    | .ok s => .ok (String.ofList (Text.unifyLineEnds s.toList))

theorem readText_of_read {t : FileTree} {p : Path} {s : String} (h : t.read p = .ok s.toUTF8) :
    t.readText p = .ok (String.ofList (Text.unifyLineEnds s.toList)) := by
  simp only [readText, h, Text.Utf8.decode_toUTF8]

end FileTree

end ModelForge
