import ModelForge.Text.Blank
import ModelForge.Text.Lines

/-! The final form of a source text: no blanks at the ends of lines, at most one empty line in a row, none at the ends,
and a line end after the last line. -/

namespace ModelForge.Source

/-- Keeps one of several empty lines in a row. -/
def collapse : List (List Char) → List (List Char)
  | [] => []
  | [line] => [line]
  | a :: b :: rest => if a.isEmpty && b.isEmpty then collapse (b :: rest) else a :: collapse (b :: rest)

def tidyLines (s : List Char) : List (List Char) :=
  Text.stripBy List.isEmpty (collapse ((Text.lines s).map Text.trimEnd))

def tidy (lineEnd s : List Char) : List Char := Text.joinWith lineEnd (tidyLines s) ++ lineEnd

end ModelForge.Source
