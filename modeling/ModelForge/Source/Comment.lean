import ModelForge.Text.Blank
import ModelForge.Text.Lines

/-! A text as a comment: a mark before each line that is not blank. -/

namespace ModelForge.Source

def commentLine (mark line : List Char) : List Char :=
  if line.all Text.isBlank then line else mark ++ ' ' :: line

def comment (mark s : List Char) : List Char := Text.joinWith ['\n'] ((Text.lines s).map (commentLine mark))

end ModelForge.Source
