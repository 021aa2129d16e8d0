/-! What a run prints: styled lines, tables and sources. -/

namespace ModelForge.CommandLine

inductive Style where
  | green
  | yellow
  | red
  | cyan
  | dim
  deriving DecidableEq, Repr

def Style.name : Style → String
  | green => "green"
  | yellow => "yellow"
  | red => "red"
  | cyan => "cyan"
  | dim => "dim"

structure Span where
  style : Option Style
  text : String
  deriving DecidableEq, Repr

namespace Span

def plain (text : String) : Span := ⟨none, text⟩

def styled (style : Style) (text : String) : Span := ⟨some style, text⟩

def markup (s : Span) : String :=
  match s.style with
  | none => s.text
  | some style => "[" ++ style.name ++ "]" ++ s.text ++ "[/" ++ style.name ++ "]"

end Span

abbrev StyledText := List Span

namespace StyledText

def markup (t : StyledText) : String := String.join (t.map Span.markup)

def text (t : StyledText) : String := String.join (t.map (·.text))

end StyledText

inductive Printed where
  | line (t : StyledText)
  | table (title : String) (columns : List String) (rows : List (List StyledText))
  | source (name code : String)
  deriving DecidableEq, Repr

def Printed.text : Printed → String
  | line t => t.text
  | table title columns rows =>
    "\n".intercalate (title :: " | ".intercalate columns :: rows.map fun r => " | ".intercalate (r.map StyledText.text))
  | source name code => name ++ "\n" ++ code

end ModelForge.CommandLine
