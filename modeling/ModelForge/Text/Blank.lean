/-! Blanks, and texts without the blanks at their ends. -/

namespace ModelForge.Text

def isBlank (c : Char) : Bool :=
  let n := c.toNat
  (9 ≤ n && n ≤ 13) || (28 ≤ n && n ≤ 32) || n == 0x85 || n == 0xA0 || n == 0x1680 ||
    (0x2000 ≤ n && n ≤ 0x200A) || n == 0x2028 || n == 0x2029 || n == 0x202F || n == 0x205F || n == 0x3000

/-- The part from the first item that fails `p` up to the last such item. -/
def stripBy {α : Type} (p : α → Bool) (s : List α) : List α :=
  ((s.dropWhile p).reverse.dropWhile p).reverse

def trimEnd (s : List Char) : List Char := (s.reverse.dropWhile isBlank).reverse

def trim (s : List Char) : List Char := stripBy isBlank s

def blank (s : String) : Bool := s.toList.all isBlank

def strip (s : String) : String := String.ofList (trim s.toList)

theorem trimEnd_nil : trimEnd [] = [] := rfl

end ModelForge.Text
