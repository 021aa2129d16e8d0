import ModelForge.Json.Reader

/-! Which texts are JSON documents, and of which values, said without reading them. A text of a value has no blanks at its
ends; each rule says where blanks may stand beside the texts of the parts. Lists and objects may stand in one another up to
a number of levels. -/

namespace ModelForge.Json

def Spaces (s : List Char) : Prop := ∀ c ∈ s, isSpace c = true

/-! Numbers. -/

def AllDigits (s : List Char) : Prop := ∀ c ∈ s, isDigit c = true

/-- A zero alone, or digits of which the first is another one. -/
inductive IsWhole : List Char → Prop where
  | zero : IsWhole ['0']
  | digits {c : Char} {s : List Char} (hc : isDigit c = true) (h0 : c ≠ '0') (hs : AllDigits s) : IsWhole (c :: s)

def signText (negative : Bool) : List Char := if negative then ['-'] else []

def signed (negative : Bool) (n : Nat) : Int := if negative then -n else n

def fractionText (fraction : List Char) : List Char := if fraction.isEmpty then [] else '.' :: fraction

inductive IsExponent : Int → List Char → Prop where
  | none : IsExponent 0 []
  | some {mark : Char} {sign digits : List Char} (hm : mark = 'e' ∨ mark = 'E')
      (hs : sign = [] ∨ sign = ['+'] ∨ sign = ['-']) (hn : digits ≠ []) (hd : AllDigits digits) :
      IsExponent (signed (decide (sign = ['-'])) (digitsValue digits)) (mark :: (sign ++ digits))

/-- `m · 10 ^ a` is `n · 10 ^ b`, and `n` does not end in a zero unless it is one. -/
inductive IsReduced : Nat → Int → Nat → Int → Prop where
  | zero (a : Int) : IsReduced 0 a 0 0
  | shift {n : Nat} (h : n % 10 ≠ 0) (a : Int) (k : Nat) : IsReduced (n * Nat.pow 10 k) a n (a + k)

/-- A number with neither fraction nor exponent is a whole one, and may not be too long. -/
inductive IsNumber : Value → List Char → Prop where
  | int (negative : Bool) {whole : List Char} (hw : IsWhole whole) (hl : whole.length ≤ maxDigits) :
      IsNumber (.int (signed negative (digitsValue whole))) (signText negative ++ whole)
  | decimal (negative : Bool) {whole fraction exponent : List Char} {a b : Int} {n : Nat} (hw : IsWhole whole)
      (hf : AllDigits fraction) (he : IsExponent a exponent) (hp : fraction ≠ [] ∨ exponent ≠ [])
      (hn : IsReduced (digitsValue (whole ++ fraction)) (a - fraction.length) n b) :
      IsNumber (.decimal negative (.rounded n b)) (signText negative ++ whole ++ fractionText fraction ++ exponent)

/-! Texts. -/

def IsUnit (n : Nat) (s : List Char) : Prop := s.length = 4 ∧ Text.hexNumber? s = some n

def IsHigh (n : Nat) : Prop := 0xD800 ≤ n ∧ n < 0xDC00

def IsLow (n : Nat) : Prop := 0xDC00 ≤ n ∧ n < 0xE000

def StartsLow (s : List Char) : Prop :=
  ∃ n digits rest, s = '\\' :: 'u' :: (digits ++ rest) ∧ IsUnit n digits ∧ IsLow n

/-- The character of an escape, given without its backslash, before the rest of a text. Half of a pair is no pair yet; it
stands for no character, and `halves` says whether it may stand alone. -/
inductive IsEscape (halves : Bool) : Char → List Char → List Char → Prop where
  | plain {e c : Char} (h : plainEscape? e = some c) (rest : List Char) : IsEscape halves c [e] rest
  | unit {n : Nat} {digits rest : List Char} (hn : IsUnit n digits) (hp : ¬(IsHigh n ∧ StartsLow rest))
      (hh : n.isValidChar ∨ halves = true) : IsEscape halves (scalar n) ('u' :: digits) rest
  | pair {high low : Nat} {first second : List Char} (hh : IsUnit high first) (hl : IsUnit low second)
      (hhigh : IsHigh high) (hlow : IsLow low) (rest : List Char) :
      IsEscape halves (Char.ofNat (0x10000 + (high - 0xD800) * 0x400 + (low - 0xDC00)))
        ('u' :: (first ++ '\\' :: 'u' :: second)) rest

inductive IsInner (halves : Bool) : List Char → List Char → Prop where
  | nil : IsInner halves [] []
  | plain {c : Char} {cs s : List Char} (hq : c ≠ '"') (hb : c ≠ '\\') (hc : ¬c.toNat < 0x20) (h : IsInner halves cs s) :
      IsInner halves (c :: cs) (c :: s)
  | escape {c : Char} {e cs s : List Char} (he : IsEscape halves c e s) (h : IsInner halves cs s) :
      IsInner halves (c :: cs) ('\\' :: (e ++ s))

/-! Values. -/

inductive Part where
  | value (v : Value)
  | items (vs : List Value)
  | entry (k : String) (v : Value)
  | entries (es : List (String × Value))

/-- The texts of a value and of its parts, within a number of levels. Of several entries with one key the last counts, in the
place of the first. -/
inductive Denotes (halves : Bool) : Nat → Part → List Char → Prop where
  | word {n : Nat} {w : List Char × Value} (h : w ∈ words) : Denotes halves n (.value w.2) w.1
  | number {n : Nat} {v : Value} {s : List Char} (h : IsNumber v s) : Denotes halves n (.value v) s
  | text {n : Nat} {cs s : List Char} (h : IsInner halves cs s) :
      Denotes halves n (.value (.text (String.ofList cs))) ('"' :: (s ++ ['"']))
  | emptyList {n : Nat} {b : List Char} (hb : Spaces b) : Denotes halves (n + 1) (.value (.list [])) ('[' :: (b ++ [']']))
  | list {n : Nat} {vs : List Value} {b s : List Char} (hb : Spaces b) (h : Denotes halves n (.items vs) s) :
      Denotes halves (n + 1) (.value (.list vs)) ('[' :: (b ++ (s ++ [']'])))
  | emptyObject {n : Nat} {b : List Char} (hb : Spaces b) :
      Denotes halves (n + 1) (.value (.object [])) ('\x7b' :: (b ++ ['\x7d']))
  | object {n : Nat} {es : List (String × Value)} {b s : List Char} (hb : Spaces b) (h : Denotes halves n (.entries es) s) :
      Denotes halves (n + 1) (.value (.object (Entries.putAll [] es))) ('\x7b' :: (b ++ (s ++ ['\x7d'])))
  | lastItem {n : Nat} {v : Value} {s a : List Char} (h : Denotes halves n (.value v) s) (ha : Spaces a) :
      Denotes halves n (.items [v]) (s ++ a)
  | moreItems {n : Nat} {v : Value} {vs : List Value} {s a b r : List Char} (h : Denotes halves n (.value v) s)
      (ha : Spaces a) (hb : Spaces b) (hr : Denotes halves n (.items vs) r) :
      Denotes halves n (.items (v :: vs)) (s ++ (a ++ ',' :: (b ++ r)))
  | entry {n : Nat} {cs k a b s c : List Char} {v : Value} (hk : IsInner halves cs k) (ha : Spaces a) (hb : Spaces b)
      (h : Denotes halves n (.value v) s) (hc : Spaces c) :
      Denotes halves n (.entry (String.ofList cs) v) ('"' :: (k ++ '"' :: (a ++ ':' :: (b ++ (s ++ c)))))
  | lastEntry {n : Nat} {k : String} {v : Value} {s : List Char} (h : Denotes halves n (.entry k v) s) :
      Denotes halves n (.entries [(k, v)]) s
  | moreEntries {n : Nat} {k : String} {v : Value} {es : List (String × Value)} {s b r : List Char}
      (h : Denotes halves n (.entry k v) s) (hb : Spaces b) (hr : Denotes halves n (.entries es) r) :
      Denotes halves n (.entries ((k, v) :: es)) (s ++ ',' :: (b ++ r))

def IsDocument (halves : Bool) (levels : Nat) (document : List Char) (v : Value) : Prop :=
  ∃ before s after, document = before ++ (s ++ after) ∧ Spaces before ∧ Spaces after ∧ Denotes halves levels (.value v) s

end ModelForge.Json
