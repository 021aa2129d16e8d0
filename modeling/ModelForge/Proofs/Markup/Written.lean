import ModelForge.Markup.Name

/-! Markup as it is written: the parts of a value, elements with their attributes, and documents of such elements. -/

namespace ModelForge.Markup

def isUnprefixed : List Char → Bool
  | [] => false
  | c :: rest => isNameStart c && rest.all isNameChar

/-- A character of a value, written as it is or by a reference. -/
inductive ValuePart where
  | plain (c : Char)
  | decimal (digits : List Char)
  | hexadecimal (digits : List Char)
  | named (name : List Char)

namespace ValuePart

def text : ValuePart → List Char
  | plain c => [c]
  | decimal digits => '&' :: '#' :: (digits ++ [';'])
  | hexadecimal digits => '&' :: '#' :: 'x' :: (digits ++ [';'])
  | named name => '&' :: (name ++ [';'])

def char? : ValuePart → Option Char
  | plain c => some c
  | decimal digits => characterOf (digits.foldl (fun n d => 10 * n + digitValue d) 0)
  | hexadecimal digits => characterOf (digits.foldl (fun n d => 16 * n + digitValue d) 0)
  | named name => predefined? name

/-- Between quotes of the given kind. -/
def IsWellFormed (quote : Char) : ValuePart → Prop
  | plain c => c ≠ quote ∧ c ≠ '<' ∧ c ≠ '&' ∧ isAllowed c = true
  | decimal digits => digits ≠ [] ∧ (∀ d ∈ digits, isDecimal d = true) ∧ (decimal digits).char? ≠ none
  | hexadecimal digits => digits ≠ [] ∧ (∀ d ∈ digits, isHexadecimal d = true) ∧ (hexadecimal digits).char? ≠ none
  | named name => predefined? name ≠ none

/-- Reading changes it: a tab or the end of a line becomes a space. -/
def IsSpaced (p : ValuePart) : Prop := ∃ c, p = plain c ∧ isSpace c = true ∧ c ≠ ' '

end ValuePart

def valueText (parts : List ValuePart) : List Char := parts.flatMap ValuePart.text

structure AttributeText where
  gap : List Char
  name : List Char
  beforeSign : List Char
  afterSign : List Char
  quote : Char
  value : List ValuePart

namespace AttributeText

def body (a : AttributeText) : List Char :=
  a.name ++ (a.beforeSign ++ '=' :: (a.afterSign ++ a.quote :: (valueText a.value ++ [a.quote])))

def text (a : AttributeText) : List Char := a.gap ++ a.body

structure IsWellFormed (a : AttributeText) : Prop where
  gap_ne_nil : a.gap ≠ []
  gap : ∀ c ∈ a.gap, isSpace c = true
  name : isUnprefixed a.name = true
  beforeSign : ∀ c ∈ a.beforeSign, isSpace c = true
  afterSign : ∀ c ∈ a.afterSign, isSpace c = true
  quote : a.quote = '"' ∨ a.quote = '\''
  value : ∀ p ∈ a.value, p.IsWellFormed a.quote

end AttributeText

/-- How an element without content ends: by the slash of its only tag, or by a second tag. -/
inductive Ending where
  | slash
  | tag (gap : List Char)

structure ElementText where
  name : List Char
  attributes : List AttributeText
  gap : List Char
  ending : Ending

namespace ElementText

def endText (e : ElementText) : List Char :=
  match e.ending with
  | .slash => ['/', '>']
  | .tag gap => '>' :: '<' :: '/' :: (e.name ++ (gap ++ ['>']))

def text (e : ElementText) : List Char :=
  '<' :: (e.name ++ (e.attributes.flatMap AttributeText.text ++ (e.gap ++ e.endText)))

structure IsWellFormed (e : ElementText) : Prop where
  name : isUnprefixed e.name = true
  attributes : ∀ a ∈ e.attributes, a.IsWellFormed
  distinct : (e.attributes.map (·.name)).Nodup
  notBinding : ∀ a ∈ e.attributes, a.name ≠ "xmlns".toList
  gap : ∀ c ∈ e.gap, isSpace c = true
  ending : ∀ gap, e.ending = .tag gap → ∀ c ∈ gap, isSpace c = true

end ElementText

/-- The text of a comment holds no two hyphens in a row, and does not end with one. -/
def isCommentText : List Char → Bool
  | [] => true
  | ['-'] => false
  | '-' :: c :: rest => c ≠ '-' && isAllowed c && isCommentText rest
  | c :: rest => isAllowed c && isCommentText rest

/-- A piece of content: spaces, a comment, or an element without content. -/
inductive Item where
  | spaces (s : List Char)
  | comment (s : List Char)
  | element (e : ElementText)

namespace Item

def text : Item → List Char
  | spaces s => s
  | comment s => '<' :: '!' :: '-' :: '-' :: (s ++ ['-', '-', '>'])
  | element e => e.text

def IsWellFormed : Item → Prop
  | spaces s => ∀ c ∈ s, isSpace c = true
  | comment s => isCommentText s = true
  | element e => e.IsWellFormed

end Item

/-- A document of one root element, whose only attribute has the given value. -/
def documentText (tag : List Char) (a : AttributeText) (items : List Item) : List Char :=
  '<' :: (tag ++ (a.text ++ '>' :: (items.flatMap Item.text ++ '<' :: '/' :: (tag ++ ['>']))))

end ModelForge.Markup
