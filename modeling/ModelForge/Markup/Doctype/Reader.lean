import ModelForge.Markup.Doctype.Literal

/-! The document type declaration with its internal subset. Nothing outside the document is read. -/

namespace ModelForge.Markup

def expectClosing (s : List Char) : Except Fault (List Char) := do
  let l ← nextLexeme s
  match l.token with
  | .closing => return l.rest
  | _ => l.unexpected

def expectLiteral (s : List Char) : Except Fault (Lexeme × List Char) := do
  let l ← nextLexeme s
  match l.token with
  | .literal value => return (l, value)
  | _ => l.unexpected

def Token.name? : Token → Option (List Char)
  | .plainName n => some n
  | .prefixedName n => some n
  | _ => none

def expectName (s : List Char) : Except Fault (Read (List Char)) := do
  let l ← nextLexeme s
  match l.token.name? with
  | some n => return (n, l.rest)
  | none => l.unexpected

def expectPlainName (s : List Char) : Except Fault (Read (List Char)) := do
  let l ← nextLexeme s
  match l.token with
  | .plainName n => return (n, l.rest)
  | _ => l.unexpected

inductive Identification where
  | system
  | withPublic
  deriving DecidableEq

def identification? (keyword : List Char) : Option Identification :=
  if keyword = "SYSTEM".toList then some .system
  else if keyword = "PUBLIC".toList then some .withPublic
  else none

def externalLiterals (kind : Identification) (s : List Char) : Except Fault (List Char) := do
  match kind with
  | .system =>
    let (l, _) ← expectLiteral s
    return l.rest
  | .withPublic =>
    let (l, value) ← expectLiteral s
    l.checkPublicId value
    let (l, _) ← expectLiteral l.rest
    return l.rest

def entityDefinition (d : Declarations) (isParameter : Bool) (s : List Char) : Except Fault (Read Entity) := do
  let l ← nextLexeme s
  match l.token with
  | .literal value =>
    let text ← if d.counting then l.entityText value else pure []
    return (.internal text, ← expectClosing l.rest)
  | .plainName keyword =>
    let some kind := identification? keyword | l.unexpected
    let rest ← externalLiterals kind l.rest
    let l ← nextLexeme rest
    match l.token with
    | .closing => return (.external, l.rest)
    | .plainName keyword =>
      if !isParameter && keyword = "NDATA".toList then
        let (_, rest) ← expectPlainName l.rest
        return (.unparsed, ← expectClosing rest)
      else l.unexpected
    | _ => l.unexpected
  | _ => l.unexpected

def entityDeclaration (d : Declarations) (s : List Char) : Except Fault (Read Declarations) := do
  let l ← nextLexeme s
  match l.token with
  | .percent =>
    let (_, rest) ← expectPlainName l.rest
    let (_, rest) ← entityDefinition d true rest
    return (d, rest)
  | .plainName name =>
    let (e, rest) ← entityDefinition d false l.rest
    return (d.addEntity name e, rest)
  | _ => l.unexpected

def notationDeclaration (s : List Char) : Except Fault (List Char) := do
  let (_, rest) ← expectPlainName s
  let l ← nextLexeme rest
  match l.token with
  | .plainName keyword =>
    match identification? keyword with
    | some .system =>
      let (l, _) ← expectLiteral l.rest
      expectClosing l.rest
    | some .withPublic =>
      let (l, value) ← expectLiteral l.rest
      l.checkPublicId value
      let l ← nextLexeme l.rest
      match l.token with
      | .closing => return l.rest
      | .literal _ => expectClosing l.rest
      | _ => l.unexpected
    | none => l.unexpected
  | _ => l.unexpected

def enumeration (allows : Token → Bool) : Nat → List Char → Except Fault (List Char)
  | 0, s => .error ⟨.unexpected, s⟩
  | fuel + 1, s => do
    let l ← nextLexeme s
    if !allows l.token then l.unexpected
    else
      let l ← nextLexeme l.rest
      match l.token with
      | .closeParen none => return l.rest
      | .bar => enumeration allows fuel l.rest
      | _ => l.unexpected

def Token.isValueName (t : Token) : Bool := t.name?.isSome || t = .nameToken

def Token.isPlainName : Token → Bool
  | .plainName _ => true
  | _ => false

inductive AttributeType where
  | plain
  | identifier
  | other
  deriving DecidableEq

def typeWords : List (List Char × AttributeType) :=
  [("CDATA".toList, .plain), ("ID".toList, .identifier), ("IDREF".toList, .other), ("IDREFS".toList, .other),
    ("ENTITY".toList, .other), ("ENTITIES".toList, .other), ("NMTOKEN".toList, .other), ("NMTOKENS".toList, .other)]

def attributeType (s : List Char) : Except Fault (Read AttributeType) := do
  let l ← nextLexeme s
  match l.token with
  | .openParen => return (.other, ← enumeration Token.isValueName (l.rest.length + 1) l.rest)
  | .plainName word =>
    if word = "NOTATION".toList then
      let l ← nextLexeme l.rest
      match l.token with
      | .openParen => return (.other, ← enumeration Token.isPlainName (l.rest.length + 1) l.rest)
      | _ => l.unexpected
    else
      match typeWords.lookup word with
      | some type => return (type, l.rest)
      | none => l.unexpected
  | _ => l.unexpected

def attributeDefault (d : Declarations) (isPlain : Bool) (s : List Char) :
    Except Fault (Read (Option (List Char))) := do
  let l ← nextLexeme s
  let ofLiteral (l : Lexeme) (value : List Char) : Except Fault (Read (Option (List Char))) := do
    let v ← if d.counting then l.defaultValue d isPlain value else pure []
    return (some v, l.rest)
  match l.token with
  | .literal value => ofLiteral l value
  | .hashName word =>
    if word = "IMPLIED".toList || word = "REQUIRED".toList then return (none, l.rest)
    else if word = "FIXED".toList then
      let (l, value) ← expectLiteral l.rest
      ofLiteral l value
    else l.unexpected
  | _ => l.unexpected

def attributeList (element : List Char) : Nat → Declarations → List Char → Except Fault (Read Declarations)
  | 0, _, s => .error ⟨.unexpected, s⟩
  | fuel + 1, d, s => do
    let l ← nextLexeme s
    match l.token with
    | .closing => return (d, l.rest)
    | _ =>
      let some name := l.token.name? | l.unexpected
      let (type, rest) ← attributeType l.rest
      let isPlain := type = .plain
      let (default?, rest) ← attributeDefault d isPlain rest
      attributeList element fuel (d.addRule element ⟨name, isPlain, default?⟩ (type = .identifier)) rest

/-- The parts of a content model, from before a part. `connectors` has an entry for each open group, with the connector
seen in it. -/
def contentParts : Nat → List (Option Token) → List Char → Except Fault (List Char)
  | 0, _, s => .error ⟨.unexpected, s⟩
  | fuel + 1, connectors, s => do
    let l ← nextLexeme s
    match l.token with
    | .openParen => contentParts fuel (none :: connectors) l.rest
    | .plainName _ | .prefixedName _ | .markedName _ => afterPart fuel connectors l.rest
    | _ => l.unexpected
where
  /-- From after a part: the next part of the group, or the end of the group. -/
  afterPart : Nat → List (Option Token) → List Char → Except Fault (List Char)
    | 0, _, s => .error ⟨.unexpected, s⟩
    | fuel + 1, connectors, s => do
      let l ← nextLexeme s
      match l.token, connectors with
      | .closeParen _, [_] => expectClosing l.rest
      | .closeParen _, _ :: outer => afterPart fuel outer l.rest
      | t, seen :: outer =>
        if (t = .comma || t = .bar) && (seen = none || seen = some t) then contentParts fuel (some t :: outer) l.rest
        else l.unexpected
      | _, [] => l.unexpected

def mixedContent : Nat → Bool → List Char → Except Fault (List Char)
  | 0, _, s => .error ⟨.unexpected, s⟩
  | fuel + 1, hasNames, s => do
    let l ← nextLexeme s
    match l.token with
    | .closeParen (some '*') => expectClosing l.rest
    | .closeParen none => if hasNames then l.unexpected else expectClosing l.rest
    | .bar =>
      let (_, rest) ← expectName l.rest
      mixedContent fuel true rest
    | _ => l.unexpected

def elementDeclaration (s : List Char) : Except Fault (List Char) := do
  let (_, rest) ← expectName s
  let l ← nextLexeme rest
  match l.token with
  | .plainName word =>
    if word = "EMPTY".toList || word = "ANY".toList then expectClosing l.rest else l.unexpected
  | .openParen =>
    let inner ← nextLexeme l.rest
    match inner.token with
    | .hashName word =>
      if word = "PCDATA".toList then mixedContent (inner.rest.length + 1) false inner.rest else inner.unexpected
    | _ => contentParts (2 * l.rest.length + 2) [none] l.rest
  | _ => l.unexpected

def internalSubset : Nat → Declarations → List Char → Except Fault (Read Declarations)
  | 0, _, s => .error ⟨.unexpected, s⟩
  | fuel + 1, d, s => do
    let l ← nextLexeme s
    match l.token with
    | .closeBracket => return (d, l.rest)
    | .instruction => internalSubset fuel d l.rest
    | .comment => internalSubset fuel d l.rest
    | .parameter => internalSubset fuel { d with unread := true, counting := d.standalone } l.rest
    | .opening keyword =>
      if keyword = "ENTITY".toList then
        let (d, rest) ← entityDeclaration d l.rest
        internalSubset fuel d rest
      else if keyword = "ATTLIST".toList then
        let (element, rest) ← expectName l.rest
        let (d, rest) ← attributeList element (rest.length + 1) d rest
        internalSubset fuel d rest
      else if keyword = "ELEMENT".toList then
        internalSubset fuel d (← elementDeclaration l.rest)
      else if keyword = "NOTATION".toList then
        internalSubset fuel d (← notationDeclaration l.rest)
      else l.unexpected
    | _ => l.unexpected

def doctypeEnd (d : Declarations) (l : Lexeme) : Except Fault (Read Declarations) := do
  match l.token with
  | .closing => return (d, l.rest)
  | .openBracket =>
    let (d, rest) ← internalSubset (l.rest.length + 1) d l.rest
    return (d, ← expectClosing rest)
  | _ => l.unexpected

def doctype (d : Declarations) (s : List Char) : Except Fault (Read Declarations) := do
  let (_, rest) ← expectName s
  let l ← nextLexeme rest
  match l.token with
  | .plainName keyword =>
    let some kind := identification? keyword | l.unexpected
    let rest ← externalLiterals kind l.rest
    doctypeEnd { d with unread := true } (← nextLexeme rest)
  | _ => doctypeEnd d l

def prolog : Nat → Bool → Declarations → List Char → Except Fault (Read Declarations)
  | 0, _, _, s => .error ⟨.unexpected, s⟩
  | fuel + 1, hadDoctype, d, s => do
    let l ← nextLexeme s
    match l.token with
    | .rootStart => return (d, l.place)
    | .instruction => prolog fuel hadDoctype d l.rest
    | .comment => prolog fuel hadDoctype d l.rest
    | .opening keyword =>
      if !hadDoctype && keyword = "DOCTYPE".toList then
        let (d, rest) ← doctype d l.rest
        prolog fuel true d rest
      else l.unexpected
    | _ => l.unexpected

def epilog : Nat → List Char → Except Fault Unit
  | 0, s => .error ⟨.junk, s⟩
  | fuel + 1, s =>
    if (s.dropWhile isSpace).isEmpty then .ok ()
    else do
      let l ← nextLexeme s
      match l.token with
      | .instruction => epilog fuel l.rest
      | .comment => epilog fuel l.rest
      | _ => .error ⟨.junk, l.place⟩

end ModelForge.Markup
