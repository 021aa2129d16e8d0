import ModelForge.Json.Text
import ModelForge.Json.Number

/-! Reading a JSON document. An object keeps the place of a key's first entry and the value of its last. -/

namespace ModelForge.Json

def isSpace (c : Char) : Bool := c = ' ' || c = '\t' || c = '\n' || c = '\r'

def skip (s : List Char) : List Char := s.dropWhile isSpace

def words : List (List Char × Value) :=
  [("null".toList, .null), ("true".toList, .bool true), ("false".toList, .bool false),
    ("NaN".toList, .decimal false .undefined), ("Infinity".toList, .decimal false .infinite),
    ("-Infinity".toList, .decimal true .infinite)]

def readWord? (s : List Char) : Option (Value × List Char) :=
  (words.find? fun w => w.1.isPrefixOf s).map fun w => (w.2, s.drop w.1.length)

mutual

/-- `fuel` bounds the nesting and the number of entries; the length of the text is enough. `room` is for how many levels of
lists and objects the stack has room. -/
def readValue : Nat → Nat → List Char → Except Fault (Value × List Char)
  | 0, _, s => .error (.at .value s)
  | fuel + 1, room, s =>
    match s with
    | '"' :: rest => (readText s [] rest).map fun r => (.text r.1, r.2)
    | '[' :: rest =>
      match room with
      | 0 => .error (.tooDeep '[')
      | room + 1 =>
        match skip rest with
        | ']' :: after => .ok (.list [], after)
        | items => readItems fuel room [] items
    | '\x7b' :: rest =>
      match room with
      | 0 => .error (.tooDeep '\x7b')
      | room + 1 =>
        match skip rest with
        | '\x7d' :: after => .ok (.object [], after)
        | entries => readEntries fuel room [] entries
    | _ =>
      match readWord? s with
      | some r => .ok r
      | none => readNumber s

/-- `done` holds the items read so far, the last one first. -/
def readItems : Nat → Nat → List Value → List Char → Except Fault (Value × List Char)
  | 0, _, _, s => .error (.at .value s)
  | fuel + 1, room, done, s =>
    match readValue fuel room s with
    | .error f => .error f
    | .ok (v, rest) =>
      match skip rest with
      | ']' :: after => .ok (.list (v :: done).reverse, after)
      | ',' :: more => readItems fuel room (v :: done) (skip more)
      | other => .error (.at .comma other)

def readEntries : Nat → Nat → List (String × Value) → List Char → Except Fault (Value × List Char)
  | 0, _, _, s => .error (.at .propertyName s)
  | fuel + 1, room, done, s =>
    match s with
    | '"' :: rest =>
      match readText s [] rest with
      | .error f => .error f
      | .ok (key, afterKey) =>
        match skip afterKey with
        | ':' :: more =>
          match readValue fuel room (skip more) with
          | .error f => .error f
          | .ok (v, afterValue) =>
            match skip afterValue with
            | '\x7d' :: after => .ok (.object (Entries.put key v done), after)
            | ',' :: more => readEntries fuel room (Entries.put key v done) (skip more)
            | other => .error (.at .comma other)
        | other => .error (.at .colon other)
    | _ => .error (.at .propertyName s)

end

def read (document : List Char) (levels : Nat := maxLevels) : Except Fault Value :=
  match document with
  | '\ufeff' :: _ => .error (.at .byteOrderMark document)
  | _ =>
    match readValue (document.length + 1) levels (skip document) with
    | .error f => .error f
    | .ok (v, rest) => if (skip rest).isEmpty then .ok v else .error (.at .extraData (skip rest))

end ModelForge.Json
