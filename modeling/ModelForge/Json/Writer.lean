import ModelForge.Text.Hex
import ModelForge.Value.Display

/-! Writing a JSON document: two spaces for each level, and every character as it is unless it has to be escaped. -/

namespace ModelForge.Json

def escapedChar (c : Char) : List Char :=
  if c = '"' then ['\\', '"']
  else if c = '\\' then ['\\', '\\']
  else if c = '\n' then ['\\', 'n']
  else if c = '\r' then ['\\', 'r']
  else if c = '\t' then ['\\', 't']
  else if c = '\x08' then ['\\', 'b']
  else if c = '\x0c' then ['\\', 'f']
  else if c.toNat < 0x20 then '\\' :: 'u' :: Text.hexDigits 4 c.toNat
  else [c]

def writeText (s : String) : List Char := '"' :: s.toList.flatMap escapedChar ++ ['"']

def newLine (level : Nat) : List Char := '\n' :: List.replicate (2 * level) ' '

def comma (more : Bool) : List Char := if more then [','] else []

def infinityText : List Char := "Infinity".toList

mutual

def write (level : Nat) : Value → List Char
  | .null => "null".toList
  | .bool b => if b then "true".toList else "false".toList
  | .int n => (toString n).toList
  | .decimal negative size => Value.signedText infinityText "NaN".toList negative size
  | .text s => writeText s
  | .list items =>
    if items.isEmpty then ['[', ']'] else '[' :: writeItems (level + 1) items ++ newLine level ++ [']']
  | .object entries =>
    if entries.isEmpty then ['\x7b', '\x7d']
    else '\x7b' :: writeEntries (level + 1) entries ++ newLine level ++ ['\x7d']

def writeItems (level : Nat) : List Value → List Char
  | [] => []
  | v :: rest => newLine level ++ write level v ++ comma (!rest.isEmpty) ++ writeItems level rest

def writeEntries (level : Nat) : List (String × Value) → List Char
  | [] => []
  | (k, v) :: rest =>
    newLine level ++ writeText k ++ ':' :: ' ' :: write level v ++ comma (!rest.isEmpty) ++ writeEntries level rest

end

end ModelForge.Json
