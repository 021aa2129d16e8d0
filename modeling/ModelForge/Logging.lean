/-! Log levels and logger names. -/

namespace ModelForge.Logging

def root : String := "xml_modelgen"

def loggerName (name : String) : String :=
  if name = root || (root ++ ".").toList.isPrefixOf name.toList then name else root ++ "." ++ name

def levels : List (String × Int) :=
  [("CRITICAL", 50), ("FATAL", 50), ("ERROR", 40), ("WARN", 30), ("WARNING", 30), ("INFO", 20), ("DEBUG", 10), ("NOTSET", 0)]

/-- Upper case where it is a Latin letter; a level name holds nothing else. -/
def upperLetter (c : Char) : Char :=
  if 'a' ≤ c && c ≤ 'z' then c.toUpper
  else if c = 'ı' then 'I'
  else if c = 'ſ' then 'S'
  else c

/-- A name that is none of the levels means a warning level. -/
def level (name : String) : Int := (levels.lookup (name.map upperLetter)).getD 30

end ModelForge.Logging
