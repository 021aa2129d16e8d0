/-! The flags of the command line. -/

namespace ModelForge.CommandLine

inductive Flag where
  | help
  | outputDir
  | language
  | config
  | rootNamespace
  | noComments
  | workers
  | verbose
  | logLevel
  | listLanguages
  | version
  deriving DecidableEq, Repr

namespace Flag

def spellings : List (String × Flag) :=
  [("-h", help), ("--help", help), ("--output-dir", outputDir), ("-o", outputDir), ("--language", language),
    ("-l", language), ("--config", config), ("--namespace", rootNamespace), ("--no-comments", noComments),
    ("--workers", workers), ("--verbose", verbose), ("-v", verbose), ("--log-level", logLevel),
    ("--list-languages", listLanguages), ("--version", version)]

def ofSpelling? (s : String) : Option Flag := spellings.lookup s

def ofLetter? (c : Char) : Option Flag := ofSpelling? (String.ofList ['-', c])

def takesValue : Flag → Bool
  | outputDir | language | config | rootNamespace | workers | logLevel => true
  | help | noComments | verbose | listLanguages | version => false

def title (f : Flag) : String := "/".intercalate ((spellings.filter (·.2 = f)).map (·.1))

end Flag

def logLevels : List String := ["DEBUG", "INFO", "WARNING", "ERROR"]

end ModelForge.CommandLine
