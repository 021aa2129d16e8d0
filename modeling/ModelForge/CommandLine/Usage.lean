import ModelForge.CommandLine.Flag
import ModelForge.Text.Quoted

/-! The help text, and messages about arguments that are refused. -/

namespace ModelForge.CommandLine

def programName : String := "xml-modelgen"

def programVersion : String := "0.1.0"

def textOfLines (lines : List String) : String := String.join (lines.map (· ++ "\n"))

def usage : String := textOfLines
  ["usage: xml-modelgen [-h] [--output-dir DIR] [--language LANGUAGE] [--config FILE]",
    "                    [--namespace NAME] [--no-comments] [--workers N] [--verbose]",
    "                    [--log-level \x7bDEBUG,INFO,WARNING,ERROR\x7d] [--list-languages] [--version]",
    "                    [PATH ...]"]

def help : String := usage ++ textOfLines
  ["",
    "Generate entity/DTO classes and mappers from XML model documents",
    "",
    "positional arguments:",
    "  PATH                  Model documents or directories to search for *.model.xml",
    "",
    "options:",
    "  -h, --help            show this help message and exit",
    "  --output-dir DIR, -o DIR",
    "                        Directory for generated files (default: print to stdout)",
    "  --language LANGUAGE, -l LANGUAGE",
    "                        Target language (default: csharp)",
    "  --config FILE         JSON configuration file",
    "  --namespace NAME      Root namespace for generated code",
    "  --no-comments         Don't emit the auto-generated header comment",
    "  --workers N           Number of parallel compilation workers",
    "  --verbose, -v         Show per-file results and warnings",
    "  --log-level \x7bDEBUG,INFO,WARNING,ERROR\x7d",
    "                        Logging level (default: WARNING)",
    "  --list-languages      List supported target languages and exit",
    "  --version             show program's version number and exit",
    "",
    "Examples:",
    "  xml-modelgen models/ --output-dir Generated",
    "  xml-modelgen Person.model.xml --namespace Contoso.Billing",
    "  xml-modelgen models/ --config modelgen.json --workers 8 --verbose",
    "  xml-modelgen --list-languages"]

def versionText : String := textOfLines [programName ++ " " ++ programVersion]

inductive UsageError where
  | ambiguous (argument : String) (spellings : List String)
  | noValue (f : Flag)
  | ignoredValue (f : Flag) (value : String)
  | notInteger (f : Flag) (value : String)
  | notChoice (f : Flag) (value : String) (choices : List String)
  | unrecognized (arguments : List String)
  deriving DecidableEq, Repr

namespace UsageError

def about (f : Flag) (reason : String) : String := "argument " ++ f.title ++ ": " ++ reason

def message : UsageError → String
  | ambiguous argument spellings =>
    "ambiguous option: " ++ argument ++ " could match " ++ ", ".intercalate spellings
  | noValue f => about f "expected one argument"
  | ignoredValue f value => about f ("ignored explicit argument " ++ Text.quoted value)
  | notInteger f value => about f ("invalid int value: " ++ Text.quoted value)
  | notChoice f value choices =>
    about f ("invalid choice: " ++ Text.quoted value ++ " (choose from " ++
      ", ".intercalate (choices.map Text.quoted) ++ ")")
  | unrecognized arguments => "unrecognized arguments: " ++ " ".intercalate arguments

def report (e : UsageError) : String := usage ++ textOfLines [programName ++ ": error: " ++ e.message]

end UsageError

end ModelForge.CommandLine
