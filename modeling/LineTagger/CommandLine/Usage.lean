import LineTagger.CommandLine.Flag

/-!
What the command line tells: how the program is used, its version, and why a command line is refused.
-/

namespace LineTagger

/-- Why a command line is refused. -/
inductive UsageError where
  /-- a text abbreviates more than one flag -/
  | ambiguous (text : String) (spellings : List String)
  | refused (f : Flag) (r : Refusal)
  | missing (f : Flag)
  | unrecognized (texts : List String)
  /-- the flags and the environment do not make settings that can be used -/
  | unusable (f : Fault)
  deriving Repr, Inhabited

namespace UsageError

/-- The wording of an error. -/
def message : UsageError → String
  | ambiguous text spellings =>
    "ambiguous option: " ++ text ++ " could match " ++ Value.commaJoined spellings
  | refused f r => "argument " ++ f.title ++ ": " ++ r.message
  | missing f => "the following arguments are required: " ++ f.title
  | unrecognized texts => "unrecognized arguments: " ++ " ".intercalate texts
  | unusable f => f.message

end UsageError

namespace Usage

def programName : String := "tagserver"

/-- Lines with a line feed behind each. -/
def ofLines (ls : List String) : String := String.join (ls.map (· ++ "\n"))

/-- The flags in short. -/
def synopsis : String := ofLines [
  "usage: tagserver [-h] -port PORT [-host HOST] [-encoding ENCODING]",
  "                 [-loadClassifier FILE | -loadJarClassifier RESOURCE]",
  "                 [-outputFormat \x7bslashTags,xml,inlineXML\x7d]",
  "                 [-preserveSpacing \x7btrue,false\x7d] [-readTimeout SECONDS]",
  "                 [-maxSessions N] [-client [HOST]]",
  "                 [-logLevel \x7bDEBUG,INFO,WARNING,ERROR\x7d] [--version]"]

/-- What the program does, and each flag at length. -/
def description : String := ofLines [
  "",
  "Serve a text tagger over TCP, one line in, one line out.",
  "",
  "options:",
  "  -h, --help            show this help message and exit",
  "  -port PORT, --port PORT",
  "                        TCP port to listen on (or to connect to with -client)",
  "  -host HOST, --host HOST",
  "                        Address to bind (default: 0.0.0.0, all interfaces)",
  "  -encoding ENCODING, --encoding ENCODING",
  "                        Character set for socket I/O (default: utf-8)",
  "  -loadClassifier FILE, --loadClassifier FILE",
  "                        Load the classifier model from a file",
  "  -loadJarClassifier RESOURCE, --loadJarClassifier RESOURCE",
  "                        Load a classifier model bundled with the package",
  "  -outputFormat \x7bslashTags,xml,inlineXML\x7d, " ++
    "--outputFormat \x7bslashTags,xml,inlineXML\x7d",
  "                        Annotation style (default: slashTags)",
  "  -preserveSpacing \x7btrue,false\x7d, --preserveSpacing \x7btrue,false\x7d",
  "                        Keep the input whitespace between tokens (default:",
  "                        true)",
  "  -readTimeout SECONDS, --readTimeout SECONDS",
  "                        Close sessions whose request does not arrive in time",
  "  -maxSessions N, --maxSessions N",
  "                        Refuse connections beyond N concurrent sessions",
  "  -client [HOST], --client [HOST]",
  "                        Run the interactive client against HOST (default:",
  "                        localhost)",
  "  -logLevel \x7bDEBUG,INFO,WARNING,ERROR\x7d, --logLevel \x7bDEBUG,INFO,WARNING,ERROR\x7d",
  "                        Logging level (default: INFO)",
  "  --version, -version   show program's version number and exit"]

/-- Examples of use. -/
def examples : String := ofLines [
  "",
  "Examples:",
  "  python -m tagserver -port 9191",
  "  python -m tagserver -port 9191 -outputFormat inlineXML",
  "  python -m tagserver -port 9191 -loadClassifier models/news.json",
  "  python -m tagserver -port 9191 -client localhost",
  "        "]

/-- All that is told of the program on request. -/
def help : String := synopsis ++ description ++ examples

def version : String := programName ++ " 1.0.0\n"

/-- What is told of a command line that is refused. -/
def complaint (e : UsageError) : String :=
  synopsis ++ programName ++ ": error: " ++ e.message ++ "\n"

end Usage

end LineTagger
