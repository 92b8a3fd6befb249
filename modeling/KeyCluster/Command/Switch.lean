import KeyCluster.Text.Quoted

/-! The switches of the command line, what can be wrong with their use, and what who asks is told of it. -/

namespace KeyCluster

/-- A switch of the command line. -/
inductive Switch where
  | help
  | config
  | status
  | validate
  | timeout
  deriving DecidableEq, Repr

namespace Switch

/-- How switches are written; short forms begin with a single hyphen. -/
def spellings : List (Text × Switch) :=
  [("-h", help), ("--help", help), ("-c", config), ("--config", config), ("--status", status),
    ("--validate", validate), ("--timeout", timeout)]

/-- What messages call a switch: all its spellings. -/
def title (switch : Switch) : Text :=
  List.intercalate "/" ((spellings.filter (·.2 == switch)).map (·.1))

/-- Whether a switch comes with a value. -/
def takesValue : Switch → Bool
  | config | timeout => true
  | help | status | validate => false

end Switch

/-- Why a command line cannot be used. -/
inductive Misuse where
  /-- The beginning of a switch fits several ones. -/
  | ambiguous (word : Text) (spellings : List Text)
  | noValue (switch : Switch)
  | needlessValue (switch : Switch) (value : Text)
  | notNumber (switch : Switch) (value : Text)
  | conflict (switch other : Switch)
  | noConfig
  | unrecognized (words : List Text)
  deriving DecidableEq, Repr

namespace Misuse

/-- What a message says about a switch. -/
def about (switch : Switch) (text : Text) : Text :=
  "argument " ++ switch.title ++ ": " ++ text

/-- What a message says about a misuse. -/
def message : Misuse → Text
  | ambiguous word spellings =>
    "ambiguous option: " ++ word ++ " could match " ++ List.intercalate ", " spellings
  | noValue switch => about switch "expected one argument"
  | needlessValue switch value =>
    about switch ("ignored explicit argument " ++ Quoted.quote value)
  | notNumber switch value => about switch ("invalid float value: " ++ Quoted.quote value)
  | conflict switch other => about switch ("not allowed with argument " ++ other.title)
  | noConfig => "the following arguments are required: " ++ Switch.config.title
  | unrecognized words => "unrecognized arguments: " ++ List.intercalate " " words

end Misuse

end KeyCluster

namespace KeyCluster.Usage

/-- The name of the program. -/
def program : Text :=
  "kms-cluster"

/-- The line that shows all switches. -/
def line : Text :=
  "usage: " ++ program ++ " [-h] -c CONFIG [--status | --validate] [--timeout TIMEOUT]\n"

/-- What the program and its switches do. -/
def help : Text :=
  line ++ "\nJoin KMS servers into a single cluster\n\noptions:\n"
    ++ "  -h, --help            show this help message and exit\n"
    ++ "  -c CONFIG, --config CONFIG\n"
    ++ "                        Path to the YAML configuration file\n"
    ++ "  --status              Print the cluster status reported by each endpoint and\n"
    ++ "                        exit\n"
    ++ "  --validate            Validate the configuration file and exit\n"
    ++ "  --timeout TIMEOUT     Overall deadline in seconds\n"

/-- What is said about a command line that cannot be used. -/
def complaint (message : Text) : Text :=
  line ++ program ++ ": error: " ++ message ++ "\n"

end KeyCluster.Usage
