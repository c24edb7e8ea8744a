import Columnar.Command.Arguments

/-!
# Help

## Main definitions

- `Topic.text`: the text of help about a topic.
- `versionText`: name and version of the program.
-/

namespace Columnar.Command

def versionText : String := "arche-cmd 0.2.34\n"

def programHelp : List String :=
  ["Command-line utility for archetype bundles",
    "",
    "Usage: arche-cmd <COMMAND>",
    "",
    "Commands:",
    "  describe  List the known archetypes, or describe the fields of one",
    "  columns   Build the column form of an archetype from a JSON file of field values",
    "  help      Print this message or the help of the given subcommand(s)",
    "",
    "Options:",
    "  -h, --help     Print help",
    "  -V, --version  Print version"]

def describeHelp : List String :=
  ["List the known archetypes, or describe the fields of one",
    "",
    "Usage: arche-cmd describe [OPTIONS] [ARCHETYPE]",
    "",
    "Arguments:",
    "  [ARCHETYPE]  Archetype name, full or short (e.g. `Scalar`)",
    "",
    "Options:",
    "      --json  Print JSON instead of text",
    "  -h, --help  Print help"]

def columnsHelp : List String :=
  ["Build the column form of an archetype from a JSON file of field values",
    "",
    "Usage: arche-cmd columns [OPTIONS] --archetype <ARCHETYPE> --input <INPUT>",
    "",
    "Options:",
    "  -a, --archetype <ARCHETYPE>      Archetype name, full or short",
    "  -i, --input <INPUT>              JSON object mapping field names to values",
    "  -p, --partition <PARTITION>      Row lengths, e.g. `2,1` (defaults to one value per row)",
    "      --timeline <TIMELINE>        Timeline name; renders the columns as an indexed record batch",
    "      --index-file <INDEX_FILE>    JSON array with one index value per row "
      ++ "(defaults to 0, 1, 2, ...)",
    "      --index-kind <INDEX_KIND>    Interpretation of the index values [default: sequence] "
      ++ "[possible values: sequence, duration-ns, timestamp-ns]",
    "      --entity-path <ENTITY_PATH>  Entity path of the record batch [default: data]",
    "      --json                       Print a JSON summary instead of text",
    "  -h, --help                       Print help"]

def helpHelp : List String :=
  ["Print this message or the help of the given subcommand(s)",
    "",
    "Usage: arche-cmd help [COMMAND]...",
    "",
    "Arguments:",
    "  [COMMAND]...  Print help for the subcommand(s)"]

def unlines (lines : List String) : String := String.join (lines.map (· ++ "\n"))

def Topic.text : Topic → String
  | .program => unlines programHelp
  | .describe => unlines describeHelp
  | .columns => unlines columnsHelp
  | .help => unlines helpHelp

end Columnar.Command
