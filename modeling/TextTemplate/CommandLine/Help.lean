/-!
# Help

The texts that explain the program. -/

namespace TextTemplate.CommandLine

def summary : String := "Extract named values from text with template patterns"

def versionText : String := "longview 0.1.0"

def helpText : String :=
  "\n".intercalate [
    summary,
    "",
    "Usage: longview [OPTIONS] <TEMPLATE> [SUBJECTS]...",
    "",
    "Arguments:",
    "  <TEMPLATE>     Template with \x7bname\x7d placeholders, * and + wildcards",
    "  [SUBJECTS]...  Subjects to match; read one per line from --file or stdin when omitted",
    "",
    "Options:",
    "  -r, --validator <NAME=REGEX>  Validator for a placeholder, as NAME=REGEX (repeatable)",
    "  -d, --default <NAME=VALUE>    Default value for a placeholder, as NAME=VALUE (repeatable)",
    "  -f, --file <FILE>             Read subjects from a file, one per line (\"-\" for stdin)",
    "      --json                    Print one JSON object per subject",
    "      --show-regex              Print the compiled expression and exit",
    "  -q, --quiet                   Print nothing; only set the exit status",
    "      --no-color                Disable colored output",
    "  -h, --help                    Print help",
    "  -V, --version                 Print version",
    ""]

end TextTemplate.CommandLine
