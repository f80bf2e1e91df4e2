import StructuralLint.Cli.Invocation

/-!
# Help texts

What the program prints about itself: its version, and for every topic how it is used. The settings
of a topic are listed with their defaults and possible values; the file of settings also shows what
the environment names.
-/

namespace StructuralLint.Cli

/-- The name and version of the program. -/
def versionLine : String := "craftcheck 0.1.0"

/-- The variable of the environment that names a file of settings. -/
def configVariable : String := "CRAFTCHECK_CONFIG"

/-- The line on the file of settings; it shows the value in the environment. -/
def configLine (environment : Option String) : String :=
  "      --config <CONFIG>        Config file (default: ./craftcheck.toml when present) [env: " ++
    configVariable ++ "=" ++ environment.getD "" ++ "]"

/-- The line on the log level. -/
def logLevelLine : String :=
  "      --log-level <LOG_LEVEL>  Log level (error, warn, info, debug, trace); " ++
    "RUST_LOG wins when set [default: warn] [possible values: error, warn, info, debug, trace]"

/-- The line on help. -/
def helpLine : String :=
  "  -h, --help                   Print help"

/-- The help on a topic, line by line. -/
def helpLines (environment : Option String) : Topic → List String
  | .program =>
      ["Rule-based code quality analysis over structural models", "",
        "Usage: craftcheck [OPTIONS] <COMMAND>", "",
        "Commands:",
        "  analyze  Analyze files or directories",
        "  rules    List the rule catalog with thresholds and defaults",
        "  help     Print this message or the help of the given subcommand(s)", "",
        "Options:", configLine environment, logLevelLine, helpLine,
        "  -V, --version                Print version", "",
        "Examples:",
        "  craftcheck analyze src/*.ir.json             Analyze model files",
        "  craftcheck analyze . --fail-on medium        Exit 1 on medium+ findings",
        "  craftcheck rules                             List the rule catalog"]
  | .analyze =>
      ["Analyze files or directories", "",
        "Usage: craftcheck analyze [OPTIONS] <PATHS>...", "",
        "Arguments:",
        "  <PATHS>...  Files or directories to analyze", "",
        "Options:", configLine environment,
        "      --workers <WORKERS>      Number of parallel workers (1-16); overrides the " ++
          "config file",
        "  -f, --format <FORMAT>        Output format [default: text] " ++
          "[possible values: text, json]",
        logLevelLine,
        "      --fail-on <FAIL_ON>      Exit with status 1 when a diagnostic at or above this " ++
          "severity remains [possible values: info, low, medium, high, critical]",
        helpLine]
  | .rules =>
      ["List the rule catalog with thresholds and defaults", "",
        "Usage: craftcheck rules [OPTIONS]", "",
        "Options:", configLine environment, logLevelLine, helpLine]
  | .help =>
      ["Print this message or the help of the given subcommand(s)", "",
        "Usage: craftcheck help [COMMAND]...", "",
        "Arguments:",
        "  [COMMAND]...  Print help for the subcommand(s)"]

end StructuralLint.Cli
