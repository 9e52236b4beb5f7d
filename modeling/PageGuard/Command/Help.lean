import PageGuard.Command.Arguments

/-!
# Help

What the command line says about itself.
-/

namespace PageGuard.Command

/-- The lines of a help text. -/
def Topic.helpLines : Topic → List String
  | .all => [
    "HeurShield heuristic rule compiler and tools",
    "",
    "Usage: hs-cli [OPTIONS] <COMMAND>",
    "",
    "Commands:",
    "  compile   Compile a raw rule feed into a database",
    "  validate  Check that every selector in a database parses",
    "  info      Dump database info",
    "  run       Run a database against a saved page",
    "  help      Print this message or the help of the given subcommand(s)",
    "",
    "Options:",
    "  -v, --verbose  Log debug output",
    "  -h, --help     Print help"]
  | .compile => [
    "Compile a raw rule feed into a database",
    "",
    "Usage: hs-cli compile [OPTIONS] --input <INPUT>",
    "",
    "Options:",
    "  -i, --input <INPUT>    Raw rule feed (JSON array)",
    "  -v, --verbose          Log debug output",
    "  -o, --output <OUTPUT>  Output database file [default: heuristics.json]",
    "  -h, --help             Print help"]
  | .validate => [
    "Check that every selector in a database parses",
    "",
    "Usage: hs-cli validate [OPTIONS] --input <INPUT>",
    "",
    "Options:",
    "  -i, --input <INPUT>  Database file (raw or compiled)",
    "  -v, --verbose        Log debug output",
    "  -h, --help           Print help"]
  | .info => [
    "Dump database info",
    "",
    "Usage: hs-cli info [OPTIONS] --input <INPUT>",
    "",
    "Options:",
    "  -i, --input <INPUT>  Database file (raw or compiled)",
    "  -v, --verbose        Log debug output",
    "  -h, --help           Print help"]
  | .run => [
    "Run a database against a saved page",
    "",
    "Usage: hs-cli run [OPTIONS] --database <DATABASE> --html <HTML> --url <URL>",
    "",
    "Options:",
    "  -d, --database <DATABASE>    Database file (raw or compiled)",
    "  -v, --verbose                Log debug output",
    "      --html <HTML>            Saved HTML page",
    "      --url <URL>              URL the page was loaded from",
    "      --tab <TAB>              [default: 1]",
    "      --config <CONFIG>        Engine configuration (JSON)",
    "      --whitelist <WHITELIST>  Manual scam whitelist, one domain per line",
    "      --popular <POPULAR>      Popularity allowlist, one domain per line",
    "      --aggressive             Force aggressive mode",
    "  -h, --help                   Print help"]
  | .help => [
    "Print this message or the help of the given subcommand(s)",
    "",
    "Usage: hs-cli help [COMMAND]...",
    "",
    "Arguments:",
    "  [COMMAND]...  Print help for the subcommand(s)"]

end PageGuard.Command
