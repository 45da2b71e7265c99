-- SUMMARY: The help pages of the program and its commands.

/-!
# Help pages

A page is shown below a line with the usage, which is not part of it.
-/

namespace FieldedSearch.CommandLine

/-- Lines as a text. -/
def page (lines : List String) : String := String.join (lines.map (· ++ "\n"))

def groupPage : String := page [
  "  edge-search: Google-style search strings for Amazon CloudSearch.",
  "",
  "  Search strings combine field constraints, OR-groups and free text:",
  "",
  "      status:active name:[john doe] (priority>5 owner:jane) urgent",
  "",
  "  Search fields and the CloudSearch endpoint are configured in ~/.config/edge-",
  "  search/config.toml by default. Use --config to specify an alternative",
  "  configuration file.",
  "",
  "  Examples:",
  "",
  "      # Show how a search string is understood     edge-search parse",
  "      \"status:active (priority>5) urgent\"",
  "",
  "      # Print the CloudSearch query for a search string     edge-search",
  "      translate \"price>=18 sort:price order:asc\"",
  "",
  "Options:",
  "  -c, --config PATH  Path to config file (default: ~/.config/edge-",
  "                     search/config.toml)",
  "  --no-color         Disable colored output",
  "  -v, --verbose      Enable verbose output",
  "  --debug            Enable debug output (implies --verbose)",
  "  -q, --quiet        Suppress non-error output",
  "  --version          Show the version and exit.",
  "  --help             Show this message and exit.",
  "",
  "Commands:",
  "  help         Show help for a command.",
  "  init-config  Create a new configuration file with example search fields.",
  "  parse        Parse a search string and show the resulting filter.",
  "  search       Search the configured CloudSearch domain.",
  "  translate    Translate a search string into CloudSearch query parameters."]

def helpPage : String := page [
  "  Show help for a command.",
  "",
  "Options:",
  "  --help  Show this message and exit."]

def createPage : String := page [
  "  Create a new configuration file with example search fields.",
  "",
  "  Creates a configuration file at the default location (~/.config/edge-",
  "  search/config.toml) or at a custom path specified with --output.",
  "",
  "  Examples:",
  "",
  "    # Create config at default location",
  "    edge-search init-config",
  "",
  "    # Create config at custom location",
  "    edge-search init-config --output ./my-config.toml",
  "",
  "Options:",
  "  -f, --force        Overwrite existing config file",
  "  -o, --output PATH  Output path for config file (default: ~/.config/edge-",
  "                     search/config.toml)",
  "  --help             Show this message and exit."]

def parsePage : String := page [
  "  Parse a search string and show the resulting filter.",
  "",
  "  QUERY is a search string. Multiple arguments are joined with spaces.",
  "  Constraints on unknown fields are dropped silently, which makes this command",
  "  useful for checking what a search string actually means.",
  "",
  "  Syntax:",
  "    field:value        equals           field!value   not equals",
  "    field~value        like             field!~value  not like",
  "    field>value        greater than     field>=value  greater or equal",
  "    field<value        less than        field<=value  less or equal",
  "    field:[two words]  bracketed value  field:null    null value",
  "    (a:1 b:2)          OR-group         sort:field order:asc|desc",
  "",
  "Options:",
  "  -f, --format [table|json]  Output format (default: table)",
  "  --no-defaults              Do not apply the configured default values",
  "  --help                     Show this message and exit."]

def searchPage : String := page [
  "  Search the configured CloudSearch domain.",
  "",
  "  QUERY is a search string. Multiple arguments are joined with spaces.",
  "",
  "  Output formats:",
  "    --format table   Rich table of ids and returned fields (default)",
  "    --format ids     One document id per line (for piping)",
  "    --format json    JSON object with count and results; errors are",
  "                     printed as a JSON problem document",
  "",
  "Options:",
  "  -f, --format [table|ids|json]  Output format (default: table)",
  "  -o, --offset INTEGER RANGE     Offset of the first result  [default: 0; x>=0]",
  "  -s, --size INTEGER RANGE       Results per page (default: search.page_size",
  "                                 from config)  [x>=1]",
  "  --help                         Show this message and exit."]

def translatePage : String := page [
  "  Translate a search string into CloudSearch query parameters.",
  "",
  "  QUERY is a search string. Multiple arguments are joined with spaces.",
  "",
  "  Example:",
  "    $ edge-search translate \"price>=18 status:active sort:price\"",
  "    bq=(and price:18.. (field status 'active'))&rank=-price&size=10&start=0",
  "",
  "Options:",
  "  -o, --offset INTEGER RANGE  Offset of the first result  [default: 0; x>=0]",
  "  -s, --size INTEGER RANGE    Results per page (default: search.page_size from",
  "                              config)  [x>=1]",
  "  --encode                    URL-encode the query string",
  "  --help                      Show this message and exit."]

end FieldedSearch.CommandLine
