-- SUMMARY: The settings file that a user starts from.

/-!
# Example settings

The document gives every key with its standard value, and a few fields.
-/

namespace FieldedSearch.Settings

def exampleDocument : String := String.join <| List.map (· ++ "\n") [
  "# edge-search configuration",
  "#",
  "# Location: ~/.config/edge-search/config.toml",
  "",
  "[cloudsearch]",
  "# Search endpoint of the CloudSearch domain (2011-02-01 API).",
  "# search_endpoint = \"https://search-example-abc123.us-east-1.cloudsearch.amazonaws.com/2011-02-01/search\"",
  "",
  "# Return only document ids instead of full hits.",
  "return_id_results = false",
  "",
  "# HTTP timeout in seconds.",
  "timeout = 30",
  "",
  "# Verify the endpoint's TLS certificate.",
  "verify_ssl = true",
  "",
  "[search]",
  "# Results per page when --size is not given.",
  "page_size = 10",
  "",
  "[display]",
  "# Use colored terminal output (NO_COLOR and --no-color also disable it).",
  "colored_output = true",
  "",
  "# Search fields.",
  "#",
  "# Each table maps a logical field name, as used in search strings, to one or",
  "# more physical index fields and a value type:",
  "#",
  "#   fields = physical field name, or a list of names (ORed together)",
  "#   type   = \"text\" (default), \"numeric\" or \"date\"",
  "#",
  "# Date values may be ISO 8601 dates or Unix timestamps.",
  "",
  "[fields.name]",
  "fields = \"name\"",
  "",
  "[fields.title]",
  "fields = [\"title_en\", \"title_de\"]",
  "",
  "[fields.status]",
  "fields = \"status\"",
  "",
  "[fields.price]",
  "fields = \"price\"",
  "type = \"numeric\"",
  "",
  "[fields.created]",
  "fields = \"created_at\"",
  "type = \"date\"",
  "",
  "# Default values, applied to every search unless the query sets the field.",
  "#",
  "#   status = \"active\"",
  "#   price = \x7b value = \"0\", comparison = \">\" \x7d",
  "",
  "[defaults]"]

end FieldedSearch.Settings
