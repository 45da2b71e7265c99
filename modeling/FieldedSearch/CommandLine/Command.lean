-- SUMMARY: The commands of the program: their names, options, help pages and meaning.
import FieldedSearch.BooleanQuery.Request
import FieldedSearch.CommandLine.Arguments
import FieldedSearch.CommandLine.Page

/-!
# Commands

The program has options of its own, which stand in front of the name of a command;
the options of the command may be mixed with its arguments. The arguments of a
command that takes a search string are joined with spaces.
-/

namespace FieldedSearch.CommandLine

def programName : String := "edge-search"

/-- The line that `--version` prints. -/
def versionText : String := programName ++ ", version 0.3.0"

/-- The form in which results are shown. -/
inductive Format
  | table
  | ids
  | json
deriving DecidableEq, Repr, Inhabited

namespace Format

def word : Format → String
  | table => "table"
  | ids => "ids"
  | json => "json"

/-- The form that a word names; the table unless there is one. -/
def ofWord (s : Option String) : Format :=
  if s = some ids.word then ids else if s = some json.word then json else table

end Format

inductive CommandName
  | help
  | create
  | parse
  | search
  | translate
deriving DecidableEq, Repr

/-- What a command is to do. -/
inductive Command
  | help (names : List String)
  | create (force : Bool) (path : Option String)
  | parse (query : String) (format : Format) (defaults : Bool)
  | search (query : String) (format : Format) (offset : Int) (size : Option Int)
  | translate (query : String) (offset : Int) (size : Option Int) (encode : Bool)
deriving DecidableEq, Repr

-- ---------------------------------------------------------------------------
-- Options
-- ---------------------------------------------------------------------------

def helpOption : OptionSpec := ⟨"--help", none, .flag⟩

def versionOption : OptionSpec := ⟨"--version", none, .flag⟩

def programOptions : List OptionSpec := [⟨"--config", some 'c', .path⟩,
  ⟨"--no-color", none, .flag⟩, ⟨"--verbose", some 'v', .flag⟩, ⟨"--debug", none, .flag⟩,
  ⟨"--quiet", some 'q', .flag⟩, versionOption, helpOption]

private def formatOption (formats : List Format) : OptionSpec :=
  ⟨"--format", some 'f', .oneOf (formats.map Format.word)⟩

private def offsetOption : OptionSpec := ⟨"--offset", some 'o', .atLeast 0⟩

private def sizeOption : OptionSpec := ⟨"--size", some 's', .atLeast 1⟩

namespace CommandName

def word : CommandName → String
  | help => "help"
  | create => "init-config"
  | parse => "parse"
  | search => "search"
  | translate => "translate"

def all : List CommandName := [help, create, parse, search, translate]

def ofWord? (s : String) : Option CommandName := all.find? (·.word = s)

def options : CommandName → List OptionSpec
  | help => [helpOption]
  | create => [⟨"--force", some 'f', .flag⟩, ⟨"--output", some 'o', .path⟩, helpOption]
  | parse => [formatOption [.table, .json], ⟨"--no-defaults", none, .flag⟩, helpOption]
  | search => [formatOption [.table, .ids, .json], offsetOption, sizeOption, helpOption]
  | translate => [offsetOption, sizeOption, ⟨"--encode", none, .flag⟩, helpOption]

/-- How the remaining arguments of a command are used. -/
def arity : CommandName → Arity
  | help => .anything
  | create => .nothing
  | parse | search | translate => .something "QUERY..."

/-- What may stand behind the name of a command. -/
def usage : CommandName → String
  | help => "[OPTIONS] [COMMAND]..."
  | create => "[OPTIONS]"
  | parse | search | translate => "[OPTIONS] QUERY..."

def page : CommandName → String
  | help => helpPage
  | create => createPage
  | parse => parsePage
  | search => searchPage
  | translate => translatePage

/-- What a command is to do by its arguments. -/
def interpret (name : CommandName) (r : Reading) : Command :=
  let query := " ".intercalate r.arguments
  let format := Format.ofWord (r.text? "--format")
  let offset := (r.number? "--offset").getD 0
  let size := r.number? "--size"
  match name with
  | help => .help r.arguments
  | create => .create (r.has "--force") (r.text? "--output")
  | parse => .parse query format (!r.has "--no-defaults")
  | search => .search query format offset size
  | translate => .translate query offset size (r.has "--encode")

end CommandName

-- ---------------------------------------------------------------------------
-- Usage
-- ---------------------------------------------------------------------------

/-- Where on the command line something goes wrong or is explained. -/
inductive Context
  | program
  | command (name : CommandName)
deriving DecidableEq, Repr

namespace Context

/-- The words that lead there. -/
def path : Context → String
  | program => programName
  | command name => programName ++ " " ++ name.word

/-- What may stand behind these words. -/
def usage : Context → String
  | program => "[OPTIONS] COMMAND [ARGS]..."
  | command name => name.usage

/-- What explains it. -/
def page : Context → String
  | program => groupPage
  | command name => name.page

/-- The line with the usage, for the words that are to lead there. -/
def usageLine (c : Context) (path : String) : String := "Usage: " ++ path ++ " " ++ c.usage ++ "\n"

/-- The help for these words. -/
def help (c : Context) (path : String) : String := c.usageLine path ++ "\n" ++ c.page

/-- The report of a misuse. -/
def report (c : Context) (m : Misuse) : String :=
  (if m.showsUsage then
    c.usageLine c.path ++ "Try '" ++ c.path ++ " --help' for help.\n\n" else "") ++
  "Error: " ++ m.message ++ "\n"

end Context

end FieldedSearch.CommandLine
