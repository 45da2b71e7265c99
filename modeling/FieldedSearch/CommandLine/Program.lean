-- SUMMARY: The program: from arguments to a transcript.
import FieldedSearch.CommandLine.Report
import FieldedSearch.Settings.Example

/-!
# The program

The options of the program are read first, then the command is looked up, then the
settings are loaded, and only then are the arguments of the command read and the
command carried out. The program touches the world in three ways: it looks at files,
it writes the example settings, and it sends a request to the backend. `World` is a
world in which all this happens in memory.
-/

namespace FieldedSearch.CommandLine

/-- How the program touches the world. -/
structure Surroundings (m : Type → Type) where
  place : Place
  look : Location → m (Except Failure FileState)
  write : Location → ByteArray → m (Option Failure)
  send : Search.Sending → m Search.Answer

/-- What the options of the program ask for. -/
structure Mode where
  path : Option String
  verbose : Bool
  quiet : Bool
deriving DecidableEq, Repr

namespace Mode

/-- What the options of the program ask for. All that `--debug` adds to `--verbose` is the
log, which no transcript contains. -/
def ofReading (r : Reading) : Mode :=
  ⟨r.text? "--config", r.has "--verbose" || r.has "--debug", r.has "--quiet"⟩

end Mode

-- ---------------------------------------------------------------------------
-- Arguments
-- ---------------------------------------------------------------------------

namespace Transcript

def misuse (t : Transcript) (c : Context) : Misuse → Transcript
  | .failed e => t.fail e
  | m => (t.complain (c.report m)).exit 2

/-- Show what an option asks for that comes before everything else. -/
def showEager (t : Transcript) (c : Context) (o : OptionSpec) : Transcript :=
  (if o = versionOption then t.writeLine versionText else t.write (c.help c.path)).exit 0

end Transcript

/-- The first option that comes before everything else. -/
def Scanned.eager? (s : Scanned) : Option OptionSpec :=
  (s.given.map (·.option)).find? fun o => o = helpOption || o = versionOption

/-- Read the arguments of the program or of a command. The run ends here if they are
misused, or if help or the version is wanted. -/
def readArguments (t : Transcript) (c : Context) (options : List OptionSpec) (mixed : Bool)
    (arity : Arity) (arguments : List String) : Except Transcript Reading :=
  match scan options mixed arguments with
  | .error m => .error (t.misuse c m)
  | .ok s =>
    match s.eager? with
    | some o => .error (t.showEager c o)
    | none =>
      match s.check arity with
      | .error m => .error (t.misuse c m)
      | .ok r => .ok r

/-- Read the arguments up to the name of the command. -/
def readProgram (t : Transcript) (arguments : List String) : Except Transcript Reading :=
  readArguments t .program programOptions false .anything arguments

/-- Read the arguments behind the name of a command. -/
def readCommand (t : Transcript) (name : CommandName) (arguments : List String) :
    Except Transcript Command :=
  (readArguments t (.command name) name.options true name.arity arguments).map name.interpret

/-- Look up a command. Where the name looks like an option, it is read as one. -/
def findCommand (t : Transcript) : List String → Except Transcript (CommandName × List String)
  | [] => .error (t.misuse .program .missingCommand)
  | word :: rest =>
    match CommandName.ofWord? word with
    | some name => .ok (name, rest)
    | none =>
      match readProgram t (word :: rest) with
      | .error t => .error t
      | .ok _ =>
        let close := Text.closeWords word (CommandName.all.map CommandName.word)
        .error (t.misuse .program (.unknownCommand word close))

/-- What the program is to do, apart from the arguments of the command. Without any
arguments the help page is shown. -/
def begin (arguments : List String) : Except Transcript (Mode × CommandName × List String) := do
  let t := Transcript.empty
  if arguments.isEmpty then
    throw ((t.complain (Context.program.help programName)).exit 2)
  let r ← readProgram t arguments
  let (name, rest) ← findCommand t r.arguments
  return (.ofReading r, name, rest)

-- ---------------------------------------------------------------------------
-- Commands
-- ---------------------------------------------------------------------------

/-- Take note of the settings: print their warnings, or report why they cannot be
used. -/
def settle (t : Transcript) (mode : Mode) :
    Except Failure Settings.Loaded → Except Transcript (Transcript × Settings.Loaded)
  | .ok loaded => .ok (if mode.quiet then t else loaded.warnings.foldl Transcript.warning t, loaded)
  | .error e =>
    .error (if e.category = .internal then t.fail e else (t.error e.message).exit settingsError)

/-- Show the help for a command, or for the program. -/
def showHelp (t : Transcript) : List String → Transcript
  | [] => t.write (Context.program.help (Context.command .help).path)
  | word :: _ =>
    match CommandName.ofWord? word with
    | some name => t.write ((Context.command name).help (Context.command .help).path)
    | none => (t.error ("Unknown command: " ++ word)).exit 1

/-- Build a filter and tell what it is where that is wanted. -/
def withFilter (t : Transcript) (mode : Mode) (loaded : Settings.Loaded) (query : String)
    (defaults : Bool) : Except Transcript (Transcript × Filter) :=
  match buildFilter loaded query defaults with
  | .error e => .error (t.fail e)
  | .ok f => .ok (if mode.verbose then t.info ("Filter: " ++ f.toQuery) else t, f)

/-- Show how a search string is understood. -/
def parseQuery (t : Transcript) (mode : Mode) (loaded : Settings.Loaded) (query : String)
    (format : Format) (defaults : Bool) : Transcript :=
  match withFilter t mode loaded query defaults with
  | .error t => t
  | .ok (t, f) => t.showFilter format f

/-- Show the query for a search string. -/
def translateQuery (t : Transcript) (mode : Mode) (loaded : Settings.Loaded) (query : String)
    (offset : Int) (size : Option Int) (encode : Bool) : Transcript :=
  match withFilter t mode loaded query true with
  | .error t => t
  | .ok (t, f) =>
    t.showRequest encode
      (Request.ofFilter (some loaded.registry) f offset (size.getD loaded.settings.pageSize))

/-- The searcher for a filter. Hits are made records unless only ids are wanted. -/
def searcherFor (loaded : Settings.Loaded) (f : Filter) : Search.Searcher :=
  let o := loaded.settings.options
  .of f (some o) (if o.idsOnly then 0 else 1) none

/-- Show what an answer brings. -/
def showAnswer (t : Transcript) (query : String) (format : Format) (offset : Int)
    (s : Search.Searcher) (a : Search.Answer) : Transcript :=
  let t := t.showRejection a
  match s.receive a with
  | (_, .error e) => t.showSearchFailure format e
  | (s, .ok results) => t.showResults format query (s.count.getD 0) offset results

variable {m : Type → Type} [Monad m]

/-- Search for a search string and show the results. -/
def searchQuery (w : Surroundings m) (t : Transcript) (mode : Mode) (loaded : Settings.Loaded)
    (query : String) (format : Format) (offset : Int) (size : Option Int) : m Transcript :=
  match withFilter t mode loaded query true with
  | .error t => return t
  | .ok (t, f) =>
    let s := searcherFor loaded f
    match s.sending offset (size.getD loaded.settings.pageSize) with
    | .error e => return t.showSearchFailure format e
    | .ok sending => do return showAnswer t query format offset s (← w.send sending)

/-- Write the example settings to a location, unless there is something already that is
not to be replaced. -/
def createAt (w : Surroundings m) (t : Transcript) (force : Bool) (l : Location) :
    m Transcript := do
  match ← w.look l, force with
  | .error e, _ => return t.fail e
  | .ok .directory, false | .ok (.file _), false =>
    return ((t.error ("Config file already exists: " ++ l.write)).hint
      "Use --force to overwrite").exit 1
  | _, _ =>
    match ← w.write l Settings.exampleDocument.toUTF8 with
    | some e => return (t.error ("Failed to write config file: " ++ e.message)).exit 1
    | none =>
      return (t.success ("Created config file: " ++ l.write)).info
        "Set cloudsearch.search_endpoint and describe your search fields under [fields]."

def createSettings (w : Surroundings m) (t : Transcript) (force : Bool) (path : Option String) :
    m Transcript :=
  match Settings.location w.place path with
  | .error e => return t.fail e
  | .ok l => createAt w t force l

def perform (w : Surroundings m) (t : Transcript) (mode : Mode) (loaded : Settings.Loaded) :
    Command → m Transcript
  | .help names => return showHelp t names
  | .create force path => createSettings w t force path
  | .parse query format defaults => return parseQuery t mode loaded query format defaults
  | .search query format offset size => searchQuery w t mode loaded query format offset size
  | .translate query offset size encode =>
    return translateQuery t mode loaded query offset size encode

def loadSettings (w : Surroundings m) (path : Option String) :
    m (Except Failure Settings.Loaded) :=
  match Settings.location w.place path with
  | .error e => return .error e
  | .ok l => do return (← w.look l).bind (Settings.load l)

def run (w : Surroundings m) (arguments : List String) : m Transcript :=
  match begin arguments with
  | .error t => return t
  | .ok (mode, name, rest) => do
    match settle .empty mode (← loadSettings w mode.path) with
    | .error t => return t
    | .ok (t, loaded) =>
      match readCommand t name rest with
      | .error t => return t
      | .ok command => perform w t mode loaded command

-- ---------------------------------------------------------------------------
-- A world in memory
-- ---------------------------------------------------------------------------

/-- Files, the answers that are still to come, and the requests sent, the last one
first. -/
structure World where
  directory : Directory
  answers : List Search.Answer
  sent : List Search.Sending

namespace World

def write (l : Location) (content : ByteArray) : StateM World (Option Failure) := fun w =>
  let (directory, failure) := w.directory.write l content
  (failure, { w with directory })

/-- Send a request and take the next answer. -/
def send (s : Search.Sending) : StateM World Search.Answer := fun w =>
  (w.answers.headD (.unreachable "no answer"),
    { w with answers := w.answers.drop 1, sent := s :: w.sent })

/-- A world in which the program can run. -/
def surroundings (place : Place) : Surroundings (StateM World) where
  place
  look l := fun w => (w.directory.state l, w)
  write := write
  send := send

/-- Run the program in a world. -/
def run (w : World) (arguments : List String) : Transcript × World :=
  (CommandLine.run (surroundings w.directory.place) arguments).run w

end World

end FieldedSearch.CommandLine
