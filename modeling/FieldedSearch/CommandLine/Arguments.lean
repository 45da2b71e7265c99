-- SUMMARY: Reading command line arguments: options, their values, and what is wrong with them.
import FieldedSearch.Failure
import FieldedSearch.Text.Similarity

/-!
# Arguments

An option has a long name behind two hyphens and perhaps a letter behind one. Its
value follows as the next argument, behind `=` after a long name, or directly behind
the letter; letters of options without a value may be joined. Two hyphens alone end
the options. Of an option that is given more than once the last value counts.

What is wrong with the form of the arguments is reported before what is wrong with
their values, and values are checked in the order in which the options were given.
A command or a long option that does not exist is reported together with those that
come close to it.
-/

namespace FieldedSearch.CommandLine

/-- What an option may be given. -/
inductive OptionKind
  | flag
  | path
  | atLeast (least : Int)
  | oneOf (words : List String)
deriving DecidableEq, Repr

structure OptionSpec where
  long : String
  short : Option Char
  kind : OptionKind
deriving DecidableEq, Repr

inductive Misuse
  | missingCommand
  | unknownCommand (name : String) (close : List String)
  | unknownOption (name : String) (close : List String)
  | missingValue (name : String)
  | unexpectedValue (name : String)
  | notAnInteger (option : OptionSpec) (text : String)
  | tooSmall (option : OptionSpec) (value least : Int)
  | notAChoice (option : OptionSpec) (text : String) (words : List String)
  | missingArgument (name : String)
  | extraArguments (arguments : List String)
  | failed (e : Failure)
deriving Repr

/-- How the remaining arguments of a command are used. -/
inductive Arity
  | nothing
  | anything
  | something (name : String)
deriving DecidableEq, Repr

-- ---------------------------------------------------------------------------
-- Messages
-- ---------------------------------------------------------------------------

namespace Misuse

private def literal (s : String) : String := String.ofList (Text.quoted s.toList)

/-- The names of an option. -/
def optionText (o : OptionSpec) : String :=
  " / ".intercalate ((o.long :: (o.short.elim [] fun c => ["-" ++ String.singleton c])).map
    fun name => "'" ++ name ++ "'")

private def invalid (o : OptionSpec) (reason : String) : String :=
  "Invalid value for " ++ optionText o ++ ": " ++ reason

private def integer (n : Int) : String := String.ofList (Text.decimalInt n)

/-- What may have been meant. -/
def suggestion : List String → String
  | [] => ""
  | [name] => " Did you mean " ++ literal name ++ "?"
  | names => " (Did you mean one of: " ++ ", ".intercalate (names.map literal) ++ "?)"

def message : Misuse → String
  | missingCommand => "Missing command."
  | unknownCommand name close => "No such command " ++ literal name ++ "." ++ suggestion close
  | unknownOption name close => "No such option " ++ literal name ++ "." ++ suggestion close
  | missingValue name => "Option " ++ literal name ++ " requires an argument."
  | unexpectedValue name => "Option " ++ literal name ++ " does not take a value."
  | notAnInteger o text => invalid o (literal text ++ " is not a valid integer range.")
  | tooSmall o value least =>
    invalid o (integer value ++ " is not in the range x>=" ++ integer least ++ ".")
  | notAChoice o text words =>
    invalid o (literal text ++ " is not one of " ++ ", ".intercalate (words.map literal) ++ ".")
  | missingArgument name => "Missing argument '" ++ name ++ "'."
  | extraArguments arguments =>
    "Got unexpected extra argument" ++ (if arguments.length = 1 then " (" else "s (") ++
      " ".intercalate arguments ++ ")"
  | failed e => e.message

/-- Whether the message comes with a reminder of the usage. -/
def showsUsage : Misuse → Bool
  | missingValue _ | unexpectedValue _ => false
  | _ => true

end Misuse

-- ---------------------------------------------------------------------------
-- Form
-- ---------------------------------------------------------------------------

/-- An option as it is given, with its value if it takes one. -/
structure Given where
  option : OptionSpec
  value : Option String
deriving DecidableEq, Repr

/-- An option whose value is the next argument, and the name it goes by. -/
structure Pending where
  option : OptionSpec
  name : String
deriving DecidableEq, Repr

/-- Arguments parted into options and the rest. -/
structure Scanned where
  given : List Given
  arguments : List String
deriving DecidableEq, Repr

/-- Whether an argument is an option. A hyphen alone is none. -/
def isOption (argument : String) : Bool := argument.toList.head? = some '-' && argument ≠ "-"

/-- The options of joined letters. -/
def readLetters (options : List OptionSpec) : List Char →
    Except Misuse (List Given × Option Pending)
  | [] => .ok ([], none)
  | c :: rest =>
    let name := "-" ++ String.singleton c
    match options.find? (·.short = some c) with
    | none => .error (.unknownOption name [])
    | some o =>
      if o.kind = .flag then do
        let (given, pending) ← readLetters options rest
        return (⟨o, none⟩ :: given, pending)
      else if rest.isEmpty then .ok ([], some ⟨o, name⟩)
      else .ok ([⟨o, some (String.ofList rest)⟩], none)

/-- The options of one argument. -/
def readOption (options : List OptionSpec) (argument : String) :
    Except Misuse (List Given × Option Pending) :=
  let s := argument.toList
  let name := String.ofList (s.takeWhile (· != '='))
  let value := ((s.dropWhile (· != '=')).tail?).map String.ofList
  match options.find? (·.long = name) with
  | some o =>
    if o.kind = .flag then
      if value.isSome then .error (.unexpectedValue name) else .ok ([⟨o, none⟩], none)
    else
      match value with
      | some v => .ok ([⟨o, some v⟩], none)
      | none => .ok ([], some ⟨o, name⟩)
  | none =>
    if "--".toList.isPrefixOf s then
      .error (.unknownOption name (Text.closeWords name (options.map (·.long))))
    else readLetters options (s.drop 1)

/-- Part arguments into options and the rest. Unless the two may be mixed, the first
argument that is no option ends the options. -/
def scan (options : List OptionSpec) (mixed : Bool) : List String → Except Misuse Scanned
  | [] => .ok ⟨[], []⟩
  | argument :: rest =>
    if argument = "--" then .ok ⟨[], rest⟩
    else if isOption argument then
      match readOption options argument, rest with
      | .error e, _ => .error e
      | .ok (_, some pending), [] => .error (.missingValue pending.name)
      | .ok (given, some pending), value :: rest =>
        (scan options mixed rest).map fun s =>
          { s with given := given ++ ⟨pending.option, some value⟩ :: s.given }
      | .ok (given, none), rest =>
        (scan options mixed rest).map fun s => { s with given := given ++ s.given }
    else if mixed then
      (scan options mixed rest).map fun s => { s with arguments := argument :: s.arguments }
    else .ok ⟨[], argument :: rest⟩

-- ---------------------------------------------------------------------------
-- Values
-- ---------------------------------------------------------------------------

/-- The checked value of an option. -/
inductive Setting
  | on
  | text (s : String)
  | number (n : Int)
deriving DecidableEq, Repr

/-- Check the value of an option. -/
def OptionSpec.check (o : OptionSpec) (text : String) : Except Misuse Setting :=
  match o.kind with
  | .flag => .ok .on
  | .path => if '\x00' ∈ text.toList then .error (.failed .nulInPath) else .ok (.text text)
  | .atLeast least =>
    match Text.Integer.read? text.toList with
    | none => .error (.notAnInteger o text)
    | some n => if n < least then .error (.tooSmall o n least) else .ok (.number n)
  | .oneOf words =>
    if words.contains text then .ok (.text text) else .error (.notAChoice o text words)

/-- Arguments as a command uses them. -/
structure Reading where
  settings : List (String × Setting)
  arguments : List String
deriving DecidableEq, Repr

/-- The options that are given, in the order in which they first are. -/
def Scanned.options (s : Scanned) : List OptionSpec :=
  (s.given.map (·.option)).foldl (fun seen o => if seen.contains o then seen else seen ++ [o]) []

def Scanned.lastValue (s : Scanned) (o : OptionSpec) : String :=
  (((s.given.filter (·.option = o)).getLast?).bind Given.value).getD ""

/-- The arguments with the values of their options checked. -/
def Scanned.check (s : Scanned) (arity : Arity) : Except Misuse Reading := do
  let settings ← s.options.mapM fun o => (o.check (s.lastValue o)).map fun v => (o.long, v)
  match arity with
  | .anything => return ⟨settings, s.arguments⟩
  | .something name =>
    if s.arguments.isEmpty then throw (.missingArgument name) else return ⟨settings, s.arguments⟩
  | .nothing =>
    if s.arguments.isEmpty then return ⟨settings, []⟩ else throw (.extraArguments s.arguments)

namespace Reading

def has (r : Reading) (long : String) : Bool := (r.settings.lookup long).isSome

def text? (r : Reading) (long : String) : Option String :=
  match r.settings.lookup long with
  | some (.text s) => some s
  | _ => none

def number? (r : Reading) (long : String) : Option Int :=
  match r.settings.lookup long with
  | some (.number n) => some n
  | _ => none

end Reading

end FieldedSearch.CommandLine
