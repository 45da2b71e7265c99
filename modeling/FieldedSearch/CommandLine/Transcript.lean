-- SUMMARY: What a run of the program prints, and how it ends.
import FieldedSearch.Terminal.Table

/-!
# Transcripts

A run prints text to the standard output and to the error output until it ends. It
ends with an exit code, or with a failure that no command deals with. What would be
printed after the end is not printed. The log for which `--debug` asks goes to the error
output too, but is no part of a transcript: its lines carry the time of day.
-/

namespace FieldedSearch.CommandLine

inductive Ending
  | exit (code : Nat)
  | failed (e : Failure)
deriving Repr

/-- What a run has printed, and how it has ended if it has. -/
structure Transcript where
  out : String
  err : String
  ending : Option Ending
deriving Repr

namespace Transcript

/-- The transcript of a run that has just begun. -/
def empty : Transcript := ⟨"", "", none⟩

def exit (t : Transcript) (code : Nat) : Transcript :=
  if t.ending.isSome then t else { t with ending := some (.exit code) }

def fail (t : Transcript) (e : Failure) : Transcript :=
  if t.ending.isSome then t else { t with ending := some (.failed e) }

/-- Print text as it is. -/
def write (t : Transcript) (s : String) : Transcript :=
  if t.ending.isSome then t else { t with out := t.out ++ s }

/-- Print text as it is to the error output. -/
def complain (t : Transcript) (s : String) : Transcript :=
  if t.ending.isSome then t else { t with err := t.err ++ s }

/-- Print a line as it is. -/
def writeLine (t : Transcript) (s : String) : Transcript := t.write (s ++ "\n")

/-- A message between tags. -/
def tagged (style message : String) : String :=
  "[" ++ style ++ "]" ++ message ++ "[/" ++ style ++ "]"

/-- The lines of a text with spaces for their tabs. -/
def withoutTabs (s : String) : String :=
  "\n".intercalate ((Terminal.lines s).map fun line => String.ofList (Terminal.expandTabs line))

/-- Print a line of marked-up text. -/
def writeMarkup (t : Transcript) (markup : String) : Transcript :=
  match Markup.render markup with
  | .ok s => t.writeLine (withoutTabs s)
  | .error e => t.fail e

/-- Print a line of marked-up text to the error output. -/
def complainMarkup (t : Transcript) (markup : String) : Transcript :=
  match Markup.render markup with
  | .ok s => t.complain (withoutTabs s ++ "\n")
  | .error e => t.fail e

def info (t : Transcript) (message : String) : Transcript :=
  t.writeMarkup (tagged "info" (Markup.escape message))

def success (t : Transcript) (message : String) : Transcript :=
  t.writeMarkup (tagged "success" (Markup.escape message))

def warning (t : Transcript) (message : String) : Transcript :=
  t.complainMarkup (tagged "warning" "Warning:" ++ " " ++ Markup.escape message)

def error (t : Transcript) (message : String) : Transcript :=
  t.complainMarkup (tagged "error" "Error:" ++ " " ++ Markup.escape message)

/-- Print what may help. -/
def hint (t : Transcript) (message : String) : Transcript :=
  t.complainMarkup ("  " ++ tagged "info" "Hint:" ++ " " ++ Markup.escape message)

def table (t : Transcript) (columns : List Terminal.Column) (rows : List (List String)) :
    Transcript :=
  match Terminal.drawTable columns rows with
  | .ok s => t.write s
  | .error e => t.fail e

/-- The exit code, and the failure that no command dealt with. -/
def result (t : Transcript) : Nat × Option Failure :=
  match t.ending with
  | none => (0, none)
  | some (.exit code) => (code, none)
  | some (.failed e) => (1, some e)

end Transcript

end FieldedSearch.CommandLine
