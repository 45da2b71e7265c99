-- SUMMARY: What is made of the hits of an answer: their ids, or flat records.
import FieldedSearch.Failure

/-!
# Hits

A hit is a table with an `id` and, under `data`, the fields that were asked for, each
with a list of values. A record is the flat form of a hit: the id and then the
fields, a list of one value replaced by the value.
-/

namespace FieldedSearch.Search

/-- The name under which a hit and a record have their id. -/
def idName : String := "id"

/-- The name under which a hit has its fields. -/
def dataName : String := "data"

/-- What a value consists of: the items of a list, the names of a map, the
characters of a text. -/
def items : Value → Except Failure (List Value)
  | .list vs => .ok vs
  | .map entries => .ok (entries.map fun (name, _) => .text name)
  | .text s => .ok (s.toList.map fun c => .text (String.singleton c))
  | _ => .error .wrongKind

def hitId : Value → Except Failure Value
  | .map entries =>
    match Entries.get? entries idName with
    | some id => .ok id
    | none => .error (.missingEntry idName)
  | _ => .error .wrongKind

def ids (hits : Value) : Except Failure (List Value) := do (← items hits).mapM hitId

/-- A list of one value as the value. -/
def unwrap : Value → Value
  | .list [v] => v
  | v => v

/-- The record of a hit with the given id and fields. A field named like the id
replaces it. -/
def recordOf (id : Value) (fields : List (String × Value)) : List (String × Value) :=
  fields.foldl (fun record (name, v) => Entries.put name (unwrap v) record) [(idName, id)]

def hitRecord : Value → Except Failure Value
  | .map entries =>
    match (Entries.get? entries dataName).getD (.map []) with
    | .map fields => .ok (.map (recordOf ((Entries.get? entries idName).getD .null) fields))
    | _ => .error .notATable
  | _ => .error .notATable

def records (hits : Value) : Except Failure (List Value) := do (← items hits).mapM hitRecord

end FieldedSearch.Search
