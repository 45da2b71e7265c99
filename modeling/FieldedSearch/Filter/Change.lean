-- SUMMARY: Changes of a filter, and runs of them.
import FieldedSearch.Filter.Query

/-!
# Changes

A change that is refused leaves the filter as it is, with one exception: of several
defaults, those in front of the one that is refused are added.
-/

namespace FieldedSearch

inductive Change
  | add (field value comparison : Value) (isDefault : Bool) (group : Int)
  | addDefaults (defaults : List (String × Value))
  | addQuery (query : String)
  | setKeywords (keywords : Option String)
  | setSort (field order : Value)
  | clearSort
  | clear
  | clearGroup (group : Int)
deriving Repr

namespace Filter

/-- A filter that is replaced, unless there is a failure. -/
def replaceBy (f : Filter) : Except Failure Filter → Filter × Option Failure
  | .ok f' => (f', none)
  | .error e => (f, some e)

def change (f : Filter) : Change → Filter × Option Failure
  | .add field value comparison isDefault group =>
    f.replaceBy (f.addTo field value comparison isDefault group)
  | .addDefaults defaults => f.addDefaults defaults
  | .addQuery query => (f.addQuery query, none)
  | .setKeywords keywords => (f.setKeywords keywords, none)
  | .setSort field order => f.replaceBy (f.setSortBy field order)
  | .clearSort => (f.clearSort, none)
  | .clear => (f.clear, none)
  | .clearGroup group => (f.clearGroup group, none)

/-- Change a filter several times, whether or not a change is refused. -/
def run (f : Filter) (changes : List Change) : Filter :=
  changes.foldl (fun f c => (f.change c).1) f

end Filter

end FieldedSearch
