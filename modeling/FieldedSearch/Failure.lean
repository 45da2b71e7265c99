-- SUMMARY: Everything that can go wrong, by its cause, with the message that reports it.
import FieldedSearch.Comparison
import FieldedSearch.Value
import FieldedSearch.ValueType

/-!
# Failures

A failure says what is wrong; `Failure.message` words it. `Failure.category` says in
which part of the work it arises, and with it who is to blame: whoever wrote the
search string, whoever configured the search, the backend, or this library.

A failure keeps what it is about rather than the words for it. Whether the text of a value
can be written (`Value.obstacle?`) is asked where that text is the result. Where a message
would only mention the value this is left out, for both bounds: a value that is refused is
refused in the same way however long its numbers are and however deep it is nested.
-/

namespace FieldedSearch

-- ---------------------------------------------------------------------------
-- Answers that are not what was expected
-- ---------------------------------------------------------------------------

/-- The word for the kind of a value in messages. -/
def Value.kind : Value → String
  | .null => "NoneType"
  | .bool _ => "bool"
  | .int _ => "int"
  | .float _ => "float"
  | .text _ => "str"
  | .date _ => "datetime.date"
  | .dateTime _ => "datetime.datetime"
  | .time _ => "datetime.time"
  | .list _ => "list"
  | .map _ => "dict"

/-- Why the number of hits cannot be read from an answer. -/
inductive Irregularity
  | missing (name : String)
  | notATable (found : Value)
  | notACount (found : Value)
  | notANumeral (text : String)
  | numeralTooLong (digits : Nat)
  | notANumber
deriving Repr

/-- The words for looking up a name in something that is not a table. -/
def Irregularity.lookupText : Value → String
  | .list _ => "list indices must be integers or slices, not str"
  | .text _ => "string indices must be integers, not 'str'"
  | v => s!"'{v.kind}' object is not subscriptable"

/-- The words for a number with too many digits, with what is known of it. -/
def tooManyDigitsText (known : String) : String :=
  s!"Exceeds the limit ({Text.Integer.digitLimit} digits) for integer string conversion{known}; " ++
    "use sys.set_int_max_str_digits() to increase the limit"

def numeralTooLongText (digits : Nat) : String := tooManyDigitsText s!": value has {digits} digits"

def notANumberText : String := "cannot convert float NaN to integer"

/-- The words for a text that is no numeral. It is shown up to its first 200
characters. -/
def notANumeralText (text : String) : String :=
  "invalid literal for int() with base 10: " ++ String.ofList ((Text.quoted text.toList).take 200)

/-- What is said to be missing. -/
def Irregularity.message : Irregularity → String
  | .missing name => String.ofList (Text.quoted name.toList)
  | .notATable v => lookupText v
  | .notACount v =>
    "int() argument must be a string, a bytes-like object or a real number, not " ++ s!"'{v.kind}'"
  | .notANumeral s => notANumeralText s
  | .numeralTooLong digits => numeralTooLongText digits
  | .notANumber => notANumberText

/-- What is wrong with the answer of the backend. -/
inductive BackendFault
  | unreachable (reason : String)
  | rejected (status : Int) (body : String)
  | notJson (status : Int) (body : String)
  | irregular (cause : Irregularity)
  | reported (message : String) (status : Option Int) (body : String)
deriving Repr

namespace BackendFault

/-- The status of the answer, where it matters. -/
def status : BackendFault → Option Int
  | rejected status _ | notJson status _ => some status
  | reported _ status _ => status
  | _ => none

private def withBody (message body : String) : String :=
  if body = "" then message else message ++ "\n" ++ body

/-- The message, with the body of the answer behind it if there is one. -/
def message : BackendFault → String
  | unreachable reason => "Request to CloudSearch failed: " ++ reason
  | rejected _ body => withBody "Invalid response received from CloudSearch." body
  | notJson _ body => withBody "CloudSearch returned invalid JSON." body
  | irregular cause => "Unexpected response from CloudSearch: missing " ++ cause.message
  | reported message _ body => withBody message body

end BackendFault

-- ---------------------------------------------------------------------------
-- Failures
-- ---------------------------------------------------------------------------

/-- The part of the work in which a failure arises. -/
inductive Category
  | settings
  | registry
  | filter
  | query
  | search
  | searchSettings
  | backend
  | internal
deriving DecidableEq, Repr

inductive Failure
  | duplicateField (name : String)
  | unknownField (name : String)
  | invalidSortField (name : String)
  | unmappedField (name : String)
  | unsupportedComparison (field : String) (comparison : Comparison) (type : ValueType)
  | invalidDate (field text : String)
  | invalidSetting (key reason : String)
  | invalidDocument (path : String)
  | noOptions
  | noEndpoint
  | backend (fault : BackendFault)
  | notAComparison (value : Value)
  | notAValueType (value : Value)
  | noPhysicalField
  | negativeGroup (group : Int)
  | negativeOffset (offset : Int)
  | nonPositivePageSize (size : Int)
  | notANumber
  | numeralTooLong (digits : Nat)
  | notANumeral (text : String)
  | notWritable
  | unwritable (value : Value)
  | tooDeep
  | tooLarge
  | missingEntry (name : String)
  | wrongKind
  | notATable
  | notUtf8 (path : String)
  | isDirectory (path : String)
  | notADirectory (path : String)
  | alreadyExists (path : String)
  | nameTooLong (path : String)
  | nulInPath
  | homeless
  | unopenedTag (tag : String)
  | brokenHandler (tag : String)
  | reported (category : Category) (message : String)
deriving Repr

namespace Failure

def unsupportedText (field symbol type : String) : String :=
  s!"Comparison '{symbol}' is not supported for {type} field [{field}]"

def invalidValueText (field reason : String) : String := s!"Invalid value for [{field}]: {reason}"

def invalidSettingText (key reason : String) : String :=
  s!"Invalid config value for '{key}': {reason}"

def invalidDocumentText (path detail : String) : String := s!"Invalid config at {path}: {detail}"

/-- The message for a file that cannot be used, with its number and words. -/
def fileText (number words path : String) : String :=
  "[Errno " ++ number ++ "] " ++ words ++ ": " ++ String.ofList (Text.quoted path.toList)

def tooDeepText : String := "values nested too deeply"

private def notA (value : Value) (kind : String) : String :=
  String.ofList value.literal ++ " is not a valid " ++ kind

def message : Failure → String
  | duplicateField name => s!"Field already registered: {name}"
  | unknownField name => s!"Invalid field [{name}] specified"
  | invalidSortField name => s!"Invalid sort field [{name}] specified"
  | unmappedField name => s!"No field mapping for [{name}]"
  | unsupportedComparison field comparison type =>
    unsupportedText field comparison.symbol type.word
  | invalidDate field text => invalidValueText field s!"'{text}' is not an ISO 8601 date"
  | invalidSetting key reason => invalidSettingText key reason
  | invalidDocument path => invalidDocumentText path "not a TOML document"
  | noOptions => "No options were specified"
  | noEndpoint => "No search endpoint configured"
  | backend fault => fault.message
  | notAComparison value => notA value "Comparison"
  | notAValueType value => notA value "ValueType"
  | noPhysicalField => "A field descriptor needs at least one physical field"
  | negativeGroup group => s!"Group must be >= 0, got {group}"
  | negativeOffset offset => s!"Offset must be >= 0, got {offset}"
  | nonPositivePageSize size => s!"Page size must be > 0, got {size}"
  | notANumber => notANumberText
  | numeralTooLong digits => numeralTooLongText digits
  | notANumeral text => notANumeralText text
  | notWritable => tooManyDigitsText ""
  | unwritable value =>
    if value.obstacle? = some .nesting then tooDeepText else tooManyDigitsText ""
  | tooDeep => tooDeepText
  | tooLarge => "number too large to convert"
  | missingEntry name => String.ofList (Text.quoted name.toList)
  | wrongKind => "value of the wrong kind"
  | notATable => "value without entries"
  | notUtf8 path => s!"not UTF-8: {path}"
  | isDirectory path => fileText "21" "Is a directory" path
  | notADirectory path => fileText "20" "Not a directory" path
  | alreadyExists path => fileText "17" "File exists" path
  | nameTooLong path => fileText "36" "File name too long" path
  | nulInPath => "embedded null byte"
  | homeless => "no home directory"
  | unopenedTag tag => s!"closing tag '{tag}' has nothing to close"
  | brokenHandler tag => s!"the parameters of tag '{tag}' cannot be read"
  | reported _ message => message

def category : Failure → Category
  | duplicateField _ | unknownField _ => .registry
  | invalidSortField _ => .filter
  | unmappedField _ | unsupportedComparison _ _ _ | invalidDate _ _ => .query
  | invalidSetting _ _ | invalidDocument _ => .settings
  | noOptions | noEndpoint => .searchSettings
  | backend _ => .backend
  | reported category _ => category
  | _ => .internal

end Failure

/-- The comparison whose symbol a value is. Any other value is refused as itself, whether or
not there is a text of it. -/
def Comparison.ofValue (value : Value) : Except Failure Comparison :=
  match value.text?.bind Comparison.ofSymbol? with
  | some c => .ok c
  | none => .error (.notAComparison value)

/-- The type of field whose word a value is; any other value is refused in the same way. -/
def ValueType.ofValue (value : Value) : Except Failure ValueType :=
  match value.text?.bind ValueType.ofWord? with
  | some t => .ok t
  | none => .error (.notAValueType value)

end FieldedSearch
