import LedgerTags.Decimal.Context
import LedgerTags.Pattern.Fault
import LedgerTags.Value.Display

/-!
# Errors

What can go wrong, by cause. `Error.message` is the wording of an error and `Error.kind` its family:
callers that recover from errors do so by family. A message that shows a value exists only for
values that can be displayed; `Error.about` takes care of that.
-/

namespace LedgerTags

/-- Why a file cannot be read. -/
inductive FileFault where
  /-- There is no such file. -/
  | missing
  /-- It is a directory. -/
  | isDirectory
  /-- A part of its path is no directory. -/
  | notDirectory
deriving DecidableEq, Repr

/-- The number and wording of the fault. -/
def FileFault.message : FileFault → Text
  | missing => "[Errno 2] No such file or directory"
  | isDirectory => "[Errno 21] Is a directory"
  | notDirectory => "[Errno 20] Not a directory"

/-- What is wrong with a taxonomy or a configuration. -/
inductive ConfigProblem where
  | ruleNotMapping
  | ruleWithoutName
  | ruleWithoutMatch (name : Text)
  | badPattern (pattern : Text) (problem : Pattern.Problem) (place : Option Nat)
  /-- Not a list at all. -/
  | notAList (what : Text)
  /-- A list with a member that is no text, and how that is displayed. -/
  | notAText (what member : Text)
  | notMapping
  | dataMissing
  | invalidYaml
  /-- A file that cannot be opened or read, and what is said about that. -/
  | unreadable (wording : Text)
  | directoryMissing
  | badThreshold (reason : Text)
  /-- A problem that is only known by its wording. -/
  | other (wording : Text)

/-- The wording of a problem. -/
def ConfigProblem.message : ConfigProblem → Text
  | ruleNotMapping => "rule must be a mapping"
  | ruleWithoutName => "rule needs a non-empty 'name'"
  | ruleWithoutMatch name => "rule " ++ Text.quoted name ++ " needs a 'match' pattern"
  | badPattern pattern problem place =>
    "bad pattern " ++ Text.quoted pattern ++ ": " ++ Pattern.placedMessage pattern problem place
  | notAList what => what ++ " must be a list of strings"
  | notAText what member => what ++ " must be a list of strings, got " ++ member
  | notMapping => "taxonomy file must be a mapping"
  | dataMissing => "taxonomy file needs a 'data' list"
  | invalidYaml => "invalid YAML"
  | unreadable wording => "cannot read file: " ++ wording
  | directoryMissing => "taxonomy directory not found"
  | badThreshold reason => "bad [thresholds] value: " ++ reason
  | other wording => wording

/-- The order comparisons. -/
inductive Comparison where
  | lt
  | le
  | gt
  | ge
deriving DecidableEq, Repr

/-- The sign of a comparison. -/
def Comparison.toText : Comparison → Text
  | lt => "<"
  | le => "<="
  | gt => ">"
  | ge => ">="

/-- Families of errors. -/
inductive ErrorKind where
  | config
  | argument
  | value
  | type
  | member
  | key
  | index
  | invalidOperation
  | decimalOverflow
  | numberTooLarge
  | fileMissing
  | isDirectory
  | notDirectory
  | system
  | undecodable
  | unencodable
  | malformedJson
  | malformedToml
  /-- Any other family; no caller recovers from its errors. -/
  | other
deriving DecidableEq, Repr

/-- What can go wrong. Kinds of values are given by their names. -/
inductive Error where
  /-- A taxonomy or configuration is broken: in a file, and at a rule of it. -/
  | config (problem : ConfigProblem) (path : Option Text) (index : Option Int)
  /-- An argument of a query has a form that is not understood. -/
  | argument (field : Text) (value : Value) (expected : Text)
  -- Values that do not mean what is asked for.
  | notADate (raw : Value)
  | notAnAmount (raw : Value)
  | badTags (raw : Value)
  | unknownBucket (raw : Value)
  | noSuchDay (fault : Date.Fault)
  | noSuchTime (fault : TimeOfDay.Fault)
  | offsetTooLarge (minutes : Int)
  | noSuchCharacter
  | notAWholeNumber (base : Nat) (numeral : Text)
  | numeralTooLong (digits : Option Nat)
  | notAFloat (numeral : Text)
  | unknownLevel (name : Text)
  | notTransactions (path : Text)
  | asciiAndUnicode
  | notANumber (cell : Text) (row : Nat)
  | integerOutOfRange (row : Nat)
  /-- Surrogates from one place of a line to another, which no file can hold. -/
  | unwritable (c : CodePoint) (first last : Nat)
  -- Values of the wrong kind.
  | unorderable (comparison : Comparison) (left right : Text)
  | datesOfTwoKinds (left right : Text)
  | offsetsOfTwoKinds
  | unhashable (kind : Text)
  | signalingHash
  | notIterable (kind : Text)
  | matchNotText (kind : Text)
  | noMagnitude (kind : Text)
  | noUnion (left right : Text)
  | noDifference (left right : Text)
  | itemNotText (index : Nat) (kind : Text)
  | notMapping (kind : Text)
  | notAPath (kind : Text)
  | notAnIndex (container kind : Text)
  | notSubscriptable (kind : Text)
  | noKeywords (function : Text)
  | unknownKeyword (function key : Text)
  | repeatedArgument (function key : Text)
  | noTaxonomySource
  -- Missing parts.
  | missingAttribute (kind name : Text)
  | missingKey (key : Value)
  | indexOutOfRange (what : Text)
  -- Arithmetic.
  | invalidOperation
  | decimalOverflow
  | numberTooLarge
  -- Files and documents.
  | configMissing (path : Text)
  | file (fault : FileFault) (path : Text)
  | noParentDirectory (path : Text)
  | undecodable
  | malformedJson
  | malformedToml
  /-- An error of something outside, of which only the family and the wording are known. -/
  | raised (kind : ErrorKind) (wording : Text)

namespace Error

/-- The family of an error. -/
def kind : Error → ErrorKind
  | config .. => .config
  | argument .. => .argument
  | noSuchDay (.span _) | noSuchDay .beforeFirst => .numberTooLarge
  | notADate _ | notAnAmount _ | badTags _ | unknownBucket _ | noSuchDay _ | noSuchTime _
  | offsetTooLarge _ | noSuchCharacter | notAWholeNumber .. | numeralTooLong _ | notAFloat _
  | unknownLevel _ | notTransactions _ | asciiAndUnicode | notANumber .. | integerOutOfRange _ =>
    .value
  | unwritable .. => .unencodable
  | unorderable .. | datesOfTwoKinds .. | offsetsOfTwoKinds | unhashable _ | signalingHash
  | notIterable _ | matchNotText _ | noMagnitude _ | noUnion .. | noDifference .. | itemNotText ..
  | notMapping _ | notAPath _ | notAnIndex .. | notSubscriptable _ | noKeywords _
  | unknownKeyword .. | repeatedArgument .. | noTaxonomySource => .type
  | missingAttribute .. => .member
  | missingKey _ => .key
  | indexOutOfRange _ => .index
  | invalidOperation => .invalidOperation
  | decimalOverflow => .decimalOverflow
  | numberTooLarge => .numberTooLarge
  | configMissing _ => .fileMissing
  | file .missing _ => .fileMissing
  | file .isDirectory _ => .isDirectory
  | file .notDirectory _ => .notDirectory
  | noParentDirectory _ => .system
  | undecodable => .undecodable
  | malformedJson => .malformedJson
  | malformedToml => .malformedToml
  | raised kind _ => kind

/-- The errors that say that a value does not mean what is asked for. -/
def isBadValue (e : Error) : Bool :=
  match e.kind with
  | .value | .argument | .undecodable | .unencodable | .malformedJson | .malformedToml => true
  | _ => false

/-- The errors that come from the file system. -/
def isFileError (e : Error) : Bool :=
  match e.kind with
  | .fileMissing | .isDirectory | .notDirectory | .system => true
  | _ => false

/-- What an error about a configuration says before its problem: the file and the rule. -/
def location (path : Option Text) (index : Option Int) : Text :=
  Text.joinWith ": "
    (path.toList ++ index.toList.map fun i => "rule #" ++ Text.ofInt i)

/-- The problem of an error about a configuration with its location. -/
def configMessage (problem : ConfigProblem) (path : Option Text) (index : Option Int) : Text :=
  let place := location path index
  if place.isEmpty then problem.message else place ++ ": " ++ problem.message

/-- A text with a word about a kind before it. -/
private def ofKind (before kind after : Text) : Text := before ++ "'" ++ kind ++ "'" ++ after

/-- The hint that ends the messages on long numerals. -/
private def numeralHint : Text := "; use sys.set_int_max_str_digits() to increase the limit"

/-- The display of a distance from universal time as a span of time. -/
private def spanText (minutes : Int) : Text :=
  let days := Int.fdiv minutes 1440
  let seconds := Int.fmod minutes 1440 * 60
  let parts : List Text :=
    (if days = 0 then [] else ["days=" ++ Text.ofInt days]) ++
      (if seconds = 0 then [] else ["seconds=" ++ Text.ofInt seconds])
  "datetime.timedelta(" ++ (if parts.isEmpty then ("0" : Text) else Text.joinWith ", " parts) ++ ")"

/-- The wording of an error. -/
def message : Error → Text
  | config problem path index => configMessage problem path index
  | argument field value expected =>
    "unsupported value for " ++ Text.quoted field ++ ": " ++ value.display ++ " (expected " ++
      expected ++ ")"
  | notADate raw => "not a calendar date: " ++ raw.display
  | notAnAmount raw => "not an amount: " ++ raw.display
  | badTags raw => "tags must be a string or a list of strings: " ++ raw.display
  | unknownBucket raw => "unknown bucket: " ++ raw.display
  | noSuchDay (.year y) => "year " ++ Text.ofNat y ++ " is out of range"
  | noSuchDay .month => "month must be in 1..12"
  | noSuchDay .day => "day is out of range for month"
  | noSuchDay (.span days) =>
    if days ≤ 2147483647 then
      "days=" ++ Text.ofNat days ++ "; must have magnitude <= " ++ Text.ofNat Date.longestSpan
    else "Python int too large to convert to C int"
  | noSuchDay .beforeFirst => "date value out of range"
  | noSuchTime .hour => "hour must be in 0..23"
  | noSuchTime .minute => "minute must be in 0..59"
  | noSuchTime .second => "second must be in 0..59"
  | offsetTooLarge minutes =>
    "offset must be a timedelta strictly between -timedelta(hours=24) and timedelta(hours=24)," ++
      " not " ++ spanText minutes ++ "."
  | noSuchCharacter => "chr() arg not in range(0x110000)"
  | notAWholeNumber base numeral =>
    "invalid literal for int() with base " ++ Text.ofNat base ++ ": " ++
      (Text.quoted numeral).take 200
  | numeralTooLong digits =>
    "Exceeds the limit (4300 digits) for integer string conversion" ++
      (match digits with
      | some n => ": value has " ++ Text.ofNat n ++ " digits"
      | none => []) ++ numeralHint
  | notAFloat numeral => "could not convert string to float: " ++ Text.quoted numeral
  | unknownLevel name => "Unknown level: " ++ Text.quoted name
  | notTransactions path => path ++ ": expected transaction objects"
  | asciiAndUnicode => "ASCII and UNICODE flags are incompatible"
  | notANumber cell row =>
    "Unable to parse string \"" ++ cell ++ "\" at position " ++ Text.ofNat row
  | integerOutOfRange row => "Integer out of range. at position " ++ Text.ofNat row
  | unwritable c first last =>
    "'utf-8' codec can't encode character" ++
      (if first = last then
        " '\\u" ++ Text.hexPadded 4 c.val ++ "' in position " ++ Text.ofNat first
      else "s in position " ++ Text.ofNat first ++ "-" ++ Text.ofNat last) ++
      ": surrogates not allowed"
  | unorderable comparison left right =>
    "'" ++ comparison.toText ++ "' not supported between instances of '" ++ left ++ "' and '" ++
      right ++ "'"
  | datesOfTwoKinds left right => "can't compare " ++ left ++ " to " ++ right
  | offsetsOfTwoKinds => "can't compare offset-naive and offset-aware datetimes"
  | unhashable kind => ofKind "unhashable type: " kind []
  | signalingHash => "Cannot hash a signaling NaN value"
  | notIterable kind => ofKind [] kind " object is not iterable"
  | matchNotText kind => "expected string or bytes-like object, got '" ++ kind ++ "'"
  | noMagnitude kind => ofKind "bad operand type for abs(): " kind []
  | noUnion left right =>
    "unsupported operand type(s) for |=: '" ++ left ++ "' and '" ++ right ++ "'"
  | noDifference left right =>
    "unsupported operand type(s) for -: '" ++ left ++ "' and '" ++ right ++ "'"
  | itemNotText index kind =>
    "sequence item " ++ Text.ofNat index ++ ": expected str instance, " ++ kind ++ " found"
  | notMapping kind => ofKind [] kind " object is not a mapping"
  | notAPath kind => "expected str, bytes or os.PathLike object, not " ++ kind
  | notAnIndex container kind =>
    container ++ " indices must be integers" ++
      (if container = ("string" : Text) then ", not '" ++ kind ++ "'"
      else " or slices, not " ++ kind)
  | notSubscriptable kind => ofKind [] kind " object is not subscriptable"
  | noKeywords function => function ++ "() takes no keyword arguments"
  | unknownKeyword function key =>
    function ++ "() got an unexpected keyword argument '" ++ key ++ "'"
  | repeatedArgument function key =>
    function ++ "() got multiple values for argument '" ++ key ++ "'"
  | noTaxonomySource => "Categorizer needs a taxonomy directory or a RuleStore"
  | missingAttribute kind name =>
    "'" ++ kind ++ "' object has no attribute '" ++ name ++ "'"
  | missingKey key => key.display
  | indexOutOfRange what => what ++ " index out of range"
  | invalidOperation => "invalid operation"
  | decimalOverflow => "overflow"
  | numberTooLarge => "number too large"
  | configMissing path => "Config not found: " ++ path
  | file fault path => fault.message ++ ": " ++ Text.quoted path
  | noParentDirectory path =>
    "Cannot save file into a non-existent directory: '" ++ path ++ "'"
  | undecodable => "invalid UTF-8"
  | malformedJson => "malformed JSON"
  | malformedToml => "malformed TOML"
  | raised _ wording => wording

/-- An error that shows a value, or the error that the value cannot be displayed. -/
def about (make : Value → Error) (v : Value) : Error :=
  if v.isDisplayable then make v else numeralTooLong none

/-- The error for a fault in decimal arithmetic. -/
def ofDecimal : Decimal.Fault → Error
  | .invalidOperation => invalidOperation
  | .overflow => decimalOverflow

end Error

/-- The outcome of an operation that can fail. -/
abbrev Outcome (α : Type) := Except Error α

end LedgerTags
