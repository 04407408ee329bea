import LedgerTags.Categorizer
import LedgerTags.CommandLine.Arguments
import LedgerTags.Decimal.Reader
import LedgerTags.Interchange
import LedgerTags.Query.Filter

/-!
# What a command is asked to do

`Request.ofSettings` turns the settings of a command into a request. The criteria of a filter are
taken as they are written; `amountArgument` and `dateArgument` say what the words for an amount and
for a date mean: two numbers with a colon between them are a range of amounts, a number with the
letter d behind it is a number of days, and two texts with a colon between them are the ends of a
range of dates.
-/

namespace LedgerTags.CommandLine

/-- What a filter is asked for. -/
structure FilterRequest where
  /-- The transactions. -/
  path : Text
  /-- The texts that are asked of text fields. -/
  texts : List (FilterKey × Text)
  /-- The tags. -/
  tags : List Text
  /-- The words for an amount. -/
  amount : Option Text
  /-- The words for a date. -/
  date : Option Text
  /-- Whether the transactions are kept that fail the criteria. -/
  negate : Bool
  /-- The field by which they are sorted. -/
  sort : Option Text
  /-- Whether they are sorted in descending order. -/
  reverse : Bool

/-- What a command is asked to do. -/
inductive Request where
  | categorize (path : Text) (taxonomy : Option Text) (limits : Categorizer.Limits)
    (layout : Interchange.Layout)
  | filter (request : FilterRequest)
  | counts (path field : Text)
  | group (path bucket : Text)
  | merge (first second : Text)
  | tabulate (path out : Text)

/-- A text that is not empty. -/
def nonempty? (t : Option Text) : Option Text := t.filter fun t => !t.isEmpty

/-- The settings for text fields. -/
def textSettings : List (Setting × FilterKey) := [
  (.bank, .bank), (.account, .account), (.name, .name), (.description, .description),
  (.notes, .notes)]

namespace Request

/-- The request of a filter. -/
def filterOf (s : Settings) : FilterRequest where
  path := (s.word? .path).getD []
  texts := textSettings.filterMap fun (setting, what) => (s.word? setting).map fun t => (what, t)
  tags := s.words .tag
  amount := s.word? .amount
  date := s.word? .date
  negate := s.isOn .negate false
  sort := nonempty? (s.word? .sort)
  reverse := s.isOn .reverse false

/-- The request of a command. -/
def ofSettings (command : CommandName) (s : Settings) : Request :=
  let word (what : Setting) (usual : Text) : Text := (s.word? what).getD usual
  match command with
  | .categorize =>
    .categorize (word .path []) (nonempty? (s.word? .taxonomy))
      ⟨s.isOn .small true, s.isOn .large true⟩ (if s.isOn .array false then .array else .lines)
  | .filter => .filter (filterOf s)
  | .counts => .counts (word .path []) (word .key "name")
  | .group => .group (word .path []) (word .bucket "month")
  | .merge => .merge (word .first []) (word .second [])
  | .tabulate => .tabulate (word .path []) (word .out [])

end Request

/-! ### What words mean -/

/-- The colon. -/
def colon : CodePoint := ':'

/-- What the words for an amount mean. A colon makes them a range, which has to have two numbers. -/
def amountArgument (raw : Text) : Except WordFault Argument :=
  match Text.splitAtFirst? colon raw with
  | none => .ok (.value (.text raw))
  | some (lo, hi) =>
    match Decimal.ofText? lo, Decimal.ofText? hi with
    | some a, some b => .ok (.value (.tuple [.decimal a, .decimal b]))
    | _, _ => .error (.notARange raw)

/-- Whether words look like a number of days: characters with a digit value and the letter d. -/
def looksLikeDays (raw : Text) : Bool :=
  let digits := raw.dropLast
  !digits.isEmpty && digits.all CodePoint.isDigit &&
    Text.lower (raw.drop digits.length) == ("d" : Text)

/-- What the words for a date mean. Not every character with a digit value can stand in a number, so
what looks like a number of days may not be one. -/
def dateArgument (raw : Text) : Outcome Argument :=
  if looksLikeDays raw then
    match Numeral.int? 10 raw.dropLast with
    | .ok n => .ok (.value (.int n))
    | .error .malformed => .error (.notAWholeNumber 10 raw.dropLast)
    | .error (.tooLong digits) => .error (.numeralTooLong (some digits))
  else
    match Text.splitAtFirst? colon raw with
    | some (first, last) => .ok (.value (.tuple [.text first, .text last]))
    | none => .ok (.value (.text raw))

/-- The argument of some tags: a single one stands for itself. -/
def tagArgument : List Text → Option Argument
  | [] => none
  | [t] => some (.value (.text t))
  | ts => some (.value (.list (ts.map .text)))

end LedgerTags.CommandLine
