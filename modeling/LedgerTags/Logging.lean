import LedgerTags.Error

/-!
# Log lines

A line of the log has a severity, the name of the part that wrote it, and a message. Lines below the
threshold are not shown. The threshold is set by a name; names that are not known mean the ordinary
threshold, with one exception: the name of the standard line format is taken for a threshold and
refused.
-/

namespace LedgerTags

/-- How much a line matters. -/
inductive Severity where
  | debug
  | info
  | warning
  | error
deriving DecidableEq, Repr

/-- The number of a severity. -/
def Severity.toNat : Severity → Nat
  | debug => 10
  | info => 20
  | warning => 30
  | error => 40

/-- The name of a severity. -/
def Severity.toText : Severity → Text
  | debug => "DEBUG"
  | info => "INFO"
  | warning => "WARNING"
  | error => "ERROR"

/-- A line of the log. -/
structure LogLine where
  /-- How much it matters. -/
  severity : Severity
  /-- The part that wrote it. -/
  source : Text
  /-- What it says. -/
  message : Text

/-- A line as it is shown. -/
def LogLine.toText (l : LogLine) : Text :=
  l.severity.toText.padRight 8 ++ " | " ++ l.source ++ " | " ++ l.message

/-- What is set about the log. -/
structure Logging where
  /-- The least number of a severity that is shown. -/
  threshold : Nat := 30
  /-- The places that lines are shown at. -/
  outputs : Nat := 0
deriving Repr

namespace Logging

/-- The thresholds by name. -/
def thresholds : List (Text × Nat) := [
  ("DEBUG", 10), ("INFO", 20), ("WARNING", 30), ("WARN", 30), ("ERROR", 40), ("CRITICAL", 50),
  ("FATAL", 50), ("NOTSET", 0)]

/-- The ordinary threshold. -/
def ordinary : Nat := 20

/-- The name that is taken for a threshold and refused. -/
def formatName : Text := "BASIC_FORMAT"

/-- The standard line format. -/
def format : Text := "%(levelname)s:%(name)s:%(message)s"

/-- The threshold that a value names. -/
def threshold? (level : Value) : Outcome Nat := do
  if !level.isDisplayable then throw (.numeralTooLong none)
  let name := Text.upper level.plain
  if name = formatName then throw (.unknownLevel format)
  return (thresholds.lookup name).getD ordinary

/-- Sets the log up. Without `force` nothing changes once an output is there. The output is there
even if the threshold is refused. -/
def setUp (s : Logging) (level : Value) (force : Bool) : Logging × Outcome Unit :=
  match threshold? level with
  | .error (.unknownLevel name) =>
    if s.outputs = 0 || force then ({ s with outputs := 1 }, .error (.unknownLevel name))
    else (s, .ok ())
  | .error e => (s, .error e)
  | .ok n => if s.outputs = 0 || force then (⟨n, 1⟩, .ok ()) else (s, .ok ())

/-- The lines that are shown. -/
def shown (s : Logging) (ls : List LogLine) : List Text :=
  (ls.filter fun l => s.threshold ≤ l.severity.toNat).map LogLine.toText

end Logging

end LedgerTags
