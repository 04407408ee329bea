import LedgerTags.Text.CodePoint

/-!
# Commands and their options

The program has six commands. Options of the program stand before the command, options of a command
behind it and between its arguments. An option is a switch or takes the word that follows it.
-/

namespace LedgerTags.CommandLine

/-- The name of the program. -/
def programName : Text := "txntag"

/-- What an option or an argument sets. -/
inductive Setting where
  /-- The help is shown. -/
  | help
  /-- Only warnings and errors are logged. -/
  | quiet
  /-- Everything is logged. -/
  | verbose
  /-- The configuration. -/
  | config
  /-- The transactions. -/
  | path
  /-- The first of two collections of transactions. -/
  | first
  /-- The second of two collections of transactions. -/
  | second
  /-- The file that is written. -/
  | out
  /-- The taxonomy directory. -/
  | taxonomy
  /-- Whether small amounts are tagged. -/
  | small
  /-- Whether large amounts are tagged. -/
  | large
  /-- Whether transactions are printed as one array. -/
  | array
  | bank
  | account
  | tag
  | name
  | description
  | notes
  | amount
  | date
  /-- Whether the transactions are kept that fail the criteria. -/
  | negate
  /-- The field by which the transactions are sorted. -/
  | sort
  /-- Whether they are sorted in descending order. -/
  | reverse
  /-- The field whose values are counted. -/
  | key
  /-- The period by which the transactions are grouped. -/
  | bucket
deriving DecidableEq, Repr

/-- The name of an argument in messages. -/
def Setting.argumentName : Setting → Text
  | first => "FIRST"
  | second => "SECOND"
  | out => "OUT"
  | _ => "PATH"

/-- An option. -/
structure OptionSpec where
  /-- How it is written. -/
  name : Text
  /-- What it sets. -/
  setting : Setting
  /-- What it sets it to, if it is a switch; any other option takes a word. -/
  switch : Option Bool := none

/-- The option that shows the help. -/
def helpOption : OptionSpec := ⟨"--help", .help, some true⟩

/-- The options of the program. -/
def programOptions : List OptionSpec := [
  ⟨"--quiet", .quiet, some true⟩, ⟨"--verbose", .verbose, some true⟩, ⟨"--config", .config, none⟩,
  helpOption]

/-- The commands. -/
inductive CommandName where
  /-- Names and tags transactions. -/
  | categorize
  /-- Prints the transactions that meet criteria. -/
  | filter
  /-- Counts the values of a field. -/
  | counts
  /-- Prints count and total for each calendar period. -/
  | group
  /-- Merges two collections. -/
  | merge
  /-- Writes a table. -/
  | tabulate
deriving DecidableEq, Repr

namespace CommandName

/-- All commands. -/
def all : List CommandName := [categorize, filter, counts, group, merge, tabulate]

/-- How a command is written. -/
def toText : CommandName → Text
  | categorize => "categorize"
  | filter => "filter"
  | counts => "counts"
  | group => "group"
  | merge => "merge"
  | tabulate => "export"

/-- The command that is written so. -/
def ofText? (t : Text) : Option CommandName := all.find? fun c => c.toText == t

/-- The options of a command. -/
def options : CommandName → List OptionSpec
  | categorize => [
    ⟨"--taxonomy", .taxonomy, none⟩, ⟨"--micro", .small, some true⟩,
    ⟨"--no-micro", .small, some false⟩, ⟨"--macro", .large, some true⟩,
    ⟨"--no-macro", .large, some false⟩, ⟨"--json", .array, some true⟩, helpOption]
  | filter => [
    ⟨"--bank", .bank, none⟩, ⟨"--account", .account, none⟩, ⟨"--tag", .tag, none⟩,
    ⟨"--name", .name, none⟩, ⟨"--description", .description, none⟩, ⟨"--notes", .notes, none⟩,
    ⟨"--amount", .amount, none⟩, ⟨"--date", .date, none⟩, ⟨"--negate", .negate, some true⟩,
    ⟨"--sort", .sort, none⟩, ⟨"--reverse", .reverse, some true⟩, helpOption]
  | counts => [⟨"--key", .key, none⟩, helpOption]
  | group => [⟨"--bucket", .bucket, none⟩, helpOption]
  | merge | tabulate => [helpOption]

/-- The arguments of a command. -/
def arguments : CommandName → List Setting
  | merge => [.first, .second]
  | tabulate => [.path, .out]
  | _ => [.path]

end CommandName

end LedgerTags.CommandLine
