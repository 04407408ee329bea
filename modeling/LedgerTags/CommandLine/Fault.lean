import LedgerTags.CommandLine.Option
import LedgerTags.Text.Basic
import LedgerTags.Text.Quoted
import LedgerTags.Text.Similarity

/-!
# Misuse of the command line

What can be wrong with the words of a command line, and what is printed about it: how the command is
used, where its help is, and what is wrong.
-/

namespace LedgerTags.CommandLine

/-- Why a word cannot be the value of an option or argument. -/
inductive WordFault where
  /-- There is no such file. -/
  | noFile (path : Text)
  /-- A directory stands where a file is meant. -/
  | isDirectory (path : Text)
  /-- A file stands where a directory is meant. -/
  | isFile (path : Text)
  /-- The word is not among the choices. -/
  | notAChoice (word : Text) (choices : List Text)
  /-- No configuration is found; the message says where. -/
  | noConfig (message : Text)
  /-- The bounds of a range are not two numbers. -/
  | notARange (word : Text)

/-- The wording of a fault. -/
def WordFault.message : WordFault → Text
  | noFile path => "File " ++ Text.quoted path ++ " does not exist."
  | isDirectory path => "File " ++ Text.quoted path ++ " is a directory."
  | isFile path => "Directory " ++ Text.quoted path ++ " is a file."
  | notAChoice word choices =>
    Text.quoted word ++ " is not one of " ++ Text.joinWith ", " (choices.map Text.quoted) ++ "."
  | noConfig message => message
  | notARange word => "not a numeric range: " ++ word

/-- What is wrong with a command line. -/
inductive UsageFault where
  /-- There is no such option; some options are known. -/
  | unknownOption (name : Text) (known : List Text)
  /-- An option stands last that takes a word. -/
  | needsWord (name : Text)
  /-- A switch is given a word. -/
  | takesNoWord (name : Text)
  /-- An argument is missing. -/
  | missingArgument (name : Text)
  /-- There are more words than arguments. -/
  | extraWords (words : List Text)
  /-- A word cannot be the value of what is named. -/
  | badWord (place : Text) (fault : WordFault)
  /-- No command is given. -/
  | missingCommand
  /-- There is no such command. -/
  | unknownCommand (name : Text)
  /-- There is neither a configuration nor a taxonomy. -/
  | noTaxonomy
  /-- A query does not understand an argument; the message says which. -/
  | refused (message : Text)

namespace UsageFault

/-- Some texts between quotes. -/
def quotedList (ts : List Text) : Text := Text.joinWith ", " (ts.map Text.quoted)

/-- The hint that follows a message about a name that is not known. -/
def hint (several name : Text) (known : List Text) : Text :=
  match Text.closeMatches name known with
  | [] => []
  | [t] => " Did you mean " ++ Text.quoted t ++ "?"
  | ts => " (" ++ several ++ ": " ++ quotedList (ts.mergeSort Text.le) ++ ")"

/-- The wording of a fault. -/
def message : UsageFault → Text
  | unknownOption name known =>
    "No such option " ++ Text.quoted name ++ "." ++ hint "Possible options" name known
  | needsWord name => "Option " ++ Text.quoted name ++ " requires an argument."
  | takesNoWord name => "Option " ++ Text.quoted name ++ " does not take a value."
  | missingArgument name => "Missing argument '" ++ name ++ "'."
  | extraWords words =>
    "Got unexpected extra argument" ++ (if words.length = 1 then [] else Text.ofString "s") ++
      " (" ++ Text.joinWith " " words ++ ")"
  | badWord place fault => "Invalid value for " ++ place ++ ": " ++ fault.message
  | missingCommand => "Missing command."
  | unknownCommand name =>
    "No such command " ++ Text.quoted name ++ "." ++
      hint "Did you mean one of" name (CommandName.all.map CommandName.toText)
  | noTaxonomy => "No config.toml found; pass --taxonomy."
  | refused message => message

/-- The faults that are printed without the usage. -/
def isBare : UsageFault → Bool
  | needsWord _ | takesNoWord _ => true
  | _ => false

end UsageFault

/-! ### What is printed -/

/-- The words of the program or of one of its commands. -/
def commandWords (command : Option CommandName) : Text :=
  match command with
  | none => programName
  | some c => programName ++ " " ++ c.toText

/-- How the program or one of its commands is used. -/
def usage (command : Option CommandName) : Text :=
  "Usage: " ++ commandWords command ++ " [OPTIONS] " ++
    match command with
    | none => Text.ofString "COMMAND [ARGS]..."
    | some c => Text.joinWith " " (c.arguments.map Setting.argumentName)

/-- The lines that are printed about a fault in the words of the program or of one of its
commands. -/
def UsageFault.lines (command : Option CommandName) (fault : UsageFault) : List Text :=
  let about : List Text := ["Error: " ++ fault.message]
  if fault.isBare then about
  else usage command :: ("Try '" ++ commandWords command ++ " --help' for help.") :: [] :: about

end LedgerTags.CommandLine
