import LedgerTags.CommandLine.Request
import LedgerTags.Config
import LedgerTags.Frame.Csv
import LedgerTags.Query.Count
import LedgerTags.Query.Merge
import LedgerTags.Query.Sort
import LedgerTags.Query.Total
import LedgerTags.Taxonomy.Shipped

/-!
# Running a command line

A run prints lines, writes lines about what it does, can write a file, and ends with an exit code or
with an error that no command takes care of. What has been printed before the end stays, whatever
the end is.
-/

namespace LedgerTags.CommandLine

/-- What a run has written, and what it works with. -/
structure Console where
  /-- The lines that are printed. -/
  output : List Text := []
  /-- The lines about misuse and the log. -/
  messages : List Text := []
  /-- The files. -/
  files : FileSystem
  /-- The log. -/
  logging : Logging := {}

/-- How a run ends early. -/
inductive Ending where
  /-- With an exit code. -/
  | exit (code : Nat)
  /-- With an error that no command takes care of. -/
  | failure (e : Error)

/-- Something that a run does. -/
abbrev Action (α : Type) := ExceptT Ending (StateM Console) α

/-- The exit code for bad input and misuse. -/
def badInputCode : Nat := 2

/-- The exit code for a broken taxonomy. -/
def badTaxonomyCode : Nat := 3

/-- Prints a line. -/
def print (line : Text) : Action Unit :=
  modify fun c => { c with output := c.output ++ [line] }

/-- Prints lines. -/
def printAll (lines : List Text) : Action Unit := lines.forM print

/-- Writes lines to the log. -/
def log (lines : List LogLine) : Action Unit :=
  modify fun c => { c with messages := c.messages ++ c.logging.shown lines }

/-- Writes a line of the program itself to the log. -/
def note (severity : Severity) (message : Text) : Action Unit :=
  log [⟨severity, programName, message⟩]

/-- The files. -/
def files : Action FileSystem := do
  let c ← get
  return c.files

/-- The result of something that can fail, whose error no command takes care of. -/
def orFail {α : Type} (r : Outcome α) : Action α :=
  match r with
  | .ok a => pure a
  | .error e => throw (.failure e)

/-- Ends the run with a fault in the words of the program or of one of its commands. -/
def misuse {α : Type} (command : Option CommandName) (fault : UsageFault) : Action α := do
  modify fun c => { c with messages := c.messages ++ fault.lines command }
  throw (.exit badInputCode)

/-- The result of something that can find a fault in the words. -/
def orMisuse {α : Type} (command : Option CommandName) (r : Except UsageFault α) : Action α :=
  match r with
  | .ok a => pure a
  | .error fault => misuse command fault

/-- The result of a query, which may not understand an argument. -/
def orRefuse {α : Type} (command : CommandName) (r : Outcome α) : Action α :=
  match r with
  | .ok a => pure a
  | .error e =>
    if e.kind = .argument then misuse (some command) (.refused e.message) else throw (.failure e)

/-! ### Transactions -/

/-- What the log says about input that cannot be read. -/
def unreadable (e : Error) : Text :=
  match e with
  | .malformedJson | .undecodable => "<unreadable>"
  | e => e.message

/-- Reads the transactions of a file. -/
def readFile (fs : FileSystem) (path : Text) : Outcome (List Transaction) := do
  Interchange.readOctets path (← fs.read path)

/-- The transactions of a file. A run ends with a log line if there are none to be had. -/
def load (path : Text) : Action (List Transaction) := do
  match readFile (← files) path with
  | .ok ts => return ts
  | .error e =>
    if e.isBadValue || e.isFileError then
      note .error ("Cannot read transactions from " ++ path ++ ": " ++ unreadable e)
      throw (.exit badInputCode)
    else throw (.failure e)

/-- Prints transactions. -/
def emit (layout : Interchange.Layout) (ts : List Transaction) : Action Unit := do
  printAll (← orFail (Interchange.writeLines layout ts))

/-! ### Commands -/

/-- The categorizer of a taxonomy directory or else of the configuration, and what is logged about
it. -/
def chooseCategorizer (fs : FileSystem) (config : Option Value) (taxonomy : Option Text) :
    Option (List LogLine × Outcome Categorizer) :=
  match taxonomy, config with
  | some directory, _ =>
    some (RuleStore.loadLines (.ofTree fs) directory,
      Categorizer.ofDirectory fs (.text directory) Categorizer.usualSmallLimit
        Categorizer.usualLargeLimit)
  | none, some config => some (Config.taxonomyLines fs config, Categorizer.ofConfig fs config)
  | none, none => none

/-- The categorizer of a run. -/
def categorizer (config : Option Value) (taxonomy : Option Text) : Action Categorizer := do
  match chooseCategorizer (← files) config taxonomy with
  | none => misuse (some .categorize) .noTaxonomy
  | some (lines, result) =>
    log lines
    match result with
    | .ok c => return c
    | .error e =>
      if e.kind = .config then
        note .error ("Taxonomy failed to load: " ++ e.message)
        throw (.exit badTaxonomyCode)
      else throw (.failure e)

/-- Names and tags the transactions of a file and prints them. -/
def categorize (config : Option Value) (path : Text) (taxonomy : Option Text)
    (limits : Categorizer.Limits) (layout : Interchange.Layout) : Action Unit := do
  let c ← categorizer config taxonomy
  let ts ← load path
  let (ledger, result) := c.annotate limits (List.range ts.length) ⟨ts⟩
  let tally ← orFail result
  log [Categorizer.logLine ts.length tally]
  note .info ("Categorized " ++ Text.ofNat ts.length ++ " transactions with " ++
    Text.ofNat c.store.size ++ " rules")
  emit layout ledger.transactions

/-- The arguments of a filter. -/
def filterArguments (r : FilterRequest) : Action Criteria := do
  let texts : Criteria := r.texts.map fun (what, t) => (what, .value (.text t))
  let tags : Criteria := ((tagArgument r.tags).map fun a => (FilterKey.tags, a)).toList
  let amount ← r.amount.toList.mapM fun raw =>
    orMisuse (some .filter) ((amountArgument raw).mapError (.badWord "--amount"))
  let date ← r.date.toList.mapM fun raw => orFail (dateArgument raw)
  return texts ++ tags ++ amount.map ((.amount, ·)) ++ date.map ((.date, ·))

/-- Prints the transactions of a file that meet criteria. -/
def filter (r : FilterRequest) : Action Unit := do
  let ts ← load r.path
  let arguments ← filterArguments r
  let kept ← orRefuse .filter (Query.filter (Record.ofList ts) arguments r.negate)
  let kept ←
    match r.sort with
    | none => pure kept
    | some field => orRefuse .filter (Query.sort kept (.value (.text field)) r.reverse)
  note .info (Text.ofNat kept.length ++ " of " ++ Text.ofNat ts.length ++
    " transactions matched")
  emit .lines (kept.map (·.transaction))

/-- The line about a value and how often it occurs. -/
def countLine (value : Value) (count : Nat) : Text := value.plain ++ "\t" ++ Text.ofNat count

/-- Prints how often each value of a field occurs. -/
def counts (path field : Text) : Action Unit := do
  let ts ← load path
  let counts ← orRefuse .counts (Query.count (Record.ofList ts) (.value (.text field)))
  printAll (counts.map fun (value, count) => countLine value count)

/-- The line about a bucket. -/
def groupLine (start : Value) (count : Nat) (total : Decimal) : Text :=
  start.plain ++ "\t" ++ Text.ofNat count ++ "\t" ++ total.toText

/-- Prints count and total for each calendar period. -/
def group (path bucket : Text) : Action Unit := do
  let ts ← load path
  let groups ← orFail (Query.group (Record.ofList ts) (.text bucket) (.text Field.postDate.toText))
  groups.forM fun (start, records) => do
    print (groupLine start records.length (← orFail (Query.total records)))

/-- Merges two files and prints the survivors. -/
def merge (first second : Text) : Action Unit := do
  let a ← load first
  let b ← load second
  let kept ← orFail (Query.merge (Record.ofList a) (Record.number a.length b))
  note .info ("Merged " ++ Text.ofNat a.length ++ " + " ++ Text.ofNat b.length ++ " -> " ++
    Text.ofNat kept.length ++ " transactions")
  emit .lines (kept.map (·.transaction))

/-- Writes the transactions of a file as a table. -/
def tabulate (path out : Text) : Action Unit := do
  let ts ← load path
  let table ← orFail (Frame.ofTransactions ts)
  let (fs, result) := Frame.Csv.store (← files) out table
  modify fun c => { c with files := fs }
  orFail result
  print ("[info] Wrote " ++ Text.ofNat ts.length ++ " rows -> " ++ out)

/-- Does what is asked for. -/
def perform (config : Option Value) : Request → Action Unit
  | .categorize path taxonomy limits layout => categorize config path taxonomy limits layout
  | .filter request => filter request
  | .counts path field => counts path field
  | .group path bucket => group path bucket
  | .merge first second => merge first second
  | .tabulate path out => tabulate path out

/-! ### The command line -/

/-- Scans the words of the program or of one of its commands and checks them: the settings, and the
words that are left. The help ends the run. -/
def readWords (command : Option CommandName) (words : List Text) :
    Action (Settings × List Text) := do
  let options := (command.map CommandName.options).getD programOptions
  let arguments := (command.map CommandName.arguments).getD []
  let (given, rest) ← orMisuse command (scan options command.isSome words)
  if given.isOn .help false then
    print (usage command)
    throw (.exit 0)
  orMisuse command (settle (← files) options arguments given rest)

/-- The configuration at a path or else below the home of the program. Without a path there need not
be one. -/
def readConfig (home : Location) (path : Option Text) : Action (Option Value) := do
  match path, Config.load (← files) (path.getD (Shipped.configPath home)) with
  | _, .ok config => return some config
  | some _, .error e =>
    if e.kind = .fileMissing then misuse none (.badWord "--config" (.noConfig e.message))
    else throw (.failure e)
  | none, .error e => if e.kind = .fileMissing then return none else throw (.failure e)

/-- The level of the log: the options come before the configuration. -/
def logLevel (settings : Settings) (config : Option Value) : Value :=
  if settings.isOn .verbose false then "DEBUG"
  else if settings.isOn .quiet false then "WARNING"
  else Config.level (config.getD (.dict []))

/-- Sets the log up. -/
def setUpLog (level : Value) : Action Unit := do
  let c ← get
  let (logging, result) := c.logging.setUp level true
  set { c with logging }
  orFail result

/-- The command that a word names. A word that is no name is read once more as an option of the
program, which may have more to say about it. -/
def findCommand (word : Text) (words : List Text) : Action CommandName := do
  match CommandName.ofText? word with
  | some command => return command
  | none =>
    if isOption word then
      let _ ← readWords none words
    misuse none (.unknownCommand word)

/-- Runs a command line; the shipped files are below `home`. -/
def runWords (home : Location) (words : List Text) : Action Unit := do
  if words.isEmpty then
    modify fun c => { c with messages := c.messages ++ [usage none] }
    throw (.exit badInputCode)
  let (settings, words) ← readWords none words
  match words with
  | [] => misuse none .missingCommand
  | word :: rest =>
    let command ← findCommand word (word :: rest)
    let config ← readConfig home (nonempty? (settings.word? .config))
    setUpLog (logLevel settings config)
    let (settings, extra) ← readWords (some command) rest
    if !extra.isEmpty then misuse (some command) (.extraWords extra)
    perform config (Request.ofSettings command settings)

/-- A run of a command line over some files: what is written, and how it ends. -/
def run (home : Location) (files : FileSystem) (words : List Text) : Console × Ending :=
  match (runWords home words).run { files } with
  | (.ok (), console) => (console, .exit 0)
  | (.error ending, console) => (console, ending)

end LedgerTags.CommandLine
