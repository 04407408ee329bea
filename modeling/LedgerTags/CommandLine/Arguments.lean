import LedgerTags.Calendar.Bucket
import LedgerTags.CommandLine.Fault
import LedgerTags.FileSystem.Tree

/-!
# The words of a command line

`scan` tells the options of a line from its other words: an option begins with a hyphen and has a
second character, its word follows it or stands behind an equals sign, and a word of two hyphens
ends the options. `settle` gives the other words to the arguments and checks the values in the order
in which they are given: the options first, each at its first occurrence and with its last value.
-/

namespace LedgerTags.CommandLine

/-- What something is set to. -/
inductive Given where
  | word (t : Text)
  | switch (b : Bool)
deriving DecidableEq, Repr

/-- Settings in the order in which they are given. -/
abbrev Settings := List (Setting × Given)

namespace Settings

/-- The words that a setting is given. -/
def words (s : Settings) (what : Setting) : List Text :=
  s.filterMap fun e =>
    match e with
    | (k, .word t) => if k = what then some t else none
    | _ => none

/-- The last word that a setting is given. -/
def word? (s : Settings) (what : Setting) : Option Text := (s.words what).getLast?

/-- Whether a switch is on; `usual` if it is not given. -/
def isOn (s : Settings) (what : Setting) (usual : Bool) : Bool :=
  let switches := s.filterMap fun e =>
    match e with
    | (k, .switch b) => if k = what then some b else none
    | _ => none
  switches.getLastD usual

end Settings

/-! ### Options and other words -/

/-- The hyphen. -/
def hyphen : CodePoint := '-'

/-- Whether a word is an option. -/
def isOption (w : Text) : Bool := w.head? == some hyphen && w.length != 1

/-- The name of an option and the word behind its equals sign. -/
def splitOption (w : Text) : Text × Option Text :=
  match Text.splitAtFirst? (CodePoint.ofChar '=') w with
  | some (name, value) => (name, some value)
  | none => (w, none)

/-- The fault of a word that looks like an option. A name with one hyphen stands for an option of
one letter. -/
def unknown (options : List OptionSpec) (w : Text) : UsageFault :=
  if Text.startsWith w [hyphen, hyphen] then
    .unknownOption (splitOption w).1 (options.map (·.name))
  else .unknownOption (w.take 2) []

/-- The settings that the options of a line give, and its other words. Unless `mixed`, the options
end at the first other word. -/
def scan (options : List OptionSpec) (mixed : Bool) :
    List Text → Except UsageFault (Settings × List Text)
  | [] => .ok ([], [])
  | w :: rest =>
    if w = [hyphen, hyphen] then .ok ([], rest)
    else if isOption w then
      let (name, value) := splitOption w
      match options.find? fun o => o.name == name with
      | none => .error (unknown options w)
      | some o =>
        match o.switch, value with
        | some _, some _ => .error (.takesNoWord name)
        | some b, none => do
          let (settings, words) ← scan options mixed rest
          return ((o.setting, .switch b) :: settings, words)
        | none, some t => do
          let (settings, words) ← scan options mixed rest
          return ((o.setting, .word t) :: settings, words)
        | none, none =>
          match rest with
          | [] => .error (.needsWord name)
          | t :: rest => do
            let (settings, words) ← scan options mixed rest
            return ((o.setting, .word t) :: settings, words)
    else if mixed then do
      let (settings, words) ← scan options mixed rest
      return (settings, w :: words)
    else .ok ([], w :: rest)

/-! ### Checking values -/

/-- Checks that a path leads to a file. -/
def checkFile (fs : FileSystem) (path : Text) : Except WordFault Unit :=
  match fs.entry path with
  | .ok (.file _) => .ok ()
  | .ok .directory => .error (.isDirectory path)
  | .error _ => .error (.noFile path)

/-- Checks that a path does not lead to a directory. -/
def checkNoDirectory (fs : FileSystem) (path : Text) : Except WordFault Unit :=
  if fs.isDirectory path then .error (.isDirectory path) else .ok ()

/-- Checks that a path does not lead to a file. -/
def checkNoFile (fs : FileSystem) (path : Text) : Except WordFault Unit :=
  if fs.isFile path then .error (.isFile path) else .ok ()

/-- Checks that a word is the name of a bucket. -/
def checkBucket (word : Text) : Except WordFault Unit :=
  match Bucket.ofText? word with
  | some _ => .ok ()
  | none => .error (.notAChoice word (Bucket.all.map Bucket.toText))

/-- Checks the word that something is set to. -/
def checkWord (fs : FileSystem) (what : Setting) (word : Text) : Except WordFault Unit :=
  match what with
  | .path | .first | .second => checkFile fs word
  | .config | .out => checkNoDirectory fs word
  | .taxonomy => checkNoFile fs word
  | .bucket => checkBucket word
  | _ => .ok ()

/-- How messages name an option or argument. -/
def placeName (options : List OptionSpec) (what : Setting) : Text :=
  let name :=
    match options.find? fun o => o.setting = what with
    | some o => o.name
    | none => what.argumentName
  Text.quoted name

/-- Checks the last word that something is set to. -/
def checkSetting (fs : FileSystem) (options : List OptionSpec) (s : Settings) (what : Setting) :
    Except UsageFault Unit :=
  match s.word? what with
  | none => .ok ()
  | some word => (checkWord fs what word).mapError (.badWord (placeName options what))

/-- Gives words to arguments and checks them: the settings, and the words that are left. -/
def settleArguments (fs : FileSystem) :
    List Setting → List Text → Except UsageFault (Settings × List Text)
  | [], words => .ok ([], words)
  | what :: _, [] => .error (.missingArgument what.argumentName)
  | what :: more, w :: words => do
    (checkWord fs what w).mapError (.badWord (placeName [] what))
    let (settings, rest) ← settleArguments fs more words
    return ((what, .word w) :: settings, rest)

/-- The settings of a line, checked. -/
def settle (fs : FileSystem) (options : List OptionSpec) (arguments : List Setting)
    (given : Settings) (words : List Text) : Except UsageFault (Settings × List Text) := do
  (given.map (·.1)).forM (checkSetting fs options given)
  let (more, rest) ← settleArguments fs arguments words
  return (given ++ more, rest)

end LedgerTags.CommandLine
