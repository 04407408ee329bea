import LedgerTags.Error
import LedgerTags.FileSystem.Tree
import LedgerTags.Pattern.Matcher
import LedgerTags.Yaml.Document

/-!
# What taxonomies are read with

A taxonomy is read with the help of others: they say whether there is a directory and what is in it,
read the document in a file, prepare patterns, and display values in messages. Each of them can fail
in ways that have nothing to do with taxonomies: there may be no permission, a name may be too long,
a text may be nested too deeply. A `Host` is any behaviour of theirs, errors included.

`Host.ofTree` is the host of a tree of files. It knows no permissions and no limits for the length
of names or for nesting, and it decodes a file as a whole before it reads the document in it.
-/

namespace LedgerTags

/-- How one of them fails. -/
inductive Failure (α : Type) where
  /-- With an error of its own family, which says what is wrong. -/
  | refused (reason : α)
  /-- With an error of any other family. -/
  | raised (e : Error)

/-- What reading a rule needs. -/
structure Tools where
  /-- Prepares a pattern. A pattern is refused for a problem, which may have a place. -/
  compile : Text → Except (Failure (Pattern.Problem × Option Nat)) Pattern
  /-- Displays a value. -/
  display : Value → Outcome Text

/-- Patterns and values as they are everywhere else. -/
def Tools.usual : Tools where
  compile t :=
    match Pattern.compile t with
    | .ok pattern => .ok pattern
    | .error (.malformed problem place) => .error (.refused (problem, place))
    | .error .repeatTooLarge => .error (.raised .numberTooLarge)
    | .error (.boundTooLong n) => .error (.raised (.numeralTooLong (some n)))
    | .error .asciiAndUnicode => .error (.raised .asciiAndUnicode)
  display v := if v.isDisplayable then .ok v.display else .error (.numeralTooLong none)

/-- What reading a directory of documents needs. -/
structure Host extends Tools where
  /-- Whether a directory is found at the end of a path. -/
  isDirectory : Text → Outcome Bool
  /-- The names in a directory. -/
  names : Text → Outcome (List Text)
  /-- Whether a file is found at the end of a path. -/
  isFile : Text → Outcome Bool
  /-- Opens a file and reads the document in it. It is refused if it has no such form. -/
  document : Text → Except (Failure Unit) Value

/-- The host of a tree of files. -/
def Host.ofTree (fs : FileSystem) : Host where
  toTools := .usual
  isDirectory path := .ok (fs.isDirectory path)
  names path :=
    match fs.entry path with
    | .ok .directory => .ok (fs.names path)
    | .ok (.file _) => .error (.file .notDirectory path)
    | .error fault => .error (.file fault path)
  isFile path := .ok (fs.isFile path)
  document path :=
    match fs.readText path with
    | .error e => .error (.raised e)
    | .ok text =>
      match Yaml.read text with
      | .ok doc => .ok doc
      | .error .malformed => .error (.refused ())
      | .error (.noValue e) => .error (.raised e)

end LedgerTags
