import LedgerTags.Text.Quoted

/-!
# Faults in patterns

Why a text is no pattern. A fault of form has a place in the text, counted in code points from
zero, and in a text of several lines also by line and column.
-/

namespace LedgerTags.Pattern

/-- What is wrong with the form of a pattern. -/
inductive Problem where
  | escapeAtEnd
  | badEscape (escape : Text)
  | incompleteEscape (escape : Text)
  | octalTooLarge (escape : Text)
  | missingName (what : Text)
  | unterminatedName (terminator : Text)
  | missingBrace
  | undefinedCharacter (name : Text)
  | badGroupName (name : Text)
  | unknownGroup (name : Text)
  | groupRedefined (name : Text) (group earlier : Nat)
  | invalidGroup (group : Nat)
  | openGroup
  | lookBehindGroup
  | badGroupNumber
  | unterminatedSet
  | badRange (lo hi : Text)
  | minAboveMax
  | nothingToRepeat
  | multipleRepeat
  | unexpectedEnd
  | unknownExtension (text : Text)
  | unterminatedComment
  | unterminatedGroup
  | unbalancedParenthesis
  | tooManyBranches
  | lateGlobalOptions
  | localeOption
  | incompatibleOptions
  | unknownOption
  | missingOptionEnd
  | missingOption
  | missingColon
  | globalOptionOn
  | globalOptionOff
  | optionOnAndOff
  | repertoireOff
  | repeatInTemplate (kind : Text)
  | lookBehindTooLong
  | lookBehindNotFixed
deriving DecidableEq, Repr

/-- The wording of a problem. -/
def Problem.message : Problem → Text
  | escapeAtEnd => "bad escape (end of pattern)"
  | badEscape e => "bad escape " ++ e
  | incompleteEscape e => "incomplete escape " ++ e
  | octalTooLarge e => "octal escape value " ++ e ++ " outside of range 0-0o377"
  | missingName what => "missing " ++ what
  | unterminatedName t => "missing " ++ t ++ ", unterminated name"
  | missingBrace => "missing \x7b"
  | undefinedCharacter n => "undefined character name " ++ Text.quoted n
  | badGroupName n => "bad character in group name " ++ Text.quoted n
  | unknownGroup n => "unknown group name " ++ Text.quoted n
  | groupRedefined n g e =>
    "redefinition of group name " ++ Text.quoted n ++ " as group " ++ Text.ofNat g ++
      "; was group " ++ Text.ofNat e
  | invalidGroup g => "invalid group reference " ++ Text.ofNat g
  | openGroup => "cannot refer to an open group"
  | lookBehindGroup => "cannot refer to group defined in the same lookbehind subpattern"
  | badGroupNumber => "bad group number"
  | unterminatedSet => "unterminated character set"
  | badRange lo hi => "bad character range " ++ lo ++ "-" ++ hi
  | minAboveMax => "min repeat greater than max repeat"
  | nothingToRepeat => "nothing to repeat"
  | multipleRepeat => "multiple repeat"
  | unexpectedEnd => "unexpected end of pattern"
  | unknownExtension t => "unknown extension ?" ++ t
  | unterminatedComment => "missing ), unterminated comment"
  | unterminatedGroup => "missing ), unterminated subpattern"
  | unbalancedParenthesis => "unbalanced parenthesis"
  | tooManyBranches => "conditional backref with more than two branches"
  | lateGlobalOptions => "global flags not at the start of the expression"
  | localeOption => "bad inline flags: cannot use 'L' flag with a str pattern"
  | incompatibleOptions => "bad inline flags: flags 'a', 'u' and 'L' are incompatible"
  | unknownOption => "unknown flag"
  | missingOptionEnd => "missing -, : or )"
  | missingOption => "missing flag"
  | missingColon => "missing :"
  | globalOptionOn => "bad inline flags: cannot turn on global flag"
  | globalOptionOff => "bad inline flags: cannot turn off global flag"
  | optionOnAndOff => "bad inline flags: flag turned on and off"
  | repertoireOff => "bad inline flags: cannot turn off flags 'a', 'u' and 'L'"
  | repeatInTemplate kind => "internal: unsupported template operator " ++ kind
  | lookBehindTooLong => "looks too much behind"
  | lookBehindNotFixed => "look-behind requires fixed-width pattern"

/-- Why a text is no pattern. -/
inductive Fault where
  /-- The form is wrong; the place is missing for what only shows in the whole. -/
  | malformed (problem : Problem) (place : Option Nat)
  /-- A bound of a repeat is `4294967295` or more. -/
  | repeatTooLarge
  /-- A bound of a repeat has more digits than a numeral may have. -/
  | boundTooLong (digits : Nat)
  /-- The options for ASCII and for all scripts are both set. -/
  | asciiAndUnicode
deriving DecidableEq, Repr

/-- The line, from one, and the column, from one, of a place in a text. -/
def lineAndColumn (pattern : Text) (place : Nat) : Nat × Nat :=
  let before := pattern.take place
  let isFeed (c : CodePoint) : Bool := c.val == 10
  (before.countP isFeed + 1, (before.reverse.takeWhile fun c => !isFeed c).length + 1)

/-- The wording of a problem at a place of a pattern. -/
def placedMessage (pattern : Text) (problem : Problem) : Option Nat → Text
  | none => problem.message
  | some n =>
    let (line, column) := lineAndColumn pattern n
    problem.message ++ " at position " ++ Text.ofNat n ++
      (if pattern.any fun c => c.val == 10 then
        " (line " ++ Text.ofNat line ++ ", column " ++ Text.ofNat column ++ ")"
      else [])

end LedgerTags.Pattern
