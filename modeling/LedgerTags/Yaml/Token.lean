import LedgerTags.Text.CodePoint

/-!
# Tokens of a YAML text

The pieces that a document is written with. Indentation is a piece too: a block of entries is
enclosed in a start and an end.
-/

namespace LedgerTags.Yaml

/-- A piece of a document. -/
inductive Token where
  /-- The end of the text. -/
  | finish
  /-- The directive that gives the version. -/
  | version (major : Nat)
  /-- The directive that lets a handle stand for the beginning of a tag. -/
  | handle (name tag : Text)
  /-- Any other directive. -/
  | directive
  | documentStart
  | documentEnd
  | blockSequence
  | blockMapping
  | blockEnd
  | openBracket
  | closeBracket
  | openBrace
  | closeBrace
  /-- The hyphen before a member. -/
  | item
  /-- The comma. -/
  | comma
  /-- Where a key begins. -/
  | key
  /-- The colon between a key and its value. -/
  | value
  | alias (name : Text)
  | anchor (name : Text)
  /-- A tag, with the handle that begins it unless the tag is whole. -/
  | tag (handle : Option Text) (rest : Text)
  /-- A scalar, and whether it stands there without quotes. -/
  | scalar (t : Text) (plain : Bool)
deriving DecidableEq, Repr

end LedgerTags.Yaml
