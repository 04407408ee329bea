import LedgerTags.Value.Display

/-!
# Writing JSON

A value that came from a JSON document is written on one line of ASCII characters, with a blank
after each comma and colon. Characters beyond ASCII are written as escapes of their 16-bit units.
-/

namespace LedgerTags.Json

/-- The escape of a 16-bit unit. -/
def unitEscape (n : Nat) : Text := "\\u" ++ Text.hexPadded 4 n

/-- The written form of a code point. -/
def escapeChar (c : CodePoint) : Text :=
  match c.val with
  | 34 => "\\\""
  | 92 => "\\\\"
  | 8 => "\\b"
  | 9 => "\\t"
  | 10 => "\\n"
  | 12 => "\\f"
  | 13 => "\\r"
  | n =>
    if 32 ≤ n ∧ n ≤ 126 then [c]
    else if n < 0x10000 then unitEscape n
    else unitEscape (0xD800 + (n - 0x10000) / 0x400) ++ unitEscape (0xDC00 + (n - 0x10000) % 0x400)

/-- The written form of a text. -/
def writeString (t : Text) : Text := "\"" ++ (t.flatMap escapeChar ++ "\"")

/-- The written form of a binary number. -/
def writeFloat (x : Binary64) : Text :=
  match x with
  | .infinity s => if s then "-Infinity" else "Infinity"
  | .nan => "NaN"
  | x => x.toText

mutual

/-- The written form of a value. Values of kinds that no document has are written as null. -/
def write : Value → Text
  | .bool b => if b then "true" else "false"
  | .int n => Text.ofInt n
  | .float x => writeFloat x
  | .text t => writeString t
  | .list xs | .tuple xs => "[" ++ (writeItems xs ++ "]")
  | .dict es => "\x7b" ++ (writeEntries es ++ "\x7d")
  | _ => "null"

/-- The written forms of the members of a list. -/
def writeItems : List Value → Text
  | [] => []
  | [x] => write x
  | x :: xs => write x ++ ", " ++ writeItems xs

/-- The written forms of the entries of a mapping. -/
def writeEntries : List (Value × Value) → Text
  | [] => []
  | [(k, v)] => writeString k.plain ++ ": " ++ write v
  | (k, v) :: es => writeString k.plain ++ ": " ++ write v ++ ", " ++ writeEntries es

end

end LedgerTags.Json
