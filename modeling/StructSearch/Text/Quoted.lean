import StructSearch.Text.Ranges
import StructSearch.Text.EscapeTables

/-!
# Quoted text

Text between double quotes, with an escape for the quote, the backslash, the usual control
characters and every character that would not print on its own.
-/

namespace StructSearch.Text

/-- The hexadecimal digits of a number, in lower case and without leading zeros. -/
def hexDigits (n : Nat) : String := String.ofList (Nat.toDigits 16 n)

/-- A character as it stands between double quotes. What has no short escape is written by its code
point. -/
def quotedChar (c : Char) : String :=
  match c with
  | '\x00' => "\\0"
  | '\t' => "\\t"
  | '\n' => "\\n"
  | '\r' => "\\r"
  | '"' => "\\\""
  | '\\' => "\\\\"
  | _ =>
    if c.toNat < 32 || c.toNat == 127 || inRanges escapedRanges c.toNat then
      "\\u\x7b" ++ hexDigits c.toNat ++ "\x7d"
    else String.singleton c

/-- A text between double quotes. -/
def quoted (text : String) : String :=
  "\"" ++ String.join (text.toList.map quotedChar) ++ "\""

end StructSearch.Text
