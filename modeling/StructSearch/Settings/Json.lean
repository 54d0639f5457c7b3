/-!
# JSON documents

`Json.ofText?` reads a whole document by the strict grammar of JSON. Objects keep their members in
the order of the text, with repeated keys; numbers keep their spelling.

The second half of the module is about the records that settings are read from. An object and an
array stand for a record alike, and the name of a choice may be given in two ways.
-/

namespace StructSearch.Settings

/-- A JSON value. Numbers are kept as they are spelled, since no setting is a number. -/
inductive Json where
  | null
  | bool (value : Bool)
  /-- A number, as it is spelled. -/
  | number (spelling : String)
  | string (value : String)
  | array (items : List Json)
  | object (members : List (String × Json))
  deriving Repr, Inhabited

namespace Json

/-! ## Tokens -/

/-- The characters that may stand between tokens. -/
def isSpace (c : Char) : Bool := c == ' ' || c == '\n' || c == '\t' || c == '\r'

/-- The text after its white space. -/
def skipSpace (text : List Char) : List Char := text.dropWhile isSpace

/-- The text after a keyword. -/
def keyword? : List Char → List Char → Option (List Char)
  | [], text => some text
  | _ :: _, [] => none
  | k :: ks, c :: rest => if k = c then keyword? ks rest else none

/-- The value of a hexadecimal digit. -/
def hexDigit? (c : Char) : Option Nat :=
  if c.isDigit then some (c.toNat - '0'.toNat)
  else if 'a' ≤ c ∧ c ≤ 'f' then some (c.toNat - 'a'.toNat + 10)
  else if 'A' ≤ c ∧ c ≤ 'F' then some (c.toNat - 'A'.toNat + 10)
  else none

/-- Four hexadecimal digits, of either case. -/
def hexUnit? : List Char → Option (Nat × List Char)
  | a :: b :: c :: d :: rest => do
    let a ← hexDigit? a
    let b ← hexDigit? b
    let c ← hexDigit? c
    let d ← hexDigit? d
    some (((a * 16 + b) * 16 + c) * 16 + d, rest)
  | _ => none

/-- The character after `\u`: one unit, or the two units of a surrogate pair. A surrogate without
its partner is no character. -/
def unicodeEscape? (text : List Char) : Option (Char × List Char) :=
  match hexUnit? text with
  | none => none
  | some (unit, rest) =>
    if unit < 0xD800 ∨ 0xDFFF < unit then some (Char.ofNat unit, rest)
    else if 0xDC00 ≤ unit then none
    else match rest with
      | '\\' :: 'u' :: rest =>
        match hexUnit? rest with
        | none => none
        | some (low, rest) =>
          if 0xDC00 ≤ low ∧ low ≤ 0xDFFF then
            some (Char.ofNat (0x10000 + (unit - 0xD800) * 0x400 + (low - 0xDC00)), rest)
          else none
      | _ => none

/-- The character after a backslash. Only the escapes of the standard are known. -/
def escape? : List Char → Option (Char × List Char)
  | '"' :: rest => some ('"', rest)
  | '\\' :: rest => some ('\\', rest)
  | '/' :: rest => some ('/', rest)
  | 'b' :: rest => some ('\x08', rest)
  | 'f' :: rest => some ('\x0c', rest)
  | 'n' :: rest => some ('\n', rest)
  | 'r' :: rest => some ('\r', rest)
  | 't' :: rest => some ('\t', rest)
  | 'u' :: rest => unicodeEscape? rest
  | _ => none

/-- The characters of a string up to its closing quote, in at most the given number of steps.
Control characters must be escaped. -/
def stringChars? : Nat → List Char → Option (List Char × List Char)
  | 0, _ => none
  | _ + 1, [] => none
  | _ + 1, '"' :: rest => some ([], rest)
  | steps + 1, '\\' :: rest =>
    match escape? rest with
    | none => none
    | some (c, rest) => (stringChars? steps rest).map fun (cs, rest) => (c :: cs, rest)
  | steps + 1, c :: rest =>
    if c.toNat < 32 then none
    else (stringChars? steps rest).map fun (cs, rest) => (c :: cs, rest)

/-- A string after its opening quote. -/
def string? (text : List Char) : Option (String × List Char) :=
  (stringChars? (text.length + 1) text).map fun (cs, rest) => (String.ofList cs, rest)

/-- A run of at least one digit. -/
def digits? (text : List Char) : Option (List Char × List Char) :=
  let digits := text.takeWhile Char.isDigit
  if digits.isEmpty then none else some (digits, text.dropWhile Char.isDigit)

/-- The digits before the point: a zero, or a run that does not start with one. -/
def whole? : List Char → Option (List Char × List Char)
  | '0' :: rest => some (['0'], rest)
  | text => digits? text

/-- The point and the digits after it, if there is a point. -/
def fraction? : List Char → Option (List Char × List Char)
  | '.' :: rest => (digits? rest).map fun (digits, rest) => ('.' :: digits, rest)
  | text => some ([], text)

/-- The exponent, if there is one: a letter, an optional sign and at least one digit. -/
def exponent? : List Char → Option (List Char × List Char)
  | e :: rest =>
    if e == 'e' || e == 'E' then
      match rest with
      | '+' :: rest => (digits? rest).map fun (digits, rest) => (e :: '+' :: digits, rest)
      | '-' :: rest => (digits? rest).map fun (digits, rest) => (e :: '-' :: digits, rest)
      | _ => (digits? rest).map fun (digits, rest) => (e :: digits, rest)
    else some ([], e :: rest)
  | [] => some ([], [])

/-- A number, as it is spelled: a sign, the digits before the point, and the parts that may be
missing. -/
def number? (text : List Char) : Option (String × List Char) := do
  let (sign, text) := match text with
    | '-' :: rest => (['-'], rest)
    | _ => ([], text)
  let (whole, text) ← whole? text
  let (fraction, text) ← fraction? text
  let (exponent, text) ← exponent? text
  some (String.ofList (sign ++ whole ++ fraction ++ exponent), text)

/-! ## Values -/

mutual

/-- A value and the text after it, in at most the given number of steps. Its first character tells
what sort of value it is. -/
def value? : Nat → List Char → Option (Json × List Char)
  | 0, _ => none
  | steps + 1, text =>
    match skipSpace text with
    | 'n' :: rest => (keyword? "ull".toList rest).map fun rest => (null, rest)
    | 't' :: rest => (keyword? "rue".toList rest).map fun rest => (bool true, rest)
    | 'f' :: rest => (keyword? "alse".toList rest).map fun rest => (bool false, rest)
    | '"' :: rest => (string? rest).map fun (value, rest) => (string value, rest)
    | '[' :: rest =>
      match skipSpace rest with
      | ']' :: rest => some (array [], rest)
      | _ => (items? steps rest).map fun (items, rest) => (array items, rest)
    | '\x7b' :: rest =>
      match skipSpace rest with
      | '\x7d' :: rest => some (object [], rest)
      | _ => (members? steps rest).map fun (members, rest) => (object members, rest)
    | text => (number? text).map fun (spelling, rest) => (number spelling, rest)

/-- The items of an array, at least one, up to its closing bracket. -/
def items? : Nat → List Char → Option (List Json × List Char)
  | 0, _ => none
  | steps + 1, text => do
    let (item, rest) ← value? steps text
    match skipSpace rest with
    | ',' :: rest => (items? steps rest).map fun (items, rest) => (item :: items, rest)
    | ']' :: rest => some ([item], rest)
    | _ => none

/-- The members of an object, at least one, up to its closing brace. -/
def members? : Nat → List Char → Option (List (String × Json) × List Char)
  | 0, _ => none
  | steps + 1, text => do
    match skipSpace text with
    | '"' :: rest =>
      let (key, rest) ← string? rest
      match skipSpace rest with
      | ':' :: rest =>
        let (value, rest) ← value? steps rest
        match skipSpace rest with
        | ',' :: rest =>
          (members? steps rest).map fun (members, rest) => ((key, value) :: members, rest)
        | '\x7d' :: rest => some ([(key, value)], rest)
        | _ => none
      | _ => none
    | _ => none

end

/-- The value of a whole document. Each step but those between a list and its first item reads a
character, so twice the length of the text bounds them. -/
def ofText? (text : String) : Option Json :=
  match value? (2 * text.length + 2) text.toList with
  | some (value, rest) => if (skipSpace rest).isEmpty then some value else none
  | none => none

/-! ## Records -/

/-- Whether a list of keys holds one twice. -/
def hasRepeats : List String → Bool
  | [] => false
  | key :: keys => keys.contains key || hasRepeats keys

/-- The values of the fields of a record, in the order of their names. A record is written as an
object with some of the names as keys, each at most once, or as an array with the values of the
first fields. -/
def fields? (names : List String) : Json → Option (List (Option Json))
  | object members =>
    let keys := members.map (·.1)
    if keys.all names.contains && !hasRepeats keys then some (names.map (members.lookup ·))
    else none
  | array items =>
    if items.length ≤ names.length then
      some (items.map some ++ List.replicate (names.length - items.length) none)
    else none
  | _ => none

/-- The truth value of a boolean. -/
def toBool? : Json → Option Bool
  | bool value => some value
  | _ => none

/-- The text of a string. -/
def toText? : Json → Option String
  | string value => some value
  | _ => none

/-- The name that stands for a choice: a string, or an object with the name as its only key and
null as its value. -/
def choice? : Json → Option String
  | string name => some name
  | object [(name, null)] => some name
  | _ => none

end Json

end StructSearch.Settings
