import StructSearch.Query.Error
import StructSearch.Text.Blank
import StructSearch.Text.Bytes

/-!
# Reading tokens

`Token.scan` cuts the text of a query into tokens. White space separates tokens and is otherwise
dropped. A run of characters that are neither white space nor punctuation is one word, so most
names and regular expressions need no quoting; a text between slashes is a word whatever
characters it holds.

This is the first of the two stages of the compiler of queries; the second one reads a pattern from
the tokens. Every error names the byte at which the text that cannot be read starts, counted from
the start of the query.
-/

namespace StructSearch.Query

/-- Whether a character ends a bare word although it is not white space: a backslash or a mark of
punctuation. -/
def isExcluded (c : Char) : Bool := c == '\\' || (Token.Kind.ofPunctuation? c).isSome

/-- Whether a character can stand in a bare word. -/
def isDataChar (c : Char) : Bool := !Text.isBlank c && !isExcluded c

namespace Token

/-- A sigil whose backslash stands at byte `offset`, and the text after it. The error is placed at
the backslash, and holds the letter behind it if there is one. -/
def sigilAt (offset : Nat) : List Char → Except Error (Token × List Char)
  | [] => .error (.lex offset (.sigil none))
  | c :: rest =>
    match Sigil.ofLetter? c with
    | some sigil => .ok (⟨.sigil sigil, String.ofList ['\\', c], offset, offset + 2⟩, rest)
    | none => .error (.lex offset (.sigil (some c)))

/-- A text between slashes, the first of them at byte `offset`, and the text after it. There are no
escapes: the next slash ends the text, whatever stands before it. A missing or empty text is an
error at the first slash. -/
def literalAt (offset : Nat) (text : List Char) : Except Error (Token × List Char) :=
  match text.takeWhile (· != '/'), text.dropWhile (· != '/') with
  | _, [] => .error (.lex offset .unterminated)
  | [], _ :: _ => .error (.lex offset .emptyLiteral)
  | c :: body, _ :: rest =>
    .ok (⟨.data, String.ofList (c :: body), offset, offset + Text.byteSize (c :: body) + 2⟩, rest)

/-- Punctuation or a bare word that starts at byte `offset` with `c`, and the text after it. A word
goes on up to the next white space, backslash or mark of punctuation. -/
def plainAt (offset : Nat) (c : Char) (text : List Char) : Token × List Char :=
  match Kind.ofPunctuation? c with
  | some kind => (⟨kind, c.toString, offset, offset + c.utf8Size⟩, text)
  | none =>
    let word := c :: text.takeWhile isDataChar
    (⟨.data, String.ofList word, offset, offset + Text.byteSize word⟩, text.dropWhile isDataChar)

/-- The token that starts at byte `offset` with `c`, which is not blank, and the text after it. The
marks of several characters are tried before those of one. -/
def firstAt (offset : Nat) (c : Char) (text : List Char) : Except Error (Token × List Char) :=
  match c, text with
  | ':', ':' :: rest => .ok (⟨.doubleColon, "::", offset, offset + 2⟩, rest)
  | '.', '.' :: '.' :: rest => .ok (⟨.ellipsis, "...", offset, offset + 3⟩, rest)
  | '\\', text => sigilAt offset text
  | '/', text => literalAt offset text
  | c, text => .ok (plainAt offset c text)

/-- What follows a token is no longer than the text after its first character. -/
theorem length_le_of_firstAt_eq {offset : Nat} {c : Char} {text rest : List Char} {token : Token}
    (h : firstAt offset c text = .ok (token, rest)) : rest.length ≤ text.length := by
  have drop_le (p : Char → Bool) (l : List Char) : (l.dropWhile p).length ≤ l.length :=
    (List.dropWhile_suffix p).sublist.length_le
  unfold firstAt at h
  split at h
  · grind
  · grind
  · unfold sigilAt at h
    grind
  · unfold literalAt at h
    have := drop_le (· != '/') text
    grind
  · unfold plainAt at h
    grind

/-- The tokens of a text that starts at byte `offset`. White space before each token is passed over
and counted; the first error ends the reading. -/
def scanFrom (offset : Nat) (text : List Char) : Except Error (List Token) :=
  match _h : text.dropWhile Text.isBlank with
  | [] => .ok []
  | c :: rest =>
    match _h' : firstAt (offset + Text.byteSize (text.takeWhile Text.isBlank)) c rest with
    | .error error => .error error
    | .ok (token, rest) => (scanFrom token.stop rest).map (token :: ·)
termination_by text.length
decreasing_by
  have h₁ : (text.dropWhile Text.isBlank).length ≤ text.length :=
    (List.dropWhile_suffix Text.isBlank).sublist.length_le
  have h₂ := length_le_of_firstAt_eq _h'
  rw [_h, List.length_cons] at h₁
  omega

/-- The tokens of a query. -/
def scan (query : String) : Except Error (List Token) := scanFrom 0 query.toList

end Token

end StructSearch.Query
