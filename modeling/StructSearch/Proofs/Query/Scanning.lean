import Mathlib.Data.List.TakeWhile
import Mathlib.Tactic
import StructSearch.Proofs.Query.Terminals

/-!
# Texts and their terminals

Scanning a text is told token by token: a blank is dropped, and each form of a token is cut off
the front of the text whatever follows it, as long as what follows cannot make the token longer.
The grammar sees the terminals of a text only, so offsets are left open.

Results:
* `scanFrom_blank`, `scanFrom_token`: what the front of a text does to its tokens.
* `firstAt_punctuation`, `firstAt_bareWord`, `firstAt_literal`: what is cut off the front.
* `firstAt_eq_ok_iff`: all that can be cut off the front.
* `Scans.literal` up to `Scans.bareWord`: the forms of tokens.
* `text_ne_empty_of_scanFrom_eq`: words are not empty.
-/

namespace StructSearch.Query

open Token

/-! ## The front of a text -/

theorem scanFrom_nil (offset : ℕ) : scanFrom offset [] = .ok [] := by
  rw [scanFrom]
  simp

/-- The tokens of a text, told by the first character that is not blank. -/
theorem scanFrom_eq (offset : ℕ) (text : List Char) :
    scanFrom offset text =
      match text.dropWhile Text.isBlank with
      | [] => .ok []
      | c :: rest =>
        match firstAt (offset + Text.byteSize (text.takeWhile Text.isBlank)) c rest with
        | .error error => .error error
        | .ok (token, rest) => (scanFrom token.stop rest).map (token :: ·) := by
  rw [scanFrom]
  split
  · next hnone => rw [hnone]
  · next c rest hsome =>
    rw [hsome]
    split
    · next error hfirst => simp only [hfirst]
    · next token after hfirst => simp only [hfirst]

/-- A blank is dropped. -/
theorem scanFrom_blank {offset : ℕ} {c : Char} {text : List Char} (h : Text.isBlank c = true) :
    scanFrom offset (c :: text) = scanFrom (offset + c.utf8Size) text := by
  rw [scanFrom_eq, scanFrom_eq, List.dropWhile_cons_of_pos h, List.takeWhile_cons_of_pos h,
    Text.byteSize, Nat.add_assoc]

/-- A token is cut off the front of a text. -/
theorem scanFrom_token {offset : ℕ} {c : Char} {text rest : List Char} {token : Token}
    (hblank : Text.isBlank c = false) (hfirst : firstAt offset c text = .ok (token, rest)) :
    scanFrom offset (c :: text) = (scanFrom token.stop rest).map (token :: ·) := by
  have hnot : ¬Text.isBlank c = true := by simp [hblank]
  rw [scanFrom_eq, List.dropWhile_cons_of_neg hnot, List.takeWhile_cons_of_neg hnot,
    Text.byteSize, Nat.add_zero]
  simp only [hfirst]

/-- Two colons, an ellipsis, a sigil and a literal apart, a token is punctuation or a word. -/
theorem firstAt_eq_plainAt {offset : ℕ} {c : Char} {text : List Char} (hsigil : c ≠ '\\')
    (hslash : c ≠ '/') (hcolon : c = ':' → text.head? ≠ some ':')
    (hdots : c = '.' → ¬['.', '.'] <+: text) :
    firstAt offset c text = .ok (plainAt offset c text) := by
  unfold firstAt
  split
  · exact absurd rfl (hcolon rfl)
  · exact absurd ⟨_, rfl⟩ (hdots rfl)
  · exact absurd rfl hsigil
  · exact absurd rfl hslash
  · rfl

/-- A non-empty run of data characters that is read as one word. -/
structure IsBareWord (word : String) : Prop where
  ne_nil : word.toList ≠ []
  chars : ∀ c ∈ word.toList, isDataChar c = true
  slash : word.toList.head? ≠ some '/'
  dots : ¬['.', '.', '.'] <+: word.toList

instance (word : String) : Decidable (IsBareWord word) :=
  decidable_of_iff (word.toList ≠ [] ∧ word.toList.all isDataChar = true ∧
      word.toList.head? ≠ some '/' ∧ ¬['.', '.', '.'] <+: word.toList)
    ⟨fun h => ⟨h.1, List.all_eq_true.1 h.2.1, h.2.2.1, h.2.2.2⟩,
      fun h => ⟨h.ne_nil, List.all_eq_true.2 h.chars, h.slash, h.dots⟩⟩

theorem isDataChar_iff {c : Char} : isDataChar c = true ↔
    Text.isBlank c = false ∧ c ≠ '\\' ∧ Token.Kind.ofPunctuation? c = none := by
  simp [isDataChar, isExcluded]

theorem isBlank_of_ofPunctuation? {c : Char} {kind : Token.Kind}
    (h : Token.Kind.ofPunctuation? c = some kind) : Text.isBlank c = false := by
  unfold Token.Kind.ofPunctuation? at h
  split at h <;> first | rfl | cases h

theorem takeWhile_eq_nil {p : Char → Bool} {text : List Char}
    (h : ∀ c ∈ text.head?, p c = false) : text.takeWhile p = [] := by
  cases text with
  | nil => rfl
  | cons c text => simp [h c rfl]

theorem dropWhile_eq_self {p : Char → Bool} {text : List Char}
    (h : ∀ c ∈ text.head?, p c = false) : text.dropWhile p = text := by
  cases text with
  | nil => rfl
  | cons c text => simp [h c rfl]

/-- What follows a bare word does not complete an ellipsis. -/
theorem IsBareWord.dots_append {word : String} {c : Char} {text rest : List Char}
    (hword : IsBareWord word) (htext : word.toList = c :: text)
    (hrest : ∀ c ∈ rest.head?, isDataChar c = false) : c = '.' → ¬['.', '.'] <+: text ++ rest := by
  rintro rfl ⟨later, hlater⟩
  have hdot : rest.head? ≠ some '.' := fun hhead => absurd (hrest '.' hhead) (by decide)
  match text with
  | [] =>
    rw [List.nil_append] at hlater
    exact hdot (by rw [← hlater]; rfl)
  | [d] =>
    simp only [List.cons_append, List.nil_append, List.cons.injEq] at hlater
    exact hdot (by rw [← hlater.2]; rfl)
  | d :: e :: text =>
    simp only [List.cons_append, List.nil_append, List.cons.injEq] at hlater
    obtain ⟨rfl, rfl, -⟩ := hlater
    exact hword.dots ⟨text, by rw [htext]; rfl⟩

/-- Punctuation is a token by itself, but two colons are one. -/
theorem firstAt_punctuation {offset : ℕ} {c : Char} {kind : Token.Kind} {rest : List Char}
    (hkind : Token.Kind.ofPunctuation? c = some kind) (hcolon : c = ':' → rest.head? ≠ some ':') :
    firstAt offset c rest = .ok (⟨kind, c.toString, offset, offset + c.utf8Size⟩, rest) := by
  rw [firstAt_eq_plainAt ?_ ?_ hcolon ?_, plainAt, hkind]
  · rintro rfl
    cases hkind
  · rintro rfl
    cases hkind
  · rintro rfl
    cases hkind

/-- A run of data characters is a word, unless a slash or an ellipsis starts it. -/
theorem firstAt_bareWord {offset : ℕ} {word : String} {c : Char} {text rest : List Char}
    (hword : IsBareWord word) (htext : word.toList = c :: text)
    (hrest : ∀ c ∈ rest.head?, isDataChar c = false) :
    firstAt offset c (text ++ rest) =
      .ok (⟨.data, word, offset, offset + Text.byteSize word.toList⟩, rest) := by
  have hchars := hword.chars
  have hslash := hword.slash
  rw [htext] at hchars hslash
  obtain ⟨-, hsigil, hplain⟩ := isDataChar_iff.1 (hchars c List.mem_cons_self)
  have hall : ∀ d ∈ text, isDataChar d = true := fun d hd => hchars d (List.mem_cons_of_mem _ hd)
  have htake : (text ++ rest).takeWhile isDataChar = text := by
    rw [List.takeWhile_append_of_pos hall, takeWhile_eq_nil hrest, List.append_nil]
  have hdrop : (text ++ rest).dropWhile isDataChar = rest := by
    rw [List.dropWhile_append_of_pos hall, dropWhile_eq_self hrest]
  rw [firstAt_eq_plainAt hsigil ?_ ?_ (hword.dots_append htext hrest), plainAt, hplain]
  · simp only [htake, hdrop, ← htext, String.ofList_toList]
  · rintro rfl
    exact hslash rfl
  · rintro rfl
    cases hplain

/-- A text between slashes is a word. -/
theorem firstAt_literal {offset : ℕ} {body rest : List Char} (hne : body ≠ [])
    (hslash : '/' ∉ body) :
    firstAt offset '/' (body ++ '/' :: rest) =
      .ok (⟨.data, String.ofList body, offset, offset + Text.byteSize body + 2⟩, rest) := by
  have hall : ∀ c ∈ body, (c != '/') = true := by
    intro c hc
    rw [bne_iff_ne]
    rintro rfl
    exact hslash hc
  have htake : (body ++ '/' :: rest).takeWhile (· != '/') = body := by
    rw [List.takeWhile_append_of_pos hall]
    simp
  have hdrop : (body ++ '/' :: rest).dropWhile (· != '/') = '/' :: rest := by
    rw [List.dropWhile_append_of_pos hall]
    simp
  obtain ⟨c, body, rfl⟩ := List.exists_cons_of_ne_nil hne
  simp only [firstAt, literalAt]
  rw [htake, hdrop]

/-! ## Forms of tokens -/

/-- `source` is cut off a text as a token with this kind and text, where `rest` stands behind it:
what follows can neither lengthen a bare word nor make two colons out of one. -/
inductive IsLexeme : List Char → List Char → Token.Kind → String → Prop
  | doubleColon (rest : List Char) : IsLexeme [':', ':'] rest .doubleColon "::"
  | ellipsis (rest : List Char) : IsLexeme ['.', '.', '.'] rest .ellipsis "..."
  | sigil (sigil : Sigil) (rest : List Char) :
    IsLexeme ['\\', sigil.letter] rest (.sigil sigil) (String.ofList ['\\', sigil.letter])
  | punctuation {c : Char} {kind : Token.Kind} {rest : List Char}
    (hkind : Token.Kind.ofPunctuation? c = some kind) (hcolon : c = ':' → rest.head? ≠ some ':') :
    IsLexeme [c] rest kind c.toString
  | literal {body : List Char} (rest : List Char) (hne : body ≠ []) (hslash : '/' ∉ body) :
    IsLexeme ('/' :: (body ++ ['/'])) rest .data (String.ofList body)
  | bareWord {word : String} {rest : List Char} (hword : IsBareWord word)
    (hrest : ∀ c ∈ rest.head?, isDataChar c = false) : IsLexeme word.toList rest .data word

namespace IsLexeme

variable {source rest : List Char} {kind : Token.Kind} {text : String}

/-- A lexeme starts with a character that is not blank. -/
theorem exists_head (h : IsLexeme source rest kind text) :
    ∃ c tail, source = c :: tail ∧ Text.isBlank c = false := by
  cases h with
  | doubleColon => exact ⟨':', [':'], rfl, rfl⟩
  | ellipsis => exact ⟨'.', ['.', '.'], rfl, rfl⟩
  | sigil sigil => exact ⟨'\\', [sigil.letter], rfl, rfl⟩
  | punctuation hkind => exact ⟨_, [], rfl, isBlank_of_ofPunctuation? hkind⟩
  | literal => exact ⟨'/', _, rfl, rfl⟩
  | bareWord hword =>
    obtain ⟨c, tail, htext⟩ := List.exists_cons_of_ne_nil hword.ne_nil
    have hchar := hword.chars c (by rw [htext]; exact List.mem_cons_self)
    exact ⟨c, tail, htext, (isDataChar_iff.1 hchar).1⟩

theorem text_ne_empty (h : IsLexeme source rest kind text) : text ≠ "" := by
  cases h with
  | doubleColon => decide
  | ellipsis => decide
  | sigil | punctuation => simp
  | literal _ hne => simpa using hne
  | bareWord hword => simpa using hword.ne_nil

/-- What stands behind a lexeme may be replaced by what begins alike or with a blank. -/
theorem followedBy (h : IsLexeme source rest kind text) {other : List Char}
    (hother : ∀ c ∈ other.head?, rest.head? = some c ∨ Text.isBlank c = true) :
    IsLexeme source other kind text := by
  cases h with
  | doubleColon => exact .doubleColon other
  | ellipsis => exact .ellipsis other
  | sigil sigil => exact .sigil sigil other
  | punctuation hkind hcolon =>
    refine .punctuation hkind fun hc hhead => ?_
    obtain hsame | hblank := hother ':' hhead
    · exact hcolon hc hsame
    · exact absurd hblank (by decide)
  | literal _ hne hslash => exact .literal other hne hslash
  | bareWord hword hrest =>
    refine .bareWord hword fun c hc => ?_
    obtain hsame | hblank := hother c hc
    · exact hrest c hsame
    · simp [isDataChar, hblank]

end IsLexeme

theorem byteSize_literal (body : List Char) :
    Text.byteSize ('/' :: (body ++ ['/'])) = Text.byteSize body + 2 := by
  rw [Text.byteSize, Text.byteSize_append]
  exact Nat.add_comm _ _

/-- The token starts at `offset` with `c`, covers a lexeme, and `rest` follows it in `c :: text`. -/
def IsCutOff (offset : ℕ) (c : Char) (text rest : List Char) (token : Token) : Prop :=
  ∃ tail, text = tail ++ rest ∧ IsLexeme (c :: tail) rest token.kind token.text ∧
    token.start = offset ∧ token.stop = offset + Text.byteSize (c :: tail)

theorem sigilAt_cutsOff {offset : ℕ} {text rest : List Char} {token : Token}
    (h : sigilAt offset text = .ok (token, rest)) : IsCutOff offset '\\' text rest token := by
  unfold sigilAt at h
  split at h
  · cases h
  · next letter after =>
    split at h
    · next sigil hsigil =>
      cases h
      obtain rfl := Sigil.ofLetter?_eq_some_iff.1 hsigil
      refine ⟨[sigil.letter], rfl, .sigil sigil _, rfl, ?_⟩
      cases sigil <;> rfl
    · cases h

theorem literalAt_cutsOff {offset : ℕ} {text rest : List Char} {token : Token}
    (h : literalAt offset text = .ok (token, rest)) : IsCutOff offset '/' text rest token := by
  have hsplit := List.takeWhile_append_dropWhile (p := (· != '/')) (l := text)
  have hbody : '/' ∉ text.takeWhile (· != '/') := fun hmem => by
    simpa using List.mem_takeWhile_imp hmem
  unfold literalAt at h
  split at h
  · cases h
  · cases h
  · next d body slash after htake hdrop =>
    cases h
    have hslash : slash = '/' := by
      have := List.head?_dropWhile_not (· != '/') text
      rw [hdrop] at this
      simpa using this
    subst hslash
    rw [htake] at hsplit hbody
    rw [hdrop] at hsplit
    refine ⟨d :: body ++ ['/'], ?_, .literal _ (List.cons_ne_nil d body) hbody, rfl, ?_⟩
    · rw [← hsplit, List.append_assoc, List.singleton_append]
    · rw [byteSize_literal, ← Nat.add_assoc]

theorem plainAt_cutsOff {offset : ℕ} {c : Char} {text : List Char}
    (hblank : Text.isBlank c = false) (hsigil : c ≠ '\\') (hslash : c ≠ '/')
    (hcolon : c = ':' → text.head? ≠ some ':') (hdots : c = '.' → ¬['.', '.'] <+: text) :
    IsCutOff offset c text (plainAt offset c text).2 (plainAt offset c text).1 := by
  unfold plainAt
  split
  · next kind hkind => exact ⟨[], rfl, .punctuation hkind hcolon, rfl, rfl⟩
  · next hplain =>
    have hword : IsBareWord (String.ofList (c :: text.takeWhile isDataChar)) := {
      ne_nil := by simp
      chars := by
        intro d hd
        rw [String.toList_ofList] at hd
        obtain rfl | hd := List.mem_cons.1 hd
        · exact isDataChar_iff.2 ⟨hblank, hsigil, hplain⟩
        · exact List.mem_takeWhile_imp hd
      slash := by simpa using hslash
      dots := by
        rw [String.toList_ofList]
        intro hdotted
        obtain ⟨hdot, hdotted⟩ := List.cons_prefix_cons.1 hdotted
        exact hdots hdot.symm (hdotted.trans (List.takeWhile_prefix _)) }
    have hrest : ∀ d ∈ (text.dropWhile isDataChar).head?, isDataChar d = false := by
      intro d hd
      have hhead := List.head?_dropWhile_not isDataChar text
      rw [hd] at hhead
      simpa using hhead
    have hlexeme := IsLexeme.bareWord hword hrest
    rw [String.toList_ofList] at hlexeme
    exact ⟨_, List.takeWhile_append_dropWhile.symm, hlexeme, rfl, rfl⟩

/-- What is cut off at a character that is not blank: a lexeme, and nothing else. -/
theorem firstAt_eq_ok_iff {offset : ℕ} {c : Char} {text rest : List Char} {token : Token}
    (hblank : Text.isBlank c = false) :
    firstAt offset c text = .ok (token, rest) ↔ IsCutOff offset c text rest token := by
  constructor
  · intro h
    unfold firstAt at h
    split at h
    · cases h
      exact ⟨[':'], rfl, .doubleColon rest, rfl, rfl⟩
    · cases h
      exact ⟨['.', '.'], rfl, .ellipsis rest, rfl, rfl⟩
    · exact sigilAt_cutsOff h
    · exact literalAt_cutsOff h
    · next hsigil hslash hcolon hdots =>
      obtain ⟨rfl, rfl⟩ := Prod.ext_iff.1 (Except.ok.inj h)
      refine plainAt_cutsOff hblank (hsigil ·) (hslash ·) ?_ ?_
      · intro hc hhead
        cases text with
        | nil => cases hhead
        | cons d text => exact hcolon text hc (by rw [Option.some.inj hhead])
      · rintro hc ⟨after, rfl⟩
        exact hdots after hc rfl
  · rintro ⟨tail, rfl, hlexeme, hstart, hstop⟩
    obtain ⟨kind, text, start, stop⟩ := token
    simp only at hlexeme hstart hstop
    subst hstart hstop
    generalize hsource : c :: tail = source at hlexeme
    cases hlexeme with
    | doubleColon => cases hsource; rfl
    | ellipsis => cases hsource; rfl
    | sigil sigil =>
      cases hsource
      cases sigil <;> rfl
    | punctuation hkind hcolon =>
      cases hsource
      exact firstAt_punctuation hkind hcolon
    | literal _ hne hslash =>
      cases hsource
      rw [List.append_assoc, List.singleton_append, firstAt_literal hne hslash, byteSize_literal,
        Nat.add_assoc]
    | bareWord hword hrest =>
      rw [firstAt_bareWord hword hsource.symm hrest]

theorem isBlank_of_dropWhile {text rest : List Char} {c : Char}
    (h : text.dropWhile Text.isBlank = c :: rest) : Text.isBlank c = false := by
  have hhead := List.head?_dropWhile_not Text.isBlank text
  rw [h] at hhead
  simpa using hhead

theorem map_cons_eq_ok {token : Token} {tokens : List Token} {scanned : Except Error (List Token)}
    (h : scanned.map (token :: ·) = .ok tokens) :
    ∃ others, scanned = .ok others ∧ tokens = token :: others := by
  cases scanned with
  | error e => cases h
  | ok others => exact ⟨others, rfl, (Except.ok.inj h).symm⟩

/-- The words of a query are not empty. -/
theorem text_ne_empty_of_scanFrom_eq (offset : ℕ) (text : List Char) :
    ∀ {tokens : List Token}, scanFrom offset text = .ok tokens →
    ∀ token ∈ tokens, token.kind = .data → token.text ≠ "" := by
  fun_induction scanFrom offset text with
  | case1 => simp
  | case2 => simp
  | case3 offset text c rest hsome token after hfirst ih =>
    intro tokens h
    obtain ⟨others, hothers, rfl⟩ := map_cons_eq_ok h
    obtain ⟨tail, -, hlexeme, -, -⟩ := (firstAt_eq_ok_iff (isBlank_of_dropWhile hsome)).1 hfirst
    intro other hother hdata
    obtain rfl | hother := List.mem_cons.1 hother
    · exact hlexeme.text_ne_empty
    · exact ih hothers other hother hdata

/-! ## Texts with given terminals -/

/-- The text can be cut into tokens with these terminals. -/
def Scans (text : List Char) (front : List Terminal) : Prop :=
  ∀ offset, ∃ tokens, scanFrom offset text = .ok tokens ∧ terminals tokens = front

namespace Scans

variable {rest : List Char} {after : List Terminal}

theorem nil : Scans [] [] := fun offset => ⟨[], scanFrom_nil offset, rfl⟩

theorem blank {c : Char} (h : Scans rest after) (hblank : Text.isBlank c = true) :
    Scans (c :: rest) after := by
  intro offset
  rw [scanFrom_blank hblank]
  exact h _

/-- A token with a terminal is cut off, whatever the offset. -/
theorem cons {c : Char} {text : List Char} {terminal : Terminal} (h : Scans rest after)
    (hblank : Text.isBlank c = false)
    (hfirst : ∀ offset, ∃ token, firstAt offset c text = .ok (token, rest) ∧
      token.terminal = terminal) : Scans (c :: text) (terminal :: after) := by
  intro offset
  obtain ⟨token, htoken, rfl⟩ := hfirst offset
  obtain ⟨tokens, htokens, rfl⟩ := h token.stop
  exact ⟨token :: tokens, by rw [scanFrom_token hblank htoken, htokens]; rfl, rfl⟩

theorem doubleColon (h : Scans rest after) :
    Scans (':' :: ':' :: rest) (.mark .doubleColon :: after) :=
  h.cons rfl fun _ => ⟨_, rfl, rfl⟩

theorem ellipsis (h : Scans rest after) :
    Scans ('.' :: '.' :: '.' :: rest) (.mark .ellipsis :: after) :=
  h.cons rfl fun _ => ⟨_, rfl, rfl⟩

theorem sigil (sigil : Sigil) (h : Scans rest after) :
    Scans ('\\' :: sigil.letter :: rest) (.mark (.sigil sigil) :: after) := by
  refine h.cons rfl fun offset => ?_
  cases sigil <;> exact ⟨_, rfl, rfl⟩

/-- Punctuation is a token by itself, but two colons are one. -/
theorem punctuation {c : Char} {kind : Token.Kind} (h : Scans rest after)
    (hkind : Token.Kind.ofPunctuation? c = some kind) (hcolon : c = ':' → rest.head? ≠ some ':') :
    Scans (c :: rest) (.mark kind :: after) := by
  have hdata : kind ≠ .data := by
    rintro rfl
    unfold Token.Kind.ofPunctuation? at hkind
    split at hkind <;> cases hkind
  exact h.cons (isBlank_of_ofPunctuation? hkind) fun offset =>
    ⟨_, firstAt_punctuation hkind hcolon, terminal_of_kind rfl hdata⟩

/-- A run of data characters is a word, unless a slash or an ellipsis starts it. -/
theorem bareWord {word : String} (h : Scans rest after) (hword : IsBareWord word)
    (hrest : ∀ c ∈ rest.head?, isDataChar c = false) :
    Scans (word.toList ++ rest) (.word word :: after) := by
  obtain ⟨c, text, htext⟩ := List.exists_cons_of_ne_nil hword.ne_nil
  have hchar := hword.chars c (by rw [htext]; exact List.mem_cons_self)
  rw [htext, List.cons_append]
  exact h.cons (isDataChar_iff.1 hchar).1 fun offset =>
    ⟨_, firstAt_bareWord hword htext hrest, terminal_of_data rfl⟩

/-- A text between slashes is a word. -/
theorem literal {body : List Char} (h : Scans rest after) (hne : body ≠ []) (hslash : '/' ∉ body) :
    Scans ('/' :: (body ++ '/' :: rest)) (.word (String.ofList body) :: after) :=
  h.cons rfl fun _ => ⟨_, firstAt_literal hne hslash, terminal_of_data rfl⟩

end Scans

end StructSearch.Query
