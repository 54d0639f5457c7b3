import Mathlib.Data.List.TakeWhile
import Mathlib.Tactic
import StructSearch.Proofs.Query.Spacing

/-!
# Nothing of a query is lost

Cutting a query into tokens leaves out white space and nothing else. A query that is cut into tokens
consists of them and of gaps: each token covers a lexeme at its place, and a gap holds only blanks.
That describes the tokens completely, so what stands before a place where no token can be cut off
is itself a query that is cut into tokens.

Results:
* `scanFrom_eq_ok_iff`: the tokens of a text are those that it consists of.
* `exists_stray_of_scanFrom`: where cutting stops, and why.
* `Consists.lossless`: what the tokens keep of a query.
* `scan_keeps_everything`: every query is cut into tokens that keep all of it, or has a first place
  where a backslash or a slash begins no token.
-/

namespace StructSearch.Query

open Token

/-! ## What a query consists of -/

/-- The characters that end a bare word although they are not blank. -/
def delimiters : List Char :=
  ['<', '>', '=', '&', '|', '(', ')', '~', '!', '\\', ':', ',', '#', '{', '}', '[', ']']

theorem isExcluded_iff {c : Char} : isExcluded c = true ↔ c ∈ delimiters := by
  constructor
  · intro h
    simp only [isExcluded, Bool.or_eq_true, beq_iff_eq, Option.isSome_iff_exists] at h
    obtain rfl | ⟨kind, hkind⟩ := h
    · decide
    · unfold Token.Kind.ofPunctuation? at hkind
      split at hkind <;> first | decide | cases hkind
  · intro h
    simp only [delimiters, List.mem_cons, List.not_mem_nil, or_false] at h
    rcases h with rfl | rfl | rfl | rfl | rfl | rfl | rfl | rfl | rfl | rfl | rfl | rfl | rfl |
      rfl | rfl | rfl | rfl <;> rfl

/-- A text behind `before` consists of tokens at their places and of gaps around them. -/
inductive Consists : List Char → List Char → List Token → Prop
  | gap {before gap : List Char} (hgap : IsGap gap) : Consists before gap []
  | token {before gap source rest : List Char} {token : Token} {tokens : List Token}
    (hgap : IsGap gap) (hlexeme : IsLexeme source rest token.kind token.text)
    (hstart : token.start = Text.byteSize (before ++ gap))
    (hstop : token.stop = Text.byteSize (before ++ gap ++ source))
    (hrest : Consists (before ++ gap ++ source) rest tokens) :
    Consists before (gap ++ (source ++ rest)) (token :: tokens)

theorem isGap_takeWhile (text : List Char) : IsGap (text.takeWhile Text.isBlank) :=
  fun _ hc => List.mem_takeWhile_imp hc

/-- Where a token is cut off, a text is a gap, a lexeme and the rest. -/
theorem exists_gap_lexeme {before text rest after : List Char} {c : Char} {token : Token}
    (hsome : text.dropWhile Text.isBlank = c :: rest)
    (hfirst : firstAt (Text.byteSize before + Text.byteSize (text.takeWhile Text.isBlank)) c rest =
      .ok (token, after)) :
    ∃ gap source, text = gap ++ (source ++ after) ∧ IsGap gap ∧
      IsLexeme source after token.kind token.text ∧
      token.start = Text.byteSize (before ++ gap) ∧
      token.stop = Text.byteSize (before ++ gap ++ source) := by
  obtain ⟨tail, rfl, hlexeme, hstart, hstop⟩ :=
    (firstAt_eq_ok_iff (isBlank_of_dropWhile hsome)).1 hfirst
  have htext := List.takeWhile_append_dropWhile (p := Text.isBlank) (l := text)
  rw [hsome] at htext
  refine ⟨_, c :: tail, htext.symm, isGap_takeWhile text, hlexeme, ?_, ?_⟩
  · rw [hstart, Text.byteSize_append]
  · rw [hstop, Text.byteSize_append, Text.byteSize_append]

theorem consists_of_scanFrom (offset : ℕ) (text : List Char) :
    ∀ {before : List Char} {tokens : List Token}, offset = Text.byteSize before →
      scanFrom offset text = .ok tokens → Consists before text tokens := by
  fun_induction scanFrom offset text with
  | case1 offset text hnone =>
    intro before tokens _ h
    cases h
    have htext := List.takeWhile_append_dropWhile (p := Text.isBlank) (l := text)
    rw [hnone, List.append_nil] at htext
    rw [← htext]
    exact .gap (isGap_takeWhile text)
  | case2 =>
    intro before tokens _ h
    cases h
  | case3 offset text c rest hsome token after hfirst ih =>
    rintro before tokens rfl h
    obtain ⟨others, hothers, rfl⟩ := map_cons_eq_ok h
    obtain ⟨gap, source, rfl, hgap, hlexeme, hstart, hstop⟩ := exists_gap_lexeme hsome hfirst
    exact .token hgap hlexeme hstart hstop (ih hstop hothers)

theorem Consists.scanFrom_eq {before text : List Char} {tokens : List Token}
    (h : Consists before text tokens) : scanFrom (Text.byteSize before) text = .ok tokens := by
  induction h with
  | @gap before gap hgap =>
    rw [← List.append_nil gap, scanFrom_gap hgap, scanFrom_nil]
  | @token before gap source rest token tokens hgap hlexeme hstart hstop _ ih =>
    obtain ⟨c, tail, rfl, hblank⟩ := hlexeme.exists_head
    have hfirst : firstAt (Text.byteSize (before ++ gap)) c (tail ++ rest) = .ok (token, rest) :=
      (firstAt_eq_ok_iff hblank).2
        ⟨tail, rfl, hlexeme, hstart, by rw [hstop, Text.byteSize_append]⟩
    rw [scanFrom_gap hgap, ← Text.byteSize_append, List.cons_append, scanFrom_token hblank hfirst,
      hstop, ih]
    rfl

/-- The tokens of a text are those that it consists of. -/
theorem scanFrom_eq_ok_iff {before text : List Char} {tokens : List Token} :
    scanFrom (Text.byteSize before) text = .ok tokens ↔ Consists before text tokens :=
  ⟨consists_of_scanFrom _ _ rfl, Consists.scanFrom_eq⟩

/-! ## Where no token can be cut off -/

/-- Why no token starts with `c` where `after` stands behind it. -/
def LexFault.IsMetAt (fault : LexFault) (c : Char) (after : List Char) : Prop :=
  match fault with
  | .sigil found => c = '\\' ∧ found = after.head? ∧ ∀ d ∈ found, d ∉ ['F', 'T', 'V', 'P']
  | .unterminated => c = '/' ∧ '/' ∉ after
  | .emptyLiteral => c = '/' ∧ after.head? = some '/'

theorem sigilAt_eq_error {offset : ℕ} {text : List Char} {e : Error}
    (h : sigilAt offset text = .error e) :
    ∃ fault, e = .lex offset fault ∧ fault.IsMetAt '\\' text := by
  unfold sigilAt at h
  split at h
  · cases h
    exact ⟨_, rfl, rfl, rfl, by simp⟩
  · next c rest =>
    split at h
    · cases h
    · next hnone =>
      cases h
      refine ⟨_, rfl, rfl, rfl, ?_⟩
      rintro d ⟨⟩ hletter
      simp only [List.mem_cons, List.not_mem_nil, or_false] at hletter
      rcases hletter with rfl | rfl | rfl | rfl <;> cases hnone

theorem literalAt_eq_error {offset : ℕ} {text : List Char} {e : Error}
    (h : literalAt offset text = .error e) :
    ∃ fault, e = .lex offset fault ∧ fault.IsMetAt '/' text := by
  unfold literalAt at h
  split at h
  · next hnone =>
    cases h
    refine ⟨_, rfl, rfl, fun hslash => ?_⟩
    have := List.dropWhile_eq_nil_iff.1 hnone '/' hslash
    simp at this
  · next slash rest htake hdrop =>
    cases h
    refine ⟨_, rfl, rfl, ?_⟩
    have htext := List.takeWhile_append_dropWhile (p := (· != '/')) (l := text)
    have hhead := List.head?_dropWhile_not (· != '/') text
    rw [htake, List.nil_append] at htext
    rw [htext] at hhead
    cases text with
    | nil => cases hdrop
    | cons d text => simpa using hhead
  · cases h

theorem firstAt_eq_error {offset : ℕ} {c : Char} {text : List Char} {e : Error}
    (h : firstAt offset c text = .error e) :
    ∃ fault, e = .lex offset fault ∧ fault.IsMetAt c text := by
  unfold firstAt at h
  split at h
  · cases h
  · cases h
  · exact sigilAt_eq_error h
  · exact literalAt_eq_error h
  · cases h

/-- Cutting stops at the first character that begins no token. What stands before it consists of
tokens. -/
theorem exists_stray_of_scanFrom (offset : ℕ) (text : List Char) :
    ∀ {before : List Char} {e : Error}, offset = Text.byteSize before →
      scanFrom offset text = .error e →
      ∃ front tokens c after fault, text = front ++ c :: after ∧ Consists before front tokens ∧
        e = .lex (Text.byteSize (before ++ front)) fault ∧ fault.IsMetAt c after := by
  fun_induction scanFrom offset text with
  | case1 =>
    intro before e _ h
    cases h
  | case2 offset text c rest hsome other hfirst =>
    rintro before e rfl h
    cases h
    obtain ⟨fault, rfl, hmet⟩ := firstAt_eq_error hfirst
    have htext := List.takeWhile_append_dropWhile (p := Text.isBlank) (l := text)
    rw [hsome] at htext
    refine ⟨_, [], c, rest, fault, htext.symm, .gap (isGap_takeWhile text), ?_, hmet⟩
    rw [Text.byteSize_append]
  | case3 offset text c rest hsome token after hfirst ih =>
    rintro before e rfl h
    obtain ⟨gap, source, rfl, hgap, hlexeme, hstart, hstop⟩ := exists_gap_lexeme hsome hfirst
    have hlater : scanFrom token.stop after = .error e := by
      cases hscan : scanFrom token.stop after with
      | ok others => rw [hscan] at h; cases h
      | error other => rw [hscan] at h; exact h
    obtain ⟨front, tokens, d, rest, fault, rfl, hconsists, he, hmet⟩ := ih hstop hlater
    -- The text ends earlier now, which can only take away what follows the token.
    have hshort : IsLexeme source front token.kind token.text := by
      refine hlexeme.followedBy fun next hnext => Or.inl ?_
      rw [List.head?_append, hnext]
      rfl
    refine ⟨gap ++ (source ++ front), token :: tokens, d, rest, fault, ?_,
      .token hgap hshort hstart hstop hconsists, ?_, hmet⟩
    · simp only [List.append_assoc]
    · rw [he]
      simp only [List.append_assoc]

/-! ## What tokens keep -/

/-- How a token shows in a query: it covers `source`, and `after` stands behind that. -/
structure Token.WrittenAs (token : Token) (source after : List Char) : Prop where
  /-- The text of a token is what it covers, but for a word that begins with a slash. -/
  plain : ¬(token.kind = .data ∧ source.head? = some '/') → token.text.toList = source
  /-- The text of a word that begins with a slash stands between two slashes. -/
  literal : token.kind = .data → source.head? = some '/' →
    source = '/' :: (token.text.toList ++ ['/']) ∧ token.text ≠ "" ∧ '/' ∉ token.text.toList
  /-- A bare word holds no delimiter and ends only where it must. -/
  maximal : token.kind = .data → source.head? ≠ some '/' →
    (∀ c ∈ source, Text.isBlank c = false ∧ c ∉ delimiters) ∧
      ∀ c ∈ after.head?, Text.isBlank c = true ∨ c ∈ delimiters
  /-- Any other token covers the sign of its kind. -/
  sign : token.kind ≠ .data → token.kind.describe = "'" ++ token.text ++ "'"

/-- The tokens keep all of a query but its white space. -/
structure Lossless (query : List Char) (tokens : List Token) : Prop where
  nonempty : ∀ token ∈ tokens, token.start < token.stop
  increasing : tokens.Pairwise fun first second => first.stop ≤ second.start
  /-- Tokens start and stop between two characters. -/
  written : ∀ token ∈ tokens, ∃ before source after, query = before ++ (source ++ after) ∧
    token.start = Text.byteSize before ∧ token.stop = Text.byteSize (before ++ source) ∧
      token.WrittenAs source after
  /-- A character that no token covers is blank. -/
  outside : ∀ before c after, query = before ++ c :: after →
    (∀ token ∈ tokens,
      ¬(token.start ≤ Text.byteSize before ∧ Text.byteSize before < token.stop)) →
    Text.isBlank c = true

theorem IsLexeme.writtenAs {source after : List Char} {token : Token}
    (h : IsLexeme source after token.kind token.text) : token.WrittenAs source after := by
  obtain ⟨kind, text, start, stop⟩ := token
  simp only at h
  cases h with
  | doubleColon => exact ⟨fun _ => by simp, nofun, nofun, fun _ => rfl⟩
  | ellipsis => exact ⟨fun _ => by simp, nofun, nofun, fun _ => rfl⟩
  | sigil sigil => exact ⟨fun _ => by simp, nofun, nofun, fun _ => by cases sigil <;> rfl⟩
  | punctuation hkind hcolon =>
    have hdata : kind ≠ .data := by
      rintro rfl
      unfold Token.Kind.ofPunctuation? at hkind
      split at hkind <;> cases hkind
    refine ⟨fun _ => by simp, fun h => absurd h hdata, fun h => absurd h hdata, fun _ => ?_⟩
    unfold Token.Kind.ofPunctuation? at hkind
    split at hkind <;> cases hkind <;> rfl
  | literal _ hne hslash =>
    refine ⟨fun h => absurd ⟨rfl, rfl⟩ h, fun _ _ => ⟨?_, ?_, ?_⟩, fun _ h => absurd rfl h, nofun⟩
    · simp
    · simpa using hne
    · simpa using hslash
  | bareWord hword hrest =>
    refine ⟨fun _ => rfl, fun _ h => absurd h hword.slash, fun _ _ => ⟨fun c hc => ?_, ?_⟩, nofun⟩
    · have hchar := hword.chars c hc
      simp only [isDataChar, Bool.and_eq_true, Bool.not_eq_true'] at hchar
      exact ⟨hchar.1, fun hmem => by simp [isExcluded_iff.2 hmem] at hchar⟩
    · intro c hc
      have hchar := hrest c hc
      simp only [isDataChar, Bool.and_eq_false_iff, Bool.not_eq_false'] at hchar
      exact hchar.imp_right isExcluded_iff.1

/-- A character of a text in two parts stands in the first part or in the second. -/
theorem first_or_second {first second front after : List Char} {c : Char}
    (h : first ++ second = front ++ c :: after) :
    (∃ inner, first = front ++ c :: inner) ∨
      ∃ later, front = first ++ later ∧ second = later ++ c :: after := by
  obtain ⟨later, hfront, hsecond⟩ | ⟨inner, hfirst, hafter⟩ := List.append_eq_append_iff.1 h
  · exact Or.inr ⟨later, hfront, hsecond⟩
  · cases inner with
    | nil => exact Or.inr ⟨[], by simpa using hfirst.symm, hafter.symm⟩
    | cons d inner =>
      obtain ⟨rfl, -⟩ := List.cons.inj hafter
      exact Or.inl ⟨inner, hfirst⟩

namespace Consists

variable {before text : List Char} {tokens : List Token}

theorem le_start (h : Consists before text tokens) :
    ∀ token ∈ tokens, Text.byteSize before ≤ token.start := by
  induction h with
  | gap => simp
  | token _ _ hstart _ _ ih =>
    intro other hother
    obtain rfl | hother := List.mem_cons.1 hother
    · rw [hstart, Text.byteSize_append]
      omega
    · have := ih other hother
      rw [Text.byteSize_append, Text.byteSize_append] at this
      omega

theorem nonempty (h : Consists before text tokens) :
    ∀ token ∈ tokens, token.start < token.stop := by
  induction h with
  | gap => simp
  | token _ hlexeme hstart hstop _ ih =>
    intro other hother
    obtain rfl | hother := List.mem_cons.1 hother
    · obtain ⟨c, tail, rfl, -⟩ := hlexeme.exists_head
      have hc := c.utf8Size_pos
      rw [hstart, hstop, Text.byteSize_append _ (c :: tail), Text.byteSize]
      omega
    · exact ih other hother

theorem increasing (h : Consists before text tokens) :
    tokens.Pairwise fun first second => first.stop ≤ second.start := by
  induction h with
  | gap => exact .nil
  | token _ _ _ hstop hrest ih =>
    rw [List.pairwise_cons]
    refine ⟨fun other hother => ?_, ih⟩
    rw [hstop]
    exact hrest.le_start other hother

theorem written (h : Consists before text tokens) : ∀ token ∈ tokens, ∃ front source after,
    before ++ text = front ++ (source ++ after) ∧ token.start = Text.byteSize front ∧
      token.stop = Text.byteSize (front ++ source) ∧ token.WrittenAs source after := by
  induction h with
  | gap => simp
  | @token before gap source rest token tokens _ hlexeme hstart hstop _ ih =>
    intro other hother
    obtain rfl | hother := List.mem_cons.1 hother
    · exact ⟨before ++ gap, source, rest, by rw [List.append_assoc], hstart, hstop,
        hlexeme.writtenAs⟩
    · obtain ⟨front, covered, after, htext, hplaced⟩ := ih other hother
      refine ⟨front, covered, after, ?_, hplaced⟩
      rw [← htext]
      simp only [List.append_assoc]

/-- A character of the text stands in a gap, or a token covers it. -/
theorem outside (h : Consists before text tokens) : ∀ front c after, text = front ++ c :: after →
    (∀ token ∈ tokens, ¬(token.start ≤ Text.byteSize (before ++ front) ∧
      Text.byteSize (before ++ front) < token.stop)) → Text.isBlank c = true := by
  induction h with
  | gap hgap =>
    rintro front c after rfl -
    exact hgap c (by simp)
  | @token before gap source rest token tokens hgap hlexeme hstart hstop _ ih =>
    intro front c after htext houtside
    obtain ⟨inner, rfl⟩ | ⟨behind, rfl, hbehind⟩ := first_or_second htext
    · exact hgap c (by simp)
    · obtain ⟨inner, rfl⟩ | ⟨later, rfl, hlater⟩ := first_or_second hbehind
      · have hc := c.utf8Size_pos
        refine absurd ⟨?_, ?_⟩ (houtside token List.mem_cons_self)
        · simp only [hstart, Text.byteSize_append]
          omega
        · simp only [hstop, Text.byteSize_append, Text.byteSize]
          omega
      · refine ih later c after hlater fun other hother => ?_
        have := houtside other (List.mem_cons_of_mem _ hother)
        simpa only [List.append_assoc] using this

theorem lossless (h : Consists [] text tokens) : Lossless text tokens where
  nonempty := h.nonempty
  increasing := h.increasing
  written := h.written
  outside := h.outside

end Consists

/-- Every query is cut into tokens that keep all of it but white space, or there is a first place
where a backslash begins no sigil or a slash no literal; what stands before that place is cut into
tokens. -/
theorem scan_keeps_everything (query : String) :
    (∃ tokens, Token.scan query = .ok tokens ∧ Lossless query.toList tokens) ∨
      ∃ before c after fault, query.toList = before ++ c :: after ∧
        Token.scan query = .error (.lex (Text.byteSize before) fault) ∧
        fault.IsMetAt c after ∧ ∃ tokens, Token.scan (String.ofList before) = .ok tokens := by
  have hempty : 0 = Text.byteSize [] := rfl
  cases hscan : Token.scan query with
  | ok tokens => exact Or.inl ⟨tokens, rfl, (consists_of_scanFrom _ _ hempty hscan).lossless⟩
  | error e =>
    obtain ⟨front, tokens, c, after, fault, htext, hconsists, rfl, hmet⟩ :=
      exists_stray_of_scanFrom _ _ hempty hscan
    refine Or.inr ⟨front, c, after, fault, htext, rfl, hmet, tokens, ?_⟩
    rw [Token.scan, String.toList_ofList]
    exact hconsists.scanFrom_eq

end StructSearch.Query
