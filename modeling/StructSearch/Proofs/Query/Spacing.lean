import Mathlib.Data.List.TakeWhile
import Mathlib.Tactic
import StructSearch.Proofs.Query.Placement
import StructSearch.Proofs.Query.Scanning
import StructSearch.Regex.Builtin

/-!
# White space between tokens

White space separates tokens and means nothing else. The part of a query that a token covers is cut
off as the same token wherever it stands, as long as nothing or a blank follows it: a word ends at
a blank, a literal keeps its own blanks between its slashes, and a blank can make neither `::` out
of a colon nor `...` out of dots. So the parts of a query may be written with any blanks around
them and at least one between two, and the tokens have the same kinds and texts.

What they are read as is then the same pattern, or an error of the same sort that points at the
token of the same number.

Results:
* `IsLexeme.isSource`: what a token covers is cut off as the same token before a blank.
* `pairwise_start_of_scanFrom`: tokens start one after the other.
* `slice?_of_scanFrom`: each token covers a part of its query.
* `scanFrom_gapped`: the tokens of parts with blanks around them.
* `compile_respaced`: a query and its parts with other blanks around them mean the same.
-/

namespace StructSearch

namespace Query

open Token

/-! ## What a token covers -/

/-- No character is anything but blank. -/
def IsGap (text : List Char) : Prop := ∀ c ∈ text, Text.isBlank c = true

instance (text : List Char) : Decidable (IsGap text) :=
  decidable_of_iff (text.all Text.isBlank = true) List.all_eq_true

/-- The text cannot lengthen a token before it: it is empty or begins with a blank. -/
def Separates (text : List Char) : Prop := ∀ c ∈ text.head?, Text.isBlank c = true

/-- The text is cut off as one token with this kind and text, wherever it stands, if what follows
separates it. -/
def IsSource (source : List Char) (lexeme : Token.Kind × String) : Prop :=
  ∃ c tail, source = c :: tail ∧ Text.isBlank c = false ∧
    ∀ offset rest, Separates rest → firstAt offset c (tail ++ rest) =
      .ok (⟨lexeme.1, lexeme.2, offset, offset + Text.byteSize source⟩, rest)

/-- A lexeme is cut off as the same token wherever a blank or nothing follows it. -/
theorem IsLexeme.isSource {source rest : List Char} {kind : Token.Kind} {text : String}
    (h : IsLexeme source rest kind text) : IsSource source (kind, text) := by
  obtain ⟨c, tail, rfl, hblank⟩ := h.exists_head
  refine ⟨c, tail, rfl, hblank, fun offset other hother => ?_⟩
  have hlexeme := h.followedBy fun d hd => Or.inr (hother d hd)
  exact (firstAt_eq_ok_iff hblank).2 ⟨tail, rfl, hlexeme, rfl, rfl⟩

/-! ## The tokens of a text -/

/-- Each token covers a part of its query that is cut off as the same token wherever it stands. -/
theorem slice?_of_scanFrom (offset : ℕ) (text : List Char) :
    ∀ {before : List Char} {tokens : List Token}, Text.byteSize before = offset →
      scanFrom offset text = .ok tokens → ∀ token ∈ tokens, ∃ source,
        Text.slice? (before ++ text) token.start token.stop = some source ∧
          IsSource source token.lexeme := by
  fun_induction scanFrom offset text with
  | case1 => simp
  | case2 => simp
  | case3 offset text c rest hsome token after hfirst ih =>
    intro before tokens hbefore h
    obtain ⟨others, hothers, rfl⟩ := map_cons_eq_ok h
    obtain ⟨tail, rfl, hlexeme, hstart, hstop⟩ :=
      (firstAt_eq_ok_iff (isBlank_of_dropWhile hsome)).1 hfirst
    have htext := List.takeWhile_append_dropWhile (p := Text.isBlank) (l := text)
    rw [hsome] at htext
    have hfront : Text.byteSize (before ++ text.takeWhile Text.isBlank) = token.start := by
      rw [Text.byteSize_append, hbefore, hstart]
    have hnext : Text.byteSize (before ++ text.takeWhile Text.isBlank ++ c :: tail) =
        token.stop := by
      rw [Text.byteSize_append, hfront, hstart, hstop]
    have hquery : before ++ text =
        before ++ text.takeWhile Text.isBlank ++ (c :: tail ++ after) := by
      rw [List.append_assoc, List.cons_append, htext]
    intro other hother
    obtain rfl | hother := List.mem_cons.1 hother
    · refine ⟨c :: tail, ?_, hlexeme.isSource⟩
      rw [hquery, hstop, ← hstart, ← hfront]
      exact Text.slice?_append _ _ _
    · rw [hquery, ← List.append_assoc]
      exact ih hnext hothers other hother

/-- Tokens start one after the other. -/
theorem pairwise_start_of_scanFrom (offset : ℕ) (text : List Char) :
    ∀ {tokens : List Token}, scanFrom offset text = .ok tokens →
      (∀ token ∈ tokens, offset ≤ token.start) ∧
        tokens.Pairwise fun first second => first.start < second.start := by
  fun_induction scanFrom offset text with
  | case1 => simp
  | case2 => simp
  | case3 offset text c rest hsome token after hfirst ih =>
    intro tokens h
    obtain ⟨others, hothers, rfl⟩ := map_cons_eq_ok h
    obtain ⟨tail, rfl, -, hstart, hstop⟩ :=
      (firstAt_eq_ok_iff (isBlank_of_dropWhile hsome)).1 hfirst
    obtain ⟨hlater, hpairwise⟩ := ih hothers
    have hc := c.utf8Size_pos
    rw [Text.byteSize] at hstop
    refine ⟨?_, List.pairwise_cons.2 ⟨?_, hpairwise⟩⟩
    · intro other hother
      obtain rfl | hother := List.mem_cons.1 hother
      · omega
      · have := hlater other hother
        omega
    · intro other hother
      have := hlater other hother
      omega

/-! ## Other white space -/

/-- The parts in order, each followed by its gap. -/
def gapped : List (List Char) → List (List Char) → List Char
  | part :: parts, gap :: gaps => part ++ (gap ++ gapped parts gaps)
  | _, _ => []

/-- White space after each of `count` parts, which only the last of them can do without. -/
structure AreGaps (gaps : List (List Char)) (count : ℕ) : Prop where
  length : gaps.length = count
  blank : ∀ gap ∈ gaps, IsGap gap
  between : ∀ gap ∈ gaps.dropLast, gap ≠ []

theorem AreGaps.tail {gap : List Char} {gaps : List (List Char)} {count : ℕ}
    (h : AreGaps (gap :: gaps) (count + 1)) : AreGaps gaps count where
  length := Nat.succ.inj h.length
  blank := fun other hother => h.blank other (List.mem_cons_of_mem gap hother)
  between := by
    intro other hother
    cases gaps with
    | nil => simp at hother
    | cons next gaps => exact h.between other (List.mem_cons_of_mem gap hother)

/-- A gap and what follows it separate the part before them. -/
theorem AreGaps.separates {gap : List Char} {gaps parts : List (List Char)}
    (h : AreGaps (gap :: gaps) (parts.length + 1)) : Separates (gap ++ gapped parts gaps) := by
  cases gap with
  | cons c gap =>
    intro d hd
    obtain rfl : c = d := by simpa using hd
    exact h.blank _ List.mem_cons_self c List.mem_cons_self
  | nil =>
    cases gaps with
    | nil =>
      have hparts : parts = [] := List.eq_nil_of_length_eq_zero (Nat.succ.inj h.length).symm
      simp [hparts, gapped, Separates]
    | cons next gaps => exact absurd rfl (h.between [] List.mem_cons_self)

/-- A gap is dropped. -/
theorem scanFrom_gap {gap : List Char} (hgap : IsGap gap) (offset : ℕ) (text : List Char) :
    scanFrom offset (gap ++ text) = scanFrom (offset + Text.byteSize gap) text := by
  induction gap generalizing offset with
  | nil => rfl
  | cons c gap ih =>
    have hrest : IsGap gap := fun d hd => hgap d (List.mem_cons_of_mem c hd)
    rw [List.cons_append, scanFrom_blank (hgap c List.mem_cons_self), ih hrest, Text.byteSize,
      Nat.add_assoc]

/-- Parts with gaps after them are cut into tokens of the same kinds and texts. -/
theorem scanFrom_gapped {parts : List (List Char)} {lexemes : List (Token.Kind × String)}
    (hparts : List.Forall₂ IsSource parts lexemes) {gaps : List (List Char)}
    (hgaps : AreGaps gaps parts.length) (offset : ℕ) :
    ∃ tokens, scanFrom offset (gapped parts gaps) = .ok tokens ∧
      tokens.map Token.lexeme = lexemes := by
  induction hparts generalizing gaps offset with
  | nil => exact ⟨[], by rw [gapped, scanFrom_nil]; simp, rfl⟩
  | @cons part lexeme parts lexemes hpart _ ih =>
    obtain ⟨c, tail, rfl, hblank, hfirst⟩ := hpart
    cases gaps with
    | nil => cases hgaps.length
    | cons gap gaps =>
      obtain ⟨tokens, htokens, rfl⟩ :=
        ih hgaps.tail (offset + Text.byteSize (c :: tail) + Text.byteSize gap)
      refine ⟨⟨lexeme.1, lexeme.2, offset, offset + Text.byteSize (c :: tail)⟩ :: tokens, ?_, rfl⟩
      rw [gapped, List.cons_append, scanFrom_token hblank (hfirst offset _ hgaps.separates),
        scanFrom_gap (hgaps.blank gap List.mem_cons_self), htokens]
      rfl

/-! ## What the query means -/

/-- The error points at the token with this number. -/
def Error.PointsAt (e : Error) (tokens : List Token) (i : ℕ) : Prop :=
  ∃ token, tokens[i]? = some token ∧ e.offset? = some token.start

/-- The error without its place: its sort and its reason. -/
def Error.unplaced : Error → Error
  | .lex _ fault => .lex 0 fault
  | .parse _ fault => .parse 0 fault
  | .ended expected => .ended expected
  | .regex source _ fault => .regex source 0 fault

@[simp] theorem unplaced_move (move : Move) (e : Error) :
    (move.error e).unplaced = e.unplaced := by
  cases e <;> rfl

section AnyEngine

variable [Regex.Engine]

omit [Regex.Engine] in
/-- An error of numbered tokens that is moved onto tokens points at the token of its number. -/
theorem pointsAt_onto {tokens : List Token} {e : Error} {i : ℕ}
    (hstarts : tokens.Pairwise fun first second => first.start < second.start)
    (hrange : ∀ offset ∈ e.offset?, offset < tokens.length) :
    ((Move.onto tokens).error e).PointsAt tokens i ↔ e.offset? = some i := by
  have hplace (k : ℕ) (hk : k < tokens.length) :
      (Move.onto tokens).start k = (tokens.get ⟨k, hk⟩).start := by
    simp [Move.onto, hk]
  have hlt := List.pairwise_iff_getElem.1 hstarts
  rw [Error.PointsAt, Move.offset?_error]
  constructor
  · rintro ⟨token, htoken, hoffset⟩
    obtain ⟨k, hk, hstart⟩ := Option.map_eq_some_iff.1 hoffset
    obtain ⟨hi, rfl⟩ := List.getElem?_eq_some_iff.1 htoken
    rw [hplace k (hrange k hk)] at hstart
    have hki : k = i := by
      rcases lt_trichotomy k i with h | h | h
      · exact absurd hstart (hlt k i _ hi h).ne
      · exact h
      · exact absurd hstart (hlt i k hi _ h).ne'
    rw [hk, hki]
  · intro hoffset
    have hi := hrange i hoffset
    exact ⟨tokens.get ⟨i, hi⟩, by simp, by rw [hoffset, Option.map_some, hplace i hi]⟩

theorem compile_eq_onto {query : String} {tokens : List Token}
    (hscan : Token.scan query = .ok tokens) :
    Pattern.compile query =
      (Move.onto tokens).result (Pattern.ofTokens (numbered (tokens.map Token.lexeme))) := by
  rw [← ofTokens_eq_onto, Pattern.compile, hscan]
  rfl

/-- The part of the query that a token covers. -/
def Token.source (query : String) (token : Token) : List Char :=
  (Text.slice? query.toList token.start token.stop).getD []

/-- White space between tokens means nothing. Let a query consist of tokens, and write the parts
that they cover in the same order with any white space `before` them, between two of them at least
one blank, and any after the last. This text consists of tokens of the same kinds and texts, and it
is read as the same pattern, or refused for the same reason at the token of the same number. -/
theorem compile_respaced {query spaced : String} {tokens : List Token} {before : List Char}
    {gaps : List (List Char)} (hscan : Token.scan query = .ok tokens) (hbefore : IsGap before)
    (hgaps : AreGaps gaps tokens.length)
    (hspaced : spaced.toList = before ++ gapped (tokens.map (Token.source query)) gaps) :
    (∀ token ∈ tokens,
      Text.slice? query.toList token.start token.stop = some (token.source query)) ∧
    ∃ others, Token.scan spaced = .ok others ∧
      others.map Token.lexeme = tokens.map Token.lexeme ∧
      ((∃ pattern, Pattern.compile query = .ok pattern ∧ Pattern.compile spaced = .ok pattern) ∨
        ∃ e e', Pattern.compile query = .error e ∧ Pattern.compile spaced = .error e' ∧
          e.unplaced = e'.unplaced ∧
          (e.offset?.isSome → ∃ i, e.PointsAt tokens i) ∧
          ∀ i, e.PointsAt tokens i ↔ e'.PointsAt others i) := by
  have hempty : Text.byteSize [] = 0 := rfl
  have hsources : ∀ token ∈ tokens,
      Text.slice? query.toList token.start token.stop = some (token.source query) ∧
        IsSource (token.source query) token.lexeme := by
    intro token htoken
    obtain ⟨source, hslice, hsource⟩ := slice?_of_scanFrom 0 query.toList hempty hscan token htoken
    rw [List.nil_append] at hslice
    rw [Token.source, hslice]
    exact ⟨rfl, hsource⟩
  have hparts : List.Forall₂ IsSource (tokens.map (Token.source query))
      (tokens.map Token.lexeme) := by
    rw [List.forall₂_map_left_iff, List.forall₂_map_right_iff, List.forall₂_same]
    exact fun token htoken => (hsources token htoken).2
  rw [← List.length_map (Token.source query)] at hgaps
  obtain ⟨others, hothers, hlexemes⟩ := scanFrom_gapped hparts hgaps (0 + Text.byteSize before)
  have hscan' : Token.scan spaced = .ok others := by
    rw [Token.scan, hspaced, scanFrom_gap hbefore, hothers]
  have hstarts := (pairwise_start_of_scanFrom 0 query.toList hscan).2
  have hstarts' := (pairwise_start_of_scanFrom _ _ hothers).2
  refine ⟨fun token htoken => (hsources token htoken).1, others, hscan', hlexemes, ?_⟩
  rw [compile_eq_onto hscan, compile_eq_onto hscan', hlexemes]
  cases hread : Pattern.ofTokens (numbered (tokens.map Token.lexeme)) with
  | ok pattern => exact .inl ⟨pattern, rfl, rfl⟩
  | error e =>
    have hrange := offset_lt_of_ofTokens_numbered hread
    rw [List.length_map] at hrange
    have hlength : others.length = tokens.length := by
      simpa using congrArg List.length hlexemes
    refine .inr ⟨_, _, rfl, rfl, by simp, ?_, fun i => ?_⟩
    · rw [Move.offset?_error, Option.isSome_map]
      intro hplaced
      obtain ⟨i, hi⟩ := Option.isSome_iff_exists.1 hplaced
      exact ⟨i, (pointsAt_onto hstarts hrange).2 hi⟩
    · rw [pointsAt_onto hstarts hrange, pointsAt_onto hstarts' (hlength ▸ hrange)]

end AnyEngine

/-- A chain of scopes, a literal with a blank in it, and an ellipsis where a pattern should stand:
the error points at the fifth token, wherever that is. -/
theorem compile_respaced_chain :
    Pattern.compile "A::/b c/>..." = .error (.parse 9 (.unexpected .pattern .ellipsis)) ∧
    ∃ others, Token.scan "  A\t:: /b c/ > \n..." = .ok others ∧
      ∃ e, Pattern.compile "  A\t:: /b c/ > \n..." = .error e ∧
        e.unplaced = .parse 0 (.unexpected .pattern .ellipsis) ∧ e.PointsAt others 4 := by
  have hscan : Token.scan "A::/b c/>..." = .ok [
      ⟨.data, "A", 0, 1⟩, ⟨.doubleColon, "::", 1, 3⟩, ⟨.data, "b c", 3, 8⟩, ⟨.rangle, ">", 8, 9⟩,
      ⟨.ellipsis, "...", 9, 12⟩] := by decide +kernel
  have herror : Pattern.compile "A::/b c/>..." =
      .error (.parse 9 (.unexpected .pattern .ellipsis)) := by decide +kernel
  have hgaps : AreGaps [['\t'], [' '], [' '], [' ', '\n'], []] 5 :=
    ⟨rfl, by decide, by decide⟩
  have hbefore : IsGap [' ', ' '] := by decide
  have hspaced : "  A\t:: /b c/ > \n...".toList = [' ', ' '] ++ gapped
      ([⟨.data, "A", 0, 1⟩, ⟨.doubleColon, "::", 1, 3⟩, ⟨.data, "b c", 3, 8⟩, ⟨.rangle, ">", 8, 9⟩,
        ⟨.ellipsis, "...", 9, 12⟩].map (Token.source "A::/b c/>..."))
      [['\t'], [' '], [' '], [' ', '\n'], []] := by decide +kernel
  obtain ⟨-, others, hothers, -, ⟨pattern, hok, -⟩ | ⟨e, e', he, he', hsame, -, hpoints⟩⟩ :=
    compile_respaced hscan hbefore hgaps hspaced
  · rw [herror] at hok
    cases hok
  · rw [herror] at he
    obtain rfl := Except.error.inj he
    exact ⟨herror, others, hothers, e', he', hsame.symm, (hpoints 4).1 ⟨_, rfl, rfl⟩⟩

end Query
end StructSearch
