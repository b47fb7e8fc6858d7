import Untranslated.Proofs.Escaping
import Untranslated.Syntax.Parser

/-!
# The tokens of a text

What the scanner makes of a text, told token by token: words, punctuation and
strings with white space between them.  A state of the parser sees the tokens of
the text that is left, however it came to stand there, so what a parser does can be
followed from the tokens alone, and where it does it from the text.
-/

namespace Untranslated.Syntax

/-! ### One token -/

/-- The first token after the cursor starts at the offset and ends at the other cursor. -/
def StartsWith (limit : Nat) (cursor : Cursor) (start : Nat) (token : Token) (after : Cursor) :
    Prop :=
  ∃ here, (∀ newline, ∃ broken, skipTrivia .blank cursor.rest cursor.offset newline =
      some (⟨here, start⟩, broken)) ∧ scanToken limit ⟨here, start⟩ = (token, after)

variable {limit offset start : Nat} {text rest : Text} {token : Token} {after final : Cursor}

/-- White space and line breaks, which may stand between tokens.  A byte-order mark counts as white
space too, but not at the start of a text; it is left out here. -/
def IsGap (gap : Text) : Prop :=
  ∀ char ∈ gap, (isLineEnd char || isSpace char) = true ∧ char.toNat ≠ 0xFEFF

-- The instance is named: the characters are finitely many, and all of them would be tried.
instance (gap : Text) : Decidable (IsGap gap) :=
  List.decidableBAll _ gap

theorem isGap_space : IsGap [' '] := by decide

theorem IsGap.exists_skipTrivia {gap : Text} (hgap : IsGap gap) (rest : Text) (offset : Nat)
    (newline : Bool) : ∃ broken, skipTrivia .blank (gap ++ rest) offset newline =
      skipTrivia .blank rest (offset + Text.byteSize gap) broken := by
  induction gap generalizing offset newline with
  | nil => exact ⟨newline, rfl⟩
  | cons char gap ih =>
      obtain ⟨⟨hchar, -⟩, hgap⟩ := List.forall_mem_cons.mp hgap
      have hslash : char ≠ '/' := by
        rintro rfl
        cases hchar
      cases hend : isLineEnd char with
      | true =>
          obtain ⟨broken, hskip⟩ := ih hgap (offset + char.utf8Size) true
          refine ⟨broken, ?_⟩
          rw [Text.byteSize_cons, ← Nat.add_assoc, ← hskip]
          simp [skipTrivia, hslash, hend]
      | false =>
          have hspace : isSpace char = true := by
            rwa [hend, Bool.false_or] at hchar
          obtain ⟨broken, hskip⟩ := ih hgap (offset + char.utf8Size) newline
          refine ⟨broken, ?_⟩
          rw [Text.byteSize_cons, ← Nat.add_assoc, ← hskip]
          simp [skipTrivia, hslash, hend, hspace]

theorem StartsWith.gap {gap : Text} (hgap : IsGap gap)
    (hstarts : StartsWith limit ⟨rest, offset + Text.byteSize gap⟩ start token after) :
    StartsWith limit ⟨gap ++ rest, offset⟩ start token after := by
  obtain ⟨here, hskip, hscan⟩ := hstarts
  refine ⟨here, fun newline => ?_, hscan⟩
  obtain ⟨broken, hgap⟩ := hgap.exists_skipTrivia rest offset newline
  rw [hgap]
  exact hskip broken

theorem StartsWith.space
    (hstarts : StartsWith limit ⟨rest, offset + 1⟩ start token after) :
    StartsWith limit ⟨' ' :: rest, offset⟩ start token after :=
  StartsWith.gap isGap_space hstarts

theorem startsWith_of_scanToken {char : Char} {chars : Text} (hslash : char ≠ '/')
    (hend : isLineEnd char = false) (hspace : isSpace char = false)
    (hscan : scanToken limit ⟨char :: chars, offset⟩ = (token, after)) :
    StartsWith limit ⟨char :: chars, offset⟩ offset token after :=
  ⟨char :: chars, fun newline => ⟨newline, by simp [skipTrivia, hslash, hend, hspace]⟩, hscan⟩

theorem startsWith_eof (limit offset : Nat) :
    StartsWith limit ⟨[], offset⟩ offset .eof ⟨[], offset⟩ :=
  ⟨[], fun newline => ⟨newline, rfl⟩, rfl⟩

/-! ### Words -/

theorem isIdentifierPart_of_isIdentifierStart {char : Char}
    (hstart : isIdentifierStart char = true) : isIdentifierPart char = true := by
  unfold isIdentifierStart at hstart
  unfold isIdentifierPart
  split
  · next hascii =>
      simp only [if_pos hascii, Bool.or_eq_true, Char.isAlphanum] at hstart ⊢
      exact hstart.imp_left (Or.imp_left .inl)
  · next hascii =>
      rw [if_neg hascii] at hstart
      simp [hstart]

/-- A name that is written as a word: its first character can start a word, and the others can
follow. -/
structure IsWordText (name : Text) : Prop where
  parts : ∀ char ∈ name, isIdentifierPart char = true
  start : ∃ first rest, name = first :: rest ∧ isIdentifierStart first = true ∧
    isLineEnd first = false ∧ isSpace first = false

/-- A word does not go on in the text: neither a character of a word nor an escape comes next. -/
def EndsWord (rest : Text) : Prop :=
  ∀ char ∈ rest.head?, isIdentifierPart char = false ∧ char ≠ '\\'

theorem endsWord_cons {char : Char} (hchar : char ∈ [' ', '(']) (rest : Text) :
    EndsWord (char :: rest) := by
  have hends : isIdentifierPart char = false ∧ char ≠ '\\' := by
    simp only [List.mem_cons, List.not_mem_nil, or_false] at hchar
    rcases hchar with rfl | rfl <;> decide +kernel
  rintro _ ⟨⟩
  exact hends

theorem scanWord_name {name : Text} (hname : ∀ char ∈ name, isIdentifierPart char = true)
    {fuel : Nat} (hfuel : name.length < fuel) (hrest : EndsWord rest) (seen : Text) (offset : Nat) :
    scanWord fuel ⟨name ++ rest, offset⟩ seen true =
      some (seen.reverse ++ name, true, ⟨rest, offset + Text.byteSize name⟩) := by
  induction name generalizing seen fuel offset with
  | nil =>
      obtain ⟨fuel, rfl⟩ := Nat.exists_eq_succ_of_ne_zero (Nat.ne_zero_of_lt hfuel)
      cases rest with
      | nil => simp [scanWord]
      | cons char rest =>
          obtain ⟨hpart, hescape⟩ := hrest char rfl
          simp [scanWord, hpart, hescape]
  | cons char name ih =>
      obtain ⟨fuel, rfl⟩ := Nat.exists_eq_succ_of_ne_zero (Nat.ne_zero_of_lt hfuel)
      obtain ⟨hchar, hname⟩ := List.forall_mem_cons.mp hname
      -- A backslash would start an escape, and it can stand in no word.
      have hescape : char ≠ '\\' := by
        rintro rfl
        revert hchar
        decide +kernel
      have hscan := ih hname (Nat.lt_of_succ_lt_succ hfuel) (char :: seen) (offset + char.utf8Size)
      simp [scanWord, hescape, hchar, hscan, Nat.add_assoc]

theorem IsWordText.startsWith {name : String} (hname : IsWordText name.toList)
    (hrest : EndsWord rest) (hlimit : name.length ≤ limit) (offset : Nat) :
    StartsWith limit ⟨name.toList ++ rest, offset⟩ offset (.word name true)
      ⟨rest, offset + Text.byteSize name.toList⟩ := by
  obtain ⟨first, more, hchars, hstart, hend, hspace⟩ := hname.start
  have hslash : first ≠ '/' := by
    rintro rfl
    revert hstart
    decide +kernel
  have hfuel : name.toList.length < limit + 1 := by
    rw [String.length_toList]
    exact Nat.lt_succ_of_le hlimit
  have hscan := scanWord_name hname.parts hfuel hrest [] offset
  have hword : String.ofList name.toList = name := String.ofList_toList
  rw [hchars] at hscan hword ⊢
  rw [List.cons_append] at hscan ⊢
  refine startsWith_of_scanToken hslash hend hspace ?_
  simp only [scanToken, hstart, Bool.true_or, if_true, hscan, List.reverse_nil, List.nil_append,
    List.isEmpty_cons, Bool.false_eq_true, if_false, hword]

/-! ### Punctuation and strings -/

/-- Punctuation of one character that starts no longer one. -/
def singles : List (Char × String) :=
  [('\x7b', "\x7b"), ('\x7d', "\x7d"), (';', ";"), ('(', "("), (')', ")"), (',', ",")]

theorem startsWith_punctuator {char : Char} {symbol : String} (hchar : (char, symbol) ∈ singles)
    (limit : Nat) (rest : Text) (offset : Nat) :
    StartsWith limit ⟨char :: rest, offset⟩ offset (.punctuator symbol) ⟨rest, offset + 1⟩ := by
  have hfound : punctuator? (char :: rest) = some symbol ∧ symbol.length = 1 ∧
      char.utf8Size = 1 := by
    simp only [singles, List.mem_cons, Prod.mk.injEq, List.not_mem_nil, or_false] at hchar
    rcases hchar with
      ⟨rfl, rfl⟩ | ⟨rfl, rfl⟩ | ⟨rfl, rfl⟩ | ⟨rfl, rfl⟩ | ⟨rfl, rfl⟩ | ⟨rfl, rfl⟩ <;>
      exact ⟨rfl, rfl, rfl⟩
  have hplain : ∀ pair ∈ singles,
      pair.1 ∉ ['/', '\\', '\'', '"', '.', '#'] ∧ isLineEnd pair.1 = false ∧
        isSpace pair.1 = false ∧ isIdentifierStart pair.1 = false ∧ pair.1.isDigit = false := by
    decide +kernel
  obtain ⟨hspecial, hend, hspace, hstart, hdigit⟩ := hplain _ hchar
  simp only [List.mem_cons, List.not_mem_nil, or_false, not_or] at hspecial
  refine startsWith_of_scanToken hspecial.1 hend hspace ?_
  simp [scanToken, hspecial, hstart, hdigit, hfound, Cursor.skipMany, Cursor.skip]

theorem QuotedText.startsWith {quote : Char} (hquote : IsQuote quote) {body : Text}
    {codes : List Nat} (hbody : QuotedText quote body codes)
    (hlimit : (quote :: body ++ [quote] ++ rest).length ≤ limit) (offset : Nat) :
    StartsWith limit ⟨quote :: body ++ [quote] ++ rest, offset⟩ offset (.string codes)
      ⟨rest, offset + Text.byteSize (quote :: body ++ [quote])⟩ := by
  have hplain : quote ≠ '/' ∧ isLineEnd quote = false ∧ isSpace quote = false := by
    rcases hquote with rfl | rfl <;> decide
  have hscan := (readsAs_iff hquote).mpr hbody limit rest offset hlimit
  exact startsWith_of_scanToken hplain.1 hplain.2.1 hplain.2.2 hscan

/-! ### Tokens one after the other -/

/-- From the one cursor to the other there are these tokens. -/
inductive Scans (limit : Nat) : Cursor → List Token → Cursor → Prop where
  | nil (cursor : Cursor) : Scans limit cursor [] cursor
  | cons {cursor after final : Cursor} {start : Nat} {token : Token} {tokens : List Token}
      (hstarts : StartsWith limit cursor start token after)
      (hrest : Scans limit after tokens final) :
      Scans limit cursor (token :: tokens) final

namespace State

/-- The state stands at a token, and others follow it up to the cursor. -/
structure Sees (limit : Nat) (state : State) (token : Token) (tokens : List Token)
    (final : Cursor) : Prop where
  token_eq : state.token = token
  scans : Scans limit state.after tokens final

/-- The state stands at the first token after the cursor. -/
def Before (limit : Nat) (cursor : Cursor) (state : State) : Prop :=
  ∃ readings, state = scanFrom limit cursor cursor.offset readings

variable {cursor : Cursor} {following : Token} {tokens : List Token} {state : State}

theorem after_scanFrom (hstarts : StartsWith limit cursor start token after) (lastStop : Nat)
    (readings : Readings cursor.offset) :
    (scanFrom limit cursor lastStop readings).token = token ∧
      (scanFrom limit cursor lastStop readings).start = start ∧
      (scanFrom limit cursor lastStop readings).after = after := by
  obtain ⟨here, hskip, hscan⟩ := hstarts
  obtain ⟨broken, hskip⟩ := hskip false
  unfold scanFrom
  split
  · next found hbreak hfound =>
      cases hskip.symm.trans hfound
      split
      next other ending hother =>
        cases hscan.symm.trans hother
        exact ⟨rfl, rfl, rfl⟩
  · next hnone =>
      rw [hskip] at hnone
      cases hnone

theorem sees_scanFrom (cursor : Cursor) (hscans : Scans limit cursor (token :: tokens) final)
    (lastStop : Nat) (readings : Readings cursor.offset) :
    (scanFrom limit cursor lastStop readings).Sees limit token tokens final := by
  cases hscans with
  | cons hstarts hrest =>
      obtain ⟨htoken, -, hafter⟩ := after_scanFrom hstarts lastStop readings
      exact ⟨htoken, hafter ▸ hrest⟩

theorem Sees.next (hsees : state.Sees limit token (following :: tokens) final) :
    (state.next limit).Sees limit following tokens final :=
  sees_scanFrom state.after hsees.scans _ _

theorem Sees.after_eq (hsees : state.Sees limit token [] final) : state.after = final := by
  cases hsees.scans
  rfl

theorem before_next (limit : Nat) (state : State) :
    (state.next limit).Before limit state.after := ⟨_, rfl⟩

theorem Before.sees (hbefore : state.Before limit cursor)
    (hscans : Scans limit cursor (token :: tokens) final) :
    state.Sees limit token tokens final := by
  obtain ⟨readings, rfl⟩ := hbefore
  exact sees_scanFrom cursor hscans _ readings

theorem Before.start_eq (hbefore : state.Before limit cursor)
    (hstarts : StartsWith limit cursor start token after) : state.start = start := by
  obtain ⟨readings, rfl⟩ := hbefore
  exact (after_scanFrom hstarts _ readings).2.1

theorem Before.lastStop_eq (hbefore : state.Before limit cursor) :
    state.lastStop = cursor.offset := by
  obtain ⟨readings, rfl⟩ := hbefore
  exact lastStop_scanFrom ..

end State

end Untranslated.Syntax
