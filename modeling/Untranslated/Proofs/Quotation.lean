import Mathlib.Data.List.Count
import Untranslated.Proofs.Escapes

/-!
# String literals

A text is a complete string literal when it is read as one string whatever
follows it.  The reader of strings follows a grammar here, for either kind of
quote: characters that stand for themselves, and escapes.  From the grammar come the
two measures by which the text between the quotes and its value are compared: an
escape is longer than what it stands for, and it hides no ampersand or semicolon.
-/

namespace Untranslated

namespace Syntax

/-! ## Text between quotes -/

/-- The text between the quotes of a literal and what it stands for, given what may stand after a
backslash. -/
inductive LiteralText (Escape : Text → List Nat → Text → Prop) (quote : Char) :
    Text → List Nat → Prop where
  | nil : LiteralText Escape quote [] []
  | char {char : Char} {chars : Text} {codes : List Nat} (hquote : char ≠ quote)
      (hplain : char ∉ ['\\', '\n', '\r']) (hchars : LiteralText Escape quote chars codes) :
      LiteralText Escape quote (char :: chars) (char.toNat :: codes)
  | escape {escape chars : Text} {codes more : List Nat} (hescape : Escape escape codes chars)
      (hchars : LiteralText Escape quote chars more) :
      LiteralText Escape quote ('\\' :: (escape ++ chars)) (codes ++ more)

/-- The text between the quotes of a string literal and what it stands for. -/
abbrev QuotedText (quote : Char) : Text → List Nat → Prop := LiteralText StringEscape quote

/-- The text between the single quotes of a string without octal numbers, and its value. -/
abbrev StringText : Text → List Nat → Prop := LiteralText EscapeSequence '\''

/-- The two kinds of quote. -/
def IsQuote (quote : Char) : Prop := quote = '\'' ∨ quote = '"'

instance (quote : Char) : Decidable (IsQuote quote) :=
  inferInstanceAs (Decidable (quote = '\'' ∨ quote = '"'))

section Reader

variable {quote : Char} {body : Text} {codes : List Nat}

theorem readStringBody_char {quote char : Char} (hquote : char ≠ quote)
    (hplain : char ∉ ['\\', '\n', '\r']) (fuel : Nat) (chars : Text) (offset : Nat) :
    readStringBody quote (fuel + 1) ⟨char :: chars, offset⟩ =
      (readStringBody quote fuel ⟨chars, offset + char.utf8Size⟩).map
        fun (codes, after) => (char.toNat :: codes, after) := by
  simp only [List.mem_cons, List.not_mem_nil, or_false, not_or] at hplain
  obtain ⟨hescape, hfeed, hreturn⟩ := hplain
  simp only [readStringBody, hescape, hquote, hfeed, hreturn, or_self, if_false]
  cases readStringBody quote fuel ⟨chars, offset + char.utf8Size⟩ <;> rfl

theorem readStringBody_escape {quote : Char} (hquote : '\\' ≠ quote) {escape : Text}
    {codes : List Nat} {chars : Text} {offset : Nat}
    (hread : readEscape false ⟨escape ++ chars, offset + 1⟩ =
      some (codes, ⟨chars, offset + 1 + escape.byteSize⟩)) (fuel : Nat) :
    readStringBody quote (fuel + 1) ⟨'\\' :: (escape ++ chars), offset⟩ =
      (readStringBody quote fuel ⟨chars, offset + 1 + escape.byteSize⟩).map
        fun (more, after) => (codes ++ more, after) := by
  have hmark : '\\'.utf8Size = 1 := rfl
  simp only [readStringBody, hquote, Char.reduceEq, if_false, if_true, or_self, hmark, hread,
    Option.pure_def, Option.bind_eq_bind, Option.bind_some]
  cases readStringBody quote fuel ⟨chars, offset + 1 + escape.byteSize⟩ <;> rfl

theorem IsQuote.ends (hquote : IsQuote quote) :
    quote ≠ '\\' ∧ quote ≠ '\n' ∧ octalDigit? quote = none ∧ quote.utf8Size = 1 := by
  rcases hquote with rfl | rfl <;> decide

/-- A string is read up to its closing quote. -/
theorem QuotedText.read (hquote : IsQuote quote) (hbody : QuotedText quote body codes)
    {fuel : Nat} (hfuel : body.length < fuel) (rest : Text) (offset : Nat) :
    readStringBody quote fuel ⟨body ++ quote :: rest, offset⟩ =
      some (codes, ⟨rest, offset + Text.byteSize (body ++ [quote])⟩) := by
  obtain ⟨hescape, hfeed, hoctal, -⟩ := hquote.ends
  induction hbody generalizing fuel offset with
  | nil =>
      obtain ⟨fuel, rfl⟩ := Nat.exists_eq_succ_of_ne_zero (Nat.ne_zero_of_lt hfuel)
      simp [readStringBody]
  | @char char chars codes hchar hplain hchars ih =>
      obtain ⟨fuel, rfl⟩ := Nat.exists_eq_succ_of_ne_zero (Nat.ne_zero_of_lt hfuel)
      rw [List.cons_append, readStringBody_char hchar hplain,
        ih (Nat.lt_of_succ_lt_succ hfuel), Option.map_some, List.cons_append,
        Text.byteSize_cons, Nat.add_assoc]
  | @escape escape chars codes more hsequence hchars ih =>
      obtain ⟨fuel, rfl⟩ := Nat.exists_eq_succ_of_ne_zero (Nat.ne_zero_of_lt hfuel)
      have hfuel : chars.length < fuel := by
        simp only [List.length_cons, List.length_append] at hfuel
        omega
      have hbefore : StringEscape escape codes (chars ++ quote :: rest) := by
        refine hsequence.before fun char hhead => ?_
        cases chars with
        | nil =>
            cases hhead
            exact Or.inr ⟨hoctal, hfeed⟩
        | cons first chars => exact Or.inl hhead
      have hmark : '\\'.utf8Size = 1 := rfl
      rw [List.cons_append, List.append_assoc,
        readStringBody_escape hescape.symm (hbefore.read _), ih hfuel, Option.map_some]
      simp [hmark, Nat.add_assoc]

/-- What is read as a string is one, if it is not broken off at the end of the line or of
the text. -/
theorem quotedText_of_read {fuel : Nat} {text : Text} {offset : Nat} {after : Cursor}
    (hread : readStringBody quote fuel ⟨text, offset⟩ = some (codes, after))
    (hafter : after.rest.head? ∉ [none, some '\n', some '\r']) :
    ∃ body, text = body ++ quote :: after.rest ∧ QuotedText quote body codes := by
  induction fuel generalizing text offset codes with
  | zero => cases hread
  | succ fuel ih =>
      cases text with
      | nil =>
          cases hread
          exact absurd List.mem_cons_self hafter
      | cons char chars =>
          simp only [readStringBody] at hread
          split at hread
          · next hclose =>
              cases hread
              exact ⟨[], by rw [hclose]; rfl, .nil⟩
          · next hquote =>
              split at hread
              · next hbreak =>
                  cases hread
                  refine absurd ?_ hafter
                  rcases hbreak with rfl | rfl <;> simp
              · next hbreak =>
                  split at hread
                  · next hescape =>
                      simp only [bind, Option.bind_eq_some_iff, pure, Option.some.injEq,
                        Prod.mk.injEq] at hread
                      obtain ⟨⟨first, between⟩, hfirst, ⟨more, last⟩, hmore, rfl, rfl⟩ := hread
                      obtain ⟨escape, rfl, hsequence⟩ := stringEscape_of_read hfirst
                      obtain ⟨body, hbody, hquoted⟩ := ih hmore
                      refine ⟨'\\' :: (escape ++ body), ?_, .escape ?_ hquoted⟩
                      · rw [hescape, hbody, List.cons_append, List.append_assoc]
                      · refine hsequence.before fun char hhead => Or.inl ?_
                        rw [hbody, List.head?_append, hhead]
                        rfl
                  · next hescape =>
                      simp only [bind, Option.bind_eq_some_iff, pure, Option.some.injEq,
                        Prod.mk.injEq] at hread
                      obtain ⟨⟨more, last⟩, hmore, rfl, rfl⟩ := hread
                      obtain ⟨body, rfl, hquoted⟩ := ih hmore
                      rw [not_or] at hbreak
                      exact ⟨char :: body, rfl,
                        .char hquote (by simp [hescape, hbreak]) hquoted⟩

/-- The text is one complete string literal for the code points: exactly this much is
read as a string, whatever follows. -/
def ReadsAs (text : Text) (codes : List Nat) : Prop :=
  ∀ (limit : Nat) (rest : Text) (offset : Nat), (text ++ rest).length ≤ limit →
    scanToken limit ⟨text ++ rest, offset⟩ =
      (.string codes, ⟨rest, offset + text.byteSize⟩)

/-- A token is a string if the text after its quote is read as one. -/
theorem scanToken_quote_iff (hquote : IsQuote quote) {limit : Nat} {chars : Text}
    {offset : Nat} {after : Cursor} :
    scanToken limit ⟨quote :: chars, offset⟩ = (.string codes, after) ↔
      readStringBody quote (limit + 1) ⟨chars, offset + 1⟩ = some (codes, after) := by
  have hsingle : isIdentifierStart '\'' = false := by decide +kernel
  have hdouble : isIdentifierStart '"' = false := by decide +kernel
  have hsize := hquote.ends.2.2.2
  have hscan : scanToken limit ⟨quote :: chars, offset⟩ =
      (readStringBody quote (limit + 1) ⟨chars, offset + 1⟩).elim
        (.invalid, ⟨chars, offset + 1⟩) fun read => (.string read.1, read.2) := by
    rcases hquote with rfl | rfl <;>
      simp only [scanToken, hsingle, hdouble, hsize, Char.reduceBEq, Bool.or_false,
        Bool.false_eq_true, if_false, if_true, Bool.or_true] <;>
      split <;> simp_all
  rw [hscan]
  cases readStringBody quote (limit + 1) ⟨chars, offset + 1⟩ <;> simp [Prod.ext_iff]

/-- Complete string literals are the quoted texts. -/
theorem readsAs_iff (hquote : IsQuote quote) :
    ReadsAs (quote :: body ++ [quote]) codes ↔ QuotedText quote body codes := by
  constructor
  · intro hreads
    have hscan := hreads _ [')'] 0 (Nat.le_refl _)
    rw [List.cons_append, List.cons_append, List.append_assoc,
      scanToken_quote_iff hquote] at hscan
    obtain ⟨found, hfound, hquoted⟩ := quotedText_of_read hscan (by simp)
    rw [List.singleton_append] at hfound
    rwa [List.append_cancel_right hfound]
  · intro hbody limit rest offset hlimit
    have hsize := hquote.ends.2.2.2
    have hfuel : body.length < limit + 1 := by
      simp only [List.cons_append, List.length_cons, List.length_append] at hlimit
      omega
    rw [List.cons_append, List.cons_append, List.append_assoc, List.singleton_append,
      scanToken_quote_iff hquote, hbody.read hquote hfuel]
    simp [hsize, Nat.add_assoc]

namespace LiteralText

variable {Escape : Text → List Nat → Text → Prop} [EscapeChoice Escape]

theorem lineFeed (hbody : LiteralText Escape quote body codes) :
    LiteralText Escape quote ('\\' :: 'n' :: body) (10 :: codes) :=
  .escape (EscapeChoice.ofSequence (.letter rfl _)) hbody

theorem escapedQuote (hbody : LiteralText Escape quote body codes) :
    LiteralText Escape quote ('\\' :: '\'' :: body) ('\''.toNat :: codes) :=
  .escape (EscapeChoice.ofSequence (.self (by decide) (by decide) rfl rfl rfl _)) hbody

theorem escapedReturn (hbody : LiteralText Escape quote body codes)
    (hfeed : body.head? ≠ some '\n') : LiteralText Escape quote ('\\' :: '\r' :: body) codes :=
  .escape (EscapeChoice.ofSequence (.ofReturn hfeed)) hbody

/-- With or without octal numbers, it is the text of a string. -/
theorem quotedText (hbody : LiteralText Escape quote body codes) :
    QuotedText quote body codes := by
  induction hbody with
  | nil => exact .nil
  | char hquote hplain _ ih => exact .char hquote hplain ih
  | escape hescape _ ih => exact .escape (EscapeChoice.toString hescape) ih

/-- What a string stands for after its first escape. -/
theorem of_escape {escape rest : Text} {value : List Nat} (hescape : Escape escape codes rest)
    (hbody : LiteralText Escape quote ('\\' :: (escape ++ rest)) value) :
    ∃ more, value = codes ++ more ∧ LiteralText Escape quote rest more := by
  generalize htext : '\\' :: (escape ++ rest) = text at hbody
  cases hbody with
  | nil => cases htext
  | char _ hplain =>
      injection htext with hfirst
      rw [← hfirst] at hplain
      exact absurd List.mem_cons_self hplain
  | escape hother hchars =>
      injection htext with _ htext
      have hread := (EscapeChoice.toString hescape).read 0
      rw [htext, (EscapeChoice.toString hother).read 0, Option.some.injEq, Prod.mk.injEq,
        Cursor.mk.injEq] at hread
      obtain ⟨rfl, rfl, -⟩ := hread
      exact ⟨_, rfl, hchars⟩

theorem of_lineFeed {value : List Nat}
    (hbody : LiteralText Escape quote ('\\' :: 'n' :: body) value) :
    ∃ more, value = 10 :: more ∧ LiteralText Escape quote body more :=
  of_escape (EscapeChoice.ofSequence (.letter rfl body)) hbody

omit [EscapeChoice Escape] in
/-- What a string stands for after a first character that is no backslash. -/
theorem of_char {char : Char} {chars : Text} (hescape : char ≠ '\\')
    (hbody : LiteralText Escape quote (char :: chars) codes) :
    char ∉ ['\n', '\r'] ∧
      ∃ more, codes = char.toNat :: more ∧ LiteralText Escape quote chars more := by
  cases hbody with
  | char _ hplain hchars => exact ⟨fun hmem => hplain (List.mem_cons_of_mem _ hmem), _, rfl, hchars⟩
  | escape => exact absurd rfl hescape

end LiteralText

theorem QuotedText.count_le {mark : Char} (hmark : IsReferenceMark mark)
    (hbody : QuotedText quote body codes) : body.count mark ≤ codes.count mark.toNat := by
  have hslash : '\\' ≠ mark := by rcases hmark with rfl | rfl <;> decide
  induction hbody with
  | nil => exact Nat.le_refl 0
  | @char char chars codes _ _ _ ih =>
      have hsame : (char.toNat == mark.toNat) = (char == mark) := by
        rw [Bool.eq_iff_iff, beq_iff_eq, beq_iff_eq, Char.toNat_inj]
      rw [List.count_cons, List.count_cons, hsame]
      exact Nat.add_le_add_right ih _
  | escape hescape _ ih =>
      rw [List.count_cons_of_ne hslash, List.count_append, List.count_append]
      exact Nat.add_le_add (hescape.count_le hmark) ih

/-- A string stands for no more code points than it has characters, and for fewer if it
has escapes. -/
theorem QuotedText.length_le (hbody : QuotedText quote body codes) :
    codes.length ≤ body.length ∧ ('\\' ∈ body → codes.length < body.length) := by
  induction hbody with
  | nil => exact ⟨Nat.le_refl 0, fun hmem => absurd hmem List.not_mem_nil⟩
  | char _ hplain _ ih =>
      refine ⟨Nat.succ_le_succ ih.1, fun hmem => Nat.succ_lt_succ (ih.2 ?_)⟩
      rcases List.mem_cons.mp hmem with rfl | hmem
      · exact absurd List.mem_cons_self hplain
      · exact hmem
  | escape hescape _ ih =>
      have hlength := hescape.length_le
      simp only [List.length_cons, List.length_append]
      omega

/-- Text without backslashes stands for itself, if it has no quote or line break. -/
theorem quotedText_iff_of_not_mem (hescape : '\\' ∉ body) :
    QuotedText quote body codes ↔
      (quote ∉ body ∧ '\n' ∉ body ∧ '\r' ∉ body) ∧ codes = body.map Char.toNat := by
  induction body generalizing codes with
  | nil =>
      constructor
      · intro hbody
        cases hbody
        simp
      · rintro ⟨-, rfl⟩
        exact .nil
  | cons char body ih =>
      rw [List.mem_cons, not_or] at hescape
      constructor
      · intro hbody
        cases hbody with
        | char hquote hplain hchars =>
            obtain ⟨⟨hnone, hfeed, hreturn⟩, rfl⟩ := (ih hescape.2).mp hchars
            simp only [List.mem_cons, List.not_mem_nil, or_false, not_or] at hplain
            simp [hnone, hfeed, hreturn, hquote.symm, Ne.symm hplain.2.1, Ne.symm hplain.2.2]
        | escape => exact absurd rfl hescape.1
      · rintro ⟨hnone, rfl⟩
        simp only [List.mem_cons, not_or] at hnone
        obtain ⟨⟨hquote, hnone⟩, ⟨hfeed, hnofeed⟩, hreturn, hnoreturn⟩ := hnone
        refine .char (Ne.symm hquote) ?_ ((ih hescape.2).mpr ⟨⟨hnone, hnofeed, hnoreturn⟩, rfl⟩)
        simp [Ne.symm hescape.1, Ne.symm hfeed, Ne.symm hreturn]

end Reader

/-! ## The value of a literal -/

/-- Characters are no surrogates. -/
theorem joinSurrogates_map_toNat (text : Text) :
    joinSurrogates (text.map Char.toNat) = text.map Char.toNat := by
  induction text with
  | nil => rfl
  | cons first text ih =>
      cases text with
      | nil => rfl
      | cons second text =>
          have hpair : ¬ (0xD800 ≤ first.toNat ∧ first.toNat < 0xDC00 ∧
              0xDC00 ≤ second.toNat ∧ second.toNat < 0xE000) := by
            have hvalid : first.toNat < 0xD800 ∨ 0xDFFF < first.toNat ∧ first.toNat < 0x110000 :=
              first.valid
            omega
          rw [List.map_cons, List.map_cons, joinSurrogates, if_neg hpair, ← List.map_cons, ih]

theorem charOfCode?_toNat (char : Char) : charOfCode? char.toNat = some char := by
  have hvalid : char.toNat.isValidChar := char.valid
  rw [charOfCode?, if_pos hvalid, Char.ofNat_toNat]

theorem toNat_of_charOfCode? {code : Nat} {char : Char}
    (hchar : charOfCode? code = some char) : char.toNat = code := by
  unfold charOfCode? at hchar
  split at hchar
  · next hvalid =>
      cases hchar
      rw [Char.ofNat, dif_pos hvalid]
      rfl
  · cases hchar

/-- The code points of a text denote it. -/
theorem decodeExact?_map_toNat (text : Text) : decodeExact? (text.map Char.toNat) = some text := by
  rw [decodeExact?, joinSurrogates_map_toNat]
  induction text with
  | nil => rfl
  | cons char text ih => simp [charOfCode?_toNat, ih]

theorem map_toNat_of_decodeExact? {codes : List Nat} {text : Text}
    (hdecode : decodeExact? codes = some text) : text.map Char.toNat = joinSurrogates codes := by
  unfold decodeExact? at hdecode
  generalize joinSurrogates codes = codes at hdecode
  induction codes generalizing text with
  | nil =>
      cases hdecode
      rfl
  | cons code codes ih =>
      simp only [List.mapM_cons, bind, Option.bind_eq_some_iff, pure, Option.some.injEq] at hdecode
      obtain ⟨char, hchar, more, hmore, rfl⟩ := hdecode
      rw [List.map_cons, toNat_of_charOfCode? hchar, ih hmore]

/-- Joining surrogates leaves all other code points alone. -/
theorem count_joinSurrogates {code : Nat} (hcode : code < 0xD800) (codes : List Nat) :
    (joinSurrogates codes).count code = codes.count code := by
  fun_induction joinSurrogates codes with
  | case1 high low codes hpair ih =>
      have hjoined : 0x10000 + (high - 0xD800) * 0x400 + (low - 0xDC00) ≠ code := by omega
      have hhigh : high ≠ code := by omega
      have hlow : low ≠ code := by omega
      rw [List.count_cons_of_ne hjoined, ih, List.count_cons_of_ne hhigh,
        List.count_cons_of_ne hlow]
  | case2 high low codes hpair ih => rw [List.count_cons, ih, ← List.count_cons]
  | case3 => rfl

theorem length_joinSurrogates_le (codes : List Nat) :
    (joinSurrogates codes).length ≤ codes.length := by
  fun_induction joinSurrogates codes with
  | case1 high low codes hpair ih =>
      simp only [List.length_cons]
      omega
  | case2 high low codes hpair ih => simpa using ih
  | case3 => exact Nat.le_refl _

/-- The text is one complete string literal with this value. -/
def Denotes (text value : Text) : Prop :=
  ∃ codes, ReadsAs text codes ∧ decodeExact? codes = some value

section Denotes

variable {quote : Char} {body value : Text}

theorem denotes_iff (hquote : IsQuote quote) :
    Denotes (quote :: body ++ [quote]) value ↔
      ∃ codes, QuotedText quote body codes ∧ decodeExact? codes = some value := by
  simp only [Denotes, readsAs_iff hquote]

/-- No mark is lost between the text of a literal and its value. -/
theorem Denotes.count_le {mark : Char} (hmark : IsReferenceMark mark) (hquote : IsQuote quote)
    (hdenotes : Denotes (quote :: body ++ [quote]) value) :
    body.count mark ≤ value.count mark := by
  obtain ⟨codes, hbody, hdecode⟩ := (denotes_iff hquote).mp hdenotes
  have hlow : mark.toNat < 0xD800 := by rcases hmark with rfl | rfl <;> decide
  calc body.count mark
    _ ≤ codes.count mark.toNat := hbody.count_le hmark
    _ = (value.map Char.toNat).count mark.toNat := by
        rw [map_toNat_of_decodeExact? hdecode, count_joinSurrogates hlow]
    _ = value.count mark :=
        List.count_map_of_injective value _ (fun _ _ => Char.toNat_inj.mp) mark

/-- The value of a literal with escapes is shorter than its text. -/
theorem Denotes.length_lt (hquote : IsQuote quote) (hescape : '\\' ∈ body)
    (hdenotes : Denotes (quote :: body ++ [quote]) value) : value.length < body.length := by
  obtain ⟨codes, hbody, hdecode⟩ := (denotes_iff hquote).mp hdenotes
  calc value.length
    _ = (joinSurrogates codes).length := by
        rw [← map_toNat_of_decodeExact? hdecode, List.length_map]
    _ ≤ codes.length := length_joinSurrogates_le codes
    _ < body.length := hbody.length_le.2 hescape

/-- Text without backslashes is its own value, if it has no quote or line break. -/
theorem denotes_iff_of_not_mem (hquote : IsQuote quote) (hescape : '\\' ∉ body) :
    Denotes (quote :: body ++ [quote]) value ↔
      (quote ∉ body ∧ '\n' ∉ body ∧ '\r' ∉ body) ∧ value = body := by
  rw [denotes_iff hquote]
  constructor
  · rintro ⟨codes, hbody, hdecode⟩
    obtain ⟨hplain, rfl⟩ := (quotedText_iff_of_not_mem hescape).mp hbody
    rw [decodeExact?_map_toNat, Option.some.injEq] at hdecode
    exact ⟨hplain, hdecode.symm⟩
  · rintro ⟨hplain, rfl⟩
    exact ⟨_, (quotedText_iff_of_not_mem hescape).mpr ⟨hplain, rfl⟩, decodeExact?_map_toNat _⟩

end Denotes

end Syntax

/-! ## The literal in a call -/

namespace Placement

/-- What stands before the argument in the call of `name`. -/
def opening (placement : Placement) (name : String) : Text :=
  match placement with
  | .attribute | .markupText => '\x7b' :: name.toList ++ ['(']
  | .segment => '$' :: '\x7b' :: name.toList ++ ['(']
  | .expression => name.toList ++ ['(']

/-- What stands after the argument. -/
def closing : Placement → Text
  | .attribute | .markupText | .segment => [')', '\x7d']
  | .expression => [')']

/-- The argument, which has quotes of its own or is given quotes. -/
def argument : Placement → Text → Text
  | .attribute, value | .expression, value => value
  | .markupText, value => '\'' :: value.escapeLiteral ++ ['\'']
  | .segment, value => '\'' :: value.escapeSegment ++ ['\'']

theorem wrap_eq (placement : Placement) (name : String) (value : Text) :
    placement.wrap name value =
      placement.opening name ++ placement.argument value ++ placement.closing := by
  cases placement <;> simp [wrap, wrapper, escape, opening, argument, closing]

end Placement

end Untranslated
