import Untranslated.Proofs.Quotation

/-!
# Template text as a string

The text of a template segment becomes a string in single quotes.  Both kinds of
text are given by a grammar: characters that stand for themselves, and the
escapes that the two have in common.  Cooking follows the grammar of templates, and
escaping turns the one into the other, so that the string has the value of the
segment it is made of.
-/

namespace Untranslated

namespace Syntax

/-! ## Templates and strings -/

/-- The raw text of a template segment and its value. -/
inductive TemplateText : Text → List Nat → Prop where
  | nil : TemplateText [] []
  | char {char : Char} {chars : Text} {codes : List Nat} (hescape : char ≠ '\\')
      (hreturn : char ≠ '\r') (hchars : TemplateText chars codes) :
      TemplateText (char :: chars) (char.toNat :: codes)
  | lineBreak {chars : Text} {codes : List Nat} (hchars : TemplateText chars codes) :
      TemplateText ('\r' :: '\n' :: chars) (10 :: codes)
  | lineEnd {chars : Text} {codes : List Nat} (hfeed : chars.head? ≠ some '\n')
      (hchars : TemplateText chars codes) : TemplateText ('\r' :: chars) (10 :: codes)
  | escape {escape chars : Text} {codes more : List Nat}
      (hescape : EscapeSequence escape codes chars) (hchars : TemplateText chars more) :
      TemplateText ('\\' :: (escape ++ chars)) (codes ++ more)

theorem templateText_of_cookBody {fuel : Nat} {raw : Text} {codes : List Nat}
    (hcooked : cookBody fuel raw = some codes) : TemplateText raw codes := by
  fun_induction cookBody fuel raw generalizing codes with
  | case1 => cases hcooked
  | case2 =>
      cases hcooked
      exact .nil
  | case3 fuel chars ih =>
      simp only [bind, Option.bind_eq_some_iff, pure, Option.some.injEq] at hcooked
      obtain ⟨⟨first, after⟩, hread, more, hmore, rfl⟩ := hcooked
      obtain ⟨escape, rfl, hescape⟩ := escapeSequence_of_read hread
      exact .escape hescape (ih _ hmore)
  | case4 fuel chars ih =>
      obtain ⟨more, hmore, rfl⟩ := Option.map_eq_some_iff.mp hcooked
      exact .lineBreak (ih hmore)
  | case5 fuel chars hfeed ih =>
      obtain ⟨more, hmore, rfl⟩ := Option.map_eq_some_iff.mp hcooked
      refine .lineEnd (fun hhead => ?_) (ih hmore)
      obtain ⟨rest, rfl⟩ := List.head?_eq_some_iff.mp hhead
      exact hfeed rest rfl
  | case6 fuel char chars hescape hbreak hreturn ih =>
      obtain ⟨more, hmore, rfl⟩ := Option.map_eq_some_iff.mp hcooked
      exact .char hescape hreturn (ih hmore)

theorem TemplateText.cookBody {raw : Text} {codes : List Nat} (hraw : TemplateText raw codes)
    {fuel : Nat} (hfuel : raw.length < fuel) : cookBody fuel raw = some codes := by
  induction hraw generalizing fuel with
  | nil =>
      obtain ⟨fuel, rfl⟩ := Nat.exists_eq_succ_of_ne_zero (Nat.ne_zero_of_lt hfuel)
      rfl
  | char hescape hreturn hchars ih =>
      obtain ⟨fuel, rfl⟩ := Nat.exists_eq_succ_of_ne_zero (Nat.ne_zero_of_lt hfuel)
      simp [Syntax.cookBody, hreturn, ih (Nat.lt_of_succ_lt_succ hfuel)]
  | lineBreak hchars ih =>
      obtain ⟨fuel, rfl⟩ := Nat.exists_eq_succ_of_ne_zero (Nat.ne_zero_of_lt hfuel)
      have hshort := Nat.lt_of_succ_lt (Nat.lt_of_succ_lt_succ hfuel)
      simp [Syntax.cookBody, ih hshort]
  | @lineEnd chars codes hfeed hchars ih =>
      obtain ⟨fuel, rfl⟩ := Nat.exists_eq_succ_of_ne_zero (Nat.ne_zero_of_lt hfuel)
      have hrest := ih (Nat.lt_of_succ_lt_succ hfuel)
      cases chars with
      | nil => simp [Syntax.cookBody, hrest]
      | cons char chars =>
          have hchar : char ≠ '\n' := fun heq => hfeed (congrArg some heq)
          simp [Syntax.cookBody, hchar, hrest]
  | @escape escape chars codes more hescape hchars ih =>
      obtain ⟨fuel, rfl⟩ := Nat.exists_eq_succ_of_ne_zero (Nat.ne_zero_of_lt hfuel)
      have hshort : chars.length < fuel := by
        simp only [List.length_cons, List.length_append] at hfuel
        omega
      simp [Syntax.cookBody, hescape.read true 0, ih hshort]

/-- Cooking follows the grammar of templates. -/
theorem cook?_eq_some_iff {raw : Text} {codes : List Nat} :
    cook? raw = some codes ↔ TemplateText raw codes :=
  ⟨templateText_of_cookBody, fun hraw => hraw.cookBody (Nat.lt_succ_self _)⟩

/-- A plain character stands for itself in single quotes. -/
theorem IsPlain.literalText {Escape : Text → List Nat → Text → Prop} {char : Char} {chars : Text}
    {codes : List Nat} (hplain : IsPlain char) (hchars : LiteralText Escape '\'' chars codes) :
    LiteralText Escape '\'' (char :: chars) (char.toNat :: codes) := by
  obtain ⟨hescape, hquote, hfeed, hreturn⟩ := isPlain_iff.mp hplain
  exact .char hquote (by simp [hescape, hfeed, hreturn]) hchars

end Syntax

/-! ## Escaping -/

namespace Text

open Syntax

/-- The characters that no backslash escapes.  The flag says that the character before
is a backslash that escapes. -/
def bareAfter : Bool → Text → Text
  | _, [] => []
  | escaped, char :: chars =>
      let rest := bareAfter (char == '\\' && !escaped) chars
      if escaped then rest else char :: rest

def bare (text : Text) : Text := bareAfter false text

/-- A text that a single quote before and after it makes a string: the second one is
bare, no quote before it is, and no line feed. -/
structure FillsQuotes (text : Text) : Prop where
  closed : (text ++ ['\'']).bare = text.bare ++ ['\'']
  quote : '\'' ∉ text.bare
  lineFeed : '\n' ∉ text.bare

theorem escapeSegment_char {char : Char} (hplain : IsPlain char) (chars : Text) :
    escapeSegment (char :: chars) = char :: chars.escapeSegment := by
  obtain ⟨hescape, hquote, hfeed, hreturn⟩ := isPlain_iff.mp hplain
  have hflag : (char == '\\') = false := beq_eq_false_iff_ne.mpr hescape
  simp [escapeSegment, escapeSegmentAfter, hflag, hquote, hfeed, hreturn]

theorem escapeSegment_append {plain : Text} (hplain : ∀ char ∈ plain, IsPlain char)
    (rest : Text) : escapeSegment (plain ++ rest) = plain ++ rest.escapeSegment := by
  induction plain with
  | nil => rfl
  | cons char plain ih =>
      obtain ⟨hchar, hplain⟩ := List.forall_mem_cons.mp hplain
      rw [List.cons_append, escapeSegment_char hchar, ih hplain, List.cons_append]

/-- An escape stays as it is. -/
theorem escapeSegment_escape {escape follow : Text} {codes : List Nat}
    (hescape : EscapeSequence escape codes follow) (hreturn : '\r' ∉ escape) (rest : Text) :
    escapeSegment ('\\' :: (escape ++ rest)) = '\\' :: (escape ++ rest.escapeSegment) := by
  obtain ⟨first, more, rfl, hplain⟩ := hescape.exists_plain_of_not_mem hreturn
  have happend := escapeSegment_append hplain rest
  simp only [escapeSegment] at happend
  simp [escapeSegment, escapeSegmentAfter, happend]

/-- Escaping puts a backslash in front, if anything. -/
theorem head?_escapeSegment {text : Text} (hreturn : '\r' ∉ text) :
    text.escapeSegment.head? =
      text.head?.map fun char => if char = '\'' ∨ char = '\n' then '\\' else char := by
  cases text with
  | nil => rfl
  | cons char chars =>
      have hchar : char ≠ '\r' := fun heq => hreturn (heq ▸ List.mem_cons_self)
      by_cases hquote : char = '\''
      · simp [escapeSegment, escapeSegmentAfter, hquote]
      · by_cases hfeed : char = '\n'
        · simp [escapeSegment, escapeSegmentAfter, hfeed]
        · simp [escapeSegment, escapeSegmentAfter, hquote, hfeed, hchar]

/-- No bare quote or line feed is left. -/
theorem not_mem_bareAfter_escapeSegmentAfter {char : Char}
    (hchar : char = '\'' ∨ char = '\n') (escaped : Bool) (text : Text) :
    char ∉ bareAfter escaped (escapeSegmentAfter escaped text) := by
  have hescape : char ≠ '\\' := by rcases hchar with rfl | rfl <;> decide
  induction text generalizing escaped with
  | nil => exact List.not_mem_nil
  | cons first text ih =>
      cases escaped with
      | true => simpa [escapeSegmentAfter, bareAfter] using ih false
      | false =>
          by_cases hfirst : first = '\'' ∨ first = '\n' ∨ first = '\r'
          · have hrest := ih false
            rcases hfirst with rfl | rfl | rfl <;>
              simpa [escapeSegmentAfter, bareAfter, hescape] using hrest
          · have hrest := ih (first == '\\')
            rw [not_or, not_or] at hfirst
            have hne : char ≠ first := by
              rintro rfl
              exact hchar.elim hfirst.1 hfirst.2.1
            simpa [escapeSegmentAfter, bareAfter, hfirst, hne] using hrest

theorem bare_append {plain : Text} (hplain : '\\' ∉ plain) (rest : Text) :
    bare (plain ++ rest) = plain ++ rest.bare := by
  induction plain with
  | nil => rfl
  | cons char plain ih =>
      rw [List.mem_cons, not_or] at hplain
      have hflag : (char == '\\') = false := beq_eq_false_iff_ne.mpr (Ne.symm hplain.1)
      have hrest := ih hplain.2
      simp only [bare] at hrest
      simp [bare, bareAfter, hflag, hrest]

/-- Of an escape all but the first character after the backslash is bare. -/
theorem bare_escape {escape follow : Text} {codes : List Nat}
    (hescape : EscapeSequence escape codes follow) (rest : Text) :
    bare ('\\' :: (escape ++ rest)) = '\\' :: (escape.tail ++ rest.bare) := by
  obtain ⟨first, more, rfl, hmore⟩ := hescape.exists_plain
  have hplain : '\\' ∉ more := by
    intro hmem
    rcases hmore _ hmem with hchar | ⟨-, hchar⟩
    · exact absurd hchar (by decide)
    · cases hchar
  have happend := bare_append hplain rest
  simp only [bare] at happend
  simp [bare, bareAfter, happend]

end Text

namespace Syntax

theorem startsOctal_of_escapeSegment {text : Text} (hreturn : '\r' ∉ text)
    (hoctal : StartsOctal text.escapeSegment) : StartsOctal text := by
  rw [StartsOctal, Text.head?_escapeSegment hreturn] at hoctal
  cases htext : text.head? with
  | none =>
      rw [htext] at hoctal
      cases hoctal
  | some char =>
      rw [htext, Option.map_some, Option.bind_some] at hoctal
      rw [StartsOctal, htext, Option.bind_some]
      split at hoctal
      · cases hoctal
      · exact hoctal

theorem head?_escapeSegment_ne {text : Text} (hreturn : '\r' ∉ text) :
    text.escapeSegment.head? ≠ some '\n' := by
  rw [Text.head?_escapeSegment hreturn]
  cases text.head? with
  | none => exact nofun
  | some char =>
      rw [Option.map_some, ne_eq, Option.some.injEq]
      split
      · decide
      · rename_i hchar
        exact fun heq => hchar (Or.inr heq)

/-- Escaping makes a string of a template segment that stands for the same. -/
theorem TemplateText.escapeSegment {raw : Text} {codes : List Nat}
    (hraw : TemplateText raw codes) (hreturn : '\r' ∉ raw) :
    StringText raw.escapeSegment codes := by
  induction hraw with
  | nil => exact .nil
  | @char char chars codes hescape hchar hchars ih =>
      have ih := ih (List.not_mem_of_not_mem_cons hreturn)
      by_cases hquote : char = '\''
      · subst hquote
        exact ih.escapedQuote
      · by_cases hfeed : char = '\n'
        · subst hfeed
          exact ih.lineFeed
        · have hplain := isPlain_iff.mpr ⟨hescape, hquote, hfeed, hchar⟩
          rw [Text.escapeSegment_char hplain]
          exact hplain.literalText ih
  | lineBreak | lineEnd => exact absurd List.mem_cons_self hreturn
  | @escape escape chars codes more hescape hchars ih =>
      obtain ⟨hescaped, hrest⟩ : '\r' ∉ escape ∧ '\r' ∉ chars := by
        simpa using hreturn
      rw [Text.escapeSegment_escape hescape hescaped]
      exact .escape (hescape.before (startsOctal_of_escapeSegment hrest)
        fun hfeed => absurd hfeed (head?_escapeSegment_ne hrest)) (ih hrest)

/-- A string leaves no backslash open. -/
theorem StringText.bare_append {body : Text} {codes : List Nat}
    (hbody : StringText body codes) (rest : Text) :
    Text.bare (body ++ rest) = body.bare ++ rest.bare := by
  induction hbody with
  | nil => rfl
  | @char char chars codes _ hplain hchars ih =>
      have hsingle : '\\' ∉ [char] := fun hmem =>
        hplain (List.mem_singleton.mp hmem ▸ List.mem_cons_self)
      have hcons := fun text => Text.bare_append hsingle text
      simp only [List.singleton_append] at hcons
      rw [List.cons_append, hcons, hcons, ih, List.cons_append]
  | @escape escape chars codes more hescape hchars ih =>
      rw [List.cons_append, List.append_assoc, Text.bare_escape hescape, ih,
        Text.bare_escape hescape, List.cons_append, List.append_assoc]

theorem fillsQuotes_escapeSegment {raw : Text} {codes : List Nat}
    (hbody : StringText raw.escapeSegment codes) : raw.escapeSegment.FillsQuotes where
  closed := hbody.bare_append ['\'']
  quote := Text.not_mem_bareAfter_escapeSegmentAfter (Or.inl rfl) false raw
  lineFeed := Text.not_mem_bareAfter_escapeSegmentAfter (Or.inr rfl) false raw

/-- A string in single quotes is one token. -/
theorem StringText.scanToken {body : Text} {codes : List Nat} (hbody : StringText body codes)
    {limit : Nat} (rest : Text) (hlimit : ('\'' :: body ++ '\'' :: rest).length ≤ limit)
    (offset : Nat) :
    scanToken limit ⟨'\'' :: body ++ '\'' :: rest, offset⟩ =
      (.string codes, ⟨rest, offset + Text.byteSize ('\'' :: body ++ ['\''])⟩) := by
  have happend : '\'' :: body ++ '\'' :: rest = ('\'' :: body ++ ['\'']) ++ rest := by simp
  rw [happend] at hlimit ⊢
  exact (readsAs_iff (Or.inl rfl)).mpr hbody.quotedText limit rest offset hlimit

/-- The text of a template segment, escaped and in single quotes, is one complete string
literal with the value of the segment. -/
theorem scanToken_escapeSegment (raw : Text) (codes : List Nat) (hreturn : '\r' ∉ raw)
    (hcooked : cook? raw = some codes) :
    raw.escapeSegment.FillsQuotes ∧
      ∀ (limit : Nat) (rest : Text) (offset : Nat),
        ('\'' :: raw.escapeSegment ++ '\'' :: rest).length ≤ limit →
          scanToken limit ⟨'\'' :: raw.escapeSegment ++ '\'' :: rest, offset⟩ =
            (.string codes,
              ⟨rest, offset + Text.byteSize ('\'' :: raw.escapeSegment ++ ['\''])⟩) := by
  have hbody := (cook?_eq_some_iff.mp hcooked).escapeSegment hreturn
  exact ⟨fillsQuotes_escapeSegment hbody,
    fun limit rest offset hlimit => hbody.scanToken rest hlimit offset⟩

/-- A segment with quotes and line feeds, bare and escaped, and with longer escapes. -/
def mixedSegment : Text := "it's \\'so\\\\'\n\\\n\\u\x7b41\x7d\\0'".toList

theorem scanToken_escapeSegment_mixedSegment :
    mixedSegment.escapeSegment =
        "it\\'s \\'so\\\\\\'\\n\\\n\\u\x7b41\x7d\\0\\'".toList ∧
      mixedSegment.escapeSegment.FillsQuotes ∧
      scanToken 40 ⟨'\'' :: mixedSegment.escapeSegment ++ ['\'', ')'], 7⟩ =
        (.string ("it's 'so\\'\nA\x00'".toList.map Char.toNat), ⟨[')'], 37⟩) := by
  have hescaped : mixedSegment.escapeSegment =
      "it\\'s \\'so\\\\\\'\\n\\\n\\u\x7b41\x7d\\0\\'".toList := by
    decide +kernel
  have hcooked : cook? mixedSegment =
      some ("it's 'so\\'\nA\x00'".toList.map Char.toNat) := by
    decide +kernel
  obtain ⟨hfills, hscan⟩ :=
    scanToken_escapeSegment mixedSegment _ (by decide +kernel) hcooked
  refine ⟨hescaped, hfills, ?_⟩
  have hsize : Text.byteSize ('\'' :: mixedSegment.escapeSegment ++ ['\'']) = 30 := by
    decide +kernel
  have hone := hscan 40 [')'] 7 (by decide +kernel)
  rwa [hsize] at hone

end Syntax

end Untranslated
