import Untranslated.Proofs.Escaping

/-!
# Line breaks in template text

A line break is a line feed, a carriage return, or the two in a row, and a
template reads all three as a line feed; after a backslash it reads none of them.
Escaping goes by single characters.  It drops a bare carriage return whether or
not a line feed follows, and of an escaped pair it takes the line feed for a bare
one.  So a bare carriage return that stands alone is lost, and an escaped pair
gains a line feed; every other line break comes out right.
-/

namespace Untranslated

namespace Text

open Syntax

/-- The text with a line feed for every line break. -/
def unifyBreaks : Text → Text
  | [] => []
  | '\r' :: '\n' :: chars => '\n' :: unifyBreaks chars
  | '\r' :: chars => '\n' :: unifyBreaks chars
  | char :: chars => char :: unifyBreaks chars

/-- The number of carriage returns that are escaped, or bare, as `escapes` says, and
stand before a line feed, or do not, as `paired` says.  The flag says that the
character before is a backslash that escapes. -/
def returnsAfter (escapes paired : Bool) : Bool → Text → Nat
  | _, [] => 0
  | escaped, char :: chars =>
      let rest := returnsAfter escapes paired (char == '\\' && !escaped) chars
      if char == '\r' && escaped == escapes && (chars.head? == some '\n') == paired then
        rest + 1
      else rest

/-- The line breaks that escaping drops. -/
def lostBreaks (text : Text) : Nat := returnsAfter false false false text

/-- The line feeds that escaping adds. -/
def gainedBreaks (text : Text) : Nat := returnsAfter true true false text

section Unify

variable {char : Char} {chars : Text}

theorem unifyBreaks_char (hreturn : char ≠ '\r') :
    unifyBreaks (char :: chars) = char :: chars.unifyBreaks := by
  simp [unifyBreaks, hreturn]

theorem unifyBreaks_return (hfeed : chars.head? ≠ some '\n') :
    unifyBreaks ('\r' :: chars) = '\n' :: chars.unifyBreaks := by
  cases chars with
  | nil => rfl
  | cons char chars =>
      have hchar : char ≠ '\n' := fun heq => hfeed (congrArg some heq)
      simp [unifyBreaks, hchar]

theorem unifyBreaks_append {front : Text} (hreturn : '\r' ∉ front) (rest : Text) :
    unifyBreaks (front ++ rest) = front ++ rest.unifyBreaks := by
  induction front with
  | nil => rfl
  | cons char front ih =>
      rw [List.mem_cons, not_or] at hreturn
      rw [List.cons_append, unifyBreaks_char (Ne.symm hreturn.1), ih hreturn.2,
        List.cons_append]

theorem not_mem_unifyBreaks (text : Text) : '\r' ∉ text.unifyBreaks := by
  fun_induction unifyBreaks text with
  | case1 => exact List.not_mem_nil
  | case2 chars ih => simpa using ih
  | case3 chars _ ih => simpa using ih
  | case4 char chars hpair hreturn ih =>
      have hchar : '\r' ≠ char := fun heq => hreturn heq.symm
      simpa [hchar] using ih

/-- Unifying line breaks puts no octal digit in front. -/
theorem startsOctal_of_unifyBreaks (hoctal : StartsOctal chars.unifyBreaks) :
    StartsOctal chars := by
  fun_cases unifyBreaks chars with
  | case1 => exact hoctal
  | case2 chars => cases hoctal
  | case3 chars hfeed =>
      rw [unifyBreaks_return] at hoctal
      · cases hoctal
      · intro hhead
        obtain ⟨rest, rfl⟩ := List.head?_eq_some_iff.mp hhead
        exact hfeed rest rfl
  | case4 char chars _ hreturn =>
      rw [unifyBreaks_char hreturn] at hoctal
      exact hoctal

end Unify

section Returns

variable {escapes paired : Bool} {char : Char} {chars : Text}

theorem returnsAfter_char (hescape : char ≠ '\\') (hreturn : char ≠ '\r') :
    returnsAfter escapes paired false (char :: chars) =
      returnsAfter escapes paired false chars := by
  have hflag : (char == '\\') = false := beq_eq_false_iff_ne.mpr hescape
  simp [returnsAfter, hflag, hreturn]

theorem returnsAfter_append {plain : Text} (hplain : ∀ char ∈ plain, IsPlain char)
    (rest : Text) :
    returnsAfter escapes paired false (plain ++ rest) =
      returnsAfter escapes paired false rest := by
  induction plain with
  | nil => rfl
  | cons char plain ih =>
      obtain ⟨hchar, hplain⟩ := List.forall_mem_cons.mp hplain
      obtain ⟨hescape, -, -, hreturn⟩ := isPlain_iff.mp hchar
      rw [List.cons_append, returnsAfter_char hescape hreturn, ih hplain]

/-- Escapes other than carriage returns hold no carriage return. -/
theorem returnsAfter_escape {escape follow : Text} {codes : List Nat}
    (hescape : EscapeSequence escape codes follow) (hreturn : '\r' ∉ escape) (rest : Text) :
    returnsAfter escapes paired false ('\\' :: (escape ++ rest)) =
      returnsAfter escapes paired false rest := by
  obtain ⟨first, more, rfl, hplain⟩ := hescape.exists_plain_of_not_mem hreturn
  have hfirst : first ≠ '\r' := fun heq => hreturn (heq ▸ List.mem_cons_self)
  have hmore : returnsAfter escapes paired false (more ++ rest) =
      returnsAfter escapes paired false rest := returnsAfter_append hplain rest
  simp [returnsAfter, hfirst, hmore]

end Returns

/-! ## What escaping makes of line breaks -/

theorem escapeSegment_pair (chars : Text) :
    escapeSegment ('\r' :: '\n' :: chars) = '\\' :: 'n' :: chars.escapeSegment := by
  simp [escapeSegment, escapeSegmentAfter]

theorem escapeSegment_return (chars : Text) :
    escapeSegment ('\r' :: chars) = chars.escapeSegment := by
  simp [escapeSegment, escapeSegmentAfter]

theorem escapeSegment_escaped_pair (chars : Text) :
    escapeSegment ('\\' :: '\r' :: '\n' :: chars) =
      '\\' :: '\r' :: '\\' :: 'n' :: chars.escapeSegment := by
  simp [escapeSegment, escapeSegmentAfter]

theorem escapeSegment_escaped_return (chars : Text) :
    escapeSegment ('\\' :: '\r' :: chars) = '\\' :: '\r' :: chars.escapeSegment := by
  simp [escapeSegment, escapeSegmentAfter]

/-- No line feed is left in front. -/
theorem head?_escapeSegment_ne_lineFeed (text : Text) :
    text.escapeSegment.head? ≠ some '\n' := by
  induction text with
  | nil => exact nofun
  | cons char chars ih =>
      by_cases hreturn : char = '\r'
      · rw [hreturn, escapeSegment_return]
        exact ih
      · by_cases hquote : char = '\''
        · simp [escapeSegment, escapeSegmentAfter, hquote]
        · by_cases hfeed : char = '\n'
          · simp [escapeSegment, escapeSegmentAfter, hfeed]
          · simp [escapeSegment, escapeSegmentAfter, hquote, hfeed, hreturn]

end Text

namespace Syntax

/-- The second list is the first with as many line feeds left out and added as the numbers
say. -/
inductive Drift : Nat → Nat → List Nat → List Nat → Prop where
  | nil : Drift 0 0 [] []
  | keep (code : Nat) {lost gained : Nat} {codes value : List Nat}
      (hrest : Drift lost gained codes value) :
      Drift lost gained (code :: codes) (code :: value)
  | lose {lost gained : Nat} {codes value : List Nat} (hrest : Drift lost gained codes value) :
      Drift (lost + 1) gained (10 :: codes) value
  | gain {lost gained : Nat} {codes value : List Nat} (hrest : Drift lost gained codes value) :
      Drift lost (gained + 1) codes (10 :: value)

namespace Drift

variable {lost gained : Nat} {codes value : List Nat}

theorem append (front : List Nat) (hrest : Drift lost gained codes value) :
    Drift lost gained (front ++ codes) (front ++ value) := by
  induction front with
  | nil => exact hrest
  | cons code front ih => exact .keep code ih

theorem eq (hdrift : Drift lost gained codes value) (hlost : lost = 0) (hgained : gained = 0) :
    value = codes := by
  induction hdrift with
  | nil => rfl
  | keep code _ ih => rw [ih hlost hgained]
  | lose => cases hlost
  | gain => cases hgained

theorem count (hdrift : Drift lost gained codes value) :
    value.count 10 + lost = codes.count 10 + gained := by
  induction hdrift with
  | nil => rfl
  | keep code _ ih =>
      rw [List.count_cons, List.count_cons]
      omega
  | lose _ ih =>
      rw [List.count_cons_self]
      omega
  | gain _ ih =>
      rw [List.count_cons_self]
      omega

end Drift

/-- An escape without a carriage return stands before other text too, unless this makes it
longer. -/
theorem EscapeSequence.before_of_not_mem {escape follow other : Text} {codes : List Nat}
    (hescape : EscapeSequence escape codes follow) (hreturn : '\r' ∉ escape)
    (hoctal : escape = ['0'] → StartsOctal other → StartsOctal follow) :
    EscapeSequence escape codes other := by
  cases hescape with
  | lineBreak => exact absurd List.mem_cons_self hreturn
  | lineEnd hend =>
      exact .lineEnd hend fun heq => absurd (heq ▸ List.mem_cons_self) hreturn
  | letter hletter => exact .letter hletter other
  | zero hfollow => exact .zero fun hother => hfollow (hoctal rfl hother)
  | hex hhigh hlow => exact .hex hhigh hlow other
  | unicode hchars => exact .unicode hchars other
  | self hhex hunicode hletter hself hend => exact .self hhex hunicode hletter hself hend other

/-- The escapes with a carriage return are line breaks. -/
theorem EscapeSequence.cases_of_mem {escape follow : Text} {codes : List Nat}
    (hescape : EscapeSequence escape codes follow) (hreturn : '\r' ∈ escape) :
    codes = [] ∧ (escape = ['\r', '\n'] ∨ escape = ['\r'] ∧ follow.head? ≠ some '\n') := by
  cases hescape with
  | lineBreak => exact ⟨rfl, Or.inl rfl⟩
  | lineEnd hend hpair =>
      have hchar := List.mem_singleton.mp hreturn
      exact ⟨rfl, Or.inr ⟨by rw [← hchar], hpair hchar.symm⟩⟩
  | letter hletter =>
      rw [← List.mem_singleton.mp hreturn] at hletter
      cases hletter
  | zero => exact absurd (List.mem_singleton.mp hreturn) (by decide)
  | hex hhigh hlow =>
      simp only [List.mem_cons, List.not_mem_nil, or_false] at hreturn
      rcases hreturn with heq | rfl | rfl
      · cases heq
      · cases hhigh
      · cases hlow
  | unicode hchars =>
      rcases List.mem_cons.mp hreturn with heq | hmem
      · cases heq
      · exact absurd (hchars.isPlain _ hmem) (by decide)
  | self _ _ _ _ hend =>
      rw [← List.mem_singleton.mp hreturn] at hend
      cases hend

/-- A template reads all line breaks as line feeds. -/
theorem TemplateText.unifyBreaks {raw : Text} {codes : List Nat}
    (hraw : TemplateText raw codes) : TemplateText raw.unifyBreaks codes := by
  induction hraw with
  | nil => exact .nil
  | char hescape hreturn hchars ih =>
      rw [Text.unifyBreaks_char hreturn]
      exact .char hescape hreturn ih
  | lineBreak hchars ih => exact .char (by decide) (by decide) ih
  | lineEnd hfeed hchars ih =>
      rw [Text.unifyBreaks_return hfeed]
      exact .char (by decide) (by decide) ih
  | @escape escape chars codes more hescape hchars ih =>
      rw [Text.unifyBreaks_char (by decide)]
      by_cases hreturn : '\r' ∈ escape
      · have hfeed : EscapeSequence ['\n'] [] chars.unifyBreaks :=
          .lineEnd rfl fun heq => absurd heq (by decide)
        obtain ⟨rfl, rfl | ⟨rfl, hpair⟩⟩ := hescape.cases_of_mem hreturn
        · exact .escape hfeed ih
        · rw [List.singleton_append, Text.unifyBreaks_return hpair]
          exact .escape hfeed ih
      · rw [Text.unifyBreaks_append hreturn]
        exact .escape (hescape.before_of_not_mem hreturn
          fun _ => Text.startsOctal_of_unifyBreaks) ih

section Escaping

variable {raw : Text} {codes value : List Nat}

theorem startsOctal_of_escapeSegment_of_lostBreaks (hlost : raw.lostBreaks = 0)
    (hoctal : StartsOctal raw.escapeSegment) : StartsOctal raw := by
  cases raw with
  | nil => exact hoctal
  | cons char chars =>
      by_cases hreturn : char = '\r'
      · -- a line feed follows, and what is made of it starts with a backslash
        subst hreturn
        have hfeed : chars.head? = some '\n' := Decidable.byContradiction fun hfeed => by
          simp [Text.lostBreaks, Text.returnsAfter, hfeed] at hlost
        obtain ⟨rest, rfl⟩ := List.head?_eq_some_iff.mp hfeed
        rw [Text.escapeSegment_pair] at hoctal
        cases hoctal
      · by_cases hquote : char = '\''
        · simp [StartsOctal, Text.escapeSegment, Text.escapeSegmentAfter, hquote,
            octalDigit?] at hoctal
        · by_cases hfeed : char = '\n'
          · simp [StartsOctal, Text.escapeSegment, Text.escapeSegmentAfter, hfeed,
              octalDigit?] at hoctal
          · simpa [StartsOctal, Text.escapeSegment, Text.escapeSegmentAfter, hquote, hfeed,
              hreturn] using hoctal

/-- Escaping makes a string of a template segment, if no line break is lost. -/
theorem TemplateText.exists_stringText (hraw : TemplateText raw codes)
    (hlost : raw.lostBreaks = 0) : ∃ value, StringText raw.escapeSegment value := by
  induction hraw with
  | nil => exact ⟨[], .nil⟩
  | @char char chars codes hescape hreturn hchars ih =>
      rw [Text.lostBreaks, Text.returnsAfter_char hescape hreturn] at hlost
      obtain ⟨value, hvalue⟩ := ih hlost
      by_cases hquote : char = '\''
      · subst hquote
        exact ⟨_, hvalue.escapedQuote⟩
      · by_cases hfeed : char = '\n'
        · subst hfeed
          exact ⟨_, hvalue.lineFeed⟩
        · have hplain := isPlain_iff.mpr ⟨hescape, hquote, hfeed, hreturn⟩
          rw [Text.escapeSegment_char hplain]
          exact ⟨_, hplain.literalText hvalue⟩
  | lineBreak hchars ih =>
      obtain ⟨value, hvalue⟩ := ih (by simpa [Text.lostBreaks, Text.returnsAfter] using hlost)
      rw [Text.escapeSegment_pair]
      exact ⟨_, hvalue.lineFeed⟩
  | lineEnd hfeed hchars ih => simp [Text.lostBreaks, Text.returnsAfter, hfeed] at hlost
  | @escape escape chars codes more hescape hchars ih =>
      by_cases hreturn : '\r' ∈ escape
      · obtain ⟨rfl, rfl | ⟨rfl, hpair⟩⟩ := hescape.cases_of_mem hreturn
        · obtain ⟨value, hvalue⟩ := ih (by
            simpa [Text.lostBreaks, Text.returnsAfter] using hlost)
          simp only [List.cons_append, List.nil_append]
          rw [Text.escapeSegment_escaped_pair]
          exact ⟨_, hvalue.lineFeed.escapedReturn nofun⟩
        · obtain ⟨value, hvalue⟩ := ih (by
            simpa [Text.lostBreaks, Text.returnsAfter] using hlost)
          rw [List.singleton_append, Text.escapeSegment_escaped_return]
          exact ⟨_, hvalue.escapedReturn (Text.head?_escapeSegment_ne_lineFeed chars)⟩
      · rw [Text.lostBreaks, Text.returnsAfter_escape hescape hreturn] at hlost
        obtain ⟨value, hvalue⟩ := ih hlost
        rw [Text.escapeSegment_escape hescape hreturn]
        exact ⟨_, .escape (hescape.before_of_not_mem hreturn
          fun _ => startsOctal_of_escapeSegment_of_lostBreaks hlost) hvalue⟩

/-- A string that starts with a backslash starts with an escape. -/
theorem StringText.exists_read (hraw : StringText ('\\' :: raw) value) :
    ∃ codes after more, readEscape true ⟨raw, 0⟩ = some (codes, after) ∧
      value = codes ++ more ∧ StringText after.rest more := by
  generalize htext : '\\' :: raw = text at hraw
  cases hraw with
  | nil => cases htext
  | char _ hplain =>
      injection htext with hfirst
      rw [← hfirst] at hplain
      exact absurd List.mem_cons_self hplain
  | @escape escape chars codes more hescape hchars =>
      injection htext with _ htext
      exact ⟨codes, _, more, by rw [htext, hescape.read true 0], rfl, hchars⟩

/-- An escape for zero is legal only if no octal digit follows. -/
theorem readEscape_zero_eq_none {rest : Text} (hoctal : StartsOctal rest) (offset : Nat) :
    readEscape true ⟨'0' :: rest, offset⟩ = none := by
  rw [StartsOctal] at hoctal
  rw [readEscape_char true (by decide) (by decide) rest (fun heq => absurd heq (by decide))]
  simp [letterEscape?, octalDigit?, hoctal]

/-- In a legal string an escape of the template is still the same escape. -/
theorem EscapeSequence.before_of_stringText {escape follow rest : Text}
    (hescape : EscapeSequence escape codes follow) (hreturn : '\r' ∉ escape)
    (hraw : StringText ('\\' :: (escape ++ rest)) value) :
    EscapeSequence escape codes rest := by
  apply hescape.before_of_not_mem hreturn
  rintro rfl hoctal
  obtain ⟨codes', after, more, hread, -⟩ := hraw.exists_read
  rw [List.singleton_append, readEscape_zero_eq_none hoctal] at hread
  cases hread

/-- The string that escaping makes of a template segment, if it is one, stands for what the
segment does, but for the line feeds that are lost and gained. -/
theorem TemplateText.drift (hraw : TemplateText raw codes)
    (hvalue : StringText raw.escapeSegment value) :
    Drift raw.lostBreaks raw.gainedBreaks codes value := by
  induction hraw generalizing value with
  | nil =>
      cases hvalue
      exact .nil
  | @char char chars codes hescape hreturn hchars ih =>
      rw [Text.lostBreaks, Text.gainedBreaks, Text.returnsAfter_char hescape hreturn,
        Text.returnsAfter_char hescape hreturn]
      by_cases hquote : char = '\''
      · subst hquote
        obtain ⟨more, rfl, hmore⟩ := LiteralText.of_escape
          (EscapeSequence.self (by decide) (by decide) rfl rfl rfl _) hvalue
        exact .keep _ (ih hmore)
      · by_cases hfeed : char = '\n'
        · subst hfeed
          obtain ⟨more, rfl, hmore⟩ := hvalue.of_lineFeed
          exact .keep _ (ih hmore)
        · have hplain := isPlain_iff.mpr ⟨hescape, hquote, hfeed, hreturn⟩
          rw [Text.escapeSegment_char hplain] at hvalue
          obtain ⟨-, more, rfl, hmore⟩ := hvalue.of_char hescape
          exact .keep _ (ih hmore)
  | @lineBreak chars codes hchars ih =>
      rw [Text.escapeSegment_pair] at hvalue
      obtain ⟨more, rfl, hmore⟩ := hvalue.of_lineFeed
      simpa [Text.lostBreaks, Text.gainedBreaks, Text.returnsAfter] using (ih hmore).keep 10
  | @lineEnd chars codes hfeed hchars ih =>
      rw [Text.escapeSegment_return] at hvalue
      simpa [Text.lostBreaks, Text.gainedBreaks, Text.returnsAfter, hfeed] using
        (ih hvalue).lose
  | @escape escape chars codes more hescape hchars ih =>
      by_cases hreturn : '\r' ∈ escape
      · obtain ⟨rfl, rfl | ⟨rfl, hpair⟩⟩ := hescape.cases_of_mem hreturn
        · simp only [List.cons_append, List.nil_append] at hvalue
          rw [Text.escapeSegment_escaped_pair] at hvalue
          have hfeed : ('\\' :: 'n' :: chars.escapeSegment).head? ≠ some '\n' := nofun
          obtain ⟨after, rfl, hafter⟩ := LiteralText.of_escape
            (EscapeSequence.ofReturn hfeed) hvalue
          obtain ⟨more, rfl, hmore⟩ := hafter.of_lineFeed
          simpa [Text.lostBreaks, Text.gainedBreaks, Text.returnsAfter] using (ih hmore).gain
        · rw [List.singleton_append, Text.escapeSegment_escaped_return] at hvalue
          obtain ⟨more, rfl, hmore⟩ := LiteralText.of_escape
            (EscapeSequence.ofReturn (Text.head?_escapeSegment_ne_lineFeed chars)) hvalue
          simpa [Text.lostBreaks, Text.gainedBreaks, Text.returnsAfter, hpair] using ih hmore
      · rw [Text.escapeSegment_escape hescape hreturn] at hvalue
        obtain ⟨more, rfl, hmore⟩ := LiteralText.of_escape
          (hescape.before_of_stringText hreturn hvalue) hvalue
        rw [Text.lostBreaks, Text.gainedBreaks, Text.returnsAfter_escape hescape hreturn,
          Text.returnsAfter_escape hescape hreturn]
        exact (ih hmore).append codes

end Escaping

/-- In single quotes the text is one complete string literal that stands for the codes: it
is a legal string, the quotes enclose it, and it is read whatever follows it. -/
structure Spells (text : Text) (codes : List Nat) : Prop where
  legal : StringText text codes
  fills : text.FillsQuotes
  read : ∀ (limit : Nat) (rest : Text) (offset : Nat),
    ('\'' :: text ++ '\'' :: rest).length ≤ limit →
      scanToken limit ⟨'\'' :: text ++ '\'' :: rest, offset⟩ =
        (.string codes, ⟨rest, offset + Text.byteSize ('\'' :: text ++ ['\''])⟩)

theorem spells_of_stringText {raw : Text} {codes : List Nat}
    (hbody : StringText raw.escapeSegment codes) : Spells raw.escapeSegment codes where
  legal := hbody
  fills := fillsQuotes_escapeSegment hbody
  read := fun _ rest offset hlimit => hbody.scanToken rest hlimit offset

/-- A string with the value of the segment has lost as many line feeds as it has gained. -/
theorem lostBreaks_eq_gainedBreaks {raw : Text} {codes : List Nat}
    (hcooked : cook? raw = some codes) (hspells : Spells raw.escapeSegment codes) :
    raw.lostBreaks = raw.gainedBreaks := by
  have hcount := ((cook?_eq_some_iff.mp hcooked).drift hspells.legal).count
  omega

/-- Whatever line breaks a segment is written with, it stands for what it does with line
feeds, and so does the string made of it then.  As it is written, the segment becomes a
string for the same if no bare carriage return stands alone and no escaped one stands
before a line feed; with one of the two and not the other it does not, since the string
has lost as many line breaks as it has gained only if it has both. -/
theorem spells_escapeSegment (raw : Text) (codes : List Nat)
    (hcooked : cook? raw = some codes) :
    (cook? raw.unifyBreaks = some codes ∧ Spells raw.unifyBreaks.escapeSegment codes) ∧
      (raw.lostBreaks = 0 ∧ raw.gainedBreaks = 0 → Spells raw.escapeSegment codes) ∧
      (Spells raw.escapeSegment codes → raw.lostBreaks = raw.gainedBreaks) := by
  have hraw := cook?_eq_some_iff.mp hcooked
  refine ⟨⟨cook?_eq_some_iff.mpr hraw.unifyBreaks, ?_⟩, ?_,
    lostBreaks_eq_gainedBreaks hcooked⟩
  · exact spells_of_stringText (hraw.unifyBreaks.escapeSegment (Text.not_mem_unifyBreaks raw))
  · rintro ⟨hlost, hgained⟩
    obtain ⟨value, hvalue⟩ := hraw.exists_stringText hlost
    have hsame := (hraw.drift hvalue).eq hlost hgained
    rw [hsame] at hvalue
    exact spells_of_stringText hvalue

/-- A segment with a bare pair, a bare line feed, and an escaped line break of each kind. -/
def keptBreaks : Text := "да\r\nнет\nи\\\rда\\\nже'".toList

theorem spells_escapeSegment_keptBreaks :
    keptBreaks.lostBreaks = 0 ∧ keptBreaks.gainedBreaks = 0 ∧
      keptBreaks.escapeSegment = "да\\nнет\\nи\\\rда\\\nже\\'".toList ∧
      Spells keptBreaks.escapeSegment ("да\nнет\nидаже'".toList.map Char.toNat) ∧
      Spells "да\\nнет\\nи\\\nда\\\nже\\'".toList
        ("да\nнет\nидаже'".toList.map Char.toNat) := by
  have hcooked : cook? keptBreaks = some ("да\nнет\nидаже'".toList.map Char.toNat) := by
    decide +kernel
  have hlost : keptBreaks.lostBreaks = 0 := by decide +kernel
  have hgained : keptBreaks.gainedBreaks = 0 := by decide +kernel
  have hunified : keptBreaks.unifyBreaks.escapeSegment =
      "да\\nнет\\nи\\\nда\\\nже\\'".toList := by
    decide +kernel
  obtain ⟨⟨-, hspells⟩, hkept, -⟩ := spells_escapeSegment keptBreaks _ hcooked
  rw [hunified] at hspells
  exact ⟨hlost, hgained, by decide +kernel, hkept ⟨hlost, hgained⟩, hspells⟩

/-- A bare carriage return that stands alone is dropped, and an escaped one before a line
feed, which stands for nothing, becomes a line feed. -/
theorem lineBreak_lost_and_gained :
    let lone : Text := "да\rнет".toList
    let pair : Text := "да\\\r\nнет".toList
    let read (text : Text) := (scanToken 20 ⟨'\'' :: text ++ ['\''], 0⟩).1
    (cook? lone = some ("да\nнет".toList.map Char.toNat) ∧
        read lone.escapeSegment = .string ("данет".toList.map Char.toNat) ∧
        ¬Spells lone.escapeSegment ("да\nнет".toList.map Char.toNat)) ∧
      cook? pair = some ("данет".toList.map Char.toNat) ∧
        read pair.escapeSegment = .string ("да\nнет".toList.map Char.toNat) ∧
        ¬Spells pair.escapeSegment ("данет".toList.map Char.toNat) := by
  intro lone pair read
  have hlone : cook? lone = some ("да\nнет".toList.map Char.toNat) := by decide +kernel
  have hpair : cook? pair = some ("данет".toList.map Char.toNat) := by decide +kernel
  refine ⟨⟨hlone, by decide +kernel, fun hspells => ?_⟩, hpair, by decide +kernel,
    fun hspells => ?_⟩
  · exact absurd (lostBreaks_eq_gainedBreaks hlone hspells) (by decide +kernel)
  · exact absurd (lostBreaks_eq_gainedBreaks hpair hspells) (by decide +kernel)

end Syntax

end Untranslated
