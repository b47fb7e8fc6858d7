import Untranslated.Rule.Wrapper
import Untranslated.Syntax.Progress

/-!
# Escapes

What may stand after a backslash, as a grammar: the escapes that strings and
templates have in common, and the octal numbers that only strings have.  The reader
of escapes follows the grammar.  An escape ends by itself, or at a character that
cannot make it longer, so it means the same before most other text; and beyond its
first character it has nothing but digits, braces and the rest of a line break.
-/

namespace Untranslated

namespace Syntax

open CharSet (hexDigit?)

/-! ## Escapes of templates -/

/-- A character that means nothing in quotes but itself. -/
def IsPlain (char : Char) : Prop := char ∉ ['\\', '\'', '\n', '\r']

instance (char : Char) : Decidable (IsPlain char) :=
  inferInstanceAs (Decidable (char ∉ ['\\', '\'', '\n', '\r']))

/-- Hexadecimal digits up to a closing brace, read after digits that spell `value`. -/
inductive BracedHex : Nat → Text → Nat → Prop where
  | close (value : Nat) : BracedHex value ['}'] value
  | digit {value digit code : Nat} {char : Char} {chars : Text}
      (hdigit : hexDigit? char = some digit) (hbound : value * 16 + digit ≤ 0x10FFFF)
      (hchars : BracedHex (value * 16 + digit) chars code) :
      BracedHex value (char :: chars) code

/-- What may stand after a backslash and the letter `u`. -/
inductive UnicodeEscape : Text → Nat → Prop where
  | braced {chars : Text} {code : Nat} (hchars : BracedHex 0 chars code)
      (hdigits : chars ≠ ['}']) : UnicodeEscape ('{' :: chars) code
  | four {first second third fourth : Char} {a b c d : Nat}
      (hfirst : hexDigit? first = some a) (hsecond : hexDigit? second = some b)
      (hthird : hexDigit? third = some c) (hfourth : hexDigit? fourth = some d) :
      UnicodeEscape [first, second, third, fourth] (((a * 16 + b) * 16 + c) * 16 + d)

def StartsOctal (text : Text) : Prop := (text.head?.bind octalDigit?).isSome = true

instance (text : Text) : Decidable (StartsOctal text) :=
  inferInstanceAs (Decidable ((text.head?.bind octalDigit?).isSome = true))

/-- What may stand after a backslash in a template, before the given text, and what
it stands for. -/
inductive EscapeSequence : Text → List Nat → Text → Prop where
  | lineBreak (follow : Text) : EscapeSequence ['\r', '\n'] [] follow
  | lineEnd {char : Char} {follow : Text} (hend : isLineEnd char = true)
      (hpair : char = '\r' → follow.head? ≠ some '\n') : EscapeSequence [char] [] follow
  | letter {char : Char} {code : Nat} (hletter : letterEscape? char = some code)
      (follow : Text) : EscapeSequence [char] [code] follow
  | zero {follow : Text} (hfollow : ¬StartsOctal follow) : EscapeSequence ['0'] [0] follow
  | hex {high low : Char} {a b : Nat} (hhigh : hexDigit? high = some a)
      (hlow : hexDigit? low = some b) (follow : Text) :
      EscapeSequence ['x', high, low] [a * 16 + b] follow
  | unicode {chars : Text} {code : Nat} (hchars : UnicodeEscape chars code)
      (follow : Text) : EscapeSequence ('u' :: chars) [code] follow
  | self {char : Char} (hhex : char ≠ 'x') (hunicode : char ≠ 'u')
      (hletter : letterEscape? char = none) (hoctal : octalDigit? char = none)
      (hend : isLineEnd char = false) (follow : Text) :
      EscapeSequence [char] [char.toNat] follow

theorem isPlain_iff {char : Char} :
    IsPlain char ↔ char ≠ '\\' ∧ char ≠ '\'' ∧ char ≠ '\n' ∧ char ≠ '\r' := by
  simp [IsPlain]

theorem isPlain_of_hexDigit? {char : Char} {digit : Nat}
    (hdigit : hexDigit? char = some digit) : IsPlain char := by
  refine isPlain_iff.mpr ⟨?_, ?_, ?_, ?_⟩ <;> rintro rfl <;> cases hdigit

theorem BracedHex.read {value code : Nat} {chars : Text}
    (hchars : BracedHex value chars code) (rest : Text) (offset : Nat) :
    readBracedHex (chars ++ rest) offset value =
      some (code, ⟨rest, offset + chars.byteSize⟩) := by
  induction hchars generalizing offset with
  | close value => rfl
  | @digit value digit code char chars hdigit hbound hchars ih =>
      have hopen : char ≠ '}' := by
        rintro rfl
        cases hdigit
      rw [List.cons_append, readBracedHex, if_neg hopen, hdigit]
      simp only [hbound, if_true, ih, Text.byteSize_cons, utf8Size_of_hexDigit? hdigit,
        Nat.add_assoc]

theorem bracedHex_of_read {chars : Text} {offset value code : Nat} {after : Cursor}
    (hread : readBracedHex chars offset value = some (code, after)) :
    ∃ digits, chars = digits ++ after.rest ∧ BracedHex value digits code := by
  induction chars generalizing offset value with
  | nil => cases hread
  | cons char chars ih =>
      rw [readBracedHex] at hread
      split at hread
      · rename_i hclose
        cases hread
        exact ⟨['}'], by rw [hclose]; rfl, .close _⟩
      · split at hread
        · cases hread
        · rename_i digit hdigit
          split at hread
          · rename_i hbound
            obtain ⟨digits, hchars, hdigits⟩ := ih hread
            exact ⟨char :: digits, by rw [hchars]; rfl, .digit hdigit hbound hdigits⟩
          · cases hread

theorem UnicodeEscape.read {chars : Text} {code : Nat} (hchars : UnicodeEscape chars code)
    (rest : Text) (offset : Nat) :
    readUnicodeEscape ⟨chars ++ rest, offset⟩ =
      some (code, ⟨rest, offset + chars.byteSize⟩) := by
  unfold readUnicodeEscape
  cases hchars with
  | @braced chars code hchars hdigits =>
      have hread := hchars.read rest (offset + 1)
      rw [Nat.add_assoc] at hread
      split
      · rename_i hrest
        cases hchars with
        | close => exact absurd rfl hdigits
        | digit hdigit =>
            cases hrest
            cases hdigit
      · rename_i hrest
        cases hrest
        exact hread
      · rename_i hbrace hrest
        injection hrest with hfirst
        exact (hbrace hfirst.symm).elim
      · rename_i hbrace _
        exact (hbrace _ rfl).elim
  | four hfirst hsecond hthird hfourth =>
      split
      · rename_i hrest
        cases hrest
        cases hfirst
      · rename_i hrest
        cases hrest
        cases hfirst
      · rename_i hrest
        cases hrest
        simp [hfirst, hsecond, hthird, hfourth, utf8Size_of_hexDigit? hfirst,
          utf8Size_of_hexDigit? hsecond, utf8Size_of_hexDigit? hthird,
          utf8Size_of_hexDigit? hfourth]
      · rename_i hfour
        exact (hfour _ _ _ _ _ rfl).elim

theorem unicodeEscape_of_read {chars : Text} {offset code : Nat} {after : Cursor}
    (hread : readUnicodeEscape ⟨chars, offset⟩ = some (code, after)) :
    ∃ escape, chars = escape ++ after.rest ∧ UnicodeEscape escape code := by
  unfold readUnicodeEscape at hread
  split at hread
  · cases hread
  · rename_i digits hdigits hrest
    obtain ⟨escape, hescape, hhex⟩ := bracedHex_of_read hread
    refine ⟨'{' :: escape, ?_, .braced hhex ?_⟩
    · rw [List.cons_append, ← hescape]
      exact hrest
    · rintro rfl
      exact hdigits after.rest hescape
  · rename_i first second third fourth rest _ _ hrest
    simp only [bind, Option.bind_eq_some_iff, pure, Option.some.injEq] at hread
    obtain ⟨a, hfirst, b, hsecond, c, hthird, d, hfourth, ⟨⟩⟩ := hread
    exact ⟨[first, second, third, fourth], hrest, .four hfirst hsecond hthird hfourth⟩
  · cases hread

/-- What stands after a backslash, if it is no number. -/
theorem readEscape_char (inTemplate : Bool) {char : Char} (hhex : char ≠ 'x')
    (hunicode : char ≠ 'u') (follow : Text) (hpair : char = '\r' → follow.head? ≠ some '\n')
    (offset : Nat) :
    readEscape inTemplate ⟨char :: follow, offset⟩ =
      match letterEscape? char, octalDigit? char with
      | some code, _ => some ([code], ⟨follow, offset + char.utf8Size⟩)
      | none, some digit =>
          if digit = 0 && !(follow.head?.bind octalDigit?).isSome then
            some ([0], ⟨follow, offset + char.utf8Size⟩)
          else if inTemplate then none
          else
            let (value, after) := readOctal 2 digit follow (offset + 1)
            some ([value], after)
      | none, none =>
          if isLineEnd char then some ([], ⟨follow, offset + char.utf8Size⟩)
          else some ([char.toNat], ⟨follow, offset + char.utf8Size⟩) := by
  rw [readEscape]
  split
  · rename_i hrest
    cases hrest
  · rename_i hrest
    cases hrest
    exact absurd rfl (hpair rfl)
  · rename_i hrest
    cases hrest
    exact absurd rfl hhex
  · rename_i hrest
    cases hrest
    exact absurd rfl hunicode
  · rename_i hrest
    cases hrest
    rfl

theorem isLineEnd_iff {char : Char} :
    isLineEnd char = true ↔ char = '\n' ∨ char = '\r' ∨ char = Char.ofNat 0x2028 ∨
      char = Char.ofNat 0x2029 := by
  have hline : char.toNat = 0x2028 ↔ char = Char.ofNat 0x2028 :=
    Char.toNat_inj (d := Char.ofNat 0x2028)
  have hparagraph : char.toNat = 0x2029 ↔ char = Char.ofNat 0x2029 :=
    Char.toNat_inj (d := Char.ofNat 0x2029)
  simp only [isLineEnd, Bool.or_eq_true, beq_iff_eq, hline, hparagraph, or_assoc]

/-- Escapes are read whole, in a template as in a string. -/
theorem EscapeSequence.read {escape : Text} {codes : List Nat} {follow : Text}
    (hescape : EscapeSequence escape codes follow) (inTemplate : Bool) (offset : Nat) :
    readEscape inTemplate ⟨escape ++ follow, offset⟩ =
      some (codes, ⟨follow, offset + escape.byteSize⟩) := by
  cases hescape with
  | lineBreak => rfl
  | @lineEnd char follow hend hpair =>
      obtain ⟨hhex, hunicode, hletter, hoctal⟩ : char ≠ 'x' ∧ char ≠ 'u' ∧
          letterEscape? char = none ∧ octalDigit? char = none := by
        rcases isLineEnd_iff.mp hend with rfl | rfl | rfl | rfl <;> decide
      rw [List.singleton_append, readEscape_char inTemplate hhex hunicode follow hpair]
      simp [hletter, hoctal, hend]
  | @letter char code hletter =>
      have hhex : char ≠ 'x' := by
        rintro rfl
        cases hletter
      have hunicode : char ≠ 'u' := by
        rintro rfl
        cases hletter
      have hpair : char = '\r' → follow.head? ≠ some '\n' := by
        rintro rfl
        cases hletter
      rw [List.singleton_append, readEscape_char inTemplate hhex hunicode follow hpair]
      simp [hletter]
  | zero hfollow =>
      have hpair : '0' = '\r' → follow.head? ≠ some '\n' := fun heq =>
        absurd heq (by decide)
      rw [List.singleton_append,
        readEscape_char inTemplate (by decide) (by decide) follow hpair]
      rw [StartsOctal, Bool.not_eq_true] at hfollow
      simp [letterEscape?, octalDigit?, hfollow]
  | hex hhigh hlow =>
      have hmark : 'x'.utf8Size = 1 := rfl
      simp [readEscape, hhigh, hlow, hmark, utf8Size_of_hexDigit? hhigh,
        utf8Size_of_hexDigit? hlow]
  | unicode hchars =>
      have hmark : 'u'.utf8Size = 1 := rfl
      simp [readEscape, hchars.read, hmark, Nat.add_assoc]
  | @self char hhex hunicode hletter hoctal hend =>
      have hpair : char = '\r' → follow.head? ≠ some '\n' := by
        rintro rfl
        cases hend
      rw [List.singleton_append, readEscape_char inTemplate hhex hunicode follow hpair]
      simp [hletter, hoctal, hend]

theorem eq_of_octalDigit?_eq_zero {char : Char} (hdigit : octalDigit? char = some 0) :
    char = '0' := by
  unfold octalDigit? at hdigit
  split at hdigit
  · rename_i hrange
    rw [Option.some.injEq, Nat.sub_eq_zero_iff_le] at hdigit
    exact Char.le_antisymm hdigit hrange.1
  · cases hdigit

theorem escapeSequence_of_read_char {char : Char} (hhex : char ≠ 'x') (hunicode : char ≠ 'u')
    {follow : Text} (hpair : char = '\r' → follow.head? ≠ some '\n') {offset : Nat}
    {codes : List Nat} {after : Cursor}
    (hread : readEscape true ⟨char :: follow, offset⟩ = some (codes, after)) :
    after.rest = follow ∧ EscapeSequence [char] codes follow := by
  rw [readEscape_char true hhex hunicode follow hpair] at hread
  split at hread
  · rename_i hletter
    cases hread
    exact ⟨rfl, .letter hletter follow⟩
  · rename_i hoctal
    split at hread
    · rename_i hzero
      rw [Bool.and_eq_true, decide_eq_true_eq, Bool.not_eq_true'] at hzero
      rw [hzero.1] at hoctal
      cases hread
      rw [eq_of_octalDigit?_eq_zero hoctal]
      exact ⟨rfl, .zero (by simp [StartsOctal, hzero.2])⟩
    · cases hread
  · rename_i hletter hoctal
    split at hread
    · rename_i hend
      cases hread
      exact ⟨rfl, .lineEnd hend hpair⟩
    · rename_i hend
      cases hread
      exact ⟨rfl, .self hhex hunicode hletter hoctal (by simpa using hend) follow⟩

/-- What is read as an escape in a template is one. -/
theorem escapeSequence_of_read {chars : Text} {offset : Nat} {codes : List Nat}
    {after : Cursor} (hread : readEscape true ⟨chars, offset⟩ = some (codes, after)) :
    ∃ escape, chars = escape ++ after.rest ∧ EscapeSequence escape codes after.rest := by
  have hwhole := hread
  unfold readEscape at hread
  split at hread
  · cases hread
  · rename_i follow hchars
    cases hread
    exact ⟨['\r', '\n'], hchars, .lineBreak follow⟩
  · rename_i digits hchars
    split at hread
    · rename_i high low follow
      simp only [bind, Option.bind_eq_some_iff, pure, Option.some.injEq] at hread
      obtain ⟨a, hhigh, b, hlow, ⟨⟩⟩ := hread
      exact ⟨['x', high, low], hchars, .hex hhigh hlow follow⟩
    · cases hread
  · rename_i follow hchars
    obtain ⟨⟨code, stop⟩, hcode, ⟨⟩⟩ := Option.map_eq_some_iff.mp hread
    obtain ⟨escape, rfl, hescape⟩ := unicodeEscape_of_read hcode
    exact ⟨'u' :: escape, hchars, .unicode hescape _⟩
  · rename_i char follow hbreak hhex hunicode hchars
    have hpair : char = '\r' → follow.head? ≠ some '\n' := by
      rintro hreturn hfeed
      obtain ⟨rest, rfl⟩ := List.head?_eq_some_iff.mp hfeed
      exact hbreak rest hreturn rfl
    subst hchars
    obtain ⟨hrest, hescape⟩ := escapeSequence_of_read_char hhex hunicode hpair hwhole
    rw [hrest]
    exact ⟨[char], rfl, hescape⟩

theorem BracedHex.isPlain {value code : Nat} {chars : Text}
    (hchars : BracedHex value chars code) : ∀ char ∈ chars, IsPlain char := by
  induction hchars with
  | close => exact List.forall_mem_singleton.mpr (by decide)
  | digit hdigit _ _ ih => exact List.forall_mem_cons.mpr ⟨isPlain_of_hexDigit? hdigit, ih⟩

theorem UnicodeEscape.isPlain {chars : Text} {code : Nat} (hchars : UnicodeEscape chars code) :
    ∀ char ∈ chars, IsPlain char := by
  cases hchars with
  | braced hchars => exact List.forall_mem_cons.mpr ⟨by decide, hchars.isPlain⟩
  | four hfirst hsecond hthird hfourth =>
      simp only [List.forall_mem_cons, isPlain_of_hexDigit? hfirst,
        isPlain_of_hexDigit? hsecond, isPlain_of_hexDigit? hthird,
        isPlain_of_hexDigit? hfourth, true_and]
      exact List.forall_mem_nil _

namespace EscapeSequence

variable {escape : Text} {codes : List Nat} {follow : Text}

/-- After its first character an escape has nothing that would have to be escaped, the
second half of a line break aside. -/
theorem exists_plain (hescape : EscapeSequence escape codes follow) :
    ∃ first more, escape = first :: more ∧
      ∀ char ∈ more, IsPlain char ∨ first = '\r' ∧ char = '\n' := by
  cases hescape with
  | lineBreak => exact ⟨'\r', ['\n'], rfl, List.forall_mem_singleton.mpr (Or.inr ⟨rfl, rfl⟩)⟩
  | lineEnd | letter | zero | self => exact ⟨_, [], rfl, List.forall_mem_nil _⟩
  | hex hhigh hlow =>
      refine ⟨'x', _, rfl, ?_⟩
      simp only [List.forall_mem_cons, isPlain_of_hexDigit? hhigh, isPlain_of_hexDigit? hlow,
        true_or, true_and]
      exact List.forall_mem_nil _
  | unicode hchars =>
      exact ⟨'u', _, rfl, fun char hchar => Or.inl (hchars.isPlain char hchar)⟩

/-- After its first character an escape without a carriage return has nothing that would
have to be escaped. -/
theorem exists_plain_of_not_mem (hescape : EscapeSequence escape codes follow)
    (hreturn : '\r' ∉ escape) :
    ∃ first more, escape = first :: more ∧ ∀ char ∈ more, IsPlain char := by
  obtain ⟨first, more, rfl, hmore⟩ := hescape.exists_plain
  refine ⟨first, more, rfl, fun char hchar => ?_⟩
  refine (hmore char hchar).resolve_right fun hbreak => hreturn ?_
  rw [hbreak.1]
  exact List.mem_cons_self

/-- An escape stands before other text too, unless this makes it longer. -/
theorem before (hescape : EscapeSequence escape codes follow) {other : Text}
    (hoctal : StartsOctal other → StartsOctal follow)
    (hfeed : other.head? = some '\n' → follow.head? = some '\n') :
    EscapeSequence escape codes other := by
  cases hescape with
  | lineBreak => exact .lineBreak other
  | lineEnd hend hpair => exact .lineEnd hend fun hreturn hother => hpair hreturn (hfeed hother)
  | letter hletter => exact .letter hletter other
  | zero hfollow => exact .zero fun hother => hfollow (hoctal hother)
  | hex hhigh hlow => exact .hex hhigh hlow other
  | unicode hchars => exact .unicode hchars other
  | self hhex hunicode hletter hself hend => exact .self hhex hunicode hletter hself hend other

end EscapeSequence

/-! ## Escapes of strings -/

/-- Up to `count` more octal digits, read after digits that spell `value`: as many as
there are, and as fit in a byte. -/
inductive OctalDigits : Nat → Nat → Text → Nat → Text → Prop where
  | stop {count value : Nat} {follow : Text}
      (hstop : ∀ digit ∈ follow.head?.bind octalDigit?, count = 0 ∨ 255 < value * 8 + digit) :
      OctalDigits count value [] value follow
  | digit {count value digit code : Nat} {char : Char} {digits follow : Text}
      (hdigit : octalDigit? char = some digit) (hbound : value * 8 + digit ≤ 255)
      (hdigits : OctalDigits count (value * 8 + digit) digits code follow) :
      OctalDigits (count + 1) value (char :: digits) code follow

/-- What may stand after a backslash in a string, before the given text, and what it
stands for. -/
inductive StringEscape : Text → List Nat → Text → Prop where
  | sequence {escape : Text} {codes : List Nat} {follow : Text}
      (hescape : EscapeSequence escape codes follow) : StringEscape escape codes follow
  | octal {first : Char} {digit code : Nat} {digits follow : Text}
      (hfirst : octalDigit? first = some digit)
      (hdigits : OctalDigits 2 digit digits code follow) :
      StringEscape (first :: digits) [code] follow

/-- A choice of escapes for strings: those that templates have too, with or without octal
numbers. -/
class EscapeChoice (Escape : Text → List Nat → Text → Prop) : Prop where
  ofSequence : ∀ {escape codes follow}, EscapeSequence escape codes follow →
    Escape escape codes follow
  toString : ∀ {escape codes follow}, Escape escape codes follow →
    StringEscape escape codes follow

instance : EscapeChoice EscapeSequence := ⟨fun hescape => hescape, .sequence⟩

instance : EscapeChoice StringEscape := ⟨.sequence, fun hescape => hescape⟩

theorem EscapeSequence.ofReturn {follow : Text} (hfeed : follow.head? ≠ some '\n') :
    EscapeSequence ['\r'] [] follow :=
  .lineEnd rfl fun _ => hfeed

theorem exists_octalDigits (count value : Nat) (text : Text) :
    ∃ digits code follow, text = digits ++ follow ∧
      OctalDigits count value digits code follow := by
  induction count generalizing value text with
  | zero => exact ⟨[], value, text, rfl, .stop fun _ _ => Or.inl rfl⟩
  | succ count ih =>
      by_cases hmore : ∃ char chars digit, text = char :: chars ∧
          octalDigit? char = some digit ∧ value * 8 + digit ≤ 255
      · obtain ⟨char, chars, digit, rfl, hdigit, hbound⟩ := hmore
        obtain ⟨digits, code, follow, rfl, hdigits⟩ := ih (value * 8 + digit) chars
        exact ⟨char :: digits, code, follow, rfl, .digit hdigit hbound hdigits⟩
      · refine ⟨[], value, text, rfl, .stop fun digit hdigit => Or.inr ?_⟩
        obtain ⟨char, hchar, hdigit⟩ := Option.bind_eq_some_iff.mp hdigit
        obtain ⟨chars, rfl⟩ := List.head?_eq_some_iff.mp hchar
        exact Nat.lt_of_not_le fun hbound => hmore ⟨char, chars, digit, rfl, hdigit, hbound⟩

theorem OctalDigits.read {count value code : Nat} {digits follow : Text}
    (hdigits : OctalDigits count value digits code follow) (offset : Nat) :
    readOctal count value (digits ++ follow) offset =
      (code, ⟨follow, offset + digits.byteSize⟩) := by
  induction hdigits generalizing offset with
  | @stop count value follow hstop =>
      cases count with
      | zero => rfl
      | succ count =>
          cases follow with
          | nil => rfl
          | cons char chars =>
              simp only [List.nil_append, readOctal]
              split
              · rfl
              · next digit hdigit =>
                  have hlarge := (hstop digit hdigit).resolve_left (Nat.succ_ne_zero count)
                  rw [if_neg (Nat.not_le_of_lt hlarge)]
                  rfl
  | digit hdigit hbound hdigits ih =>
      simp only [List.cons_append, readOctal, hdigit, if_pos hbound, ih, Text.byteSize_cons,
        utf8Size_of_octalDigit? hdigit, Nat.add_assoc]

theorem letterEscape?_of_octalDigit? {char : Char} {digit : Nat}
    (hdigit : octalDigit? char = some digit) : letterEscape? char = none := by
  unfold letterEscape?
  split <;> first | rfl | cases hdigit

/-- An octal digit after a backslash starts a number. -/
theorem readEscape_octalDigit {first : Char} {digit : Nat}
    (hfirst : octalDigit? first = some digit) (follow : Text) (offset : Nat) :
    readEscape false ⟨first :: follow, offset⟩ =
      if digit = 0 ∧ ¬StartsOctal follow then some ([0], ⟨follow, offset + 1⟩)
      else some ([(readOctal 2 digit follow (offset + 1)).1],
        (readOctal 2 digit follow (offset + 1)).2) := by
  have hne : ∀ char, octalDigit? char = none → first ≠ char := by
    rintro char hchar rfl
    rw [hfirst] at hchar
    cases hchar
  rw [readEscape_char false (hne 'x' rfl) (hne 'u' rfl) follow
    fun heq => absurd heq (hne '\r' rfl), letterEscape?_of_octalDigit? hfirst, hfirst,
    utf8Size_of_octalDigit? hfirst]
  simp [StartsOctal]

theorem StringEscape.read {escape : Text} {codes : List Nat} {follow : Text}
    (hescape : StringEscape escape codes follow) (offset : Nat) :
    readEscape false ⟨escape ++ follow, offset⟩ =
      some (codes, ⟨follow, offset + escape.byteSize⟩) := by
  cases hescape with
  | sequence hescape => exact hescape.read false offset
  | @octal first digit code digits follow hfirst hdigits =>
      have hread := hdigits.read (offset + 1)
      rw [List.cons_append, readEscape_octalDigit hfirst, hread, Text.byteSize_cons,
        utf8Size_of_octalDigit? hfirst, ← Nat.add_assoc, ite_eq_right_iff]
      rintro ⟨rfl, hstops⟩
      -- No digit follows the zero, so the number is zero, either way.
      cases hdigits with
      | stop => rfl
      | digit hdigit =>
          refine absurd ?_ hstops
          rw [StartsOctal, List.cons_append, List.head?_cons, Option.bind_some, hdigit]
          rfl

theorem readEscape_eq_of_not_startsOctal {chars : Text} (hoctal : ¬StartsOctal chars)
    (offset : Nat) : readEscape false ⟨chars, offset⟩ = readEscape true ⟨chars, offset⟩ := by
  unfold readEscape
  split <;> try rfl
  next char chars _ _ _ hchars =>
    have hdigit : octalDigit? char = none := by
      cases hchars
      simpa [StartsOctal] using hoctal
    rw [hdigit]
    cases letterEscape? char <;> rfl

/-- What is read as an escape in a string is one. -/
theorem stringEscape_of_read {chars : Text} {offset : Nat} {codes : List Nat} {after : Cursor}
    (hread : readEscape false ⟨chars, offset⟩ = some (codes, after)) :
    ∃ escape, chars = escape ++ after.rest ∧ StringEscape escape codes after.rest := by
  by_cases hoctal : StartsOctal chars
  · obtain ⟨digit, hdigit⟩ := Option.isSome_iff_exists.mp hoctal
    obtain ⟨first, hhead, hfirst⟩ := Option.bind_eq_some_iff.mp hdigit
    obtain ⟨follow, rfl⟩ := List.head?_eq_some_iff.mp hhead
    rw [readEscape_octalDigit hfirst] at hread
    split at hread
    · next hzero =>
        cases hread
        rw [hzero.1] at hfirst
        rw [eq_of_octalDigit?_eq_zero hfirst]
        exact ⟨['0'], rfl, .sequence (.zero hzero.2)⟩
    · obtain ⟨digits, code, rest, rfl, hdigits⟩ := exists_octalDigits 2 digit follow
      rw [hdigits.read] at hread
      cases hread
      exact ⟨first :: digits, rfl, .octal hfirst hdigits⟩
  · rw [readEscape_eq_of_not_startsOctal hoctal] at hread
    obtain ⟨escape, hchars, hescape⟩ := escapeSequence_of_read hread
    exact ⟨escape, hchars, .sequence hescape⟩

theorem OctalDigits.before {count value code : Nat} {digits follow other : Text}
    (hdigits : OctalDigits count value digits code follow)
    (hoctal : ∀ digit ∈ other.head?.bind octalDigit?, digit ∈ follow.head?.bind octalDigit?) :
    OctalDigits count value digits code other := by
  induction hdigits with
  | stop hstop => exact .stop fun digit hdigit => hstop digit (hoctal digit hdigit)
  | digit hdigit hbound _ ih => exact .digit hdigit hbound (ih hoctal)

/-- An escape stands before other text too, unless this makes it longer. -/
theorem StringEscape.before {escape : Text} {codes : List Nat} {follow other : Text}
    (hescape : StringEscape escape codes follow)
    (hhead : ∀ char ∈ other.head?,
      char ∈ follow.head? ∨ octalDigit? char = none ∧ char ≠ '\n') :
    StringEscape escape codes other := by
  have hoctal : ∀ digit ∈ other.head?.bind octalDigit?,
      digit ∈ follow.head?.bind octalDigit? := by
    intro digit hdigit
    obtain ⟨char, hchar, hdigit⟩ := Option.bind_eq_some_iff.mp hdigit
    rcases hhead char hchar with hfollow | ⟨hnone, -⟩
    · exact Option.bind_eq_some_iff.mpr ⟨char, hfollow, hdigit⟩
    · rw [hdigit] at hnone
      cases hnone
  cases hescape with
  | sequence hescape =>
      refine .sequence (hescape.before (fun hstarts => ?_) fun hfeed => ?_)
      · obtain ⟨digit, hdigit⟩ := Option.isSome_iff_exists.mp hstarts
        exact Option.isSome_iff_exists.mpr ⟨digit, hoctal digit hdigit⟩
      · exact (hhead '\n' hfeed).resolve_right fun hother => hother.2 rfl
  | octal hfirst hdigits => exact .octal hfirst (hdigits.before hoctal)

/-- The characters that may stand in an escape after its first one. -/
def IsEscapeTail (char : Char) : Prop :=
  (hexDigit? char).isSome = true ∨ char ∈ ['\x7b', '\x7d', '\n']

instance (char : Char) : Decidable (IsEscapeTail char) :=
  inferInstanceAs (Decidable ((hexDigit? char).isSome = true ∨ char ∈ ['\x7b', '\x7d', '\n']))

theorem hexDigit?_eq_none_of_isBlank {char : Char} (hblank : isBlank char = true) :
    hexDigit? char = none := by
  cases hdigit : hexDigit? char with
  | none => rfl
  | some digit =>
      have hrange : '0' ≤ char ∧ char ≤ 'f' := by
        unfold hexDigit? at hdigit
        split at hdigit
        · next hrange => exact ⟨hrange.1, Char.le_trans hrange.2 (by decide)⟩
        · split at hdigit
          · next hrange => exact ⟨Char.le_trans (by decide) hrange.1, hrange.2⟩
          · split at hdigit
            · next hrange =>
                exact ⟨Char.le_trans (by decide) hrange.1, Char.le_trans hrange.2 (by decide)⟩
            · cases hdigit
      have hlow : 48 ≤ char.toNat := hrange.1
      have hhigh : char.toNat ≤ 102 := hrange.2
      simp only [isBlank, Bool.or_eq_true, Bool.and_eq_true, decide_eq_true_eq,
        beq_iff_eq] at hblank
      omega

/-- Of the characters in an escape only the second half of a line break is blank. -/
theorem IsEscapeTail.eq_lineFeed {char : Char} (htail : IsEscapeTail char)
    (hblank : isBlank char = true) : char = '\n' := by
  rcases htail with hdigit | hmem
  · rw [hexDigit?_eq_none_of_isBlank hblank] at hdigit
    cases hdigit
  · simp only [List.mem_cons, List.not_mem_nil, or_false] at hmem
    rcases hmem with rfl | rfl | rfl
    · cases hblank
    · cases hblank
    · rfl

theorem IsEscapeTail.ofHexDigit {char : Char} {digit : Nat}
    (hdigit : hexDigit? char = some digit) : IsEscapeTail char :=
  Or.inl (Option.isSome_of_eq_some hdigit)

theorem IsEscapeTail.ofOctalDigit {char : Char} {digit : Nat}
    (hdigit : octalDigit? char = some digit) : IsEscapeTail char := by
  unfold octalDigit? at hdigit
  split at hdigit
  · next hrange =>
      have hdecimal : '0' ≤ char ∧ char ≤ '9' :=
        ⟨hrange.1, Char.le_trans hrange.2 (by decide)⟩
      exact .ofHexDigit (if_pos hdecimal)
  · cases hdigit

theorem BracedHex.isEscapeTail {value code : Nat} {chars : Text}
    (hchars : BracedHex value chars code) : ∀ char ∈ chars, IsEscapeTail char := by
  induction hchars with
  | close => exact List.forall_mem_singleton.mpr (by decide)
  | digit hdigit _ _ ih => exact List.forall_mem_cons.mpr ⟨.ofHexDigit hdigit, ih⟩

theorem EscapeSequence.exists_tail {escape : Text} {codes : List Nat} {follow : Text}
    (hescape : EscapeSequence escape codes follow) :
    ∃ first more, escape = first :: more ∧ ∀ char ∈ more, IsEscapeTail char := by
  cases hescape with
  | lineBreak => exact ⟨'\r', ['\n'], rfl, List.forall_mem_singleton.mpr (by decide)⟩
  | lineEnd | letter | zero | self => exact ⟨_, [], rfl, List.forall_mem_nil _⟩
  | hex hhigh hlow =>
      refine ⟨'x', _, rfl, List.forall_mem_cons.mpr ⟨.ofHexDigit hhigh, ?_⟩⟩
      exact List.forall_mem_singleton.mpr (.ofHexDigit hlow)
  | unicode hchars =>
      refine ⟨'u', _, rfl, ?_⟩
      cases hchars with
      | braced hchars => exact List.forall_mem_cons.mpr ⟨by decide, hchars.isEscapeTail⟩
      | four hfirst hsecond hthird hfourth =>
          simp only [List.forall_mem_cons]
          exact ⟨.ofHexDigit hfirst, .ofHexDigit hsecond, .ofHexDigit hthird,
            .ofHexDigit hfourth, List.forall_mem_nil _⟩

theorem OctalDigits.isEscapeTail {count value code : Nat} {digits follow : Text}
    (hdigits : OctalDigits count value digits code follow) :
    ∀ char ∈ digits, IsEscapeTail char := by
  induction hdigits with
  | stop => exact List.forall_mem_nil _
  | digit hdigit _ _ ih => exact List.forall_mem_cons.mpr ⟨.ofOctalDigit hdigit, ih⟩

section Measures

variable {escape : Text} {codes : List Nat} {follow : Text}

theorem StringEscape.exists_tail (hescape : StringEscape escape codes follow) :
    ∃ first more, escape = first :: more ∧ ∀ char ∈ more, IsEscapeTail char := by
  cases hescape with
  | sequence hescape => exact hescape.exists_tail
  | octal hfirst hdigits => exact ⟨_, _, rfl, hdigits.isEscapeTail⟩

/-- An escape stands for one code point at most. -/
theorem StringEscape.length_le (hescape : StringEscape escape codes follow) :
    codes.length ≤ escape.length := by
  obtain ⟨first, more, rfl, -⟩ := hescape.exists_tail
  refine Nat.le_trans ?_ (Nat.succ_le_succ (Nat.zero_le more.length))
  cases hescape with
  | sequence hescape => cases hescape <;> simp
  | octal => exact Nat.le_refl 1

/-- The marks at the two ends of a character reference. -/
def IsReferenceMark (mark : Char) : Prop := mark = '&' ∨ mark = ';'

/-- In an escape a mark stands for itself. -/
theorem StringEscape.count_le {mark : Char} (hmark : IsReferenceMark mark)
    (hescape : StringEscape escape codes follow) :
    escape.count mark ≤ codes.count mark.toNat := by
  have hlone : ∀ text offset, readEscape false ⟨mark :: text, offset⟩ =
      some ([mark.toNat], ⟨text, offset + mark.utf8Size⟩) := by
    rcases hmark with rfl | rfl <;> exact fun text offset => rfl
  have htail : ¬IsEscapeTail mark := by rcases hmark with rfl | rfl <;> decide
  obtain ⟨first, more, rfl, hmore⟩ := hescape.exists_tail
  have hnone : more.count mark = 0 :=
    List.count_eq_zero.mpr fun hmem => htail (hmore mark hmem)
  rw [List.count_cons, hnone, Nat.zero_add]
  split
  · next hfirst =>
      have hread := hescape.read 0
      rw [beq_iff_eq.mp hfirst, List.cons_append, hlone, Option.some.injEq,
        Prod.mk.injEq] at hread
      rw [← hread.1]
      exact List.count_pos_iff.mpr List.mem_cons_self
  · exact Nat.zero_le _

end Measures

end Syntax

end Untranslated
