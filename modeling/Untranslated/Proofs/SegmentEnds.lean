import Mathlib.Data.List.Induction
import Untranslated.Proofs.LineBreaks
import Untranslated.Proofs.Quotation
import Untranslated.Proofs.Trimming

/-!
# Ends of trimmed segments

Trimming goes by blanks and does not know of escapes.  A segment that ends in an
escaped blank loses the blank and keeps the backslash, which then escapes the quote
that closes the string made of the segment.  This is the only way for trimming to
spoil the string: a segment of which no escape is cut open becomes a complete
literal, octal escapes and all.
-/

namespace Untranslated

namespace Text

open Syntax

/-- Whether a text ends with a backslash that escapes what comes next.  The flag says
that the character before is such a backslash. -/
def openAfter : Bool → Text → Bool
  | escaped, [] => escaped
  | escaped, char :: chars => openAfter (char == '\\' && !escaped) chars

def endsOpen (text : Text) : Bool := openAfter false text

/-- The number of backslashes at the end of a text. -/
def trailingBackslashes (text : Text) : Nat := (text.reverse.takeWhile (· == '\\')).length

theorem openAfter_append (escaped : Bool) (front back : Text) :
    openAfter escaped (front ++ back) = openAfter (openAfter escaped front) back := by
  induction front generalizing escaped with
  | nil => rfl
  | cons char front ih => exact ih _

/-- The last of a run of backslashes escapes if their number is odd. -/
theorem endsOpen_iff (text : Text) : endsOpen text = true ↔ text.trailingBackslashes % 2 = 1 := by
  induction text using List.reverseRecOn with
  | nil => simp [endsOpen, openAfter, trailingBackslashes]
  | append_singleton text char ih =>
      have hlast : endsOpen (text ++ [char]) = (char == '\\' && !endsOpen text) :=
        openAfter_append false text [char]
      by_cases hchar : char = '\\'
      · have hcount : trailingBackslashes (text ++ [char]) = trailingBackslashes text + 1 := by
          simp [trailingBackslashes, hchar]
        rw [hlast, hcount, hchar, beq_self_eq_true, Bool.true_and, Bool.not_eq_true',
          ← Bool.not_eq_true, ih]
        omega
      · simp [hlast, hchar, trailingBackslashes]

/-- Escaping opens and closes nothing. -/
theorem openAfter_escapeSegmentAfter (escaped : Bool) (text : Text) :
    openAfter escaped (escapeSegmentAfter escaped text) = openAfter escaped text := by
  induction text generalizing escaped with
  | nil => rfl
  | cons char text ih =>
      cases escaped with
      | true => simpa [escapeSegmentAfter, openAfter] using ih false
      | false =>
          by_cases hchar : char = '\'' ∨ char = '\n' ∨ char = '\r'
          · have hrest := ih false
            rcases hchar with rfl | rfl | rfl <;>
              simpa [escapeSegmentAfter, openAfter] using hrest
          · rw [not_or, not_or] at hchar
            simpa [escapeSegmentAfter, openAfter, hchar] using ih (char == '\\')

theorem endsOpen_append {plain : Text} (hplain : '\\' ∉ plain) (rest : Text) :
    endsOpen (plain ++ rest) = rest.endsOpen := by
  induction plain with
  | nil => rfl
  | cons char plain ih =>
      rw [List.mem_cons, not_or] at hplain
      have hflag : (char == '\\') = false := beq_eq_false_iff_ne.mpr (Ne.symm hplain.1)
      simpa [endsOpen, openAfter, hflag] using ih hplain.2

theorem endsOpen_cons {char : Char} (hchar : char ≠ '\\') (rest : Text) :
    endsOpen (char :: rest) = rest.endsOpen :=
  endsOpen_append (fun hmem => hchar (List.mem_singleton.mp hmem).symm) rest

/-- An escape closes what it opens. -/
theorem endsOpen_escape {first : Char} {more : Text} (hmore : ∀ char ∈ more, IsEscapeTail char)
    (rest : Text) : endsOpen ('\\' :: (first :: more ++ rest)) = rest.endsOpen := by
  have hplain : '\\' ∉ more := fun hmem => absurd (hmore _ hmem) (by decide)
  have hrest := endsOpen_append hplain rest
  simpa [endsOpen, openAfter] using hrest

end Text

namespace Syntax

theorem QuotedText.not_endsOpen {quote : Char} {body : Text} {codes : List Nat}
    (hbody : QuotedText quote body codes) : body.endsOpen = false := by
  induction hbody with
  | nil => rfl
  | @char char chars codes _ hplain _ ih =>
      have hescape : char ≠ '\\' := fun heq => hplain (heq ▸ List.mem_cons_self)
      rw [Text.endsOpen_cons hescape, ih]
  | escape hescape _ ih =>
      obtain ⟨first, more, rfl, hmore⟩ := hescape.exists_tail
      rw [Text.endsOpen_escape hmore, ih]

theorem TemplateText.not_endsOpen {raw : Text} {codes : List Nat}
    (hraw : TemplateText raw codes) : raw.endsOpen = false := by
  induction hraw with
  | nil => rfl
  | char hescape _ _ ih => rw [Text.endsOpen_cons hescape, ih]
  | lineBreak _ ih => rw [Text.endsOpen_cons (by decide), Text.endsOpen_cons (by decide), ih]
  | lineEnd _ _ ih => rw [Text.endsOpen_cons (by decide), ih]
  | escape hescape _ ih =>
      obtain ⟨first, more, rfl, hmore⟩ := hescape.exists_tail
      rw [Text.endsOpen_escape hmore, ih]

/-! ## Cutting a segment -/

/-- Blanks at the start belong to no escape. -/
theorem TemplateText.trimStart {raw : Text} {codes : List Nat} (hraw : TemplateText raw codes) :
    ∃ more, TemplateText raw.trimStart more := by
  induction hraw with
  | nil => exact ⟨[], .nil⟩
  | @char char chars codes hescape hreturn hchars ih =>
      by_cases hblank : isBlank char = true
      · rw [Text.trimStart, List.dropWhile_cons_of_pos hblank]
        exact ih
      · rw [Text.trimStart, List.dropWhile_cons_of_neg hblank]
        exact ⟨_, .char hescape hreturn hchars⟩
  | lineBreak _ ih => exact ih
  | lineEnd _ _ ih => exact ih
  | escape hescape hchars => exact ⟨_, .escape hescape hchars⟩

/-- An escape with a line feed after its first character is a line break. -/
theorem EscapeSequence.eq_of_mem_tail {first : Char} {more follow : Text} {codes : List Nat}
    (hescape : EscapeSequence (first :: more) codes follow) (hfeed : '\n' ∈ more) :
    first = '\r' ∧ more = ['\n'] := by
  obtain ⟨_, _, heq, hplain⟩ := hescape.exists_plain
  cases heq
  have hfirst : first = '\r' :=
    ((hplain _ hfeed).resolve_left (by decide)).1
  obtain ⟨-, hpair | ⟨hlone, -⟩⟩ := hescape.cases_of_mem (hfirst ▸ List.mem_cons_self)
  · exact List.cons.inj hpair
  · rw [(List.cons.inj hlone).2] at hfeed
    cases hfeed

/-- An escape stands before less text too. -/
theorem EscapeSequence.of_append {escape rest back : Text} {codes : List Nat}
    (hescape : EscapeSequence escape codes (rest ++ back)) :
    EscapeSequence escape codes rest := by
  have hhead : ∀ char ∈ rest.head?, (rest ++ back).head? = some char := by
    intro char hchar
    rw [List.head?_append, hchar, Option.some_or]
  refine hescape.before (fun hoctal => ?_) fun hfeed => hhead _ hfeed
  obtain ⟨digit, hdigit⟩ := Option.isSome_iff_exists.mp hoctal
  obtain ⟨char, hchar, hdigit⟩ := Option.bind_eq_some_iff.mp hdigit
  rw [StartsOctal, hhead char hchar]
  exact Option.isSome_of_eq_some hdigit

/-- A segment is still one without the blanks at its end, if none of them was escaped. -/
theorem TemplateText.of_append {front back : Text} {codes : List Nat}
    (hraw : TemplateText (front ++ back) codes)
    (hblank : ∀ char ∈ back, isBlank char = true) (hopen : front.endsOpen = false) :
    ∃ more, TemplateText front more := by
  generalize htext : front ++ back = text at hraw
  induction hraw generalizing front with
  | nil =>
      rw [(List.append_eq_nil_iff.mp htext).1]
      exact ⟨[], .nil⟩
  | char hescape hreturn _ ih =>
      cases front with
      | nil => exact ⟨[], .nil⟩
      | cons first front =>
          obtain ⟨rfl, hrest⟩ := List.cons.inj htext
          rw [Text.endsOpen_cons hescape] at hopen
          obtain ⟨more, hmore⟩ := ih hopen hrest
          exact ⟨_, .char hescape hreturn hmore⟩
  | lineBreak _ ih =>
      cases front with
      | nil => exact ⟨[], .nil⟩
      | cons first front =>
          obtain ⟨rfl, hrest⟩ := List.cons.inj htext
          cases front with
          | nil => exact ⟨_, .lineEnd (by decide) .nil⟩
          | cons second front =>
              obtain ⟨rfl, hfollow⟩ := List.cons.inj hrest
              rw [Text.endsOpen_cons (by decide), Text.endsOpen_cons (by decide)] at hopen
              obtain ⟨more, hmore⟩ := ih hopen hfollow
              exact ⟨_, .lineBreak hmore⟩
  | @lineEnd chars _ hfeed _ ih =>
      cases front with
      | nil => exact ⟨[], .nil⟩
      | cons first front =>
          obtain ⟨rfl, hrest⟩ := List.cons.inj htext
          rw [Text.endsOpen_cons (by decide)] at hopen
          obtain ⟨more, hmore⟩ := ih hopen hrest
          refine ⟨_, .lineEnd (fun hhead => hfeed ?_) hmore⟩
          obtain ⟨rest, rfl⟩ := List.head?_eq_some_iff.mp hhead
          rw [← hrest]
          rfl
  | @escape escape chars codes more hescape _ ih =>
      obtain ⟨second, tail, rfl, htail⟩ := hescape.exists_tail
      cases front with
      | nil => exact ⟨[], .nil⟩
      | cons first front =>
          obtain ⟨rfl, hrest⟩ := List.cons.inj htext
          cases front with
          | nil => cases hopen
          | cons first front =>
              obtain ⟨rfl, hfollow⟩ := List.cons.inj hrest
              rcases List.append_eq_append_iff.mp hfollow with ⟨cut, rfl, rfl⟩ | ⟨rest, rfl, rfl⟩
              · cases cut with
                | nil =>
                    rw [List.append_nil] at hescape
                    have hlone : EscapeSequence (first :: front) codes [] := hescape.of_append
                    refine ⟨codes ++ [], ?_⟩
                    simpa using TemplateText.escape hlone .nil
                | cons char cut =>
                    have hchar := (htail char (by simp)).eq_lineFeed (hblank char (by simp))
                    obtain ⟨rfl, hpair⟩ := hescape.eq_of_mem_tail (by simp [hchar])
                    cases front with
                    | nil => exact ⟨_, .escape (.ofReturn (by decide)) .nil⟩
                    | cons => simp at hpair
              · rw [← List.cons_append, Text.endsOpen_escape htail] at hopen
                obtain ⟨more, hmore⟩ := ih hopen rfl
                exact ⟨_, .escape hescape.of_append hmore⟩

/-! ## Escaping a segment -/

section Escaping

variable {text : Text} {value : List Nat}

/-- Digits that an octal number takes are lost to the rest of the string. -/
theorem OctalDigits.quotedText {quote : Char} {count number code : Nat} {digits follow : Text}
    (hdigits : OctalDigits count number digits code follow)
    (hbody : QuotedText quote (digits ++ follow) value) :
    ∃ more, QuotedText quote follow more := by
  induction hdigits generalizing value with
  | stop => exact ⟨value, hbody⟩
  | @digit count number digit code char digits follow hdigit _ _ ih =>
      have hescape : char ≠ '\\' := by
        rintro rfl
        cases hdigit
      obtain ⟨-, more, -, hmore⟩ := hbody.of_char hescape
      exact ih hmore

/-- An escape of a template before a string makes a string of the two: if it is a zero, it
may become the first digit of an octal number. -/
theorem EscapeSequence.exists_quotedText {quote : Char} {escape follow : Text}
    {codes : List Nat} (hescape : EscapeSequence escape codes follow) (hreturn : '\r' ∉ escape)
    (htext : QuotedText quote text value) :
    ∃ more, QuotedText quote ('\\' :: (escape ++ text)) more := by
  by_cases hoctal : escape = ['0'] ∧ StartsOctal text
  · obtain ⟨rfl, -⟩ := hoctal
    obtain ⟨digits, code, rest, rfl, hdigits⟩ := exists_octalDigits 2 0 text
    obtain ⟨more, hmore⟩ := hdigits.quotedText htext
    have hnumber : StringEscape ('0' :: digits) [code] rest := .octal rfl hdigits
    have hwhole := LiteralText.escape hnumber hmore
    exact ⟨_, hwhole⟩
  · have hsame := hescape.before_of_not_mem hreturn
      fun hzero hstarts => absurd ⟨hzero, hstarts⟩ hoctal
    exact ⟨_, .escape (.sequence hsame) htext⟩

/-- Escaping makes a string of every template segment. -/
theorem TemplateText.exists_quotedText {raw : Text} {codes : List Nat}
    (hraw : TemplateText raw codes) : ∃ value, QuotedText '\'' raw.escapeSegment value := by
  induction hraw with
  | nil => exact ⟨[], .nil⟩
  | @char char chars codes hescape hreturn hchars ih =>
      obtain ⟨value, hvalue⟩ := ih
      by_cases hquote : char = '\''
      · subst hquote
        exact ⟨_, hvalue.escapedQuote⟩
      · by_cases hfeed : char = '\n'
        · subst hfeed
          exact ⟨_, hvalue.lineFeed⟩
        · have hplain := isPlain_iff.mpr ⟨hescape, hquote, hfeed, hreturn⟩
          rw [Text.escapeSegment_char hplain]
          exact ⟨_, hplain.literalText hvalue⟩
  | lineBreak _ ih =>
      obtain ⟨value, hvalue⟩ := ih
      rw [Text.escapeSegment_pair]
      exact ⟨_, hvalue.lineFeed⟩
  | lineEnd _ _ ih =>
      rw [Text.escapeSegment_return]
      exact ih
  | @escape escape chars codes more hescape hchars ih =>
      obtain ⟨value, hvalue⟩ := ih
      by_cases hreturn : '\r' ∈ escape
      · obtain ⟨rfl, rfl | ⟨rfl, -⟩⟩ := hescape.cases_of_mem hreturn
        · rw [List.cons_append, List.cons_append, List.nil_append,
            Text.escapeSegment_escaped_pair]
          exact ⟨_, hvalue.lineFeed.escapedReturn (by simp)⟩
        · rw [List.singleton_append, Text.escapeSegment_escaped_return]
          exact ⟨_, hvalue.escapedReturn (Text.head?_escapeSegment_ne_lineFeed chars)⟩
      · rw [Text.escapeSegment_escape hescape hreturn]
        exact hescape.exists_quotedText hreturn hvalue

end Escaping

/-- A trimmed segment is a segment, if its last backslash is not left open. -/
theorem TemplateText.trim {raw : Text} {codes : List Nat} (hraw : TemplateText raw codes)
    (hopen : raw.trim.endsOpen = false) : ∃ more, TemplateText raw.trim more := by
  obtain ⟨codes, hstart⟩ := hraw.trimStart
  rw [← Text.trim_append_trailingBlanks] at hstart
  exact hstart.of_append (fun _ => Text.isBlank_of_mem_trailingBlanks) hopen

/-- The string made of a trimmed segment is complete exactly if the last backslash of the
trimmed text is escaped itself. -/
theorem exists_quotedText_trim_iff {raw : Text} {codes : List Nat}
    (hraw : TemplateText raw codes) :
    (∃ value, QuotedText '\'' raw.trim.escapeSegment value) ↔ raw.trim.endsOpen = false := by
  constructor
  · rintro ⟨value, hvalue⟩
    exact (Text.openAfter_escapeSegmentAfter false _).symm.trans hvalue.not_endsOpen
  · intro hopen
    obtain ⟨more, hmore⟩ := hraw.trim hopen
    exact hmore.exists_quotedText

/-- The call that replaces a template segment holds the trimmed text between single quotes.
This is a complete string literal, which ends where the call goes on, exactly if the number
of backslashes at the end of the trimmed text is even; and it is even unless a blank is cut
off there. -/
theorem readsAs_trimmed_segment_iff (raw : Text) (codes : List Nat)
    (hcooked : cook? raw = some codes) (name : String) :
    let literal := '\'' :: raw.trim.escapeSegment ++ ['\'']
    Placement.segment.wrap name raw.trim =
        '$' :: '\x7b' :: name.toList ++ ['('] ++ literal ++ [')', '\x7d'] ∧
      ((∃ value, ReadsAs literal value) ↔ raw.trim.trailingBackslashes % 2 = 0) ∧
      (raw.trailingBlanks = [] → raw.trim.trailingBackslashes % 2 = 0) := by
  intro literal
  have hraw := cook?_eq_some_iff.mp hcooked
  have heven : raw.trim.trailingBackslashes % 2 = 0 ↔ raw.trim.endsOpen = false := by
    rw [← Bool.not_eq_true, Text.endsOpen_iff, Nat.mod_two_not_eq_one]
  refine ⟨Placement.wrap_eq .segment name raw.trim, ?_, fun hnone => heven.mpr ?_⟩
  · simp only [literal, readsAs_iff (Or.inl rfl), heven]
    exact exists_quotedText_trim_iff hraw
  · obtain ⟨more, hmore⟩ := hraw.trimStart
    rw [← Text.trim_append_trailingBlanks, hnone, List.append_nil] at hmore
    exact hmore.not_endsOpen

/-- A segment with blanks around it, a quote, a run of backslashes at its end, and an escaped
zero that only a carriage return keeps apart from a digit. -/
def blankSegment : Text := " \nда\\0\r1 it's \\\\\t ".toList

theorem readsAs_trimmed_blankSegment :
    blankSegment.trim.trailingBackslashes = 2 ∧
      Placement.segment.wrap "t" blankSegment.trim =
        "$\x7bt('да\\01 it\\'s \\\\')\x7d".toList ∧
      ∃ value, ReadsAs "'да\\01 it\\'s \\\\'".toList value := by
  have hcooked : cook? blankSegment = some (" \nда\x00\n1 it's \\\t ".toList.map Char.toNat) := by
    decide +kernel
  have hcount : blankSegment.trim.trailingBackslashes = 2 := by decide +kernel
  have hliteral : '\'' :: blankSegment.trim.escapeSegment ++ ['\''] =
      "'да\\01 it\\'s \\\\'".toList := by
    decide +kernel
  obtain ⟨hwrap, hreads, -⟩ := readsAs_trimmed_segment_iff blankSegment _ hcooked "t"
  rw [hliteral] at hwrap hreads
  exact ⟨hcount, hwrap.trans (by decide +kernel), hreads.mpr (by rw [hcount])⟩

/-- Trimming cuts an escaped blank: the backslash is left, and escapes the closing quote. -/
theorem escaped_blank_cut :
    let raw : Text := "да\\ ".toList
    cook? raw = some ("да ".toList.map Char.toNat) ∧
      Placement.segment.wrap "i18n" raw.trim = "$\x7bi18n('да\\')\x7d".toList ∧
      ¬∃ value, ReadsAs "'да\\'".toList value := by
  intro raw
  have hcooked : cook? raw = some ("да ".toList.map Char.toNat) := by decide +kernel
  refine ⟨hcooked, by decide +kernel, ?_⟩
  rintro ⟨value, hreads⟩
  have hliteral : "'да\\'".toList = '\'' :: raw.trim.escapeSegment ++ ['\''] := by
    decide +kernel
  rw [hliteral, readsAs_iff (Or.inl rfl)] at hreads
  have hclosed := (exists_quotedText_trim_iff (cook?_eq_some_iff.mp hcooked)).mp ⟨value, hreads⟩
  exact absurd hclosed (by decide +kernel)

end Syntax

end Untranslated
