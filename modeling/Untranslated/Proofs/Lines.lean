import Untranslated.Proofs.Slices
import Untranslated.Text.LineIndex

/-!
# Lines and line feeds

A line has no name but the number of line feeds before it.  This module ties
the three views of a text's lines together: the pieces between line feeds, the
offsets that a line index records, and the ways to cut a text in two where a
line starts or ends.
-/

namespace Untranslated

namespace Text

variable {text front back : Text}

/-- The number of line feeds in a text. -/
def breaks (text : Text) : Nat := text.count '\n'

/-- Whole lines: the text is empty or ends with a line feed. -/
def EndsLine (text : Text) : Prop := text = [] ∨ ∃ lines, text = lines ++ ['\n']

/-- A line ends before the text: it is empty or starts with a line feed. -/
def StartsBreak (text : Text) : Prop := text = [] ∨ ∃ rest, text = '\n' :: rest

@[simp] theorem breaks_nil : breaks [] = 0 := rfl

@[simp] theorem breaks_append (front back : Text) :
    breaks (front ++ back) = breaks front + breaks back :=
  List.count_append

@[simp] theorem breaks_cons_break (text : Text) :
    breaks ('\n' :: text) = breaks text + 1 :=
  List.count_cons_self

theorem breaks_cons_of_ne {char : Char} (hchar : char ≠ '\n') (text : Text) :
    breaks (char :: text) = breaks text :=
  List.count_cons_of_ne hchar

theorem splitLines_ne_nil (text : Text) : splitLines text ≠ [] := by
  cases text with
  | nil => simp [splitLines]
  | cons char chars =>
      rw [splitLines]
      split
      · simp
      · split <;> simp

theorem splitLines_cons_of_ne {char : Char} (hchar : char ≠ '\n')
    {line : Text} {lines : List Text} (hsplit : splitLines text = line :: lines) :
    splitLines (char :: text) = (char :: line) :: lines := by
  rw [splitLines, if_neg hchar, hsplit]

/-- The lines around a line feed are the lines before it and those after it. -/
theorem splitLines_append_break (front back : Text) :
    splitLines (front ++ '\n' :: back) = splitLines front ++ splitLines back := by
  induction front with
  | nil => simp [splitLines]
  | cons char chars ih =>
      by_cases hchar : char = '\n'
      · simp [splitLines, hchar, ih]
      · cases hsplit : splitLines chars with
        | nil => exact absurd hsplit (splitLines_ne_nil chars)
        | cons line lines =>
            rw [hsplit, List.cons_append] at ih
            rw [List.cons_append, splitLines_cons_of_ne hchar ih,
              splitLines_cons_of_ne hchar hsplit, List.cons_append]

theorem length_splitLines (text : Text) :
    (splitLines text).length = breaks text + 1 := by
  induction text with
  | nil => rfl
  | cons char chars ih =>
      by_cases hchar : char = '\n'
      · simp [splitLines, hchar, ih]
      · cases hsplit : splitLines chars with
        | nil => exact absurd hsplit (splitLines_ne_nil chars)
        | cons line lines =>
            rw [hsplit] at ih
            rw [splitLines_cons_of_ne hchar hsplit, breaks_cons_of_ne hchar]
            exact ih

/-- The lines of a text, joined by line feeds, are the text. -/
theorem intercalate_splitLines (text : Text) :
    List.intercalate ['\n'] (splitLines text) = text := by
  induction text with
  | nil => rfl
  | cons char chars ih =>
      obtain ⟨line, lines, hsplit⟩ := List.exists_cons_of_ne_nil (splitLines_ne_nil chars)
      rw [hsplit] at ih
      by_cases hchar : char = '\n'
      · rw [splitLines, if_pos hchar, hsplit, List.intercalate_cons_cons, ih, hchar]
        rfl
      · rw [splitLines_cons_of_ne hchar hsplit, ← ih]
        cases lines with
        | nil => simp [List.intercalate]
        | cons => rw [List.intercalate_cons_cons, List.intercalate_cons_cons]; rfl

/-- Every line has a place where it starts. -/
theorem exists_endsLine {line : Nat} (hline : line ≤ breaks text) :
    ∃ front back, text = front ++ back ∧ EndsLine front ∧
      breaks front = line := by
  induction text generalizing line with
  | nil => exact ⟨[], [], rfl, Or.inl rfl, (Nat.le_zero.mp hline).symm⟩
  | cons char chars ih =>
      cases line with
      | zero => exact ⟨[], char :: chars, rfl, Or.inl rfl, rfl⟩
      | succ line =>
          by_cases hchar : char = '\n'
          · rw [hchar, breaks_cons_break] at hline
            obtain ⟨front, back, rfl, hfront, hbreaks⟩ :=
              ih (Nat.le_of_succ_le_succ hline)
            refine ⟨'\n' :: front, back, by simp [hchar], Or.inr ?_, ?_⟩
            · rcases hfront with rfl | ⟨lines, rfl⟩
              · exact ⟨[], rfl⟩
              · exact ⟨'\n' :: lines, rfl⟩
            · rw [breaks_cons_break, hbreaks]
          · rw [breaks_cons_of_ne hchar] at hline
            obtain ⟨front, back, rfl, hfront, hbreaks⟩ := ih hline
            rcases hfront with rfl | ⟨lines, rfl⟩
            · cases hbreaks
            · refine ⟨char :: (lines ++ ['\n']), back, rfl,
                Or.inr ⟨char :: lines, rfl⟩, ?_⟩
              rwa [breaks_cons_of_ne hchar]

/-- Every line has a place where it ends. -/
theorem exists_startsBreak {line : Nat} (hline : line ≤ breaks text) :
    ∃ front back, text = front ++ back ∧ StartsBreak back ∧
      breaks front = line := by
  induction text generalizing line with
  | nil => exact ⟨[], [], rfl, Or.inl rfl, (Nat.le_zero.mp hline).symm⟩
  | cons char chars ih =>
      by_cases hchar : char = '\n'
      · cases line with
        | zero => exact ⟨[], char :: chars, rfl, Or.inr ⟨chars, by rw [hchar]⟩, rfl⟩
        | succ line =>
            rw [hchar, breaks_cons_break] at hline
            obtain ⟨front, back, rfl, hback, hbreaks⟩ :=
              ih (Nat.le_of_succ_le_succ hline)
            refine ⟨'\n' :: front, back, by simp [hchar], hback, ?_⟩
            rw [breaks_cons_break, hbreaks]
      · rw [breaks_cons_of_ne hchar] at hline
        obtain ⟨front, back, rfl, hback, hbreaks⟩ := ih hline
        refine ⟨char :: front, back, rfl, hback, ?_⟩
        rwa [breaks_cons_of_ne hchar]

section Compare

variable {front' back' : Text} (htext : front ++ back = front' ++ back')

include htext

/-- Whole lines start every front that has as many line feeds. -/
theorem byteSize_le_of_endsLine (hfront : EndsLine front)
    (hbreaks : breaks front ≤ breaks front') :
    byteSize front ≤ byteSize front' := by
  apply Nat.le_of_not_lt
  intro hlt
  obtain ⟨between, rfl, -⟩ := exists_append_of_byteSize_le htext.symm (Nat.le_of_lt hlt)
  have hnone : breaks between = 0 := by
    rw [breaks_append] at hbreaks
    omega
  rcases hfront with hnil | ⟨lines, hlines⟩
  · rw [hnil] at hlt
    cases hlt
  · rcases List.eq_nil_or_concat between with rfl | ⟨init, last, rfl⟩
    · simp at hlt
    · rw [List.concat_eq_append, ← List.append_assoc] at hlines
      have hlast : last = '\n' := by
        simpa using (List.append_inj' hlines rfl).2
      simp [hlast] at hnone

/-- What ends where a line ends holds every front without more line feeds. -/
theorem byteSize_le_of_startsBreak (hback : StartsBreak back')
    (hbreaks : breaks front ≤ breaks front') :
    byteSize front ≤ byteSize front' := by
  apply Nat.le_of_not_lt
  intro hlt
  obtain ⟨between, rfl, hbetween⟩ :=
    exists_append_of_byteSize_le htext.symm (Nat.le_of_lt hlt)
  have hnone : breaks between = 0 := by
    rw [breaks_append] at hbreaks
    omega
  cases between with
  | nil => simp at hlt
  | cons char chars =>
      rcases hback with rfl | ⟨rest, rfl⟩
      · cases hbetween
      · rw [List.cons_append, List.cons.injEq] at hbetween
        simp [← hbetween.1] at hnone

end Compare

end Text

namespace LineIndex

open Text

theorem startsAfter_append (offset : Nat) (front back : Text) :
    startsAfter offset (front ++ back) =
      startsAfter offset front ++ startsAfter (offset + byteSize front) back := by
  induction front generalizing offset with
  | nil => simp [startsAfter]
  | cons char chars ih =>
      by_cases hchar : char = '\n'
      · simp [startsAfter, hchar, ih, Nat.add_assoc]
      · simp [startsAfter, hchar, ih, Nat.add_assoc]

theorem length_startsAfter (offset : Nat) (text : Text) :
    (startsAfter offset text).length = breaks text := by
  induction text generalizing offset with
  | nil => rfl
  | cons char chars ih =>
      by_cases hchar : char = '\n'
      · simp [startsAfter, hchar, ih]
      · simp [startsAfter, hchar, ih, breaks_cons_of_ne]

/-- Lines start after the first character of a text and not beyond its end. -/
theorem mem_startsAfter {offset start : Nat} {text : Text}
    (hstart : start ∈ startsAfter offset text) :
    start ≤ offset + byteSize text ∧
      ∀ char ∈ text.head?, offset + char.utf8Size ≤ start := by
  induction text generalizing offset with
  | nil => simp [startsAfter] at hstart
  | cons char chars ih =>
      have hcases : start = offset + char.utf8Size ∨
          start ∈ startsAfter (offset + char.utf8Size) chars := by
        by_cases hchar : char = '\n'
        · simpa [startsAfter, hchar] using hstart
        · exact Or.inr (by simpa [startsAfter, hchar] using hstart)
      rcases hcases with rfl | hmem
      · simp
      · obtain ⟨hle, hhead⟩ := ih hmem
        have hfirst : offset + char.utf8Size ≤ start := by
          cases chars with
          | nil => simp [startsAfter] at hmem
          | cons next rest =>
              have := hhead next rfl
              omega
        simp only [byteSize_cons, List.head?_cons, Option.mem_def,
          Option.some.injEq, forall_eq']
        omega

theorem lt_of_mem_startsAfter {offset start : Nat} {text : Text}
    (hstart : start ∈ startsAfter offset text) : offset < start := by
  cases text with
  | nil => simp [startsAfter] at hstart
  | cons char chars =>
      have hsize := char.utf8Size_pos
      have hle := (mem_startsAfter hstart).2 char rfl
      omega

/-- The line of an offset that lies at or inside the first character after a
front is the number of line feeds in the front. -/
theorem lineOf_eq_breaks {offset : Nat} (front back : Text)
    (hfront : byteSize front ≤ offset)
    (hback : ∀ char ∈ back.head?, offset < byteSize front + char.utf8Size) :
    (ofText (front ++ back)).lineOf offset = breaks front := by
  have hbefore : ∀ start ∈ startsAfter 0 front, decide (start ≤ offset) = true := by
    intro start hstart
    have := (mem_startsAfter hstart).1
    exact decide_eq_true (by omega)
  have hafter : (startsAfter (0 + byteSize front) back).takeWhile
      (fun start => decide (start ≤ offset)) = [] := by
    cases hstarts : startsAfter (0 + byteSize front) back with
    | nil => rfl
    | cons start starts =>
        have hmem : start ∈ startsAfter (0 + byteSize front) back := by
          rw [hstarts]
          exact List.mem_cons_self
        cases back with
        | nil => simp [startsAfter] at hmem
        | cons char chars =>
            have hstart := (mem_startsAfter hmem).2 char rfl
            have hoffset := hback char rfl
            rw [List.takeWhile_cons_of_neg]
            simp only [decide_eq_true_eq]
            omega
  rw [lineOf, ofText, List.takeWhile_cons_of_pos (by simp), startsAfter_append,
    List.takeWhile_append_of_pos hbefore, hafter, List.append_nil,
    List.length_cons, Nat.add_sub_cancel, length_startsAfter]

/-- The line of a place between characters. -/
theorem lineOf_byteSize (front back : Text) :
    (ofText (front ++ back)).lineOf (byteSize front) = breaks front := by
  apply lineOf_eq_breaks front back (Nat.le_refl _)
  intro char _
  have := char.utf8Size_pos
  omega

/-- Whole lines end where the next line starts. -/
theorem lineStart?_breaks {front : Text} (hfront : EndsLine front) (back : Text) :
    (ofText (front ++ back)).lineStart? (breaks front) = some (byteSize front) := by
  rcases hfront with rfl | ⟨lines, rfl⟩
  · rfl
  · have hlength := length_startsAfter 0 lines
    have hbreaks : breaks (lines ++ ['\n']) = breaks lines + 1 := by simp
    rw [lineStart?, ofText, startsAfter_append, startsAfter_append, hbreaks,
      List.getElem?_cons_succ, List.append_assoc,
      List.getElem?_append_right (by omega), hlength, Nat.sub_self]
    simp [startsAfter]

/-- A line ends before its line feed, or with the text. -/
theorem lineEnd_breaks (front : Text) {back : Text} (hback : StartsBreak back) :
    (ofText (front ++ back)).lineEnd (breaks front) = byteSize front := by
  rcases hback with rfl | ⟨rest, rfl⟩
  · have hnone : (ofText (front ++ [])).lineStart? (breaks front + 1) = none := by
      rw [lineStart?, ofText, List.append_nil]
      apply List.getElem?_eq_none
      apply Nat.le_of_eq
      rw [List.length_cons, length_startsAfter]
    rw [lineEnd, hnone]
    simp [ofText]
  · have hnext := lineStart?_breaks (Or.inr ⟨front, rfl⟩) rest
    rw [breaks_append, breaks_cons_break, breaks_nil, List.append_assoc,
      List.singleton_append] at hnext
    have hsize : Char.utf8Size '\n' = 1 := by decide
    rw [lineEnd, hnext]
    simp [hsize]

end LineIndex

end Untranslated
