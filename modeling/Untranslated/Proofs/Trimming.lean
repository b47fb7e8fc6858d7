import Untranslated.Proofs.Slices

/-!
# Trimming and searching

What is left of a text when the blanks around it are dropped: a part of the
text with only blanks on either side, which itself neither starts nor ends with
a blank.  Searching a text for a part of it succeeds, and what is found is an
occurrence.
-/

namespace Untranslated.Text

variable {text needle : Text} {offset : Nat} {blank : Char}

/-- The blanks that trimming drops from the start. -/
def leadingBlanks (text : Text) : Text := text.takeWhile isBlank

/-- The blanks that trimming drops from the end, once those at the start are
dropped. -/
def trailingBlanks (text : Text) : Text :=
  ((trimStart text).reverse.takeWhile isBlank).reverse

theorem isBlank_of_mem_leadingBlanks {char : Char}
    (hchar : char ∈ leadingBlanks text) : isBlank char = true :=
  List.all_eq_true.mp List.all_takeWhile char hchar

theorem isBlank_of_mem_trailingBlanks {char : Char}
    (hchar : char ∈ trailingBlanks text) : isBlank char = true :=
  List.all_eq_true.mp List.all_takeWhile char (List.mem_reverse.mp hchar)

theorem trim_append_trailingBlanks (text : Text) :
    trim text ++ trailingBlanks text = trimStart text := by
  rw [trim, trimEnd, trailingBlanks, ← List.reverse_append,
    List.takeWhile_append_dropWhile, List.reverse_reverse]

/-- A text is its trimmed part with blanks around it. -/
theorem leadingBlanks_append (text : Text) :
    leadingBlanks text ++ (trim text ++ trailingBlanks text) = text := by
  rw [trim_append_trailingBlanks]
  exact List.takeWhile_append_dropWhile

/-- What blanks at the two ends of a text do not change, trimming does not change. -/
theorem view_trim {α : Type} {view : Text → α}
    (hstart : ∀ blank text, isBlank blank = true → view (blank :: text) = view text)
    (hstop : ∀ blank text, isBlank blank = true → view (text ++ [blank]) = view text)
    (text : Text) : view (trim text) = view text := by
  have hleading : ∀ blanks rest, (∀ char ∈ blanks, isBlank char = true) →
      view (blanks ++ rest) = view rest := by
    intro blanks rest hblanks
    induction blanks with
    | nil => rfl
    | cons blank blanks ih =>
        obtain ⟨hblank, hblanks⟩ := List.forall_mem_cons.mp hblanks
        rw [List.cons_append, hstart _ _ hblank, ih hblanks]
  have htrailing : ∀ blanks rest, (∀ char ∈ blanks, isBlank char = true) →
      view (rest ++ blanks) = view rest := by
    intro blanks rest hblanks
    induction blanks generalizing rest with
    | nil => rw [List.append_nil]
    | cons blank blanks ih =>
        obtain ⟨hblank, hblanks⟩ := List.forall_mem_cons.mp hblanks
        rw [List.append_cons, ih _ hblanks, hstop _ _ hblank]
  calc view (trim text)
    _ = view (trim text ++ trailingBlanks text) :=
        (htrailing _ _ fun _ => isBlank_of_mem_trailingBlanks).symm
    _ = view (leadingBlanks text ++ (trim text ++ trailingBlanks text)) :=
        (hleading _ _ fun _ => isBlank_of_mem_leadingBlanks).symm
    _ = view text := by rw [leadingBlanks_append]

/-- Nothing is left of blanks. -/
theorem trim_eq_nil_of_isBlank (hblank : ∀ char ∈ text, isBlank char = true) :
    trim text = [] := by
  have hstart : trimStart text = [] := by
    rw [trimStart, ← List.append_nil text, List.dropWhile_append_of_pos hblank]
    rfl
  rw [trim, hstart]
  rfl

/-- What is left after trimming does not start with a blank. -/
theorem isBlank_head?_trim {char : Char}
    (hhead : (trim text).head? = some char) : isBlank char = false := by
  have hstart := List.head?_dropWhile_not isBlank text
  have hsame : (trimStart text).head? = some char := by
    rw [← trim_append_trailingBlanks, List.head?_append, hhead, Option.some_or]
  rw [trimStart] at hsame
  simpa [hsame] using hstart

/-- What is left after trimming does not end with a blank. -/
theorem isBlank_getLast?_trim {char : Char}
    (hlast : (trim text).getLast? = some char) : isBlank char = false := by
  have hhead := List.head?_dropWhile_not isBlank (trimStart text).reverse
  rw [trim, trimEnd, List.getLast?_reverse] at hlast
  simpa [hlast] using hhead

/-- Neither the first nor the last character is a blank. -/
def VisibleEnds (text : Text) : Prop :=
  ∀ char, text.head? = some char ∨ text.getLast? = some char → isBlank char = false

theorem visibleEnds_trim (text : Text) : text.trim.VisibleEnds := by
  rintro char (hhead | hlast)
  · exact isBlank_head?_trim hhead
  · exact isBlank_getLast?_trim hlast

/-- There is nothing to trim where neither end is blank. -/
theorem VisibleEnds.trim_eq (hends : text.VisibleEnds) : text.trim = text := by
  have hstart : text.trimStart = text := by
    cases text with
    | nil => rfl
    | cons char chars =>
        exact List.dropWhile_cons_of_neg (by simp [hends char (.inl rfl)])
  rw [trim, hstart, trimEnd]
  cases hreverse : text.reverse with
  | nil => rw [List.reverse_eq_nil_iff.mp hreverse]; rfl
  | cons char chars =>
      have hlast : text.getLast? = some char := by
        rw [← List.head?_reverse, hreverse, List.head?_cons]
      rw [List.dropWhile_cons_of_neg (by simp [hends char (.inr hlast)]), ← hreverse,
        List.reverse_reverse]

theorem trim_blank_cons (hblank : isBlank blank = true) (text : Text) :
    trim (blank :: text) = trim text := by
  rw [trim, trimStart, List.dropWhile_cons_of_pos hblank]
  rfl

theorem trim_append_blank (hblank : isBlank blank = true) (text : Text) :
    trim (text ++ [blank]) = trim text := by
  rw [trim, trim, trimStart, trimStart, List.dropWhile_append]
  split
  · next hempty =>
      rw [List.isEmpty_iff.mp hempty, List.dropWhile_cons_of_pos hblank, List.dropWhile_nil]
  · rw [trimEnd, List.reverse_append, List.reverse_singleton, List.singleton_append,
      List.dropWhile_cons_of_pos hblank]
    rfl

/-- The carriage return at the end of a line is a blank. -/
theorem trim_dropCarriageReturn (line : Text) : trim (dropCarriageReturn line) = trim line := by
  unfold dropCarriageReturn
  split
  · next hlast =>
      obtain ⟨front, rfl⟩ := List.getLast?_eq_some_iff.mp hlast
      rw [List.dropLast_concat, trim_append_blank rfl]
  · rfl

/-- What ends lines is lost on those that are trimmed, and so is a last line without text. -/
theorem filter_trim_contentLines (text : Text) :
    (text.contentLines.map trim).filter (!·.isEmpty) =
      (text.splitLines.map trim).filter (!·.isEmpty) := by
  simp only [contentLines]
  rcases List.eq_nil_or_concat text.splitLines with hpieces | ⟨front, last, hpieces⟩
  · rw [hpieces]
    rfl
  · have hfront : (front.map dropCarriageReturn).map trim = front.map trim := by
      rw [List.map_map]
      exact List.map_congr_left fun line _ => trim_dropCarriageReturn line
    rw [hpieces, List.concat_eq_append, List.dropLast_concat, List.getLast?_concat,
      List.map_append, List.map_append, hfront, List.filter_append, List.filter_append]
    cases last with
    | nil => rfl
    | cons char chars => rfl

/-- What is found is an occurrence. -/
theorem find?_eq_append (hfind : find? needle text = some offset) :
    ∃ before after, text = before ++ (needle ++ after) ∧
      byteSize before = offset := by
  induction text generalizing offset with
  | nil =>
      simp only [find?, List.isEmpty_iff] at hfind
      by_cases hneedle : needle = []
      · subst needle
        exact ⟨[], [], rfl, by simpa using hfind⟩
      · simp [hneedle] at hfind
  | cons char chars ih =>
      rw [find?] at hfind
      split at hfind
      · rename_i hprefix
        obtain ⟨after, hafter⟩ := List.isPrefixOf_iff_prefix.mp hprefix
        exact ⟨[], after, by simpa using hafter.symm, by simpa using hfind⟩
      · obtain ⟨found, hfound, rfl⟩ := Option.map_eq_some_iff.mp hfind
        obtain ⟨before, after, rfl, rfl⟩ := ih hfound
        exact ⟨char :: before, after, rfl, rfl⟩

/-- What does not start with a blank is found after blanks. -/
theorem find?_blanks_append {blanks : Text} (after : Text)
    (hblanks : ∀ char ∈ blanks, isBlank char = true)
    (hneedle : ∀ char ∈ needle.head?, isBlank char = false) (hne : needle ≠ []) :
    find? needle (blanks ++ (needle ++ after)) = some (byteSize blanks) := by
  obtain ⟨first, rest, rfl⟩ := List.exists_cons_of_ne_nil hne
  induction blanks with
  | nil => simp [find?]
  | cons char chars ih =>
      have hdiffer : (first == char) = false := by
        apply beq_eq_false_iff_ne.mpr
        rintro rfl
        have hblank := hblanks first (by simp)
        rw [hneedle first rfl] at hblank
        cases hblank
      have hfound := ih fun other hother => hblanks other (by simp [hother])
      rw [List.cons_append, find?, hfound]
      simp [List.isPrefixOf, hdiffer]

/-- Trimming leaves what is found after the blanks at the start. -/
theorem find?_trim (hne : trim text ≠ []) :
    find? (trim text) text = some (byteSize (leadingBlanks text)) := by
  have hblanks : ∀ char ∈ leadingBlanks text, isBlank char = true :=
    fun char hchar => isBlank_of_mem_leadingBlanks hchar
  have hfound := find?_blanks_append (trailingBlanks text) hblanks
    (fun char hchar => isBlank_head?_trim hchar) hne
  rwa [leadingBlanks_append] at hfound

end Untranslated.Text
