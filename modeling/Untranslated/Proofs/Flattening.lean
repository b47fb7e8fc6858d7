import Untranslated.Proofs.MarkupText
import Untranslated.Proofs.Positions

/-!
# Flattened text

Flattening a text trims its lines, leaves out the ones that are blank and puts single
spaces between the rest.  What is proved here follows from how the lines that are left
of a text depend on its parts: those around a line feed are the ones before it and the
ones after it, and blanks at either end of the text change none of them.  So nothing
but blanks is lost, and what comes out is flat already.
-/

namespace Untranslated.Text

variable {text line front back : Text} {blank : Char}

/-- The characters of a text that are not blank, in their order. -/
def visible (text : Text) : Text := text.filter (!isBlank ·)

/-- The text with a carriage return before every line feed. -/
def withReturns (text : Text) : Text :=
  text.flatMap fun char => if char = '\n' then ['\r', '\n'] else [char]

/-- What flattening keeps of a text: its lines without the blanks around them, blank
lines left out. -/
def shownLines (text : Text) : List Text := (text.splitLines.map trim).filter (!·.isEmpty)

theorem flattenLines_eq (text : Text) :
    text.flattenLines = List.intercalate [' '] text.shownLines := by
  rw [flattenLines, filter_trim_contentLines]
  rfl

/-! ### Visible characters -/

theorem visible_append (front back : Text) :
    visible (front ++ back) = visible front ++ visible back :=
  List.filter_append front back

theorem visible_blank (hblank : isBlank blank = true) : visible [blank] = [] := by
  rw [visible, List.filter_cons_of_neg (by simp [hblank]), List.filter_nil]

/-- Trimming loses only blanks. -/
theorem visible_trim (text : Text) : visible text.trim = visible text := by
  apply view_trim
  · intro blank text hblank
    rw [← List.singleton_append, visible_append, visible_blank hblank, List.nil_append]
  · intro blank text hblank
    rw [visible_append, visible_blank hblank, List.append_nil]

/-! ### Lines that are kept -/

theorem splitLines_of_not_mem (hline : '\n' ∉ line) : line.splitLines = [line] := by
  induction line with
  | nil => rfl
  | cons char chars ih =>
      rw [List.mem_cons, not_or] at hline
      exact splitLines_cons_of_ne (Ne.symm hline.1) (ih hline.2)

theorem shownLines_of_not_mem (hline : '\n' ∉ line) :
    line.shownLines = [line.trim].filter (!·.isEmpty) := by
  rw [shownLines, splitLines_of_not_mem hline]
  rfl

/-- A line feed separates what is kept of the text before it and of the text after it. -/
theorem shownLines_append_break (front back : Text) :
    shownLines (front ++ '\n' :: back) = shownLines front ++ shownLines back := by
  rw [shownLines, splitLines_append_break, List.map_append, List.filter_append]
  rfl

theorem shownLines_visible (hline : line ∈ text.shownLines) :
    line ≠ [] ∧ line.VisibleEnds := by
  obtain ⟨hmem, hne⟩ := List.mem_filter.mp hline
  obtain ⟨whole, -, rfl⟩ := List.mem_map.mp hmem
  exact ⟨by simpa using hne, visibleEnds_trim whole⟩

/-- A text is a line, or a line with a line feed and a text after it. -/
@[elab_as_elim]
theorem lineInduction {motive : Text → Prop}
    (single : ∀ line, '\n' ∉ line → motive line)
    (more : ∀ line rest, '\n' ∉ line → motive rest → motive (line ++ '\n' :: rest))
    (text : Text) : motive text := by
  obtain ⟨rest, htext, hrest⟩ := exists_startsBreak_firstLine text
  have hline := not_mem_firstLine text
  rcases hrest with rfl | ⟨rest, rfl⟩
  · rw [htext, List.append_nil]
    exact single _ hline
  · have hshorter : rest.length < text.length := by
      rw [htext, List.length_append, List.length_cons]
      omega
    rw [htext]
    exact more _ _ hline (lineInduction single more rest)
termination_by text.length

theorem shownLines_blank_cons (hblank : isBlank blank = true) (text : Text) :
    shownLines (blank :: text) = shownLines text := by
  by_cases hfeed : blank = '\n'
  · rw [hfeed]
    exact shownLines_append_break [] text
  · induction text using lineInduction with
    | single line hline =>
        rw [shownLines_of_not_mem (List.not_mem_cons_of_ne_of_not_mem (Ne.symm hfeed) hline),
          shownLines_of_not_mem hline, trim_blank_cons hblank]
    | more line rest hline _ =>
        have hcons := List.not_mem_cons_of_ne_of_not_mem (Ne.symm hfeed) hline
        rw [← List.cons_append, shownLines_append_break, shownLines_append_break,
          shownLines_of_not_mem hcons, shownLines_of_not_mem hline, trim_blank_cons hblank]

theorem shownLines_append_blank (hblank : isBlank blank = true) (text : Text) :
    shownLines (text ++ [blank]) = shownLines text := by
  by_cases hfeed : blank = '\n'
  · have hnone : shownLines [] = [] := rfl
    rw [hfeed, shownLines_append_break, hnone, List.append_nil]
  · induction text using lineInduction with
    | single line hline =>
        have happend : '\n' ∉ line ++ [blank] := by simp [hline, Ne.symm hfeed]
        rw [shownLines_of_not_mem happend, shownLines_of_not_mem hline, trim_append_blank hblank]
    | more line rest _ ih =>
        rw [List.append_assoc, List.cons_append, shownLines_append_break,
          shownLines_append_break, ih]

/-- Blanks at the ends of a text are at the ends of lines. -/
theorem shownLines_trim (text : Text) : text.trim.shownLines = text.shownLines :=
  view_trim (fun _ text hblank => shownLines_blank_cons hblank text)
    (fun _ text hblank => shownLines_append_blank hblank text) text

theorem withReturns_of_not_mem (hline : '\n' ∉ line) : line.withReturns = line := by
  induction line with
  | nil => rfl
  | cons char chars ih =>
      rw [List.mem_cons, not_or] at hline
      rw [withReturns, List.flatMap_cons, if_neg (Ne.symm hline.1), ← withReturns, ih hline.2,
        List.singleton_append]

/-- A carriage return before a line feed is a blank at the end of a line. -/
theorem shownLines_withReturns (text : Text) :
    text.withReturns.shownLines = text.shownLines := by
  induction text using lineInduction with
  | single line hline => rw [withReturns_of_not_mem hline]
  | more line rest hline ih =>
      have hreturns : withReturns (line ++ '\n' :: rest) =
          (line ++ ['\r']) ++ '\n' :: rest.withReturns := by
        rw [withReturns, List.flatMap_append, ← withReturns, withReturns_of_not_mem hline,
          List.flatMap_cons, if_pos rfl, ← withReturns, List.append_assoc]
        rfl
      rw [hreturns, shownLines_append_break, shownLines_append_break, ih,
        shownLines_append_blank rfl]

/-! ### Joined lines -/

/-- Lines joined by a blank have the visible characters of each of them. -/
theorem visible_intercalate (hblank : isBlank blank = true) (lines : List Text) :
    visible (List.intercalate [blank] lines) = lines.flatMap visible := by
  induction lines with
  | nil => rfl
  | cons line lines ih =>
      cases lines with
      | nil => simp [List.intercalate]
      | cons next lines =>
          rw [List.intercalate_cons_cons, visible_append, visible_append, visible_blank hblank,
            List.append_nil, ih]
          rfl

theorem visible_flattenLines (text : Text) : visible text.flattenLines = visible text := by
  have hlines : text.splitLines.flatMap visible = visible text := by
    rw [← visible_intercalate (rfl : isBlank '\n' = true), intercalate_splitLines]
  have hshown : ∀ lines : List Text,
      ((lines.map trim).filter (!·.isEmpty)).flatMap visible = lines.flatMap visible := by
    intro lines
    induction lines with
    | nil => rfl
    | cons line lines ih =>
        rw [List.map_cons, List.filter_cons, List.flatMap_cons, ← visible_trim line, ← ih]
        cases line.trim <;> rfl
  rw [flattenLines_eq, visible_intercalate rfl, shownLines, hshown, hlines]

/-- A text has visible ends if its parts at both ends have. -/
theorem VisibleEnds.append (hfront : front.VisibleEnds) (hback : back.VisibleEnds)
    (hne : front ≠ []) (hne' : back ≠ []) (between : Text) :
    VisibleEnds (front ++ between ++ back) := by
  rintro char (hhead | hlast)
  · rw [List.append_assoc, List.head?_append_of_ne_nil _ hne] at hhead
    exact hfront char (.inl hhead)
  · rw [List.getLast?_append_of_ne_nil _ hne'] at hlast
    exact hback char (.inr hlast)

/-- Lines with visible ends, joined, have visible ends. -/
theorem visibleEnds_intercalate {separator : Text} {lines : List Text}
    (hlines : ∀ line ∈ lines, line ≠ [] ∧ line.VisibleEnds) :
    VisibleEnds (List.intercalate separator lines) := by
  induction lines with
  | nil =>
      rintro char (hhead | hlast)
      · cases hhead
      · cases hlast
  | cons line lines ih =>
      obtain ⟨⟨hne, hends⟩, hlines⟩ := List.forall_mem_cons.mp hlines
      cases lines with
      | nil => rwa [List.intercalate_singleton]
      | cons next lines =>
          obtain ⟨char, chars, hnext⟩ :=
            List.exists_cons_of_ne_nil (hlines next List.mem_cons_self).1
          have hrest : List.intercalate separator (next :: lines) ≠ [] := by
            rw [hnext, List.intercalate_cons_cons_left]
            exact List.cons_ne_nil _ _
          rw [List.intercalate_cons_cons]
          exact hends.append (ih hlines) hne hrest separator

theorem intercalate_append {separator : Text} {lines others : List Text} (hlines : lines ≠ [])
    (hothers : others ≠ []) : List.intercalate separator (lines ++ others) =
      List.intercalate separator lines ++ separator ++ List.intercalate separator others := by
  induction lines with
  | nil => exact absurd rfl hlines
  | cons line lines ih =>
      cases lines with
      | nil =>
          rw [List.singleton_append, List.intercalate_cons_of_ne_nil hothers,
            List.intercalate_singleton]
      | cons next lines =>
          have hne : next :: lines ++ others ≠ [] := by simp
          rw [List.cons_append, List.intercalate_cons_of_ne_nil hne, ih (List.cons_ne_nil _ _),
            List.intercalate_cons_cons]
          simp only [List.append_assoc]

/-! ### Flattened text -/

theorem visibleEnds_flattenLines (text : Text) : text.flattenLines.VisibleEnds := by
  rw [flattenLines_eq]
  exact visibleEnds_intercalate fun _ hline => shownLines_visible hline

theorem shownLines_ne_nil (htrim : text.trim ≠ []) : text.shownLines ≠ [] := by
  intro hnone
  have hvisible : text.visible = [] := by
    rw [← visible_flattenLines, flattenLines_eq, hnone]
    rfl
  exact htrim (trim_eq_nil_of_isBlank fun char hchar => by
    simpa using List.filter_eq_nil_iff.mp hvisible char hchar)

/-- A text that is on one line is trimmed. -/
theorem flattenLines_of_not_mem (hline : '\n' ∉ line) : line.flattenLines = line.trim := by
  rw [flattenLines_eq, shownLines_of_not_mem hline]
  cases line.trim with
  | nil => rfl
  | cons char chars => exact List.intercalate_singleton

/-- A line feed between two texts that are not blank becomes a space. -/
theorem flattenLines_append_break (hfront : front.trim ≠ []) (hback : back.trim ≠ []) :
    flattenLines (front ++ '\n' :: back) = front.flattenLines ++ ' ' :: back.flattenLines := by
  rw [flattenLines_eq front, flattenLines_eq back, flattenLines_eq, shownLines_append_break,
    intercalate_append (shownLines_ne_nil hfront) (shownLines_ne_nil hback), List.append_assoc]
  rfl

/-- Flattening puts a text on one line with visible ends, keeps its visible characters in their
order, and gives the same for texts that differ only in blanks at their ends or in carriage
returns before line feeds.  A text on one line is only trimmed, and other line feeds become
spaces, so that flattening twice is flattening once. -/
theorem flattenLines_normalises (text : Text) :
    let flat := text.flattenLines
    ('\n' ∉ flat ∧ flat.VisibleEnds) ∧ flat.visible = text.visible ∧
      (flat.flattenLines = flat ∧ text.trim.flattenLines = flat) ∧
      text.withReturns.flattenLines = flat ∧
      ('\n' ∉ text → flat = text.trim) ∧
      ∀ front back : Text, text = front ++ '\n' :: back → front.trim ≠ [] → back.trim ≠ [] →
        flat = front.flattenLines ++ ' ' :: back.flattenLines := by
  intro flat
  have hfeed : '\n' ∉ flat := not_mem_flattenLines text
  have hends : flat.VisibleEnds := visibleEnds_flattenLines text
  refine ⟨⟨hfeed, hends⟩, visible_flattenLines text, ⟨?_, ?_⟩, ?_, ?_, ?_⟩
  · rw [flattenLines_of_not_mem hfeed, hends.trim_eq]
  · rw [flattenLines_eq, shownLines_trim, ← flattenLines_eq]
  · rw [flattenLines_eq, shownLines_withReturns, ← flattenLines_eq]
  · exact fun hline => flattenLines_of_not_mem hline
  · rintro front back rfl hfront hback
    exact flattenLines_append_break hfront hback

/-- A carriage return inside a line is no line break. -/
example : flattenLines " \n да\rнет \t\r\n\n\u00A0ой\n".toList = "да\rнет ой".toList := by
  decide +kernel

end Untranslated.Text
