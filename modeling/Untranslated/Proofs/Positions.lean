import Untranslated.Edit.Hunk
import Untranslated.Proofs.Lines

/-!
# Positions and lines

Offsets count bytes, columns count characters and lines are told by line feeds.
This module says what a line index makes of an offset in terms of the text alone.
The line of any offset, also one inside a character or past the end, is the number
of line feed bytes before it, because no other character has that byte in it.  The
column of a place between characters is told by the length of the line so far, so
that positions come in the order of their offsets.  The lines that the index cuts
out by offsets are the pieces between the line feeds.
-/

namespace Untranslated

namespace Text

variable {text front back : Text}

/-! ### Bytes -/

/-- The byte of a line feed. -/
def lineFeed : UInt8 := 10

/-- The bytes of a text in UTF-8. -/
def bytes (text : Text) : List UInt8 := text.flatMap String.utf8EncodeChar

theorem code_of_lineFeed_mem {char : Char} (hmem : lineFeed ∈ String.utf8EncodeChar char) :
    char.val.toNat = 10 := by
  have hbyte (code : Nat) : lineFeed = UInt8.ofNat code ↔ code % 256 = 10 := by
    rw [eq_comm, UInt8.ofNat_eq_iff_mod_eq_toNat]
    rfl
  revert hmem
  -- All bytes of a character that has more than one are above 127.
  fun_cases String.utf8EncodeChar char
  all_goals
    simp only [List.mem_cons, List.not_mem_nil, or_false, hbyte]
    omega

theorem lineFeed_mem_utf8EncodeChar {char : Char} :
    lineFeed ∈ String.utf8EncodeChar char ↔ char = '\n' := by
  constructor
  · intro hmem
    exact Char.ext (UInt32.toNat_inj.mp (code_of_lineFeed_mem hmem))
  · rintro rfl
    decide

theorem bytes_append (front back : Text) : bytes (front ++ back) = bytes front ++ bytes back :=
  List.flatMap_append

theorem bytes_cons (char : Char) (text : Text) :
    bytes (char :: text) = String.utf8EncodeChar char ++ bytes text :=
  List.flatMap_cons

theorem length_bytes (text : Text) : (bytes text).length = byteSize text := by
  induction text with
  | nil => rfl
  | cons char chars ih =>
      rw [bytes_cons, List.length_append, String.length_utf8EncodeChar, ih, byteSize_cons]

theorem count_bytes (text : Text) : (bytes text).count lineFeed = breaks text := by
  induction text with
  | nil => rfl
  | cons char chars ih =>
      rw [bytes_cons, List.count_append, ih]
      by_cases hchar : char = '\n'
      · rw [hchar, breaks_cons_break, Nat.add_comm]
        rfl
      · rw [breaks_cons_of_ne hchar, List.count_eq_zero.mpr, Nat.zero_add]
        rwa [lineFeed_mem_utf8EncodeChar]

/-- Every offset lies at or inside the character after some front of the text, or past the end. -/
theorem exists_front_of_offset (text : Text) (offset : Nat) :
    ∃ front back, text = front ++ back ∧ byteSize front ≤ offset ∧
      ∀ char ∈ back.head?, offset < byteSize front + char.utf8Size := by
  induction text generalizing offset with
  | nil => exact ⟨[], [], rfl, Nat.zero_le offset, by simp⟩
  | cons char chars ih =>
      by_cases hinside : offset < char.utf8Size
      · refine ⟨[], char :: chars, rfl, Nat.zero_le offset, ?_⟩
        simpa using hinside
      · obtain ⟨front, back, rfl, hfront, hback⟩ := ih (offset - char.utf8Size)
        refine ⟨char :: front, back, rfl, ?_, ?_⟩
        · rw [byteSize_cons]
          omega
        · intro next hnext
          have := hback next hnext
          rw [byteSize_cons]
          omega

/-- A part of a character's bytes that is not all of them has no line feed. -/
theorem lineFeed_not_mem_take {char : Char} {count : Nat} (hcount : count < char.utf8Size) :
    lineFeed ∉ (String.utf8EncodeChar char).take count := by
  intro hmem
  have hchar := lineFeed_mem_utf8EncodeChar.mp (List.mem_of_mem_take hmem)
  have hnone : count = 0 := by
    rw [hchar] at hcount
    exact Nat.lt_one_iff.mp hcount
  simp [hnone] at hmem

theorem count_take_bytes {offset : Nat} (hfront : byteSize front ≤ offset)
    (hback : ∀ char ∈ back.head?, offset < byteSize front + char.utf8Size) :
    ((bytes (front ++ back)).take offset).count lineFeed = breaks front := by
  have hrest : lineFeed ∉ (bytes back).take (offset - byteSize front) := by
    cases back with
    | nil => simp [bytes]
    | cons char chars =>
        have hinside := hback char rfl
        rw [bytes_cons, List.take_append_of_le_length]
        · exact lineFeed_not_mem_take (by omega)
        · rw [String.length_utf8EncodeChar]
          omega
  rw [bytes_append, List.take_append, length_bytes, List.take_of_length_le, List.count_append,
    count_bytes, List.count_eq_zero.mpr hrest, Nat.add_zero]
  rwa [length_bytes]

/-! ### The line around a place -/

/-- What a text has before its first line feed. -/
def firstLine (text : Text) : Text := text.takeWhile (· ≠ '\n')

/-- What a text has after its last line feed. -/
def lastLine (text : Text) : Text := (firstLine text.reverse).reverse

theorem firstLine_of_not_mem (hfront : '\n' ∉ front) (back : Text) :
    firstLine (front ++ back) = front ++ firstLine back := by
  apply List.takeWhile_append_of_pos
  intro char hchar
  exact decide_eq_true fun hbreak => hfront (hbreak ▸ hchar)

theorem exists_startsBreak_firstLine (text : Text) :
    ∃ rest, text = firstLine text ++ rest ∧ StartsBreak rest := by
  refine ⟨text.dropWhile (· ≠ '\n'), List.takeWhile_append_dropWhile.symm, ?_⟩
  cases hrest : text.dropWhile (· ≠ '\n') with
  | nil => exact .inl rfl
  | cons char rest =>
      have hhead := List.head?_dropWhile_not (· ≠ '\n') text
      rw [hrest] at hhead
      exact .inr ⟨rest, by simpa using hhead⟩

theorem not_mem_firstLine (text : Text) : '\n' ∉ firstLine text := by
  intro hmem
  simpa using List.all_eq_true.mp List.all_takeWhile _ hmem

theorem not_mem_lastLine (text : Text) : '\n' ∉ lastLine text := by
  rw [lastLine, List.mem_reverse]
  exact not_mem_firstLine _

theorem breaks_eq_zero (hnone : '\n' ∉ text) : breaks text = 0 := List.count_eq_zero.mpr hnone

/-- A text is whole lines with its last line after them. -/
theorem exists_endsLine_lastLine (text : Text) :
    ∃ head, text = head ++ lastLine text ∧ EndsLine head ∧ breaks head = breaks text := by
  obtain ⟨rest, htext, hrest⟩ := exists_startsBreak_firstLine text.reverse
  have hsplit : text = rest.reverse ++ lastLine text := by
    rw [lastLine, ← List.reverse_append, ← htext, List.reverse_reverse]
  refine ⟨rest.reverse, hsplit, ?_, ?_⟩
  · rcases hrest with rfl | ⟨lines, rfl⟩
    · exact .inl rfl
    · exact .inr ⟨lines.reverse, List.reverse_cons⟩
  · have hbreaks := congrArg breaks hsplit
    rw [breaks_append, breaks_eq_zero (not_mem_lastLine text)] at hbreaks
    exact hbreaks.symm

theorem lastLine_append_of_not_mem (front : Text) (hback : '\n' ∉ back) :
    lastLine (front ++ back) = lastLine front ++ back := by
  rw [lastLine, List.reverse_append, firstLine_of_not_mem, List.reverse_append,
    List.reverse_reverse, lastLine]
  rwa [List.mem_reverse]

theorem getElem?_zero_splitLines (text : Text) : (splitLines text)[0]? = some (firstLine text) := by
  induction text with
  | nil => rfl
  | cons char chars ih =>
      by_cases hchar : char = '\n'
      · rw [splitLines, if_pos hchar, firstLine, List.takeWhile_cons_of_neg (by simp [hchar])]
        rfl
      · obtain ⟨line, lines, hsplit⟩ := List.exists_cons_of_ne_nil (splitLines_ne_nil chars)
        rw [hsplit, List.getElem?_cons_zero, Option.some.injEq] at ih
        rw [splitLines_cons_of_ne hchar hsplit, List.getElem?_cons_zero, ih, firstLine, firstLine,
          List.takeWhile_cons_of_pos (by simp [hchar])]

/-- The line that starts after whole lines reaches to the next line feed. -/
theorem getElem?_splitLines (hfront : EndsLine front) (back : Text) :
    (splitLines (front ++ back))[breaks front]? = some (firstLine back) := by
  rcases hfront with rfl | ⟨lines, rfl⟩
  · exact getElem?_zero_splitLines back
  · have hlength : (splitLines lines).length = breaks (lines ++ ['\n']) := by
      rw [length_splitLines, breaks_append, breaks_cons_break, breaks_nil]
    rw [List.append_assoc, List.singleton_append, splitLines_append_break, ← hlength,
      List.getElem?_append_right (Nat.le_refl _), Nat.sub_self, getElem?_zero_splitLines]

end Text

/-! ### Where an offset is -/

/-- One position comes before another: it is on an earlier line, or before it on the same line. -/
def Position.Precedes (left right : Position) : Prop :=
  left.line < right.line ∨ left.line = right.line ∧ left.column < right.column

namespace LineIndex

open Text

variable {text front back : Text} {offset : Nat}

/-- What a search for a key in a list in order may come back with: a place where the key is, or
else the place where it would have to be put. -/
inductive Searched (keys : List Nat) (key : Nat) : Except Nat Nat → Prop where
  | found {place : Nat} (hkey : keys[place]? = some key) : Searched keys key (.ok place)
  | missing {place : Nat} (hplace : place ≤ keys.length)
      (hbelow : ∀ other ∈ keys.take place, other < key)
      (habove : ∀ other ∈ keys.drop place, key < other) : Searched keys key (.error place)

/-- The line that the search for an offset among the starts of the lines tells; an offset that is
no start is on the line before the place where it would have to be put. -/
def lineFound? : Except Nat Nat → Option Nat
  | .ok line => some line
  | .error 0 => none
  | .error (next + 1) => some next

theorem startsAfter_increasing (offset : Nat) (text : Text) :
    (startsAfter offset text).Pairwise (· < ·) := by
  induction text generalizing offset with
  | nil => exact .nil
  | cons char chars ih =>
      rw [startsAfter]
      split
      · exact .cons (fun start => lt_of_mem_startsAfter) (ih _)
      · exact ih _

/-- The lines start one after the other. -/
theorem starts_increasing (text : Text) : (ofText text).starts.Pairwise (· < ·) :=
  .cons (fun _ => lt_of_mem_startsAfter) (startsAfter_increasing 0 text)

/-- Starts up to an offset, with later ones after them, are those that are counted for its line. -/
theorem lineOf_of_starts {index : LineIndex} {below above : List Nat}
    (hstarts : index.starts = below ++ above) (hbelow : ∀ start ∈ below, start ≤ offset)
    (habove : ∀ start ∈ above, offset < start) : index.lineOf offset = below.length - 1 := by
  have hnone : above.takeWhile (fun start => decide (start ≤ offset)) = [] := by
    cases above with
    | nil => rfl
    | cons start above =>
        have hstart := habove start List.mem_cons_self
        exact List.takeWhile_cons_of_neg (by simpa using hstart)
  rw [lineOf, hstarts, List.takeWhile_append_of_pos (by simpa using hbelow), hnone, List.append_nil]

/-- Some answer to a search for a key is right. -/
theorem exists_searched {keys : List Nat} (hkeys : keys.Pairwise (· < ·)) (key : Nat) :
    ∃ result, Searched keys key result := by
  induction keys with
  | nil => exact ⟨.error 0, .missing (Nat.le_refl 0) (by simp) (by simp)⟩
  | cons first keys ih =>
      obtain ⟨hfirst, hkeys⟩ := List.pairwise_cons.mp hkeys
      rcases Nat.lt_trichotomy key first with hlt | rfl | hgt
      · refine ⟨.error 0, .missing (Nat.zero_le _) (by simp) ?_⟩
        rw [List.drop_zero, List.forall_mem_cons]
        exact ⟨hlt, fun other hother => Nat.lt_trans hlt (hfirst other hother)⟩
      · exact ⟨.ok 0, .found rfl⟩
      · obtain ⟨result, hresult⟩ := ih hkeys
        cases hresult with
        | @found place hkey => exact ⟨.ok (place + 1), .found hkey⟩
        | @missing place hplace hbelow habove =>
            refine ⟨.error (place + 1), .missing (Nat.succ_le_succ hplace) ?_ habove⟩
            rw [List.take_succ_cons, List.forall_mem_cons]
            exact ⟨hgt, hbelow⟩

/-- The search for an offset tells its line, and never that there is none: the first line starts
at 0, so no offset would have to be put before it. -/
theorem lineFound?_of_searched {result : Except Nat Nat}
    (hsearched : Searched (ofText text).starts offset result) :
    lineFound? result = some ((ofText text).lineOf offset) := by
  have hincreasing := starts_increasing text
  cases hsearched with
  | @found place hkey =>
      obtain ⟨hplace, hget⟩ := List.getElem?_eq_some_iff.mp hkey
      have hsplit : (ofText text).starts =
          (ofText text).starts.take place ++ offset :: (ofText text).starts.drop (place + 1) := by
        rw [← hget, ← List.drop_eq_getElem_cons hplace, List.take_append_drop]
      rw [hsplit, List.pairwise_append, List.pairwise_cons] at hincreasing
      obtain ⟨-, ⟨habove, -⟩, hbefore⟩ := hincreasing
      rw [List.append_cons] at hsplit
      rw [lineOf_of_starts hsplit _ habove, List.length_append,
        List.length_take_of_le (Nat.le_of_lt hplace)]
      · rfl
      · rw [List.forall_mem_append, List.forall_mem_singleton]
        refine ⟨fun start hstart => ?_, Nat.le_refl _⟩
        exact Nat.le_of_lt (hbefore start hstart offset List.mem_cons_self)
  | @missing place hplace hbelow habove =>
      rw [lineOf_of_starts (List.take_append_drop place _).symm
        (fun start hstart => Nat.le_of_lt (hbelow start hstart)) habove,
        List.length_take_of_le hplace]
      cases place with
      | zero =>
          have hfirst : offset < 0 := habove 0 List.mem_cons_self
          exact absurd hfirst (Nat.not_lt_zero offset)
      | succ place => rfl

/-- The line of any offset is the number of line feed bytes before it. -/
theorem lineOf_eq_count (text : Text) (offset : Nat) :
    (ofText text).lineOf offset = ((bytes text).take offset).count lineFeed := by
  obtain ⟨front, back, rfl, hfront, hback⟩ := exists_front_of_offset text offset
  rw [lineOf_eq_breaks front back hfront hback, count_take_bytes hfront hback]

/-- The position of a place between characters: the line feeds before it, and the length of the
line so far. -/
theorem position_byteSize (front back : Text) :
    (ofText (front ++ back)).position (byteSize front) =
      ⟨breaks front + 1, (lastLine front).length + 1⟩ := by
  obtain ⟨head, hfront, hhead, hbreaks⟩ := exists_endsLine_lastLine front
  have hstart : (ofText (front ++ back)).lineStart? (breaks front) = some (byteSize head) := by
    rw [← hbreaks, hfront, List.append_assoc]
    exact lineStart?_breaks hhead _
  have hbefore :
      slice? (front ++ back) ⟨byteSize head, byteSize front⟩ = some (lastLine front) := by
    refine slice?_eq_some_iff.mpr ⟨head, back, ?_, rfl, ?_⟩
    · rw [← List.append_assoc, ← hfront]
    · rw [← byteSize_append, ← hfront]
  simp only [position, lineOf_byteSize, hstart, Option.getD_some]
  rw [show (ofText (front ++ back)).text = front ++ back from rfl, hbefore]
  rfl

/-- A text that goes on is at a later position. -/
theorem precedes_of_append {between : Text} (hbetween : between ≠ []) :
    (⟨breaks front + 1, (lastLine front).length + 1⟩ : Position).Precedes
      ⟨breaks (front ++ between) + 1, (lastLine (front ++ between)).length + 1⟩ := by
  by_cases hbreak : '\n' ∈ between
  · left
    have := List.count_pos_iff.mpr hbreak
    simp only [breaks_append]
    exact Nat.add_lt_add_right (Nat.lt_add_of_pos_right this) 1
  · right
    have := List.length_pos_iff.mpr hbetween
    rw [breaks_append, breaks_eq_zero hbreak, lastLine_append_of_not_mem front hbreak,
      List.length_append]
    exact ⟨rfl, by simp only; omega⟩

/-- The line of any offset is the number of line feed bytes before it, and every right answer to
the search for the offset gives this line.  A place between characters is on the line that the line
feeds before it make, in the column after the characters that follow the last of them, and its
position comes before that of every later place. -/
theorem positions_of_offsets (text : Text) :
    (∀ offset, (ofText text).lineOf offset = ((bytes text).take offset).count lineFeed ∧
      (∃ result, Searched (ofText text).starts offset result) ∧
      ∀ result, Searched (ofText text).starts offset result →
        lineFound? result = some ((ofText text).lineOf offset)) ∧
    (∀ offset front, slice? text ⟨0, offset⟩ = some front →
      (ofText text).position offset = ⟨1 + breaks front, 1 + (lastLine front).length⟩) ∧
    ∀ offset later front further, slice? text ⟨0, offset⟩ = some front →
      slice? text ⟨0, later⟩ = some further → offset < later →
      ((ofText text).position offset).Precedes ((ofText text).position later) := by
  refine ⟨fun offset => ⟨lineOf_eq_count text offset,
    exists_searched (starts_increasing text) offset, fun result => lineFound?_of_searched⟩, ?_, ?_⟩
  · intro offset front hslice
    obtain ⟨back, rfl, rfl⟩ := slice?_zero_eq_some_iff.mp hslice
    rw [position_byteSize, Nat.add_comm 1, Nat.add_comm 1]
  · intro offset later front further hslice hlater hlt
    obtain ⟨back, htext, rfl⟩ := slice?_zero_eq_some_iff.mp hslice
    obtain ⟨rest, hfurther, rfl⟩ := slice?_zero_eq_some_iff.mp hlater
    obtain ⟨between, rfl, -⟩ :=
      exists_append_of_byteSize_le (htext.symm.trans hfurther) (Nat.le_of_lt hlt)
    have hbetween : between ≠ [] := by
      rintro rfl
      simp at hlt
    have hposition := position_byteSize front back
    rw [← htext] at hposition
    rw [hposition, hfurther, position_byteSize]
    exact precedes_of_append hbetween

/-- A text with characters of one and of two bytes, and with both kinds of line break. -/
def mixedLines : Text := "ab\nстрока\r\nx".toList

/-- Offset 4 is inside the first character of the second line. -/
theorem positions_of_offsets_mixedLines :
    (Searched (ofText mixedLines).starts 4 (.error 2) ∧
      lineFound? (.error 2) = some ((ofText mixedLines).lineOf 4) ∧
      (ofText mixedLines).lineOf 4 = 1) ∧
    (slice? mixedLines ⟨0, 5⟩ = some "ab\nс".toList ∧
      (ofText mixedLines).position 5 = ⟨2, 2⟩) ∧
    slice? mixedLines ⟨0, 17⟩ = some "ab\nстрока\r\n".toList ∧
      ((ofText mixedLines).position 5).Precedes ((ofText mixedLines).position 17) := by
  obtain ⟨hlines, hposition, horder⟩ := positions_of_offsets mixedLines
  have hevaluated : (ofText mixedLines).starts = [0, 3, 17] ∧
      ((bytes mixedLines).take 4).count lineFeed = 1 ∧
      slice? mixedLines ⟨0, 5⟩ = some "ab\nс".toList ∧
      slice? mixedLines ⟨0, 17⟩ = some "ab\nстрока\r\n".toList := by
    decide +kernel
  obtain ⟨hstarts, hcount, hfront, hfurther⟩ := hevaluated
  have hsearched : Searched (ofText mixedLines).starts 4 (.error 2) := by
    rw [hstarts]
    exact .missing (by decide) (by decide) (by decide)
  obtain ⟨hline, -, hfound⟩ := hlines 4
  exact ⟨⟨hsearched, hfound _ hsearched, hline.trans hcount⟩, ⟨hfront, hposition 5 _ hfront⟩,
    hfurther, horder 5 17 _ _ hfront hfurther (by decide)⟩

/-! ### The lines of a text -/

/-- The part of the text from where a line starts to where it ends. -/
def lineSlice? (index : LineIndex) (line : Nat) : Option Text :=
  (index.lineStart? line).bind fun start => slice? index.text ⟨start, index.lineEnd line⟩

theorem lineText_eq_lineSlice? (index : LineIndex) (line : Nat) :
    index.lineText line = ((index.lineSlice? line).map dropCarriageReturn).getD [] := by
  rw [lineText, lineSlice?]
  cases index.lineStart? line <;> rfl

theorem lineCount_ofText (text : Text) : (ofText text).lineCount = breaks text + 1 := by
  rw [lineCount, ofText, List.length_cons, length_startsAfter]

/-- The line after whole lines is what stands before the next line feed. -/
theorem lineSlice?_breaks (hfront : EndsLine front) (back : Text) :
    (ofText (front ++ back)).lineSlice? (breaks front) = some (firstLine back) := by
  obtain ⟨rest, hback, hrest⟩ := exists_startsBreak_firstLine back
  have hend : (ofText (front ++ back)).lineEnd (breaks front) =
      byteSize front + byteSize (firstLine back) := by
    have hbreaks : breaks (front ++ firstLine back) = breaks front := by
      rw [breaks_append, breaks_eq_zero (not_mem_firstLine back), Nat.add_zero]
    rw [← byteSize_append, ← lineEnd_breaks (front ++ firstLine back) hrest, hbreaks,
      List.append_assoc, ← hback]
  rw [lineSlice?, lineStart?_breaks hfront, Option.bind_some, hend]
  exact slice?_eq_some_iff.mpr ⟨front, rest, congrArg (front ++ ·) hback, rfl, rfl⟩

/-- The lines of the index are the pieces between line feeds. -/
theorem lineSlice?_ofText (text : Text) (line : Nat) :
    (ofText text).lineSlice? line = (splitLines text)[line]? := by
  by_cases hline : line ≤ breaks text
  · obtain ⟨front, back, rfl, hfront, rfl⟩ := exists_endsLine hline
    rw [lineSlice?_breaks hfront, getElem?_splitLines hfront]
  · have hstart : (ofText text).lineStart? line = none := by
      apply List.getElem?_eq_none
      change (ofText text).lineCount ≤ line
      rw [lineCount_ofText]
      omega
    rw [lineSlice?, hstart, Option.bind_none, List.getElem?_eq_none]
    rw [length_splitLines]
    omega

theorem lineText_ofText (text : Text) (line : Nat) :
    (ofText text).lineText line = ((Text.lines text)[line]?).getD [] := by
  rw [lineText_eq_lineSlice?, lineSlice?_ofText, Text.lines, List.getElem?_map]

/-- A line index and the division of a text at its line feeds give the same lines: there is one
more than there are line feeds, nothing but the line feeds lies between them, and they are shown
alike.  A line that is not there is shown as an empty one. -/
theorem lines_agree (text : Text) :
    (ofText text).lineCount = breaks text + 1 ∧
    (∃ pieces : List Text, pieces.length = (ofText text).lineCount ∧
      (∀ line, (ofText text).lineSlice? line = pieces[line]?) ∧
      List.intercalate ['\n'] pieces = text) ∧
    (Text.lines text).length = (ofText text).lineCount ∧
    (∀ line, line < (ofText text).lineCount →
      (Text.lines text)[line]? = some ((ofText text).lineText line)) ∧
    ∀ line, (ofText text).lineCount ≤ line → (ofText text).lineText line = [] := by
  have hlength : (Text.lines text).length = (ofText text).lineCount := by
    rw [Text.lines, List.length_map, length_splitLines, lineCount_ofText]
  refine ⟨lineCount_ofText text, ⟨splitLines text, ?_, lineSlice?_ofText text,
    intercalate_splitLines text⟩, hlength, ?_, ?_⟩
  · rw [length_splitLines, lineCount_ofText]
  · intro line hline
    rw [← hlength] at hline
    rw [lineText_ofText, List.getElem?_eq_getElem hline, Option.getD_some]
  · intro line hline
    rw [← hlength] at hline
    rw [lineText_ofText, List.getElem?_eq_none hline, Option.getD_none]

/-- The second of three lines, shown without its carriage return, and the fourth. -/
theorem lines_agree_mixedLines :
    (ofText mixedLines).lineCount = 3 ∧
    (Text.lines mixedLines)[1]? = some ((ofText mixedLines).lineText 1) ∧
    (ofText mixedLines).lineText 1 = "строка".toList ∧
    (ofText mixedLines).lineText 3 = [] := by
  obtain ⟨-, -, -, hshown, habsent⟩ := lines_agree mixedLines
  have hevaluated : (ofText mixedLines).lineCount = 3 ∧
      (ofText mixedLines).lineText 1 = "строка".toList := by
    decide +kernel
  obtain ⟨hcount, hline⟩ := hevaluated
  exact ⟨hcount, hshown 1 (by rw [hcount]; decide), hline, habsent 3 (Nat.le_of_eq hcount)⟩

end LineIndex

end Untranslated
