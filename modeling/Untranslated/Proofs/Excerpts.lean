import Untranslated.Proofs.Positions
import Untranslated.Proofs.TrimmedRanges
import Untranslated.Report.Layout

/-!
# Where reports point

A report shows the line that a literal starts on and a caret below it.  The line and
the column are found from a byte offset, the shown line is cut out by other offsets and
loses a carriage return, and the caret is padded by the width of so many characters of
it.  Here it is proved that these agree: what the shown line has from the column on
starts with the literal, and the caret stands below its first character.
-/

namespace Untranslated

namespace Text

variable {before rest front back literal : Text}

/-! ### Lines as they are shown -/

theorem dropCarriageReturn_append (before : Text) (hrest : rest ≠ []) :
    dropCarriageReturn (before ++ rest) = before ++ dropCarriageReturn rest := by
  have hlast : (before ++ rest).getLast? = rest.getLast? := by
    rw [List.getLast?_append, List.getLast?_eq_some_getLast hrest]
    rfl
  rw [dropCarriageReturn, dropCarriageReturn, hlast, List.dropLast_append_of_ne_nil hrest]
  split <;> rfl

theorem dropCarriageReturn_isPrefix (text : Text) : dropCarriageReturn text <+: text := by
  rw [dropCarriageReturn]
  split
  · exact List.dropLast_prefix text
  · exact List.prefix_rfl

theorem dropCarriageReturn_prefix_append (before rest : Text) :
    dropCarriageReturn before <+: dropCarriageReturn (before ++ rest) := by
  by_cases hrest : rest = []
  · exact ⟨[], by rw [hrest, List.append_nil, List.append_nil]⟩
  · rw [dropCarriageReturn_append before hrest]
    exact (dropCarriageReturn_isPrefix before).trans (List.prefix_append _ _)

/-- What is shown before a place on its line.  At the end of a line a carriage return belongs to
the line break and is not shown. -/
def shownBefore (front back : Text) : Text :=
  if firstLine back = [] then dropCarriageReturn (lastLine front) else lastLine front

theorem shownBefore_of_ne_nil (front : Text) (hback : firstLine back ≠ []) :
    shownBefore front back = lastLine front :=
  if_neg hback

/-- The characters of a line before a place and those after it, as the line is shown. -/
theorem shownLine_parts (front back : Text) :
    (dropCarriageReturn (lastLine front ++ firstLine back)).take (lastLine front).length =
        shownBefore front back ∧
      (dropCarriageReturn (lastLine front ++ firstLine back)).drop (lastLine front).length =
        dropCarriageReturn (firstLine back) := by
  by_cases hback : firstLine back = []
  · have hlength := (dropCarriageReturn_isPrefix (lastLine front)).length_le
    rw [shownBefore, if_pos hback, hback, List.append_nil]
    exact ⟨List.take_of_length_le hlength, List.drop_eq_nil_of_le hlength⟩
  · rw [shownBefore_of_ne_nil front hback, dropCarriageReturn_append _ hback]
    exact ⟨List.take_left, List.drop_left⟩

/-- The first line of what stands at a place starts what follows the place on its line. -/
theorem firstLine_prefix_append (literal back : Text) :
    dropCarriageReturn (firstLine literal) <+:
      dropCarriageReturn (firstLine (literal ++ back)) := by
  obtain ⟨rest, hliteral, -⟩ := exists_startsBreak_firstLine literal
  have hfirst : firstLine (literal ++ back) = firstLine literal ++ firstLine (rest ++ back) :=
    calc firstLine (literal ++ back)
        = firstLine (firstLine literal ++ (rest ++ back)) := by
          rw [← List.append_assoc, ← hliteral]
      _ = firstLine literal ++ firstLine (rest ++ back) :=
          firstLine_of_not_mem (not_mem_firstLine literal) _
  rw [hfirst]
  exact dropCarriageReturn_prefix_append _ _

/-- What trimming leaves starts on the line that it is on. -/
theorem firstLine_trim_append {whole : Text} (htrim : trim whole ≠ []) (back : Text) :
    firstLine (trim whole ++ back) ≠ [] := by
  obtain ⟨first, rest, hliteral⟩ := List.exists_cons_of_ne_nil htrim
  have hblank : isBlank first = false := isBlank_head?_trim (by rw [hliteral]; rfl)
  have hfirst : first ≠ '\n' := by
    rintro rfl
    cases hblank
  rw [hliteral, firstLine, List.cons_append, List.takeWhile_cons_of_pos (by simpa using hfirst)]
  exact List.cons_ne_nil _ _

end Text

namespace LineIndex

open Text

theorem lineText_breaks (front back : Text) :
    (ofText (front ++ back)).lineText (breaks front) =
      dropCarriageReturn (lastLine front ++ firstLine back) := by
  obtain ⟨head, hfront, hhead, hbreaks⟩ := exists_endsLine_lastLine front
  have hline := lineSlice?_breaks hhead (lastLine front ++ back)
  rw [hbreaks, ← List.append_assoc, ← hfront,
    firstLine_of_not_mem (not_mem_lastLine front)] at hline
  rw [lineText_eq_lineSlice?, hline]
  rfl

/-- The excerpt for a place between characters. -/
theorem excerpt_byteSize (path : String) (front back : Text) :
    (ofText (front ++ back)).excerpt path (byteSize front) =
      ⟨path, ⟨breaks front + 1, (lastLine front).length + 1⟩,
        dropCarriageReturn (lastLine front ++ firstLine back)⟩ := by
  simp only [excerpt, position_byteSize, Nat.add_sub_cancel, lineText_breaks]

end LineIndex

namespace Report

/-- The line that marks a place below the one that it is on, after so many columns. -/
def caretLine (colours : Bool) (width : Nat) (severity : Severity) (columns : Nat) : String :=
  padLeft width "" ++ " " ++ Style.blue.paint colours "|" ++ " " ++
    String.ofList (List.replicate columns ' ') ++ (severityStyle severity).paint colours "^"

theorem padLeft_empty (width : Nat) :
    padLeft width "" = String.ofList (List.replicate width ' ') := by
  rw [padLeft, String.append_empty]
  rfl

/-- The report of an issue with an excerpt has the caret in its fifth line, below the column. -/
theorem getElem?_issueLines {issue : Issue} {excerpt : Excerpt}
    (hexcerpt : issue.excerpt? = some excerpt) (colours : Bool) (measure : Text → Nat)
    (width : Nat) :
    (issueLines colours measure width issue)[4]? = some (caretLine colours width issue.severity
      (measure (excerpt.sourceLine.take (excerpt.position.column - 1)))) := by
  rw [caretLine, ← padLeft_empty, issueLines, hexcerpt]
  rfl

end Report

open Text

/-- An issue shows where a literal is: on the line that the line feeds before it make, in the
column after the characters before it on this line, where what is shown of the line starts with
what is shown of the literal's first line.  The caret is below the literal's first character. -/
structure Issue.PointsAt (issue : Issue) (front literal back : Text) : Prop where
  excerpt : ∃ excerpt, issue.excerpt? = some excerpt ∧
    excerpt.position = ⟨breaks front + 1, (lastLine front).length + 1⟩ ∧
    dropCarriageReturn (firstLine literal) <+:
      excerpt.sourceLine.drop (excerpt.position.column - 1)
  caret : ∀ colours measure width, (Report.issueLines colours measure width issue)[4]? =
    some (Report.caretLine colours width issue.severity
      (measure (shownBefore front (literal ++ back))))

theorem Issue.ofFinding_pointsAt (path wrapperFunction : String) {front literal back : Text}
    {finding : Finding} (hstart : finding.range.start = byteSize front) :
    (Issue.ofFinding path (.ofText (front ++ (literal ++ back))) wrapperFunction finding).PointsAt
      front literal back := by
  obtain ⟨hbefore, hafter⟩ := shownLine_parts front (literal ++ back)
  have hexcerpt : (Issue.ofFinding path (.ofText (front ++ (literal ++ back))) wrapperFunction
      finding).excerpt? = some ⟨path, ⟨breaks front + 1, (lastLine front).length + 1⟩,
        dropCarriageReturn (lastLine front ++ firstLine (literal ++ back))⟩ := by
    rw [Issue.ofFinding, hstart, LineIndex.excerpt_byteSize]
    rfl
  refine ⟨⟨_, hexcerpt, rfl, ?_⟩, fun colours measure width => ?_⟩
  · rw [Nat.add_sub_cancel, hafter]
    exact firstLine_prefix_append literal back
  · rw [Report.getElem?_issueLines hexcerpt, Nat.add_sub_cancel, hbefore]

theorem Tree.trimsTo_of_mem_check {tree : Tree} {options : RuleOptions} {withFixes : Bool}
    {finding : Finding} {node : Node} (hfinding : finding ∈ tree.check options withFixes)
    (hnode : tree.node? finding.node = some node) (hagrees : tree.segmentAgrees node = true) :
    node.range.TrimsTo tree.text finding.range ∧ tree.text.slice? finding.range ≠ some [] := by
  obtain ⟨literal, hliteral, edits, rfl, -⟩ := exists_literal_of_mem_check hfinding
  obtain ⟨-, found, hfound, -, hraw⟩ :=
    literal?_eq_some (literal?_of_mem_untranslated hliteral)
  obtain rfl := Option.some.inj (hfound.symm.trans hnode)
  have htext := textOf_eq_raw hraw hagrees
  obtain ⟨hselects, htrims⟩ := finding_trimmed hliteral hfound htext edits
  refine ⟨htrims, ?_⟩
  rw [hselects, htext]
  exact fun hempty =>
    trimmed_ne_nil_of_mem_untranslated hliteral (Option.some.inj hempty)

/-- The issue of a finding whose range is that of its node without the blanks at both ends points
at the literal, and the caret is padded by the width of the text before the literal on its line.
The findings of a tree on strings and on text of markup are such findings. -/
theorem ofFindings_point_at_literals (path wrapperFunction : String) (source : Text)
    (findings : List Finding) :
    (∀ (place : Nat) (finding : Finding) (outer : Range), findings[place]? = some finding →
      outer.TrimsTo source finding.range →
      ∃ (issue : Issue) (front literal back : Text),
        (Issue.ofFindings path source wrapperFunction findings)[place]? = some issue ∧
        source = front ++ (literal ++ back) ∧ byteSize front = finding.range.start ∧
        source.slice? finding.range = some literal ∧ issue.PointsAt front literal back ∧
        (literal ≠ [] → shownBefore front (literal ++ back) = lastLine front)) ∧
    ∀ (tree : Tree) (options : RuleOptions) (withFixes : Bool) (finding : Finding) (node : Node)
      (value : Text), finding ∈ tree.check options withFixes →
      tree.node? finding.node = some node →
      node.kind = .string value ∨ node.kind = .markupText value →
      node.range.TrimsTo tree.text finding.range ∧ tree.text.slice? finding.range ≠ some [] := by
  constructor
  · intro place finding outer hfinding htrims
    obtain ⟨whole, -, hslice⟩ := htrims.selects
    obtain ⟨front, back, rfl, hstart, -⟩ := slice?_eq_some_iff.mp hslice
    refine ⟨_, front, trim whole, back, ?_, rfl, hstart, hslice,
      Issue.ofFinding_pointsAt path wrapperFunction hstart.symm, ?_⟩
    · rw [Issue.ofFindings, List.getElem?_map, hfinding]
      rfl
    · exact fun hliteral => shownBefore_of_ne_nil front (firstLine_trim_append hliteral back)
  · intro tree options withFixes finding node value hfinding hnode hkind
    apply Tree.trimsTo_of_mem_check hfinding hnode
    rcases hkind with hkind | hkind <;> rw [Tree.segmentAgrees, hkind]

/-- A template on two lines, after another line, with line breaks of two characters. -/
def twoLines : Text := "x\r\nf(`  да\r\nнет `)".toList

/-- What is found in its segment, without the blanks at both ends. -/
def twoLinesFinding : Finding := ⟨5, ⟨8, 20⟩, "да\r\nнет".toList, none⟩

theorem trimsTo_twoLinesFinding : Range.TrimsTo twoLines ⟨6, 21⟩ twoLinesFinding.range := by
  have hevaluated : twoLines.slice? ⟨6, 21⟩ = some "  да\r\nнет ".toList ∧
      byteSize (leadingBlanks "  да\r\nнет ".toList) = 2 ∧
      byteSize (trim "  да\r\nнет ".toList) = 12 := by
    decide +kernel
  obtain ⟨hslice, hleading, htrimmed⟩ := hevaluated
  have htrims := Range.trimsTo_of_slice? hslice
  rwa [hleading, htrimmed] at htrims

theorem ofFindings_point_at_twoLines :
    (twoLinesFinding ∈ [twoLinesFinding] ∧
      Range.TrimsTo twoLines ⟨6, 21⟩ twoLinesFinding.range ∧
      ∃ (issue : Issue) (front literal back : Text),
        (Issue.ofFindings "a.ts" twoLines "t" [twoLinesFinding])[0]? = some issue ∧
        twoLines = front ++ (literal ++ back) ∧
        twoLines.slice? twoLinesFinding.range = some literal ∧ issue.PointsAt front literal back) ∧
    Tree.repeatedFinding ∈ Tree.repeatedTree.check .cyrillic true ∧
      Range.TrimsTo Tree.repeatedTree.text ⟨13, 25⟩ Tree.repeatedFinding.range := by
  obtain ⟨hpoints, halways⟩ := ofFindings_point_at_literals "a.ts" "t" twoLines [twoLinesFinding]
  obtain ⟨issue, front, literal, back, hissue, htext, -, hslice, hpointsAt, -⟩ :=
    hpoints 0 twoLinesFinding ⟨6, 21⟩ rfl trimsTo_twoLinesFinding
  obtain ⟨hfinding, hnode⟩ := Tree.repeatedTree_evaluated
  exact ⟨⟨List.mem_cons_self, trimsTo_twoLinesFinding, issue, front, literal, back, hissue, htext,
    hslice, hpointsAt⟩, hfinding, (halways _ _ _ _ _ _ hfinding hnode (.inr rfl)).1⟩

end Untranslated
