import Untranslated.Proofs.Escaping
import Untranslated.Proofs.ImportInsertion
import Untranslated.Proofs.References

/-!
# Markup text as a string

The text between two tags becomes a string in single quotes, with a backslash
before every backslash and quote.  Read as a string it is what it was, character by
character, provided that it is on one line; the line breaks that flattening joins
are line feeds, and a carriage return inside a line stays.  What the string then
stands for is the source text and not what the markup shows: a reference is spelled
out in it.
-/

namespace Untranslated

namespace Text

section Escaping

variable {char : Char}

theorem escapeLiteral_escaped (hescape : char = '\\' ∨ char = '\'') (text : Text) :
    escapeLiteral (char :: text) = '\\' :: char :: text.escapeLiteral := by
  rcases hescape with rfl | rfl <;> rfl

theorem escapeLiteral_plain (hescape : ¬(char = '\\' ∨ char = '\'')) (text : Text) :
    escapeLiteral (char :: text) = char :: text.escapeLiteral := by
  rw [not_or] at hescape
  simp [escapeLiteral, replaceChar, hescape]

theorem bare_escaped (char : Char) (rest : Text) :
    bare ('\\' :: char :: rest) = '\\' :: rest.bare := by
  simp [bare, bareAfter]

/-- A text that is taken literally has its backslashes bare, and nothing that they escape. -/
theorem bare_escapeLiteral_append (text rest : Text) :
    bare (text.escapeLiteral ++ rest) =
      text.map (fun char => if char = '\\' ∨ char = '\'' then '\\' else char) ++ rest.bare := by
  induction text with
  | nil => rfl
  | cons char text ih =>
      by_cases hescape : char = '\\' ∨ char = '\''
      · rw [escapeLiteral_escaped hescape, List.cons_append, List.cons_append, bare_escaped, ih,
          List.map_cons, if_pos hescape, List.cons_append]
      · have hsingle : '\\' ∉ [char] := fun hmem =>
          hescape (Or.inl (List.mem_singleton.mp hmem).symm)
        have hbare := bare_append hsingle (escapeLiteral text ++ rest)
        rw [List.singleton_append, List.singleton_append] at hbare
        rw [escapeLiteral_plain hescape, List.cons_append, hbare, ih, List.map_cons,
          if_neg hescape, List.cons_append]

theorem bare_escapeLiteral (text : Text) :
    bare text.escapeLiteral =
      text.map fun char => if char = '\\' ∨ char = '\'' then '\\' else char := by
  have hbare := bare_escapeLiteral_append text []
  have hnil : bare [] = [] := rfl
  rwa [hnil, List.append_nil, List.append_nil] at hbare

theorem not_mem_bare_escapeLiteral (hchar : char = '\'' ∨ char = '\n') {text : Text}
    (hfeed : '\n' ∉ text) : char ∉ text.escapeLiteral.bare := by
  rw [bare_escapeLiteral, List.mem_map]
  rintro ⟨other, hother, heq⟩
  split at heq
  · subst heq
    revert hchar
    decide
  · next hescape =>
      subst heq
      rcases hchar with rfl | rfl
      · exact hescape (Or.inr rfl)
      · exact hfeed hother

theorem fillsQuotes_escapeLiteral {text : Text} (hfeed : '\n' ∉ text) :
    text.escapeLiteral.FillsQuotes where
  closed := by
    rw [bare_escapeLiteral_append, bare_escapeLiteral]
    rfl
  quote := not_mem_bare_escapeLiteral (Or.inl rfl) hfeed
  lineFeed := not_mem_bare_escapeLiteral (Or.inr rfl) hfeed

end Escaping

section Lines

variable {text line : Text}

theorem mem_of_mem_trim {char : Char} (hchar : char ∈ text.trim) : char ∈ text := by
  rw [← leadingBlanks_append text]
  exact List.mem_append_right _ (List.mem_append_left _ hchar)

theorem not_mem_of_mem_splitLines (hline : line ∈ text.splitLines) : '\n' ∉ line := by
  induction text generalizing line with
  | nil =>
      rw [List.mem_singleton.mp hline]
      exact List.not_mem_nil
  | cons char chars ih =>
      obtain ⟨first, lines, hsplit⟩ := List.exists_cons_of_ne_nil (splitLines_ne_nil chars)
      rw [hsplit] at ih
      by_cases hchar : char = '\n'
      · rw [splitLines, if_pos hchar, hsplit] at hline
        rcases List.mem_cons.mp hline with rfl | hline
        · exact List.not_mem_nil
        · exact ih hline
      · rw [splitLines_cons_of_ne hchar hsplit] at hline
        rcases List.mem_cons.mp hline with rfl | hline
        · exact List.not_mem_cons_of_ne_of_not_mem (Ne.symm hchar) (ih List.mem_cons_self)
        · exact ih (List.mem_cons_of_mem _ hline)

theorem not_mem_intercalate {char : Char} {separator : Text} {lines : List Text}
    (hseparator : char ∉ separator) (hlines : ∀ line ∈ lines, char ∉ line) :
    char ∉ List.intercalate separator lines := by
  induction lines with
  | nil => exact List.not_mem_nil
  | cons line lines ih =>
      obtain ⟨hline, hlines⟩ := List.forall_mem_cons.mp hlines
      cases lines with
      | nil => simpa [List.intercalate] using hline
      | cons next lines =>
          rw [List.intercalate_cons_cons, List.mem_append, List.mem_append]
          exact not_or.mpr ⟨not_or.mpr ⟨hline, hseparator⟩, ih hlines⟩

/-- A flattened text has no line feeds. -/
theorem not_mem_flattenLines (text : Text) : '\n' ∉ text.flattenLines := by
  rw [flattenLines, filter_trim_contentLines]
  refine not_mem_intercalate (by decide) fun line hline hfeed => ?_
  obtain ⟨whole, hwhole, rfl⟩ := List.mem_map.mp (List.mem_filter.mp hline).1
  exact not_mem_of_mem_splitLines hwhole (mem_of_mem_trim hfeed)

end Lines

end Text

namespace Syntax

theorem quotedText_escapeLiteral_iff {value : Text} {codes : List Nat} :
    QuotedText '\'' value.escapeLiteral codes ↔
      ('\n' ∉ value ∧ '\r' ∉ value) ∧ codes = value.map Char.toNat := by
  induction value generalizing codes with
  | nil =>
      constructor
      · intro hbody
        cases hbody
        simp
      · rintro ⟨-, rfl⟩
        exact .nil
  | cons char value ih =>
      by_cases hescape : char = '\\' ∨ char = '\''
      · have hself : StringEscape [char] [char.toNat] (Text.escapeLiteral value) := by
          rcases hescape with rfl | rfl <;>
            exact .sequence (.self (by decide) (by decide) rfl rfl rfl _)
        have hbreak : '\n' ≠ char ∧ '\r' ≠ char := by rcases hescape with rfl | rfl <;> decide
        rw [Text.escapeLiteral_escaped hescape]
        constructor
        · intro hbody
          obtain ⟨more, rfl, hmore⟩ := hbody.of_escape hself
          obtain ⟨hline, rfl⟩ := ih.mp hmore
          exact ⟨by simpa [hbreak] using hline, rfl⟩
        · rintro ⟨hline, rfl⟩
          exact .escape hself (ih.mpr ⟨by simpa [hbreak] using hline, rfl⟩)
      · rw [Text.escapeLiteral_plain hescape]
        constructor
        · intro hbody
          obtain ⟨hbreak, more, rfl, hmore⟩ := hbody.of_char fun heq => hescape (Or.inl heq)
          obtain ⟨⟨hfeed, hreturn⟩, rfl⟩ := ih.mp hmore
          simp only [List.mem_cons, List.not_mem_nil, or_false, not_or] at hbreak
          exact ⟨⟨List.not_mem_cons_of_ne_of_not_mem (Ne.symm hbreak.1) hfeed,
            List.not_mem_cons_of_ne_of_not_mem (Ne.symm hbreak.2) hreturn⟩, rfl⟩
        · rintro ⟨⟨hfeed, hreturn⟩, rfl⟩
          rw [List.mem_cons, not_or] at hfeed hreturn
          rw [not_or] at hescape
          exact .char hescape.2 (by simp [hescape.1, Ne.symm hfeed.1, Ne.symm hreturn.1])
            (ih.mpr ⟨⟨hfeed.2, hreturn.2⟩, rfl⟩)

/-- A text that is taken literally is its own value, if it is on one line. -/
theorem denotes_escapeLiteral_iff {value other : Text} :
    Denotes ('\'' :: value.escapeLiteral ++ ['\'']) other ↔
      ('\n' ∉ value ∧ '\r' ∉ value) ∧ other = value := by
  rw [denotes_iff (Or.inl rfl)]
  constructor
  · rintro ⟨codes, hcodes, hdecode⟩
    obtain ⟨hline, rfl⟩ := quotedText_escapeLiteral_iff.mp hcodes
    rw [decodeExact?_map_toNat, Option.some.injEq] at hdecode
    exact ⟨hline, hdecode.symm⟩
  · rintro ⟨hline, rfl⟩
    exact ⟨_, quotedText_escapeLiteral_iff.mpr ⟨hline, rfl⟩, decodeExact?_map_toNat _⟩

/-- The call that replaces markup text holds a complete string literal: its quotes are the
ones that the call puts there, and it is read as the text itself. -/
theorem denotes_markupText_wrap (name : String) (value : Text) (hfeed : '\n' ∉ value)
    (hreturn : '\r' ∉ value) :
    let body := value.escapeLiteral
    Placement.markupText.wrap name value =
        ('\x7b' :: name.toList ++ ['(', '\'']) ++ body ++ ['\'', ')', '\x7d'] ∧
      body.FillsQuotes ∧ Denotes ('\'' :: body ++ ['\'']) value :=
  ⟨rfl, Text.fillsQuotes_escapeLiteral hfeed,
    denotes_escapeLiteral_iff.mpr ⟨⟨hfeed, hreturn⟩, rfl⟩⟩

/-- Quotes of all kinds next to backslashes, braces, and a line separator. -/
def quoteRuns : Text := "\\'\\\\'' it's \x7bx\x7d \"\u2028\\".toList

theorem denotes_markupText_wrap_quoteRuns :
    Placement.markupText.wrap "t" quoteRuns =
        "\x7bt('\\\\\\'\\\\\\\\\\'\\' it\\'s \x7bx\x7d \"\u2028\\\\')\x7d".toList ∧
      quoteRuns.escapeLiteral.FillsQuotes ∧
      Denotes "'\\\\\\'\\\\\\\\\\'\\' it\\'s \x7bx\x7d \"\u2028\\\\'".toList quoteRuns := by
  have hliteral : '\'' :: quoteRuns.escapeLiteral ++ ['\''] =
      "'\\\\\\'\\\\\\\\\\'\\' it\\'s \x7bx\x7d \"\u2028\\\\'".toList := by
    decide +kernel
  obtain ⟨hwrap, hfills, hdenotes⟩ :=
    denotes_markupText_wrap "t" quoteRuns (by decide +kernel) (by decide +kernel)
  rw [hliteral] at hdenotes
  exact ⟨hwrap.trans (by decide +kernel), hfills, hdenotes⟩

end Syntax

namespace Tree

open Syntax

/-- What a finding in markup text suggests is a call with the flattened source text between
single quotes, unless the text is passed to the function already.  This is a complete string
literal for the source text exactly if no carriage return is left in it, and it stands for
what the markup shows exactly if there are no references either. -/
theorem markupText_suggestion (tree : Tree) (options : RuleOptions) (finding : Finding)
    (node : Node) (decoded : Text) (hfinding : finding ∈ tree.check options true)
    (hnode : tree.node? finding.node = some node) (hkind : node.kind = .markupText decoded) :
    let raw := tree.textOf node
    let value := raw.trim.flattenLines
    let literal := '\'' :: value.escapeLiteral ++ ['\'']
    finding.suggestion? =
        (if tree.isWrapped finding.node (tree.effectiveNames options) then none
        else some ('\x7b' :: (tree.effectiveName options).toList ++ ['('] ++ literal ++
          [')', '\x7d'])) ∧
      (∀ shown, Denotes literal shown ↔ '\r' ∉ value ∧ shown = value) ∧
      (Denotes literal (decodeMarkupText value) ↔
        '\r' ∉ value ∧ hasReference raw = false) := by
  intro raw value literal
  have hfeed : '\n' ∉ value := Text.not_mem_flattenLines raw.trim
  have hdenotes : ∀ shown, Denotes literal shown ↔ '\r' ∉ value ∧ shown = value := by
    intro shown
    rw [denotes_escapeLiteral_iff, and_iff_right hfeed]
  refine ⟨?_, hdenotes, ?_⟩
  · have hliteral : tree.literal? finding.node =
        some ⟨finding.node, .markupText, raw, finding.node⟩ := by
      rw [literal?, hnode]
      simp only [hkind]
      rfl
    rw [suggestion?_of_literal? hfinding hnode hliteral rfl, Placement.wrap_eq]
    rfl
  · rw [hdenotes]
    refine and_congr_right fun _ => ?_
    rw [decodeMarkupText, decodeReferences_eq_self_iff fun _ => hfeed,
      hasReference_flattenLines, hasReference_trim]

/-- The tree of a source with markup. -/
def readMarkup (source : String) : Tree :=
  ((parse "a.tsx" source.toList).toOption).getD (ofText [])

/-- Markup text on several lines, with quotes, a backslash and an ampersand. -/
def linesTree : Tree := readMarkup "f(<p>\r\n  да 'нет' \\\r\n\r\n  & ой\r\n</p>)"

def linesFinding : Finding := (linesTree.check .cyrillic true).headD default

theorem markupText_suggestion_linesTree :
    linesFinding ∈ linesTree.check .cyrillic true ∧
      linesFinding.suggestion? =
        some "\x7bi18n('да \\'нет\\' \\\\ & ой')\x7d".toList ∧
      Denotes "'да \\'нет\\' \\\\ & ой'".toList "да 'нет' \\ & ой".toList := by
  let node : Node := ⟨.markupText "\n  да 'нет' \\\n\n  & ой\n".toList, some 5, ⟨5, 38⟩⟩
  obtain ⟨hmem, hnode, hvalue, hwrapped, hname⟩ :
      linesFinding ∈ linesTree.check .cyrillic true ∧
        linesTree.node? linesFinding.node = some node ∧
        (linesTree.textOf node).trim.flattenLines = "да 'нет' \\ & ой".toList ∧
        linesTree.isWrapped linesFinding.node (linesTree.effectiveNames .cyrillic) = false ∧
        linesTree.effectiveName .cyrillic = "i18n" := by
    decide +kernel
  have hliteral : '\'' :: Text.escapeLiteral "да 'нет' \\ & ой".toList ++ ['\''] =
      "'да \\'нет\\' \\\\ & ой'".toList := by
    decide +kernel
  obtain ⟨hsuggestion, hdenotes, -⟩ := markupText_suggestion linesTree .cyrillic linesFinding
    node _ hmem hnode rfl
  rw [hvalue, hliteral, hwrapped, hname] at hsuggestion
  rw [hvalue, hliteral] at hdenotes
  exact ⟨hmem, hsuggestion.trans (by decide +kernel),
    (hdenotes _).mpr ⟨by decide +kernel, rfl⟩⟩

/-- A reference is spelled out in the string, and a carriage return breaks it off. -/
theorem markup_reference_and_return_kept :
    let suggestions (source : String) :=
      ((readMarkup source).check .cyrillic true).map Finding.suggestion?
    (suggestions "<p>да&nbsp;нет</p>" = [some "\x7bi18n('да&nbsp;нет')\x7d".toList] ∧
        decodeMarkupText "да&nbsp;нет".toList = "да\u00A0нет".toList ∧
        ¬Denotes "'да&nbsp;нет'".toList "да\u00A0нет".toList) ∧
      suggestions "<p>да\rнет</p>" = [some "\x7bi18n('да\rнет')\x7d".toList] ∧
        ∀ shown, ¬Denotes "'да\rнет'".toList shown := by
  have hreference : "'да&nbsp;нет'".toList =
      '\'' :: Text.escapeLiteral "да&nbsp;нет".toList ++ ['\''] := by
    decide +kernel
  have hreturn : "'да\rнет'".toList =
      '\'' :: Text.escapeLiteral "да\rнет".toList ++ ['\''] := by
    decide +kernel
  refine ⟨⟨by decide +kernel, by decide +kernel, fun hdenotes => ?_⟩, by decide +kernel,
    fun shown hdenotes => ?_⟩
  · rw [hreference, denotes_escapeLiteral_iff] at hdenotes
    exact absurd hdenotes.2 (by decide +kernel)
  · rw [hreturn, denotes_escapeLiteral_iff] at hdenotes
    exact absurd hdenotes.1.2 (by decide +kernel)

end Tree

end Untranslated
