import Untranslated.Proofs.AttributeValues
import Untranslated.Proofs.TrimmedRanges

/-!
# What is said about a literal

A report names a literal by its text without the quotes around it.  For a string these
are the quotes of the token, and what is named is what stands between them.  Text of
markup and segments of templates have no quotes of their own, and quotes around the
whole of such text are left out of the report all the same; text that does not start
with a quote is named as it is.
-/

namespace Untranslated

namespace Text

variable {value body : Text}

/-- The characters that count as quotes around a text. -/
def isQuoteMark (char : Char) : Bool := char == '\'' || char == '"' || char == '`'

/-- The text is the value without quotes around it.  A value that does not start with a quote
stays as it is, and no value loses more than one character at each end. -/
structure LeavesOutQuotes (value text : Text) : Prop where
  plain : (∀ char, value.head? = some char → isQuoteMark char = false) → text = value
  quoted : ∀ first body last, isQuoteMark first = true → isQuoteMark last = true →
    value = first :: body ++ [last] → text = body
  inner : ∃ before after : Text, value = before ++ text ++ after ∧ before.length ≤ 1 ∧
    after.length ≤ 1

theorem stripQuotes_cons (char : Char) (chars : Text) : stripQuotes (char :: chars) =
    if isQuoteMark char = true then chars.dropLast else char :: chars := rfl

/-- Between two quotes everything is kept. -/
theorem stripQuotes_of_isQuoteMark {first : Char} (hfirst : isQuoteMark first = true)
    (body : Text) (last : Char) : stripQuotes (first :: body ++ [last]) = body := by
  rw [List.cons_append, stripQuotes_cons, if_pos hfirst, List.dropLast_concat]

theorem stripQuotes_of_head?
    (hhead : ∀ char, value.head? = some char → isQuoteMark char = false) :
    stripQuotes value = value := by
  cases value with
  | nil => rfl
  | cons char chars =>
      rw [stripQuotes_cons, hhead char rfl, if_neg Bool.false_ne_true]

theorem leavesOutQuotes_stripQuotes (value : Text) :
    value.LeavesOutQuotes (stripQuotes value) where
  plain := stripQuotes_of_head?
  quoted := by
    rintro first body last hfirst - rfl
    exact stripQuotes_of_isQuoteMark hfirst body last
  inner := by
    by_cases hhead : ∀ char, value.head? = some char → isQuoteMark char = false
    · exact ⟨[], [], by rw [stripQuotes_of_head? hhead, List.nil_append, List.append_nil],
        Nat.zero_le _, Nat.zero_le _⟩
    · simp only [not_forall, Bool.not_eq_false] at hhead
      obtain ⟨first, hfirst, hmark⟩ := hhead
      obtain ⟨rest, rfl⟩ := List.head?_eq_some_iff.mp hfirst
      -- a quote that stands alone is both the first and the last character
      rcases List.eq_nil_or_concat rest with rfl | ⟨body, last, rfl⟩
      · exact ⟨[first], [], by rw [stripQuotes_cons, if_pos hmark]; rfl, Nat.le_refl _,
          Nat.zero_le _⟩
      · refine ⟨[first], [last], ?_, Nat.le_refl _, Nat.le_refl _⟩
        rw [List.concat_eq_append, ← List.cons_append, stripQuotes_of_isQuoteMark hmark]
        rfl

end Text

namespace Tree

variable {tree : Tree} {options : RuleOptions} {withFixes : Bool} {finding : Finding}

/-- The text of a literal without the blanks around it; text of markup is flattened. -/
def valueOf (tree : Tree) (node : Node) : Text :=
  match node.kind with
  | .markupText _ => (tree.textOf node).trim.flattenLines
  | .segment raw => raw.trim
  | _ => (tree.textOf node).trim

theorem value_eq_valueOf {id : Nat} {literal : Literal} {node : Node}
    (hliteral : tree.literal? id = some literal) (hnode : tree.node? id = some node) :
    literal.value = tree.valueOf node := by
  simp only [literal?, hnode] at hliteral
  cases hkind : node.kind with
  | string value =>
      rw [hkind] at hliteral
      cases hliteral
      rw [valueOf, hkind, Literal.value]
      by_cases hattribute : tree.isAttributeValue id = true
      · simp [hattribute, Literal.trimmed]
      · simp [hattribute, Literal.trimmed]
  | markupText value =>
      rw [hkind] at hliteral
      cases hliteral
      rw [valueOf, hkind]
      rfl
  | segment raw =>
      rw [hkind] at hliteral
      obtain ⟨parent, -, rfl⟩ := Option.map_eq_some_iff.mp hliteral
      rw [valueOf, hkind]
      rfl
  | _ =>
      rw [hkind] at hliteral
      cases hliteral

/-- What a report says about a literal is its value without quotes around it. -/
theorem text_eq_stripQuotes (hfinding : finding ∈ tree.check options withFixes) :
    ∃ node, tree.node? finding.node = some node ∧
      finding.text = Text.stripQuotes (tree.valueOf node) := by
  obtain ⟨literal, hmem, edits, rfl, -⟩ := exists_literal_of_mem_check hfinding
  have hliteral := literal?_of_mem_untranslated hmem
  obtain ⟨-, node, hnode, -, -⟩ := literal?_eq_some hliteral
  exact ⟨node, hnode, congrArg Text.stripQuotes (value_eq_valueOf hliteral hnode)⟩

theorem isBlank_of_isQuoteMark {char : Char} (hmark : Text.isQuoteMark char = true) :
    isBlank char = false := by
  simp only [Text.isQuoteMark, Bool.or_eq_true, beq_iff_eq] at hmark
  rcases hmark with (rfl | rfl) | rfl <;> rfl

/-- What a report says about a string in quotes is what stands between them.  Markup text and the
segments of templates are named by their value, markup text flattened, without quotes around it:
one that does not start with a quote is named in full. -/
theorem check_text_leavesOutQuotes (hfinding : finding ∈ tree.check options withFixes) :
    ∃ node, tree.node? finding.node = some node ∧
      (∀ value quote body, node.kind = .string value → Text.isQuoteMark quote = true →
        tree.textOf node = quote :: body ++ [quote] → finding.text = body) ∧
      (∀ value, node.kind = .markupText value →
        (tree.textOf node).trim.flattenLines.LeavesOutQuotes finding.text) ∧
      ∀ raw, node.kind = .segment raw → raw.trim.LeavesOutQuotes finding.text := by
  obtain ⟨node, hnode, htext⟩ := text_eq_stripQuotes hfinding
  refine ⟨node, hnode, ?_, ?_, ?_⟩
  · intro value quote body hkind hquote hsource
    have hblank := isBlank_of_isQuoteMark hquote
    rw [htext, valueOf, hkind, hsource, Text.trim_of_ends hblank hblank,
      Text.stripQuotes_of_isQuoteMark hquote]
  · intro value hkind
    rw [htext, valueOf, hkind]
    exact Text.leavesOutQuotes_stripQuotes _
  · intro raw hkind
    rw [htext, valueOf, hkind]
    exact Text.leavesOutQuotes_stripQuotes _

/-- A string, markup text and a segment, all with quotes around them. -/
def quotedContent : Tree := readMarkup "f('да', <p>\"нет\"</p>, `'ой'`)"

theorem quotedContent_evaluated :
    quotedContent.check .cyrillic false =
        [⟨5, ⟨2, 8⟩, "да".toList, none⟩, ⟨7, ⟨13, 21⟩, "нет".toList, none⟩,
          ⟨9, ⟨28, 34⟩, "ой".toList, none⟩] ∧
      quotedContent.node? 5 = some ⟨.string "да".toList, some 3, ⟨2, 8⟩⟩ ∧
      quotedContent.node? 7 = some ⟨.markupText "\"нет\"".toList, some 6, ⟨13, 21⟩⟩ ∧
      quotedContent.node? 9 = some ⟨.segment "'ой'".toList, some 8, ⟨28, 34⟩⟩ ∧
      quotedContent.text.slice? ⟨2, 8⟩ = some "'да'".toList ∧
      (quotedContent.text.slice? ⟨13, 21⟩).map (·.trim.flattenLines) =
        some "\"нет\"".toList := by
  decide +kernel

theorem check_text_quotedContent :
    ∃ finding ∈ quotedContent.check .cyrillic false, finding.node = 5 ∧
      ∃ node, quotedContent.node? 5 = some node ∧
        quotedContent.textOf node = "'да'".toList ∧ finding.text = "да".toList := by
  obtain ⟨hcheck, hstring, -, -, hsource, -⟩ := quotedContent_evaluated
  have hfinding : ⟨5, ⟨2, 8⟩, "да".toList, none⟩ ∈ quotedContent.check .cyrillic false := by
    rw [hcheck]
    exact List.mem_cons_self
  have htext : quotedContent.textOf ⟨.string "да".toList, some 3, ⟨2, 8⟩⟩ = "'да'".toList := by
    rw [textOf, hsource, Option.getD_some]
  obtain ⟨node, hnode, hquoted, -⟩ := check_text_leavesOutQuotes hfinding
  obtain rfl := Option.some.inj (hnode.symm.trans hstring)
  exact ⟨_, hfinding, rfl, _, hstring, htext, hquoted _ '\'' _ rfl rfl htext⟩

/-- Quotes that belong to what markup or a template shows are left out of the report too. -/
theorem content_quotes_left_out :
    (∃ finding ∈ quotedContent.check .cyrillic false, ∃ node value,
      quotedContent.node? finding.node = some node ∧ node.kind = .markupText value ∧
        (quotedContent.textOf node).trim.flattenLines = "\"нет\"".toList ∧
        finding.text = "нет".toList) ∧
      ∃ finding ∈ quotedContent.check .cyrillic false, ∃ node raw,
        quotedContent.node? finding.node = some node ∧ node.kind = .segment raw ∧
          raw.trim = "'ой'".toList ∧ finding.text = "ой".toList := by
  obtain ⟨hcheck, -, hmarkup, hsegment, -, hsource⟩ := quotedContent_evaluated
  obtain ⟨source, hslice, hvalue⟩ := Option.map_eq_some_iff.mp hsource
  rw [hcheck]
  refine ⟨⟨_, List.mem_cons_of_mem _ List.mem_cons_self, _, _, hmarkup, rfl, ?_, rfl⟩,
    ⟨_, List.mem_cons_of_mem _ (List.mem_cons_of_mem _ List.mem_cons_self), _, _, hsegment, rfl,
      by decide +kernel, rfl⟩⟩
  rw [textOf, hslice, Option.getD_some, hvalue]

end Tree

end Untranslated
