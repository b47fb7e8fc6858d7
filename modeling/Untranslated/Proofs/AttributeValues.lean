import Untranslated.Proofs.MarkupText
import Untranslated.Proofs.Places.Parsers

/-!
# Attribute values as strings

The value of an attribute is put into a call as it stands, quotes and all.  Between
the quotes of an attribute any other character stands for itself, backslashes and
line breaks too, and only references stand for something else; between the quotes of
a string it is the backslashes that do.  So the two have the same value exactly if
neither a backslash nor a line break nor a reference is there: a literal whose
escapes would make up for its references has too many characters, or too few marks.
-/

namespace Untranslated

namespace Text

theorem trim_of_ends {first last : Char} (hfirst : isBlank first = false)
    (hlast : isBlank last = false) (text : Text) :
    trim (first :: text ++ [last]) = first :: text ++ [last] := by
  apply VisibleEnds.trim_eq
  rintro char (hchar | hchar)
  · rw [List.cons_append, List.head?_cons, Option.some.injEq] at hchar
    rwa [← hchar]
  · rw [List.getLast?_concat, Option.some.injEq] at hchar
    rwa [← hchar]

end Text

namespace Syntax

section Value

variable {quote : Char} {inner : Text}

/-- A literal that stands for what an attribute does has no reference. -/
theorem not_hasReference_of_denotes (hquote : IsQuote quote)
    (hdenotes : Denotes (quote :: inner ++ [quote]) (decodeAttribute inner)) :
    hasReference inner = false := by
  have hdecoded := (decoded_decodeReferences false (Nat.le_refl inner.length)).marks_le
  have hampersand := hdenotes.count_le (Or.inl rfl) hquote
  have hsemicolon := hdenotes.count_le (Or.inr rfl) hquote
  have hkept : marks inner ≤ marks (decodeAttribute inner) :=
    Nat.add_le_add hampersand hsemicolon
  have hdecoded : marks (decodeAttribute inner) + (hasReference inner).toNat ≤ marks inner :=
    hdecoded
  exact Bool.toNat_eq_zero.mp (by omega)

/-- What stands between the quotes of an attribute stands for the same between those of a
string exactly if it stands for itself in both. -/
theorem denotes_decodeAttribute_iff (hquote : IsQuote quote) (hinner : quote ∉ inner) :
    Denotes (quote :: inner ++ [quote]) (decodeAttribute inner) ↔
      ('\\' ∉ inner ∧ '\n' ∉ inner ∧ '\r' ∉ inner) ∧ hasReference inner = false := by
  have hself : hasReference inner = false → decodeAttribute inner = inner :=
    (decodeReferences_eq_self_iff fun hjoin => absurd hjoin Bool.false_ne_true).mpr
  constructor
  · intro hdenotes
    have hnone := not_hasReference_of_denotes hquote hdenotes
    rw [hself hnone] at hdenotes
    have hescape : '\\' ∉ inner := fun hmem =>
      Nat.lt_irrefl _ (hdenotes.length_lt hquote hmem)
    obtain ⟨⟨-, hbreaks⟩, -⟩ := (denotes_iff_of_not_mem hquote hescape).mp hdenotes
    exact ⟨⟨hescape, hbreaks⟩, hnone⟩
  · rintro ⟨⟨hescape, hbreaks⟩, hnone⟩
    rw [hself hnone]
    exact (denotes_iff_of_not_mem hquote hescape).mpr ⟨⟨hinner, hbreaks⟩, rfl⟩

end Value

/-- The text of an attribute value goes from a quote to the next one of its kind, and the
value is what stands between the two with its references decoded. -/
structure QuotedAttribute (quote : Char) (inner text value : Text) : Prop where
  isQuote : IsQuote quote
  not_mem : quote ∉ inner
  text_eq : text = quote :: inner ++ [quote]
  value_eq : value = decodeAttribute inner

namespace Parser

/-- Reading an attribute value gives its place in the text and its value. -/
theorem run_quotedAttribute {quote : Char} (hquote : IsQuote quote) {text : Text}
    {context : Context} {before after : State} {expr : Expr} (hbefore : before.StandsIn text)
    (hhere : before.here.head? = some quote)
    (hrun : (quotedAttribute quote).run context before = .ok (expr, after)) :
    ∃ range inner found value, expr = .string range value ∧ text.slice? range = some found ∧
      QuotedAttribute quote inner found value := by
  obtain ⟨⟨range, raw⟩, between, hread, hreturn⟩ := run_bind hrun
  cases hreturn
  obtain ⟨stretch, hstretch, rfl, -⟩ := run_readLiteral hread
  dsimp only at hstretch
  split at hstretch
  · cases hstretch
  · next mark rest hrest =>
      cases hstretch
      let opening := before.cursor.skip
      let closing := opening.skipWhile (· != quote)
      have hopening : before.cursor.Passes [quote] opening := Cursor.passes_skip hhere
      have hbetween : opening.Passes (opening.rest.takeWhile (· != quote)) closing :=
        opening.passes_skipWhile _
      have hmark : closing.rest.head? = some quote := by
        have hdrop : closing.rest = opening.rest.dropWhile (· != quote) :=
          List.append_cancel_left
            (hbetween.1.symm.trans List.takeWhile_append_dropWhile.symm)
        have hstops := List.head?_dropWhile_not (· != quote) opening.rest
        rw [← hdrop] at hstops
        rw [show closing.rest = mark :: rest from hrest] at hstops ⊢
        simpa using hstops
      have hwhole := (hopening.trans hbetween).trans (Cursor.passes_skip hmark)
      refine ⟨_, _, _, _, rfl, hwhole.slice? hbefore, hquote, fun hmem => ?_, rfl, rfl⟩
      simpa using List.all_eq_true.mp List.all_takeWhile _ hmem

end Parser

end Syntax

namespace Tree

open Syntax

variable {tree : Tree} {id : Nat}

/-- The value of an attribute is no argument. -/
theorem isWrapped_of_isAttributeValue (hvalue : tree.isAttributeValue id = true)
    (names : List String) : tree.isWrapped id names = false := by
  unfold isAttributeValue at hvalue
  split at hvalue
  · next name hparent =>
      obtain ⟨parent, hid, hkind⟩ := Option.bind_eq_some_iff.mp hparent
      have hargument : tree.isArgument id names = false := by
        rw [isArgument, hparent]
      have hcontext : tree.isContext id names = false := by
        rw [isContext, hid]
        simp [hkind]
      rw [isWrapped, hargument, hcontext]
      rfl
  · cases hvalue

/-- The call that a finding in an attribute suggests. -/
theorem suggestion?_of_quotedAttribute {options : RuleOptions} {finding : Finding} {node : Node}
    {quote : Char} {inner value : Text} (hfinding : finding ∈ tree.check options true)
    (hnode : tree.node? finding.node = some node)
    (hattribute : tree.isAttributeValue finding.node = true) (hkind : node.kind = .string value)
    (hquoted : QuotedAttribute quote inner (tree.textOf node) value) :
    finding.suggestion? = some ('\x7b' :: (tree.effectiveName options).toList ++ ['('] ++
      tree.textOf node ++ [')', '\x7d']) := by
  have hliteral : tree.literal? finding.node =
      some ⟨finding.node, .attribute, tree.textOf node, finding.node⟩ := by
    rw [literal?, hnode]
    simp only [hkind, hattribute, if_true]
  have htrim : (tree.textOf node).trim = tree.textOf node := by
    have hblank : isBlank quote = false := by
      rcases hquoted.isQuote with rfl | rfl <;> rfl
    rw [hquoted.text_eq, Text.trim_of_ends hblank hblank]
  rw [suggestion?_of_literal? hfinding hnode hliteral rfl, Placement.wrap_eq,
    isWrapped_of_isAttributeValue hattribute, if_neg Bool.false_ne_true]
  simp only [Literal.value, Literal.trimmed, htrim]
  rfl

/-- What a finding in an attribute suggests is a call with the source text of the value, which
keeps the quotes it has.  As a string literal this stands for the value of the attribute
exactly if nothing between the quotes is a backslash, a line break or a reference.  Whatever is read
as the quoted value of an attribute has this form: it goes up to the next quote of its kind. -/
theorem attribute_suggestion (tree : Tree) (options : RuleOptions) :
    (∀ (finding : Finding) (node : Node) (quote : Char) (inner value : Text),
      finding ∈ tree.check options true →
      tree.node? finding.node = some node →
      tree.isAttributeValue finding.node = true →
      node.kind = .string value →
      QuotedAttribute quote inner (tree.textOf node) value →
      let literal := tree.textOf node
      finding.suggestion? = some ('\x7b' :: (tree.effectiveName options).toList ++ ['('] ++
          literal ++ [')', '\x7d']) ∧
        (Denotes literal value ↔
          ('\\' ∉ inner ∧ '\n' ∉ inner ∧ '\r' ∉ inner) ∧ hasReference inner = false)) ∧
    ∀ (quote : Char) (context : Context) (before after : State) (expr : Expr), IsQuote quote →
      before.StandsIn tree.text → before.here.head? = some quote →
      (Parser.quotedAttribute quote).run context before = .ok (expr, after) →
      ∃ range inner found value, expr = .string range value ∧
        tree.text.slice? range = some found ∧ QuotedAttribute quote inner found value := by
  refine ⟨?_, ?_⟩
  · intro finding node quote inner value hfinding hnode hattribute hkind hquoted literal
    refine ⟨suggestion?_of_quotedAttribute hfinding hnode hattribute hkind hquoted, ?_⟩
    rw [show literal = _ from hquoted.text_eq, hquoted.value_eq]
    exact denotes_decodeAttribute_iff hquoted.isQuote hquoted.not_mem
  · intro quote context before after expr hquote hbefore hhere hrun
    exact Parser.run_quotedAttribute hquote hbefore hhere hrun

/-- An attribute with quotes of the other kind, and an ampersand that starts no reference. -/
def plainAttribute : Tree := readMarkup "<p title=\"да 'it' &нет\" />"

def plainFinding : Finding := (plainAttribute.check .cyrillic true).headD default

theorem attribute_suggestion_plainAttribute :
    plainFinding ∈ plainAttribute.check .cyrillic true ∧
      plainFinding.suggestion? = some "\x7bi18n(\"да 'it' &нет\")\x7d".toList ∧
      plainAttribute.kind? plainFinding.node = some (.string "да 'it' &нет".toList) ∧
      Denotes "\"да 'it' &нет\"".toList "да 'it' &нет".toList := by
  let node : Node := ⟨.string "да 'it' &нет".toList, some 4, ⟨9, 28⟩⟩
  obtain ⟨hmem, hnode, htext, hattribute, hname⟩ :
      plainFinding ∈ plainAttribute.check .cyrillic true ∧
        plainAttribute.node? plainFinding.node = some node ∧
        plainAttribute.textOf node = "\"да 'it' &нет\"".toList ∧
        plainAttribute.isAttributeValue plainFinding.node = true ∧
        plainAttribute.effectiveName .cyrillic = "i18n" := by
    decide +kernel
  have hquoted : QuotedAttribute '"' "да 'it' &нет".toList (plainAttribute.textOf node)
      "да 'it' &нет".toList :=
    ⟨by decide, by decide +kernel, htext.trans (by decide +kernel), by decide +kernel⟩
  obtain ⟨hsuggestion, hdenotes⟩ := (attribute_suggestion plainAttribute .cyrillic).1 plainFinding
    node '"' _ _ hmem hnode hattribute rfl hquoted
  rw [htext, hname] at hsuggestion
  rw [htext] at hdenotes
  have hkind : plainAttribute.kind? plainFinding.node = some node.kind := by
    rw [kind?, hnode]
    rfl
  exact ⟨hmem, hsuggestion.trans (by decide +kernel), hkind, hdenotes.mpr (by decide +kernel)⟩

/-- A backslash becomes an escape, a line break breaks the string off, and a reference is
spelled out. -/
theorem attribute_characters_change_meaning :
    let suggestions (source : String) :=
      ((readMarkup source).check .cyrillic true).map Finding.suggestion?
    let value (source : String) := (readMarkup source).kind? 5
    (suggestions "<p title=\"да\\нет\" />" = [some "\x7bi18n(\"да\\нет\")\x7d".toList] ∧
        value "<p title=\"да\\нет\" />" = some (.string "да\\нет".toList) ∧
        ¬Denotes "\"да\\нет\"".toList "да\\нет".toList) ∧
      (suggestions "<p title=\"да\nнет\" />" = [some "\x7bi18n(\"да\nнет\")\x7d".toList] ∧
        value "<p title=\"да\nнет\" />" = some (.string "да\nнет".toList) ∧
        ¬Denotes "\"да\nнет\"".toList "да\nнет".toList) ∧
      suggestions "<p title=\"да&amp;нет\" />" = [some "\x7bi18n(\"да&amp;нет\")\x7d".toList] ∧
        value "<p title=\"да&amp;нет\" />" = some (.string "да&нет".toList) ∧
        ¬Denotes "\"да&amp;нет\"".toList "да&нет".toList := by
  have hchanged : ∀ inner : Text, '"' ∉ inner →
      ¬(('\\' ∉ inner ∧ '\n' ∉ inner ∧ '\r' ∉ inner) ∧ hasReference inner = false) →
      ∀ literal value, literal = '"' :: inner ++ ['"'] → value = decodeAttribute inner →
        ¬Denotes literal value := by
    rintro inner hinner hplain _ _ rfl rfl hdenotes
    exact hplain ((denotes_decodeAttribute_iff (Or.inr rfl) hinner).mp hdenotes)
  refine ⟨and_assoc.mp ⟨by decide +kernel, ?_⟩, and_assoc.mp ⟨by decide +kernel, ?_⟩,
    and_assoc.mp ⟨by decide +kernel, ?_⟩⟩
  · exact hchanged "да\\нет".toList (by decide +kernel) (by decide +kernel) _ _
      (by decide +kernel) (by decide +kernel)
  · exact hchanged "да\nнет".toList (by decide +kernel) (by decide +kernel) _ _
      (by decide +kernel) (by decide +kernel)
  · exact hchanged "да&amp;нет".toList (by decide +kernel) (by decide +kernel) _ _
      (by decide +kernel) (by decide +kernel)

end Tree

end Untranslated
