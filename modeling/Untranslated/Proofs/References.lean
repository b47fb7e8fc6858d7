import Untranslated.Proofs.Lines
import Untranslated.Proofs.Quotation
import Untranslated.Proofs.Trimming
import Untranslated.Syntax.Entity

/-!
# Character references

Where a text has a reference, and what decoding does about it.  A reference is
letters and digits between two marks, an ampersand and a semicolon.  Decoding puts
one character in its place, so that a mark at least is lost with every reference,
and it leaves a text without references alone.  No reference has a blank in it, so
that trimming lines and joining them neither makes references nor breaks any.
-/

namespace Untranslated

namespace Syntax

open CharSet (hexDigit?)

/-! ## The text of a reference -/

/-- The characters that do not stand between the marks of a reference. -/
def EndsReference (char : Char) : Prop := isBlank char = true ∨ IsReferenceMark char

section Body

variable {char : Char}

theorem EndsReference.hexDigit? (hends : EndsReference char) : hexDigit? char = none := by
  rcases hends with hblank | rfl | rfl
  · exact hexDigit?_eq_none_of_isBlank hblank
  · rfl
  · rfl

theorem EndsReference.decimalDigit? (hends : EndsReference char) : decimalDigit? char = none := by
  have hhex := hends.hexDigit?
  unfold Syntax.decimalDigit?
  split
  · next hrange =>
      rw [CharSet.hexDigit?, if_pos hrange] at hhex
      cases hhex
  · rfl

theorem numeral?_eq_none_of_mem {base : Nat} {digit? : Char → Option Nat} {digits : Text}
    (hdigit : digit? char = none) (hmem : char ∈ digits) :
    numeral? base digit? digits = none := by
  have hfold : ∀ value, digits.foldlM
      (fun value char => (digit? char).map (value * base + ·)) value = none := by
    induction digits with
    | nil => cases hmem
    | cons first digits ih =>
        intro value
        rw [List.foldlM_cons]
        rcases List.mem_cons.mp hmem with rfl | hmem
        · rw [hdigit]
          rfl
        · cases digit? first with
          | none => rfl
          | some digit => exact ih hmem _
  rw [numeral?, hfold]
  split <;> rfl

theorem lookup_namedReferences_eq_none (hends : EndsReference char) {name : Text}
    (hmem : char ∈ name) : namedReferences.lookup (String.ofList name) = none := by
  have hnames : namedReferences.all (fun named => named.1.toList.all fun char =>
      !isBlank char && char != '&' && char != ';') = true := by
    decide +kernel
  cases hlookup : namedReferences.lookup (String.ofList name) with
  | none => rfl
  | some code =>
      obtain ⟨before, after, hsplit, -⟩ := List.lookup_eq_some_iff.mp hlookup
      have hentry : (String.ofList name, code) ∈ namedReferences := by simp [hsplit]
      have hchar := List.all_eq_true.mp (List.all_eq_true.mp hnames _ hentry) char
        (by rwa [String.toList_ofList])
      rcases hends with hblank | rfl | rfl
      · simp [hblank] at hchar
      · cases hchar
      · cases hchar

/-- A reference has no blanks in it, and no marks but its own. -/
theorem reference?_eq_none_of_mem (hends : EndsReference char) {body : Text}
    (hmem : char ∈ body) : reference? body = none := by
  have hne : ∀ other, ¬EndsReference other → char ≠ other := by
    rintro other hother rfl
    exact hother hends
  have hhash : char ≠ '#' := hne _ (by unfold EndsReference IsReferenceMark; decide)
  have hletter : char ≠ 'x' := hne _ (by unfold EndsReference IsReferenceMark; decide)
  unfold reference?
  split
  · rw [numeral?_eq_none_of_mem hends.hexDigit? (by simpa [hhash, hletter] using hmem)]
    rfl
  · rw [numeral?_eq_none_of_mem hends.decimalDigit? (by simpa [hhash] using hmem)]
    rfl
  · rw [lookup_namedReferences_eq_none hends hmem]
    rfl

end Body

/-- What comes up to the first semicolon is split off, if it is short. -/
theorem splitReference_eq_some_iff {text body after : Text} :
    splitReference text = some (body, after) ↔
      text = body ++ ';' :: after ∧ ';' ∉ body ∧ body.length < 10 := by
  constructor
  · intro hsplit
    simp only [splitReference] at hsplit
    have hwhole : text.takeWhile (· != ';') ++ text.dropWhile (· != ';') = text :=
      List.takeWhile_append_dropWhile
    have hdrop : text.drop (text.takeWhile (· != ';')).length = text.dropWhile (· != ';') := by
      calc text.drop (text.takeWhile (· != ';')).length
        _ = (text.takeWhile (· != ';') ++ text.dropWhile (· != ';')).drop
            (text.takeWhile (· != ';')).length := by rw [hwhole]
        _ = text.dropWhile (· != ';') := List.drop_left
    rw [hdrop] at hsplit
    split at hsplit
    · next mark rest hrest =>
        have hmark : mark = ';' := by
          have hhead := List.head?_dropWhile_not (· != ';') text
          simpa [hrest] using hhead
        subst hmark
        split at hsplit
        · next hshort =>
            cases hsplit
            refine ⟨by rw [← hrest, hwhole], fun hmem => ?_, hshort⟩
            simpa using List.all_eq_true.mp List.all_takeWhile _ hmem
        · cases hsplit
    · cases hsplit
  · rintro ⟨rfl, hnone, hshort⟩
    have htake : (body ++ ';' :: after).takeWhile (· != ';') = body := by
      rw [List.takeWhile_append_of_pos fun char hchar => by
        rw [bne_iff_ne]
        rintro rfl
        exact hnone hchar]
      simp
    simp [splitReference, htake, hshort]

/-! ## Texts with references -/

/-- Whether a reference stands at the start of a text. -/
def startsReference : Text → Bool
  | '&' :: chars => ((splitReference chars).bind fun split => reference? split.1).isSome
  | _ => false

/-- Whether a reference stands anywhere in a text. -/
def hasReference : Text → Bool
  | [] => false
  | char :: chars => startsReference (char :: chars) || hasReference chars

theorem startsReference_iff {text : Text} :
    startsReference text = true ↔
      ∃ body, '&' :: (body ++ [';']) <+: text ∧ body.length < 10 ∧
        (reference? body).isSome = true := by
  constructor
  · intro hstarts
    unfold startsReference at hstarts
    split at hstarts
    · next chars =>
        obtain ⟨char, hchar⟩ := Option.isSome_iff_exists.mp hstarts
        obtain ⟨⟨body, after⟩, hsplit, hbody⟩ := Option.bind_eq_some_iff.mp hchar
        obtain ⟨rfl, -, hshort⟩ := splitReference_eq_some_iff.mp hsplit
        exact ⟨body, ⟨after, by simp⟩, hshort, Option.isSome_of_eq_some hbody⟩
    · cases hstarts
  · rintro ⟨body, ⟨after, rfl⟩, hshort, hbody⟩
    have hnone : ';' ∉ body := by
      intro hmem
      rw [reference?_eq_none_of_mem (Or.inr (Or.inr rfl)) hmem] at hbody
      cases hbody
    have hsplit : splitReference (body ++ ';' :: after) = some (body, after) :=
      splitReference_eq_some_iff.mpr ⟨rfl, hnone, hshort⟩
    simpa [startsReference, hsplit] using hbody

/-- A text has a reference if a part of it is one. -/
theorem hasReference_iff {text : Text} :
    hasReference text = true ↔
      ∃ body, '&' :: (body ++ [';']) <:+: text ∧ body.length < 10 ∧
        (reference? body).isSome = true := by
  induction text with
  | nil => simp [hasReference]
  | cons char chars ih =>
      simp only [hasReference, Bool.or_eq_true, startsReference_iff, ih, List.infix_cons_iff,
        or_and_right, exists_or]

/-- A reference lies on one side of a blank. -/
theorem hasReference_append_blank {blank : Char} (hblank : isBlank blank = true)
    (front back : Text) :
    hasReference (front ++ blank :: back) = (hasReference front || hasReference back) := by
  induction front with
  | nil =>
      have hstarts : startsReference (blank :: back) = false := by
        unfold startsReference
        split
        · next heq =>
            cases heq
            cases hblank
        · rfl
      simp [hasReference, hstarts]
  | cons char front ih =>
      have hstarts : startsReference (char :: (front ++ blank :: back)) =
          startsReference (char :: front) := by
        rw [Bool.eq_iff_iff, startsReference_iff, startsReference_iff]
        refine exists_congr fun body => and_congr_left fun hbody => ?_
        refine ⟨fun hstarts => ?_, fun hstarts => hstarts.trans (List.prefix_append _ _)⟩
        -- A reference that reached beyond the blank would have it between its marks.
        have hfront : char :: front ++ [blank] <+: char :: (front ++ blank :: back) :=
          ⟨back, by simp⟩
        refine List.prefix_of_prefix_length_le hstarts (List.prefix_append _ _)
          (Nat.le_of_not_lt fun hlong => ?_)
        have hinside := List.prefix_of_prefix_length_le hfront hstarts (by
          rw [List.length_append]
          exact hlong)
        have hmem : blank ∈ '&' :: (body ++ [';']) := hinside.subset (by simp)
        simp only [List.mem_cons, List.mem_append, List.not_mem_nil, or_false] at hmem
        rcases hmem with rfl | hmem | rfl
        · cases hblank
        · rw [reference?_eq_none_of_mem (Or.inl hblank) hmem] at hbody
          cases hbody.2
        · cases hblank
      rw [List.cons_append, hasReference, hasReference, ih, hstarts, Bool.or_assoc]

/-! ## Decoding -/

/-- What a text stands for: a reference is a character, and when `joinLines` is set a
carriage return before a line feed is nothing. -/
inductive Decoded (joinLines : Bool) : Text → Text → Prop where
  | nil : Decoded joinLines [] []
  | char {char : Char} {chars value : Text}
      (hstarts : startsReference (char :: chars) = false)
      (hchars : Decoded joinLines chars value) :
      Decoded joinLines (char :: chars) (char :: value)
  | reference {body after value : Text} {char : Char} (hshort : body.length < 10)
      (hbody : reference? body = some char) (hafter : Decoded joinLines after value) :
      Decoded joinLines ('&' :: (body ++ ';' :: after)) (char :: value)
  | lineBreak {chars value : Text} (hjoin : joinLines = true)
      (hchars : Decoded joinLines chars value) :
      Decoded joinLines ('\r' :: '\n' :: chars) ('\n' :: value)

theorem startsReference_of_ne {char : Char} (hchar : char ≠ '&') (chars : Text) :
    startsReference (char :: chars) = false := by
  unfold startsReference
  split
  · next heq => exact absurd (List.cons.inj heq).1 hchar
  · rfl

theorem decoded_decodeReferences (joinLines : Bool) {fuel : Nat} {text : Text}
    (hfuel : text.length ≤ fuel) :
    Decoded joinLines text (decodeReferences joinLines fuel text) := by
  fun_induction decodeReferences joinLines fuel text with
  | case1 text =>
      rw [List.eq_nil_of_length_eq_zero (Nat.le_zero.mp hfuel)]
      exact .nil
  | case2 => exact .nil
  | case3 fuel chars hsplit ih =>
      exact .char (by simp [startsReference, hsplit]) (ih (Nat.le_of_succ_le_succ hfuel))
  | case4 fuel chars body after hsplit hbody ih =>
      exact .char (by simp [startsReference, hsplit, hbody]) (ih (Nat.le_of_succ_le_succ hfuel))
  | case5 fuel chars body after hsplit char hbody ih =>
      obtain ⟨rfl, -, hshort⟩ := splitReference_eq_some_iff.mp hsplit
      refine .reference hshort hbody (ih ?_)
      simp only [List.length_cons, List.length_append] at hfuel
      omega
  | case6 fuel chars hjoin ih =>
      exact .lineBreak hjoin (ih (Nat.le_of_succ_le (Nat.le_of_succ_le_succ hfuel)))
  | case7 fuel chars hjoin ih =>
      have hrest := ih (Nat.le_of_succ_le (Nat.le_of_succ_le_succ hfuel))
      exact .char (startsReference_of_ne (by decide) _)
        (.char (startsReference_of_ne (by decide) _) hrest)
  | case8 fuel char chars hchar _ ih =>
      exact .char (startsReference_of_ne hchar chars) (ih (Nat.le_of_succ_le_succ hfuel))

/-- The number of marks in a text. -/
def marks (text : Text) : Nat := text.count '&' + text.count ';'

theorem marks_append (front back : Text) : marks (front ++ back) = marks front + marks back := by
  simp only [marks, List.count_append]
  omega

theorem marks_cons (char : Char) (text : Text) :
    marks (char :: text) = marks [char] + marks text :=
  marks_append [char] text

theorem marks_singleton_le (char : Char) : marks [char] ≤ 1 := by
  by_cases hchar : char = '&'
  · rw [hchar]
    decide
  · rw [marks, List.count_singleton, List.count_singleton,
      if_neg (Bool.not_eq_true _ ▸ beq_eq_false_iff_ne.mpr hchar), Nat.zero_add]
    split
    · exact Nat.le_refl 1
    · exact Nat.zero_le 1

/-- With references decoding takes a mark at least. -/
theorem Decoded.marks_le {joinLines : Bool} {text value : Text}
    (hdecoded : Decoded joinLines text value) :
    marks value + (hasReference text).toNat ≤ marks text := by
  induction hdecoded with
  | nil => decide
  | @char char chars value hstarts _ ih =>
      rw [hasReference, hstarts, Bool.false_or, marks_cons char value, marks_cons char chars]
      omega
  | @reference body after value char _ _ _ ih =>
      have hfirst : marks ['&'] = 1 := by decide
      have hlast : marks [';'] = 1 := by decide
      have hchar := marks_singleton_le char
      have hflag := Bool.toNat_le (hasReference ('&' :: (body ++ ';' :: after)))
      rw [marks_cons char value, marks_cons '&', marks_append, marks_cons ';']
      omega
  | @lineBreak chars value _ _ ih =>
      have hfeed : marks ['\n'] = 0 := by decide
      have hreturn : marks ['\r'] = 0 := by decide
      rw [hasReference, hasReference, startsReference_of_ne (by decide),
        startsReference_of_ne (by decide), Bool.false_or, Bool.false_or, marks_cons '\n' value,
        marks_cons '\r', marks_cons '\n' chars]
      omega

/-- Decoding leaves a text without references alone. -/
theorem Decoded.eq_self {joinLines : Bool} {text value : Text}
    (hdecoded : Decoded joinLines text value) (hnone : hasReference text = false)
    (hlines : joinLines = true → '\n' ∉ text) : value = text := by
  induction hdecoded with
  | nil => rfl
  | char _ _ ih =>
      rw [hasReference, Bool.or_eq_false_iff] at hnone
      rw [ih hnone.2 fun hjoin => List.not_mem_of_not_mem_cons (hlines hjoin)]
  | @reference body after value char hshort hbody =>
      have hhas : hasReference ('&' :: (body ++ ';' :: after)) = true :=
        hasReference_iff.mpr ⟨body, ⟨[], after, by simp⟩, hshort, Option.isSome_of_eq_some hbody⟩
      rw [hhas] at hnone
      cases hnone
  | lineBreak hjoin => exact absurd (by simp) (hlines hjoin)

/-- Decoding leaves alone the texts without references, and no others. -/
theorem decodeReferences_eq_self_iff {joinLines : Bool} {text : Text}
    (hlines : joinLines = true → '\n' ∉ text) :
    decodeReferences joinLines text.length text = text ↔ hasReference text = false := by
  have hdecoded := decoded_decodeReferences joinLines (Nat.le_refl text.length)
  constructor
  · intro hself
    have hmarks := hdecoded.marks_le
    rw [hself] at hmarks
    exact Bool.toNat_eq_zero.mp (by omega)
  · intro hnone
    exact hdecoded.eq_self hnone hlines

/-! ## Blanks and lines -/

/-- Trimming breaks no reference. -/
theorem hasReference_trim (text : Text) : hasReference text.trim = hasReference text := by
  apply Text.view_trim
  · intro blank text hblank
    exact hasReference_append_blank hblank [] text
  · intro blank text hblank
    rw [hasReference_append_blank hblank, hasReference, Bool.or_false]

/-- Lines joined by blanks have the references that each of them has. -/
theorem hasReference_intercalate {blank : Char} (hblank : isBlank blank = true)
    (lines : List Text) :
    hasReference (List.intercalate [blank] lines) = lines.any hasReference := by
  induction lines with
  | nil => rfl
  | cons line lines ih =>
      cases lines with
      | nil => simp [List.intercalate]
      | cons next lines =>
          rw [List.intercalate_cons_cons, List.append_assoc, List.singleton_append,
            hasReference_append_blank hblank, ih]
          rfl

/-- Flattening neither makes references nor breaks any. -/
theorem hasReference_flattenLines (text : Text) :
    hasReference text.flattenLines = hasReference text := by
  have hlines : hasReference text = text.splitLines.any hasReference := by
    rw [← hasReference_intercalate (rfl : isBlank '\n' = true), Text.intercalate_splitLines]
  have hline : ∀ line : Text,
      (!line.trim.isEmpty && hasReference line.trim) = hasReference line := by
    intro line
    rw [← hasReference_trim line]
    cases line.trim <;> rfl
  rw [Text.flattenLines, Text.filter_trim_contentLines, hasReference_intercalate rfl,
    List.any_filter, List.any_map, hlines]
  exact congrArg text.splitLines.any (funext hline)

end Syntax

end Untranslated
