import Untranslated.Syntax.Token

/-!
# Scanning goes forward

A cursor leads to another if what is left of the text at the one is what is left at the other after
some more text, and the offsets differ by the size of that text.  Every scanner ends at a cursor to
which the one leads where it starts, and a string literal has at least its opening quote.
-/

namespace Untranslated.Syntax

open CharSet (hexDigit?)

theorem utf8Size_of_hexDigit? {char : Char} {digit : Nat}
    (hdigit : hexDigit? char = some digit) : char.utf8Size = 1 := by
  have hlast : char ≤ 'f' := by
    unfold hexDigit? at hdigit
    split at hdigit
    · rename_i hrange
      exact Char.le_trans hrange.2 (by decide)
    · split at hdigit
      · rename_i hrange
        exact hrange.2
      · split at hdigit
        · rename_i hrange
          exact Char.le_trans hrange.2 (by decide)
        · cases hdigit
  rw [Char.utf8Size_eq_one_iff]
  exact UInt32.le_trans hlast (by decide)

theorem utf8Size_of_octalDigit? {char : Char} {digit : Nat}
    (hdigit : octalDigit? char = some digit) : char.utf8Size = 1 := by
  unfold octalDigit? at hdigit
  split at hdigit
  · next hrange =>
      rw [Char.utf8Size_eq_one_iff]
      exact UInt32.le_trans hrange.2 (by decide)
  · cases hdigit

namespace Cursor

/-- From the one cursor to the other, `passed` is what stands between them. -/
def Passes (earlier : Cursor) (passed : Text) (later : Cursor) : Prop :=
  earlier.rest = passed ++ later.rest ∧ later.offset = earlier.offset + Text.byteSize passed

/-- The later cursor stands in the same text, after some more of it. -/
def Leads (earlier later : Cursor) : Prop := ∃ passed, earlier.Passes passed later

theorem Passes.refl (cursor : Cursor) : cursor.Passes [] cursor := ⟨rfl, rfl⟩

theorem Passes.trans {first second third : Cursor} {passed more : Text}
    (hfirst : first.Passes passed second) (hsecond : second.Passes more third) :
    first.Passes (passed ++ more) third :=
  ⟨by rw [hfirst.1, hsecond.1, List.append_assoc],
    by rw [hsecond.2, hfirst.2, Text.byteSize_append, Nat.add_assoc]⟩

theorem Passes.cons {char : Char} {chars passed : Text} {offset : Nat} {later : Cursor}
    (hpasses : Passes ⟨chars, offset + char.utf8Size⟩ passed later) :
    Passes ⟨char :: chars, offset⟩ (char :: passed) later :=
  ⟨congrArg (char :: ·) hpasses.1, by rw [hpasses.2, Text.byteSize_cons, Nat.add_assoc]⟩

theorem Leads.refl (cursor : Cursor) : cursor.Leads cursor := ⟨[], .refl cursor⟩

theorem Leads.trans {first second third : Cursor} (hfirst : first.Leads second)
    (hsecond : second.Leads third) : first.Leads third := by
  obtain ⟨passed, hpassed⟩ := hfirst
  obtain ⟨more, hmore⟩ := hsecond
  exact ⟨passed ++ more, hpassed.trans hmore⟩

theorem Leads.rest_suffix {earlier later : Cursor} (hleads : earlier.Leads later) :
    later.rest <:+ earlier.rest := by
  obtain ⟨passed, hrest, -⟩ := hleads
  exact ⟨passed, hrest.symm⟩

theorem Leads.offset_le {earlier later : Cursor} (hleads : earlier.Leads later) :
    earlier.offset ≤ later.offset := by
  obtain ⟨passed, -, hoffset⟩ := hleads
  omega

theorem Leads.cons {char : Char} {chars : Text} {offset : Nat} {later : Cursor}
    (hleads : Leads ⟨chars, offset + char.utf8Size⟩ later) :
    Leads ⟨char :: chars, offset⟩ later := by
  obtain ⟨passed, hpasses⟩ := hleads
  exact ⟨char :: passed, hpasses.cons⟩

theorem Leads.ascii {char : Char} {chars : Text} {offset : Nat} {later : Cursor}
    (hsize : char.utf8Size = 1) (hleads : Leads ⟨chars, offset + 1⟩ later) :
    Leads ⟨char :: chars, offset⟩ later :=
  .cons (hsize ▸ hleads)

theorem leads_skip (cursor : Cursor) : cursor.Leads cursor.skip := by
  obtain ⟨rest, offset⟩ := cursor
  cases rest with
  | nil => exact .refl _
  | cons char chars => exact .cons (.refl _)

theorem offset_lt_skip {cursor : Cursor} {char : Char} {chars : Text}
    (hrest : cursor.rest = char :: chars) : cursor.offset < cursor.skip.offset := by
  rw [skip, hrest]
  exact Nat.lt_add_of_pos_right char.utf8Size_pos

theorem leads_skipMany (count : Nat) (cursor : Cursor) : cursor.Leads (cursor.skipMany count) := by
  induction count generalizing cursor with
  | zero => exact .refl _
  | succ count ih => exact cursor.leads_skip.trans (ih cursor.skip)

theorem passes_skipWhile (keep : Char → Bool) (cursor : Cursor) :
    cursor.Passes (cursor.rest.takeWhile keep) (cursor.skipWhile keep) := by
  have hgo : ∀ (text : Text) (offset : Nat),
      Passes ⟨text, offset⟩ (text.takeWhile keep) (skipWhile.go keep text offset) := by
    intro text
    induction text with
    | nil => exact fun offset => .refl _
    | cons char chars ih =>
        intro offset
        rw [List.takeWhile_cons]
        unfold skipWhile.go
        split
        · exact .cons (ih _)
        · exact .refl _
  exact hgo cursor.rest cursor.offset

theorem leads_skipWhile (keep : Char → Bool) (cursor : Cursor) :
    cursor.Leads (cursor.skipWhile keep) :=
  ⟨_, cursor.passes_skipWhile keep⟩

theorem passes_skip {cursor : Cursor} {char : Char} (hchar : cursor.rest.head? = some char) :
    cursor.Passes [char] cursor.skip := by
  obtain ⟨rest, offset⟩ := cursor
  obtain ⟨chars, rfl⟩ := List.head?_eq_some_iff.mp hchar
  exact .cons (.refl _)

end Cursor

open Cursor

theorem leads_readBracedHex {text : Text} {offset value code : Nat} {after : Cursor}
    (hread : readBracedHex text offset value = some (code, after)) :
    Leads ⟨text, offset⟩ after := by
  fun_induction readBracedHex text offset value with
  | case2 chars offset value =>
      cases hread
      exact .ascii (by decide) (.refl _)
  | case4 char chars offset value hchar digit hdigit hbound ih =>
      exact .ascii (utf8Size_of_hexDigit? hdigit) (ih hread)
  | _ => cases hread

theorem leads_readUnicodeEscape {cursor after : Cursor} {code : Nat}
    (hread : readUnicodeEscape cursor = some (code, after)) : cursor.Leads after := by
  obtain ⟨rest, offset⟩ := cursor
  unfold readUnicodeEscape at hread
  dsimp only at hread
  split at hread
  · cases hread
  · exact .ascii (by decide) (leads_readBracedHex hread)
  · simp only [Option.bind_eq_bind, Option.bind_eq_some_iff, Option.pure_def, Option.some.injEq,
      Prod.mk.injEq] at hread
    obtain ⟨_, ha, _, hb, _, hc, _, hd, -, rfl⟩ := hread
    exact .ascii (utf8Size_of_hexDigit? ha) (.ascii (utf8Size_of_hexDigit? hb)
      (.ascii (utf8Size_of_hexDigit? hc) (.ascii (utf8Size_of_hexDigit? hd) (.refl _))))
  · cases hread

theorem leads_readOctal (count value : Nat) (text : Text) (offset : Nat) :
    Leads ⟨text, offset⟩ (readOctal count value text offset).2 := by
  fun_induction readOctal count value text offset with
  | case4 count value char chars offset digit hdigit hbound ih =>
      exact .ascii (utf8Size_of_octalDigit? hdigit) ih
  | _ => exact .refl _

theorem leads_skipTrivia {trivia : Trivia} {text : Text} {offset : Nat}
    {newline newline' : Bool} {after : Cursor}
    (hskip : skipTrivia trivia text offset newline = some (after, newline')) :
    Leads ⟨text, offset⟩ after := by
  have hslash : '/'.utf8Size = 1 := rfl
  have hstar : '*'.utf8Size = 1 := rfl
  fun_induction skipTrivia trivia text offset newline <;> grind [Leads.refl, Leads.cons]

theorem leads_readEscape {inTemplate : Bool} {cursor after : Cursor} {codes : List Nat}
    (hread : readEscape inTemplate cursor = some (codes, after)) : cursor.Leads after := by
  obtain ⟨rest, offset⟩ := cursor
  unfold readEscape at hread
  dsimp only at hread
  split at hread
  · cases hread
  · cases hread
    exact .ascii (by decide) (.ascii (by decide) (.refl _))
  · split at hread
    · simp only [Option.bind_eq_bind, Option.bind_eq_some_iff, Option.pure_def,
        Option.some.injEq, Prod.mk.injEq] at hread
      obtain ⟨_, hhigh, _, hlow, -, rfl⟩ := hread
      exact .ascii (by decide) (.ascii (utf8Size_of_hexDigit? hhigh)
        (.ascii (utf8Size_of_hexDigit? hlow) (.refl _)))
    · cases hread
  · obtain ⟨found, hfound, heq⟩ := Option.map_eq_some_iff.mp hread
    cases heq
    exact .ascii (by decide) (leads_readUnicodeEscape hfound)
  · next char chars _ _ _ =>
      have hchar : Leads ⟨char :: chars, offset⟩ ⟨chars, offset + char.utf8Size⟩ := .cons (.refl _)
      split at hread
      · cases hread
        exact hchar
      · next digit hletter hdigit =>
          split at hread
          · cases hread
            exact hchar
          · split at hread
            · cases hread
            · cases hread
              exact .ascii (utf8Size_of_octalDigit? hdigit) (leads_readOctal ..)
      · split at hread
        all_goals
          cases hread
          exact hchar

theorem leads_readStringBody {quote : Char} {fuel : Nat} {cursor after : Cursor}
    {codes : List Nat} (hread : readStringBody quote fuel cursor = some (codes, after)) :
    cursor.Leads after := by
  induction fuel generalizing cursor codes after with
  | zero => cases hread
  | succ fuel ih =>
      obtain ⟨rest, offset⟩ := cursor
      unfold readStringBody at hread
      dsimp only at hread
      split at hread
      · cases hread
        exact .refl _
      · next char chars =>
          simp only [Option.bind_eq_bind, Option.pure_def] at hread
          split at hread
          · cases hread
            exact .cons (.refl _)
          split at hread
          · cases hread
            exact .refl _
          split at hread
          · obtain ⟨escape, hescape, hread⟩ := Option.bind_eq_some_iff.mp hread
            obtain ⟨more, hmore, heq⟩ := Option.bind_eq_some_iff.mp hread
            cases heq
            exact .cons ((leads_readEscape hescape).trans (ih hmore))
          · obtain ⟨more, hmore, heq⟩ := Option.bind_eq_some_iff.mp hread
            cases heq
            exact .cons (ih hmore)

theorem leads_scanWord {fuel : Nat} {cursor after : Cursor} {seen name : Text}
    {plain plain' : Bool} (hscan : scanWord fuel cursor seen plain = some (name, plain', after)) :
    cursor.Leads after := by
  fun_induction scanWord fuel cursor seen plain with
  | case2 fuel cursor seen plain chars hrest code escaped hescape char hchar hpart ih =>
      obtain ⟨rest, offset⟩ := cursor
      cases hrest
      exact .ascii (by decide) (.ascii (by decide)
        ((leads_readUnicodeEscape hescape).trans (ih hscan)))
  | case6 fuel cursor seen plain char chars _ hrest hpart ih =>
      obtain ⟨rest, offset⟩ := cursor
      cases hrest
      exact .cons (ih hscan)
  | case7 | case8 =>
      cases hscan
      exact .refl _
  | _ => cases hscan

/-- A word without escapes is read as it is spelled. -/
theorem passes_scanWord {fuel : Nat} {cursor after : Cursor} {seen name : Text} {plain : Bool}
    (hscan : scanWord fuel cursor seen plain = some (name, true, after)) :
    plain = true ∧ ∃ passed, name = seen.reverse ++ passed ∧ cursor.Passes passed after := by
  fun_induction scanWord fuel cursor seen plain with
  | case2 fuel cursor seen plain chars hrest code escaped hescape char hchar hpart ih =>
      cases (ih hscan).1
  | case6 fuel cursor seen plain char chars _ hrest hpart ih =>
      obtain ⟨hplain, passed, rfl, hpasses⟩ := ih hscan
      obtain ⟨rest, offset⟩ := cursor
      cases hrest
      exact ⟨hplain, char :: passed, by simp, hpasses.cons⟩
  | case7 | case8 =>
      cases hscan
      exact ⟨rfl, [], by simp, .refl _⟩
  | _ => cases hscan

theorem leads_skipExponent (cursor : Cursor) : cursor.Leads (skipExponent cursor) := by
  have hwhile := leads_skipWhile isDigitOrSeparator
  have hskip := cursor.leads_skip
  have hmany := cursor.leads_skipMany 2
  unfold skipExponent
  grind [Leads.refl, Leads.trans]

theorem leads_skipDecimal (cursor : Cursor) : cursor.Leads (skipDecimal cursor) := by
  have hwhile := leads_skipWhile isDigitOrSeparator
  have hskip := leads_skip
  have hexponent := leads_skipExponent
  unfold skipDecimal
  grind [Leads.trans]

theorem leads_skipNumber {cursor after : Cursor} (hskip : skipNumber cursor = some after) :
    cursor.Leads after := by
  have hwhile := leads_skipWhile
  have hnext := leads_skip
  have hmany := cursor.leads_skipMany 2
  have hdecimal := leads_skipDecimal cursor
  unfold skipNumber skipBaseDigits at hskip
  grind [Leads.trans]

theorem leads_scanNumber (cursor : Cursor) : cursor.Leads (scanNumber cursor).2 := by
  unfold scanNumber
  split
  · exact cursor.leads_skip
  · next after hskip =>
      have hafter := leads_skipNumber hskip
      split
      · split
        · exact hafter.trans after.leads_skip
        · exact hafter
      · exact hafter

theorem leads_scanToken (limit : Nat) (cursor : Cursor) :
    cursor.Leads (scanToken limit cursor).2 := by
  obtain ⟨rest, offset⟩ := cursor
  have hword := @leads_scanWord (limit + 1)
  have hskip := leads_skip
  have hmany := leads_skipMany
  have hnumber := leads_scanNumber ⟨rest, offset⟩
  have hstring := @leads_readStringBody
  unfold scanToken
  grind [Leads.refl, Leads.trans, Leads.cons]

theorem offset_lt_scanToken {limit : Nat} {cursor : Cursor} {codes : List Nat}
    (htoken : (scanToken limit cursor).1 = .string codes) :
    cursor.offset < (scanToken limit cursor).2.offset := by
  unfold scanToken at htoken ⊢
  split at htoken
  · cases htoken
  · next char chars hrest =>
      have hchar := char.utf8Size_pos
      have hstring := fun codes after (hread : readStringBody char (limit + 1)
        ⟨chars, cursor.offset + char.utf8Size⟩ = some (codes, after)) =>
          (leads_readStringBody hread).offset_le
      unfold scanNumber at htoken
      grind

theorem word_isPrefix_of_scanToken {limit : Nat} {cursor : Cursor} {name : String}
    (htoken : (scanToken limit cursor).1 = .word name true) : name.toList <+: cursor.rest := by
  unfold scanToken scanNumber at htoken
  split at htoken
  · cases htoken
  · split at htoken
    · split at htoken
      · next found plain after hscan =>
          split at htoken
          · cases htoken
          · cases htoken
            obtain ⟨-, passed, rfl, hpasses⟩ := passes_scanWord hscan
            rw [hpasses.1, String.toList_ofList]
            exact List.prefix_append _ _
      · cases htoken
    · grind

end Untranslated.Syntax
