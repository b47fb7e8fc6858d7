import Untranslated.Pattern.Glob
import Untranslated.Proofs.Paths

/-!
# Reading patterns

A text without wildcards stands for itself, and whether a pattern can be read does
not depend on such a text before it.  A pattern that starts with `**` and a name
does not see the names before the place where it matches.
-/

namespace Untranslated.Pattern.Glob

/-- A text has no character that means more than itself. -/
def isPlain (chars : List Char) : Bool :=
  chars.all fun char => char != '*' && char != '?' && char != '['

theorem isPlain_cons {char : Char} {chars : List Char} :
    isPlain (char :: chars) = true ↔
      char ≠ '*' ∧ char ≠ '?' ∧ char ≠ '[' ∧ isPlain chars = true := by
  simp [isPlain, and_assoc]

theorem isPlain_append {left right : List Char} :
    isPlain (left ++ right) = true ↔ isPlain left = true ∧ isPlain right = true := by
  simp [isPlain, List.all_append]

section Reading

variable {fuel position : Nat} {before : Option Char} {tokens : List GlobToken}

theorem read_nil : read fuel position before tokens [] = .ok ⟨tokens.reverse⟩ := by
  cases fuel <;> simp [read]

theorem read_cons_of_ne {char : Char} (hstar : char ≠ '*') (hquestion : char ≠ '?')
    (hbracket : char ≠ '[') (chars : List Char) :
    read (fuel + 1) position before tokens (char :: chars) =
      read fuel (position + 1) (some char) (.char char :: tokens) chars := by
  rw [read] <;> assumption

/-- Plain characters are read one by one, each as itself. -/
theorem read_append_of_isPlain {plain : List Char} (hplain : isPlain plain = true)
    (rest : List Char) :
    read (fuel + plain.length) position before tokens (plain ++ rest) =
      read fuel (position + plain.length) (plain.getLast?.or before)
        ((plain.map .char).reverse ++ tokens) rest := by
  induction plain generalizing position before tokens with
  | nil => rfl
  | cons char plain ih =>
      obtain ⟨hstar, hquestion, hbracket, hplain⟩ := isPlain_cons.mp hplain
      rw [List.length_cons, ← Nat.add_assoc, List.cons_append,
        read_cons_of_ne hstar hquestion hbracket, ih hplain]
      congr 1
      · omega
      · cases plain <;> simp [List.getLast?_cons]
      · simp

theorem parse_of_isPlain {text : String} (hplain : isPlain text.toList = true) :
    parse text = .ok ⟨text.toList.map .char⟩ := by
  rw [parse, ← String.length_toList, Nat.add_comm, ← List.append_nil text.toList]
  rw [List.length_append, List.length_nil, Nat.add_zero, read_append_of_isPlain hplain,
    read_nil]
  simp

theorem length_le_of_splitBracket? {chars inside rest : List Char}
    (hsplit : splitBracket? chars = some (inside, rest)) : rest.length ≤ chars.length := by
  unfold splitBracket? at hsplit
  split at hsplit
  · next first chars =>
      dsimp only at hsplit
      split at hsplit
      · next hdrop =>
          cases hsplit
          have hlength := congrArg List.length hdrop
          simp only [List.length_drop, List.length_cons] at hlength ⊢
          omega
      · cases hsplit
  · cases hsplit

theorem length_le_of_bracket? {chars rest : List Char} {token : GlobToken}
    (hbracket : bracket? chars = some (token, rest)) : rest.length ≤ chars.length := by
  unfold bracket? at hbracket
  split at hbracket
  · obtain ⟨⟨inside, found⟩, hsplit, hpair⟩ := Option.map_eq_some_iff.mp hbracket
    cases hpair
    exact Nat.le_succ_of_le (length_le_of_splitBracket? hsplit)
  · obtain ⟨⟨inside, found⟩, hsplit, hpair⟩ := Option.map_eq_some_iff.mp hbracket
    cases hpair
    exact length_le_of_splitBracket? hsplit

/-- Whether the rest of a pattern can be read depends on what was read before only in that two
asterisks must start a component. -/
theorem isOk_read_congr {other place : Nat} {previous : Option Char} {found : List GlobToken}
    {chars : List Char} (hfuel : chars.length < fuel) (hother : chars.length < other)
    (hbefore : (before.isSome && before != some '/') = (previous.isSome && previous != some '/')) :
    (read fuel position before tokens chars).isOk =
      (read other place previous found chars).isOk := by
  induction fuel generalizing other position place before previous tokens found chars with
  | zero => cases hfuel
  | succ fuel ih =>
      cases other with
      | zero => cases hother
      | succ other =>
          cases chars with
          | nil => rw [read_nil, read_nil]; rfl
          | cons char chars =>
              rw [List.length_cons, Nat.succ_lt_succ_iff] at hfuel hother
              by_cases hquestion : char = '?'
              · subst hquestion
                simp only [read]
                exact ih hfuel hother rfl
              by_cases hbracket : char = '['
              · subst hbracket
                simp only [read]
                cases hsplit : bracket? chars with
                | none => rfl
                | some found =>
                    obtain ⟨token, rest⟩ := found
                    have hrest := length_le_of_bracket? hsplit
                    exact ih (Nat.lt_of_le_of_lt hrest hfuel) (Nat.lt_of_le_of_lt hrest hother) rfl
              by_cases hstar : char = '*'
              · subst hstar
                simp only [read, hbefore]
                cases chars.takeWhile (· == '*') with
                | nil => exact ih hfuel hother rfl
                | cons star stars =>
                    cases stars with
                    | cons more stars => rfl
                    | nil =>
                        -- Only at two asterisks it matters what was read before.
                        cases previous.isSome && previous != some '/' with
                        | true => rfl
                        | false =>
                            simp only [Bool.false_eq_true, if_false]
                            have hlength : (chars.drop [star].length).length ≤ chars.length :=
                              List.length_drop ▸ Nat.sub_le ..
                            split
                            · rfl
                            · next rest hrest =>
                                rw [hrest, List.length_cons] at hlength
                                exact ih (by omega) (by omega) rfl
                            · rfl
              · rw [read_cons_of_ne hstar hquestion hbracket,
                  read_cons_of_ne hstar hquestion hbracket]
                exact ih hfuel hother rfl

/-- Whether a pattern can be read does not depend on plain components before it. -/
theorem isOk_parse_of_append {path pattern : String} {plain : List Char}
    (hplain : isPlain plain = true) (hpath : path.toList = plain ++ '/' :: pattern.toList) :
    (parse path).isOk = (parse pattern).isOk := by
  have hslash : isPlain (plain ++ ['/']) = true := isPlain_append.mpr ⟨hplain, rfl⟩
  have hchars : path.toList = (plain ++ ['/']) ++ pattern.toList := by
    rw [hpath, List.append_assoc]
    rfl
  have hlength : path.length + 1 = (pattern.length + 1) + (plain ++ ['/']).length := by
    rw [← String.length_toList, ← String.length_toList, hchars, List.length_append]
    omega
  rw [parse, hlength, hchars, read_append_of_isPlain hslash, List.getLast?_concat, parse]
  apply isOk_read_congr
  · rw [String.length_toList]
    exact Nat.lt_succ_self _
  · rw [String.length_toList]
    exact Nat.lt_succ_self _
  · rfl

end Reading

/-! ### Plain components -/

theorem literal?_chars (chars : List Char) : literal? ⟨chars.map .char⟩ = some (.ofList chars) := by
  have hchars : (chars.map GlobToken.char).mapM GlobToken.char? = some chars := by
    induction chars with
    | nil => rfl
    | cons char chars ih => simp [GlobToken.char?, ih]
  rw [literal?, hchars, Option.map_some]

theorem isRecursive_chars (chars : List Char) : isRecursive ⟨chars.map .char⟩ = false := by
  simp [isRecursive]

theorem literal?_of_isRecursive {glob : Glob} (hrecursive : glob.isRecursive = true) :
    glob.literal? = none := by
  obtain ⟨tokens⟩ := glob
  have htokens : tokens.mapM GlobToken.char? = none := by
    induction tokens with
    | nil => cases hrecursive
    | cons token tokens ih =>
        rw [isRecursive, List.contains_cons, Bool.or_eq_true, beq_iff_eq] at hrecursive
        rcases hrecursive with rfl | hrecursive
        · rfl
        · rw [List.mapM_cons, ih hrecursive]
          cases token.char? <;> rfl
  rw [literal?, htokens, Option.map_none]

/-! ### Patterns that do not see where they start -/

section Matching

variable (tokens : List GlobToken) (text : List Char)

theorem matchTokens_nil : matchTokens [] text = text.isEmpty := rfl

theorem matchTokens_char_nil (expected : Char) :
    matchTokens (.char expected :: tokens) [] = false := rfl

theorem matchTokens_char_cons (expected char : Char) :
    matchTokens (.char expected :: tokens) (char :: text) =
      (expected == char && matchTokens tokens text) := rfl

theorem matchTokens_anySequence :
    matchTokens (.anySequence :: tokens) text =
      (suffixes text).any (matchTokens tokens) := rfl

theorem matchTokens_anyDirectories :
    matchTokens (.anyDirectories :: tokens) text =
      (matchTokens tokens text || (afterSlashes text).any (matchTokens tokens) ||
        matchTokens tokens []) := rfl

end Matching

theorem matchTokens_chars (word : List Char) (tokens : List GlobToken) (text : List Char) :
    matchTokens (word.map .char ++ tokens) text = true ↔
      ∃ rest, text = word ++ rest ∧ matchTokens tokens rest = true := by
  induction word generalizing text with
  | nil => simp
  | cons char word ih =>
      cases text with
      | nil => simp [matchTokens_char_nil]
      | cons first text =>
          rw [List.map_cons, List.cons_append, matchTokens_char_cons, Bool.and_eq_true, ih,
            beq_iff_eq]
          constructor
          · rintro ⟨rfl, rest, rfl, hrest⟩
            exact ⟨rest, rfl, hrest⟩
          · rintro ⟨rest, htext, hrest⟩
            obtain ⟨rfl, rfl⟩ := List.cons_eq_cons.mp htext
            exact ⟨rfl, rest, rfl, hrest⟩

theorem afterSlashes_append (left right : List Char) :
    afterSlashes (left ++ '/' :: right) =
      (afterSlashes left).map (· ++ '/' :: right) ++ right :: afterSlashes right := by
  induction left with
  | nil => simp [afterSlashes]
  | cons char left ih =>
      by_cases hchar : char = '/'
      · simp [afterSlashes, hchar, ih]
      · simp [afterSlashes, hchar, ih]

theorem split_subset_of_mem_afterSlashes {left rest : List Char}
    (hrest : rest ∈ afterSlashes left) : Path.split rest ⊆ (Path.split left).tail := by
  induction left with
  | nil => cases hrest
  | cons char left ih =>
      by_cases hchar : char = '/'
      · rw [afterSlashes, if_pos hchar] at hrest
        rw [Path.split, if_pos hchar, List.tail_cons]
        rcases List.mem_cons.mp hrest with rfl | hrest
        · exact List.Subset.refl _
        · exact List.Subset.trans (ih hrest) fun _ => List.mem_of_mem_tail
      · rw [afterSlashes, if_neg hchar] at hrest
        obtain ⟨part, parts, hsplit⟩ := List.exists_cons_of_ne_nil (Path.split_ne_nil left)
        have htail := ih hrest
        rw [hsplit] at htail
        rwa [Path.split_cons_of_ne hchar hsplit]

/-- A text that goes on with a word and a slash starts with that word as a component. -/
theorem mem_split_of_matchTokens {word left right : List Char} (hword : '/' ∉ word)
    {tokens : List GlobToken}
    (hmatch : matchTokens (word.map .char ++ .char '/' :: tokens) (left ++ '/' :: right) = true) :
    word ∈ Path.split left := by
  obtain ⟨rest, htext, hrest⟩ := (matchTokens_chars ..).mp hmatch
  cases rest with
  | nil => cases hrest
  | cons char rest =>
      have hchar : char = '/' := by
        rw [matchTokens_char_cons, Bool.and_eq_true, beq_iff_eq] at hrest
        exact hrest.1.symm
      have hsplit := congrArg Path.split htext
      rw [hchar, Path.split_append_slash, Path.split_append_slash, Path.split_of_not_mem hword]
        at hsplit
      obtain ⟨part, parts, hparts⟩ := List.exists_cons_of_ne_nil (Path.split_ne_nil left)
      rw [hparts, List.cons_append, List.singleton_append] at hsplit
      rw [hparts, (List.cons_eq_cons.mp hsplit).1]
      exact List.mem_cons_self

/-- A pattern for what lies below a name, wherever that is, does not see a base without that
name. -/
theorem isMatch_join_below {word : List Char} (hword : '/' ∉ word) {base path : Path}
    (hbase : base ≠ "") (hpath : Path.isAbsolute path = false)
    (hfree : word ∉ Path.split base.trunk)
    (tokens : List GlobToken) :
    isMatch ⟨.anyDirectories :: (word.map .char ++ .char '/' :: tokens)⟩ (base.join path) =
      isMatch ⟨.anyDirectories :: (word.map .char ++ .char '/' :: tokens)⟩ path := by
  have hstart : matchTokens (word.map .char ++ .char '/' :: tokens)
      (base.trunk ++ '/' :: path.toList) = false := by
    refine Bool.eq_false_iff.mpr fun hmatch => hfree (mem_split_of_matchTokens hword hmatch)
  have hwithin : ((afterSlashes base.trunk).map (· ++ '/' :: path.toList)).any
      (matchTokens (word.map .char ++ .char '/' :: tokens)) = false := by
    rw [List.any_map, List.any_eq_false]
    intro rest hrest hmatch
    exact hfree (List.mem_of_mem_tail
      (split_subset_of_mem_afterSlashes hrest (mem_split_of_matchTokens hword hmatch)))
  rw [isMatch, isMatch, Path.toList_join hbase hpath, matchTokens_anyDirectories,
    matchTokens_anyDirectories, hstart, afterSlashes_append, List.any_append, hwithin,
    List.any_cons]
  rfl

theorem mem_suffixes {text rest : List Char} : rest ∈ suffixes text ↔ rest <:+ text := by
  induction text with
  | nil => rw [suffixes, List.mem_singleton, List.suffix_nil]
  | cons char text ih => rw [suffixes, List.mem_cons, ih, List.suffix_cons_iff]

theorem suffix_of_mem_afterSlashes {text rest : List Char} (hrest : rest ∈ afterSlashes text) :
    rest <:+ text := by
  induction text with
  | nil => cases hrest
  | cons char text ih =>
      rw [afterSlashes] at hrest
      split at hrest
      · rcases List.mem_cons.mp hrest with rfl | hrest
        · exact List.suffix_cons char rest
        · exact (ih hrest).trans (List.suffix_cons char text)
      · exact (ih hrest).trans (List.suffix_cons char text)

theorem matchTokens_ending {word text : List Char} :
    matchTokens (.anySequence :: word.map .char) text = true ↔ word <:+ text := by
  rw [matchTokens_anySequence, List.any_eq_true]
  constructor
  · rintro ⟨rest, hrest, hmatch⟩
    rw [← List.append_nil (word.map GlobToken.char), matchTokens_chars] at hmatch
    obtain ⟨more, rfl, hmore⟩ := hmatch
    rw [matchTokens_nil, List.isEmpty_iff] at hmore
    rw [hmore, List.append_nil] at hrest
    exact mem_suffixes.mp hrest
  · intro hword
    refine ⟨word, mem_suffixes.mpr hword, ?_⟩
    rw [← List.append_nil (word.map GlobToken.char), matchTokens_chars]
    exact ⟨[], (List.append_nil word).symm, rfl⟩

/-- A pattern for names with an ending, wherever they are, stands for the paths with that ending. -/
theorem isMatch_ending {word : List Char} {path : Path} :
    isMatch ⟨.anyDirectories :: .anySequence :: word.map .char⟩ path = true ↔
      word <:+ path.toList := by
  rw [isMatch, matchTokens_anyDirectories, Bool.or_eq_true, Bool.or_eq_true, List.any_eq_true]
  simp only [matchTokens_ending]
  constructor
  · rintro ((hword | ⟨rest, hrest, hword⟩) | hword)
    · exact hword
    · exact hword.trans (suffix_of_mem_afterSlashes hrest)
    · exact hword.trans (List.nil_suffix)
  · intro hword
    exact .inl (.inl hword)

/-- Patterns that look the same from every base: for what lies below a name that the base does not
have, and for names with an ending. -/
inductive Floats (base : Path) : Glob → Prop where
  | below {word : List Char} {tokens : List GlobToken} (hword : '/' ∉ word)
      (hfree : word ∉ Path.split base.trunk) :
      Floats base ⟨.anyDirectories :: (word.map .char ++ .char '/' :: tokens)⟩
  | ending {word : List Char} (hword : '/' ∉ word) :
      Floats base ⟨.anyDirectories :: .anySequence :: word.map .char⟩

theorem Floats.isMatch_join {base path : Path} (hbase : base ≠ "")
    (hpath : Path.isAbsolute path = false) {glob : Glob} (hfloats : glob.Floats base) :
    glob.isMatch (base.join path) = glob.isMatch path := by
  cases hfloats with
  | below hword hfree => exact isMatch_join_below hword hbase hpath hfree _
  | ending hword =>
      rw [Bool.eq_iff_iff, isMatch_ending, isMatch_ending, Path.toList_join hbase hpath]
      constructor
      · intro hends
        rcases List.suffix_or_suffix_of_suffix hends (List.suffix_append ..) with hends | hends
        · rcases List.suffix_cons_iff.mp hends with rfl | hends
          · exact absurd List.mem_cons_self hword
          · exact hends
        · exact absurd (hends.subset List.mem_cons_self) hword
      · intro hends
        exact (hends.trans (List.suffix_cons ..)).trans (List.suffix_append ..)

end Untranslated.Pattern.Glob
