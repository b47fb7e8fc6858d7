import Untranslated.Files.Path

/-!
# Paths as lists of components

The order of paths is the lexicographic order of their components, so it does not
tell two spellings of one path apart.  Adding paths one by one to a list in order
therefore keeps one spelling of every path, whichever comes first, and gives the
same components for every way to list the same paths.
-/

namespace Untranslated.Path

/-- The path of what names lead to from a place. -/
def joinAll (root : Path) (names : List String) : Path := names.foldl join root

@[simp]
theorem joinAll_nil (root : Path) : root.joinAll [] = root := rfl

@[simp]
theorem joinAll_cons (root : Path) (name : String) (names : List String) :
    root.joinAll (name :: names) = (root.join name).joinAll names := rfl

/-! ### Spelling -/

theorem split_ne_nil (chars : List Char) : split chars ≠ [] := by
  cases chars with
  | nil => exact List.cons_ne_nil _ _
  | cons char chars =>
      unfold split
      split
      · exact List.cons_ne_nil _ _
      · split <;> exact List.cons_ne_nil _ _

theorem split_cons_of_ne {char : Char} (hchar : char ≠ '/') {chars part : List Char}
    {parts : List (List Char)} (hsplit : split chars = part :: parts) :
    split (char :: chars) = (char :: part) :: parts := by
  rw [split, if_neg hchar, hsplit]

theorem split_append_slash (left right : List Char) :
    split (left ++ '/' :: right) = split left ++ split right := by
  induction left with
  | nil => simp [split]
  | cons char left ih =>
      by_cases hchar : char = '/'
      · simp only [List.cons_append, split, hchar, if_true, ih]
      · obtain ⟨part, parts, hsplit⟩ := List.exists_cons_of_ne_nil (split_ne_nil left)
        rw [List.cons_append, split_cons_of_ne hchar (by rw [ih, hsplit, List.cons_append]),
          split_cons_of_ne hchar hsplit, List.cons_append]

theorem split_of_not_mem {chars : List Char} (hslash : '/' ∉ chars) : split chars = [chars] := by
  induction chars with
  | nil => rfl
  | cons char chars ih =>
      rw [List.mem_cons, not_or] at hslash
      exact split_cons_of_ne (Ne.symm hslash.1) (ih hslash.2)

theorem split_eq_nil_singleton {chars : List Char} (hsplit : split chars = [[]]) : chars = [] := by
  cases chars with
  | nil => rfl
  | cons char chars =>
      obtain ⟨part, parts, hparts⟩ := List.exists_cons_of_ne_nil (split_ne_nil chars)
      by_cases hchar : char = '/'
      · simp [split, hchar, hparts] at hsplit
      · simp [split_cons_of_ne hchar hparts] at hsplit

/-- The characters of a path without the slash at its end. -/
def trunk (path : Path) : List Char :=
  if path.toList.getLast? == some '/' then path.toList.dropLast else path.toList

theorem trunk_cases (path : Path) :
    (path.toList.getLast? = some '/' ∧ path.toList = path.trunk ++ ['/']) ∨
      (path.toList.getLast? ≠ some '/' ∧ path.toList = path.trunk) := by
  unfold trunk
  by_cases hslash : path.toList.getLast? = some '/'
  · obtain ⟨front, hfront⟩ := List.getLast?_eq_some_iff.mp hslash
    simp [hfront]
  · simp [hslash]

/-- The components of a path, given its parts. -/
def componentsOf : List (List Char) → List Component
  | [] => []
  | first :: parts =>
      (if first = [] then [.root] else (componentOf? true first).toList) ++
        parts.filterMap (componentOf? false)

/-- The components that a path adds to the place from which it is read. -/
def relative (path : Path) : List Component := (split path.toList).filterMap (componentOf? false)

theorem componentsOf_append {front : List (List Char)} (hfront : front ≠ [])
    (parts : List (List Char)) :
    componentsOf (front ++ parts) = componentsOf front ++ parts.filterMap (componentOf? false) := by
  obtain ⟨first, front, rfl⟩ := List.exists_cons_of_ne_nil hfront
  simp only [List.cons_append, componentsOf, List.filterMap_append, List.append_assoc]

theorem components_eq_componentsOf {path : Path} (hpath : path ≠ "") :
    path.components = componentsOf (split path.toList) := by
  have hchars : path.toList ≠ [] := fun hnil => hpath (String.toList_eq_nil_iff.mp hnil)
  unfold components
  split
  · next hnil => exact absurd hnil (split_ne_nil _)
  · next hnil => exact absurd (split_eq_nil_singleton hnil) hchars
  · next parts _ hsplit => simp [hsplit, componentsOf]
  · next first parts _ hfirst hsplit =>
      rw [hsplit, componentsOf, if_neg hfirst]

theorem split_eq_trunk (base : Path) : ∃ ending, (∀ part ∈ ending, part = []) ∧
    split base.toList = split base.trunk ++ ending := by
  rcases trunk_cases base with ⟨-, hchars⟩ | ⟨-, hchars⟩
  · refine ⟨[[]], by simp, ?_⟩
    rw [hchars, split_append_slash]
    rfl
  · exact ⟨[], by simp, by rw [hchars, List.append_nil]⟩

section Join

variable {base path : Path} (hbase : base ≠ "") (hpath : path.isAbsolute = false)

include hbase hpath

theorem toList_join : (base.join path).toList = base.trunk ++ '/' :: path.toList := by
  have hempty : base.isEmpty = false := by simpa [String.isEmpty_iff] using hbase
  unfold join
  simp only [hpath, hempty, Bool.or_self, Bool.false_eq_true, if_false]
  rcases trunk_cases base with ⟨hslash, hchars⟩ | ⟨hslash, hchars⟩
  · rw [hslash, if_pos (beq_self_eq_true _), String.toList_append, hchars, List.append_assoc]
    rfl
  · rw [if_neg (by simpa using hslash), String.toList_append, String.toList_append, hchars,
      List.append_assoc]
    rfl

theorem join_ne_empty : base.join path ≠ "" := by
  intro hjoin
  have hlist := toList_join hbase hpath
  simp [hjoin] at hlist

/-- Joining adds what the path adds, whatever the base. -/
theorem components_join : (base.join path).components = base.components ++ path.relative := by
  obtain ⟨ending, hending, hsplit⟩ := split_eq_trunk base
  have hnone : ending.filterMap (componentOf? false) = [] := by
    apply List.filterMap_eq_nil_iff.mpr
    intro part hpart
    rw [hending part hpart]
    rfl
  rw [components_eq_componentsOf (join_ne_empty hbase hpath), components_eq_componentsOf hbase,
    toList_join hbase hpath, split_append_slash, hsplit, componentsOf_append (split_ne_nil _),
    componentsOf_append (split_ne_nil _), hnone, List.append_nil, relative]

end Join

/-- A list has the path, in one spelling or another. -/
def IsAmong (path : Path) (paths : List Path) : Prop :=
  ∃ other ∈ paths, other.components = path.components

theorem isAmong_nil (path : Path) : ¬ path.IsAmong [] := by
  rintro ⟨other, hother, -⟩
  cases hother

theorem isAmong_cons {path other : Path} {paths : List Path} :
    path.IsAmong (other :: paths) ↔
      other.components = path.components ∨ path.IsAmong paths := by
  simp [IsAmong]

theorem isAmong_iff_mem {path : Path} {paths : List Path} :
    path.IsAmong paths ↔ path.components ∈ paths.map components := by
  simp [IsAmong]

/-! ### The order of paths -/

/-- What tells two components of one kind apart. -/
def Component.text : Component → String
  | .name found => found
  | _ => ""

theorem Component.compare_eq_compareLex : Component.compare =
    compareLex (compareOn Component.rank) (compareOn Component.text) := by
  funext a b
  cases a <;> cases b <;> rfl

instance : Std.TransCmp Component.compare := by
  rw [Component.compare_eq_compareLex]
  infer_instance

instance : Std.LawfulEqCmp Component.compare where
  eq_of_compare {a b} hequal := by
    rw [Component.compare_eq_compareLex, compareLex_eq_eq] at hequal
    have hrank : a.rank = b.rank := Std.LawfulEqCmp.eq_of_compare hequal.1
    have htext : a.text = b.text := Std.LawfulEqCmp.eq_of_compare hequal.2
    cases a <;> cases b <;> simp_all [Component.rank, Component.text]

theorem compareComponents_eq_compareLex (a b : List Component) :
    compareComponents a b = List.compareLex Component.compare a b := by
  induction a generalizing b with
  | nil => cases b <;> rfl
  | cons first rest ih =>
      cases b with
      | nil => rfl
      | cons other others => rw [compareComponents, ih, List.compareLex_cons_cons]

theorem compare_eq_iff {a b : Path} : compare a b = .eq ↔ a.components = b.components := by
  rw [compare, compareComponents_eq_compareLex]
  exact Std.LawfulEqCmp.compare_eq_iff_eq

theorem compare_gt_iff {a b : Path} : compare a b = .gt ↔ compare b a = .lt := by
  rw [compare, compare, compareComponents_eq_compareLex, compareComponents_eq_compareLex]
  exact Std.OrientedCmp.gt_iff_lt

theorem compare_lt_trans {a b c : Path} (hfirst : compare a b = .lt)
    (hsecond : compare b c = .lt) : compare a c = .lt := by
  rw [compare, compareComponents_eq_compareLex] at hfirst hsecond ⊢
  exact Std.TransCmp.lt_trans hfirst hsecond

theorem not_compare_lt_of_lt {a b : Path} (hlt : compare a b = .lt) : compare b a ≠ .lt := by
  intro hback
  have hself := compare_lt_trans hlt hback
  rw [compare_eq_iff.mpr rfl] at hself
  cases hself

/-! ### Paths in order -/

/-- Every path comes before the ones after it, so no path is there twice. -/
def InOrder (paths : List Path) : Prop := paths.Pairwise fun a b => compare a b = .lt

theorem isAmong_insert {path new : Path} {paths : List Path} :
    path.IsAmong (insert new paths) ↔
      new.components = path.components ∨ path.IsAmong paths := by
  induction paths with
  | nil => rw [insert, isAmong_cons]
  | cons other paths ih =>
      unfold insert
      split
      · rw [isAmong_cons]
      · next hequal =>
          rw [compare_eq_iff] at hequal
          rw [isAmong_cons, hequal, ← or_assoc, or_self]
      · rw [isAmong_cons, ih, isAmong_cons, or_left_comm]

theorem mem_insert {path new : Path} {paths : List Path} (hmem : path ∈ insert new paths) :
    path = new ∨ path ∈ paths := by
  induction paths with
  | nil => exact .inl (List.mem_singleton.mp hmem)
  | cons other paths ih =>
      unfold insert at hmem
      split at hmem
      · exact List.mem_cons.mp hmem
      · exact .inr hmem
      · rcases List.mem_cons.mp hmem with rfl | hmem
        · exact .inr List.mem_cons_self
        · exact (ih hmem).imp_right (List.mem_cons_of_mem other)

theorem InOrder.insert {paths : List Path} (horder : InOrder paths) (new : Path) :
    InOrder (insert new paths) := by
  induction paths with
  | nil => exact List.pairwise_singleton ..
  | cons other paths ih =>
      obtain ⟨hother, hpaths⟩ := List.pairwise_cons.mp horder
      unfold Path.insert
      split
      · next hlt =>
          refine .cons ?_ horder
          rintro path (_ | ⟨_, hpath⟩)
          · exact hlt
          · exact compare_lt_trans hlt (hother path hpath)
      · exact horder
      · next hgt =>
          refine .cons ?_ (ih hpaths)
          intro path hpath
          rcases mem_insert hpath with rfl | hpath
          · exact compare_gt_iff.mp hgt
          · exact hother path hpath

/-- Paths in the order in which they belong, one spelling of each. -/
def sorted (paths : List Path) : List Path :=
  paths.foldl (fun sorted path => insert path sorted) []

theorem isAmong_foldl_insert {path : Path} {paths start : List Path} :
    path.IsAmong (paths.foldl (fun sorted path => insert path sorted) start) ↔
      path.IsAmong paths ∨ path.IsAmong start := by
  induction paths generalizing start with
  | nil => simp [isAmong_nil]
  | cons new paths ih =>
      rw [List.foldl_cons, ih, isAmong_insert, isAmong_cons, or_assoc, or_left_comm]

theorem isAmong_sorted {path : Path} {paths : List Path} :
    path.IsAmong (sorted paths) ↔ path.IsAmong paths := by
  rw [sorted, isAmong_foldl_insert, or_iff_left (isAmong_nil path)]

theorem mem_of_mem_foldl_insert {path : Path} {paths start : List Path}
    (hmem : path ∈ paths.foldl (fun sorted path => insert path sorted) start) :
    path ∈ paths ∨ path ∈ start := by
  induction paths generalizing start with
  | nil => exact .inr hmem
  | cons new paths ih =>
      rcases ih hmem with hpath | hpath
      · exact .inl (List.mem_cons_of_mem new hpath)
      · rcases mem_insert hpath with rfl | hpath
        · exact .inl List.mem_cons_self
        · exact .inr hpath

theorem mem_of_mem_sorted {path : Path} {paths : List Path} (hmem : path ∈ sorted paths) :
    path ∈ paths :=
  (mem_of_mem_foldl_insert hmem).resolve_right List.not_mem_nil

theorem inOrder_foldl_insert {paths start : List Path} (hstart : InOrder start) :
    InOrder (paths.foldl (fun sorted path => insert path sorted) start) := by
  induction paths generalizing start with
  | nil => exact hstart
  | cons new paths ih => exact ih (hstart.insert new)

theorem inOrder_sorted (paths : List Path) : InOrder (sorted paths) := inOrder_foldl_insert .nil

theorem InOrder.nodup_map_components {paths : List Path} (horder : InOrder paths) :
    (paths.map components).Nodup := by
  refine List.pairwise_map.mpr (horder.imp ?_)
  intro a b hlt hequal
  rw [compare_eq_iff.mpr hequal] at hlt
  cases hlt

/-- Lists in order that have the same paths have the same components, path by path. -/
theorem InOrder.map_components_eq {left right : List Path} (hleft : InOrder left)
    (hright : InOrder right) (hsame : ∀ path : Path, path.IsAmong left ↔ path.IsAmong right) :
    left.map components = right.map components := by
  have hmem : ∀ found, found ∈ left.map components ↔ found ∈ right.map components := by
    intro found
    constructor <;> intro hfound
    · obtain ⟨path, -, rfl⟩ := List.mem_map.mp hfound
      exact isAmong_iff_mem.mp ((hsame path).mp (isAmong_iff_mem.mpr hfound))
    · obtain ⟨path, -, rfl⟩ := List.mem_map.mp hfound
      exact isAmong_iff_mem.mp ((hsame path).mpr (isAmong_iff_mem.mpr hfound))
  have hperm : (left.map components).Perm (right.map components) :=
    (List.perm_ext_iff_of_nodup hleft.nodup_map_components hright.nodup_map_components).mpr hmem
  have hsorted : ∀ {paths : List Path}, InOrder paths →
      (paths.map components).Pairwise fun a b => compareComponents a b = .lt :=
    fun horder => List.pairwise_map.mpr horder
  refine hperm.eq_of_pairwise ?_ (hsorted hleft) (hsorted hright)
  intro a b ha hb hlt hback
  obtain ⟨path, -, rfl⟩ := List.mem_map.mp ha
  obtain ⟨other, -, rfl⟩ := List.mem_map.mp hb
  exact absurd hback (not_compare_lt_of_lt hlt)

end Untranslated.Path
