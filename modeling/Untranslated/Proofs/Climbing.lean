import Mathlib.Data.List.Infix
import Untranslated.Config.Lookup
import Untranslated.Proofs.Resolution

/-!
# Climbing from a directory

The configuration of a directory is looked for by dropping the last component of its
path again and again.  What is dropped is a piece of text.  Where it is a name, the
place that is left is the folder above, but where it is `..` the place that is left is
a folder below, and where nothing is left the working directory was the last one
looked into.  This module tells the places that a search passes by the names in the
path, and when these are the folders above the one that it starts from.
-/

namespace Untranslated

namespace Path

variable {chars front part : List Char} {path : Path}

/-! ### The names that a path moves along -/

/-- The names between slashes that lead from one place to another; `.` and nothing lead nowhere. -/
def movesOf (chars : List Char) : List String :=
  ((split chars).map String.ofList).filter fun name => name != "" && name != "."

/-- The names in a path that lead from one place to another. -/
def moves (path : Path) : List String := movesOf path.toList

theorem moves_eq_steps (path : Path) : path.moves = path.steps.filter (· != ".") := by
  rw [moves, movesOf, steps, List.filter_filter]
  exact congrArg (fun test => List.filter test _) (funext fun name => Bool.and_comm _ _)

theorem movesOf_append_slash (front back : List Char) :
    movesOf (front ++ '/' :: back) = movesOf front ++ movesOf back := by
  rw [movesOf, split_append_slash, List.map_append, List.filter_append, movesOf, movesOf]

theorem movesOf_slash (front : List Char) : movesOf (front ++ ['/']) = movesOf front := by
  rw [movesOf_append_slash]
  exact List.append_nil _

theorem movesOf_part (hne : part ≠ []) (hpoint : part ≠ ['.']) (hslash : '/' ∉ part) :
    movesOf part = [String.ofList part] := by
  have hname : (String.ofList part != "" && String.ofList part != ".") = true := by
    rw [Bool.and_eq_true, bne_iff_ne, bne_iff_ne]
    constructor
    · exact fun hempty => hne (String.ofList_injective hempty)
    · exact fun hequal => hpoint (String.ofList_injective hequal)
  rw [movesOf, split_of_not_mem hslash, List.map_singleton, List.filter_singleton, hname]
  rfl

/-! ### Paths without their last component -/

/-- What is left when slashes and `.` are dropped from the end of a path: nothing, the root, or a
text that ends with a name. -/
inductive Trimmed : List Char → Prop where
  | empty : Trimmed []
  | root : Trimmed ['/']
  | single {part : List Char} (hne : part ≠ []) (hslash : '/' ∉ part) : Trimmed part
  | below {front part : List Char} (hne : part ≠ []) (hpoint : part ≠ ['.'])
      (hslash : '/' ∉ part) : Trimmed (front ++ '/' :: part)

/-- A text is a part without slashes, alone or with a slash after it. -/
theorem exists_part (chars : List Char) :
    ∃ part rest, chars = part ++ rest ∧ '/' ∉ part ∧ (rest = [] ∨ ∃ more, rest = '/' :: more) := by
  induction chars with
  | nil => exact ⟨[], [], rfl, List.not_mem_nil, .inl rfl⟩
  | cons char chars ih =>
      by_cases hchar : char = '/'
      · exact ⟨[], char :: chars, rfl, List.not_mem_nil, .inr ⟨chars, by rw [hchar]⟩⟩
      · obtain ⟨part, rest, rfl, hpart, hrest⟩ := ih
        refine ⟨char :: part, rest, rfl, ?_, hrest⟩
        rw [List.mem_cons, not_or]
        exact ⟨Ne.symm hchar, hpart⟩

theorem dropTail_trimmed (chars : List Char) : Trimmed (dropTail chars).reverse := by
  fun_induction dropTail chars with
  | case1 => exact .empty
  | case2 => exact .root
  | case3 chars hne ih => exact ih
  | case4 chars ih => exact ih
  | case5 char chars hroot hslash hpoint =>
      obtain ⟨part, rest, hchars, hpart, hrest⟩ := exists_part (char :: chars)
      have hmem : '/' ∉ part.reverse := by rwa [List.mem_reverse]
      have hne : part ≠ [] := by
        rintro rfl
        rcases hrest with rfl | ⟨more, rfl⟩
        · cases hchars
        · exact hslash (List.cons.inj hchars).1
      rw [hchars, List.reverse_append]
      rcases hrest with rfl | ⟨more, rfl⟩
      · exact .single (List.reverse_ne_nil_iff.mpr hne) hmem
      · rw [List.reverse_cons, List.append_assoc, List.singleton_append]
        refine .below (List.reverse_ne_nil_iff.mpr hne) ?_ hmem
        intro hsingle
        rw [List.reverse_eq_iff] at hsingle
        rw [hsingle] at hchars
        exact hpoint more (List.cons.inj hchars).1 (List.cons.inj hchars).2

theorem movesOf_dropTail (chars : List Char) :
    movesOf (dropTail chars).reverse = movesOf chars.reverse := by
  fun_induction dropTail chars with
  | case1 => rfl
  | case2 => rfl
  | case3 chars hne ih => rw [ih, List.reverse_cons, movesOf_slash]
  | case4 chars ih =>
      rw [ih, List.reverse_cons, movesOf_slash, List.reverse_cons, List.reverse_cons,
        List.append_assoc, List.singleton_append, movesOf_append_slash]
      exact (List.append_nil _).symm
  | case5 char chars hroot hslash hpoint => rfl

theorem head?_dropTail (chars : List Char) :
    (dropTail chars).reverse.head? = chars.reverse.head? := by
  fun_induction dropTail chars with
  | case1 | case2 | case5 => rfl
  | case3 chars hne ih =>
      rw [ih, List.reverse_cons, List.head?_append_of_ne_nil _ (List.reverse_ne_nil_iff.mpr hne)]
  | case4 chars ih =>
      have hreverse : ('.' :: '/' :: chars).reverse = ('/' :: chars).reverse ++ ['.'] :=
        List.reverse_cons
      rw [ih, hreverse, List.head?_append_of_ne_nil _ (by simp)]

theorem length_dropTail_le (chars : List Char) : (dropTail chars).length ≤ chars.length := by
  fun_induction dropTail chars with
  | case1 | case2 | case5 => exact Nat.le_refl _
  | case3 chars hne ih => exact Nat.le_succ_of_le ih
  | case4 chars ih => exact Nat.le_succ_of_le ih

theorem parent?_of_dropTail (hchars : dropTail path.toList.reverse = chars) (hne : chars ≠ [])
    (hroot : chars ≠ ['/']) :
    path.parent? = some (String.ofList (dropTail (chars.dropWhile (· != '/'))).reverse) := by
  rw [parent?, hchars]
  split
  · exact absurd rfl hne
  · exact absurd rfl hroot
  · rfl

theorem dropWhile_part (hslash : '/' ∉ part) (rest : List Char) :
    (part.reverse ++ rest).dropWhile (· != '/') = rest.dropWhile (· != '/') := by
  apply List.dropWhile_append_of_pos
  intro char hchar
  rw [bne_iff_ne]
  rintro rfl
  exact hslash (List.mem_reverse.mp hchar)

theorem parent?_single (hne : part ≠ []) (hslash : '/' ∉ part)
    (hchars : dropTail path.toList.reverse = part.reverse) : path.parent? = some "" := by
  have hroot : part.reverse ≠ ['/'] := by
    intro hequal
    rw [List.reverse_eq_iff] at hequal
    exact hslash (hequal ▸ List.mem_cons_self)
  have hnone := dropWhile_part hslash []
  rw [List.append_nil] at hnone
  rw [parent?_of_dropTail hchars (List.reverse_ne_nil_iff.mpr hne) hroot, hnone]
  rfl

theorem parent?_below (hne : part ≠ []) (hslash : '/' ∉ part)
    (hchars : dropTail path.toList.reverse = (front ++ '/' :: part).reverse) :
    path.parent? = some (String.ofList (dropTail (front ++ ['/']).reverse).reverse) := by
  have hlong : 1 < (front ++ '/' :: part).reverse.length := by
    have := List.length_pos_iff.mpr hne
    simp only [List.length_reverse, List.length_append, List.length_cons]
    omega
  rw [parent?_of_dropTail hchars]
  · rw [List.reverse_append, List.reverse_cons, List.append_assoc, List.singleton_append,
      dropWhile_part hslash, List.dropWhile_cons_of_neg (by decide), List.reverse_append]
    rfl
  · exact fun hnone => absurd hlong (by rw [hnone]; decide)
  · exact fun hroot => absurd hlong (by rw [hroot]; decide)

/-- Dropping the last component of a path drops the last name that it moves along.  A path that
moves along no name has no component to drop, or is a way to spell `.`. -/
theorem parent?_cases (path : Path) :
    (path.parent? = none ∧ path.moves = []) ∨
      ∃ above, path.parent? = some above ∧ above.length < path.length ∧
        above.isAbsolute = path.isAbsolute ∧
        ((∃ last, path.moves = above.moves ++ [last]) ∨ path.moves = [] ∧ above = "") := by
  have hmoves : movesOf (dropTail path.toList.reverse).reverse = path.moves := by
    rw [movesOf_dropTail, List.reverse_reverse, moves]
  have hhead : (dropTail path.toList.reverse).reverse.head? = path.toList.head? := by
    rw [head?_dropTail, List.reverse_reverse]
  have hlength : (dropTail path.toList.reverse).reverse.length ≤ path.length := by
    have hsame : path.toList.reverse.length = path.length := by
      rw [List.length_reverse, String.length_toList]
    rw [List.length_reverse, ← hsame]
    exact length_dropTail_le _
  have htrimmed := dropTail_trimmed path.toList.reverse
  generalize hchars : (dropTail path.toList.reverse).reverse = chars at *
  rw [List.reverse_eq_iff] at hchars
  cases htrimmed with
  | empty => exact .inl ⟨by rw [parent?, hchars]; rfl, hmoves.symm⟩
  | root => exact .inl ⟨by rw [parent?, hchars]; rfl, hmoves.symm⟩
  | single hne hslash =>
      refine .inr ⟨"", parent?_single hne hslash hchars, ?_, ?_, ?_⟩
      · exact Nat.lt_of_lt_of_le (List.length_pos_iff.mpr hne) hlength
      · obtain ⟨first, rest, rfl⟩ := List.exists_cons_of_ne_nil hne
        rw [List.mem_cons, not_or] at hslash
        rw [isAbsolute, isAbsolute, ← hhead]
        simpa using Ne.symm hslash.1
      · by_cases hpoint : chars = ['.']
        · exact .inr ⟨by rw [← hmoves, hpoint]; rfl, rfl⟩
        · exact .inl ⟨_, by rw [← hmoves, movesOf_part hne hpoint hslash]; rfl⟩
  | @below front part hne hpoint hslash =>
      refine .inr ⟨_, parent?_below hne hslash hchars, ?_, ?_, .inl ⟨String.ofList part, ?_⟩⟩
      · have hshorter := length_dropTail_le (front ++ ['/']).reverse
        have hpositive := List.length_pos_iff.mpr hne
        rw [String.length_ofList, List.length_reverse]
        simp only [List.length_reverse, List.length_append, List.length_cons, List.length_nil]
          at hshorter hlength
        omega
      · rw [isAbsolute, isAbsolute, ← hhead, String.toList_ofList, head?_dropTail,
          List.reverse_reverse]
        cases front <;> rfl
      · rw [← hmoves, movesOf_append_slash, movesOf_part hne hpoint hslash, moves,
          String.toList_ofList, movesOf_dropTail, List.reverse_reverse, movesOf_slash]

end Path

/-! ### Places on the way -/

namespace Location

/-- The place that a name leads to, if nothing on the way is a link. -/
def move (place : Location) (name : String) : Location :=
  if name = "." then place else if name = ".." then place.dropLast else place ++ [name]

/-- The place that names lead to, if nothing on the way is a link. -/
def along (place : Location) (names : List String) : Location := names.foldl move place

/-- The places that names lead to, from the last one back to where they start. -/
def wayBack (place : Location) (names : List String) : List Location :=
  (names.inits.map (along place)).reverse

/-- A folder and all the folders that it lies in, from the inside out. -/
def ancestors (place : Location) : List Location := place.inits.reverse

variable {place : Location} {names : List String}

theorem move_of_ne {name : String} (place : Location) (hhere : name ≠ ".") (hup : name ≠ "..") :
    move place name = place ++ [name] := by
  rw [move, if_neg hhere, if_neg hup]

theorem wayBack_nil (place : Location) : wayBack place [] = [place] := rfl

theorem wayBack_concat (place : Location) (names : List String) (name : String) :
    wayBack place (names ++ [name]) = along place (names ++ [name]) :: wayBack place names := by
  rw [wayBack, List.inits_append, List.map_append, List.reverse_append]
  rfl

theorem along_of_not_mem (place : Location) (hhere : "." ∉ names) (hup : ".." ∉ names) :
    along place names = place ++ names := by
  induction names generalizing place with
  | nil => exact (List.append_nil place).symm
  | cons name names ih =>
      rw [List.mem_cons, not_or] at hhere hup
      rw [along, List.foldl_cons, move_of_ne place (Ne.symm hhere.1) (Ne.symm hup.1), ← along,
        ih _ hhere.2 hup.2, List.append_assoc, List.singleton_append]

theorem prefix_of_mem_wayBack (hhere : "." ∉ names) (hup : ".." ∉ names) {found : Location}
    (hfound : found ∈ wayBack place names) : place <+: found := by
  rw [wayBack, List.mem_reverse, List.mem_map] at hfound
  obtain ⟨front, hfront, rfl⟩ := hfound
  have hmem := ((List.mem_inits front names).mp hfront).subset
  rw [along_of_not_mem place (fun h => hhere (hmem h)) (fun h => hup (hmem h))]
  exact List.prefix_append _ _

theorem mem_ancestors {found : Location} : found ∈ ancestors place ↔ found <+: place := by
  rw [ancestors, List.mem_reverse, List.mem_inits]

theorem ancestors_concat (place : Location) (name : String) :
    ancestors (place ++ [name]) = (place ++ [name]) :: ancestors place := by
  rw [ancestors, List.inits_append, List.reverse_append]
  rfl

/-- The way back along names that only lead down is the way up, as far as the place where they
start; above it there are only folders in which it lies. -/
theorem ancestors_append (hhere : "." ∉ names) (hup : ".." ∉ names) :
    ∃ above, ancestors (place ++ names) = wayBack place names ++ above ∧
      ∀ found ∈ above, ¬ place <+: found := by
  induction names using List.reverseRecOn with
  | nil =>
      rw [List.append_nil, wayBack_nil]
      rcases List.eq_nil_or_concat place with rfl | ⟨outer, last, rfl⟩
      · exact ⟨[], rfl, List.forall_mem_nil _⟩
      · refine ⟨ancestors outer, ?_, ?_⟩
        · rw [List.concat_eq_append, ancestors_concat]
          rfl
        · intro found hfound hinside
          have hlength := (hinside.trans (mem_ancestors.mp hfound)).length_le
          rw [List.length_concat] at hlength
          exact Nat.not_succ_le_self _ hlength
  | append_singleton names name ih =>
      have hdown := along_of_not_mem place hhere hup
      simp only [List.mem_append, not_or] at hhere hup
      obtain ⟨above, hancestors, habove⟩ := ih hhere.1 hup.1
      refine ⟨above, ?_, habove⟩
      rw [wayBack_concat, hdown, ← List.append_assoc, ancestors_concat, hancestors]
      rfl

end Location

/-! ### Folders on the way -/

namespace Files

variable {top : Folder} {links : Nat} {start place : Location} {names : List String}

/-- All names lead to folders, the place where they start included. -/
def Passable (top : Folder) (start : Location) (names : List String) : Prop :=
  ∀ front, front <+: names → ∃ folder, top.entryAt? (start.along front) = some (.directory folder)

theorem passable_cons {name : String} :
    Passable top start (name :: names) ↔
      (∃ folder, top.entryAt? start = some (.directory folder)) ∧
        Passable top (start.move name) names := by
  constructor
  · intro hpass
    refine ⟨hpass [] List.nil_prefix, fun front hfront => ?_⟩
    exact hpass (name :: front) (List.cons_prefix_cons.mpr ⟨rfl, hfront⟩)
  · rintro ⟨hstart, hpass⟩ front hfront
    rcases List.prefix_cons_iff.mp hfront with rfl | ⟨rest, rfl, hrest⟩
    · exact hstart
    · exact hpass rest hrest

/-- Without links, names that lead to a folder lead there through folders, and to the place that
they tell. -/
theorem Resolves.passable {steps : List String} (hfree : top.isLinkFree = true)
    (hresolves : Resolves top {} links start steps place)
    (hstart : ∃ folder, top.entryAt? start = some (.directory folder)) {target : Folder}
    (htarget : top.entryAt? place = some (.directory target)) :
    place = start.along (steps.filter (· != ".")) ∧
      Passable top start (steps.filter (· != ".")) := by
  induction hresolves with
  | done links location =>
      refine ⟨rfl, fun front hfront => ?_⟩
      cases List.prefix_nil.mp hfront
      exact hstart
  | here _ ih => exact ih hstart htarget
  | up _ ih =>
      obtain ⟨folder, hfolder⟩ := hstart
      obtain ⟨hplace, hpass⟩ := ih (Folder.entryAt?_dropLast hfolder) htarget
      exact ⟨hplace, passable_cons.mpr ⟨⟨folder, hfolder⟩, hpass⟩⟩
  | last _ _ hentry hstops => exact absurd (hentry.symm.trans htarget) (hstops.ne_directory target)
  | @inside links location _ name rest folder hhere hup hentry _ ih =>
      obtain ⟨hplace, hpass⟩ := ih ⟨folder, hentry⟩ htarget
      have hmove := location.move_of_ne hhere hup
      rw [List.filter_cons_of_pos (by simpa using hhere)]
      refine ⟨?_, passable_cons.mpr ⟨hstart, hmove ▸ hpass⟩⟩
      rw [hplace, Location.along, Location.along, List.foldl_cons, hmove]
  | through _ _ hentry _ _ _ =>
      cases Folder.isLinkFree_of_entryAt? hfree hentry

theorem Passable.resolve_eq {steps : List String}
    (hpass : Passable top start (steps.filter (· != "."))) :
    resolve top {} (links + 1) start steps = .ok (start.along (steps.filter (· != "."))) := by
  rw [resolve_eq_ok_iff]
  induction steps generalizing start with
  | nil => exact .done links start
  | cons name steps ih =>
      by_cases hhere : name = "."
      · rw [hhere] at hpass ⊢
        exact .here (ih hpass)
      · rw [List.filter_cons_of_pos (by simpa using hhere)] at hpass ⊢
        obtain ⟨-, hrest⟩ := passable_cons.mp hpass
        by_cases hup : name = ".."
        · rw [hup] at hrest ⊢
          exact .up (ih hrest)
        · have hmove := start.move_of_ne hhere hup
          obtain ⟨folder, hfolder⟩ := hrest [] List.nil_prefix
          have hresolves := ih hrest
          rw [Location.along, List.foldl_cons]
          rw [hmove] at hfolder hresolves ⊢
          exact .inside hhere hup hfolder hresolves

/-- A folder has an entry with a name. -/
def holds (files : Files) (place : Location) (name : String) : Bool :=
  (files.top.entryAt? (place ++ [name])).isSome

/-- The place that a path tells by its names. -/
def placeOf (files : Files) (path : Path) : Location := (files.home path).along path.moves

variable {files : Files} {path : Path} {name : String}

theorem locate_join (files : Files) (path : Path) (hname : Path.IsPart name) :
    files.locate (path.join name) {} =
      resolve files.top {} (maxLinks + 1) (files.home path) (path.steps ++ [name]) := by
  by_cases hpath : path = ""
  · have hjoin : path.join name = name := by
      rw [hpath, Path.join, if_pos (by simp)]
    rw [hjoin, locate_eq_resolve hname.ne_empty, hname.route, home, hname.isAbsolute, hpath]
    rfl
  · have hroute : (path.join name).route = path.steps ++ [name] := by
      rw [Path.route, Path.steps_join hpath hname.isAbsolute,
        Path.landing_join hpath hname.isAbsolute, List.append_assoc, ← Path.route, hname.route]
    rw [locate_eq_resolve (Path.join_ne_empty hpath hname.isAbsolute), home,
      Path.isAbsolute_join hpath hname.isAbsolute, hroute, home]

section Passing

variable (hfree : files.top.isLinkFree = true)
  (hpass : Passable files.top (files.home path) path.moves) (hname : isFileName name = true)

include hfree hpass hname

/-- An entry of the folder that a path leads to is found below the path. -/
theorem locate_entry :
    files.locate (path.join name) {} =
      if files.holds (files.placeOf path) name then .ok (files.placeOf path ++ [name])
      else .error .notFound := by
  obtain ⟨hhere, hup⟩ := Path.ne_dots_of_isFileName hname
  have hresolve : resolve files.top {} (maxLinks + 1) (files.home path) path.steps =
      .ok (files.placeOf path) := by
    rw [Path.moves_eq_steps] at hpass
    rw [hpass.resolve_eq, placeOf, Path.moves_eq_steps]
  obtain ⟨folder, hfolder⟩ := hpass path.moves List.prefix_rfl
  obtain ⟨follow, hwalk⟩ := resolve_append hresolve hfolder {} (List.cons_ne_nil name [])
  rw [locate_join files path (Path.isPart_of_isFileName hname), hwalk, holds]
  cases hentry : files.top.entryAt? (files.placeOf path ++ [name]) with
  | none => exact walk_absent hhere hup hentry
  | some entry =>
      cases entry with
      | file content => exact walk_file hhere hup hentry
      | directory inner => exact walk_directory hhere hup hentry
      | link target => cases Folder.isLinkFree_of_entryAt? hfree hentry

theorem isPresent_join :
    files.isPresent (path.join name) = files.holds (files.placeOf path) name := by
  rw [isPresent, entry, entryOf, locate_entry hfree hpass hname]
  cases hentry : files.top.entryAt? (files.placeOf path ++ [name]) with
  | none => simp [holds, hentry, bind, Except.bind, Except.isOk, Except.toBool]
  | some entry => simp [holds, hentry, bind, Except.bind, Except.isOk, Except.toBool]

end Passing

/-! ### The configuration on the way -/

/-- The first of some places with a configuration, unless a repository comes before it. -/
def configAmong (files : Files) (places : List Location) : Option Location :=
  (places.find? fun place =>
    files.holds place Config.fileName || files.holds place ".git").filter
      (files.holds · Config.fileName)

theorem configAmong_cons (files : Files) (place : Location) (places : List Location) :
    files.configAmong (place :: places) =
      if files.holds place Config.fileName then some place
      else if files.holds place ".git" then none else files.configAmong places := by
  rw [configAmong, List.find?_cons]
  cases hconfig : files.holds place Config.fileName with
  | true => simp [hconfig]
  | false => cases hgit : files.holds place ".git" <;> simp [hconfig, configAmong]

/-- What is found for a path is the configuration among some places. -/
def FindsAmong (files : Files) (path : Path) (places : List Location) : Prop :=
  (files.findConfig path).map (files.locate · {}) =
    (files.configAmong places).map fun found => .ok (found ++ [Config.fileName])

/-- What one round of the search does. -/
theorem findConfigUpTo_succ (hfree : files.top.isLinkFree = true)
    (hpass : Passable files.top (files.home path) path.moves) (count : Nat) :
    files.findConfigUpTo (count + 1) path =
      if files.holds (files.placeOf path) Config.fileName then some (path.join Config.fileName)
      else if files.holds (files.placeOf path) ".git" then none
      else path.parent?.bind (files.findConfigUpTo count) := by
  rw [findConfigUpTo, isPresent_join hfree hpass (by decide),
    isPresent_join hfree hpass (by decide)]

theorem Passable.of_parent {above : Path}
    (hpass : Passable files.top (files.home path) path.moves)
    (habsolute : above.isAbsolute = path.isAbsolute)
    (hmoves : (∃ last, path.moves = above.moves ++ [last]) ∨ path.moves = [] ∧ above = "") :
    Passable files.top (files.home above) above.moves := by
  have hfront : above.moves <+: path.moves := by
    rcases hmoves with ⟨last, hmoves⟩ | ⟨-, rfl⟩
    · exact ⟨[last], hmoves.symm⟩
    · exact List.nil_prefix
  rw [home, habsolute, ← home]
  exact fun front hinside => hpass front (hinside.trans hfront)

/-- The way back goes on with that of the path without its last component.  A path that moves along
no name may have a component all the same; dropping it leads to the same place once more. -/
theorem configAmong_wayBack (files : Files) (path : Path) :
    files.configAmong ((files.home path).wayBack path.moves) =
      if files.holds (files.placeOf path) Config.fileName then some (files.placeOf path)
      else if files.holds (files.placeOf path) ".git" then none
      else path.parent?.bind fun above =>
        files.configAmong ((files.home above).wayBack above.moves) := by
  rcases path.parent?_cases with ⟨hparent, hmoves⟩ | ⟨above, hparent, -, habsolute, hmoves⟩
  · rw [hparent, placeOf, hmoves, Location.wayBack_nil, configAmong_cons]
    rfl
  · have hhome : files.home above = files.home path := by rw [home, home, habsolute]
    rw [hparent, Option.bind_some, hhome, placeOf]
    rcases hmoves with ⟨last, hmoves⟩ | ⟨hmoves, rfl⟩
    · rw [hmoves, Location.wayBack_concat, configAmong_cons]
    · have hsame : (files.home path).along path.moves = files.home path := by
        rw [hmoves]
        rfl
      have hempty : Path.moves "" = [] := rfl
      rw [hsame, hmoves, hempty, Location.wayBack_nil, configAmong_cons]
      cases files.holds (files.home path) Config.fileName with
      | true => rfl
      | false => cases files.holds (files.home path) ".git" <;> rfl

/-- The search passes the places on the way back along the names of its path. -/
theorem map_locate_findConfigUpTo (hfree : files.top.isLinkFree = true) {count : Nat}
    (hcount : path.length < count) (hpass : Passable files.top (files.home path) path.moves) :
    (files.findConfigUpTo count path).map (files.locate · {}) =
      (files.configAmong ((files.home path).wayBack path.moves)).map
        fun found => .ok (found ++ [Config.fileName]) := by
  induction count generalizing path with
  | zero => exact absurd hcount (Nat.not_lt_zero _)
  | succ count ih =>
      rw [findConfigUpTo_succ hfree hpass, configAmong_wayBack]
      cases hconfig : files.holds (files.placeOf path) Config.fileName with
      | true =>
          have hlocate := locate_entry hfree hpass (by decide : isFileName Config.fileName = true)
          rw [hconfig, if_pos rfl] at hlocate
          rw [if_pos rfl, if_pos rfl, Option.map_some, Option.map_some, hlocate]
      | false =>
          cases files.holds (files.placeOf path) ".git" with
          | true => rfl
          | false =>
              rcases path.parent?_cases with
                ⟨hparent, -⟩ | ⟨above, hparent, hlength, habsolute, hmoves⟩
              · rw [hparent]
                rfl
              · simp only [hparent, Bool.false_eq_true, if_false, Option.bind_some]
                exact ih (by omega) (hpass.of_parent habsolute hmoves)

/-- The search ends by itself: more rounds than the path has characters change nothing. -/
theorem findConfigUpTo_of_lt (files : Files) {count other : Nat} (hcount : path.length < count)
    (hother : path.length < other) :
    files.findConfigUpTo count path = files.findConfigUpTo other path := by
  induction count generalizing path other with
  | zero => exact absurd hcount (Nat.not_lt_zero _)
  | succ count ih =>
      cases other with
      | zero => exact absurd hother (Nat.not_lt_zero _)
      | succ other =>
          have hparent : path.parent?.bind (files.findConfigUpTo count) =
              path.parent?.bind (files.findConfigUpTo other) := by
            rcases path.parent?_cases with ⟨hparent, -⟩ | ⟨above, hparent, hlength, -⟩
            · rw [hparent]
              rfl
            · rw [hparent]
              exact ih (by omega) (by omega)
          rw [findConfigUpTo, findConfigUpTo, hparent]

/-- The places that come first decide, if one of them has a configuration or a repository. -/
theorem configAmong_append (files : Files) (nearer farther : List Location) :
    files.configAmong (nearer ++ farther) = files.configAmong nearer ∨
      files.configAmong nearer = none ∧
        files.configAmong (nearer ++ farther) = files.configAmong farther := by
  rw [configAmong, List.find?_append]
  cases hfind : nearer.find? fun place =>
      files.holds place Config.fileName || files.holds place ".git" with
  | some place => exact .inl (by rw [configAmong, hfind]; rfl)
  | none => exact .inr ⟨by rw [configAmong, hfind]; rfl, rfl⟩

theorem mem_of_configAmong {places : List Location} {found : Location}
    (hfound : files.configAmong places = some found) : found ∈ places := by
  rw [configAmong, Option.filter_eq_some_iff] at hfound
  exact List.mem_of_find?_eq_some hfound.1

/-- The places that come first are all that matters, unless a configuration is found among the
others, which can be told by what holds of the first and not of them. -/
theorem configAmong_append_eq_iff {nearer farther : List Location} {near : Location → Prop}
    (hnearer : ∀ place ∈ nearer, near place) (hfarther : ∀ place ∈ farther, ¬ near place) :
    files.configAmong (nearer ++ farther) = files.configAmong nearer ↔
      ∀ found, files.configAmong (nearer ++ farther) = some found → near found := by
  constructor
  · intro hequal found hfound
    exact hnearer found (mem_of_configAmong (hequal.symm.trans hfound))
  · intro hnear
    rcases files.configAmong_append nearer farther with hequal | ⟨hnone, hequal⟩
    · exact hequal
    · cases hfound : files.configAmong farther with
      | none => rw [hequal, hfound, hnone]
      | some found =>
          have hfar := hfarther found (mem_of_configAmong hfound)
          exact absurd (hnear found (hequal.trans hfound)) hfar

theorem findsAmong_iff {places others : List Location} (hfinds : files.FindsAmong path places) :
    files.FindsAmong path others ↔ files.configAmong others = files.configAmong places := by
  have hinjective : Function.Injective fun found : Location =>
      (Except.ok (found ++ [Config.fileName]) : Except FileError Location) := by
    intro left right hequal
    exact List.append_cancel_right (Except.ok.inj hequal)
  rw [FindsAmong, hfinds, eq_comm]
  exact (Option.map_injective hinjective).eq_iff

theorem passable_of_locate (hformed : files.WellFormed) (hfree : files.top.isLinkFree = true)
    {folder : Folder} (hplace : files.locate path {} = .ok place)
    (hfolder : files.top.entryAt? place = some (.directory folder)) :
    files.placeOf path = place ∧ Passable files.top (files.home path) path.moves := by
  have hmoves : path.route.filter (· != ".") = path.moves := by
    rw [Path.moves_eq_steps, Path.route, List.filter_append, Path.landing]
    split <;> exact List.append_nil _
  rw [locate_eq_resolve (ne_empty_of_locate hplace), resolve_eq_ok_iff] at hplace
  obtain ⟨htold, hpass⟩ := hplace.passable hfree (hformed.entryAt?_home path) hfolder
  rw [hmoves] at htold hpass
  exact ⟨htold.symm, hpass⟩

/-- The search for the configuration of a folder ends, and passes the places on the way back along
the names of the path that leads there.  If there is no `..` among these, all of them are the folder
or folders that it lies in, and the search finds the nearest configuration unless that lies above
the folder from which the path is read.  An absolute path is read from the top. -/
theorem findConfig_climbs_iff (hformed : files.WellFormed) (hfree : files.top.isLinkFree = true)
    {start : Path} {place : Location} {folder : Folder}
    (hplace : files.locate start {} = .ok place)
    (hfolder : files.top.entryAt? place = some (.directory folder)) :
    (∀ count, start.length < count → files.findConfigUpTo count start = files.findConfig start) ∧
    files.FindsAmong start ((files.home start).wayBack start.moves) ∧
    (".." ∉ start.moves →
      (∀ path, files.findConfig start = some path → ∃ found, found <+: place ∧
        files.locate path {} = .ok (found ++ [Config.fileName])) ∧
      (files.FindsAmong start place.ancestors ↔
        ∀ found, files.configAmong place.ancestors = some found → files.home start <+: found) ∧
      (start.isAbsolute = true → files.FindsAmong start place.ancestors)) := by
  obtain ⟨rfl, hpass⟩ := passable_of_locate hformed hfree hplace hfolder
  have hfinds : files.FindsAmong start ((files.home start).wayBack start.moves) :=
    map_locate_findConfigUpTo hfree (Nat.lt_succ_self _) hpass
  refine ⟨fun count hcount => files.findConfigUpTo_of_lt hcount (Nat.lt_succ_self _), hfinds,
    fun hup => ?_⟩
  have hhere : "." ∉ start.moves := by
    rw [Path.moves_eq_steps]
    simp
  obtain ⟨above, hancestors, habove⟩ := Location.ancestors_append hhere hup
  have hdown : files.placeOf start = files.home start ++ start.moves :=
    Location.along_of_not_mem _ hhere hup
  rw [← hdown] at hancestors
  have hwithin := files.configAmong_append_eq_iff
    (fun found => Location.prefix_of_mem_wayBack hhere hup) habove
  rw [← hancestors] at hwithin
  have hright := (findsAmong_iff hfinds).trans hwithin
  refine ⟨fun path hpath => ?_, hright, fun habsolute => hright.mpr fun found _ => ?_⟩
  · rw [FindsAmong, hpath, Option.map_some, eq_comm, Option.map_eq_some_iff] at hfinds
    obtain ⟨found, hfound, hlocate⟩ := hfinds
    refine ⟨found, Location.mem_ancestors.mp ?_, hlocate.symm⟩
    rw [hancestors]
    exact List.mem_append_left above (mem_of_configAmong hfound)
  · rw [home, if_pos habsolute]
    exact List.nil_prefix

/-- A working directory with a configuration above it and another one below it. -/
def strayFiles : Files where
  top :=
    .add Config.fileName (.file (.text [])) <|
    .add "work" (.directory (.add "src" (.directory
      (.add Config.fileName (.file (.text [])) .empty)) .empty)) .empty
  workingDirectory := ["work"]

theorem strayFiles_wellFormed : strayFiles.WellFormed := ⟨by decide +kernel, _, rfl⟩

/-- From an absolute path the configuration above the working directory is found. -/
theorem findConfig_climbs_strayFiles :
    strayFiles.findConfig "/work/." = some "/.unwrappedrc.json" ∧
    strayFiles.FindsAmong "/work/." (Location.ancestors ["work"]) := by
  have hplace : strayFiles.locate "/work/." {} = .ok ["work"] := rfl
  have hclimbs := findConfig_climbs_iff strayFiles_wellFormed rfl hplace rfl
  exact ⟨by decide +kernel, (hclimbs.2.2 (by decide +kernel)).2.2 (by decide +kernel)⟩

/-- From `.` the configuration above the working directory is not found, and from a path with `..`
that leads to the working directory one is found that lies below it. -/
theorem findConfig_leaves_ancestors :
    strayFiles.configAmong (Location.ancestors ["work"]) = some [] ∧
    strayFiles.findConfig "." = none ∧
    strayFiles.findConfig "src/.." = some "src/.unwrappedrc.json" ∧
    ¬ ∀ (files : Files) (start : Path) (place : Location) (folder : Folder),
      files.WellFormed → files.top.isLinkFree = true → files.locate start {} = .ok place →
      files.top.entryAt? place = some (.directory folder) →
      files.FindsAmong start place.ancestors := by
  have hconfig : strayFiles.configAmong (Location.ancestors ["work"]) = some [] := by
    decide +kernel
  have hnone : strayFiles.findConfig "." = none := by
    decide +kernel
  refine ⟨hconfig, hnone, by decide +kernel, fun hclaim => ?_⟩
  have hfinds := hclaim strayFiles "." ["work"] _ strayFiles_wellFormed rfl rfl rfl
  rw [FindsAmong, hnone, hconfig] at hfinds
  cases hfinds

end Files

end Untranslated
