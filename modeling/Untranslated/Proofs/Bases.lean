import Untranslated.Proofs.Expansion

/-!
# Patterns below a base

A pattern that is read from a base is expanded through the parts of the base
first.  Where these have no wildcards they are passed one by one, and the
expansion goes on in the folder that the base leads to.  It spells the paths that
it finds without the `.` at the start of the base.
-/

namespace Untranslated

open Pattern (Glob)

namespace Path

/-- The parts of a path between slashes, a slash at its end aside. -/
def parts (base : Path) : List String :=
  ((split base.trunk).drop (if base.isAbsolute then 1 else 0)).map String.ofList

/-- A path that keeps its meaning in front of a pattern: no wildcards, and no part is empty. -/
structure IsClean (base : Path) : Prop where
  plain : Glob.isPlain base.trunk = true
  full : "" ∉ base.parts

theorem subset_of_mem_split {chars part : List Char} (hpart : part ∈ split chars) :
    ∀ char ∈ part, char ∈ chars ∧ char ≠ '/' := by
  induction chars generalizing part with
  | nil =>
      rw [split, List.mem_singleton] at hpart
      subst hpart
      exact List.forall_mem_nil _
  | cons first chars ih =>
      have hrest : part ∈ split chars → ∀ char ∈ part, char ∈ first :: chars ∧ char ≠ '/' :=
        fun hpart char hchar => (ih hpart char hchar).imp_left (List.mem_cons_of_mem first)
      by_cases hslash : first = '/'
      · rw [split, if_pos hslash] at hpart
        rcases List.mem_cons.mp hpart with rfl | hpart
        · exact List.forall_mem_nil _
        · exact hrest hpart
      · obtain ⟨found, parts, hsplit⟩ := List.exists_cons_of_ne_nil (split_ne_nil chars)
        rw [split_cons_of_ne hslash hsplit] at hpart
        rcases List.mem_cons.mp hpart with rfl | hpart
        · refine List.forall_mem_cons.mpr ⟨⟨List.mem_cons_self, hslash⟩, ?_⟩
          intro char hchar
          exact (ih (hsplit ▸ List.mem_cons_self) char hchar).imp_left (List.mem_cons_of_mem first)
        · exact hrest (hsplit ▸ List.mem_cons_of_mem found hpart)

theorem exists_of_mem_parts {base : Path} {part : String} (hpart : part ∈ base.parts) :
    part.toList ∈ split base.trunk := by
  obtain ⟨chars, hchars, rfl⟩ := List.mem_map.mp hpart
  rw [String.toList_ofList]
  exact List.mem_of_mem_drop hchars

theorem IsClean.isPart {base : Path} (hclean : base.IsClean) {part : String}
    (hpart : part ∈ base.parts) : IsPart part where
  ne_empty hempty := hclean.full (hempty ▸ hpart)
  not_mem hslash := (subset_of_mem_split (exists_of_mem_parts hpart) '/' hslash).2 rfl

theorem IsClean.isPlain {base : Path} (hclean : base.IsClean) {part : String}
    (hpart : part ∈ base.parts) : Glob.isPlain part.toList = true := by
  have hplain := hclean.plain
  rw [Glob.isPlain, List.all_eq_true] at hplain ⊢
  intro char hchar
  exact hplain char (subset_of_mem_split (exists_of_mem_parts hpart) char hchar).1

theorem split_trunk_of_isAbsolute {base : Path} (habsolute : base.isAbsolute = true) :
    ∃ rest, split base.trunk = [] :: rest := by
  rw [isAbsolute, beq_iff_eq] at habsolute
  rcases trunk_cases base with ⟨-, hchars⟩ | ⟨-, hchars⟩
  all_goals
    cases htrunk : base.trunk with
    | nil => exact ⟨[], rfl⟩
    | cons first chars =>
        rw [hchars, htrunk] at habsolute
        cases habsolute
        exact ⟨_, rfl⟩

theorem IsClean.steps_eq_parts {base : Path} (hclean : base.IsClean) : base.steps = base.parts := by
  obtain ⟨ending, hending, hsplit⟩ := split_eq_trunk base
  have hnone : (ending.map String.ofList).filter (· != "") = [] := by
    rw [List.filter_eq_nil_iff, List.forall_mem_map]
    intro part hpart
    simp [hending part hpart]
  have hall : base.parts.filter (· != "") = base.parts := by
    rw [List.filter_eq_self]
    intro part hpart
    simpa using (hclean.isPart hpart).ne_empty
  rw [steps, hsplit, List.map_append, List.filter_append, hnone, List.append_nil, ← hall, parts]
  cases habsolute : base.isAbsolute with
  | false => rfl
  | true =>
      obtain ⟨rest, hrest⟩ := split_trunk_of_isAbsolute habsolute
      rw [hrest]
      rfl

/-- Only the first part of a path can be a `.` that counts. -/
theorem here_not_mem_filterMap (parts : List (List Char)) :
    .here ∉ parts.filterMap (componentOf? false) := by
  intro hmem
  obtain ⟨part, -, hpart⟩ := List.mem_filterMap.mp hmem
  simp only [componentOf?, Bool.false_eq_true, if_false] at hpart
  repeat' split at hpart
  all_goals cases hpart

theorem here_not_mem_relative (path : Path) : .here ∉ path.relative :=
  here_not_mem_filterMap _

/-- The component of a part, if it has one; a `.` has none. -/
def partComponent? (part : String) : Option Component := componentOf? false part.toList

theorem IsPart.relative {part : String} (hpart : IsPart part) :
    Path.relative part = (partComponent? part).toList := by
  rw [Path.relative, split_of_not_mem hpart.not_mem, List.filterMap_cons, partComponent?]
  cases componentOf? false part.toList <;> rfl

theorem IsPart.components {part : String} (hpart : IsPart part) (hhere : part ≠ ".") :
    Path.components part = (partComponent? part).toList := by
  have hchars : part.toList ≠ [] := fun hnil => hpart.ne_empty (String.toList_eq_nil_iff.mp hnil)
  have hdot : part.toList ≠ ['.'] := by
    intro hdot
    apply hhere
    rw [← String.ofList_toList (s := part), hdot]
  rw [components_eq_componentsOf hpart.ne_empty, split_of_not_mem hpart.not_mem, componentsOf,
    if_neg hchars, partComponent?, componentOf?, componentOf?, if_neg hdot, if_neg hdot]
  simp

theorem flatMap_relative_of_isPart {parts : List String} (hparts : ∀ part ∈ parts, IsPart part) :
    parts.flatMap relative = parts.filterMap partComponent? := by
  induction parts with
  | nil => rfl
  | cons part parts ih =>
      obtain ⟨hpart, hparts⟩ := List.forall_mem_cons.mp hparts
      rw [List.flatMap_cons, hpart.relative, ih hparts, List.filterMap_cons]
      cases partComponent? part <;> rfl

end Path

/-! ### Going down part by part -/

namespace Files

/-- The path from which a pattern below a base is expanded. -/
def origin (base : Path) : Path := if base.isAbsolute then "/" else "."

/-- The path that is reached from another by going down part by part. -/
def descend (start : Path) (parts : List String) : Path := parts.foldl childPath start

/-- The path of a location below a base, as the expansion of a pattern spells it. -/
def spell (base : Path) (location : Location) : Path :=
  descend (origin base) (base.parts ++ location)

theorem childPath_descend (start : Path) (parts : List String) (part : String) :
    childPath (descend start parts) part = descend start (parts ++ [part]) := by
  rw [descend, descend, List.foldl_append]
  rfl

theorem descend_eq_joinAll {path : Path} (hpath : path ≠ "") (hhere : .here ∉ path.components)
    {parts : List String} (hparts : ∀ part ∈ parts, Path.IsPart part) :
    descend path parts = path.joinAll parts := by
  induction parts generalizing path with
  | nil => rfl
  | cons part parts ih =>
      obtain ⟨hpart, hparts⟩ := List.forall_mem_cons.mp hparts
      have hchild : childPath path part = path.join part := by
        rw [childPath, if_neg]
        intro hcomponents
        exact hhere (hcomponents ▸ List.mem_cons_self)
      have hnext : .here ∉ (path.join part).components := by
        rw [Path.components_join hpath hpart.isAbsolute, List.mem_append, not_or]
        exact ⟨hhere, Path.here_not_mem_relative part⟩
      rw [descend, List.foldl_cons, hchild, Path.joinAll_cons]
      exact ih (Path.join_ne_empty hpath hpart.isAbsolute) hnext hparts

theorem descend_here (parts : List String) : descend "." ("." :: parts) = descend "." parts := rfl

theorem descend_part {part : String} (hpart : Path.IsPart part) (hhere : part ≠ ".")
    {parts : List String} (hparts : ∀ part ∈ parts, Path.IsPart part) :
    descend "." (part :: parts) = Path.joinAll part parts := by
  have hchild : childPath "." part = part := rfl
  rw [descend, List.foldl_cons, hchild]
  refine descend_eq_joinAll hpart.ne_empty ?_ hparts
  rw [hpart.components hhere, ← hpart.relative]
  exact Path.here_not_mem_relative part

theorem route_joinAll_of_isPart {part : String} (hpart : Path.IsPart part) {parts : List String}
    (hparts : ∀ part ∈ parts, Path.IsPart part) :
    Path.route (Path.joinAll part parts) = part :: parts := by
  cases parts with
  | nil => exact hpart.route
  | cons next parts =>
      rw [Path.route_joinAll hpart.ne_empty (fun part hmem => (hparts part hmem).isAbsolute)
        (List.cons_ne_nil _ _), hpart.steps, Path.routeAlong_of_isPart hparts]
      rfl

variable {files : Files}

/-- Going down part by part leads where the parts lead. -/
theorem locate_descend_here {parts : List String} (hparts : ∀ part ∈ parts, Path.IsPart part)
    (ending : Ending) : files.locate (descend "." parts) ending =
      resolve files.top ending (maxLinks + 1) files.workingDirectory parts := by
  induction parts with
  | nil => rfl
  | cons part parts ih =>
      obtain ⟨hpart, hrest⟩ := List.forall_mem_cons.mp hparts
      by_cases hhere : part = "."
      · subst hhere
        rw [descend_here, ih hrest]
        rfl
      · have hsegments : ∀ part ∈ parts, Path.isAbsolute part = false :=
          fun part hmem => (hrest part hmem).isAbsolute
        rw [descend_part hpart hhere hrest,
          locate_eq_resolve (Path.joinAll_ne_empty hpart.ne_empty hsegments),
          route_joinAll_of_isPart hpart hrest, home,
          Path.isAbsolute_joinAll hpart.ne_empty hsegments, hpart.isAbsolute]
        rfl

theorem locate_descend_root {parts : List String} (hparts : ∀ part ∈ parts, Path.IsPart part)
    (ending : Ending) : files.locate (descend "/" parts) ending =
      resolve files.top ending (maxLinks + 1) [] parts := by
  cases parts with
  | nil => rfl
  | cons part parts =>
      have hsegments : ∀ other ∈ part :: parts, Path.isAbsolute other = false :=
        fun part hmem => (hparts part hmem).isAbsolute
      have hroot : ("/" : Path) ≠ "" := by decide
      rw [descend_eq_joinAll hroot (by decide) hparts,
        locate_eq_resolve (Path.joinAll_ne_empty hroot hsegments), home,
        Path.isAbsolute_joinAll hroot hsegments,
        Path.route_joinAll hroot hsegments (List.cons_ne_nil _ _), Path.routeAlong_of_isPart hparts]
      rfl

theorem locate_descend {parts : List String} (hparts : ∀ part ∈ parts, Path.IsPart part)
    (base : Path) (ending : Ending) : files.locate (descend (origin base) parts) ending =
      resolve files.top ending (maxLinks + 1) (files.home base) parts := by
  unfold origin home
  split
  · exact locate_descend_root hparts ending
  · exact locate_descend_here hparts ending

section Base

variable {base : Path} {place : Location} {folder : Folder}

variable (hformed : files.WellFormed) (hclean : base.IsClean)
  (hplace : files.locate base {} = .ok place)
  (hfolder : files.top.entryAt? place = some (.directory folder))

include hformed hclean hplace hfolder

theorem resolve_parts :
    resolve files.top {} (maxLinks + 1) (files.home base) base.parts = .ok place := by
  rw [locate_eq_resolve (ne_empty_of_locate hplace), Path.route, hclean.steps_eq_parts] at hplace
  obtain ⟨start, hstart⟩ := hformed.entryAt?_home base
  obtain ⟨between, inner, hbetween, hinner⟩ := resolve_front hstart hplace hfolder
  by_cases hlanding : base.landing = []
  · rwa [hlanding, List.append_nil] at hplace
  · have hhere : base.landing = ["."] := by
      unfold Path.landing at hlanding ⊢
      split
      · rfl
      · next hlast => exact absurd (if_neg hlast) hlanding
    rw [hhere] at hplace
    obtain ⟨follow, hwalk⟩ := resolve_append hbetween hinner {} (List.cons_ne_nil "." [])
    have hsame : between = place := Except.ok.inj (hwalk.symm.trans hplace)
    rwa [hsame] at hbetween

/-- On the way through a base every part leads on. -/
theorem leadsOn_parts {front back : List String} {part : String}
    (hparts : base.parts = front ++ part :: back) :
    files.leadsOn (descend (origin base) front) part = true := by
  have hresolve := resolve_parts hformed hclean hplace hfolder
  have hpart : ∀ {other}, other ∈ front ++ [part] → Path.IsPart other := by
    intro other hother
    apply hclean.isPart
    rw [hparts, List.append_cons]
    exact List.mem_append_left back hother
  obtain ⟨start, hstart⟩ := hformed.entryAt?_home base
  rw [hparts] at hresolve
  unfold leadsOn
  split
  · obtain ⟨between, inner, hbetween, hinner⟩ := resolve_front hstart hresolve hfolder
    have hentry : files.entry (descend (origin base) front) = .ok (.directory inner) := by
      refine entryOf_eq_ok_iff.mpr ⟨between, ?_, hinner⟩
      rw [locate_descend fun other hother => hpart (List.mem_append_left _ hother)]
      exact hbetween
    rw [isDirectory, hentry]
  · rw [List.append_cons] at hresolve
    obtain ⟨between, inner, hbetween, hinner⟩ := resolve_front hstart hresolve hfolder
    obtain ⟨last, found, hlast, hfound⟩ := resolve_unfollowed hbetween hinner
    have hentry : files.entryOf (descend (origin base) (front ++ [part])) { follow := false } =
        .ok found := by
      refine entryOf_eq_ok_iff.mpr ⟨last, ?_, hfound⟩
      rw [locate_descend fun other hother => hpart hother]
      exact hlast
    rw [hasEntry, childPath_descend, hentry]
    rfl

theorem entryOf_spell_iff (hfree : folder.isLinkFree = true) {location : Location}
    (hlocation : AreFileNames location) {ending : Ending} (hending : ending.mayBeFree = false)
    (hempty : location = [] → ending = {}) (entry : Entry) :
    files.entryOf (spell base location) ending = .ok entry ↔
      folder.entryAt? location = some entry := by
  have hparts : ∀ part ∈ base.parts ++ location, Path.IsPart part := by
    intro part hpart
    rcases List.mem_append.mp hpart with hpart | hpart
    · exact hclean.isPart hpart
    · exact Path.isPart_of_isFileName (hlocation part hpart)
  have hresolve := resolve_parts hformed hclean hplace hfolder
  rw [entryOf_eq_ok_iff, spell, locate_descend hparts]
  by_cases hnone : location = []
  · rw [hnone, hempty hnone, List.append_nil, hresolve, Folder.entryAt?_nil, ← hfolder]
    simp
  · obtain ⟨follow, hwalk⟩ := resolve_append hresolve hfolder ending hnone
    rw [hwalk]
    exact walk_names_iff hfree hfolder hending hlocation

/-- The paths below a base show the folder that it leads to. -/
theorem shows_spell (hfree : folder.isLinkFree = true) : files.Shows (spell base) folder where
  child location name := by rw [spell, spell, childPath_descend, List.append_assoc]
  entry hlocation entry :=
    entryOf_spell_iff hformed hclean hplace hfolder hfree hlocation rfl (fun _ => rfl) entry
  present {location} hlocation hne := by
    have hentries : ∀ entry, files.entryOf (spell base location) { follow := false } = .ok entry ↔
        folder.entryAt? location = some entry :=
      entryOf_spell_iff hformed hclean hplace hfolder hfree hlocation rfl
        fun hnone => absurd hnone hne
    rw [hasEntry]
    cases hfound : folder.entryAt? location with
    | some entry =>
        rw [(hentries entry).mpr hfound]
        rfl
    | none =>
        cases hentry : files.entryOf (spell base location) { follow := false } with
        | error error => rfl
        | ok entry =>
            rw [(hentries entry).mp hentry] at hfound
            cases hfound

end Base

/-! ### Expanding below a base -/

/-- The components for parts without wildcards. -/
def literals (parts : List String) : List Glob := parts.map fun part => ⟨part.toList.map .char⟩

theorem mapM_parse_of_isPlain {parts : List String}
    (hplain : ∀ part ∈ parts, Glob.isPlain part.toList = true) :
    parts.mapM Glob.parse = .ok (literals parts) := by
  induction parts with
  | nil => rfl
  | cons part parts ih =>
      obtain ⟨hpart, hrest⟩ := List.forall_mem_cons.mp hplain
      rw [List.mapM_cons, Glob.parse_of_isPlain hpart, ih hrest]
      rfl

theorem withoutRepeats_literals (parts : List String) (globs : List Glob) :
    withoutRepeats (literals parts ++ globs) = literals parts ++ withoutRepeats globs := by
  induction parts with
  | nil => rfl
  | cons part parts ih =>
      have hone : (Glob.isRecursive ⟨part.toList.map .char⟩) = false :=
        Glob.isRecursive_chars part.toList
      rw [literals, List.map_cons, List.cons_append, List.cons_append, ← literals, ← ih]
      cases literals parts ++ globs with
      | nil => rfl
      | cons next rest => rw [withoutRepeats, hone, Bool.false_and, if_neg Bool.false_ne_true]

theorem withoutRepeats_ne_nil {globs : List Glob} (hglobs : globs ≠ []) :
    withoutRepeats globs ≠ [] := by
  induction globs with
  | nil => exact hglobs
  | cons first globs ih =>
      cases globs with
      | nil => exact hglobs
      | cons second globs =>
          rw [withoutRepeats]
          split
          · exact ih (List.cons_ne_nil _ _)
          · exact List.cons_ne_nil _ _

theorem mem_of_mem_withoutRepeats {globs : List Glob} {glob : Glob}
    (hglob : glob ∈ withoutRepeats globs) : glob ∈ globs := by
  induction globs with
  | nil => exact hglob
  | cons first globs ih =>
      cases globs with
      | nil => exact hglob
      | cons second globs =>
          rw [withoutRepeats] at hglob
          split at hglob
          · exact List.mem_cons_of_mem first (ih hglob)
          · rcases List.mem_cons.mp hglob with rfl | hglob
            · exact List.mem_cons_self
            · exact List.mem_cons_of_mem first (ih hglob)

/-- Parts without wildcards are passed one by one. -/
theorem expandFrom_literals {onlyFolders : Bool} {deeper : List Glob → Path → List Path}
    {parts : List String} {start : Path}
    (hleads : ∀ front part back, parts = front ++ part :: back →
      files.leadsOn (descend start front) part = true) (globs : List Glob) :
    files.expandFrom onlyFolders deeper (literals parts ++ globs) start =
      files.expandFrom onlyFolders deeper globs (descend start parts) := by
  induction parts generalizing start with
  | nil => rfl
  | cons part parts ih =>
      have hfirst : files.leadsOn start part = true := hleads [] part parts rfl
      have hliteral : Glob.literal? ⟨part.toList.map .char⟩ = some part := by
        rw [Glob.literal?_chars, String.ofList_toList]
      rw [literals, List.map_cons, List.cons_append, ← literals]
      simp only [expandFrom, hliteral, hfirst, if_true]
      refine ih fun front next back hparts => ?_
      exact hleads (part :: front) next back (by rw [hparts, List.cons_append])

theorem split_join {base pattern : Path} (hbase : base ≠ "")
    (hpattern : Path.isAbsolute pattern = false) :
    (Path.split (if Path.isAbsolute (base.join pattern) then (base.join pattern).toList.drop 1
      else (base.join pattern).toList)).map String.ofList =
        base.parts ++ (Path.split pattern.toList).map String.ofList := by
  rw [Path.isAbsolute_join hbase hpattern, Path.toList_join hbase hpattern, Path.parts]
  cases habsolute : base.isAbsolute with
  | false =>
      simp only [Bool.false_eq_true, if_false, List.drop_zero]
      rw [Path.split_append_slash, List.map_append]
  | true =>
      simp only [if_true]
      obtain ⟨rest, hrest⟩ := Path.split_trunk_of_isAbsolute habsolute
      cases htrunk : base.trunk with
      | nil => rfl
      | cons first chars =>
          by_cases hslash : first = '/'
          · rw [hslash, List.cons_append, List.drop_one, List.tail_cons, Path.split_append_slash,
              List.map_append, Path.split, if_pos rfl, List.drop_one, List.tail_cons]
          · obtain ⟨part, parts, hsplit⟩ :=
              List.exists_cons_of_ne_nil (Path.split_ne_nil chars)
            rw [htrunk, Path.split_cons_of_ne hslash hsplit] at hrest
            cases hrest

theorem patternParts_join {base pattern : Path} (hbase : base ≠ "")
    (hpattern : Path.isAbsolute pattern = false) :
    patternParts (base.join pattern) = base.parts ++ patternParts pattern := by
  have hne : (Path.split pattern.toList).map String.ofList ≠ [] := by
    rw [Ne, List.map_eq_nil_iff]
    exact Path.split_ne_nil _
  have hlast : (base.parts ++ (Path.split pattern.toList).map String.ofList).getLast? =
      ((Path.split pattern.toList).map String.ofList).getLast? := by
    rw [List.getLast?_append, List.getLast?_eq_some_getLast hne]
    rfl
  unfold patternParts
  simp only [split_join hbase hpattern, hlast, hpattern, Bool.false_eq_true, if_false]
  split
  · rw [List.dropLast_append_of_ne_nil hne]
  · rfl

theorem patternParts_ne_nil {pattern : Path} (hpattern : Path.isAbsolute pattern = false)
    (hne : pattern ≠ "") : patternParts pattern ≠ [] := by
  obtain ⟨first, rest, hsplit⟩ := List.exists_cons_of_ne_nil (Path.split_ne_nil pattern.toList)
  simp only [patternParts, hpattern, Bool.false_eq_true, if_false, hsplit, List.map_cons]
  cases rest with
  | nil =>
      have hfirst : String.ofList first ≠ "" := by
        intro hempty
        rw [String.ofList_eq_empty_iff.mp hempty] at hsplit
        exact hne (String.toList_eq_nil_iff.mp (Path.split_eq_nil_singleton hsplit))
      simp [hfirst]
  | cons second rest => split <;> simp

theorem ne_nil_of_mapM_parse {parts : List String} {globs : List Glob} (hparts : parts ≠ [])
    (hparse : parts.mapM Glob.parse = .ok globs) : globs ≠ [] := by
  rintro rfl
  cases parts with
  | nil => exact hparts rfl
  | cons part parts =>
      rw [List.mapM_cons] at hparse
      cases hfirst : Glob.parse part with
      | error error =>
          rw [hfirst] at hparse
          cases hparse
      | ok first =>
          cases hrest : parts.mapM Glob.parse with
          | error error =>
              rw [hfirst, hrest] at hparse
              cases hparse
          | ok rest =>
              rw [hfirst, hrest] at hparse
              cases hparse

theorem exists_parse_of_mem {parts : List String} {globs : List Glob}
    (hparse : parts.mapM Glob.parse = .ok globs) {glob : Glob} (hglob : glob ∈ globs) :
    ∃ part ∈ parts, Glob.parse part = .ok glob := by
  induction parts generalizing globs with
  | nil =>
      cases hparse
      cases hglob
  | cons part parts ih =>
      rw [List.mapM_cons] at hparse
      cases hfirst : Glob.parse part with
      | error error =>
          rw [hfirst] at hparse
          cases hparse
      | ok first =>
          cases hrest : parts.mapM Glob.parse with
          | error error =>
              rw [hfirst, hrest] at hparse
              cases hparse
          | ok rest =>
              rw [hfirst, hrest] at hparse
              cases hparse
              rcases List.mem_cons.mp hglob with rfl | hglob
              · exact ⟨part, List.mem_cons_self, hfirst⟩
              · obtain ⟨other, hother, hfound⟩ := ih hrest hglob
                exact ⟨other, List.mem_cons_of_mem part hother, hfound⟩

theorem isOk_parse_join {base pattern : Path} (hbase : base ≠ "") (hclean : base.IsClean)
    (hpattern : Path.isAbsolute pattern = false) :
    (Glob.parse (base.join pattern)).isOk = (Glob.parse pattern).isOk :=
  Glob.isOk_parse_of_append hclean.plain (Path.toList_join hbase hpattern)

theorem mapM_parse_join {base pattern : Path} (hbase : base ≠ "") (hclean : base.IsClean)
    (hpattern : Path.isAbsolute pattern = false) :
    (patternParts (base.join pattern)).mapM Glob.parse =
      ((patternParts pattern).mapM Glob.parse).map (literals base.parts ++ ·) := by
  rw [patternParts_join hbase hpattern, List.mapM_append,
    mapM_parse_of_isPlain fun part hpart => hclean.isPlain hpart]
  cases (patternParts pattern).mapM Glob.parse <;> rfl

/-- The longest way down is longer than any folder is deep. -/
theorem depth_lt_longestWay {place : Location} {folder : Folder}
    (hfolder : files.top.entryAt? place = some (.directory folder)) :
    folder.depth < files.longestWay := by
  calc folder.depth ≤ files.top.depth := Folder.depth_le_of_entryAt? hfolder
    _ < files.top.depth + 1 := Nat.lt_succ_self _
    _ ≤ (maxLinks + 1) * (files.top.depth + 1) := Nat.le_mul_of_pos_left _ (Nat.succ_pos _)

end Files

/-- A pattern stands for a location in a folder. -/
structure Folder.Matches (folder : Folder) (pattern : String) (target : Location) : Prop where
  isPattern : (Glob.parse pattern).isOk = true
  selects : ∃ globs, (Files.patternParts pattern).mapM Glob.parse = .ok globs ∧
    folder.Selects (Files.withoutRepeats globs) [] target
  isAnswer : Files.IsAnswer folder (pattern.toList.getLast? == some '/') target

namespace Files

section Expand

variable {files : Files} {base : Path} {place : Location} {folder : Folder} {pattern : Path}

variable (hformed : files.WellFormed) (hclean : base.IsClean)
  (hplace : files.locate base {} = .ok place)
  (hfolder : files.top.entryAt? place = some (.directory folder))
  (hpattern : Path.isAbsolute pattern = false) (hne : pattern ≠ "")

include hformed hclean hplace hfolder hpattern hne

/-- Below a base a pattern is expanded in the folder that the base leads to. -/
theorem expand_join (hparse : (Glob.parse pattern).isOk = true) {globs : List Glob}
    (hglobs : (patternParts pattern).mapM Glob.parse = .ok globs) :
    files.expand (base.join pattern) = .ok (files.expandUpTo
      (pattern.toList.getLast? == some '/') files.longestWay (withoutRepeats globs)
        (spell base [])) := by
  have hbase := ne_empty_of_locate hplace
  have hchars : pattern.toList ≠ [] := fun hnil => hne (String.toList_eq_nil_iff.mp hnil)
  have hlast : (base.join pattern).toList.getLast? = pattern.toList.getLast? := by
    rw [Path.toList_join hbase hpattern, List.getLast?_append,
      List.getLast?_cons_of_ne_nil hchars, List.getLast?_eq_some_getLast hchars]
    rfl
  have hsome : (literals base.parts ++ globs).isEmpty = false := by
    rw [List.isEmpty_eq_false_iff]
    exact List.append_ne_nil_of_right_ne_nil _
      (ne_nil_of_mapM_parse (patternParts_ne_nil hpattern hne) hglobs)
  obtain ⟨count, hcount⟩ : ∃ count, files.longestWay = count + 1 :=
    Nat.exists_eq_succ_of_ne_zero (Nat.ne_of_gt (Nat.lt_of_le_of_lt (Nat.zero_le _)
      (depth_lt_longestWay hfolder)))
  rw [← isOk_parse_join hbase hclean hpattern] at hparse
  cases hwhole : Glob.parse (base.join pattern) with
  | error error =>
      rw [hwhole] at hparse
      cases hparse
  | ok glob =>
      simp only [expand, hwhole, mapM_parse_join hbase hclean hpattern, hglobs, bind, Except.bind,
        Except.map, hsome, Bool.false_eq_true, if_false, hlast,
        Path.isAbsolute_join hbase hpattern, hcount, expandUpTo, withoutRepeats_literals, spell,
        List.append_nil]
      exact congrArg Except.ok (expandFrom_literals (fun front part back hparts =>
        leadsOn_parts hformed hclean hplace hfolder hparts) _)

/-- What a pattern below a base stands for is what it stands for in the folder. -/
theorem mem_expand_join_iff (hfree : folder.isLinkFree = true)
    (hdownward : ∀ part ∈ patternParts pattern, ∀ glob, Glob.parse part = .ok glob →
      glob.isDownward = true) {path : Path} :
    path ∈ (files.expand (base.join pattern)).toOption.getD [] ↔
      ∃ target, folder.Matches pattern target ∧ path = spell base target := by
  have hbase := ne_empty_of_locate hplace
  have hshows := shows_spell hformed hclean hplace hfolder hfree
  have hnamed := Folder.isWellNamed_of_entryAt? hformed.named hfolder
  have hnone : AreFileNames [] := List.forall_mem_nil _
  cases hwhole : Glob.parse (base.join pattern) with
  | error error =>
      have hparse := isOk_parse_join hbase hclean hpattern
      rw [hwhole] at hparse
      simp only [expand, hwhole, bind, Except.bind, Except.toOption, Option.getD_none,
        List.not_mem_nil, false_iff]
      rintro ⟨target, hmatches, -⟩
      rw [hmatches.isPattern] at hparse
      cases hparse
  | ok glob =>
      have hparse : (Glob.parse pattern).isOk = true := by
        rw [← isOk_parse_join hbase hclean hpattern, hwhole]
        rfl
      cases hglobs : (patternParts pattern).mapM Glob.parse with
      | error error =>
          simp only [expand, hwhole, mapM_parse_join hbase hclean hpattern, hglobs, bind,
            Except.bind, Except.map, Except.toOption, Option.getD_none, List.not_mem_nil, false_iff]
          rintro ⟨target, ⟨-, ⟨globs, hother, -⟩, -⟩, -⟩
          rw [hglobs] at hother
          cases hother
      | ok globs =>
          have hall : ∀ glob ∈ withoutRepeats globs, glob.isDownward = true := by
            intro glob hglob
            obtain ⟨part, hpart, hfound⟩ :=
              exists_parse_of_mem hglobs (mem_of_mem_withoutRepeats hglob)
            exact hdownward part hpart glob hfound
          rw [expand_join hformed hclean hplace hfolder hpattern hne hparse hglobs]
          constructor
          · intro hpath
            obtain ⟨target, hselects, hanswer, rfl⟩ :=
              selects_of_mem_expandUpTo hshows hnamed hall hnone hpath
            exact ⟨target, ⟨hparse, ⟨globs, hglobs, hselects⟩, hanswer⟩, rfl⟩
          · rintro ⟨target, ⟨-, ⟨others, hothers, hselects⟩, hanswer⟩, rfl⟩
            cases hglobs.symm.trans hothers
            have hdepth := depth_lt_longestWay hfolder
            refine mem_expandUpTo_of_selects hshows hnamed hselects hall hnone hanswer
              (Nat.lt_of_le_of_lt (Nat.zero_le _) hdepth) ?_
            intro inner hinner
            rw [Folder.entryAt?_nil] at hinner
            cases hinner
            exact hdepth

end Expand

end Files

end Untranslated
