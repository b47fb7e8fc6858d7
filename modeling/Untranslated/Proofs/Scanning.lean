import Untranslated.Files.Scan
import Untranslated.Proofs.Folders
import Untranslated.Proofs.Paths

/-!
# The files that a scan finds

A scan walks down from its roots and turns back at whatever is left out.  What it
finds is told here without the walk: a source file is found if names lead to it
from a root, through folders and through no link, and nothing on the way is left
out.  A root that is a link is entered without being asked whether it is left out
itself, so a pattern that matches the link alone has no effect.
-/

namespace Untranslated

open Pattern (Glob)

/-! ### What is left out -/

/-- A path is left out: it is at or below a place among the ignores, or a pattern stands for it. -/
inductive ScanOptions.LeavesOut (options : ScanOptions) (base path : Path) : Prop where
  | place {ignored : String} (hignored : ignored ∈ options.ignores)
      (hplace : Glob.isGlob ignored = false)
      (hwithin : (base.join ignored).components <+: path.components)
  | pattern {ignored : String} {glob : Glob} (hignored : ignored ∈ options.ignores)
      (hpattern : Glob.isGlob ignored = true) (hglob : Glob.parse ignored = .ok glob)
      (hmatch : glob.isMatch path = true)
  | testFile {pattern : String} {glob : Glob} (htests : options.ignoreTestFiles = true)
      (hpattern : pattern ∈ Config.testFilePatterns) (hglob : Glob.parse pattern = .ok glob)
      (hmatch : glob.isMatch path = true)

namespace IgnoreRules

theorem any_placesOf {base path : Path} {ignores : List String} :
    (placesOf base ignores).any path.isWithin = true ↔
      ∃ ignored ∈ ignores, Glob.isGlob ignored = false ∧
        (base.join ignored).components <+: path.components := by
  simp [placesOf, Path.isWithin]

theorem any_patternsOf {path : Path} {patterns : List String} :
    (patternsOf patterns).any (·.isMatch path) = true ↔
      ∃ pattern ∈ patterns, Glob.isGlob pattern = true ∧
        ∃ glob, Glob.parse pattern = .ok glob ∧ glob.isMatch path = true := by
  have hoption : ∀ (pattern : String) (glob : Glob),
      (Glob.parse pattern).toOption = some glob ↔ Glob.parse pattern = .ok glob := by
    intro pattern glob
    cases Glob.parse pattern <;> simp [Except.toOption]
  simp only [patternsOf, List.any_eq_true, List.mem_filterMap, List.mem_filter, hoption]
  constructor
  · rintro ⟨glob, ⟨pattern, ⟨hpattern, hglob⟩, hparse⟩, hmatch⟩
    exact ⟨pattern, hpattern, hglob, glob, hparse, hmatch⟩
  · rintro ⟨pattern, hpattern, hglob, glob, hparse, hmatch⟩
    exact ⟨glob, ⟨pattern, ⟨hpattern, hglob⟩, hparse⟩, hmatch⟩

theorem isGlob_of_mem_testFilePatterns {pattern : String}
    (hpattern : pattern ∈ Config.testFilePatterns) : Glob.isGlob pattern = true := by
  revert pattern
  decide

theorem isIgnored_iff {base path : Path} {options : ScanOptions} :
    (ofOptions base options).isIgnored path = true ↔ options.LeavesOut base path := by
  have htests : ((if options.ignoreTestFiles then patternsOf Config.testFilePatterns else []).any
      (·.isMatch path)) = true ↔ options.ignoreTestFiles = true ∧
        (patternsOf Config.testFilePatterns).any (·.isMatch path) = true := by
    cases options.ignoreTestFiles <;> simp
  simp only [isIgnored, ofOptions, List.any_append, Bool.or_eq_true, any_placesOf, any_patternsOf,
    htests]
  constructor
  · rintro (⟨ignored, hignored, hplace, hwithin⟩ |
      ⟨ignored, hignored, hpattern, glob, hglob, hmatch⟩ |
      ⟨htests, pattern, hpattern, -, glob, hglob, hmatch⟩)
    · exact .place hignored hplace hwithin
    · exact .pattern hignored hpattern hglob hmatch
    · exact .testFile htests hpattern hglob hmatch
  · rintro (⟨hignored, hplace, hwithin⟩ | ⟨hignored, hpattern, hglob, hmatch⟩ |
      ⟨htests, hpattern, hglob, hmatch⟩)
    · exact .inl ⟨_, hignored, hplace, hwithin⟩
    · exact .inr (.inl ⟨_, hignored, hpattern, _, hglob, hmatch⟩)
    · exact .inr (.inr ⟨htests, _, hpattern, isGlob_of_mem_testFilePatterns hpattern, _, hglob,
        hmatch⟩)

end IgnoreRules

/-! ### Walking down -/

/-- Nothing on the way that names lead from a place is ignored, the place included. -/
def Path.WayClear (isIgnored : Path → Bool) (root : Path) (names : List String) : Prop :=
  ∀ front, front <+: names → isIgnored (root.joinAll front) = false

namespace Path

variable {isIgnored : Path → Bool} {root : Path}

theorem wayClear_nil : WayClear isIgnored root [] ↔ isIgnored root = false := by
  simp [WayClear]

theorem wayClear_cons {name : String} {names : List String} :
    WayClear isIgnored root (name :: names) ↔
      isIgnored root = false ∧ WayClear isIgnored (root.join name) names := by
  constructor
  · intro hclear
    refine ⟨hclear [] List.nil_prefix, ?_⟩
    intro front hfront
    exact hclear (name :: front) (List.prefix_cons_inj name |>.mpr hfront)
  · rintro ⟨hroot, hclear⟩ front hfront
    cases front with
    | nil => exact hroot
    | cons first front =>
        obtain ⟨rfl, htail⟩ := List.cons_prefix_cons.mp hfront
        exact hclear front htail

end Path

theorem Folder.mem_sources {isIgnored : Path → Bool} {root path : Path} {folder : Folder} :
    path ∈ folder.sources isIgnored root ↔
      ∃ item ∈ folder.entries, path ∈ item.2.sources isIgnored (root.join item.1) := by
  induction folder using Folder.induct with
  | empty => simp [Folder.sources]
  | add name entry rest ih =>
      rw [Folder.sources, List.mem_append, ih, Folder.entries_add]
      simp only [List.mem_cons, exists_eq_or_imp]

theorem Entry.mem_sources {isIgnored : Path → Bool} {path : Path} (entry : Entry) :
    ∀ {root : Path}, path ∈ entry.sources isIgnored root ↔
      ∃ names content, entry.Reaches names (.file content) ∧ path = root.joinAll names ∧
        path.isSource = true ∧ Path.WayClear isIgnored root names := by
  induction entry using Entry.induct with
  | file content =>
      intro root
      constructor
      · intro hpath
        simp only [Entry.sources, Bool.and_eq_true, Bool.not_eq_true', List.mem_ite_nil_right,
          List.mem_singleton] at hpath
        obtain ⟨⟨hclear, hsource⟩, rfl⟩ := hpath
        exact ⟨[], content, .here _, rfl, hsource, Path.wayClear_nil.mpr hclear⟩
      · rintro ⟨names, content, ⟨⟩, rfl, hsource, hclear⟩
        simp [Entry.sources, Path.wayClear_nil.mp hclear, hsource]
  | link target =>
      intro root
      constructor
      · intro hpath
        cases hpath
      · rintro ⟨names, content, hreaches, -⟩
        cases hreaches
  | directory folder ih =>
      intro root
      constructor
      · intro hpath
        simp only [Entry.sources, List.mem_ite_nil_left, Folder.mem_sources] at hpath
        obtain ⟨hroot, ⟨name, entry⟩, hentry, hpath⟩ := hpath
        obtain ⟨names, content, hreaches, rfl, hsource, hclear⟩ := (ih _ hentry).mp hpath
        exact ⟨name :: names, content, .inside hentry hreaches, rfl, hsource,
          Path.wayClear_cons.mpr ⟨Bool.eq_false_iff.mpr hroot, hclear⟩⟩
      · rintro ⟨names, content, hreaches, rfl, hsource, hclear⟩
        cases hreaches with
        | inside hentry hreaches =>
            obtain ⟨hroot, hclear⟩ := Path.wayClear_cons.mp hclear
            rw [Entry.sources, if_neg (Bool.not_eq_true _ ▸ hroot), Folder.mem_sources]
            exact ⟨_, hentry, (ih _ hentry).mpr ⟨_, _, hreaches, rfl, hsource, hclear⟩⟩

/-! ### Roots -/

namespace Files

/-- What a root names is a link, wherever it leads. -/
def IsLink (files : Files) (root : Path) : Prop :=
  ∃ target, files.entryOf root { follow := false } = .ok (.link target)

/-- Where a walk from a root starts: at what the root names or, if that is a link, at the folder
that it leads to. -/
inductive Starts (files : Files) (root : Path) : Entry → Prop where
  | named {entry : Entry} (hentry : files.entryOf root { follow := false } = .ok entry)
      (hlink : ¬ files.IsLink root) : Starts files root entry
  | linked {folder : Folder} (hlink : files.IsLink root)
      (hfolder : files.entry root = .ok (.directory folder)) : Starts files root (.directory folder)

theorem mem_sourcesAt_of_not_isLink {files : Files} {isIgnored : Path → Bool} {root path : Path}
    (hlink : ¬ files.IsLink root) :
    (∃ paths, files.sourcesAt isIgnored root = .ok paths ∧ path ∈ paths) ↔
      ∃ entry, files.entryOf root { follow := false } = .ok entry ∧
        path ∈ entry.sources isIgnored root := by
  unfold sourcesAt
  split
  · next herror => simp [herror]
  · next target hentry => exact absurd ⟨target, hentry⟩ hlink
  · next entry _ hentry => simp [hentry]

theorem mem_sourcesAt_of_isLink {files : Files} {isIgnored : Path → Bool} {root path : Path}
    (hlink : files.IsLink root) :
    (∃ paths, files.sourcesAt isIgnored root = .ok paths ∧ path ∈ paths) ↔
      ∃ folder, files.entry root = .ok (.directory folder) ∧
        path ∈ folder.sources isIgnored root := by
  obtain ⟨target, htarget⟩ := hlink
  rw [sourcesAt, htarget]
  constructor
  · rintro ⟨paths, hpaths, hpath⟩
    dsimp only at hpaths
    split at hpaths
    · cases hpaths
    · next folder hfolder =>
        cases hpaths
        exact ⟨folder, hfolder, hpath⟩
    · cases hpaths
      cases hpath
  · rintro ⟨folder, hfolder, hpath⟩
    exact ⟨folder.sources isIgnored root, by rw [hfolder], hpath⟩

/-- The source files at or below a root: the way to each of them is clear.  A root that is a link
is not asked about. -/
theorem mem_sourcesAt {files : Files} {isIgnored : Path → Bool} {root path : Path} :
    (∃ paths, files.sourcesAt isIgnored root = .ok paths ∧ path ∈ paths) ↔
      ∃ entry names content, files.Starts root entry ∧ entry.Reaches names (.file content) ∧
        path = root.joinAll names ∧ path.isSource = true ∧
        ∀ front, front <+: names → (front = [] → ¬ files.IsLink root) →
          isIgnored (root.joinAll front) = false := by
  by_cases hlink : files.IsLink root
  · rw [mem_sourcesAt_of_isLink hlink]
    constructor
    · rintro ⟨folder, hfolder, hpath⟩
      obtain ⟨⟨name, entry⟩, hentry, hpath⟩ := Folder.mem_sources.mp hpath
      obtain ⟨names, content, hreaches, rfl, hsource, hclear⟩ := entry.mem_sources.mp hpath
      refine ⟨_, name :: names, content, .linked hlink hfolder, .inside hentry hreaches, rfl,
        hsource, ?_⟩
      intro front hfront hasked
      cases front with
      | nil => exact absurd hlink (hasked rfl)
      | cons first front =>
          obtain ⟨rfl, htail⟩ := List.cons_prefix_cons.mp hfront
          exact hclear front htail
    · rintro ⟨entry, names, content, hstarts, hreaches, rfl, hsource, hclear⟩
      cases hstarts with
      | named hentry hnot => exact absurd hlink hnot
      | linked _ hfolder =>
          cases hreaches with
          | inside hentry hreaches =>
              refine ⟨_, hfolder, Folder.mem_sources.mpr ⟨_, hentry,
                (Entry.mem_sources _).mpr ⟨_, _, hreaches, rfl, hsource, ?_⟩⟩⟩
              intro front hfront
              exact hclear _ (List.cons_prefix_cons.mpr ⟨rfl, hfront⟩) fun hnil =>
                absurd hnil (List.cons_ne_nil _ _)
  · rw [mem_sourcesAt_of_not_isLink hlink]
    constructor
    · rintro ⟨entry, hentry, hpath⟩
      obtain ⟨names, content, hreaches, rfl, hsource, hclear⟩ := entry.mem_sources.mp hpath
      exact ⟨entry, names, content, .named hentry hlink, hreaches, rfl, hsource,
        fun front hfront _ => hclear front hfront⟩
    · rintro ⟨entry, names, content, hstarts, hreaches, rfl, hsource, hclear⟩
      cases hstarts with
      | named hentry _ =>
          exact ⟨entry, hentry, entry.mem_sources.mpr ⟨names, content, hreaches, rfl, hsource,
            fun front hfront => hclear front hfront fun _ => hlink⟩⟩
      | linked hlinked _ => exact absurd hlinked hlink

/-! ### The scan -/

/-- The places from which a scan starts: the base, or what the includes stand for. -/
def roots (files : Files) (base : Path) (options : ScanOptions) : List Path :=
  if options.includes = [] then [base]
  else options.includes.flatMap fun pattern => ((files.rootsOf base pattern).toOption).getD []

theorem found_map {α : Type} (outcome : α → Except ScanWarning (List Path)) (values : List α) :
    found (values.map outcome) = values.flatMap fun value => (outcome value).toOption.getD [] := by
  rw [found, List.flatMap_map]
  congr 1
  funext value
  cases outcome value <;> rfl

theorem files_scan (files : Files) (base : Path) (options : ScanOptions) :
    (files.scan base options).files = Path.sorted ((files.roots base options).flatMap fun root =>
      (files.sourcesAt (IgnoreRules.ofOptions base options).isIgnored root).toOption.getD []) := by
  have hroots : found (if options.includes.isEmpty then [.ok [base]]
      else options.includes.map (files.rootsOf base)) = files.roots base options := by
    unfold roots
    cases options.includes with
    | nil => rfl
    | cons pattern patterns =>
        rw [if_neg (List.cons_ne_nil _ _), ← found_map]
        rfl
  rw [← hroots, ← found_map]
  rfl

/-- Names lead from a root, through folders and through no link, to the source file of a path. -/
structure LeadsTo (files : Files) (root : Path) (names : List String) (path : Path) : Prop where
  reaches : ∃ entry content, files.Starts root entry ∧ entry.Reaches names (.file content)
  spelled : (root.joinAll names).components = path.components
  isSource : path.isSource = true

/-- Names lead from a root to the source file of a path, and nothing on the way is left out.  A root
that is a link is not asked about. -/
def Offers (files : Files) (base : Path) (options : ScanOptions) (root path : Path) : Prop :=
  ∃ names, files.LeadsTo root names path ∧
    ∀ front, front <+: names → (front = [] → ¬ files.IsLink root) →
      ¬ options.LeavesOut base (root.joinAll front)

theorem isSource_congr {path other : Path} (hcomponents : path.components = other.components) :
    path.isSource = other.isSource := by
  rw [Path.isSource, Path.isSource, Path.extension?, Path.extension?, Path.fileName?,
    Path.fileName?, hcomponents]

theorem mem_found {files : Files} {isIgnored : Path → Bool} {root path : Path} :
    path ∈ (files.sourcesAt isIgnored root).toOption.getD [] ↔
      ∃ paths, files.sourcesAt isIgnored root = .ok paths ∧ path ∈ paths := by
  cases files.sourcesAt isIgnored root <;> simp [Except.toOption]

theorem isAmong_scan {files : Files} {base path : Path} {options : ScanOptions} :
    path.IsAmong (files.scan base options).files ↔
      ∃ root ∈ files.roots base options, files.Offers base options root path := by
  rw [files_scan, Path.isAmong_sorted, Path.IsAmong]
  simp only [List.mem_flatMap, mem_found, mem_sourcesAt, Offers, ← IgnoreRules.isIgnored_iff,
    Bool.not_eq_true]
  constructor
  · rintro ⟨other, ⟨root, hroot, entry, names, content, hstarts, hreaches, rfl, hsource, hclear⟩,
      hother⟩
    exact ⟨root, hroot, names, ⟨⟨entry, content, hstarts, hreaches⟩, hother,
      isSource_congr hother ▸ hsource⟩, hclear⟩
  · rintro ⟨root, hroot, names, ⟨⟨entry, content, hstarts, hreaches⟩, hother, hsource⟩, hclear⟩
    exact ⟨_, ⟨root, hroot, entry, names, content, hstarts, hreaches, rfl,
      (isSource_congr hother).trans hsource, hclear⟩, hother⟩

/-- A path that is found is spelled as the names that lead to it from a root. -/
theorem eq_joinAll_of_mem_scan {files : Files} {base path : Path} {options : ScanOptions}
    (hpath : path ∈ (files.scan base options).files) :
    ∃ root entry names content, files.Starts root entry ∧ entry.Reaches names (.file content) ∧
      path = root.joinAll names := by
  rw [files_scan] at hpath
  obtain ⟨root, -, hfound⟩ := List.mem_flatMap.mp (Path.mem_of_mem_sorted hpath)
  obtain ⟨entry, names, content, hstarts, hreaches, hspelled, -⟩ :=
    mem_sourcesAt.mp (mem_found.mp hfound)
  exact ⟨root, entry, names, content, hstarts, hreaches, hspelled⟩

theorem mem_roots_of_includes {files : Files} {base root : Path} {options : ScanOptions}
    (hincludes : options.includes ≠ []) :
    root ∈ files.roots base options ↔
      ∃ pattern ∈ options.includes, root ∈ (files.rootsOf base pattern).toOption.getD [] := by
  rw [roots, if_neg hincludes, List.mem_flatMap]

theorem mem_roots_congr {files : Files} {base root : Path} {options : ScanOptions}
    {includes : List String} (hsame : ∀ pattern, pattern ∈ includes ↔ pattern ∈ options.includes) :
    root ∈ files.roots base { options with includes } ↔ root ∈ files.roots base options := by
  by_cases hempty : options.includes = []
  · have hnone : includes = [] := by
      apply List.eq_nil_iff_forall_not_mem.mpr
      intro pattern hpattern
      have := (hsame pattern).mp hpattern
      rw [hempty] at this
      cases this
    rw [roots, roots, if_pos hnone, if_pos hempty]
  · have hsome : includes ≠ [] := by
      obtain ⟨pattern, hpattern⟩ := List.exists_mem_of_ne_nil _ hempty
      exact List.ne_nil_of_mem ((hsame pattern).mpr hpattern)
    rw [mem_roots_of_includes hsome, mem_roots_of_includes hempty]
    simp only [hsame]

/-- What a root offers depends on the ignores, and not on the includes. -/
theorem offers_congr {files : Files} {base root path : Path} {options : ScanOptions}
    (includes : List String) :
    files.Offers base { options with includes } root path ↔
      files.Offers base options root path := by
  simp only [Offers, ← IgnoreRules.isIgnored_iff]
  rfl

theorem inOrder_scan (files : Files) (base : Path) (options : ScanOptions) :
    Path.InOrder (files.scan base options).files := by
  rw [files_scan]
  exact Path.inOrder_sorted _

end Files

theorem ScanOptions.LeavesOut.mono {options : ScanOptions} {base path : Path}
    {ignores : List String} (hmore : ∀ ignored ∈ options.ignores, ignored ∈ ignores)
    (hleft : options.LeavesOut base path) : { options with ignores }.LeavesOut base path := by
  cases hleft with
  | place hignored hplace hwithin => exact .place (hmore _ hignored) hplace hwithin
  | pattern hignored hpattern hglob hmatch =>
      exact .pattern (hmore _ hignored) hpattern hglob hmatch
  | testFile htests hpattern hglob hmatch => exact .testFile htests hpattern hglob hmatch

/-- A scan finds the source files to which a clear way leads from a root, each once, whatever the
order of the includes; where no root is both a link and left out, a way is clear if and only if
nothing on it is left out.  More includes add up, and more ignores add nothing. -/
theorem Files.scan_finds_exactly (files : Files) (base : Path) (options : ScanOptions) :
    (∀ path : Path, path.IsAmong (files.scan base options).files ↔
      ∃ root ∈ files.roots base options, ∃ names, files.LeadsTo root names path ∧
        ∀ front, front <+: names → (front = [] → ¬ files.IsLink root) →
          ¬ options.LeavesOut base (root.joinAll front)) ∧
    ((∀ root ∈ files.roots base options, files.IsLink root → ¬ options.LeavesOut base root) →
      ∀ path : Path, path.IsAmong (files.scan base options).files ↔
        ∃ root ∈ files.roots base options, ∃ names, files.LeadsTo root names path ∧
          ∀ front, front <+: names → ¬ options.LeavesOut base (root.joinAll front)) ∧
    (∀ includes, (∀ pattern, pattern ∈ includes ↔ pattern ∈ options.includes) →
      (files.scan base { options with includes }).files.map Path.components =
        (files.scan base options).files.map Path.components) ∧
    (∀ first second, first ≠ [] → second ≠ [] → ∀ path : Path,
      path.IsAmong (files.scan base { options with includes := first ++ second }).files ↔
        path.IsAmong (files.scan base { options with includes := first }).files ∨
          path.IsAmong (files.scan base { options with includes := second }).files) ∧
    (∀ ignores, (∀ ignored ∈ options.ignores, ignored ∈ ignores) → ∀ path : Path,
      path.IsAmong (files.scan base { options with ignores }).files →
        path.IsAmong (files.scan base options).files) := by
  refine ⟨fun path => isAmong_scan, ?_, ?_, ?_, ?_⟩
  · intro hlinks path
    rw [isAmong_scan]
    constructor
    · rintro ⟨root, hroot, names, hleads, hclear⟩
      refine ⟨root, hroot, names, hleads, ?_⟩
      intro front hfront
      by_cases hasked : front = [] → ¬ files.IsLink root
      · exact hclear front hfront hasked
      · obtain ⟨rfl, hlink⟩ := Classical.not_imp.mp hasked
        exact hlinks root hroot (Classical.not_not.mp hlink)
    · rintro ⟨root, hroot, names, hleads, hclear⟩
      exact ⟨root, hroot, names, hleads, fun front hfront _ => hclear front hfront⟩
  · intro includes hsame
    refine (inOrder_scan ..).map_components_eq (inOrder_scan ..) ?_
    intro path
    simp only [isAmong_scan, mem_roots_congr hsame, offers_congr includes]
  · intro first second hfirst hsecond path
    have hboth : first ++ second ≠ [] := List.append_ne_nil_of_left_ne_nil hfirst second
    simp only [isAmong_scan, offers_congr, mem_roots_of_includes, hfirst, hsecond, hboth, ne_eq,
      not_false_eq_true, List.mem_append, or_and_right, exists_or]
  · intro ignores hmore path hpath
    rw [isAmong_scan] at hpath ⊢
    obtain ⟨root, hroot, names, hleads, hclear⟩ := hpath
    exact ⟨root, hroot, names, hleads, fun front hfront hasked hleft =>
      hclear front hfront hasked (hleft.mono hmore)⟩

/-- A folder with one file in it, and a link to the folder. -/
def linkedFiles : Files where
  top := .add "real" (.directory (.add "a.ts" (.file (.text [])) .empty))
    (.add "link" (.link "real") .empty)
  workingDirectory := []

/-- The link is included, and a pattern stands for the link alone. -/
def linkIgnored : ScanOptions := ⟨["link"], ["**/link"], false⟩

theorem files_scan_linkedFiles : (linkedFiles.scan "." linkIgnored).files = ["./link/a.ts"] := by
  decide +kernel

theorem roots_linkedFiles : linkedFiles.roots "." linkIgnored = ["./link"] := by
  decide +kernel

/-- A root that a pattern stands for is walked all the same if it is a link. -/
theorem ignored_link_entered : ¬ ∀ path : Path,
    path.IsAmong (linkedFiles.scan "." linkIgnored).files ↔
      ∃ root ∈ linkedFiles.roots "." linkIgnored, ∃ names,
        linkedFiles.LeadsTo root names path ∧
          ∀ front, front <+: names → ¬ linkIgnored.LeavesOut "." (root.joinAll front) := by
  intro hclaim
  have hfound : Path.IsAmong "./link/a.ts" (linkedFiles.scan "." linkIgnored).files := by
    rw [files_scan_linkedFiles]
    exact ⟨_, List.mem_singleton_self _, rfl⟩
  obtain ⟨root, hroot, names, -, hclear⟩ := (hclaim _).mp hfound
  rw [roots_linkedFiles, List.mem_singleton] at hroot
  subst hroot
  refine hclear [] List.nil_prefix (IgnoreRules.isIgnored_iff.mp ?_)
  decide +kernel

end Untranslated
