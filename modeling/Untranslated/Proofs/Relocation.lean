import Untranslated.Proofs.Roots

/-!
# Scanning copies of a folder

Two bases that lead to equal folders have the same files found below them, as
long as the ignored patterns, which are matched against whole paths, do not tell
the bases apart.  A place that is ignored is compared as it is spelled, and the
expansion of an included pattern drops a `.` from the start of the base, so where
both are used the bases must agree on that `.` too.
-/

namespace Untranslated

open Pattern (Glob)

namespace Path

/-! ### Joining one after the other -/

theorem isAbsolute_join_of_relative {base path : Path} (hbase : base.isAbsolute = false)
    (hpath : path.isAbsolute = false) : (base.join path).isAbsolute = false := by
  by_cases hempty : base = ""
  · subst hempty
    rw [join, if_pos (by simp)]
    exact hpath
  · rw [isAbsolute_join hempty hpath, hbase]

theorem trunk_of_concat {path : Path} {chars : List Char} (hchars : path.toList = chars ++ ['/']) :
    path.trunk = chars := by
  simp [trunk, hchars]

theorem trunk_join {base path : Path} (hbase : base ≠ "") (hpath : path.isAbsolute = false)
    (hne : path ≠ "") : (base.join path).trunk = base.trunk ++ '/' :: path.trunk := by
  have hjoin := toList_join hbase hpath
  rcases trunk_cases path with ⟨-, hchars⟩ | ⟨hopen, hchars⟩
  · apply trunk_of_concat
    rw [hjoin, hchars, List.append_assoc, List.cons_append]
  · have hsome : path.toList ≠ [] := fun hnil => hne (String.toList_eq_nil_iff.mp hnil)
    have hlast : (base.join path).toList.getLast? ≠ some '/' := by
      rw [hjoin, List.getLast?_append, List.getLast?_cons_of_ne_nil hsome]
      simpa [List.getLast?_eq_some_getLast hsome] using hopen
    rw [trunk, if_neg (by simpa using hlast), hjoin, hchars]

theorem join_join {base path next : Path} (hbase : base ≠ "") (hpath : path.isAbsolute = false)
    (hnext : next.isAbsolute = false) :
    (base.join path).join next = base.join (path.join next) := by
  apply String.toList_inj.mp
  rw [toList_join (join_ne_empty hbase hpath) hnext]
  by_cases hempty : path = ""
  · subst hempty
    have htrunk : (base.join "").trunk = base.trunk := trunk_of_concat (toList_join hbase hpath)
    have hjoin : join "" next = next := if_pos (Bool.or_true _)
    rw [htrunk, hjoin, toList_join hbase hnext]
  · rw [trunk_join hbase hpath hempty, toList_join hbase (isAbsolute_join_of_relative hpath hnext),
      toList_join hempty hnext, List.append_assoc, List.cons_append]

theorem joinAll_join {base path : Path} (hbase : base ≠ "") (hpath : path.isAbsolute = false)
    {names : List String} (hnames : Files.AreFileNames names) :
    (base.join path).joinAll names = base.join (path.joinAll names) ∧
      (path.joinAll names).isAbsolute = false := by
  induction names generalizing path with
  | nil => exact ⟨rfl, hpath⟩
  | cons name names ih =>
      obtain ⟨hname, hnames⟩ := List.forall_mem_cons.mp hnames
      have hrelative := (isPart_of_isFileName hname).isAbsolute
      rw [joinAll_cons, join_join hbase hpath hrelative, joinAll_cons]
      exact ih (isAbsolute_join_of_relative hpath hrelative) hnames

end Path

/-! ### What is left out below two bases -/

theorem ScanOptions.leavesOut_iff {options : ScanOptions} {base path : Path} :
    options.LeavesOut base path ↔
      (∃ ignored ∈ options.ignores, Glob.isGlob ignored = false ∧
        (base.join ignored).components <+: path.components) ∨
      ∃ glob ∈ (IgnoreRules.ofOptions base options).patterns, glob.isMatch path = true := by
  rw [← IgnoreRules.isIgnored_iff, ← IgnoreRules.any_placesOf, ← List.any_eq_true]
  exact Bool.or_eq_true_iff

/-- What is left out does not tell two bases apart: neither by a pattern nor, where patterns are
included and places ignored, by a `.` at the start of a base. -/
structure ScanOptions.SameFrom (options : ScanOptions) (base other : Path) : Prop where
  itself : ∀ glob ∈ (IgnoreRules.ofOptions base options).patterns,
    glob.isMatch base = glob.isMatch other
  below : ∀ glob ∈ (IgnoreRules.ofOptions base options).patterns, ∀ path : Path,
    path.isAbsolute = false → glob.isMatch (base.join path) = glob.isMatch (other.join path)
  expanded : ∀ glob ∈ (IgnoreRules.ofOptions base options).patterns,
    ∀ pattern ∈ options.includes, Glob.isGlob pattern = true →
      ∀ location, Files.AreFileNames location → location ≠ [] →
        glob.isMatch (Files.spell base location) = glob.isMatch (Files.spell other location)
  start : ∀ pattern ∈ options.includes, Glob.isGlob pattern = true →
    ∀ ignored ∈ options.ignores, Glob.isGlob ignored = false →
      (.here ∈ base.components ↔ .here ∈ other.components)

theorem ScanOptions.SameFrom.symm {options : ScanOptions} {base other : Path}
    (hsame : options.SameFrom base other) : options.SameFrom other base where
  itself glob hglob := (hsame.itself glob hglob).symm
  below glob hglob path hpath := (hsame.below glob hglob path hpath).symm
  expanded glob hglob pattern hpattern hexpanded location hlocation hne :=
    (hsame.expanded glob hglob pattern hpattern hexpanded location hlocation hne).symm
  start pattern hpattern hexpanded ignored hignored hplace :=
    (hsame.start pattern hpattern hexpanded ignored hignored hplace).symm

namespace Files

section Copies

variable {first second : Files} {base other : Path} {options : ScanOptions} {folder : Folder}

variable (hfirst : first.ScansInside base options folder)
  (hsecond : second.ScansInside other options folder) (hsame : options.SameFrom base other)
  {spelling : Path → Path} {target : Location} (hroot : folder.Root options spelling target)
  {names : List String} (hnames : AreFileNames names)

include hfirst hsecond hsame hroot hnames

theorem isMatch_root {glob : Glob}
    (hglob : glob ∈ (IgnoreRules.ofOptions base options).patterns) :
    glob.isMatch ((spelling base).joinAll names) =
      glob.isMatch ((spelling other).joinAll names) := by
  have hbase := hfirst.ne_empty
  have hother := hsecond.ne_empty
  cases hroot with
  | base =>
      cases names with
      | nil => exact hsame.itself glob hglob
      | cons name names =>
          obtain ⟨hname, hnames⟩ := List.forall_mem_cons.mp hnames
          have hrelative := (Path.isPart_of_isFileName hname).isAbsolute
          obtain ⟨hjoin, habsolute⟩ := Path.joinAll_join hbase hrelative hnames
          rw [id, id, Path.joinAll_cons, Path.joinAll_cons, hjoin,
            (Path.joinAll_join hother hrelative hnames).1]
          exact hsame.below glob hglob _ habsolute
  | place hpattern =>
      have hrelative := hfirst.isAbsolute_include hpattern
      obtain ⟨hjoin, habsolute⟩ := Path.joinAll_join hbase hrelative hnames
      rw [hjoin, (Path.joinAll_join hother hrelative hnames).1]
      exact hsame.below glob hglob _ habsolute
  | expanded hpattern hexpanded hmatches hinner =>
      have htarget := Folder.areFileNames_of_entryAt? hfirst.isWellNamed hinner
      have hne := hmatches.target_ne_nil (hfirst.isAbsolute_include hpattern)
        (ne_empty_of_isGlob hexpanded)
      rw [joinAll_spell hbase (hfirst.clean _ hpattern hexpanded) htarget hne hnames,
        joinAll_spell hother (hsecond.clean _ hpattern hexpanded) htarget hne hnames]
      exact hsame.expanded glob hglob _ hpattern hexpanded _ (htarget.append hnames)
        (List.append_ne_nil_of_left_ne_nil hne names)

theorem within_root {ignored : String} (hignored : ignored ∈ options.ignores)
    (hplace : Glob.isGlob ignored = false)
    (hwithin : (base.join ignored).components <+: ((spelling base).joinAll names).components) :
    (other.join ignored).components <+: ((spelling other).joinAll names).components := by
  have hbase := hfirst.ne_empty
  have hother := hsecond.ne_empty
  have hrelative := hfirst.relative ignored (List.mem_append_right _ hignored)
  rw [Path.components_join hbase hrelative] at hwithin
  rw [Path.components_join hother hrelative]
  cases hroot with
  | base =>
      rw [id, Path.components_joinAll_names hbase hnames, List.prefix_append_right_inj] at hwithin
      rwa [id, Path.components_joinAll_names hother hnames, List.prefix_append_right_inj]
  | place hpattern =>
      have hpath := hfirst.isAbsolute_include hpattern
      rw [Path.components_joinAll_names (Path.join_ne_empty hbase hpath) hnames,
        Path.components_join hbase hpath, List.append_assoc, List.prefix_append_right_inj]
        at hwithin
      rwa [Path.components_joinAll_names (Path.join_ne_empty hother hpath) hnames,
        Path.components_join hother hpath, List.append_assoc, List.prefix_append_right_inj]
  | expanded hpattern hexpanded hmatches hinner =>
      have htarget := Folder.areFileNames_of_entryAt? hfirst.isWellNamed hinner
      have hne := hmatches.target_ne_nil (hfirst.isAbsolute_include hpattern)
        (ne_empty_of_isGlob hexpanded)
      have hlocation := htarget.append hnames
      have hsome := List.append_ne_nil_of_left_ne_nil hne names
      have hclean := hfirst.clean _ hpattern hexpanded
      have hotherClean := hsecond.clean _ hpattern hexpanded
      rw [joinAll_spell hbase hclean htarget hne hnames,
        components_spell hbase hclean hlocation hsome] at hwithin
      rw [joinAll_spell hother hotherClean htarget hne hnames,
        components_spell hother hotherClean hlocation hsome]
      -- The expansion drops a `.` that the base starts with, so nothing is within such a base.
      have hhere : .here ∉ base.components := by
        intro hhere
        rcases List.mem_append.mp (hwithin.subset (List.mem_append_left _ hhere)) with hmem | hmem
        · exact base.here_not_mem_trace hmem
        · exact Path.here_not_mem_map_name _ hmem
      have hotherHere : .here ∉ other.components :=
        mt (hsame.start _ hpattern hexpanded ignored hignored hplace).mpr hhere
      rw [Path.trace, Path.filter_here hhere, List.prefix_append_right_inj] at hwithin
      rwa [Path.trace, Path.filter_here hotherHere, List.prefix_append_right_inj]

/-- What is left out below one base is left out below the other. -/
theorem leavesOut_root (hleft : options.LeavesOut base ((spelling base).joinAll names)) :
    options.LeavesOut other ((spelling other).joinAll names) := by
  rw [ScanOptions.leavesOut_iff] at hleft ⊢
  rcases hleft with ⟨ignored, hignored, hplace, hwithin⟩ | ⟨glob, hglob, hmatch⟩
  · exact .inl ⟨ignored, hignored, hplace,
      within_root hfirst hsecond hsame hroot hnames hignored hplace hwithin⟩
  · refine .inr ⟨glob, hglob, ?_⟩
    rwa [← isMatch_root hfirst hsecond hsame hroot hnames hglob]

end Copies

/-! ### What is found below two bases -/

/-- A scan finds the file at a location, told from its base. -/
def FindsAt (files : Files) (base : Path) (options : ScanOptions) (location : Location) : Prop :=
  ∃ path ∈ (files.scan base options).files, path.trace = base.trace ++ location.map .name

/-- The way from a root to a file is clear, told from a base. -/
structure Clear (files : Files) (base : Path) (options : ScanOptions) (spelling : Path → Path)
    (names : List String) : Prop where
  isSource : ((spelling base).joinAll names).isSource = true
  keeps : ∀ front, front <+: names → (front = [] → ¬ files.IsLink (spelling base)) →
    ¬ options.LeavesOut base ((spelling base).joinAll front)

/-- Every file that is found is at a location in the folder, and the way to it is clear. -/
theorem exists_location_of_mem_scan {files : Files} {base : Path} {options : ScanOptions}
    {folder : Folder} (hscans : files.ScansInside base options folder) {path : Path}
    (hpath : path ∈ (files.scan base options).files) :
    ∃ spelling target entry names content, folder.Root options spelling target ∧
      folder.entryAt? target = some entry ∧ entry.Reaches names (.file content) ∧
      path.trace = base.trace ++ (target ++ names).map .name ∧
      files.Clear base options spelling names := by
  have hamong : path.IsAmong (files.scan base options).files := ⟨path, hpath, rfl⟩
  rw [isAmong_scan] at hamong
  obtain ⟨root, hmem, names, ⟨⟨entry, content, hstarts, hreaches⟩, hspelled, hsource⟩, hkeeps⟩ :=
    hamong
  obtain ⟨spelling, target, hroot, rfl⟩ := (mem_roots_iff hscans).mp hmem
  have hentry := (starts_root_iff hscans hroot).mp hstarts
  have hnames := hreaches.isFileName (Folder.isWellNamed_of_entryAt? hscans.isWellNamed hentry)
  refine ⟨spelling, target, entry, names, content, hroot, hentry, hreaches, ?_,
    (isSource_congr hspelled).trans hsource, hkeeps⟩
  rw [← trace_root hscans hroot hnames, Path.trace, Path.trace, hspelled]

theorem findsAt_iff {files : Files} {base : Path} {options : ScanOptions} {folder : Folder}
    (hscans : files.ScansInside base options folder) {location : Location} :
    files.FindsAt base options location ↔
      ∃ spelling target entry names content, folder.Root options spelling target ∧
        folder.entryAt? target = some entry ∧ entry.Reaches names (.file content) ∧
        location = target ++ names ∧ files.Clear base options spelling names := by
  constructor
  · rintro ⟨path, hpath, htrace⟩
    obtain ⟨spelling, target, entry, names, content, hroot, hentry, hreaches, hfound, hclear⟩ :=
      exists_location_of_mem_scan hscans hpath
    refine ⟨spelling, target, entry, names, content, hroot, hentry, hreaches, ?_, hclear⟩
    have hmap := List.append_cancel_left (htrace.symm.trans hfound)
    exact (List.map_inj_right fun _ _ => Path.Component.name.inj).mp hmap
  · rintro ⟨spelling, target, entry, names, content, hroot, hentry, hreaches, rfl, hclear⟩
    have hnames := hreaches.isFileName (Folder.isWellNamed_of_entryAt? hscans.isWellNamed hentry)
    have hamong : ((spelling base).joinAll names).IsAmong (files.scan base options).files := by
      rw [isAmong_scan]
      exact ⟨_, (mem_roots_iff hscans).mpr ⟨spelling, target, hroot, rfl⟩, names,
        ⟨⟨entry, content, (starts_root_iff hscans hroot).mpr hentry, hreaches⟩, rfl,
          hclear.isSource⟩, hclear.keeps⟩
    obtain ⟨path, hpath, hcomponents⟩ := hamong
    refine ⟨path, hpath, ?_⟩
    rw [← trace_root hscans hroot hnames, Path.trace, Path.trace, hcomponents]

theorem location_ne_nil {folder : Folder} {target : Location} {entry : Entry}
    {names : List String} {content : Content} (hentry : folder.entryAt? target = some entry)
    (hreaches : entry.Reaches names (.file content)) : target ++ names ≠ [] := by
  intro hnil
  obtain ⟨rfl, rfl⟩ := List.append_eq_nil_iff.mp hnil
  rw [Folder.entryAt?_nil] at hentry
  cases hentry
  cases hreaches

section Transfer

variable {first second : Files} {base other : Path} {options : ScanOptions} {folder : Folder}

variable (hfirst : first.ScansInside base options folder)
  (hlinks : (first.IsLink base ↔ second.IsLink other) ∨
    ∀ glob ∈ (IgnoreRules.ofOptions base options).patterns, glob.isMatch base = false)
  {spelling : Path → Path} {target : Location} (hroot : folder.Root options spelling target)
  {entry : Entry} {names : List String} {content : Content}
  (hentry : folder.entryAt? target = some entry) (hreaches : entry.Reaches names (.file content))

include hfirst hlinks hroot hentry hreaches

/-- A root that is a link for the first scan alone is the base, and no pattern stands for it. -/
theorem not_leavesOut_link (hlink : first.IsLink (spelling base))
    (hasked : ¬ second.IsLink (spelling other)) (hclear : first.Clear base options spelling names) :
    ¬ options.LeavesOut base (spelling base) := by
  by_cases hsome : options.includes ≠ []
  · exact absurd hlink (not_isLink_root hfirst hroot hsome)
  cases hroot with
  | place hpattern | expanded hpattern => exact absurd (List.ne_nil_of_mem hpattern) hsome
  | base =>
      rcases hlinks with hiff | hnever
      · exact absurd (hiff.mp hlink) hasked
      have hnames : AreFileNames names :=
        hreaches.isFileName (Folder.isWellNamed_of_entryAt? hfirst.isWellNamed hentry)
      have hne : names ≠ [] := location_ne_nil hentry hreaches
      rw [ScanOptions.leavesOut_iff]
      rintro (⟨ignored, hignored, hplace, hwithin⟩ | ⟨glob, hglob, hmatch⟩)
      · refine hclear.keeps names (List.prefix_refl _) (fun hnil => absurd hnil hne)
          (.place hignored hplace (hwithin.trans ?_))
        rw [id, Path.components_joinAll_names hfirst.ne_empty hnames]
        exact List.prefix_append ..
      · rw [id, hnever glob hglob] at hmatch
        cases hmatch

variable (hsecond : second.ScansInside other options folder) (hsame : options.SameFrom base other)

include hsecond hsame

theorem Clear.root (hclear : first.Clear base options spelling names) :
    second.Clear other options spelling names where
  isSource := by
    have hnames : AreFileNames names :=
      hreaches.isFileName (Folder.isWellNamed_of_entryAt? hfirst.isWellNamed hentry)
    obtain ⟨front, name, hlocation⟩ : ∃ front name, target ++ names = front ++ [name] := by
      rcases List.eq_nil_or_concat (target ++ names) with hnil | ⟨front, name, hconcat⟩
      · exact absurd hnil (location_ne_nil hentry hreaches)
      · exact ⟨front, name, hconcat.trans List.concat_eq_append⟩
    have hname : ∀ {files : Files} {start : Path}, files.ScansInside start options folder →
        ((spelling start).joinAll names).fileName? = some name := by
      intro files start hscans
      have htrace := trace_root hscans hroot hnames
      rw [hlocation] at htrace
      exact Path.fileName?_of_trace htrace
    have hsource := hclear.isSource
    rw [Path.isSource, Path.extension?, hname hfirst] at hsource
    rwa [Path.isSource, Path.extension?, hname hsecond]
  keeps := by
    intro front hfront hasked hleft
    have hnames : AreFileNames front := by
      intro name hname
      exact hreaches.isFileName (Folder.isWellNamed_of_entryAt? hfirst.isWellNamed hentry) name
        (hfront.subset hname)
    have hback := leavesOut_root hsecond hfirst hsame.symm hroot hnames hleft
    by_cases hprior : front = [] → ¬ first.IsLink (spelling base)
    · exact hclear.keeps front hfront hprior hback
    · obtain ⟨rfl, hlink⟩ := Classical.not_imp.mp hprior
      exact not_leavesOut_link hfirst hlinks hroot hentry hreaches (Classical.not_not.mp hlink)
        (hasked rfl) hclear hback

end Transfer

theorem findsAt_of_findsAt {first second : Files} {base other : Path} {options : ScanOptions}
    {folder : Folder} (hfirst : first.ScansInside base options folder)
    (hsecond : second.ScansInside other options folder) (hsame : options.SameFrom base other)
    (hlinks : (first.IsLink base ↔ second.IsLink other) ∨
      ∀ glob ∈ (IgnoreRules.ofOptions base options).patterns, glob.isMatch base = false)
    {location : Location} (hfinds : first.FindsAt base options location) :
    second.FindsAt other options location := by
  obtain ⟨spelling, target, entry, names, content, hroot, hentry, hreaches, hlocation, hclear⟩ :=
    (findsAt_iff hfirst).mp hfinds
  exact (findsAt_iff hsecond).mpr ⟨spelling, target, entry, names, content, hroot, hentry, hreaches,
    hlocation, hclear.root hfirst hlinks hroot hentry hreaches hsecond hsame⟩

end Files

/-- Below two bases that lead to equal folders a scan finds the same files, told from the bases,
wherever the bases are and however they are spelled, if nothing that is left out tells them apart.
A base that a pattern stands for is entered nevertheless if it is a link, so then both must be
links or neither. -/
theorem Files.scan_same_from {first second : Files} {base other : Path} {options : ScanOptions}
    {folder : Folder} (hfirst : first.ScansInside base options folder)
    (hsecond : second.ScansInside other options folder) (hsame : options.SameFrom base other)
    (hlinks : (first.IsLink base ↔ second.IsLink other) ∨
      ∀ glob ∈ (IgnoreRules.ofOptions base options).patterns, glob.isMatch base = false) :
    (∀ path ∈ (first.scan base options).files, ∃ location : Location,
      path.trace = base.trace ++ location.map .name) ∧
    (∀ path ∈ (second.scan other options).files, ∃ location : Location,
      path.trace = other.trace ++ location.map .name) ∧
    ∀ location, first.FindsAt base options location ↔ second.FindsAt other options location := by
  have hback : (second.IsLink other ↔ first.IsLink base) ∨
      ∀ glob ∈ (IgnoreRules.ofOptions other options).patterns, glob.isMatch other = false := by
    refine hlinks.imp Iff.symm fun hnever glob hglob => ?_
    rw [← hsame.itself glob hglob]
    exact hnever glob hglob
  refine ⟨?_, ?_, fun location => ⟨findsAt_of_findsAt hfirst hsecond hsame hlinks,
    findsAt_of_findsAt hsecond hfirst hsame.symm hback⟩⟩
  · intro path hpath
    obtain ⟨_, target, _, names, _, _, _, _, htrace, _⟩ := exists_location_of_mem_scan hfirst hpath
    exact ⟨target ++ names, htrace⟩
  · intro path hpath
    obtain ⟨_, target, _, names, _, _, _, _, htrace, _⟩ := exists_location_of_mem_scan hsecond hpath
    exact ⟨target ++ names, htrace⟩

/-- A folder with one source file. -/
def sourceFolder : Folder := .add "a.ts" (.file (.text [])) .empty

/-- Two copies of a folder, one of them under a name that the default patterns leave out. -/
def builtFiles : Files where
  top := .add "build" (.directory sourceFolder) (.add "src" (.directory sourceFolder) .empty)
  workingDirectory := []

/-- A pattern that is matched against whole paths tells two copies of a folder apart. -/
theorem pattern_sees_base : ¬ ∀ (files : Files) (base other : Path) (options : ScanOptions)
    (folder : Folder), files.WellFormed → files.entry base = .ok (.directory folder) →
      files.entry other = .ok (.directory folder) →
      (∀ pattern ∈ options.includes ++ options.ignores, Path.isAbsolute pattern = false) →
      ∀ location, files.FindsAt base options location ↔ files.FindsAt other options location := by
  intro hclaim
  have hnone : (builtFiles.scan "build" ⟨[], ["**/build/**"], false⟩).files = [] := by
    decide +kernel
  have hfound : builtFiles.FindsAt "src" ⟨[], ["**/build/**"], false⟩ ["a.ts"] := by
    refine ⟨"src/a.ts", ?_, by decide +kernel⟩
    decide +kernel
  obtain ⟨path, hpath, -⟩ := (hclaim builtFiles "build" "src" ⟨[], ["**/build/**"], false⟩
    sourceFolder ⟨by decide +kernel, _, rfl⟩ rfl rfl (by decide) ["a.ts"]).mpr hfound
  rw [hnone] at hpath
  cases hpath

/-- A folder with sources, one of them in a place that is left out. -/
def projectFolder : Folder :=
  .add "src" (.directory (.add "app" (.directory sourceFolder) .empty))
    (.add "lib" (.directory (.add "old" (.directory sourceFolder) sourceFolder)) .empty)

/-- Two copies of the folder, at different depths. -/
def copiedFiles : Files where
  top := .add "p" (.directory projectFolder)
    (.add "q" (.directory (.add "r" (.directory projectFolder) .empty)) .empty)
  workingDirectory := []

def copiedOptions : ScanOptions := ⟨["src/*", "lib"], ["**/node_modules/**", "lib/old"], true⟩

theorem scansInside_copiedFiles {base : Path}
    (hentry : copiedFiles.entry base = .ok (.directory projectFolder)) (hclean : base.IsClean) :
    copiedFiles.ScansInside base copiedOptions projectFolder where
  formed := ⟨by decide +kernel, _, rfl⟩
  entry := hentry
  relative := by decide +kernel
  down := by decide +kernel
  free := .inr (by decide +kernel)
  clean _ _ _ := hclean

/-- The pattern for what lies below a name, wherever it is. -/
def belowName (name : String) : Glob :=
  ⟨.anyDirectories :: (name.toList.map .char ++ [.char '/', .anyDirectories])⟩

/-- The pattern for names with an ending, wherever they are. -/
def withEnding (ending : String) : Glob :=
  ⟨.anyDirectories :: .anySequence :: ending.toList.map .char⟩

theorem patterns_copiedOptions (base : Path) :
    (IgnoreRules.ofOptions base copiedOptions).patterns = belowName "node_modules" ::
      ([".test.tsx", ".test.ts", ".test.jsx", ".test.js", ".spec.tsx", ".spec.ts", ".spec.jsx",
        ".spec.js"].map withEnding ++ [belowName "__tests__"]) := by
  change (IgnoreRules.ofOptions "" copiedOptions).patterns = _
  decide +kernel

theorem floats_copiedOptions {base : Path}
    (hmodules : "node_modules".toList ∉ Path.split base.trunk)
    (htests : "__tests__".toList ∉ Path.split base.trunk) :
    ∀ glob ∈ (IgnoreRules.ofOptions base copiedOptions).patterns, glob.Floats base := by
  rw [patterns_copiedOptions, List.forall_mem_cons, List.forall_mem_append, List.forall_mem_map,
    List.forall_mem_singleton]
  refine ⟨.below (by decide) hmodules, ?_, .below (by decide) htests⟩
  intro ending hending
  have hslash : '/' ∉ ending.toList := by
    revert ending
    decide
  exact .ending hslash

theorem Pattern.Glob.isMatch_joinAll {glob : Glob} {base other : Path} (hbase : base ≠ "")
    (hother : other ≠ "") (hfloats : glob.Floats base) (hotherFloats : glob.Floats other)
    {location : Location} (hlocation : Files.AreFileNames location) (hne : location ≠ []) :
    glob.isMatch (base.joinAll location) = glob.isMatch (other.joinAll location) := by
  obtain ⟨name, names, rfl⟩ := List.exists_cons_of_ne_nil hne
  obtain ⟨hname, hnames⟩ := List.forall_mem_cons.mp hlocation
  have hrelative := (Path.isPart_of_isFileName hname).isAbsolute
  obtain ⟨hjoin, habsolute⟩ := Path.joinAll_join hbase hrelative hnames
  rw [Path.joinAll_cons, Path.joinAll_cons, hjoin, (Path.joinAll_join hother hrelative hnames).1,
    hfloats.isMatch_join hbase habsolute, hotherFloats.isMatch_join hother habsolute]

theorem sameFrom_copiedOptions : copiedOptions.SameFrom "p" "q/r/" where
  itself := by
    rw [patterns_copiedOptions]
    decide +kernel
  below glob hglob path hpath := by
    have hfloats : glob.Floats "p" :=
      floats_copiedOptions (by decide +kernel) (by decide +kernel) glob hglob
    have hotherFloats : glob.Floats "q/r/" :=
      floats_copiedOptions (by decide +kernel) (by decide +kernel) glob hglob
    rw [hfloats.isMatch_join (by decide) hpath, hotherFloats.isMatch_join (by decide) hpath]
  expanded glob hglob pattern hpattern hexpanded location hlocation hne := by
    have hparts : ∀ part ∈ location, Path.IsPart part :=
      fun part hpart => Path.isPart_of_isFileName (hlocation part hpart)
    have hfirst : Files.spell "p" location = Path.joinAll "p" location :=
      Files.descend_part (Path.isPart_of_isFileName (by decide +kernel)) (by decide) hparts
    have hsecond : Files.spell "q/r/" location = Path.joinAll "q/r" location :=
      Files.descend_part (Path.isPart_of_isFileName (by decide +kernel)) (by decide)
        (List.forall_mem_cons.mpr ⟨Path.isPart_of_isFileName (by decide +kernel), hparts⟩)
    have hfloats : glob.Floats "p" :=
      floats_copiedOptions (by decide +kernel) (by decide +kernel) glob hglob
    have hotherFloats : glob.Floats "q/r" :=
      floats_copiedOptions (by decide +kernel) (by decide +kernel) glob hglob
    rw [hfirst, hsecond]
    exact Glob.isMatch_joinAll (by decide) (by decide) hfloats hotherFloats hlocation hne
  start _ _ _ _ _ _ := by decide +kernel

/-- A file that the pattern of an include leads to is found in one copy. -/
theorem findsAt_copiedFiles : copiedFiles.FindsAt "p" copiedOptions ["src", "app", "a.ts"] := by
  have hscans : copiedFiles.ScansInside "p" copiedOptions projectFolder :=
    scansInside_copiedFiles rfl ⟨by decide +kernel, by decide +kernel⟩
  have hliteral : Glob.literal? ⟨"src".toList.map .char⟩ = some "src" := rfl
  have hmatches : projectFolder.Matches "src/*" ["src", "app"] := by
    refine ⟨by decide +kernel, ⟨[⟨"src".toList.map .char⟩, ⟨[.anySequence]⟩], rfl, ?_⟩, ?_⟩
    · exact .literal hliteral rfl (.wildcard rfl rfl ⟨_, rfl, List.mem_cons_self⟩ rfl (.done _))
    · intro honly
      cases honly
  have hclear : copiedFiles.Clear "p" copiedOptions (Files.spell · ["src", "app"]) ["a.ts"] := by
    refine ⟨by decide +kernel, ?_⟩
    intro front hfront _ hleft
    rw [← IgnoreRules.isIgnored_iff] at hleft
    rcases List.prefix_cons_iff.mp hfront with rfl | ⟨rest, rfl, hrest⟩
    · revert hleft
      decide +kernel
    · cases List.prefix_nil.mp hrest
      revert hleft
      decide +kernel
  exact (Files.findsAt_iff hscans).mpr ⟨_, _, _, ["a.ts"], _,
    .expanded List.mem_cons_self rfl hmatches rfl, rfl, .inside List.mem_cons_self (.here _), rfl,
    hclear⟩

/-- The files of one copy are those of the other, though the copies are at different depths and one
base has a slash at its end. -/
theorem copiedFiles_found_alike :
    (∀ location, copiedFiles.FindsAt "p" copiedOptions location ↔
      copiedFiles.FindsAt "q/r/" copiedOptions location) ∧
    copiedFiles.FindsAt "q/r/" copiedOptions ["src", "app", "a.ts"] := by
  have hunmatched : ∀ glob ∈ (IgnoreRules.ofOptions "p" copiedOptions).patterns,
      glob.isMatch "p" = false := by
    rw [patterns_copiedOptions]
    decide +kernel
  have hsame := (Files.scan_same_from
    (scansInside_copiedFiles rfl ⟨by decide +kernel, by decide +kernel⟩)
    (scansInside_copiedFiles rfl ⟨by decide +kernel, by decide +kernel⟩) sameFrom_copiedOptions
    (.inr hunmatched)).2.2
  exact ⟨hsame, (hsame _).mp findsAt_copiedFiles⟩

end Untranslated
