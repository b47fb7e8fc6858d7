import Untranslated.Proofs.Bases
import Untranslated.Proofs.Scanning

/-!
# Where a scan starts

The places from which a scan starts are told here by the folder that its base
leads to: the folder itself, what is at the names of an include, or the folders
that the pattern of an include stands for.  Only the spelling of these places
depends on the base.
-/

namespace Untranslated

open Pattern (Glob)

namespace Path

/-! ### Traces -/

/-- The components of a path without a `.` at its start, which has no bearing on where it leads. -/
def trace (path : Path) : List Component := path.components.filter (· != .here)

theorem filter_here {components : List Component} (hhere : .here ∉ components) :
    components.filter (· != .here) = components := by
  rw [List.filter_eq_self]
  intro component hcomponent
  rw [bne_iff_ne]
  rintro rfl
  exact hhere hcomponent

theorem here_not_mem_trace (path : Path) : .here ∉ path.trace := by
  simp [trace]

theorem components_eq_trace (path : Path) :
    path.components = path.trace ∨ path.components = .here :: path.trace := by
  by_cases hpath : path = ""
  · subst hpath
    exact .inl rfl
  obtain ⟨first, parts, hsplit⟩ := List.exists_cons_of_ne_nil (split_ne_nil path.toList)
  have hparts := filter_here (here_not_mem_filterMap parts)
  rw [trace, components_eq_componentsOf hpath, hsplit, componentsOf, List.filter_append, hparts]
  by_cases hfirst : first = []
  · rw [if_pos hfirst]
    exact .inl rfl
  · rw [if_neg hfirst, componentOf?, if_neg hfirst]
    by_cases hdot : first = ['.']
    · rw [if_pos hdot]
      exact .inr rfl
    · rw [if_neg hdot]
      split <;> exact .inl rfl

theorem filterMap_partComponent? {names : List String} (hnames : Files.AreFileNames names) :
    names.filterMap partComponent? = names.map .name := by
  induction names with
  | nil => rfl
  | cons name names ih =>
      obtain ⟨hname, hnames⟩ := List.forall_mem_cons.mp hnames
      have hcomponent : partComponent? name = some (.name name) :=
        componentOf?_of_isFileName hname false
      rw [List.filterMap_cons_some hcomponent, ih hnames, List.map_cons]

theorem components_joinAll_names {root : Path} {names : List String} (hroot : root ≠ "")
    (hnames : Files.AreFileNames names) :
    (root.joinAll names).components = root.components ++ names.map .name := by
  have hparts : ∀ name ∈ names, IsPart name :=
    fun name hname => isPart_of_isFileName (hnames name hname)
  rw [components_joinAll hroot fun name hname => (hparts name hname).isAbsolute,
    flatMap_relative_of_isPart hparts, filterMap_partComponent? hnames]

theorem here_not_mem_map_name (names : List String) : Component.here ∉ names.map .name := by
  simp

theorem trace_joinAll {root : Path} {names : List String} (hroot : root ≠ "")
    (hnames : Files.AreFileNames names) :
    (root.joinAll names).trace = root.trace ++ names.map .name := by
  rw [trace, components_joinAll_names hroot hnames, List.filter_append,
    filter_here (here_not_mem_map_name names), ← trace]

theorem trace_join {base path : Path} (hbase : base ≠ "") (hpath : path.isAbsolute = false) :
    (base.join path).trace = base.trace ++ path.relative := by
  rw [trace, components_join hbase hpath, List.filter_append,
    filter_here (here_not_mem_relative path), ← trace]

theorem filter_here_componentOf? (part : List Char) :
    (componentOf? true part).toList.filter (· != .here) = (componentOf? false part).toList := by
  unfold componentOf?
  repeat' split
  all_goals simp_all

theorem isAbsolute_iff_of_split {path : Path} (hpath : path ≠ "") {first : List Char}
    {parts : List (List Char)} (hsplit : split path.toList = first :: parts) :
    path.isAbsolute = true ↔ first = [] := by
  unfold isAbsolute
  cases hchars : path.toList with
  | nil => exact absurd (String.toList_eq_nil_iff.mp hchars) hpath
  | cons char chars =>
      rw [hchars] at hsplit
      by_cases hslash : char = '/'
      · rw [split, if_pos hslash] at hsplit
        cases hsplit
        simp [hslash]
      · obtain ⟨part, rest, hrest⟩ := List.exists_cons_of_ne_nil (split_ne_nil chars)
        rw [split_cons_of_ne hslash hrest] at hsplit
        cases hsplit
        simp [hslash]

/-- The trace of a path is what it adds to any place, after the root if it starts there. -/
theorem trace_eq_relative {path : Path} (hpath : path ≠ "") :
    path.trace = (if path.isAbsolute then [.root] else []) ++ path.relative := by
  obtain ⟨first, parts, hsplit⟩ := List.exists_cons_of_ne_nil (split_ne_nil path.toList)
  have habsolute := isAbsolute_iff_of_split hpath hsplit
  rw [trace, components_eq_componentsOf hpath, relative, hsplit, componentsOf, List.filter_append,
    filter_here (here_not_mem_filterMap parts), List.filterMap_cons]
  by_cases hfirst : first = []
  · rw [if_pos hfirst, if_pos (habsolute.mpr hfirst), hfirst]
    rfl
  · rw [if_neg hfirst, if_neg (mt habsolute.mp hfirst), filter_here_componentOf?]
    cases componentOf? false first <;> rfl

theorem relative_eq_parts (base : Path) : base.relative = base.parts.filterMap partComponent? := by
  obtain ⟨ending, hending, hsplit⟩ := split_eq_trunk base
  have hnone : ending.filterMap (componentOf? false) = [] := by
    apply List.filterMap_eq_nil_iff.mpr
    intro part hpart
    rw [hending part hpart]
    rfl
  have hparts : ∀ parts : List (List Char), (parts.map String.ofList).filterMap partComponent? =
      parts.filterMap (componentOf? false) := by
    intro parts
    rw [List.filterMap_map]
    congr 1
    funext part
    exact congrArg _ String.toList_ofList
  rw [relative, hsplit, List.filterMap_append, hnone, List.append_nil, parts, hparts]
  cases habsolute : base.isAbsolute with
  | false => rfl
  | true =>
      obtain ⟨rest, hrest⟩ := split_trunk_of_isAbsolute habsolute
      rw [hrest]
      rfl

/-- The file name that a path leads to is the last name of its trace. -/
theorem fileName?_of_trace {path base : Path} {front : List String} {name : String}
    (htrace : path.trace = base.trace ++ (front ++ [name]).map .name) :
    path.fileName? = some name := by
  have hlast : path.trace.getLast? = some (.name name) := by
    rw [htrace, List.map_append, ← List.append_assoc]
    exact List.getLast?_concat
  have hcomponents : path.components.getLast? = some (.name name) := by
    rcases path.components_eq_trace with hsame | hsame
    · rw [hsame, hlast]
    · rw [hsame, List.getLast?_cons, hlast]
      rfl
  rw [fileName?, hcomponents]

/-! ### Names on the way -/

/-- The names to which a path leads that does not go up. -/
def target (path : Path) : Location := path.steps.filter (· != ".")

theorem filter_route (path : Path) : path.route.filter (· != ".") = path.target := by
  have hlanding : path.landing.filter (· != ".") = [] := by
    unfold landing
    split <;> rfl
  rw [route, List.filter_append, hlanding, List.append_nil, target]

theorem up_not_mem_route {path : Path} (hdown : ".." ∉ path.steps) : ".." ∉ path.route := by
  have hlanding : ".." ∉ path.landing := by
    unfold landing
    split <;> simp
  rw [route, List.mem_append, not_or]
  exact ⟨hdown, hlanding⟩

theorem relative_eq_target {path : Path} (hdown : ".." ∉ path.steps) :
    path.relative = path.target.map .name := by
  unfold relative target
  unfold steps at hdown ⊢
  generalize split path.toList = parts at hdown ⊢
  induction parts with
  | nil => rfl
  | cons part parts ih =>
      rw [List.map_cons, List.filter_cons] at hdown ⊢
      rw [List.filterMap_cons, componentOf?]
      by_cases hempty : part = []
      · subst hempty
        exact ih hdown
      have hsome : (String.ofList part != "") = true := by simpa using hempty
      rw [if_pos hsome, List.mem_cons, not_or] at hdown
      have hup : part ≠ ['.', '.'] := fun hup => hdown.1 (congrArg String.ofList hup).symm
      rw [if_pos hsome, if_neg hempty, if_neg hup, List.filter_cons, ih hdown.2]
      by_cases hhere : part = ['.']
      · subst hhere
        rfl
      · have hname : (String.ofList part != ".") = true := by
          rw [bne_iff_ne]
          intro hdot
          exact hhere (String.ofList_injective hdot)
        rw [if_neg hhere, if_pos hname]
        rfl

end Path

/-! ### Paths of locations -/

namespace Files

theorem AreFileNames.append {front back : Location} (hfront : AreFileNames front)
    (hback : AreFileNames back) : AreFileNames (front ++ back) :=
  List.forall_mem_append.mpr ⟨hfront, hback⟩

/-- The components of a path that is reached part by part are those of the parts. -/
theorem components_descend_here {parts : List String} (hparts : ∀ part ∈ parts, Path.IsPart part)
    (hsome : ∃ part ∈ parts, part ≠ ".") :
    (descend "." parts).components = parts.filterMap Path.partComponent? := by
  induction parts with
  | nil =>
      obtain ⟨part, hpart, -⟩ := hsome
      cases hpart
  | cons part parts ih =>
      obtain ⟨hpart, hrest⟩ := List.forall_mem_cons.mp hparts
      by_cases hhere : part = "."
      · subst hhere
        obtain ⟨other, hother, hne⟩ := hsome
        rw [descend_here, ih hrest ⟨other, (List.mem_cons.mp hother).resolve_left hne, hne⟩]
        rfl
      · rw [descend_part hpart hhere hrest, Path.components_joinAll hpart.ne_empty
          (fun other hother => (hrest other hother).isAbsolute), hpart.components hhere,
          Path.flatMap_relative_of_isPart hrest, List.filterMap_cons]
        cases Path.partComponent? part <;> rfl

theorem components_descend_root {parts : List String} (hparts : ∀ part ∈ parts, Path.IsPart part) :
    (descend "/" parts).components = .root :: parts.filterMap Path.partComponent? := by
  have hroot : ("/" : Path) ≠ "" := by decide
  rw [descend_eq_joinAll hroot (by decide) hparts, Path.components_joinAll hroot
    (fun part hpart => (hparts part hpart).isAbsolute), Path.flatMap_relative_of_isPart hparts]
  rfl

theorem components_spell {base : Path} (hbase : base ≠ "") (hclean : base.IsClean)
    {location : Location} (hlocation : AreFileNames location) (hne : location ≠ []) :
    (spell base location).components = base.trace ++ location.map .name := by
  have hparts : ∀ part ∈ base.parts ++ location, Path.IsPart part := by
    intro part hpart
    rcases List.mem_append.mp hpart with hpart | hpart
    · exact hclean.isPart hpart
    · exact Path.isPart_of_isFileName (hlocation part hpart)
  have hsome : ∃ part ∈ base.parts ++ location, part ≠ "." := by
    obtain ⟨name, hname⟩ := List.exists_mem_of_ne_nil location hne
    refine ⟨name, List.mem_append_right _ hname, ?_⟩
    rintro rfl
    cases hlocation "." hname
  rw [Path.trace_eq_relative hbase, Path.relative_eq_parts,
    ← Path.filterMap_partComponent? hlocation, List.append_assoc, ← List.filterMap_append, spell,
    origin]
  split
  · exact components_descend_root hparts
  · exact components_descend_here hparts hsome

theorem joinAll_spell {base : Path} (hbase : base ≠ "") (hclean : base.IsClean)
    {location names : Location} (hlocation : AreFileNames location) (hne : location ≠ [])
    (hnames : AreFileNames names) :
    (spell base location).joinAll names = spell base (location ++ names) := by
  have hcomponents := components_spell hbase hclean hlocation hne
  have hhere : .here ∉ (spell base location).components := by
    rw [hcomponents, List.mem_append, not_or]
    exact ⟨base.here_not_mem_trace, Path.here_not_mem_map_name location⟩
  have hempty : spell base location ≠ "" := by
    intro hempty
    rw [hempty] at hcomponents
    exact hne (List.map_eq_nil_iff.mp (List.append_eq_nil_iff.mp hcomponents.symm).2)
  rw [← descend_eq_joinAll hempty hhere
    fun name hname => Path.isPart_of_isFileName (hnames name hname)]
  rw [spell, spell, descend, descend, ← List.foldl_append, List.append_assoc]
  rfl

/-! ### Roots told by the folder -/

/-- An include leads nowhere but down. -/
def leadsDown (pattern : String) : Bool :=
  if Glob.isGlob pattern then
    (patternParts pattern).all fun part => (Glob.parse part).toOption.all Glob.isDownward
  else !(Path.steps pattern).contains ".."

/-- A base leads to a folder, and what is included stays inside it.  Where an include is a pattern,
the base must not change what it means. -/
structure ScansInside (files : Files) (base : Path) (options : ScanOptions) (folder : Folder) :
    Prop where
  formed : files.WellFormed
  entry : files.entry base = .ok (.directory folder)
  relative : ∀ pattern ∈ options.includes ++ options.ignores, Path.isAbsolute pattern = false
  down : ∀ pattern ∈ options.includes, leadsDown pattern = true
  free : options.includes = [] ∨ folder.isLinkFree = true
  clean : ∀ pattern ∈ options.includes, Glob.isGlob pattern = true → base.IsClean

end Files

/-- A place from which a scan of a folder starts: how it is spelled from a base, and where in the
folder it is. -/
inductive Folder.Root (folder : Folder) (options : ScanOptions) :
    (Path → Path) → Location → Prop where
  | base (hnone : options.includes = []) : Root folder options id []
  | place {pattern : Path} {entry : Entry} (hpattern : pattern ∈ options.includes)
      (hplace : Glob.isGlob pattern = false)
      (hentry : folder.entryAt? pattern.target = some entry)
      (hlast : pattern.route.getLast? = some "." → ∃ inner, entry = .directory inner) :
      Root folder options (·.join pattern) pattern.target
  | expanded {pattern : String} {target : Location} {inner : Folder}
      (hpattern : pattern ∈ options.includes) (hglob : Glob.isGlob pattern = true)
      (hmatches : folder.Matches pattern target)
      (hinner : folder.entryAt? target = some (.directory inner)) :
      Root folder options (Files.spell · target) target

theorem Folder.areFileNames_of_entryAt? {folder : Folder} (hnamed : folder.isWellNamed = true)
    {location : Location} {entry : Entry} (hentry : folder.entryAt? location = some entry) :
    Files.AreFileNames location := by
  induction location generalizing folder with
  | nil => exact List.forall_mem_nil _
  | cons name location ih =>
      rw [entryAt?_cons] at hentry
      obtain ⟨found, hfind, halong⟩ := Option.bind_eq_some_iff.mp hentry
      obtain ⟨hname, hfoundNamed, -⟩ := of_mem_entries hnamed (mem_entries_of_find? hfind)
      refine List.forall_mem_cons.mpr ⟨hname, ?_⟩
      cases found with
      | directory inner =>
          rw [Entry.along?_directory] at halong
          exact ih hfoundNamed halong
      | file content | link target =>
          cases location with
          | nil => exact List.forall_mem_nil _
          | cons next location => cases halong

theorem Folder.Matches.target_ne_nil {folder : Folder} {pattern : Path} {target : Location}
    (hmatches : folder.Matches pattern target) (hpattern : pattern.isAbsolute = false)
    (hne : pattern ≠ "") : target ≠ [] := by
  rintro rfl
  obtain ⟨globs, hglobs, hselects⟩ := hmatches.selects
  have hsome := Files.ne_nil_of_mapM_parse (Files.patternParts_ne_nil hpattern hne) hglobs
  exact absurd (hselects.length_lt (Files.withoutRepeats_ne_nil hsome)) (Nat.lt_irrefl _)

namespace Files

/-- A path that is read from a folder without links and does not go up leads where its names
lead. -/
theorem entryOf_join_iff {files : Files} {base pattern : Path} {folder : Folder}
    (hbase : files.entry base = .ok (.directory folder)) (hfree : folder.isLinkFree = true)
    (hpattern : pattern.isAbsolute = false) (hdown : ".." ∉ pattern.steps) {ending : Ending}
    (hending : ending.mayBeFree = false) {entry : Entry} :
    files.entryOf (base.join pattern) ending = .ok entry ↔
      folder.entryAt? pattern.target = some entry ∧
        (pattern.route.getLast? = some "." → ∃ inner, entry = .directory inner) := by
  obtain ⟨place, hplace, hfolder⟩ := entryOf_eq_ok_iff.mp hbase
  have hsegments : ∀ segment ∈ [pattern], Path.isAbsolute segment = false := by
    simpa using hpattern
  obtain ⟨follow, hwalk⟩ :=
    locate_joinAll hplace hfolder hsegments (List.cons_ne_nil _ _) ending
  rw [Path.joinAll_cons, Path.joinAll_nil, Path.routeAlong] at hwalk
  rw [entryOf_eq_ok_iff, hwalk,
    walk_downward_iff hfree hfolder hending (Path.up_not_mem_route hdown), Path.filter_route]

theorem up_not_mem_steps_of_leadsDown {pattern : Path} (hplace : Glob.isGlob pattern = false)
    (hdown : leadsDown pattern = true) : ".." ∉ pattern.steps := by
  simpa [leadsDown, hplace] using hdown

theorem isDownward_of_leadsDown {pattern : Path} (hglob : Glob.isGlob pattern = true)
    (hdown : leadsDown pattern = true) {part : String} (hpart : part ∈ patternParts pattern)
    {glob : Glob} (hparse : Glob.parse part = .ok glob) : glob.isDownward = true := by
  rw [leadsDown, if_pos hglob, List.all_eq_true] at hdown
  have hall := hdown part hpart
  rwa [hparse] at hall

theorem ne_empty_of_isGlob {pattern : Path} (hglob : Glob.isGlob pattern = true) :
    pattern ≠ "" := by
  rintro rfl
  cases hglob

section ScansInside

variable {files : Files} {base : Path} {options : ScanOptions} {folder : Folder}

variable (hscans : files.ScansInside base options folder)

include hscans

namespace ScansInside

theorem ne_empty : base ≠ "" := by
  obtain ⟨place, hplace, -⟩ := entryOf_eq_ok_iff.mp hscans.entry
  exact ne_empty_of_locate hplace

theorem isWellNamed : folder.isWellNamed = true := by
  obtain ⟨place, -, hfolder⟩ := entryOf_eq_ok_iff.mp hscans.entry
  exact Folder.isWellNamed_of_entryAt? hscans.formed.named hfolder

theorem isLinkFree {pattern : String} (hpattern : pattern ∈ options.includes) :
    folder.isLinkFree = true :=
  hscans.free.resolve_left (List.ne_nil_of_mem hpattern)

theorem isAbsolute_include {pattern : String} (hpattern : pattern ∈ options.includes) :
    Path.isAbsolute pattern = false :=
  hscans.relative pattern (List.mem_append_left _ hpattern)

theorem shows {pattern : String} (hpattern : pattern ∈ options.includes)
    (hglob : Glob.isGlob pattern = true) : files.Shows (spell base) folder := by
  obtain ⟨place, hplace, hfolder⟩ := entryOf_eq_ok_iff.mp hscans.entry
  exact shows_spell hscans.formed (hscans.clean pattern hpattern hglob) hplace hfolder
    (hscans.isLinkFree hpattern)

end ScansInside

theorem mem_rootsOf_place {pattern : Path} (hpattern : pattern ∈ options.includes)
    (hplace : Glob.isGlob pattern = false) {root : Path} :
    root ∈ (files.rootsOf base pattern).toOption.getD [] ↔
      root = base.join pattern ∧ ∃ entry, folder.entryAt? pattern.target = some entry ∧
        (pattern.route.getLast? = some "." → ∃ inner, entry = .directory inner) := by
  have hentries : ∀ entry, files.entry (base.join pattern) = .ok entry ↔ _ := fun entry =>
    entryOf_join_iff hscans.entry (hscans.isLinkFree hpattern) (hscans.isAbsolute_include hpattern)
      (up_not_mem_steps_of_leadsDown hplace (hscans.down pattern hpattern)) rfl
  have hpresent : files.isPresent (base.join pattern) = true ↔
      ∃ entry, files.entry (base.join pattern) = .ok entry := by
    rw [isPresent]
    cases files.entry (base.join pattern) <;> simp [Except.isOk, Except.toBool]
  simp only [← hentries, ← hpresent, rootsOf, hplace, Bool.false_eq_true, if_false]
  split
  · next hfound => simp [Except.toOption, hfound]
  · next hfound => simp [Except.toOption, hfound]

theorem mem_rootsOf_pattern {pattern : Path} (hpattern : pattern ∈ options.includes)
    (hglob : Glob.isGlob pattern = true) {root : Path} :
    root ∈ (files.rootsOf base pattern).toOption.getD [] ↔
      ∃ target inner, folder.Matches pattern target ∧
        folder.entryAt? target = some (.directory inner) ∧ root = spell base target := by
  have hshows := hscans.shows hpattern hglob
  obtain ⟨place, hplace, hfolder⟩ := entryOf_eq_ok_iff.mp hscans.entry
  have hexpand : (files.rootsOf base pattern).toOption.getD [] =
      ((files.expand (base.join pattern)).toOption.getD []).filter files.isDirectory := by
    rw [rootsOf, if_pos hglob]
    cases files.expand (base.join pattern) <;> rfl
  rw [hexpand, List.mem_filter, mem_expand_join_iff hscans.formed
    (hscans.clean pattern hpattern hglob) hplace hfolder (hscans.isAbsolute_include hpattern)
    (ne_empty_of_isGlob hglob) (hscans.isLinkFree hpattern) fun part hpart glob hparse =>
      isDownward_of_leadsDown hglob (hscans.down pattern hpattern) hpart hparse]
  have hnames : ∀ {target}, folder.Matches pattern target → AreFileNames target := by
    intro target hmatches
    obtain ⟨globs, -, hselects⟩ := hmatches.selects
    exact .of_selects hscans.isWellNamed hselects (List.forall_mem_nil _)
  constructor
  · rintro ⟨⟨target, hmatches, rfl⟩, hdirectory⟩
    obtain ⟨inner, hinner⟩ := (hshows.isDirectory_iff (hnames hmatches)).mp hdirectory
    exact ⟨target, inner, hmatches, hinner, rfl⟩
  · rintro ⟨target, inner, hmatches, hinner, rfl⟩
    exact ⟨⟨target, hmatches, rfl⟩,
      (hshows.isDirectory_iff (hnames hmatches)).mpr ⟨inner, hinner⟩⟩

/-- A scan starts at the places that the folder and the includes tell, spelled from its base. -/
theorem mem_roots_iff {root : Path} : root ∈ files.roots base options ↔
    ∃ spelling target, folder.Root options spelling target ∧ root = spelling base := by
  by_cases hnone : options.includes = []
  · rw [roots, if_pos hnone, List.mem_singleton]
    constructor
    · rintro rfl
      exact ⟨id, [], .base hnone, rfl⟩
    · rintro ⟨spelling, target, hroot, rfl⟩
      cases hroot with
      | base => rfl
      | place hpattern | expanded hpattern => exact absurd hnone (List.ne_nil_of_mem hpattern)
  · rw [mem_roots_of_includes hnone]
    constructor
    · rintro ⟨pattern, hpattern, hmem⟩
      cases hglob : Glob.isGlob pattern with
      | false =>
          obtain ⟨rfl, entry, hentry, hlast⟩ :=
            (mem_rootsOf_place hscans hpattern hglob).mp hmem
          exact ⟨_, _, .place hpattern hglob hentry hlast, rfl⟩
      | true =>
          obtain ⟨target, inner, hmatches, hinner, rfl⟩ :=
            (mem_rootsOf_pattern hscans hpattern hglob).mp hmem
          exact ⟨_, _, .expanded hpattern hglob hmatches hinner, rfl⟩
    · rintro ⟨spelling, target, hroot, rfl⟩
      cases hroot with
      | base hempty => exact absurd hempty hnone
      | place hpattern hplace hentry hlast =>
          exact ⟨_, hpattern,
            (mem_rootsOf_place hscans hpattern hplace).mpr ⟨rfl, _, hentry, hlast⟩⟩
      | expanded hpattern hglob hmatches hinner =>
          exact ⟨_, hpattern, (mem_rootsOf_pattern hscans hpattern hglob).mpr
            ⟨_, _, hmatches, hinner, rfl⟩⟩

/-! ### What is at a root -/

theorem starts_base_iff {entry : Entry} :
    files.Starts base entry ↔ folder.entryAt? [] = some entry := by
  obtain ⟨place, hplace, hfolder⟩ := entryOf_eq_ok_iff.mp hscans.entry
  -- A base that is no link leads to the folder whether or not links are followed.
  have hnamed : ∀ {found}, files.entryOf base { follow := false } = .ok found →
      ¬ files.IsLink base → found = .directory folder := by
    intro found hfound hlink
    obtain ⟨last, hlast, hentry⟩ := entryOf_eq_ok_iff.mp hfound
    have hsame : files.locate base {} = .ok last := by
      refine locate_ending rfl (fun hfollow => absurd hfollow Bool.false_ne_true) hlast ?_
      intro target htarget
      exact hlink ⟨target, entryOf_eq_ok_iff.mpr ⟨last, hlast, htarget⟩⟩
    cases hsame.symm.trans hplace
    exact Option.some.inj (hentry.symm.trans hfolder)
  rw [Folder.entryAt?_nil, Option.some.injEq]
  constructor
  · intro hstarts
    cases hstarts with
    | named hentry hlink => exact (hnamed hentry hlink).symm
    | linked _ hlinked => exact Except.ok.inj (hscans.entry.symm.trans hlinked)
  · rintro rfl
    by_cases hlink : files.IsLink base
    · exact .linked hlink hscans.entry
    · have hbase := hscans.ne_empty
      rw [locate_eq_resolve hbase] at hplace
      obtain ⟨last, found, hlast, hfound⟩ := resolve_unfollowed hplace hfolder
      have hentry : files.entryOf base { follow := false } = .ok found :=
        entryOf_eq_ok_iff.mpr ⟨last, (locate_eq_resolve hbase _).trans hlast, hfound⟩
      exact .named (hnamed hentry hlink ▸ hentry) hlink

variable {spelling : Path → Path} {target : Location}
  (hroot : folder.Root options spelling target)

include hroot

theorem entryOf_root_iff (hsome : options.includes ≠ []) {entry : Entry} :
    files.entryOf (spelling base) { follow := false } = .ok entry ↔
      folder.entryAt? target = some entry := by
  cases hroot with
  | base hnone => exact absurd hnone hsome
  | place hpattern hplace hfound hlast =>
      rw [entryOf_join_iff hscans.entry (hscans.isLinkFree hpattern)
        (hscans.isAbsolute_include hpattern)
        (up_not_mem_steps_of_leadsDown hplace (hscans.down _ hpattern)) rfl]
      refine and_iff_left_of_imp fun hentry => ?_
      cases hfound.symm.trans hentry
      exact hlast
  | expanded hpattern hglob hmatches hinner =>
      have hne := hmatches.target_ne_nil (hscans.isAbsolute_include hpattern)
        (ne_empty_of_isGlob hglob)
      obtain ⟨place, hplace, hfolder⟩ := entryOf_eq_ok_iff.mp hscans.entry
      exact entryOf_spell_iff hscans.formed (hscans.clean _ hpattern hglob) hplace hfolder
        (hscans.isLinkFree hpattern) (Folder.areFileNames_of_entryAt? hscans.isWellNamed hinner) rfl
        (fun hnil => absurd hnil hne) entry

theorem not_isLink_root (hsome : options.includes ≠ []) : ¬ files.IsLink (spelling base) := by
  rintro ⟨link, hlink⟩
  have hentry := (entryOf_root_iff hscans hroot hsome).mp hlink
  cases Folder.isLinkFree_of_entryAt? (hscans.free.resolve_left hsome) hentry

/-- From a root a scan starts with what the folder has there. -/
theorem starts_root_iff {entry : Entry} :
    files.Starts (spelling base) entry ↔ folder.entryAt? target = some entry := by
  by_cases hnone : options.includes = []
  · cases hroot with
    | base => exact starts_base_iff hscans
    | place hpattern | expanded hpattern => exact absurd hnone (List.ne_nil_of_mem hpattern)
  · rw [← entryOf_root_iff hscans hroot hnone]
    have hlink := not_isLink_root hscans hroot hnone
    constructor
    · intro hstarts
      cases hstarts with
      | named hentry => exact hentry
      | linked hlinked => exact absurd hlinked hlink
    · intro hentry
      exact .named hentry hlink

/-- Below a root paths have the trace of the base, then the names of the location. -/
theorem trace_root {names : List String} (hnames : AreFileNames names) :
    ((spelling base).joinAll names).trace = base.trace ++ (target ++ names).map .name := by
  have hbase := hscans.ne_empty
  cases hroot with
  | base =>
      rw [List.nil_append]
      exact Path.trace_joinAll hbase hnames
  | place hpattern hplace hentry =>
      have hrelative := hscans.isAbsolute_include hpattern
      rw [Path.trace_joinAll (Path.join_ne_empty hbase hrelative) hnames,
        Path.trace_join hbase hrelative, Path.relative_eq_target
          (up_not_mem_steps_of_leadsDown hplace (hscans.down _ hpattern)),
        List.append_assoc, List.map_append]
  | expanded hpattern hglob hmatches hinner =>
      have hclean := hscans.clean _ hpattern hglob
      have htarget := Folder.areFileNames_of_entryAt? hscans.isWellNamed hinner
      have hne := hmatches.target_ne_nil (hscans.isAbsolute_include hpattern)
        (ne_empty_of_isGlob hglob)
      rw [joinAll_spell hbase hclean htarget hne hnames, Path.trace,
        components_spell hbase hclean (htarget.append hnames)
          (List.append_ne_nil_of_left_ne_nil hne names)]
      refine Path.filter_here ?_
      rw [List.mem_append, not_or]
      exact ⟨base.here_not_mem_trace, Path.here_not_mem_map_name _⟩

end ScansInside

end Files

end Untranslated
