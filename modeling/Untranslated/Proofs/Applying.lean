import Untranslated.Command.Run
import Untranslated.Proofs.Contents
import Untranslated.Proofs.Faithfulness
import Untranslated.Proofs.Scanning

/-!
# Applying what is shown

A run that applies fixes writes what a run that only shows them has computed: the
new text of every file follows from what the file held before the first was
written.  Two paths that lead to one file have its name, hence its dialect, so
they agree on the new text and it does not matter which is written last.  In files
without byte-order marks no fix is skipped, so there is nothing to note besides.
-/

namespace Untranslated

/-! ### Where scanned paths lead -/

namespace Files

variable {files : Files}

/-- From a folder that a path leads to, names lead on to the files in it. -/
theorem locate_reaches (hnamed : files.top.isWellNamed = true) {root : Path} {folder : Folder}
    (hfolder : files.entry root = .ok (.directory folder)) {names : List String} {content : Content}
    (hreaches : (Entry.directory folder).Reaches names (.file content)) (ending : Ending) :
    ∃ location, files.locate (root.joinAll names) ending = .ok location ∧
      files.top.entryAt? location = some (.file content) := by
  obtain ⟨place, hplace, hentry⟩ := entryOf_eq_ok_iff.mp hfolder
  have hfolderNamed := Folder.isWellNamed_of_entryAt? hnamed hentry
  have hnames := hreaches.isFileName hfolderNamed
  have hne : names ≠ [] := by
    rintro rfl
    cases hreaches
  obtain ⟨follow, hlocate⟩ := locate_joinAll hplace hentry
    (fun name hname => (Path.isPart_of_isFileName (hnames name hname)).isAbsolute) hne ending
  rw [Path.routeAlong_of_isPart fun name hname => Path.isPart_of_isFileName (hnames name hname)]
    at hlocate
  obtain ⟨hwalk, hfile⟩ := walk_reaches hfolderNamed hentry hreaches
  exact ⟨place ++ names, hlocate.trans hwalk, hfile⟩

/-- A path that a scan finds leads to a file, and without a link at its end. -/
theorem locate_of_mem_scan (hnamed : files.top.isWellNamed = true) {base path : Path}
    {options : ScanOptions} (hpath : path ∈ (files.scan base options).files) :
    ∃ location content, files.locate path { follow := false } = .ok location ∧
      files.top.entryAt? location = some (.file content) := by
  obtain ⟨root, entry, names, content, hstarts, hreaches, rfl⟩ := eq_joinAll_of_mem_scan hpath
  cases hstarts with
  | linked hlink hfolder =>
      obtain ⟨location, hlocation⟩ := locate_reaches hnamed hfolder hreaches { follow := false }
      exact ⟨location, content, hlocation⟩
  | named hentry hlink =>
      obtain ⟨place, hplace, hfound⟩ := entryOf_eq_ok_iff.mp hentry
      cases hreaches with
      | here => exact ⟨place, content, hplace, hfound⟩
      | @inside folder name inner target names hitem hreaches =>
          have hfolder : files.entry root = .ok (.directory folder) := by
            refine entryOf_eq_ok_iff.mpr ⟨place, locate_ending rfl (fun _ => rfl) hplace ?_, hfound⟩
            intro target htarget
            rw [hfound] at htarget
            cases htarget
          obtain ⟨location, hlocation⟩ :=
            locate_reaches hnamed hfolder (.inside hitem hreaches) { follow := false }
          exact ⟨location, content, hlocation⟩

/-- A file that a path leads to without a link at its end has the name that the path ends with. -/
theorem fileName?_of_locate (hformed : files.WellFormed) {path : Path} {location : Location}
    {content : Content} (hplace : files.locate path { follow := false } = .ok location)
    (hfile : files.top.entryAt? location = some (.file content)) :
    path.fileName? = location.getLast? := by
  obtain ⟨folder, hstart⟩ := hformed.entryAt?_home path
  rw [locate_eq_resolve (ne_empty_of_locate hplace)] at hplace
  obtain ⟨hne, hlast⟩ := getLast?_of_resolve hstart hplace hfile
  rcases List.eq_nil_or_concat location with rfl | ⟨place, name, rfl⟩
  · rw [Folder.entryAt?_nil] at hfile
    cases hfile
  · rw [List.concat_eq_append] at hfile hlast ⊢
    rw [List.getLast?_concat] at hlast ⊢
    exact Path.fileName?_of_route (Folder.isFileName_of_entryAt? hformed.named hfile) hlast

/-- A path that a scan finds leads to a file that has the name at the end of the path. -/
theorem located_of_mem_scan (hformed : files.WellFormed) {base path : Path} {options : ScanOptions}
    (hpath : path ∈ (files.scan base options).files) :
    ∃ location content, files.locate path {} = .ok location ∧
      files.top.entryAt? location = some (.file content) ∧
        path.fileName? = location.getLast? := by
  obtain ⟨location, content, hplace, hfile⟩ := locate_of_mem_scan hformed.named hpath
  refine ⟨location, content, locate_ending rfl (fun _ => rfl) hplace ?_, hfile,
    fileName?_of_locate hformed hplace hfile⟩
  intro target hlink
  rw [hfile] at hlink
  cases hlink

/-! ### What the fixes make of a file -/

/-- The new text of a file, computed from what it holds; there is none if the file cannot be looked
at, or if no edit in it is accepted. -/
def rewriting? (files : Files) (options : RuleOptions) (path : Path) : Option Outcome := do
  let text ← (files.readText path).toOption
  let tree ← (Tree.parse path text).toOption
  let outcome := Text.applyFixes text (Finding.fixes (tree.check options true))
  if outcome.edits.isEmpty then none else some outcome

/-- Paths that lead to one place and end with one name agree on the new text. -/
theorem rewriting?_congr {options : RuleOptions} {path other : Path}
    (hplace : files.locate path {} = files.locate other {})
    (hname : path.fileName? = other.fileName?) :
    files.rewriting? options path = files.rewriting? options other := by
  have hread : files.readText path = files.readText other := by
    rw [readText, readText, entry, entry, entryOf, entryOf, hplace]
  have hparse : Tree.parse path = Tree.parse other := by
    funext text
    rw [Tree.parse, Tree.parse, Syntax.Dialect.ofPath, Syntax.Dialect.ofPath, Path.extension?,
      Path.extension?, hname]
  rw [rewriting?, rewriting?, hread, hparse]

/-- Scanned paths that lead to one file agree on its new text. -/
theorem rewriting?_eq_of_mem_scan (hformed : files.WellFormed) {base path other : Path}
    {scanOptions : ScanOptions} (hpath : path ∈ (files.scan base scanOptions).files)
    (hother : other ∈ (files.scan base scanOptions).files)
    (hplace : files.locate path {} = files.locate other {}) (options : RuleOptions) :
    files.rewriting? options path = files.rewriting? options other := by
  obtain ⟨location, _, hlocation, -, hname⟩ := located_of_mem_scan hformed hpath
  obtain ⟨place, _, hotherPlace, -, hotherName⟩ := located_of_mem_scan hformed hother
  have hsame : location = place := Except.ok.inj (by rw [← hlocation, hplace, hotherPlace])
  exact rewriting?_congr hplace (by rw [hname, hotherName, hsame])

end Files

theorem Except.exists_of_bind_eq_ok {ε α β : Type} {first : Except ε α} {next : α → Except ε β}
    {result : β} (hbind : first >>= next = .ok result) :
    ∃ value, first = .ok value ∧ next value = .ok result := by
  cases first with
  | error error => cases hbind
  | ok value => exact ⟨value, rfl, hbind⟩

theorem Except.eq_ok_of_toOption {ε α : Type} {result : Except ε α} {value : α}
    (hvalue : result.toOption = some value) : result = .ok value := by
  cases result with
  | error error => cases hvalue
  | ok found =>
      cases hvalue
      rfl

/-- The paths of a setup are those that a scan finds. -/
theorem Setup.paths_eq_scan {voice : Voice} {files : Files} {arguments : CommonArguments}
    {setup : Setup} (hsetup : Setup.ofArguments voice files arguments = .ok setup) :
    ∃ root options, setup.paths = (files.scan root options).files := by
  unfold Setup.ofArguments at hsetup
  dsimp only at hsetup
  split at hsetup
  · obtain ⟨loaded, -, hsetup⟩ := Except.exists_of_bind_eq_ok hsetup
    obtain ⟨-, -, hsetup⟩ := Except.exists_of_bind_eq_ok hsetup
    obtain ⟨options, -, hsetup⟩ := Except.exists_of_bind_eq_ok hsetup
    cases hsetup
    exact ⟨_, _, rfl⟩
  · cases hsetup

namespace Run

/-- What the fixes make of the file that a path leads to, if they change it. -/
def FixedSource.ofPath? (files : Files) (options : RuleOptions) (path : Path) :
    Option FixedSource :=
  ((files.analyze options path).toOption.bind fun source =>
    source.outcome?.map (⟨source, ·⟩)).filter (!·.outcome.edits.isEmpty)

variable {files : Files} {options : RuleOptions}

theorem sources_analyzeAll (paths : List Path) : (files.analyzeAll options paths).sources =
    paths.filterMap fun path => (files.analyze options path).toOption := by
  simp only [Files.analyzeAll, List.filterMap_map]
  congr 1
  funext path
  cases hanalysis : files.analyze options path <;> simp [hanalysis, Except.toOption]

theorem changed_eq_filterMap (paths : List Path) :
    (outcomes (files.analyzeAll options paths)).filter (!·.outcome.edits.isEmpty) =
      paths.filterMap (FixedSource.ofPath? files options) := by
  rw [outcomes, sources_analyzeAll, List.filterMap_filterMap, List.filter_filterMap]
  rfl

/-- A file that can be read and parsed is looked at. -/
theorem toOption_analyze (path : Path) : (files.analyze options path).toOption =
    (files.readText path).toOption.bind fun text => (Tree.parse path text).toOption.map fun tree =>
      ⟨path, text, tree.check options true⟩ := by
  unfold Files.analyze
  cases files.readText path with
  | error error => rfl
  | ok text =>
      change ((Tree.parse path text).mapError SourceFault.unparsable >>= fun tree =>
        .ok (⟨path, text, tree.check options true⟩ : SourceAnalysis)).toOption =
          (Tree.parse path text).toOption.map _
      cases Tree.parse path text <;> rfl

theorem outcome_ofPath? (path : Path) :
    (FixedSource.ofPath? files options path).map (·.outcome) = files.rewriting? options path := by
  rw [FixedSource.ofPath?, toOption_analyze, Files.rewriting?]
  cases files.readText path with
  | error error => rfl
  | ok text =>
      cases hparse : Tree.parse path text with
      | error error => simp [hparse, bind, Except.toOption]
      | ok tree =>
          simp only [hparse, bind, Except.toOption, SourceAnalysis.outcome?, Option.bind_some,
            Option.map_some]
          cases Finding.fixes (tree.check options true) with
          | nil => simp [Text.applyFixes, Acceptance.ofFixes]
          | cons fix fixes =>
              cases hedits : (Text.applyFixes text (fix :: fixes)).edits.isEmpty <;>
                simp [hedits, Option.filter]

theorem path_ofPath? {path : Path} {fixed : FixedSource}
    (hfixed : FixedSource.ofPath? files options path = some fixed) : fixed.source.path = path := by
  unfold FixedSource.ofPath? at hfixed
  obtain ⟨hfound, -⟩ := Option.filter_eq_some_iff.mp hfixed
  obtain ⟨source, hsource, houtcome⟩ := Option.bind_eq_some_iff.mp hfound
  obtain ⟨outcome, -, rfl⟩ := Option.map_eq_some_iff.mp houtcome
  rw [toOption_analyze] at hsource
  obtain ⟨text, -, htree⟩ := Option.bind_eq_some_iff.mp hsource
  obtain ⟨tree, -, rfl⟩ := Option.map_eq_some_iff.mp htree
  rfl

/-- Writing changes the files that are written to, and no other; of two texts for one file the last
stays. -/
theorem write_mapContents (hnamed : files.top.isWellNamed = true) {changed : List FixedSource}
    (hplaced : ∀ fixed ∈ changed, ∃ location content,
      files.locate fixed.source.path {} = .ok location ∧
        files.top.entryAt? location = some (.file content))
    (before : Location → Content → Content) :
    ∃ after, write (files.mapContents before) changed =
        (files.mapContents after, none, changed.map (·.source.path)) ∧
      ∀ location,
        (∃ fixed ∈ changed, files.locate fixed.source.path {} = .ok location ∧
          after location = fun _ => .text fixed.outcome.text) ∨
        ((∀ fixed ∈ changed, files.locate fixed.source.path {} ≠ .ok location) ∧
          after location = before location) := by
  induction changed generalizing before with
  | nil => exact ⟨before, rfl, fun location => .inr ⟨List.forall_mem_nil _, rfl⟩⟩
  | cons fixed changed ih =>
      obtain ⟨⟨place, content, hplace, hentry⟩, hplaced⟩ := List.forall_mem_cons.mp hplaced
      obtain ⟨after, hwrite, hafter⟩ :=
        ih hplaced (Content.replaceAt before place (.text fixed.outcome.text))
      refine ⟨after, ?_, ?_⟩
      · rw [write, Files.writeText_mapContents hnamed hplace hentry]
        dsimp only
        rw [hwrite]
        rfl
      · intro location
        rcases hafter location with ⟨last, hlast, htext⟩ | ⟨hothers, hkept⟩
        · exact .inl ⟨last, List.mem_cons_of_mem fixed hlast, htext⟩
        · by_cases hlocation : location = place
          · refine .inl ⟨fixed, List.mem_cons_self, hlocation ▸ hplace, ?_⟩
            rw [hkept, hlocation]
            funext held
            rw [Content.replaceAt, if_pos rfl]
          · refine .inr ⟨List.forall_mem_cons.mpr ⟨?_, hothers⟩, ?_⟩
            · intro hsame
              exact hlocation (Except.ok.inj (hsame.symm.trans hplace))
            · rw [hkept]
              funext held
              rw [Content.replaceAt, if_neg hlocation]

theorem of_mem_changed {paths : List Path} {fixed : FixedSource}
    (hfixed : fixed ∈ paths.filterMap (FixedSource.ofPath? files options)) :
    fixed.source.path ∈ paths ∧
      files.rewriting? options fixed.source.path = some fixed.outcome := by
  obtain ⟨path, hpath, hof⟩ := List.mem_filterMap.mp hfixed
  rw [path_ofPath? hof, ← outcome_ofPath?, hof]
  exact ⟨hpath, rfl⟩

theorem exists_mem_changed {paths : List Path} {path : Path} {outcome : Outcome}
    (hpath : path ∈ paths) (houtcome : files.rewriting? options path = some outcome) :
    ∃ fixed ∈ paths.filterMap (FixedSource.ofPath? files options), fixed.source.path = path := by
  rw [← outcome_ofPath?] at houtcome
  obtain ⟨fixed, hof, -⟩ := Option.map_eq_some_iff.mp houtcome
  exact ⟨fixed, List.mem_filterMap.mpr ⟨path, hpath, hof⟩, path_ofPath? hof⟩

/-- The new texts of the files that fixes change. -/
def rewritings (files : Files) (setup : Setup) : List Outcome :=
  setup.paths.filterMap (files.rewriting? setup.options)

/-- How many strings are replaced, and in how many files. -/
def countsText (rewritings : List Outcome) : String :=
  " " ++ toString (rewritings.foldl (fun count outcome =>
      count + (outcome.edits.filter (!·.isInsertion)).length) 0) ++ " string(s) in " ++
    toString rewritings.length ++ " file(s).\n"

/-- What a run that fixes says in the end, without its note on fixes that were skipped. -/
def resultText (colours apply : Bool) (checked : Nat) (rewritings : List Outcome) : String :=
  if rewritings.isEmpty then Report.success colours checked
  else if apply then Style.green.inBold.paint colours "Rewrote" ++ countsText rewritings
  else
    Style.yellow.inBold.paint colours "Would rewrite" ++ countsText rewritings ++ "Run with " ++
      Style.cyan.paint colours "--apply" ++ " to rewrite these files.\n"

/-- The note on fixes that were skipped. -/
def skippedNote (skipped : Nat) : String :=
  if 0 < skipped then
    "Note: " ++ toString skipped ++
      " string(s) overlap another rewrite; run fix again to handle them.\n"
  else ""

theorem fixSummary_eq (colours apply : Bool) (checked : Nat) (changed : List FixedSource)
    (skipped : Nat) : fixSummary colours apply checked changed skipped =
      resultText colours apply checked (changed.map (·.outcome)) ++ skippedNote skipped := by
  rw [fixSummary, resultText, countsText, List.isEmpty_map, List.length_map, List.foldl_map]
  rfl

theorem map_outcome_changed (setup : Setup) :
    (setup.paths.filterMap (FixedSource.ofPath? files setup.options)).map (·.outcome) =
      rewritings files setup := by
  rw [List.map_filterMap, rewritings]
  congr 1
  funext path
  exact outcome_ofPath? path

/-- No file that is scanned and can be read starts with a byte-order mark. -/
def Unmarked (files : Files) (paths : List Path) : Prop :=
  ∀ path ∈ paths, ∀ text, files.readText path = .ok text → Syntax.withoutMark text = text

/-- In files without byte-order marks no fix is skipped. -/
theorem skipped_of_mem_outcomes {paths : List Path} (hunmarked : Unmarked files paths)
    (options : RuleOptions) :
    ∀ fixed ∈ outcomes (files.analyzeAll options paths), fixed.outcome.skipped = 0 := by
  intro fixed hfixed
  rw [outcomes, sources_analyzeAll] at hfixed
  obtain ⟨source, hsource, hof⟩ := List.mem_filterMap.mp hfixed
  obtain ⟨path, hpath, hanalysis⟩ := List.mem_filterMap.mp hsource
  obtain ⟨outcome, houtcome, rfl⟩ := Option.map_eq_some_iff.mp hof
  rw [toOption_analyze] at hanalysis
  obtain ⟨text, htext, hanalysis⟩ := Option.bind_eq_some_iff.mp hanalysis
  obtain ⟨tree, htree, rfl⟩ := Option.map_eq_some_iff.mp hanalysis
  have hmark := hunmarked path hpath text (Except.eq_ok_of_toOption htext)
  unfold SourceAnalysis.outcome? at houtcome
  split at houtcome
  · cases houtcome
  · cases houtcome
    obtain ⟨htext, -, hfaithful⟩ := Tree.faithful_of_parse (Except.eq_ok_of_toOption htree) hmark
    have haccepted := hfaithful.ofFixes_check options
    rw [htext] at haccepted
    exact congrArg Acceptance.skipped haccepted

theorem foldl_skipped_eq_zero {fixed : List FixedSource}
    (hfixed : ∀ source ∈ fixed, source.outcome.skipped = 0) :
    fixed.foldl (fun count source => count + source.outcome.skipped) 0 = 0 := by
  induction fixed with
  | nil => rfl
  | cons source fixed ih =>
      obtain ⟨hsource, hfixed⟩ := List.forall_mem_cons.mp hfixed
      rw [List.foldl_cons, hsource]
      exact ih hfixed

/-- A run that shows fixes writes nothing, and one that applies them says the same of them. -/
theorem fix_of_setup {voice : Voice} {arguments : CommonArguments} {setup : Setup}
    (hsetup : Setup.ofArguments voice files arguments = .ok setup) {after : Files}
    {written : List Path}
    (hwrite : write files (setup.paths.filterMap (FixedSource.ofPath? files setup.options)) =
      (after, none, written)) :
    (fix voice files arguments true).files = after ∧
      (fix voice files arguments true).failure = none ∧
      ∃ previews note,
        (fix voice files arguments false).stdout = previews ++
          resultText voice.colours false setup.paths.length (rewritings files setup) ++ note ∧
        (fix voice files arguments true).stdout =
          resultText voice.colours true setup.paths.length (rewritings files setup) ++ note ∧
        (Unmarked files setup.paths → note = "") := by
  simp only [fix, hsetup, changed_eq_filterMap, hwrite, fixSummary_eq, map_outcome_changed,
    if_true, Bool.false_eq_true, if_false, true_and]
  refine ⟨_, _, (String.append_assoc ..).symm, rfl, fun hunmarked => ?_⟩
  rw [foldl_skipped_eq_zero (skipped_of_mem_outcomes hunmarked setup.options)]
  rfl

/-- What the written files hold: the new text that every scanned path to them gives, or what they
held before. -/
theorem write_of_scan (hformed : files.WellFormed) {base : Path} {scanOptions : ScanOptions}
    {paths : List Path} (hpaths : paths = (files.scan base scanOptions).files)
    (options : RuleOptions) :
    ∃ after written, write files (paths.filterMap (FixedSource.ofPath? files options)) =
        (files.mapContents after, none, written) ∧
      (∀ path ∈ paths, ∃ location, files.locate path {} = .ok location ∧
        (∀ outcome, files.rewriting? options path = some outcome →
          after location = fun _ => .text outcome.text) ∧
        (files.rewriting? options path = none → after location = fun content => content)) ∧
      (∀ location, (∀ path ∈ paths, files.locate path {} ≠ .ok location) →
        after location = fun content => content) := by
  have hplaced : ∀ fixed ∈ paths.filterMap (FixedSource.ofPath? files options),
      ∃ location content, files.locate fixed.source.path {} = .ok location ∧
        files.top.entryAt? location = some (.file content) := by
    intro fixed hfixed
    obtain ⟨location, content, hlocation, hfile, -⟩ :=
      Files.located_of_mem_scan hformed (hpaths ▸ (of_mem_changed hfixed).1)
    exact ⟨location, content, hlocation, hfile⟩
  obtain ⟨after, hwrite, hafter⟩ :=
    write_mapContents hformed.named hplaced fun _ content => content
  rw [Files.mapContents_id] at hwrite
  refine ⟨after, _, hwrite, ?_, ?_⟩
  · intro path hpath
    obtain ⟨location, content, hlocation, -, -⟩ :=
      Files.located_of_mem_scan hformed (hpaths ▸ hpath)
    refine ⟨location, hlocation, ?_⟩
    rcases hafter location with ⟨fixed, hfixed, hplace, htext⟩ | ⟨hothers, hkept⟩
    · -- The text was made for another path perhaps, but from the same file.
      obtain ⟨hmem, hrewriting⟩ := of_mem_changed hfixed
      have hsame : files.rewriting? options path = some fixed.outcome := by
        rw [← hrewriting]
        exact Files.rewriting?_eq_of_mem_scan hformed (hpaths ▸ hpath) (hpaths ▸ hmem)
          (hlocation.trans hplace.symm) options
      rw [hsame]
      constructor
      · rintro outcome ⟨⟩
        exact htext
      · rintro ⟨⟩
    · refine ⟨?_, fun _ => hkept⟩
      intro outcome houtcome
      obtain ⟨fixed, hfixed, rfl⟩ := exists_mem_changed hpath houtcome
      exact absurd hlocation (hothers fixed hfixed)
  · intro location hnone
    rcases hafter location with ⟨fixed, hfixed, hplace, -⟩ | ⟨-, hkept⟩
    · exact absurd hplace (hnone _ (of_mem_changed hfixed).1)
    · exact hkept

/-- Only a run that applies fixes writes.  It says the same of them as one that shows them, and
every scanned file with accepted edits holds the text that its fixes make of what it held before;
every other file is as it was.  This rests on paths being text: a file is written under the path
that is shown of it, which for a name that is not text is another one. -/
theorem fix_applies_what_it_shows {files : Files} (hformed : files.WellFormed) (voice : Voice)
    (arguments : CommonArguments) :
    (check voice files arguments).files = files ∧
    (fix voice files arguments false).files = files ∧
    (∀ fault, Setup.ofArguments voice files arguments = .error fault →
      fix voice files arguments true = fix voice files arguments false) ∧
    (∀ setup, Setup.ofArguments voice files arguments = .ok setup →
      (fix voice files arguments true).failure = none ∧
      (∃ previews note,
        (fix voice files arguments false).stdout = previews ++
          resultText voice.colours false setup.paths.length (rewritings files setup) ++ note ∧
        (fix voice files arguments true).stdout =
          resultText voice.colours true setup.paths.length (rewritings files setup) ++ note ∧
        (Unmarked files setup.paths → note = "")) ∧
      ∃ after, (fix voice files arguments true).files = files.mapContents after ∧
        (∀ path ∈ setup.paths, ∃ location, files.locate path {} = .ok location ∧
          (∀ outcome, files.rewriting? setup.options path = some outcome →
            after location = fun _ => .text outcome.text) ∧
          (files.rewriting? setup.options path = none →
            after location = fun content => content)) ∧
        (∀ location, (∀ path ∈ setup.paths, files.locate path {} ≠ .ok location) →
          after location = fun content => content)) := by
  refine ⟨?_, ?_, ?_, ?_⟩
  · unfold check
    split <;> rfl
  · unfold fix
    split <;> rfl
  · intro fault hfault
    rw [fix, fix, hfault]
  · intro setup hsetup
    obtain ⟨base, scanOptions, hpaths⟩ := Setup.paths_eq_scan hsetup
    obtain ⟨after, written, hwrite, hpath, hother⟩ :=
      write_of_scan hformed hpaths setup.options
    obtain ⟨hfiles, hfailure, hstdout⟩ := fix_of_setup hsetup hwrite
    exact ⟨hfailure, hstdout, after, hfiles, hpath, hother⟩

end Run

end Untranslated
