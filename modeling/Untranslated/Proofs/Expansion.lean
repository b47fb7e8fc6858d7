import Untranslated.Files.Expansion
import Untranslated.Proofs.Patterns
import Untranslated.Proofs.Resolution

/-!
# What a pattern stands for below a folder

The expansion of a pattern looks into folders one after the other.  What it finds
is told here by the folder alone: which names below it the components of the
pattern lead to.  Neither the way to the folder nor the number of folders that
the expansion may enter makes a difference, as long as no link is below it.
-/

namespace Untranslated

open Pattern (Glob)

/-! ### Names that components lead to -/

/-- A component stands for names that files can have, and neither for `.` nor for `..`. -/
def Pattern.Glob.isDownward (glob : Glob) : Bool :=
  (Files.specialNames glob).isEmpty && glob.literal?.all isFileName

namespace Folder

/-- There is a folder at a location, and it has an entry with the name. -/
def HasName (folder : Folder) (location : Location) (name : String) : Prop :=
  ∃ inner, folder.entryAt? location = some (.directory inner) ∧ name ∈ inner.names

/-- Components lead from one location in a folder to another. -/
inductive Selects (folder : Folder) : List Glob → Location → Location → Prop where
  | done (location : Location) : Selects folder [] location location
  | literal {glob : Glob} {globs : List Glob} {name : String} {location target : Location}
      (hliteral : glob.literal? = some name)
      (hentry : (folder.entryAt? (location ++ [name])).isSome = true)
      (hrest : Selects folder globs (location ++ [name]) target) :
      Selects folder (glob :: globs) location target
  | wildcard {glob : Glob} {globs : List Glob} {name : String} {location target : Location}
      (hliteral : glob.literal? = none) (hone : glob.isRecursive = false)
      (hname : folder.HasName location name) (hmatch : glob.isMatch name = true)
      (hrest : Selects folder globs (location ++ [name]) target) :
      Selects folder (glob :: globs) location target
  | anyFolder {glob : Glob} {name : String} {location : Location} {inner : Folder}
      (hmany : glob.isRecursive = true) (hname : folder.HasName location name)
      (hinner : folder.entryAt? (location ++ [name]) = some (.directory inner)) :
      Selects folder [glob] location (location ++ [name])
  | named {glob next : Glob} {globs : List Glob} {name : String} {location target : Location}
      (hmany : glob.isRecursive = true) (hname : folder.HasName location name)
      (hmatch : next.isMatch name = true)
      (hrest : Selects folder globs (location ++ [name]) target) :
      Selects folder (glob :: next :: globs) location target
  | deeper {glob : Glob} {globs : List Glob} {name : String} {location target : Location}
      (hmany : glob.isRecursive = true) (hname : folder.HasName location name)
      (hrest : Selects folder (glob :: globs) (location ++ [name]) target) :
      Selects folder (glob :: globs) location target

theorem HasName.isFileName {folder : Folder} (hnamed : folder.isWellNamed = true)
    {location : Location} {name : String} (hname : folder.HasName location name) :
    isFileName name = true := by
  obtain ⟨inner, hinner, hmem⟩ := hname
  rw [names_eq_map_entries, List.mem_map] at hmem
  obtain ⟨⟨_, entry⟩, hentry, rfl⟩ := hmem
  exact (of_mem_entries (isWellNamed_of_entryAt? hnamed hinner) hentry).1

/-- A recursive component starts in a folder. -/
theorem Selects.exists_folder {folder : Folder} {glob : Glob} {globs : List Glob}
    {location target : Location} (hselects : folder.Selects (glob :: globs) location target)
    (hmany : glob.isRecursive = true) :
    ∃ inner, folder.entryAt? location = some (.directory inner) := by
  have hname : ∃ name, folder.HasName location name := by
    cases hselects with
    | literal hliteral =>
        rw [Pattern.Glob.literal?_of_isRecursive hmany] at hliteral
        cases hliteral
    | wildcard _ hone =>
        rw [hmany] at hone
        cases hone
    | anyFolder _ hname => exact ⟨_, hname⟩
    | named _ hname => exact ⟨_, hname⟩
    | deeper _ hname => exact ⟨_, hname⟩
  obtain ⟨name, inner, hinner, -⟩ := hname
  exact ⟨inner, hinner⟩

theorem Selects.length_lt {folder : Folder} {globs : List Glob} {location target : Location}
    (hselects : folder.Selects globs location target) (hglobs : globs ≠ []) :
    location.length < target.length := by
  have hle : location.length ≤ target.length ∧ (globs ≠ [] → location.length < target.length) := by
    clear hglobs
    induction hselects with
    | done location => exact ⟨Nat.le_refl _, fun hnil => absurd rfl hnil⟩
    | anyFolder => simp
    | literal _ _ _ ih | wildcard _ _ _ _ _ ih | named _ _ _ _ ih | deeper _ _ _ ih =>
        rw [List.length_append, List.length_singleton] at ih
        exact ⟨Nat.le_of_succ_le ih.1, fun _ => ih.1⟩
  exact hle.2 hglobs

/-! ### How deep a folder is -/

theorem depth_le_of_mem_entries {folder : Folder} {item : String × Entry}
    (hitem : item ∈ folder.entries) : item.2.depth ≤ folder.depth := by
  induction folder using Folder.induct with
  | empty => cases hitem
  | add name entry rest ih =>
      rw [Folder.depth]
      rcases List.mem_cons.mp hitem with rfl | hitem
      · exact Nat.le_max_left ..
      · exact Nat.le_trans (ih hitem) (Nat.le_max_right ..)

theorem depth_le_of_entryAt? {folder inner : Folder} {location : Location}
    (hinner : folder.entryAt? location = some (.directory inner)) : inner.depth ≤ folder.depth := by
  have hdepth : Entry.depth (.directory inner) ≤ folder.depth + 1 :=
    holds_of_entryAt? (motive := fun entry => entry.depth ≤ folder.depth + 1)
      (fun _ hfolder _ hitem => Nat.le_trans (depth_le_of_mem_entries hitem)
        (Nat.le_of_succ_le hfolder)) (Nat.le_refl _) hinner
  exact Nat.le_of_succ_le_succ hdepth

theorem depth_lt_of_entryAt? {folder outer inner : Folder} {location : Location} {name : String}
    (houter : folder.entryAt? location = some (.directory outer))
    (hinner : folder.entryAt? (location ++ [name]) = some (.directory inner)) :
    inner.depth < outer.depth := by
  rw [entryAt?_append houter, entryAt?_singleton] at hinner
  exact depth_le_of_mem_entries (mem_entries_of_find? hinner)

theorem HasName.depth_lt {folder : Folder} {location : Location} {name : String} {count : Nat}
    (hname : folder.HasName location name)
    (hcount : ∀ inner, folder.entryAt? location = some (.directory inner) → inner.depth < count)
    (inner : Folder) (hinner : folder.entryAt? (location ++ [name]) = some (.directory inner)) :
    inner.depth + 1 < count := by
  obtain ⟨outer, houter, -⟩ := hname
  exact Nat.lt_of_le_of_lt (depth_lt_of_entryAt? houter hinner) (hcount outer houter)

end Folder

/-! ### What the expansion finds -/

namespace Files

/-- Every name of a location can be a file's. -/
def AreFileNames (location : Location) : Prop := ∀ name ∈ location, isFileName name = true

theorem AreFileNames.concat {location : Location} {name : String} (hnames : AreFileNames location)
    (hname : isFileName name = true) : AreFileNames (location ++ [name]) := by
  intro other hother
  rcases List.mem_append.mp hother with hother | hother
  · exact hnames other hother
  · rw [List.mem_singleton.mp hother]
    exact hname

theorem AreFileNames.of_selects {folder : Folder} (hnamed : folder.isWellNamed = true)
    {globs : List Glob} {location target : Location}
    (hselects : folder.Selects globs location target) (hlocation : AreFileNames location) :
    AreFileNames target := by
  induction hselects with
  | done location => exact hlocation
  | literal _ hentry _ ih =>
      obtain ⟨entry, hentry⟩ := Option.isSome_iff_exists.mp hentry
      exact ih (hlocation.concat (Folder.isFileName_of_entryAt? hnamed hentry))
  | anyFolder _ hname _ => exact hlocation.concat (hname.isFileName hnamed)
  | wildcard _ _ hname _ _ ih | named _ hname _ _ ih | deeper _ hname _ ih =>
      exact ih (hlocation.concat (hname.isFileName hnamed))

/-- Paths, one for each location in a folder, that lead to what is there. -/
structure Shows (files : Files) (spell : Location → Path) (folder : Folder) : Prop where
  child : ∀ location name, childPath (spell location) name = spell (location ++ [name])
  entry : ∀ {location}, AreFileNames location → ∀ entry,
    files.entry (spell location) = .ok entry ↔ folder.entryAt? location = some entry
  present : ∀ {location}, AreFileNames location → location ≠ [] →
    files.hasEntry (spell location) = (folder.entryAt? location).isSome

namespace Shows

variable {files : Files} {spell : Location → Path} {folder : Folder}

theorem isDirectory_iff (hshows : files.Shows spell folder) {location : Location}
    (hlocation : AreFileNames location) : files.isDirectory (spell location) = true ↔
      ∃ inner, folder.entryAt? location = some (.directory inner) := by
  unfold isDirectory
  constructor
  · intro hdirectory
    split at hdirectory
    · next inner hinner => exact ⟨inner, (hshows.entry hlocation _).mp hinner⟩
    · cases hdirectory
  · rintro ⟨inner, hinner⟩
    rw [(hshows.entry hlocation _).mpr hinner]

theorem mem_namesIn_iff (hshows : files.Shows spell folder) {location : Location}
    (hlocation : AreFileNames location) {name : String} :
    name ∈ files.namesIn (spell location) ↔ folder.HasName location name := by
  unfold namesIn
  constructor
  · intro hname
    split at hname
    · next inner hinner =>
        exact ⟨inner, (hshows.entry hlocation _).mp hinner, List.mem_mergeSort.mp hname⟩
    · cases hname
  · rintro ⟨inner, hinner, hname⟩
    rw [(hshows.entry hlocation _).mpr hinner]
    exact List.mem_mergeSort.mpr hname

end Shows

theorem leadsOn_of_isFileName {files : Files} {name : String} (hname : isFileName name = true)
    (path : Path) : files.leadsOn path name = files.hasEntry (childPath path name) := by
  have hspecial : ¬ (name == "." || name == "..") = true := by
    rw [Bool.or_eq_true, beq_iff_eq, beq_iff_eq, not_or]
    exact Path.ne_dots_of_isFileName hname
  rw [leadsOn, if_neg hspecial]

variable {files : Files} {spell : Location → Path} {folder : Folder} {onlyFolders : Bool}

/-- A location can be an answer: where only folders are asked for, it is one. -/
def IsAnswer (folder : Folder) (onlyFolders : Bool) (location : Location) : Prop :=
  onlyFolders = true → ∃ inner, folder.entryAt? location = some (.directory inner)

theorem selects_of_mem_expandFrom (hshows : files.Shows spell folder)
    (hnamed : folder.isWellNamed = true) {deeper : List Glob → Path → List Path}
    (hdeeper : ∀ {globs location path}, (∀ glob ∈ globs, glob.isDownward = true) →
      AreFileNames location → path ∈ deeper globs (spell location) →
        ∃ target, folder.Selects globs location target ∧ IsAnswer folder onlyFolders target ∧
          path = spell target)
    {globs : List Glob} (hglobs : ∀ glob ∈ globs, glob.isDownward = true) {location : Location}
    (hlocation : AreFileNames location) {path : Path}
    (hpath : path ∈ files.expandFrom onlyFolders deeper globs (spell location)) :
    ∃ target, folder.Selects globs location target ∧ IsAnswer folder onlyFolders target ∧
      path = spell target := by
  -- Every case but one goes on with fewer globs; the one that does not goes on in `deeper`.
  induction hlength : globs.length using Nat.strongRecOn generalizing globs location with
  | ind count ih =>
  cases globs with
  | nil =>
      simp only [expandFrom] at hpath
      split at hpath
      · cases hpath
      · next hanswer =>
          refine ⟨location, .done location, ?_, List.mem_singleton.mp hpath⟩
          intro honly
          rw [← hshows.isDirectory_iff hlocation]
          simpa [honly] using hanswer
  | cons glob globs =>
      obtain ⟨hglob, hrest⟩ := List.forall_mem_cons.mp hglobs
      rw [Pattern.Glob.isDownward, Bool.and_eq_true, List.isEmpty_iff] at hglob
      rw [List.length_cons] at hlength
      cases hliteral : glob.literal? with
      | some name =>
          have hname : isFileName name = true := by simpa [hliteral] using hglob.2
          have hnext := hlocation.concat hname
          simp only [expandFrom, hliteral, leadsOn_of_isFileName hname, hshows.child,
            hshows.present hnext (by simp), List.mem_ite_nil_right] at hpath
          obtain ⟨target, hselects, hanswer, rfl⟩ := ih _ (by omega) hrest hnext hpath.2 rfl
          exact ⟨target, .literal hliteral hpath.1 hselects, hanswer, rfl⟩
      | none =>
          simp only [expandFrom, hliteral, hglob.1, List.flatMap_nil, List.nil_append,
            List.mem_ite_nil_right, List.mem_flatMap, hshows.mem_namesIn_iff hlocation,
            hshows.child] at hpath
          obtain ⟨-, name, hname, hpath⟩ := hpath
          have hnext := hlocation.concat (hname.isFileName hnamed)
          cases hmany : glob.isRecursive with
          | false =>
              simp only [hmany, Bool.false_eq_true, if_false, List.mem_ite_nil_right] at hpath
              obtain ⟨target, hselects, hanswer, rfl⟩ := ih _ (by omega) hrest hnext hpath.2 rfl
              exact ⟨target, .wildcard hliteral hmany hname hpath.1 hselects, hanswer, rfl⟩
          | true =>
              simp only [hmany, if_true, List.mem_append] at hpath
              rcases hpath with hpath | hpath
              · cases globs with
                | nil =>
                    simp only [List.mem_ite_nil_right, List.mem_singleton,
                      hshows.isDirectory_iff hnext] at hpath
                    obtain ⟨⟨inner, hinner⟩, rfl⟩ := hpath
                    exact ⟨_, .anyFolder hmany hname hinner, fun _ => ⟨inner, hinner⟩, rfl⟩
                | cons next globs =>
                    simp only [List.mem_ite_nil_right] at hpath
                    rw [List.length_cons] at hlength
                    obtain ⟨target, hselects, hanswer, rfl⟩ := ih _ (by omega)
                      (List.forall_mem_cons.mp hrest).2 hnext hpath.2 rfl
                    exact ⟨target, .named hmany hname hpath.1 hselects, hanswer, rfl⟩
              · obtain ⟨target, hselects, hanswer, rfl⟩ := hdeeper hglobs hnext hpath
                exact ⟨target, .deeper hmany hname hselects, hanswer, rfl⟩

section HasName

variable {deeper : List Glob → Path → List Path} {glob : Glob} {globs : List Glob}
  {location : Location} {name : String} {path : Path}

variable (hshows : files.Shows spell folder) (hlocation : AreFileNames location)
  (hname : folder.HasName location name)

include hshows hlocation hname

theorem isDirectory_of_hasName : files.isDirectory (spell location) = true := by
  obtain ⟨inner, hinner, -⟩ := hname
  exact (hshows.isDirectory_iff hlocation).mpr ⟨inner, hinner⟩

theorem mem_expandFrom_wildcard (hliteral : glob.literal? = none) (hone : glob.isRecursive = false)
    (hmatch : glob.isMatch name = true)
    (hpath : path ∈ files.expandFrom onlyFolders deeper globs (spell (location ++ [name]))) :
    path ∈ files.expandFrom onlyFolders deeper (glob :: globs) (spell location) := by
  simp only [expandFrom, hliteral, isDirectory_of_hasName hshows hlocation hname, if_true,
    List.mem_append, List.mem_flatMap]
  refine .inr ⟨name, (hshows.mem_namesIn_iff hlocation).mpr hname, ?_⟩
  simpa only [hone, Bool.false_eq_true, if_false, hmatch, if_true, hshows.child] using hpath

theorem mem_expandFrom_anyFolder (hmany : glob.isRecursive = true)
    (hdirectory : files.isDirectory (spell (location ++ [name])) = true) :
    spell (location ++ [name]) ∈ files.expandFrom onlyFolders deeper [glob] (spell location) := by
  simp only [expandFrom, Pattern.Glob.literal?_of_isRecursive hmany,
    isDirectory_of_hasName hshows hlocation hname, if_true, List.mem_append, List.mem_flatMap]
  refine .inr ⟨name, (hshows.mem_namesIn_iff hlocation).mpr hname, ?_⟩
  simp only [hmany, if_true, hshows.child, hdirectory]
  exact List.mem_append_left _ (List.mem_singleton_self _)

theorem mem_expandFrom_named {next : Glob} (hmany : glob.isRecursive = true)
    (hmatch : next.isMatch name = true)
    (hpath : path ∈ files.expandFrom onlyFolders deeper globs (spell (location ++ [name]))) :
    path ∈ files.expandFrom onlyFolders deeper (glob :: next :: globs) (spell location) := by
  simp only [expandFrom, Pattern.Glob.literal?_of_isRecursive hmany,
    isDirectory_of_hasName hshows hlocation hname, if_true, List.mem_append, List.mem_flatMap]
  refine .inr ⟨name, (hshows.mem_namesIn_iff hlocation).mpr hname, ?_⟩
  simp only [hmany, if_true, hshows.child, hmatch]
  exact List.mem_append_left _ hpath

theorem mem_expandFrom_deeper (hmany : glob.isRecursive = true)
    (hpath : path ∈ deeper (glob :: globs) (spell (location ++ [name]))) :
    path ∈ files.expandFrom onlyFolders deeper (glob :: globs) (spell location) := by
  simp only [expandFrom, Pattern.Glob.literal?_of_isRecursive hmany,
    isDirectory_of_hasName hshows hlocation hname, if_true, List.mem_append, List.mem_flatMap]
  refine .inr ⟨name, (hshows.mem_namesIn_iff hlocation).mpr hname, ?_⟩
  simp only [hmany, if_true, hshows.child]
  exact List.mem_append_right _ hpath

end HasName

theorem selects_of_mem_expandUpTo (hshows : files.Shows spell folder)
    (hnamed : folder.isWellNamed = true) {count : Nat} {globs : List Glob}
    (hglobs : ∀ glob ∈ globs, glob.isDownward = true) {location : Location}
    (hlocation : AreFileNames location) {path : Path}
    (hpath : path ∈ files.expandUpTo onlyFolders count globs (spell location)) :
    ∃ target, folder.Selects globs location target ∧ IsAnswer folder onlyFolders target ∧
      path = spell target := by
  induction count generalizing globs location path with
  | zero => cases hpath
  | succ count ih =>
      exact selects_of_mem_expandFrom hshows hnamed
        (fun hglobs hlocation hpath => ih hglobs hlocation hpath) hglobs hlocation hpath

/-- As many folders as lie one in the other below a location are enough to find everything there. -/
theorem mem_expandUpTo_of_selects (hshows : files.Shows spell folder)
    (hnamed : folder.isWellNamed = true) {globs : List Glob} {location target : Location}
    (hselects : folder.Selects globs location target)
    (hglobs : ∀ glob ∈ globs, glob.isDownward = true) (hlocation : AreFileNames location)
    (hanswer : IsAnswer folder onlyFolders target) {count : Nat} (hpositive : 0 < count)
    (hcount : ∀ inner, folder.entryAt? location = some (.directory inner) → inner.depth < count) :
    spell target ∈ files.expandUpTo onlyFolders count globs (spell location) := by
  induction hselects generalizing count with
  | done location =>
      obtain ⟨count, rfl⟩ := Nat.exists_eq_succ_of_ne_zero (Nat.ne_of_gt hpositive)
      have hkept : ¬ (onlyFolders && !files.isDirectory (spell location)) = true := by
        cases honly : onlyFolders with
        | false => simp
        | true => simpa using (hshows.isDirectory_iff hlocation).mpr (hanswer honly)
      rw [expandUpTo, expandFrom, if_neg hkept]
      exact List.mem_singleton_self _
  | @literal glob globs name location target hliteral hentry hrest ih =>
      obtain ⟨hglob, hglobs⟩ := List.forall_mem_cons.mp hglobs
      have hname : isFileName name = true := by
        rw [Pattern.Glob.isDownward, hliteral, Bool.and_eq_true] at hglob
        exact hglob.2
      have hnext := hlocation.concat hname
      obtain ⟨entry, hsome⟩ := Option.isSome_iff_exists.mp hentry
      obtain ⟨outer, houter, -⟩ := Folder.exists_folder_of_entryAt? hsome
      have hfound := ih hglobs hnext hanswer hpositive fun inner hinner =>
        Nat.lt_trans (Folder.depth_lt_of_entryAt? houter hinner) (hcount outer houter)
      obtain ⟨count, rfl⟩ := Nat.exists_eq_succ_of_ne_zero (Nat.ne_of_gt hpositive)
      simp only [expandUpTo, expandFrom, hliteral, leadsOn_of_isFileName hname, hshows.child,
        hshows.present hnext (by simp), hentry, if_true]
      exact hfound
  | wildcard hliteral hone hname hmatch hrest ih =>
      have hfound := ih (List.forall_mem_cons.mp hglobs).2
        (hlocation.concat (hname.isFileName hnamed)) hanswer hpositive fun inner hinner =>
          Nat.lt_of_succ_lt (hname.depth_lt hcount inner hinner)
      obtain ⟨count, rfl⟩ := Nat.exists_eq_succ_of_ne_zero (Nat.ne_of_gt hpositive)
      exact mem_expandFrom_wildcard hshows hlocation hname hliteral hone hmatch hfound
  | anyFolder hmany hname hinner =>
      obtain ⟨count, rfl⟩ := Nat.exists_eq_succ_of_ne_zero (Nat.ne_of_gt hpositive)
      have hdirectory := (hshows.isDirectory_iff (hlocation.concat (hname.isFileName hnamed))).mpr
        ⟨_, hinner⟩
      exact mem_expandFrom_anyFolder hshows hlocation hname hmany hdirectory
  | named hmany hname hmatch hrest ih =>
      have hfound := ih (List.forall_mem_cons.mp (List.forall_mem_cons.mp hglobs).2).2
        (hlocation.concat (hname.isFileName hnamed)) hanswer hpositive fun inner hinner =>
          Nat.lt_of_succ_lt (hname.depth_lt hcount inner hinner)
      obtain ⟨count, rfl⟩ := Nat.exists_eq_succ_of_ne_zero (Nat.ne_of_gt hpositive)
      exact mem_expandFrom_named hshows hlocation hname hmany hmatch hfound
  | deeper hmany hname hrest ih =>
      -- Only here one of `count` is used up, and the folder that is entered is less deep.
      obtain ⟨count, rfl⟩ := Nat.exists_eq_succ_of_ne_zero (Nat.ne_of_gt hpositive)
      have hless := fun inner hinner =>
        Nat.lt_of_succ_lt_succ (hname.depth_lt hcount inner hinner)
      obtain ⟨inner, hinner⟩ := hrest.exists_folder hmany
      have hfound := ih hglobs (hlocation.concat (hname.isFileName hnamed)) hanswer
        (Nat.lt_of_le_of_lt (Nat.zero_le _) (hless inner hinner)) hless
      exact mem_expandFrom_deeper hshows hlocation hname hmany hfound

end Files

end Untranslated
