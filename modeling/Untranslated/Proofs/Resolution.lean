import Untranslated.Proofs.Folders
import Untranslated.Proofs.Paths

/-!
# Where paths lead

A path is followed name by name.  So a path that is read from a folder leads to
where its own names lead from there, however the folder was reached.
-/

namespace Untranslated

/-! ### The names of a path -/

namespace Path

/-- The names of a path between slashes. -/
def steps (path : Path) : List String :=
  ((split path.toList).map String.ofList).filter (· != "")

/-- A path with nothing after its last slash asks for a folder, as `.` does. -/
def landing (path : Path) : List String :=
  if (split path.toList).getLast? = some [] then ["."] else []

/-- The names that a path is followed along. -/
def route (path : Path) : List String := path.steps ++ path.landing

theorem route_ne_nil (path : Path) : path.route ≠ [] := by
  obtain ⟨last, hlast⟩ : ∃ last, (split path.toList).getLast? = some last :=
    ⟨_, List.getLast?_eq_some_getLast (split_ne_nil path.toList)⟩
  intro hroute
  obtain ⟨hsteps, hlanding⟩ := List.append_eq_nil_iff.mp hroute
  by_cases hempty : last = []
  · simp [landing, hlast, hempty] at hlanding
  · have hmem : last ∈ split path.toList := List.mem_of_getLast? hlast
    have hstep := List.filter_eq_nil_iff.mp hsteps _ (List.mem_map_of_mem hmem)
    simp [hempty] at hstep

section Join

variable {base path : Path} (hbase : base ≠ "") (hpath : path.isAbsolute = false)

include hbase hpath

theorem isAbsolute_join : (base.join path).isAbsolute = base.isAbsolute := by
  have hchars : base.toList ≠ [] := fun hnil => hbase (String.toList_eq_nil_iff.mp hnil)
  rw [isAbsolute, isAbsolute, toList_join hbase hpath]
  rcases trunk_cases base with ⟨-, htrunk⟩ | ⟨-, htrunk⟩
  · rw [htrunk, List.head?_append, List.head?_append]
    rfl
  · rw [htrunk] at hchars ⊢
    obtain ⟨first, rest, hcons⟩ := List.exists_cons_of_ne_nil hchars
    rw [hcons]
    rfl

theorem steps_join : (base.join path).steps = base.steps ++ path.steps := by
  obtain ⟨ending, hending, hsplit⟩ := split_eq_trunk base
  have hnone : (ending.map String.ofList).filter (· != "") = [] := by
    apply List.filter_eq_nil_iff.mpr
    rw [List.forall_mem_map]
    intro part hpart
    simp [hending part hpart]
  rw [steps, steps, steps, toList_join hbase hpath, split_append_slash, hsplit, List.map_append,
    List.map_append, List.filter_append, List.filter_append, hnone, List.append_nil]

theorem landing_join : (base.join path).landing = path.landing := by
  have hlast : (split base.trunk ++ split path.toList).getLast? = (split path.toList).getLast? := by
    rw [List.getLast?_append, List.getLast?_eq_some_getLast (split_ne_nil path.toList)]
    rfl
  rw [landing, toList_join hbase hpath, split_append_slash, hlast, landing]

end Join

/-- A text that can stand between two slashes. -/
structure IsPart (part : String) : Prop where
  ne_empty : part ≠ ""
  not_mem : '/' ∉ part.toList

namespace IsPart

variable {part : String}

theorem isAbsolute (hpart : IsPart part) : Path.isAbsolute part = false := by
  have hslash := hpart.not_mem
  rw [Path.isAbsolute]
  cases hchars : part.toList with
  | nil => rfl
  | cons char chars =>
      rw [hchars, List.mem_cons, not_or] at hslash
      simpa using Ne.symm hslash.1

theorem steps (hpart : IsPart part) : Path.steps part = [part] := by
  simp [Path.steps, split_of_not_mem hpart.not_mem, hpart.ne_empty]

theorem route (hpart : IsPart part) : Path.route part = [part] := by
  rw [Path.route, hpart.steps]
  simp [landing, split_of_not_mem hpart.not_mem, hpart.ne_empty]

end IsPart

section FileName

variable {name : String} (hname : isFileName name = true)

include hname

theorem isPart_of_isFileName : IsPart name := by
  simp only [isFileName, Bool.and_eq_true, Bool.not_eq_true', List.contains_eq_mem,
    decide_eq_false_iff_not, bne_iff_ne] at hname
  exact ⟨hname.1.1.1, hname.2⟩

theorem ne_dots_of_isFileName : name ≠ "." ∧ name ≠ ".." := by
  constructor
  · rintro rfl
    cases hname
  · rintro rfl
    cases hname

theorem componentOf?_of_isFileName (isFirst : Bool) :
    componentOf? isFirst name.toList = some (.name name) := by
  simp only [isFileName, Bool.and_eq_true, bne_iff_ne] at hname
  obtain ⟨⟨⟨hne, hhere⟩, hup⟩, -⟩ := hname
  have hchars : ∀ {chars : List Char}, name.toList = chars → name = String.ofList chars :=
    fun hchars => by rw [← hchars, String.ofList_toList]
  rw [componentOf?, if_neg fun h => hne (hchars h), if_neg fun h => hhere (hchars h),
    if_neg fun h => hup (hchars h), String.ofList_toList]

/-- A path whose last name can be a file's is the path of a file with that name. -/
theorem fileName?_of_route {path : Path} (hlast : path.route.getLast? = some name) :
    path.fileName? = some name := by
  obtain ⟨front, last, hsplit⟩ : ∃ front last, split path.toList = front ++ [last] :=
    ⟨_, _, (List.dropLast_concat_getLast (split_ne_nil path.toList)).symm⟩
  by_cases hopen : last = []
  · have hhere : name = "." := by
      simpa [route, landing, hsplit, hopen, eq_comm] using hlast
    rw [hhere] at hname
    cases hname
  · have hlastName : last = name.toList := by
      have hof : String.ofList last = name := by
        simpa [route, steps, landing, hsplit, hopen] using hlast
      rw [← hof, String.toList_ofList]
    have hpath : path ≠ "" := by
      rintro rfl
      have hnil : [[]] = front ++ [last] := hsplit
      exact hopen (by simpa using (congrArg List.getLast? hnil).symm)
    have hcomponents : path.components.getLast? = some (.name name) := by
      rw [components_eq_componentsOf hpath, hsplit, hlastName]
      cases front with
      | nil =>
          rw [List.nil_append, componentsOf, componentOf?_of_isFileName hname,
            if_neg (hlastName ▸ hopen)]
          rfl
      | cons first front =>
          rw [componentsOf_append (List.cons_ne_nil _ _), List.filterMap_cons_some
            (componentOf?_of_isFileName hname false), List.getLast?_append]
          rfl
    rw [fileName?, hcomponents]

end FileName

/-- The names that texts joined one after the other are followed along. -/
def routeAlong : List String → List String
  | [] => []
  | [segment] => route segment
  | segment :: segments => steps segment ++ routeAlong segments

theorem routeAlong_ne_nil {segments : List String} (hne : segments ≠ []) :
    routeAlong segments ≠ [] := by
  induction segments with
  | nil => exact absurd rfl hne
  | cons segment segments ih =>
      cases segments with
      | nil => exact route_ne_nil segment
      | cons next segments =>
          exact List.append_ne_nil_of_right_ne_nil _ (ih (List.cons_ne_nil _ _))

theorem routeAlong_of_isPart {parts : List String} (hparts : ∀ part ∈ parts, IsPart part) :
    routeAlong parts = parts := by
  induction parts with
  | nil => rfl
  | cons part parts ih =>
      obtain ⟨hpart, hparts⟩ := List.forall_mem_cons.mp hparts
      cases parts with
      | nil => exact hpart.route
      | cons next parts =>
          rw [routeAlong, ih hparts, hpart.steps]
          · rfl
          · exact List.cons_ne_nil _ _

theorem joinAll_ne_empty {base : Path} {segments : List String} (hbase : base ≠ "")
    (hsegments : ∀ segment ∈ segments, isAbsolute segment = false) :
    base.joinAll segments ≠ "" := by
  induction segments generalizing base with
  | nil => exact hbase
  | cons segment segments ih =>
      rw [List.forall_mem_cons] at hsegments
      exact ih (join_ne_empty hbase hsegments.1) hsegments.2

theorem isAbsolute_joinAll {base : Path} {segments : List String} (hbase : base ≠ "")
    (hsegments : ∀ segment ∈ segments, isAbsolute segment = false) :
    (base.joinAll segments).isAbsolute = base.isAbsolute := by
  induction segments generalizing base with
  | nil => rfl
  | cons segment segments ih =>
      rw [List.forall_mem_cons] at hsegments
      rw [joinAll_cons, ih (join_ne_empty hbase hsegments.1) hsegments.2,
        isAbsolute_join hbase hsegments.1]

theorem route_joinAll {base : Path} {segments : List String} (hbase : base ≠ "")
    (hsegments : ∀ segment ∈ segments, isAbsolute segment = false) (hne : segments ≠ []) :
    (base.joinAll segments).route = base.steps ++ routeAlong segments := by
  induction segments generalizing base with
  | nil => exact absurd rfl hne
  | cons segment segments ih =>
      obtain ⟨hsegment, hsegments⟩ := List.forall_mem_cons.mp hsegments
      cases segments with
      | nil =>
          rw [joinAll_cons, joinAll_nil, route, steps_join hbase hsegment,
            landing_join hbase hsegment, List.append_assoc, routeAlong, route]
      | cons next segments =>
          rw [joinAll_cons, ih (join_ne_empty hbase hsegment) hsegments (List.cons_ne_nil _ _),
            steps_join hbase hsegment, List.append_assoc]
          rfl

theorem components_joinAll {base : Path} {segments : List String} (hbase : base ≠ "")
    (hsegments : ∀ segment ∈ segments, isAbsolute segment = false) :
    (base.joinAll segments).components = base.components ++ segments.flatMap relative := by
  induction segments generalizing base with
  | nil => simp
  | cons segment segments ih =>
      obtain ⟨hsegment, hsegments⟩ := List.forall_mem_cons.mp hsegments
      rw [joinAll_cons, ih (join_ne_empty hbase hsegment) hsegments,
        components_join hbase hsegment, List.append_assoc, List.flatMap_cons]

end Path

/-! ### Locations in a folder -/

/-- What lies at a location inside an entry. -/
def Entry.along? : Entry → Location → Option Entry
  | entry, [] => some entry
  | .directory folder, location => folder.entryAt? location
  | _, _ :: _ => none

@[simp]
theorem Entry.along?_nil (entry : Entry) : entry.along? [] = some entry := by
  cases entry <;> rfl

@[simp]
theorem Entry.along?_directory (folder : Folder) (location : Location) :
    (Entry.directory folder).along? location = folder.entryAt? location := by
  cases location with
  | nil => rw [Entry.along?_nil, Folder.entryAt?]
  | cons name location => rfl

namespace Folder

@[simp]
theorem entryAt?_nil (folder : Folder) : folder.entryAt? [] = some (.directory folder) := by
  rw [entryAt?]

theorem entryAt?_cons (folder : Folder) (name : String) (location : Location) :
    folder.entryAt? (name :: location) = (folder.find? name).bind (·.along? location) := by
  cases location with
  | nil =>
      rw [entryAt?]
      cases folder.find? name <;> simp
  | cons next location =>
      unfold entryAt?
      cases folder.find? name with
      | none => rfl
      | some entry => cases entry <;> rfl

theorem entryAt?_singleton (folder : Folder) (name : String) :
    folder.entryAt? [name] = folder.find? name := by
  rw [entryAt?_cons]
  cases folder.find? name <;> simp

theorem entryAt?_append {top folder : Folder} {place : Location}
    (hplace : top.entryAt? place = some (.directory folder)) (location : Location) :
    top.entryAt? (place ++ location) = folder.entryAt? location := by
  induction place generalizing top with
  | nil =>
      rw [entryAt?_nil] at hplace
      cases hplace
      rfl
  | cons name place ih =>
      rw [List.cons_append, entryAt?_cons]
      rw [entryAt?_cons] at hplace
      obtain ⟨entry, hentry, halong⟩ := Option.bind_eq_some_iff.mp hplace
      rw [hentry, Option.bind_some]
      cases entry with
      | directory inner =>
          rw [Entry.along?_directory] at halong ⊢
          exact ih halong
      | file content => cases place <;> cases halong
      | link target => cases place <;> cases halong

/-- What has an entry is a folder. -/
theorem exists_folder_of_entryAt? {top : Folder} {location : Location} {name : String}
    {entry : Entry} (hentry : top.entryAt? (location ++ [name]) = some entry) :
    ∃ folder, top.entryAt? location = some (.directory folder) ∧
      folder.find? name = some entry := by
  induction location generalizing top with
  | nil => exact ⟨top, entryAt?_nil top, by rwa [List.nil_append, entryAt?_singleton] at hentry⟩
  | cons first location ih =>
      rw [List.cons_append, entryAt?_cons] at hentry
      rw [entryAt?_cons]
      obtain ⟨found, hfound, halong⟩ := Option.bind_eq_some_iff.mp hentry
      rw [hfound, Option.bind_some]
      cases found with
      | directory inner =>
          rw [Entry.along?_directory] at halong ⊢
          exact ih halong
      | file content => cases location <;> cases halong
      | link target => cases location <;> cases halong

theorem entryAt?_dropLast {top folder : Folder} {location : Location}
    (hlocation : top.entryAt? location = some (.directory folder)) :
    ∃ above, top.entryAt? location.dropLast = some (.directory above) := by
  rcases List.eq_nil_or_concat location with rfl | ⟨place, name, rfl⟩
  · exact ⟨folder, hlocation⟩
  · rw [List.concat_eq_append] at hlocation ⊢
    obtain ⟨above, habove, -⟩ := exists_folder_of_entryAt? hlocation
    exact ⟨above, by rwa [List.dropLast_concat]⟩

/-- What the entries of a folder have if the folder has it, everything below the folder has. -/
theorem holds_of_entryAt? {motive : Entry → Prop}
    (hinherited : ∀ folder, motive (.directory folder) → ∀ item ∈ folder.entries, motive item.2)
    {folder : Folder} (hfolder : motive (.directory folder)) {location : Location} {entry : Entry}
    (hentry : folder.entryAt? location = some entry) : motive entry := by
  induction location generalizing folder with
  | nil =>
      rw [entryAt?_nil] at hentry
      cases hentry
      exact hfolder
  | cons name location ih =>
      rw [entryAt?_cons] at hentry
      obtain ⟨found, hfound, halong⟩ := Option.bind_eq_some_iff.mp hentry
      have hheld := hinherited folder hfolder _ (mem_entries_of_find? hfound)
      cases found with
      | directory inner =>
          rw [Entry.along?_directory] at halong
          exact ih hheld halong
      | file content =>
          cases location <;> cases halong
          exact hheld
      | link target =>
          cases location <;> cases halong
          exact hheld

theorem isLinkFree_of_entryAt? {folder : Folder} (hfree : folder.isLinkFree = true)
    {location : Location} {entry : Entry} (hentry : folder.entryAt? location = some entry) :
    entry.isLinkFree = true :=
  holds_of_entryAt? (motive := (·.isLinkFree = true))
    (fun _ hfolder _ hitem => isLinkFree_of_mem_entries hfolder hitem) hfree hentry

theorem isWellNamed_of_entryAt? {folder : Folder} (hnamed : folder.isWellNamed = true)
    {location : Location} {entry : Entry} (hentry : folder.entryAt? location = some entry) :
    entry.isWellNamed = true :=
  holds_of_entryAt? (motive := (·.isWellNamed = true))
    (fun _ hfolder _ hitem => (of_mem_entries hfolder hitem).2.1) hnamed hentry

theorem isFileName_of_entryAt? {folder : Folder} (hnamed : folder.isWellNamed = true)
    {place : Location} {name : String} {entry : Entry}
    (hentry : folder.entryAt? (place ++ [name]) = some entry) : isFileName name = true := by
  obtain ⟨inner, hinner, hfind⟩ := exists_folder_of_entryAt? hentry
  exact (of_mem_entries (isWellNamed_of_entryAt? hnamed hinner) (mem_entries_of_find? hfind)).1

end Folder

/-! ### Following names -/

namespace Files

variable {top : Folder} {ending : Ending} {links : Nat} {location : Location} {name : String}
  {rest : List String} {follow : Location → Path → List String → Except FileError Location}

section Named

variable (hhere : name ≠ ".") (hup : name ≠ "..")

include hhere hup

theorem walk_absent (hentry : top.entryAt? (location ++ [name]) = none) :
    walk top ending follow location (name :: rest) =
      if rest.isEmpty && ending.mayBeFree then .ok (location ++ [name])
      else .error .notFound := by
  simp only [walk, if_neg hhere, if_neg hup, hentry]

theorem walk_directory {folder : Folder}
    (hentry : top.entryAt? (location ++ [name]) = some (.directory folder)) :
    walk top ending follow location (name :: rest) =
      walk top ending follow (location ++ [name]) rest := by
  simp only [walk, if_neg hhere, if_neg hup, hentry]

theorem walk_file {content : Content}
    (hentry : top.entryAt? (location ++ [name]) = some (.file content)) :
    walk top ending follow location (name :: rest) =
      if rest.isEmpty then .ok (location ++ [name]) else .error .notADirectory := by
  simp only [walk, if_neg hhere, if_neg hup, hentry]

theorem walk_link {target : Path}
    (hentry : top.entryAt? (location ++ [name]) = some (.link target)) :
    walk top ending follow location (name :: rest) =
      if rest.isEmpty && !ending.follow then .ok (location ++ [name])
      else follow location target rest := by
  simp only [walk, if_neg hhere, if_neg hup, hentry]

end Named

/-- What names may end at without being followed further. -/
inductive StopsAt (ending : Ending) : Option Entry → Prop where
  | free (hfree : ending.mayBeFree = true) : StopsAt ending none
  | file (content : Content) : StopsAt ending (some (.file content))
  | link (target : Path) (hfollow : ending.follow = false) : StopsAt ending (some (.link target))

/-- Names lead from a location to a place, and fewer than `links` links are followed on the way. -/
inductive Resolves (top : Folder) (ending : Ending) :
    Nat → Location → List String → Location → Prop where
  | done (links : Nat) (location : Location) : Resolves top ending (links + 1) location [] location
  | here {links : Nat} {location place : Location} {rest : List String}
      (hrest : Resolves top ending (links + 1) location rest place) :
      Resolves top ending (links + 1) location ("." :: rest) place
  | up {links : Nat} {location place : Location} {rest : List String}
      (hrest : Resolves top ending (links + 1) location.dropLast rest place) :
      Resolves top ending (links + 1) location (".." :: rest) place
  | last {links : Nat} {location : Location} {name : String} {found : Option Entry}
      (hhere : name ≠ ".") (hup : name ≠ "..") (hentry : top.entryAt? (location ++ [name]) = found)
      (hstops : StopsAt ending found) :
      Resolves top ending (links + 1) location [name] (location ++ [name])
  | inside {links : Nat} {location place : Location} {name : String} {rest : List String}
      {folder : Folder} (hhere : name ≠ ".") (hup : name ≠ "..")
      (hentry : top.entryAt? (location ++ [name]) = some (.directory folder))
      (hrest : Resolves top ending (links + 1) (location ++ [name]) rest place) :
      Resolves top ending (links + 1) location (name :: rest) place
  | through {links : Nat} {location place : Location} {name : String} {rest : List String}
      {target : Path} (hhere : name ≠ ".") (hup : name ≠ "..")
      (hentry : top.entryAt? (location ++ [name]) = some (.link target))
      (hgoes : rest = [] → ending.follow = true) (htarget : target.isEmpty = false)
      (hrest : Resolves top ending links (if target.isAbsolute then [] else location)
        (names target ++ rest) place) :
      Resolves top ending (links + 1) location (name :: rest) place

theorem resolves_of_resolve {start place : Location} {steps : List String}
    (hplace : resolve top ending links start steps = .ok place) :
    Resolves top ending links start steps place := by
  -- The names become fewer until a link is followed, and then fewer links are left.
  induction links generalizing start steps with
  | zero => cases hplace
  | succ links ih =>
      induction steps generalizing start with
      | nil =>
          cases hplace
          exact .done links place
      | cons name rest inner =>
          rw [resolve] at hplace
          by_cases hhere : name = "."
          · subst hhere
            exact .here (inner hplace)
          by_cases hup : name = ".."
          · subst hup
            exact .up (inner hplace)
          cases hentry : top.entryAt? (start ++ [name]) with
          | none =>
              rw [walk_absent hhere hup hentry] at hplace
              split at hplace
              · next hends =>
                  rw [Bool.and_eq_true, List.isEmpty_iff] at hends
                  obtain ⟨rfl, hfree⟩ := hends
                  cases hplace
                  exact .last hhere hup hentry (.free hfree)
              · cases hplace
          | some entry =>
              cases entry with
              | directory folder =>
                  rw [walk_directory hhere hup hentry] at hplace
                  exact .inside hhere hup hentry (inner hplace)
              | file content =>
                  rw [walk_file hhere hup hentry] at hplace
                  split at hplace
                  · next hends =>
                      cases List.isEmpty_iff.mp hends
                      cases hplace
                      exact .last hhere hup hentry (.file content)
                  · cases hplace
              | link target =>
                  rw [walk_link hhere hup hentry] at hplace
                  split at hplace
                  · next hends =>
                      rw [Bool.and_eq_true, List.isEmpty_iff, Bool.not_eq_true'] at hends
                      obtain ⟨rfl, hfollow⟩ := hends
                      cases hplace
                      exact .last hhere hup hentry (.link target hfollow)
                  · next hgoes =>
                      split at hplace
                      · cases hplace
                      · next htarget =>
                          refine .through hhere hup hentry ?_ (Bool.eq_false_iff.mpr htarget)
                            (ih hplace)
                          rintro rfl
                          simpa using hgoes

theorem Resolves.resolve_eq {start place : Location} {steps : List String}
    (hresolves : Resolves top ending links start steps place) :
    resolve top ending links start steps = .ok place := by
  induction hresolves with
  | done links location => rfl
  | here _ ih => exact ih
  | up _ ih => exact ih
  | last hhere hup hentry hstops =>
      rw [resolve]
      cases hstops with
      | free hfree =>
          rw [walk_absent hhere hup hentry, hfree]
          rfl
      | file content =>
          rw [walk_file hhere hup hentry]
          rfl
      | link target hfollow =>
          rw [walk_link hhere hup hentry, hfollow]
          rfl
  | inside hhere hup hentry _ ih =>
      rw [resolve, walk_directory hhere hup hentry]
      exact ih
  | @through _ _ _ _ rest _ hhere hup hentry hgoes htarget _ ih =>
      have hon : ¬ (rest.isEmpty && !ending.follow) = true := by
        rw [Bool.and_eq_true, List.isEmpty_iff, Bool.not_eq_true']
        rintro ⟨hends, hfollow⟩
        exact Bool.false_ne_true (hfollow.symm.trans (hgoes hends))
      rw [resolve, walk_link hhere hup hentry, if_neg hon, if_neg (Bool.eq_false_iff.mp htarget)]
      exact ih

theorem resolve_eq_ok_iff {start place : Location} {steps : List String} :
    resolve top ending links start steps = .ok place ↔
      Resolves top ending links start steps place :=
  ⟨resolves_of_resolve, Resolves.resolve_eq⟩

theorem StopsAt.ne_directory {entry : Option Entry} (hstops : StopsAt ending entry)
    (folder : Folder) : entry ≠ some (.directory folder) := by
  rintro rfl
  cases hstops

/-- The names of a link are read from a folder. -/
theorem exists_folder_ofLink {start : Location} {folder : Folder}
    (hstart : top.entryAt? start = some (.directory folder)) (target : Path) :
    ∃ first, top.entryAt? (if target.isAbsolute then [] else start) = some (.directory first) := by
  split
  · exact ⟨top, Folder.entryAt?_nil top⟩
  · exact ⟨folder, hstart⟩

/-- Names that lead to a folder can be followed by more, and it does not matter how many links were
passed. -/
theorem resolve_append {start place : Location} {steps : List String}
    (hplace : resolve top {} links start steps = .ok place)
    {folder : Folder} (hfolder : top.entryAt? place = some (.directory folder))
    (ending : Ending) {more : List String} (hmore : more ≠ []) :
    ∃ follow, resolve top ending links start (steps ++ more) =
      walk top ending follow place more := by
  rw [resolve_eq_ok_iff] at hplace
  induction hplace with
  | done links location => exact ⟨_, rfl⟩
  | here _ ih => exact ih hfolder
  | up _ ih => exact ih hfolder
  | last _ _ hentry hstops => exact absurd (hentry.symm.trans hfolder) (hstops.ne_directory folder)
  | inside hhere hup hentry _ ih =>
      rw [List.cons_append, resolve, walk_directory hhere hup hentry]
      exact ih hfolder
  | @through _ _ _ _ rest _ hhere hup hentry _ htarget hrest ih =>
      have hkept : (rest ++ more).isEmpty = false := by simp [hmore]
      rw [List.cons_append, resolve, walk_link hhere hup hentry, hkept, Bool.false_and,
        if_neg Bool.false_ne_true, if_neg (Bool.eq_false_iff.mp htarget), ← List.append_assoc]
      exact ih hfolder

/-- A `.` before more names does not change where they lead. -/
theorem resolve_here {start : Location} {front more : List String} (hmore : more ≠ []) :
    resolve top ending links start (front ++ "." :: more) =
      resolve top ending links start (front ++ more) := by
  induction links generalizing start front with
  | zero => rfl
  | succ links ih =>
      induction front generalizing start with
      | nil => rfl
      | cons name front inner =>
          have hgoes : (front ++ more).isEmpty = false := by simp [hmore]
          have hpoint : (front ++ "." :: more).isEmpty = false := by simp
          simp only [resolve] at inner
          simp only [List.cons_append, resolve, walk, inner, hgoes, hpoint, ← List.append_assoc, ih]

/-- What names lead to, if it is there and no link, they lead to with any other treatment of the
last name, unless that stops at a link that was followed. -/
theorem resolve_ending {start place : Location} {steps : List String} {other : Ending}
    (hfree : ending.mayBeFree = false) (hfollow : ending.follow = true → other.follow = true)
    (hplace : resolve top ending links start steps = .ok place)
    (hlink : ∀ target, top.entryAt? place ≠ some (.link target)) :
    resolve top other links start steps = .ok place := by
  rw [resolve_eq_ok_iff] at hplace ⊢
  induction hplace with
  | done links location => exact .done links location
  | here _ ih => exact .here (ih hlink)
  | up _ ih => exact .up (ih hlink)
  | last hhere hup hentry hstops =>
      refine .last hhere hup hentry ?_
      cases hstops with
      | free hmay => exact absurd (hfree.symm.trans hmay) Bool.false_ne_true
      | file content => exact .file content
      | link target _ => exact absurd hentry (hlink target)
  | inside hhere hup hentry _ ih => exact .inside hhere hup hentry (ih hlink)
  | through hhere hup hentry hgoes htarget _ ih =>
      exact .through hhere hup hentry (fun hends => hfollow (hgoes hends)) htarget (ih hlink)

/-- A file that names lead to from a folder, without a link at the end, has the last of the
names. -/
theorem getLast?_of_resolve {start place : Location} {steps : List String} {folder : Folder}
    {content : Content} (hstart : top.entryAt? start = some (.directory folder))
    (hplace : resolve top { follow := false } links start steps = .ok place)
    (hfile : top.entryAt? place = some (.file content)) :
    steps ≠ [] ∧ steps.getLast? = place.getLast? := by
  have hcons : ∀ {name : String} {rest : List String} {last : Option String},
      rest ≠ [] ∧ rest.getLast? = last → name :: rest ≠ [] ∧ (name :: rest).getLast? = last := by
    rintro name rest last ⟨hrest, hlast⟩
    exact ⟨List.cons_ne_nil _ _, by rw [List.getLast?_cons_of_ne_nil hrest, hlast]⟩
  rw [resolve_eq_ok_iff] at hplace
  induction hplace generalizing folder with
  | done links location =>
      rw [hstart] at hfile
      cases hfile
  | here _ ih => exact hcons (ih hstart hfile)
  | up _ ih =>
      obtain ⟨above, habove⟩ := Folder.entryAt?_dropLast hstart
      exact hcons (ih habove hfile)
  | last => simp
  | inside _ _ hentry _ ih => exact hcons (ih hentry hfile)
  | @through _ location _ _ rest target _ _ _ hgoes _ _ ih =>
      -- The names of the link's target come before the others, so the last one stays.
      have hrest : rest ≠ [] := fun hends => absurd (hgoes hends) Bool.false_ne_true
      obtain ⟨inner, hinner⟩ := exists_folder_ofLink hstart target
      obtain ⟨-, hlast⟩ := ih hinner hfile
      rw [List.getLast?_append, List.getLast?_eq_some_getLast hrest, Option.some_or,
        ← List.getLast?_eq_some_getLast hrest] at hlast
      exact hcons ⟨hrest, hlast⟩

/-- Names that lead through a folder to a file are followed to that file. -/
theorem walk_reaches {folder : Folder} (hnamed : folder.isWellNamed = true) {place : Location}
    (hfolder : top.entryAt? place = some (.directory folder)) {names : List String}
    {content : Content} (hreaches : (Entry.directory folder).Reaches names (.file content)) :
    walk top ending follow place names = .ok (place ++ names) ∧
      top.entryAt? (place ++ names) = some (.file content) := by
  induction names generalizing place folder with
  | nil => cases hreaches
  | cons name names ih =>
      cases hreaches with
      | @inside _ _ entry _ _ hentry hreaches =>
          obtain ⟨hname, hentryNamed, hfind⟩ := Folder.of_mem_entries hnamed hentry
          obtain ⟨hhere, hup⟩ := Path.ne_dots_of_isFileName hname
          have hnext : top.entryAt? (place ++ [name]) = some entry := by
            rw [Folder.entryAt?_append hfolder, Folder.entryAt?_singleton, hfind]
          cases entry with
          | file found =>
              cases hreaches
              rw [walk_file hhere hup hnext]
              exact ⟨rfl, hnext⟩
          | directory inner =>
              rw [walk_directory hhere hup hnext, List.append_cons place name names]
              exact ih hentryNamed hnext hreaches
          | link target => cases hreaches

/-- On the way to a folder there are only folders. -/
theorem resolve_front {start place : Location} {front more : List String} {folder target : Folder}
    (hstart : top.entryAt? start = some (.directory folder))
    (hplace : resolve top {} links start (front ++ more) = .ok place)
    (htarget : top.entryAt? place = some (.directory target)) :
    ∃ between inner, resolve top {} links start front = .ok between ∧
      top.entryAt? between = some (.directory inner) := by
  simp only [resolve_eq_ok_iff] at hplace ⊢
  generalize hsteps : front ++ more = steps at hplace
  induction hplace generalizing front folder with
  | done links location =>
      obtain ⟨rfl, rfl⟩ := List.append_eq_nil_iff.mp hsteps
      exact ⟨location, folder, .done links location, hstart⟩
  | @here links location _ _ _ ih =>
      obtain ⟨rfl, -⟩ | ⟨front, rfl, rfl⟩ := List.append_eq_cons_iff.mp hsteps
      · exact ⟨location, folder, .done links location, hstart⟩
      · obtain ⟨between, inner, hfront, hinner⟩ := ih hstart htarget rfl
        exact ⟨between, inner, .here hfront, hinner⟩
  | @up links location _ _ _ ih =>
      obtain ⟨rfl, -⟩ | ⟨front, rfl, rfl⟩ := List.append_eq_cons_iff.mp hsteps
      · exact ⟨location, folder, .done links location, hstart⟩
      · obtain ⟨above, habove⟩ := Folder.entryAt?_dropLast hstart
        obtain ⟨between, inner, hfront, hinner⟩ := ih habove htarget rfl
        exact ⟨between, inner, .up hfront, hinner⟩
  | last _ _ hentry hstops => exact absurd (hentry.symm.trans htarget) (hstops.ne_directory target)
  | @inside links location _ _ _ _ hhere hup hentry _ ih =>
      obtain ⟨rfl, -⟩ | ⟨front, rfl, rfl⟩ := List.append_eq_cons_iff.mp hsteps
      · exact ⟨location, folder, .done links location, hstart⟩
      · obtain ⟨between, inner, hfront, hinner⟩ := ih hentry htarget rfl
        exact ⟨between, inner, .inside hhere hup hentry hfront, hinner⟩
  | @through links location _ _ _ link hhere hup hentry _ hlink _ ih =>
      obtain ⟨rfl, -⟩ | ⟨front, rfl, rfl⟩ := List.append_eq_cons_iff.mp hsteps
      · exact ⟨location, folder, .done links location, hstart⟩
      · obtain ⟨first, hfirst⟩ := exists_folder_ofLink hstart link
        obtain ⟨between, inner, hfront, hinner⟩ := ih hfirst htarget (List.append_assoc ..)
        exact ⟨between, inner, .through hhere hup hentry (fun _ => rfl) hlink hfront, hinner⟩

/-- Where names lead to something, there is something at their end also if a link there is not
followed. -/
theorem resolve_unfollowed {start place : Location} {steps : List String} {entry : Entry}
    (hplace : resolve top {} links start steps = .ok place)
    (hentry : top.entryAt? place = some entry) :
    ∃ last found, resolve top { follow := false } links start steps = .ok last ∧
      top.entryAt? last = some found := by
  simp only [resolve_eq_ok_iff] at hplace ⊢
  induction hplace with
  | done links location => exact ⟨location, entry, .done links location, hentry⟩
  | here _ ih =>
      obtain ⟨last, found, hlast, hfound⟩ := ih hentry
      exact ⟨last, found, .here hlast, hfound⟩
  | up _ ih =>
      obtain ⟨last, found, hlast, hfound⟩ := ih hentry
      exact ⟨last, found, .up hlast, hfound⟩
  | last hhere hup hfound hstops =>
      refine ⟨_, entry, .last hhere hup hfound ?_, hentry⟩
      cases hstops with
      | free hfree => exact absurd hfree Bool.false_ne_true
      | file content => exact .file content
      | link target _ => exact .link target rfl
  | inside hhere hup hfolder _ ih =>
      obtain ⟨last, found, hlast, hfound⟩ := ih hentry
      exact ⟨last, found, .inside hhere hup hfolder hlast, hfound⟩
  | @through _ _ _ _ rest _ hhere hup hlink _ htarget _ ih =>
      cases rest with
      | nil => exact ⟨_, _, .last hhere hup hlink (.link _ rfl), hlink⟩
      | cons name rest =>
          obtain ⟨last, found, hlast, hfound⟩ := ih hentry
          refine ⟨last, found, .through hhere hup hlink ?_ htarget hlast, hfound⟩
          exact fun hends => absurd hends (List.cons_ne_nil name rest)

/-- After a file there is nothing but the `.` that asks for a folder. -/
theorem getLast?_of_along?_file {content : Content} {steps : List String} (hsteps : steps ≠ [])
    {entry : Entry}
    (halong : (Entry.file content).along? (steps.filter (· != ".")) = some entry) :
    steps.getLast? = some "." ∧ entry = .file content := by
  cases hrest : steps.filter (· != ".") with
  | nil =>
      rw [hrest, Entry.along?_nil] at halong
      cases halong
      have hall : ∀ step ∈ steps, step = "." := by
        simpa [List.filter_eq_nil_iff] using hrest
      rw [List.getLast?_eq_some_getLast hsteps, hall _ (List.getLast_mem hsteps)]
      exact ⟨rfl, rfl⟩
  | cons first rest =>
      rw [hrest] at halong
      cases halong

/-- Inside a folder without links, steps that do not go up lead where their names lead; a `.` at the
end is there in folders only. -/
theorem walk_downward_iff {folder : Folder} {place : Location} (hfree : folder.isLinkFree = true)
    (hfolder : top.entryAt? place = some (.directory folder)) (hending : ending.mayBeFree = false)
    {steps : List String} (hdown : ".." ∉ steps) {entry : Entry} :
    (∃ last, walk top ending follow place steps = .ok last ∧ top.entryAt? last = some entry) ↔
      folder.entryAt? (steps.filter (· != ".")) = some entry ∧
        (steps.getLast? = some "." → ∃ inner, entry = .directory inner) := by
  induction steps generalizing place folder with
  | nil =>
      rw [List.filter_nil, Folder.entryAt?_nil, ← hfolder]
      simp [walk]
  | cons name steps ih =>
      rw [List.mem_cons, not_or] at hdown
      have hup : name ≠ ".." := Ne.symm hdown.1
      by_cases hhere : name = "."
      · subst hhere
        refine (ih hfree hfolder hdown.2).trans (and_congr_right fun hentry => ?_)
        cases steps with
        | nil =>
            rw [List.filter_nil, Folder.entryAt?_nil] at hentry
            cases hentry
            simp
        | cons next steps => rw [List.getLast?_cons_cons]
      have hlast : (name :: steps).getLast? = some "." ↔ steps.getLast? = some "." := by
        cases steps with
        | nil => simp [hhere]
        | cons next steps => rw [List.getLast?_cons_cons]
      have hnext : top.entryAt? (place ++ [name]) = folder.find? name := by
        rw [Folder.entryAt?_append hfolder, Folder.entryAt?_singleton]
      rw [List.filter_cons_of_pos (by simpa using hhere), Folder.entryAt?_cons, hlast]
      cases hfind : folder.find? name with
      | none =>
          rw [walk_absent hhere hup (hnext.trans hfind)]
          simp [hending]
      | some found =>
          rw [Option.bind_some]
          cases found with
          | directory inner =>
              have hinner := Folder.isLinkFree_of_mem_entries hfree
                (Folder.mem_entries_of_find? hfind)
              rw [walk_directory hhere hup (hnext.trans hfind), Entry.along?_directory]
              exact ih hinner (hnext.trans hfind) hdown.2
          | file content =>
              rw [walk_file hhere hup (hnext.trans hfind)]
              cases steps with
              | nil => simp [hnext, hfind]
              | cons next steps =>
                  simp only [List.isEmpty_cons, Bool.false_eq_true, if_false, reduceCtorEq,
                    false_and, exists_false, false_iff]
                  rintro ⟨halong, hdirectory⟩
                  obtain ⟨hpoint, rfl⟩ :=
                    getLast?_of_along?_file (List.cons_ne_nil next steps) halong
                  obtain ⟨inner, hinner⟩ := hdirectory hpoint
                  cases hinner
          | link target =>
              cases Folder.isLinkFree_of_mem_entries hfree (Folder.mem_entries_of_find? hfind)

/-- Inside a folder without links, names that files can have lead to what is there. -/
theorem walk_names_iff {folder : Folder} {place : Location} (hfree : folder.isLinkFree = true)
    (hfolder : top.entryAt? place = some (.directory folder)) (hending : ending.mayBeFree = false)
    {names : List String} (hnames : ∀ name ∈ names, isFileName name = true) {entry : Entry} :
    (∃ last, walk top ending follow place names = .ok last ∧ top.entryAt? last = some entry) ↔
      folder.entryAt? names = some entry := by
  have hhere : "." ∉ names := by
    intro hmem
    cases hnames "." hmem
  have hup : ".." ∉ names := by
    intro hmem
    cases hnames ".." hmem
  have hall : names.filter (· != ".") = names := by
    rw [List.filter_eq_self]
    rintro name hmem
    rw [bne_iff_ne]
    rintro rfl
    exact hhere hmem
  rw [walk_downward_iff hfree hfolder hending hup, hall, and_iff_left]
  intro hlast
  exact absurd (List.mem_of_getLast? hlast) hhere

/-! ### Paths that are read from a folder -/

theorem names_eq (path : Path) :
    names path = path.route ∨ (path.steps = [] ∧ names path = []) := by
  have hlast : ((Path.split path.toList).map String.ofList).getLast? = some "" ↔
      (Path.split path.toList).getLast? = some [] := by
    simp [List.getLast?_map]
  have hnames : names path = if ((Path.split path.toList).map String.ofList).getLast? == some "" &&
      !path.steps.isEmpty then path.steps ++ ["."] else path.steps := rfl
  rw [hnames, Path.route, Path.landing]
  by_cases hopen : (Path.split path.toList).getLast? = some []
  · by_cases hsteps : path.steps = []
    · exact .inr ⟨hsteps, by simp [hsteps]⟩
    · exact .inl (by simp [hlast.mpr hopen, hsteps, hopen])
  · exact .inl (by simp [hopen])

theorem resolve_names {start : Location} {path : Path} :
    resolve top ending (links + 1) start (names path) =
      resolve top ending (links + 1) start path.route := by
  rcases names_eq path with hnames | ⟨hsteps, hnames⟩
  · rw [hnames]
  · rw [hnames, Path.route, hsteps, Path.landing]
    split <;> rfl

/-- A slash at the end of a path has no effect when more names follow. -/
theorem resolve_landing {start : Location} (path : Path) {more : List String} (hmore : more ≠ []) :
    resolve top ending links start (path.route ++ more) =
      resolve top ending links start (path.steps ++ more) := by
  rw [Path.route, List.append_assoc, Path.landing]
  split
  · exact resolve_here hmore
  · rfl

/-- The folder from which a path is read. -/
def home (files : Files) (path : Path) : Location :=
  if path.isAbsolute then [] else files.workingDirectory

/-- Files as they are found: every name can be a file's and is there once in its folder, and the
working directory is a folder. -/
structure WellFormed (files : Files) : Prop where
  named : files.top.isWellNamed = true
  working : ∃ folder, files.top.entryAt? files.workingDirectory = some (.directory folder)

theorem WellFormed.entryAt?_home {files : Files} (hformed : files.WellFormed) (path : Path) :
    ∃ folder, files.top.entryAt? (files.home path) = some (.directory folder) := by
  unfold home
  split
  · exact ⟨_, Folder.entryAt?_nil _⟩
  · exact hformed.working

theorem locate_eq_resolve {files : Files} {path : Path} (hpath : path ≠ "") (ending : Ending) :
    files.locate path ending =
      resolve files.top ending (maxLinks + 1) (files.home path) path.route := by
  rw [locate, if_neg (by simpa [String.isEmpty_iff] using hpath), resolve_names, home]

theorem entryOf_eq_ok_iff {files : Files} {path : Path} {entry : Entry} :
    files.entryOf path ending = .ok entry ↔
      ∃ place, files.locate path ending = .ok place ∧ files.top.entryAt? place = some entry := by
  unfold entryOf
  cases files.locate path ending with
  | error error => simp [bind, Except.bind]
  | ok place =>
      simp only [bind, Except.bind, Except.ok.injEq, exists_eq_left']
      cases files.top.entryAt? place <;> simp

theorem ne_empty_of_locate {files : Files} {path : Path} {place : Location}
    (hplace : files.locate path ending = .ok place) : path ≠ "" := by
  rintro rfl
  cases hplace

theorem locate_ending {files : Files} {path : Path} {place : Location} {other : Ending}
    (hfree : ending.mayBeFree = false) (hfollow : ending.follow = true → other.follow = true)
    (hplace : files.locate path ending = .ok place)
    (hlink : ∀ target, files.top.entryAt? place ≠ some (.link target)) :
    files.locate path other = .ok place := by
  have hpath := ne_empty_of_locate hplace
  rw [locate_eq_resolve hpath] at hplace ⊢
  exact resolve_ending hfree hfollow hplace hlink

/-- A path that is read from a folder leads to where its own names lead from there. -/
theorem locate_joinAll {files : Files} {base : Path} {place : Location} {folder : Folder}
    (hplace : files.locate base {} = .ok place)
    (hfolder : files.top.entryAt? place = some (.directory folder)) {segments : List String}
    (hsegments : ∀ segment ∈ segments, Path.isAbsolute segment = false) (hne : segments ≠ [])
    (ending : Ending) :
    ∃ follow, files.locate (base.joinAll segments) ending =
      walk files.top ending follow place (Path.routeAlong segments) := by
  have hbase := ne_empty_of_locate hplace
  rw [locate_eq_resolve hbase] at hplace
  rw [locate_eq_resolve (Path.joinAll_ne_empty hbase hsegments), home,
    Path.isAbsolute_joinAll hbase hsegments, Path.route_joinAll hbase hsegments hne]
  obtain ⟨follow, hwalk⟩ := resolve_append hplace hfolder ending (Path.routeAlong_ne_nil hne)
  rw [resolve_landing base (Path.routeAlong_ne_nil hne)] at hwalk
  exact ⟨follow, hwalk⟩

end Files

end Untranslated
