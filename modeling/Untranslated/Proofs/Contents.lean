import Untranslated.Proofs.Resolution

/-!
# Changing what files hold

A tree in which files hold something else, and nothing else is different.  Every
path leads to the same place in it, and to write a text to a file is to change
the tree in this way.
-/

namespace Untranslated

mutual

/-- An entry in which files hold something else, depending on where they lie in it. -/
def Entry.mapContents (change : Location → Content → Content) : Entry → Entry
  | .file content => .file (change [] content)
  | .directory folder => .directory (folder.mapContents change)
  | .link target => .link target

/-- A folder in which files hold something else, depending on where they lie in it. -/
def Folder.mapContents (change : Location → Content → Content) : Folder → Folder
  | .empty => .empty
  | .add name entry rest =>
      .add name (entry.mapContents fun location => change (name :: location))
        (rest.mapContents change)

end

/-- What a file holds after a change at one location. -/
def Content.replaceAt (change : Location → Content → Content) (location : Location)
    (new : Content) (place : Location) (content : Content) : Content :=
  if place = location then new else change place content

namespace Folder

variable {change : Location → Content → Content}

theorem mapContents_congr {first second : Location → Content → Content} {folder : Folder}
    (hsame : ∀ item ∈ folder.entries, ∀ location,
      first (item.1 :: location) = second (item.1 :: location)) :
    folder.mapContents first = folder.mapContents second := by
  induction folder using Folder.induct with
  | empty => rfl
  | add name entry rest ih =>
      rw [entries_add, List.forall_mem_cons] at hsame
      rw [mapContents, mapContents, funext hsame.1, ih hsame.2]

/-- Nothing changes if every file keeps what it holds. -/
theorem mapContents_id (folder : Folder) :
    folder.mapContents (fun _ content => content) = folder := by
  have hentry : ∀ entry : Entry, entry.mapContents (fun _ content => content) = entry := by
    intro entry
    induction entry using Entry.induct with
    | file content => rfl
    | link target => rfl
    | directory folder ih =>
        rw [Entry.mapContents]
        congr 1
        induction folder using Folder.induct with
        | empty => rfl
        | add name entry rest inner =>
            rw [entries_add, List.forall_mem_cons] at ih
            rw [mapContents, ih.1, inner ih.2]
  exact Entry.directory.inj (hentry (.directory folder))

theorem find?_mapContents (folder : Folder) (name : String) :
    (folder.mapContents change).find? name =
      (folder.find? name).map (·.mapContents fun location => change (name :: location)) := by
  induction folder using Folder.induct with
  | empty => rfl
  | add other entry rest ih =>
      rw [mapContents, find?, find?, ih]
      by_cases hname : other = name
      · rw [if_pos hname, if_pos hname, hname]
        rfl
      · rw [if_neg hname, if_neg hname]

theorem entryAt?_mapContents (folder : Folder) (location : Location) :
    (folder.mapContents change).entryAt? location =
      (folder.entryAt? location).map (·.mapContents fun inner => change (location ++ inner)) := by
  induction location generalizing folder change with
  | nil => rw [entryAt?_nil, entryAt?_nil]; rfl
  | cons name location ih =>
      rw [entryAt?_cons, entryAt?_cons, find?_mapContents]
      cases folder.find? name with
      | none => rfl
      | some entry =>
          cases entry with
          | directory inner =>
              simp only [Option.map_some, Option.bind_some, Entry.mapContents,
                Entry.along?_directory, ih]
              rfl
          | file content => cases location <;> rfl
          | link target => cases location <;> rfl

/-- To put a changed entry in the place of the one with its name is to change what lies in it. -/
theorem put_mapContents {folder : Folder} (hnamed : folder.isWellNamed = true) {name : String}
    {entry : Entry} (hfind : folder.find? name = some entry)
    {first second : Location → Content → Content}
    (hothers : ∀ other, other ≠ name → ∀ location,
      first (other :: location) = second (other :: location)) :
    (folder.mapContents first).put name
        (entry.mapContents fun location => second (name :: location)) =
      folder.mapContents second := by
  induction folder using Folder.induct with
  | empty => cases hfind
  | add other old rest ih =>
      rw [isWellNamed, Bool.and_eq_true, Bool.and_eq_true, Bool.and_eq_true] at hnamed
      obtain ⟨⟨⟨-, hfresh⟩, -⟩, hrest⟩ := hnamed
      rw [find?] at hfind
      rw [mapContents, mapContents, put]
      by_cases hname : other = name
      · rw [if_pos hname] at hfind ⊢
        cases hfind
        subst hname
        have hsame : rest.mapContents first = rest.mapContents second := by
          apply mapContents_congr
          intro item hitem
          apply hothers
          rintro hequal
          have hmem : other ∈ rest.names := by
            rw [names_eq_map_entries, ← hequal]
            exact List.mem_map_of_mem hitem
          simp [hmem] at hfresh
        rw [hsame]
      · rw [if_neg hname] at hfind ⊢
        rw [ih hrest hfind, funext (hothers other hname)]

theorem modifyAt_mapContents {folder : Folder} (hnamed : folder.isWellNamed = true)
    {place : Location} {name : String} {content : Content}
    (hentry : folder.entryAt? (place ++ [name]) = some (.file content)) (new : Content) :
    (folder.mapContents change).modifyAt (put name (.file new)) place =
      folder.mapContents (Content.replaceAt change (place ++ [name]) new) := by
  have hothers : ∀ {change : Location → Content → Content} {outer : String} {rest : Location} other,
      other ≠ outer → ∀ location, change (other :: location) =
        Content.replaceAt change (outer :: rest) new (other :: location) := by
    intro change outer rest other hother location
    funext held
    simp [Content.replaceAt, hother]
  induction place generalizing folder change with
  | nil =>
      rw [List.nil_append, entryAt?_singleton] at hentry
      rw [List.nil_append, modifyAt, ← put_mapContents hnamed hentry hothers, Entry.mapContents,
        Content.replaceAt, if_pos rfl]
  | cons outer place ih =>
      rw [List.cons_append, entryAt?_cons] at hentry
      obtain ⟨entry, hfind, halong⟩ := Option.bind_eq_some_iff.mp hentry
      cases entry with
      | directory inner =>
          rw [Entry.along?_directory] at halong
          have hinner := (of_mem_entries hnamed (mem_entries_of_find? hfind)).2.1
          have hreplace : (fun location => Content.replaceAt change (outer :: (place ++ [name])) new
              (outer :: location)) = Content.replaceAt (fun location => change (outer :: location))
                (place ++ [name]) new := by
            funext location held
            simp [Content.replaceAt]
          rw [List.cons_append, ← put_mapContents hnamed hfind hothers, hreplace, Entry.mapContents,
            ← ih hinner halong, modifyAt, find?_mapContents, hfind]
          rfl
      | file found => cases place <;> cases halong
      | link target => cases place <;> cases halong

/-- To put a file in the place of a file is to change what that holds. -/
theorem putAt_mapContents {folder : Folder} (hnamed : folder.isWellNamed = true)
    {location : Location} {content : Content}
    (hentry : folder.entryAt? location = some (.file content)) (new : Content) :
    (folder.mapContents change).putAt location (.file new) =
      folder.mapContents (Content.replaceAt change location new) := by
  rcases List.eq_nil_or_concat location with rfl | ⟨place, name, rfl⟩
  · rw [entryAt?_nil] at hentry
    cases hentry
  · rw [List.concat_eq_append] at hentry ⊢
    rw [putAt, List.getLast?_concat, List.dropLast_concat]
    exact modifyAt_mapContents hnamed hentry new

end Folder

namespace Files

variable {top : Folder} {change : Location → Content → Content}

/-- Files that hold something else, and nothing else is different. -/
def mapContents (files : Files) (change : Location → Content → Content) : Files :=
  { files with top := files.top.mapContents change }

theorem mapContents_id (files : Files) : files.mapContents (fun _ content => content) = files := by
  rw [mapContents, Folder.mapContents_id]

theorem walk_mapContents {ending : Ending}
    {follow : Location → Path → List String → Except FileError Location} (location : Location)
    (steps : List String) :
    walk (top.mapContents change) ending follow location steps =
      walk top ending follow location steps := by
  induction steps generalizing location with
  | nil => rfl
  | cons name steps ih =>
      simp only [walk, ih, Folder.entryAt?_mapContents]
      cases top.entryAt? (location ++ [name]) with
      | none => rfl
      | some entry => cases entry <;> rfl

theorem resolve_mapContents {ending : Ending} {links : Nat} :
    resolve (top.mapContents change) ending links = resolve top ending links := by
  induction links with
  | zero => rfl
  | succ links ih =>
      funext location steps
      rw [resolve, resolve, walk_mapContents, ih]

/-- A path leads to the same place, whatever the files hold. -/
theorem locate_mapContents (files : Files) (path : Path) (ending : Ending) :
    (files.mapContents change).locate path ending = files.locate path ending := by
  rw [locate, locate, mapContents, resolve_mapContents]

/-- To write a text to a file is to change what that holds. -/
theorem writeText_mapContents {files : Files} (hnamed : files.top.isWellNamed = true) {path : Path}
    {location : Location} {content : Content} (hplace : files.locate path {} = .ok location)
    (hentry : files.top.entryAt? location = some (.file content)) (text : Text) :
    (files.mapContents change).writeText path text =
      .ok (files.mapContents (Content.replaceAt change location (.text text))) := by
  have hfree : files.locate path { mayBeFree := true } = .ok location := by
    refine locate_ending rfl (fun _ => rfl) hplace ?_
    intro target hlink
    rw [hentry] at hlink
    cases hlink
  have hfound : (files.mapContents change).top.entryAt? location =
      some (.file (change location content)) := by
    rw [mapContents, Folder.entryAt?_mapContents, hentry]
    simp [Entry.mapContents]
  simp only [writeText, locate_mapContents, hfree, bind, Except.bind, hfound]
  rw [mapContents, mapContents, Folder.putAt_mapContents hnamed hentry]

end Files

end Untranslated
