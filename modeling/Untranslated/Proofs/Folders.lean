import Untranslated.Files.Folder

/-!
# What folders hold

A folder seen as the list of its entries, the induction over everything in an
entry, and the names that lead from an entry to what lies in it.
-/

namespace Untranslated

/-- The entries of a folder with their names. -/
def Folder.entries : Folder → List (String × Entry)
  | .empty => []
  | .add name entry rest => (name, entry) :: rest.entries

@[simp]
theorem Folder.entries_empty : Folder.empty.entries = [] := rfl

@[simp]
theorem Folder.entries_add (name : String) (entry : Entry) (rest : Folder) :
    (Folder.add name entry rest).entries = (name, entry) :: rest.entries := rfl

/-- What holds of the empty folder, and of a folder with one more entry if it holds without it,
holds of every folder. -/
theorem Folder.induct {motive : Folder → Prop} (empty : motive .empty)
    (add : ∀ name entry rest, motive rest → motive (.add name entry rest)) (folder : Folder) :
    motive folder :=
  @Folder.rec (fun _ => True) motive (fun _ => trivial) (fun _ _ => trivial) (fun _ => trivial)
    empty (fun name entry rest _ hrest => add name entry rest hrest) folder

/-- What holds of files and links, and of a folder if it holds of all that is in it, holds of every
entry. -/
theorem Entry.induct {motive : Entry → Prop} (file : ∀ content, motive (.file content))
    (link : ∀ target, motive (.link target))
    (directory : ∀ folder, (∀ item ∈ folder.entries, motive item.2) → motive (.directory folder))
    (entry : Entry) : motive entry :=
  @Entry.rec motive (fun folder => ∀ item ∈ folder.entries, motive item.2) file directory link
    (List.forall_mem_nil _)
    (fun _ _ _ hentry hrest => List.forall_mem_cons.mpr ⟨hentry, hrest⟩) entry

/-- Names lead from an entry to one that lies in it, through folders and through no link. -/
inductive Entry.Reaches : Entry → List String → Entry → Prop where
  | here (entry : Entry) : Reaches entry [] entry
  | inside {folder : Folder} {name : String} {entry target : Entry} {names : List String}
      (hentry : (name, entry) ∈ folder.entries) (hreaches : Reaches entry names target) :
      Reaches (.directory folder) (name :: names) target

theorem Folder.mem_entries_of_find? {folder : Folder} {name : String} {entry : Entry}
    (hfind : folder.find? name = some entry) : (name, entry) ∈ folder.entries := by
  induction folder using Folder.induct with
  | empty => cases hfind
  | add other found rest ih =>
      rw [Folder.find?] at hfind
      split at hfind
      · next hname =>
          cases hfind
          rw [hname]
          exact List.mem_cons_self
      · exact List.mem_cons_of_mem _ (ih hfind)

/-! ### Folders without links -/

mutual

/-- There is no link in an entry. -/
def Entry.isLinkFree : Entry → Bool
  | .file _ => true
  | .directory folder => folder.isLinkFree
  | .link _ => false

/-- There is no link anywhere below a folder. -/
def Folder.isLinkFree : Folder → Bool
  | .empty => true
  | .add _ entry rest => entry.isLinkFree && rest.isLinkFree

end

theorem Folder.isLinkFree_of_mem_entries {folder : Folder} (hfree : folder.isLinkFree = true)
    {item : String × Entry} (hitem : item ∈ folder.entries) : item.2.isLinkFree = true := by
  induction folder using Folder.induct with
  | empty => cases hitem
  | add name entry rest ih =>
      rw [Folder.isLinkFree, Bool.and_eq_true] at hfree
      rcases List.mem_cons.mp hitem with rfl | hitem
      · exact hfree.1
      · exact ih hfree.2 hitem

/-! ### Folders with proper names -/

/-- A name that a file can have. -/
def isFileName (name : String) : Bool :=
  name != "" && name != "." && name != ".." && !name.toList.contains '/'

mutual

/-- All names in an entry are ones that files can have, and different in every folder. -/
def Entry.isWellNamed : Entry → Bool
  | .file _ => true
  | .directory folder => folder.isWellNamed
  | .link _ => true

/-- All names below a folder are ones that files can have, and different in every folder. -/
def Folder.isWellNamed : Folder → Bool
  | .empty => true
  | .add name entry rest =>
      isFileName name && !rest.names.contains name && entry.isWellNamed && rest.isWellNamed

end

theorem Folder.names_eq_map_entries (folder : Folder) :
    folder.names = folder.entries.map (·.1) := by
  induction folder using Folder.induct with
  | empty => rfl
  | add name entry rest ih => rw [Folder.names, ih, Folder.entries_add, List.map_cons]

/-- What well-named folders guarantee of each of their entries. -/
theorem Folder.of_mem_entries {folder : Folder} (hnamed : folder.isWellNamed = true)
    {name : String} {entry : Entry} (hentry : (name, entry) ∈ folder.entries) :
    isFileName name = true ∧ entry.isWellNamed = true ∧ folder.find? name = some entry := by
  induction folder using Folder.induct with
  | empty => cases hentry
  | add other found rest ih =>
      rw [Folder.isWellNamed, Bool.and_eq_true, Bool.and_eq_true, Bool.and_eq_true] at hnamed
      obtain ⟨⟨⟨hother, hfresh⟩, hfound⟩, hrest⟩ := hnamed
      rw [Folder.find?]
      rcases List.mem_cons.mp hentry with hitem | hitem
      · cases hitem
        exact ⟨hother, hfound, if_pos rfl⟩
      · have hmem : name ∈ rest.names := by
          rw [names_eq_map_entries]
          exact List.mem_map_of_mem hitem
        have hne : other ≠ name := by
          rintro rfl
          simp [hmem] at hfresh
        rw [if_neg hne]
        exact ih hrest hitem

theorem Entry.Reaches.isFileName {entry target : Entry} {names : List String}
    (hreaches : entry.Reaches names target) (hnamed : entry.isWellNamed = true) :
    ∀ name ∈ names, isFileName name = true := by
  induction hreaches with
  | here entry => exact List.forall_mem_nil _
  | inside hentry hreaches ih =>
      obtain ⟨hname, hentryNamed, -⟩ := Folder.of_mem_entries hnamed hentry
      exact List.forall_mem_cons.mpr ⟨hname, ih hentryNamed⟩

end Untranslated
