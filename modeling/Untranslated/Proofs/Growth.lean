import Untranslated.Proofs.Outline

/-!
# How trees come about

A tree starts as its root and only ever grows: a new node goes to the end, and a
call may be told its arguments.  So a tree never forgets a node or moves one, its
first node stays the root, and the nodes listed in its body are the children of
the root.  Trees of modules grow in a tidier way, each node below one that is
already there.
-/

namespace Untranslated.Tree

variable {tree : Tree}

/-- The trees that can be built.  Nothing is asked of a parent: it may be a node
that is yet to come, or that never comes. -/
inductive Built : Tree → Prop
  | ofText (text : Text) : Built (ofText text)
  | push {tree : Tree} (kind : NodeKind) (parent : Nat) (range : Range) :
      Built tree → Built (tree.push kind parent range).1
  | setArguments {tree : Tree} (id : Nat) (arguments : List Nat) :
      Built tree → Built (tree.setArguments id arguments)

/-- The trees that can be built by adding each node below one that is already
there. -/
inductive Grown : Tree → Prop
  | ofText (text : Text) : Grown (ofText text)
  | push {tree : Tree} (kind : NodeKind) {parent : Nat} (range : Range)
      (hparent : parent < tree.nodes.size) :
      Grown tree → Grown (tree.push kind parent range).1
  | setArguments {tree : Tree} (id : Nat) (arguments : List Nat) :
      Grown tree → Grown (tree.setArguments id arguments)

theorem Grown.built (htree : tree.Grown) : tree.Built := by
  induction htree with
  | ofText text => exact .ofText text
  | push kind range _ _ ih => exact ih.push kind _ range
  | setArguments id arguments _ ih => exact ih.setArguments id arguments

section Steps

variable (tree : Tree) (kind : NodeKind) (parent : Nat) (range : Range)
  (arguments : List Nat) (id other : Nat)

theorem node?_ofText (text : Text) : (ofText text).node? id =
    if id = 0 then some ⟨.program, none, ⟨0, Text.byteSize text⟩⟩ else none := by
  cases id with
  | zero => rfl
  | succ id => rfl

theorem node?_push : (tree.push kind parent range).1.node? id =
    if id = tree.nodes.size then some ⟨kind, parent, range⟩ else tree.node? id := by
  exact Array.getElem?_push

/-- Telling a call its arguments changes nothing else. -/
theorem node?_setArguments : (tree.setArguments id arguments).node? other =
    (tree.node? other).map fun node =>
      if id = other then ⟨Outline.withArguments node.kind arguments, node.parent, node.range⟩
      else node := by
  simp only [node?, setArguments, Array.getElem?_modify]
  split
  · apply congrArg (tree.nodes[other]?.map ·)
    funext node
    obtain ⟨kind, parent, range⟩ := node
    cases kind <;> rfl
  · simp

@[simp] theorem size_setArguments :
    (tree.setArguments id arguments).nodes.size = tree.nodes.size := by
  simp [setArguments]

theorem parent?_push : (tree.push kind parent range).1.parent? id =
    if id = tree.nodes.size then some parent else tree.parent? id := by
  rw [parent?, node?_push]
  split
  · rfl
  · rfl

@[simp] theorem parent?_setArguments :
    (tree.setArguments id arguments).parent? other = tree.parent? other := by
  rw [parent?, node?_setArguments, parent?]
  cases tree.node? other with
  | none => rfl
  | some node =>
      by_cases hid : id = other
      · simp [hid]
      · simp [hid]

end Steps

theorem parent?_eq_none {id : Nat} (hid : tree.nodes.size ≤ id) : tree.parent? id = none := by
  simp [parent?, node?, hid]

/-- What every tree keeps while it grows. -/
structure Rooted (tree : Tree) : Prop where
  /-- The first node is the root. -/
  root : ∃ range, tree.node? 0 = some ⟨.program, none, range⟩
  /-- Every other node has a parent. -/
  parents : ∀ id, 0 < id → id < tree.nodes.size → ∃ parent, tree.parent? id = some parent
  /-- The body lists the children of the root. -/
  body : ∀ id, id ∈ tree.body.toList ↔ tree.parent? id = some 0

namespace Rooted

theorem size_pos (htree : tree.Rooted) : 0 < tree.nodes.size := by
  obtain ⟨range, hroot⟩ := htree.root
  exact (Array.getElem?_eq_some_iff.mp hroot).1

theorem ofText (text : Text) : (ofText text).Rooted where
  root := ⟨_, rfl⟩
  parents := by
    intro id hid hsize
    simp only [Tree.ofText, List.size_toArray, List.length_singleton] at hsize
    omega
  body := by
    intro id
    rw [parent?, node?_ofText]
    by_cases hid : id = 0 <;> simp [Tree.ofText, hid]

theorem push (htree : tree.Rooted) (kind : NodeKind) (parent : Nat) (range : Range) :
    (tree.push kind parent range).1.Rooted where
  root := by
    have hsize := htree.size_pos
    rw [node?_push, if_neg (by omega)]
    exact htree.root
  parents := by
    intro id hid hsize
    rw [size_push] at hsize
    rw [parent?_push]
    by_cases hnew : id = tree.nodes.size
    · exact ⟨parent, if_pos hnew⟩
    · rw [if_neg hnew]
      exact htree.parents id hid (by omega)
  body := by
    intro id
    have hbody := htree.body id
    have hnone : tree.parent? tree.nodes.size = none := parent?_eq_none (Nat.le_refl _)
    rw [parent?_push]
    by_cases hnew : id = tree.nodes.size
    · rw [hnew, hnone] at hbody
      by_cases hroot : parent = 0
      · simp [Tree.push, hroot, hnew]
      · simpa [Tree.push, hroot, hnew] using hbody
    · by_cases hroot : parent = 0
      · simpa [Tree.push, hroot, hnew] using hbody
      · simpa [Tree.push, hroot, hnew] using hbody

theorem setArguments (htree : tree.Rooted) (id : Nat) (arguments : List Nat) :
    (tree.setArguments id arguments).Rooted where
  root := by
    obtain ⟨range, hroot⟩ := htree.root
    refine ⟨range, ?_⟩
    rw [node?_setArguments, hroot, Option.map_some]
    split <;> rfl
  parents := by
    intro other hother hsize
    rw [size_setArguments] at hsize
    rw [parent?_setArguments]
    exact htree.parents other hother hsize
  body := by
    intro other
    rw [parent?_setArguments]
    exact htree.body other

end Rooted

theorem Built.rooted (htree : tree.Built) : tree.Rooted := by
  induction htree with
  | ofText text => exact .ofText text
  | push kind parent range _ ih => exact ih.push kind parent range
  | setArguments id arguments _ ih => exact ih.setArguments id arguments

namespace Grown

/-- In a tree that has grown, a node comes after its parent. -/
theorem parent_lt (htree : tree.Grown) {id parent : Nat}
    (hparent : tree.parent? id = some parent) : parent < id := by
  induction htree generalizing id parent with
  | ofText text =>
      rw [parent?, node?_ofText] at hparent
      split at hparent
      · cases hparent
      · cases hparent
  | push kind range hbelow _ ih =>
      rw [parent?_push] at hparent
      split at hparent
      · rename_i hid
        cases hparent
        omega
      · exact ih hparent
  | setArguments target arguments _ ih =>
      rw [parent?_setArguments] at hparent
      exact ih hparent

/-- A tree that has grown beyond its root has something right below it: its second
node can be nowhere else. -/
theorem body_ne_nil (htree : tree.Grown) (hsize : 1 < tree.nodes.size) :
    tree.body.toList ≠ [] := by
  have hrooted := htree.built.rooted
  obtain ⟨parent, hparent⟩ := hrooted.parents 1 (by omega) hsize
  have hroot : parent = 0 := by
    have hlt := htree.parent_lt hparent
    omega
  rw [hroot] at hparent
  exact List.ne_nil_of_mem ((hrooted.body 1).mpr hparent)

/-- Adding the nodes of an outline is adding nodes below ones that are there. -/
theorem grow (htree : tree.Grown) (outline : Outline) {parent : Nat}
    (hparent : parent < tree.nodes.size) : (tree.grow parent outline).Grown := by
  induction outline generalizing tree parent with
  | nil => rwa [grow_nil]
  | node kind range raw held arguments rest ihHeld ihArguments ihRest =>
      have hnode : Outline.node kind range raw held arguments rest =
          .node kind range raw held arguments .nil ++ rest := by
        rw [Outline.node_append, Outline.nil_append]
      have hown : (tree.grow parent (.node kind range raw held arguments .nil)).Grown := by
        rw [grow_node _ _ _ _ _ _ _ (by omega), grow_append]
        apply ihArguments
        · apply ihHeld
          · exact htree.push _ range hparent
          · simp
        · simp only [size_grow, size_push]
          omega
      rw [hnode, grow_append]
      exact ihRest hown (by rw [size_grow]; omega)

end Grown

/-- The tree of a module has grown. -/
theorem grown_ofModule (text : Text) (program : Syntax.Module) :
    (ofModule text program).Grown := by
  rw [ofModule_eq_grow]
  exact (Grown.ofText text).grow _ (by simp [ofText])

/-- Whatever file is read, its tree has grown. -/
theorem grown_parse (path : String) (text : Text) :
    ((parse path text).toOption.getD (ofText [])).Grown := by
  unfold parse
  cases Syntax.parse (Syntax.Dialect.ofPath path) text with
  | ok program => exact grown_ofModule text program
  | error error => exact .ofText []

end Untranslated.Tree
