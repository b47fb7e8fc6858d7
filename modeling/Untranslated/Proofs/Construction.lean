import Untranslated.Proofs.Growth

/-!
# Trees built step by step

A tree is built by two kinds of step, in any order: a node is added below one that is
there, or a call is told its arguments.  What a tree knows twice stays in step all the
while: the body lists the nodes whose parent is the root, although each is entered on
its own.  Numbers are handed out in order and parents come first, so that going up from
parent to parent always ends at the root.
-/

namespace Untranslated.Tree

variable {tree : Tree}

/-- A step in the construction of a tree. -/
inductive Step where
  | push (kind : NodeKind) (parent : Nat) (range : Range)
  | setArguments (id : Nat) (arguments : List Nat)
  deriving DecidableEq

namespace Step

/-- The node that a step is about is in the tree. -/
def Fits (tree : Tree) : Step → Prop
  | push _ parent _ => parent < tree.nodes.size
  | setArguments id _ => id < tree.nodes.size

instance (tree : Tree) : (step : Step) → Decidable (step.Fits tree)
  | push _ parent _ => inferInstanceAs (Decidable (parent < _))
  | setArguments id _ => inferInstanceAs (Decidable (id < _))

/-- The tree after a step, and the number that the step hands out. -/
def perform (tree : Tree) : Step → Tree × Option Nat
  | push kind parent range =>
      let (tree, id) := tree.push kind parent range
      (tree, some id)
  | setArguments id arguments => (tree.setArguments id arguments, none)

/-- The parent that a step gives to a new node. -/
def parent? : Step → Option Nat
  | push _ parent _ => some parent
  | setArguments .. => none

end Step

/-- The tree after steps, and the numbers that they hand out in order. -/
def construct (tree : Tree) : List Step → Tree × List Nat
  | [] => (tree, [])
  | step :: steps =>
      let (next, id) := step.perform tree
      let (last, ids) := construct next steps
      (last, id.toList ++ ids)

/-- Each step fits the tree that it meets. -/
def Accepts (tree : Tree) : List Step → Prop
  | [] => True
  | step :: steps => step.Fits tree ∧ (step.perform tree).1.Accepts steps

instance decidableAccepts : (tree : Tree) → (steps : List Step) → Decidable (tree.Accepts steps)
  | _, [] => isTrue trivial
  | tree, step :: steps =>
      have := decidableAccepts (step.perform tree).1 steps
      inferInstanceAs (Decidable (_ ∧ _))

/-- The parents that steps give to the nodes that they add, in order. -/
def Step.parents (steps : List Step) : List Nat := steps.filterMap Step.parent?

/-- The node that is so many parents above another one. -/
def climb (tree : Tree) : Nat → Nat → Option Nat
  | 0, id => some id
  | count + 1, id => (tree.parent? id).bind (climb tree count)

theorem construct_cons (tree : Tree) (step : Step) (steps : List Step) :
    tree.construct (step :: steps) =
      (((step.perform tree).1.construct steps).1,
        (step.perform tree).2.toList ++ ((step.perform tree).1.construct steps).2) := rfl

theorem Step.parents_cons (step : Step) (steps : List Step) :
    parents (step :: steps) = step.parent?.toList ++ parents steps := by
  cases step <;> rfl

/-! ### One step -/

section One

variable (tree : Tree) (step : Step)

theorem size_perform :
    (step.perform tree).1.nodes.size = tree.nodes.size + step.parent?.toList.length := by
  cases step with
  | push kind parent range => exact size_push ..
  | setArguments id arguments => exact size_setArguments ..

/-- A step hands out the next number if it adds a node. -/
theorem id_perform : (step.perform tree).2.toList =
    List.range' tree.nodes.size step.parent?.toList.length := by
  cases step <;> rfl

/-- A step gives a new node its parent and every other node keeps its own. -/
theorem parent?_perform (id : Nat) : (step.perform tree).1.parent? id =
    if id < tree.nodes.size then tree.parent? id
    else step.parent?.toList[id - tree.nodes.size]? := by
  cases step with
  | push kind parent range =>
      refine (parent?_push tree kind parent range id).trans ?_
      rcases Nat.lt_trichotomy id tree.nodes.size with hold | rfl | hnone
      · rw [if_neg (Nat.ne_of_lt hold), if_pos hold]
      · rw [if_pos rfl, if_neg (Nat.lt_irrefl _), Nat.sub_self]
        rfl
      · rw [if_neg (Nat.ne_of_gt hnone), if_neg (Nat.lt_asymm hnone),
          parent?_eq_none (Nat.le_of_lt hnone)]
        exact (List.getElem?_eq_none (Nat.le_sub_of_add_le' hnone)).symm
  | setArguments target arguments =>
      refine (parent?_setArguments tree arguments target id).trans ?_
      split
      · rfl
      · next hid => exact parent?_eq_none (Nat.le_of_not_lt hid)

theorem text_perform : (step.perform tree).1.text = tree.text := by
  cases step <;> rfl

end One

theorem Grown.perform (htree : tree.Grown) {step : Step} (hfits : step.Fits tree) :
    (step.perform tree).1.Grown := by
  cases step with
  | push kind parent range => exact htree.push kind range hfits
  | setArguments id arguments => exact htree.setArguments id arguments

/-! ### All steps -/

section Run

variable (tree : Tree) (steps : List Step)

theorem size_construct :
    (tree.construct steps).1.nodes.size = tree.nodes.size + (Step.parents steps).length := by
  induction steps generalizing tree with
  | nil => rfl
  | cons step steps ih =>
      rw [construct_cons, ih, size_perform, Step.parents_cons, List.length_append, Nat.add_assoc]

/-- Steps hand out the numbers from the size of the tree on, one for each new node. -/
theorem ids_construct :
    (tree.construct steps).2 = List.range' tree.nodes.size (Step.parents steps).length := by
  induction steps generalizing tree with
  | nil => rfl
  | cons step steps ih =>
      rw [construct_cons, ih, size_perform, id_perform, Step.parents_cons, List.length_append,
        List.range'_append_1]

/-- Every node keeps its parent, and new nodes get theirs in order. -/
theorem parent?_construct (id : Nat) : (tree.construct steps).1.parent? id =
    if id < tree.nodes.size then tree.parent? id
    else (Step.parents steps)[id - tree.nodes.size]? := by
  induction steps generalizing tree with
  | nil =>
      split
      · rfl
      · next hid => exact parent?_eq_none (Nat.le_of_not_lt hid)
  | cons step steps ih =>
      rw [construct_cons, ih, size_perform, parent?_perform, Step.parents_cons]
      -- the node was there before, or this step adds it, or a later one
      by_cases hold : id < tree.nodes.size
      · rw [if_pos (by omega), if_pos hold, if_pos hold]
      · rw [if_neg hold, if_neg hold, List.getElem?_append, Nat.sub_add_eq]
        split
        · rw [if_pos (by omega)]
        · rw [if_neg (by omega)]

theorem text_construct : (tree.construct steps).1.text = tree.text := by
  induction steps generalizing tree with
  | nil => rfl
  | cons step steps ih => rw [construct_cons, ih, text_perform]

end Run

theorem Grown.construct (htree : tree.Grown) {steps : List Step} (hsteps : tree.Accepts steps) :
    (tree.construct steps).1.Grown := by
  induction steps generalizing tree with
  | nil => exact htree
  | cons step steps ih => exact ih (htree.perform hsteps.1) hsteps.2

/-! ### Trees that were built -/

theorem Built.root (htree : tree.Built) :
    tree.node? 0 = some ⟨.program, none, ⟨0, Text.byteSize tree.text⟩⟩ := by
  induction htree with
  | ofText text => rfl
  | push kind parent range htree ih =>
      have hsize := htree.rooted.size_pos
      rw [node?_push, if_neg (Nat.ne_of_lt hsize), ih]
      rfl
  | setArguments id arguments _ ih =>
      rw [node?_setArguments, ih, Option.map_some]
      split <;> rfl

/-- The body of a tree is what a search through all its nodes would give. -/
theorem Built.toList_body (htree : tree.Built) : tree.body.toList =
    (List.range tree.nodes.size).filter (fun id => tree.parent? id = some 0) := by
  induction htree with
  | ofText text => rfl
  | @push tree kind parent range _ ih =>
      -- the new number is the largest, so the body stays in order
      have hold : (List.range tree.nodes.size).filter
          (fun id => (tree.push kind parent range).1.parent? id = some 0) =
            tree.body.toList := by
        rw [ih]
        apply List.filter_congr
        intro id hid
        rw [parent?_push, if_neg (Nat.ne_of_lt (List.mem_range.mp hid))]
      have hnew : (tree.push kind parent range).1.parent? tree.nodes.size = some parent := by
        rw [parent?_push, if_pos rfl]
      rw [size_push, List.range_succ, List.filter_append, hold, List.filter_cons, hnew]
      by_cases hroot : parent = 0
      · simp [Tree.push, hroot]
      · simp [Tree.push, hroot]
  | setArguments id arguments _ ih =>
      simp only [size_setArguments, parent?_setArguments]
      exact ih

/-- Going up from parent to parent ends at the root. -/
theorem Grown.exists_climb (htree : tree.Grown) (id : Nat) (hid : id < tree.nodes.size) :
    ∃ count ≤ id, tree.climb count id = some 0 := by
  induction id using Nat.strongRecOn with
  | ind id ih =>
      by_cases hroot : id = 0
      · exact ⟨0, Nat.zero_le _, by rw [hroot, climb]⟩
      · obtain ⟨parent, hparent⟩ :=
          htree.built.rooted.parents id (Nat.pos_of_ne_zero hroot) hid
        have hlt := htree.parent_lt hparent
        obtain ⟨count, hcount, hclimb⟩ := ih parent hlt (by omega)
        refine ⟨count + 1, by omega, ?_⟩
        rw [climb, hparent, Option.bind_some, hclimb]

/-- The first node is the root, over the whole text.  Every other node has a parent with a
smaller number, so that going up ends at the root, and the body lists the children of the
root. -/
structure InStep (tree : Tree) : Prop where
  root : tree.node? 0 = some ⟨.program, none, ⟨0, Text.byteSize tree.text⟩⟩
  parents : ∀ id, 0 < id → id < tree.nodes.size →
    ∃ parent < id, tree.parent? id = some parent
  climbs : ∀ id < tree.nodes.size, ∃ count ≤ id, tree.climb count id = some 0
  body : tree.body.toList =
    (List.range tree.nodes.size).filter (fun id => tree.parent? id = some 0)

theorem Grown.inStep (htree : tree.Grown) : tree.InStep where
  root := htree.built.root
  parents := by
    intro id hid hsize
    obtain ⟨parent, hparent⟩ := htree.built.rooted.parents id hid hsize
    exact ⟨parent, htree.parent_lt hparent, hparent⟩
  climbs := htree.exists_climb
  body := htree.built.toList_body

/-- A tree is another one in which a call got its arguments.  If the node is no call, the two are
the same. -/
structure SetsArguments (tree : Tree) (id : Nat) (arguments : List Nat) (changed : Tree) :
    Prop where
  text : changed.text = tree.text
  body : changed.body = tree.body
  others : ∀ other, other ≠ id → changed.node? other = tree.node? other
  call : ∀ callee former parent range,
    tree.node? id = some ⟨.call callee former, parent, range⟩ →
      changed.node? id = some ⟨.call callee arguments, parent, range⟩
  noCall : (∀ callee former, tree.kind? id ≠ some (.call callee former)) → changed = tree

theorem withArguments_of_ne_call {kind : NodeKind} (arguments : List Nat)
    (hkind : ∀ callee former, kind ≠ .call callee former) :
    Outline.withArguments kind arguments = kind := by
  cases kind with
  | call callee former => exact absurd rfl (hkind callee former)
  | _ => rfl

theorem setsArguments_setArguments (tree : Tree) (id : Nat) (arguments : List Nat) :
    tree.SetsArguments id arguments (tree.setArguments id arguments) where
  text := rfl
  body := rfl
  others := by
    intro other hother
    rw [node?_setArguments]
    simp only [if_neg (Ne.symm hother)]
    exact Option.map_id_apply
  call := by
    intro callee former parent range hnode
    rw [node?_setArguments, hnode, Option.map_some, if_pos rfl]
    rfl
  noCall := by
    intro hkind
    have hnodes : (tree.setArguments id arguments).nodes = tree.nodes := by
      apply Array.ext_getElem?
      intro other
      refine (node?_setArguments tree arguments id other).trans ?_
      cases hnode : tree.node? other with
      | none => exact hnode.symm
      | some node =>
          by_cases hid : id = other
          · have hcall : ∀ callee former, node.kind ≠ .call callee former := by
              intro callee former hcall
              exact hkind callee former (by rw [kind?, hid, hnode, Option.map_some, hcall])
            simp only [Option.map_some, if_pos hid, withArguments_of_ne_call arguments hcall]
            exact hnode.symm
          · simp only [Option.map_some, if_neg hid]
            exact hnode.symm
    calc tree.setArguments id arguments
      _ = { tree with nodes := (tree.setArguments id arguments).nodes } := rfl
      _ = tree := by rw [hnodes]

/-- However a tree is built, nodes are numbered from 1 on and get the parents that they are given;
the tree stays in step with itself, and its body is not empty once it has a node below the root.
Telling a node its arguments changes nothing else, and nothing at all if it is no call. -/
theorem construct_inStep (text : Text) (steps : List Step)
    (hsteps : (ofText text).Accepts steps) :
    let tree := ((ofText text).construct steps).1
    let ids := ((ofText text).construct steps).2
    (ids = List.range' 1 (Step.parents steps).length ∧
        tree.nodes.size = (Step.parents steps).length + 1 ∧ tree.text = text ∧
        ∀ id, tree.parent? (id + 1) = (Step.parents steps)[id]?) ∧
      tree.InStep ∧ (ids ≠ [] → tree.body.toList ≠ []) ∧
      ∀ id arguments, tree.SetsArguments id arguments (tree.setArguments id arguments) := by
  intro tree ids
  have hgrown : tree.Grown := (Grown.ofText text).construct hsteps
  have hids : ids = List.range' 1 (Step.parents steps).length := ids_construct _ steps
  have hsize : tree.nodes.size = 1 + (Step.parents steps).length := size_construct _ steps
  refine ⟨⟨hids, hsize.trans (Nat.add_comm _ _), text_construct _ _, fun id => ?_⟩,
    hgrown.inStep, fun hpushed => hgrown.body_ne_nil ?_, setsArguments_setArguments _⟩
  · rw [parent?_construct]
    rfl
  · rw [hids, ne_eq, List.range'_eq_nil_iff] at hpushed
    omega

/-- The steps of a small tree: a call below a statement, which is told its argument last, and a
second statement.  One of the nodes that are told arguments is no call. -/
def callSteps : List Step :=
  [.push .other 0 ⟨0, 8⟩, .push (.call (some "f") []) 1 ⟨0, 7⟩,
    .push (.string ['x']) 2 ⟨2, 5⟩, .setArguments 1 [3], .push .other 0 ⟨9, 10⟩,
    .setArguments 2 [3]]

theorem callSteps_evaluated :
    (ofText "f('x');\n1".toList).Accepts callSteps ∧
      ((ofText "f('x');\n1".toList).construct callSteps).2 = [1, 2, 3, 4] ∧
      ((ofText "f('x');\n1".toList).construct callSteps).1.body.toList = [1, 4] ∧
      ((ofText "f('x');\n1".toList).construct callSteps).1.kind? 2 =
        some (.call (some "f") [3]) := by
  decide +kernel

theorem construct_inStep_callSteps :
    (ofText "f('x');\n1".toList).Accepts callSteps ∧
      (let tree := ((ofText "f('x');\n1".toList).construct callSteps).1
      tree.body.toList = [1, 4] ∧ tree.InStep ∧
        tree.SetsArguments 2 [] (tree.setArguments 2 [])) := by
  obtain ⟨hsteps, -, hbody, -⟩ := callSteps_evaluated
  obtain ⟨-, hinStep, -, harguments⟩ := construct_inStep _ callSteps hsteps
  exact ⟨hsteps, hbody, hinStep, harguments 2 []⟩

end Untranslated.Tree
