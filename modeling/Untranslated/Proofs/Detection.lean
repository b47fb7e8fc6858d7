import Untranslated.Proofs.Exchange

/-!
# Detection on outlines

The rule looks at a flat tree, where a node knows its parent by number and a call
its arguments.  On the tree of a module that comes to the same as walking through
the outline with the standing of each node in hand.
-/

namespace Untranslated

namespace Outline

theorem bounds_of_mem_ids {outline : Outline} {next id : Nat}
    (hid : id ∈ outline.ids next) : next ≤ id ∧ id < next + outline.count := by
  induction outline generalizing next with
  | nil => cases hid
  | node kind range raw held arguments rest _ _ ih =>
      rw [ids, List.mem_cons] at hid
      rw [count]
      rcases hid with rfl | hid
      · omega
      · have := ih hid
        omega

theorem nodup_ids (outline : Outline) (next : Nat) : (outline.ids next).Nodup := by
  induction outline generalizing next with
  | nil => exact List.nodup_nil
  | node kind range raw held arguments rest _ _ ih =>
      rw [ids, List.nodup_cons]
      refine ⟨fun hmem => ?_, ih _⟩
      have := bounds_of_mem_ids hmem
      omega

/-- The numbers of a node, of what it holds and of its brothers. -/
theorem range'_count_node (kind : NodeKind) (range : Range) (raw : Text)
    (held arguments rest : Outline) (next : Nat) :
    List.range' next (node kind range raw held arguments rest).count =
      next :: (List.range' (next + 1) held.count ++
        (List.range' (next + 1 + held.count) arguments.count ++
          List.range' (next + 1 + held.count + arguments.count) rest.count)) := by
  rw [List.range'_append_1, List.range'_append_1, ← List.range'_succ, count]
  congr 1
  omega

end Outline

namespace Tree

/-- The tree has the nodes of an outline below `parent`, numbered from `next`. -/
def Holds (tree : Tree) (parent next : Nat) (outline : Outline) : Prop :=
  ∀ offset node, (outline.nodes parent next)[offset]? = some node →
    tree.node? (next + offset) = some node

variable {tree : Tree} {parent next : Nat}

section Holds

variable {kind : NodeKind} {range : Range} {raw : Text}
  {held arguments rest : Outline}
  (hholds : tree.Holds parent next (.node kind range raw held arguments rest))

include hholds

theorem Holds.own : tree.node? next = some
    ⟨Outline.withArguments kind (arguments.ids (next + 1 + held.count)), parent,
      range⟩ :=
  hholds 0 _ rfl

theorem Holds.ofHeld : tree.Holds next (next + 1) held := by
  intro offset node hnode
  have hoffset : offset < held.count := by
    rw [← Outline.length_nodes held next (next + 1)]
    exact (List.getElem?_eq_some_iff.mp hnode).1
  have hfound := hholds (offset + 1) node (by
    rw [Outline.nodes, List.getElem?_cons_succ, List.append_assoc,
      List.getElem?_append_left (by simpa using hoffset), hnode])
  rwa [show next + 1 + offset = next + (offset + 1) by omega]

theorem Holds.ofArguments :
    tree.Holds next (next + 1 + Outline.count held) arguments := by
  intro offset node hnode
  have hoffset : offset < Outline.count arguments := by
    rw [← Outline.length_nodes arguments next (next + 1 + held.count)]
    exact (List.getElem?_eq_some_iff.mp hnode).1
  have hfound := hholds (held.count + offset + 1) node (by
    rw [Outline.nodes, List.getElem?_cons_succ, List.append_assoc,
      List.getElem?_append_right (by simp), Outline.length_nodes,
      Nat.add_sub_cancel_left, List.getElem?_append_left (by simpa using hoffset),
      hnode])
  rwa [show next + 1 + held.count + offset = next + (held.count + offset + 1) by omega]

theorem Holds.ofRest :
    tree.Holds parent (next + 1 + Outline.count held + Outline.count arguments)
      rest := by
  intro offset node hnode
  have hfound := hholds (held.count + arguments.count + offset + 1) node (by
    rw [Outline.nodes, List.getElem?_cons_succ,
      List.getElem?_append_right (by simp), List.length_append, Outline.length_nodes,
      Outline.length_nodes, Nat.add_sub_cancel_left, hnode])
  rwa [show next + 1 + held.count + arguments.count + offset =
    next + (held.count + arguments.count + offset + 1) by omega]

end Holds

theorem Holds.parent?_of_mem_ids {outline : Outline}
    (hholds : tree.Holds parent next outline) {id : Nat}
    (hid : id ∈ outline.ids next) : tree.parent? id = some parent := by
  induction outline generalizing next with
  | nil => cases hid
  | node kind range raw held arguments rest _ _ ih =>
      rw [Outline.ids, List.mem_cons] at hid
      rcases hid with rfl | hid
      · rw [parent?, hholds.own]
        rfl
      · exact ih hholds.ofRest hid

/-- The imports among the outermost nodes of an outline. -/
theorem Holds.filterMap_ids {outline : Outline}
    (hholds : tree.Holds parent next outline) :
    ((outline.ids next).filterMap fun id =>
      match tree.node? id with
      | some ⟨.imports declaration, _, range⟩ => some (range, declaration)
      | _ => none) = outline.imports := by
  induction outline generalizing next with
  | nil => rfl
  | node kind range raw held arguments rest _ _ ih =>
      have hrest := ih hholds.ofRest
      cases kind <;>
        simp [Outline.ids, Outline.imports, hholds.own, hrest, Outline.withArguments]

/-- How a node of the tree stands to the calls around it. -/
def standing (tree : Tree) (names : List String) (id : Nat) : Standing where
  wrapped := tree.isWrapped id names
  above := match tree.parent? id with
    | none => false
    | some parent => tree.isWrapped parent names
  second := tree.isSecondArgument id names
  inSecond := match tree.parent? id with
    | none => false
    | some object =>
        decide (tree.kind? object = some .object) &&
          tree.isSecondArgument object names
  inAttribute := tree.isAttributeValue id

section Standing

variable {kind : NodeKind} {arguments : List Nat} {above : Option Nat}
  {range : Range} {names : List String} {id : Nat}
  (hnode : tree.node? parent = some
    ⟨Outline.withArguments kind arguments, above, range⟩)
  (hparent : tree.parent? id = some parent)

include hparent in
/-- The standing of a node in terms of its parent. -/
theorem standing_eq : tree.standing names id =
    { wrapped := tree.isArgument id names ||
        (decide (tree.kind? parent = some (.property (some "context"))) &&
          (tree.standing names parent).inSecond)
      above := (tree.standing names parent).wrapped
      second := tree.isSecondArgument id names
      inSecond := decide (tree.kind? parent = some .object) &&
        (tree.standing names parent).second
      inAttribute := tree.isAttributeValue id } := by
  by_cases hcontext : tree.kind? parent = some (.property (some "context"))
  · cases habove : tree.parent? parent <;>
      simp [standing, isWrapped, isContext, hparent, hcontext, habove]
  · simp [standing, isWrapped, isContext, hparent, hcontext]

include hnode hparent

/-- A node that is no argument stands as what its parent is and how that stands
make it. -/
theorem standing_of_not_mem (hid : id ∉ arguments) :
    tree.standing names id = (tree.standing names parent).ofHeld kind := by
  have hkind : tree.kind? parent = some (Outline.withArguments kind arguments) := by
    rw [kind?, hnode, Option.map_some]
  have hsecond : arguments[1]? ≠ some id := fun hfound =>
    hid (List.mem_of_getElem? hfound)
  simp only [standing_eq hparent, isArgument, isSecondArgument, isAttributeValue,
    hparent, Option.bind_some, hkind]
  cases kind with
  | call callee _ =>
      cases callee <;> simp [Standing.ofHeld, Outline.withArguments, hid, hsecond]
  | _ => simp [Standing.ofHeld, Outline.withArguments]

theorem standing_of_getElem? {index : Nat} (hid : arguments[index]? = some id)
    (hnodup : arguments.Nodup) :
    tree.standing names id =
      (tree.standing names parent).ofArgument names kind index := by
  have hkind : tree.kind? parent = some (Outline.withArguments kind arguments) := by
    rw [kind?, hnode, Option.map_some]
  have hmem : id ∈ arguments := List.mem_of_getElem? hid
  have hsecond : (arguments[1]? == some id) = (index == 1) := by
    rw [Bool.eq_iff_iff, beq_iff_eq, beq_iff_eq]
    constructor
    · intro hfound
      have hindex : index < arguments.length := (List.getElem?_eq_some_iff.mp hid).1
      exact (List.getElem?_inj hindex hnodup).mp (hid.trans hfound.symm)
    · rintro rfl
      exact hid
  simp only [standing_eq hparent, isArgument, isSecondArgument, isAttributeValue,
    hparent, Option.bind_some, hkind]
  cases kind with
  | call callee _ =>
      cases callee <;>
        simp [Standing.ofHeld, Standing.ofArgument, Outline.withArguments, hmem,
          hsecond]
  | _ => simp [Standing.ofHeld, Standing.ofArgument, Outline.withArguments]

end Standing

/-- A literal of the tree as a site. -/
def site (tree : Tree) (names : List String) (literal : Literal) : Site where
  placement := literal.placement
  range := ((tree.node? literal.node).map (·.range)).getD (.at' 0)
  raw := literal.raw
  wrapped := tree.isWrapped literal.anchor names

/-- A node is the literal that its kind, its text and its standing make it. -/
theorem map_site_literal? {kind : NodeKind} {arguments : List Nat} {range : Range}
    {raw : Text} {names : List String} {id : Nat}
    (hnode : tree.node? id = some
      ⟨Outline.withArguments kind arguments, some parent, range⟩)
    (hraw : Outline.rawAgrees tree.text kind range raw) :
    (tree.literal? id).map (tree.site names) =
      Outline.site? kind range raw (tree.standing names id) := by
  have hparent : tree.parent? id = some parent := by
    rw [parent?, hnode]
    rfl
  have habove : (tree.standing names id).above = tree.isWrapped parent names := by
    rw [standing_eq hparent]
    rfl
  rw [literal?, hnode]
  cases kind with
  | string value =>
      simp only [Outline.withArguments, Option.map_some, site, hnode, textOf,
        Outline.site?, Option.getD_some]
      rw [show raw = _ from hraw]
      rfl
  | markupText value =>
      simp only [Outline.withArguments, Option.map_some, site, hnode, textOf,
        Outline.site?, Option.getD_some]
      rw [show raw = _ from hraw]
      rfl
  | segment raw =>
      simp only [Outline.withArguments, Option.map_some, site, hnode,
        Outline.site?, Option.getD_some, habove]
  | _ => rfl

theorem sites_of_holds {names : List String} {outline : Outline}
    (hproper : outline.Proper tree.text) (hholds : tree.Holds parent next outline)
    {standing : Nat → Standing} {index : Nat}
    (hstanding : ∀ offset id, (outline.ids next)[offset]? = some id →
      tree.standing names id = standing (index + offset)) :
    ((List.range' next outline.count).filterMap tree.literal?).map
        (tree.site names) = outline.sites names standing index := by
  induction outline generalizing parent next standing index with
  | nil => rfl
  | node kind range raw held arguments rest ihHeld ihArguments ihRest =>
      obtain ⟨hraw, -, hproperHeld, hproperArguments, hproperRest⟩ := hproper
      have hown : tree.standing names next = standing index := hstanding 0 next rfl
      have hfirst : ((tree.literal? next).map (tree.site names)).toList =
          (Outline.site? kind range raw (standing index)).toList := by
        rw [map_site_literal? hholds.own hraw, hown]
      have hheld : ((List.range' (next + 1) held.count).filterMap
          tree.literal?).map (tree.site names) =
          held.sites names (fun _ => (standing index).ofHeld kind) 0 := by
        apply ihHeld hproperHeld hholds.ofHeld
        intro offset id hid
        have hmem := List.mem_of_getElem? hid
        rw [← hown]
        apply standing_of_not_mem hholds.own (hholds.ofHeld.parent?_of_mem_ids hmem)
        intro hargument
        have hheld := Outline.bounds_of_mem_ids hmem
        have harguments := Outline.bounds_of_mem_ids hargument
        omega
      have harguments : ((List.range' (next + 1 + held.count)
          arguments.count).filterMap tree.literal?).map (tree.site names) =
          arguments.sites names ((standing index).ofArgument names kind) 0 := by
        apply ihArguments hproperArguments hholds.ofArguments
        intro offset id hid
        rw [← hown, Nat.zero_add]
        exact standing_of_getElem? hholds.own
          (hholds.ofArguments.parent?_of_mem_ids (List.mem_of_getElem? hid)) hid
          (Outline.nodup_ids _ _)
      have hrest : ((List.range' (next + 1 + held.count + arguments.count)
          rest.count).filterMap tree.literal?).map (tree.site names) =
          rest.sites names standing (index + 1) := by
        apply ihRest hproperRest hholds.ofRest
        intro offset id hid
        rw [Nat.add_assoc, Nat.add_comm 1]
        exact hstanding (offset + 1) id hid
      rw [Outline.range'_count_node, Outline.sites, ← hfirst, ← hheld, ← harguments, ← hrest]
      cases hliteral : tree.literal? next with
      | none =>
          simp only [List.filterMap_cons, hliteral, List.filterMap_append,
            List.map_append, Option.map_none, Option.toList_none, List.nil_append]
      | some literal =>
          simp only [List.filterMap_cons, hliteral, List.filterMap_append,
            List.map_append, List.map_cons, Option.map_some, Option.toList_some,
            List.singleton_append]

section OfModule

variable (text : Text) (program : Syntax.Module)

theorem text_ofModule : (ofModule text program).text = text := by
  rw [ofModule_eq_grow]
  rfl

theorem node?_zero_ofModule : (ofModule text program).node? 0 =
    some ⟨.program, none, ⟨0, Text.byteSize text⟩⟩ := by
  simp [ofModule_eq_grow, grow, ofText, node?]

/-- What the tree of a module has below its root. -/
theorem holds_ofModule : (ofModule text program).Holds 0 1 (program.outline text) := by
  intro offset node hnode
  rw [ofModule_eq_grow, Nat.add_comm]
  simpa [grow, ofText, node?] using hnode

theorem size_ofModule :
    (ofModule text program).nodes.size = 1 + (program.outline text).count := by
  rw [ofModule_eq_grow, size_grow]
  rfl

/-- Outermost nodes are not passed to anything. -/
theorem standing_ofModule (names : List String) {id : Nat}
    (hid : id ∈ (program.outline text).ids 1) :
    (ofModule text program).standing names id = {} := by
  have hroot : (ofModule text program).parent? 0 = none := by
    rw [parent?, node?_zero_ofModule]
    rfl
  have hkind : (ofModule text program).kind? 0 = some .program := by
    rw [kind?, node?_zero_ofModule]
    rfl
  have hparent := (holds_ofModule text program).parent?_of_mem_ids hid
  simp [standing, isWrapped, isArgument, isContext, isSecondArgument,
    isAttributeValue, hparent, hroot, hkind]

/-- The literals of a module's tree are those of its outline. -/
theorem map_site_literals_ofModule (names : List String) :
    (ofModule text program).literals.map ((ofModule text program).site names) =
      (program.outline text).sites names (fun _ => {}) 0 := by
  have hroot : (ofModule text program).literal? 0 = none := by
    rw [literal?, node?_zero_ofModule]
  have hproper : (program.outline text).Proper (ofModule text program).text := by
    rw [ofModule_eq_grow]
    exact program.proper_outline text
  rw [literals, size_ofModule, List.range_eq_range', Nat.add_comm,
    List.range'_succ, List.filterMap_cons_none hroot]
  apply sites_of_holds hproper (holds_ofModule text program)
  intro offset id hid
  exact standing_ofModule text program names (List.mem_of_getElem? hid)

theorem toList_body_ofModule :
    (ofModule text program).body.toList = (program.outline text).ids 1 := by
  simp [ofModule_eq_grow, grow, ofText]

theorem imports_ofModule :
    (ofModule text program).imports = (program.outline text).imports := by
  rw [imports, toList_body_ofModule]
  exact (holds_ofModule text program).filterMap_ids

theorem wrapperNames_ofModule (options : RuleOptions) :
    (ofModule text program).wrapperNames options.modulePattern =
      (program.outline text).names options := by
  rw [Outline.names, ← imports_ofModule]
  rfl

end OfModule

/-- What the parser makes of a text that it can read. -/
def readOf (path : String) (text : Text) : Syntax.Module :=
  (Syntax.parse (.ofPath path) text).toOption.getD ⟨[]⟩

theorem parse_eq_readOf {path : String} {text : Text}
    (hread : (Syntax.parse (.ofPath path) text).toOption.isSome = true) :
    Syntax.parse (.ofPath path) text = .ok (readOf path text) := by
  unfold readOf
  cases hparse : Syntax.parse (.ofPath path) text with
  | ok program => rfl
  | error error =>
      rw [hparse] at hread
      cases hread

end Tree

end Untranslated
