import Untranslated.Proofs.Outline
import Untranslated.Proofs.Splicing
import Untranslated.Proofs.Trimming
import Untranslated.Rule.Finding

/-!
# Exchanging literals for calls

What a fix is meant to do, said twice and without the machinery of findings.
In a text, the untranslated literals are exchanged for the text of a call; in an
outline, they are exchanged for the outline of a call.  A parser goes along with
this if reading the text after the exchange gives the outline after the exchange.
-/

namespace Untranslated

/-- How a node stands to the calls around it. -/
structure Standing where
  /-- It is passed to one of the functions. -/
  wrapped : Bool := false
  /-- What holds it is passed to one of the functions. -/
  above : Bool := false
  /-- It is the second argument of one of the functions. -/
  second : Bool := false
  /-- What holds it is an object that is the second argument. -/
  inSecond : Bool := false
  /-- What holds it is a markup attribute. -/
  inAttribute : Bool := false
  deriving DecidableEq, Repr, Inhabited

namespace Standing

/-- The standing of what a node holds, arguments apart. -/
def ofHeld (kind : NodeKind) (standing : Standing) : Standing where
  wrapped := decide (kind = .property (some "context")) && standing.inSecond
  above := standing.wrapped
  inSecond := decide (kind = .object) && standing.second
  inAttribute := match kind with
    | .attribute _ => true
    | _ => false

/-- The standing of an argument, counted from 0. -/
def ofArgument (names : List String) (kind : NodeKind) (standing : Standing)
    (index : Nat) : Standing :=
  match kind with
  | .call (some callee) _ =>
      { wrapped := names.contains callee
        above := standing.wrapped
        second := names.contains callee && index == 1 }
  | kind => standing.ofHeld kind

end Standing

/-- A literal as it stands in a text. -/
structure Site where
  placement : Placement
  range : Range
  raw : Text
  /-- It is passed to one of the functions. -/
  wrapped : Bool
  deriving DecidableEq, Repr, Inhabited

namespace Site

/-- The literal without the blanks around it. -/
def trimmed (site : Site) : Text := Text.trim site.raw

def trimmedRange (site : Site) : Range :=
  let start := site.range.start + Text.byteSize (Text.leadingBlanks site.raw)
  ⟨start, start + Text.byteSize site.trimmed⟩

/-- What a call is given for the literal. -/
def value (site : Site) : Text :=
  match site.placement with
  | .markupText => Text.flattenLines site.trimmed
  | _ => site.trimmed

/-- The literal is in the target script and not passed to one of the
functions. -/
def isStray (options : RuleOptions) (site : Site) : Bool :=
  !site.trimmed.isEmpty && options.targetScript.isMatch site.raw && !site.wrapped

/-- The replacement of the literal by a call. -/
def edit (name : String) (site : Site) : Edit :=
  ⟨site.trimmedRange, site.placement.wrap name site.value⟩

theorem isStray_eq_false_of_wrapped {options : RuleOptions} {site : Site}
    (hwrapped : site.wrapped = true) : site.isStray options = false := by
  simp [isStray, hwrapped]

theorem isStray_eq_false_of_isBlank {options : RuleOptions} {site : Site}
    (hblank : ∀ char ∈ site.raw, isBlank char = true) :
    site.isStray options = false := by
  simp [isStray, trimmed, Text.trim_eq_nil_of_isBlank hblank]

end Site

def NodeKind.isSegment : NodeKind → Bool
  | .segment _ => true
  | _ => false

namespace Outline

/-- The literal that a node is, if it is one. -/
def site? (kind : NodeKind) (range : Range) (raw : Text) (standing : Standing) :
    Option Site :=
  match kind with
  | .string _ =>
      let placement := if standing.inAttribute then .attribute else .expression
      some ⟨placement, range, raw, standing.wrapped⟩
  | .markupText _ => some ⟨.markupText, range, raw, standing.wrapped⟩
  | .segment raw => some ⟨.segment, range, raw, standing.above⟩
  | _ => none

/-- The literals of an outline whose outermost nodes stand as `standing` says,
counted from `index`. -/
def sites (names : List String) (standing : Nat → Standing) (index : Nat) :
    Outline → List Site
  | nil => []
  | node kind range raw held arguments rest =>
      (site? kind range raw (standing index)).toList ++
        (held.sites names (fun _ => (standing index).ofHeld kind) 0 ++
          (arguments.sites names ((standing index).ofArgument names kind) 0 ++
            rest.sites names standing (index + 1)))

/-- A text between markup, unless it is empty. -/
def markupText (raw : Text) : Outline :=
  if raw.isEmpty then nil else leaf (.markupText []) (.at' 0) raw

/-- The call of a function with a string. -/
def callOf (name : String) (raw : Text) : Outline :=
  node (.call (some name) []) (.at' 0) [] (leaf .other (.at' 0) [])
    (leaf (.string []) (.at' 0) raw) nil

/-- What stands in place of a literal that is exchanged for a call; the blanks
around it stay. -/
def callOfSite (name : String) (site : Site) : Outline :=
  let raw := site.placement.escape site.value
  let quoted := '\'' :: raw ++ ['\'']
  let before := Text.leadingBlanks site.raw
  let after := Text.trailingBlanks site.raw
  match site.placement with
  | .expression => callOf name raw
  | .attribute => branch .other (.at' 0) (callOf name raw)
  | .markupText =>
      markupText before ++ (branch .other (.at' 0) (callOf name quoted) ++
        markupText after)
  | .segment =>
      leaf (.segment before) (.at' 0) before ++ (callOf name quoted ++
        leaf (.segment after) (.at' 0) after)

/-- Stray literals exchanged for calls of a function. -/
def exchange (options : RuleOptions) (names : List String) (name : String)
    (standing : Nat → Standing) (index : Nat) : Outline → Outline
  | nil => nil
  | node kind range raw held arguments rest =>
      let rest := rest.exchange options names name standing (index + 1)
      match (site? kind range raw (standing index)).filter (·.isStray options) with
      | some site => callOfSite name site ++ rest
      | none =>
          node kind range raw
            (held.exchange options names name
              (fun _ => (standing index).ofHeld kind) 0)
            (arguments.exchange options names name
              ((standing index).ofArgument names kind) 0) rest

/-- No template segment is among the outermost nodes. -/
def segmentFree : Outline → Bool
  | nil => true
  | node kind _ _ _ _ rest => !kind.isSegment && rest.segmentFree

/-- The source text that an outline gives for a node is the text in its range. -/
def rawAgrees (text : Text) (kind : NodeKind) (range : Range) (raw : Text) : Prop :=
  match kind with
  | .string _ | .markupText _ => raw = (text.slice? range).getD []
  | _ => True

/-- What holds of every outline of a module: literals have the text in their
range, and no template segment is the argument of a call. -/
def Proper (text : Text) : Outline → Prop
  | nil => True
  | node kind range raw held arguments rest =>
      rawAgrees text kind range raw ∧ arguments.segmentFree = true ∧
        held.Proper text ∧ arguments.Proper text ∧ rest.Proper text

section Clean

variable {options : RuleOptions} {names : List String} {name : String}

/-- Where all stand alike it does not matter from which number they are
counted. -/
theorem sites_index (standing : Standing) (outline : Outline) (index index' : Nat) :
    outline.sites names (fun _ => standing) index =
      outline.sites names (fun _ => standing) index' := by
  induction outline generalizing index index' with
  | nil => rfl
  | node kind range raw held arguments rest _ _ ih =>
      rw [sites, sites, ih (index + 1) (index' + 1)]

theorem sites_append (standing : Standing) (outline others : Outline)
    (index : Nat) :
    (outline ++ others).sites names (fun _ => standing) index =
      outline.sites names (fun _ => standing) index ++
        others.sites names (fun _ => standing) index := by
  induction outline generalizing index with
  | nil => rfl
  | node kind range raw held arguments rest _ _ ih =>
      rw [node_append, sites, sites, ih, sites_index standing others (index + 1) index]
      simp only [List.append_assoc]

/-- The string in a call of one of the functions is passed to it. -/
theorem sites_callOf (hname : names.contains name = true) (standing : Standing)
    (index : Nat) (raw : Text) :
    (callOf name raw).sites names (fun _ => standing) index =
      [⟨.expression, .at' 0, raw, true⟩] := by
  simp [callOf, leaf, sites, site?, Standing.ofArgument, List.contains_iff_mem.mp hname]

theorem sites_markupText (standing : Standing) (index : Nat) {raw : Text}
    {site : Site}
    (hsite : site ∈ (markupText raw).sites names (fun _ => standing) index) :
    site.raw = raw := by
  unfold markupText at hsite
  split at hsite
  · cases hsite
  · simp [leaf, sites, site?] at hsite
    rw [hsite]

/-- Nothing in what stands in place of a literal is stray. -/
theorem isStray_of_mem_sites_callOfSite (hname : names.contains name = true)
    (standing : Standing) (index : Nat) (site : Site) :
    ∀ other ∈ (callOfSite name site).sites names (fun _ => standing) index,
      other.isStray options = false := by
  have hbefore : ∀ char ∈ Text.leadingBlanks site.raw, isBlank char = true :=
    fun char hchar => Text.isBlank_of_mem_leadingBlanks hchar
  have hafter : ∀ char ∈ Text.trailingBlanks site.raw, isBlank char = true :=
    fun char hchar => Text.isBlank_of_mem_trailingBlanks hchar
  intro other hother
  unfold callOfSite at hother
  split at hother
  · rw [sites_callOf hname, List.mem_singleton] at hother
    exact Site.isStray_eq_false_of_wrapped (by rw [hother])
  · simp only [branch, sites, sites_callOf hname, site?, Option.toList_none,
      List.nil_append, List.append_nil, List.mem_singleton] at hother
    exact Site.isStray_eq_false_of_wrapped (by rw [hother])
  · rw [sites_append, sites_append] at hother
    simp only [branch, sites, sites_callOf hname, site?, Option.toList_none,
      List.nil_append, List.append_nil, List.mem_append, List.mem_singleton] at hother
    rcases hother with hother | rfl | hother
    · apply Site.isStray_eq_false_of_isBlank
      rwa [sites_markupText standing index hother]
    · exact Site.isStray_eq_false_of_wrapped rfl
    · apply Site.isStray_eq_false_of_isBlank
      rwa [sites_markupText standing index hother]
  · rw [sites_append, sites_append, sites_callOf hname] at hother
    simp only [leaf, sites, site?, Option.toList_some, List.append_nil,
      List.mem_append, List.mem_singleton] at hother
    rcases hother with rfl | rfl | rfl
    · exact Site.isStray_eq_false_of_isBlank hbefore
    · exact Site.isStray_eq_false_of_wrapped rfl
    · exact Site.isStray_eq_false_of_isBlank hafter

/-- Arguments stand alike, or all of them are passed to one of the functions. -/
theorem Standing.ofArgument_cases (names : List String) (kind : NodeKind)
    (standing : Standing) :
    (∃ same, standing.ofArgument names kind = fun _ => same) ∨
      ∀ index, (standing.ofArgument names kind index).wrapped = true := by
  unfold Standing.ofArgument
  split
  · rename_i callee _
    cases hcallee : names.contains callee with
    | false => exact Or.inl ⟨⟨false, standing.wrapped, false, false, false⟩, by simp⟩
    | true => exact Or.inr fun index => rfl
  · exact Or.inl ⟨_, rfl⟩

theorem wrapped_of_site? {kind : NodeKind} {range : Range} {raw : Text}
    {standing : Standing} {site : Site} (hkind : kind.isSegment = false)
    (hsite : site? kind range raw standing = some site) :
    site.wrapped = standing.wrapped := by
  cases kind with
  | segment raw => cases hkind
  | string value =>
      cases hsite
      rfl
  | markupText value =>
      cases hsite
      rfl
  | _ => cases hsite

/-- Exchanging stray literals leaves none.  The numbers of arguments, by which
the second is known, stay as they are: no argument of one of the functions is
exchanged, as all of them are passed to it. -/
theorem isStray_of_mem_sites_exchange (hname : names.contains name = true)
    {text : Text} {outline : Outline} (hproper : outline.Proper text)
    {standing : Nat → Standing} {index index' : Nat}
    (hsteady : (∃ same, standing = fun _ => same) ∨
      (∀ index, (standing index).wrapped = true) ∧ outline.segmentFree = true ∧
        index' = index) :
    ∀ site ∈ (outline.exchange options names name standing index).sites names
      standing index', site.isStray options = false := by
  induction outline generalizing standing index index' with
  | nil => simp [exchange, sites]
  | node kind range raw held arguments rest hheld harguments hrest =>
      obtain ⟨-, hsegmentFree, hproperHeld, hproperArguments, hproperRest⟩ := hproper
      rw [exchange]
      split
      · -- the node is a stray literal, and so not an argument of a function
        rename_i stray hstray
        obtain ⟨hsite, hstray⟩ := Option.filter_eq_some_iff.mp hstray
        rcases hsteady with ⟨same, rfl⟩ | ⟨hwrapped, hfree, -⟩
        · intro site hmem
          rw [sites_append] at hmem
          rcases List.mem_append.mp hmem with hmem | hmem
          · exact isStray_of_mem_sites_callOfSite hname same index' stray site hmem
          · exact hrest hproperRest (Or.inl ⟨same, rfl⟩) site hmem
        · rw [segmentFree, Bool.and_eq_true, Bool.not_eq_true'] at hfree
          have hpassed := wrapped_of_site? hfree.1 hsite
          rw [hwrapped] at hpassed
          rw [Site.isStray_eq_false_of_wrapped hpassed] at hstray
          cases hstray
      · rename_i hstray
        have hsame : standing index' = standing index := by
          rcases hsteady with ⟨same, rfl⟩ | ⟨-, -, rfl⟩ <;> rfl
        intro site hmem
        rw [sites, hsame] at hmem
        rcases List.mem_append.mp hmem with hown | hmem
        · rw [Option.mem_toList] at hown
          rw [hown] at hstray
          simpa using hstray
        rcases List.mem_append.mp hmem with hmem | hmem
        · exact hheld hproperHeld (Or.inl ⟨_, rfl⟩) site hmem
        rcases List.mem_append.mp hmem with hmem | hmem
        · apply harguments hproperArguments _ site hmem
          rcases Standing.ofArgument_cases names kind (standing index) with
            hsame | hwrapped
          · exact Or.inl hsame
          · exact Or.inr ⟨hwrapped, hsegmentFree, rfl⟩
        · apply hrest hproperRest _ site hmem
          rcases hsteady with hsame | ⟨hwrapped, hfree, rfl⟩
          · exact Or.inl hsame
          · rw [segmentFree, Bool.and_eq_true] at hfree
            exact Or.inr ⟨hwrapped, hfree.2, rfl⟩

end Clean

/-- The import declarations among the outermost nodes. -/
def imports : Outline → List (Range × Syntax.ImportDeclaration)
  | nil => []
  | node kind range _ _ _ rest =>
      match kind with
      | .imports declaration => (range, declaration) :: rest.imports
      | _ => rest.imports

/-- The outline with another one after its last import. -/
def insertAfterImports : Outline → Outline → Outline
  | nil, added => added
  | node kind range raw held arguments rest, added =>
      node kind range raw held arguments
        (if rest.imports.isEmpty then added ++ rest
        else rest.insertAfterImports added)

/-- The outline with one more import: after the last one, or before everything
else. -/
def addImport (declaration : Syntax.ImportDeclaration) (outline : Outline) :
    Outline :=
  let added := leaf (.imports declaration) (.at' 0) []
  if outline.imports.isEmpty then added ++ outline
  else outline.insertAfterImports added

theorem imports_append (outline others : Outline) :
    (outline ++ others).imports = outline.imports ++ others.imports := by
  induction outline with
  | nil => rfl
  | node kind range raw held arguments rest _ _ ih =>
      cases kind <;> simp [imports, ih]

theorem imports_callOfSite (name : String) (site : Site) :
    (callOfSite name site).imports = [] := by
  have hmarkup : ∀ raw, (markupText raw).imports = [] := by
    intro raw
    unfold markupText
    split <;> rfl
  unfold callOfSite
  split <;> simp [imports_append, hmarkup, callOf, branch, leaf, imports]

theorem imports_exchange (options : RuleOptions) (names : List String)
    (name : String) (outline : Outline) (standing : Nat → Standing) (index : Nat) :
    (outline.exchange options names name standing index).imports =
      outline.imports := by
  induction outline generalizing index with
  | nil => rfl
  | node kind range raw held arguments rest _ _ ih =>
      rw [exchange]
      split
      · rename_i site hsite
        obtain ⟨hsite, -⟩ := Option.filter_eq_some_iff.mp hsite
        rw [imports_append, imports_callOfSite, List.nil_append, ih]
        cases kind <;> simp_all [site?, imports]
      · cases kind <;> simp [imports, ih]

theorem imports_insertAfterImports (added : Outline) {outline : Outline}
    (himports : outline.imports ≠ []) :
    (outline.insertAfterImports added).imports =
      outline.imports ++ added.imports := by
  induction outline with
  | nil => exact absurd rfl himports
  | node kind range raw held arguments rest _ _ ih =>
      rw [insertAfterImports]
      by_cases hrest : rest.imports = []
      · cases kind <;> simp_all [imports, imports_append]
      · cases kind <;> simp_all [imports]

theorem imports_addImport (declaration : Syntax.ImportDeclaration)
    (outline : Outline) :
    (outline.addImport declaration).imports =
      outline.imports ++ [(.at' 0, declaration)] := by
  unfold addImport
  by_cases himports : outline.imports = []
  · simp [himports, leaf, imports]
  · simp [himports, imports_insertAfterImports, leaf, imports]

theorem sites_insertAfterImports {names : List String} (standing : Standing)
    (index : Nat) {added : Outline} (outline : Outline)
    (hadded : added.sites names (fun _ => standing) 0 = []) :
    (outline.insertAfterImports added).sites names (fun _ => standing) index =
      outline.sites names (fun _ => standing) index := by
  induction outline generalizing index with
  | nil =>
      rw [insertAfterImports, sites_index standing added index 0, hadded]
      rfl
  | node kind range raw held arguments rest _ _ ih =>
      rw [insertAfterImports, sites, sites]
      split
      · rw [sites_append, sites_index standing added (index + 1) 0, hadded,
          List.nil_append]
      · rw [ih]

theorem sites_addImport {names : List String} (standing : Standing) (index : Nat)
    (declaration : Syntax.ImportDeclaration) (outline : Outline) :
    (outline.addImport declaration).sites names (fun _ => standing) index =
      outline.sites names (fun _ => standing) index := by
  have hadded : ∀ index, (leaf (.imports declaration) (.at' 0) []).sites names
      (fun _ => standing) index = [] := fun index => rfl
  unfold addImport
  split
  · rw [sites_append, hadded, List.nil_append]
  · exact sites_insertAfterImports standing index outline (hadded 0)

/-- Ranges and values left out. -/
def bareKind : NodeKind → NodeKind
  | .string _ => .string []
  | .markupText _ => .markupText []
  | kind => kind

/-- The outline with ranges and values left out, by which a module is compared
with another one. -/
def bare : Outline → Outline
  | nil => nil
  | node kind _ raw held arguments rest =>
      node (bareKind kind) (.at' 0) raw held.bare arguments.bare rest.bare

theorem bare_append (outline others : Outline) :
    (outline ++ others).bare = outline.bare ++ others.bare := by
  induction outline with
  | nil => rfl
  | node kind range raw held arguments rest _ _ ih => simp only [node_append, bare, ih]

theorem sites_bare (names : List String) (outline : Outline)
    (standing : Nat → Standing) (index : Nat) :
    outline.bare.sites names standing index =
      (outline.sites names standing index).map fun site =>
        { site with range := .at' 0 } := by
  have hheld : ∀ kind standing,
      Standing.ofHeld (bareKind kind) standing = Standing.ofHeld kind standing := by
    intro kind standing
    cases kind <;> rfl
  have hargument : ∀ kind standing,
      Standing.ofArgument names (bareKind kind) standing =
        Standing.ofArgument names kind standing := by
    intro kind standing
    cases kind <;> rfl
  induction outline generalizing standing index with
  | nil => rfl
  | node kind range raw held arguments rest ihHeld ihArguments ihRest =>
      have hown : (site? (bareKind kind) (.at' 0) raw (standing index)).toList =
          (site? kind range raw (standing index)).toList.map fun site =>
            { site with range := .at' 0 } := by
        cases kind <;> rfl
      simp only [bare, sites, hheld, hargument, hown, ihHeld, ihArguments, ihRest,
        List.map_append]

theorem imports_bare (outline : Outline) :
    outline.bare.imports.map (·.2) = outline.imports.map (·.2) := by
  induction outline with
  | nil => rfl
  | node kind range raw held arguments rest _ _ ih =>
      cases kind <;> simp [bare, bareKind, imports, ih]

end Outline

/-- The declaration that makes the translation function known to a file. -/
def RuleOptions.declaration (options : RuleOptions) : Syntax.ImportDeclaration :=
  ⟨options.translationModule,
    [.named options.wrapperFunction options.wrapperFunction]⟩

/-- The names that declarations bind by naming exports of a translation
module. -/
def importedNames (modulePattern : Pattern.Regex)
    (declarations : List Syntax.ImportDeclaration) : List String :=
  distinct <| (declarations.filter fun declaration =>
      modulePattern.isMatch declaration.source.toList).flatMap fun declaration =>
    declaration.specifiers.filterMap fun
      | .named name _ => some name
      | _ => none

theorem distinct_eq_nil {names : List String} (hnames : distinct names = []) :
    names = [] := by
  have hgrows : ∀ (names seen : List String), seen ≠ [] →
      names.foldl (fun seen name =>
        if seen.contains name then seen else seen ++ [name]) seen ≠ [] := by
    intro names
    induction names with
    | nil => exact fun seen hseen => hseen
    | cons name names ih =>
        intro seen hseen
        rw [List.foldl_cons]
        split
        · exact ih seen hseen
        · exact ih _ (by simp)
  cases names with
  | nil => rfl
  | cons name names => exact absurd hnames (hgrows names [name] (by simp))

/-- In a file that knows no translation function, the declaration makes known
the one that it names. -/
theorem importedNames_append {options : RuleOptions}
    {declarations : List Syntax.ImportDeclaration}
    (hnames : importedNames options.modulePattern declarations = [])
    (hmodule : options.modulePattern.isMatch options.translationModule.toList = true) :
    importedNames options.modulePattern (declarations ++ [options.declaration]) =
      [options.wrapperFunction] := by
  rw [importedNames, List.filter_append, List.flatMap_append,
    distinct_eq_nil hnames, List.nil_append]
  simp [RuleOptions.declaration, hmodule, distinct]

namespace Outline

/-- The names under which a file knows the translation function. -/
def names (options : RuleOptions) (outline : Outline) : List String :=
  importedNames options.modulePattern (outline.imports.map (·.2))

/-- The literals of a file that are not passed to one of the functions. -/
def strays (options : RuleOptions) (names : List String) (outline : Outline) :
    List Site :=
  (outline.sites names (fun _ => {}) 0).filter (·.isStray options)

/-- What a file is to look like when it is fixed: the stray literals are in calls
of a function that the file imports. -/
def fixed (options : RuleOptions) (outline : Outline) : Outline :=
  match outline.names options with
  | [] =>
      if (outline.strays options []).isEmpty then outline
      else (outline.exchange options [options.wrapperFunction] options.wrapperFunction
        (fun _ => {}) 0).addImport options.declaration
  | name :: names => outline.exchange options (name :: names) name (fun _ => {}) 0

/-- The insertion that adds the import to the text. -/
def importEdit? (options : RuleOptions) (outline : Outline) : Option Edit :=
  let statement := options.importStatement.toList
  match outline.imports.getLast?, outline with
  | some (range, _), _ => some (.insertAt range.stop ('\n' :: statement))
  | none, node _ range _ _ _ _ =>
      some (.insertAt range.start (statement ++ ['\n', '\n']))
  | none, nil => none

/-- What is to be done to the text of a file to fix it. -/
def replacements (options : RuleOptions) (outline : Outline) : List Edit :=
  match outline.names options with
  | [] =>
      if (outline.strays options []).isEmpty then []
      else (outline.importEdit? options).toList ++
        (outline.strays options [options.wrapperFunction]).map
          (Site.edit options.wrapperFunction)
  | name :: names => (outline.strays options (name :: names)).map (Site.edit name)

theorem strays_exchange (options : RuleOptions) {names : List String} {name : String}
    (hname : names.contains name = true) {text : Text} {outline : Outline}
    (hproper : outline.Proper text) :
    (outline.exchange options names name (fun _ => {}) 0).strays options names =
      [] := by
  rw [strays, List.filter_eq_nil_iff]
  intro site hsite
  rw [isStray_of_mem_sites_exchange hname hproper (Or.inl ⟨{}, rfl⟩) site hsite]
  exact Bool.false_ne_true

/-- Nothing is stray in a fixed file. -/
theorem strays_fixed {options : RuleOptions}
    (hmodule : options.modulePattern.isMatch options.translationModule.toList = true)
    {text : Text} {outline : Outline} (hproper : outline.Proper text) :
    (outline.fixed options).strays options ((outline.fixed options).names options) =
      [] := by
  unfold fixed
  split
  · rename_i hnames
    split
    · rename_i hstrays
      rw [hnames]
      exact List.isEmpty_iff.mp hstrays
    · have hfixed : (Outline.addImport options.declaration
          (outline.exchange options [options.wrapperFunction] options.wrapperFunction
            (fun _ => {}) 0)).names options = [options.wrapperFunction] := by
        rw [names, imports_addImport, imports_exchange, List.map_append]
        exact importedNames_append hnames hmodule
      rw [hfixed, strays, sites_addImport]
      exact strays_exchange options (by simp) hproper
  · rename_i name names hnames
    have hfixed : (outline.exchange options (name :: names) name
        (fun _ => {}) 0).names options = name :: names := by
      rw [Outline.names, imports_exchange]
      exact hnames
    rw [hfixed]
    exact strays_exchange options (by simp) hproper

/-- Whether something is stray does not depend on ranges. -/
theorem strays_bare_eq_nil_iff (options : RuleOptions) (names : List String)
    (outline : Outline) :
    outline.bare.strays options names = [] ↔ outline.strays options names = [] := by
  rw [strays, strays, sites_bare, List.filter_map, List.map_eq_nil_iff]
  rfl

theorem proper_append {text : Text} {outline others : Outline}
    (houtline : outline.Proper text) (hothers : others.Proper text) :
    (outline ++ others).Proper text := by
  induction outline with
  | nil => exact hothers
  | node kind range raw held arguments rest _ _ ih =>
      obtain ⟨hraw, hfree, hheld, harguments, hrest⟩ := houtline
      exact ⟨hraw, hfree, hheld, harguments, ih hrest⟩

theorem segmentFree_append (outline others : Outline) :
    (outline ++ others).segmentFree = (outline.segmentFree && others.segmentFree) := by
  induction outline with
  | nil => rfl
  | node kind range raw held arguments rest _ _ ih =>
      simp only [node_append, segmentFree, ih, Bool.and_assoc]

end Outline

namespace Syntax

open Outline

theorem Expr.segmentFree_outline (text : Text) :
    ∀ expr : Expr, (expr.outline text).segmentFree = true
  | .paren _ inner => by
      rw [Expr.outline]
      exact Expr.segmentFree_outline text inner
  | .identifier _ _ | .string _ _ | .template _ _ _ | .call _ _ _
  | .bareCall _ _ | .object _ _ | .markup _ _ | .other _ _ => by
      rw [Expr.outline]
      rfl

theorem Expr.segmentFree_outlines (text : Text) (exprs : List Expr) :
    (Expr.outlines text exprs).segmentFree = true := by
  induction exprs with
  | nil => rfl
  | cons expr exprs ih =>
      rw [Expr.outlines, segmentFree_append, Expr.segmentFree_outline, ih]
      rfl

mutual

theorem Expr.proper_outline (text : Text) :
    ∀ expr : Expr, (expr.outline text).Proper text
  | .paren _ inner => by
      rw [Expr.outline]
      exact Expr.proper_outline text inner
  | .identifier _ _ => by
      rw [Expr.outline]
      exact ⟨trivial, rfl, trivial, trivial, trivial⟩
  | .string _ _ => by
      rw [Expr.outline]
      exact ⟨rfl, rfl, trivial, trivial, trivial⟩
  | .template _ first more => by
      rw [Expr.outline]
      refine ⟨trivial, rfl, proper_append ?_ ?_, trivial, trivial⟩
      · exact ⟨trivial, rfl, trivial, trivial, trivial⟩
      · exact Substitution.proper_outlines text more
  | .call _ callee arguments => by
      rw [Expr.outline]
      exact ⟨trivial, Expr.segmentFree_outlines text arguments,
        Expr.proper_outline text callee, Expr.proper_outlines text arguments, trivial⟩
  | .bareCall _ arguments => by
      rw [Expr.outline]
      exact ⟨trivial, Expr.segmentFree_outlines text arguments, trivial,
        Expr.proper_outlines text arguments, trivial⟩
  | .object _ parts | .markup _ parts | .other _ parts => by
      rw [Expr.outline]
      exact ⟨trivial, rfl, Part.proper_outlines text parts, trivial, trivial⟩

theorem Expr.proper_outlines (text : Text) :
    ∀ exprs : List Expr, (Expr.outlines text exprs).Proper text
  | [] => by
      rw [Expr.outlines]
      exact trivial
  | expr :: exprs => by
      rw [Expr.outlines]
      exact proper_append (Expr.proper_outline text expr)
        (Expr.proper_outlines text exprs)

theorem Substitution.proper_outlines (text : Text) :
    ∀ more : List Substitution, (Substitution.outlines text more).Proper text
  | [] => by
      rw [Substitution.outlines]
      exact trivial
  | .mk expr segment :: more => by
      rw [Substitution.outlines]
      refine proper_append (Expr.proper_outline text expr) (proper_append ?_ ?_)
      · exact ⟨trivial, rfl, trivial, trivial, trivial⟩
      · exact Substitution.proper_outlines text more

theorem Part.proper_outline (text : Text) :
    ∀ part : Part, (part.outline text).Proper text
  | .expr expr => by
      rw [Part.outline]
      exact Expr.proper_outline text expr
  | .plain _ _ parts | .keyed _ _ parts | .attribute _ _ parts => by
      rw [Part.outline]
      exact ⟨trivial, rfl, Part.proper_outlines text parts, trivial, trivial⟩
  | .text _ _ => by
      rw [Part.outline]
      exact ⟨rfl, rfl, trivial, trivial, trivial⟩
  | .imports _ _ => by
      rw [Part.outline]
      exact ⟨trivial, rfl, trivial, trivial, trivial⟩

theorem Part.proper_outlines (text : Text) :
    ∀ parts : List Part, (Part.outlines text parts).Proper text
  | [] => by
      rw [Part.outlines]
      exact trivial
  | part :: parts => by
      rw [Part.outlines]
      exact proper_append (Part.proper_outline text part)
        (Part.proper_outlines text parts)

end

theorem Module.proper_outline (text : Text) (program : Module) :
    (program.outline text).Proper text :=
  Part.proper_outlines text program.items

end Syntax

open Syntax

/-- The text of a file in which its stray literals are exchanged for calls. -/
def exchangedText (options : RuleOptions) (source : Text) (program : Module) : Text :=
  let edits := ((program.outline source).replacements options).mergeSort
    fun left right => left.range.before right.range
  (source.spliceFrom? 0 edits).getD source

/-- A parser goes along with the exchange in a file: what it makes of the text
after the exchange, if anything, is the syntax after the exchange. -/
def Follows (read : Text → Except SyntaxError Module) (options : RuleOptions)
    (source : Text) : Prop :=
  ∀ program ∈ (read source).toOption,
    ∀ exchanged ∈ (read (exchangedText options source program)).toOption,
      (exchanged.outline (exchangedText options source program)).bare =
        ((program.outline source).fixed options).bare

theorem follows_of_read {read : Text → Except SyntaxError Module}
    {options : RuleOptions} {source : Text} {program exchanged : Module}
    (hread : read source = .ok program)
    (hexchanged : read (exchangedText options source program) = .ok exchanged)
    (hsame : (exchanged.outline (exchangedText options source program)).bare =
      ((program.outline source).fixed options).bare) :
    Follows read options source := by
  intro program' hprogram exchanged' hexchanged'
  rw [hread] at hprogram
  cases hprogram
  rw [hexchanged] at hexchanged'
  cases hexchanged'
  exact hsame

/-- Replacements that are told as the text is read are made as they come. -/
theorem exchangedText_of_rewrites {options : RuleOptions} {source text : Text} {program : Module}
    (hrewrites : source.Rewrites 0 ((program.outline source).replacements options) text) :
    exchangedText options source program = text := by
  rw [exchangedText, List.mergeSort_of_pairwise hrewrites.sorted]
  have hsplice := hrewrites.splice [] [] rfl
  simp only [List.nil_append, Text.byteSize_nil] at hsplice
  rw [hsplice, Option.getD_some]

/-- Replacements that are in order are made as they come. -/
theorem exchangedText_of_sorted {options : RuleOptions} {source text : Text}
    {program : Module}
    (hsorted : ((program.outline source).replacements options).Pairwise
      fun left right => left.range.before right.range)
    (htext : source.spliceFrom? 0 ((program.outline source).replacements options) =
      some text) :
    exchangedText options source program = text := by
  rw [exchangedText, List.mergeSort_of_pairwise hsorted, htext, Option.getD_some]

end Untranslated
