import Untranslated.Config.Basic
import Untranslated.Proofs.Scripts
import Untranslated.Tree.Lowering

/-!
# Reading the inserted import

The import that fixes insert is read again by the next run.  It is a script of one
line: a configuration whose function has a name that a module can bind, and whose
module path can stand between quotes, writes one import declaration that binds this
one name.
-/

namespace Untranslated

open Syntax

namespace Syntax

/-- Text without quotes, backslashes and line breaks stands between quotes as it is. -/
theorem stringText_of_isPlain {body : Text} (hplain : body.all (IsPlain ·) = true) :
    StringText body (body.map Char.toNat) := by
  induction body with
  | nil => exact .nil
  | cons char body ih =>
      rw [List.all_cons, Bool.and_eq_true, decide_eq_true_eq] at hplain
      exact hplain.1.literalText (ih hplain.2)

/-- Characters are no surrogates, so their code points denote them. -/
theorem decodeLossy_map_toNat (text : Text) : decodeLossy (text.map Char.toNat) = text := by
  rw [decodeLossy, joinSurrogates_map_toNat, List.map_map]
  refine List.map_id'' (fun char => ?_) text
  rw [Function.comp_apply, charOfCode?_toNat, Option.getD_some]

end Syntax

namespace RuleOptions

theorem toList_importStatement (options : RuleOptions) :
    options.importStatement.toList = importText options.wrapperFunction
      ('\'' :: options.translationModule.toList ++ ['\'']) := by
  delta importText
  simp only [importStatement, String.toList_append, List.append_assoc,
    List.cons_append]
  rfl

/-- The import that fixes insert, as a line of a script. -/
def importLine (options : RuleOptions) (hname : isBindable options.wrapperFunction = true)
    {codes : List Nat} (hmodule : StringText options.translationModule.toList codes) (gap : Gap) :
    ImportLine where
  gap := gap
  name := ⟨options.wrapperFunction, hname⟩
  source := .single hmodule

variable {options : RuleOptions} {codes : List Nat}

theorem body_importLine (hname : isBindable options.wrapperFunction = true)
    (hmodule : StringText options.translationModule.toList codes) (gap : Gap) :
    (options.importLine hname hmodule gap).body = options.importStatement.toList :=
  options.toList_importStatement.symm

end RuleOptions

/-! ### Configurations -/

namespace Config

theorem exists_ruleOptions_of_validate {config : Config} (hvalid : config.validate = .ok ()) :
    ∃ options, config.ruleOptions = .ok options := by
  cases hoptions : config.ruleOptions with
  | ok options => exact ⟨options, rfl⟩
  | error fault =>
      simp only [validate, hoptions, bind, Except.bind] at hvalid
      repeat' split at hvalid
      all_goals cases hvalid

theorem validate_eq_ok {config : Config} (hvalid : config.validate.isOk = true) :
    config.validate = .ok () := by
  cases hresult : config.validate with
  | ok => rfl
  | error fault =>
      rw [hresult] at hvalid
      cases hvalid

theorem settings_of_ruleOptions {config : Config} {options : RuleOptions}
    (hoptions : config.ruleOptions = .ok options) :
    options.wrapperFunction = config.wrapperFunction ∧
      options.translationModule = config.translationModule := by
  simp only [ruleOptions, bind, Except.bind] at hoptions
  repeat' split at hoptions
  all_goals cases hoptions
  exact ⟨rfl, rfl⟩

end Config

namespace Tree

/-- The names that an import alone makes known. -/
theorem wrapperNames_import (text : Text) (range : Range) (source name : String)
    (modulePattern : Pattern.Regex) :
    (ofModule text ⟨[.imports range ⟨source, [.named name name]⟩]⟩).wrapperNames modulePattern =
      if modulePattern.isMatch source.toList then [name] else [] := by
  have himports : (ofModule text ⟨[.imports range ⟨source, [.named name name]⟩]⟩).imports =
      [(range, ⟨source, [.named name name]⟩)] := rfl
  rw [wrapperNames, himports, List.map_singleton, List.filter_cons, List.filter_nil]
  split <;> rfl

/-- The inserted import is read as one declaration, whatever the path of the file. -/
theorem parse_importStatement {options : RuleOptions} {codes : List Nat}
    (hname : isBindable options.wrapperFunction = true)
    (hmodule : StringText options.translationModule.toList codes) (path : String) :
    parse path options.importStatement.toList =
      .ok (ofModule options.importStatement.toList
        ⟨[.imports ⟨0, Text.byteSize options.importStatement.toList⟩
          ⟨String.ofList (decodeLossy codes),
            [.named options.wrapperFunction options.wrapperFunction]⟩]⟩) := by
  let script : Script := ⟨[options.importLine hname hmodule noGap], .nil noGap⟩
  have hbody := RuleOptions.body_importLine hname hmodule noGap
  have htext : script.text = options.importStatement.toList := by
    rw [← hbody, Script.text, Script.head, List.flatMap_singleton]
    exact List.append_nil _
  have hmodule : script.module = ⟨[.imports ⟨0, Text.byteSize options.importStatement.toList⟩
      ⟨String.ofList (decodeLossy codes),
        [.named options.wrapperFunction options.wrapperFunction]⟩]⟩ := by
    rw [← hbody, ← Nat.zero_add (Text.byteSize _)]
    rfl
  rw [parse, ← htext, script.parse_text, hmodule, htext]
  rfl

end Tree

/-- Every valid configuration has rule options.  If its function has a name that a module can bind,
and its module path can stand between quotes, the import that it writes is read as one declaration
with this one name.  The next run knows the name if and only if the pattern for modules matches the
path. -/
theorem Config.importStatement_read_back {config : Config} (hvalid : config.validate = .ok ()) :
    ∃ options, config.ruleOptions = .ok options ∧
      ∀ codes, isBindable config.wrapperFunction = true →
        StringText config.translationModule.toList codes →
        ∀ path, ∃ tree range, Tree.parse path options.importStatement.toList = .ok tree ∧
          tree.nodes = #[⟨.program, none, ⟨0, Text.byteSize options.importStatement.toList⟩⟩,
            ⟨.imports ⟨String.ofList (decodeLossy codes),
              [.named config.wrapperFunction config.wrapperFunction]⟩, some 0, range⟩] ∧
          tree.body = #[1] ∧
          tree.wrapperNames options.modulePattern =
            if options.modulePattern.isMatch (decodeLossy codes) then [config.wrapperFunction]
            else [] := by
  obtain ⟨options, hoptions⟩ := exists_ruleOptions_of_validate hvalid
  obtain ⟨hwrapper, htranslation⟩ := settings_of_ruleOptions hoptions
  refine ⟨options, hoptions, ?_⟩
  intro codes hname hmodule path
  rw [← hwrapper] at hname ⊢
  rw [← htranslation] at hmodule
  have hparse := Tree.parse_importStatement hname hmodule path
  refine ⟨_, _, hparse, rfl, rfl, ?_⟩
  rw [Tree.wrapperNames_import, String.toList_ofList]

/-- The default settings, with a module path that the default pattern does not match. -/
def aliasConfig : Config := { translationModule := "@/translate" }

/-- Settings that are checked one by one need not fit together: the import is read, and its name is
not known. -/
theorem Config.valid_import_unknown : ¬ ∀ config : Config, config.validate = .ok () →
    ∃ options, config.ruleOptions = .ok options ∧
      ∀ path, ∃ tree, Tree.parse path options.importStatement.toList = .ok tree ∧
        tree.wrapperNames options.modulePattern = [config.wrapperFunction] := by
  intro hclaim
  have hunmatched : aliasConfig.ruleOptions.toOption.map
      (·.modulePattern.isMatch "@/translate".toList) = some false := by
    decide +kernel
  obtain ⟨options, hoptions, hread⟩ := hclaim aliasConfig (validate_eq_ok (by decide +kernel))
  obtain ⟨hwrapper, htranslation⟩ := settings_of_ruleOptions hoptions
  obtain ⟨tree, hparse, hnames⟩ := hread "a.ts"
  have hname : isBindable options.wrapperFunction = true := by
    rw [hwrapper]
    decide +kernel
  have hmodule : StringText options.translationModule.toList
      ("@/translate".toList.map Char.toNat) := by
    rw [htranslation]
    exact stringText_of_isPlain (by decide +kernel)
  have hfound := Tree.parse_importStatement hname hmodule "a.ts"
  cases hparse.symm.trans hfound
  -- The declaration is read as it should be; it is the pattern that passes it over.
  have hmiss : options.modulePattern.isMatch "@/translate".toList = false := by
    rw [hoptions] at hunmatched
    exact Option.some.inj hunmatched
  rw [Tree.wrapperNames_import, String.toList_ofList, decodeLossy_map_toNat, hmiss] at hnames
  cases hnames

/-- The default settings, with another name and a path further up. -/
def renamedConfig : Config := { wrapperFunction := "translate", translationModule := "../lib/i18n" }

theorem Config.renamed_import_known :
    ∃ options, renamedConfig.ruleOptions = .ok options ∧
      options.importStatement = "import \x7b translate \x7d from '../lib/i18n';" ∧
      ∀ path, ∃ tree, Tree.parse path options.importStatement.toList = .ok tree ∧
        tree.wrapperNames options.modulePattern = ["translate"] := by
  have hmatched : renamedConfig.ruleOptions.toOption.map
      (·.modulePattern.isMatch "../lib/i18n".toList) = some true := by
    decide +kernel
  have hvalid : renamedConfig.validate = .ok () := validate_eq_ok (by decide +kernel)
  obtain ⟨options, hoptions, hread⟩ := Config.importStatement_read_back hvalid
  obtain ⟨hwrapper, htranslation⟩ := settings_of_ruleOptions hoptions
  refine ⟨options, hoptions, ?_, fun path => ?_⟩
  · rw [RuleOptions.importStatement, hwrapper, htranslation]
    decide +kernel
  · obtain ⟨tree, range, hparse, -, -, hnames⟩ := hread _ (by decide +kernel)
      (stringText_of_isPlain (by decide +kernel)) path
    refine ⟨tree, hparse, ?_⟩
    rw [hoptions] at hmatched
    rw [hnames, decodeLossy_map_toNat]
    exact if_pos (Option.some.inj hmatched)

end Untranslated
