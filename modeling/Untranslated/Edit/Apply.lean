import Untranslated.Edit.Basic

/-!
# Applying fixes

All edits refer to the text as it was before any of them.  Fixes are taken in order: a fix is
accepted if each of its edits selects a part of the text and overlaps neither an edit accepted
before nor an earlier edit of the same fix; otherwise the whole fix is skipped.  The accepted edits
are made from the last to the first, so that no edit moves the range of one still to be made.
-/

namespace Untranslated

/-- What applying fixes to a text gives. -/
structure Outcome where
  text : Text
  /-- The accepted edits, in the order of their ranges. -/
  edits : List Edit
  applied : Nat
  skipped : Nat
  deriving DecidableEq, Repr, Inhabited

/-- The edits accepted so far, and how many fixes were taken and skipped for them. -/
structure Acceptance where
  edits : List Edit := []
  applied : Nat := 0
  skipped : Nat := 0
  deriving DecidableEq, Repr, Inhabited

/-- Whether each edit fits the text and is clear of those taken before it. -/
def Edit.allFit (text : Text) : List Edit → List Edit → Bool
  | _, [] => true
  | taken, edit :: edits =>
      (Text.slice? text edit.range).isSome &&
        !taken.any (fun other => other.range.overlaps edit.range) &&
        allFit text (taken ++ [edit]) edits

namespace Acceptance

def consider (text : Text) (acceptance : Acceptance) (fix : Fix) : Acceptance :=
  if fix.isEmpty then acceptance
  else if Edit.allFit text acceptance.edits fix.edits then
    { acceptance with
      edits := acceptance.edits ++ fix.edits, applied := acceptance.applied + 1 }
  else { acceptance with skipped := acceptance.skipped + 1 }

def ofFixes (text : Text) (fixes : List Fix) : Acceptance := fixes.foldl (consider text) {}

end Acceptance

/-- Makes edits from the last to the first. -/
def Text.replaceAll? (text : Text) : List Edit → Option Text
  | [] => some text
  | edit :: edits => (replaceAll? text edits).bind (replace? · edit)

/-- Applies as many of the fixes as fit together, earlier ones first. -/
def Text.applyFixes (text : Text) (fixes : List Fix) : Outcome :=
  let acceptance := Acceptance.ofFixes text fixes
  let edits := acceptance.edits.mergeSort fun a b => a.range.before b.range
  { text := (replaceAll? text edits).getD text
    edits
    applied := acceptance.applied
    skipped := acceptance.skipped }

end Untranslated
