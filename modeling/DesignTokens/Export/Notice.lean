import DesignTokens.Export.Node

/-!
# Notices of the reader

Nothing inside a section is dropped silently: every node that is neither kept nor
entered is reported by a notice, and two more notices tell which sections were not
read and how much was found.
-/

namespace DesignTokens.Export

/-- What the reader of an export has to say. -/
inductive Notice where
  | colorWithoutName (path : String)
  | colorSkipped (path : String) (reason : SkipReason)
  | notAColor (path : String)
  | deviceSkipped (device : String)
  | localeSkipped (device locale : String)
  | styleSkipped (device locale name : String)
  | gradientWithoutName (path : String)
  | gradientSkipped (path : String)
  | sectionsIgnored (names : List String)
  | found (styles gradients : Nat)
  deriving DecidableEq, Repr

/-- The wording of a notice. -/
def Notice.text : Notice → String
  | .colorWithoutName path =>
    "Skipping color " ++ Text.quoted path ++ ": key normalizes to nothing"
  | .colorSkipped path reason =>
    "Skipping color node " ++ Text.quoted path ++ ": " ++ reason.text
  | .notAColor path =>
    "Skipping non-color token " ++ Text.quoted path ++ " in color section"
  | .deviceSkipped device =>
    "Skipping font device " ++ Text.quoted device ++ ": not an object"
  | .localeSkipped device locale =>
    "Skipping font node " ++ device ++ "." ++ locale
  | .styleSkipped device locale name =>
    "Skipping font style " ++ device ++ "." ++ locale ++ "." ++ name
  | .gradientWithoutName path =>
    "Skipping gradient " ++ Text.quoted path ++ ": key normalizes to nothing"
  | .gradientSkipped path =>
    "Skipping gradient node " ++ Text.quoted path
  | .sectionsIgnored names =>
    "Ignoring top-level sections: " ++ ", ".intercalate names
  | .found styles gradients =>
    "Parsed tokens: " ++ toString styles ++ " typography styles, " ++
      toString gradients ++ " gradients"

/-- What becomes of a node that the reader visits. -/
inductive Fate where
  | kept
  | entered
  | reported (notice : Notice)
  deriving DecidableEq, Repr

/-- The notice of a node that is reported. -/
def Fate.notice? : Fate → Option Notice
  | .reported notice => some notice
  | _ => none

/-- The notices among the fates of the visited nodes. -/
def noticesOf (fates : List Fate) : List Notice :=
  fates.filterMap Fate.notice?

end DesignTokens.Export
