import DesignTokens.Text.Blank
import DesignTokens.Text.Lines

/-!
# Banners

Every generated file starts with a comment that names it and tells whether it may
be edited.
-/

namespace DesignTokens.Banner

/-- The lines of a block comment. -/
def blockLines (title : String) (editable : Bool) (usage : List String) : List String :=
  ["/**", " * " ++ title, " *",
    if editable then " * Auto-generated file."
    else " * Auto-generated file. Do not edit directly!"] ++
  (if usage.isEmpty then []
    else [" *", " * Usage:"] ++
      usage.map fun line => Text.withoutTrailingBlank (" * " ++ line)) ++
  [" */"]

/-- A block comment, with usage lines if there are any. -/
def block (title : String) (editable : Bool) (usage : List String) : String :=
  Text.joinLines (blockLines title editable usage) ++ "\n"

/-- The block comment of a file that is not to be edited. -/
def fixed (title : String) : String :=
  block title false []

/-- The block comment of a file that may be edited. -/
def editable (title : String) : String :=
  block title true []

/-- A comment of two lines. -/
def lineComment (title : String) : String :=
  "// " ++ title ++ "\n// Auto-generated file. Do not edit directly!\n"

end DesignTokens.Banner
