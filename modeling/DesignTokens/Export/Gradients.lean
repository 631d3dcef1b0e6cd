import DesignTokens.Export.Notice
import DesignTokens.Key.Kebab

/-!
# The gradient section

The names on the way to a gradient are joined with hyphens and cut into segments.
The last segment names the gradient and those before it its category, which is
`default` when there are none.
-/

namespace DesignTokens.Export

/-- The category of a gradient that has none. -/
def defaultCategory : String := "default"

/-- A gradient of a section with the path of the names that lead to it. -/
structure PlacedGradient where
  path : String
  gradient : Gradient

mutual

/-- The gradients at a path and below it, in order. -/
def gradientsAt (path : String) : Json → List PlacedGradient
  | .object members =>
    match Node.ofMembers members with
    | .gradient token => [⟨path, token⟩]
    | .group _ => gradientsBelow path members
    | _ => []
  | _ => []

/-- The gradients of nodes whose names stand below `parent`, in order. -/
def gradientsBelow (parent : String) : List (String × Json) → List PlacedGradient
  | [] => []
  | (name, value) :: rest =>
    gradientsAt (Key.joinPath parent name) value ++ gradientsBelow parent rest

end

/-- The category and the name that the segments of a path give. -/
def categoryAndName? (path : String) : Option (String × String) :=
  let segments := Key.segments path
  match segments.getLast? with
  | none => none
  | some name =>
    let category := "-".intercalate segments.dropLast
    some (if category.isEmpty then defaultCategory else category, name)

/-- Put a gradient into its category; a path without segments leads nowhere. -/
def putGradient (result : Entries (Entries Gradient)) (placed : PlacedGradient) :
    Entries (Entries Gradient) :=
  match categoryAndName? placed.path with
  | none => result
  | some (category, name) =>
    result.update category [] fun entries => entries.put name placed.gradient

/-- The gradients of a section by category and name. -/
def gradients (nodes : List (String × Json)) : Entries (Entries Gradient) :=
  (gradientsBelow "" nodes).foldl putGradient []

mutual

/-- What becomes of the node at a path and of the nodes below it. -/
def gradientFate (path : String) : Json → List Fate
  | .object members =>
    match Node.ofMembers members with
    | .gradient _ =>
      if (Key.segments path).isEmpty then [.reported (.gradientWithoutName path)] else [.kept]
    | .group _ => .entered :: gradientFates path members
    | _ => [.reported (.gradientSkipped path)]
  | _ => [.reported (.gradientSkipped path)]

/-- What becomes of nodes whose names stand below `parent`, in the order of their
visit. -/
def gradientFates (parent : String) : List (String × Json) → List Fate
  | [] => []
  | (name, value) :: rest =>
    gradientFate (Key.joinPath parent name) value ++ gradientFates parent rest

end

end DesignTokens.Export
