import DesignTokens.Export.Notice
import DesignTokens.Key.Kebab
import DesignTokens.Tree.Basic

/-!
# The color section

The names on the way to a color are joined with hyphens and cut into segments, and
the color stands at the path of these segments. A group is read into a tree of its
own, which is then merged into the tree of the entries before it.
-/

namespace DesignTokens.Export

mutual

/-- Put what stands at a path into a tree: a color at the segments of the path, and
the colors of a group after they are read on their own. -/
def nodeInto (path : String) (result : Tree String) : Json → Tree String
  | .object members =>
    match Node.ofMembers members with
    | .color value =>
      match Key.segments path with
      | [] => result
      | first :: more => result.setAt first more (.leaf value)
    | .group _ => result.merge (nodesInto path .nil members)
    | _ => result
  | _ => result

/-- Put the colors of nodes, whose names stand below `parent`, into a tree. -/
def nodesInto (parent : String) (result : Tree String) : List (String × Json) → Tree String
  | [] => result
  | (name, value) :: rest =>
    nodesInto parent (nodeInto (Key.joinPath parent name) result value) rest

end

/-- The colors of a section whose names stand below `parent`. -/
def colors (parent : String) (nodes : List (String × Json)) : Tree String :=
  nodesInto parent .nil nodes

mutual

/-- What becomes of the node at a path and of the nodes below it. -/
def colorFate (path : String) : Json → List Fate
  | .object members =>
    match Node.ofMembers members with
    | .color _ =>
      if (Key.segments path).isEmpty then [.reported (.colorWithoutName path)] else [.kept]
    | .group _ => .entered :: colorFates path members
    | .skipped reason => [.reported (.colorSkipped path reason)]
    | _ => [.reported (.notAColor path)]
  | value => [.reported (.colorSkipped path (.notAnObject value.typeName))]

/-- What becomes of nodes whose names stand below `parent`, in the order of their
visit. -/
def colorFates (parent : String) : List (String × Json) → List Fate
  | [] => []
  | (name, value) :: rest =>
    colorFate (Key.joinPath parent name) value ++ colorFates parent rest

end

@[simp] theorem colors_nil (parent : String) : colors parent [] = .nil := rfl

end DesignTokens.Export
