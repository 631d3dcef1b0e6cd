import DesignTokens.Tree.Basic

/-!
# Rendering trees

A tree is rendered with one line for every leaf, and with one line to open and one
to close every subtree around the lines of its entries, which are indented once more.
-/

namespace DesignTokens.Tree

variable {α : Type}

/-- How the entries of a tree are written. A leaf and the close of a subtree are told
whether their entry is the last one of its tree. -/
structure EntryStyle (α : Type) where
  leaf : String → α → Bool → String
  opening : String → String
  closing : Bool → String

/-- The indentation of a depth: a unit as many times, and nothing for a negative one. -/
def indentation (unit : String) (depth : Int) : String :=
  String.join (List.replicate depth.toNat unit)

/-- The lines of a tree at a depth. -/
def render (style : EntryStyle α) (unit : String) (depth : Int) : Tree α → List String
  | nil => []
  | leaf name value rest =>
    (indentation unit depth ++ style.leaf name value rest.isEmpty) ::
      render style unit depth rest
  | node name children rest =>
    (indentation unit depth ++ style.opening name) ::
      render style unit (depth + 1) children ++
        (indentation unit depth ++ style.closing rest.isEmpty) ::
          render style unit depth rest

@[simp] theorem render_nil (style : EntryStyle α) (unit : String) (depth : Int) :
    render style unit depth nil = [] := rfl

end DesignTokens.Tree
