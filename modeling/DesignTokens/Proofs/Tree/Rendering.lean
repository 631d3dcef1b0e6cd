import DesignTokens.Proofs.Tree.Outline
import DesignTokens.Tree.Render

/-!
# Rendering along the outline

A tree is rendered by writing the lines of its outline one after the other, each of them once.
The lines of a subtree are those that it has by itself at its own depth, and a depth puts its
indentation in front of every line.

## Implementation notes

The texts are given by actions of any monad, so that a call for a text can be recorded, keep a
count or fail. With actions that only give a text the lines are those of `render`.
-/

universe u

namespace DesignTokens.Tree

variable {α : Type}

/-- How the entries of a tree are written by actions: the same calls as those of a style, but
each of them may have an effect. -/
structure EntryWriter (m : Type → Type u) (α : Type) where
  leaf : String → α → Bool → m String
  opening : String → m String
  closing : Bool → m String

section Writing

variable {m : Type → Type u} [Monad m]

/-- The lines of a tree at a depth, written by actions. -/
def renderM (writer : EntryWriter m α) (unit : String) (depth : Int) : Tree α → m (List String)
  | nil => pure []
  | leaf name value rest => do
    let text ← writer.leaf name value rest.isEmpty
    let others ← renderM writer unit depth rest
    pure ((indentation unit depth ++ text) :: others)
  | node name children rest => do
    let opening ← writer.opening name
    let inner ← renderM writer unit (depth + 1) children
    let closing ← writer.closing rest.isEmpty
    let others ← renderM writer unit depth rest
    pure ((indentation unit depth ++ opening) :: inner ++
      (indentation unit depth ++ closing) :: others)

/-- The texts of a style as actions without an effect. -/
def EntryStyle.writer (style : EntryStyle α) : EntryWriter m α where
  leaf name value last := pure (style.leaf name value last)
  opening name := pure (style.opening name)
  closing last := pure (style.closing last)

/-- The call for the text of a line. -/
def EntryWriter.call (writer : EntryWriter m α) (line : Line α) : m String :=
  match line.kind with
  | .leaf value => writer.leaf line.name value line.last
  | .opening => writer.opening line.name
  | .closing => writer.closing line.last

/-- A line as it is written: its text, indented once for every name in front of its own. -/
def EntryWriter.write (writer : EntryWriter m α) (unit : String) (depth : Int) (line : Line α) :
    m String :=
  (indentation unit (depth + line.place.length) ++ ·) <$> writer.call line

@[simp] theorem EntryStyle.writer_leaf (style : EntryStyle α) (name : String) (value : α)
    (last : Bool) : (style.writer : EntryWriter m α).leaf name value last =
      pure (style.leaf name value last) := rfl

@[simp] theorem EntryStyle.writer_opening (style : EntryStyle α) (name : String) :
    (style.writer : EntryWriter m α).opening name = pure (style.opening name) := rfl

@[simp] theorem EntryStyle.writer_closing (style : EntryStyle α) (last : Bool) :
    (style.writer : EntryWriter m α).closing last = pure (style.closing last) := rfl

/-- The lines of a subtree are written at the depth of the subtree. -/
theorem write_comp_below (writer : EntryWriter m α) (unit : String) (depth : Int)
    (above : List String) :
    writer.write unit depth ∘ Line.below above = writer.write unit (depth + above.length) := by
  funext line
  rw [Function.comp_apply, EntryWriter.write, EntryWriter.write, Line.place_below,
    List.length_append, Int.natCast_add, ← Int.add_assoc]
  rfl

variable [LawfulMonad m]

/-- Actions without an effect write the lines of their style. -/
theorem renderM_writer (style : EntryStyle α) (unit : String) (depth : Int) (tree : Tree α) :
    tree.renderM (style.writer : EntryWriter m α) unit depth =
      pure (tree.render style unit depth) := by
  induction tree generalizing depth with
  | nil => rfl
  | leaf name value rest ih => simp [renderM, render, ih]
  | node name children rest ihc ih => simp [renderM, render, ihc, ih]

/-- Rendering writes the lines of the outline one after the other. -/
theorem renderM_eq_mapM (writer : EntryWriter m α) (unit : String) (depth : Int)
    (tree : Tree α) :
    tree.renderM writer unit depth = tree.outline.mapM (writer.write unit depth) := by
  induction tree generalizing depth with
  | nil => rfl
  | leaf name value rest ih =>
      rw [renderM, outline, List.mapM_cons, ih]
      simp [EntryWriter.write, EntryWriter.call]
  | node name children rest ihc ih =>
      rw [renderM, outline, List.mapM_append, List.mapM_cons, List.mapM_cons, List.mapM_map,
        write_comp_below, ihc, ih]
      simp [EntryWriter.write, EntryWriter.call]

/-- The lines of a subtree within a tree are the lines of the subtree at its own depth. -/
theorem mapM_write_below (writer : EntryWriter m α) (unit : String) (depth : Int)
    (above : List String) (children : Tree α) :
    (children.outline.map (Line.below above)).mapM (writer.write unit depth) =
      children.renderM writer unit (depth + above.length) := by
  rw [List.mapM_map, write_comp_below, renderM_eq_mapM]

theorem mapM_map_functor {β : Type} (change : String → String) (action : β → m String)
    (items : List β) :
    (items.mapM fun item => change <$> action item) = List.map change <$> items.mapM action := by
  induction items with
  | nil => simp
  | cons item rest ih => simp [List.mapM_cons, ih]

/-- The indentation of a line is that of the depth and that of its level. -/
theorem write_eq_map (writer : EntryWriter m α) (unit : String) (depth : Nat) (line : Line α) :
    writer.write unit depth line =
      (String.join (List.replicate depth unit) ++ ·) <$> writer.write unit 0 line := by
  have split : indentation unit (depth + line.place.length) =
      String.join (List.replicate depth unit) ++ indentation unit (0 + line.place.length) := by
    rw [indentation, indentation, ← Int.natCast_add, Int.zero_add, Int.toNat_natCast,
      Int.toNat_natCast, List.replicate_add, String.join_append]
  simp only [EntryWriter.write, split, Functor.map_map, String.append_assoc]

/-- At a depth each line has the indentation of the depth in front. -/
theorem renderM_depth (writer : EntryWriter m α) (unit : String) (depth : Nat) (tree : Tree α) :
    tree.renderM writer unit depth =
      List.map (String.join (List.replicate depth unit) ++ ·) <$> tree.renderM writer unit 0 := by
  rw [renderM_eq_mapM, renderM_eq_mapM, ← mapM_map_functor]
  exact congrArg (List.mapM · tree.outline) (funext (write_eq_map writer unit depth))

end Writing

/-- Rendering keeps in step with the listing of leaves. Each line of the outline is written by
one call, in order, which for a leaf gets the last name of its path, its value, and whether it is
the last entry of its level. The leaf lines are the leaves of the tree, and every subtree is
opened once and closed once around the lines that its children have at their depth. A tree at a
depth has the lines of the tree at depth 0, each with the indentation repeated as many times in
front. Calls without an effect give the lines of `render`. -/
theorem render_in_step {m : Type → Type u} [Monad m] [LawfulMonad m] (writer : EntryWriter m α)
    (unit : String) {tree : Tree α} (distinct : tree.Distinct) :
    tree.Outlined ∧
    (∀ depth : Nat,
      tree.renderM writer unit depth = tree.outline.mapM (writer.write unit depth) ∧
      (∀ (above : List String) (children : Tree α),
        (children.outline.map (Line.below above)).mapM (writer.write unit depth) =
          children.renderM writer unit (depth + above.length)) ∧
      tree.renderM writer unit depth =
        List.map (String.join (List.replicate depth unit) ++ ·) <$> tree.renderM writer unit 0) ∧
    ∀ (style : EntryStyle α) (depth : Nat),
      tree.renderM (style.writer : EntryWriter m α) unit depth =
        pure (tree.render style unit depth) :=
  ⟨outlined distinct, fun depth => ⟨renderM_eq_mapM writer unit depth tree,
    mapM_write_below writer unit depth, renderM_depth writer unit depth tree⟩,
    fun style depth => renderM_writer style unit depth tree⟩

/-- A subtree that stands last, with an empty subtree in it that stands last. -/
def palette : Tree String :=
  leaf "ink" "black" (node "brand" (leaf "sky" "blue" (node "spare" nil nil)) nil)

/-- Calls that record the names of the leaves. -/
def leafRecorder : EntryWriter (StateM (List String)) String where
  leaf name value last := do
    modify (· ++ [name])
    pure (name ++ "=" ++ value ++ if last then "" else ",")
  opening name := pure (name ++ " <")
  closing last := pure (if last then ">" else ">,")

theorem render_in_step_recordedLeaves :
    palette.Distinct ∧ LawfulMonad (StateM (List String)) ∧ palette.Outlined ∧
    (palette.renderM leafRecorder "  " (1 : Nat)).run [] =
      (["  ink=black,", "  brand <", "    sky=blue,", "    spare <", "    >", "  >"],
        ["ink", "sky"]) := by
  have distinct : palette.Distinct := by simp [palette, Distinct, names]
  obtain ⟨outlined, written, _⟩ := render_in_step leafRecorder "  " distinct
  refine ⟨distinct, inferInstance, outlined, ?_⟩
  rw [(written 1).1]
  rfl

end DesignTokens.Tree
