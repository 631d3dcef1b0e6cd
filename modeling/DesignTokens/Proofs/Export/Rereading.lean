import DesignTokens.Export.Read
import DesignTokens.Proofs.Export.ColorLeaves
import DesignTokens.Proofs.Export.FoundGradients
import DesignTokens.Proofs.Export.FoundStyles

/-!
# Reading a model again

A model is written as an export in which every token is a leaf below its names. The
names, the values and the order that the first reading found are those that the second
one finds: reading what is written from a model that was read gives the model.
-/

namespace DesignTokens.Export

/-- Objects under any names make a group. -/
theorem ofMembers_of_objects {members : List (String × Json)}
    (objects : ∀ member ∈ members, ∃ inner, member.2 = .object inner) :
    Node.ofMembers members = .group members := by
  have untagged : Node.tagged? members = none := by
    unfold Node.tagged?
    split
    case h_1 tag payload found _ =>
        obtain ⟨inner, same⟩ := objects _ (Entries.mem_of_get?_eq_some found)
        cases same
    case h_2 => rfl
  rw [Node.ofMembers, untagged]

/-- Named values that are written as objects make a group. -/
theorem ofMembers_mapValues {α : Type} {write : α → Json} (entries : Entries α)
    (object : ∀ value, ∃ inner, write value = .object inner) :
    Node.ofMembers (entries.mapValues write) = .group (entries.mapValues write) := by
  apply ofMembers_of_objects
  intro member mem
  obtain ⟨entry, _, rfl⟩ := List.mem_map.mp mem
  exact object entry.2

theorem leafNode_eq_object (tag : String) (payload : Json) :
    ∃ inner, leafNode tag payload = .object inner :=
  ⟨_, rfl⟩

/-- The colors of a model as nodes. -/
def colorNodes (tree : Tree Json) : List (String × Json) :=
  (tree.map (leafNode "color")).toMembers

/-- The styles of a locale as nodes. -/
def styleNodes (styles : Entries TextStyle) : List (String × Json) :=
  styles.mapValues fun style => leafNode "custom-fontStyle" (.object style.toMembers)

/-- The locales of a device as nodes. -/
def localeNodes (locales : Entries (Entries TextStyle)) : List (String × Json) :=
  locales.mapValues fun styles => .object (styleNodes styles)

/-- The devices of a model as nodes. -/
def deviceNodes (devices : Entries (Entries (Entries TextStyle))) : List (String × Json) :=
  devices.mapValues fun locales => .object (localeNodes locales)

/-- The gradients of a category as nodes. -/
def gradientNodes (entries : Entries Gradient) : List (String × Json) :=
  entries.mapValues fun gradient => leafNode "custom-gradient" (.object gradient.toPayload)

/-- The categories of a model as nodes. -/
def categoryNodes (categories : Entries (Entries Gradient)) : List (String × Json) :=
  categories.mapValues fun entries => .object (gradientNodes entries)

/-- The export that a model is written as. It has a gradient section exactly if the model
has one. -/
def ofModel (tokens : Model) : Entries Json :=
  [("color", .object (colorNodes tokens.colors)),
    ("font", .object (deviceNodes tokens.typography))] ++
  match tokens.gradients with
  | some categories => [("gradient", .object (categoryNodes categories))]
  | none => []

section Colors

theorem colorNodes_leaf (name : String) (value : Json) (rest : Tree Json) :
    colorNodes (.leaf name value rest) = (name, leafNode "color" value) :: colorNodes rest := rfl

theorem colorNodes_node (name : String) (children rest : Tree Json) :
    colorNodes (.node name children rest) =
      (name, .object (colorNodes children)) :: colorNodes rest := rfl

theorem ofMembers_colorNodes (tree : Tree Json) :
    Node.ofMembers (colorNodes tree) = .group (colorNodes tree) := by
  apply ofMembers_of_objects
  induction tree with
  | nil => exact fun _ mem => absurd mem List.not_mem_nil
  | leaf name value rest ih =>
      intro member mem
      rw [colorNodes_leaf] at mem
      rcases List.mem_cons.mp mem with rfl | mem
      · exact leafNode_eq_object "color" value
      · exact ih member mem
  | node name children rest _ ih =>
      intro member mem
      rw [colorNodes_node] at mem
      rcases List.mem_cons.mp mem with rfl | mem
      · exact ⟨_, rfl⟩
      · exact ih member mem

/-- A leaf that is read again as it is: its path is made of plain segments and its value
is clean. -/
def Stable (entry : List String × String) : Prop :=
  (∀ segment ∈ entry.1, Key.Plain segment) ∧ Color.clean entry.2 = entry.2

/-- The leaf at a plain name is visited at the segments of its parent and the name. -/
theorem colorEntriesAt_leafNode {parent name value : String} (plain : Key.Plain name)
    (clean : Color.clean value = value) :
    colorEntriesAt (Key.joinPath parent name) (leafNode "color" (.string value)) =
      [(Key.segments parent ++ [name], value)] := by
  have kind : Node.ofMembers [("type", .string "color"), ("value", .string value)] =
      .color value := by
    have read := ofJson_leafNode "color" (.string value)
    rw [Node.ofLeaf, if_pos rfl, clean] at read
    exact read
  rw [leafNode, colorEntriesAt, kind, Key.segments_joinPath, Key.segments_of_plain plain]
  simp

/-- The colors of written nodes are the leaves of the tree in its order. -/
theorem colorEntriesBelow_colorNodes {tree : Tree String} (full : tree.Full)
    (stable : ∀ entry ∈ tree.leaves, Stable entry) (parent : String) :
    colorEntriesBelow parent (colorNodes (tree.map .string)) =
      tree.leaves.map fun entry => (Key.segments parent ++ entry.1, entry.2) := by
  induction tree generalizing parent with
  | nil => rfl
  | leaf name value rest ih =>
      rw [Tree.leaves_leaf] at stable ⊢
      have own := stable ([name], value) List.mem_cons_self
      have plain : Key.Plain name := own.1 name List.mem_cons_self
      rw [Tree.map, colorNodes_leaf, colorEntriesBelow, colorEntriesAt_leafNode plain own.2,
        ih full fun entry mem => stable entry (List.mem_cons_of_mem _ mem)]
      rfl
  | node name children rest ihc ih =>
      obtain ⟨occupied, below, tail⟩ := full
      rw [Tree.leaves_node] at stable ⊢
      have inner : ∀ entry ∈ children.leaves, Stable (under name entry) := fun entry mem =>
        stable _ (List.mem_append_left _ (List.mem_map_of_mem mem))
      obtain ⟨entry, mem⟩ := List.exists_mem_of_ne_nil _ (Tree.leaves_ne_nil below occupied)
      have plain : Key.Plain name := (inner entry mem).1 name List.mem_cons_self
      have stableBelow : ∀ entry ∈ children.leaves, Stable entry := fun entry mem =>
        ⟨fun segment here => (inner entry mem).1 segment (List.mem_cons_of_mem _ here),
          (inner entry mem).2⟩
      have segments : Key.segments (Key.joinPath parent name) = Key.segments parent ++ [name] := by
        rw [Key.segments_joinPath, Key.segments_of_plain plain]
      rw [Tree.map, colorNodes_node, colorEntriesBelow,
        colorEntriesAt_of_group (ofMembers_colorNodes _), ihc below stableBelow, segments,
        ih tail fun entry mem => stable entry (List.mem_append_right _ mem), List.map_append,
        List.map_map]
      simp [under, Function.comp_def]

theorem stable_of_mem_colors {parent : String} {nodes : List (String × Json)}
    {entry : List String × String} (mem : entry ∈ (colors parent nodes).leaves) :
    Stable entry := by
  refine ⟨plain_of_mem_colors mem, ?_⟩
  obtain ⟨_, _, raw, value⟩ :=
    colorEntries_named.2 nodes parent entry (leaves_colors_subset parent nodes mem)
  rw [value, Color.clean_clean]

/-- The nodes written from a tree of stable leaves are read as the tree. -/
theorem colors_colorNodes {tree : Tree String} (distinct : tree.Distinct) (full : tree.Full)
    (stable : ∀ entry ∈ tree.leaves, Stable entry) :
    colors "" (colorNodes (tree.map .string)) = tree := by
  have visited : colorEntriesBelow "" (colorNodes (tree.map .string)) = tree.leaves := by
    rw [colorEntriesBelow_colorNodes full stable]
    simp
  have free : PrefixFree (colorEntriesBelow "" (colorNodes (tree.map .string))) := by
    rw [visited]
    exact Tree.prefixFree_leaves distinct
  rw [colors_of_prefixFree free, visited, Tree.insertAll_leaves distinct full]

end Colors

section Styles

theorem ofJson_style {style : TextStyle} (stored : style.Stored) :
    Node.ofJson (leafNode "custom-fontStyle" (.object style.toMembers)) = .style style := by
  rw [ofJson_leafNode, Node.ofLeaf, if_neg (by decide), if_pos rfl]
  simp only [TextStyle.check_toMembers stored]

/-- Reading written styles puts them one by one. -/
theorem stylesInto_styleNodes {styles : Entries TextStyle}
    (stored : ∀ entry ∈ styles, entry.2.Stored) (found : Entries TextStyle) :
    stylesInto found (styleNodes styles) = found.putAll styles := by
  induction styles generalizing found with
  | nil => rfl
  | cons entry rest ih =>
      have own := ofJson_style (stored entry List.mem_cons_self)
      have first : stylesInto found (styleNodes (entry :: rest)) =
          stylesInto (found.put entry.1 entry.2) (styleNodes rest) :=
        stylesInto_cons_of_style own found entry.1 (styleNodes rest)
      rw [first]
      exact ih (fun other mem => stored other (List.mem_cons_of_mem _ mem)) _

theorem stylesInto_nil_styleNodes {styles : Entries TextStyle} (stored : StoredStyles styles) :
    stylesInto [] (styleNodes styles) = styles := by
  rw [stylesInto_styleNodes stored.each, Entries.putAll_nil_of_nodup stored.distinct]

/-- A written locale is opened under its name. -/
theorem putLocale_styleNodes (found : Entries (Entries TextStyle)) (name : String)
    (styles : Entries TextStyle) :
    putLocale found name (.object (styleNodes styles)) =
      found.update name [] fun known => stylesInto known (styleNodes styles) := by
  have group : Node.ofJson (.object (styleNodes styles)) = .group (styleNodes styles) :=
    ofMembers_mapValues styles fun _ => leafNode_eq_object _ _
  simp only [putLocale, group]

theorem locales_localeNodes {found : Entries (Entries TextStyle)}
    (stored : StoredLocales found) : locales (localeNodes found) = found := by
  have same : found.mapValues (fun styles => stylesInto [] (styleNodes styles)) = found :=
    Entries.mapValues_eq_self fun entry mem =>
      stylesInto_nil_styleNodes (stored.each entry mem).2
  have collected : (localeNodes found).foldl
      (fun found member => putLocale found member.1 member.2) [] = found := by
    rw [localeNodes, Entries.mapValues, List.foldl_map]
    simp only [putLocale_styleNodes]
    exact (Entries.foldl_update_nil_of_nodup []
      (fun styles known => stylesInto known (styleNodes styles)) stored.distinct).trans same
  rw [locales_eq_filter_foldl, collected, List.filter_eq_self]
  intro entry mem
  simpa using (stored.each entry mem).1

/-- The nodes written from stored locales are read as the locales. -/
theorem typography_deviceNodes {devices : Entries (Entries (Entries TextStyle))}
    (stored : ∀ entry ∈ devices, entry.2 ≠ [] ∧ StoredLocales entry.2) :
    typography (deviceNodes devices) = devices := by
  rw [typography, deviceNodes, Entries.mapValues, List.filterMap_map]
  refine (List.filterMap_congr ?_).trans List.filterMap_some
  intro entry mem
  obtain ⟨device, found⟩ := entry
  obtain ⟨nonempty, own⟩ := stored (device, found) mem
  cases found with
  | nil => exact absurd rfl nonempty
  | cons first rest => simp only [Function.comp, locales_localeNodes own]

end Styles

section Gradients

theorem gradientsAt_leafNode {gradient : Gradient} (stored : gradient.Stored) (path : String) :
    gradientsAt path (leafNode "custom-gradient" (.object gradient.toPayload)) =
      [⟨path, gradient⟩] := by
  have kind : Node.ofMembers
      [("type", .string "custom-gradient"), ("value", .object gradient.toPayload)] =
        .gradient gradient := by
    have read := ofJson_leafNode "custom-gradient" (.object gradient.toPayload)
    rw [Node.ofLeaf, if_neg (by decide), if_neg (by decide), if_pos rfl] at read
    simp only [Gradient.checkPayload_toPayload stored] at read
    exact read
  rw [leafNode, gradientsAt, kind]

/-- The written gradients of a category are visited in their order. -/
theorem gradientsBelow_gradientNodes {category : String} {entries : Entries Gradient}
    (stored : ∀ entry ∈ entries, entry.2.Stored) :
    gradientsBelow category (gradientNodes entries) =
      entries.map fun entry => ⟨Key.joinPath category entry.1, entry.2⟩ := by
  induction entries with
  | nil => rfl
  | cons entry rest ih =>
      have tail := ih fun other mem => stored other (List.mem_cons_of_mem _ mem)
      have first := gradientsAt_leafNode (stored entry List.mem_cons_self)
        (Key.joinPath category entry.1)
      change gradientsAt _ (leafNode _ _) ++ gradientsBelow category (gradientNodes rest) = _
      rw [first, tail]
      rfl

theorem gradientsAt_gradientNodes (path : String) (entries : Entries Gradient) :
    gradientsAt path (.object (gradientNodes entries)) =
      gradientsBelow path (gradientNodes entries) := by
  have group : Node.ofMembers (gradientNodes entries) = .group (gradientNodes entries) :=
    ofMembers_mapValues entries fun _ => leafNode_eq_object _ _
  rw [gradientsAt, group]

/-- Putting the gradients of a stored category changes this category alone. -/
theorem foldl_putGradient_category {category : String} {entries : Entries Gradient}
    (nonempty : entries ≠ []) (stored : StoredCategory category entries)
    (found : Entries (Entries Gradient)) :
    (gradientsAt category (.object (gradientNodes entries))).foldl putGradient found =
      found.update category [] fun known => Entries.putAll known entries := by
  rw [gradientsAt_gradientNodes,
    gradientsBelow_gradientNodes fun entry mem => (stored.each entry mem).1, List.foldl_map]
  have step : ∀ (found : Entries (Entries Gradient)), ∀ entry ∈ entries,
      putGradient found ⟨Key.joinPath category entry.1, entry.2⟩ =
        found.update category [] fun known => Entries.put entry.1 entry.2 known := by
    intro found entry mem
    simp only [putGradient, (stored.each entry mem).2]
  rw [List.foldl_ext _ _ found step]
  exact Entries.foldl_update_self category []
    (fun (entry : String × Gradient) known => Entries.put entry.1 entry.2 known) nonempty found

/-- Reading written categories puts them one by one, each as a whole. -/
theorem foldl_putGradient_categoryNodes {categories : Entries (Entries Gradient)}
    (stored : ∀ entry ∈ categories, entry.2 ≠ [] ∧ StoredCategory entry.1 entry.2)
    (found : Entries (Entries Gradient)) :
    (gradientsBelow "" (categoryNodes categories)).foldl putGradient found =
      categories.foldl (fun found entry =>
        found.update entry.1 [] fun known => Entries.putAll known entry.2) found := by
  induction categories generalizing found with
  | nil => rfl
  | cons entry rest ih =>
      obtain ⟨category, entries⟩ := entry
      obtain ⟨nonempty, own⟩ := stored (category, entries) List.mem_cons_self
      have tail := ih fun other mem => stored other (List.mem_cons_of_mem _ mem)
      change (gradientsAt (Key.joinPath "" category) (.object (gradientNodes entries)) ++
        gradientsBelow "" (categoryNodes rest)).foldl putGradient found = _
      rw [List.foldl_append, Key.joinPath_empty, foldl_putGradient_category nonempty own, tail]
      rfl

/-- The nodes written from stored categories are read as the categories. -/
theorem gradients_categoryNodes {categories : Entries (Entries Gradient)}
    (stored : StoredCategories categories) :
    gradients (categoryNodes categories) = categories := by
  have same : categories.mapValues (fun entries => Entries.putAll [] entries) = categories :=
    Entries.mapValues_eq_self fun entry mem =>
      Entries.putAll_nil_of_nodup (stored.each entry mem).2.distinct
  rw [gradients, foldl_putGradient_categoryNodes stored.each]
  exact (Entries.foldl_update_nil_of_nodup []
    (fun entries known => Entries.putAll known entries) stored.distinct).trans same

end Gradients

section Model

/-- A model as an export gives it. Its colors are texts in a tree without repeated names and
empty subtrees, all of whose leaves are stable, and its styles and gradients are stored. -/
structure NormalForm (tokens : Model) : Prop where
  colors : ∃ tree : Tree String, tokens.colors = tree.map .string ∧ tree.Distinct ∧ tree.Full ∧
    ∀ entry ∈ tree.leaves, Stable entry
  typography : ∀ entry ∈ tokens.typography, entry.2 ≠ [] ∧ StoredLocales entry.2
  gradients : ∀ categories ∈ tokens.gradients, StoredCategories categories

/-- Whatever an export holds, its model is in normal form. -/
theorem normalForm_model (sections : Entries Json) : NormalForm (model sections) := by
  refine ⟨⟨_, rfl, colors_distinct .., colors_full .., fun _ => stable_of_mem_colors⟩,
    fun _ => storedLocales_of_mem_typography, ?_⟩
  intro categories found
  obtain ⟨nodes, _, rfl⟩ := Option.map_eq_some_iff.mp found
  exact storedCategories_gradients nodes

theorem colorSection_ofModel (tokens : Model) : section? "color" (ofModel tokens) =
    some (colorNodes tokens.colors) := rfl

theorem fontSection_ofModel (tokens : Model) : section? "font" (ofModel tokens) =
    some (deviceNodes tokens.typography) := rfl

theorem gradientSection_ofModel (tokens : Model) : section? "gradient" (ofModel tokens) =
    tokens.gradients.map categoryNodes := by
  obtain ⟨colors, typography, gradients⟩ := tokens
  cases gradients with
  | none => rfl
  | some categories => rfl

/-- The export written from a model in normal form is read as the model. -/
theorem model_ofModel {tokens : Model} (normal : NormalForm tokens) :
    model (ofModel tokens) = tokens := by
  obtain ⟨tree, texts, distinct, full, stable⟩ := normal.colors
  have colors_again : colors "" (colorNodes tokens.colors) = tree := by
    rw [texts, colors_colorNodes distinct full stable]
  have typography_again := typography_deviceNodes normal.typography
  have gradients_again : (tokens.gradients.map categoryNodes).map gradients =
      tokens.gradients := by
    cases found : tokens.gradients with
    | none => rfl
    | some categories =>
        exact congrArg some (gradients_categoryNodes (normal.gradients categories found))
  rw [model, colorSection_ofModel, fontSection_ofModel, gradientSection_ofModel,
    Option.getD_some, Option.getD_some, colors_again, typography_again, gradients_again, ← texts]

/-- Reading is idempotent: the export written from a model that was read is read as the same
model, in the same order on every level. -/
theorem model_ofModel_model (sections : Entries Json) :
    model (ofModel (model sections)) = model sections :=
  model_ofModel (normalForm_model sections)

end Model

end DesignTokens.Export
