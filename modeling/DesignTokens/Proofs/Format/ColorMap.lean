import DesignTokens.Format.Scss
import DesignTokens.Proofs.Format.GeneratedLines
import DesignTokens.Proofs.Format.SassMaps
import DesignTokens.Proofs.Tree.Each

/-!
# The map of colors

The map of colors is written line by line, and its lines are the literal of a map. Cut into tokens
it is what the grammar of maps has for the tree of colors, so the tree is read back from it.

## Implementation notes

The literal is cut into tokens by a machine that takes one character after the other. Blanks and
line feeds are passed over between tokens only: within a name or a value they belong to it.
-/

namespace DesignTokens.Scss

section Tokens

/-- Where in the literal of a map a character stands. A name and a value carry what has been read
of them so far. -/
inductive Place where
  | between
  | name (read : List Char)
  | behindName
  | behindColon
  | value (read : List Char)

/-- The token of a single mark. -/
def mark? (c : Char) : Option MapToken :=
  if c = '(' then some .opening
  else if c = ')' then some .closing
  else if c = ',' then some .comma
  else none

/-- A character that a value may have. -/
def isValueChar (c : Char) : Bool :=
  !(['\'', '"', ',', '(', ')', '\n'].contains c)

/-- The tokens of a text that starts at a place of the literal of a map. -/
def lexFrom : Place → List Char → Option (List MapToken)
  | .between, [] => some []
  | .value read, [] => some [.value (String.ofList read)]
  | _, [] => none
  | .between, c :: rest =>
    if c = ' ' ∨ c = '\n' then lexFrom .between rest
    else if c = '\'' then lexFrom (.name []) rest
    else (mark? c).bind fun token => (lexFrom .between rest).map (token :: ·)
  | .name read, c :: rest =>
    if c = '\'' then (lexFrom .behindName rest).map (.name (String.ofList read) :: ·)
    else if c = '\n' then none
    else lexFrom (.name (read ++ [c])) rest
  | .behindName, c :: rest => if c = ':' then lexFrom .behindColon rest else none
  | .behindColon, c :: rest => if c = ' ' then lexFrom (.value []) rest else none
  | .value read, c :: rest =>
    if isValueChar c then lexFrom (.value (read ++ [c])) rest
    else if c = '(' ∧ read = [] then (lexFrom .between rest).map (.opening :: ·)
    else if c = '\n' ∨ c = ',' ∨ c = ')' then
      (lexFrom .between rest).map (.value (String.ofList read) :: (mark? c).toList ++ ·)
    else none

/-- A text between tokens has some tokens whatever stands behind it. -/
def Gives (text : List Char) (tokens : List MapToken) : Prop :=
  ∀ rest, lexFrom .between (text ++ rest) = (lexFrom .between rest).map (tokens ++ ·)

variable {text first second : List Char} {tokens more : List MapToken}

theorem Gives.append (one : Gives first tokens) (two : Gives second more) :
    Gives (first ++ second) (tokens ++ more) := by
  intro rest
  rw [List.append_assoc, one, two, Option.map_map]
  simp only [Function.comp_def, List.append_assoc]

theorem gives_layout (blank : ∀ c ∈ text, c = ' ' ∨ c = '\n') : Gives text [] := by
  intro rest
  induction text with
  | nil => simp
  | cons c more ih =>
      rw [List.forall_mem_cons] at blank
      rw [List.cons_append, lexFrom, if_pos blank.1, ih blank.2]

theorem gives_opening : Gives ['('] [.opening] := fun _ => rfl

theorem gives_closing : Gives [')'] [.closing] := fun _ => rfl

theorem lexFrom_name (quote : '\'' ∉ text) (feed : '\n' ∉ text) (read rest : List Char) :
    lexFrom (.name read) (text ++ '\'' :: rest) =
      (lexFrom .behindName rest).map (.name (String.ofList (read ++ text)) :: ·) := by
  induction text generalizing read with
  | nil => simp [lexFrom]
  | cons c more ih =>
      rw [List.mem_cons, not_or] at quote feed
      rw [List.cons_append, lexFrom, if_neg (Ne.symm quote.1), if_neg (Ne.symm feed.1),
        ih quote.2 feed.2, List.append_assoc, List.singleton_append]

theorem lexFrom_value (inside : ∀ c ∈ text, isValueChar c = true) (read rest : List Char) :
    lexFrom (.value read) (text ++ rest) = lexFrom (.value (read ++ text)) rest := by
  induction text generalizing read with
  | nil => simp
  | cons c more ih =>
      rw [List.forall_mem_cons] at inside
      rw [List.cons_append, lexFrom, if_pos inside.1, ih inside.2, List.append_assoc,
        List.singleton_append]

/-- A name that a pair of quotes can hold as it stands. -/
def Quotable (name : String) : Prop :=
  '\'' ∉ name.toList ∧ '\n' ∉ name.toList

instance : DecidablePred Quotable := fun name =>
  inferInstanceAs (Decidable ('\'' ∉ name.toList ∧ '\n' ∉ name.toList))

/-- A value that can stand without quotes. -/
def Bare (value : String) : Prop :=
  ∀ c ∈ value.toList, isValueChar c = true

instance : DecidablePred Bare := fun value =>
  List.decidableBAll (fun c => isValueChar c = true) value.toList

variable {name value : String}

/-- Behind a name and its colon stands a value. -/
theorem lexFrom_entry (quotable : Quotable name) (rest : List Char) :
    lexFrom .between ("'".toList ++ name.toList ++ "': ".toList ++ rest) =
      (lexFrom (.value []) rest).map (.name name :: ·) := by
  have read := lexFrom_name quotable.1 quotable.2 [] (':' :: ' ' :: rest)
  rw [List.nil_append, String.ofList_toList] at read
  simp only [List.append_assoc]
  exact read

/-- A value ends with its line, in front of the comma if another entry follows. -/
theorem lexFrom_value_end (read : List Char) (isLast : Bool) (rest : List Char) :
    lexFrom (.value read) ((if isLast then [] else [',']) ++ '\n' :: rest) =
      (lexFrom .between rest).map
        ([.value (String.ofList read)] ++ (if isLast then [] else [.comma]) ++ ·) := by
  cases isLast <;> rfl

/-- The line of a value. -/
theorem gives_leaf (quotable : Quotable name) (bare : Bare value) (isLast : Bool) :
    Gives ("'".toList ++ name.toList ++ "': ".toList ++ value.toList ++
        (if isLast then [] else [',']) ++ ['\n'])
      ([.name name, .value value] ++ (if isLast then [] else [.comma])) := by
  intro rest
  have entry := lexFrom_entry quotable
    (value.toList ++ ((if isLast then [] else [',']) ++ '\n' :: rest))
  rw [lexFrom_value bare, List.nil_append, lexFrom_value_end, String.ofList_toList,
    Option.map_map] at entry
  simpa [Function.comp_def] using entry

/-- The line that opens a map within a map. -/
theorem gives_nested (quotable : Quotable name) :
    Gives ("'".toList ++ name.toList ++ "': (".toList ++ ['\n']) [.name name, .opening] := by
  intro rest
  have entry := lexFrom_entry quotable ('(' :: '\n' :: rest)
  have opened : lexFrom (.value []) ('(' :: '\n' :: rest) =
      (lexFrom .between rest).map (.opening :: ·) := rfl
  rw [opened, Option.map_map] at entry
  simpa [Function.comp_def] using entry

/-- The line that closes a map within a map. -/
theorem gives_closed (isLast : Bool) :
    Gives ((if isLast then ")" else "),").toList ++ ['\n'])
      ([.closing] ++ (if isLast then [] else [.comma])) := by
  intro rest
  cases isLast with
  | true => rfl
  | false =>
      change ((lexFrom .between rest).map (MapToken.comma :: ·)).map (MapToken.closing :: ·) = _
      rw [Option.map_map]
      rfl

end Tokens

section Written

theorem gives_indentation (depth : Int) : Gives (Tree.indentation "  " depth).toList [] := by
  have units : ∀ c ∈ "  ".toList, c = ' ' := by simp
  apply gives_layout
  rw [Tree.toList_indentation]
  intro c mem
  obtain ⟨unit, listed, inside⟩ := List.mem_flatten.mp mem
  rw [List.eq_of_mem_replicate listed] at inside
  exact Or.inl (units c inside)

/-- The lines of a level give its tokens. -/
theorem gives_render {tree : Tree String} (readable : tree.Each Quotable Bare) (depth : Int) :
    Gives (((tree.map Json.string).render mapStyle "  " depth).flatMap fun line =>
        line.toList ++ ['\n'])
      (levelTokens tree) := by
  induction tree generalizing depth with
  | nil => exact gives_layout nofun
  | leaf name value rest ih =>
      obtain ⟨quotable, bare, others⟩ := readable
      have line := (gives_indentation depth).append (gives_leaf quotable bare rest.isEmpty)
      have whole := line.append (ih others depth)
      rw [levelTokens_leaf]
      convert whole using 1
      · cases empty : rest.isEmpty <;>
          simp [Tree.map, Tree.render, mapStyle, Tree.isEmpty_map, empty]
      · simp [separator]
  | node name children rest ihc ih =>
      obtain ⟨quotable, below, others⟩ := readable
      have opened := (gives_indentation depth).append (gives_nested quotable)
      have closed := (gives_indentation depth).append (gives_closed rest.isEmpty)
      have whole := ((opened.append (ihc below (depth + 1))).append closed).append (ih others depth)
      rw [levelTokens_node]
      convert whole using 1
      · simp [Tree.map, Tree.render, mapStyle, Tree.isEmpty_map]
      · simp [separator]

variable {model : Model} {tree : Tree String}

/-- The literal of the map of colors. -/
def mapLiteral (tree : Tree String) : List Char :=
  if tree.isEmpty then ['(', ')']
  else
    '(' :: '\n' :: (((tree.map Json.string).render mapStyle "  " 1).flatMap fun line =>
      line.toList ++ ['\n']) ++ [')']

/-- The lines of the map are a variable and the literal. -/
theorem toList_joinLines_colorMap (held : model.colors = tree.map .string) :
    (Text.joinLines (colorMap model)).toList = "$colors: ".toList ++ mapLiteral tree ++ [';'] := by
  rw [colorMap, mapLiteral, held, Tree.isEmpty_map]
  split
  · rfl
  · rw [Text.toList_joinLines_append_last]
    simp

theorem gives_mapLiteral (readable : tree.Each Quotable Bare) :
    Gives (mapLiteral tree) (mapTokens tree) := by
  have feed : Gives ['\n'] [] := gives_layout (by simp)
  rw [mapLiteral, mapTokens]
  split
  case isTrue empty =>
      rw [Tree.isEmpty_iff.mp empty]
      exact gives_opening.append gives_closing
  case isFalse =>
      have level := gives_render readable 1
      exact ((gives_opening.append feed).append level).append gives_closing

/-- The map of colors reads back. If names have no quotes and no line feeds and values have no
quotes, commas, parentheses and line feeds, the lines of the map are a variable and a literal, and
the tokens of the literal are those of the tree: its parentheses are balanced, and single commas
stand between the entries of a level and nowhere else. The reader accepts the tokens of maps and
nothing else, and it gives the tree with its entries in their order. -/
theorem colorMap_reads_back (held : model.colors = tree.map .string)
    (readable : tree.Each Quotable Bare) :
    ∃ literal,
      (Text.joinLines (colorMap model)).toList = "$colors: ".toList ++ literal ++ [';'] ∧
      lexFrom .between literal = some (mapTokens tree) ∧
      (∃ word : DyckWord, (mapTokens tree).filterMap MapToken.step? = word.toList) ∧
      (∀ tokens found, readMap tokens = some found ↔ tokens = mapTokens found) ∧
      (lexFrom .between literal).bind readMap = some tree := by
  have tokens : lexFrom .between (mapLiteral tree) = some (mapTokens tree) := by
    have given := gives_mapLiteral readable []
    rw [List.append_nil] at given
    rw [given]
    simp [lexFrom]
  refine ⟨mapLiteral tree, toList_joinLines_colorMap held, tokens, ⟨_, filterMap_mapTokens tree⟩,
    fun _ _ => readMap_eq_some_iff, ?_⟩
  rw [tokens]
  exact readMap_eq_some_iff.mpr rfl

/-- A tree of colors with a map of nothing, and a name with marks of the grammar. -/
def markedColors : Tree String :=
  .node "brand" (.leaf "sky, (light)" "#87ceeb" (.node "none" .nil .nil))
    (.leaf "ink" "rebeccapurple" .nil)

theorem colorMap_reads_back_markedColors :
    markedColors.Each Quotable Bare ∧
    colorMap ⟨markedColors.map .string, [], none⟩ =
      ["$colors: (", "  'brand': (", "    'sky, (light)': #87ceeb,", "    'none': (", "    )",
        "  ),", "  'ink': rebeccapurple", ");"] ∧
    ∃ literal,
      (Text.joinLines (colorMap ⟨markedColors.map .string, [], none⟩)).toList =
        "$colors: ".toList ++ literal ++ [';'] ∧
      (lexFrom .between literal).bind readMap = some markedColors := by
  have readable : markedColors.Each Quotable Bare := by decide
  have held : (Model.mk (markedColors.map .string) [] none).colors = markedColors.map .string := rfl
  obtain ⟨literal, spelled, -, -, -, back⟩ := colorMap_reads_back held readable
  exact ⟨readable, by decide, literal, spelled, back⟩

end Written

end DesignTokens.Scss
