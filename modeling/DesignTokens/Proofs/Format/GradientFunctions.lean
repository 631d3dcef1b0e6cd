import DesignTokens.Proofs.Format.Artifacts
import DesignTokens.Proofs.Number.Characters

/-!
# Gradient functions

A gradient is drawn as the call of a function whose arguments are a direction and one text for each
stop. The call is read back from its text as long as no color has a mark of a call in it, unless
the gradient has no stops: the comma behind the direction is written all the same, and an empty
argument stands behind it.
-/

namespace DesignTokens

namespace Text

theorem occursIn_iff {part whole : List Char} : occursIn part whole = true ↔ part <:+: whole := by
  induction whole with
  | nil => simp [occursIn]
  | cons c rest ih =>
      rw [occursIn, Bool.or_eq_true, ih, List.isPrefixOf_iff_prefix, List.infix_cons_iff]

end Text

theorem mapM_eq_ok {ε α β : Type} {step : α → Except ε β} {value : α → β} {items : List α}
    (each : ∀ item ∈ items, step item = .ok (value item)) :
    items.mapM step = .ok (items.map value) := by
  induction items with
  | nil => rfl
  | cons item rest ih =>
      rw [List.forall_mem_cons] at each
      rw [List.mapM_cons, each.1, ih each.2]
      rfl

namespace Css

section Calls

/-- The call of a function. -/
structure Call where
  name : String
  arguments : List String
  deriving DecidableEq, Repr

/-- An argument without the space behind the comma in front of it. -/
def withoutGap : List Char → List Char
  | ' ' :: rest => rest
  | text => text

/-- The arguments that stand between commas. -/
def readArguments (inside : List Char) : List (List Char) :=
  match inside.splitOn ',' with
  | [] => []
  | first :: others => first :: others.map withoutGap

/-- The call that a text is: a name, and its arguments in parentheses, which have no others in
them. -/
def readCall? (text : String) : Option Call :=
  match text.toList.dropWhile (· ≠ '(') with
  | [] => none
  | _ :: rest =>
    if rest.getLast? = some ')' ∧ '(' ∉ rest.dropLast ∧ ')' ∉ rest.dropLast then
      some ⟨String.ofList (text.toList.takeWhile (· ≠ '(')),
        (readArguments rest.dropLast).map String.ofList⟩
    else none

/-- A text without the marks of a call. -/
def Unmarked (text : String) : Prop :=
  ',' ∉ text.toList ∧ '(' ∉ text.toList ∧ ')' ∉ text.toList

instance (text : String) : Decidable (Unmarked text) :=
  inferInstanceAs (Decidable (_ ∧ _))

theorem unmarked_append {first second : String} :
    Unmarked (first ++ second) ↔ Unmarked first ∧ Unmarked second := by
  simp only [Unmarked, String.toList_append, List.mem_append, not_or]
  tauto

theorem unmarked_cssText (x : Number) : Unmarked x.cssText := by
  have chars := x.normalize.numberChars_text
  exact ⟨chars.not_mem (by decide), chars.not_mem (by decide), chars.not_mem (by decide)⟩

variable {arguments : List String}

/-- The space behind a comma counts as the start of the argument. -/
theorem intercalate_gap (first : List Char) (others : List (List Char)) :
    [',', ' '].intercalate (first :: others) =
      [','].intercalate (first :: others.map (' ' :: ·)) := by
  induction others generalizing first with
  | nil => rfl
  | cons second more ih =>
      rw [List.intercalate_cons_cons, ih, List.map_cons, List.intercalate_cons_cons]
      cases more with
      | nil => simp
      | cons third rest => simp [List.intercalate_cons_cons]

theorem readArguments_intercalate (nonempty : arguments ≠ [])
    (each : ∀ argument ∈ arguments, ',' ∉ argument.toList) :
    readArguments (", ".intercalate arguments).toList = arguments.map String.toList := by
  obtain ⟨first, others, rfl⟩ := List.exists_cons_of_ne_nil nonempty
  have gaps : ∀ text ∈ first.toList :: (others.map String.toList).map (' ' :: ·), ',' ∉ text := by
    simpa using each
  have split := List.splitOn_intercalate ',' gaps (List.cons_ne_nil _ _)
  have back : ((others.map String.toList).map (' ' :: ·)).map withoutGap =
      others.map String.toList := by
    rw [List.map_map]
    exact List.map_id' _
  have text : (", ".intercalate (first :: others)).toList =
      [',', ' '].intercalate (first.toList :: others.map String.toList) := by
    rw [String.toList_intercalate, List.map_cons]
    rfl
  rw [text, intercalate_gap, readArguments, split, List.map_cons]
  exact congrArg (first.toList :: ·) back

theorem notMem_intercalate {c : Char} (comma : c ≠ ',') (space : c ≠ ' ')
    (each : ∀ argument ∈ arguments, c ∉ argument.toList) :
    c ∉ (", ".intercalate arguments).toList := by
  induction arguments with
  | nil => simp
  | cons first others ih =>
      rw [List.forall_mem_cons] at each
      cases others with
      | nil => simpa using each.1
      | cons second more =>
          have gap : c ∉ ", ".toList := by simp [comma, space]
          rw [String.intercalate_cons_cons, String.toList_append, String.toList_append,
            List.mem_append, List.mem_append, not_or, not_or]
          exact ⟨⟨each.1, gap⟩, ih each.2⟩

/-- A written call is read back. -/
theorem readCall?_call {name : String} (named : '(' ∉ name.toList) (nonempty : arguments ≠ [])
    (each : ∀ argument ∈ arguments, Unmarked argument) :
    readCall? (name ++ "(" ++ ", ".intercalate arguments ++ ")") = some ⟨name, arguments⟩ := by
  have opening : '(' ∉ (", ".intercalate arguments).toList :=
    notMem_intercalate (by decide) (by decide) fun argument mem => (each argument mem).2.1
  have closing : ')' ∉ (", ".intercalate arguments).toList :=
    notMem_intercalate (by decide) (by decide) fun argument mem => (each argument mem).2.2
  have read := readArguments_intercalate nonempty fun argument mem => (each argument mem).1
  have text : (name ++ "(" ++ ", ".intercalate arguments ++ ")").toList =
      name.toList ++ '(' :: ((", ".intercalate arguments).toList ++ [')']) := by
    simp only [String.toList_append, List.append_assoc]
    rfl
  have front : ∀ c ∈ name.toList, decide (c ≠ '(') = true := by
    intro c mem
    exact decide_eq_true fun same => named (same ▸ mem)
  rw [readCall?, text]
  generalize (", ".intercalate arguments).toList = inside at opening closing read
  have behind : (name.toList ++ '(' :: (inside ++ [')'])).dropWhile (· ≠ '(') =
      '(' :: (inside ++ [')']) := by
    rw [List.dropWhile_append_of_pos front]
    rfl
  have own : (name.toList ++ '(' :: (inside ++ [')'])).takeWhile (· ≠ '(') = name.toList := by
    rw [List.takeWhile_append_of_pos front]
    exact List.append_nil _
  rw [behind, own]
  simp [opening, closing, read, Function.comp_def]

end Calls

section Gradients

variable {g : Gradient}

/-- A stop as an argument: its color and its place in percent. -/
def stopArgument (s : GradientStop) : String :=
  s.color ++ " " ++ s.position.percentage.cssText ++ "%"

/-- The function that draws a shape. -/
def GradientShape.function : GradientShape → String
  | .radial => "radial-gradient"
  | .conic => "conic-gradient"
  | .linear => "linear-gradient"

/-- The direction of a shape. -/
def GradientShape.direction (rotation : Number) : GradientShape → String
  | .radial => "circle"
  | .conic => "from " ++ rotation.cssText ++ "deg"
  | .linear => rotation.cssText ++ "deg"

theorem stop_eq_ok {s : GradientStop} (limited : s.position.percentage.Limited) :
    stop s = .ok (stopArgument s) := by
  rw [stop, Number.limitedText_eq_ok limited]
  rfl

/-- The arguments behind the direction. Where there are no stops, an empty one is written. -/
def writtenStops (g : Gradient) : List String :=
  if g.stops = [] then [""] else g.stops.map stopArgument

/-- A gradient within the limit of digits is written as a call. -/
theorem gradient_eq_ok (limited : ∀ s ∈ g.stops, s.position.percentage.Limited) :
    gradient g = .ok ((shapeOf g.kind).function ++ "(" ++
      ", ".intercalate ((shapeOf g.kind).direction g.rotation :: writtenStops g) ++ ")") := by
  have stops : g.stops.mapM stop = .ok (g.stops.map stopArgument) :=
    mapM_eq_ok fun s mem => stop_eq_ok (limited s mem)
  have behind : ∀ direction, ", ".intercalate (direction :: writtenStops g) =
      direction ++ ", " ++ ", ".intercalate (g.stops.map stopArgument) := by
    intro direction
    unfold writtenStops
    cases g.stops with
    | nil => rfl
    | cons s more => exact String.intercalate_cons_cons
  rw [gradient, stops, behind]
  simp only [bind, Except.bind]
  cases shapeOf g.kind with
  | _ =>
      simp only [GradientShape.function, GradientShape.direction]
      rw [Except.ok.injEq, ← String.toList_inj]
      simp

theorem unmarked_direction (shape : GradientShape) (rotation : Number) :
    Unmarked (shape.direction rotation) := by
  have turned := unmarked_cssText rotation
  cases shape with
  | radial => exact (by decide : Unmarked "circle")
  | conic =>
      simp only [GradientShape.direction, unmarked_append]
      exact ⟨⟨by decide, turned⟩, by decide⟩
  | linear =>
      simp only [GradientShape.direction, unmarked_append]
      exact ⟨turned, by decide⟩

theorem unmarked_stopArgument {s : GradientStop} (unmarked : Unmarked s.color) :
    Unmarked (stopArgument s) := by
  simp only [stopArgument, unmarked_append]
  exact ⟨⟨⟨unmarked, by decide⟩, unmarked_cssText _⟩, by decide⟩

/-- The call is read back with the arguments that are written. -/
theorem readCall?_gradient {text : String} (unmarked : ∀ s ∈ g.stops, Unmarked s.color)
    (limited : ∀ s ∈ g.stops, s.position.percentage.Limited) (written : gradient g = .ok text) :
    readCall? text = some ⟨(shapeOf g.kind).function,
      (shapeOf g.kind).direction g.rotation :: writtenStops g⟩ := by
  rw [gradient_eq_ok limited] at written
  obtain rfl := Except.ok.inj written
  apply readCall?_call
  · cases shapeOf g.kind <;> decide
  · exact List.cons_ne_nil _ _
  · rw [List.forall_mem_cons]
    refine ⟨unmarked_direction _ _, ?_⟩
    unfold writtenStops
    split
    case isTrue => decide
    case isFalse =>
        rw [List.forall_mem_map]
        exact fun s mem => unmarked_stopArgument (unmarked s mem)

/-- A gradient and a call that draws it. -/
structure IsDrawnBy (g : Gradient) (call : Call) : Prop where
  /-- A type with `radial` in it, in any case, is drawn as a circle. -/
  radial : "radial".toList <:+: Text.lower g.kind.toList →
    call.name = "radial-gradient" ∧ call.arguments.head? = some "circle"
  /-- Any other type with `angular` or `conic` in it goes around from its rotation. -/
  conic : ¬"radial".toList <:+: Text.lower g.kind.toList →
    "angular".toList <:+: Text.lower g.kind.toList ∨ "conic".toList <:+: Text.lower g.kind.toList →
    call.name = "conic-gradient" ∧
      call.arguments.head? = some ("from " ++ g.rotation.cssText ++ "deg")
  /-- All other types go along a line in the direction of the rotation. -/
  linear : ¬"radial".toList <:+: Text.lower g.kind.toList →
    ¬"angular".toList <:+: Text.lower g.kind.toList →
    ¬"conic".toList <:+: Text.lower g.kind.toList →
    call.name = "linear-gradient" ∧ call.arguments.head? = some (g.rotation.cssText ++ "deg")
  /-- Behind the direction there is one argument for each stop, in order. -/
  stops : call.arguments.tail = g.stops.map stopArgument
  /-- No argument is empty. -/
  occupied : "" ∉ call.arguments

theorem direction_ne_empty (shape : GradientShape) (rotation : Number) :
    shape.direction rotation ≠ "" := by
  intro same
  have empty := congrArg String.toList same
  cases shape with
  | _ => simp [GradientShape.direction] at empty

theorem stopArgument_ne_empty (s : GradientStop) : stopArgument s ≠ "" := by
  intro same
  have empty := congrArg String.toList same
  simp [stopArgument] at empty

/-- The function and the direction are right in any case. -/
theorem isDrawnBy_iff {stops : List String} :
    IsDrawnBy g ⟨(shapeOf g.kind).function, (shapeOf g.kind).direction g.rotation :: stops⟩ ↔
      stops = g.stops.map stopArgument := by
  constructor
  · exact IsDrawnBy.stops
  · rintro rfl
    constructor
    case radial =>
      intro radial
      rw [shapeOf, if_pos (Text.occursIn_iff.mpr radial)]
      exact ⟨rfl, rfl⟩
    case conic =>
      intro radial named
      simp only [← Text.occursIn_iff] at radial named
      simp only [shapeOf, radial, Bool.or_eq_true, named]
      exact ⟨rfl, rfl⟩
    case linear =>
      intro radial angular conic
      simp only [← Text.occursIn_iff] at radial angular conic
      simp only [shapeOf, radial, Bool.or_eq_true, angular, conic]
      exact ⟨rfl, rfl⟩
    case stops => rfl
    case occupied =>
      simp [(direction_ne_empty _ _).symm, stopArgument_ne_empty]

theorem writtenStops_eq_iff : writtenStops g = g.stops.map stopArgument ↔ g.stops ≠ [] := by
  unfold writtenStops
  split
  case isTrue none => simp [none]
  case isFalse some => simp [some]

/-- A gradient whose colors have no marks of a call in them is drawn, and its text is the call that
draws it, exactly if it has a stop and the percentages of its stops keep to the limit of digits. -/
theorem gradient_draws_stops_iff (g : Gradient) (unmarked : ∀ s ∈ g.stops, Unmarked s.color) :
    (∃ text call, gradient g = .ok text ∧ readCall? text = some call ∧ IsDrawnBy g call) ↔
      g.stops ≠ [] ∧ ∀ s ∈ g.stops, s.position.percentage.Limited := by
  constructor
  · rintro ⟨text, call, written, read, drawn⟩
    have limited := (succeeds_gradient_iff g).mp ⟨text, written⟩
    rw [readCall?_gradient unmarked limited written, Option.some.injEq] at read
    subst read
    exact ⟨writtenStops_eq_iff.mp (isDrawnBy_iff.mp drawn), limited⟩
  · rintro ⟨occupied, limited⟩
    obtain ⟨text, written⟩ := (succeeds_gradient_iff g).mpr limited
    exact ⟨text, _, written, readCall?_gradient unmarked limited written,
      isDrawnBy_iff.mpr (writtenStops_eq_iff.mpr occupied)⟩

/-- A gradient whose type names two functions, with a fraction in its rotation and its stops. -/
def turnedGradient : Gradient :=
  ⟨"GRADIENT_Conic", .real (Number.Binary64.ofDecimal ⟨false, 125, -1⟩),
    [⟨.integer 0, "#000"⟩, ⟨.real (Number.Binary64.ofDecimal ⟨false, 3333, -4⟩), "red"⟩,
      ⟨.integer 1, ""⟩]⟩

theorem gradient_draws_stops_turnedGradient :
    (∀ s ∈ turnedGradient.stops, Unmarked s.color) ∧
    (∃ text call, gradient turnedGradient = .ok text ∧ readCall? text = some call ∧
      IsDrawnBy turnedGradient call) ∧
    gradient turnedGradient =
      .ok "conic-gradient(from 12.5deg, #000 0%, red 33.33%,  100%)" := by
  have unmarked : ∀ s ∈ turnedGradient.stops, Unmarked s.color := by
    decide
  have limited : ∀ s ∈ turnedGradient.stops, s.position.percentage.Limited := by
    intro s mem
    simp only [turnedGradient, List.mem_cons, List.not_mem_nil, or_false] at mem
    rcases mem with rfl | rfl | rfl
    · exact (by decide : (Number.digitsOf 0).length ≤ Number.digitLimit)
    · trivial
    · exact (by decide : (Number.digitsOf 100).length ≤ Number.digitLimit)
  exact ⟨unmarked,
    (gradient_draws_stops_iff turnedGradient unmarked).mpr ⟨List.cons_ne_nil _ _, limited⟩,
    by decide +kernel⟩

/-- The record of a gradient without stops. -/
def barrenRecord : Entries Json :=
  [("gradientType", .string "linear"), ("rotation", .number (.integer 90)), ("stops", .array [])]

/-- The gradient without stops that the record gives. -/
def barrenGradient : Gradient :=
  ⟨"linear", .integer 90, []⟩

/-- The gradient is accepted, and the text that draws it has an empty argument behind its
direction. -/
theorem gradient_barrenGradient :
    Gradient.checkPayload barrenRecord = .ok barrenGradient ∧
    gradient barrenGradient = .ok "linear-gradient(90deg, )" ∧
    readCall? "linear-gradient(90deg, )" = some ⟨"linear-gradient", ["90deg", ""]⟩ ∧
    ¬∃ text call, gradient barrenGradient = .ok text ∧ readCall? text = some call ∧
      IsDrawnBy barrenGradient call := by
  have written : gradient barrenGradient = .ok "linear-gradient(90deg, )" := by
    decide +kernel
  have read : readCall? "linear-gradient(90deg, )" =
      some ⟨"linear-gradient", ["90deg", ""]⟩ := by
    decide +kernel
  refine ⟨by decide +kernel, written, read, ?_⟩
  rintro ⟨text, call, drawn, called, right⟩
  obtain rfl := Except.ok.inj (written.symm.trans drawn)
  obtain rfl := Option.some.inj (read.symm.trans called)
  exact right.occupied (by decide)

end Gradients

end Css

end DesignTokens
