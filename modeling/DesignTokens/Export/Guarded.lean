import DesignTokens.Export.Read
import DesignTokens.Gradient.Payload
import DesignTokens.Model.Build

/-!
# Reading with every check

Only the check of a token's value is guarded: where it fails, the node is skipped. A gradient
that is built from its payload and the model that is built from its sections are checked as
well, and if one of these checks failed, it would break the reading off with its issues.
-/

namespace DesignTokens.Export

open Shape (Checked Given)

/-- The node that a leaf of a type and a value is. -/
def Node.decodeLeaf (tag : String) (payload : Json) : Checked Node :=
  if tag = "custom-gradient" then
    match payload with
    | .object record =>
      match GradientPayload.check record with
      | .ok parsed => (Gradient.build parsed.toFields).map .gradient
      | .error issues => .ok (.skipped (.invalidGradient issues.length))
    | _ => .ok (.skipped .gradientNotAnObject)
  else .ok (ofLeaf tag payload)

/-- The node that an object is. -/
def Node.decodeMembers (members : List (String × Json)) : Checked Node :=
  match tagged? members with
  | some (tag, payload) => decodeLeaf tag payload
  | none => .ok (.group members)

/-- The node that a value is. -/
def Node.decode : Json → Checked Node
  | .object members => decodeMembers members
  | value => .ok (.skipped (.notAnObject value.typeName))

mutual

/-- Put what stands at a path of the color section into a tree. -/
def colorNodeInto (path : String) (result : Tree String) : Json → Checked (Tree String)
  | .object members => do
    match ← Node.decodeMembers members with
    | .color value =>
      match Key.segments path with
      | [] => .ok result
      | first :: more => .ok (result.setAt first more (.leaf value))
    | .group _ => .ok (result.merge (← colorNodesInto path .nil members))
    | _ => .ok result
  | _ => .ok result

/-- Put the colors of nodes, whose names stand below `parent`, into a tree. -/
def colorNodesInto (parent : String) (result : Tree String) :
    List (String × Json) → Checked (Tree String)
  | [] => .ok result
  | (name, value) :: rest => do
    colorNodesInto parent (← colorNodeInto (Key.joinPath parent name) result value) rest

end

/-- The colors of a section. -/
def decodeColors (nodes : List (String × Json)) : Checked (Tree String) :=
  colorNodesInto "" .nil nodes

/-- Put a child of a locale into its styles. -/
def putStyleNode (styles : Entries TextStyle) (member : String × Json) :
    Checked (Entries TextStyle) := do
  match ← Node.decode member.2 with
  | .style token => .ok (styles.put member.1 token)
  | _ => .ok styles

/-- Put a child of a device into the locales read so far. -/
def putLocaleNode (locales : Entries (Entries TextStyle)) (member : String × Json) :
    Checked (Entries (Entries TextStyle)) := do
  match ← Node.decode member.2 with
  | .style token =>
    .ok (locales.update defaultLocale [] fun styles => styles.put member.1 token)
  | .group children =>
    let styles ← children.foldlM putStyleNode ((locales.get? member.1).getD [])
    .ok (locales.put member.1 styles)
  | _ => .ok locales

/-- Put a device that has a valid style behind those read so far. -/
def putDeviceNode (devices : Entries (Entries (Entries TextStyle))) (member : String × Json) :
    Checked (Entries (Entries (Entries TextStyle))) := do
  match member.2 with
  | .object children =>
    let locales ← children.foldlM putLocaleNode []
    match locales.filter fun entry => !entry.2.isEmpty with
    | [] => .ok devices
    | kept => .ok (devices ++ [(member.1, kept)])
  | _ => .ok devices

/-- The styles of a section by device, locale and name. -/
def decodeTypography (nodes : List (String × Json)) :
    Checked (Entries (Entries (Entries TextStyle))) :=
  nodes.foldlM putDeviceNode []

mutual

/-- Put the gradients at a path and below it into their categories. -/
def gradientNodeInto (path : String) (result : Entries (Entries Gradient)) :
    Json → Checked (Entries (Entries Gradient))
  | .object members => do
    match ← Node.decodeMembers members with
    | .gradient token => .ok (putGradient result ⟨path, token⟩)
    | .group _ => gradientNodesInto path result members
    | _ => .ok result
  | _ => .ok result

/-- Put the gradients of nodes, whose names stand below `parent`, into their categories. -/
def gradientNodesInto (parent : String) (result : Entries (Entries Gradient)) :
    List (String × Json) → Checked (Entries (Entries Gradient))
  | [] => .ok result
  | (name, value) :: rest => do
    gradientNodesInto parent (← gradientNodeInto (Key.joinPath parent name) result value) rest

end

/-- The gradients of a section by category and name. -/
def decodeGradients (nodes : List (String × Json)) : Checked (Entries (Entries Gradient)) :=
  gradientNodesInto "" [] nodes

/-- The styles of a section as parts of a model. -/
def givenTypography (devices : Entries (Entries (Entries TextStyle))) : Given TextStyle :=
  Given.ofEntries (Given.ofEntries (Given.ofEntries .record)) devices

/-- The gradients of a section, if there is one, as parts of a model. -/
def givenGradients : Option (Entries (Entries Gradient)) → Given Gradient
  | some categories => Given.ofEntries (Given.ofEntries .record) categories
  | none => .plain .null

/-- The results of the three sections, before a model is built from them. -/
structure SectionResults where
  colors : Tree String
  typography : Entries (Entries (Entries TextStyle))
  gradients : Option (Entries (Entries Gradient))

/-- The results of the sections of an export. -/
def decodeSections (sections : Entries Json) : Checked SectionResults := do
  let colors ← decodeColors ((section? "color" sections).getD [])
  let typography ← decodeTypography ((section? "font" sections).getD [])
  let gradients ← (section? "gradient" sections).mapM decodeGradients
  .ok ⟨colors, typography, gradients⟩

/-- The model that is built from the results of the sections. -/
def SectionResults.build (results : SectionResults) : Checked Model :=
  Model.build (results.colors.map .string).toJson (givenTypography results.typography)
    (givenGradients results.gradients)

/-- The model that an export describes, unless a check that is not guarded fails. -/
def decode (sections : Entries Json) : Checked Model := do
  (← decodeSections sections).build

end DesignTokens.Export
