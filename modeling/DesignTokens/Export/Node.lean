import DesignTokens.Color
import DesignTokens.Gradient
import DesignTokens.Text.Quoted
import DesignTokens.TextStyle

/-!
# Nodes of an export

A raw export is an untrusted tree of objects. An object with a textual `type` and a
`value` is a leaf, and any other object is a group. Every node reads as exactly one
of a token, a group, or a node that is skipped for a stated reason.
-/

namespace DesignTokens.Export

/-- Why a node carries no usable token. -/
inductive SkipReason where
  | notAnObject (typeName : String)
  | colorNotAString
  | styleNotAnObject
  | gradientNotAnObject
  | invalidStyle (issues : Nat)
  | invalidGradient (issues : Nat)
  | unsupportedType (tag : String)
  deriving DecidableEq, Repr

/-- The wording of a reason. -/
def SkipReason.text : SkipReason → String
  | .notAnObject typeName => "expected an object, got " ++ typeName
  | .colorNotAString => "color value is not a string"
  | .styleNotAnObject => "font style value is not an object"
  | .gradientNotAnObject => "gradient value is not an object"
  | .invalidStyle issues => "invalid font style: " ++ toString issues ++ " error(s)"
  | .invalidGradient issues => "invalid gradient: " ++ toString issues ++ " error(s)"
  | .unsupportedType tag => "unsupported token type " ++ Text.quoted tag

/-- What a node of an export is. -/
inductive Node where
  | color (value : String)
  | style (token : TextStyle)
  | gradient (token : Gradient)
  | group (members : List (String × Json))
  | skipped (reason : SkipReason)

namespace Node

/-- The type and the value of a leaf. -/
def tagged? (members : Entries Json) : Option (String × Json) :=
  match members.get? "type", members.get? "value" with
  | some (.string tag), some payload => some (tag, payload)
  | _, _ => none

/-- The node that a leaf of a type and a value is. -/
def ofLeaf (tag : String) (payload : Json) : Node :=
  if tag = "color" then
    match payload with
    | .string value => .color (Color.clean value)
    | _ => .skipped .colorNotAString
  else if tag = "custom-fontStyle" then
    match payload with
    | .object record =>
      match TextStyle.check record with
      | .ok token => .style token
      | .error issues => .skipped (.invalidStyle issues.length)
    | _ => .skipped .styleNotAnObject
  else if tag = "custom-gradient" then
    match payload with
    | .object record =>
      match Gradient.checkPayload record with
      | .ok token => .gradient token
      | .error issues => .skipped (.invalidGradient issues.length)
    | _ => .skipped .gradientNotAnObject
  else .skipped (.unsupportedType tag)

/-- The node that an object is. -/
def ofMembers (members : List (String × Json)) : Node :=
  match tagged? members with
  | some (tag, payload) => ofLeaf tag payload
  | none => .group members

/-- The node that a value is. -/
def ofJson : Json → Node
  | .object members => ofMembers members
  | value => .skipped (.notAnObject value.typeName)

theorem ofLeaf_ne_group (tag : String) (payload : Json) (members : List (String × Json)) :
    ofLeaf tag payload ≠ .group members := by
  unfold ofLeaf
  repeat' split
  all_goals simp

/-- A group holds the members of its own object. -/
theorem members_eq_of_group {members children : List (String × Json)}
    (h : ofMembers members = .group children) : children = members := by
  unfold ofMembers at h
  split at h
  · exact absurd h (ofLeaf_ne_group _ _ _)
  · exact (Node.group.inj h).symm

end Node

end DesignTokens.Export
