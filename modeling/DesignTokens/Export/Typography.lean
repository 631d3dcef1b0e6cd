import DesignTokens.Export.Notice

/-!
# The font section

Styles stand below a device and a locale. A style that stands directly below its
device belongs to the locale `default`. Locales and devices without a valid style
are left out.
-/

namespace DesignTokens.Export

/-- The locale of a style that has none. -/
def defaultLocale : String := "default"

/-- The valid styles of a locale, put after those that it has already. -/
def stylesInto (styles : Entries TextStyle) (members : List (String × Json)) :
    Entries TextStyle :=
  members.foldl
    (fun styles (name, value) =>
      match Node.ofJson value with
      | .style token => styles.put name token
      | _ => styles)
    styles

/-- Put one child of a device into the locales read so far: a style goes to the
default locale, and a group opens the locale of its name. -/
def putLocale (locales : Entries (Entries TextStyle)) (name : String) (value : Json) :
    Entries (Entries TextStyle) :=
  match Node.ofJson value with
  | .style token => locales.update defaultLocale [] fun styles => styles.put name token
  | .group members => locales.update name [] fun styles => stylesInto styles members
  | _ => locales

/-- The locales of a device that have a valid style. -/
def locales (members : List (String × Json)) : Entries (Entries TextStyle) :=
  (members.foldl (fun result (name, value) => putLocale result name value) []).filter
    fun entry => !entry.2.isEmpty

/-- The devices of a section that have a valid style. -/
def typography (nodes : List (String × Json)) : Entries (Entries (Entries TextStyle)) :=
  nodes.filterMap fun (device, value) =>
    match value with
    | .object members =>
      match locales members with
      | [] => none
      | found => some (device, found)
    | _ => none

/-- What becomes of the children of a locale. -/
def styleFates (device locale : String) (members : List (String × Json)) : List Fate :=
  members.map fun (name, value) =>
    match Node.ofJson value with
    | .style _ => .kept
    | _ => .reported (.styleSkipped device locale name)

/-- What becomes of the children of a device and of what stands below them. -/
def localeFates (device : String) (members : List (String × Json)) : List Fate :=
  members.flatMap fun (locale, value) =>
    match Node.ofJson value with
    | .style _ => [.kept]
    | .group children => .entered :: styleFates device locale children
    | _ => [.reported (.localeSkipped device locale)]

/-- What becomes of the nodes of a font section, in the order of their visit. -/
def fontFates (nodes : List (String × Json)) : List Fate :=
  nodes.flatMap fun (device, value) =>
    match value with
    | .object members => .entered :: localeFates device members
    | _ => [.reported (.deviceSkipped device)]

end DesignTokens.Export
