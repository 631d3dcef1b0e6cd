/-!
# Output formats

The formats form a closed list. Each has an identifier, under which it is asked for, a
name and a description, and is written as a fixed sequence of files.
-/

namespace DesignTokens

/-- A format that tokens can be written in. -/
inductive Format where
  | tailwind
  | cssVariables
  | scss
  | emotion
  | styledComponents
  | vanillaExtract
  | pandaCss
  deriving DecidableEq, Repr, Inhabited

namespace Format

/-- All formats in the order of their listing. -/
def all : List Format :=
  [.tailwind, .cssVariables, .scss, .emotion, .styledComponents, .vanillaExtract, .pandaCss]

/-- The identifier of a format. -/
def id : Format → String
  | .tailwind => "tailwind"
  | .cssVariables => "css-variables"
  | .scss => "scss"
  | .emotion => "emotion"
  | .styledComponents => "styled-components"
  | .vanillaExtract => "vanilla-extract"
  | .pandaCss => "panda-css"

/-- The name of a format. -/
def title : Format → String
  | .tailwind => "Tailwind CSS"
  | .cssVariables => "CSS Variables"
  | .scss => "SCSS"
  | .emotion => "Emotion"
  | .styledComponents => "styled-components"
  | .vanillaExtract => "Vanilla Extract"
  | .pandaCss => "Panda CSS"

/-- The description of a format. -/
def description : Format → String
  | .tailwind => "Utility-first CSS framework"
  | .cssVariables => "Native CSS custom properties"
  | .scss => "Sass with variables & mixins"
  | .emotion => "CSS-in-JS library"
  | .styledComponents => "CSS-in-JS with tagged templates"
  | .vanillaExtract => "Zero-runtime CSS-in-TypeScript"
  | .pandaCss => "Zero-runtime CSS-in-JS"

/-- The format of an identifier. -/
def ofId? (name : String) : Option Format :=
  all.find? fun format => format.id == name

/-- The identifiers of all formats, as a message lists them. -/
def choices : String :=
  ", ".intercalate (all.map id)

theorem mem_all (format : Format) : format ∈ all := by
  cases format <;> simp [all]

theorem ofId?_id (format : Format) : ofId? format.id = some format := by
  cases format <;> decide

end Format

/-- A name that no format has. -/
structure UnknownFormat where
  name : String
  deriving DecidableEq, Repr

/-- The wording of the error. -/
def UnknownFormat.message (error : UnknownFormat) : String :=
  "Unknown format '" ++ error.name ++ "'. Available formats: " ++ Format.choices

/-- The format of a name. -/
def Format.named (name : String) : Except UnknownFormat Format :=
  match Format.ofId? name with
  | some format => .ok format
  | none => .error ⟨name⟩

/-- A generated file: its name, the language it is written in, and its text. -/
structure Artifact where
  filename : String
  language : String
  content : String
  deriving DecidableEq, Repr, Inhabited

end DesignTokens
