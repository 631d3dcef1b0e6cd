import DesignTokens.Format.CssVariables
import DesignTokens.Format.Emotion
import DesignTokens.Format.PandaCss
import DesignTokens.Format.Scss
import DesignTokens.Format.StyledComponents
import DesignTokens.Format.Tailwind
import DesignTokens.Format.VanillaExtract

/-!
# Writing a model in a format

The numbers of a model are taken to keep to the limit of digits, as those of every model
that comes from a text do (`Model.Loaded.limited`). Then only the formats that draw
gradients may fail, at the percentage of a stop that has too many digits.
-/

namespace DesignTokens

/-- The files of a model in a format, in the order of their display. -/
def generate (format : Format) (model : Model) : Except Number.DigitFault (List Artifact) :=
  match format with
  | .tailwind => .ok (Tailwind.artifacts model)
  | .cssVariables => CssVariables.artifacts model
  | .scss => Scss.artifacts model
  | .emotion => .ok (Emotion.artifacts model)
  | .styledComponents => .ok (StyledComponents.artifacts model)
  | .vanillaExtract => .ok (VanillaExtract.artifacts model)
  | .pandaCss => .ok (PandaCss.artifacts model)

end DesignTokens
