/-!
# Words of a name

The words of a name are its maximal runs of characters other than separators.
-/

namespace DesignTokens.Key

/-- Add a character in front of the first word. -/
def extendFirst (c : Char) : List (List Char) → List (List Char)
  | [] => [[c]]
  | word :: rest => (c :: word) :: rest

/-- The maximal runs of characters that are not separators. -/
def words (separates : Char → Bool) : List Char → List (List Char)
  | [] => []
  | c :: rest =>
    if separates c then words separates rest
    else
      match rest with
      | [] => [[c]]
      | next :: _ =>
        if separates next then [c] :: words separates rest
        else extendFirst c (words separates rest)

variable {separates : Char → Bool}

@[simp] theorem words_nil : words separates [] = [] := rfl

theorem words_cons_of_separates {c : Char} (h : separates c = true) (rest : List Char) :
    words separates (c :: rest) = words separates rest := by
  simp [words, h]

end DesignTokens.Key
