import DesignTokens.Text.Hex

/-!
# Code points

A text consists of characters, but a text that is to be written may hold more: half of a
surrogate pair that stands alone is a code point, though no character. It has no bytes,
so a text that holds one cannot be encoded.
-/

namespace DesignTokens.Text

/-- A code point: a character, or a surrogate by its place among the surrogates. -/
inductive CodePoint where
  | character (c : Char)
  | surrogate (place : Fin 0x800)
  deriving DecidableEq, Repr

namespace CodePoint

/-- Whether a code point is a surrogate. -/
def isSurrogate : CodePoint → Bool
  | .character _ => false
  | .surrogate _ => true

end CodePoint

/-- The code points of a text of characters. -/
def codePoints (text : String) : List CodePoint :=
  text.toList.map .character

/-- The code points `offset` to `offset + size - 1` are surrogates, which have no bytes. -/
structure EncodingFault where
  offset : Nat
  size : Nat
  first : Fin 0x800
  deriving DecidableEq, Repr

namespace EncodingFault

/-- The wording of a fault. -/
def message (fault : EncodingFault) : String :=
  let place :=
    if fault.size == 1 then
      "character '\\u" ++ String.ofList (hexDigits 4 (0xD800 + fault.first.val)) ++
        "' in position " ++ toString fault.offset
    else
      "characters in position " ++ toString fault.offset ++ "-" ++
        toString (fault.offset + fault.size - 1)
  "'utf-8' codec can't encode " ++ place ++ ": surrogates not allowed"

end EncodingFault

/-- The characters from code point `offset` on, up to the end of the text. The surrogates
in front of the next character are one fault. -/
def charactersFrom (offset : Nat) : List CodePoint → Except EncodingFault (List Char)
  | [] => .ok []
  | .character c :: rest => (charactersFrom (offset + 1) rest).map (c :: ·)
  | .surrogate place :: rest =>
    .error ⟨offset, (rest.takeWhile CodePoint.isSurrogate).length + 1, place⟩

/-- The bytes of a text. -/
def utf8Bytes (text : List CodePoint) : Except EncodingFault ByteArray :=
  (charactersFrom 0 text).map fun characters => (String.ofList characters).toUTF8

theorem charactersFrom_characters (offset : Nat) (characters : List Char) :
    charactersFrom offset (characters.map .character) = .ok characters := by
  induction characters generalizing offset with
  | nil => rfl
  | cons c rest ih => rw [List.map_cons, charactersFrom, ih]; rfl

/-- A text of characters is encoded. -/
@[simp] theorem utf8Bytes_codePoints (text : String) :
    utf8Bytes (codePoints text) = .ok text.toUTF8 := by
  rw [utf8Bytes, codePoints, charactersFrom_characters, Except.map, String.ofList_toList]

theorem exists_surrogate_of_charactersFrom {offset : Nat} {text : List CodePoint}
    {cause : EncodingFault} (refused : charactersFrom offset text = .error cause) :
    ∃ point ∈ text, point.isSurrogate = true := by
  induction text generalizing offset cause with
  | nil => cases refused
  | cons point rest ih =>
    cases point with
    | surrogate place => exact ⟨_, List.mem_cons_self, rfl⟩
    | character c =>
      rw [charactersFrom] at refused
      cases later : charactersFrom (offset + 1) rest with
      | ok characters =>
        rw [later] at refused
        cases refused
      | error other =>
        obtain ⟨point, mem, lone⟩ := ih later
        exact ⟨point, List.mem_cons_of_mem _ mem, lone⟩

/-- A text that cannot be encoded holds a surrogate. -/
theorem exists_surrogate_of_utf8Bytes {text : List CodePoint} {cause : EncodingFault}
    (refused : utf8Bytes text = .error cause) : ∃ point ∈ text, point.isSurrogate = true := by
  unfold utf8Bytes at refused
  cases read : charactersFrom 0 text with
  | ok characters =>
    rw [read] at refused
    cases refused
  | error other => exact exists_surrogate_of_charactersFrom read

end DesignTokens.Text
