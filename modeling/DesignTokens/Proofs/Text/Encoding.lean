import DesignTokens.Text.Utf8

/-!
# Encoded texts are decoded

Every text is decoded from its encoding, whichever offset it starts at. One byte order mark in
front of it is dropped.
-/

namespace DesignTokens.Text

section Leads

variable {b : Nat}

theorem utf8Lead_one (single : b < 0x80) : utf8Lead b = some (0, 0x80, 0xBF, b) :=
  if_pos single

theorem utf8Lead_two (least : 0xC2 ≤ b) (most : b < 0xE0) :
    utf8Lead b = some (1, 0x80, 0xBF, b - 0xC0) := by
  rw [utf8Lead, if_neg (by omega), if_neg (by omega), if_pos most]

theorem utf8Lead_three (least : 0xE0 ≤ b) (most : b < 0xF0) :
    utf8Lead b = some (2, if b = 0xE0 then 0xA0 else 0x80, if b = 0xED then 0x9F else 0xBF,
      b - 0xE0) := by
  rw [utf8Lead, if_neg (by omega), if_neg (by omega), if_neg (by omega)]
  by_cases first : b = 0xE0
  · simp [first]
  · by_cases surrogates : b = 0xED
    · simp [surrogates]
    · rw [if_neg first, if_neg surrogates, if_pos most, if_neg first, if_neg surrogates]

theorem utf8Lead_four (least : 0xF0 ≤ b) (most : b < 0xF5) :
    utf8Lead b = some (3, if b = 0xF0 then 0x90 else 0x80, if b = 0xF4 then 0x8F else 0xBF,
      b - 0xF0) := by
  rw [utf8Lead, if_neg (by omega), if_neg (by omega), if_neg (by omega), if_neg (by omega),
    if_neg (by omega), if_neg (by omega)]
  by_cases first : b = 0xF0
  · simp [first]
  · by_cases last : b = 0xF4
    · simp [last]
    · rw [if_neg first, if_pos (by omega), if_neg first, if_neg last]

end Leads

section Steps

variable {offset low high bits : Nat} {b₁ b₂ b₃ b₄ : UInt8} {rest : List UInt8}

theorem utf8From_one (lead : utf8Lead b₁.toNat = some (0, low, high, bits)) :
    utf8From offset none (b₁ :: rest) =
      (utf8From (offset + 1) none rest).map (Char.ofNat bits :: ·) := by
  rw [utf8From, lead]
  rfl

theorem utf8From_two (lead : utf8Lead b₁.toNat = some (1, low, high, bits))
    (second : utf8Continues low high 1 b₂.toNat = true) :
    utf8From offset none (b₁ :: b₂ :: rest) = (utf8From (offset + 2) none rest).map
      (Char.ofNat (bits * 64 + (b₂.toNat - 0x80)) :: ·) := by
  rw [utf8From, lead]
  simp only [utf8From, second, if_true]

theorem utf8From_three (lead : utf8Lead b₁.toNat = some (2, low, high, bits))
    (second : utf8Continues low high 1 b₂.toNat = true)
    (third : utf8Continues low high 2 b₃.toNat = true) :
    utf8From offset none (b₁ :: b₂ :: b₃ :: rest) = (utf8From (offset + 3) none rest).map
      (Char.ofNat ((bits * 64 + (b₂.toNat - 0x80)) * 64 + (b₃.toNat - 0x80)) :: ·) := by
  rw [utf8From, lead]
  simp [utf8From, second, third]

theorem utf8From_four (lead : utf8Lead b₁.toNat = some (3, low, high, bits))
    (second : utf8Continues low high 1 b₂.toNat = true)
    (third : utf8Continues low high 2 b₃.toNat = true)
    (fourth : utf8Continues low high 3 b₄.toNat = true) :
    utf8From offset none (b₁ :: b₂ :: b₃ :: b₄ :: rest) = (utf8From (offset + 4) none rest).map
      (Char.ofNat (((bits * 64 + (b₂.toNat - 0x80)) * 64 + (b₃.toNat - 0x80)) * 64 +
        (b₄.toNat - 0x80)) :: ·) := by
  rw [utf8From, lead]
  simp [utf8From, second, third, fourth]

end Steps

/-- A byte below the greatest one is its own value. -/
theorem toNat_ofNat_of_lt {n : Nat} (small : n < 256) : (UInt8.ofNat n).toNat = n :=
  UInt8.toNat_ofNat_of_lt' small

/-- A character is decoded from its bytes. -/
theorem utf8From_utf8EncodeChar (offset : Nat) (c : Char) (rest : List UInt8) :
    utf8From offset none (String.utf8EncodeChar c ++ rest) =
      (utf8From (offset + (String.utf8EncodeChar c).length) none rest).map (c :: ·) := by
  have valid : c.val.toNat < 0xD800 ∨ 0xDFFF < c.val.toNat ∧ c.val.toNat < 0x110000 := c.valid
  have char : ∀ n, n = c.val.toNat → Char.ofNat n = c := by
    rintro n rfl
    exact Char.ofNat_toNat c
  fun_cases String.utf8EncodeChar c with
  | case1 v single =>
      have first : (UInt8.ofNat v).toNat = v := toNat_ofNat_of_lt (by omega)
      have lead := utf8Lead_one (show (UInt8.ofNat v).toNat < 0x80 by omega)
      rw [List.cons_append, utf8From_one lead, char _ first]
      rfl
  | case2 v large two =>
      have first : (UInt8.ofNat (v / 64 % 32 + 192)).toNat = v / 64 + 192 := by
        rw [toNat_ofNat_of_lt] <;> omega
      have second : (UInt8.ofNat (v % 64 + 128)).toNat = v % 64 + 128 :=
        toNat_ofNat_of_lt (by omega)
      generalize UInt8.ofNat (v / 64 % 32 + 192) = b₁ at first ⊢
      generalize UInt8.ofNat (v % 64 + 128) = b₂ at second ⊢
      have lead := utf8Lead_two (b := b₁.toNat) (by omega) (by omega)
      have value : (b₁.toNat - 0xC0) * 64 + (b₂.toNat - 0x80) = v := by omega
      simp only [List.cons_append, List.nil_append]
      rw [utf8From_two lead (by simp [utf8Continues]; omega), char _ value]
      rfl
  | case3 v large larger three =>
      have first : (UInt8.ofNat (v / 4096 % 16 + 224)).toNat = v / 4096 + 224 := by
        rw [toNat_ofNat_of_lt] <;> omega
      have second : (UInt8.ofNat (v / 64 % 64 + 128)).toNat = v / 64 % 64 + 128 :=
        toNat_ofNat_of_lt (by omega)
      have third : (UInt8.ofNat (v % 64 + 128)).toNat = v % 64 + 128 :=
        toNat_ofNat_of_lt (by omega)
      generalize UInt8.ofNat (v / 4096 % 16 + 224) = b₁ at first ⊢
      generalize UInt8.ofNat (v / 64 % 64 + 128) = b₂ at second ⊢
      generalize UInt8.ofNat (v % 64 + 128) = b₃ at third ⊢
      have lead := utf8Lead_three (b := b₁.toNat) (by omega) (by omega)
      have value : ((b₁.toNat - 0xE0) * 64 + (b₂.toNat - 0x80)) * 64 + (b₃.toNat - 0x80) = v := by
        omega
      simp only [List.cons_append, List.nil_append]
      rw [utf8From_three lead ?continues (by simp [utf8Continues]; omega), char _ value]
      case continues =>
          -- The second byte tells short spellings and surrogates apart.
          simp only [utf8Continues, if_true, Bool.and_eq_true, decide_eq_true_eq]
          split <;> split <;> omega
      rfl
  | case4 v large larger largest =>
      have first : (UInt8.ofNat (v / 262144 % 8 + 240)).toNat = v / 262144 + 240 := by
        rw [toNat_ofNat_of_lt] <;> omega
      have second : (UInt8.ofNat (v / 4096 % 64 + 128)).toNat = v / 4096 % 64 + 128 :=
        toNat_ofNat_of_lt (by omega)
      have third : (UInt8.ofNat (v / 64 % 64 + 128)).toNat = v / 64 % 64 + 128 :=
        toNat_ofNat_of_lt (by omega)
      have fourth : (UInt8.ofNat (v % 64 + 128)).toNat = v % 64 + 128 :=
        toNat_ofNat_of_lt (by omega)
      generalize UInt8.ofNat (v / 262144 % 8 + 240) = b₁ at first ⊢
      generalize UInt8.ofNat (v / 4096 % 64 + 128) = b₂ at second ⊢
      generalize UInt8.ofNat (v / 64 % 64 + 128) = b₃ at third ⊢
      generalize UInt8.ofNat (v % 64 + 128) = b₄ at fourth ⊢
      have lead := utf8Lead_four (b := b₁.toNat) (by omega) (by omega)
      have value : (((b₁.toNat - 0xF0) * 64 + (b₂.toNat - 0x80)) * 64 + (b₃.toNat - 0x80)) * 64 +
          (b₄.toNat - 0x80) = v := by omega
      simp only [List.cons_append, List.nil_append]
      rw [utf8From_four lead ?continues (by simp [utf8Continues]; omega)
        (by simp [utf8Continues]; omega), char _ value]
      case continues =>
          simp only [utf8Continues, if_true, Bool.and_eq_true, decide_eq_true_eq]
          split <;> split <;> omega
      rfl

/-- The bytes that characters are encoded as. -/
def encodeUtf8 (cs : List Char) : List UInt8 :=
  cs.flatMap String.utf8EncodeChar

theorem encodeUtf8_cons (c : Char) (cs : List Char) :
    encodeUtf8 (c :: cs) = String.utf8EncodeChar c ++ encodeUtf8 cs :=
  List.flatMap_cons

theorem utf8From_encodeUtf8 (offset : Nat) (cs : List Char) :
    utf8From offset none (encodeUtf8 cs) = .ok cs := by
  induction cs generalizing offset with
  | nil => rfl
  | cons c cs ih =>
      rw [encodeUtf8_cons, utf8From_utf8EncodeChar, ih]
      rfl

/-- A text is decoded from its encoding. -/
theorem decodeUtf8_encodeUtf8 (cs : List Char) : decodeUtf8 (encodeUtf8 cs) = .ok cs :=
  utf8From_encodeUtf8 0 cs

/-- A text without the byte order mark that it may start with. -/
def withoutMark : List Char → List Char
  | '\uFEFF' :: rest => rest
  | cs => cs

theorem withoutMark_of_head? {cs : List Char} (other : cs.head? ≠ some '\uFEFF') :
    withoutMark cs = cs := by
  unfold withoutMark
  split
  · exact absurd rfl other
  · rfl

/-- One byte order mark of an encoded text is dropped. -/
theorem decodeMarkedUtf8_encodeUtf8 (cs : List Char) :
    decodeMarkedUtf8 (encodeUtf8 cs) = .ok (withoutMark cs) := by
  by_cases marked : cs.head? = some '\uFEFF'
  · obtain ⟨rest, rfl⟩ := List.head?_eq_some_iff.mp marked
    exact decodeUtf8_encodeUtf8 rest
  · rw [withoutMark_of_head? marked]
    have decoded := decodeUtf8_encodeUtf8 cs
    unfold decodeMarkedUtf8
    split
    case h_1 rest same =>
        -- Bytes that start with the mark would be decoded as a text that does.
        have mark : utf8Lead (0xEF : UInt8).toNat = some (2, 0x80, 0xBF, 15) := rfl
        rw [same, decodeUtf8, utf8From_three mark rfl rfl] at decoded
        cases tail : utf8From 3 none rest with
        | error fault =>
            rw [tail] at decoded
            cases decoded
        | ok more =>
            rw [tail] at decoded
            cases decoded
            exact absurd rfl marked
    case h_2 same =>
        rw [same] at decoded
        exact decoded
    case h_3 same =>
        rw [same] at decoded
        cases decoded
    case h_4 same =>
        rw [same] at decoded
        cases decoded
    case h_5 => exact decoded

theorem toList_loop_eq (bytes : ByteArray) (index : Nat) (read : List UInt8) :
    ByteArray.toList.loop bytes index read = read.reverse ++ bytes.data.toList.drop index := by
  induction index, read using ByteArray.toList.loop.induct bytes with
  | case1 index read before ih =>
      have remaining : bytes.data.toList.drop index =
          bytes.data[index] :: bytes.data.toList.drop (index + 1) := by
        rw [List.drop_eq_getElem_cons (by simpa using before)]
        rfl
      rw [ByteArray.toList.loop, if_pos before, ih, remaining]
      simp [ByteArray.get!, before]
  | case2 index read after =>
      rw [ByteArray.toList.loop, if_neg after]
      simp [List.drop_eq_nil_of_le (show bytes.data.toList.length ≤ index by simpa using after)]

theorem toList_toUTF8 (text : String) : text.toUTF8.toList = encodeUtf8 text.toList := by
  rw [ByteArray.toList, toList_loop_eq, String.toUTF8, ← String.utf8Encode_toList]
  simp [List.utf8Encode, encodeUtf8]

/-- The content of a file that a text is written to is decoded as the text. -/
theorem decodeMarkedUtf8_toUTF8 (text : String) :
    decodeMarkedUtf8 text.toUTF8.toList = .ok (withoutMark text.toList) := by
  rw [toList_toUTF8, decodeMarkedUtf8_encodeUtf8]

end DesignTokens.Text
