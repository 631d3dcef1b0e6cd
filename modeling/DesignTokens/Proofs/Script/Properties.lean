import DesignTokens.Proofs.Json.Strings
import DesignTokens.Proofs.Key.Boundaries
import DesignTokens.Proofs.Script.BareNames
import DesignTokens.Proofs.Script.Identifiers

/-!
# Properties are read back

A script names a property by an identifier or by a string, and reaches properties by accesses
with a dot or with brackets. A property is read as the key that it was made from, unless this key
is a bare name with one line feed behind it: its line feed is white space in a script.

## Implementation notes

The names of scripts may have many more characters than bare names, and a reader takes as many
as it can. What is read is therefore what a script means, whatever it was written from.
-/

namespace DesignTokens.Script

/-- White space of a script, ends of lines included. -/
def isSpace (c : Char) : Bool :=
  Text.isPadding c && c != '\u0085' || c == '\uFEFF'

/-- The property that a text names, with white space around it. -/
def readPropertyName (text : String) : Option String :=
  match Text.dropEnds isSpace text.toList with
  | '"' :: rest =>
    match Json.readChars ('"' :: rest) rest with
    | .ok (cs, []) => some (String.ofList cs)
    | _ => none
  | bare => if IsIdentifier (String.ofList bare) then some (String.ofList bare) else none

/-- The property of the access that a text starts with, and the rest. -/
def readAccess? : List Char → Option (String × List Char)
  | '.' :: rest =>
    let name := String.ofList (rest.takeWhile isIdentifierPart)
    if IsIdentifier name then some (name, rest.dropWhile isIdentifierPart) else none
  | '[' :: '"' :: rest =>
    match Json.readChars ('"' :: rest) rest with
    | .ok (cs, ']' :: after) => some (String.ofList cs, after)
    | _ => none
  | _ => none

/-- The properties of the accesses that a text consists of, of which there are fewer than
`fuel`. White space may stand between them. -/
def readAccesses : Nat → List Char → Option (List String)
  | 0, _ => none
  | fuel + 1, text =>
    match text.dropWhile isSpace with
    | [] => some []
    | access =>
      (readAccess? access).bind fun found => (readAccesses fuel found.2).map (found.1 :: ·)

/-- The properties of a chain of accesses. No access is empty. -/
def readAccessChain (text : String) : Option (List String) :=
  readAccesses (text.toList.length + 1) text.toList

section BareNames

variable {c : Char} {bare : List Char}

/-- A bare name with one line feed behind it. -/
def FeedEnded (key : String) : Prop :=
  ∃ bare, IsBare bare ∧ key.toList = bare ++ ['\n']

theorem toNat_lt_of_continuesBareName (inside : continuesBareName c = true) :
    c.toNat < 0x80 := by
  rw [continuesBareName, Bool.or_eq_true, Bool.or_eq_true, beq_iff_eq, beq_iff_eq] at inside
  rcases inside with (plain | rfl) | rfl
  · have bounds := Key.isPlain_iff.mp plain
    rw [Key.isUpper_iff, Key.isLower_iff, Key.isDigit_iff] at bounds
    omega
  · decide
  · decide

/-- Whatever stands in a bare name may stand in an identifier and is no white space. -/
theorem of_continuesBareName (inside : continuesBareName c = true) :
    isIdentifierPart c = true ∧ isSpace c = false ∧ c ≠ '"' := by
  have all : ∀ c : Char, c.toNat < 0x80 → continuesBareName c = true →
      isIdentifierPart c = true ∧ isSpace c = false ∧ c ≠ '"' :=
    Key.forall_ascii (by decide +kernel)
  exact all c (toNat_lt_of_continuesBareName inside) inside

theorem startsIdentifier_of_startsBareName (inside : continuesBareName c = true)
    (front : startsBareName c = true) : Text.startsIdentifier c = true := by
  have all : ∀ c : Char, c.toNat < 0x80 → startsBareName c = true →
      Text.startsIdentifier c = true :=
    Key.forall_ascii (by decide +kernel)
  exact all c (toNat_lt_of_continuesBareName inside) front

theorem IsBare.isIdentifier (own : IsBare bare) : IsIdentifier (String.ofList bare) := by
  rw [IsIdentifier, String.toList_ofList]
  constructor
  · cases bare with
    | nil => exact own.front
    | cons c rest =>
        exact startsIdentifier_of_startsBareName (own.inside c List.mem_cons_self) own.front
  · exact fun c mem => (of_continuesBareName (own.inside c mem)).1

end BareNames

/-- What a key is read as: a line feed behind a bare name is lost. -/
def readAs (key : String) : String :=
  if isBareName key.toList && key.toList.getLast? == some '\n' then
    String.ofList key.toList.dropLast
  else key

section Keys

variable {key : String}

/-- A key is a bare name, or one with a line feed behind it, or it is quoted. -/
theorem isBare_or_feedEnded_or_quoted (key : String) :
    (IsBare key.toList ∧ isBareName key.toList = true ∧ readAs key = key) ∨
      (∃ bare, IsBare bare ∧ key.toList = bare ++ ['\n'] ∧ isBareName key.toList = true ∧
        readAs key = String.ofList bare) ∨
      (isBareName key.toList = false ∧ ¬FeedEnded key ∧ readAs key = key) := by
  cases kind : isBareName key.toList with
  | false =>
      refine Or.inr (Or.inr ⟨rfl, fun ended => ?_, by rw [readAs, kind]; rfl⟩)
      rw [isBareName_iff.mpr (Or.inr ended)] at kind
      cases kind
  | true =>
      rcases isBareName_iff.mp kind with own | ⟨bare, own, same⟩
      · refine Or.inl ⟨own, rfl, ?_⟩
        have solid : key.toList.getLast? ≠ some '\n' := fun feed =>
          feed_not_mem_of_isBare own (List.mem_of_getLast? feed)
        rw [readAs, kind, Bool.true_and, if_neg (by simpa using solid)]
      · refine Or.inr (Or.inl ⟨bare, own, same, rfl, ?_⟩)
        rw [readAs, kind, same, List.getLast?_concat, List.dropLast_concat]
        rfl

theorem readAs_eq_iff : readAs key = key ↔ ¬FeedEnded key := by
  rcases isBare_or_feedEnded_or_quoted key with
    ⟨own, -, kept⟩ | ⟨bare, own, same, -, read⟩ | ⟨-, other, kept⟩
  · refine iff_of_true kept ?_
    rintro ⟨bare, -, same⟩
    exact feed_not_mem_of_isBare own (same ▸ by simp)
  · refine iff_of_false (fun kept => ?_) (not_not_intro ⟨bare, own, same⟩)
    have lengths := congrArg (fun name => name.toList.length) (read.symm.trans kept)
    simp [same] at lengths
  · exact iff_of_true kept other

end Keys

section Reading

variable {p : Char → Bool} {body tail bare rest : List Char}

/-- Only what stands behind a text is dropped from its ends if it has nothing to drop there. -/
theorem dropEnds_append (nonempty : body ≠ []) (front : Key.StartsOutside p body)
    (back : Key.StartsOutside p body.reverse) (blank : ∀ c ∈ tail, p c = true) :
    Text.dropEnds p (body ++ tail) = body := by
  have start : Key.StartsOutside p (body ++ tail) := by
    obtain ⟨c, others, rfl⟩ := List.exists_cons_of_ne_nil nonempty
    exact front
  have behind : ∀ c ∈ tail.reverse, p c = true := fun c mem => blank c (List.mem_reverse.mp mem)
  rw [Text.dropEnds, Key.dropWhile_of_startsOutside start, Text.dropEnd, List.reverse_append,
    List.dropWhile_append_of_pos behind, Key.dropWhile_of_startsOutside back, List.reverse_reverse]

theorem startsOutside_of_forall {text : List Char} (outside : ∀ c ∈ text, p c = false) :
    Key.StartsOutside p text :=
  fun c here => outside c (List.mem_of_mem_head? here)

/-- A bare name is read up to the white space behind it. -/
theorem readPropertyName_bare (own : IsBare bare) (tail : List Char)
    (blank : ∀ c ∈ tail, isSpace c = true) :
    readPropertyName (String.ofList (bare ++ tail)) = some (String.ofList bare) := by
  have outside : ∀ c ∈ bare, isSpace c = false := fun c mem =>
    (of_continuesBareName (own.inside c mem)).2.1
  have trimmed : Text.dropEnds isSpace (bare ++ tail) = bare :=
    dropEnds_append own.ne_nil (startsOutside_of_forall outside)
      (startsOutside_of_forall fun c mem => outside c (List.mem_reverse.mp mem)) blank
  rw [readPropertyName, String.toList_ofList, trimmed]
  split
  case h_1 quoted =>
      exact absurd rfl (of_continuesBareName (own.inside '"' List.mem_cons_self)).2.2
  case h_2 => rw [if_pos own.isIdentifier]

/-- The characters of a literal are read from its opening quote on. -/
theorem readChars_tail_stringLiteral (key : String) (rest : List Char) :
    Json.readChars (Json.stringLiteral true key ++ rest)
      ((Json.stringLiteral true key ++ rest).tail) = .ok (key.toList, rest) := by
  have inside : (Json.stringLiteral true key ++ rest).tail =
      key.toList.flatMap (Json.literalChar true) ++ '"' :: rest := by
    simp [Json.stringLiteral]
  rw [inside]
  exact Json.readChars_literal true key.toList

theorem readPropertyName_asciiLiteral (key : String) :
    readPropertyName (Json.asciiLiteral key) = some key := by
  have quote : isSpace '"' = false := by decide
  have trimmed : Text.dropEnds isSpace (Json.stringLiteral true key ++ []) =
      Json.stringLiteral true key := by
    apply dropEnds_append
    · exact List.cons_ne_nil _ _
    · simp [Key.StartsOutside, Json.stringLiteral, quote]
    · simp [Key.StartsOutside, Json.stringLiteral, quote]
    · exact List.forall_mem_nil _
  have found := readChars_tail_stringLiteral key []
  rw [List.append_nil] at trimmed found
  rw [readPropertyName, Json.asciiLiteral, String.toList_ofList, trimmed, Json.stringLiteral,
    List.cons_append]
  simp only [Json.stringLiteral, List.cons_append, List.tail_cons] at found
  simp only [found, String.ofList_toList]

/-- The name of a property is read as its key, without a line feed behind a bare name. -/
theorem readPropertyName_propertyName (key : String) :
    readPropertyName (propertyName key) = some (readAs key) := by
  rcases isBare_or_feedEnded_or_quoted key with
    ⟨own, bare, kept⟩ | ⟨name, own, same, bare, read⟩ | ⟨quoted, -, kept⟩
  · have found := readPropertyName_bare own [] (List.forall_mem_nil _)
    rw [List.append_nil, String.ofList_toList] at found
    rw [propertyName, if_pos bare, found, kept]
  · have found := readPropertyName_bare own ['\n'] (List.forall_mem_singleton.mpr (by decide))
    rw [← same, String.ofList_toList] at found
    rw [propertyName, if_pos bare, found, read]
  · rw [propertyName, quoted, if_neg Bool.false_ne_true, kept]
    exact readPropertyName_asciiLiteral key

end Reading

section Accesses

variable {p : Char → Bool} {bare rest more : List Char} {key other : String}
variable {keys : List String}

theorem toList_accessChain (keys : List String) :
    (accessChain keys).toList = keys.flatMap fun key => (propertyAccess key).toList := by
  rw [accessChain, String.toList_join, List.flatMap_map]

theorem toList_accessChain_cons (key : String) (keys : List String) :
    (accessChain (key :: keys)).toList =
      (propertyAccess key).toList ++ (accessChain keys).toList := by
  rw [toList_accessChain, toList_accessChain, List.flatMap_cons]

/-- An access is a dot and the key, or a quoted key between brackets. -/
theorem toList_propertyAccess (key : String) :
    (propertyAccess key).toList =
      if isBareName key.toList then '.' :: key.toList
      else '[' :: Json.stringLiteral true key ++ [']'] := by
  rw [propertyAccess]
  split
  · rw [String.toList_append]
    rfl
  · simp [Json.asciiLiteral]

/-- Nothing that starts with a dot or a bracket goes on with what stands before it. -/
theorem startsOutside_accessChain (dot : p '.' = false) (bracket : p '[' = false)
    (keys : List String) : Key.StartsOutside p (accessChain keys).toList := by
  cases keys with
  | nil => exact fun c here => nomatch here
  | cons key others =>
      rw [toList_accessChain_cons, toList_propertyAccess]
      split <;> simp [Key.StartsOutside, dot, bracket]

theorem readAccess?_dot (own : IsBare bare) (outside : Key.StartsOutside isIdentifierPart rest) :
    readAccess? ('.' :: (bare ++ rest)) = some (String.ofList bare, rest) := by
  have inside : ∀ c ∈ bare, isIdentifierPart c = true := fun c mem =>
    (of_continuesBareName (own.inside c mem)).1
  have taken := Key.takeWhile_append_of_startsOutside inside outside
  have dropped : (bare ++ rest).dropWhile isIdentifierPart = rest := by
    rw [List.dropWhile_append_of_pos inside, Key.dropWhile_of_startsOutside outside]
  rw [readAccess?, taken, if_pos own.isIdentifier, dropped]

theorem readAccess?_bracket (key : String) (rest : List Char) :
    readAccess? ('[' :: (Json.stringLiteral true key ++ ']' :: rest)) = some (key, rest) := by
  have found := readChars_tail_stringLiteral key (']' :: rest)
  simp only [Json.stringLiteral, List.cons_append, List.tail_cons] at found ⊢
  rw [readAccess?]
  simp only [found, String.ofList_toList]

/-- An access is read as its key, without a line feed behind a bare name, and this line feed is
left as white space in front of what follows. -/
theorem readAccess?_propertyAccess (key : String)
    (outside : Key.StartsOutside isIdentifierPart rest) :
    ∃ tail, (∀ c ∈ tail, isSpace c = true) ∧
      readAccess? ((propertyAccess key).toList ++ rest) = some (readAs key, tail ++ rest) := by
  rw [toList_propertyAccess]
  rcases isBare_or_feedEnded_or_quoted key with
    ⟨own, bare, kept⟩ | ⟨name, own, same, bare, read⟩ | ⟨quoted, -, kept⟩
  · refine ⟨[], List.forall_mem_nil _, ?_⟩
    rw [bare, if_pos rfl, List.cons_append, readAccess?_dot own outside, kept,
      String.ofList_toList]
    rfl
  · have feed : Key.StartsOutside isIdentifierPart ('\n' :: rest) := by
      rintro c ⟨⟩
      decide +kernel
    refine ⟨['\n'], List.forall_mem_singleton.mpr (by decide), ?_⟩
    rw [bare, if_pos rfl, same, List.cons_append, List.append_assoc, List.singleton_append,
      readAccess?_dot own feed, read]
  · refine ⟨[], List.forall_mem_nil _, ?_⟩
    rw [quoted, if_neg Bool.false_ne_true, List.append_assoc, List.singleton_append,
      List.cons_append, readAccess?_bracket, kept]
    rfl

/-- A chain of accesses is read access by access. -/
theorem readAccesses_accessChain {fuel : Nat} (enough : keys.length < fuel) (tail : List Char)
    (blank : ∀ c ∈ tail, isSpace c = true) :
    readAccesses fuel (tail ++ (accessChain keys).toList) = some (keys.map readAs) := by
  have fresh : ∀ keys, Key.StartsOutside isSpace (accessChain keys).toList :=
    startsOutside_accessChain (by decide) (by decide)
  induction keys generalizing fuel tail with
  | nil =>
      obtain ⟨steps, rfl⟩ := Nat.exists_eq_add_of_lt enough
      rw [readAccesses, List.dropWhile_append_of_pos blank]
      rfl
  | cons key others ih =>
      obtain ⟨steps, rfl⟩ := Nat.exists_eq_add_of_lt enough
      obtain ⟨left, white, found⟩ := readAccess?_propertyAccess key
        (startsOutside_accessChain (by decide +kernel) (by decide +kernel) others)
      have start := Key.dropWhile_of_startsOutside (fresh (key :: others))
      have fewer : others.length < (key :: others).length + steps := by
        rw [List.length_cons]
        omega
      rw [readAccesses, List.dropWhile_append_of_pos blank, start]
      split
      case h_1 none =>
          rw [← toList_accessChain_cons, none] at found
          cases found
      case h_2 =>
          rw [toList_accessChain_cons, found, Option.bind_some, ih fewer left white]
          rfl

theorem length_le_length_accessChain (keys : List String) :
    keys.length ≤ (accessChain keys).toList.length := by
  induction keys with
  | nil => exact Nat.zero_le _
  | cons key others ih =>
      have nonempty : 1 ≤ (propertyAccess key).toList.length := by
        rw [toList_propertyAccess]
        split <;> simp
      rw [toList_accessChain_cons, List.length_append, List.length_cons]
      omega

/-- A chain of accesses is read as its keys, without line feeds behind bare names. -/
theorem readAccessChain_accessChain (keys : List String) :
    readAccessChain (accessChain keys) = some (keys.map readAs) :=
  readAccesses_accessChain (Nat.lt_succ_of_le (length_le_length_accessChain keys)) []
    (List.forall_mem_nil _)

/-- Accesses in front of other accesses are told apart. -/
theorem propertyAccess_append_inj
    (outside : Key.StartsOutside (fun c => continuesBareName c || c == '\n') rest)
    (beyond : Key.StartsOutside (fun c => continuesBareName c || c == '\n') more)
    (same : (propertyAccess key).toList ++ rest = (propertyAccess other).toList ++ more) :
    key = other ∧ rest = more := by
  have inside : ∀ key : String, isBareName key.toList = true →
      ∀ c ∈ key.toList, (continuesBareName c || c == '\n') = true := by
    intro key bare c mem
    rcases isBareName_iff.mp bare with own | ⟨name, own, spelled⟩
    · rw [own.inside c mem, Bool.true_or]
    · rw [spelled, List.mem_append, List.mem_singleton] at mem
      rcases mem with mem | rfl
      · rw [own.inside c mem, Bool.true_or]
      · decide
  rw [toList_propertyAccess, toList_propertyAccess] at same
  cases bare : isBareName key.toList <;> cases plain : isBareName other.toList <;>
    simp only [bare, plain, if_true, Bool.false_eq_true, if_false, List.cons_append,
      List.cons.injEq, List.append_assoc, List.nil_append] at same
  case true.true =>
      obtain ⟨keys, rests⟩ := Key.append_inj_of_startsOutside (inside key bare)
        (inside other plain) outside beyond same.2
      exact ⟨String.toList_injective keys, rests⟩
  case false.false =>
      have first := readAccess?_bracket key rest
      rw [same.2, readAccess?_bracket] at first
      cases first
      exact ⟨rfl, rfl⟩
  case true.false => exact absurd same.1 (by decide)
  case false.true => exact absurd same.1 (by decide)

theorem accessChain_cons_ne_nil (key : String) (keys : List String) :
    (accessChain (key :: keys)).toList ≠ [] := by
  have long := length_le_length_accessChain (key :: keys)
  rw [List.length_cons] at long
  exact List.ne_nil_of_length_pos (by omega)

/-- Different lists of keys have different chains of accesses. -/
theorem accessChain_injective : Function.Injective accessChain := by
  have bounded : ∀ keys, Key.StartsOutside (fun c => continuesBareName c || c == '\n')
      (accessChain keys).toList :=
    startsOutside_accessChain (by decide) (by decide)
  intro keys others same
  replace same := congrArg String.toList same
  induction keys generalizing others with
  | nil =>
      cases others with
      | nil => rfl
      | cons other more => exact absurd same.symm (accessChain_cons_ne_nil other more)
  | cons key rest ih =>
      cases others with
      | nil => exact absurd same (accessChain_cons_ne_nil key rest)
      | cons other more =>
          rw [toList_accessChain_cons, toList_accessChain_cons] at same
          obtain ⟨rfl, behind⟩ := propertyAccess_append_inj (bounded rest) (bounded more) same
          rw [ih behind]

end Accesses

/-- A property is read as the key that it was made from, and a chain of accesses as its list of
keys, exactly if no line feed stands behind a bare name; different lists of keys always have
different chains. -/
theorem properties_denote_keys_iff (key : String) (keys others : List String) :
    (readPropertyName (propertyName key) = some key ↔ ¬FeedEnded key) ∧
    (readAccessChain (accessChain keys) = some keys ↔ ∀ key ∈ keys, ¬FeedEnded key) ∧
    (accessChain keys = accessChain others ↔ keys = others) := by
  refine ⟨?_, ?_, accessChain_injective.eq_iff⟩
  · rw [readPropertyName_propertyName, Option.some.injEq, readAs_eq_iff]
  · have each : keys.map readAs = keys ↔ ∀ key ∈ keys, readAs key = key := by
      conv_lhs => rw [← List.map_id keys, List.map_map]
      exact List.map_inj_left
    rw [readAccessChain_accessChain, Option.some.injEq, each]
    exact forall₂_congr fun key _ => readAs_eq_iff

/-- A line feed behind a bare name is lost: the key is let through without quotes. -/
theorem properties_feedEnded :
    readPropertyName (propertyName "a\n") = some "a" ∧
    readAccessChain (accessChain ["a\n"]) = some ["a"] ∧
    ¬∀ key, readPropertyName (propertyName key) = some key := by
  have name : readPropertyName (propertyName "a\n") = some "a" := by decide +kernel
  refine ⟨name, by decide +kernel, fun all => ?_⟩
  have other := all "a\n"
  rw [name] at other
  exact absurd other (by decide)

end DesignTokens.Script
