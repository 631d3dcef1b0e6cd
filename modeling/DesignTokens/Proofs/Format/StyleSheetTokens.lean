import DesignTokens.Proofs.Format.StyleSheetStrings
import DesignTokens.Proofs.Key.Boundaries
import DesignTokens.Proofs.Number.Characters
import DesignTokens.Proofs.Number.DistinctTexts

/-!
# Reading declarations of style sheets

A block of a style sheet is cut into tokens up to its closing brace, and the tokens are read as
declarations.

## Implementation notes

The reader takes a part of the syntax: strings in single quotes, words, commas, and numbers with
units as documents write them. Whatever else a style sheet may hold is refused, so that what is
read is what any reader of style sheets gives.
-/

namespace DesignTokens.Css

/-- A character that a name in a style sheet may have without an escape. -/
def isNameChar (c : Char) : Bool :=
  c.isAlphanum || c == '-' || c == '_' || decide (0x80 ≤ c.toNat)

/-- The tokens of declarations. -/
inductive Token where
  | string (text : String)
  | number (value : Number) (unit : String)
  | word (name : String)
  | colon
  | semicolon
  | comma
  deriving DecidableEq, Repr

/-- The token that a text starts with, and the rest. -/
def readToken? (dialect : Dialect) : List Char → Option (Token × List Char)
  | [] => none
  | c :: rest =>
    if c = '\'' then
      (readString dialect 0 rest).map fun found => (.string (String.ofList found.1), found.2)
    else if c = ':' then some (.colon, rest)
    else if c = ';' then some (.semicolon, rest)
    else if c = ',' then some (.comma, rest)
    else
      match Number.scan (c :: rest) with
      | some (x, after) =>
        some (.number x (String.ofList (after.takeWhile isNameChar)), after.dropWhile isNameChar)
      | none =>
        let word := (c :: rest).takeWhile isNameChar
        if word = [] then none
        else some (.word (String.ofList word), (c :: rest).dropWhile isNameChar)

/-- The tokens of a block, and the text from its closing brace on. The number counts the characters
of a token that are still to be passed over. -/
def readTokens (dialect : Dialect) : Nat → List Char → Option (List Token × List Char)
  | _, [] => some ([], [])
  | skip + 1, _ :: rest => readTokens dialect skip rest
  | 0, c :: rest =>
    if isSpace c then readTokens dialect 0 rest
    else if c = '\x7d' then some ([], c :: rest)
    else
      (readToken? dialect (c :: rest)).bind fun found =>
        (readTokens dialect (rest.length - found.2.length) rest).map fun more =>
          (found.1 :: more.1, more.2)

/-- A property and the tokens of its value. -/
structure Declaration where
  property : String
  value : List Token
  deriving DecidableEq, Repr

/-- The declarations that tokens make, from the declaration that has been begun. -/
def readFrom : Option Declaration → List Token → Option (List Declaration)
  | none, [] => some []
  | none, .semicolon :: rest => readFrom none rest
  | none, .word name :: .colon :: rest => readFrom (some ⟨name, []⟩) rest
  | none, _ => none
  | some begun, [] => some [begun]
  | some begun, .semicolon :: rest => (readFrom none rest).map (begun :: ·)
  | some _, .colon :: _ => none
  | some begun, token :: rest =>
    readFrom (some { begun with value := begun.value ++ [token] }) rest

/-- The declarations of a block, and the text from its closing brace on. -/
def readDeclarations (dialect : Dialect) (text : List Char) :
    Option (List Declaration × List Char) :=
  (readTokens dialect 0 text).bind fun found =>
    (readFrom none found.1).map fun declarations => (declarations, found.2)

section Tokens

variable {dialect : Dialect} {c : Char} {front first second rest : List Char}
  {found more : List Token}

/-- A text reads as tokens whatever stands behind it. -/
def Gives (dialect : Dialect) (front : List Char) (found : List Token) : Prop :=
  ∀ rest, readTokens dialect 0 (front ++ rest) =
    (readTokens dialect 0 rest).map fun others => (found ++ others.1, others.2)

theorem Gives.append (one : Gives dialect first found) (two : Gives dialect second more) :
    Gives dialect (first ++ second) (found ++ more) := by
  intro rest
  rw [List.append_assoc, one, two, Option.map_map]
  simp only [Function.comp_def, List.append_assoc]

theorem readTokens_length (front rest : List Char) :
    readTokens dialect front.length (front ++ rest) = readTokens dialect 0 rest := by
  induction front with
  | nil => rfl
  | cons c more ih => exact ih

/-- White space gives no token. -/
theorem gives_of_isSpace (blank : ∀ c ∈ front, isSpace c = true) : Gives dialect front [] := by
  intro rest
  induction front with
  | nil =>
      rw [List.nil_append]
      cases readTokens dialect 0 rest <;> rfl
  | cons c more ih =>
      rw [List.cons_append, readTokens, if_pos (blank c List.mem_cons_self)]
      exact ih fun d mem => blank d (List.mem_cons_of_mem c mem)

/-- A token that is read up to some place gives itself. -/
theorem readTokens_of_readToken? {token : Token} (visible : isSpace c = false)
    (inside : c ≠ '\x7d')
    (h : readToken? dialect (c :: (front ++ rest)) = some (token, rest)) :
    readTokens dialect 0 (c :: (front ++ rest)) =
      (readTokens dialect 0 rest).map fun others => (token :: others.1, others.2) := by
  have taken : (front ++ rest).length - rest.length = front.length := by
    rw [List.length_append, Nat.add_sub_cancel]
  rw [readTokens, visible, if_neg Bool.false_ne_true, if_neg inside, h, Option.bind_some, taken,
    readTokens_length]

theorem gives_mark {token : Token} (visible : isSpace c = false) (inside : c ≠ '\x7d')
    (h : ∀ rest, readToken? dialect (c :: rest) = some (token, rest)) :
    Gives dialect [c] [token] :=
  fun rest => @readTokens_of_readToken? dialect c [] rest token visible inside (h rest)

theorem gives_colon : Gives dialect [':'] [.colon] :=
  gives_mark (by decide) (by decide) fun _ => rfl

theorem gives_semicolon : Gives dialect [';'] [.semicolon] :=
  gives_mark (by decide) (by decide) fun _ => rfl

theorem gives_comma : Gives dialect [','] [.comma] :=
  gives_mark (by decide) (by decide) fun _ => rfl

/-- The characters with which no mark, string or white space starts. -/
def isBare (c : Char) : Bool :=
  !isSpace c && !(['\'', ':', ';', ',', '\x7d'].contains c)

theorem isBare_iff :
    isBare c = true ↔ c ∉ [' ', '\t', '\n', '\r', '\x0c', '\'', ':', ';', ',', '\x7d'] := by
  simp [isBare, isSpace, isNewline, not_or, and_assoc]

theorem notMem_of_all {holds : Char → Bool} {marks : List Char}
    (outside : (marks.all fun mark => !holds mark) = true) (inside : holds c = true) :
    c ∉ marks := by
  intro mem
  have other := List.all_eq_true.mp outside c mem
  rw [inside] at other
  cases other

theorem isBare_of_isNameChar (inside : isNameChar c = true) : isBare c = true := by
  rw [isBare_iff]
  exact notMem_of_all (by decide) inside

theorem isBare_of_isTextChar (inside : Number.isTextChar c = true) : isBare c = true := by
  rw [isBare_iff]
  exact notMem_of_all (by decide) inside

theorem readToken?_of_isBare (bare : isBare c = true) (rest : List Char) :
    readToken? dialect (c :: rest) =
      match Number.scan (c :: rest) with
      | some (x, after) =>
        some (.number x (String.ofList (after.takeWhile isNameChar)), after.dropWhile isNameChar)
      | none =>
        if (c :: rest).takeWhile isNameChar = [] then none
        else some (.word (String.ofList ((c :: rest).takeWhile isNameChar)),
          (c :: rest).dropWhile isNameChar) := by
  rw [isBare_iff] at bare
  simp only [List.mem_cons, not_or] at bare
  obtain ⟨-, -, -, -, -, quote, colon, semicolon, comma, -⟩ := bare
  rw [readToken?, if_neg quote, if_neg colon, if_neg semicolon, if_neg comma]

/-- A bare text that is read as a token up to a mark gives the token and the mark. -/
theorem gives_bare {mark : Char} {token other : Token} (nonempty : front ≠ [])
    (bare : ∀ c ∈ front, isBare c = true) (marked : Gives dialect [mark] [other])
    (h : ∀ rest, readToken? dialect (front ++ mark :: rest) = some (token, mark :: rest)) :
    Gives dialect (front ++ [mark]) [token, other] := by
  intro rest
  obtain ⟨c, more, rfl⟩ := List.exists_cons_of_ne_nil nonempty
  have own := isBare_iff.mp (bare c List.mem_cons_self)
  simp only [List.mem_cons, not_or] at own
  have visible : isSpace c = false := by simp [isSpace, isNewline, own]
  have inside : c ≠ '\x7d' := by simp [own]
  rw [List.append_assoc, List.singleton_append, List.cons_append,
    readTokens_of_readToken? visible inside (h rest), ← List.singleton_append, marked rest,
    Option.map_map]
  rfl

/-- The characters of a name are taken up to a mark. -/
theorem span_isNameChar {mark : Char} (named : ∀ c ∈ front, isNameChar c = true)
    (outside : isNameChar mark = false) (rest : List Char) :
    (front ++ mark :: rest).takeWhile isNameChar = front ∧
      (front ++ mark :: rest).dropWhile isNameChar = mark :: rest := by
  constructor
  · apply Key.takeWhile_append_of_startsOutside named
    intro c first
    cases first
    exact outside
  · rw [List.dropWhile_append_of_pos named, List.dropWhile_cons_of_neg (by simp [outside])]

/-- A text of characters of names that starts no number. -/
structure Word (text : List Char) : Prop where
  nonempty : text ≠ []
  named : ∀ c ∈ text, isNameChar c = true
  unread : ∀ rest, Number.scan (text ++ rest) = none

theorem Word.append (word : Word first) (named : ∀ c ∈ second, isNameChar c = true) :
    Word (first ++ second) where
  nonempty := List.append_ne_nil_of_left_ne_nil word.nonempty second
  named c mem := (List.mem_append.mp mem).elim (word.named c) (named c)
  unread rest := by rw [List.append_assoc, word.unread]

theorem Word.gives {mark : Char} {other : Token} (word : Word front)
    (outside : isNameChar mark = false) (marked : Gives dialect [mark] [other]) :
    Gives dialect (front ++ [mark]) [.word (String.ofList front), other] := by
  refine gives_bare word.nonempty (fun c mem => isBare_of_isNameChar (word.named c mem)) marked ?_
  intro rest
  obtain ⟨taken, dropped⟩ := span_isNameChar word.named outside rest
  have scanned := word.unread (mark :: rest)
  have nonempty := word.nonempty
  obtain ⟨c, more, rfl⟩ := List.exists_cons_of_ne_nil nonempty
  rw [List.cons_append] at taken dropped scanned ⊢
  rw [readToken?_of_isBare (isBare_of_isNameChar (word.named c List.mem_cons_self)), scanned]
  simp only [taken, dropped, if_neg nonempty]

/-- A finite number with a unit. -/
theorem gives_number {x : Number} {unit : String} (finite : x.isFinite = true)
    (named : ∀ c ∈ unit.toList, isNameChar c = true)
    (ends : ∀ rest, Number.NoNumberNext (unit.toList ++ ';' :: rest)) :
    Gives dialect (x.text.toList ++ unit.toList ++ [';']) [.number x unit, .semicolon] := by
  have nonempty : x.text.toList ≠ [] := by
    intro vacant
    have scanned := Number.scan_text_of_isFinite finite
    rw [vacant] at scanned
    cases scanned
  refine gives_bare (List.append_ne_nil_of_left_ne_nil nonempty _) ?_ gives_semicolon ?_
  · intro c mem
    rcases List.mem_append.mp mem with mem | mem
    · exact isBare_of_isTextChar (x.numberChars_text c mem)
    · exact isBare_of_isNameChar (named c mem)
  · intro rest
    have semicolon : isNameChar ';' = false := by decide
    obtain ⟨taken, dropped⟩ := span_isNameChar named semicolon rest
    have scanned := Number.scan_text_append_of_isFinite finite (ends rest)
    have chars := x.numberChars_text
    rw [List.append_assoc]
    obtain ⟨c, more, spelled⟩ := List.exists_cons_of_ne_nil nonempty
    rw [spelled, List.cons_append] at scanned ⊢
    have own := chars c (spelled ▸ List.mem_cons_self)
    rw [readToken?_of_isBare (isBare_of_isTextChar own), scanned]
    simp only [taken, dropped, String.ofList_toList]

/-- The text of a number that is not finite is a word. -/
theorem word_text_of_not_isFinite {x : Number} (infinite : x.isFinite = false) :
    Word x.text.toList := by
  cases x with
  | integer n => cases infinite
  | real double =>
      cases double with
      | finite negative rank => cases infinite
      | infinite negative =>
          cases negative <;>
            exact ⟨by decide, List.all_eq_true.mp (by decide), fun _ => rfl⟩
      | nan => exact ⟨by decide, List.all_eq_true.mp (by decide), fun _ => rfl⟩

/-- How a number with a unit is read: as a word if it is not finite. -/
def numberToken (x : Number) (unit : String) : Token :=
  if x.isFinite then .number x unit else .word (x.text ++ unit)

theorem numberToken_eq_number_iff {x : Number} {unit : String} :
    numberToken x unit = .number x unit ↔ x.isFinite = true := by
  unfold numberToken
  split <;> simp_all

theorem gives_numberToken (x : Number) {unit : String}
    (named : ∀ c ∈ unit.toList, isNameChar c = true)
    (ends : ∀ rest, Number.NoNumberNext (unit.toList ++ ';' :: rest)) :
    Gives dialect (x.text.toList ++ unit.toList ++ [';']) [numberToken x unit, .semicolon] := by
  cases finite : x.isFinite with
  | true =>
      rw [numberToken, if_pos finite]
      exact gives_number finite named ends
  | false =>
      have spelled : x.text ++ unit = String.ofList (x.text.toList ++ unit.toList) := by simp
      rw [numberToken, if_neg (by simp [finite]), spelled]
      exact ((word_text_of_not_isFinite finite).append named).gives (by decide) gives_semicolon

/-- A string that is read up to its closing quote gives itself. -/
theorem gives_string (literal : Literal dialect front) :
    Gives dialect ('\'' :: (front ++ ['\''])) [.string (String.ofList front)] := by
  intro rest
  have read := readString_of_literal literal rest
  rw [← List.singleton_append, ← List.append_assoc] at read
  refine readTokens_of_readToken? (by decide) (by decide) ?_
  rw [readToken?, if_pos rfl, read]
  rfl

/-- The first token behind a quote is the string that is read there. -/
theorem exists_readString_of_readTokens {text left : List Char}
    (h : readTokens dialect 0 ('\'' :: text) = some (found, left)) :
    ∃ value after more, readString dialect 0 text = some (value, after) ∧
      found = .string (String.ofList value) :: more := by
  have visible : isSpace '\'' = false := by decide
  have inside : '\'' ≠ '\x7d' := by decide
  rw [readTokens, visible, if_neg Bool.false_ne_true, if_neg inside, readToken?, if_pos rfl] at h
  obtain ⟨⟨token, behind⟩, read, h⟩ := Option.bind_eq_some_iff.mp h
  obtain ⟨⟨value, after⟩, quoted, same⟩ := Option.map_eq_some_iff.mp read
  cases same
  obtain ⟨⟨more, end_⟩, _, same⟩ := Option.map_eq_some_iff.mp h
  cases same
  exact ⟨value, after, more, quoted, rfl⟩

/-- Where white space leads to the end of the text or to a closing brace, a block ends. -/
def EndsBlock (rest : List Char) : Prop :=
  ∀ c ∈ (rest.dropWhile isSpace).head?, c = '\x7d'

theorem readTokens_of_endsBlock (ends : EndsBlock rest) :
    readTokens dialect 0 rest = some ([], rest.dropWhile isSpace) := by
  induction rest with
  | nil => rfl
  | cons c more ih =>
      rw [EndsBlock, List.dropWhile_cons] at ends
      rw [readTokens, List.dropWhile_cons]
      cases blank : isSpace c with
      | true =>
          rw [blank, if_pos rfl] at ends
          rw [if_pos rfl, if_pos rfl]
          exact ih ends
      | false =>
          rw [blank, if_neg Bool.false_ne_true] at ends
          rw [if_neg Bool.false_ne_true, if_neg Bool.false_ne_true, if_pos (ends c rfl)]

end Tokens

section Declarations

variable {dialect : Dialect} {begun : Declaration} {rest : List Char}

/-- The tokens of a declaration with the semicolon that ends it. -/
def Declaration.tokens (declaration : Declaration) : List Token :=
  .word declaration.property :: .colon :: declaration.value ++ [.semicolon]

/-- What has been begun stays at the front. -/
theorem readFrom_begun {tokens : List Token} {declarations : List Declaration}
    (h : readFrom (some begun) tokens = some declarations) :
    ∃ first others, declarations = first :: others ∧ begun.value <+: first.value := by
  induction tokens generalizing begun declarations with
  | nil =>
      cases h
      exact ⟨begun, [], rfl, List.prefix_refl _⟩
  | cons token more ih =>
      have longer : ∀ next : Token,
          readFrom (some { begun with value := begun.value ++ [next] }) more = some declarations →
          ∃ first others, declarations = first :: others ∧ begun.value <+: first.value := by
        intro next read
        obtain ⟨first, others, split, front⟩ := ih read
        exact ⟨first, others, split, (List.prefix_append _ _).trans front⟩
      cases token with
      | semicolon =>
          obtain ⟨others, _, rfl⟩ := Option.map_eq_some_iff.mp h
          exact ⟨begun, others, rfl, List.prefix_refl _⟩
      | colon => cases h
      | _ => exact longer _ h

/-- Tokens other than marks are taken into the value. -/
theorem readFrom_value {value : List Token}
    (plain : ∀ token ∈ value, token ≠ .colon ∧ token ≠ .semicolon) (tokens : List Token) :
    readFrom (some begun) (value ++ .semicolon :: tokens) =
      (readFrom none tokens).map ({ begun with value := begun.value ++ value } :: ·) := by
  induction value generalizing begun with
  | nil =>
      rw [List.append_nil]
      rfl
  | cons token more ih =>
      have own := plain token List.mem_cons_self
      have others : readFrom (some { begun with value := begun.value ++ [token] })
          (more ++ .semicolon :: tokens) = _ :=
        ih fun other mem => plain other (List.mem_cons_of_mem _ mem)
      rw [List.append_assoc] at others
      cases token with
      | semicolon => exact absurd rfl own.2
      | colon => exact absurd rfl own.1
      | _ => exact others

/-- Declarations are made of their own tokens. -/
theorem readFrom_flatMap_tokens {declarations : List Declaration}
    (plain : ∀ declaration ∈ declarations, ∀ token ∈ declaration.value,
      token ≠ .colon ∧ token ≠ .semicolon) :
    readFrom none (declarations.flatMap Declaration.tokens) = some declarations := by
  induction declarations with
  | nil => rfl
  | cons first others ih =>
      obtain ⟨property, value⟩ := first
      have tail := ih fun other mem => plain other (List.mem_cons_of_mem _ mem)
      have own : readFrom (some ⟨property, []⟩)
          (value ++ .semicolon :: others.flatMap Declaration.tokens) = _ :=
        readFrom_value (plain _ List.mem_cons_self) _
      rw [tail] at own
      simpa [Declaration.tokens, readFrom] using own

/-- A text that gives the tokens of declarations is read as the declarations, up to the end of the
block. -/
theorem readDeclarations_of_gives {text : List Char} {declarations : List Declaration}
    (gives : Gives dialect text (declarations.flatMap Declaration.tokens))
    (plain : ∀ declaration ∈ declarations, ∀ token ∈ declaration.value,
      token ≠ .colon ∧ token ≠ .semicolon)
    (ends : EndsBlock rest) :
    readDeclarations dialect (text ++ rest) = some (declarations, rest.dropWhile isSpace) := by
  rw [readDeclarations, gives, readTokens_of_endsBlock ends]
  simp [readFrom_flatMap_tokens plain]

end Declarations

end DesignTokens.Css
