import DesignTokens.Proofs.Text.ExcerptLines
import DesignTokens.TokenFile
import Mathlib.Data.List.DropRight

/-!
# Lines of faults

The message about a fault names its line and its column and shows an excerpt of the text. The
excerpt is the named line, with the fault at the named column, exactly if line feeds alone break
the text up to the end of this line. A separator in a string or a lone carriage return between two
tokens moves the excerpt up or cuts it off.

## Implementation notes

An excerpt from another place may read like the line, so what is asked of it is its place and not
only its characters.

-/

namespace DesignTokens

namespace Json.Fault

open Text

/-- A line without the carriage return that ends it, if there is one. -/
def withoutFinalReturn (line : List Char) : List Char :=
  if line.getLast? = some '\r' then line.dropLast else line

/-- The whole lines before a fault. -/
def above (fault : Fault) (text : List Char) : List Char :=
  (fault.before text).rdropWhile (· ≠ '\n')

/-- What stands on the line of a fault before it. -/
def leading (fault : Fault) (text : List Char) : List Char :=
  (fault.before text).rtakeWhile (· ≠ '\n')

/-- What stands on the line of a fault from it on. -/
def trailing (fault : Fault) (text : List Char) : List Char :=
  (text.drop fault.offset).takeWhile (· ≠ '\n')

/-- The text up to the end of the line of a fault, without a carriage return there. -/
def scope (fault : Fault) (text : List Char) : List Char :=
  fault.before text ++ withoutFinalReturn (fault.trailing text)

/-- An excerpt that starts behind some characters is the line of a fault: the fault stands at its
column of the excerpt, or right behind it, and but for a carriage return the excerpt is the line
with this number. -/
structure ShowsLine (fault : Fault) (text : List Char) (start : Nat) (shown : List Char) :
    Prop where
  place : start + fault.column text = fault.offset + 1
  line : (feedLines text)[fault.line text - 1]? = some shown ∨
    (feedLines text)[fault.line text - 1]? = some (shown ++ ['\r'])
  column : fault.column text - 1 < shown.length ∧
      shown[fault.column text - 1]? = text[fault.offset]? ∨
    fault.column text = shown.length + 1

section OneLine

variable {front rest shown : List Char}

theorem withoutFinalReturn_concat (front : List Char) :
    withoutFinalReturn (front ++ ['\r']) = front := by
  rw [withoutFinalReturn, if_pos List.getLast?_concat, List.dropLast_concat]

theorem eq_withoutFinalReturn (line : List Char) :
    line = withoutFinalReturn line ∨ line = withoutFinalReturn line ++ ['\r'] := by
  by_cases returns : line.getLast? = some '\r'
  · obtain ⟨front, rfl⟩ := List.getLast?_eq_some_iff.mp returns
    rw [withoutFinalReturn_concat]
    exact .inr rfl
  · rw [withoutFinalReturn, if_neg returns]
    exact .inl rfl

/-- An unbroken text is a line up to a carriage return at its end. -/
theorem eq_append_withoutFinalReturn_iff (unbroken : ∀ c ∈ shown, isLineBreak c = false) :
    shown = front ++ withoutFinalReturn rest ↔
      (front ++ rest = shown ∨ front ++ rest = shown ++ ['\r']) ∧ front.length ≤ shown.length := by
  constructor
  · rintro rfl
    refine ⟨(eq_withoutFinalReturn rest).imp (congrArg _) fun returns => ?_, by simp⟩
    rw [List.append_assoc, ← returns]
  · rintro ⟨rfl | returned, within⟩
    · have solid : rest.getLast? ≠ some '\r' := by
        intro returns
        have plain := unbroken '\r' (List.mem_append_right _ (List.mem_of_getLast? returns))
        cases plain
      rw [withoutFinalReturn, if_neg solid]
    · obtain ⟨tail, rfl, rfl⟩ | ⟨tail, short, long⟩ := List.append_eq_append_iff.mp returned
      · rw [withoutFinalReturn_concat]
      · obtain rfl : tail = [] := by
          rw [short, List.length_append] at within
          exact List.length_eq_zero_iff.mp (by omega)
        rw [List.append_nil] at short
        rw [short, show rest = [] ++ ['\r'] from long.symm, withoutFinalReturn_concat,
          List.append_nil]

/-- The first excerpt of a line goes up to a carriage return at its end exactly if nothing else
breaks the line. -/
theorem takeWhile_eq_append_withoutFinalReturn_iff :
    (front ++ rest).takeWhile (fun c => !isLineBreak c) = front ++ withoutFinalReturn rest ↔
      ∀ c ∈ front ++ withoutFinalReturn rest, isLineBreak c = false := by
  constructor
  · intro whole c mem
    rw [← whole] at mem
    simpa using List.mem_takeWhile_imp mem
  · intro unbroken
    have all : ∀ c ∈ front ++ withoutFinalReturn rest, (!isLineBreak c) = true := by
      simpa using unbroken
    rcases eq_withoutFinalReturn rest with same | returns
    · rw [← same] at all ⊢
      exact List.takeWhile_eq_self_iff.mpr all
    · have cut : front ++ rest = (front ++ withoutFinalReturn rest) ++ ['\r'] := by
        rw [List.append_assoc, ← returns]
      rw [cut, List.takeWhile_append_of_pos all, List.takeWhile_cons_of_neg (by decide),
        List.append_nil]

theorem mem_of_mem_withoutFinalReturn {c : Char} (mem : c ∈ withoutFinalReturn rest) :
    c ∈ rest := by
  rcases eq_withoutFinalReturn rest with same | returns
  · rwa [same]
  · rw [returns]
    exact List.mem_append_left _ mem

/-- What stands below a line does not belong to its first excerpt. -/
theorem takeWhile_line_append {line below : List Char}
    (ends : below = [] ∨ ∃ more, below = '\n' :: more) :
    (line ++ below).takeWhile (fun c => !isLineBreak c) =
      line.takeWhile fun c => !isLineBreak c := by
  rcases ends with rfl | ⟨more, rfl⟩
  · rw [List.append_nil]
  · rw [List.takeWhile_append, List.takeWhile_cons_of_neg (by decide), List.append_nil]
    split
    case isTrue whole => exact ((List.takeWhile_prefix _).eq_of_length whole).symm
    case isFalse => rfl

end OneLine

section Cut

variable (fault : Fault) (text : List Char)

theorem above_append_leading : fault.above text ++ fault.leading text = fault.before text :=
  List.rdropWhile_append_rtakeWhile

theorem wholeLines_above : WholeLines (fault.above text) := by
  intro last mem
  obtain ⟨some_lines, rfl⟩ := List.mem_getLast?_eq_getLast mem
  have last := List.rdropWhile_last_not _ (fault.before text) some_lines
  simpa [above] using last

theorem feed_not_mem_leading : '\n' ∉ fault.leading text := fun mem => by
  simpa using List.mem_rtakeWhile_imp mem

theorem feed_not_mem_trailing : '\n' ∉ fault.trailing text := fun mem => by
  simpa using List.mem_takeWhile_imp mem

theorem column_eq : fault.column text = (fault.leading text).length + 1 := by
  rw [column, leading, List.rtakeWhile, List.length_reverse]

theorem line_eq : fault.line text - 1 = (fault.above text).count '\n' := by
  rw [line, ← above_append_leading, List.count_append,
    List.count_eq_zero.mpr (fault.feed_not_mem_leading text)]
  rfl

/-- A text is cut at the ends of the line of a fault and at the fault. -/
theorem exists_text_eq : ∃ below : List Char, (below = [] ∨ ∃ more, below = '\n' :: more) ∧
    text = fault.above text ++ (fault.leading text ++ fault.trailing text ++ below) := by
  refine ⟨(text.drop fault.offset).dropWhile (· ≠ '\n'), ?_, ?_⟩
  · cases rest : (text.drop fault.offset).dropWhile (· ≠ '\n') with
    | nil => exact .inl rfl
    | cons c more =>
        have stop := List.head?_dropWhile_not (· ≠ '\n') (text.drop fault.offset)
        rw [rest] at stop
        obtain rfl : c = '\n' := by simpa using stop
        exact .inr ⟨more, rfl⟩
  · rw [List.append_assoc, trailing, List.takeWhile_append_dropWhile, ← List.append_assoc,
      above_append_leading, before, List.take_append_drop]

theorem length_above_add_length_leading (within : fault.offset ≤ text.length) :
    (fault.above text).length + (fault.leading text).length = fault.offset := by
  rw [← List.length_append, above_append_leading, before, List.length_take_of_le within]

end Cut

section Excerpt

variable {fault : Fault} {text shown : List Char} {start : Nat}

/-- The line with the number of a fault is the one that the fault stands on. -/
theorem feedLines_line_getElem? :
    (feedLines text)[fault.line text - 1]? = some (fault.leading text ++ fault.trailing text) := by
  obtain ⟨below, ends, cut⟩ := fault.exists_text_eq text
  have apart : '\n' ∉ fault.leading text ++ fault.trailing text := by
    rw [List.mem_append]
    exact not_or.mpr ⟨fault.feed_not_mem_leading text, fault.feed_not_mem_trailing text⟩
  have first : (feedLines (fault.leading text ++ fault.trailing text ++ below)).head? =
      some (fault.leading text ++ fault.trailing text) := by
    rcases ends with rfl | ⟨more, rfl⟩
    · rw [List.append_nil, feedLines_of_feed_not_mem apart]
      rfl
    · rw [feedLines_append_feed, feedLines_of_feed_not_mem apart]
      rfl
  calc (feedLines text)[fault.line text - 1]?
      = (feedLines (fault.above text ++ (fault.leading text ++ fault.trailing text ++ below)))[
          (fault.above text).count '\n']? := by rw [← cut, line_eq]
    _ = _ := (feedLines_getElem? (fault.wholeLines_above text) _).trans first

/-- Below whole lines without a stray break stands the line of the fault up to its first break. -/
theorem excerptSpans_line_of_steady (steady : strayBreaks (fault.above text) = 0)
    (here : (excerptSpans text)[fault.line text - 1]? = some (start, shown)) :
    start = (fault.above text).length ∧
      shown = (fault.leading text ++ fault.trailing text).takeWhile fun c => !isLineBreak c := by
  obtain ⟨below, ends, cut⟩ := fault.exists_text_eq text
  have spans := excerptSpans_getElem?_of_steady (fault.wholeLines_above text) steady
    (fault.leading text ++ fault.trailing text ++ below)
  rw [← cut, ← line_eq, here] at spans
  split at spans
  case isTrue => cases spans
  case isFalse =>
      obtain ⟨starts, reads⟩ := Prod.mk.inj (Option.some.inj spans)
      exact ⟨starts, reads.trans (takeWhile_line_append ends)⟩

/-- An excerpt that starts where the line of the fault does has no stray break before it. -/
theorem steady_of_place (within : fault.offset ≤ text.length)
    (here : (excerptSpans text)[fault.line text - 1]? = some (start, shown))
    (place : start + fault.column text = fault.offset + 1) :
    strayBreaks (fault.above text) = 0 := by
  by_contra stray
  obtain ⟨below, -, cut⟩ := fault.exists_text_eq text
  have spans : (excerptSpans (fault.above text ++ (fault.leading text ++ fault.trailing text ++
      below)))[(fault.above text).count '\n']? = some (start, shown) := by
    rw [← cut, ← line_eq, here]
  have earlier := lt_of_excerptSpans_getElem? (fault.wholeLines_above text) stray spans
  have whole := fault.length_above_add_length_leading text within
  rw [column_eq] at place
  omega

theorem strayBreaks_scope_eq_zero_iff :
    strayBreaks (fault.scope text) = 0 ↔ strayBreaks (fault.above text) = 0 ∧
      ∀ c ∈ fault.leading text ++ withoutFinalReturn (fault.trailing text),
        isLineBreak c = false := by
  have feed : '\n' ∉ fault.leading text ++ withoutFinalReturn (fault.trailing text) := by
    rw [List.mem_append]
    refine not_or.mpr ⟨fault.feed_not_mem_leading text, fun mem => ?_⟩
    exact fault.feed_not_mem_trailing text (mem_of_mem_withoutFinalReturn mem)
  rw [scope, ← above_append_leading, List.append_assoc,
    strayBreaks_append (fault.wholeLines_above text), Nat.add_eq_zero_iff,
    strayBreaks_eq_zero_iff feed]

/-- A fault that is not at the end of its line stands at its column. -/
theorem column_of_shown (shows : shown = fault.leading text ++
    withoutFinalReturn (fault.trailing text)) :
    fault.column text - 1 < shown.length ∧
      shown[fault.column text - 1]? = text[fault.offset]? ∨
    fault.column text = shown.length + 1 := by
  rw [column_eq, Nat.add_sub_cancel, shows, List.length_append]
  cases behind : withoutFinalReturn (fault.trailing text) with
  | nil => exact .inr rfl
  | cons c more =>
      refine .inl ⟨Nat.lt_add_of_pos_right (Nat.succ_pos _), ?_⟩
      have first : (fault.trailing text).head? = some c := by
        rcases eq_withoutFinalReturn (fault.trailing text) with same | returns
        · rw [same, behind, List.head?_cons]
        · rw [returns, behind, List.cons_append, List.head?_cons]
      have stands : text[fault.offset]? = some c := by
        obtain ⟨below, goes_on⟩ : fault.trailing text <+: text.drop fault.offset :=
          List.takeWhile_prefix _
        rw [← List.head?_drop, ← goes_on, List.head?_append, first, Option.some_or]
      rw [List.getElem?_append_right (Nat.le_refl _), Nat.sub_self, stands]
      rfl

/-- An excerpt is the line of a fault exactly if no break before the end of this line is stray. -/
theorem showsLine_iff (within : fault.offset ≤ text.length)
    (here : (excerptSpans text)[fault.line text - 1]? = some (start, shown)) :
    fault.ShowsLine text start shown ↔ strayBreaks (fault.scope text) = 0 := by
  rw [strayBreaks_scope_eq_zero_iff]
  constructor
  · intro shows
    -- Behind a stray break the excerpt would start above the line of the fault.
    have steady := steady_of_place within here shows.place
    obtain ⟨-, cut⟩ := excerptSpans_line_of_steady steady here
    have unbroken : ∀ c ∈ shown, isLineBreak c = false := by
      intro c mem
      rw [cut] at mem
      simpa using List.mem_takeWhile_imp mem
    have reaches : (fault.leading text).length ≤ shown.length := by
      have column := shows.column
      rw [column_eq] at column
      omega
    have line := shows.line
    rw [feedLines_line_getElem?, Option.some_inj, Option.some_inj] at line
    have whole := (eq_append_withoutFinalReturn_iff unbroken).mpr ⟨line, reaches⟩
    exact ⟨steady, takeWhile_eq_append_withoutFinalReturn_iff.mp (cut.symm.trans whole)⟩
  · rintro ⟨steady, unbroken⟩
    obtain ⟨starts, cut⟩ := excerptSpans_line_of_steady steady here
    have whole := cut.trans (takeWhile_eq_append_withoutFinalReturn_iff.mpr unbroken)
    have line := ((eq_append_withoutFinalReturn_iff (whole ▸ unbroken)).mp whole).1
    refine ⟨?_, ?_, column_of_shown whole⟩
    · rw [starts, column_eq, ← Nat.add_assoc, fault.length_above_add_length_leading text within]
    · rwa [feedLines_line_getElem?, Option.some_inj, Option.some_inj]

end Excerpt

end Json.Fault

namespace Json

variable {text : List Char} {fault : Fault}

theorem offset_le_of_read (stopped : read text = .error fault) :
    fault.offset ≤ text.length := by
  unfold read at stopped
  split at stopped
  case h_1 => cases stopped
  case h_2 =>
      cases stopped
      exact Nat.sub_le _ _

/-- The fault at which the reading of a text stops, if it does. -/
def fault? (text : List Char) : Option Fault :=
  match read text with
  | .error fault => some fault
  | .ok _ => none

theorem fault?_eq_some_iff :
    fault? text = some fault ↔ read text = .error fault := by
  unfold fault?
  split
  case h_1 stopped => simp [stopped]
  case h_2 read => simp [read]

end Json

namespace TokenFile

open Json Text

variable {file : Path} {text : List Char} {defect : Defect} {location : Location} {shown : String}

theorem ofText_of_read_eq_error {fault : Fault} (stopped : Json.read text = .error fault)
    (short : ∀ count, fault.defect ≠ .tooManyDigits count) :
    ofText (some file) text = .error (.reported (.malformed fault.defect) (some
      ⟨file, some (fault.line text), some (fault.column text), fault.excerpt? text⟩)) := by
  unfold ofText
  rw [stopped]
  split
  case h_1 count offset digits =>
      cases digits
      exact absurd rfl (short count)
  case h_2 same =>
      cases same
      rfl
  case h_3 read => cases read
  case h_4 read => cases read

/-- A malformed text is reported with the line and the column of its fault and the excerpt that has
the number of this line. -/
theorem exists_fault_of_malformed
    (rejected : ofText (some file) text = .error (.reported (.malformed defect) (some location))) :
    ∃ fault, Json.read text = .error fault ∧ fault.defect = defect ∧
      location = ⟨file, some (fault.line text), some (fault.column text), fault.excerpt? text⟩ := by
  unfold ofText at rejected
  split at rejected
  case h_1 => cases rejected
  case h_2 fault _ stopped =>
      cases rejected
      exact ⟨fault, stopped, rfl, rfl⟩
  case h_3 => cases rejected
  case h_4 => cases rejected

/-- The excerpt below the message about a malformed text is the line that the message names, with
the fault at the column that it names, exactly if nothing but line feeds, and carriage returns right
before them, breaks the text up to the end of this line. -/
theorem excerpt_is_line_iff
    (rejected : ofText (some file) text = .error (.reported (.malformed defect) (some location)))
    (given : location.excerpt = some shown) :
    ∃ fault start, Json.read text = .error fault ∧ fault.defect = defect ∧
      location = ⟨file, some (fault.line text), some (fault.column text), some shown⟩ ∧
      (excerptSpans text)[fault.line text - 1]? = some (start, shown.toList) ∧
      (fault.ShowsLine text start shown.toList ↔ strayBreaks (fault.scope text) = 0) := by
  obtain ⟨fault, stopped, reason, rfl⟩ := exists_fault_of_malformed rejected
  have excerpt : fault.excerpt? text = some shown := given
  have spanned := excerpt
  rw [Fault.excerpt?, excerptLines, ← map_snd_excerptSpansFrom 0, List.getElem?_map,
    Option.map_map, Option.map_eq_some_iff] at spanned
  obtain ⟨⟨start, line⟩, here, rfl⟩ := spanned
  have reads : ((String.ofList ∘ Prod.snd) (start, line)).toList = line := String.toList_ofList
  rw [reads, excerpt]
  exact ⟨fault, start, stopped, reason, rfl, here,
    Fault.showsLine_iff (offset_le_of_read stopped) here⟩

/-- A file in the current directory. -/
def tokensFile : Path :=
  ⟨.here, ["tokens.json"]⟩

/-- An object without its value on the second line. -/
def brokenText : List Char :=
  "\x7b\n \"b\": \x7d".toList

/-- The same below a string with a line separator. -/
def separatedText : List Char :=
  "\x7b\"a\": \"first\u2028second\",\n \"b\": \x7d".toList

theorem excerpt_is_line_brokenText :
    let location : Location := ⟨tokensFile, some 2, some 7, some " \"b\": \x7d"⟩
    ofText (some tokensFile) brokenText =
        .error (.reported (.malformed .valueExpected) (some location)) ∧
      ∃ fault start, Json.read brokenText = .error fault ∧ fault.defect = .valueExpected ∧
        location = ⟨tokensFile, some (fault.line brokenText), some (fault.column brokenText),
          some " \"b\": \x7d"⟩ ∧
        (excerptSpans brokenText)[fault.line brokenText - 1]? =
          some (start, " \"b\": \x7d".toList) ∧
        (fault.ShowsLine brokenText start " \"b\": \x7d".toList ↔
          strayBreaks (fault.scope brokenText) = 0) := by
  intro location
  have stopped : fault? brokenText = some ⟨.valueExpected, 8⟩ := by decide +kernel
  have line : Fault.line ⟨.valueExpected, 8⟩ brokenText = 2 := by decide +kernel
  have column : Fault.column ⟨.valueExpected, 8⟩ brokenText = 7 := by decide +kernel
  have excerpt : Fault.excerpt? ⟨.valueExpected, 8⟩ brokenText = some " \"b\": \x7d" := by
    decide +kernel
  have rejected : ofText (some tokensFile) brokenText =
      .error (.reported (.malformed .valueExpected) (some location)) := by
    rw [ofText_of_read_eq_error (fault?_eq_some_iff.mp stopped) (by simp), line, column, excerpt]
    rfl
  exact ⟨rejected, excerpt_is_line_iff rejected rfl⟩

/-- Below a line separator the message shows the end of the line before the one that it names. -/
theorem excerpt_separatedText :
    ofText (some tokensFile) separatedText = .error (.reported (.malformed .valueExpected)
      (some ⟨tokensFile, some 2, some 7, some "second\","⟩)) ∧
    (feedLines separatedText)[1]? = some " \"b\": \x7d".toList ∧
    ¬∀ (file : Path) (text : List Char) (defect : Defect) (line column : Nat) (shown : String),
      ofText (some file) text = .error (.reported (.malformed defect)
        (some ⟨file, some line, some column, some shown⟩)) →
      (feedLines text)[line - 1]? = some shown.toList ∨
        (feedLines text)[line - 1]? = some (shown.toList ++ ['\r']) := by
  have stopped : fault? separatedText = some ⟨.valueExpected, 28⟩ := by decide +kernel
  have line : Fault.line ⟨.valueExpected, 28⟩ separatedText = 2 := by decide +kernel
  have column : Fault.column ⟨.valueExpected, 28⟩ separatedText = 7 := by decide +kernel
  have excerpt : Fault.excerpt? ⟨.valueExpected, 28⟩ separatedText = some "second\"," := by
    decide +kernel
  have rejected : ofText (some tokensFile) separatedText =
      .error (.reported (.malformed .valueExpected)
        (some ⟨tokensFile, some 2, some 7, some "second\","⟩)) := by
    rw [ofText_of_read_eq_error (fault?_eq_some_iff.mp stopped) (by simp), line, column, excerpt]
    rfl
  have second : (feedLines separatedText)[1]? = some " \"b\": \x7d".toList := by decide +kernel
  refine ⟨rejected, second, fun all => ?_⟩
  rcases all _ _ _ 2 7 _ rejected with shows | shows
  · exact absurd (second.symm.trans shows) (by decide)
  · exact absurd (second.symm.trans shows) (by decide)

end TokenFile

end DesignTokens
