import DesignTokens.Proofs.Files.Runs
import DesignTokens.Proofs.Json.LineEnds
import DesignTokens.Proofs.Text.Encoding
import DesignTokens.TokenFile

/-!
# Token files and their texts

A file is read with its line ends unified, its text alone is not. Both hold the same sections, or
neither holds any: what a file is loaded as depends only on the lines of its text behind one byte
order mark.

## Implementation notes

The texts are those that are accepted, with what they hold. How a rejected text is reported does
depend on its line ends, since a report names a line and a column.

-/

namespace DesignTokens.TokenFile

open FileTree Text

variable {tree : FileTree} {file : Path} {source : Option Path} {content : String}
  {text other : List Char} {members : Entries Json}

theorem ofText_eq_ok_iff : ofText source text = .ok members ↔
    Json.read text = .ok (.object members) := by
  unfold ofText
  cases Json.read text with
  | error fault =>
      obtain ⟨defect, offset⟩ := fault
      cases defect <;> simp
  | ok value => cases value <;> simp

/-- Texts of the same lines hold the same sections, if one of them holds any. -/
theorem ofText_eq_ok_congr (same : SameLines text other) {elsewhere : Option Path} :
    ofText source text = .ok members ↔ ofText elsewhere other = .ok members := by
  rw [ofText_eq_ok_iff, ofText_eq_ok_iff, Json.read_eq_ok_congr same]

theorem run_load_of_file (named : hasExtension file = true) {bytes : ByteArray}
    (there : tree.lookup file = .ok (.file bytes)) :
    tree.run (load file) = (ofBytes file bytes, tree) := by
  rw [load, if_pos named, run_bind, run_readBytes, readBytes, there]
  rfl

theorem ofBytes_toUTF8 (file : Path) (content : String) :
    ofBytes file content.toUTF8 =
      ofText (some file) (unifyNewlines (withoutMark content.toList)) := by
  rw [ofBytes, textOf, decodeMarkedUtf8_toUTF8]
  rfl

/-- A token file is loaded as sections exactly if its text, without the one byte order mark that
may stand in front of it, holds them, and so does every text of the same lines. -/
theorem load_eq_ok_iff_ofText (named : hasExtension file = true)
    (there : tree.lookup file = .ok (.file content.toUTF8)) (source : Option Path)
    (members : Entries Json) :
    ((tree.run (load file)).1 = .ok members ↔
      ofText source (withoutMark content.toList) = .ok members) ∧
    ∀ text, SameLines (withoutMark content.toList) text →
      ((tree.run (load file)).1 = .ok members ↔ ofText source text = .ok members) := by
  have alike : ∀ text, SameLines (withoutMark content.toList) text →
      ((tree.run (load file)).1 = .ok members ↔ ofText source text = .ok members) := by
    intro text same
    rw [run_load_of_file named there, ofBytes_toUTF8]
    exact ofText_eq_ok_congr ((SameLines.unify _).trans same)
  exact ⟨alike _ rfl, alike⟩

/-- A text with a byte order mark and each of the line ends. -/
def mixedText : String :=
  "\uFEFF\x7b\"color\":\r\x7b\x7d,\r\n\"font\"\n:\x7b\x7d\x7d\r"

/-- A tree with a file that holds this text. -/
def mixedTree : FileTree where
  items := [(["mixed.JSON"], .file mixedText.toUTF8)]
  current := []

theorem load_mixedTree :
    hasExtension ⟨.here, ["mixed.JSON"]⟩ = true ∧
    mixedTree.lookup ⟨.here, ["mixed.JSON"]⟩ = .ok (.file mixedText.toUTF8) ∧
    ∃ members, (mixedTree.run (load ⟨.here, ["mixed.JSON"]⟩)).1 = .ok members ∧
      members.names = ["color", "font"] := by
  have named : hasExtension ⟨.here, ["mixed.JSON"]⟩ = true := by decide +kernel
  have place : mixedTree.locate ⟨.here, ["mixed.JSON"]⟩ = .ok ["mixed.JSON"] := by
    simp [locate, walk, step, Path.hasNul, mixedTree]
  have there : mixedTree.lookup ⟨.here, ["mixed.JSON"]⟩ = .ok (.file mixedText.toUTF8) := by
    rw [lookup, place]
    rfl
  have held : (ofText none (withoutMark mixedText.toList)).toOption.map Entries.names =
      some ["color", "font"] := by decide +kernel
  cases holds : ofText none (withoutMark mixedText.toList) with
  | error fault =>
      rw [holds] at held
      cases held
  | ok members =>
      rw [holds] at held
      have loaded := (load_eq_ok_iff_ofText named there none members).1.mpr holds
      exact ⟨named, there, members, loaded, Option.some.inj held⟩

end DesignTokens.TokenFile
