import DesignTokens.Proofs.Command.Preparation
import DesignTokens.Proofs.Files.Places

/-!
# Settled settings

Asking for settings is settled if it ends with settings or with a fault that is told to the user.
Loading a file is settled unless its bytes are no text or `tool` in a project file is no table. The
search for a file breaks off at a directory with the name of a project file as well, but it looks
for the settings in arrays and texts, too, so it may find a project file that does not load.

-/

namespace DesignTokens

open FileTree

namespace Settings

variable {α β : Type} {tree : FileTree} {file directory : Path} {bytes : ByteArray}

/-- What is asked for is there, or a fault is told to the user. -/
def IsSettled (result : Except SettingsError α) : Prop :=
  ∀ cause, result ≠ .error (.broken cause)

/-- What breaks off what is asked for, if anything does. -/
def break? : Except SettingsError α → Option SettingsBreak
  | .error (.broken cause) => some cause
  | _ => none

theorem break?_eq_some_iff {result : Except SettingsError α} {cause : SettingsBreak} :
    break? result = some cause ↔ result = .error (.broken cause) := by
  unfold break?
  split
  case h_1 => simp
  case h_2 other => exact iff_of_false nofun (other cause)

theorem isSettled_ok (a : α) : IsSettled (.ok a : Except SettingsError α) :=
  fun _ => nofun

theorem isSettled_reported (fault : SettingsFault) (location : Option Location) :
    IsSettled (.error (.reported fault location) : Except SettingsError α) :=
  fun _ => nofun

theorem not_isSettled_broken (cause : SettingsBreak) :
    ¬IsSettled (.error (.broken cause) : Except SettingsError α) :=
  fun settled => settled cause rfl

/-- A step that is always settled leaves it to the one before it. -/
theorem isSettled_bind_iff {first : Except SettingsError α} {next : α → Except SettingsError β}
    (after : ∀ a, IsSettled (next a)) : IsSettled (first >>= next) ↔ IsSettled first := by
  cases first with
  | ok a => exact iff_of_true (after a) (isSettled_ok a)
  | error fault =>
      cases fault with
      | reported fault location => exact iff_of_true (fun _ => nofun) (fun _ => nofun)
      | broken cause =>
          exact iff_of_false (not_isSettled_broken cause) (not_isSettled_broken cause)

theorem IsSettled.bind {first : Except SettingsError α} {next : α → Except SettingsError β}
    (settled : IsSettled first) (after : ∀ a, IsSettled (next a)) : IsSettled (first >>= next) :=
  (isSettled_bind_iff after).mpr settled

section Tables

theorem isSettled_text? (file : Path) (table : Toml.Table) (key : String) :
    IsSettled (text? file table key) := by
  unfold text?
  split
  case h_1 => exact isSettled_ok _
  case h_2 => exact isSettled_ok _
  case h_3 => exact isSettled_reported _ _

theorem isSettled_formatOf (file : Path) (name : Option String) :
    IsSettled (formatOf file name) := by
  unfold formatOf
  split
  case h_1 => exact isSettled_ok _
  case h_2 =>
      split
      case h_1 => exact isSettled_ok _
      case h_2 => exact isSettled_reported _ _

/-- Whatever a table of settings holds, it gives settings or a fault that is told. -/
theorem isSettled_ofTable (file : Path) (table : Toml.Table) : IsSettled (ofTable file table) := by
  apply (isSettled_text? file table "format").bind
  intro name
  apply (isSettled_formatOf file name).bind
  intro format
  apply (isSettled_text? file table "output_dir").bind
  intro output
  apply (isSettled_text? file table "input").bind
  exact fun input => isSettled_ok _

/-- The settings that the member of a project file gives that is meant for them. -/
def ofMember (file : Path) : Toml.Value → Except SettingsError Settings
  | .table table => ofTable file table
  | _ => .error (.reported .notATable (some (.whole file)))

theorem isSettled_tableIn_iff {whole : Toml.Table} :
    IsSettled (tableIn file whole) ↔ (file.name = projectFile →
      ∀ tool, whole.get? "tool" = some tool → ∃ members, tool = .table members) := by
  unfold tableIn
  split
  case isFalse other => exact iff_of_true (isSettled_ok _) fun named => absurd named other
  case isTrue named =>
      rw [forall_prop_of_true named]
      cases whole.get? "tool" with
      | none => exact iff_of_true (isSettled_ok _) fun _ => nofun
      | some tool =>
          cases tool with
          | table members =>
              refine iff_of_true ?_ fun tool same => ⟨members, (Option.some.inj same).symm⟩
              dsimp only
              split
              · exact isSettled_ok _
              · exact isSettled_ok _
              · exact isSettled_reported _ _
          | _ =>
              refine iff_of_false (not_isSettled_broken _) fun all => ?_
              obtain ⟨members, other⟩ := all _ rfl
              cases other

theorem bind_tableIn_ofTable {whole : Toml.Table} {members : List (String × Toml.Value)}
    {value : Toml.Value} (named : file.name = projectFile)
    (tool : whole.get? "tool" = some (.table members))
    (member : Entries.get? "tokensmith" members = some value) :
    tableIn file whole >>= ofTable file = ofMember file value := by
  rw [tableIn, if_pos named, tool]
  simp only [member]
  cases value <;> rfl

end Tables

section Files

/-- What a file holds as text decodes, and no number in it is too long. -/
def Readable (tree : FileTree) (file : Path) : Prop :=
  ∀ bytes, tree.lookup file = .ok (.file bytes) →
    ∃ text, textOf bytes = .ok text ∧ ∀ fault, Toml.read text ≠ .error (.digits fault)

/-- A value stands for `tool` in a file. -/
def HoldsTool (tree : FileTree) (file : Path) (tool : Toml.Value) : Prop :=
  ∃ bytes text table, tree.lookup file = .ok (.file bytes) ∧ textOf bytes = .ok text ∧
    Toml.read text = .ok table ∧ table.get? "tool" = some tool

/-- A file from which settings are loaded, or a fault is told: the system can be asked for it, it is
readable if it is there, and `tool` is a table if it is a project file. -/
structure Loadable (tree : FileTree) (file : Path) : Prop where
  clean : file.hasNul = false
  readable : Readable tree file
  tool : file.name = projectFile → ∀ tool, HoldsTool tree file tool →
    ∃ members, tool = .table members

/-- A project file that is searched: it is no directory, it is readable if it is there, and names
are looked for in a table, an array or a text. -/
structure Searchable (tree : FileTree) (file : Path) : Prop where
  solid : tree.isDirectory file = false
  readable : Readable tree file
  tool : ∀ tool, HoldsTool tree file tool → (∃ members, tool = .table members) ∨
    (∃ items, tool = .array items) ∨ ∃ value, tool = .text value

variable {text : List Char} {tool : Toml.Value}

theorem readable_of_no_file (none : ∀ bytes, tree.lookup file ≠ .ok (.file bytes)) :
    Readable tree file :=
  fun bytes found => absurd found (none bytes)

theorem not_holdsTool_of_no_file (none : ∀ bytes, tree.lookup file ≠ .ok (.file bytes)) :
    ¬HoldsTool tree file tool := by
  rintro ⟨bytes, _, _, found, -⟩
  exact none bytes found

theorem exists_textOf_of_readable (readable : Readable tree file)
    (found : tree.lookup file = .ok (.file bytes)) : ∃ text, textOf bytes = .ok text := by
  obtain ⟨text, decoded, -⟩ := readable bytes found
  exact ⟨text, decoded⟩

theorem readable_iff (found : tree.lookup file = .ok (.file bytes))
    (decoded : textOf bytes = .ok text) :
    Readable tree file ↔ ∀ fault, Toml.read text ≠ .error (.digits fault) := by
  constructor
  · intro readable
    obtain ⟨same, reads, short⟩ := readable bytes found
    cases decoded.symm.trans reads
    exact short
  · intro short other there
    cases found.symm.trans there
    exact ⟨text, decoded, short⟩

theorem holdsTool_iff (found : tree.lookup file = .ok (.file bytes))
    (decoded : textOf bytes = .ok text) :
    HoldsTool tree file tool ↔
      ∃ table, Toml.read text = .ok table ∧ table.get? "tool" = some tool := by
  constructor
  · rintro ⟨_, _, table, there, reads, read, stands⟩
    cases found.symm.trans there
    cases decoded.symm.trans reads
    exact ⟨table, read, stands⟩
  · rintro ⟨table, read, stands⟩
    exact ⟨bytes, text, table, found, decoded, read, stands⟩

theorem loadable_iff_of_text (found : tree.lookup file = .ok (.file bytes))
    (decoded : textOf bytes = .ok text) :
    Loadable tree file ↔ (∀ fault, Toml.read text ≠ .error (.digits fault)) ∧
      (file.name = projectFile →
        ∀ tool, (∃ table, Toml.read text = .ok table ∧ table.get? "tool" = some tool) →
          ∃ members, tool = .table members) := by
  simp only [← readable_iff found decoded, ← holdsTool_iff found decoded]
  exact ⟨fun loadable => ⟨loadable.readable, loadable.tool⟩,
    fun both => ⟨hasNul_of_lookup_eq_ok found, both.1, both.2⟩⟩

theorem ofBytes_of_table {whole : Toml.Table} (decoded : textOf bytes = .ok text)
    (read : Toml.read text = .ok whole) :
    ofBytes file bytes = tableIn file whole >>= ofTable file := by
  simp only [ofBytes, decoded, read]

theorem isSettled_ofBytes_iff (found : tree.lookup file = .ok (.file bytes)) :
    IsSettled (ofBytes file bytes) ↔ Loadable tree file := by
  cases decoded : textOf bytes with
  | error fault =>
      rw [ofBytes, decoded]
      refine iff_of_false (not_isSettled_broken _) fun loadable => ?_
      obtain ⟨text, reads⟩ := exists_textOf_of_readable loadable.readable found
      cases decoded.symm.trans reads
  | ok text =>
      rw [loadable_iff_of_text found decoded]
      cases read : Toml.read text with
      | error fault =>
          cases fault with
          | malformed =>
              simp only [ofBytes, decoded, read]
              refine iff_of_true (isSettled_reported _ _) ⟨fun _ => nofun, fun _ tool => ?_⟩
              rintro ⟨_, other, -⟩
              cases other
          | digits fault =>
              simp only [ofBytes, decoded, read]
              exact iff_of_false (not_isSettled_broken _) fun both => both.1 fault rfl
      | ok whole =>
          rw [ofBytes_of_table decoded read, isSettled_bind_iff (isSettled_ofTable file),
            isSettled_tableIn_iff]
          simp

theorem run_load_of_file (found : tree.lookup file = .ok (.file bytes)) :
    (tree.run (load file)).1 = ofBytes file bytes := by
  rw [load, run_bind, run_readBytes, readBytes, found]
  rfl

theorem run_load_of_fault {fault : FileFault} (failed : tree.readBytes file = .error fault) :
    (tree.run (load file)).1 = .error (if fault.isReported then
      .reported (.unreadable fault) (some (.whole file)) else .broken (.unreadable fault)) := by
  rw [load, run_bind, run_readBytes, failed]
  dsimp only
  split <;> rfl

theorem loadable_iff_of_no_file (none : ∀ bytes, tree.lookup file ≠ .ok (.file bytes)) :
    Loadable tree file ↔ file.hasNul = false :=
  ⟨Loadable.clean, fun clean => ⟨clean, readable_of_no_file none, fun _ _ holds =>
    absurd holds (not_holdsTool_of_no_file none)⟩⟩

/-- Loading is settled exactly for the files that are loadable. -/
theorem isSettled_load_iff (tree : FileTree) (file : Path) :
    IsSettled (tree.run (load file)).1 ↔ Loadable tree file := by
  cases read : tree.readBytes file with
  | ok bytes =>
      have found := readBytes_eq_ok_iff.mp read
      rw [run_load_of_file found]
      exact isSettled_ofBytes_iff found
  | error fault =>
      obtain ⟨none, reported⟩ := of_readBytes_eq_error read
      rw [run_load_of_fault read, loadable_iff_of_no_file none, ← reported]
      by_cases told : fault.isReported = true
      · rw [if_pos told]
        exact iff_of_true (isSettled_reported _ _) told
      · rw [if_neg told]
        exact iff_of_false (not_isSettled_broken _) told

end Files

section Search

variable {text : List Char} {tool : Toml.Value}

theorem exists_mentions_iff : (∃ found, mentions tool = .ok found) ↔
    (∃ members, tool = .table members) ∨ (∃ items, tool = .array items) ∨
      ∃ value, tool = .text value := by
  cases tool <;> simp [mentions]

theorem exists_projectMentions_iff : (∃ found, projectMentions text = .ok found) ↔
    (∀ fault, Toml.read text ≠ .error (.digits fault)) ∧
      ∀ tool, (∃ table, Toml.read text = .ok table ∧ table.get? "tool" = some tool) →
        ∃ found, mentions tool = .ok found := by
  unfold projectMentions
  cases Toml.read text with
  | error fault => cases fault <;> simp
  | ok table =>
      dsimp only
      cases stands : table.get? "tool" <;> simp [stands]

/-- A project file with a text is searchable if it can be told whether the text mentions the
settings. -/
theorem searchable_iff_of_text (found : tree.lookup file = .ok (.file bytes))
    (decoded : textOf bytes = .ok text) :
    Searchable tree file ↔ ∃ mentioned, projectMentions text = .ok mentioned := by
  have solid : tree.isDirectory file = false := by rw [isDirectory, found]
  simp only [exists_projectMentions_iff, exists_mentions_iff, ← readable_iff found decoded,
    ← holdsTool_iff found decoded]
  exact ⟨fun searchable => ⟨searchable.readable, searchable.tool⟩,
    fun both => ⟨solid, both.1, both.2⟩⟩

theorem find_of_own (present : tree.isPresent (directory.child ownFile) = true) :
    (tree.run (find directory)).1 = .ok (some (directory.child ownFile)) := by
  rw [find, run_bind, run_isPresent, present]
  rfl

variable (absent : tree.isPresent (directory.child ownFile) = false)

include absent

theorem find_of_no_project (missing : tree.isPresent (directory.child projectFile) = false) :
    (tree.run (find directory)).1 = .ok none := by
  rw [find, run_bind, run_isPresent, absent]
  dsimp only
  rw [if_neg Bool.false_ne_true, run_bind, run_isPresent, missing]
  rfl

theorem find_of_project (present : tree.isPresent (directory.child projectFile) = true) :
    (tree.run (find directory)).1 =
      match tree.readBytes (directory.child projectFile) with
      | .error fault => .error (.unreadable fault)
      | .ok bytes =>
        match textOf bytes with
        | .error fault => .error (.undecodable fault)
        | .ok text => (projectMentions text).map fun found =>
            if found then some (directory.child projectFile) else none := by
  rw [find, run_bind, run_isPresent, absent]
  dsimp only
  rw [if_neg Bool.false_ne_true, run_bind, run_isPresent, present]
  dsimp only
  rw [if_pos rfl, run_bind, run_readBytes]
  cases tree.readBytes (directory.child projectFile) with
  | error fault => rfl
  | ok bytes =>
      dsimp only
      cases textOf bytes <;> rfl

/-- A search for settings that gets to the project file ends exactly if this is searchable. -/
theorem exists_find_iff_of_absent : (∃ found, (tree.run (find directory)).1 = .ok found) ↔
    Searchable tree (directory.child projectFile) := by
  cases looked : tree.lookup (directory.child projectFile) with
  | error problem =>
      have missing : tree.isPresent (directory.child projectFile) = false := by
        rw [isPresent, looked]
        rfl
      have none : ∀ bytes, tree.lookup (directory.child projectFile) ≠ .ok (.file bytes) := by
        simp [looked]
      rw [find_of_no_project absent missing]
      refine iff_of_true ⟨_, rfl⟩ ⟨?_, readable_of_no_file none, fun _ holds => ?_⟩
      · rw [isDirectory, looked]
      · exact absurd holds (not_holdsTool_of_no_file none)
  | ok item =>
      have present : tree.isPresent (directory.child projectFile) = true := by
        rw [isPresent, looked]
        rfl
      rw [find_of_project absent present]
      cases item with
      | directory =>
          -- A directory counts as present, and is then read like a file.
          have failed : tree.readBytes (directory.child projectFile) =
              .error ⟨.isADirectory, directory.child projectFile⟩ := by rw [readBytes, looked]
          have stands : tree.isDirectory (directory.child projectFile) = true := by
            rw [isDirectory, looked]
          rw [failed]
          refine iff_of_false (by simp) fun searchable => ?_
          rw [searchable.solid] at stands
          cases stands
      | file bytes =>
          rw [readBytes_eq_ok_iff.mpr looked]
          dsimp only
          cases decoded : textOf bytes with
          | error fault =>
              refine iff_of_false (by simp) fun searchable => ?_
              obtain ⟨text, reads⟩ := exists_textOf_of_readable searchable.readable looked
              cases decoded.symm.trans reads
          | ok text =>
              rw [searchable_iff_of_text looked decoded]
              dsimp only
              cases projectMentions text with
              | error cause => exact iff_of_false (by simp [Except.map]) (by simp)
              | ok mentioned => exact iff_of_true ⟨_, rfl⟩ ⟨_, rfl⟩

omit absent

/-- A search for settings ends exactly if there is a file of their own or the project file is
searchable. -/
theorem exists_find_iff (tree : FileTree) (directory : Path) :
    (∃ found, (tree.run (find directory)).1 = .ok found) ↔
      tree.isPresent (directory.child ownFile) = true ∨
        Searchable tree (directory.child projectFile) := by
  cases present : tree.isPresent (directory.child ownFile) with
  | true => exact iff_of_true ⟨_, find_of_own present⟩ (.inl rfl)
  | false => simpa using exists_find_iff_of_absent present

end Search

section Agreement

variable {text : List Char} {named : Option Path}

theorem isName_ownFile : IsName ownFile := by decide +kernel

theorem isName_projectFile : IsName projectFile := by decide +kernel

theorem name_projectFile (directory : Path) : (directory.child projectFile).name = projectFile := by
  rw [isName_projectFile.child, Path.name, List.getLast?_concat]
  rfl

theorem ownFile_ne_projectFile (directory : Path) :
    directory.child ownFile ≠ directory.child projectFile := by
  rw [isName_ownFile.child, isName_projectFile.child]
  intro same
  have names := List.append_cancel_left (Path.mk.inj same).2
  exact absurd names (by decide)

theorem of_projectMentions (mentioned : projectMentions text = .ok true) :
    ∃ table tool, Toml.read text = .ok table ∧ table.get? "tool" = some tool ∧
      mentions tool = .ok true := by
  unfold projectMentions at mentioned
  split at mentioned
  case h_1 => cases mentioned
  case h_2 => cases mentioned
  case h_3 table read =>
      split at mentioned
      case h_1 => cases mentioned
      case h_2 tool stands => exact ⟨table, tool, read, stands, mentioned⟩

/-- A project file that is found holds a `tool` that mentions the settings. -/
theorem of_find_projectFile
    (found : (tree.run (find directory)).1 = .ok (some (directory.child projectFile))) :
    ∃ bytes text table tool, tree.lookup (directory.child projectFile) = .ok (.file bytes) ∧
      textOf bytes = .ok text ∧ Toml.read text = .ok table ∧ table.get? "tool" = some tool ∧
      mentions tool = .ok true := by
  have absent : tree.isPresent (directory.child ownFile) = false := by
    rw [← Bool.not_eq_true]
    intro present
    rw [find_of_own present] at found
    exact ownFile_ne_projectFile directory (Option.some.inj (Except.ok.inj found))
  have present : tree.isPresent (directory.child projectFile) = true := by
    rw [← Bool.not_eq_false]
    intro missing
    rw [find_of_no_project absent missing] at found
    cases found
  rw [find_of_project absent present] at found
  split at found
  case h_1 => cases found
  case h_2 bytes read =>
      split at found
      case h_1 => cases found
      case h_2 text decoded =>
          cases mentioned : projectMentions text with
          | error cause =>
              rw [mentioned] at found
              cases found
          | ok mentions =>
              rw [mentioned] at found
              cases mentions with
              | false => cases found
              | true =>
                  obtain ⟨table, tool, parsed, stands, mentions⟩ := of_projectMentions mentioned
                  exact ⟨bytes, text, table, tool, readBytes_eq_ok_iff.mp read, decoded, parsed,
                    stands, mentions⟩

/-- A project file that is found loads as its member for the settings says, if `tool` is a table,
and does not settle otherwise. -/
structure LoadsMember (tree : FileTree) (file : Path) (tool : Toml.Value) : Prop where
  holds : HoldsTool tree file tool
  settled : IsSettled (tree.run (load file)).1 ↔ ∃ members, tool = .table members
  member : ∀ members, tool = .table members → ∃ value,
    Entries.get? "tokensmith" members = some value ∧ (tree.run (load file)).1 = ofMember file value

theorem loadsMember_of_find
    (found : (tree.run (find directory)).1 = .ok (some (directory.child projectFile))) :
    ∃ tool, LoadsMember tree (directory.child projectFile) tool := by
  have named := name_projectFile directory
  obtain ⟨bytes, text, table, tool, stands, decoded, read, given, mentioned⟩ :=
    of_find_projectFile found
  refine ⟨tool, ⟨bytes, text, table, stands, decoded, read, given⟩, ?_, ?_⟩
  · rw [isSettled_load_iff, loadable_iff_of_text stands decoded, read, forall_prop_of_true named]
    simp [given]
  · rintro members rfl
    obtain ⟨value, member⟩ := Option.isSome_iff_exists.mp (Except.ok.inj mentioned)
    refine ⟨value, member, ?_⟩
    rw [run_load_of_file stands, ofBytes_of_table decoded read,
      bind_tableIn_ofTable named given member]

/-- Settings that are resolved: a named file is loadable if it is there, and otherwise the search
for a file ends and what it finds is loadable. -/
def Resolvable (tree : FileTree) (named : Option Path) (directory : Path) : Prop :=
  match named with
  | some file => tree.isPresent file = true → Loadable tree file
  | none => (∃ found, (tree.run (find directory)).1 = .ok found) ∧
      ∀ file, (tree.run (find directory)).1 = .ok (some file) → Loadable tree file

theorem isSettled_resolve_iff (tree : FileTree) (named : Option Path) (directory : Path) :
    IsSettled (tree.run (resolve named directory)).1 ↔ Resolvable tree named directory := by
  cases named with
  | some file =>
      rw [resolve, run_bind, run_isPresent, Resolvable]
      dsimp only
      split
      case isTrue present => rw [isSettled_load_iff, forall_prop_of_true present]
      case isFalse absent =>
          exact iff_of_true (isSettled_reported _ _) fun present => absurd present absent
  | none =>
      have reads : (tree.run (find directory)).2 = tree :=
        congrArg Prod.snd (readsAlike_find rfl rfl).run_eq
      rw [resolve, run_bind, reads, Resolvable]
      cases (tree.run (find directory)).1 with
      | error cause => exact iff_of_false (not_isSettled_broken _) (by simp)
      | ok found =>
          cases found with
          | none => exact iff_of_true (isSettled_ok _) (by simp)
          | some file =>
              refine (isSettled_load_iff tree file).trans ?_
              simp

/-- Whatever stands in a tree, loading a file gives settings or a fault that is told exactly if the
file is loadable, the search in a directory ends exactly if there is a file of their own or the
project file is searchable, and resolving settings is settled exactly if they are resolvable. A
project file that is found loads as its member for the settings says exactly if `tool` is a table
there. -/
theorem settings_settled_iff (tree : FileTree) (named : Option Path) (directory file : Path) :
    (IsSettled (tree.run (load file)).1 ↔ Loadable tree file) ∧
    ((∃ found, (tree.run (find directory)).1 = .ok found) ↔
      tree.isPresent (directory.child ownFile) = true ∨
        Searchable tree (directory.child projectFile)) ∧
    (IsSettled (tree.run (resolve named directory)).1 ↔ Resolvable tree named directory) ∧
    ((tree.run (find directory)).1 = .ok (some (directory.child projectFile)) →
      ∃ tool, LoadsMember tree (directory.child projectFile) tool) :=
  ⟨isSettled_load_iff tree file, exists_find_iff tree directory,
    isSettled_resolve_iff tree named directory, loadsMember_of_find⟩

/-- A directory with a project file where `tool` is a text. -/
def textualTree : FileTree where
  items := [(["pyproject.toml"], .file "tool = \"tokensmith\"\n".toUTF8)]
  current := []

/-- The project file of this directory is found, and breaks loading off. -/
theorem textualTree_not_settled :
    (textualTree.run (find ⟨.here, []⟩)).1 = .ok (some ⟨.here, ["pyproject.toml"]⟩) ∧
    (textualTree.run (load ⟨.here, ["pyproject.toml"]⟩)).1 =
      .error (.broken (.withoutMembers "str")) ∧
    ¬∀ (tree : FileTree) (directory file : Path),
      (tree.run (find directory)).1 = .ok (some file) → IsSettled (tree.run (load file)).1 := by
  have found : (textualTree.run (find ⟨.here, []⟩)).1 =
      .ok (some ⟨.here, ["pyproject.toml"]⟩) := by decide +kernel
  have broken : (textualTree.run (load ⟨.here, ["pyproject.toml"]⟩)).1 =
      .error (.broken (.withoutMembers "str")) := break?_eq_some_iff.mp (by decide +kernel)
  exact ⟨found, broken, fun all => all _ _ _ found _ broken⟩

end Agreement

end Settings

end DesignTokens
