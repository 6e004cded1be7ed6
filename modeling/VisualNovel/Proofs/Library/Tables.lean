/-
# Loading tables

The tables of a directory are loaded if and only if each of its seven files can be read; a file that
is not there can, and holds nothing. The entries that the files hold are then inserted one after the
other, explicit names first, and nothing else in the library is changed. What the files hold does
not depend on the library. So loading the same directory once more inserts the same entries once
more, and that changes nothing, however often a key or a name occurs among them.

Nothing is said of a directory with a file that cannot be read: the tables before that file are
loaded, and those behind it are not.
-/

import VisualNovel.Library.Basic
import VisualNovel.Proofs.Library.Content
import VisualNovel.Proofs.Reference.Tables

namespace VisualNovel

/-- What the files of tables hold. -/
structure TableContent where
  names : List (String × UInt64)
  characters : List CharacterRecord
  backgrounds : List BackgroundRecord
  music : List MusicRecord
  transitions : List TransitionRecord
  backgroundEffects : List BackgroundEffectRecord
  live2dConfigs : List Live2dConfig

namespace TableContent

/-- The content is what the files of the directory hold. -/
structure IsIn (content : TableContent) (tree : FileTree) (directory : Path) : Prop where
  names : Content.readNames tree (directory.join "CharacterNameTable.json") = .ok content.names
  characters : Content.readList tree (directory.join "ScenarioCharacterNameExcelTable.json")
    CharacterRecord.ofJson? = .ok content.characters
  backgrounds : Content.readList tree (directory.join "ScenarioBGNameExcelTable.json")
    BackgroundRecord.ofJson? = .ok content.backgrounds
  music : Content.readList tree (directory.join "BGMExcelTable.json")
    MusicRecord.ofJson? = .ok content.music
  transitions : Content.readList tree (directory.join "ScenarioTransitionExcelTable.json")
    TransitionRecord.ofJson? = .ok content.transitions
  backgroundEffects : Content.readList tree (directory.join "ScenarioBGEffectExcelTable.json")
    BackgroundEffectRecord.ofJson? = .ok content.backgroundEffects
  live2dConfigs : Content.readList tree (directory.join "L2dConfig.json")
    Live2dConfig.ofJson? = .ok content.live2dConfigs

/-- The entries of the tables in the order in which they are inserted. -/
def entries (content : TableContent) : List TableEntry :=
  content.names.map (fun (name, id) => .name name id) ++ content.characters.map .character ++
    content.backgrounds.map .background ++ content.music.map .music ++
    content.transitions.map .transition ++ content.backgroundEffects.map .backgroundEffect ++
    content.live2dConfigs.map .live2dConfig

end TableContent

namespace Library

variable {library result : Library} {tree : FileTree} {directory : Path}
  {tables loaded : ReferenceTables} {file : TableFile} {files : List TableFile}

theorem loadFiles_nil_eq_ok_iff :
    loadFiles tree directory tables [] = (loaded, .ok ()) ↔ tables = loaded := by
  rw [loadFiles, Prod.mk.injEq, and_iff_left rfl]

/-- Files are loaded if the first one holds something and, once that has changed the tables, the
others are loaded. -/
theorem loadFiles_cons_eq_ok_iff {α : Type} {held : Except LibraryError α}
    (change : α → ReferenceTables → ReferenceTables)
    (hread : file.read tree (directory.join file.name) = held.map change) :
    loadFiles tree directory tables (file :: files) = (loaded, .ok ()) ↔
      ∃ found, held = .ok found ∧
        loadFiles tree directory (change found tables) files = (loaded, .ok ()) := by
  rw [loadFiles, hread]
  cases held <;> simp [Except.map]

theorem loadFiles_ofRecords_eq_ok_iff {α : Type} {name : String} {ofJson? : Json → Option α}
    {insert : ReferenceTables → α → ReferenceTables} :
    loadFiles tree directory tables (TableFile.ofRecords name ofJson? insert :: files) =
        (loaded, .ok ()) ↔
      ∃ records, Content.readList tree (directory.join name) ofJson? = .ok records ∧
        loadFiles tree directory (records.foldl insert tables) files = (loaded, .ok ()) :=
  loadFiles_cons_eq_ok_iff (fun (records : List α) tables => records.foldl insert tables) rfl

theorem loadFiles_names_eq_ok_iff :
    loadFiles tree directory tables (TableFile.names :: files) = (loaded, .ok ()) ↔
      ∃ names, Content.readNames tree (directory.join "CharacterNameTable.json") = .ok names ∧
        loadFiles tree directory
          (names.foldl (fun tables (name, id) => tables.insertName name id) tables) files =
            (loaded, .ok ()) :=
  loadFiles_cons_eq_ok_iff
    (fun (names : List (String × UInt64)) tables =>
      names.foldl (fun tables (name, id) => tables.insertName name id) tables) rfl

/-- All files are loaded if they hold something, and that is inserted. -/
theorem loadFiles_all_eq_ok_iff :
    loadFiles tree directory tables TableFile.all = (loaded, .ok ()) ↔
      ∃ content : TableContent, content.IsIn tree directory ∧
        tables.insertAll content.entries = loaded := by
  rw [TableFile.all]
  simp only [loadFiles_names_eq_ok_iff, loadFiles_ofRecords_eq_ok_iff, loadFiles_nil_eq_ok_iff]
  constructor
  · rintro ⟨names, hnames, characters, hcharacters, backgrounds, hbackgrounds, music, hmusic,
      transitions, htransitions, effects, heffects, configs, hconfigs, rfl⟩
    refine ⟨⟨names, characters, backgrounds, music, transitions, effects, configs⟩,
      ⟨hnames, hcharacters, hbackgrounds, hmusic, htransitions, heffects, hconfigs⟩, ?_⟩
    simp only [TableContent.entries, ReferenceTables.insertAll_append,
      ReferenceTables.insertAll_map]
    rfl
  · rintro ⟨content, hcontent, rfl⟩
    refine ⟨_, hcontent.names, _, hcontent.characters, _, hcontent.backgrounds, _, hcontent.music,
      _, hcontent.transitions, _, hcontent.backgroundEffects, _, hcontent.live2dConfigs, ?_⟩
    simp only [TableContent.entries, ReferenceTables.insertAll_append,
      ReferenceTables.insertAll_map]
    rfl

/-- The tables of a directory are loaded if its files hold something, and that is inserted. -/
theorem loadTables_eq_ok_iff :
    library.loadTables tree directory = (result, .ok ()) ↔
      ∃ content : TableContent, content.IsIn tree directory ∧
        { library with tables := library.tables.insertAll content.entries } = result := by
  have hload : library.loadTables tree directory =
      ({ library with tables := (loadFiles tree directory library.tables TableFile.all).1 },
        (loadFiles tree directory library.tables TableFile.all).2) := rfl
  rw [hload]
  constructor
  · intro hresult
    obtain ⟨rfl, hok⟩ := Prod.mk.inj hresult
    obtain ⟨content, hcontent, hloaded⟩ := loadFiles_all_eq_ok_iff.mp (Prod.ext rfl hok)
    exact ⟨content, hcontent, by rw [hloaded]⟩
  · rintro ⟨content, hcontent, rfl⟩
    rw [loadFiles_all_eq_ok_iff.mpr ⟨content, hcontent, rfl⟩]

/-- Whatever is in the library, if the tables of a directory are loaded, then what its files hold
has been inserted, and loading them once more from the same files succeeds and changes nothing. -/
theorem loadTables_again (hload : library.loadTables tree directory = (result, .ok ())) :
    (∃ content : TableContent, content.IsIn tree directory ∧
      { library with tables := library.tables.insertAll content.entries } = result) ∧
        result.loadTables tree directory = (result, .ok ()) := by
  obtain ⟨content, hcontent, rfl⟩ := loadTables_eq_ok_iff.mp hload
  refine ⟨⟨content, hcontent, rfl⟩, ?_⟩
  rw [loadTables_eq_ok_iff]
  exact ⟨content, hcontent, by rw [ReferenceTables.insertAll_insertAll]⟩

/-- Files in which a number and a Korean name occur twice, and another name is given a number as
well. -/
def repetitiveFiles : FileTree :=
  .directory [("data", .directory [
    ("CharacterNameTable.json", .file (.ok "\x7b\"Noa\":7\x7d".toUTF8)),
    ("ScenarioCharacterNameExcelTable.json", .file (.ok
      ("[\x7b\"CharacterName\":1,\"NameKR\":\"Mari\"\x7d," ++
        "\x7b\"CharacterName\":1,\"NameKR\":\"Noa\"\x7d," ++
        "\x7b\"CharacterName\":2,\"NameKR\":\"Mari\"\x7d]").toUTF8))])]

/-- What they hold. -/
def repetitiveContent : TableContent where
  names := [("Noa", 7)]
  characters :=
    [{ id := 1, nameKr := "Mari" }, { id := 1, nameKr := "Noa" }, { id := 2, nameKr := "Mari" }]
  backgrounds := []
  music := []
  transitions := []
  backgroundEffects := []
  live2dConfigs := []

theorem repetitiveContent_isIn : repetitiveContent.IsIn repetitiveFiles ⟨"data"⟩ where
  names := by decide +kernel
  characters := by decide +kernel
  backgrounds := by decide +kernel
  music := by decide +kernel
  transitions := by decide +kernel
  backgroundEffects := by decide +kernel
  live2dConfigs := by decide +kernel

/-- A library in which one of the names has another number, and one number is that of another
character. -/
def wornLibrary : Library where
  tables := ReferenceTables.empty.insertAll [.name "Noa" 9, .character { id := 1, nameKr := "Aru" }]

theorem loadTables_again_repetitive :
    ∃ result, wornLibrary.loadTables repetitiveFiles ⟨"data"⟩ = (result, .ok ()) ∧
      result.loadTables repetitiveFiles ⟨"data"⟩ = (result, .ok ()) ∧
      ["Noa", "Mari", "Aru"].map result.tables.characterId? = [some 7, some 1, some 1] ∧
      (result.tables.character? 1).map (·.nameKr) = some "Noa" := by
  have hload := loadTables_eq_ok_iff.mpr
    ⟨repetitiveContent, repetitiveContent_isIn, Eq.refl { wornLibrary with
      tables := wornLibrary.tables.insertAll repetitiveContent.entries }⟩
  exact ⟨_, hload, (loadTables_again hload).2, by decide +kernel, by decide +kernel⟩

end Library

end VisualNovel
