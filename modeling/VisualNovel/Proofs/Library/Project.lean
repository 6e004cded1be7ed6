/-
# Projects

A project is all story files below a directory. It is loaded if and only if every one of them tells
rows and no two of them are called alike. What is loaded is then one story for every file, and it is
the same in whatever order a walk through the directory meets the files. Loading it once more, again
in any order, changes nothing.

Nothing of this is said of a project that does not load: which of its stories are there when the
first fault is met does depend on the order.
-/

import VisualNovel.Proofs.Files.Walk
import VisualNovel.Proofs.Library.Content
import VisualNovel.Proofs.Library.Load

namespace VisualNovel

namespace StoryLoad

variable {tree : FileTree} {load other : StoryLoad} {loads others : List StoryLoad}
  {paths : List Path} {content : FileContent}

/-- What is loaded from a path is settled by the path. -/
theorem IsIn.eq_of_path_eq (hload : load.IsIn tree) (hother : other.IsIn tree)
    (hpath : load.path = other.path) : load = other := by
  obtain ⟨hstem, hrows⟩ := hload
  obtain ⟨hstem', hrows'⟩ := hother
  obtain ⟨name, path, rows⟩ := load
  obtain ⟨name', path', rows'⟩ := other
  cases hpath
  cases hstem.symm.trans hstem'
  cases hrows.symm.trans hrows'
  rfl

theorem exists_map_path_eq
    (hpaths : ∀ path ∈ paths, ∃ load : StoryLoad, load.path = path ∧ load.IsIn tree) :
    ∃ loads : List StoryLoad, loads.map path = paths ∧ ∀ load ∈ loads, load.IsIn tree := by
  induction paths with
  | nil => exact ⟨[], rfl, by simp⟩
  | cons path rest ih =>
    obtain ⟨⟨load, rfl, hload⟩, hrest⟩ := List.forall_mem_cons.mp hpaths
    obtain ⟨loads, rfl, hloads⟩ := ih hrest
    exact ⟨load :: loads, rfl, List.forall_mem_cons.mpr ⟨hload, hloads⟩⟩

theorem mem_iff (hloads : ∀ load ∈ loads, load.IsIn tree) (hload : load.IsIn tree) :
    load ∈ loads ↔ load.path ∈ loads.map path := by
  refine ⟨List.mem_map_of_mem, fun hpath => ?_⟩
  obtain ⟨other, hother, heq⟩ := List.mem_map.mp hpath
  exact (hloads other hother).eq_of_path_eq hload heq ▸ hother

/-- The same paths in another order give the same loads in another order. -/
theorem exists_perm (hloads : ∀ load ∈ loads, load.IsIn tree)
    (hnodup : (loads.map path).Nodup) (hperm : (loads.map path).Perm paths) :
    ∃ others : List StoryLoad, others.map path = paths ∧ loads.Perm others := by
  have hpaths : ∀ path ∈ paths, ∃ load : StoryLoad, load.path = path ∧ load.IsIn tree := by
    intro path hpath
    obtain ⟨load, hload, rfl⟩ := List.mem_map.mp (hperm.mem_iff.mpr hpath)
    exact ⟨load, rfl, hloads load hload⟩
  obtain ⟨others, rfl, hothers⟩ := exists_map_path_eq hpaths
  refine ⟨others, rfl, (List.perm_ext_iff_of_nodup hnodup.of_map
    (hperm.nodup_iff.mp hnodup).of_map).mpr fun load => ?_⟩
  constructor
  · intro hload
    rw [mem_iff hothers (hloads load hload), ← hperm.mem_iff]
    exact List.mem_map_of_mem hload
  · intro hload
    rw [mem_iff hloads (hothers load hload), hperm.mem_iff]
    exact List.mem_map_of_mem hload

end StoryLoad

namespace Library

variable {library result : Library} {tree : FileTree} {root path other : Path} {walk : List Path}
  {loads : List StoryLoad} {content : FileContent} {count : Nat}

/-- There is a story file with the content at or below a root. -/
def HasStoryFile (tree : FileTree) (root path : Path) (content : FileContent) : Prop :=
  tree.HasFile root path content ∧ path.extension? = some "json"

/-- Every story file of a project tells rows. -/
def AllTell (tree : FileTree) (root : Path) : Prop :=
  ∀ path content, HasStoryFile tree root path content →
    ∃ rows, Content.Tells Row.ofJson? content rows

/-- No two story files of a project are called alike. -/
def NamesDiffer (tree : FileTree) (root : Path) : Prop :=
  ∀ path other content content', HasStoryFile tree root path content →
    HasStoryFile tree root other content' → path.stem? = other.stem? → path = other

theorem mem_storyPaths_iff (htree : tree.isWellFormed = true)
    (hwalk : walk.Perm (tree.filesBelow root)) :
    path ∈ storyPaths tree walk ↔ ∃ content, HasStoryFile tree root path content := by
  have hfile : path ∈ tree.filesBelow root ∧ tree.isFile path = true ↔ _ :=
    FileTree.mem_filesBelow_and_isFile_iff htree
  simp only [storyPaths, List.mem_filter, Bool.and_eq_true, isStoryPath, decide_eq_true_eq,
    hwalk.mem_iff, ← and_assoc, hfile, HasStoryFile, exists_and_right]

theorem nodup_storyPaths (htree : tree.isWellFormed = true)
    (hwalk : walk.Perm (tree.filesBelow root)) : (storyPaths tree walk).Nodup :=
  (hwalk.nodup_iff.mpr (FileTree.nodup_filesBelow htree)).filter _

theorem stem?_isSome (hfile : HasStoryFile tree root path content) :
    ∃ name, path.stem? = some name := by
  obtain ⟨_, hextension⟩ := hfile
  obtain ⟨name, hname, _⟩ := Option.bind_eq_some_iff.mp hextension
  exact ⟨_, by rw [Path.stem?, hname]; rfl⟩

/-- Loads of the story files of a walk agree if and only if their names are different, because
their paths are. -/
theorem allowsAll_iff_nodup (htree : tree.isWellFormed = true)
    (hwalk : walk.Perm (tree.filesBelow root))
    (hpaths : loads.map StoryLoad.path = storyPaths tree walk) :
    ({} : Library).AllowsAll loads ↔ (loads.map StoryLoad.name).Nodup := by
  have hdifferent : loads.Pairwise fun first second => first.path ≠ second.path :=
    List.pairwise_map.mp (hpaths ▸ nodup_storyPaths htree hwalk)
  have hfile : ∀ load ∈ loads, ∃ content, tree.HasFile root load.path content := by
    intro load hload
    obtain ⟨content, hcontent, _⟩ :=
      (mem_storyPaths_iff htree hwalk).mp (hpaths ▸ List.mem_map_of_mem hload)
    exact ⟨content, hcontent⟩
  constructor
  · rintro ⟨_, hagree⟩
    refine List.pairwise_map.mpr ((hagree.and hdifferent).imp_of_mem ?_)
    intro first second hfirst hsecond hboth hname
    obtain ⟨hcomponents, hpath⟩ := hboth
    obtain ⟨_, hfirst⟩ := hfile first hfirst
    obtain ⟨_, hsecond⟩ := hfile second hsecond
    exact hpath (hfirst.path_eq htree hsecond (hcomponents hname))
  · intro hnames
    refine ⟨fun load _ source hsource => ?_, ?_⟩
    · rw [Std.ExtTreeMap.getElem?_empty] at hsource
      cases hsource
    · exact (List.pairwise_map.mp hnames).imp fun hne hname => absurd hname hne

/-- The stories of a walk through a project are loaded into a new library if each of the files is,
and their names are different. -/
theorem loadWalk_eq_ok_iff (htree : tree.isWellFormed = true)
    (hwalk : walk.Perm (tree.filesBelow root)) :
    ({} : Library).loadWalk tree walk = (result, .ok count) ↔
      ∃ loads, loads.map StoryLoad.path = storyPaths tree walk ∧
        (∀ load ∈ loads, load.IsIn tree) ∧ (loads.map StoryLoad.name).Nodup ∧
        result = ({} : Library).withLoads loads ∧ loads.length = count := by
  rw [loadWalk_eq_ok_iff_loadStories, loadStories_eq_ok_iff]
  constructor
  · rintro ⟨⟨loads, hpaths, hloads, hall, hresult⟩, hcount⟩
    refine ⟨loads, hpaths, hloads, (allowsAll_iff_nodup htree hwalk hpaths).mp hall, hresult, ?_⟩
    rw [← hcount, ← hpaths, List.length_map]
  · rintro ⟨loads, hpaths, hloads, hnames, hresult, hcount⟩
    refine ⟨⟨loads, hpaths, hloads, (allowsAll_iff_nodup htree hwalk hpaths).mpr hnames, hresult⟩,
      ?_⟩
    rw [← hcount, ← hpaths, List.length_map]

/-- A story file is among the loads of a walk if it tells the rows of one. -/
theorem exists_mem_loads_iff (htree : tree.isWellFormed = true)
    (hwalk : walk.Perm (tree.filesBelow root))
    (hpaths : loads.map StoryLoad.path = storyPaths tree walk)
    (hloads : ∀ load ∈ loads, load.IsIn tree) {name : String} {rows : List Row} :
    (name, rows) ∈ loads.map (fun load => (load.name, load.rows)) ↔ ∃ path content,
      HasStoryFile tree root path content ∧ path.stem? = some name ∧
        Content.Tells Row.ofJson? content rows := by
  constructor
  · intro hmem
    obtain ⟨load, hload, ⟨⟩⟩ := List.mem_map.mp hmem
    obtain ⟨content, hfile⟩ :=
      (mem_storyPaths_iff htree hwalk).mp (hpaths ▸ List.mem_map_of_mem hload)
    obtain ⟨hstem, hrows⟩ := hloads load hload
    exact ⟨load.path, content, hfile, hstem,
      (Content.readList_eq_ok_iff (hfile.1.find htree)).mp hrows⟩
  · rintro ⟨path, content, hfile, hstem, htells⟩
    have hpath : path ∈ loads.map StoryLoad.path :=
      hpaths ▸ (mem_storyPaths_iff htree hwalk).mpr ⟨content, hfile⟩
    have hrows := (Content.readList_eq_ok_iff (hfile.1.find htree)).mpr htells
    have hload : StoryLoad.IsIn ⟨name, path, rows⟩ tree := ⟨hstem, hrows⟩
    exact List.mem_map.mpr ⟨_, (StoryLoad.mem_iff hloads hload).mpr hpath, rfl⟩

theorem nodup_map_fst {α : Type} (value : StoryLoad → α)
    (hnames : (loads.map StoryLoad.name).Nodup) :
    ((loads.map fun load => (load.name, value load)).map Prod.fst).Nodup := by
  rw [List.map_map]
  exact hnames

/-- Loads with different names fill a library in any order. -/
theorem withLoads_eq_of_perm {others : List StoryLoad} (hperm : loads.Perm others)
    (hnames : (loads.map StoryLoad.name).Nodup) :
    library.withLoads loads = library.withLoads others := by
  rw [withLoads, insertMany_eq_of_perm (hperm.map _) (nodup_map_fst StoryLoad.rows hnames),
    insertMany_eq_of_perm (hperm.map _) (nodup_map_fst StoryLoad.path hnames)]
  rfl

/-- Filling a library with them once more changes nothing. -/
theorem withLoads_withLoads (hnames : (loads.map StoryLoad.name).Nodup) :
    (library.withLoads loads).withLoads loads = library.withLoads loads := by
  simp only [withLoads]
  rw [insertMany_insertMany_self (nodup_map_fst StoryLoad.rows hnames),
    insertMany_insertMany_self (nodup_map_fst StoryLoad.path hnames)]

/-- A library that has loads with different names allows them once more. -/
theorem allowsAll_withLoads (hnames : (loads.map StoryLoad.name).Nodup) :
    (({} : Library).withLoads loads).AllowsAll loads := by
  constructor
  · intro load hload source hsource
    rw [withLoads, getElem?_insertMany_eq_or (nodup_map_fst StoryLoad.path hnames),
      Std.ExtTreeMap.getElem?_empty, Option.or_none,
      lookup_eq_some_iff_mem (nodup_map_fst StoryLoad.path hnames)] at hsource
    obtain ⟨known, hknown, hpair⟩ := List.mem_map.mp hsource
    obtain ⟨hname, rfl⟩ := Prod.mk.inj hpair
    rw [List.inj_on_of_nodup_map hnames hknown hload hname]
  · exact (List.pairwise_map.mp hnames).imp fun hne hname => absurd hname hne

/-- A walk through a project succeeds if and only if all of its story files tell rows and are called
differently. -/
theorem loadWalk_succeeds_iff (htree : tree.isWellFormed = true)
    (hwalk : walk.Perm (tree.filesBelow root)) :
    (∃ library count, ({} : Library).loadWalk tree walk = (library, .ok count)) ↔
      AllTell tree root ∧ NamesDiffer tree root := by
  have hfile : ∀ {path}, path ∈ storyPaths tree walk ↔
      ∃ content, HasStoryFile tree root path content := mem_storyPaths_iff htree hwalk
  constructor
  · rintro ⟨library, count, hload⟩
    obtain ⟨loads, hpaths, hloads, hnames, _⟩ := (loadWalk_eq_ok_iff htree hwalk).mp hload
    have hmem : ∀ {path content}, HasStoryFile tree root path content →
        ∃ load ∈ loads, load.path = path := fun hstory =>
      List.mem_map.mp (hpaths ▸ hfile.mpr ⟨_, hstory⟩)
    constructor
    · intro path content hstory
      obtain ⟨load, hload, rfl⟩ := hmem hstory
      exact ⟨load.rows,
        (Content.readList_eq_ok_iff (hstory.1.find htree)).mp (hloads load hload).rows⟩
    · intro path other content content' hstory hother hstem
      obtain ⟨load, hload, rfl⟩ := hmem hstory
      obtain ⟨load', hload', rfl⟩ := hmem hother
      rw [(hloads load hload).stem, (hloads load' hload').stem] at hstem
      rw [List.inj_on_of_nodup_map hnames hload hload' (Option.some.inj hstem)]
  · rintro ⟨htell, hdiffer⟩
    have hexists : ∀ path ∈ storyPaths tree walk,
        ∃ load : StoryLoad, load.path = path ∧ load.IsIn tree := by
      intro path hpath
      obtain ⟨content, hstory⟩ := hfile.mp hpath
      obtain ⟨name, hname⟩ := stem?_isSome hstory
      obtain ⟨rows, htells⟩ := htell path content hstory
      exact ⟨⟨name, path, rows⟩, rfl, hname,
        (Content.readList_eq_ok_iff (hstory.1.find htree)).mpr htells⟩
    obtain ⟨loads, hpaths, hloads⟩ := StoryLoad.exists_map_path_eq hexists
    have hdifferent : loads.Pairwise fun first second => first.path ≠ second.path :=
      List.pairwise_map.mp (hpaths ▸ nodup_storyPaths htree hwalk)
    have hnames : (loads.map StoryLoad.name).Nodup := by
      refine List.pairwise_map.mpr (hdifferent.imp_of_mem ?_)
      intro first second hfirst hsecond hpath hname
      obtain ⟨_, hstory⟩ := hfile.mp (hpaths ▸ List.mem_map_of_mem hfirst)
      obtain ⟨_, hstory'⟩ := hfile.mp (hpaths ▸ List.mem_map_of_mem hsecond)
      refine hpath (hdiffer _ _ _ _ hstory hstory' ?_)
      rw [(hloads first hfirst).stem, (hloads second hsecond).stem, hname]
    exact ⟨_, _, (loadWalk_eq_ok_iff htree hwalk).mpr ⟨loads, hpaths, hloads, hnames, rfl, rfl⟩⟩

/-- The stories that a walk loads are those that the story files tell. -/
theorem getElem?_stories_of_loadWalk (htree : tree.isWellFormed = true)
    (hwalk : walk.Perm (tree.filesBelow root))
    (hload : ({} : Library).loadWalk tree walk = (library, .ok count)) {name : String}
    {rows : List Row} :
    library.stories[name]? = some rows ↔ ∃ path content, HasStoryFile tree root path content ∧
      path.stem? = some name ∧ Content.Tells Row.ofJson? content rows := by
  obtain ⟨loads, hpaths, hloads, hnames, rfl, _⟩ := (loadWalk_eq_ok_iff htree hwalk).mp hload
  rw [← exists_mem_loads_iff htree hwalk hpaths hloads, withLoads,
    getElem?_insertMany_eq_or (nodup_map_fst StoryLoad.rows hnames), Std.ExtTreeMap.getElem?_empty,
    Option.or_none, lookup_eq_some_iff_mem (nodup_map_fst StoryLoad.rows hnames)]

/-- A walk loads as many stories as it counts files. -/
theorem size_stories_of_loadWalk (htree : tree.isWellFormed = true)
    (hwalk : walk.Perm (tree.filesBelow root))
    (hload : ({} : Library).loadWalk tree walk = (library, .ok count)) :
    library.stories.size = count := by
  obtain ⟨loads, _, _, hnames, rfl, rfl⟩ := (loadWalk_eq_ok_iff htree hwalk).mp hload
  rw [withLoads, size_insertMany_empty (nodup_map_fst StoryLoad.rows hnames), List.length_map]

/-- What one walk loads, any other walk through the same files loads as well, into a new library or
into the one that the first walk left. -/
theorem loadWalk_of_perm {other : List Path} (htree : tree.isWellFormed = true)
    (hwalk : walk.Perm (tree.filesBelow root)) (hperm : other.Perm walk)
    (hload : ({} : Library).loadWalk tree walk = (library, .ok count)) :
    ({} : Library).loadWalk tree other = (library, .ok count) ∧
      library.loadWalk tree other = (library, .ok count) := by
  obtain ⟨loads, hpaths, hloads, hnames, rfl, rfl⟩ := (loadWalk_eq_ok_iff htree hwalk).mp hload
  have hstories : (loads.map StoryLoad.path).Perm (storyPaths tree other) :=
    hpaths ▸ (hperm.filter _).symm
  obtain ⟨others, hothers, hsame⟩ :=
    StoryLoad.exists_perm hloads (hpaths ▸ nodup_storyPaths htree hwalk) hstories
  have hin : ∀ load ∈ others, load.IsIn tree := fun load hmem =>
    hloads load (hsame.mem_iff.mpr hmem)
  have hcount : (storyPaths tree other).length = loads.length := by
    rw [← hstories.length_eq, List.length_map]
  have hnames' := (hsame.map StoryLoad.name).nodup_iff.mp hnames
  rw [withLoads_eq_of_perm hsame hnames] at hload ⊢
  constructor
  · exact (loadWalk_eq_ok_iff htree (hperm.trans hwalk)).mpr
      ⟨others, hothers, hin, hnames', rfl, hsame.length_eq.symm⟩
  · rw [loadWalk_eq_ok_iff_loadStories, loadStories_eq_ok_iff]
    exact ⟨⟨others, hothers, hin, allowsAll_withLoads hnames',
      (withLoads_withLoads hnames').symm⟩, hcount⟩

/-- What is said of loading a project whose files a walk meets. -/
structure LoadsProject (tree : FileTree) (root : Path) (walk : List Path) : Prop where
  /-- The walk succeeds for well-made files with different names. -/
  succeeds_iff : (∃ library count, ({} : Library).loadWalk tree walk = (library, .ok count)) ↔
    AllTell tree root ∧ NamesDiffer tree root
  /-- Then there is one story for every file: its rows under the name of the file. -/
  stories : ∀ library count, ({} : Library).loadWalk tree walk = (library, .ok count) →
    ∀ name rows, library.stories[name]? = some rows ↔ ∃ path content,
      HasStoryFile tree root path content ∧ path.stem? = some name ∧
        Content.Tells Row.ofJson? content rows
  /-- The result is the number of the files. -/
  count : ∀ library count, ({} : Library).loadWalk tree walk = (library, .ok count) →
    library.stories.size = count ∧ ∃ files : List Path, files.Nodup ∧ files.length = count ∧
      ∀ path, path ∈ files ↔ ∃ content, HasStoryFile tree root path content
  /-- Any other walk through the files loads the same. -/
  order : ∀ library count other, other.Perm walk →
    (({} : Library).loadWalk tree other = (library, .ok count) ↔
      ({} : Library).loadWalk tree walk = (library, .ok count))
  /-- So it does after the project was loaded. -/
  again : ∀ library count other, other.Perm walk →
    ({} : Library).loadWalk tree walk = (library, .ok count) →
      library.loadWalk tree other = (library, .ok count)

/-- Whatever the files of a tree are, and in whatever order a walk meets them, the project is loaded
as it should be. -/
theorem loadsProject (htree : tree.isWellFormed = true) (hwalk : walk.Perm (tree.filesBelow root)) :
    LoadsProject tree root walk where
  succeeds_iff := loadWalk_succeeds_iff htree hwalk
  stories _ _ hload _ _ := getElem?_stories_of_loadWalk htree hwalk hload
  count _ _ hload :=
    ⟨size_stories_of_loadWalk htree hwalk hload, storyPaths tree walk, nodup_storyPaths htree hwalk,
      (loadWalk_eq_ok_iff_loadStories.mp hload).2, fun _ => mem_storyPaths_iff htree hwalk⟩
  order _ _ _ hperm :=
    ⟨fun hload => (loadWalk_of_perm htree (hperm.trans hwalk) hperm.symm hload).1,
      fun hload => (loadWalk_of_perm htree hwalk hperm hload).1⟩
  again _ _ _ hperm hload := (loadWalk_of_perm htree hwalk hperm hload).2

/-- A directory with two stories, one of them in a directory of its own, and a file that is none. -/
def twoStories : FileTree :=
  .directory [("story", .directory [
    ("prologue.json", .file (.ok "[\x7b\"ScriptKr\": \"#na\"\x7d, \x7b\x7d]".toUTF8)),
    ("notes.txt", .file (.ok "no story".toUTF8)),
    ("more", .directory [("epilogue.json", .file (.ok "\x7b\"DataList\": [[7]]\x7d".toUTF8))])])]

/-- The files of the directory, not in its order. -/
def twoStoriesWalk : List Path :=
  [⟨"story/more/epilogue.json"⟩, ⟨"story/prologue.json"⟩, ⟨"story/notes.txt"⟩]

theorem loadsProject_twoStories :
    twoStories.isWellFormed = true ∧ twoStoriesWalk.Perm (twoStories.filesBelow ⟨"story"⟩) ∧
      LoadsProject twoStories ⟨"story"⟩ twoStoriesWalk ∧
      (({} : Library).loadWalk twoStories twoStoriesWalk).2 = .ok 2 ∧
      (({} : Library).loadWalk twoStories twoStoriesWalk).1.names = ["epilogue", "prologue"] :=
  have htree : twoStories.isWellFormed = true := by decide +kernel
  have hwalk : twoStoriesWalk.Perm (twoStories.filesBelow ⟨"story"⟩) := by decide +kernel
  ⟨htree, hwalk, loadsProject htree hwalk, by decide +kernel, by decide +kernel⟩

end Library

end VisualNovel
