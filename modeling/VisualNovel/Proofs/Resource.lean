/-
# The names of models

The name of a character's model is derived from a path in four steps, each of which may bring about
what another one looks for. What comes of it needs no second derivation: it is a name without a
path, it is in lower case, so that neither the prefix nor the mark of a variant can stand in it any
more, and it has its ending. A path and the same path with the mark of a variant give one name, and
so both variants are found at one address.
-/

import Mathlib.Data.List.DropRight
import VisualNovel.Proofs.Text.Lowercase
import VisualNovel.Resource

namespace VisualNovel.Resource

open Text

variable {word text tail path : List Char}

theorem dropWord_suffix (word text : List Char) : dropWord word text <:+ text := by
  unfold dropWord
  split
  · exact List.drop_suffix _ _
  · exact List.suffix_refl _

theorem dropWord_eq_self (hword : ¬ word <+: text) : dropWord word text = text := by
  rw [dropWord, if_neg (mt List.isPrefixOf_iff_prefix.mp hword)]

/-- A word is dropped as well when something follows in which the word cannot end. -/
theorem dropWord_append (hlast : ∀ c ∈ word.getLast?, c ∉ tail) :
    dropWord word (text ++ tail) = dropWord word text ++ tail := by
  by_cases hword : word <+: text
  · have hlonger : word <+: text ++ tail := hword.trans (List.prefix_append _ _)
    rw [dropWord, dropWord, if_pos (List.isPrefixOf_iff_prefix.mpr hword),
      if_pos (List.isPrefixOf_iff_prefix.mpr hlonger),
      List.drop_append_of_le_length hword.length_le]
  · have hlonger : ¬ word <+: text ++ tail := by
      intro hbegins
      rcases List.prefix_or_prefix_of_prefix hbegins (List.prefix_append text tail) with
        hshort | ⟨more, rfl⟩
      · exact hword hshort
      · -- Now the word would end in what follows.
        have hmore : more <+: tail := (List.prefix_append_right_inj text).mp hbegins
        cases hend : more.getLast? with
        | none =>
          rw [List.getLast?_eq_none_iff] at hend
          rw [hend, List.append_nil] at hword
          exact hword (List.prefix_refl _)
        | some c =>
          have hc : c ∈ (text ++ more).getLast? := by
            rw [List.getLast?_append, hend]
            rfl
          exact hlast c hc (hmore.subset (List.mem_of_mem_getLast? hend))
    rw [dropWord_eq_self hword, dropWord_eq_self hlonger]

theorem dropWordEnd_append (word text : List Char) : dropWordEnd word (text ++ word) = text := by
  have hword : word.isSuffixOf (text ++ word) = true :=
    List.isSuffixOf_iff_suffix.mpr (List.suffix_append _ _)
  rw [dropWordEnd, if_pos hword, List.length_append, Nat.add_sub_cancel, List.take_left]

theorem dropWordEnd_eq_self (hword : ¬ word <:+ text) : dropWordEnd word text = text := by
  rw [dropWordEnd, if_neg (mt List.isSuffixOf_iff_suffix.mp hword)]

theorem isPrefix_dropWordEnd (word text : List Char) : dropWordEnd word text <+: text := by
  unfold dropWordEnd
  split
  · exact List.take_prefix _ _
  · exact List.prefix_refl _

theorem suffix_ensureEnd (word text : List Char) : word <:+ ensureEnd word text := by
  unfold ensureEnd
  split
  · exact List.isSuffixOf_iff_suffix.mp ‹_›
  · exact List.suffix_append _ _

theorem ensureEnd_of_suffix (hword : word <:+ text) : ensureEnd word text = text := by
  rw [ensureEnd, if_pos (List.isSuffixOf_iff_suffix.mpr hword)]

theorem mem_ensureEnd {c : Char} (hmem : c ∈ ensureEnd word text) : c ∈ text ∨ c ∈ word := by
  unfold ensureEnd at hmem
  split at hmem
  · exact .inl hmem
  · exact List.mem_append.mp hmem

theorem slash_notMem_lastSegment (path : List Char) : '/' ∉ lastSegment path := by
  intro hmem
  have hother := List.mem_rtakeWhile_imp (p := (· != '/')) hmem
  cases hother

theorem lastSegment_suffix (path : List Char) : lastSegment path <:+ path :=
  List.rtakeWhile_suffix (· != '/') path

/-- What is added to a path and has no slash belongs to the last segment. -/
theorem lastSegment_append (htail : '/' ∉ tail) :
    lastSegment (path ++ tail) = lastSegment path ++ tail := by
  have hall : ∀ c ∈ tail.reverse, (c != '/') = true := by
    intro c hc
    refine bne_iff_ne.mpr ?_
    rintro rfl
    exact htail (List.mem_reverse.mp hc)
  rw [lastSegment, lastSegment, List.reverse_append, List.takeWhile_append_of_pos hall,
    List.reverse_append, List.reverse_reverse]

theorem lastSegment_of_notMem (hpath : '/' ∉ path) : lastSegment path = path := by
  have hall : lastSegment ([] ++ path) = lastSegment [] ++ path := lastSegment_append hpath
  exact hall

/-- A name in lower case that has no slash and has its ending is not changed any more. -/
theorem characterModel_eq_self (hslash : '/' ∉ path) (hlower : ∀ c ∈ path, IsLowercase c)
    (hend : "_spr".toList <:+ path) : characterModel path = path := by
  have hbegins : ¬ "CharacterSpine_".toList <+: path := fun hbegins =>
    absurd (hlower 'C' (hbegins.subset (by decide))) (by decide +kernel)
  have hvariant : ¬ "ND".toList <:+ path := fun hsuffix =>
    absurd (hlower 'N' (hsuffix.subset (by decide))) (by decide +kernel)
  rw [characterModel, lastSegment_of_notMem hslash, dropWord_eq_self hbegins,
    dropWordEnd_eq_self hvariant, lowercase_eq_self hlower, ensureEnd_of_suffix hend]

theorem slash_notMem_characterModel (path : List Char) : '/' ∉ characterModel path := by
  intro hmem
  rcases mem_ensureEnd hmem with hname | hending
  · have hletters := mem_of_mem_lowercase (by decide) (by decide) hname
    exact slash_notMem_lastSegment path
      ((dropWord_suffix _ _).subset ((isPrefix_dropWordEnd _ _).subset hletters))
  · revert hending
    decide

theorem isLowercase_of_mem_characterModel {c : Char} (hmem : c ∈ characterModel path) :
    IsLowercase c := by
  have hending : "_spr".toList.all fun c => IsLowercase c := by decide +kernel
  rcases mem_ensureEnd hmem with hname | hletter
  · exact isLowercase_of_mem_lowercase hname
  · exact of_decide_eq_true (List.all_eq_true.mp hending c hletter)

/-- With the mark of a variant behind it, a path without one has the same model. -/
theorem characterModel_append (hvariant : ¬ "ND".toList <:+ path) :
    characterModel (path ++ "ND".toList) = characterModel path := by
  have hname : ¬ "ND".toList <:+ dropWord "CharacterSpine_".toList (lastSegment path) :=
    fun hsuffix => hvariant (hsuffix.trans ((dropWord_suffix _ _).trans (lastSegment_suffix path)))
  have hlast : ∀ c ∈ "CharacterSpine_".toList.getLast?, c ∉ "ND".toList := by
    intro c hc
    cases hc
    decide
  rw [characterModel, characterModel, lastSegment_append (by decide), dropWord_append hlast,
    dropWordEnd_append, dropWordEnd_eq_self hname]

/-- The root is cut in front of the slashes at its end, and of all of them. -/
theorem exists_trimRoot (root : List Char) :
    ∃ count, root = trimRoot root ++ List.replicate count '/' ∧ ¬ ['/'] <:+ trimRoot root := by
  have hslashes : ∀ c ∈ root.rtakeWhile (· == '/'), c = '/' :=
    fun c hc => beq_iff_eq.mp (List.mem_rtakeWhile_imp (p := (· == '/')) hc)
  refine ⟨(root.rtakeWhile (· == '/')).length, ?_, ?_⟩
  · rw [← List.eq_replicate_of_mem hslashes]
    exact List.rdropWhile_append_rtakeWhile.symm
  · intro hend
    have hnonempty : trimRoot root ≠ [] := hend.ne_nil (List.cons_ne_nil _ _)
    have hlast : (trimRoot root).getLast hnonempty = '/' :=
      (hend.getLast (List.cons_ne_nil _ _)).symm
    exact List.rdropWhile_last_not (· == '/') root hnonempty (beq_iff_eq.mpr hlast)

theorem path_characterModel (name : List Char) :
    Resource.path name .characterModel =
      "/spine/".toList ++ characterModel name ++ '/' :: characterModel name ++ ".skel".toList :=
  rfl

/-- Whatever the path is, the name of the model has no slash, has its ending, and is the name that
is derived from itself. With the mark of a variant behind it, a path without one gives the same
name, and so the same address, which is the root without the slashes at its end, the directory of
the models, and twice the name. -/
theorem characterModel_variants (path : String) :
    ('/' ∉ characterModel path.toList ∧ "_spr".toList <:+ characterModel path.toList ∧
      characterModel (characterModel path.toList) = characterModel path.toList) ∧
    (¬ "ND".toList <:+ path.toList →
      characterModel (path ++ "ND").toList = characterModel path.toList) ∧
    ∀ root : String, ∃ base count,
      root.toList = base ++ List.replicate count '/' ∧ ¬ ['/'] <:+ base ∧
      url root .characterModel path = String.ofList (base ++ ("/spine/".toList ++
        characterModel path.toList ++ '/' :: characterModel path.toList ++ ".skel".toList)) ∧
      (¬ "ND".toList <:+ path.toList →
        url root .characterModel (path ++ "ND") = url root .characterModel path) := by
  have hslash := slash_notMem_characterModel path.toList
  have hend : "_spr".toList <:+ characterModel path.toList := suffix_ensureEnd _ _
  have hself : characterModel (characterModel path.toList) = characterModel path.toList :=
    characterModel_eq_self hslash (fun c hc => isLowercase_of_mem_characterModel hc) hend
  have hvariant (hplain : ¬ "ND".toList <:+ path.toList) :
      characterModel (path ++ "ND").toList = characterModel path.toList := by
    rw [String.toList_append]
    exact characterModel_append hplain
  refine ⟨⟨hslash, hend, hself⟩, hvariant, fun root => ?_⟩
  obtain ⟨count, hroot, hbase⟩ := exists_trimRoot root.toList
  refine ⟨trimRoot root.toList, count, hroot, hbase, ?_, fun hplain => ?_⟩
  · rw [url, path_characterModel]
  · rw [url, url, path_characterModel, path_characterModel, hvariant hplain]

/-- At the end of a word the capital sigma takes its final form, which the mark of the variant would
prevent if it were still there. -/
theorem characterModel_variants_sigma :
    ¬ "ND".toList <:+ "UIs/CharacterSpine_ΧΑΣ".toList ∧
      characterModel ("UIs/CharacterSpine_ΧΑΣ" ++ "ND").toList = "χας_spr".toList ∧
      characterModel "χας_spr".toList = "χας_spr".toList ∧
      url "https://cdn.example//" .characterModel ("UIs/CharacterSpine_ΧΑΣ" ++ "ND") =
        "https://cdn.example/spine/χας_spr/χας_spr.skel" := by
  have hplain : ¬ "ND".toList <:+ "UIs/CharacterSpine_ΧΑΣ".toList := by decide
  have hname : characterModel "UIs/CharacterSpine_ΧΑΣ".toList = "χας_spr".toList := by
    decide +kernel
  obtain ⟨⟨_, _, hself⟩, hvariant, hroots⟩ := characterModel_variants "UIs/CharacterSpine_ΧΑΣ"
  obtain ⟨_, _, _, _, _, hsame⟩ := hroots "https://cdn.example//"
  rw [hname] at hself
  refine ⟨hplain, (hvariant hplain).trans hname, hself, (hsame hplain).trans ?_⟩
  decide +kernel

end VisualNovel.Resource
