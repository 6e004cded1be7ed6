/-
# The text without its tags

The plain text is the text as the player is shown it, with nothing in place of every tag. Three
replacements are made one after the other, and each goes over what the one before it has put in. So
the name of the player is not safe from the two that come after it: it is shown letter by letter
exactly if no line break is marked in it, across its end included, and no tag is written in it.
-/

import VisualNovel.Proofs.Dialogue.Runs

namespace VisualNovel

namespace Dialogue

open Text

variable {raw text plain : List Char} {player : String}

/-- The plain text is the shown text without its tags. -/
theorem plainText_of_replaced (hshown : IsShown raw player text)
    (hreplaced : Replaced IsTag [] text plain) : plainText raw player = String.ofList plain := by
  obtain ⟨stretches, last, hcut, hplain⟩ := exists_cut_of_replaced hreplaced
  have hcontents : (runs raw false player).map (·.content) =
      stretches.map fun stretch => String.ofList stretch.content := by
    rw [runs_of_cut false hshown hcut]
    exact map_shown (fun _ _ => rfl) stretches
  apply String.toList_injective
  rw [plainText, hcontents, String.toList_join, List.flatMap_map, String.toList_ofList, ← hplain]
  simp only [String.toList_ofList]

/-- With the name put in, a text is plain as it stands exactly if it marks no line break and has no
tag. -/
theorem plainText_eq_named_iff {named : List Char}
    (hnamed : Replaced IsNameMark player.toList raw named) :
    plainText raw player = String.ofList named ↔ Free IsLineMark named ∧ Free IsTag named := by
  have hline : ∀ mark, IsLineMark mark → ['\n'].length < mark.length := by
    rintro _ rfl
    decide
  have htag : ∀ mark, IsTag mark → ([] : List Char).length < mark.length :=
    fun mark hmark => opensMarks_tag.length_pos hmark
  constructor
  · intro hplain
    obtain ⟨text, htext⟩ := opensMarks_line.exists_replaced ['\n'] named
    obtain ⟨plain, hreplaced⟩ := opensMarks_tag.exists_replaced [] text
    rw [plainText_of_replaced ⟨named, hnamed, htext⟩ hreplaced] at hplain
    obtain rfl : plain = named := String.ofList_injective hplain
    -- No replacement makes a text longer, so that none of the two has made it shorter either.
    have hlines := htext.free_of_length_le hline (hreplaced.length_le htag)
    have htags := hreplaced.free_of_length_le htag (htext.length_le hline)
    rw [htext.eq_of_free hlines] at htags
    exact ⟨hlines, htags⟩
  · rintro ⟨hlines, htags⟩
    exact plainText_of_replaced ⟨named, hnamed, .free hlines⟩ (.free htags)

theorem closesMarks_tag : ClosesMarks ']' IsTag := by
  rintro _ ⟨_, body, _, _, rfl⟩
  exact ⟨'[' :: body, rfl⟩

/-- A name in place of its mark is shown letter by letter exactly if the name does not make a line
break, by itself or with the text behind it, and has no tag. -/
theorem plainText_insert_iff {before mark after : List Char} (hmark : IsNameMark mark)
    (hbefore : '[' ∉ before ∧ ']' ∉ before ∧ '#' ∉ before)
    (hafter : '[' ∉ after ∧ ']' ∉ after ∧ '#' ∉ after) :
    plainText (before ++ (mark ++ after)) player =
        String.ofList (before ++ (player.toList ++ after)) ↔
      ¬ "#n".toList <:+: player.toList ++ after ∧ Free IsTag player.toList := by
  have hnamed : Replaced IsNameMark player.toList (before ++ (mark ++ after))
      (before ++ (player.toList ++ after)) :=
    .mark (opensMarks_name.free_of_notMem hbefore.1) hmark
      (.free (opensMarks_name.free_of_notMem hafter.1))
  have hlines : Free IsLineMark (before ++ (player.toList ++ after)) ↔
      ¬ "#n".toList <:+: player.toList ++ after := by
    rw [opensMarks_line.free_append_left_iff hbefore.2.2]
    exact ⟨fun hfree hpart => hfree _ hpart rfl,
      fun hnone part hpart hsame => hnone (hsame ▸ hpart)⟩
  have htags : Free IsTag (before ++ (player.toList ++ after)) ↔ Free IsTag player.toList := by
    rw [opensMarks_tag.free_append_left_iff hbefore.1,
      closesMarks_tag.free_append_right_iff hafter.2.1]
  rw [plainText_eq_named_iff hnamed, hlines, htags]

end Dialogue

namespace Sample

open Dialogue Text

/-- A name with a number sign is shown as it is, as long as no line break is marked in it. -/
theorem plainText_insert_numbered :
    plainText ("Hello ".toList ++ ("[uſerNAME]".toList ++ "!".toList)) "Nana #1" =
      "Hello Nana #1!" :=
  (plainText_insert_iff (by decide) (by decide) (by decide)).mpr
    ⟨by decide, opensMarks_tag.free_of_notMem (by decide)⟩

/-- A name is not shown as it is whatever it is. -/
theorem not_plainText_insert :
    ¬ ∀ (before mark after : List Char) (player : String), IsNameMark mark →
        '[' ∉ before ∧ ']' ∉ before ∧ '#' ∉ before →
        '[' ∉ after ∧ ']' ∉ after ∧ '#' ∉ after →
        plainText (before ++ (mark ++ after)) player =
          String.ofList (before ++ (player.toList ++ after)) := by
  intro hall
  have hmark : IsNameMark "[USERNAME]".toList := by decide
  have hverbatim := hall "Hello ".toList "[USERNAME]".toList "!".toList "#nana" hmark (by decide)
    (by decide)
  have hnamed : Replaced IsNameMark "#nana".toList
      ("Hello ".toList ++ ("[USERNAME]".toList ++ "!".toList)) _ :=
    .mark (opensMarks_name.free_of_notMem (by decide)) hmark
      (.free (opensMarks_name.free_of_notMem (by decide)))
  have hbroken : Replaced IsLineMark ['\n'] ("Hello ".toList ++ ("#n".toList ++ "ana!".toList)) _ :=
    .mark (opensMarks_line.free_of_notMem (by decide)) rfl
      (.free (opensMarks_line.free_of_notMem (by decide)))
  rw [plainText_of_replaced ⟨_, hnamed, hbroken⟩
    (.free (opensMarks_tag.free_of_notMem (by decide)))] at hverbatim
  exact absurd hverbatim (by decide)

end Sample
end VisualNovel
