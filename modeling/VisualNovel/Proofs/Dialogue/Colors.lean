/-
# Colours inside colours

A colour is opened by its tag and closed by one that does not name it. So a text in colours is read
as a forest: a leaf is text, and a node is a colour around a forest of its own. Other tags may stand
anywhere between, and colours may be closed where none is open.

Going through the rendering of a forest shows every letter in the colour of the innermost node
around it. The induction is on the rendering. What carries it is that the colours which are open
behind a forest are those that were open in front of it, whichever these are.
-/

import VisualNovel.Proofs.Dialogue.Runs

namespace VisualNovel

/-- The effect is a colour. -/
def RunEffect.isColor : RunEffect → Bool
  | .color _ => true
  | _ => false

/-- The letters of a run, each with the colours that it is shown in. -/
def Run.letters (run : Run) : List (Char × List RunEffect) :=
  run.content.toList.map fun c => (c, run.effects.filter RunEffect.isColor)

namespace Dialogue

open Text

/-- A forest of coloured text, by its first tree and the trees behind it. -/
inductive ColorForest
  | nil
  | leaf (content : List Char) (rest : ColorForest)
  /-- A colour, by its hexadecimal digits, around a forest. -/
  | node (digits : List Char) (inside rest : ColorForest)
  deriving DecidableEq, Repr

namespace ColorForest

/-- The text of the leaves in order. -/
def content : ColorForest → List Char
  | nil => []
  | leaf content rest => content ++ rest.content
  | node _ inside rest => inside.content ++ rest.content

/-- The letters of the leaves in order, each with the colour of the innermost node around it.
Outside all nodes, letters have the colours `around`. -/
def letters (around : List RunEffect) : ColorForest → List (Char × List RunEffect)
  | nil => []
  | leaf content rest => content.map (·, around) ++ rest.letters around
  | node digits inside rest =>
    inside.letters [.color (String.ofList ('#' :: digits))] ++ rest.letters around

theorem map_fst_letters (forest : ColorForest) (around : List RunEffect) :
    (forest.letters around).map Prod.fst = forest.content := by
  induction forest generalizing around with
  | nil => rfl
  | leaf content rest ih => simp [letters, ColorForest.content, ih, Function.comp_def]
  | node digits inside rest ihInside ih => simp [letters, ColorForest.content, ihInside, ih]

end ColorForest

/-- The tag is a pause, or begins or ends bold or italic. -/
def Tag.isAside : Tag → Bool
  | .pause _ | .bold | .endBold | .italic | .endItalic => true
  | _ => false

/-- The tag that closes a colour. -/
def endMark : List Char := bracketed ['-']

/-- The text is a rendering of the forest. Only outside all nodes may a colour be closed that is not
open. -/
inductive Rendered : (outside : Bool) → ColorForest → List Char → Prop
  | nil {outside : Bool} : Rendered outside .nil []
  | leaf {outside : Bool} {content written : List Char} {rest : ColorForest}
      (hcontent : content ≠ []) (hplain : '[' ∉ content ∧ ']' ∉ content ∧ '#' ∉ content)
      (hrest : Rendered outside rest written) :
      Rendered outside (.leaf content rest) (content ++ written)
  | node {outside : Bool} {digits within written : List Char} {inside rest : ColorForest}
      (hlength : digits.length = 6) (hdigits : ∀ c ∈ digits, isHexDigit c = true)
      (hinside : Rendered false inside within) (hrest : Rendered outside rest written) :
      Rendered outside (.node digits inside rest)
        (bracketed digits ++ (within ++ (endMark ++ written)))
  | aside {outside : Bool} {tag : Tag} {mark written : List Char} {forest : ColorForest}
      (haside : tag.isAside = true) (hmark : tag.IsWritten mark)
      (hrest : Rendered outside forest written) : Rendered outside forest (mark ++ written)
  | stray {written : List Char} {forest : ColorForest} (hrest : Rendered true forest written) :
      Rendered true forest (endMark ++ written)

theorem isWritten_endMark : Tag.IsWritten .endColor endMark :=
  Tag.isWritten_of_ofBody? (by decide) (by decide)

theorem isWritten_color {digits : List Char} (hlength : digits.length = 6)
    (hdigits : ∀ c ∈ digits, isHexDigit c = true) :
    (Tag.color digits).IsWritten (bracketed digits) := by
  have hother : ∀ c : Char, isHexDigit c = false → c ∉ digits := by
    intro c hc hmem
    rw [hdigits c hmem] at hc
    cases hc
  exact ⟨digits, ⟨hother _ (by decide), hother _ (by decide), hother _ (by decide)⟩,
    .color hlength hdigits, rfl⟩

/-- No tag is the mark of the player's name. -/
theorem not_isNameMark_of_isTag {mark : List Char} (hmark : IsTag mark) : ¬ IsNameMark mark := by
  intro hname
  obtain ⟨tag, body, _, hbody, rfl⟩ := hmark
  have hfolded : body.map folded = "username".toList := by
    have hmap : (bracketed body).map folded = bracketed (body.map folded) := by
      rw [bracketed, List.map_cons, List.map_append]
      rfl
    have hwhole : bracketed (body.map folded) = bracketed "username".toList := hmap ▸ hname
    exact List.append_cancel_right (List.cons.inj hwhole).2
  have hlength : body.length = 8 := by
    rw [← List.length_map folded, hfolded]
    rfl
  cases hbody with
  | @keyword word _ _ hword hmark =>
    have hshort : ∀ pair ∈ Tag.keywords, pair.1.toList.length ≠ 8 := by decide
    exact hshort _ hword (hmark.length_eq ▸ hlength)
  | @pause mark digits hmark =>
    rw [List.map_append, (spells_iff_map_folded (by decide) (by decide)).mp hmark] at hfolded
    exact absurd (List.cons.inj hfolded).1 (by decide)
  | @ruby mark reading hmark =>
    rw [List.map_append, (spells_iff_map_folded (by decide) (by decide)).mp hmark] at hfolded
    exact absurd (List.cons.inj hfolded).1 (by decide)
  | color hsix => omega

theorem free_name_of_isTag {mark : List Char} (hmark : IsTag mark) : Free IsNameMark mark := by
  intro part hpart hname
  obtain ⟨inside, rfl, _⟩ := opensMarks_name part hname
  have hclosing : ']' ∈ inside := by
    have hmem : ']' ∈ ('[' :: inside).map folded := by
      rw [hname]
      decide
    obtain ⟨c, hc, hfolded⟩ := List.mem_map.mp hmem
    obtain rfl := eq_of_folded_eq hfolded rfl
    simpa using hc
  obtain ⟨_, body, ⟨hopening, hclosing', _⟩, _, rfl⟩ := id hmark
  rcases List.infix_cons_iff.mp hpart with hhere | hlater
  · rcases List.prefix_concat_iff.mp (List.cons_prefix_cons.mp hhere).2 with rfl | hshort
    · exact not_isNameMark_of_isTag hmark hname
    · exact hclosing' (hshort.subset hclosing)
  · have hmem := hlater.subset List.mem_cons_self
    simp [hopening] at hmem

/-- A tag that is no ruby marks no line break. -/
theorem notMem_of_isWritten {tag : Tag} {mark : List Char} (htag : ∀ reading, tag ≠ .ruby reading)
    (hmark : tag.IsWritten mark) : '#' ∉ mark := by
  obtain ⟨body, _, hbody, rfl⟩ := hmark
  have hspells {word : String} {mark : List Char} (hmark : Spells word mark)
      (hword : '#' ∉ word.toList) : '#' ∉ mark :=
    fun hmem => hword (hmark ▸ List.mem_map_of_mem hmem)
  have hnone : '#' ∉ body := by
    cases hbody with
    | @keyword word _ _ hword hmark =>
      have hall : ∀ pair ∈ Tag.keywords, '#' ∉ pair.1.toList := by decide
      exact hspells hmark (hall _ hword)
    | pause hmark _ hall =>
      rw [List.mem_append, not_or]
      exact ⟨hspells hmark (by decide), fun hmem => absurd (hall _ hmem) (by decide)⟩
    | ruby reading => exact absurd rfl (htag reading)
    | color _ hall => exact fun hmem => absurd (hall _ hmem) (by decide)
  simpa [bracketed] using hnone

theorem notMem_dropLast_of_isNameMark (mark : List Char) (hmark : IsNameMark mark) :
    ']' ∉ mark.dropLast := by
  intro hmem
  have himage : ']' ∈ mark.dropLast.map folded := List.mem_map_of_mem (f := folded) hmem
  rw [List.map_dropLast, hmark] at himage
  exact absurd himage (by decide)

/-- A tag in front of a text marks neither the name nor a line break, nor does it with what
follows. -/
theorem isWritten_append_unmarked {tag : Tag} {mark text : List Char}
    (htag : ∀ reading, tag ≠ .ruby reading) (hmark : tag.IsWritten mark)
    (htext : Free IsNameMark text ∧ '#' ∉ text) :
    Free IsNameMark (mark ++ text) ∧ '#' ∉ mark ++ text := by
  have hlast : mark.getLast? = some ']' := by
    obtain ⟨body, _, _, rfl⟩ := hmark
    rw [bracketed, ← List.cons_append]
    exact List.getLast?_concat
  refine ⟨(free_name_of_isTag ⟨tag, hmark⟩).append htext.1
    (apart_of_getLast? notMem_dropLast_of_isNameMark hlast), ?_⟩
  rw [List.mem_append, not_or]
  exact ⟨notMem_of_isWritten htag hmark, htext.2⟩

namespace Rendered

variable {outside styled : Bool} {forest : ColorForest} {text rest : List Char} {player : String}

theorem unmarked (hrendered : Rendered outside forest text) :
    Free IsNameMark text ∧ '#' ∉ text := by
  induction hrendered with
  | nil => exact ⟨opensMarks_name.free_of_notMem List.not_mem_nil, List.not_mem_nil⟩
  | @leaf _ content written _ _ hplain _ ih =>
    refine ⟨(opensMarks_name.free_append_left_iff hplain.1).mpr ih.1, ?_⟩
    rw [List.mem_append, not_or]
    exact ⟨hplain.2.2, ih.2⟩
  | @node _ digits within written _ _ hlength hdigits _ _ ihInside ih =>
    refine isWritten_append_unmarked (by simp) (isWritten_color hlength hdigits) ?_
    have hbehind := isWritten_append_unmarked (by simp) isWritten_endMark ih
    refine ⟨ihInside.1.append hbehind.1 (opensMarks_name.apart (resumes_cons '[' _)), ?_⟩
    rw [List.mem_append, not_or]
    exact ⟨ihInside.2, hbehind.2⟩
  | aside haside hmark _ ih =>
    exact isWritten_append_unmarked (by rintro _ rfl; cases haside) hmark ih
  | stray _ ih => exact isWritten_append_unmarked (by simp) isWritten_endMark ih

/-- A rendering is shown as it stands. -/
theorem isShown (hrendered : Rendered outside forest text) : IsShown text player text :=
  ⟨text, .free hrendered.unmarked.1, .free (opensMarks_line.free_of_notMem hrendered.unmarked.2)⟩

end Rendered

/-- The colours that text is shown in where these colours are open, innermost first. -/
def colorEffects (colors : List (List Char)) : List RunEffect :=
  (colors.head?.map fun digits => RunEffect.color (String.ofList ('#' :: digits))).toList

theorem Style.filter_isColor_effects (style : Style) :
    style.effects.filter RunEffect.isColor = colorEffects style.colors := by
  obtain ⟨ruby, colors, bold, italic⟩ := style
  cases ruby <;> cases colors <;> cases bold <;> cases italic <;> rfl

namespace Progress

variable {styled : Bool} {rest : List Char}

/-- Text without an opening bracket goes into the buffer, whatever follows. -/
theorem across_append_of_notMem {content : List Char} (hnone : '[' ∉ content)
    (progress : Progress) :
    progress.across styled (content ++ rest) = (progress.push content).across styled rest := by
  induction content generalizing progress with
  | nil => rfl
  | cons c content ih =>
    rw [List.mem_cons, not_or] at hnone
    rw [List.cons_append, across, pieces, piecesFrom, if_neg (Ne.symm hnone.1), List.foldl_cons]
    exact (ih hnone.2 _).trans (congrArg (across styled · rest) (push_push progress [c] content))

/-- The letters that have been gone over, each with the colours that it is shown in. -/
def letters (progress : Progress) : List (Char × List RunEffect) :=
  progress.runs.reverse.flatMap Run.letters ++
    progress.buffer.reverse.map (·, colorEffects progress.style.colors)

theorem letters_push (progress : Progress) (content : List Char) :
    (progress.push content).letters =
      progress.letters ++ content.map (·, colorEffects progress.style.colors) := by
  simp [letters, push]

theorem buffer_close (progress : Progress) : (progress.close styled).buffer = [] := by
  by_cases hempty : progress.buffer = [] <;> simp [close, hempty]

theorem style_close (progress : Progress) : (progress.close styled).style = progress.style := by
  by_cases hempty : progress.buffer = [] <;> simp [close, hempty]

/-- A run is closed in the style that its letters were gone over in. -/
theorem letters_close (progress : Progress) : (progress.close true).letters = progress.letters := by
  by_cases hempty : progress.buffer = [] <;>
    simp [close, hempty, letters, Run.letters, Style.filter_isColor_effects]

/-- A tag leaves the letters in front of it as they are. -/
theorem letters_tag (progress : Progress) (tag : Tag) :
    (progress.tag true tag).letters = progress.letters := by
  rw [← letters_close progress]
  cases tag <;> simp [Progress.tag, letters, buffer_close]

theorem colors_tag (progress : Progress) (tag : Tag) :
    (progress.tag styled tag).style.colors = tag.nest progress.style.colors := by
  rw [← style_close progress]
  cases tag <;> rfl

end Progress

namespace Rendered

variable {outside styled : Bool} {forest : ColorForest} {text rest : List Char} {player : String}

/-- What follows a rendering is gone over by itself. -/
theorem across_append (hrendered : Rendered outside forest text) (progress : Progress) :
    progress.across styled (text ++ rest) = (progress.across styled text).across styled rest := by
  induction hrendered generalizing progress rest with
  | nil => rfl
  | leaf _ hplain _ ih =>
    rw [List.append_assoc, Progress.across_append_of_notMem hplain.1, ih,
      Progress.across_append_of_notMem hplain.1]
  | node hlength hdigits _ _ ihInside ih =>
    have hcolor := isWritten_color hlength hdigits
    simp only [List.append_assoc, Progress.across_append_of_isWritten hcolor, ihInside,
      Progress.across_append_of_isWritten isWritten_endMark, ih]
  | aside _ hmark _ ih =>
    rw [List.append_assoc, Progress.across_append_of_isWritten hmark, ih,
      Progress.across_append_of_isWritten hmark]
  | stray _ ih =>
    rw [List.append_assoc, Progress.across_append_of_isWritten isWritten_endMark, ih,
      Progress.across_append_of_isWritten isWritten_endMark]

/-- Over a rendering the letters of the forest are added, and the colours that were open in front of
it are open behind it. -/
theorem letters_across (hrendered : Rendered outside forest text) (progress : Progress)
    (houtside : outside = true → progress.style.colors = []) :
    (progress.across true text).letters =
        progress.letters ++ forest.letters (colorEffects progress.style.colors) ∧
      (progress.across true text).style.colors = progress.style.colors := by
  induction hrendered generalizing progress with
  | nil => exact ⟨(List.append_nil _).symm, rfl⟩
  | @leaf _ content _ _ _ hplain _ ih =>
    obtain ⟨hletters, hcolors⟩ := ih (progress.push content) houtside
    rw [Progress.across_append_of_notMem hplain.1, hletters, hcolors, Progress.letters_push,
      List.append_assoc]
    exact ⟨rfl, rfl⟩
  | @node _ digits within written inside rest hlength hdigits hinside _ ihInside ih =>
    rw [Progress.across_append_of_isWritten (isWritten_color hlength hdigits),
      hinside.across_append, Progress.across_append_of_isWritten isWritten_endMark]
    obtain ⟨hwithin, hopened⟩ := ihInside (progress.tag true (.color digits)) (by simp)
    have hclosed : (((progress.tag true (.color digits)).across true within).tag true
        .endColor).style.colors = progress.style.colors := by
      rw [Progress.colors_tag, hopened, Progress.colors_tag]
      rfl
    obtain ⟨hletters, hcolors⟩ := ih _ (by rwa [hclosed])
    rw [hletters, hcolors, hclosed, Progress.letters_tag, hwithin, Progress.colors_tag,
      Progress.letters_tag, List.append_assoc]
    exact ⟨rfl, rfl⟩
  | @aside _ tag mark _ _ haside hmark _ ih =>
    have hsame : (progress.tag true tag).style.colors = progress.style.colors := by
      rw [Progress.colors_tag]
      cases tag <;> first | rfl | cases haside
    obtain ⟨hletters, hcolors⟩ := ih _ (by rwa [hsame])
    rw [Progress.across_append_of_isWritten hmark, hletters, hcolors, hsame, Progress.letters_tag]
    exact ⟨rfl, rfl⟩
  | stray _ ih =>
    -- No colour is open outside all nodes, so that there is none to close.
    have hsame : (progress.tag true .endColor).style.colors = progress.style.colors := by
      rw [Progress.colors_tag, houtside rfl]
      rfl
    obtain ⟨hletters, hcolors⟩ := ih _ (by rwa [hsame])
    rw [Progress.across_append_of_isWritten isWritten_endMark, hletters, hcolors, hsame,
      Progress.letters_tag]
    exact ⟨rfl, rfl⟩

end Rendered

/-- Every letter of a rendered forest is shown in the colour of the innermost node around it, and in
none outside all nodes; the runs together have the text of the leaves. -/
theorem letters_runs {forest : ColorForest} {text : List Char}
    (hrendered : Rendered true forest text) (player : String) :
    (runs text true player).flatMap Run.letters = forest.letters [] ∧
      String.join ((runs text true player).map (·.content)) = String.ofList forest.content := by
  have hletters : (runs text true player).flatMap Run.letters = forest.letters [] := by
    have hclosed := Progress.letters_close (Progress.across true {} text)
    rw [(hrendered.letters_across {} fun _ => rfl).1, Progress.letters,
      Progress.buffer_close] at hclosed
    rw [runs_eq_across true hrendered.isShown]
    simpa [Progress.letters, colorEffects] using hclosed
  refine ⟨hletters, String.toList_injective ?_⟩
  have hcontents := congrArg (List.map Prod.fst) hletters
  rw [ColorForest.map_fst_letters, List.map_flatMap] at hcontents
  rw [String.toList_join, String.toList_ofList, ← hcontents, List.flatMap_map]
  simp [Run.letters, Function.comp_def]

end Dialogue

namespace Sample

open Dialogue

/-- Text in red, with a part of it in green. -/
def colored : ColorForest :=
  .node "FF0000".toList
    (.leaf "a".toList (.leaf "b".toList (.node "00ff00".toList (.leaf "c".toList .nil)
      (.leaf "d".toList .nil))))
    (.leaf "e".toList .nil)

/-- Red is back behind the green, and closing a further colour does no harm. -/
theorem letters_runs_colored :
    let text := "[FF0000]a[B]b[00ff00][wa:3]c[-][/b]d[-][-]e".toList
    let red := RunEffect.color "#FF0000"
    Rendered true colored text ∧
      (runs text true "").flatMap Run.letters =
        [('a', [red]), ('b', [red]), ('c', [.color "#00ff00"]), ('d', [red]), ('e', [])] ∧
      String.join ((runs text true "").map (·.content)) = "abcde" := by
  have htag {tag : Tag} (body : List Char) (hbody : IsGroupBody body)
      (hread : Tag.ofBody? body = some tag) : tag.IsWritten (bracketed body) :=
    Tag.isWritten_of_ofBody? hbody hread
  have hbold : Tag.bold.IsWritten "[B]".toList := htag ['B'] (by decide) (by decide)
  have hendBold : Tag.endBold.IsWritten "[/b]".toList := htag ['/', 'b'] (by decide) (by decide)
  have hpause : (Tag.pause ['3']).IsWritten "[wa:3]".toList :=
    htag "wa:3".toList (by decide) (by decide +kernel)
  have hrendered : Rendered true colored "[FF0000]a[B]b[00ff00][wa:3]c[-][/b]d[-][-]e".toList :=
    .node rfl (List.all_eq_true.mp rfl)
      (.leaf (by decide) (by decide) (.aside rfl hbold (.leaf (by decide) (by decide)
        (.node rfl (List.all_eq_true.mp rfl)
          (.aside rfl hpause (.leaf (by decide) (by decide) .nil))
          (.aside rfl hendBold (.leaf (by decide) (by decide) .nil))))))
      (.stray (.leaf (by decide) (by decide) .nil))
  exact ⟨hrendered, letters_runs hrendered ""⟩

end Sample
end VisualNovel
