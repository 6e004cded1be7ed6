/-
# What tags leave behind

Text is shown as the tags in front of it tell. Ruby, bold and italic are each told by the last tag
that sets them, whatever stands between; the same holds of the pause before a run, for which only
the tags since the run before count. Colours are different, for they nest: of the colours that are
open, the one opened last shows, and closing it brings back the one around it.

None of this says how the text is gone through. That the style which is kept on the way tells the
same is proved tag by tag.
-/

import VisualNovel.Dialogue.Runs
import VisualNovel.Proofs.Dialogue.Tags
import VisualNovel.Proofs.Numeral

namespace VisualNovel.Dialogue

open Text

/-- What is read off a state after a sequence of events is what the last of them sets, among those
that set it at all. -/
theorem foldl_eq_getLast? {State Event Value : Type} (read : State → Value)
    {step : State → Event → State} {sets? : Event → Option Value}
    (hstep : ∀ state event, read (step state event) = (sets? event).getD (read state))
    (events : List Event) (state : State) :
    read (events.foldl step state) = (events.filterMap sets?).getLast?.getD (read state) := by
  induction events using List.reverseRecOn with
  | nil => rfl
  | append_singleton events event ih =>
    rw [List.foldl_append, List.foldl_cons, List.foldl_nil, hstep, ih, List.filterMap_append]
    cases hsets : sets? event <;> simp [hsets]

namespace Tag

/-- The reading that the tag puts above the text behind it, or that there is none any more. -/
def setsRuby? : Tag → Option (Option (List Char))
  | .ruby reading => some (some reading)
  | .endRuby => some none
  | _ => none

/-- Whether the text behind the tag is bold, if the tag tells. -/
def setsBold? : Tag → Option Bool
  | .bold => some true
  | .endBold => some false
  | _ => none

/-- Whether the text behind the tag is italic, if the tag tells. -/
def setsItalic? : Tag → Option Bool
  | .italic => some true
  | .endItalic => some false
  | _ => none

/-- The digits of the pause that the tag is. -/
def pause? : Tag → Option (List Char)
  | .pause digits => some digits
  | _ => none

/-- The open colours behind the tag, innermost first. Closing a colour where none is open changes
nothing. -/
def nest (colors : List (List Char)) : Tag → List (List Char)
  | .color digits => digits :: colors
  | .endColor => colors.tail
  | _ => colors

end Tag

/-- The effects of text behind the tags. -/
def effectsBehind (tags : List Tag) : List RunEffect :=
  ((tags.filterMap Tag.setsRuby?).getLast?.join.map fun reading =>
      RunEffect.ruby (String.ofList reading)).toList
    ++ ((tags.foldl Tag.nest []).head?.map fun digits =>
      RunEffect.color (String.ofList ('#' :: digits))).toList
    ++ (if (tags.filterMap Tag.setsBold?).getLast? = some true then [.bold] else [])
    ++ (if (tags.filterMap Tag.setsItalic?).getLast? = some true then [.italic] else [])

/-- The number that the digits denote. -/
def number (digits : List Char) : Nat := Nat.ofDigitChars 10 digits 0

/-- The digits are ASCII digits, and the number that they denote fits into 32 bits. -/
def IsLength (digits : List Char) : Prop :=
  (∀ c ∈ digits, isAsciiDigit c = true) ∧ number digits < UInt32.size

instance (digits : List Char) : Decidable (IsLength digits) :=
  let : Decidable (∀ c ∈ digits, isAsciiDigit c = true) :=
    List.decidableBAll (fun c => isAsciiDigit c = true) digits
  inferInstanceAs (Decidable (_ ∧ _))

/-- The length of a pause with the digits. -/
def pauseLength? (digits : List Char) : Option UInt32 :=
  if IsLength digits then some (UInt32.ofNat (number digits)) else none

/-- The pause before a run, by the tags since the run before it. -/
def pauseBehind? (tags : List Tag) : Option UInt32 :=
  (tags.filterMap Tag.pause?).getLast?.bind pauseLength?

theorem colors_foldl_after (tags : List Tag) (style : Style) :
    (tags.foldl Style.after style).colors = tags.foldl Tag.nest style.colors := by
  induction tags generalizing style with
  | nil => rfl
  | cons tag tags ih =>
    rw [List.foldl_cons, List.foldl_cons, ih]
    cases tag <;> rfl

/-- The style that is kept on the way shows what the tags tell. -/
theorem effects_foldl_after (tags : List Tag) :
    (tags.foldl Style.after {}).effects = effectsBehind tags := by
  have hruby : (tags.foldl Style.after {}).ruby =
      (tags.filterMap Tag.setsRuby?).getLast?.getD none :=
    foldl_eq_getLast? Style.ruby (fun style tag => by cases tag <;> rfl) tags {}
  have hbold : (tags.foldl Style.after {}).bold =
      (tags.filterMap Tag.setsBold?).getLast?.getD false :=
    foldl_eq_getLast? Style.bold (fun style tag => by cases tag <;> rfl) tags {}
  have hitalic : (tags.foldl Style.after {}).italic =
      (tags.filterMap Tag.setsItalic?).getLast?.getD false :=
    foldl_eq_getLast? Style.italic (fun style tag => by cases tag <;> rfl) tags {}
  have hlast (sets : List Bool) : sets.getLast?.getD false = true ↔ sets.getLast? = some true := by
    cases sets.getLast? <;> simp
  have hjoin (sets : List (Option (List Char))) :
      sets.getLast?.getD none = sets.getLast?.join := by
    cases sets.getLast? <;> rfl
  simp only [Style.effects, effectsBehind, colors_foldl_after, hruby, hbold, hitalic, hlast, hjoin]

/-- The digits of a pause are read as its length. -/
theorem pauseOf_eq {digits body : List Char} (hbody : Tag.HasBody (.pause digits) body) :
    Progress.pauseOf digits = pauseLength? digits := by
  obtain ⟨_, hdigits, hall⟩ := hbody.of_pause
  have hunsigned : ∀ c ∈ digits.head?, c ≠ '+' ∧ c ≠ '-' := by
    intro c hc
    have hdigit := hall c (List.mem_of_mem_head? hc)
    constructor <;>
    · rintro rfl
      exact absurd hdigit (by decide +kernel)
  unfold Progress.pauseOf pauseLength?
  have hread {n : Int} : Numeral.inRange? (.unsigned 32) digits = some n ↔
      IsLength digits ∧ (number digits : Int) = n :=
    (Numeral.inRange?_unsigned_eq_some_iff hdigits hunsigned).trans and_assoc.symm
  split_ifs with hlength
  · rw [hread.mpr ⟨hlength, rfl⟩]
    rfl
  · rw [Option.map_eq_none_iff, Option.eq_none_iff_forall_ne_some]
    exact fun n hn => hlength (hread.mp hn).1

/-- Where nothing has collected, tags set the pause of the next run and its style. -/
theorem foldl_tag_of_empty {styled : Bool} {progress : Progress} (hempty : progress.buffer = [])
    (tags : List Tag) :
    tags.foldl (Progress.tag styled) progress =
      { progress with
        pause := ((tags.filterMap Tag.pause?).getLast?.map Progress.pauseOf).getD progress.pause
        style := tags.foldl Style.after progress.style } := by
  induction tags using List.reverseRecOn with
  | nil => rfl
  | append_singleton tags tag ih =>
    rw [List.foldl_append, List.foldl_append, ih, List.filterMap_append]
    cases tag <;> simp [Progress.tag, Progress.close, hempty, Tag.pause?, Style.after]

end VisualNovel.Dialogue
