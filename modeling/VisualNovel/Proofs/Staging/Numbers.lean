/-
# Numbers and modes that are kept

A pattern decides which digits a parameter may be written in, and which spellings of a keyword it
takes; what is kept in the unit is read from the parameter a second time. The two readings do not
agree everywhere. A numeral is kept as what it counts as, which is not the number that it denotes
where other digits than those of ASCII stand in it. A mode is kept as the one that its keyword
names, unless the keyword is written with a long s; then it is kept as the first of the modes.

The same holds of the branch that the label of an answer tells, and a label without digits tells
branch zero.
-/

import VisualNovel.Proofs.Script.Matched
import VisualNovel.Proofs.Staging.Run

namespace VisualNovel

open Script Numeral Text

/-- The mode is what is kept of a keyword. -/
def IsMode (keyword : List Char) (kept : FloatingMode) : Prop :=
  ∃ named : FloatingMode, keyword.map folded = named.name.toList ∧
    kept = if '\u017F' ∈ keyword then .serial else named

/-- The placement is what is kept of the parameters of floating text, for a horizontal position. -/
structure IsPlacement (x : Int) (y mode duration : List Char) (placement : FloatingPlacement) :
    Prop where
  x_eq : placement.x.toInt = x
  y_eq : placement.y.toInt = counted (.signed 32) y
  mode_of : IsMode mode placement.mode
  duration_eq : (placement.duration.toNat : Int) = counted (.unsigned 32) duration

/-- The unit after the directive holds what is kept of its numbers. -/
inductive Holds (before after : StoryUnit) : Directive → Prop
  | wait {duration : List Char} {pause : UInt32}
      (hpause : (pause.toNat : Int) = counted (.unsigned 32) duration)
      (hscreen : after.effect.screen = before.effect.screen ++ [.wait pause]) :
      Holds before after (.wait duration)
  | fontSize {size : List Char} {points : UInt32}
      (hpoints : (points.toNat : Int) = counted (.unsigned 32) size)
      (hruns : after.text.runs = before.text.runs.map fun run =>
        { run with effects := run.effects ++ [.fontSize points] }) :
      Holds before after (.fontSize size)
  | zoomInstant {x y size : List Char} {left top : Int32} {zoom : UInt32}
      (hx : left.toInt = counted (.signed 32) x) (hy : top.toInt = counted (.signed 32) y)
      (hsize : (zoom.toNat : Int) = counted (.unsigned 32) size)
      (hscreen : after.effect.screen = before.effect.screen ++ [.zoomInstant left top zoom]) :
      Holds before after (.zoomInstant x y size)
  | zoomMove {x y size duration : List Char} {left top : Int32} {zoom time : UInt32}
      (hx : left.toInt = counted (.signed 32) x) (hy : top.toInt = counted (.signed 32) y)
      (hsize : (zoom.toNat : Int) = counted (.unsigned 32) size)
      (htime : (time.toNat : Int) = counted (.unsigned 32) duration)
      (hscreen : after.effect.screen = before.effect.screen ++ [.zoomMove left top zoom time]) :
      Holds before after (.zoomMove x y size duration)
  | floatingText {x y mode duration : List Char} {trailing : Parameter} {floating : FloatingText}
      {placement : FloatingPlacement}
      (hplacement : IsPlacement (counted (.signed 32) x) y mode duration placement)
      (hfloating : after.text.floating = some floating)
      (hplaced : floating.placement = some placement)
      (hmiddle : floating.middle = false) :
      Holds before after (.floatingText x y mode duration trailing)
  | middleText {x y mode duration : List Char} {trailing : Parameter} {floating : FloatingText}
      {placement : FloatingPlacement} (hplacement : IsPlacement 0 y mode duration placement)
      (hfloating : after.text.floating = some floating)
      (hplaced : floating.placement = some placement)
      (hmiddle : floating.middle = true) :
      Holds before after (.middleText x y mode duration trailing)

theorem folded_of_isBlank {c : Char} (hblank : isBlank c = true) : folded c = c := by
  have hother : ∀ d : Char, isBlank d = false → c ≠ d := by
    rintro d hd rfl
    rw [hd] at hblank
    cases hblank
  have hapart : ∀ blanks ∈ blankRanges, blanks.2 < 65 ∨ 90 < blanks.1 := by decide
  obtain ⟨blanks, hblanks, hfirst, hlast⟩ := RangeTable.contains_iff.mp hblank
  have hletter := hapart blanks hblanks
  rw [folded, if_neg (hother _ (by decide)), if_neg (hother _ (by decide))]
  unfold Char.toLower
  split
  · next hupper =>
    have hat : 65 ≤ c.toNat := hupper.1
    have hto : c.toNat ≤ 90 := hupper.2
    omega
  · rfl

section Keyword

variable {keyword : List Char} {named : FloatingMode}

theorem visible_of_map_folded (hnamed : keyword.map folded = named.name.toList) :
    ∀ c ∈ keyword, isBlank c = false := by
  have hnone : named.name.toList.any isBlank = false := by cases named <;> decide
  intro c hc
  have hletter : folded c ∈ named.name.toList := hnamed ▸ List.mem_map_of_mem hc
  by_contra hblank
  rw [Bool.not_eq_false] at hblank
  rw [folded_of_isBlank hblank] at hletter
  exact List.any_eq_false.mp hnone c hletter hblank

/-- A long s stays what it is in lower case, and no mode is named with one. -/
theorem named?_of_mem_long (hlong : '\u017F' ∈ keyword) :
    FloatingMode.named? (lowercaseAscii keyword) = none := by
  have hall : ∀ mode ∈ FloatingMode.all, '\u017F' ∉ mode.name.toList := by decide
  have hmem : '\u017F' ∈ lowercaseAscii keyword := List.mem_map_of_mem (f := Char.toLower) hlong
  rw [FloatingMode.named?, List.find?_eq_none]
  intro mode hmode hsame
  exact hall mode hmode (beq_iff_eq.mp hsame ▸ hmem)

/-- Any other letter of a mode is in lower case what it is folded to. -/
theorem lowercaseAscii_of_notMem_long (hnamed : keyword.map folded = named.name.toList)
    (hlong : '\u017F' ∉ keyword) : lowercaseAscii keyword = named.name.toList := by
  rw [← hnamed, lowercaseAscii]
  refine List.map_congr_left fun c hc => ?_
  have hkelvin : c ≠ '\u212A' := by
    rintro rfl
    have hk : 'k' ∈ named.name.toList := hnamed ▸ List.mem_map_of_mem (f := folded) hc
    revert hk
    cases named <;> decide
  have hshort : c ≠ '\u017F' := fun hsame => hlong (hsame ▸ hc)
  rw [folded, if_neg hkelvin, if_neg hshort]

/-- Of a keyword, the mode is kept that it names, if it is not written with a long s. -/
theorem isMode_floatingMode (hnamed : keyword.map folded = named.name.toList) :
    IsMode keyword (Speech.floatingMode (Parameter.text (some keyword))) := by
  have hnonempty : keyword ≠ [] := by
    rintro rfl
    cases named <;> cases hnamed
  have htext : Parameter.text (some keyword) = keyword := by
    rw [Parameter.text, Parameter.visible?_some hnonempty (visible_of_map_folded hnamed),
      Option.getD_some]
  refine ⟨named, hnamed, ?_⟩
  rw [htext, Speech.floatingMode]
  split_ifs with hlong
  · rw [named?_of_mem_long hlong]
    rfl
  · rw [lowercaseAscii_of_notMem_long hnamed hlong]
    cases named <;> rfl

end Keyword

/-- The placement that the parameters of floating text make. -/
def placementOf (left : Int32) (y mode duration : List Char) : FloatingPlacement where
  x := left
  y := Parameter.toInt32 (some y)
  mode := Speech.floatingMode (Parameter.text (some mode))
  duration := Parameter.toUInt32 (some duration)

theorem isPlacement_placementOf {x y mode duration text : List Char} {trailing : Parameter}
    (hplaced : IsPlaced x y mode duration trailing text) (left : Int32) :
    IsPlacement left.toInt y mode duration (placementOf left y mode duration) := by
  obtain ⟨⟨named, hnamed⟩, hduration, _, _, ⟨_, hy, _⟩, _⟩ := hplaced
  exact ⟨rfl, Parameter.toInt_toInt32 hy, isMode_floatingMode hnamed,
    Parameter.toNat_toUInt32 hduration⟩

/-- Text of its own makes no difference to where floating text is placed. -/
theorem floating_after_floatingText (scene : Scene) (kind : UnitKind) (text : UnitText)
    (x y mode duration : List Char) (trailing : Parameter) :
    (Speech.after scene kind text (.floatingText x y mode duration trailing)).floating =
      some
        { text.floating.getD {} with
          placement := some (placementOf (Parameter.toInt32 (some x)) y mode duration)
          middle := false } := by
  simp only [Speech.after]
  split <;> rfl

/-- A directive with numbers is applied to every unit, and the unit after it holds them. -/
theorem exists_holds_of_numbered {directive : Directive} {text : List Char}
    (hnumbered : Numbered directive text) (scene : Scene) (unit : StoryUnit) :
    ∃ next, scene.apply unit directive = .ok (next, []) ∧ Holds unit next directive := by
  cases hnumbered with
  | wait _ hduration => exact ⟨_, rfl, .wait (Parameter.toNat_toUInt32 hduration) rfl⟩
  | fontSize _ hsize => exact ⟨_, rfl, .fontSize (Parameter.toNat_toUInt32 hsize) rfl⟩
  | zoomInstant _ hpoint hsize =>
    exact ⟨_, rfl, .zoomInstant (Parameter.toInt_toInt32 hpoint.1)
      (Parameter.toInt_toInt32 hpoint.2.1) (Parameter.toNat_toUInt32 hsize) rfl⟩
  | zoomMove _ hpoint hsize hduration =>
    exact ⟨_, rfl, .zoomMove (Parameter.toInt_toInt32 hpoint.1)
      (Parameter.toInt_toInt32 hpoint.2.1) (Parameter.toNat_toUInt32 hsize)
      (Parameter.toNat_toUInt32 hduration) rfl⟩
  | @floatingText mark x y mode duration placed trailing _ hplaced =>
    obtain ⟨_, _, _, _, ⟨hx, _⟩, _⟩ := id hplaced
    have hplacement := isPlacement_placementOf hplaced (Parameter.toInt32 (some x))
    rw [Parameter.toInt_toInt32 hx] at hplacement
    have hfloating := floating_after_floatingText scene unit.kind
    exact ⟨_, rfl, .floatingText hplacement (hfloating ..) rfl rfl⟩
  | middleText _ hplaced =>
    exact ⟨_, rfl, .middleText (isPlacement_placementOf hplaced 0) rfl rfl rfl⟩

/-- A label tells the branch that it counts as, and branch zero where it has no digits. -/
theorem toNat_branchOf {label : List Char} (hdigits : ∀ c ∈ label, isDecimalDigit c = true)
    (hshort : label.length ≤ 2) :
    ((Choice.branchOf label).toNat : Int) = counted (.unsigned 32) label := by
  rw [Choice.branchOf]
  rcases eq_or_ne label [] with rfl | hnonempty
  · decide
  · have hlength : (10 : Nat) ^ label.length ≤ 10 ^ 2 := Nat.pow_le_pow_right (by decide) hshort
    have hhigh : (IntRange.unsigned 32).high.toNat = 4294967295 := rfl
    have hwithin : magnitude 0 label ≤ (IntRange.unsigned 32).high.toNat := by
      have hless := magnitude_lt 0 label
      omega
    rw [getD_inRange?_eq_counted ⟨hnonempty, hdigits⟩ hasZero_unsigned hwithin, toNat_ofNat_counted]

theorem branch_of_ofLine? {scene : Scene} {line : List Char} {choice : Choice}
    (hline : Choice.ofLine? scene line = some choice) :
    ∃ shared label rest, line = labelWritten shared label ++ rest ∧
      (∀ c ∈ label, isDecimalDigit c = true) ∧
      (choice.branch.toNat : Int) = counted (.unsigned 32) label := by
  obtain ⟨⟨label, text⟩, hparts, rfl⟩ := Option.map_eq_some_iff.mp hline
  obtain ⟨⟨read, rest⟩, hread, hparts⟩ := Option.bind_eq_some_iff.mp hparts
  obtain ⟨_, _, hparts⟩ := Option.bind_eq_some_iff.mp hparts
  cases hparts
  obtain ⟨_, rfl, ⟨shared, rfl⟩, hdigits, hshort⟩ := optionLabel_reads hread
  exact ⟨shared, label, rest, rfl, hdigits, toNat_branchOf hdigits hshort⟩

/-- What is matched as a directive with numbers is written as such, can be applied to every unit,
and leaves what is kept of its numbers there; and an answer leads to the branch that its label
counts as. -/
theorem Scene.holds_of_match? (scene : Scene) :
    (∀ (kind : Kind) (text : List Char) (found : Match), kind ∈ Kind.numbered →
        kind.match? text = some found → Numbered found.directive found.consumed ∧
          ∀ unit, ∃ next, scene.apply unit found.directive = .ok (next, []) ∧
            Holds unit next found.directive) ∧
      ∀ (line : List Char) (choice : Choice), Choice.ofLine? scene line = some choice →
        ∃ shared label rest, line = labelWritten shared label ++ rest ∧
          (∀ c ∈ label, isDecimalDigit c = true) ∧
          (choice.branch.toNat : Int) = counted (.unsigned 32) label := by
  constructor
  · intro kind text found hkind hfound
    have hnumbered := numbered_of_match? hkind hfound
    exact ⟨hnumbered, exists_holds_of_numbered hnumbered scene⟩
  · exact fun line choice => branch_of_ofLine?

namespace Sample

/-- A directive with a number out of range, and one that is not in ASCII digits alone. -/
def farZoom : List Char := "#ZMC;Move;-5, 99999999999;5００;7".toList

theorem match?_farZoom :
    Kind.zoomMove.match? farZoom =
      some ⟨.zoomMove "-5".toList "99999999999".toList "5００".toList "7".toList, farZoom, []⟩ := by
  decide +kernel

/-- The number out of range is moved to its end, and the other one is lost. -/
theorem holds_of_match?_farZoom :
    Kind.zoomMove ∈ Kind.numbered ∧
      (∃ found, Kind.zoomMove.match? farZoom = some found ∧
        Numbered found.directive found.consumed ∧
        ∃ next, (Staging.scene {} context {}).apply {} found.directive = .ok (next, []) ∧
          Holds {} next found.directive ∧
          next.effect.screen = [.zoomMove (-5) 2147483647 0 7]) ∧
      Choice.ofLine? (Staging.scene {} context {}) "[ns2] Yes".toList = some ⟨2, "Yes"⟩ ∧
      ∃ shared label rest, "[ns2] Yes".toList = labelWritten shared label ++ rest ∧
        (∀ c ∈ label, isDecimalDigit c = true) ∧ 2 = counted (.unsigned 32) label := by
  obtain ⟨hdirectives, hanswers⟩ := (Staging.scene {} context {}).holds_of_match?
  obtain ⟨hnumbered, hkept⟩ := hdirectives .zoomMove farZoom _ (by decide) match?_farZoom
  obtain ⟨next, happly, hholds⟩ := hkept {}
  have hanswer : Choice.ofLine? (Staging.scene {} context {}) "[ns2] Yes".toList =
      some ⟨2, "Yes"⟩ := by decide +kernel
  refine ⟨by decide, ⟨_, match?_farZoom, hnumbered, next, happly, hholds, ?_⟩, hanswer,
    hanswers _ _ hanswer⟩
  cases happly
  decide +kernel

/-- The mode that is named by its keyword is not always kept. -/
theorem not_named_kept :
    ¬ ∀ (scene : Scene) (unit next : StoryUnit) (reports : List StagingError) (text : List Char)
        (found : Match) (x y mode duration : List Char) (trailing : Parameter)
        (named : FloatingMode),
      Kind.floatingText.match? text = some found →
      found.directive = .floatingText x y mode duration trailing →
      mode.map folded = named.name.toList →
      scene.apply unit found.directive = .ok (next, reports) →
      (next.text.floating.bind (·.placement)).map (·.mode) = some named := by
  intro hall
  have hmatch : Kind.floatingText.match? "#st;[10,20];ſmooth;30".toList =
      some
        { directive := .floatingText "10".toList "20".toList "ſmooth".toList "30".toList none
          consumed := "#st;[10,20];ſmooth;30".toList
          rest := [] } := by
    decide +kernel
  have hkept := hall (Staging.scene {} context {}) {} _ _ _ _ _ _ _ _ _ .smooth hmatch rfl
    (by decide) rfl
  exact absurd hkept (by decide +kernel)

end Sample
end VisualNovel
