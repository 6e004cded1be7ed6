/-
# Directives

The script of a row is a sequence of directives, each of one of twenty kinds. A directive keeps the
raw text of its parameters: what they mean is decided where the directive is applied, so that two
spellings of one number stay apart here. The stage has five slots, numbered from one.
-/

import VisualNovel.Script.Parameter

namespace VisualNovel.Script

/-- One of the five slots of the stage, counted from zero. -/
abbrev Slot := Fin 5

namespace Slot

/-- The number by which scripts and units call the slot, from one to five. -/
def position (slot : Slot) : UInt8 := UInt8.ofNat (slot.val + 1)

/-- The digit that stands for the slot in a script. -/
def digit (slot : Slot) : Char := Char.ofNat ('1'.toNat + slot.val)

/-- The slot that the character stands for, if it is a digit from one to five. -/
def ofDigit? : Char → Option Slot
  | '1' => some 0
  | '2' => some 1
  | '3' => some 2
  | '4' => some 3
  | '5' => some 4
  | _ => none

theorem ofDigit?_digit (slot : Slot) : ofDigit? slot.digit = some slot := by
  revert slot
  decide

end Slot

/-- The kinds of directives. -/
inductive Kind
  | title | nextEpisode | place | continued
  | narration
  | floatingText | middleText | clearText
  | wait | fontSize
  | hideAll | hideMenu | showMenu
  | zoomInstant | zoomMove | shakeBackground
  | video
  | characterEffect | character
  | option
  deriving DecidableEq, Repr

namespace Kind

/-- Every kind, in the order in which they are tried. -/
def all : List Kind :=
  [.title, .nextEpisode, .place, .continued, .narration, .floatingText, .middleText, .clearText,
   .wait, .fontSize, .hideAll, .hideMenu, .showMenu, .zoomInstant, .zoomMove, .shakeBackground,
   .video, .characterEffect, .character, .option]

/-- The name of the kind, which for most kinds is the keyword without its mark. -/
def name : Kind → String
  | title => "title"
  | nextEpisode => "nextepisode"
  | place => "place"
  | continued => "continued"
  | narration => "na"
  | floatingText => "st"
  | middleText => "stm"
  | clearText => "clearST"
  | wait => "wait"
  | fontSize => "fontsize"
  | hideAll => "all;hide"
  | hideMenu => "hidemenu"
  | showMenu => "showmenu"
  | zoomInstant => "zmc;instant"
  | zoomMove => "zmc;move"
  | shakeBackground => "bgshake"
  | video => "video"
  | characterEffect => "character-effect"
  | character => "character-slot"
  | option => "option"

theorem mem_all (kind : Kind) : kind ∈ all := by
  cases kind <;> decide

end Kind

/-- A directive with the raw text of its parameters. -/
inductive Directive
  /-- The row is a title card. -/
  | title
  /-- The row is the title card of the next episode. -/
  | nextEpisode
  /-- The row names a place. -/
  | place
  /-- The story is continued elsewhere. -/
  | continued
  /-- Narration without a portrait: the text alone, or a speaker and the text. -/
  | narration (first : List Char) (second : Parameter)
  /-- Text that floats at a point of the screen, in a mode of appearing and for a duration. -/
  | floatingText (x y mode duration : List Char) (trailing : Parameter)
  /-- Floating text on the middle line of the screen. -/
  | middleText (x y mode duration : List Char) (trailing : Parameter)
  /-- Floating text goes away. -/
  | clearText
  /-- Playback pauses. -/
  | wait (duration : List Char)
  /-- The runs of text so far take the given size. -/
  | fontSize (size : List Char)
  /-- Everything on stage is hidden. -/
  | hideAll
  /-- The menu is hidden. -/
  | hideMenu
  /-- The menu is shown. -/
  | showMenu
  /-- The view jumps to a point and size. -/
  | zoomInstant (x y size : List Char)
  /-- The view moves to a point and size. -/
  | zoomMove (x y size duration : List Char)
  /-- The background shakes. -/
  | shakeBackground
  /-- A video plays with a sound track. -/
  | video (picture sound : List Char)
  /-- The character in a slot shows an emotion, an action or a special effect. -/
  | characterEffect (slot : Slot) (effectKind name : List Char) (async : Parameter)
  /-- A character stands in a slot with a face, and may be the one who talks. -/
  | character (slot : Slot) (name face : List Char) (talk : Parameter)
  /-- A line of the choice that the player is given. -/
  | option (label payload : List Char)
  deriving DecidableEq, Repr

namespace Directive

/-- The kind of the directive. -/
def kind : Directive → Kind
  | title => .title
  | nextEpisode => .nextEpisode
  | place => .place
  | continued => .continued
  | narration .. => .narration
  | floatingText .. => .floatingText
  | middleText .. => .middleText
  | clearText => .clearText
  | wait .. => .wait
  | fontSize .. => .fontSize
  | hideAll => .hideAll
  | hideMenu => .hideMenu
  | showMenu => .showMenu
  | zoomInstant .. => .zoomInstant
  | zoomMove .. => .zoomMove
  | shakeBackground => .shakeBackground
  | video .. => .video
  | characterEffect .. => .characterEffect
  | character .. => .character
  | option .. => .option

/-- The parameters in the order in which they stand in the script. -/
def parameters : Directive → List Parameter
  | title | nextEpisode | place | continued | clearText | hideAll | hideMenu | showMenu
  | shakeBackground => []
  | narration first second => [some first, second]
  | floatingText x y mode duration trailing => [some x, some y, some mode, some duration, trailing]
  | middleText x y mode duration trailing => [some x, some y, some mode, some duration, trailing]
  | wait duration => [some duration]
  | fontSize size => [some size]
  | zoomInstant x y size => [some x, some y, some size]
  | zoomMove x y size duration => [some x, some y, some size, some duration]
  | video picture sound => [some picture, some sound]
  | characterEffect slot effectKind name async =>
    [some [slot.digit], some effectKind, some name, async]
  | character slot name face talk => [some [slot.digit], some name, some face, talk]
  | option label payload => [some label, some payload]

end Directive

end VisualNovel.Script
