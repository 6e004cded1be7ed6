/-
# The grammar of directives

Every kind of directive has a reader. Most start with a keyword after a number sign, in any letter
case; a character starts with the digit of its slot and an option with a bracket. Parameters are
separated by semicolons. Some kinds close at the next semicolon, which they take along, and leave
what follows to further directives; the others take the whole line and refuse a text that goes on
after a line break.

The main statement is that every reader consumes: what a directive leaves is an end of the text and
shorter than the text.
-/

import VisualNovel.Script.Directive
import VisualNovel.Text.Reader

namespace VisualNovel.Script

open Text Reader

namespace Grammar

/-- A character of a parameter, which any character but the separator is. -/
def isParameterChar (c : Char) : Bool := c != ';'

/-- A character of an effect's name. -/
def isEffectNameChar (c : Char) : Bool := c != ';' && c != ']'

/-- The end of a directive that leaves the rest of the line: a separator, which is taken along, or
the end of the text. -/
def closing : Reader Unit
  | [] => some ((), [])
  | ';' :: rest => some ((), rest)
  | _ :: _ => none

/-- The end of a directive that takes the whole line: the end of the text, or a separator and a
payload without a line break. -/
def payload : Reader Parameter
  | [] => some (none, [])
  | ';' :: rest => if '\n' ∈ rest then none else some (some rest, [])
  | _ :: _ => none

/-- A numeral without sign, in digits of any script. -/
def numeral : Reader (List Char) := many1 isDecimalDigit

/-- A numeral with an optional minus sign. -/
def signedNumeral : Reader (List Char) := do
  let negative ← literal? '-'
  let digits ← numeral
  return if negative then '-' :: digits else digits

/-- Two coordinates with a comma between them. -/
def point : Reader (List Char × List Char) := do
  let x ← signedNumeral
  literal ','
  let _ ← many isBlank
  let y ← signedNumeral
  return (x, y)

/-- The digit of a slot. -/
def slot : Reader Slot
  | c :: rest => (Slot.ofDigit? c).map (·, rest)
  | [] => none

/-- A further parameter after a separator, if there is one. -/
def furtherParameter : Reader Parameter
  | ';' :: rest => some (some (rest.takeWhile isParameterChar), rest.dropWhile isParameterChar)
  | text => some (none, text)

/-- The name of an effect. It may stand in brackets; an opening bracket with nothing in it is
itself the name. -/
def effectName : Reader (List Char) := fun text =>
  match text with
  | '[' :: inside =>
    match inside.takeWhile isEffectNameChar with
    | [] => some (['['], inside)
    | name => some (name, inside.dropWhile isEffectNameChar)
  | _ => many1 isEffectNameChar text

/-- The mark of an effect that does not hold up playback. It counts only as a parameter of its
own; otherwise nothing is taken. -/
def asyncMark : Reader Parameter := fun text =>
  match text with
  | ';' :: rest =>
    match stripFolded? "async".toList rest with
    | some [] => some (some rest, [])
    | some (';' :: after) => some (some (rest.take 5), ';' :: after)
    | _ => some (none, text)
  | _ => some (none, text)

/-- The parameters of floating text after its keyword. -/
def floating : Reader (List Char × List Char × List Char × List Char × Parameter) := do
  let (x, y) ← point
  literal ']'
  literal ';'
  let mode ← oneOf ["serial", "instant", "smooth"]
  literal ';'
  let duration ← numeral
  let trailing ← payload
  return (x, y, mode, duration, trailing)

/-- The label of an option: a bracket, an optional `n`, an `s`, at most two digits and a bracket. -/
def optionLabel : Reader (List Char) := do
  literal '['
  let _ ← literal? 'n'
  literal 's'
  let label ← many isDecimalDigit
  literal ']'
  if label.length ≤ 2 then return label else failure

/-- Everything up to the end of a text that has no line break. -/
def restOfLine : Reader (List Char) := fun text =>
  if '\n' ∈ text then none else some (text, [])

end Grammar

open Grammar

/-- The reader of a kind of directive. -/
def Kind.reader : Kind → Reader Directive
  | title => do
    keyword "#title"
    let _ ← payload
    return .title
  | nextEpisode => do
    keyword "#nextepisode"
    let _ ← payload
    return .nextEpisode
  | place => do
    keyword "#place"
    let _ ← payload
    return .place
  | continued => do
    keyword "#continued"
    closing
    return .continued
  | narration => do
    keyword "#na;"
    let first ← many isParameterChar
    let second ← furtherParameter
    let _ ← payload
    return .narration first second
  | floatingText => do
    keyword "#st;["
    let (x, y, mode, duration, trailing) ← floating
    return .floatingText x y mode duration trailing
  | middleText => do
    keyword "#stm;["
    let (x, y, mode, duration, trailing) ← floating
    return .middleText x y mode duration trailing
  | clearText => do
    keyword "#clearst"
    closing
    return .clearText
  | wait => do
    keyword "#wait;"
    let duration ← numeral
    closing
    return .wait duration
  | fontSize => do
    keyword "#fontsize;"
    let size ← numeral
    closing
    return .fontSize size
  | hideAll => do
    keyword "#all;hide"
    closing
    return .hideAll
  | hideMenu => do
    keyword "#hidemenu"
    closing
    return .hideMenu
  | showMenu => do
    keyword "#showmenu"
    closing
    return .showMenu
  | zoomInstant => do
    keyword "#zmc;instant;"
    let (x, y) ← point
    literal ';'
    let size ← numeral
    closing
    return .zoomInstant x y size
  | zoomMove => do
    keyword "#zmc;move;"
    let (x, y) ← point
    literal ';'
    let size ← numeral
    literal ';'
    let duration ← numeral
    closing
    return .zoomMove x y size duration
  | shakeBackground => do
    keyword "#bgshake"
    closing
    return .shakeBackground
  | video => do
    keyword "#video;"
    let picture ← many1 isParameterChar
    literal ';'
    let sound ← many1 isParameterChar
    closing
    return .video picture sound
  | characterEffect => do
    keyword "#"
    let slot ← Grammar.slot
    literal ';'
    let effectKind ← oneOf ["em", "a", "fx"]
    literal ';'
    let name ← effectName
    let _ ← literal? ']'
    let async ← asyncMark
    closing
    return .characterEffect slot effectKind name async
  | character => do
    let slot ← Grammar.slot
    literal ';'
    let name ← many1 isParameterChar
    literal ';'
    let face ← numeral
    let talk ← payload
    return .character slot name face talk
  | option => do
    let label ← optionLabel
    let text ← restOfLine
    return .option label text

namespace Grammar

theorem closing_advances : closing.Advances := by
  intro text v rest h
  unfold closing at h
  split at h <;> cases h
  · exact List.suffix_refl _
  · exact List.suffix_cons _ _

theorem payload_advances : payload.Advances := by
  intro text v rest h
  unfold payload at h
  split at h
  · cases h; exact List.suffix_refl _
  · split at h <;> cases h
    exact List.nil_suffix
  · simp at h

theorem restOfLine_advances : restOfLine.Advances := by
  intro text v rest h
  unfold restOfLine at h
  split at h <;> cases h
  exact List.nil_suffix

theorem slot_consumes : slot.Consumes := by
  intro text v rest h
  cases text with
  | nil => simp [slot] at h
  | cons c cs =>
    obtain ⟨s, _, heq⟩ := Option.map_eq_some_iff.mp h
    cases heq
    exact ⟨List.suffix_cons _ _, by simp⟩

theorem furtherParameter_advances : furtherParameter.Advances := by
  intro text v rest h
  unfold furtherParameter at h
  split at h <;> cases h
  · exact (List.dropWhile_suffix _).trans (List.suffix_cons _ _)
  · exact List.suffix_refl _

theorem effectName_advances : effectName.Advances := by
  intro text v rest h
  unfold effectName at h
  split at h
  · split at h <;> cases h
    · exact List.suffix_cons _ _
    · exact (List.dropWhile_suffix _).trans (List.suffix_cons _ _)
  · exact many1_advances _ h

theorem asyncMark_advances : asyncMark.Advances := by
  intro text v rest h
  unfold asyncMark at h
  split at h
  · split at h <;> cases h
    · exact List.nil_suffix
    · rename_i hstrip
      exact (stripFolded?_suffix hstrip).trans (List.suffix_cons _ _)
    · exact List.suffix_refl _
  · cases h; exact List.suffix_refl _

theorem literal_advances (c : Char) : (literal c).Advances := (literal_consumes c).advances

theorem numeral_advances : numeral.Advances := many1_advances _

theorem signedNumeral_advances : signedNumeral.Advances :=
  (literal?_advances _).bind fun _ => numeral_advances.bind fun _ => advances_pure _

theorem point_advances : point.Advances :=
  signedNumeral_advances.bind fun _ => (literal_advances _).bind fun _ =>
    (many_advances _).bind fun _ => signedNumeral_advances.bind fun _ => advances_pure _

theorem floating_advances : floating.Advances :=
  point_advances.bind fun _ => (literal_advances _).bind fun _ => (literal_advances _).bind fun _ =>
    (oneOf_advances _).bind fun _ => (literal_advances _).bind fun _ =>
      numeral_advances.bind fun _ => payload_advances.bind fun _ => advances_pure _

theorem optionLabel_consumes : optionLabel.Consumes :=
  (literal_consumes _).bind fun _ => (literal?_advances _).bind fun _ =>
    (literal_advances _).bind fun _ => (many_advances _).bind fun label =>
      (literal_advances _).bind fun _ => by
        intro text v rest h
        by_cases hlabel : label.length ≤ 2
        · simp only [hlabel, if_true] at h
          exact advances_pure label h
        · simp only [hlabel, if_false] at h
          cases h

end Grammar

/-- Every directive takes at least one character and leaves an end of the text. -/
theorem Kind.reader_consumes (kind : Kind) : kind.reader.Consumes := by
  cases kind with
  | title | nextEpisode | place =>
    exact (keyword_consumes (by decide)).bind fun _ => payload_advances.bind fun _ =>
      advances_pure _
  | continued | clearText | hideAll | hideMenu | showMenu | shakeBackground =>
    exact (keyword_consumes (by decide)).bind fun _ => closing_advances.bind fun _ =>
      advances_pure _
  | narration =>
    exact (keyword_consumes (by decide)).bind fun _ => (many_advances _).bind fun _ =>
      furtherParameter_advances.bind fun _ => payload_advances.bind fun _ => advances_pure _
  | floatingText | middleText =>
    exact (keyword_consumes (by decide)).bind fun _ => floating_advances.bind fun _ =>
      advances_pure _
  | wait | fontSize =>
    exact (keyword_consumes (by decide)).bind fun _ => numeral_advances.bind fun _ =>
      closing_advances.bind fun _ => advances_pure _
  | zoomInstant =>
    exact (keyword_consumes (by decide)).bind fun _ => point_advances.bind fun _ =>
      (literal_advances _).bind fun _ => numeral_advances.bind fun _ =>
        closing_advances.bind fun _ => advances_pure _
  | zoomMove =>
    exact (keyword_consumes (by decide)).bind fun _ => point_advances.bind fun _ =>
      (literal_advances _).bind fun _ => numeral_advances.bind fun _ =>
        (literal_advances _).bind fun _ => numeral_advances.bind fun _ =>
          closing_advances.bind fun _ => advances_pure _
  | video =>
    exact (keyword_consumes (by decide)).bind fun _ => (many1_advances _).bind fun _ =>
      (literal_advances _).bind fun _ => (many1_advances _).bind fun _ =>
        closing_advances.bind fun _ => advances_pure _
  | characterEffect =>
    exact (keyword_consumes (by decide)).bind fun _ => slot_consumes.advances.bind fun _ =>
      (literal_advances _).bind fun _ => (oneOf_advances _).bind fun _ =>
        (literal_advances _).bind fun _ => effectName_advances.bind fun _ =>
          (literal?_advances _).bind fun _ => asyncMark_advances.bind fun _ =>
            closing_advances.bind fun _ => advances_pure _
  | character =>
    exact slot_consumes.bind fun _ => (literal_advances _).bind fun _ =>
      (many1_advances _).bind fun _ => (literal_advances _).bind fun _ =>
        numeral_advances.bind fun _ => payload_advances.bind fun _ => advances_pure _
  | option =>
    exact optionLabel_consumes.bind fun _ => restOfLine_advances.bind fun _ => advances_pure _

end VisualNovel.Script
