/-
# Writing directives and reading them back

A line of a script is written by joining directives with semicolons. Most kinds of directives leave
the rest of the line to further ones; a directive that takes the whole line may only be the last.
The syntax of both sorts is stated here on its own, as the ways in which a directive may be written,
and reading a line that is written in this way gives its directives back, every parameter as it was
written, and leaves nothing.

A keyword is written in any letter case. An effect's name may stand in brackets. Parameters that are
followed by others hold no semicolon, the last parameter of a line may hold any number of them.
-/

import VisualNovel.Proofs.Decimal
import VisualNovel.Proofs.Script.Exclusion
import VisualNovel.Proofs.Script.Lines

namespace VisualNovel.Script

open Text Reader Grammar

/-- A numeral in ASCII digits. -/
structure IsNumeral (text : List Char) : Prop where
  nonempty : text ≠ []
  digits : ∀ c ∈ text, isAsciiDigit c = true

instance (text : List Char) : Decidable (IsNumeral text) :=
  decidable_of_iff (text ≠ [] ∧ text.all isAsciiDigit = true)
    ⟨fun h => ⟨h.1, List.all_eq_true.mp h.2⟩, fun h => ⟨h.nonempty, List.all_eq_true.mpr h.digits⟩⟩

/-- A numeral in ASCII digits, with or without a minus sign. -/
inductive IsSignedNumeral : List Char → Prop
  | positive {digits : List Char} (hdigits : IsNumeral digits) : IsSignedNumeral digits
  | negative {digits : List Char} (hdigits : IsNumeral digits) : IsSignedNumeral ('-' :: digits)

/-- A parameter that further ones may follow. -/
structure IsParameter (text : List Char) : Prop where
  nonempty : text ≠ []
  noSeparator : ';' ∉ text

/-- The name of an effect, without its brackets. -/
structure IsEffectName (text : List Char) : Prop extends IsParameter text where
  noOpening : '[' ∉ text
  noClosing : ']' ∉ text

/-- A parameter that may be missing, with the separator in front of it. -/
def Parameter.written : Parameter → List Char
  | none => []
  | some text => ';' :: text

/-- Nothing in the parameter ends the line. -/
def Parameter.OneLine (parameter : Parameter) : Prop := ∀ text ∈ parameter, '\n' ∉ text

/-- Two coordinates as they are written. -/
def pointWritten (x y : List Char) : List Char := x ++ ',' :: y

/-- The text writes the directive, which leaves the rest of the line to further ones. -/
inductive WrittenChained : Directive → List Char → Prop
  | continued {mark : List Char} (hmark : Spells "#continued" mark) : WrittenChained .continued mark
  | clearText {mark : List Char} (hmark : Spells "#clearst" mark) : WrittenChained .clearText mark
  | wait {mark duration : List Char} (hmark : Spells "#wait;" mark)
      (hduration : IsNumeral duration) : WrittenChained (.wait duration) (mark ++ duration)
  | fontSize {mark size : List Char} (hmark : Spells "#fontsize;" mark) (hsize : IsNumeral size) :
      WrittenChained (.fontSize size) (mark ++ size)
  | hideAll {mark : List Char} (hmark : Spells "#all;hide" mark) : WrittenChained .hideAll mark
  | hideMenu {mark : List Char} (hmark : Spells "#hidemenu" mark) : WrittenChained .hideMenu mark
  | showMenu {mark : List Char} (hmark : Spells "#showmenu" mark) : WrittenChained .showMenu mark
  | zoomInstant {mark x y size : List Char} (hmark : Spells "#zmc;instant;" mark)
      (hx : IsSignedNumeral x) (hy : IsSignedNumeral y) (hsize : IsNumeral size) :
      WrittenChained (.zoomInstant x y size) (mark ++ (pointWritten x y ++ ';' :: size))
  | zoomMove {mark x y size duration : List Char} (hmark : Spells "#zmc;move;" mark)
      (hx : IsSignedNumeral x) (hy : IsSignedNumeral y) (hsize : IsNumeral size)
      (hduration : IsNumeral duration) :
      WrittenChained (.zoomMove x y size duration)
        (mark ++ (pointWritten x y ++ ';' :: (size ++ ';' :: duration)))
  | shakeBackground {mark : List Char} (hmark : Spells "#bgshake" mark) :
      WrittenChained .shakeBackground mark
  | video {mark picture sound : List Char} (hmark : Spells "#video;" mark)
      (hpicture : IsParameter picture) (hsound : IsParameter sound) :
      WrittenChained (.video picture sound) (mark ++ (picture ++ ';' :: sound))
  | characterEffect {slot : Slot} {word : String} {kind name : List Char} {bracketed : Bool}
      {async : Parameter} (hword : word ∈ ["em", "a", "fx"]) (hkind : Spells word kind)
      (hname : IsEffectName name) (hasync : ∀ mark ∈ async, Spells "async" mark) :
      WrittenChained (.characterEffect slot kind name async)
        ('#' :: slot.digit :: ';' :: (kind ++ ';' ::
          ((if bracketed then '[' :: name ++ [']'] else name) ++ async.written)))

/-- The parameters of floating text. -/
structure IsFloating (x y mode duration : List Char) (trailing : Parameter) : Prop where
  x : IsSignedNumeral x
  y : IsSignedNumeral y
  mode : ∃ word ∈ ["serial", "instant", "smooth"], Spells word mode
  duration : IsNumeral duration
  trailing : trailing.OneLine

/-- The parameters of floating text as they are written behind the opening bracket. -/
def floatingWritten (x y mode duration : List Char) (trailing : Parameter) : List Char :=
  pointWritten x y ++ (']' :: ';' :: (mode ++ ';' :: (duration ++ trailing.written)))

/-- The label of an option, with or without the mark of one that several branches share. -/
def labelWritten (shared : Bool) (label : List Char) : List Char :=
  '[' :: ((if shared then ['n'] else []) ++ 's' :: (label ++ [']']))

/-- The text writes the directive, which takes the rest of the line. -/
inductive WrittenLast : Directive → List Char → Prop
  | title {mark : List Char} {payload : Parameter} (hmark : Spells "#title" mark)
      (hpayload : payload.OneLine) : WrittenLast .title (mark ++ payload.written)
  | nextEpisode {mark : List Char} {payload : Parameter} (hmark : Spells "#nextepisode" mark)
      (hpayload : payload.OneLine) : WrittenLast .nextEpisode (mark ++ payload.written)
  | place {mark : List Char} {payload : Parameter} (hmark : Spells "#place" mark)
      (hpayload : payload.OneLine) : WrittenLast .place (mark ++ payload.written)
  | narration {mark first : List Char} {second : Parameter} (hmark : Spells "#na;" mark)
      (hfirst : IsParameter first) (hsecond : ∀ text ∈ second, IsParameter text) :
      WrittenLast (.narration first second) (mark ++ (first ++ second.written))
  | floatingText {mark x y mode duration : List Char} {trailing : Parameter}
      (hmark : Spells "#st;[" mark) (hfloating : IsFloating x y mode duration trailing) :
      WrittenLast (.floatingText x y mode duration trailing)
        (mark ++ floatingWritten x y mode duration trailing)
  | middleText {mark x y mode duration : List Char} {trailing : Parameter}
      (hmark : Spells "#stm;[" mark) (hfloating : IsFloating x y mode duration trailing) :
      WrittenLast (.middleText x y mode duration trailing)
        (mark ++ floatingWritten x y mode duration trailing)
  | character {slot : Slot} {name face : List Char} {talk : Parameter} (hname : IsParameter name)
      (hface : IsNumeral face) (htalk : talk.OneLine) :
      WrittenLast (.character slot name face talk)
        (slot.digit :: ';' :: (name ++ ';' :: (face ++ talk.written)))
  | option {label payload : List Char} {shared : Bool}
      (hdigits : ∀ c ∈ label, isAsciiDigit c = true) (hlabel : label.length ≤ 2)
      (hpayload : '\n' ∉ payload) :
      WrittenLast (.option label payload)
        (labelWritten shared label ++ payload)

/-- The text begins in one of the ways in which directives begin. -/
def Begins (text : List Char) : Prop := ∃ c ∈ "#[12345".toList, ∃ rest, text = c :: rest

/-- What stands behind a directive that leaves the rest of the line: nothing, or a separator and
another directive. -/
inductive Ends : List Char → List Char → Prop
  | last : Ends [] []
  | next {rest : List Char} (hbegins : Begins rest) : Ends [';'] rest

variable {ending rest : List Char}

/-- The character at the front has every property that those have with which directives begin. -/
theorem Begins.exists_cons {text : List Char} (hbegins : Begins text) {property : Char → Prop}
    [DecidablePred property] (hopenings : "#[12345".toList.all (property ·) = true) :
    ∃ c rest, text = c :: rest ∧ property c := by
  obtain ⟨c, hc, rest, htext⟩ := hbegins
  exact ⟨c, rest, htext, of_decide_eq_true (List.all_eq_true.mp hopenings c hc)⟩

/-- The text has ended or goes on with a separator. -/
def Separated (text : List Char) : Prop := ∀ c ∈ text.head?, c = ';'

/-- A separator ends every run of characters to which it does not belong. -/
theorem Separated.stops {text : List Char} (hseparated : Separated text) {property : Char → Bool}
    (hseparator : property ';' = false) : Stops property text := by
  intro c hc
  rw [hseparated c hc, hseparator]

theorem separated_nil : Separated [] := by simp [Separated]

theorem Ends.separated (hends : Ends ending rest) : Separated (ending ++ rest) := by
  cases hends <;> simp [Separated]

theorem separated_written {parameter : Parameter} (hrest : Separated rest) :
    Separated (parameter.written ++ rest) := by
  cases parameter with
  | none => exact hrest
  | some text => simp [Separated, Parameter.written]

theorem closing_takes (hends : Ends ending rest) : closing.Takes ending () rest := by
  cases hends <;> rfl

/-- Where a numeral stands, no run of characters begins that takes no digits. -/
theorem IsNumeral.stops {digits : List Char} (hdigits : IsNumeral digits)
    {property : Char → Bool} (hproperty : ∀ c, isAsciiDigit c = true → property c = false) :
    Stops property (digits ++ rest) := by
  cases digits with
  | nil => exact absurd rfl hdigits.nonempty
  | cons c cs => exact stops_cons (hproperty c (hdigits.digits c List.mem_cons_self))

theorem IsSignedNumeral.stops_isBlank {written : List Char} (hwritten : IsSignedNumeral written) :
    Stops isBlank (written ++ rest) := by
  cases hwritten with
  | positive hdigits => exact hdigits.stops fun _ hdigit =>
      isBlank_of_isDecimalDigit (isDecimalDigit_of_isAsciiDigit hdigit)
  | negative hdigits => exact stops_cons (by decide)

theorem numeral_takes {digits : List Char} (hdigits : IsNumeral digits)
    (hstops : Stops isDecimalDigit rest) : numeral.Takes digits digits rest :=
  many1_takes hdigits.nonempty
    (fun c hc => isDecimalDigit_of_isAsciiDigit (hdigits.digits c hc)) hstops

theorem signedNumeral_takes {written : List Char} (hwritten : IsSignedNumeral written)
    (hstops : Stops isDecimalDigit rest) : signedNumeral.Takes written written rest := by
  cases hwritten with
  | positive hdigits =>
    have hsign : Stops (· == '-') (written ++ rest) := by
      apply hdigits.stops
      intro c hc
      rw [beq_eq_false_iff_ne]
      rintro rfl
      exact absurd hc (by decide)
    exact (literal?_takes_nil hsign).bind ((numeral_takes hdigits hstops).bind_pure _)
  | negative hdigits =>
    exact (literal?_takes '-' _).bind ((numeral_takes hdigits hstops).bind_pure _)

theorem point_takes {x y : List Char} (hx : IsSignedNumeral x) (hy : IsSignedNumeral y)
    (hstops : Stops isDecimalDigit rest) : point.Takes (pointWritten x y) (x, y) rest := by
  have htail := (signedNumeral_takes hy hstops).bind_pure fun y => (x, y)
  exact (signedNumeral_takes hx (stops_cons (by decide))).bind
    ((literal_takes ',' _).bind ((many_takes_nil hy.stops_isBlank).bind htail))

theorem IsParameter.isParameterChar {text : List Char} (htext : IsParameter text) :
    ∀ c ∈ text, Grammar.isParameterChar c = true := by
  intro c hc
  rw [Grammar.isParameterChar, bne_iff_ne]
  rintro rfl
  exact htext.noSeparator hc

theorem parameter_takes {text : List Char} (htext : IsParameter text)
    (hstops : Stops isParameterChar rest) : (many1 isParameterChar).Takes text text rest :=
  many1_takes htext.nonempty htext.isParameterChar hstops

theorem payload_takes {parameter : Parameter} (hline : parameter.OneLine) :
    payload.Takes parameter.written parameter [] := by
  cases parameter with
  | none => rfl
  | some text =>
    unfold Takes
    rw [List.append_nil]
    exact if_neg (hline text rfl)

theorem slot_takes (place : Slot) (rest : List Char) : slot.Takes [place.digit] place rest := by
  unfold Takes
  simp only [List.singleton_append, slot, Slot.ofDigit?_digit, Option.map_some]

/-- A parameter in front of a separator, or at the end. -/
theorem furtherParameter_takes {parameter : Parameter}
    (hparameter : ∀ text ∈ parameter, IsParameter text) :
    furtherParameter.Takes parameter.written parameter [] := by
  cases parameter with
  | none => rfl
  | some text =>
    have hchars := (hparameter text rfl).isParameterChar
    unfold Takes
    simp only [Parameter.written, List.cons_append, furtherParameter,
      takeWhile_of_stops hchars (stops_nil _), dropWhile_of_stops hchars (stops_nil _)]

/-- The name of an effect is taken with or without its brackets. -/
theorem effectName_takes {β : Type} {next : List Char → Reader β} {name behind : List Char}
    {result : β} (hname : IsEffectName name) (bracketed : Bool)
    (hbehind : Separated (behind ++ rest)) (hnext : (next name).Takes behind result rest) :
    (effectName >>= fun name => literal? ']' >>= fun _ => next name).Takes
      ((if bracketed then '[' :: name ++ [']'] else name) ++ behind) result rest := by
  have hchars : ∀ c ∈ name, isEffectNameChar c = true := by
    intro c hc
    simp only [isEffectNameChar, Bool.and_eq_true, bne_iff_ne]
    constructor
    · rintro rfl
      exact hname.noSeparator hc
    · rintro rfl
      exact hname.noClosing hc
  have hbrackets : Stops (· == ']') (behind ++ rest) := hbehind.stops (by decide)
  cases bracketed with
  | false =>
    have hplain : effectName.Takes name name (behind ++ rest) := by
      have hrun := many1_takes hname.nonempty hchars (hbehind.stops (by decide))
      have hopening := hname.noOpening
      unfold Takes effectName
      split
      · rename_i heq
        cases name with
        | nil => exact absurd rfl hname.nonempty
        | cons c cs =>
          cases heq
          exact absurd List.mem_cons_self hopening
      · exact hrun
    exact hplain.bind ((literal?_takes_nil hbrackets).bind hnext)
  | true =>
    have hinside : effectName.Takes ('[' :: name) name (']' :: (behind ++ rest)) := by
      have hstops : Stops isEffectNameChar (']' :: (behind ++ rest)) := stops_cons (by decide)
      unfold Takes effectName
      simp only [List.cons_append, takeWhile_of_stops hchars hstops,
        dropWhile_of_stops hchars hstops]
      cases name with
      | nil => exact absurd rfl hname.nonempty
      | cons c cs => rfl
    have hclosed : (literal? ']' >>= fun _ => next name).Takes ([']'] ++ behind) result rest :=
      (literal?_takes ']' _).bind hnext
    rw [if_pos rfl, List.append_assoc]
    exact hinside.bind hclosed

/-- What stands behind an effect is no mark of another one. -/
theorem asyncMark_takes {async : Parameter} (hasync : ∀ mark ∈ async, Spells "async" mark)
    (hends : Ends ending rest) : asyncMark.Takes async.written async (ending ++ rest) := by
  unfold Takes
  cases async with
  | none =>
    cases hends with
    | last => rfl
    | next hbegins =>
      have hother : stripFolded? "async".toList rest = none := by
        have hletters : "#[12345".toList.all (¬ foldsTo 'a' · = true) = true := by decide
        obtain ⟨c, behind, rfl, hletter⟩ := hbegins.exists_cons hletters
        exact if_neg hletter
      simp only [Parameter.written, List.nil_append, List.singleton_append, asyncMark, hother]
  | some mark =>
    have hmark := hasync mark rfl
    have hlength : mark.length = 5 := by
      rw [← List.length_map (f := Char.toLower), hmark]
      rfl
    simp only [Parameter.written, List.cons_append, asyncMark, stripFolded?_of_spells hmark]
    cases hends with
    | last => simp
    | next => simp [← hlength]

theorem floating_takes {x y mode duration : List Char} {trailing : Parameter}
    (hfloating : IsFloating x y mode duration trailing) :
    floating.Takes (floatingWritten x y mode duration trailing) (x, y, mode, duration, trailing)
      [] := by
  obtain ⟨word, hword, hmode⟩ := hfloating.mode
  have hdigit : Stops isDecimalDigit (trailing.written ++ []) :=
    (separated_written separated_nil).stops (by decide)
  exact (point_takes hfloating.x hfloating.y (stops_cons (by decide))).bind
    ((literal_takes ']' _).bind ((literal_takes ';' _).bind
      ((oneOf_takes hword (by decide) (by decide) hmode _).bind ((literal_takes ';' _).bind
        ((numeral_takes hfloating.duration hdigit).bind
          ((payload_takes hfloating.trailing).bind_pure _))))))

/-- The label of an option is taken up to its closing bracket. -/
theorem optionLabel_takes {label : List Char} (hdigits : ∀ c ∈ label, isAsciiDigit c = true)
    (hlabel : label.length ≤ 2) (shared : Bool) (rest : List Char) :
    optionLabel.Takes (labelWritten shared label) label rest := by
  have hmark : (literal? 'n').Takes (if shared then ['n'] else []) shared
      ('s' :: (label ++ [']']) ++ rest) := by
    cases shared with
    | false => exact literal?_takes_nil (stops_cons (by decide))
    | true => exact literal?_takes 'n' _
  have hrun : (many isDecimalDigit).Takes label label ([']'] ++ rest) :=
    many_takes (fun c hc => isDecimalDigit_of_isAsciiDigit (hdigits c hc)) (stops_cons (by decide))
  have hend : (if label.length ≤ 2 then pure label else failure : Reader (List Char)).Takes [] label
      rest := by
    rw [if_pos hlabel]
    exact takes_pure label rest
  exact (literal_takes '[' _).bind (hmark.bind ((literal_takes 's' _).bind (hrun.bind
    ((literal_takes ']' _).bind hend))))

theorem restOfLine_takes {text : List Char} (hline : '\n' ∉ text) :
    restOfLine.Takes text text [] := by
  unfold Takes
  rw [List.append_nil]
  exact if_neg hline

/-- The reader of a directive that leaves the rest of the line takes what is written of it, with the
separator behind it. -/
theorem WrittenChained.takes {directive : Directive} {text : List Char}
    (hwritten : WrittenChained directive text) (hends : Ends ending rest) :
    directive.kind.reader.Takes (text ++ ending) directive rest := by
  have hclosing := closing_takes hends
  have hdigit : Stops isDecimalDigit (ending ++ rest) := hends.separated.stops (by decide)
  have hparameter : Stops isParameterChar (ending ++ rest) := hends.separated.stops (by decide)
  cases hwritten with
  | continued hmark | clearText hmark | hideAll hmark | hideMenu hmark | showMenu hmark
  | shakeBackground hmark =>
    exact (keyword_takes hmark _).bind (hclosing.bind_pure _)
  | wait hmark hnumeral | fontSize hmark hnumeral =>
    rw [List.append_assoc]
    exact (keyword_takes hmark _).bind
      ((numeral_takes hnumeral hdigit).bind (hclosing.bind_pure _))
  | zoomInstant hmark hx hy hsize =>
    rw [List.append_assoc, List.append_assoc]
    exact (keyword_takes hmark _).bind ((point_takes hx hy (stops_cons (by decide))).bind
      ((literal_takes ';' _).bind ((numeral_takes hsize hdigit).bind (hclosing.bind_pure _))))
  | zoomMove hmark hx hy hsize hduration =>
    rw [List.append_assoc, List.append_assoc, List.cons_append, List.append_assoc]
    exact (keyword_takes hmark _).bind ((point_takes hx hy (stops_cons (by decide))).bind
      ((literal_takes ';' _).bind ((numeral_takes hsize (stops_cons (by decide))).bind
        ((literal_takes ';' _).bind ((numeral_takes hduration hdigit).bind
          (hclosing.bind_pure _))))))
  | video hmark hpicture hsound =>
    rw [List.append_assoc, List.append_assoc]
    exact (keyword_takes hmark _).bind ((parameter_takes hpicture (stops_cons (by decide))).bind
      ((literal_takes ';' _).bind ((parameter_takes hsound hparameter).bind
        (hclosing.bind_pure _))))
  | @characterEffect place word kind name bracketed async hword hkind hname hasync =>
    have hmark : Spells "#" ['#'] := by decide
    have hkinds := oneOf_takes hword (by decide) (by decide) hkind
    have hseparated : Separated (async.written ++ ending ++ rest) := by
      rw [List.append_assoc]
      exact separated_written hends.separated
    simp only [List.cons_append, List.append_assoc]
    exact (keyword_takes hmark _).bind ((slot_takes place _).bind ((literal_takes ';' _).bind
      ((hkinds _).bind ((literal_takes ';' _).bind (effectName_takes hname bracketed hseparated
        ((asyncMark_takes hasync hends).bind (hclosing.bind_pure _)))))))

/-- The reader of a directive that takes the rest of the line takes what is written of it. -/
theorem WrittenLast.takes {directive : Directive} {text : List Char}
    (hwritten : WrittenLast directive text) : directive.kind.reader.Takes text directive [] := by
  cases hwritten with
  | title hmark hpayload | nextEpisode hmark hpayload | place hmark hpayload =>
    exact (keyword_takes hmark _).bind ((payload_takes hpayload).bind_pure _)
  | @narration _ _ second hmark hfirst hsecond =>
    have hstops : Stops isParameterChar (second.written ++ [] ++ []) := by
      rw [List.append_nil]
      exact (separated_written separated_nil).stops (by decide)
    have hnothing : payload.Takes [] none [] := rfl
    have hend := (furtherParameter_takes hsecond)
    rw [← List.append_nil second.written]
    exact (keyword_takes hmark _).bind ((many_takes hfirst.isParameterChar hstops).bind
      (hend.bind (hnothing.bind_pure _)))
  | floatingText hmark hfloating | middleText hmark hfloating =>
    exact (keyword_takes hmark _).bind ((floating_takes hfloating).bind_pure _)
  | @character _ _ _ talk hname hface htalk =>
    have hdigit : Stops isDecimalDigit (talk.written ++ []) :=
      (separated_written separated_nil).stops (by decide)
    exact (slot_takes _ _).bind ((literal_takes ';' _).bind
      ((parameter_takes hname (stops_cons (by decide))).bind ((literal_takes ';' _).bind
        ((numeral_takes hface hdigit).bind ((payload_takes htalk).bind_pure _)))))
  | option hdigits hlabel hpayload =>
    exact (optionLabel_takes hdigits hlabel _ _).bind ((restOfLine_takes hpayload).bind_pure _)

/-- A directive that is taken from the front of a text is the first of the text. -/
theorem match?_of_takes {directive : Directive} {text : List Char}
    (htakes : directive.kind.reader.Takes text directive rest) :
    match? (text ++ rest) = some ⟨directive, text, rest⟩ := by
  apply match?_of_kind
  rw [Kind.match?, show directive.kind.reader (text ++ rest) = some (directive, rest) from htakes]
  simp

theorem begins_of_spells {word : String} {mark rest : List Char} (hmark : Spells word mark)
    (hword : word.toList.head? = some '#') : Begins (mark ++ rest) := by
  cases mark with
  | nil =>
    rw [← hmark] at hword
    cases hword
  | cons c cs =>
    rw [← hmark] at hword
    have hc : c = '#' := eq_of_toLower_eq (Option.some.inj hword) rfl
    exact ⟨c, by simp [hc], cs ++ rest, rfl⟩

theorem begins_of_digit (place : Slot) (rest : List Char) : Begins (place.digit :: rest) := by
  refine ⟨place.digit, ?_, rest, rfl⟩
  revert place
  decide

theorem WrittenChained.begins {directive : Directive} {text : List Char}
    (hwritten : WrittenChained directive text) (rest : List Char) : Begins (text ++ rest) := by
  cases hwritten with
  | characterEffect => exact ⟨'#', by decide, _, rfl⟩
  | continued hmark | clearText hmark | hideAll hmark | hideMenu hmark | showMenu hmark
  | shakeBackground hmark => exact begins_of_spells hmark rfl
  | wait hmark | fontSize hmark | zoomInstant hmark | zoomMove hmark | video hmark =>
    rw [List.append_assoc]
    exact begins_of_spells hmark rfl

theorem WrittenLast.begins {directive : Directive} {text : List Char}
    (hwritten : WrittenLast directive text) : Begins text := by
  cases hwritten with
  | character => exact begins_of_digit _ _
  | option => exact ⟨'[', by decide, _, rfl⟩
  | title hmark | nextEpisode hmark | place hmark | narration hmark | floatingText hmark
  | middleText hmark => exact begins_of_spells hmark rfl

/-- No separators stand in front of a directive. -/
theorem Begins.skipSeparators_eq {text : List Char} (hbegins : Begins text) :
    skipSeparators text = text := by
  have hopenings : "#[12345".toList.all (fun c => ¬ (c == ';' || isBlank c) = true) = true := by
    decide
  obtain ⟨c, rest, rfl, hsolid⟩ := hbegins.exists_cons hopenings
  exact List.dropWhile_cons_of_neg hsolid

/-- The directives of a line, joined by separators. -/
def joined (line : List (Directive × List Char)) : List Char :=
  [';'].intercalate (line.map (·.2))

theorem joined_singleton (written : Directive × List Char) : joined [written] = written.2 := by
  simp [joined]

theorem joined_cons_cons (first second : Directive × List Char)
    (rest : List (Directive × List Char)) :
    joined (first :: second :: rest) = first.2 ++ [';'] ++ joined (second :: rest) := by
  simp [joined, List.intercalate_cons_cons]

/-- The parts of the line, each but the last with the separator behind it. -/
def portions : List (Directive × List Char) → List (List Char)
  | [] => []
  | [last] => [last.2]
  | first :: second :: rest => (first.2 ++ [';']) :: portions (second :: rest)

/-- Reading the text gives the directives of the line in order, each from its own portion of the
text, and leaves nothing. -/
structure ReadsAs (text : List Char) (line : List (Directive × List Char)) : Prop where
  directives : (steps text).map (·.found.directive) = line.map (·.1)
  consumed : (steps text).map (·.found.consumed) = portions line
  nothingLeft : remainder text = []

theorem readsAs_nil : ReadsAs [] [] := by
  constructor
  · rw [steps_nil]
    rfl
  · rw [steps_nil]
    rfl
  · rw [remainder, steps_nil]
    rfl

/-- A text that is one directive is read as that directive. -/
theorem readsAs_singleton {written : Directive × List Char}
    (hwhole : match? written.2 = some ⟨written.1, written.2, []⟩) :
    ReadsAs written.2 [written] := by
  have hsteps := steps_of_whole hwhole
  constructor
  · rw [hsteps]
    rfl
  · rw [hsteps]
    rfl
  · rw [remainder, hsteps]
    rfl

/-- A directive with its separator is read, and then what stands behind. -/
theorem ReadsAs.cons {text : List Char} {first second : Directive × List Char}
    {later : List (Directive × List Char)} (hrest : ReadsAs (skipSeparators rest) (second :: later))
    (hfirst : match? text = some ⟨first.1, first.2 ++ [';'], rest⟩) :
    ReadsAs text (first :: second :: later) := by
  have hsteps := steps_of_match?_eq_some hfirst
  constructor
  · rw [hsteps, List.map_cons, hrest.directives]
    rfl
  · rw [hsteps, List.map_cons, hrest.consumed]
    rfl
  · rw [remainder_of_match?_eq_some hfirst, hrest.nothingLeft]

variable {chain : List (Directive × List Char)} {last : Option (Directive × List Char)}

/-- A line that is not empty begins with a directive. -/
theorem begins_joined (hchain : ∀ written ∈ chain, WrittenChained written.1 written.2)
    (hlast : ∀ written ∈ last, WrittenLast written.1 written.2)
    (hline : chain ++ last.toList ≠ []) : Begins (joined (chain ++ last.toList)) := by
  cases chain with
  | nil =>
    cases last with
    | none => exact absurd rfl hline
    | some written => simpa [joined] using (hlast written rfl).begins
  | cons first chain =>
    have hfirst := (hchain first List.mem_cons_self).begins
    rw [List.cons_append]
    cases chain ++ last.toList with
    | nil => simpa [joined] using hfirst []
    | cons second rest =>
      rw [joined_cons_cons, List.append_assoc]
      exact hfirst _

/-- Directives that leave the rest of the line, and behind them at most one that takes it, are read
back from the line in which they are joined: the same directives in the same order, each with its
parameters as they were written and from its own part of the line, and nothing is left over. -/
theorem readsAs_joined (chain : List (Directive × List Char))
    (last : Option (Directive × List Char))
    (hchain : ∀ written ∈ chain, WrittenChained written.1 written.2)
    (hlast : ∀ written ∈ last, WrittenLast written.1 written.2) :
    ReadsAs (joined (chain ++ last.toList)) (chain ++ last.toList) := by
  induction chain with
  | nil =>
    cases last with
    | none => exact readsAs_nil
    | some written =>
      have hfound := match?_of_takes (hlast written rfl).takes
      rw [List.append_nil] at hfound
      have hline : joined ([] ++ (some written).toList) = written.2 := joined_singleton written
      rw [hline]
      exact readsAs_singleton hfound
  | cons first chain ih =>
    have hrest := fun written hmem => hchain written (List.mem_cons_of_mem _ hmem)
    have hfirst := hchain first List.mem_cons_self
    have hbegins := begins_joined hrest hlast
    specialize ih hrest
    rw [List.cons_append]
    cases hline : chain ++ last.toList with
    | nil =>
      -- In front of nothing the directive finds the end of the text.
      have hfound := match?_of_takes (hfirst.takes .last)
      rw [List.append_nil, List.append_nil] at hfound
      rw [joined_singleton]
      exact readsAs_singleton hfound
    | cons second rest =>
      -- In front of another it takes the separator along and finds how the other begins.
      rw [hline] at ih hbegins
      specialize hbegins (List.cons_ne_nil _ _)
      rw [joined_cons_cons]
      refine ReadsAs.cons ?_ (match?_of_takes (hfirst.takes (.next hbegins)))
      rwa [hbegins.skipSeparators_eq]

namespace Sample

/-- An effect whose name stands in brackets. -/
def effect (slot : Slot) : Directive × List Char :=
  (.characterEffect slot "EM".toList "Heart".toList (some "Async".toList),
    '#' :: slot.digit :: ";EM;[Heart];Async".toList)

/-- A movement of the view to a point with a negative coordinate. -/
def move : Directive × List Char :=
  (.zoomMove "10".toList "-20".toList "1200".toList "500".toList,
    "#Zmc;MOVE;10,-20;1200;500".toList)

/-- Text on the middle line that holds separators and something like a directive. -/
def text : Directive × List Char :=
  (.middleText "-3".toList "40".toList "Smooth".toList "60".toList (some "a;#wait;5;".toList),
    "#sTM;[-3,40];Smooth;60;a;#wait;5;".toList)

theorem writtenChained_effect (slot : Slot) : WrittenChained (effect slot).1 (effect slot).2 := by
  have hname : IsEffectName "Heart".toList :=
    ⟨⟨by decide +kernel, by decide +kernel⟩, by decide +kernel, by decide +kernel⟩
  have hwritten := @WrittenChained.characterEffect slot "em" "EM".toList "Heart".toList true
    (some "Async".toList) (by decide) (by decide +kernel) hname (by decide +kernel)
  convert hwritten using 1
  · rfl
  · clear hwritten
    revert slot
    decide +kernel

theorem writtenChained_move : WrittenChained move.1 move.2 := by
  have hten : IsNumeral "10".toList := by decide +kernel
  have htwenty : IsNumeral "20".toList := by decide +kernel
  have hsize : IsNumeral "1200".toList := by decide +kernel
  have hduration : IsNumeral "500".toList := by decide +kernel
  have hmark : Spells "#zmc;move;" "#Zmc;MOVE;".toList := by decide +kernel
  have hwritten :=
    WrittenChained.zoomMove hmark (.positive hten) (.negative htwenty) hsize hduration
  convert hwritten using 1 <;> decide +kernel

theorem writtenLast_text : WrittenLast text.1 text.2 := by
  have hthree : IsNumeral "3".toList := by decide +kernel
  have hforty : IsNumeral "40".toList := by decide +kernel
  have hsixty : IsNumeral "60".toList := by decide +kernel
  have hmark : Spells "#stm;[" "#sTM;[".toList := by decide +kernel
  have hfloating : IsFloating "-3".toList "40".toList "Smooth".toList "60".toList
      (some "a;#wait;5;".toList) := by
    refine ⟨?_, .positive hforty, ⟨"smooth", by decide, by decide +kernel⟩, hsixty, ?_⟩
    · convert IsSignedNumeral.negative hthree using 1
      decide +kernel
    · intro text htext
      cases htext
      decide +kernel
  convert WrittenLast.middleText hmark hfloating using 1 <;> decide +kernel

/-- Three directives on a line, whose keywords are in mixed case, are read back one by one. -/
theorem readsAs_joined_three :
    joined [effect 0, move, text] =
        "#1;EM;[Heart];Async;#Zmc;MOVE;10,-20;1200;500;#sTM;[-3,40];Smooth;60;a;#wait;5;".toList ∧
      ReadsAs (joined [effect 0, move, text]) [effect 0, move, text] := by
  refine ⟨by decide +kernel, readsAs_joined [effect 0, move] (some text) ?_ ?_⟩
  · intro written hmem
    rcases List.mem_pair.mp hmem with rfl | rfl
    · exact writtenChained_effect 0
    · exact writtenChained_move
  · intro written hmem
    cases hmem
    exact writtenLast_text

end Sample

end VisualNovel.Script
