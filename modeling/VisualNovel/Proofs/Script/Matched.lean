/-
# What a directive with numbers was read from

Six kinds of directives have numbers as parameters. What the reader of such a kind has taken of a
text is told here part by part: the keyword in any letter case, the numerals in digits of any
script, and what keeps them apart. Each parameter of the directive stands in the text as it is.

Spelling a directive and reading it back is another matter. There the text is in ASCII, and nothing
is said of the other texts that are read.
-/

import VisualNovel.Proofs.Decimal
import VisualNovel.Proofs.Script.Spelling
import VisualNovel.Story.Codec.Text

namespace VisualNovel

open Text

namespace Text.Reader

variable {α β : Type} {property : Char → Bool}

/-- What the reader takes of a text is written in the given way, for the value that is read. -/
def Reads (reader : Reader α) (Written : α → List Char → Prop) : Prop :=
  ∀ ⦃text value rest⦄, reader text = some (value, rest) →
    ∃ written, text = written ++ rest ∧ Written value written

/-- What a chain takes begins with what its first reader takes. -/
theorem Reads.bind {first : Reader α} {next : α → Reader β} {Written : α → List Char → Prop}
    {text rest : List Char} {result : β} (hreads : first.Reads Written)
    (hread : (first >>= next) text = some (result, rest)) :
    ∃ value written middle, text = written ++ middle ∧ Written value written ∧
      next value middle = some (result, rest) := by
  obtain ⟨value, middle, hfirst, hnext⟩ := bind_eq_some hread
  obtain ⟨written, htext, hwritten⟩ := hreads hfirst
  exact ⟨value, written, middle, htext, hwritten, hnext⟩

theorem keyword_reads {word : String} (hascii : IsAscii word.toList) :
    (keyword word).Reads fun _ written => written.map folded = word.toList := by
  intro text _ rest hread
  obtain ⟨_, hstrip, heq⟩ := Option.map_eq_some_iff.mp hread
  cases heq
  obtain ⟨mark, hmark, htext⟩ := (stripFolded?_eq_some_iff hascii).mp hstrip
  exact ⟨mark, htext, hmark⟩

theorem literal_reads (c : Char) : (literal c).Reads fun _ written => written = [c] := by
  intro text _ rest hread
  cases text with
  | nil => cases hread
  | cons d behind =>
    rw [literal] at hread
    split at hread
    · next hc =>
      cases hread
      exact ⟨[c], by rw [hc]; rfl, rfl⟩
    · cases hread

theorem literal?_reads (c : Char) :
    (literal? c).Reads fun found written => written = if found then [c] else [] := by
  intro text found rest hread
  cases text with
  | nil =>
    cases hread
    exact ⟨[], rfl, rfl⟩
  | cons d behind =>
    rw [literal?] at hread
    split at hread
    · next hc =>
      cases hread
      exact ⟨[c], by rw [hc]; rfl, rfl⟩
    · cases hread
      exact ⟨[], rfl, rfl⟩

theorem many_reads : (many property).Reads fun run written =>
    written = run ∧ ∀ c ∈ run, property c = true := by
  intro text run rest hread
  cases hread
  exact ⟨_, List.takeWhile_append_dropWhile.symm, rfl, fun c hc => List.mem_takeWhile_imp hc⟩

theorem many1_reads : (many1 property).Reads fun run written =>
    written = run ∧ run ≠ [] ∧ ∀ c ∈ run, property c = true := by
  intro text run rest hread
  unfold many1 at hread
  split at hread
  · cases hread
  · next hrun hnonempty =>
    cases hread
    exact ⟨_, List.takeWhile_append_dropWhile.symm, rfl, hnonempty,
      fun c hc => List.mem_takeWhile_imp hc⟩

theorem oneOf_reads {words : List String} (hascii : ∀ word ∈ words, IsAscii word.toList) :
    (oneOf words).Reads fun mark written =>
      written = mark ∧ ∃ word ∈ words, mark.map folded = word.toList := by
  intro text _ rest hread
  obtain ⟨word, hword, hfound⟩ := List.exists_of_findSome?_eq_some hread
  obtain ⟨_, hstrip, heq⟩ := Option.map_eq_some_iff.mp hfound
  cases heq
  obtain ⟨mark, hmark, rfl⟩ := (stripFolded?_eq_some_iff (hascii word hword)).mp hstrip
  have hlength : word.toList.length = mark.length := by rw [← hmark, List.length_map]
  rw [hlength, List.take_left]
  exact ⟨mark, rfl, rfl, word, hword, hmark⟩

end Text.Reader

namespace Script

open Reader Grammar Numeral

variable {text rest : List Char}

/-- Two coordinates as they are written, with blanks behind the comma. -/
def IsPoint (x y text : List Char) : Prop :=
  IsSignedDecimal x ∧ IsSignedDecimal y ∧
    ∃ blanks, (∀ c ∈ blanks, isBlank c = true) ∧ text = x ++ (',' :: (blanks ++ y))

/-- The parameters of floating text as they are written behind the opening bracket. -/
def IsPlaced (x y mode duration : List Char) (trailing : Parameter) (text : List Char) : Prop :=
  (∃ named : FloatingMode, mode.map folded = named.name.toList) ∧ IsDecimal duration ∧
    trailing.OneLine ∧ ∃ point, IsPoint x y point ∧
      text = point ++ (']' :: ';' :: (mode ++ (';' :: (duration ++ trailing.written))))

/-- The directive is written as the text, with everything that it takes of a line. -/
inductive Numbered : Directive → List Char → Prop
  | wait {mark duration ending : List Char} (hmark : mark.map folded = "#wait;".toList)
      (hduration : IsDecimal duration) (hending : ending <+: [';']) :
      Numbered (.wait duration) (mark ++ (duration ++ ending))
  | fontSize {mark size ending : List Char} (hmark : mark.map folded = "#fontsize;".toList)
      (hsize : IsDecimal size) (hending : ending <+: [';']) :
      Numbered (.fontSize size) (mark ++ (size ++ ending))
  | zoomInstant {mark point x y size ending : List Char}
      (hmark : mark.map folded = "#zmc;instant;".toList) (hpoint : IsPoint x y point)
      (hsize : IsDecimal size) (hending : ending <+: [';']) :
      Numbered (.zoomInstant x y size) (mark ++ (point ++ (';' :: (size ++ ending))))
  | zoomMove {mark point x y size duration ending : List Char}
      (hmark : mark.map folded = "#zmc;move;".toList) (hpoint : IsPoint x y point)
      (hsize : IsDecimal size) (hduration : IsDecimal duration) (hending : ending <+: [';']) :
      Numbered (.zoomMove x y size duration)
        (mark ++ (point ++ (';' :: (size ++ (';' :: (duration ++ ending))))))
  | floatingText {mark x y mode duration placed : List Char} {trailing : Parameter}
      (hmark : mark.map folded = "#st;[".toList)
      (hplaced : IsPlaced x y mode duration trailing placed) :
      Numbered (.floatingText x y mode duration trailing) (mark ++ placed)
  | middleText {mark x y mode duration placed : List Char} {trailing : Parameter}
      (hmark : mark.map folded = "#stm;[".toList)
      (hplaced : IsPlaced x y mode duration trailing placed) :
      Numbered (.middleText x y mode duration trailing) (mark ++ placed)

theorem numeral_reads :
    numeral.Reads fun digits written => written = digits ∧ IsDecimal digits := by
  intro text digits rest hread
  obtain ⟨written, htext, hwritten, hnonempty, hall⟩ := many1_reads hread
  exact ⟨written, htext, hwritten, hnonempty, hall⟩

theorem closing_reads : closing.Reads fun _ written => written <+: [';'] := by
  intro text _ rest hread
  unfold closing at hread
  split at hread <;> cases hread
  · exact ⟨[], rfl, List.nil_prefix⟩
  · exact ⟨[';'], rfl, List.prefix_refl _⟩

theorem payload_reads :
    payload.Reads fun parameter written => written = parameter.written ∧ parameter.OneLine := by
  intro text parameter rest hread
  unfold payload at hread
  split at hread
  · cases hread
    exact ⟨[], rfl, rfl, nofun⟩
  · split at hread
    · cases hread
    · next hline =>
      cases hread
      refine ⟨_, (List.append_nil _).symm, rfl, ?_⟩
      rintro _ ⟨⟩
      exact hline
  · cases hread

theorem signedNumeral_reads :
    signedNumeral.Reads fun numeral written => written = numeral ∧ IsSignedDecimal numeral := by
  intro text _ rest hread
  obtain ⟨negative, _, _, rfl, rfl, hnumeral⟩ := (literal?_reads '-').bind hread
  obtain ⟨_, _, _, rfl, ⟨rfl, hdigits⟩, hdone⟩ := numeral_reads.bind hnumeral
  cases hdone
  cases negative with
  | false => exact ⟨_, rfl, rfl, .positive hdigits⟩
  | true => exact ⟨_, rfl, rfl, .negative hdigits⟩

theorem point_reads : point.Reads fun (x, y) written => IsPoint x y written := by
  intro text _ rest hread
  obtain ⟨_, x, _, rfl, ⟨rfl, hx⟩, hcomma⟩ := signedNumeral_reads.bind hread
  obtain ⟨_, _, _, rfl, rfl, hblank⟩ := (literal_reads ',').bind hcomma
  obtain ⟨_, blanks, _, rfl, ⟨rfl, hblanks⟩, hsigned⟩ := many_reads.bind hblank
  obtain ⟨_, y, _, rfl, ⟨rfl, hy⟩, hdone⟩ := signedNumeral_reads.bind hsigned
  cases hdone
  exact ⟨x ++ (',' :: (blanks ++ y)), by simp, hx, hy, blanks, hblanks, rfl⟩

theorem floating_reads : floating.Reads fun (x, y, mode, duration, trailing) written =>
    IsPlaced x y mode duration trailing written := by
  intro text _ rest hread
  obtain ⟨⟨x, y⟩, point, _, rfl, hpoint, hbracket⟩ := point_reads.bind hread
  obtain ⟨_, _, _, rfl, rfl, hseparator⟩ := (literal_reads ']').bind hbracket
  obtain ⟨_, _, _, rfl, rfl, hkeyword⟩ := (literal_reads ';').bind hseparator
  obtain ⟨_, _, _, rfl, ⟨rfl, word, hword, hmode⟩, hlater⟩ :=
    (oneOf_reads (by decide)).bind hkeyword
  obtain ⟨_, _, _, rfl, rfl, hnumeral⟩ := (literal_reads ';').bind hlater
  obtain ⟨_, _, _, rfl, ⟨rfl, hduration⟩, hpayload⟩ := numeral_reads.bind hnumeral
  obtain ⟨_, _, _, rfl, ⟨rfl, hline⟩, hdone⟩ := payload_reads.bind hpayload
  cases hdone
  have hnamed : ∀ word ∈ ["serial", "instant", "smooth"],
      ∃ named : FloatingMode, word = named.name := by
    simp only [List.forall_mem_cons]
    exact ⟨⟨.serial, rfl⟩, ⟨.instant, rfl⟩, ⟨.smooth, rfl⟩, nofun⟩
  obtain ⟨named, rfl⟩ := hnamed word hword
  exact ⟨_, by simp, ⟨named, hmode⟩, hduration, hline, point, hpoint, rfl⟩

/-- The label of an option is at most two digits, or none. -/
theorem optionLabel_reads : optionLabel.Reads fun label written =>
    (∃ shared, written = labelWritten shared label) ∧ (∀ c ∈ label, isDecimalDigit c = true) ∧
      label.length ≤ 2 := by
  intro text _ rest hread
  obtain ⟨_, _, _, rfl, rfl, hshared⟩ := (literal_reads '[').bind hread
  obtain ⟨shared, _, _, rfl, rfl, hletter⟩ := (literal?_reads 'n').bind hshared
  obtain ⟨_, _, _, rfl, rfl, hdigits⟩ := (literal_reads 's').bind hletter
  obtain ⟨_, _, _, rfl, ⟨rfl, hlabel⟩, hbracket⟩ := many_reads.bind hdigits
  obtain ⟨_, _, _, rfl, rfl, hlength⟩ := (literal_reads ']').bind hbracket
  split at hlength
  · next hshort =>
    cases hlength
    exact ⟨_, by simp [labelWritten], ⟨shared, rfl⟩, hlabel, hshort⟩
  · cases hlength

/-- The kinds of directives that have numbers. -/
def Kind.numbered : List Kind :=
  [.wait, .fontSize, .zoomInstant, .zoomMove, .floatingText, .middleText]

/-- What the reader of such a kind takes is the directive as it is written. -/
theorem Kind.reader_reads {kind : Kind} (hkind : kind ∈ numbered) : kind.reader.Reads Numbered := by
  intro text _ rest hread
  simp only [Kind.numbered, List.mem_cons, List.not_mem_nil, or_false] at hkind
  rcases hkind with rfl | rfl | rfl | rfl | rfl | rfl
  · obtain ⟨_, _, _, rfl, hmark, hnumeral⟩ := (keyword_reads (by decide)).bind hread
    obtain ⟨_, _, _, rfl, ⟨rfl, hduration⟩, hclosing⟩ := numeral_reads.bind hnumeral
    obtain ⟨_, _, _, rfl, hending, hdone⟩ := closing_reads.bind hclosing
    cases hdone
    exact ⟨_, by simp, .wait hmark hduration hending⟩
  · obtain ⟨_, _, _, rfl, hmark, hnumeral⟩ := (keyword_reads (by decide)).bind hread
    obtain ⟨_, _, _, rfl, ⟨rfl, hsize⟩, hclosing⟩ := numeral_reads.bind hnumeral
    obtain ⟨_, _, _, rfl, hending, hdone⟩ := closing_reads.bind hclosing
    cases hdone
    exact ⟨_, by simp, .fontSize hmark hsize hending⟩
  · obtain ⟨_, _, _, rfl, hmark, hcoordinates⟩ := (keyword_reads (by decide)).bind hread
    obtain ⟨_, _, _, rfl, hpoint, hseparator⟩ := point_reads.bind hcoordinates
    obtain ⟨_, _, _, rfl, rfl, hnumeral⟩ := (literal_reads ';').bind hseparator
    obtain ⟨_, _, _, rfl, ⟨rfl, hsize⟩, hclosing⟩ := numeral_reads.bind hnumeral
    obtain ⟨_, _, _, rfl, hending, hdone⟩ := closing_reads.bind hclosing
    cases hdone
    exact ⟨_, by simp, .zoomInstant hmark hpoint hsize hending⟩
  · obtain ⟨_, _, _, rfl, hmark, hcoordinates⟩ := (keyword_reads (by decide)).bind hread
    obtain ⟨_, _, _, rfl, hpoint, hseparator⟩ := point_reads.bind hcoordinates
    obtain ⟨_, _, _, rfl, rfl, hnumeral⟩ := (literal_reads ';').bind hseparator
    obtain ⟨_, _, _, rfl, ⟨rfl, hsize⟩, hlater⟩ := numeral_reads.bind hnumeral
    obtain ⟨_, _, _, rfl, rfl, hlast⟩ := (literal_reads ';').bind hlater
    obtain ⟨_, _, _, rfl, ⟨rfl, hduration⟩, hclosing⟩ := numeral_reads.bind hlast
    obtain ⟨_, _, _, rfl, hending, hdone⟩ := closing_reads.bind hclosing
    cases hdone
    exact ⟨_, by simp, .zoomMove hmark hpoint hsize hduration hending⟩
  · obtain ⟨_, _, _, rfl, hmark, hfloating⟩ := (keyword_reads (by decide)).bind hread
    obtain ⟨_, _, _, rfl, hplaced, hdone⟩ := floating_reads.bind hfloating
    cases hdone
    exact ⟨_, by simp, .floatingText hmark hplaced⟩
  · obtain ⟨_, _, _, rfl, hmark, hfloating⟩ := (keyword_reads (by decide)).bind hread
    obtain ⟨_, _, _, rfl, hplaced, hdone⟩ := floating_reads.bind hfloating
    cases hdone
    exact ⟨_, by simp, .middleText hmark hplaced⟩

/-- So is what a match of such a kind consumes. -/
theorem numbered_of_match? {kind : Kind} {text : List Char} {found : Match}
    (hkind : kind ∈ Kind.numbered) (hfound : kind.match? text = some found) :
    Numbered found.directive found.consumed := by
  obtain ⟨⟨directive, rest⟩, hread, rfl⟩ := Option.map_eq_some_iff.mp hfound
  obtain ⟨written, rfl, hwritten⟩ := Kind.reader_reads hkind hread
  simpa using hwritten

end Script
end VisualNovel
