/-
# Where the text of a line goes

A line is read by a loop over its bytes: the first directive is found, its bytes are cut off in
front, the separators behind it are skipped, and the loop goes on with what is left. Three things
could go wrong there. A directive without a byte would make no progress, the end of a directive
could lie inside of a character, and the loop could fail to end. None of them happens, whatever the
line is. So the reading by bytes is the recursion on the text that is used everywhere else, and all
of the text is accounted for: it is the directives that are found, the separators behind each of
them and what is left in the end.
-/

import Mathlib.Data.List.Chain
import Mathlib.Data.List.TakeWhile
import VisualNovel.Proofs.Script.Lines

namespace VisualNovel.Script

open Text

variable {text rest : List Char} {kind : Kind} {found : Match} {step : Step} {taken : List Step}

/-- The text from the given byte on, if a character begins at that byte or the text ends there. -/
def fromByte? : Nat → List Char → Option (List Char)
  | 0, text => some text
  | _ + 1, [] => none
  | n + 1, c :: rest => if c.utf8Size ≤ n + 1 then fromByte? (n + 1 - c.utf8Size) rest else none

theorem utf8ByteSize_ofList_cons (c : Char) (text : List Char) :
    (String.ofList (c :: text)).utf8ByteSize = c.utf8Size + (String.ofList text).utf8ByteSize := by
  rw [String.ofList_cons, String.utf8ByteSize_append, String.utf8ByteSize_singleton]

theorem utf8ByteSize_ofList_pos (hnonempty : text ≠ []) :
    0 < (String.ofList text).utf8ByteSize := by
  obtain ⟨c, rest, rfl⟩ := List.exists_cons_of_ne_nil hnonempty
  rw [utf8ByteSize_ofList_cons]
  exact Nat.add_pos_left c.utf8Size_pos _

/-- A beginning of some bytes has the first character, and its other bytes are a beginning of the
rest. -/
theorem exists_beginning_cons_iff {c : Char} {n : Nat} :
    (∃ before, c :: text = before ++ rest ∧ (String.ofList before).utf8ByteSize = n + 1) ↔
      c.utf8Size ≤ n + 1 ∧ ∃ before, text = before ++ rest ∧
        (String.ofList before).utf8ByteSize = n + 1 - c.utf8Size := by
  constructor
  · rintro ⟨before, htext, hsize⟩
    cases before with
    | nil => cases hsize
    | cons d before =>
      rw [utf8ByteSize_ofList_cons] at hsize
      cases htext
      exact ⟨by omega, before, rfl, Nat.eq_sub_of_add_eq' hsize⟩
  · rintro ⟨hfits, before, rfl, hsize⟩
    refine ⟨c :: before, rfl, ?_⟩
    rw [utf8ByteSize_ofList_cons, hsize, Nat.add_sub_of_le hfits]

/-- A text can be cut at a byte if the characters of some beginning have that many bytes. -/
theorem fromByte?_eq_some_iff {n : Nat} : fromByte? n text = some rest ↔
    ∃ before, text = before ++ rest ∧ (String.ofList before).utf8ByteSize = n := by
  induction n, text using fromByte?.induct with
  | case1 text =>
    rw [fromByte?]
    constructor
    · intro hcut
      cases hcut
      exact ⟨[], rfl, rfl⟩
    · rintro ⟨before, rfl, hsize⟩
      have hnil : before = [] := by
        by_contra hnonempty
        exact absurd hsize (utf8ByteSize_ofList_pos hnonempty).ne'
      rw [hnil, List.nil_append]
  | case2 n =>
    constructor
    · intro hcut
      cases hcut
    · rintro ⟨before, htext, hsize⟩
      rw [(List.append_eq_nil_iff.mp htext.symm).1] at hsize
      cases hsize
  | case3 n c behind hfits ih =>
    rw [fromByte?, if_pos hfits, ih, exists_beginning_cons_iff, and_iff_right hfits]
  | case4 n c behind htorn =>
    rw [fromByte?, if_neg htorn, exists_beginning_cons_iff]
    exact iff_of_false nofun fun ⟨hfits, _⟩ => htorn hfits

/-- A text is cut at the boundaries of its characters only. -/
theorem isValid_of_fromByte?_eq_some {n : Nat} (hcut : fromByte? n text = some rest) :
    (⟨n⟩ : String.Pos.Raw).IsValid (String.ofList text) := by
  obtain ⟨before, rfl, rfl⟩ := fromByte?_eq_some_iff.mp hcut
  exact String.Pos.Raw.isValid_iff_exists_append.mpr
    ⟨String.ofList before, String.ofList rest, String.ofList_append, rfl⟩

theorem Kind.byteLength_pos (hmatch : kind.match? text = some found) : 0 < found.byteLength :=
  utf8ByteSize_ofList_pos (kind.match?_spec hmatch).2

theorem Kind.fromByte?_byteLength (hmatch : kind.match? text = some found) :
    fromByte? found.byteLength text = some found.rest :=
  fromByte?_eq_some_iff.mpr ⟨found.consumed, (kind.match?_spec hmatch).1, rfl⟩

/-- The semicolons and blanks at the start of a text. -/
def separators (text : List Char) : List Char :=
  text.takeWhile fun c => c == ';' || isBlank c

theorem separators_append_skipSeparators (text : List Char) :
    separators text ++ skipSeparators text = text :=
  List.takeWhile_append_dropWhile

theorem eq_or_isBlank_of_mem_separators {c : Char} (hc : c ∈ separators text) :
    c = ';' ∨ isBlank c = true := by
  have hseparates := List.mem_takeWhile_imp hc
  simpa using hseparates

/-- What is skipped behind the directive of a step. -/
def Step.separator (step : Step) : List Char := separators step.found.rest

/-- The step is the one that the reading takes at the text. -/
structure Step.TakenAt (step : Step) (text : List Char) : Prop where
  found : match? text = some step.found
  skips : step.rest = skipSeparators step.found.rest

/-- What a step goes past is its directive and the separators behind it. -/
theorem Step.TakenAt.text_eq (htaken : step.TakenAt text) :
    text = step.found.consumed ++ step.separator ++ step.rest := by
  rw [htaken.skips, separator, List.append_assoc, separators_append_skipSeparators]
  exact (match?_spec htaken.found).1

theorem Step.TakenAt.shrinks (htaken : step.TakenAt text) :
    step.rest <:+ text ∧ step.rest.length < text.length := by
  constructor
  · exact ⟨_, htaken.text_eq.symm⟩
  · rw [htaken.skips]
    exact length_skipSeparators_lt htaken.found

/-- A text is read in the given steps, and the given rest is left. -/
inductive Reading : List Char → List Step → List Char → Prop
  | ends {text : List Char} (hnone : match? text = none) : Reading text [] text
  | goesOn {text rest : List Char} {step : Step} {later : List Step}
      (htaken : step.TakenAt text) (hlater : Reading step.rest later rest) :
      Reading text (step :: later) rest

theorem reading_steps (text : List Char) : Reading text (steps text) (remainder text) := by
  induction text using steps.induct with
  | case1 text hnone =>
    rw [remainder, steps_of_match?_eq_none hnone]
    exact .ends hnone
  | case2 text found hsome _ ih =>
    rw [remainder_of_match?_eq_some hsome, steps_of_match?_eq_some hsome]
    exact .goesOn ⟨hsome, rfl⟩ ih

namespace Reading

theorem match?_eq_none (hreading : Reading text taken rest) : match? rest = none := by
  induction hreading with
  | ends hnone => exact hnone
  | goesOn _ _ ih => exact ih

/-- Nothing of the text is lost. -/
theorem text_eq (hreading : Reading text taken rest) :
    text = (taken.flatMap fun step => step.found.consumed ++ step.separator) ++ rest := by
  induction hreading with
  | ends => rfl
  | @goesOn text rest step later htaken _ ih =>
    rw [List.flatMap_cons, List.append_assoc, ← ih]
    exact htaken.text_eq

theorem shrinks (hreading : Reading text taken rest) :
    (text :: taken.map (·.rest)).IsChain fun before behind =>
      behind <:+ before ∧ behind.length < before.length := by
  induction hreading with
  | ends => exact List.isChain_singleton _
  | goesOn htaken _ ih => exact List.isChain_cons_cons.mpr ⟨htaken.shrinks, ih⟩

theorem length_le (hreading : Reading text taken rest) : taken.length ≤ text.length := by
  induction hreading with
  | ends => exact Nat.zero_le _
  | goesOn htaken _ ih => exact (Nat.succ_le_succ ih).trans htaken.shrinks.2

end Reading

/-- How a reading by bytes can come to an end before its text is read. -/
inductive Halt where
  /-- No round is left. -/
  | spent
  /-- A directive without a byte was found. -/
  | stalled
  /-- The bytes of a directive do not end where a character does. -/
  | torn
  deriving DecidableEq, Repr

/-- The steps of a reading by bytes and the rest it leaves, if the number of rounds is enough. -/
def readBytes : Nat → List Char → Except Halt (List Step × List Char)
  | 0, _ => .error .spent
  | rounds + 1, text =>
    match match? text with
    | none => .ok ([], text)
    | some found =>
      if found.byteLength = 0 then .error .stalled
      else
        match fromByte? found.byteLength text with
        | none => .error .torn
        | some behind => do
          let (later, rest) ← readBytes rounds (skipSeparators behind)
          return (⟨found, skipSeparators behind⟩ :: later, rest)

/-- Each step takes one round, and finding that there is no further step takes the last. -/
theorem Reading.readBytes_eq (hreading : Reading text taken rest) {rounds : Nat}
    (hrounds : taken.length < rounds) : readBytes rounds text = .ok (taken, rest) := by
  induction hreading generalizing rounds with
  | ends hnone =>
    obtain ⟨rounds, rfl⟩ := Nat.exists_eq_succ_of_ne_zero hrounds.ne'
    rw [readBytes, hnone]
  | @goesOn text rest step later htaken _ ih =>
    obtain ⟨rounds, rfl⟩ := Nat.exists_eq_succ_of_ne_zero (Nat.ne_zero_of_lt hrounds)
    obtain ⟨kind, _, hmatch⟩ := List.exists_of_findSome?_eq_some htaken.found
    have hlater := ih (Nat.lt_of_succ_lt_succ hrounds)
    rw [htaken.skips] at hlater
    rw [readBytes, htaken.found]
    simp only [if_neg (Kind.byteLength_pos hmatch).ne', Kind.fromByte?_byteLength hmatch, hlater]
    rw [← htaken.skips]
    rfl

/-- Every line is read to its end by bytes, and all of its text is accounted for. -/
theorem readBytes_accounts (text : List Char) :
    (∀ kind found, Kind.match? kind text = some found →
      0 < found.byteLength ∧ (⟨found.byteLength⟩ : String.Pos.Raw).IsValid (String.ofList text) ∧
        fromByte? found.byteLength text = some found.rest) ∧
      (∀ rounds, text.length < rounds → readBytes rounds text = .ok (steps text, remainder text)) ∧
      (text :: (steps text).map (·.rest)).IsChain (fun before behind =>
        behind <:+ before ∧ behind.length < before.length) ∧
      text = ((steps text).flatMap fun step => step.found.consumed ++ step.separator) ++
        remainder text ∧
      (∀ step ∈ steps text, ∀ c ∈ step.separator, c = ';' ∨ isBlank c = true) ∧
      match? (remainder text) = none := by
  have hreading := reading_steps text
  refine ⟨?directives, ?loop, hreading.shrinks, hreading.text_eq, ?separators,
    hreading.match?_eq_none⟩
  case directives =>
    intro kind found hmatch
    have hcut := Kind.fromByte?_byteLength hmatch
    exact ⟨Kind.byteLength_pos hmatch, isValid_of_fromByte?_eq_some hcut, hcut⟩
  case loop =>
    intro rounds hrounds
    exact hreading.readBytes_eq (hreading.length_le.trans_lt hrounds)
  case separators =>
    intro step _ c hc
    exact eq_or_isBlank_of_mem_separators hc

/-- The first directive has more bytes than characters, and the last character is not read. -/
theorem readBytes_accounts_video :
    let line := "#Video;가;나;\u3000 #bgshake;?".toList
    let video : Match := ⟨.video ['가'] ['나'], "#Video;가;나;".toList, "\u3000 #bgshake;?".toList⟩
    let shake : Match := ⟨.shakeBackground, "#bgshake;".toList, ['?']⟩
    Kind.video.match? line = some video ∧
      (⟨15⟩ : String.Pos.Raw).IsValid (String.ofList line) ∧ line.length < 24 ∧
      readBytes 24 line = .ok ([⟨video, "#bgshake;?".toList⟩, ⟨shake, ['?']⟩], ['?']) := by
  intro line video shake
  have hmatch : Kind.video.match? line = some video := by decide +kernel
  have hlength : line.length < 24 := by decide
  have hsteps : steps line = [⟨video, "#bgshake;?".toList⟩, ⟨shake, ['?']⟩] := by
    have hvideo : match? line = some video := by decide +kernel
    have hshake : match? "#bgshake;?".toList = some shake := by decide +kernel
    have hlast : match? ['?'] = none := by decide +kernel
    have hskipped : skipSeparators video.rest = "#bgshake;?".toList := by decide
    have hkept : skipSeparators shake.rest = ['?'] := by decide
    rw [steps_of_match?_eq_some hvideo, hskipped, steps_of_match?_eq_some hshake, hkept,
      steps_of_match?_eq_none hlast]
  obtain ⟨hdirectives, hloop, _⟩ := readBytes_accounts line
  refine ⟨hmatch, (hdirectives .video video hmatch).2.1, hlength, ?_⟩
  rw [hloop 24 hlength, remainder, hsteps]
  rfl

end VisualNovel.Script
