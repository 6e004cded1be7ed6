/-
# Reading a line of directives

A line is read by taking the first directive that matches its start, skipping the separators that
follow, and going on with the rest until no directive matches. The rest gets shorter with every
directive, so the reading ends; what is left then is not understood and has no effect. The
directives of a script are those of its segments, in order.
-/

import VisualNovel.Script.Grammar
import VisualNovel.Script.Segment

namespace VisualNovel.Script

/-- A directive found at the start of a text. -/
structure Match where
  directive : Directive
  /-- The part of the text that the directive is written with. -/
  consumed : List Char
  /-- What follows the directive. -/
  rest : List Char
  deriving DecidableEq, Repr

/-- The number of bytes of the directive in UTF-8. -/
def Match.byteLength (found : Match) : Nat :=
  (String.ofList found.consumed).utf8ByteSize

/-- The directive of the given kind at the start of the text. -/
def Kind.match? (kind : Kind) (text : List Char) : Option Match :=
  (kind.reader text).map fun (directive, rest) =>
    { directive, consumed := text.take (text.length - rest.length), rest }

/-- The directive at the start of the text, by the first kind that matches. -/
def match? (text : List Char) : Option Match :=
  Kind.all.findSome? (·.match? text)

/-- What a directive consumes and what it leaves make up the text, and it consumes something. -/
theorem Kind.match?_spec {kind : Kind} {text : List Char} {found : Match}
    (h : kind.match? text = some found) :
    text = found.consumed ++ found.rest ∧ found.consumed ≠ [] := by
  obtain ⟨⟨directive, rest⟩, hread, rfl⟩ := Option.map_eq_some_iff.mp h
  obtain ⟨⟨before, rfl⟩, hshorter⟩ := kind.reader_consumes hread
  have hbefore : before ≠ [] := by
    intro hnil
    simp [hnil] at hshorter
  simp [hbefore]

theorem match?_spec {text : List Char} {found : Match} (h : match? text = some found) :
    text = found.consumed ++ found.rest ∧ found.consumed ≠ [] := by
  obtain ⟨kind, _, hkind⟩ := List.exists_of_findSome?_eq_some h
  exact kind.match?_spec hkind

/-- The text after its leading semicolons and blanks. -/
def skipSeparators (text : List Char) : List Char :=
  text.dropWhile fun c => c == ';' || Text.isBlank c

/-- One directive of a line and the text that is left after the separators behind it. -/
structure Step where
  found : Match
  rest : List Char
  deriving DecidableEq, Repr

/-- A step leaves less text than it is given. -/
theorem length_skipSeparators_lt {text : List Char} {found : Match}
    (h : match? text = some found) : (skipSeparators found.rest).length < text.length := by
  obtain ⟨htext, hconsumed⟩ := match?_spec h
  have hskip : (skipSeparators found.rest).length ≤ found.rest.length :=
    (List.dropWhile_suffix _).length_le
  have hpositive : 0 < found.consumed.length := List.length_pos_iff.mpr hconsumed
  rw [htext, List.length_append]
  omega

/-- The steps in which a line is read. -/
def steps (text : List Char) : List Step :=
  match _ : match? text with
  | none => []
  | some found =>
    let rest := skipSeparators found.rest
    ⟨found, rest⟩ :: steps rest
termination_by text.length
decreasing_by exact length_skipSeparators_lt ‹_›

/-- What is left of a line once no directive matches any more. -/
def remainder (text : List Char) : List Char :=
  ((steps text).getLast?.map (·.rest)).getD text

/-- The directives of a script, line by line. -/
def directives (script : List Char) : List Directive :=
  (segments script).flatMap fun segment => (steps segment.text).map (·.found.directive)

end VisualNovel.Script
