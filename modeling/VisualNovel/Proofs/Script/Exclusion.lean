/-
# At most one directive

The kinds of directives are tried in a fixed order, and nothing depends on that order: no text is a
directive of two kinds. A directive begins with one of the leads of its kind, which for most kinds
is the keyword alone, and no lead of one kind is the beginning of a lead of another. Letter case
does not change this, because a character is at most one ASCII letter, upper and lower case aside,
even where it is no ASCII character itself.

What follows the leads is not looked at. The kinds would exclude each other whatever parameters they
took.
-/

import VisualNovel.Proofs.Script.Readers
import Mathlib.Data.List.FinRange
import Mathlib.Data.List.Perm.Basic

namespace VisualNovel

namespace Script

open Text Reader Grammar

/-- What reads as a slot is the digit of the slot. -/
theorem Grammar.eq_digit_cons_of_slot {text rest : List Char} {place : Slot}
    (hread : slot text = some (place, rest)) : text = place.digit :: rest := by
  cases text with
  | nil => cases hread
  | cons c behind =>
    obtain ⟨found, hdigit, heq⟩ := Option.map_eq_some_iff.mp hread
    cases heq
    unfold Slot.ofDigit? at hdigit
    split at hdigit <;> cases hdigit <;> rfl

/-- A digit of a slot stands only for itself. -/
theorem Slot.isSome_stripFolded?_digit (place : Slot) (rest : List Char) :
    (stripFolded? [place.digit] (place.digit :: rest)).isSome := by
  refine isSome_stripFolded?_cons.mpr ⟨?_, rfl⟩
  revert place
  decide

namespace Kind

/-- The ways in which a directive of the kind begins, in lower case. -/
def leads : Kind → List (List Char)
  | title => ["#title".toList]
  | nextEpisode => ["#nextepisode".toList]
  | place => ["#place".toList]
  | continued => ["#continued".toList]
  | narration => ["#na;".toList]
  | floatingText => ["#st;[".toList]
  | middleText => ["#stm;[".toList]
  | clearText => ["#clearst".toList]
  | wait => ["#wait;".toList]
  | fontSize => ["#fontsize;".toList]
  | hideAll => ["#all;hide".toList]
  | hideMenu => ["#hidemenu".toList]
  | showMenu => ["#showmenu".toList]
  | zoomInstant => ["#zmc;instant;".toList]
  | zoomMove => ["#zmc;move;".toList]
  | shakeBackground => ["#bgshake".toList]
  | video => ["#video;".toList]
  | characterEffect => (List.finRange 5).map fun slot : Slot => "#".toList ++ [slot.digit]
  | character => (List.finRange 5).map fun slot : Slot => [slot.digit]
  | option => ["[".toList]

theorem isAscii_of_mem_leads {kind : Kind} {lead : List Char} (hlead : lead ∈ kind.leads) :
    IsAscii lead := by
  have hall : ∀ kind ∈ all, ∀ lead ∈ kind.leads, IsAscii lead := by decide +kernel
  exact hall kind kind.mem_all lead hlead

/-- No lead of a kind is the beginning of a lead of another kind. -/
theorem eq_of_lead_begins {first second : Kind} {lead other : List Char}
    (hlead : lead ∈ first.leads) (hother : other ∈ second.leads) (hbegins : lead <+: other) :
    first = second := by
  have hall : ∀ first ∈ all, ∀ second ∈ all, ∀ lead ∈ first.leads, ∀ other ∈ second.leads,
      lead <+: other → first = second := by decide +kernel
  exact hall first first.mem_all second second.mem_all lead hlead other hother hbegins

/-- Every directive begins with a lead of its kind. -/
theorem exists_lead {kind : Kind} {text : List Char} {result : Directive × List Char}
    (hread : kind.reader text = some result) :
    ∃ lead ∈ kind.leads, (stripFolded? lead text).isSome := by
  cases kind with
  | characterEffect =>
    obtain ⟨_, behind, hmark, htail⟩ := bind_eq_some hread
    obtain ⟨_, hstrip, heq⟩ := Option.map_eq_some_iff.mp hmark
    cases heq
    obtain ⟨place, rest, hslot, _⟩ := bind_eq_some htail
    refine ⟨"#".toList ++ [place.digit], List.mem_map.mpr ⟨place, List.mem_finRange _, rfl⟩, ?_⟩
    rw [stripFolded?_append, hstrip, eq_digit_cons_of_slot hslot]
    exact place.isSome_stripFolded?_digit rest
  | character =>
    obtain ⟨place, rest, hslot, _⟩ := bind_eq_some hread
    refine ⟨[place.digit], List.mem_map.mpr ⟨place, List.mem_finRange _, rfl⟩, ?_⟩
    rw [eq_digit_cons_of_slot hslot]
    exact place.isSome_stripFolded?_digit rest
  | option =>
    obtain ⟨_, _, hlabel, _⟩ := bind_eq_some hread
    obtain ⟨_, rest, hbracket, _⟩ := bind_eq_some hlabel
    refine ⟨['['], List.mem_singleton_self _, ?_⟩
    cases text with
    | nil => cases hbracket
    | cons c behind =>
      rw [literal] at hbracket
      split at hbracket
      · rename_i hc
        subst hc
        exact isSome_stripFolded?_cons.mpr ⟨by decide, rfl⟩
      · cases hbracket
  | _ =>
    obtain ⟨_, _, hmark, _⟩ := bind_eq_some hread
    obtain ⟨_, hstrip, _⟩ := Option.map_eq_some_iff.mp hmark
    exact ⟨_, List.mem_singleton_self _, Option.isSome_of_eq_some hstrip⟩

/-- A text is a directive of at most one kind. -/
theorem eq_of_match? {first second : Kind} {text : List Char} {found other : Match}
    (hfirst : first.match? text = some found) (hsecond : second.match? text = some other) :
    first = second := by
  obtain ⟨_, hfirst, _⟩ := Option.map_eq_some_iff.mp hfirst
  obtain ⟨_, hsecond, _⟩ := Option.map_eq_some_iff.mp hsecond
  obtain ⟨lead, hlead, hleft⟩ := exists_lead hfirst
  obtain ⟨mark, hmark, hright⟩ := exists_lead hsecond
  rcases prefix_or_prefix_of_stripFolded? (isAscii_of_mem_leads hlead) (isAscii_of_mem_leads hmark)
      hleft hright with hbegins | hbegins
  · exact eq_of_lead_begins hlead hmark hbegins
  · exact (eq_of_lead_begins hmark hlead hbegins).symm

end Kind

/-- Whatever order the kinds are tried in, a kind that matches is the one that is found. -/
theorem findSome?_match?_eq_some {order : List Kind} {kind : Kind} {text : List Char}
    {found : Match} (hmem : kind ∈ order) (hfound : kind.match? text = some found) :
    order.findSome? (·.match? text) = some found := by
  apply findSome?_eq_some_of_unique hmem hfound
  intro other _ hsome
  obtain ⟨_, hother⟩ := Option.isSome_iff_exists.mp hsome
  exact Kind.eq_of_match? hother hfound

/-- The first directive of a text is the one of the only kind that matches. -/
theorem match?_of_kind {kind : Kind} {text : List Char} {found : Match}
    (hfound : kind.match? text = some found) : match? text = some found :=
  findSome?_match?_eq_some kind.mem_all hfound

/-- Of the twenty kinds at most one matches a text, whatever text it is, and so the directive that
is found is the same in every order in which all the kinds are tried. -/
theorem match?_eq_findSome?_of_perm (text : List Char) :
    (∀ first second : Kind, (first.match? text).isSome → (second.match? text).isSome →
      first = second) ∧
    ∀ order : List Kind, order.Perm Kind.all → order.findSome? (·.match? text) = match? text := by
  constructor
  · intro first second hfirst hsecond
    obtain ⟨found, hfound⟩ := Option.isSome_iff_exists.mp hfirst
    obtain ⟨other, hother⟩ := Option.isSome_iff_exists.mp hsecond
    exact Kind.eq_of_match? hfound hother
  · intro order hperm
    cases hfound : match? text with
    | some found =>
      obtain ⟨kind, _, hkind⟩ := List.exists_of_findSome?_eq_some hfound
      exact findSome?_match?_eq_some (hperm.mem_iff.mpr kind.mem_all) hkind
    | none =>
      rw [List.findSome?_eq_none_iff]
      intro kind hmem
      exact List.findSome?_eq_none_iff.mp hfound kind (hperm.mem_iff.mp hmem)

/-- Floating text on the middle line, whose keyword is written with a long s, is found by its own
kind alone when the kinds are tried from the last to the first. -/
theorem findSome?_match?_reversed :
    Kind.all.reverse.Perm Kind.all ∧
      Kind.all.reverse.findSome? (·.match? "#ſTM;[0,-5];Serial;3;a;b\u2029".toList) =
        some
          { directive := .middleText "0".toList "-5".toList "Serial".toList "3".toList
              (some "a;b\u2029".toList)
            consumed := "#ſTM;[0,-5];Serial;3;a;b\u2029".toList
            rest := [] } ∧
      ∀ kind : Kind, (kind.match? "#ſTM;[0,-5];Serial;3;a;b\u2029".toList).isSome →
        kind = .middleText := by
  obtain ⟨hunique, horder⟩ := match?_eq_findSome?_of_perm "#ſTM;[0,-5];Serial;3;a;b\u2029".toList
  have hperm : Kind.all.reverse.Perm Kind.all := List.reverse_perm _
  refine ⟨hperm, ?_, fun kind hkind => hunique kind .middleText hkind (by decide +kernel)⟩
  rw [horder _ hperm]
  decide +kernel

end Script

end VisualNovel
