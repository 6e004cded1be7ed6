/-
# Which patterns are accepted

A pattern that is well formed may be nested too deep, may name properties that there are not, or may
be too large. Where Unicode is turned off, it is about bytes: nothing may then match a byte that is
no character, and only ASCII characters may be named in sets.
-/

import VisualNovel.Pattern.Parser
import VisualNovel.Pattern.Property
import VisualNovel.Pattern.Form.OfPattern
import VisualNovel.Pattern.Size

namespace VisualNovel.Pattern

mutual

/-- The first set that is nested deeper than there is room, outer sets first. -/
def CharSet.tooDeep? (room : Nat) : CharSet → Option Span
  | .bracketed span _ inner =>
    match room with
    | 0 => some span
    | room + 1 => inner.tooDeep? room
  | .union span items =>
    match room with
    | 0 => some span
    | room + 1 => CharSet.anyTooDeep? room items
  | .operation span _ left right =>
    match room with
    | 0 => some span
    | room + 1 => (left.tooDeep? room).orElse fun _ => right.tooDeep? room
  | _ => none

/-- The first of the sets, or within them, that is nested deeper than there is room. -/
def CharSet.anyTooDeep? (room : Nat) : List CharSet → Option Span
  | [] => none
  | set :: rest => (set.tooDeep? room).orElse fun _ => CharSet.anyTooDeep? room rest

end

mutual

/-- The first part that is nested deeper than there is room, outer parts first. -/
def tooDeep? (room : Nat) : Pattern → Option Span
  | .charSet set => set.tooDeep? room
  | .repetition span _ _ _ part =>
    match room with
    | 0 => some span
    | room + 1 => part.tooDeep? room
  | .group span _ _ inner =>
    match room with
    | 0 => some span
    | room + 1 => inner.tooDeep? room
  | .alternation span branches =>
    match room with
    | 0 => some span
    | room + 1 => anyTooDeep? room branches
  | .sequence span parts =>
    match room with
    | 0 => some span
    | room + 1 => anyTooDeep? room parts
  | _ => none

/-- The first of the parts, or within them, that is nested deeper than there is room. -/
def anyTooDeep? (room : Nat) : List Pattern → Option Span
  | [] => none
  | part :: rest => (part.tooDeep? room).orElse fun _ => anyTooDeep? room rest

end

/-- What is wrong with a sign outside of sets, with Unicode turned on or off. -/
def Atom.fault? (unicode : Bool) : Atom → Option Fault
  | .literal c isByte => if !unicode && isByte && 0x80 ≤ c.toNat then some .noText else none
  | .anyChar => if unicode then none else some .noText
  | .assertion _ => none
  | .shorthand _ negated => if !unicode && negated then some .noText else none
  | .property _ name => if unicode then name.fault? else some .unicodeOff

/-- What is wrong with a sign in a set. -/
def Atom.faultInSet? (unicode : Bool) (atom : Atom) : Option Fault :=
  match atom.fault? unicode, atom with
  | none, .literal c _ => if !unicode && 0x80 ≤ c.toNat then some .unicodeOff else none
  | fault, _ => fault

/-- What is wrong with a sign in a set and where. -/
def Sign.faultInSet? (unicode : Bool) (sign : Sign) : Option (Fault × Span) :=
  (sign.atom.faultInSet? unicode).map (·, sign.span)

mutual

/-- The first fault of a set, the inner ones first. Without Unicode, no set may be all but some
characters. -/
def CharSet.fault? (unicode : Bool) : CharSet → Option (Fault × Span)
  | .empty _ => none
  | .sign found => found.faultInSet? unicode
  | .range _ first last =>
    (first.faultInSet? unicode).orElse fun _ => last.faultInSet? unicode
  | .named span _ negated => if !unicode && negated then some (.noText, span) else none
  | .bracketed span negated inner =>
    (inner.fault? unicode).orElse fun _ =>
      if !unicode && negated then some (.noText, span) else none
  | .union _ items => CharSet.firstFault? unicode items
  | .operation _ _ left right => (left.fault? unicode).orElse fun _ => right.fault? unicode

/-- The first fault of the sets. -/
def CharSet.firstFault? (unicode : Bool) : List CharSet → Option (Fault × Span)
  | [] => none
  | set :: rest => (set.fault? unicode).orElse fun _ => CharSet.firstFault? unicode rest

end

mutual

/-- The first fault of a pattern that starts with Unicode turned on or off, or how it is turned
behind the pattern. -/
def unicodeAfter (unicode : Bool) : Pattern → Except (Fault × Span) Bool
  | .empty _ => .ok unicode
  | .flags _ found => .ok ((found.state? .unicode).getD unicode)
  | .sign found =>
    match found.atom.fault? unicode with
    | some fault => .error (fault, found.span)
    | none => .ok unicode
  | .charSet set =>
    match set.fault? unicode with
    | some fault => .error fault
    | none => .ok unicode
  | .repetition _ _ _ _ part => part.unicodeAfter unicode
  | .group _ _ found inner =>
    (inner.unicodeAfter ((found.state? .unicode).getD unicode)).map fun _ => unicode
  | .alternation _ branches => unicodeAfterAll unicode branches
  | .sequence _ parts => unicodeAfterAll unicode parts

/-- The first fault of the parts, or how Unicode is turned behind them. -/
def unicodeAfterAll (unicode : Bool) : List Pattern → Except (Fault × Span) Bool
  | [] => .ok unicode
  | part :: rest =>
    match part.unicodeAfter unicode with
    | .ok unicode => unicodeAfterAll unicode rest
    | .error fault => .error fault

end

/-- Why a text is not accepted as a pattern, if it is not. -/
def refusal? (written : List Char) : Option Refusal :=
  match parse written with
  | .error refusal => some refusal
  | .ok pattern =>
    match pattern.tooDeep? deepest with
    | some span => some (.malformed .nestedTooDeep span none)
    | none =>
      match pattern.unicodeAfter true with
      | .error (fault, span) => some (.malformed fault span none)
      | .ok _ => if pattern.form.isTooLarge then some (.tooLarge Size.largest) else none

/-- The report on a text that is not accepted as a pattern. -/
def report? (written : List Char) : Option String := (refusal? written).map (·.report written)

example :
    refusal? "(?x) [[:alpha:]--\\d] # letter\n (?<rest>\\x\x7b41\x7d\x7b2,\x7d)".toList = none := by
  decide +kernel

example : report? "(?-u)é[z-a]".toList =
    some ("regex parse error:\n    (?-u)é[z-a]\n           ^^^\n"
      ++ "error: invalid character class range, the start must be <= the end") := by
  decide +kernel

end VisualNovel.Pattern
