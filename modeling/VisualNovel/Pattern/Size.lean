/-
# How large patterns are

A part that is repeated so many times is compiled as often, and nothing is shared between its
copies. An automaton has some states around those of the pattern: by those in front it finds a text
that starts anywhere, unless the pattern can only be found at one end.
-/

import VisualNovel.Pattern.Automaton
import VisualNovel.Pattern.Form

namespace VisualNovel.Pattern

open Text

/-- The runs of words between empty ones. -/
def runs (words : List (List Nat)) : List (List (List Nat)) := words.splitOn []

/-- The tails of the words with the first byte. -/
def tailsBehind (byte : Nat) (words : List (List Nat)) : List (List Nat) :=
  (words.filter (·.head? = some byte)).map List.tail

/-- The size with a tree of words that have been read up to the same byte, given in order and not
longer than the fuel. A word that ends here is told apart from those before and behind it, but not
from an equal one in front. -/
def Size.withWords : (fuel : Nat) → List (List Nat) → Size → Size
  | 0, _, size => size
  | fuel + 1, words, size =>
    if words.all List.isEmpty then size
    else
      let ends := ((words.dropWhile List.isEmpty).filter List.isEmpty).length
        + if words.head?.any List.isEmpty then 1 else 0
      let size := ((runs words).filter (!·.isEmpty)).foldl (fun size run =>
        let bytes := (run.filterMap List.head?).eraseDups
        let size := bytes.foldl (fun size byte => withWords fuel (tailsBehind byte run) size) size
        size.grown 1 1 (if bytes.length = 1 then 0 else bytes.length)) size
      size.grown 1 ends 0

/-- The characters of a form that is nothing else. -/
def Form.chars? : Form → Option (List Char)
  | .literal chars => some chars
  | _ => none

/-- The bytes of characters in the order in which they are read. -/
def readBytes (direction : Direction) (chars : List Char) : List Nat :=
  let bytes := chars.flatMap fun c => utf8Bytes c.toNat
  match direction with
  | .forwards => bytes
  | .backwards => bytes.reverse

/-- The size with an alternation of words: a tree of them, and a state at which they all end. -/
def Size.withTree (size : Size) (words : List (List Nat)) : Size :=
  withWords (words.flatten.length + 1) words (size.grown 1 0 0)

/-- The size with so many copies and then any number of them, of a part that is added by the
step. -/
def Size.withUnbounded (step : Size → Size) (isNonempty : Bool) (least : Nat) (size : Size) :
    Size :=
  if least = 0 then
    if isNonempty then step (size.grown 1 2 0) else (step size).grown 3 4 0
  else (size.afterSteps step least).grown 1 2 0

/-- The size with from so many to so many copies of a part that is added by the step. -/
def Size.withBounded (step : Size → Size) (least most : Nat) (size : Size) : Size :=
  let copies := if least = 0 then size.grown 1 0 0 else size.afterSteps step least
  if most ≤ least then copies
  else (copies.grown 1 0 0).afterSteps (fun size => step (size.grown 1 2 0)) (most - least)

mutual

/-- The size with a form. -/
def Size.withForm (direction : Direction) : Form → Size → Size
  | .empty, size => size.grown 1 0 0
  | .literal chars, size => size.grown (chars.map Char.utf8Size).sum 0 0
  | .charClass _ members, size => size.withClass direction members
  | .condition _ _, size => size.grown 1 0 0
  | .repetition least most _ part, size =>
    let step := Size.withForm direction part
    match least, most with
    | 0, some 1 => (step (size.grown 1 2 0)).grown 1 0 0
    | least, none => size.withUnbounded step (part.least?.any (0 < ·)) least
    | least, some most => size.withBounded step least most
  | .capture inner, size =>
    match direction with
    | .forwards => (Size.withForm direction inner (size.grown 1 0 0)).grown 1 0 0
    | .backwards => Size.withForm direction inner size
  | .sequence parts, size => Size.withSequence direction parts size
  | .alternation branches, size =>
    match branches.mapM Form.chars? with
    | some words => size.withTree (words.map (readBytes direction))
    | none => Size.withBranches direction 0 branches size

/-- The size with forms one behind the other, added in the order in which they are read. -/
def Size.withSequence (direction : Direction) : List Form → Size → Size
  | [], size => size
  | part :: rest, size =>
    match direction with
    | .forwards => Size.withSequence direction rest (Size.withForm direction part size)
    | .backwards => Size.withForm direction part (Size.withSequence direction rest size)

/-- The size with branches when so many have been added before. The states at which they start and
end come behind the second one. -/
def Size.withBranches (direction : Direction) (before : Nat) : List Form → Size → Size
  | [], size => size
  | branch :: rest, size =>
    let size := Size.withForm direction branch size
    Size.withBranches direction (before + 1) rest (size.grown (if before = 1 then 2 else 0) 1 0)

end

/-- Whether a form can only be found at the end that an automaton starts from. -/
def Form.isAnchored (direction : Direction) (form : Form) : Bool :=
  match direction with
  | .forwards => form.isAtStart
  | .backwards => form.isAtEnd

/-- The size of the automaton for a form. What is matched is kept only when reading forwards. -/
def Form.size (direction : Direction) (form : Form) : Size :=
  let front : Size := if form.isAnchored direction then Size.grown {} 1 0 0 else Size.grown {} 3 2 1
  ((Form.capture form |> Size.withForm direction) front).grown 1 0 0

/-- Whether an automaton for a form takes more bytes than it may. -/
def Form.isTooLarge (form : Form) : Bool :=
  [Direction.forwards, .backwards].any fun direction => (form.size direction).isTooLarge

example : ((Form.repeated 9 (some 9) false (.literal ['a'])).size .forwards).bytes = 496 := by
  decide +kernel

end VisualNovel.Pattern
