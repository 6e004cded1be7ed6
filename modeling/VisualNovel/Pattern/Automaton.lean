/-
# Sizes of automata

The form of a pattern is compiled to an automaton that reads texts byte by byte, from their start or
from their end. Its states are numbered as they are added, and it takes a fixed number of bytes for
each state and some more for the links of states that have several. Links themselves are not kept
here: the size of an automaton is what is computed. Where a class of characters is compiled, a
state that would be like an earlier one is taken instead of a new one, as far as it is remembered.
-/

import VisualNovel.Text.ByteRange
import Std.Data.HashMap

namespace VisualNovel.Pattern

open Text

/-- The way in which an automaton reads. -/
inductive Direction
  | forwards
  | backwards
  deriving DecidableEq, Repr

/-- The size of an automaton so far: how many states it has, and how many bytes their links
take. -/
structure Size where
  states : Nat := 0
  linkBytes : Nat := 0
  deriving DecidableEq, Repr

namespace Size

/-- The bytes of a state. -/
def stateBytes : Nat := 32

/-- The bytes of a link that is followed without reading. -/
def linkedBytes : Nat := 4

/-- The bytes of a link that is followed by reading a byte. -/
def readingBytes : Nat := 8

/-- The most bytes that an automaton may take. -/
def largest : Nat := 10485760

/-- The bytes of all states and links. -/
def bytes (size : Size) : Nat := stateBytes * size.states + size.linkBytes

/-- Whether there are more bytes than there may be. -/
def isTooLarge (size : Size) : Bool := largest < size.bytes

/-- The size with more states, which have so many links of either kind. -/
def grown (size : Size) (states linked reading : Nat) : Size where
  states := size.states + states
  linkBytes := size.linkBytes + linkedBytes * linked + readingBytes * reading

/-- The size after a step is done so many times, or until it is too large. -/
def afterSteps (step : Size → Size) : (count : Nat) → Size → Size
  | 0, size => size
  | count + 1, size => if size.isTooLarge then size else afterSteps step count (step size)

end Size

/-- A memory with so many places for states. What is remembered takes the place of what was there
before it, and where its place is depends on what the state is like. -/
structure Memory (α : Type) where
  places : Nat
  held : Std.HashMap Nat (α × Nat) := {}

namespace Memory

variable {α : Type} [BEq α]

/-- The place for numbers that tell what a state is like. -/
def place (memory : Memory α) (numbers : List Nat) : Nat :=
  let mixed := numbers.foldl (fun (mixed : UInt64) number =>
    (mixed ^^^ number.toUInt64) * 1099511628211) 14695981039346656037
  mixed.toNat % memory.places

/-- The state that is remembered for a description. -/
def find? (memory : Memory α) (place : Nat) (description : α) : Option Nat :=
  match memory.held[place]? with
  | some (held, state) => if held == description then some state else none
  | none => none

/-- The memory with one more state. -/
def remember (memory : Memory α) (place : Nat) (description : α) (state : Nat) : Memory α :=
  { memory with held := memory.held.insert place (description, state) }

end Memory

/-- A state that reads a byte of a range and goes on to another state. -/
abbrev ByteState := Nat × Nat × Nat

/-- The state that reads a byte of the range before the given state, and the size with it. -/
def stateBefore (size : Size) (memory : Memory ByteState) (next : Nat) (range : Nat × Nat) :
    Nat × Size × Memory ByteState :=
  let place := memory.place [next, range.1, range.2]
  match memory.find? place (next, range) with
  | some state => (state, size, memory)
  | none => (size.states, size.grown 1 0 0, memory.remember place (next, range) size.states)

/-- The size with the states for one text of a class, which ends at the given state. -/
def textBackwards (stop : Nat) (grown : Size × Memory ByteState) (ranges : List (Nat × Nat)) :
    Size × Memory ByteState :=
  let (_, size, memory) := ranges.foldl (fun (next, size, memory) range =>
    stateBefore size memory next range) (stop, grown)
  (size.grown 0 1 0, memory)

/-- The size with a class that is read backwards: a state with a link for each text, and one at
which they all end. -/
def Size.withClassBackwards (size : Size) (texts : List (List (Nat × Nat))) : Size :=
  (texts.foldl (textBackwards (size.states + 1)) (size.grown 2 0 0, { places := 1000 })).1

/-- A state of a class that may get more links: those it has, latest first, and the range of the one
whose state is not known yet. -/
structure OpenState where
  links : List (Nat × Nat × Nat) := []
  range : Nat × Nat

/-- The links of a state, in order. -/
abbrev LinkedState := List (Nat × Nat × Nat)

/-- The state with the links, and the size with it. -/
def stateWith (size : Size) (memory : Memory LinkedState) (links : LinkedState) :
    Nat × Size × Memory LinkedState :=
  let place := memory.place (links.flatMap fun (first, last, next) => [first, last, next])
  match memory.find? place links with
  | some state => (state, size, memory)
  | none =>
    (size.states, size.grown 1 0 links.length, memory.remember place links size.states)

/-- The first of the states on a path, when they get no more links. The last one goes on to the
given state. -/
def closePath (stop : Nat) (size : Size) (memory : Memory LinkedState) :
    List OpenState → Nat × Size × Memory LinkedState
  | [] => (stop, size, memory)
  | state :: path =>
    let (next, size, memory) := closePath stop size memory path
    stateWith size memory ((state.range.1, state.range.2, next) :: state.links).reverse

/-- The path with one more text. What it has in common with the text before it is kept open. -/
def openPath (stop : Nat) (size : Size) (memory : Memory LinkedState) :
    List OpenState → List (Nat × Nat) → List OpenState × Size × Memory LinkedState
  | [], ranges => (ranges.map fun range => { range }, size, memory)
  | path, [] => (path, size, memory)
  | state :: path, range :: ranges =>
    if state.range = range then
      let (path, size, memory) := openPath stop size memory path ranges
      (state :: path, size, memory)
    else
      let (next, size, memory) := closePath stop size memory path
      let links := (state.range.1, state.range.2, next) :: state.links
      ({ links, range } :: ranges.map fun range => { range }, size, memory)

/-- The size with a class that is read forwards: states that share what they have in common, and one
at which all texts end. -/
def Size.withClassForwards (size : Size) (texts : List (List (Nat × Nat))) : Size :=
  let stop := size.states
  let (path, size, memory) := texts.foldl (fun (path, size, memory) ranges =>
    openPath stop size memory path ranges)
    (([] : List OpenState), size.grown 1 0 0, ({ places := 10000 } : Memory LinkedState))
  (closePath stop size memory path).2.1

/-- The size with a class. One of ASCII characters takes one state besides that at which it ends. -/
def Size.withClass (direction : Direction) (size : Size) (members : RangeTable) : Size :=
  if members.all (·.2 < 0x80) then size.grown 2 0 members.length
  else
    match direction with
    | .forwards => size.withClassForwards (byteRanges members)
    | .backwards => size.withClassBackwards (byteRanges members)

end VisualNovel.Pattern
