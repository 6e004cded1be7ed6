/-
# Forms

The form of a pattern is what is left of it when flags, names and other ways of writing the same
have been resolved. It is built by operations that leave out what makes no difference: a sequence
has no sequences and no empty parts in it and joins the characters next to each other, and branches
of one character each are one class of characters.
-/

import VisualNovel.Pattern.Basic
import VisualNovel.Text.RangeTable.Algebra

namespace VisualNovel.Pattern

open Text

/-- The form of a pattern. -/
inductive Form
  | empty
  /-- Characters one behind the other. There is at least one. -/
  | literal (chars : List Char)
  /-- One character of a class, which may be one of bytes. -/
  | charClass (ofBytes : Bool) (members : RangeTable)
  /-- A condition on a place. Where it is about ends of lines, it may allow for carriage returns,
  and where it is about words, for those of all scripts. -/
  | condition (condition : Condition) (extended : Bool)
  | repetition (least : Nat) (most : Option Nat) (isLazy : Bool) (part : Form)
  | capture (inner : Form)
  | sequence (parts : List Form)
  | alternation (branches : List Form)

namespace Form

mutual

/-- The least number of bytes of a text with the form, unless some part of it has no text. -/
def least? : Form → Option Nat
  | empty | condition _ _ => some 0
  | literal chars => some (chars.map Char.utf8Size).sum
  | charClass _ members => members.head?.map fun range => (Char.ofNat range.1).utf8Size
  | repetition least _ _ part => part.least?.map (least * ·)
  | capture inner => inner.least?
  | sequence parts => leastOfAll? parts
  | alternation branches => leastOfAny? branches

/-- The least number of bytes of the parts together. -/
def leastOfAll? : List Form → Option Nat
  | [] => some 0
  | part :: rest => return (← part.least?) + (← leastOfAll? rest)

/-- The least number of bytes of any of the branches. -/
def leastOfAny? : List Form → Option Nat
  | [] => none
  | [branch] => branch.least?
  | branch :: rest => return min (← branch.least?) (← leastOfAny? rest)

end

mutual

/-- The greatest number of bytes of a text with the form, if there is one. -/
def most? : Form → Option Nat
  | empty | condition _ _ => some 0
  | literal chars => some (chars.map Char.utf8Size).sum
  | charClass _ members => members.getLast?.map fun range => (Char.ofNat range.2).utf8Size
  | repetition _ most _ part => return (← most) * (← part.most?)
  | capture inner => inner.most?
  | sequence parts => mostOfAll? parts
  | alternation branches => mostOfAny? branches

/-- The greatest number of bytes of the parts together. -/
def mostOfAll? : List Form → Option Nat
  | [] => some 0
  | part :: rest => return (← part.most?) + (← mostOfAll? rest)

/-- The greatest number of bytes of any of the branches. -/
def mostOfAny? : List Form → Option Nat
  | [] => none
  | [branch] => branch.most?
  | branch :: rest => return max (← branch.most?) (← mostOfAny? rest)

end

/-- Whether the form has no text but the empty one. -/
def isEmpty (form : Form) : Bool := form.most? == some 0

mutual

/-- Whether a text with the form can only be found at the start of the whole text. -/
def isAtStart : Form → Bool
  | condition .textStart _ => true
  | repetition least _ _ part => 0 < least && part.isAtStart
  | capture inner => inner.isAtStart
  | sequence parts => startsAtStart parts
  | alternation branches => allAtStart branches
  | _ => false

/-- Whether the sequence of the parts can only be found at the start. -/
def startsAtStart : List Form → Bool
  | [] => false
  | part :: rest => part.isAtStart || (part.isEmpty && startsAtStart rest)

/-- Whether each of the branches can only be found at the start. -/
def allAtStart : List Form → Bool
  | [] => true
  | branch :: rest => branch.isAtStart && allAtStart rest

end

mutual

/-- Whether a text with the form can only be found at the end of the whole text. -/
def isAtEnd : Form → Bool
  | condition .textEnd _ => true
  | repetition least _ _ part => 0 < least && part.isAtEnd
  | capture inner => inner.isAtEnd
  | sequence parts => endsAtEnd parts
  | alternation branches => allAtEnd branches
  | _ => false

/-- Whether the sequence of the parts can only be found at the end. -/
def endsAtEnd : List Form → Bool
  | [] => false
  | part :: rest => endsAtEnd rest || (rest.all isEmpty && part.isAtEnd)

/-- Whether each of the branches can only be found at the end. -/
def allAtEnd : List Form → Bool
  | [] => true
  | branch :: rest => branch.isAtEnd && allAtEnd rest

end

mutual

/-- Whether two forms are the same. No two captures are, because each is kept on its own. -/
def isSame : Form → Form → Bool
  | empty, empty => true
  | literal left, literal right => left == right
  | charClass ofBytes members, charClass otherBytes others =>
    ofBytes == otherBytes && members == others
  | condition left extended, condition right otherExtended =>
    left == right && extended == otherExtended
  | repetition least most isLazy part, repetition otherLeast otherMost otherLazy other =>
    least == otherLeast && most == otherMost && isLazy == otherLazy && part.isSame other
  | sequence left, sequence right => areSame left right
  | alternation left, alternation right => areSame left right
  | _, _ => false

/-- Whether the forms are the same, one by one. -/
def areSame : List Form → List Form → Bool
  | [], [] => true
  | left :: lefts, right :: rights => left.isSame right && areSame lefts rights
  | _, _ => false

end

/-- The form that no text has. -/
def nothing : Form := charClass true []

/-- One character of a class. -/
def ofClass (ofBytes : Bool) (members : RangeTable) : Form :=
  match members with
  | [] => nothing
  | [(first, last)] =>
    if first = last then literal [Char.ofNat first] else charClass ofBytes members
  | _ => charClass ofBytes members

/-- A part so many times. The empty text need not be repeated. -/
def repeated (least : Nat) (most : Option Nat) (isLazy : Bool) (part : Form) : Form :=
  let (least, most) :=
    if part.isEmpty then (min least 1, some (min (most.getD 1) 1)) else (least, most)
  if most = some 0 then empty
  else if least = 1 && most = some 1 then part
  else repetition least most isLazy part

/-- The parts of a form as a sequence. -/
def parts : Form → List Form
  | empty => []
  | sequence parts => parts
  | form => [form]

/-- A form in front of others, joined with them if both are characters. -/
def attached (form : Form) (rest : List Form) : List Form :=
  match form, rest with
  | literal chars, literal more :: rest => literal (chars ++ more) :: rest
  | form, rest => form :: rest

/-- The forms one behind the other. -/
def inSequence (forms : List Form) : Form :=
  match (forms.flatMap parts).foldr attached [] with
  | [] => empty
  | [form] => form
  | forms => sequence forms

/-- The branches of a form as an alternation. -/
def branches : Form → List Form
  | alternation branches => branches
  | form => [form]

/-- The class of a form that has one character. -/
def singleChar? : Form → Option RangeTable
  | literal [c] => some (RangeTable.single c.toNat)
  | _ => none

/-- The class of a form that is a class. -/
def class? : Form → Option RangeTable
  | charClass _ members => some members
  | _ => none

/-- One of the forms. Where all are characters or all are classes, they become one class. -/
def anyOf (forms : List Form) : Form :=
  match forms.flatMap branches with
  | [] => nothing
  | [form] => form
  | forms =>
    match (forms.mapM singleChar?).orElse fun _ => forms.mapM class? with
    | some members => ofClass false (RangeTable.unions members)
    | none => alternation forms

/-- The parts of a form if it is a sequence. -/
def sequence? : Form → Option (List Form)
  | sequence parts => some parts
  | _ => none

/-- How many parts two sequences have in common at their starts. -/
def commonLength : List Form → List Form → Nat
  | left :: lefts, right :: rights =>
    if left.isSame right then commonLength lefts rights + 1 else 0
  | _, _ => 0

/-- How many parts all the sequences have in common at their starts. -/
def commonLengthOfAll : List (List Form) → Nat
  | [] => 0
  | [parts] => parts.length
  | parts :: rest => ((rest.map (commonLength parts)).min?).getD 0

/-- An alternation of sequences with the parts in front that all of them have in common. -/
def lifted (form : Form) : Form :=
  match form with
  | alternation forms =>
    match forms.mapM sequence? with
    | some (first :: rest) =>
      let common := commonLengthOfAll (first :: rest)
      if common = 0 then form
      else
        let others := (first :: rest).map fun parts => inSequence (parts.drop common)
        inSequence (first.take common ++ [anyOf others])
    | _ => form
  | _ => form

/-- The forms with bars between. -/
def alternatives (forms : List Form) : Form := lifted (anyOf forms)

example : inSequence [literal ['a'], empty, sequence [literal ['b'], charClass false [(1, 2)]]]
    |>.isSame (sequence [literal ['a', 'b'], charClass false [(1, 2)]]) := by decide

end Form

end VisualNovel.Pattern
