/-
# Reading TOML text

A document is read line by line into statements, of which `Document` makes sense. Strings are in
double quotes with escapes or in single quotes without, and three quotes at either end let them run
over several lines. Arrays and inline tables may spread over lines and hold comments, though not
within a path of keys, and may have a comma before their end. A line break may be written with a
carriage return, which a string over several lines keeps; no carriage return stands for itself.
Nesting and the length of key paths are limited.
-/

import VisualNovel.Toml.Document
import VisualNovel.Toml.MomentTable
import VisualNovel.Toml.Scalar

namespace VisualNovel.Toml

open Text

namespace Parser

/-- A blank within a line. -/
def isSpace (c : Char) : Bool := c == ' ' || c == '\t'

/-- A control character, which strings and comments do not hold. -/
def isControl (c : Char) : Bool := (c.toNat < 0x20 && c != '\t') || c.toNat = 0x7F

/-- The rest after blanks. -/
def skipSpaces (rest : List Char) : List Char := rest.dropWhile isSpace

/-- The rest after blanks, line breaks and comments. -/
def skipLayout (inComment : Bool) : List Char → Option (List Char)
  | [] => some []
  | '\n' :: rest => skipLayout false rest
  | '\r' :: '\n' :: rest => skipLayout false rest
  | c :: rest =>
    if inComment then if isControl c then none else skipLayout true rest
    else if isSpace c then skipLayout false rest
    else if c = '#' then skipLayout true rest
    else some (c :: rest)

/-- Whether a line ends here, perhaps with a comment. -/
def isLineEnd : List Char → Bool
  | [] => true
  | '\n' :: _ => true
  | '\r' :: '\n' :: _ => true
  | '#' :: _ => true
  | _ => false

/-- The rest after blanks and line breaks. -/
def skipBlanks : List Char → List Char
  | [] => []
  | '\r' :: '\n' :: rest => skipBlanks rest
  | c :: rest => if isSpace c || c == '\n' then skipBlanks rest else c :: rest

/-- The character with the code that the hexadecimal digits denote. -/
def charOfHex? (digits : List Char) : Option Char :=
  if digits.all (Scalar.isDigitOf 16) then
    let code := digits.foldl (fun n c => n * 16 + Scalar.digitValue c) 0
    if h : code.isValidChar then some (Char.ofNatAux code h) else none
  else none

/-- What one character after a backslash stands for. -/
def simpleEscape? : Char → Option Char
  | 'b' => some '\x08'
  | 't' => some '\t'
  | 'n' => some '\n'
  | 'f' => some '\x0c'
  | 'r' => some '\r'
  | 'e' => some '\x1b'
  | '"' => some '"'
  | '\\' => some '\\'
  | _ => none

/-- How many hexadecimal digits follow the mark of an escape, if it is one that they follow. -/
def hexEscapeLength? : Char → Option Nat
  | 'x' => some 2
  | 'u' => some 4
  | 'U' => some 8
  | _ => none

/-- The character that an escape stands for, read after its backslash. -/
def escape? : List Char → Option (Char × List Char)
  | [] => none
  | c :: rest =>
    match hexEscapeLength? c with
    | some count =>
      let digits := rest.take count
      if digits.length < count then none else (charOfHex? digits).map (·, rest.drop count)
    | none => (simpleEscape? c).map (·, rest)

/-- A string on one line after its opening double quote; what was read of it is given latest
first. -/
def basicString (fuel : Nat) (before : List Char) (rest : List Char) :
    Option (String × List Char) :=
  match fuel, rest with
  | 0, _ | _, [] => none
  | _, '"' :: rest => some (String.ofList before.reverse, rest)
  | fuel + 1, '\\' :: rest => do
    let (c, rest) ← escape? rest
    basicString fuel (c :: before) rest
  | fuel + 1, c :: rest => if isControl c then none else basicString fuel (c :: before) rest

/-- A string on one line after its opening single quote. -/
def literalString (rest : List Char) : Option (String × List Char) :=
  let found := rest.takeWhile (· != '\'')
  match rest.dropWhile (· != '\'') with
  | _ :: rest => if found.any isControl then none else some (String.ofList found, rest)
  | [] => none

/-- How many of the given quotes the rest starts with. -/
def quotes (quote : Char) (rest : List Char) : Nat := (rest.takeWhile (· == quote)).length

/-- What follows a backslash that takes a line break and all blanks after it away. -/
def afterContinuation? (rest : List Char) : Option (List Char) :=
  match skipSpaces rest with
  | '\n' :: rest => some (skipBlanks rest)
  | '\r' :: '\n' :: rest => some (skipBlanks rest)
  | _ => none

/-- A string over several lines after its opening quotes; what was read of it is given latest first.
Backslashes mean something in double quotes only. Of up to five quotes at the end, those before the
last three belong to the string. -/
def longString (quote : Char) (fuel : Nat) (before : List Char) (rest : List Char) :
    Option (String × List Char) :=
  match fuel, rest with
  | 0, _ | _, [] => none
  | fuel + 1, '\r' :: '\n' :: rest => longString quote fuel ('\n' :: '\r' :: before) rest
  | fuel + 1, c :: more =>
    if c = quote then
      let count := quotes quote rest
      if count < 3 then longString quote fuel (c :: before) more
      else if count ≤ 5 then
        let inner := List.replicate (count - 3) quote ++ before
        some (String.ofList inner.reverse, rest.drop count)
      else none
    else if c = '\\' && quote = '"' then
      match afterContinuation? more with
      | some rest => longString quote fuel before rest
      | none => do
        let (c, rest) ← escape? more
        longString quote fuel (c :: before) rest
    else if isControl c && c != '\n' then none
    else longString quote fuel (c :: before) more

/-- A string over several lines, without the line break right after its opening quotes. -/
def longStringBody (quote : Char) : List Char → Option (String × List Char)
  | '\n' :: rest => longString quote (rest.length + 1) [] rest
  | '\r' :: '\n' :: rest => longString quote (rest.length + 1) [] rest
  | rest => longString quote (rest.length + 1) [] rest

/-- A character of a bare key. -/
def isBareKeyChar (c : Char) : Bool :=
  isAsciiDigit c || ('a' ≤ c.toLower && c.toLower ≤ 'z') || c == '_' || c == '-'

/-- One key of a path. -/
def key (rest : List Char) : Option (String × List Char) :=
  match rest with
  | '"' :: rest => basicString (rest.length + 1) [] rest
  | '\'' :: rest => literalString rest
  | rest =>
    let found := rest.takeWhile isBareKeyChar
    if found.isEmpty then none else some (String.ofList found, rest.dropWhile isBareKeyChar)

/-- Keys with points between them, those read before given latest first: the path and its last
key. -/
def keys (fuel : Nat) (before : List String) (rest : List Char) :
    Option ((List String × String) × List Char) :=
  match fuel with
  | 0 => none
  | fuel + 1 => do
    let (found, rest) ← key (skipSpaces rest)
    match skipSpaces rest with
    | '.' :: rest => keys fuel (found :: before) rest
    | rest => some ((before.reverse, found), rest)

/-- How many keys a path has at most, and how deep arrays and inline tables are nested at most. -/
def limit : Nat := 80

/-- The keys at the front of the text. -/
def path (rest : List Char) : Option ((List String × String) × List Char) := do
  let ((path, key), rest) ← keys (rest.length + 1) [] rest
  guard (path.length < limit)
  return ((path, key), rest)

/-- A character of an unquoted scalar. -/
def isScalarChar (c : Char) : Bool :=
  isBareKeyChar c || c == '+' || c == '.' || c == ':'

/-- An unquoted scalar. A date and a time may have a space between them. -/
def scalar (rest : List Char) : Option (Toml × List Char) :=
  let found := rest.takeWhile isScalarChar
  let rest := rest.dropWhile isScalarChar
  let time := rest.tail.takeWhile isScalarChar
  if rest.head? = some ' ' && ((Date.reader found).map (·.2)) = some []
      && (time.head?.map isAsciiDigit).getD false then
    (Scalar.read? (found ++ ' ' :: time)).map (·, rest.tail.dropWhile isScalarChar)
  else (Scalar.read? found).map (·, rest)

mutual

/-- A value, with `fuel` bounding how many values are read and `room` how many more arrays and
inline tables may be opened around each other. -/
def value (fuel room : Nat) (rest : List Char) : Option (Toml × List Char) :=
  match fuel with
  | 0 => none
  | fuel + 1 =>
    match rest with
    | '"' :: '"' :: '"' :: rest => do
      let (found, rest) ← longStringBody '"' rest
      return (.text found, rest)
    | '"' :: rest => do
      let (found, rest) ← basicString (rest.length + 1) [] rest
      return (.text found, rest)
    | '\'' :: '\'' :: '\'' :: rest => do
      let (found, rest) ← longStringBody '\'' rest
      return (.text found, rest)
    | '\'' :: rest => do
      let (found, rest) ← literalString rest
      return (.text found, rest)
    | '[' :: rest => if room = 0 then none else items fuel (room - 1) [] rest
    | '\x7b' :: rest => if room = 0 then none else assignments fuel (room - 1) [] rest
    | rest => scalar rest

/-- The items of an array from its next item or its end on, those before it given latest first. -/
def items (fuel room : Nat) (before : List Toml) (rest : List Char) :
    Option (Toml × List Char) :=
  match fuel with
  | 0 => none
  | fuel + 1 => do
    match ← skipLayout false rest with
    | ']' :: rest => some (.array before.reverse, rest)
    | rest => do
      let (found, rest) ← value fuel room rest
      match ← skipLayout false rest with
      | ',' :: rest => items fuel room (found :: before) rest
      | ']' :: rest => some (.array (found :: before).reverse, rest)
      | _ => none

/-- The assignments of an inline table from its next one or its end on, those before it given latest
first. -/
def assignments (fuel room : Nat) (before : List (List String × String × Toml))
    (rest : List Char) : Option (Toml × List Char) :=
  match fuel with
  | 0 => none
  | fuel + 1 => do
    match ← skipLayout false rest with
    | '\x7d' :: rest => (Document.inlineTable? before.reverse).map (·, rest)
    | rest => do
      let ((path, key), rest) ← path rest
      let ((), rest) ← Reader.literal '=' (← skipLayout false rest)
      let (found, rest) ← value fuel room (← skipLayout false rest)
      let all := (path, key, found) :: before
      match ← skipLayout false rest with
      | ',' :: rest => assignments fuel room all rest
      | '\x7d' :: rest => (Document.inlineTable? all.reverse).map (·, rest)
      | _ => none

end

/-- The statement of a line that has one. -/
def statement (rest : List Char) : Option (Statement × List Char) :=
  match rest with
  | '[' :: '[' :: rest => do
    let ((path, key), rest) ← path rest
    match rest with
    | ']' :: ']' :: rest => some (.element path key, rest)
    | _ => none
  | '[' :: rest => do
    let ((path, key), rest) ← path rest
    match rest with
    | ']' :: rest => some (.header path key, rest)
    | _ => none
  | rest => do
    let ((path, key), rest) ← path rest
    let ((), rest) ← Reader.literal '=' rest
    let (found, rest) ← value (2 * rest.length + 2) limit (skipSpaces rest)
    return (.assign path key found, rest)

/-- The statements of a document, those read before given latest first. -/
def statements (fuel : Nat) (before : List Statement) (rest : List Char) :
    Option (List Statement) :=
  match fuel with
  | 0 => none
  | fuel + 1 => do
    match ← skipLayout false rest with
    | [] => some before.reverse
    | rest => do
      let (found, rest) ← statement rest
      let rest := skipSpaces rest
      if isLineEnd rest then statements fuel (found :: before) rest else none

end Parser

/-- The keys and values of a document, if the text is one. -/
def parse? (text : String) : Option (List (String × Toml)) :=
  let chars := text.toList
  let chars := if chars.head? = some '\uFEFF' then chars.tail else chars
  ((Parser.statements (chars.length + 1) [] chars).bind Document.ofStatements?).bind
    entriesWithMoments?

end VisualNovel.Toml
