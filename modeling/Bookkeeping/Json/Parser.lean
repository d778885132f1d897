import Bookkeeping.Json.Basic

set_option autoImplicit false

/-! # Reading JSON

A reader of JSON documents over a list of characters. Besides the grammar of the format it takes the
words `NaN`, `Infinity` and `-Infinity` as numbers. Each function reads one construct and answers it
with what follows; the fuel is taken from the length of the text.

A document may be no document at all, or one beyond the limits: of the digits of a whole number and of
the depth of nesting. Of several faults the first in the order of reading counts. -/

namespace Bookkeeping.Json

open Decimal (isAsciiDigit asciiValue)
open Text (hexValue?)

/-- Why a text is not read as a document. -/
inductive ReadFault where
  /-- It is no document. -/
  | malformed
  /-- A whole number has more than `Text.maxNumberDigits` digits. -/
  | numberTooLong
  /-- Lists and objects are nested too deep. -/
  | tooDeep
  deriving DecidableEq, Repr

/-- What reading a construct answers: the construct and what follows it. -/
abbrev Read (α : Type) := Except ReadFault (α × List Char)

/-! ## Lexical parts -/

/-- Skip spaces, tabs and line ends. -/
def skipSpace (cs : List Char) : List Char :=
  cs.dropWhile fun c => c = ' ' || c = '\t' || c = '\n' || c = '\r'

/-- Remove an expected word from the front. -/
def expect? : List Char → List Char → Option (List Char)
  | [], cs => some cs
  | _ :: _, [] => none
  | w :: word, c :: cs => if w = c then expect? word cs else none

/-- Read four hexadecimal digits. -/
def readUnit? : List Char → Option (Nat × List Char)
  | a :: b :: c :: d :: rest => do
      let a ← hexValue? a
      let b ← hexValue? b
      let c ← hexValue? c
      let d ← hexValue? d
      some (((a * 16 + b) * 16 + c) * 16 + d, rest)
  | _ => none

/-- Read a character escaped by its code, after the letter u: one unit, or a pair of them for a
    character beyond the first plane. Half a pair is replaced. -/
def readCode? (cs : List Char) : Option (Char × List Char) := do
  let (n, rest) ← readUnit? cs
  if 0xD800 ≤ n ∧ n < 0xDC00 then
    match rest with
    | '\\' :: 'u' :: rest' =>
      match readUnit? rest' with
      | some (m, rest'') =>
        if 0xDC00 ≤ m ∧ m < 0xE000 then
          some (Char.ofNat (0x10000 + (n - 0xD800) * 1024 + (m - 0xDC00)), rest'')
        else some (Char.ofNat 0xFFFD, rest)
      | none => some (Char.ofNat 0xFFFD, rest)
    | _ => some (Char.ofNat 0xFFFD, rest)
  else if 0xDC00 ≤ n ∧ n < 0xE000 then some (Char.ofNat 0xFFFD, rest)
  else some (Char.ofNat n, rest)

/-- The character that a letter after a backslash stands for. -/
def simpleEscape? (c : Char) : Option Char :=
  if c = '"' || c = '\\' || c = '/' then some c
  else if c = 'n' then some '\n'
  else if c = 'r' then some '\r'
  else if c = 't' then some '\t'
  else if c = 'b' then some (Char.ofNat 8)
  else if c = 'f' then some (Char.ofNat 12)
  else none

/-- Read a string after its opening quote; `acc` holds what is read, last character first. -/
def readString? : Nat → List Char → List Char → Option (String × List Char)
  | 0, _, _ => none
  | _ + 1, _, [] => none
  | fuel + 1, acc, c :: cs =>
      if c = '"' then some (String.ofList acc.reverse, cs)
      else if c = '\\' then
        match cs with
        | [] => none
        | e :: rest =>
          if e = 'u' then
            match readCode? rest with
            | some (x, rest') => readString? fuel (x :: acc) rest'
            | none => none
          else
            match simpleEscape? e with
            | some x => readString? fuel (x :: acc) rest
            | none => none
      else if c.toNat < 32 then none
      else readString? fuel (c :: acc) cs

/-- Read the exponent of a number, if one stands here in full. -/
def readExponent (cs : List Char) : List Char × List Char :=
  match cs with
  | c :: rest =>
      if c = 'e' || c = 'E' then
        let sign := rest.takeWhile fun d => d = '+' || d = '-'
        let after := rest.drop sign.length
        let digits := after.takeWhile isAsciiDigit
        if sign.length ≤ 1 && !digits.isEmpty then
          (c :: (sign ++ digits), after.drop digits.length)
        else ([], cs)
      else ([], cs)
  | [] => ([], [])

/-- Read the fraction of a number, if one stands here in full. -/
def readFraction (cs : List Char) : List Char × List Char :=
  match cs with
  | '.' :: rest =>
      let digits := rest.takeWhile isAsciiDigit
      if digits.isEmpty then ([], cs) else ('.' :: digits, rest.drop digits.length)
  | _ => ([], cs)

/-- Read a number: a whole number without leading zeros, with an optional fraction and an optional
    exponent. -/
def readNumber (cs : List Char) : Read Json :=
  let (negative, body) :=
    match cs with
    | '-' :: rest => (true, rest)
    | _ => (false, cs)
  let run := body.takeWhile isAsciiDigit
  let whole := if run.head? = some '0' then ['0'] else run
  if whole.isEmpty then .error .malformed
  else
    let (fraction, afterFraction) := readFraction (body.drop whole.length)
    let (exponent, rest) := readExponent afterFraction
    if fraction.isEmpty && exponent.isEmpty then
      if Text.maxNumberDigits < whole.length then .error .numberTooLong
      else .ok (.int (Decimal.signed negative (asciiValue whole)), rest)
    else
      let text := (if negative then ['-'] else []) ++ whole ++ fraction ++ exponent
      match Binary64.ofText? (String.ofList text) with
      | some x => .ok (.float x, rest)
      | none => .error .malformed

/-! ## Documents -/

/-- Of several fields with one name the last counts, at the place of the first. -/
def mergeFields (fields : List (String × Json)) : List (String × Json) :=
  fields.foldl
    (fun acc f =>
      if acc.any fun g => g.1 == f.1 then acc.map fun g => if g.1 == f.1 then f else g
      else acc ++ [f])
    []

/-- Read an expected word that stands for a document. -/
def readWord (word : String) (j : Json) (cs : List Char) : Read Json :=
  match expect? word.toList cs with
  | some rest => .ok (j, rest)
  | none => .error .malformed

/-- Read a string after its opening quote. -/
def readText (cs : List Char) : Read String :=
  match readString? (cs.length + 1) [] cs with
  | some r => .ok r
  | none => .error .malformed

mutual

/-- Read one value in which lists and objects may be nested `depth` deep. -/
def readValue (depth : Nat) : Nat → List Char → Read Json
  | 0, _ => .error .malformed
  | fuel + 1, cs =>
      match skipSpace cs with
      | [] => .error .malformed
      | '"' :: rest => (readText rest).map fun r => (.text r.1, r.2)
      | '[' :: rest =>
        match depth with
        | 0 => .error .tooDeep
        | depth + 1 =>
          match skipSpace rest with
          | ']' :: rest' => .ok (.list [], rest')
          | _ => (readItems depth fuel [] rest).map fun r => (.list r.1, r.2)
      | '{' :: rest =>
        match depth with
        | 0 => .error .tooDeep
        | depth + 1 =>
          match skipSpace rest with
          | '}' :: rest' => .ok (.object [], rest')
          | _ => (readFields depth fuel [] rest).map fun r => (.object (mergeFields r.1), r.2)
      | 'n' :: rest => readWord "ull" .null rest
      | 't' :: rest => readWord "rue" (.bool true) rest
      | 'f' :: rest => readWord "alse" (.bool false) rest
      | 'N' :: rest => readWord "aN" (.float .nan) rest
      | 'I' :: rest => readWord "nfinity" (.float (.infinity false)) rest
      | '-' :: 'I' :: rest => readWord "nfinity" (.float (.infinity true)) rest
      | rest => readNumber rest

/-- Read the items of a list that is not empty, up to its closing bracket. -/
def readItems (depth : Nat) : Nat → List Json → List Char → Read (List Json)
  | 0, _, _ => .error .malformed
  | fuel + 1, acc, cs =>
      match readValue depth fuel cs with
      | .error f => .error f
      | .ok (j, rest) =>
        match skipSpace rest with
        | ',' :: rest' => readItems depth fuel (j :: acc) rest'
        | ']' :: rest' => .ok ((j :: acc).reverse, rest')
        | _ => .error .malformed

/-- Read the fields of an object that is not empty, up to its closing brace. -/
def readFields (depth : Nat) : Nat → List (String × Json) → List Char → Read (List (String × Json))
  | 0, _, _ => .error .malformed
  | fuel + 1, acc, cs =>
      match skipSpace cs with
      | '"' :: rest =>
        match readText rest with
        | .error f => .error f
        | .ok (name, rest) =>
          match skipSpace rest with
          | ':' :: rest =>
            match readValue depth fuel rest with
            | .error f => .error f
            | .ok (j, rest) =>
              match skipSpace rest with
              | ',' :: rest' => readFields depth fuel ((name, j) :: acc) rest'
              | '}' :: rest' => .ok (((name, j) :: acc).reverse, rest')
              | _ => .error .malformed
          | _ => .error .malformed
      | _ => .error .malformed

end

/-- Deepest nesting of lists and objects in a document. -/
def maxDepth : Nat := 960

/-- Read a document that fills the whole text. -/
def readDocument (cs : List Char) : Except ReadFault Json :=
  match readValue maxDepth (cs.length + 1) cs with
  | .ok (j, rest) => if (skipSpace rest).isEmpty then .ok j else .error .malformed
  | .error f => .error f

end Bookkeeping.Json
