import Bookkeeping.Binary64.Places
import Bookkeeping.Json.Basic
import Bookkeeping.Text.LetterCase

set_option autoImplicit false

/-! # Templates of log messages

A log message may be a template whose placeholders are filled with arguments. A placeholder is a
percent sign, an optional key, flags, a width, a precision and a letter that tells the conversion;
width and precision may be taken from the arguments, too. Two percent signs stand for one.
Arguments are values of documents, given one after the other, or by key if the only argument is an
object.

A template is filled from left to right and the first fault ends it. A number may be shown as the
character that it is the code of, and half of a surrogate pair has a code and is no character; so a
message is a list of codes. -/

namespace Bookkeeping.Log

open Bookkeeping.Text

/-! ## Faults -/

/-- Why a template cannot be filled. -/
inductive TemplateFault where
  | argumentMissing
  | argumentLeft
  /-- A key is given, and the arguments have no keys. -/
  | noKeys
  | unknownKey (key : String)
  | keyOpen
  | placeholderOpen
  /-- A letter that tells no conversion, and where it stands. -/
  | unknownConversion (letter : Char) (index : Nat)
  | sizeNotWhole
  /-- A width or precision in the arguments does not fit where it is kept. -/
  | sizeRange (place : String)
  /-- A width or precision in the template is too large. -/
  | sizeTooBig (name : String)
  /-- The conversion wants a number. -/
  | numberWanted (letter : Char) (type : String)
  /-- The conversion wants a whole number. -/
  | wholeWanted (letter : Char) (type : String)
  /-- The conversion wants a number with places. -/
  | realWanted (type : String)
  | characterWanted
  | characterRange
  /-- A value that is no number is to be shown as a whole number. -/
  | notWhole
  /-- An infinity is to be shown as a whole number. -/
  | infiniteWhole
  /-- A whole number is too large for a double. -/
  | numberTooLarge
  /-- A whole number is to have more digits than can be counted. -/
  | precisionTooLarge
  /-- The message would be too long to be kept. -/
  | messageTooLong
  deriving DecidableEq, Repr

/-- How a letter is shown in a message about it. -/
def shownLetter (c : Char) : Char := if 31 ≤ c.toNat && c.toNat ≤ 126 then c else '?'

/-- The shortest hexadecimal text of a number. -/
def hexText (n : Nat) : String := String.ofList (Nat.toDigits 16 n)

/-- The wording of a fault. -/
def TemplateFault.message : TemplateFault → String
  | .argumentMissing => "not enough arguments for format string"
  | .argumentLeft => "not all arguments converted during string formatting"
  | .noKeys => "format requires a mapping"
  | .unknownKey key => quoted key
  | .keyOpen => "incomplete format key"
  | .placeholderOpen => "incomplete format"
  | .unknownConversion c i =>
      "unsupported format character '" ++ String.singleton (shownLetter c) ++ "' (0x"
        ++ hexText c.toNat ++ ") at index " ++ natText i
  | .sizeNotWhole => "* wants int"
  | .sizeRange place => "the size does not fit into " ++ place
  | .sizeTooBig name => name ++ " too big"
  | .numberWanted c type =>
      "%" ++ String.singleton c ++ " format: a real number is required, not " ++ type
  | .wholeWanted c type =>
      "%" ++ String.singleton c ++ " format: an integer is required, not " ++ type
  | .realWanted type => "must be real number, not " ++ type
  | .characterWanted => "%c requires int or char"
  | .characterRange => "%c arg not in range(0x110000)"
  | .notWhole => "cannot convert float NaN to integer"
  | .infiniteWhole => "cannot convert float infinity to integer"
  | .numberTooLarge => "int too large to convert to float"
  | .precisionTooLarge => "precision too large"
  | .messageTooLong => ""

/-! ## Texts of arguments -/

/-- The word for the kind of a value in messages. -/
def typeWord : Json → String
  | .null => "NoneType"
  | .bool _ => "bool"
  | .int _ => "int"
  | .float _ => "float"
  | .text _ => "str"
  | .list _ => "list"
  | .object _ => "dict"

mutual

/-- The text of a value within a list or an object: texts stand between quotes. -/
def innerText : Json → String
  | .null => "None"
  | .bool b => if b then "True" else "False"
  | .int n => intText n
  | .float x => x.toText
  | .text s => quoted s
  | .list items => "[" ++ String.intercalate ", " (innerItems items) ++ "]"
  | .object fields => "\x7b" ++ String.intercalate ", " (innerFields fields) ++ "\x7d"

/-- The texts of the items of a list. -/
def innerItems : List Json → List String
  | [] => []
  | j :: rest => innerText j :: innerItems rest

/-- The texts of the fields of an object. -/
def innerFields : List (String × Json) → List String
  | [] => []
  | (name, j) :: rest => (quoted name ++ ": " ++ innerText j) :: innerFields rest

end

/-- The text of an argument by itself. -/
def argumentText : Json → String
  | .text s => s
  | j => innerText j

/-- A text with every character beyond ASCII escaped by its code. -/
def asciiOnly (s : String) : String :=
  String.ofList (s.toList.flatMap fun c => if c.toNat < 128 then [c] else escapeByCode c)

/-! ## Arguments -/

/-- What is left of the arguments. -/
inductive Arguments where
  /-- Arguments that are taken one after the other. -/
  | sequence (rest : List Json)
  /-- Arguments that are taken by key, and the one that is taken next, if it was chosen. -/
  | keyed (fields : List (String × Json)) (chosen : Option Json)

namespace Arguments

/-- The arguments of a message. A single object gives its fields. -/
def ofList : List Json → Arguments
  | [.object (f :: rest)] => .keyed (f :: rest) (some (.object (f :: rest)))
  | args => .sequence args

/-- Take the next argument. -/
def next : Arguments → Except TemplateFault (Json × Arguments)
  | .sequence (j :: rest) => .ok (j, .sequence rest)
  | .sequence [] => .error .argumentMissing
  | .keyed fields (some j) => .ok (j, .keyed fields none)
  | .keyed _ none => .error .argumentMissing

/-- Choose the argument with a key. -/
def choose (key : String) : Arguments → Except TemplateFault Arguments
  | .sequence _ => .error .noKeys
  | .keyed fields _ =>
      match (Json.object fields).field? key with
      | some j => .ok (.keyed fields (some j))
      | none => .error (.unknownKey key)

/-- Are arguments left that had to be used? -/
def isLeft : Arguments → Bool
  | .sequence rest => !rest.isEmpty
  | .keyed _ _ => false

end Arguments

/-! ## Placeholders -/

/-- A placeholder. -/
structure Placeholder where
  left : Bool
  plus : Bool
  blank : Bool
  alternate : Bool
  zero : Bool
  width : Option Nat
  precision : Option Nat
  conversion : Char
  deriving Repr

/-- Read a key up to the parenthesis that closes it, given how many are open. -/
def readKey? : Nat → List Char → List Char → Option (String × List Char)
  | _, _, [] => none
  | depth, acc, c :: rest =>
      if c = ')' then
        if depth ≤ 1 then some (String.ofList acc.reverse, rest)
        else readKey? (depth - 1) (c :: acc) rest
      else if c = '(' then readKey? (depth + 1) (c :: acc) rest
      else readKey? depth (c :: acc) rest

/-- Is the character a flag? -/
def isFlag (c : Char) : Bool := ['-', '+', ' ', '#', '0'].contains c

/-- A width or precision as it is written. -/
inductive Size where
  | none
  | given (n : Nat)
  | argument

/-- Read a width or precision. -/
def readSize (cs : List Char) : Size × List Char :=
  match cs with
  | '*' :: rest => (.argument, rest)
  | _ =>
    let digits := cs.takeWhile Decimal.isAsciiDigit
    if digits.isEmpty then (.none, cs)
    else (.given (Decimal.asciiValue digits), cs.drop digits.length)

/-- What a size is called and where it is kept, and from which magnitude on it does not fit. -/
structure SizeLimit where
  name : String
  place : String
  bound : Nat

/-- The limit of a width. -/
def widthLimit : SizeLimit := ⟨"width", "ssize_t", pow2 63⟩

/-- The limit of a precision. -/
def precisionLimit : SizeLimit := ⟨"precision", "int", pow2 31⟩

/-- The value of a size; one from the arguments must be a whole number. -/
def Size.resolve (s : Size) (limit : SizeLimit) (args : Arguments) :
    Except TemplateFault (Option Int × Arguments) := do
  let fitting (n : Int) : Except TemplateFault (Option Int) :=
    if -(limit.bound : Int) ≤ n ∧ n < limit.bound then .ok (some n)
    else .error (.sizeRange limit.place)
  match s with
  | .none => return (Option.none, args)
  | .given n =>
      if n < limit.bound then return (some (n : Int), args) else throw (.sizeTooBig limit.name)
  | .argument =>
    let (j, args) ← args.next
    match j with
    | .int n => return (← fitting n, args)
    | .bool b => return (some (if b then 1 else 0), args)
    | _ => throw .sizeNotWhole

/-- A placeholder that was read, the arguments that are left, and the rest of the template. -/
structure ReadPlaceholder where
  placeholder : Placeholder
  args : Arguments
  rest : List Char

/-- Read a placeholder after its percent sign. -/
def readPlaceholder (cs : List Char) (args : Arguments) :
    Except TemplateFault ReadPlaceholder := do
  let (args, cs) ←
    match cs with
    | '(' :: rest =>
      match args with
      | .sequence _ => throw .noKeys
      | .keyed _ _ =>
        match readKey? 1 [] rest with
        | some (key, rest) => pure (← args.choose key, rest)
        | none => throw .keyOpen
    | _ => pure (args, cs)
  let flags := cs.takeWhile isFlag
  let (widthSize, cs) := readSize (cs.drop flags.length)
  let (width, args) ← widthSize.resolve widthLimit args
  let (precision, args, cs) ←
    match cs with
    | '.' :: rest => do
      let (size, rest) := readSize rest
      let (p, args) ← size.resolve precisionLimit args
      pure (some ((p.getD 0).toNat), args, rest)
    | _ => pure (none, args, cs)
  let cs :=
    match cs with
    | c :: rest => if c = 'h' ∨ c = 'l' ∨ c = 'L' then rest else cs
    | [] => []
  match cs with
  | [] => throw .placeholderOpen
  | c :: rest =>
    return {
      placeholder :=
        { left := flags.contains '-' || width.any (· < 0)
          plus := flags.contains '+'
          blank := flags.contains ' '
          alternate := flags.contains '#'
          zero := flags.contains '0'
          width := width.map Int.natAbs
          precision
          conversion := c }
      args
      rest }

/-! ## Filling -/

/-- No message keeps more characters than this. -/
def maxMessage : Nat := pow2 30

/-- Most digits that a whole number can be asked to have. -/
def maxDigits : Nat := pow2 31 - 4

/-- Is a width or precision beyond a limit? -/
def exceeds (size : Option Nat) (limit : Nat) : Bool := size.any (limit < ·)

/-- The codes of characters. -/
def codes (cs : List Char) : List Nat := cs.map Char.toNat

/-- Put blanks around characters, or around their codes, up to the width. -/
def Placeholder.padWith {α : Type} (p : Placeholder) (blank : α) (cs : List α) : List α :=
  let fill := List.replicate (p.width.getD 0 - cs.length) blank
  if p.left then cs ++ fill else fill ++ cs

/-- Put blanks around a text up to the width. -/
def Placeholder.pad (p : Placeholder) (cs : List Char) : List Char := p.padWith ' ' cs

/-- Write a number from its sign, the mark of its base and its digits. -/
def Placeholder.padNumber (p : Placeholder) (negative : Bool) (mark digits : List Char) :
    List Char :=
  let sign := if negative then ['-'] else if p.plus then ['+'] else if p.blank then [' '] else []
  let body := sign ++ mark ++ digits
  if p.zero && !p.left then
    sign ++ mark ++ List.replicate (p.width.getD 0 - body.length) '0' ++ digits
  else p.pad body

/-- Cut a text to the precision. -/
def Placeholder.cut (p : Placeholder) (cs : List Char) : List Char :=
  match p.precision with
  | some n => cs.take n
  | none => cs

/-- Write a whole number in the base of a conversion. -/
def Placeholder.whole (p : Placeholder) (n : Int) : List Char :=
  let base : Nat :=
    if p.conversion = 'o' then 8 else if p.conversion = 'x' ∨ p.conversion = 'X' then 16 else 10
  let bare := if base = 10 then (natText n.natAbs).toList else Nat.toDigits base n.natAbs
  let digits := List.replicate (p.precision.getD 0 - bare.length) '0' ++ bare
  let mark := if p.alternate ∧ base ≠ 10 then ['0', if base = 8 then 'o' else 'x'] else []
  let upper (cs : List Char) : List Char :=
    if p.conversion = 'X' then (Text.upper (String.ofList cs)).toList else cs
  p.padNumber (n < 0) (upper mark) (upper digits)

/-- Write a whole number, unless it is to have too many digits. -/
def Placeholder.whole? (p : Placeholder) (n : Int) : Except TemplateFault (List Char) :=
  if exceeds p.precision maxDigits then .error .precisionTooLarge
  else if exceeds p.precision maxMessage then .error .messageTooLong
  else .ok (p.whole n)

/-- Is a double to be written in scientific form? -/
def Placeholder.isScientific (p : Placeholder) : Bool := p.conversion = 'e' || p.conversion = 'E'

/-- Is a double to be written in positional form? -/
def Placeholder.isPositional (p : Placeholder) : Bool := p.conversion = 'f' || p.conversion = 'F'

/-- The places after the point that a double is to have. The digits of the scientific form are
    counted in 32 bits; where that does not hold them, there is only the one before the point. -/
def Placeholder.places (p : Placeholder) : Nat :=
  let n := p.precision.getD 6
  if p.isScientific && pow2 31 ≤ n + 1 then 0 else n

/-- Write a double in the form of a conversion. -/
def Placeholder.real (p : Placeholder) (x : Binary64) : List Char :=
  let text (units : Nat) : String :=
    if p.isPositional then Binary64.fixedText p.alternate p.places units
    else if p.isScientific then Binary64.scientificText p.alternate p.places units
    else Binary64.generalText p.alternate p.places units
  let (negative, body) :=
    match x with
    | .finite s u => (s, text u)
    | .infinity s => (s, "inf")
    | .nan => (false, "nan")
  let shown := if p.conversion.isUpper then Text.upper body else body
  p.padNumber negative [] shown.toList

/-- Write a double, unless it is to have too many digits. The general form without an alternate leaves
    out the zeros at the end, so that its digits do not run beyond those of the double. -/
def Placeholder.real? (p : Placeholder) (x : Binary64) : Except TemplateFault (List Char) :=
  let keepsZeros := p.isPositional || p.isScientific || p.alternate
  match x with
  | .finite _ _ =>
      if keepsZeros && maxMessage < p.places then .error .messageTooLong else .ok (p.real x)
  | _ => .ok (p.real x)

/-- The whole number that an argument is or is cut to, for a conversion. -/
def wholeOf (letter : Char) (j : Json) : Except TemplateFault Int :=
  let based := letter = 'o' ∨ letter = 'x' ∨ letter = 'X'
  match j with
  | .int n => .ok n
  | .bool b => .ok (if b then 1 else 0)
  | .float x =>
      if based then .error (.wholeWanted letter (typeWord j))
      else
        match x with
        | .finite s u => .ok (Decimal.signed s (u / Binary64.one))
        | .infinity _ => .error .infiniteWhole
        | .nan => .error .notWhole
  | _ =>
      .error (if based then .wholeWanted letter (typeWord j) else .numberWanted letter (typeWord j))

/-- The double that an argument is. -/
def realOf (j : Json) : Except TemplateFault Binary64 :=
  match j with
  | .int n =>
      match Binary64.ofInt n with
      | .finite s u => .ok (.finite s u)
      | _ => .error .numberTooLarge
  | .bool b => .ok (Binary64.ofInt (if b then 1 else 0))
  | .float x => .ok x
  | _ => .error (.realWanted (typeWord j))

/-- The code that an argument is, or the code of the character that it is. -/
def codeOf (j : Json) : Except TemplateFault Nat :=
  let ofCode (n : Int) : Except TemplateFault Nat :=
    if n < 0 ∨ 0x110000 ≤ n then .error .characterRange else .ok n.toNat
  match j with
  | .text s =>
      match s.toList with
      | [c] => .ok c.toNat
      | _ => .error .characterWanted
  | .int n => ofCode n
  | .bool b => ofCode (if b then 1 else 0)
  | _ => .error .characterWanted

/-- Convert an argument, with a width that can be kept. -/
def Placeholder.convertNarrow (p : Placeholder) (index : Nat) (j : Json) :
    Except TemplateFault (List Nat) :=
  let c := p.conversion
  let shown (s : String) : List Nat := codes (p.pad (p.cut s.toList))
  if c = 's' then .ok (shown (argumentText j))
  else if c = 'r' then .ok (shown (innerText j))
  else if c = 'a' then .ok (shown (asciiOnly (innerText j)))
  else if ['d', 'i', 'u', 'o', 'x', 'X'].contains c then do return codes (← p.whole? (← wholeOf c j))
  else if ['e', 'E', 'f', 'F', 'g', 'G'].contains c then do return codes (← p.real? (← realOf j))
  else if c = 'c' then (codeOf j).map fun n => p.padWith ' '.toNat [n]
  else .error (.unknownConversion c index)

/-- Convert an argument. -/
def Placeholder.convert (p : Placeholder) (index : Nat) (j : Json) :
    Except TemplateFault (List Nat) :=
  if exceeds p.width maxMessage then do
    let _ ← Placeholder.convertNarrow { p with width := none } index j
    throw .messageTooLong
  else p.convertNarrow index j

/-- Fill a template, of which `total` characters were given. -/
def fillFrom (total : Nat) : Nat → List Char → Arguments → Except TemplateFault (List Nat)
  | 0, _, _ => .ok []
  | _ + 1, [], args => if args.isLeft then .error .argumentLeft else .ok []
  | fuel + 1, c :: cs, args =>
      if c ≠ '%' then (fillFrom total fuel cs args).map (c.toNat :: ·)
      else
        match cs with
        | '%' :: rest => (fillFrom total fuel rest args).map ('%'.toNat :: ·)
        | _ => do
          let r ← readPlaceholder cs args
          let (j, args) ← r.args.next
          let shown ← r.placeholder.convert (total - r.rest.length - 1) j
          return shown ++ (← fillFrom total fuel r.rest args)

/-- The codes of the message that a template makes of arguments; without arguments it is no
    template. -/
def fill (template : String) (args : List Json) : Except TemplateFault (List Nat) :=
  let cs := template.toList
  if args.isEmpty then .ok (codes cs)
  else fillFrom cs.length (cs.length + 1) cs (Arguments.ofList args)

end Bookkeeping.Log
