import Bookkeeping.Text.LetterCase

set_option autoImplicit false

/-! # Wildcard patterns

Patterns over text in which `%` stands for any run of characters and `_` for any one character,
with an optional escape character that takes the next character literally. Letters match without
regard to ASCII case. Pattern and text end at the first zero character, and the last two numbers of
the first plane, which are no characters, match as the replacement character does (`matchable`).

Searching builds a pattern from a search term by escaping the term and putting `%` on both sides
(`containsPattern`). -/

namespace Bookkeeping.Text

/-! ## Patterns -/

/-- One item of a pattern. -/
inductive PatternItem where
  /-- Any run of characters, the empty one included. -/
  | anyRun
  /-- Any one character. -/
  | anyOne
  /-- This character, or its other case if it is an ASCII letter. -/
  | literal (c : Char)
  deriving DecidableEq, Repr

/-- What a character of a pattern stands for, unless the escape character stands before it. -/
def PatternItem.ofChar (c : Char) : PatternItem :=
  if c = '%' then .anyRun else if c = '_' then .anyOne else .literal c

/-- Read a pattern. The escape character takes the character after it literally; at the end of the
    pattern it stands for itself. -/
def patternItems (escape : Option Char) : List Char → List PatternItem
  | [] => []
  | [c] => [if escape = some c then .literal c else .ofChar c]
  | c :: d :: rest =>
      if escape = some c then .literal d :: patternItems escape rest
      else .ofChar c :: patternItems escape (d :: rest)

/-- Does some end of a text pass a test, the whole text and the empty one included? -/
def anySuffix (test : List Char → Bool) : List Char → Bool
  | [] => test []
  | c :: cs => test (c :: cs) || anySuffix test cs

/-- Does the text match the pattern as a whole? -/
def matchesItems : List PatternItem → List Char → Bool
  | [], text => text.isEmpty
  | .literal c :: items, text =>
      match text with
      | [] => false
      | t :: rest => sameAsciiLetter c t && matchesItems items rest
  | .anyOne :: items, text =>
      match text with
      | [] => false
      | _ :: rest => matchesItems items rest
  | .anyRun :: items, text => anySuffix (matchesItems items) text

/-- What a character matches as. -/
def matchChar (c : Char) : Char :=
  if c.toNat = 0xFFFE ∨ c.toNat = 0xFFFF then Char.ofNat 0xFFFD else c

/-- The part of a text that is matched. -/
def matchable (text : String) : List Char :=
  (text.toList.takeWhile fun c => c.toNat ≠ 0).map matchChar

/-- Does the text match the pattern, read with the given escape character? -/
def likeMatches (escape : Option Char) (pattern text : String) : Bool :=
  matchesItems (patternItems escape (matchable pattern)) (matchable text)

/-- Most bytes of a pattern. -/
def maxPattern : Nat := 50000

/-- Is the pattern too long to be matched with anything? -/
def isPatternTooLong (pattern : String) : Bool := decide (maxPattern < pattern.utf8ByteSize)

/-! ## Search patterns -/

/-- Replace every `c` by `\c`. -/
def escapeChar (c : Char) (cs : List Char) : List Char :=
  cs.flatMap fun d => if d = c then ['\\', d] else [d]

/-- A search term with the backslash and both wildcards escaped, the backslash first. -/
def escapeTerm (term : List Char) : List Char :=
  escapeChar '_' (escapeChar '%' (escapeChar '\\' term))

/-- The pattern that finds a term anywhere in a text. -/
def containsPattern (term : String) : String :=
  String.ofList ('%' :: (escapeTerm term.toList ++ ['%']))

end Bookkeeping.Text
