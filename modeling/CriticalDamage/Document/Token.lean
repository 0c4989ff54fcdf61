import CriticalDamage.Document.Basic

/-!
# Tokens of a written document

The text of a document is cut into brackets, separators and scalars. A text that no document
begins with, such as an unknown word or an unclosed quotation, has no tokens.
-/

namespace CriticalDamage.Document

/-- A piece of a written document. A `scalar` is one whole number, text, truth value or `null`. -/
inductive Token where
  | openRecord
  | closeRecord
  | openList
  | closeList
  | colon
  | comma
  | scalar (d : Document)
deriving Inhabited

namespace Token

def isBlank (c : Char) : Bool := c == ' ' || c == '\t' || c == '\n' || c == '\r'

/-- The value of a hexadecimal digit. -/
def hexDigit? (c : Char) : Option Nat :=
  if c.isDigit then some (c.toNat - '0'.toNat)
  else if 'a' ≤ c ∧ c ≤ 'f' then some (c.toNat - 'a'.toNat + 10)
  else if 'A' ≤ c ∧ c ≤ 'F' then some (c.toNat - 'A'.toNat + 10)
  else none

/-- The number written by four hexadecimal digits. -/
def hex? (a b c d : Char) : Option Nat := do
  let a ← hexDigit? a
  let b ← hexDigit? b
  let c ← hexDigit? c
  let d ← hexDigit? d
  return ((a * 16 + b) * 16 + c) * 16 + d

def isHighSurrogate (n : Nat) : Bool := 0xD800 ≤ n && n < 0xDC00

def isLowSurrogate (n : Nat) : Bool := 0xDC00 ≤ n && n < 0xE000

/-- A piece of a quotation: a character, or a 16-bit unit written by number. -/
inductive Piece where
  | char (c : Char)
  | unit (n : Nat)

/-- The character a backslash and this letter stand for. -/
def escape? : Char → Option Char
  | '"' => some '"'
  | '\\' => some '\\'
  | '/' => some '/'
  | 'b' => some '\x08'
  | 'f' => some '\x0c'
  | 'n' => some '\n'
  | 'r' => some '\r'
  | 't' => some '\t'
  | _ => none

/-- Reads up to the closing quote: the pieces and what follows the quote. -/
def quotation? : List Char → Option (List Piece × List Char)
  | [] => none
  | '"' :: rest => some ([], rest)
  | '\\' :: 'u' :: a :: b :: c :: d :: rest => do
    let n ← hex? a b c d
    let (ps, rest) ← quotation? rest
    return (.unit n :: ps, rest)
  | '\\' :: c :: rest => do
    let c ← escape? c
    let (ps, rest) ← quotation? rest
    return (.char c :: ps, rest)
  | c :: rest =>
    if c.toNat < 0x20 then none
    else do
      let (ps, rest) ← quotation? rest
      return (.char c :: ps, rest)

/-- The text of a quotation's pieces, in which every high surrogate is followed by a low one. -/
def joinPieces? : List Piece → Option (List Char)
  | [] => some []
  | .char c :: ps => (joinPieces? ps).map (c :: ·)
  | .unit high :: .unit low :: ps =>
    if isHighSurrogate high then
      if isLowSurrogate low then
        let n := 0x10000 + (high - 0xD800) * 0x400 + (low - 0xDC00)
        (joinPieces? ps).map (Char.ofNat n :: ·)
      else none
    else if isLowSurrogate high then none
    else (joinPieces? (.unit low :: ps)).map (Char.ofNat high :: ·)
  | .unit n :: ps =>
    if isHighSurrogate n || isLowSurrogate n then none
    else (joinPieces? ps).map (Char.ofNat n :: ·)

/-- A quotation as a scalar. -/
def ofPieces (ps : List Piece) : Document :=
  match joinPieces? ps with
  | some cs => .text (String.ofList cs)
  | none => .valueless

/-- The power of ten after an exponent mark, and what follows it. -/
def exponent? (cs : List Char) : Option (Int × List Char) :=
  let (negative, cs) := match cs with
    | '+' :: cs => (false, cs)
    | '-' :: cs => (true, cs)
    | cs => (false, cs)
  let digits := cs.takeWhile Char.isDigit
  if digits.isEmpty then none
  else
    let n : Int := Decimal.value digits
    some (if negative then -n else n, cs.dropWhile Char.isDigit)

/-- The value of a numeral: whole if it has neither point nor exponent and fits into 64 bits. The
negative zero is not a whole number. -/
def numeral (negative : Bool) (whole : List Char) (rest : Option (List Char × Int)) : Document :=
  let real (fraction : List Char) (power : Int) : Document :=
    match Binary64.ofDecimal? negative whole fraction power with
    | some x => .real x
    | none => .valueless
  match rest with
  | some (fraction, power) => real fraction power
  | none =>
    let n := Decimal.value whole
    if negative then
      if 0 < n ∧ n ≤ Width.signed64 then .whole (-(n : Int)) else real [] 0
    else if n < Width.unsigned64 then .whole n
    else real [] 0

/-- Reads a numeral after its sign: digits without a leading zero, a fraction and an exponent. -/
def numeral? (negative : Bool) (cs : List Char) : Option (Document × List Char) := do
  let whole := cs.takeWhile Char.isDigit
  let rest := cs.dropWhile Char.isDigit
  if whole.isEmpty ∨ (whole.head? = some '0' ∧ 1 < whole.length) then none
  let (fraction, rest) ← match rest with
    | '.' :: rest =>
      let digits := rest.takeWhile Char.isDigit
      if digits.isEmpty then none else some (some digits, rest.dropWhile Char.isDigit)
    | rest => some (none, rest)
  let (power, rest) ← match rest with
    | 'e' :: rest | 'E' :: rest => (exponent? rest).map fun p => (some p.1, p.2)
    | rest => some (none, rest)
  let parts := if fraction.isNone ∧ power.isNone then none
    else some (fraction.getD [], power.getD 0)
  return (numeral negative whole parts, rest)

/-- Reads one token from a text that starts with `c`. -/
def next? (c : Char) (rest : List Char) : Option (Token × List Char) :=
  match c, rest with
  | '\x7b', rest => some (.openRecord, rest)
  | '\x7d', rest => some (.closeRecord, rest)
  | '[', rest => some (.openList, rest)
  | ']', rest => some (.closeList, rest)
  | ':', rest => some (.colon, rest)
  | ',', rest => some (.comma, rest)
  | '"', rest => (quotation? rest).map fun p => (.scalar (ofPieces p.1), p.2)
  | 'n', 'u' :: 'l' :: 'l' :: rest => some (.scalar .null, rest)
  | 't', 'r' :: 'u' :: 'e' :: rest => some (.scalar (.bool true), rest)
  | 'f', 'a' :: 'l' :: 's' :: 'e' :: rest => some (.scalar (.bool false), rest)
  | '-', rest => (numeral? true rest).map fun p => (.scalar p.1, p.2)
  | c, rest => (numeral? false (c :: rest)).map fun p => (.scalar p.1, p.2)

/-- The tokens of a text. Every token takes at least one character, so as many steps as there are
characters are enough. -/
def readFrom (steps : Nat) (cs : List Char) : Option (List Token) :=
  match steps, cs.dropWhile isBlank with
  | _, [] => some []
  | 0, _ => none
  | steps + 1, c :: rest => do
    let (t, rest) ← next? c rest
    let ts ← readFrom steps rest
    return t :: ts

/-- The tokens of a text. -/
def read? (s : String) : Option (List Token) :=
  let cs := s.toList
  readFrom cs.length cs

end Token

end CriticalDamage.Document
