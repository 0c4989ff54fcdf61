import CriticalDamage.Number.Amount
import CriticalDamage.Text.Quoted

/-!
# Tokens of damage expressions

A token is a dice term such as `2d6`, a number, a word or a symbol. `Token.ofText` reads the text of
one lexeme; a dice term or a number that is too large, and a character that begins no token, are
faults. `Token.chars` writes a token in its normal form: a count before the `d`, no leading zeros.
-/

namespace CriticalDamage.Dice

/-- The characters that are tokens by themselves. -/
inductive Symbol where
  | plus
  | minus
  | star
  | slash
  | leftParen
  | rightParen
  | leftBracket
  | rightBracket
  | leftBrace
  | rightBrace
  | comma
deriving DecidableEq, Repr

def Symbol.char : Symbol → Char
  | .plus => '+'
  | .minus => '-'
  | .star => '*'
  | .slash => '/'
  | .leftParen => '('
  | .rightParen => ')'
  | .leftBracket => '['
  | .rightBracket => ']'
  | .leftBrace => '\x7b'
  | .rightBrace => '\x7d'
  | .comma => ','

def Symbol.ofChar? : Char → Option Symbol
  | '+' => some .plus
  | '-' => some .minus
  | '*' => some .star
  | '/' => some .slash
  | '(' => some .leftParen
  | ')' => some .rightParen
  | '[' => some .leftBracket
  | ']' => some .rightBracket
  | '\x7b' => some .leftBrace
  | '\x7d' => some .rightBrace
  | ',' => some .comma
  | _ => none

/-- A token of a damage expression. A word is a tag or a reference such as `@item.level`. -/
inductive Token where
  | dice (count sides : Count)
  | number (n : Nat)
  | word (chars : List Char)
  | symbol (s : Symbol)
deriving DecidableEq, Repr

/-- The normal form of a token. -/
def Token.chars : Token → List Char
  | .dice count sides => Decimal.natural count.val ++ 'd' :: Decimal.natural sides.val
  | .number n => Decimal.natural n
  | .word cs => cs
  | .symbol s => [s.char]

def Token.text (t : Token) : String := String.ofList t.chars

/-- Why a lexeme is no token. -/
inductive Fault where
  | invalidDice (text : List Char)
  | invalidNumber (text : List Char)
  | unexpectedText (text : List Char)
deriving DecidableEq, Repr

def Fault.message : Fault → String
  | .invalidDice text => "invalid dice term: " ++ String.ofList text
  | .invalidNumber text => "invalid integer literal: " ++ String.ofList text
  | .unexpectedText text => "unexpected character: " ++ String.ofList (Text.quoted text)

/-- The letter between the count and the sides of a dice term. -/
def isDieMark (c : Char) : Bool := c == 'd' || c == 'D'

def isWordStart (c : Char) : Bool := c.isAlpha || c == '_' || c == '@'

def isWordPart (c : Char) : Bool := c.isAlpha || c == '_' || c == '.' || c == '-'

/-- Reads the text of one lexeme. A dice term without a count is one die. -/
def Token.ofText (text : List Char) : Except Fault Token :=
  let digits := text.takeWhile Char.isDigit
  match text.dropWhile Char.isDigit with
  | [] =>
    let n := Decimal.value digits
    if !digits.isEmpty && n < Width.signed64 then .ok (.number n) else .error (.invalidNumber text)
  | c :: rest =>
    if isDieMark c && !rest.isEmpty && rest.all Char.isDigit then
      let count := if digits.isEmpty then some 1 else Count.ofNat? (Decimal.value digits)
      match count, Count.ofNat? (Decimal.value rest) with
      | some count, some sides => .ok (.dice count sides)
      | _, _ => .error (.invalidDice text)
    else if isWordStart c then .ok (.word text)
    else match Symbol.ofChar? c with
      | some s => .ok (.symbol s)
      | none => .error (.unexpectedText text)

end CriticalDamage.Dice
