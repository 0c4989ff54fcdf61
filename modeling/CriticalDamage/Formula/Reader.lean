import CriticalDamage.Formula.Basic
import CriticalDamage.Dice.Lexeme

/-!
# Reading formulas

A formula is a sum of terms, the first perhaps after a minus sign; a term is dice, a number or a
sum in parentheses, with any number of tags in brackets after it. Several formulas may be grouped
into a set, between braces and separated by commas. The reader is a machine over the tokens that
keeps the sums it has opened on a stack, so it takes one step for every token.
-/

namespace CriticalDamage.Formula

open Dice (Token Scanned PlacedFault)

/-- Why a text is no formula. -/
inductive Reason where
  | lexical (fault : PlacedFault)
  | unexpected (t : Token)
  | unexpectedEnd
  | expected (wanted : Dice.Symbol) (found : Token)
  | expectedAtEnd (wanted : Dice.Symbol)
  | noDie (sides : Count)
  | invalidTag (tag : List Char)
deriving DecidableEq, Repr

def Reason.message : Reason → String
  | .lexical fault => fault.message
  | .unexpected t => "unexpected '" ++ t.text ++ "'"
  | .unexpectedEnd => "unexpected end of input"
  | .expected wanted found =>
    "expected '" ++ String.singleton wanted.char ++ "', found '" ++ found.text ++ "'"
  | .expectedAtEnd wanted =>
    "expected '" ++ String.singleton wanted.char ++ "', found end of input"
  | .noDie sides => "d" ++ toString sides.val
  | .invalidTag tag => "invalid tag '" ++ String.ofList tag ++ "'"

/-- A text that is no formula. -/
structure Invalid where
  source : String
  reason : Reason
deriving DecidableEq, Repr

def Invalid.message (e : Invalid) : String :=
  "invalid formula: " ++ e.source ++ ": " ++ e.reason.message

/-- A sum that is still open: the terms read so far, last first, and whether the term that comes
next is subtracted. -/
structure OpenSum where
  terms : List Formula
  negative : Bool

def OpenSum.empty : OpenSum := ⟨[], false⟩

/-- The terms with one more at the end. -/
def OpenSum.push (s : OpenSum) (term : Formula) : List Formula :=
  (if s.negative then .negate term else term) :: s.terms

/-- The formula of a sum whose last term is given. A sum of one term is that term. -/
def OpenSum.close (s : OpenSum) (term : Formula) : Formula :=
  match s.push term with
  | [f] => f
  | fs => .sum fs.reverse

/-- What is being read: one formula, or a set with the formulas read so far, last first. -/
inductive Goal where
  | single
  | set (done : List Formula)

/-- Where the machine stands. -/
inductive Phase where
  /-- At the beginning of a sum, where a minus sign may stand. -/
  | start
  /-- After a sign, where a term must follow. -/
  | operand
  /-- After a term, which a tag may follow. -/
  | suffix (term : Formula)
  /-- Inside the tag of a term, after the given text. -/
  | tag (term : Formula) (text : List Char)
  /-- After the closing brace of a set. -/
  | closed (set : List Formula)

/-- A tag begins with a letter or an underscore. -/
def isTagText : List Char → Bool
  | c :: _ => c.isAlpha || c == '_'
  | [] => false

/-- Reads one token where a term must stand. The result is the next phase, or `none` for an opening
parenthesis. -/
def operand (t : Token) : Except Reason (Option Formula) :=
  match t with
  | .dice count sides =>
    match Die.ofSides? sides.val with
    | some die => .ok (some (.dice count die))
    | none => .error (.noDie sides)
  | .number n => .ok (some (.constant n))
  | .symbol .leftParen => .ok none
  | t => .error (.unexpected t)

/-- Reads the rest of the tokens. `sum` is the innermost open sum and `outer` are the sums around
it, each waiting for a closing parenthesis. -/
def run (goal : Goal) (phase : Phase) (sum : OpenSum) (outer : List OpenSum) :
    List Scanned → Except Reason (List Formula)
  | [] =>
    match phase with
    | .start | .operand => .error .unexpectedEnd
    | .tag _ text =>
      if isTagText text then .error (.expectedAtEnd .rightBracket) else .error (.invalidTag text)
    | .closed set => .ok set
    | .suffix term =>
      match outer, goal with
      | _ :: _, _ => .error (.expectedAtEnd .rightParen)
      | [], .single => .ok [sum.close term]
      | [], .set _ => .error (.expectedAtEnd .rightBrace)
  | t :: ts =>
    match phase with
    | .start =>
      if t.token = .symbol .minus then run goal .operand ⟨sum.terms, true⟩ outer ts
      else
        match operand t.token with
        | .error e => .error e
        | .ok (some term) => run goal (.suffix term) sum outer ts
        | .ok none => run goal .start .empty (sum :: outer) ts
    | .operand =>
      match operand t.token with
      | .error e => .error e
      | .ok (some term) => run goal (.suffix term) sum outer ts
      | .ok none => run goal .start .empty (sum :: outer) ts
    | .tag term text =>
      if t.token = .symbol .rightBracket then
        if isTagText text then
          run goal (.suffix (.tagged term (String.ofList text))) sum outer ts
        else .error (.invalidTag text)
      else
        let text := if text.isEmpty then t.text else text ++ t.gap ++ t.text
        run goal (.tag term text) sum outer ts
    | .closed _ => .error (.unexpected t.token)
    | .suffix term =>
      match t.token with
      | .symbol .leftBracket => run goal (.tag term []) sum outer ts
      | .symbol .plus => run goal .operand ⟨sum.push term, false⟩ outer ts
      | .symbol .minus => run goal .operand ⟨sum.push term, true⟩ outer ts
      | t =>
        match outer with
        | around :: outer =>
          if t = .symbol .rightParen then run goal (.suffix (sum.close term)) around outer ts
          else .error (.expected .rightParen t)
        | [] =>
          match goal with
          | .single => .error (.unexpected t)
          | .set done =>
            let done := sum.close term :: done
            if t = .symbol .comma then run (.set done) .start .empty [] ts
            else if t = .symbol .rightBrace then run (.set done) (.closed done.reverse) .empty [] ts
            else .error (.expected .rightBrace t)

/-- Reads the tokens of one formula. -/
def ofTokens (ts : List Scanned) : Except Reason Formula :=
  match run .single .start .empty [] ts with
  | .ok [f] => .ok f
  | .ok _ => .error .unexpectedEnd
  | .error e => .error e

/-- Reads the tokens of a set between braces, or of one formula. -/
def setOfTokens : List Scanned → Except Reason (List Formula)
  | [] => run .single .start .empty [] []
  | t :: ts =>
    if t.token = .symbol .leftBrace then run (.set []) .start .empty [] ts
    else run .single .start .empty [] (t :: ts)

/-- The tokens of a text without faults. -/
def scan (cs : List Char) : Except Reason (List Scanned) :=
  match Dice.scan cs with
  | .ok ts => .ok ts
  | .error fault => .error (.lexical fault)

/-- Reads one formula. -/
def readChars (cs : List Char) : Except Reason Formula := scan cs >>= ofTokens

/-- Reads a set of formulas, or one formula as a set by itself. -/
def readSetChars (cs : List Char) : Except Reason (List Formula) := scan cs >>= setOfTokens

/-- Reads one formula. -/
def read (source : String) : Except Invalid Formula :=
  (readChars source.toList).mapError (⟨source, ·⟩)

/-- Reads a set of formulas, or one formula as a set by itself. -/
def readSet (source : String) : Except Invalid (List Formula) :=
  (readSetChars source.toList).mapError (⟨source, ·⟩)

end CriticalDamage.Formula
