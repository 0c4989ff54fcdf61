import CriticalDamage.Dice.Token

/-!
# Lexemes

An expression is cut from left to right into lexemes, each the longest one at its place: a dice term
before a number or a word, and a single character where nothing longer begins. Gaps of spaces, tabs
and line breaks may stand before each lexeme and at the end. Every lexeme is a token or a fault.
-/

namespace CriticalDamage.Dice

/-- The characters that may stand between lexemes. -/
def isGap (c : Char) : Bool := c == ' ' || c == '\t' || c == '\r' || c == '\n'

def startsWithDigit : List Char → Bool
  | c :: _ => c.isDigit
  | [] => false

/-- Splits what follows `c` into the rest of the lexeme that begins with `c` and the remaining
text. -/
def splitAfter (c : Char) (cs : List Char) : List Char × List Char :=
  if c.isDigit then
    let digits := cs.takeWhile Char.isDigit
    match cs.dropWhile Char.isDigit with
    | [] => (digits, [])
    | x :: rest =>
      if isDieMark x && startsWithDigit rest then
        (digits ++ x :: rest.takeWhile Char.isDigit, rest.dropWhile Char.isDigit)
      else (digits, x :: rest)
  else if isDieMark c && startsWithDigit cs then
    (cs.takeWhile Char.isDigit, cs.dropWhile Char.isDigit)
  else if isWordStart c then (cs.takeWhile isWordPart, cs.dropWhile isWordPart)
  else ([], cs)

/-- A lexeme's characters, and the gap before them. -/
structure Lexeme where
  gap : List Char
  text : List Char
deriving DecidableEq, Repr

/-- Nothing is lost by a split. -/
theorem splitAfter_append (c : Char) (cs : List Char) :
    (splitAfter c cs).1 ++ (splitAfter c cs).2 = cs := by
  unfold splitAfter
  split
  · have h := List.takeWhile_append_dropWhile (p := Char.isDigit) (l := cs)
    split
    · next hd => simpa [hd] using h
    · next x rest hd =>
      rw [hd] at h
      split
      · simpa [List.takeWhile_append_dropWhile] using h
      · exact h
  · split
    · exact List.takeWhile_append_dropWhile
    · split
      · exact List.takeWhile_append_dropWhile
      · rfl

theorem length_splitAfter_le (c : Char) (cs : List Char) :
    (splitAfter c cs).2.length ≤ cs.length := by
  have h := congrArg List.length (splitAfter_append c cs)
  simp only [List.length_append] at h
  omega

/-- The lexemes of a text. A gap at the end belongs to none. -/
def lexemes (cs : List Char) : List Lexeme :=
  match _h : cs.dropWhile isGap with
  | [] => []
  | c :: rest =>
    ⟨cs.takeWhile isGap, c :: (splitAfter c rest).1⟩ :: lexemes (splitAfter c rest).2
termination_by cs.length
decreasing_by
  have hle := length_splitAfter_le c rest
  have hd := (List.dropWhile_sublist isGap (l := cs)).length_le
  rw [_h] at hd
  simp only [List.length_cons] at hd
  omega

/-- A stretch of a text, in bytes of its UTF-8 form; the end is excluded. -/
structure Span where
  start : Nat
  stop : Nat
deriving DecidableEq, Repr

/-- The number of bytes of a text in UTF-8. -/
def byteLength (cs : List Char) : Nat := cs.foldr (fun c n => c.utf8Size + n) 0

/-- A lexeme that has been read: its gap, its text, its place and the token it is. -/
structure Scanned where
  gap : List Char
  text : List Char
  span : Span
  token : Token
deriving DecidableEq, Repr

/-- A fault and its place. -/
structure PlacedFault where
  fault : Fault
  span : Span
deriving DecidableEq, Repr

def PlacedFault.message (f : PlacedFault) : String :=
  f.fault.message ++ " at " ++ toString f.span.start ++ ".." ++ toString f.span.stop

/-- Reads lexemes, the first of which begins after `offset` bytes and its gap. -/
def readFrom (offset : Nat) : List Lexeme → List (Except PlacedFault Scanned)
  | [] => []
  | l :: ls =>
    let start := offset + byteLength l.gap
    let stop := start + byteLength l.text
    let one := match Token.ofText l.text with
      | .ok token => .ok ⟨l.gap, l.text, ⟨start, stop⟩, token⟩
      | .error fault => .error ⟨fault, ⟨start, stop⟩⟩
    one :: readFrom stop ls

/-- The lexemes of a text in order, each read as a token or refused as a fault. -/
def read (cs : List Char) : List (Except PlacedFault Scanned) := readFrom 0 (lexemes cs)

/-- The tokens of a text, with their places. -/
def tokens (cs : List Char) : List Scanned :=
  (read cs).filterMap fun
    | .ok s => some s
    | .error _ => none

/-- The faults of a text, with their places. -/
def faults (cs : List Char) : List PlacedFault :=
  (read cs).filterMap fun
    | .ok _ => none
    | .error f => some f

/-- The tokens of a text that has no faults, else its first fault. -/
def scan (cs : List Char) : Except PlacedFault (List Scanned) :=
  match faults cs with
  | [] => .ok (tokens cs)
  | f :: _ => .error f

end CriticalDamage.Dice
