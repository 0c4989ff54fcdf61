import CriticalDamage.Document.Basic

/-!
# Writing documents

`compact` writes a document on one line without blanks, `pretty` with a line for every part and two
blanks more before it for every level of nesting.
-/

namespace CriticalDamage.Document

/-- A character inside a quotation. -/
def escapedChar (c : Char) : List Char :=
  match c with
  | '"' => ['\\', '"']
  | '\\' => ['\\', '\\']
  | '\n' => ['\\', 'n']
  | '\r' => ['\\', 'r']
  | '\t' => ['\\', 't']
  | '\x08' => ['\\', 'b']
  | '\x0c' => ['\\', 'f']
  | c =>
    if c.toNat < 0x20 then
      ['\\', 'u', '0', '0', Nat.digitChar (c.toNat / 16), Nat.digitChar (c.toNat % 16)]
    else [c]

/-- A text between quotes. -/
def quotation (s : String) : String :=
  String.ofList ('"' :: s.toList.flatMap escapedChar ++ ['"'])

/-- A document that has no parts. -/
def scalarText : Document → String
  | .bool true => "true"
  | .bool false => "false"
  | .whole n => String.ofList (Decimal.integer n)
  | .real x => String.ofList x.text
  | .text s => quotation s
  | _ => "null"

mutual

/-- The document on one line. -/
def compact : Document → String
  | .list items => "[" ++ ",".intercalate (compactItems items) ++ "]"
  | .record fields => "\x7b" ++ ",".intercalate (compactFields fields) ++ "\x7d"
  | d => scalarText d

/-- A list's items, each on one line. -/
def compactItems : List Document → List String
  | [] => []
  | d :: ds => d.compact :: compactItems ds

/-- A record's fields, each on one line. -/
def compactFields : List (String × Document) → List String
  | [] => []
  | (name, d) :: rest => (quotation name ++ ":" ++ d.compact) :: compactFields rest

end

/-- A line break and the blanks of a nesting level. -/
def lineBreak (level : Nat) : String := String.ofList ('\n' :: List.replicate (2 * level) ' ')

/-- Parts between brackets, each on a line of its own. -/
def bracketed (opening closing : String) (level : Nat) (parts : List String) : String :=
  if parts.isEmpty then opening ++ closing
  else
    opening ++ lineBreak (level + 1) ++ ("," ++ lineBreak (level + 1)).intercalate parts ++
      lineBreak level ++ closing

mutual

/-- The document over several lines, inside the given number of others. -/
def prettyAt (level : Nat) : Document → String
  | .list items => bracketed "[" "]" level (prettyItems (level + 1) items)
  | .record fields => bracketed "\x7b" "\x7d" level (prettyFields (level + 1) fields)
  | d => scalarText d

/-- A list's items over several lines. -/
def prettyItems (level : Nat) : List Document → List String
  | [] => []
  | d :: ds => d.prettyAt level :: prettyItems level ds

/-- A record's fields over several lines. -/
def prettyFields (level : Nat) : List (String × Document) → List String
  | [] => []
  | (name, d) :: rest =>
    (quotation name ++ ": " ++ d.prettyAt level) :: prettyFields level rest

end

/-- The document over several lines. -/
def pretty (d : Document) : String := d.prettyAt 0

end CriticalDamage.Document
