import CriticalDamage.Document.Basic

/-!
# Reading records

A record type is read from a document by its fields, each with one or more spellings. The document
names them in any order, or lists their values in the order of declaration and leaves off some at
the end. Names that the type does not know are passed over; a field that is named twice, whatever
the spellings, makes the document unreadable.
-/

namespace CriticalDamage.Document

/-- What fields by name give for one field: its value, nothing, or a refusal of two values. -/
def slot (fields : List (String × Document)) (spellings : List String) :
    Option (Option Document) :=
  match fields.filter fun f => spellings.contains f.1 with
  | [] => some none
  | [f] => some (some f.2)
  | _ => none

/-- What the document gives for each of the fields, one entry a field, if it is a record of such
fields written by name. -/
def namedSlots (spellings : List (List String)) : Document → Option (List (Option Document))
  | .record fields => spellings.mapM (slot fields)
  | _ => none

/-- What the document gives for each of the fields, if it is a record of such fields written by
name or by position. -/
def slots (spellings : List (List String)) : Document → Option (List (Option Document))
  | .list items =>
    if items.length ≤ spellings.length then
      some (items.map some ++ List.replicate (spellings.length - items.length) none)
    else none
  | d => namedSlots spellings d

/-- A field that must be given. -/
def required (read : Document → Option α) : Option Document → Option α
  | some d => read d
  | none => none

/-- A field that may be left out, but is not `null`. -/
def orDefault (default : α) (read : Document → Option α) : Option Document → Option α
  | some d => read d
  | none => some default

/-- A field that may be left out or `null`. -/
def optional (read : Document → Option α) : Option Document → Option (Option α)
  | none | some .null => some none
  | some d => (read d).map some

def bool? : Document → Option Bool
  | .bool b => some b
  | _ => none

/-- A whole number in the given range, its upper end excluded. -/
def wholeIn? (low high : Int) : Document → Option Int
  | .whole n => if low ≤ n ∧ n < high then some n else none
  | _ => none

/-- A list whose items are all readable. -/
def listOf? (read : Document → Option α) : Document → Option (List α)
  | .list items => items.mapM read
  | _ => none

/-- One of several named values: its name, or a record that holds `null` under its name. -/
def choice? (names : List (String × α)) (d : Document) : Option α :=
  let find (s : String) : Option α := (names.find? (·.1 == s)).map (·.2)
  match d with
  | .text s => find s
  | .record [(s, .null)] => find s
  | _ => none

/-- Any document, all parts of which have values. -/
def any? (d : Document) : Option Document := if d.hasValue then some d.canonical else none

/-- The text, or `null` for none. -/
def ofText? : Option String → Document
  | some s => .text s
  | none => .null

end CriticalDamage.Document
