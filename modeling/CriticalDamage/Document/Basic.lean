import CriticalDamage.Number.Binary64

/-!
# Documents

The data a game host exchanges: trees of numbers, texts, lists and records. `field` reads a record
as a table in which every absent name holds `null`; `canonical` sorts each record by name and keeps
the last of repeated names, which is how a document is compared and stored.
-/

namespace CriticalDamage

/-- A tree of host data. A whole number lies between `-2 ^ 63` and `2 ^ 64 - 1`; every other number
is a `real`. -/
inductive Document where
  | null
  | bool (b : Bool)
  | whole (n : Int)
  | real (x : Binary64)
  | text (s : String)
  | list (items : List Document)
  | record (fields : List (String × Document))
  /-- A part of a text that is well formed but has no value: a number that is too large, a text
  with half a surrogate pair, or anything nested too deeply. -/
  | valueless
deriving Inhabited

namespace Document

/-- What the record holds under a name; nothing if it is not a record or has no such name. -/
def get? (d : Document) (name : String) : Option Document :=
  match d with
  | .record fields => (fields.find? (·.1 == name)).map (·.2)
  | _ => none

/-- What the record holds under a name, and `null` where it holds nothing. -/
def field (d : Document) (name : String) : Document := (d.get? name).getD .null

/-- The text, if the document is one. -/
def text? : Document → Option String
  | .text s => some s
  | _ => none

/-- The items, if the document is a list. -/
def items? : Document → Option (List Document)
  | .list items => some items
  | _ => none

def isNull : Document → Bool
  | .null => true
  | _ => false

def isNumber : Document → Bool
  | .whole _ | .real _ => true
  | _ => false

/-- Puts a field into fields sorted by name, in the place of one of the same name. -/
def insertField (name : String) (value : Document) :
    List (String × Document) → List (String × Document)
  | [] => [(name, value)]
  | (other, old) :: rest =>
    if name = other then (name, value) :: rest
    else if name < other then (name, value) :: (other, old) :: rest
    else (other, old) :: insertField name value rest

mutual

/-- Every record sorted by name, with the last of repeated names. -/
def canonical : Document → Document
  | .list items => .list (canonicalItems items)
  | .record fields => .record (canonicalFields [] fields)
  | d => d

/-- The canonical forms of a list's items. -/
def canonicalItems : List Document → List Document
  | [] => []
  | d :: ds => d.canonical :: canonicalItems ds

/-- The canonical forms of a record's fields, put into `done`. -/
def canonicalFields (done : List (String × Document)) :
    List (String × Document) → List (String × Document)
  | [] => done
  | (name, d) :: rest => canonicalFields (insertField name d.canonical done) rest

end

mutual

/-- Every part of the document has a value. -/
def hasValue : Document → Bool
  | .valueless => false
  | .list items => haveValues items
  | .record fields => fieldsHaveValues fields
  | _ => true

/-- Every item has a value in all its parts. -/
def haveValues : List Document → Bool
  | [] => true
  | d :: ds => d.hasValue && haveValues ds

/-- Every field has a value in all its parts. -/
def fieldsHaveValues : List (String × Document) → Bool
  | [] => true
  | (_, d) :: rest => d.hasValue && fieldsHaveValues rest

end

end Document

end CriticalDamage
