import CriticalDamage.Damage.Tag

/-!
# Damage categories

A category is a second classification of damage beside its type. Persistent and splash damage do
not grow on a critical hit.
-/

namespace CriticalDamage

namespace Category

def persistentTag : List Char := ['p', 'e', 'r', 's', 'i', 's', 't', 'e', 'n', 't']

def splashTag : List Char := ['s', 'p', 'l', 'a', 's', 'h']

def precisionTag : List Char := ['p', 'r', 'e', 'c', 'i', 's', 'i', 'o', 'n']

/-- The tags that mean a category of their own or none. -/
def reserved : List (List Char) :=
  [['n', 'o', 'n', 'e'], ['n', 'u', 'l', 'l'], persistentTag, splashTag, precisionTag]

end Category

/-- A damage category; `plain` damage has none. -/
inductive Category where
  | plain
  | persistent
  | splash
  | precision
  | other (tag : Tag) (unreserved : tag.chars ∉ Category.reserved)
deriving DecidableEq, Repr

namespace Category

instance : Inhabited Category := ⟨.plain⟩

/-- The category a tag stands for. The words `none` and `null` stand for no category. -/
def ofTag (tag : Tag) : Category :=
  if h : tag.chars ∈ reserved then
    if tag.chars = persistentTag then .persistent
    else if tag.chars = splashTag then .splash
    else if tag.chars = precisionTag then .precision
    else .plain
  else .other tag h

/-- The category a name stands for. -/
def ofName (name : List Char) : Category :=
  match Tag.ofName? name with
  | some tag => ofTag tag
  | none => .plain

/-- The characters of the category's tag, if it has a category. -/
def tag? : Category → Option (List Char)
  | .plain => none
  | .persistent => some persistentTag
  | .splash => some splashTag
  | .precision => some precisionTag
  | .other tag _ => some tag.chars

def isPlain (c : Category) : Bool := c == .plain

/-- A critical hit enlarges damage of the category. -/
def scales : Category → Bool
  | .persistent | .splash => false
  | _ => true

/-- The category's tag, or `none`. -/
def text (c : Category) : String :=
  match c.tag? with
  | some cs => String.ofList cs
  | none => "none"

end Category

end CriticalDamage
