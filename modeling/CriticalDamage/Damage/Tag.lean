import CriticalDamage.Text.Blank
import CriticalDamage.Text.Lowercase

/-!
# Tags

A tag is a word that can stand between the brackets of a formula. `Tag.ofName?` reduces the name a
host gives to a damage type or a category: words are joined by hyphens and put in lowercase, all
characters other than letters, digits, hyphens, underscores and points are dropped, and then
everything before the first letter or underscore.
-/

namespace CriticalDamage

/-- The characters of a tag. -/
def isTagChar (c : Char) : Bool :=
  c.isLower || c.isDigit || c == '-' || c == '_' || c == '.'

/-- The characters a tag begins with. -/
def isTagStart (c : Char) : Bool := c.isLower || c == '_'

/-- A word of tag characters that begins with a letter or an underscore. -/
structure Tag where
  chars : List Char
  start : chars.head?.any isTagStart = true
  all : chars.all isTagChar = true
deriving DecidableEq, Repr

namespace Tag

/-- A name reduced to the characters of a tag; empty if it has no letter and no underscore. -/
def reduce (name : List Char) : List Char :=
  let joined := ['-'].intercalate (Text.words name)
  ((Text.lowercase joined).filter isTagChar).dropWhile fun c => !isTagStart c

theorem all_reduce (name : List Char) : (reduce name).all isTagChar = true := by
  rw [List.all_eq_true]
  intro c hc
  exact (List.mem_filter.mp ((List.dropWhile_sublist _).subset hc)).2

/-- The tag a name is reduced to, if anything is left of it. -/
def ofName? (name : List Char) : Option Tag :=
  match h : reduce name with
  | [] => none
  | c :: cs => some {
      chars := c :: cs
      start := by
        have hc := List.head?_dropWhile_not (fun c => !isTagStart c)
          ((Text.lowercase (['-'].intercalate (Text.words name))).filter isTagChar)
        simp only [reduce] at h
        simpa [h] using hc
      all := h ▸ all_reduce name }

def text (t : Tag) : String := String.ofList t.chars

end Tag

/-- A damage type such as `fire` or `piercing`. -/
structure DamageType where
  tag : Tag
deriving DecidableEq, Repr

namespace DamageType

/-- The type of damage whose source names none. -/
def untyped : DamageType :=
  ⟨⟨['u', 'n', 't', 'y', 'p', 'e', 'd'], by decide, by decide⟩⟩

instance : Inhabited DamageType := ⟨untyped⟩

/-- The type a name stands for; `untyped` if nothing of the name can be a tag. -/
def ofName (name : List Char) : DamageType :=
  match Tag.ofName? name with
  | some tag => ⟨tag⟩
  | none => untyped

def chars (t : DamageType) : List Char := t.tag.chars

def text (t : DamageType) : String := t.tag.text

def isUntyped (t : DamageType) : Bool := t == untyped

end DamageType

end CriticalDamage
