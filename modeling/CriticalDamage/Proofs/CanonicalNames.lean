import Mathlib
import CriticalDamage.Proofs.WrittenStructures

/-!
# Canonical names

The name of a damage type or a category is put in lowercase before it is filtered, and no later
step brings a capital letter back: the lowercase of a text has none of the letters `A` to `Z`
(`Text.isUpper_of_mem_lowercase`), whatever letters of other alphabets become. So a filter that
takes letters of both cases leaves small letters only, and what is left is a word that stands for
itself: the texts of the damage types are exactly the names that are their own damage type
(`DamageType.chars_ofName_eq_self_iff`).
-/

namespace CriticalDamage

/-! ## Capital letters -/

namespace Text

theorem toNat_le_of_isUpper {c : Char} (h : c.isUpper = true) :
    'A'.toNat ≤ c.toNat ∧ c.toNat ≤ 'Z'.toNat := by
  simp only [Char.isUpper, decide_eq_true_eq, UInt32.le_iff_toNat_le] at h
  exact h

theorem isUpper_ofNat {n : Nat} (h : 'Z'.toNat < n) : (Char.ofNat n).isUpper = false := by
  rw [Bool.eq_false_iff]
  intro hupper
  obtain ⟨hA, hZ⟩ := toNat_le_of_isUpper hupper
  rw [Char.toNat_ofNat n] at hA hZ
  -- A number that is no character is replaced by 0, which is no letter either.
  split at hZ
  · exact Nat.not_lt.mpr hZ h
  · next hinvalid =>
    rw [if_neg hinvalid] at hA
    exact absurd hA (by decide)

/-- The runs outside ASCII have their small letters behind the capitals of ASCII. -/
theorem toNat_lt_of_mem_caseRuns :
    ∀ r ∈ caseRuns, 128 ≤ r.last → ('Z'.toNat : Int) < r.first + r.shift := by
  decide +kernel

theorem isUpper_of_mem_lowercaseChar {c d : Char} (h : d ∈ lowercaseChar c) :
    d.isUpper = false := by
  unfold lowercaseChar at h
  split at h
  · cases List.mem_singleton.mp h
    exact Char.isUpper_toLower_eq_false c
  · next hascii =>
    split at h
    · rcases List.mem_cons.mp h with rfl | h
      · rfl
      · cases List.mem_singleton.mp h
        rfl
    · split at h
      · next r hr =>
        obtain ⟨hfirst, hlast⟩ : r.first ≤ c.toNat ∧ c.toNat ≤ r.last := by
          have hholds := List.find?_some hr
          simp only [CaseRun.holds, Bool.and_eq_true, decide_eq_true_eq] at hholds
          exact hholds.1
        have hrun := toNat_lt_of_mem_caseRuns r (List.mem_of_find?_eq_some hr) (by omega)
        cases List.mem_singleton.mp h
        exact isUpper_ofNat (by omega)
      · next hnone =>
        cases List.mem_singleton.mp h
        rw [Bool.eq_false_iff]
        intro hupper
        exact hascii (Nat.lt_of_le_of_lt (toNat_le_of_isUpper hupper).2 (by decide))

/-- No capital letter of ASCII is left in a lowercase text. -/
theorem isUpper_of_mem_lowercase {cs : List Char} {d : Char} (h : d ∈ lowercase cs) :
    d.isUpper = false := by
  suffices ∀ before, d ∈ lowercaseAfter before cs → d.isUpper = false from this [] h
  clear h
  intro before h
  induction cs generalizing before with
  | nil => cases h
  | cons c cs ih =>
    rw [lowercaseAfter] at h
    rcases List.mem_append.mp h with h | h
    · split at h
      · split at h <;> cases List.mem_singleton.mp h <;> rfl
      · exact isUpper_of_mem_lowercaseChar h
    · exact ih _ h

end Text

/-! ## What is kept of a name -/

namespace Tag

/-- The characters that may stand in a name: letters of either case, digits and three marks. -/
def mayStand (c : Char) : Bool := c.isAlphanum || c == '-' || c == '_' || c == '.'

/-- The characters a name may begin with. -/
def mayStart (c : Char) : Bool := c.isAlpha || c == '_'

/-- What is left of a name when its words are joined by hyphens and put in lowercase. -/
def kept (name : List Char) : List Char :=
  ((Text.lowercase (['-'].intercalate (Text.words name))).filter mayStand).dropWhile
    fun c => !mayStart c

theorem isTagChar_eq_mayStand {c : Char} (h : c.isUpper = false) : isTagChar c = mayStand c := by
  rw [isTagChar, mayStand, Char.isAlphanum, Char.isAlpha, h, Bool.false_or]

theorem isTagStart_eq_mayStart {c : Char} (h : c.isUpper = false) :
    isTagStart c = mayStart c := by
  rw [isTagStart, mayStart, Char.isAlpha, h, Bool.false_or]

theorem dropWhile_congr {p q : Char → Bool} {cs : List Char} (h : ∀ c ∈ cs, p c = q c) :
    cs.dropWhile p = cs.dropWhile q := by
  induction cs with
  | nil => rfl
  | cons c cs ih =>
    rw [List.dropWhile_cons, List.dropWhile_cons, h c List.mem_cons_self,
      ih fun d hd => h d (.tail c hd)]

/-- After the lowercase it makes no difference that the filter takes capitals too. -/
theorem reduce_eq_kept (name : List Char) : reduce name = kept name := by
  have hfilter := List.filter_congr (l := Text.lowercase (['-'].intercalate (Text.words name)))
    fun c hc => isTagChar_eq_mayStand (Text.isUpper_of_mem_lowercase hc)
  rw [reduce, hfilter, kept]
  refine dropWhile_congr fun c hc => ?_
  rw [isTagStart_eq_mayStart (Text.isUpper_of_mem_lowercase (List.mem_filter.mp hc).1)]

theorem ofName?_eq_none {name : List Char} : ofName? name = none ↔ kept name = [] := by
  rw [← reduce_eq_kept]
  unfold ofName?
  split
  · next h => exact iff_of_true rfl h
  · next h => exact iff_of_false (Option.some_ne_none _) (h ▸ List.cons_ne_nil _ _)

theorem chars_of_ofName? {name : List Char} {t : Tag} (h : ofName? name = some t) :
    t.chars = kept name := by
  rw [← reduce_eq_kept]
  unfold ofName? at h
  split at h
  · cases h
  · next hreduce =>
    cases h
    exact hreduce.symm

/-- A text of small letters, digits, hyphens, underscores and points that begins with a small
letter or an underscore. -/
structure IsWord (cs : List Char) : Prop where
  ne_nil : cs ≠ []
  all : ∀ c ∈ cs, ('a' ≤ c ∧ c ≤ 'z') ∨ ('0' ≤ c ∧ c ≤ '9') ∨ c = '-' ∨ c = '_' ∨ c = '.'
  start : ∀ c ∈ cs.head?, ('a' ≤ c ∧ c ≤ 'z') ∨ c = '_'

theorem isLower_iff {c : Char} : c.isLower = true ↔ 'a' ≤ c ∧ c ≤ 'z' := by
  rw [Char.isLower, Bool.and_eq_true, decide_eq_true_eq, decide_eq_true_eq]
  rfl

theorem isDigit_iff {c : Char} : c.isDigit = true ↔ '0' ≤ c ∧ c ≤ '9' := by
  rw [Char.isDigit, Bool.and_eq_true, decide_eq_true_eq, decide_eq_true_eq]
  rfl

theorem isTagChar_iff {c : Char} : isTagChar c = true ↔
    ('a' ≤ c ∧ c ≤ 'z') ∨ ('0' ≤ c ∧ c ≤ '9') ∨ c = '-' ∨ c = '_' ∨ c = '.' := by
  simp only [isTagChar, Bool.or_eq_true, beq_iff_eq, isLower_iff, isDigit_iff, or_assoc]

theorem isTagStart_iff {c : Char} : isTagStart c = true ↔ ('a' ≤ c ∧ c ≤ 'z') ∨ c = '_' := by
  rw [isTagStart, Bool.or_eq_true, beq_iff_eq, isLower_iff]

/-- The words are the texts of the tags. -/
theorem isWord_iff {cs : List Char} : IsWord cs ↔ ∃ t : Tag, t.chars = cs := by
  constructor
  · intro h
    have hall : cs.all isTagChar = true :=
      List.all_eq_true.mpr fun c hc => isTagChar_iff.mpr (h.all c hc)
    have hstart : cs.head?.any isTagStart = true := by
      cases cs with
      | nil => exact absurd rfl h.ne_nil
      | cons c cs => exact isTagStart_iff.mpr (h.start c rfl)
    exact ⟨⟨cs, hstart, hall⟩, rfl⟩
  · rintro ⟨t, rfl⟩
    refine ⟨t.chars_ne_nil, fun c hc => isTagChar_iff.mp (t.isTagChar_of_mem hc), ?_⟩
    intro c hc
    have hstart := t.start
    rw [Option.mem_def.mp hc] at hstart
    exact isTagStart_iff.mp hstart

end Tag

/-! ## Damage types -/

namespace DamageType

theorem chars_ofName (name : List Char) :
    (ofName name).chars = if Tag.kept name = [] then untyped.chars else Tag.kept name := by
  unfold ofName
  cases h : Tag.ofName? name with
  | none => rw [if_pos (Tag.ofName?_eq_none.mp h)]
  | some t =>
    rw [if_neg fun hnil => Option.some_ne_none t (h.symm.trans (Tag.ofName?_eq_none.mpr hnil))]
    exact Tag.chars_of_ofName? h

-- The Kelvin sign and the dotted capital become letters of ASCII before the filter.
example : (ofName ['+', '\u212a', 'İ', 'T', '!']).chars = ['k', 'i', 't'] := by decide

/-- The names that are their own damage type are exactly the words. -/
theorem chars_ofName_eq_self_iff {cs : List Char} :
    (ofName cs).chars = cs ↔ Tag.IsWord cs := by
  rw [Tag.isWord_iff]
  constructor
  · exact fun h => ⟨(ofName cs).tag, h⟩
  · rintro ⟨t, rfl⟩
    exact congrArg chars (ofName_chars ⟨t⟩)

end DamageType

/-! ## Categories -/

namespace Category

/-- The words for no category. -/
def absentWords : List (List Char) := [['n', 'o', 'n', 'e'], ['n', 'u', 'l', 'l']]

theorem tag?_ofTag (t : Tag) :
    (ofTag t).tag? = if t.chars ∈ absentWords then none else some t.chars := by
  unfold ofTag
  split
  · next h =>
    simp only [reserved, List.mem_cons, List.not_mem_nil, or_false] at h
    rcases h with h | h | h | h | h <;> rw [h] <;> rfl
  · next h =>
    have habsent : t.chars ∉ absentWords := fun hmem =>
      h (List.mem_append_left [persistentTag, splashTag, precisionTag] hmem)
    rw [if_neg habsent]
    rfl

theorem tag?_ofName (name : List Char) :
    (ofName name).tag? =
      if Tag.kept name ∈ [] :: absentWords then none else some (Tag.kept name) := by
  unfold ofName
  cases h : Tag.ofName? name with
  | none => rw [Tag.ofName?_eq_none.mp h]; rfl
  | some t =>
    have hiff : t.chars ∈ [] :: absentWords ↔ t.chars ∈ absentWords :=
      List.mem_cons.trans (or_iff_right t.chars_ne_nil)
    rw [← Tag.chars_of_ofName? h]
    simp only [hiff]
    exact tag?_ofTag t

/-- The text of a category names it, also the word `none` of damage without a category. -/
theorem ofName_text (g : Category) : ofName g.text.toList = g := by
  unfold text
  cases h : g.tag? with
  | none => rw [eq_plain_of_tag? h]; rfl
  | some cs =>
    rw [String.toList_ofList]
    exact ofName_of_tag? h

end Category

/-- Every name has a canonical form. The text of its damage type is a word that names the same type
again, and every word is such a text; its category is named again by its tag or the absence of one,
and a category outside the list has a word of its own. -/
theorem names_have_canonical_form (name : List Char) :
    (Tag.IsWord (DamageType.ofName name).chars ∧
      (DamageType.ofName name).chars =
        (if Tag.kept name = [] then DamageType.untyped.chars else Tag.kept name) ∧
      DamageType.ofName (DamageType.ofName name).chars = DamageType.ofName name ∧
      ((DamageType.ofName name).chars = name ↔ Tag.IsWord name)) ∧
    (Category.ofName name).tag? =
      (if Tag.kept name ∈ [] :: Category.absentWords then none else some (Tag.kept name)) ∧
    (∀ cs, (Category.ofName name).tag? = some cs → Category.ofName cs = Category.ofName name) ∧
    Category.ofDocument? (Document.ofText? ((Category.ofName name).tag?.map String.ofList)) =
      some (Category.ofName name) ∧
    Category.ofName (Category.ofName name).text.toList = Category.ofName name ∧
    ∀ tag unreserved, Category.ofName name = .other tag unreserved → Tag.IsWord tag.chars ∧
      tag.chars ∉ [] :: (Category.absentWords ++
        [Category.persistentTag, Category.splashTag, Category.precisionTag]) := by
  refine ⟨⟨?_, DamageType.chars_ofName name, DamageType.ofName_chars _,
    DamageType.chars_ofName_eq_self_iff⟩, Category.tag?_ofName name,
    fun _ => Category.ofName_of_tag?, Category.ofDocument?_toDocument _, Category.ofName_text _, ?_⟩
  · exact Tag.isWord_iff.mpr ⟨(DamageType.ofName name).tag, rfl⟩
  · intro tag unreserved _
    refine ⟨Tag.isWord_iff.mpr ⟨tag, rfl⟩, fun hmem => ?_⟩
    rcases List.mem_cons.mp hmem with hnil | hreserved
    · exact tag.chars_ne_nil hnil
    · exact unreserved hreserved

end CriticalDamage
