import CriticalDamage.Damage.Category
import CriticalDamage.Dice.Die
import CriticalDamage.Proofs.Numerals

/-!
# Names that are tags

A tag is its own name: it has no blanks, it is in lowercase and nothing of it is dropped, so
`Tag.ofName?` reduces it to itself (`Tag.ofName?_chars`). A damage type and a category are therefore
read back from their own tags, and a die from its text.
-/

namespace CriticalDamage

namespace Text

theorem trim_eq_self {cs : List Char} (h : ∀ c ∈ cs, isBlank c = false) : trim cs = cs := by
  have hdrop : ∀ ds : List Char, (∀ c ∈ ds, isBlank c = false) → ds.dropWhile isBlank = ds := by
    intro ds hds
    cases ds with
    | nil => rfl
    | cons d ds => rw [List.dropWhile_cons, hds d List.mem_cons_self]; rfl
  rw [trim, hdrop cs h, hdrop _ fun c hc => h c (List.mem_reverse.mp hc), List.reverse_reverse]

theorem wordsFrom_eq {cs : List Char} (h : ∀ c ∈ cs, isBlank c = false) (current : List Char)
    (hne : current.reverse ++ cs ≠ []) : wordsFrom current cs = [current.reverse ++ cs] := by
  induction cs generalizing current with
  | nil =>
    rw [wordsFrom, if_neg (by simpa using hne), List.append_nil]
  | cons c cs ih =>
    rw [wordsFrom, h c List.mem_cons_self, if_neg Bool.false_ne_true,
      ih (fun d hd => h d (.tail c hd)) (c :: current) (by simp)]
    simp

theorem words_eq_singleton {cs : List Char} (h : ∀ c ∈ cs, isBlank c = false) (hne : cs ≠ []) :
    words cs = [cs] := wordsFrom_eq h [] hne

theorem lowercase_eq_self {cs : List Char} (h : ∀ c ∈ cs, lowercaseChar c = [c] ∧ c ≠ 'Σ') :
    lowercase cs = cs := by
  suffices ∀ before, lowercaseAfter before cs = cs from this []
  induction cs with
  | nil => exact fun _ => rfl
  | cons c cs ih =>
    intro before
    obtain ⟨hlower, hsigma⟩ := h c List.mem_cons_self
    rw [lowercaseAfter, if_neg hsigma, hlower, ih fun d hd => h d (.tail c hd)]
    rfl

end Text

/-! ## Characters of tags -/

theorem toNat_lt_of_isTagChar {c : Char} (h : isTagChar c = true) : c.toNat < 128 := by
  simp only [isTagChar, Bool.or_eq_true, beq_iff_eq] at h
  rcases h with (((hlower | hdigit) | rfl) | rfl) | rfl
  · have hle : c.val ≤ 'z'.val := of_decide_eq_true (Bool.and_eq_true_iff.mp hlower).2
    exact Nat.lt_of_le_of_lt (UInt32.le_iff_toNat_le.mp hle) (by decide)
  · have hle : c.val ≤ '9'.val := of_decide_eq_true (Bool.and_eq_true_iff.mp hdigit).2
    exact Nat.lt_of_le_of_lt (UInt32.le_iff_toNat_le.mp hle) (by decide)
  all_goals decide

/-- What holds of the ASCII characters of tags holds of all characters of tags. -/
theorem forall_isTagChar {p : Char → Bool}
    (h : ∀ n : Fin 128, isTagChar (Char.ofNat n) = true → p (Char.ofNat n) = true) {c : Char}
    (hc : isTagChar c = true) : p c = true := by
  have := h ⟨c.toNat, toNat_lt_of_isTagChar hc⟩
  rw [Char.ofNat_toNat] at this
  exact this hc

theorem isBlank_of_isTagChar {c : Char} (h : isTagChar c = true) : Text.isBlank c = false := by
  simpa using forall_isTagChar (p := fun c => !Text.isBlank c) (by decide) h

theorem lowercaseChar_of_isTagChar {c : Char} (h : isTagChar c = true) :
    Text.lowercaseChar c = [c] ∧ c ≠ 'Σ' := by
  simpa using forall_isTagChar (p := fun c => Text.lowercaseChar c = [c] ∧ c ≠ 'Σ') (by decide) h

/-! ## Tags -/

namespace Tag

variable (t : Tag)

theorem isTagChar_of_mem {c : Char} (h : c ∈ t.chars) : isTagChar c = true :=
  List.all_eq_true.mp t.all c h

theorem chars_ne_nil : t.chars ≠ [] := by
  intro h
  have hstart := t.start
  rw [h] at hstart
  cases hstart

theorem dropWhile_chars : t.chars.dropWhile (fun c => !isTagStart c) = t.chars := by
  have hstart := t.start
  cases hcs : t.chars with
  | nil => rfl
  | cons c cs =>
    rw [hcs] at hstart
    rw [List.dropWhile_cons, show isTagStart c = true from hstart]
    rfl

theorem reduce_chars : reduce t.chars = t.chars := by
  have hwords : Text.words t.chars = [t.chars] :=
    Text.words_eq_singleton (fun c hc => isBlank_of_isTagChar (t.isTagChar_of_mem hc))
      t.chars_ne_nil
  have hlower : Text.lowercase t.chars = t.chars :=
    Text.lowercase_eq_self fun c hc => lowercaseChar_of_isTagChar (t.isTagChar_of_mem hc)
  rw [reduce, hwords, List.intercalate_singleton, hlower,
    List.filter_eq_self.mpr fun _ hc => t.isTagChar_of_mem hc, dropWhile_chars]

theorem ofName?_chars : ofName? t.chars = some t := by
  unfold ofName?
  split
  · next h => exact absurd (t.reduce_chars ▸ h) t.chars_ne_nil
  · next c cs h =>
    obtain ⟨chars, _, _⟩ := t
    cases (reduce_chars _).symm.trans h
    rfl

theorem trim_chars : Text.trim t.chars = t.chars :=
  Text.trim_eq_self fun _ hc => isBlank_of_isTagChar (t.isTagChar_of_mem hc)

end Tag

theorem DamageType.ofName_chars (t : DamageType) : ofName t.chars = t := by
  rw [ofName, chars, Tag.ofName?_chars]

/-- The tag of a category is a tag, and it stands for that category. -/
theorem Category.exists_ofTag {g : Category} {cs : List Char} (h : g.tag? = some cs) :
    ∃ t : Tag, t.chars = cs ∧ ofTag t = g := by
  cases g with
  | plain => cases h
  | persistent => cases h; exact ⟨⟨persistentTag, by decide, by decide⟩, rfl, by decide⟩
  | splash => cases h; exact ⟨⟨splashTag, by decide, by decide⟩, rfl, by decide⟩
  | precision => cases h; exact ⟨⟨precisionTag, by decide, by decide⟩, rfl, by decide⟩
  | other t ht => cases h; exact ⟨t, rfl, dif_neg ht⟩

theorem Category.ofName_of_tag? {g : Category} {cs : List Char} (h : g.tag? = some cs) :
    ofName cs = g := by
  obtain ⟨t, rfl, htag⟩ := exists_ofTag h
  rw [ofName, Tag.ofName?_chars]
  exact htag

/-! ## Dice -/

theorem Decimal.isBlank_of_mem_natural {n : Nat} {c : Char} (h : c ∈ natural n) :
    Text.isBlank c = false :=
  isBlank_of_isTagChar (by simp [isTagChar, isDigit_of_mem_natural h])

theorem Die.ofTag?_chars (d : Die) : ofTag? d.chars = some d := by
  have htrim : Text.trim d.chars = d.chars := by
    refine Text.trim_eq_self fun c hc => ?_
    rcases List.mem_cons.mp hc with rfl | hc
    · decide
    · exact Decimal.isBlank_of_mem_natural hc
  have hsides : d.sides < Width.unsigned32 := Nat.lt_of_le_of_lt d.le (by decide)
  rw [ofTag?, htrim, chars]
  change (Decimal.unsigned? Width.unsigned32 (Decimal.natural d.sides)).bind ofSides? = some d
  rw [Decimal.unsigned?_natural hsides]
  exact dif_pos ⟨d.two_le, d.le⟩

end CriticalDamage
