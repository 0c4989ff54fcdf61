import CriticalDamage.Dice.Additive
import CriticalDamage.Proofs.Lexemes
import Mathlib

/-!
# Sums of signed terms

What `Additive.read` accepts is stated on the tokens of an expression: they are terms with the signs
directly before them, at least one before every term but the first (`IsSignedSum`). A text is
accepted just when its terms are admissible and their running totals stay in the range of an amount.
The reader is followed over one term (`readTerms_tokens_eq_ok_iff`), and from there over a whole sum
by induction on its terms (`readTerms_eq_ok_iff`); the tokens it gets through are always
those of signed terms (`exists_terms_of_readTerms`).
-/

namespace CriticalDamage

theorem Amount.ofInt?_eq_some_iff {n : Int} {a : Amount} : ofInt? n = some a ↔ a.val = n := by
  rw [ofInt?]
  split
  · simp [Amount.ext_iff, eq_comm]
  · next hrange =>
    refine iff_of_false nofun fun h => hrange ?_
    rw [← h]
    exact ⟨a.le, a.lt⟩

theorem Die.ofSides?_eq_some_iff {n : Nat} {die : Die} : ofSides? n = some die ↔ die.sides = n := by
  rw [ofSides?]
  split
  · simp [Die.ext_iff, eq_comm]
  · next hrange =>
    refine iff_of_false nofun fun h => hrange ?_
    rw [← h]
    exact ⟨die.two_le, die.le⟩

namespace Dice.Additive

/-! ## Signed terms -/

inductive Sign where
  | plus
  | minus
deriving DecidableEq, Repr

def Sign.token : Sign → Token
  | .plus => .symbol .plus
  | .minus => .symbol .minus

inductive Term where
  | number (n : Nat)
  | dice (count sides : Count)
deriving DecidableEq, Repr

def Term.token : Term → Token
  | .number n => .number n
  | .dice count sides => .dice count sides

/-- A term, and the signs directly before it. -/
structure SignedTerm where
  signs : List Sign
  term : Term
deriving DecidableEq, Repr

namespace SignedTerm

def tokens (t : SignedTerm) : List Token := t.signs.map Sign.token ++ [t.term.token]

def minuses (t : SignedTerm) : Nat := t.signs.count .minus

/-- What the term adds to the total of the numbers: a number is negated once for every minus sign
before it. -/
def value (t : SignedTerm) : Int :=
  match t.term with
  | .number n => (-1) ^ t.minuses * n
  | .dice _ _ => 0

/-- The dice of the term, unless their count is zero. -/
def dice (t : SignedTerm) : List (Count × Die) :=
  match t.term with
  | .number _ => []
  | .dice count sides =>
    if count.val = 0 then [] else (Die.ofSides? sides.val).toList.map (count, ·)

/-- A number is not too large; dice have at least two sides, and their minus signs cancel. -/
def IsAdmissible (t : SignedTerm) : Prop :=
  match t.term with
  | .number n => n < Width.signed32
  | .dice _ sides => 2 ≤ sides.val ∧ Even t.minuses

instance : (t : SignedTerm) → Decidable t.IsAdmissible
  | ⟨_, .number n⟩ => inferInstanceAs (Decidable (n < Width.signed32))
  | ⟨_, .dice _ sides⟩ => inferInstanceAs (Decidable (2 ≤ sides.val ∧ Even _))

end SignedTerm

/-- The tokens are those of the terms: signs, a term, and then signs, at least one, and a term as
often as there are more. -/
structure IsSignedSum (ts : List Token) (terms : List SignedTerm) : Prop where
  ne_nil : terms ≠ []
  signed : ∀ t ∈ terms.tail, t.signs ≠ []
  spelled : terms.flatMap SignedTerm.tokens = ts

def flatTotal (terms : List SignedTerm) : Int := (terms.map SignedTerm.value).sum

/-- The numbers can be added to `start` one after another without leaving the range of an amount. -/
def AddsUp (start : Int) (terms : List SignedTerm) : Prop :=
  ∀ run, run <+: terms →
    -2147483648 ≤ start + flatTotal run ∧ start + flatTotal run < 2147483648

instance (start : Int) (terms : List SignedTerm) : Decidable (AddsUp start terms) :=
  decidable_of_iff (∀ run ∈ terms.inits,
    -2147483648 ≤ start + flatTotal run ∧ start + flatTotal run < 2147483648)
    (forall_congr' fun run => imp_congr_left (List.mem_inits run terms))

@[simp] theorem flatTotal_nil : flatTotal [] = 0 := rfl

@[simp] theorem flatTotal_cons (t : SignedTerm) (terms : List SignedTerm) :
    flatTotal (t :: terms) = t.value + flatTotal terms := List.sum_cons

theorem addsUp_nil (flat : Amount) : AddsUp flat.val [] := by
  intro run hrun
  rw [List.prefix_nil.mp hrun, flatTotal_nil, Int.add_zero]
  exact ⟨flat.le, flat.lt⟩

/-- A sum adds up just when its first term can be added and the rest adds up after it. -/
theorem addsUp_cons_iff {flat : Amount} {t : SignedTerm} {terms : List SignedTerm} :
    AddsUp flat.val (t :: terms) ↔
      ∃ sum : Amount, sum.val = flat.val + t.value ∧ AddsUp sum.val terms := by
  constructor
  · intro h
    have hfirst := h [t] ⟨terms, rfl⟩
    rw [flatTotal_cons, flatTotal_nil, Int.add_zero] at hfirst
    refine ⟨⟨flat.val + t.value, hfirst.1, hfirst.2⟩, rfl, fun run hrun => ?_⟩
    have hrest := h (t :: run) (List.cons_prefix_cons.mpr ⟨rfl, hrun⟩)
    rwa [flatTotal_cons, ← Int.add_assoc] at hrest
  · rintro ⟨sum, hsum, hrest⟩ run hrun
    rcases List.prefix_cons_iff.mp hrun with rfl | ⟨rest, rfl, hrest'⟩
    · exact addsUp_nil flat [] List.prefix_rfl
    · rw [flatTotal_cons, ← Int.add_assoc, ← hsum]
      exact hrest rest hrest'

/-! ## Reading one term -/

section
variable {flat : Amount} {ts : List Token} {a : Additive}

theorem addNumber?_eq_some_iff {positive : Bool} {n : Nat} {sum : Amount} :
    addNumber? flat positive n = some sum ↔
      n < Width.signed32 ∧ sum.val = flat.val + if positive then (n : Int) else -n := by
  rw [addNumber?]
  by_cases hn : n < Width.signed32
  · rw [if_pos hn, Amount.ofInt?_eq_some_iff, and_iff_right hn]
  · rw [if_neg hn]
    exact iff_of_false nofun fun h => hn h.1

theorem readTerms_number_eq_ok_iff {positive : Bool} {n : Nat} :
    readTerms (some positive) flat (.number n :: ts) = .ok a ↔
      n < Width.signed32 ∧ ∃ sum : Amount,
        (sum.val = flat.val + if positive then (n : Int) else -n) ∧
          readTerms none sum ts = .ok a := by
  rw [readTerms]
  constructor
  · intro h
    split at h
    · next sum hsum =>
      obtain ⟨hn, hval⟩ := addNumber?_eq_some_iff.mp hsum
      exact ⟨hn, sum, hval, h⟩
    · cases h
  · rintro ⟨hn, sum, hval, h⟩
    rw [addNumber?_eq_some_iff.mpr ⟨hn, hval⟩]
    exact h

theorem readTerms_dice_eq_ok_iff {positive : Bool} {count sides : Count} :
    readTerms (some positive) flat (.dice count sides :: ts) = .ok a ↔
      positive = true ∧ 2 ≤ sides.val ∧ ∃ b, readTerms none flat ts = .ok b ∧
        a = ⟨SignedTerm.dice ⟨[], .dice count sides⟩ ++ b.dice, b.flat⟩ := by
  rw [readTerms]
  constructor
  · intro h
    split at h
    · next hsign =>
      split at h
      · cases h
      · next die hdie =>
        split at h
        · cases h
        · next b hb =>
          cases h
          refine ⟨hsign, Die.ofSides?_eq_some_iff.mp hdie ▸ die.two_le, b, hb, ?_⟩
          simp only [SignedTerm.dice, hdie]
          split <;> rfl
    · cases h
  · rintro ⟨rfl, hsides, b, hb, rfl⟩
    have hdie : Die.ofSides? sides.val = some ⟨sides.val, hsides, Nat.le_of_lt_succ sides.lt⟩ :=
      Die.ofSides?_eq_some_iff.mpr rfl
    simp only [if_true, hdie, hb, SignedTerm.dice]
    split <;> rfl

theorem readTerms_signs (signs : List Sign) (positive : Bool) :
    readTerms (some positive) flat (signs.map Sign.token ++ ts) =
      readTerms (some (if Even (signs.count .minus) then positive else !positive)) flat ts := by
  induction signs generalizing positive with
  | nil => rfl
  | cons sign signs ih =>
    cases sign with
    | plus =>
      rw [List.count_cons_of_ne (by decide), ← ih]
      rfl
    | minus =>
      have hstep : readTerms (some positive) flat
          ((Sign.minus :: signs).map Sign.token ++ ts) =
            readTerms (some !positive) flat (signs.map Sign.token ++ ts) := rfl
      rw [hstep, ih, List.count_cons_self]
      by_cases heven : Even (signs.count .minus) <;> simp [Nat.even_add_one, heven]

/-- The reader gets through a term that stands where one must stand just when it is admissible and
can be added. -/
theorem readTerms_tokens_eq_ok_iff {t : SignedTerm} :
    readTerms (some true) flat (t.tokens ++ ts) = .ok a ↔
      t.IsAdmissible ∧ ∃ (sum : Amount) (b : Additive), sum.val = flat.val + t.value ∧
        readTerms none sum ts = .ok b ∧ a = ⟨t.dice ++ b.dice, b.flat⟩ := by
  obtain ⟨signs, term⟩ := t
  rw [SignedTerm.tokens, List.append_assoc, readTerms_signs]
  cases term with
  | number n =>
    have hvalue : SignedTerm.value ⟨signs, .number n⟩ =
        if (if Even (signs.count .minus) then true else !true) then (n : Int) else -n := by
      rw [SignedTerm.value, SignedTerm.minuses]
      by_cases heven : Even (signs.count .minus)
      · simp [heven]
      · simp [heven, (Nat.not_even_iff_odd.mp heven).neg_one_pow]
    refine readTerms_number_eq_ok_iff.trans (and_congr_right fun _ => exists_congr fun sum => ?_)
    rw [hvalue]
    constructor
    · rintro ⟨hval, h⟩
      exact ⟨a, hval, h, rfl⟩
    · rintro ⟨b, hval, h, rfl⟩
      exact ⟨hval, h⟩
  | dice count sides =>
    refine readTerms_dice_eq_ok_iff.trans ?_
    constructor
    · rintro ⟨hsign, hsides, b, h, ha⟩
      have heven : Even (signs.count .minus) := by simpa using hsign
      exact ⟨⟨hsides, heven⟩, flat, b, (Int.add_zero _).symm, h, ha⟩
    · rintro ⟨⟨hsides, heven⟩, sum, b, hval, h, ha⟩
      have hsum : sum = flat := Amount.ext (hval.trans (Int.add_zero _))
      have heven : Even (signs.count .minus) := heven
      exact ⟨if_pos heven, hsides, b, hsum ▸ h, ha⟩

theorem readTerms_nil_eq_ok_iff :
    readTerms none flat [] = .ok a ↔ a.flat.val = flat.val ∧ a.dice = [] := by
  constructor
  · intro h
    cases h
    exact ⟨rfl, rfl⟩
  · rintro ⟨hflat, hdice⟩
    obtain ⟨dice, total⟩ := a
    cases hdice
    cases Amount.ext hflat
    rfl

/-- After a term, a sign is read as before the first one. -/
theorem readTerms_none_tokens {t : SignedTerm} (h : t.signs ≠ []) :
    readTerms none flat (t.tokens ++ ts) = readTerms (some true) flat (t.tokens ++ ts) := by
  obtain ⟨signs, term⟩ := t
  cases signs with
  | nil => exact absurd rfl h
  | cons sign signs => cases sign <;> rfl

end

/-! ## Reading a sum -/

/-- The tokens of a sum are read just when its terms are admissible and add up. -/
theorem readTerms_eq_ok_iff {flat : Amount} {ts : List Token} {terms : List SignedTerm}
    {a : Additive} (h : IsSignedSum ts terms) :
    readTerms (some true) flat ts = .ok a ↔
      (∀ t ∈ terms, t.IsAdmissible) ∧ AddsUp flat.val terms ∧
        a.flat.val = flat.val + flatTotal terms ∧ a.dice = terms.flatMap SignedTerm.dice := by
  obtain ⟨hne, hsigned, rfl⟩ := h
  induction terms generalizing flat a with
  | nil => exact absurd rfl hne
  | cons t terms ih =>
    have hrest : ∀ (sum : Amount) (b : Additive),
        readTerms none sum (terms.flatMap SignedTerm.tokens) = .ok b ↔
          (∀ u ∈ terms, u.IsAdmissible) ∧ AddsUp sum.val terms ∧
            b.flat.val = sum.val + flatTotal terms ∧ b.dice = terms.flatMap SignedTerm.dice := by
      intro sum b
      cases terms with
      | nil =>
        rw [List.flatMap_nil, readTerms_nil_eq_ok_iff, flatTotal_nil, Int.add_zero]
        exact ⟨fun h => ⟨nofun, addsUp_nil sum, h⟩, fun h => h.2.2⟩
      | cons u terms =>
        rw [List.flatMap_cons, readTerms_none_tokens (hsigned u List.mem_cons_self)]
        exact ih (List.cons_ne_nil u terms) fun v hv => hsigned v (.tail u hv)
    rw [List.flatMap_cons, readTerms_tokens_eq_ok_iff, addsUp_cons_iff, List.forall_mem_cons,
      List.flatMap_cons, flatTotal_cons]
    constructor
    · rintro ⟨ht, sum, b, hsum, hb, rfl⟩
      obtain ⟨hterms, hadds, hflat, hdice⟩ := (hrest sum b).mp hb
      refine ⟨⟨ht, hterms⟩, ⟨sum, hsum, hadds⟩, ?_, by rw [hdice]⟩
      rw [hflat, hsum, Int.add_assoc]
    · rintro ⟨⟨ht, hterms⟩, ⟨sum, hsum, hadds⟩, hflat, hdice⟩
      rw [← Int.add_assoc, ← hsum] at hflat
      refine ⟨ht, sum, ⟨terms.flatMap SignedTerm.dice, a.flat⟩, hsum, ?_, ?_⟩
      · exact (hrest sum _).mpr ⟨hterms, hadds, hflat, rfl⟩
      · rw [← hdice]

theorem isSignedSum_cons_term (term : Term) {terms : List SignedTerm}
    (hsigned : ∀ t ∈ terms, t.signs ≠ []) :
    IsSignedSum (term.token :: terms.flatMap SignedTerm.tokens) (⟨[], term⟩ :: terms) where
  ne_nil := List.cons_ne_nil _ _
  signed := hsigned
  spelled := rfl

theorem IsSignedSum.exists_cons_sign {ts : List Token} {terms : List SignedTerm}
    (h : IsSignedSum ts terms) (sign : Sign) :
    ∃ more, IsSignedSum (sign.token :: ts) more ∧ ∀ t ∈ more, t.signs ≠ [] := by
  obtain ⟨hne, hsigned, rfl⟩ := h
  cases terms with
  | nil => exact absurd rfl hne
  | cons t terms =>
    refine ⟨⟨sign :: t.signs, t.term⟩ :: terms, ⟨List.cons_ne_nil _ _, hsigned, rfl⟩, ?_⟩
    exact List.forall_mem_cons.mpr ⟨List.cons_ne_nil _ _, hsigned⟩

/-- The reader gets through a sign, or through a term where one must stand. -/
theorem readTerms_cons_cases {sign : Option Bool} {flat : Amount} {t : Token} {ts : List Token}
    {a : Additive} (h : readTerms sign flat (t :: ts) = .ok a) :
    (∃ (s : Sign) (positive : Bool), t = s.token ∧ readTerms (some positive) flat ts = .ok a) ∨
      ∃ (term : Term) (sum : Amount) (b : Additive),
        t = term.token ∧ sign.isSome = true ∧ readTerms none sum ts = .ok b := by
  cases t with
  | symbol s =>
    cases s with
    | plus => cases sign <;> exact .inl ⟨.plus, _, rfl, h⟩
    | minus => cases sign <;> exact .inl ⟨.minus, _, rfl, h⟩
    | _ => cases sign <;> cases h
  | number n =>
    cases sign with
    | none => cases h
    | some positive =>
      obtain ⟨-, sum, -, h⟩ := readTerms_number_eq_ok_iff.mp h
      exact .inr ⟨.number n, sum, a, rfl, rfl, h⟩
  | dice count sides =>
    cases sign with
    | none => cases h
    | some positive =>
      obtain ⟨-, -, b, h, -⟩ := readTerms_dice_eq_ok_iff.mp h
      exact .inr ⟨.dice count sides, flat, b, rfl, rfl, h⟩
  | word cs => cases sign <;> cases h

/-- The tokens that the reader gets through are those of signed terms: of a whole sum where a term
must stand, else of the rest of one. -/
theorem exists_terms_of_readTerms {sign : Option Bool} {flat : Amount} {ts : List Token}
    {a : Additive} (h : readTerms sign flat ts = .ok a) :
    match sign with
    | none => ∃ terms : List SignedTerm,
        (∀ t ∈ terms, t.signs ≠ []) ∧ terms.flatMap SignedTerm.tokens = ts
    | some _ => ∃ terms, IsSignedSum ts terms := by
  induction ts generalizing sign flat a with
  | nil =>
    cases sign with
    | none => exact ⟨[], nofun, rfl⟩
    | some _ => cases h
  | cons t ts ih =>
    rcases readTerms_cons_cases h with ⟨s, positive, rfl, hts⟩ | ⟨term, sum, b, rfl, hsign, hts⟩
    · obtain ⟨terms, hterms⟩ := ih hts
      obtain ⟨more, hmore, hsigned⟩ := hterms.exists_cons_sign s
      cases sign with
      | none => exact ⟨more, hsigned, hmore.spelled⟩
      | some _ => exact ⟨more, hmore⟩
    · obtain ⟨terms, hsigned, rfl⟩ := ih hts
      cases sign with
      | none => cases hsign
      | some _ => exact ⟨_, isSignedSum_cons_term term hsigned⟩

/-! ## Reading a text -/

theorem readChars_eq_ok_iff {cs : List Char} {a : Additive} :
    readChars cs = .ok a ↔
      faults cs = [] ∧ readTerms (some true) 0 ((tokens cs).map (·.token)) = .ok a := by
  rw [readChars]
  by_cases hfaults : faults cs = []
  · rw [scan_eq_tokens hfaults, and_iff_right hfaults]
    cases tokens cs with
    | nil => exact iff_of_false nofun nofun
    | cons t ts => exact .rfl
  · obtain ⟨fault, hfault⟩ := scan_of_faults_ne_nil hfaults
    rw [hfault]
    exact iff_of_false nofun fun h => hfaults h.1

theorem read_eq_ok_iff {source : String} {a : Additive} :
    read source = .ok a ↔ faults source.toList = [] ∧
      readTerms (some true) 0 ((tokens source.toList).map (·.token)) = .ok a := by
  rw [← readChars_eq_ok_iff, read]
  cases readChars source.toList with
  | ok b => simp
  | error reason => simp

/-- Of the terms that a text with a sum has, the sum has the dice and the total of the numbers. -/
theorem eq_of_read {source : String} {a : Additive} {terms : List SignedTerm}
    (h : read source = .ok a)
    (hterms : IsSignedSum ((tokens source.toList).map (·.token)) terms) :
    (∀ t ∈ terms, t.IsAdmissible) ∧ AddsUp 0 terms ∧ a.flat.val = flatTotal terms ∧
      a.dice = terms.flatMap SignedTerm.dice := by
  obtain ⟨hadmissible, hadds, hflat, hdice⟩ :=
    (readTerms_eq_ok_iff hterms).mp (read_eq_ok_iff.mp h).2
  exact ⟨hadmissible, hadds, hflat.trans (Int.zero_add _), hdice⟩

theorem exists_isSignedSum_of_read {source : String} {a : Additive} (h : read source = .ok a) :
    ∃ terms, IsSignedSum ((tokens source.toList).map (·.token)) terms :=
  exists_terms_of_readTerms (read_eq_ok_iff.mp h).2

theorem exists_read_of_isSignedSum {source : String} {terms : List SignedTerm}
    (hfaults : faults source.toList = [])
    (hterms : IsSignedSum ((tokens source.toList).map (·.token)) terms)
    (hadmissible : ∀ t ∈ terms, t.IsAdmissible) (hadds : AddsUp 0 terms) :
    ∃ a, read source = .ok a := by
  have htotal := hadds terms List.prefix_rfl
  rw [Int.zero_add] at htotal
  let a : Additive := ⟨terms.flatMap SignedTerm.dice, ⟨flatTotal terms, htotal.1, htotal.2⟩⟩
  refine ⟨a, read_eq_ok_iff.mpr ⟨hfaults, (readTerms_eq_ok_iff hterms).mpr ?_⟩⟩
  exact ⟨hadmissible, hadds, (Int.zero_add _).symm, rfl⟩

/-- A text is read just when it has no faults and its tokens are signed terms that are admissible
and add up. The sum then has the dice of these terms, except those without a count, and the total
of their numbers. Every other text is refused with itself. -/
theorem read_eq_ok_iff_signedSum (source : String) :
    ((∃ a, read source = .ok a) ↔ faults source.toList = [] ∧
      ∃ terms, IsSignedSum ((tokens source.toList).map (·.token)) terms ∧
        (∀ t ∈ terms, t.IsAdmissible) ∧ AddsUp 0 terms) ∧
    (∀ a terms, read source = .ok a →
      IsSignedSum ((tokens source.toList).map (·.token)) terms →
        a.dice = terms.flatMap SignedTerm.dice ∧ a.flat.val = flatTotal terms) ∧
    ((∃ a, read source = .ok a) ∨ ∃ reason, read source = .error ⟨source, reason⟩) := by
  refine ⟨⟨?_, ?_⟩, ?_, ?_⟩
  · rintro ⟨a, ha⟩
    obtain ⟨terms, hterms⟩ := exists_isSignedSum_of_read ha
    obtain ⟨hadmissible, hadds, -⟩ := eq_of_read ha hterms
    exact ⟨(read_eq_ok_iff.mp ha).1, terms, hterms, hadmissible, hadds⟩
  · rintro ⟨hfaults, terms, hterms, hadmissible, hadds⟩
    exact exists_read_of_isSignedSum hfaults hterms hadmissible hadds
  · intro a terms ha hterms
    obtain ⟨-, -, hflat, hdice⟩ := eq_of_read ha hterms
    exact ⟨hdice, hflat⟩
  · rw [read]
    cases readChars source.toList with
    | ok a => exact .inl ⟨a, rfl⟩
    | error reason => exact .inr ⟨reason, rfl⟩

/-- A sum with a sign before its first term, with signs that cancel, and with dice without a
count. -/
theorem read_eq_ok_iff_signedSum_cancelled :
    let source := "+5 - -2d6 + 0d4 --- 7"
    ∃ a, read source = .ok a ∧ a.dice = [(⟨2, by decide⟩, ⟨6, by decide, by decide⟩)] ∧
      a.flat.val = -2 := by
  intro source
  let terms : List SignedTerm :=
    [⟨[.plus], .number 5⟩, ⟨[.minus, .minus], .dice ⟨2, by decide⟩ ⟨6, by decide⟩⟩,
      ⟨[.plus], .dice 0 ⟨4, by decide⟩⟩, ⟨[.minus, .minus, .minus], .number 7⟩]
  have hterms : IsSignedSum ((tokens source.toList).map (·.token)) terms :=
    ⟨by decide, by decide, by decide +kernel⟩
  obtain ⟨hread, hvalue, -⟩ := read_eq_ok_iff_signedSum source
  obtain ⟨a, ha⟩ :=
    hread.mpr ⟨by decide +kernel, terms, hterms, by decide +kernel, by decide +kernel⟩
  obtain ⟨hdice, hflat⟩ := hvalue a terms ha hterms
  exact ⟨a, ha, hdice.trans (by decide +kernel), hflat.trans (by decide +kernel)⟩

end Dice.Additive

end CriticalDamage
