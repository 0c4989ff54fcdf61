import CriticalDamage.Proofs.FormulaSets
import CriticalDamage.Proofs.SignedTerms

/-!
# Agreement of the two readers

A text may be read as a sum of dice and numbers and as a formula. What both accept are terms with at
most one sign each, and none before the first but a minus sign; `FormsSum` relates such terms to the
formulas of a sum. A sum derived from tokens without parentheses and brackets is related to their
terms (`exists_formsSum_of_isSum`), and related terms are derived (`FormsSum.isSum`). The formula
then has the range and the dice of the terms (`rangeSum_eq`, `leavesOfSum_eq`).
-/

namespace CriticalDamage.Dice

def Token.IsSign (t : Token) : Prop := t = .symbol .plus ∨ t = .symbol .minus

instance : DecidablePred Token.IsSign := fun _ => inferInstanceAs (Decidable (_ ∨ _))

namespace Additive

/-! ## Formulas of terms -/

/-- The formula of a term without signs. -/
inductive Term.Forms : Term → Formula → Prop where
  | number {n : Nat} : Forms (.number n) (.constant n)
  | dice {count sides : Count} {die : Die} : Die.ofSides? sides.val = some die →
      Forms (.dice count sides) (.dice count die)

/-- The formula of a term with at most one sign. -/
inductive SignedTerm.Forms : SignedTerm → Formula → Prop where
  | bare {term : Term} {f : Formula} : term.Forms f → Forms ⟨[], term⟩ f
  | plus {term : Term} {f : Formula} : term.Forms f → Forms ⟨[.plus], term⟩ f
  | minus {term : Term} {f : Formula} : term.Forms f → Forms ⟨[.minus], term⟩ (.negate f)

/-- The formulas are those of a sum of terms, the first of which has no plus sign. -/
structure FormsSum (ts : List Token) (terms : List SignedTerm) (fs : List Formula) : Prop where
  isSignedSum : IsSignedSum ts terms
  first : ∀ t ∈ terms.head?, t.signs ≠ [.plus]
  forms : List.Forall₂ SignedTerm.Forms terms fs

theorem Term.not_isSign_token (term : Term) : ¬term.token.IsSign := by
  cases term <;> simp [Term.token, Token.IsSign]

theorem Sign.isSign_token (sign : Sign) : sign.token.IsSign := by
  cases sign <;> simp [Sign.token, Token.IsSign]

theorem SignedTerm.Forms.length_signs_le {t : SignedTerm} {f : Formula} (h : t.Forms f) :
    t.signs.length ≤ 1 := by
  cases h with
  | bare => exact Nat.zero_le 1
  | plus | minus => exact Nat.le_refl 1

theorem exists_forms {t : SignedTerm} (hadmissible : t.IsAdmissible)
    (hsigns : t.signs.length ≤ 1) : ∃ f, t.Forms f := by
  obtain ⟨signs, term⟩ := t
  have hterm : ∃ f, term.Forms f := by
    cases term with
    | number n => exact ⟨_, .number⟩
    | dice count sides =>
      have hsides : 2 ≤ sides.val := hadmissible.1
      exact ⟨_, .dice (dif_pos ⟨hsides, Nat.le_of_lt_succ sides.lt⟩)⟩
  obtain ⟨f, hf⟩ := hterm
  match signs with
  | [] => exact ⟨_, .bare hf⟩
  | [.plus] => exact ⟨_, .plus hf⟩
  | [.minus] => exact ⟨_, .minus hf⟩
  | _ :: _ :: _ => exact absurd hsigns (by simp)

theorem FormsSum.single {t : SignedTerm} {f : Formula} (h : t.Forms f) (hfirst : t.signs ≠ [.plus]) :
    FormsSum t.tokens [t] [f] where
  isSignedSum := ⟨List.cons_ne_nil _ _, nofun, List.flatMap_singleton _ _⟩
  first _ hu := Option.mem_some.mp hu ▸ hfirst
  forms := .cons h .nil

theorem FormsSum.concat {ts : List Token} {terms : List SignedTerm} {fs : List Formula}
    {t : SignedTerm} {f : Formula} (h : FormsSum ts terms fs) (hf : t.Forms f)
    (hsigned : t.signs ≠ []) : FormsSum (ts ++ t.tokens) (terms ++ [t]) (fs ++ [f]) := by
  obtain ⟨⟨hne, htail, rfl⟩, hfirst, hforms⟩ := h
  refine ⟨⟨List.append_ne_nil_of_left_ne_nil hne _, ?_, ?_⟩, ?_, ?_⟩
  · rw [List.tail_append_of_ne_nil hne]
    exact List.forall_mem_append.mpr ⟨htail, List.forall_mem_singleton.mpr hsigned⟩
  · rw [List.flatMap_append, List.flatMap_singleton]
  · rwa [List.head?_append_of_ne_nil _ hne]
  · exact List.rel_append hforms (.cons hf .nil)

/-! ## Derivations without parentheses and brackets -/

/-- Neither a parenthesis nor a bracket opens. -/
def opensNothing (ts : List Scanned) : Prop :=
  ∀ t ∈ ts, t.token ≠ .symbol .leftParen ∧ t.token ≠ .symbol .leftBracket

theorem opensNothing_of_isSignedSum {ts : List Scanned} {terms : List SignedTerm}
    (h : IsSignedSum (ts.map (·.token)) terms) : opensNothing ts := by
  intro t ht
  have hmem : t.token ∈ terms.flatMap SignedTerm.tokens := by
    rw [h.spelled]
    exact List.mem_map_of_mem ht
  obtain ⟨u, -, hu⟩ := List.mem_flatMap.mp hmem
  rcases List.mem_append.mp hu with hsign | hterm
  · obtain ⟨sign, -, hsign⟩ := List.mem_map.mp hsign
    rw [← hsign]
    cases sign <;> simp [Sign.token]
  · rw [List.mem_singleton.mp hterm]
    cases u.term <;> simp [Term.token]

/-- Where nothing opens, a term is one token. -/
theorem exists_forms_of_isTerm {ts : List Scanned} {f : Formula} (h : Formula.IsTerm ts f)
    (hopens : opensNothing ts) :
    ∃ term : Term, ts.map (·.token) = [term.token] ∧ term.Forms f := by
  cases h with
  | @dice t count sides die ht hdie =>
    exact ⟨.dice count sides, congrArg (fun u => [u]) ht, .dice hdie⟩
  | @number t n ht => exact ⟨.number n, congrArg (fun u => [u]) ht, .number⟩
  | group ht _ _ => exact absurd ht (hopens _ List.mem_cons_self).1
  | tagged _ ht _ _ =>
    exact absurd ht (hopens _ (List.mem_append_right _ List.mem_cons_self)).2

theorem exists_formsSum_append {t : Scanned} {ts us : List Scanned} {fs : List Formula}
    {f g : Formula} (sign : Sign) (hsum : ∃ terms, FormsSum (ts.map (·.token)) terms fs)
    (ht : t.token = sign.token) (hf : Formula.IsTerm us f) (hopens : opensNothing us)
    (hg : ∀ term : Term, term.Forms f → SignedTerm.Forms ⟨[sign], term⟩ g) :
    ∃ terms, FormsSum ((ts ++ t :: us).map (·.token)) terms (fs ++ [g]) := by
  obtain ⟨terms, hterms⟩ := hsum
  obtain ⟨term, hterm, hforms⟩ := exists_forms_of_isTerm hf hopens
  rw [List.map_append, List.map_cons, hterm, ht]
  exact ⟨_, hterms.concat (hg term hforms) (List.cons_ne_nil _ _)⟩

theorem exists_formsSum_of_isSum {ts : List Scanned} {fs : List Formula}
    (h : Formula.IsSum ts fs) (hopens : opensNothing ts) :
    ∃ terms, FormsSum (ts.map (·.token)) terms fs := by
  induction h using Formula.IsSum.induction with
  | first hf =>
    obtain ⟨term, hterm, hforms⟩ := exists_forms_of_isTerm hf hopens
    rw [hterm]
    exact ⟨_, FormsSum.single (.bare hforms) (List.cons_ne_nil _ _).symm⟩
  | negated ht hf =>
    obtain ⟨term, hterm, hforms⟩ := exists_forms_of_isTerm hf fun u hu => hopens u (.tail _ hu)
    have hfirst : [Sign.minus] ≠ [Sign.plus] := by decide
    rw [List.map_cons, hterm, ht]
    exact ⟨_, FormsSum.single (.minus hforms) hfirst⟩
  | plus _ ht hf ih =>
    obtain ⟨hts, hus⟩ := List.forall_mem_append.mp hopens
    exact exists_formsSum_append .plus (ih hts) ht hf (fun u hu => hus u (.tail _ hu))
      fun _ => .plus
  | minus _ ht hf ih =>
    obtain ⟨hts, hus⟩ := List.forall_mem_append.mp hopens
    exact exists_formsSum_append .minus (ih hts) ht hf (fun u hu => hus u (.tail _ hu))
      fun _ => .minus

theorem Term.Forms.isTerm {term : Term} {f : Formula} (h : term.Forms f) {t : Scanned}
    (ht : t.token = term.token) : Formula.IsTerm [t] f := by
  cases h with
  | number => exact .number ht
  | dice hdie => exact .dice ht hdie

theorem exists_pair_of_tokens {ts : List Scanned} {sign : Sign} {term : Term}
    (h : ts.map (·.token) = SignedTerm.tokens ⟨[sign], term⟩) :
    ∃ t u, ts = [t, u] ∧ t.token = sign.token ∧ u.token = term.token := by
  obtain ⟨t, us, rfl, ht, hus⟩ := List.map_eq_cons_iff.mp h
  obtain ⟨u, rfl, hu⟩ := List.map_eq_singleton_iff.mp hus
  exact ⟨t, u, rfl, ht, hu⟩

/-- Terms that have signs go on with a sum. -/
theorem isSum_append {us ts : List Scanned} {gs fs : List Formula} {terms : List SignedTerm}
    (hsum : Formula.IsSum us gs) (hforms : List.Forall₂ SignedTerm.Forms terms fs)
    (hsigned : ∀ t ∈ terms, t.signs ≠ [])
    (hts : ts.map (·.token) = terms.flatMap SignedTerm.tokens) :
    Formula.IsSum (us ++ ts) (gs ++ fs) := by
  induction hforms generalizing us gs ts with
  | nil =>
    rw [List.flatMap_nil, List.map_eq_nil_iff] at hts
    rwa [hts, List.append_nil, List.append_nil]
  | @cons t f terms fs ht _ ih =>
    rw [List.flatMap_cons] at hts
    obtain ⟨vs, ws, rfl, hvs, hws⟩ := List.map_eq_append_iff.mp hts
    have hmore : Formula.IsSum (us ++ vs) (gs ++ [f]) := by
      cases ht with
      | bare => exact absurd rfl (hsigned _ List.mem_cons_self)
      | plus hforms =>
        obtain ⟨v, w, rfl, hv, hw⟩ := exists_pair_of_tokens hvs
        exact hsum.plus hv (hforms.isTerm hw)
      | minus hforms =>
        obtain ⟨v, w, rfl, hv, hw⟩ := exists_pair_of_tokens hvs
        exact hsum.minus hv (hforms.isTerm hw)
    have hrest := ih hmore (fun u hu => hsigned u (.tail _ hu)) hws
    rwa [List.append_assoc, List.append_assoc] at hrest

theorem FormsSum.isSum {ts : List Scanned} {terms : List SignedTerm} {fs : List Formula}
    (h : FormsSum (ts.map (·.token)) terms fs) : Formula.IsSum ts fs := by
  obtain ⟨⟨hne, hsigned, hts⟩, hfirst, hforms⟩ := h
  cases hforms with
  | nil => exact absurd rfl hne
  | @cons t f terms fs ht hforms =>
    rw [List.flatMap_cons] at hts
    obtain ⟨us, vs, rfl, hus, hvs⟩ := List.map_eq_append_iff.mp hts.symm
    have hstart : Formula.IsSum us [f] := by
      cases ht with
      | bare hforms =>
        obtain ⟨u, rfl, hu⟩ := List.map_eq_singleton_iff.mp hus
        exact .first (hforms.isTerm hu)
      | plus => exact absurd rfl (hfirst _ rfl)
      | minus hforms =>
        obtain ⟨u, v, rfl, hu, hv⟩ := exists_pair_of_tokens hus
        exact .negated hu (hforms.isTerm hv)
    exact isSum_append hstart hforms hsigned hvs

/-! ## Signs between terms -/

/-- No two signs follow one another just when every term has at most one. -/
theorem isChain_flatMap_iff {terms : List SignedTerm} :
    (terms.flatMap SignedTerm.tokens).IsChain (fun t u => ¬(t.IsSign ∧ u.IsSign)) ↔
      ∀ t ∈ terms, t.signs.length ≤ 1 := by
  constructor
  · intro h t ht
    have hone := h.infix (List.infix_of_mem_flatten (List.mem_map_of_mem ht))
    obtain ⟨signs, term⟩ := t
    match signs with
    | [] => exact Nat.zero_le 1
    | [_] => exact Nat.le_refl 1
    | first :: second :: _ =>
      exact absurd ⟨first.isSign_token, second.isSign_token⟩ (List.isChain_cons_cons.mp hone).1
  · intro h
    induction terms with
    | nil => exact .nil
    | cons t terms ih =>
      obtain ⟨ht, hterms⟩ := List.forall_mem_cons.mp h
      obtain ⟨signs, term⟩ := t
      have hlast : (term.token :: terms.flatMap SignedTerm.tokens).IsChain
          fun t u => ¬(t.IsSign ∧ u.IsSign) :=
        List.isChain_cons.mpr ⟨fun _ _ hsigns => term.not_isSign_token hsigns.1, ih hterms⟩
      match signs with
      | [] => exact hlast
      | [_] =>
        exact List.isChain_cons_cons.mpr ⟨fun hsigns => term.not_isSign_token hsigns.2, hlast⟩
      | _ :: _ :: _ => exact absurd ht (by simp)

theorem head?_flatMap_tokens {ts : List Token} {terms : List SignedTerm}
    (h : IsSignedSum ts terms) :
    ts.head? = some (.symbol .plus) ↔ ∃ t ∈ terms.head?, t.signs.head? = some .plus := by
  obtain ⟨hne, -, rfl⟩ := h
  cases terms with
  | nil => exact absurd rfl hne
  | cons t terms =>
    obtain ⟨signs, term⟩ := t
    cases signs with
    | nil => cases term <;> simp [SignedTerm.tokens, Term.token]
    | cons sign signs => cases sign <;> simp [SignedTerm.tokens, Sign.token]

/-! ## Ranges and dice -/

/-- The range of dice and a flat value. -/
def rangeOf (dice : List (Count × Die)) (flat : Int) : Range :=
  ⟨(dice.map fun p => (p.1.val : Int)).sum + flat,
    (dice.map fun p => (p.1.val * p.2.sides : Int)).sum + flat⟩

theorem rangeOf_append (dice more : List (Count × Die)) (flat total : Int) :
    rangeOf (dice ++ more) (flat + total) = (rangeOf dice flat).add (rangeOf more total) := by
  simp only [rangeOf, Range.add, List.map_append, List.sum_append, Range.mk.injEq]
  omega

theorem Term.Forms.range_eq {term : Term} {f : Formula} (h : term.Forms f) {signs : List Sign}
    (heven : Even (signs.count .minus)) :
    f.range = rangeOf (SignedTerm.dice ⟨signs, term⟩) (SignedTerm.value ⟨signs, term⟩) := by
  cases h with
  | number => simp [Formula.range, Range.point, rangeOf, SignedTerm.dice, SignedTerm.value,
      SignedTerm.minuses, heven]
  | @dice count sides die hdie =>
    simp only [SignedTerm.dice, SignedTerm.value, hdie, Formula.range, rangeOf]
    split
    · next hcount => simp [hcount]
    · simp

theorem Term.Forms.leaves_eq {term : Term} {f : Formula} (h : term.Forms f) (signs : List Sign) :
    f.leaves.filter (fun p => p.1.val ≠ 0) = SignedTerm.dice ⟨signs, term⟩ := by
  cases h with
  | number => rfl
  | @dice count sides die hdie =>
    simp only [SignedTerm.dice, hdie, Formula.leaves]
    split <;> next hcount => simp [hcount]

theorem SignedTerm.Forms.leaves_eq {t : SignedTerm} {f : Formula} (h : t.Forms f) :
    f.leaves.filter (fun p => p.1.val ≠ 0) = t.dice := by
  cases h with
  | bare hforms => exact hforms.leaves_eq []
  | plus hforms => exact hforms.leaves_eq [.plus]
  | minus hforms => exact hforms.leaves_eq [.minus]

/-- Only a number is admissible after a minus sign. -/
theorem SignedTerm.Forms.range_eq {t : SignedTerm} {f : Formula} (h : t.Forms f)
    (hadmissible : t.IsAdmissible) : f.range = rangeOf t.dice t.value := by
  cases h with
  | bare hforms => exact hforms.range_eq (by decide)
  | plus hforms => exact hforms.range_eq (by decide)
  | minus hforms =>
    cases hforms with
    | number => simp [Formula.range, Range.point, Range.neg, rangeOf, SignedTerm.dice,
        SignedTerm.value, SignedTerm.minuses]
    | dice => exact absurd hadmissible.2 Nat.not_even_one

variable {terms : List SignedTerm} {fs : List Formula}

theorem rangeSum_eq (h : List.Forall₂ SignedTerm.Forms terms fs)
    (hadmissible : ∀ t ∈ terms, t.IsAdmissible) :
    Formula.rangeSum fs = rangeOf (terms.flatMap SignedTerm.dice) (flatTotal terms) := by
  induction h with
  | nil => rfl
  | cons ht _ ih =>
    obtain ⟨hfirst, hrest⟩ := List.forall_mem_cons.mp hadmissible
    rw [Formula.rangeSum, ht.range_eq hfirst, ih hrest, List.flatMap_cons, flatTotal_cons,
      rangeOf_append]

theorem leavesOfSum_eq (h : List.Forall₂ SignedTerm.Forms terms fs) :
    (Formula.leavesOfSum fs).filter (fun p => p.1.val ≠ 0) =
      terms.flatMap SignedTerm.dice := by
  induction h with
  | nil => rfl
  | cons ht _ ih =>
    rw [Formula.leavesOfSum, List.filter_append, ht.leaves_eq, ih, List.flatMap_cons]

theorem range_ofTerms (fs : List Formula) :
    (Formula.ofTerms fs).range = Formula.rangeSum fs := by
  match fs with
  | [] => rfl
  | [f] => simp [Formula.ofTerms, Formula.rangeSum, Range.add, Range.point]
  | _ :: _ :: _ => rfl

theorem leaves_ofTerms (fs : List Formula) :
    (Formula.ofTerms fs).leaves = Formula.leavesOfSum fs := by
  match fs with
  | [] => rfl
  | [f] => exact (List.append_nil _).symm
  | _ :: _ :: _ => rfl

/-! ## Reading a text twice -/

/-- A text that is read as a sum and as a formula is one of terms that have at most one sign. -/
theorem exists_formsSum_of_read {source : String} {a : Additive} {f : Formula}
    (ha : read source = .ok a) (hf : Formula.read source = .ok f) :
    ∃ terms fs, FormsSum ((tokens source.toList).map (·.token)) terms fs ∧
      Formula.ofTerms fs = f := by
  obtain ⟨terms, hterms⟩ := exists_isSignedSum_of_read ha
  rw [Formula.read_eq_ok_iff, Formula.readChars_eq_ok_iff_derives] at hf
  obtain ⟨-, fs, hsum, hfs⟩ := hf
  obtain ⟨more, hmore⟩ := exists_formsSum_of_isSum hsum (opensNothing_of_isSignedSum hterms)
  exact ⟨more, fs, hmore, hfs⟩

theorem range_and_leaves_of_read {source : String} {a : Additive} {f : Formula}
    (ha : read source = .ok a) (hf : Formula.read source = .ok f) :
    f.range = rangeOf a.dice a.flat.val ∧ f.leaves.filter (fun p => p.1.val ≠ 0) = a.dice := by
  obtain ⟨terms, fs, hterms, rfl⟩ := exists_formsSum_of_read ha hf
  obtain ⟨hadmissible, -, hflat, hdice⟩ := eq_of_read ha hterms.isSignedSum
  rw [range_ofTerms, leaves_ofTerms, hdice, hflat]
  exact ⟨rangeSum_eq hterms.forms hadmissible, leavesOfSum_eq hterms.forms⟩

theorem exists_formula_iff {source : String} {a : Additive} (ha : read source = .ok a) :
    (∃ f, Formula.read source = .ok f) ↔
      ((tokens source.toList).map (·.token)).head? ≠ some (.symbol .plus) ∧
        ((tokens source.toList).map (·.token)).IsChain fun t u => ¬(t.IsSign ∧ u.IsSign) := by
  constructor
  · rintro ⟨f, hf⟩
    obtain ⟨terms, fs, ⟨hsum, hfirst, hforms⟩, -⟩ := exists_formsSum_of_read ha hf
    have hlength : ∀ t ∈ terms, t.signs.length ≤ 1 := by
      intro t ht
      obtain ⟨g, hg⟩ := exists_forall₂_iff.mp ⟨fs, hforms⟩ t ht
      exact hg.length_signs_le
    refine ⟨fun hplus => ?_, hsum.spelled ▸ isChain_flatMap_iff.mpr hlength⟩
    obtain ⟨t, ht, hsign⟩ := (head?_flatMap_tokens hsum).mp hplus
    obtain ⟨signs, hsigns⟩ := List.head?_eq_some_iff.mp hsign
    have hone := hlength t (List.mem_of_mem_head? ht)
    rw [hsigns, List.length_cons] at hone
    have hnil : signs = [] :=
      List.length_eq_zero_iff.mp (Nat.le_zero.mp (Nat.le_of_succ_le_succ hone))
    exact hfirst t ht (hnil ▸ hsigns)
  · rintro ⟨hhead, hchain⟩
    obtain ⟨terms, hterms⟩ := exists_isSignedSum_of_read ha
    obtain ⟨hadmissible, -⟩ := eq_of_read ha hterms
    rw [← hterms.spelled, isChain_flatMap_iff] at hchain
    obtain ⟨fs, hforms⟩ := exists_forall₂_iff.mpr fun t ht =>
      exists_forms (hadmissible t ht) (hchain t ht)
    have hfirst : ∀ t ∈ terms.head?, t.signs ≠ [.plus] := by
      intro t ht hsigns
      exact hhead ((head?_flatMap_tokens hterms).mpr ⟨t, ht, by rw [hsigns]; rfl⟩)
    have hsum : FormsSum _ terms fs := ⟨hterms, hfirst, hforms⟩
    refine ⟨Formula.ofTerms fs, Formula.read_eq_ok_iff.mpr ?_⟩
    exact Formula.readChars_eq_ok_iff_derives.mpr ⟨(read_eq_ok_iff.mp ha).1, fs, hsum.isSum, rfl⟩

/-- The formula of a text that is also read as a sum has the range of its dice and its flat value,
and their dice, those without a count apart. A sum is read as a formula just when no plus sign
stands before its first term and no sign directly before another. -/
theorem readers_agree :
    (∀ source a f, read source = .ok a → Formula.read source = .ok f →
      f.min = (a.dice.map fun p => (p.1.val : Int)).sum + a.flat.val ∧
      f.max = (a.dice.map fun p => (p.1.val * p.2.sides : Int)).sum + a.flat.val ∧
      f.leaves.filter (fun p => p.1.val ≠ 0) = a.dice) ∧
    ∀ source a, read source = .ok a →
      ((∃ f, Formula.read source = .ok f) ↔
        ((tokens source.toList).map (·.token)).head? ≠ some (.symbol .plus) ∧
          ((tokens source.toList).map (·.token)).IsChain fun t u => ¬(t.IsSign ∧ u.IsSign)) := by
  constructor
  · intro source a f ha hf
    obtain ⟨hrange, hleaves⟩ := range_and_leaves_of_read ha hf
    rw [Formula.min, Formula.max, hrange]
    exact ⟨rfl, rfl, hleaves⟩
  · intro source a ha
    exact exists_formula_iff ha

/-- A sum with dice without a count, which is read as a formula of range from -4 to 6. -/
theorem readers_agree_penalty :
    let source := "-6 + 2d6 + 0d4"
    ∃ a f, read source = .ok a ∧ Formula.read source = .ok f ∧ f.min = -4 ∧ f.max = 6 ∧
      f.leaves.filter (fun p => p.1.val ≠ 0) =
        [(⟨2, by decide⟩, ⟨6, by decide, by decide⟩)] := by
  intro source
  let a : Additive := ⟨[(⟨2, by decide⟩, ⟨6, by decide, by decide⟩)], ⟨-6, by decide, by decide⟩⟩
  have ha : read source = .ok a := by decide +kernel
  obtain ⟨hvalue, hread⟩ := readers_agree
  obtain ⟨f, hf⟩ := (hread source a ha).mpr ⟨by decide +kernel, by decide +kernel⟩
  obtain ⟨hmin, hmax, hleaves⟩ := hvalue source a f ha hf
  exact ⟨a, f, ha, hf, hmin, hmax, hleaves⟩

/-- A plus sign before the first term may stand behind a gap, so that the text does not begin with
it. -/
theorem exists_sum_no_formula :
    ¬∀ (source : String) (a : Additive), read source = .ok a →
      source.toList.head? ≠ some '+' →
      ((tokens source.toList).map (·.token)).IsChain (fun t u => ¬(t.IsSign ∧ u.IsSign)) →
      ∃ f, Formula.read source = .ok f := by
  intro h
  have ha : read " +2" = .ok ⟨[], ⟨2, by decide, by decide⟩⟩ := by decide +kernel
  obtain ⟨f, hf⟩ := h " +2" _ ha (by decide +kernel) (by decide +kernel)
  exact ((exists_formula_iff ha).mp ⟨f, hf⟩).1 (by decide +kernel)

end Additive

end CriticalDamage.Dice
