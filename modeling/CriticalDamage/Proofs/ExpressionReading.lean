import CriticalDamage.Critical.Expression
import CriticalDamage.Proofs.Grammar
import CriticalDamage.Proofs.Lexemes
import CriticalDamage.Proofs.TagNames

/-!
# Reading damage expressions

The expression of a component is a row of printed tokens and of tags between brackets
(`lexemes_expressionChars_plain`, `lexemes_expressionChars_tagged`). It is scanned without faults
just when both of its tags are and the maximum of its dice fits where it is added
(`faults_expressionChars_iff`), and it is then read as `Component.formula` (`read_expression`).
-/

namespace CriticalDamage

open Dice (Token Lexeme Scanned)

/-! ## Tags between brackets -/

theorem Tag.exists_cons (t : Tag) :
    ∃ c cs, t.chars = c :: cs ∧ isTagStart c = true ∧ ∀ x ∈ t.chars, isTagChar x = true := by
  have hstart := t.start
  cases h : t.chars with
  | nil => rw [h] at hstart; cases hstart
  | cons c cs =>
    rw [h] at hstart
    exact ⟨c, cs, rfl, hstart, fun x hx => List.all_eq_true.mp t.all x (h ▸ hx)⟩

theorem isGap_of_isTagChar {c : Char} (h : isTagChar c = true) : Dice.isGap c = false := by
  rw [Bool.eq_false_iff]
  intro hg
  simp only [Dice.isGap, Bool.or_eq_true, beq_iff_eq] at hg
  rcases hg with ((rfl | rfl) | rfl) | rfl <;> revert h <;> decide

theorem Tag.rtakeWhile_isGap (t : Tag) : t.chars.rtakeWhile Dice.isGap = [] := by
  obtain ⟨c, cs, -, -, hall⟩ := t.exists_cons
  rw [List.rtakeWhile_eq_nil_iff]
  intro hne
  rw [isGap_of_isTagChar (hall _ (List.getLast_mem hne))]
  exact Bool.false_ne_true

/-- A tag without digits is a word. -/
theorem Tag.faults_of_no_digit {t : Tag} (h : t.chars.any Char.isDigit = false) :
    Dice.faults t.chars = [] := by
  obtain ⟨c, cs, hcs, hstart, hall⟩ := t.exists_cons
  rw [hcs] at h hall ⊢
  have hdigit : ∀ x ∈ c :: cs, x.isDigit = false := by simpa [List.any_eq_false] using h
  refine Dice.faults_word ⟨c, cs, rfl, ?_, fun x hx => ?_⟩
  · simp only [isTagStart, Bool.or_eq_true] at hstart
    rcases hstart with hlower | h_
    · simp [Dice.isWordStart, Char.isAlpha, hlower]
    · simp [Dice.isWordStart, h_]
  · have htag := hall x (.tail c hx)
    simp only [isTagChar, hdigit x (.tail c hx), Bool.or_false, Bool.or_eq_true] at htag
    rcases htag with ((hlower | h_) | h_) | h_
    · simp [Dice.isWordPart, Char.isAlpha, hlower]
    all_goals simp [Dice.isWordPart, h_]

/-- The tag of the type is scanned without faults. -/
def DamageType.Lexes (t : DamageType) : Prop := Dice.faults t.chars = []

instance (t : DamageType) : Decidable t.Lexes := inferInstanceAs (Decidable (_ = _))

/-- The tag of the category, if it has one, is scanned without faults. -/
def Category.Lexes (g : Category) : Prop := ∀ cs ∈ g.tag?, Dice.faults cs = []

instance (g : Category) : Decidable g.Lexes :=
  inferInstanceAs (Decidable (∀ cs ∈ g.tag?, _ = _))

def printed (ts : List Token) : List Lexeme := ts.map fun t => ⟨[], t.chars⟩

def bracketLexemes (t : Tag) : List Lexeme :=
  printed [.symbol .leftBracket] ++ Dice.lexemes t.chars ++ printed [.symbol .rightBracket]

theorem forall_printed_iff {ts : List Token} (h : ∀ t ∈ ts, t.IsFormed) :
    (∀ l ∈ printed ts, ∃ t, Token.ofText l.text = .ok t) ↔ ∀ t ∈ ts, t.IsReadable := by
  rw [printed, List.forall_mem_map]
  exact forall₂_congr fun t ht => Token.ofText_chars_iff (h t ht)

theorem forall_printed_symbol (s : Dice.Symbol) :
    (∀ l ∈ printed [.symbol s], ∃ t, Token.ofText l.text = .ok t) ↔ True := by
  rw [forall_printed_iff (List.forall_mem_singleton.mpr (Token.isFormed_symbol s))]
  simp

theorem forall_bracketLexemes_iff {t : Tag} :
    (∀ l ∈ bracketLexemes t, ∃ u, Token.ofText l.text = .ok u) ↔ Dice.faults t.chars = [] := by
  rw [bracketLexemes, List.forall_mem_append, List.forall_mem_append, forall_printed_symbol,
    forall_printed_symbol, true_and, and_true, Dice.faults_eq_nil_iff]

theorem lexemes_bracketed (t : Tag) (r : List Char) :
    Dice.lexemes (Component.bracketed t.chars ++ r) = bracketLexemes t ++ Dice.lexemes r := by
  have hopen := Dice.lexemes_symbol .leftBracket (t.chars ++ ']' :: r)
  have hclose := Dice.lexemes_symbol .rightBracket r
  have htag := Dice.lexemes_append t.chars (b := ']') r (by decide) (by decide)
  rw [t.rtakeWhile_isGap, List.nil_append] at htag
  simp only [Dice.Symbol.char] at hopen hclose
  simp only [Component.bracketed, bracketLexemes, printed, List.cons_append, List.append_assoc,
    List.nil_append, hopen, htag, hclose, List.map_cons, List.map_nil, Token.chars,
    Dice.Symbol.char]

theorem exists_symbol_of_spells {us : List Scanned} {s : Dice.Symbol}
    (h : List.Forall₂ Scanned.Spells us (printed [.symbol s])) :
    ∃ u, us = [u] ∧ u.token = .symbol s :=
  List.map_eq_singleton_iff.mp (Dice.map_token_of_spells (by simp) h)

/-- The tokens of a tag are those of a tag in the grammar. -/
theorem isTag_of_spells {t : Tag} {us : List Scanned}
    (h : List.Forall₂ Scanned.Spells us (Dice.lexemes t.chars)) :
    Formula.IsTag us ∧ Formula.tagText us = t.chars := by
  have hinside : ∀ u ∈ us, u.token ≠ .symbol .rightBracket := by
    intro u hu htoken
    obtain ⟨_, _, -, -, hall⟩ := t.exists_cons
    exact absurd (hall ']' (Dice.mem_of_spells_symbol h hu htoken)) (by decide)
  have htext := Dice.flatMap_of_spells h
  have htile := Dice.flatMap_lexemes t.chars
  rw [t.rtakeWhile_isGap, List.append_nil] at htile
  rw [htile] at htext
  obtain ⟨c, cs, hcs, hstart, hall⟩ := t.exists_cons
  rw [hcs, Dice.lexemes_cons cs (isGap_of_isTagChar (hall c (hcs ▸ List.mem_cons_self)))] at h
  cases h with
  | @cons v _ vs _ hv hvs =>
    refine ⟨⟨?_, hinside⟩, ?_⟩
    · have hletter : (c.isAlpha || c == '_') = true := by
        simp only [isTagStart, Bool.or_eq_true] at hstart
        rcases hstart with hlower | h_
        · simp [Char.isAlpha, hlower]
        · simp [h_]
      simpa [hv.text, Formula.isTagText] using hletter
    · rw [← htext, List.flatMap_cons, hv.gap]
      rfl

theorem isTerm_bracketed {t : Tag} {ts us : List Scanned} {f : Formula} (hf : Formula.IsTerm ts f)
    (h : List.Forall₂ Scanned.Spells us (bracketLexemes t)) :
    Formula.IsTerm (ts ++ us) (.tagged f t.text) := by
  obtain ⟨vs, ws, rfl, hvs, hws⟩ := Dice.spells_append h
  obtain ⟨os, tag, rfl, hos, htag⟩ := Dice.spells_append hvs
  obtain ⟨o, rfl, ho⟩ := exists_symbol_of_spells hos
  obtain ⟨w, rfl, hw⟩ := exists_symbol_of_spells hws
  obtain ⟨hIsTag, htext⟩ := isTag_of_spells htag
  have := hf.tagged ho hIsTag hw
  rw [htext] at this
  simpa [Tag.text] using this

namespace Component

variable (c : Component) (o : HitOptions)

/-! ## The tokens of an expression -/

/-- The flat value that the expression adds. -/
def flatValue : Int := c.flat.val * c.flatFactor o

def signedTokens (n : Int) : List Token :=
  [.symbol (if n < 0 then .minus else .plus), .number n.natAbs]

/-- The tokens of dice, of the maximum added to them and of a flat value. -/
def diceTokens (die : Die) : List Token :=
  .symbol .leftParen :: .dice c.count ⟨die.sides, Nat.lt_succ_of_le die.le⟩ ::
    ((if c.takesBonus o then [.symbol .plus, .number c.maxDice] else []) ++
      (signedTokens (c.flatValue o) ++ [.symbol .rightParen]))

/-- The tokens of the sum that the tags of the expression enclose. -/
def bodyTokens : List Token :=
  match c.rolledDie? with
  | some die => c.diceTokens o die
  | none =>
    if c.flatValue o < 0 then signedTokens (c.flatValue o) else [.number (c.flatValue o).natAbs]

def groupedTokens : List Token :=
  match c.rolledDie? with
  | some die => c.diceTokens o die
  | none => .symbol .leftParen :: (c.bodyTokens o ++ [.symbol .rightParen])

theorem signed_eq (n : Int) : signed n = (signedTokens n).flatMap Token.chars := by
  rw [signed, signedTokens]
  split <;> simp [Token.chars, Dice.Symbol.char]

theorem body_eq : c.body o = (c.bodyTokens o).flatMap Token.chars := by
  rw [body, bodyTokens]
  cases c.rolledDie? with
  | some die =>
    simp only [signed_eq, diceTokens, flatValue]
    split <;> simp [Token.chars, Dice.Symbol.char, Die.chars]
  | none =>
    change Decimal.integer (c.flatValue o) = _
    simp only [Decimal.integer]
    split
    · next h => simp [signedTokens, h, Token.chars, Dice.Symbol.char]
    · simp [Token.chars]

theorem grouped_body_eq : grouped (c.body o) = (c.groupedTokens o).flatMap Token.chars := by
  rw [body_eq, groupedTokens, bodyTokens]
  cases c.rolledDie? with
  | some die => rfl
  | none =>
    simp only
    split
    · next h => simp [signedTokens, h, Token.chars, Dice.Symbol.char, grouped]
    · have hd := Dice.isDigit_natural (c.flatValue o).natAbs
      cases hn : Decimal.natural (c.flatValue o).natAbs with
      | nil => exact absurd hn (Decimal.natural_ne_nil _)
      | cons d ds =>
        have hd : d.isDigit = true := hd d (hn ▸ List.mem_cons_self)
        simp only [List.flatMap_singleton, Token.chars, hn, grouped]
        split
        · next h => cases h; cases hd
        · simp [Token.chars, Dice.Symbol.char, hn]

theorem natAbs_flatValue_lt : (c.flatValue o).natAbs < Width.signed64 := by
  have hle := c.flat.le
  have hlt := c.flat.lt
  simp only [flatValue, flatFactor, Width.signed64]
  split <;> omega

theorem diceTokens_formed (die : Die) : ∀ t ∈ c.diceTokens o die, t.IsFormed := by
  simp only [diceTokens, signedTokens]
  split <;> simp

theorem bodyTokens_formed : ∀ t ∈ c.bodyTokens o, t.IsFormed := by
  rw [bodyTokens]
  split
  · exact c.diceTokens_formed o _
  · split <;> simp [signedTokens]

theorem groupedTokens_formed : ∀ t ∈ c.groupedTokens o, t.IsFormed := by
  rw [groupedTokens]
  split
  · exact c.diceTokens_formed o _
  · exact List.forall_mem_cons.mpr ⟨Token.isFormed_symbol _, List.forall_mem_append.mpr
      ⟨c.bodyTokens_formed o, List.forall_mem_singleton.mpr (Token.isFormed_symbol _)⟩⟩

theorem separated_diceTokens (die : Die) (b : Char) :
    Dice.separated b (c.diceTokens o die) = true := by
  have h := c.diceTokens_formed o die
  simp only [diceTokens, signedTokens]
  split <;> split <;>
    simp [Dice.separated, Token.endsBefore, Token.chars, Dice.Symbol.char, Dice.isDieMark]

theorem lexemes_body_bracketed (t : Tag) (r : List Char) :
    Dice.lexemes (c.body o ++ (bracketed t.chars ++ r)) =
      printed (c.bodyTokens o) ++ (bracketLexemes t ++ Dice.lexemes r) := by
  rw [← lexemes_bracketed, body_eq]
  refine Dice.lexemes_flatMap_chars (c.bodyTokens_formed o) _ ?_
  rw [bodyTokens]
  split
  · exact c.separated_diceTokens o _ '['
  · split <;> simp [signedTokens, Dice.separated, Token.endsBefore, Dice.isDieMark]

theorem lexemes_grouped_bracketed (t : Tag) (r : List Char) :
    Dice.lexemes (grouped (c.body o) ++ (bracketed t.chars ++ r)) =
      printed (c.groupedTokens o) ++ (bracketLexemes t ++ Dice.lexemes r) := by
  rw [← lexemes_bracketed, grouped_body_eq]
  refine Dice.lexemes_flatMap_chars (c.groupedTokens_formed o) _ ?_
  cases h : c.rolledDie? with
  | some die =>
    simp only [groupedTokens, h]
    exact c.separated_diceTokens o die '['
  | none =>
    simp only [groupedTokens, bodyTokens, h]
    split <;> simp [signedTokens, Dice.separated, Token.endsBefore, Token.chars, Dice.Symbol.char,
      Dice.isDieMark]

theorem lexemes_expressionChars_plain (h : c.category.tag? = none) :
    Dice.lexemes (c.expressionChars o) = printed (c.bodyTokens o) ++ bracketLexemes c.type.tag := by
  have := c.lexemes_body_bracketed o c.type.tag []
  rw [List.append_nil, Dice.lexemes_nil, List.append_nil] at this
  rw [expressionChars, h]
  exact this

theorem lexemes_expressionChars_tagged {t : Tag} (h : c.category.tag? = some t.chars) :
    Dice.lexemes (c.expressionChars o) =
      printed [.symbol .leftParen] ++ (printed (c.groupedTokens o) ++ (bracketLexemes t ++
        (printed [.symbol .rightParen] ++ bracketLexemes c.type.tag))) := by
  have htype := lexemes_bracketed c.type.tag []
  rw [List.append_nil, Dice.lexemes_nil, List.append_nil] at htype
  have hclose := Dice.lexemes_symbol .rightParen (bracketed c.type.tag.chars)
  rw [htype] at hclose
  have hgroup := c.lexemes_grouped_bracketed o t (')' :: bracketed c.type.tag.chars)
  have hopen := Dice.lexemes_symbol .leftParen
    (grouped (c.body o) ++ (bracketed t.chars ++ ')' :: bracketed c.type.tag.chars))
  rw [hgroup] at hopen
  rw [expressionChars, h]
  simp only [List.append_assoc, List.cons_append, List.nil_append]
  refine hopen.trans ?_
  simp only [Dice.Symbol.char] at hclose
  rw [hclose]
  rfl

/-! ## Faults of an expression -/

/-- Both tags are scanned without faults. -/
def TagsLex : Prop := c.type.Lexes ∧ c.category.Lexes

instance : Decidable c.TagsLex := inferInstanceAs (Decidable (_ ∧ _))

theorem diceTokens_readable_iff {die : Die} (h : c.rolledDie? = some die) :
    (∀ t ∈ c.diceTokens o die, t.IsReadable) ↔ c.BonusFits o := by
  have hflat := c.natAbs_flatValue_lt o
  simp only [diceTokens, signedTokens, BonusFits, h, Option.isSome_some, forall_const]
  split
  · next hb => simp [hb, hflat]
  · next hb => simp [hb, hflat]

theorem bodyTokens_readable_iff : (∀ t ∈ c.bodyTokens o, t.IsReadable) ↔ c.BonusFits o := by
  cases h : c.rolledDie? with
  | some die => simpa only [bodyTokens, h] using c.diceTokens_readable_iff o h
  | none =>
    have hflat := c.natAbs_flatValue_lt o
    simp only [bodyTokens, h, BonusFits]
    split <;> simp [signedTokens, hflat]

theorem groupedTokens_readable_iff : (∀ t ∈ c.groupedTokens o, t.IsReadable) ↔ c.BonusFits o := by
  rw [← c.bodyTokens_readable_iff o]
  cases h : c.rolledDie? with
  | some die => simp only [groupedTokens, bodyTokens, h]
  | none => simp [groupedTokens, h, or_imp, forall_and]

/-- The expression has no faults just when its tags have none and the maximum of the dice fits
where it is added. -/
theorem faults_expressionChars_iff :
    Dice.faults (c.expressionChars o) = [] ↔ c.TagsLex ∧ c.BonusFits o := by
  rw [Dice.faults_eq_nil_iff, TagsLex, DamageType.Lexes, Category.Lexes]
  cases h : c.category.tag? with
  | none =>
    rw [c.lexemes_expressionChars_plain o h, List.forall_mem_append,
      forall_printed_iff (c.bodyTokens_formed o), c.bodyTokens_readable_iff o,
      forall_bracketLexemes_iff]
    simp [DamageType.chars, and_comm]
  | some cs =>
    obtain ⟨t, rfl, -⟩ := Category.exists_ofTag h
    rw [c.lexemes_expressionChars_tagged o h]
    simp only [List.forall_mem_append, forall_printed_iff (c.groupedTokens_formed o),
      c.groupedTokens_readable_iff o, forall_bracketLexemes_iff, forall_printed_symbol]
    simp [DamageType.chars, and_comm]

/-! ## The formula of an expression -/

def signedTerm (n : Int) : Formula :=
  if n < 0 then .negate (.constant n.natAbs) else .constant n.natAbs

/-- The dice, the maximum added to them and the flat value. -/
def diceTerms (die : Die) : List Formula :=
  .dice c.count die ::
    ((if c.takesBonus o then [.constant c.maxDice] else []) ++ [signedTerm (c.flatValue o)])

/-- What the tags of the expression enclose. -/
def bodyFormula : Formula :=
  match c.rolledDie? with
  | some die => .sum (c.diceTerms o die)
  | none => signedTerm (c.flatValue o)

/-- The formula that the expression is read as. The minus sign of a flat value without dice and
without a category stands outside its tag. -/
def formula : Formula :=
  match c.category.tag? with
  | some category => .tagged (.tagged (c.bodyFormula o) (String.ofList category)) c.type.text
  | none =>
    match c.bodyFormula o with
    | .negate f => .negate (.tagged f c.type.text)
    | f => .tagged f c.type.text

/-! ## Derivations of an expression -/

/-- The tokens of a signed number derive one more term. -/
theorem isSum_signed {ts us : List Scanned} {fs : List Formula} {n : Int}
    (hs : Formula.IsSum ts fs) (h : us.map (·.token) = signedTokens n) :
    Formula.IsSum (ts ++ us) (fs ++ [signedTerm n]) := by
  obtain ⟨u, vs, rfl, hu, h⟩ := List.map_eq_cons_iff.mp h
  obtain ⟨v, rfl, hv⟩ := List.map_eq_singleton_iff.mp h
  rw [signedTerm]
  split
  · next hn => exact hs.minus (by rw [hu, if_pos hn]) (.number hv)
  · next hn => exact hs.plus (by rw [hu, if_neg hn]) (.number hv)

/-- The tokens of dice, of the maximum added to them and of a flat value derive their sum. -/
theorem isTerm_of_diceTokens {die : Die} {us : List Scanned}
    (h : us.map (·.token) = c.diceTokens o die) :
    Formula.IsTerm us (.sum (c.diceTerms o die)) := by
  obtain ⟨a, us, rfl, ha, h⟩ := List.map_eq_cons_iff.mp h
  obtain ⟨d, us, rfl, hd, h⟩ := List.map_eq_cons_iff.mp h
  obtain ⟨bonus, us, rfl, hbonus, h⟩ := List.map_eq_append_iff.mp h
  obtain ⟨flat, us, rfl, hflat, h⟩ := List.map_eq_append_iff.mp h
  obtain ⟨z, rfl, hz⟩ := List.map_eq_singleton_iff.mp h
  have hdie : Die.ofSides? die.sides = some die := dif_pos ⟨die.two_le, die.le⟩
  have hdice : Formula.IsSum ([d] ++ bonus)
      (.dice c.count die :: if c.takesBonus o then [.constant c.maxDice] else []) := by
    split at hbonus
    · next hb =>
      rw [if_pos hb]
      obtain ⟨p, us, rfl, hp, hbonus⟩ := List.map_eq_cons_iff.mp hbonus
      obtain ⟨m, rfl, hm⟩ := List.map_eq_singleton_iff.mp hbonus
      exact (Formula.IsSum.first (.dice hd hdie)).plus hp (.number hm)
    · next hb =>
      rw [if_neg hb, List.map_eq_nil_iff.mp hbonus]
      exact .first (.dice hd hdie)
  have hsum := Formula.IsTerm.group ha (isSum_signed hdice hflat) hz
  simpa [diceTerms, Formula.ofTerms] using hsum

theorem isTerm_of_groupedTokens {us : List Scanned}
    (h : us.map (·.token) = c.groupedTokens o) : Formula.IsTerm us (c.bodyFormula o) := by
  cases hd : c.rolledDie? with
  | some die =>
    simp only [groupedTokens, hd] at h
    simpa only [bodyFormula, hd] using c.isTerm_of_diceTokens o h
  | none =>
    simp only [groupedTokens, bodyTokens, hd] at h
    simp only [bodyFormula, hd]
    obtain ⟨a, us, rfl, ha, h⟩ := List.map_eq_cons_iff.mp h
    obtain ⟨body, us, rfl, hbody, h⟩ := List.map_eq_append_iff.mp h
    obtain ⟨z, rfl, hz⟩ := List.map_eq_singleton_iff.mp h
    have hsum : Formula.IsSum body [signedTerm (c.flatValue o)] := by
      rw [signedTerm]
      split at hbody
      · next hn =>
        obtain ⟨m, us, rfl, hm, hbody⟩ := List.map_eq_cons_iff.mp hbody
        obtain ⟨k, rfl, hk⟩ := List.map_eq_singleton_iff.mp hbody
        rw [if_pos hn] at hm ⊢
        exact .negated hm (.number hk)
      · next hn =>
        obtain ⟨k, rfl, hk⟩ := List.map_eq_singleton_iff.mp hbody
        rw [if_neg hn]
        exact .first (.number hk)
    exact .group ha hsum hz

/-- The tokens of a body and a tag after it derive the formula of a component without a category. -/
theorem isSum_of_bodyTokens {us vs : List Scanned} (h : us.map (·.token) = c.bodyTokens o)
    (hv : List.Forall₂ Scanned.Spells vs (bracketLexemes c.type.tag))
    (hplain : c.category.tag? = none) :
    ∃ fs, Formula.IsSum (us ++ vs) fs ∧ Formula.ofTerms fs = c.formula o := by
  cases hd : c.rolledDie? with
  | some die =>
    simp only [bodyTokens, hd] at h
    refine ⟨_, .first (isTerm_bracketed (c.isTerm_of_diceTokens o h) hv), ?_⟩
    simp only [formula, hplain, bodyFormula, hd, Formula.ofTerms]
    rfl
  | none =>
    simp only [bodyTokens, hd] at h
    simp only [formula, hplain, bodyFormula, hd, signedTerm]
    split at h
    · next hn =>
      obtain ⟨m, us, rfl, hm, h⟩ := List.map_eq_cons_iff.mp h
      obtain ⟨k, rfl, hk⟩ := List.map_eq_singleton_iff.mp h
      rw [if_pos hn] at hm ⊢
      exact ⟨_, .negated hm (isTerm_bracketed (.number hk) hv), rfl⟩
    · next hn =>
      obtain ⟨k, rfl, hk⟩ := List.map_eq_singleton_iff.mp h
      rw [if_neg hn]
      exact ⟨_, .first (isTerm_bracketed (.number hk) hv), rfl⟩

theorem isSum_of_spells {us : List Scanned} (hfit : c.BonusFits o)
    (h : List.Forall₂ Scanned.Spells us (Dice.lexemes (c.expressionChars o))) :
    ∃ fs, Formula.IsSum us fs ∧ Formula.ofTerms fs = c.formula o := by
  cases hc : c.category.tag? with
  | none =>
    rw [c.lexemes_expressionChars_plain o hc] at h
    obtain ⟨vs, ws, rfl, hvs, hws⟩ := Dice.spells_append h
    have htokens := Dice.map_token_of_spells ((c.bodyTokens_readable_iff o).mpr hfit) hvs
    exact c.isSum_of_bodyTokens o htokens hws hc
  | some cs =>
    obtain ⟨t, rfl, -⟩ := Category.exists_ofTag hc
    rw [c.lexemes_expressionChars_tagged o hc] at h
    obtain ⟨vs, us, rfl, hvs, h⟩ := Dice.spells_append h
    obtain ⟨body, us, rfl, hbody, h⟩ := Dice.spells_append h
    obtain ⟨tag, us, rfl, htag, h⟩ := Dice.spells_append h
    obtain ⟨ws, type, rfl, hws, htype⟩ := Dice.spells_append h
    obtain ⟨v, rfl, hv⟩ := exists_symbol_of_spells hvs
    obtain ⟨w, rfl, hw⟩ := exists_symbol_of_spells hws
    have htokens := Dice.map_token_of_spells ((c.groupedTokens_readable_iff o).mpr hfit) hbody
    have hinner := isTerm_bracketed (c.isTerm_of_groupedTokens o htokens) htag
    have hgroup := Formula.IsTerm.group hv (.first hinner) hw
    have houter := isTerm_bracketed hgroup htype
    refine ⟨_, .first (by simpa using houter), ?_⟩
    simp only [formula, hc, Formula.ofTerms]
    rfl

/-- An expression without faults is read as its formula. -/
theorem read_expression (htags : c.TagsLex) (hfit : c.BonusFits o) :
    Formula.read (c.expression o) = .ok (c.formula o) := by
  obtain ⟨ts, hscan, hspell⟩ :=
    Dice.scan_of_faults_eq_nil ((c.faults_expressionChars_iff o).mpr ⟨htags, hfit⟩)
  obtain ⟨fs, hsum, hfs⟩ := c.isSum_of_spells o hfit hspell
  rw [Formula.read, expression, String.toList_ofList, Formula.readChars, Formula.scan, hscan, ← hfs]
  exact congrArg (Except.mapError _) (Formula.ofTokens_of_isSum hsum)

/-- An expression with faults is refused. -/
theorem read_expression_of_faults (h : ¬(c.TagsLex ∧ c.BonusFits o)) :
    ∃ e, Formula.read (c.expression o) = .error e := by
  obtain ⟨f, hscan⟩ := Dice.scan_of_faults_ne_nil (mt (c.faults_expressionChars_iff o).mp h)
  rw [Formula.read, expression, String.toList_ofList, Formula.readChars, Formula.scan, hscan]
  exact ⟨_, rfl⟩

end Component

end CriticalDamage
