import CriticalDamage.Dice.Lexeme
import Mathlib

/-!
# Lexemes of concatenated texts

Where a character that continues no lexeme stands between two texts, their lexemes are those of the
one followed by those of the other (`lexemes_append`). A printed token that the next character
cannot extend is a lexeme by itself (`lexemes_chars_append`), and it is read back as that token
(`Token.ofText_chars`). A text has no faults just when every one of its lexemes is a token
(`faults_eq_nil_iff`); its tokens then spell its lexemes, and stand one after another in the text at
the places their spans name (`placed_tokens`).
-/

namespace CriticalDamage.Dice

/-! ## Classes of characters -/

theorem isWordPart_of_isDieMark {c : Char} (h : isDieMark c = true) : isWordPart c = true := by
  rw [isDieMark, Bool.or_eq_true, beq_iff_eq, beq_iff_eq] at h
  rcases h with rfl | rfl <;> decide

/-- Digits neither begin a word nor stand in one. -/
theorem isWord_eq_false_of_isDigit {c : Char} (h : c.isDigit = true) :
    isWordStart c = false ∧ isWordPart c = false := by
  have halpha : c.isAlpha = false := by
    simp only [Char.isDigit, Char.isAlpha, Char.isUpper, Char.isLower, Bool.and_eq_true,
      decide_eq_true_eq, Bool.or_eq_false_iff, Bool.and_eq_false_iff, decide_eq_false_iff_not,
      UInt32.le_iff_toNat_le, ge_iff_le, Char.reduceVal, UInt32.reduceToNat] at h ⊢
    omega
  have hne : ∀ x : Char, x.isDigit = false → (c == x) = false := by
    intro x hx
    rw [beq_eq_false_iff_ne]
    rintro rfl
    rw [h] at hx
    cases hx
  constructor
  · rw [isWordStart, halpha, hne '_' (by decide), hne '@' (by decide)]
    rfl
  · rw [isWordPart, halpha, hne '_' (by decide), hne '.' (by decide), hne '-' (by decide)]
    rfl

theorem isDigit_eq_false_of_isWord {c : Char} (h : isWordStart c = true ∨ isWordPart c = true) :
    c.isDigit = false := by
  rw [Bool.eq_false_iff]
  intro hd
  obtain ⟨hs, hp⟩ := isWord_eq_false_of_isDigit hd
  rw [hs, hp] at h
  rcases h with h | h <;> cases h

/-- A gap ends every lexeme. -/
theorem isGap_eq_false {c : Char}
    (h : c.isDigit = true ∨ isWordStart c = true ∨ isWordPart c = true) : isGap c = false := by
  rw [Bool.eq_false_iff]
  intro hg
  simp only [isGap, Bool.or_eq_true, beq_iff_eq] at hg
  rcases hg with ((rfl | rfl) | rfl) | rfl <;> revert h <;> decide

theorem startsWithDigit_of_isWordPart {cs : List Char} (h : ∀ x ∈ cs, isWordPart x = true) :
    startsWithDigit cs = false := by
  cases cs with
  | nil => rfl
  | cons x xs => exact isDigit_eq_false_of_isWord (.inr (h x List.mem_cons_self))

/-! ## One lexeme -/

theorem takeWhile_append_cons {α : Type} {p : α → Bool} {l : List α} {b : α} (r : List α)
    (hb : p b = false) : (l ++ b :: r).takeWhile p = l.takeWhile p := by
  rw [List.takeWhile_append]
  split
  · next h =>
    rw [List.takeWhile_cons_of_neg (by simp [hb]), List.append_nil]
    exact ((List.takeWhile_prefix p).eq_of_length h).symm
  · rfl

theorem dropWhile_append_cons {α : Type} {p : α → Bool} {l : List α} {b : α} (r : List α)
    (hb : p b = false) : (l ++ b :: r).dropWhile p = l.dropWhile p ++ b :: r := by
  rw [List.dropWhile_append]
  split
  · next h =>
    rw [List.dropWhile_cons_of_neg (by simp [hb]), List.isEmpty_iff.mp h, List.nil_append]
  · rfl

theorem startsWithDigit_append {cs : List Char} {b : Char} (r : List Char)
    (hb : b.isDigit = false) : startsWithDigit (cs ++ b :: r) = startsWithDigit cs := by
  cases cs with
  | nil => exact hb
  | cons => rfl

/-- A lexeme does not reach beyond a character that continues no lexeme. -/
theorem splitAfter_append_cons (c : Char) (cs : List Char) {b : Char} (r : List Char)
    (hb : b.isDigit = false) (hw : isWordPart b = false) :
    splitAfter c (cs ++ b :: r) = ((splitAfter c cs).1, (splitAfter c cs).2 ++ b :: r) := by
  have hm : isDieMark b = false := by
    cases h : isDieMark b with
    | false => rfl
    | true => rw [isWordPart_of_isDieMark h] at hw; cases hw
  simp only [splitAfter, takeWhile_append_cons r hb, dropWhile_append_cons r hb,
    takeWhile_append_cons r hw, dropWhile_append_cons r hw, startsWithDigit_append r hb]
  split
  · cases hd : cs.dropWhile Char.isDigit with
    | nil => simp [hm]
    | cons x rest =>
      simp only [List.cons_append, takeWhile_append_cons r hb, dropWhile_append_cons r hb,
        startsWithDigit_append r hb]
      split <;> rfl
  · split
    · rfl
    · split <;> rfl

theorem lexemes_of_isGap {g : List Char} (hg : ∀ x ∈ g, isGap x = true) : lexemes g = [] := by
  rw [lexemes]
  split
  · rfl
  · next h => rw [List.dropWhile_eq_nil_iff.mpr hg] at h; cases h

@[simp] theorem lexemes_nil : lexemes [] = [] := lexemes_of_isGap fun _ h => nomatch h

theorem lexemes_gap_append {g rest : List Char} {c : Char} (hg : ∀ x ∈ g, isGap x = true)
    (hc : isGap c = false) :
    lexemes (g ++ c :: rest) =
      ⟨g, c :: (splitAfter c rest).1⟩ :: lexemes (splitAfter c rest).2 := by
  have ht : (g ++ c :: rest).takeWhile isGap = g := by
    rw [takeWhile_append_cons rest hc, List.takeWhile_eq_self_iff.mpr hg]
  have hd : (g ++ c :: rest).dropWhile isGap = c :: rest := by
    rw [dropWhile_append_cons rest hc, List.dropWhile_eq_nil_iff.mpr hg, List.nil_append]
  rw [lexemes]
  split
  · next h => rw [hd] at h; cases h
  · next h => rw [hd] at h; cases h; rw [ht]

theorem lexemes_cons {c : Char} (rest : List Char) (hc : isGap c = false) :
    lexemes (c :: rest) = ⟨[], c :: (splitAfter c rest).1⟩ :: lexemes (splitAfter c rest).2 :=
  lexemes_gap_append (g := []) (fun _ h => nomatch h) hc

/-- Induction along the lexemes of a text. -/
theorem lexemes_induction {P : List Char → Prop} (gap : ∀ g, (∀ x ∈ g, isGap x = true) → P g)
    (lexeme : ∀ g c rest, (∀ x ∈ g, isGap x = true) → isGap c = false →
      P (splitAfter c rest).2 → P (g ++ c :: rest)) (cs : List Char) : P cs := by
  induction h : cs.length using Nat.strong_induction_on generalizing cs with
  | _ n ih =>
    have hcs := List.takeWhile_append_dropWhile (p := isGap) (l := cs)
    cases hd : cs.dropWhile isGap with
    | nil => exact gap cs (List.dropWhile_eq_nil_iff.mp hd)
    | cons c rest =>
      have hc := List.head?_dropWhile_not isGap cs
      rw [hd] at hcs hc
      rw [← hcs]
      refine lexeme _ c rest (fun _ => List.mem_takeWhile_imp) (by simpa using hc) ?_
      have hle := length_splitAfter_le c rest
      have hlen := congrArg List.length hcs
      simp only [List.length_append, List.length_cons] at hlen
      exact ih _ (by omega) _ rfl

/-- No gap stands inside a lexeme. -/
theorem isGap_of_mem_splitAfter {c x : Char} {cs : List Char} (hx : x ∈ (splitAfter c cs).1) :
    isGap x = false := by
  have hpart : ∀ y ∈ cs.takeWhile isWordPart, isGap y = false :=
    fun y hy => isGap_eq_false (.inr (.inr (List.mem_takeWhile_imp hy)))
  have hdigit : ∀ l : List Char, ∀ y ∈ l.takeWhile Char.isDigit, isGap y = false :=
    fun l y hy => isGap_eq_false (.inl (List.mem_takeWhile_imp hy))
  unfold splitAfter at hx
  split at hx
  · split at hx
    · exact hdigit _ x hx
    · next y rest _ =>
      split at hx
      · next hm =>
        have hy := isWordPart_of_isDieMark (Bool.and_eq_true_iff.mp hm).1
        rcases List.mem_append.mp hx with hx | hx
        · exact hdigit _ x hx
        · rcases List.mem_cons.mp hx with rfl | hx
          · exact isGap_eq_false (.inr (.inr hy))
          · exact hdigit _ x hx
      · exact hdigit _ x hx
  · split at hx
    · exact hdigit _ x hx
    · split at hx
      · exact hpart x hx
      · cases hx

/-- The gap at the end of a text stands after its first lexeme. -/
theorem rtakeWhile_gap_append (g : List Char) {c : Char} (rest : List Char)
    (hc : isGap c = false) :
    (g ++ c :: rest).rtakeWhile isGap = (splitAfter c rest).2.rtakeWhile isGap := by
  have hgap : ∀ y ∈ c :: (splitAfter c rest).1, isGap y = false := by
    intro y hy
    rcases List.mem_cons.mp hy with rfl | hy
    · exact hc
    · exact isGap_of_mem_splitAfter hy
  have hlast := hgap _ (List.getLast_mem (List.cons_ne_nil _ _))
  conv_lhs => rw [← splitAfter_append c rest, ← List.cons_append,
    ← List.dropLast_append_getLast (List.cons_ne_nil c (splitAfter c rest).1)]
  simp only [List.rtakeWhile, List.reverse_append, List.reverse_cons, List.nil_append,
    List.cons_append, List.append_assoc, takeWhile_append_cons _ hlast]

/-- The lexemes of two texts between which a character stands that continues no lexeme. A gap at
the end of the first text belongs to the second one's first lexeme. -/
theorem lexemes_append (cs : List Char) {b : Char} (r : List Char) (hb : b.isDigit = false)
    (hw : isWordPart b = false) :
    lexemes (cs ++ b :: r) = lexemes cs ++ lexemes (cs.rtakeWhile isGap ++ b :: r) := by
  induction cs using lexemes_induction with
  | gap g hg => rw [lexemes_of_isGap hg, List.rtakeWhile_eq_self_iff.mpr hg, List.nil_append]
  | lexeme g c rest hg hc ih =>
    rw [List.append_assoc, List.cons_append, lexemes_gap_append hg hc, lexemes_gap_append hg hc,
      splitAfter_append_cons c rest r hb hw, ih, rtakeWhile_gap_append g rest hc, List.cons_append]

/-- The lexemes with their gaps, and the gap at the end, are the whole text. -/
theorem flatMap_lexemes (cs : List Char) :
    ((lexemes cs).flatMap fun l => l.gap ++ l.text) ++ cs.rtakeWhile isGap = cs := by
  induction cs using lexemes_induction with
  | gap g hg => rw [lexemes_of_isGap hg, List.rtakeWhile_eq_self_iff.mpr hg]; rfl
  | lexeme g c rest hg hc ih =>
    rw [lexemes_gap_append hg hc, rtakeWhile_gap_append g rest hc, List.flatMap_cons,
      List.append_assoc, ih, List.append_assoc, List.cons_append, splitAfter_append]

/-! ## Printed tokens -/

/-- A word begins and goes on as words do. -/
def Token.IsFormed : Token → Prop
  | .word cs => ∃ c rest, cs = c :: rest ∧ isWordStart c = true ∧ ∀ x ∈ rest, isWordPart x = true
  | _ => True

/-- The token can be read: its numbers fit. -/
def Token.IsReadable : Token → Prop
  | .number n => n < Width.signed64
  | t => t.IsFormed

@[simp] theorem Token.isFormed_symbol (s : Symbol) : (Token.symbol s).IsFormed := trivial

@[simp] theorem Token.isFormed_number (n : Nat) : (Token.number n).IsFormed := trivial

@[simp] theorem Token.isFormed_dice (count sides : Count) : (Token.dice count sides).IsFormed :=
  trivial

@[simp] theorem Token.isReadable_symbol (s : Symbol) : (Token.symbol s).IsReadable := trivial

@[simp] theorem Token.isReadable_dice (count sides : Count) :
    (Token.dice count sides).IsReadable := trivial

@[simp] theorem Token.isReadable_number {n : Nat} :
    (Token.number n).IsReadable ↔ n < Width.signed64 := .rfl

/-- A character that cannot extend the printed token. -/
def Token.endsBefore (t : Token) (b : Char) : Bool :=
  match t with
  | .dice .. => !b.isDigit
  | .number _ => !b.isDigit && !isDieMark b
  | .word _ => !b.isDigit && !isWordPart b
  | .symbol _ => true

theorem isDigit_natural (n : Nat) : ∀ c ∈ Decimal.natural n, c.isDigit = true :=
  fun _ => Decimal.isDigit_of_mem_natural

theorem takeWhile_natural (n : Nat) :
    (Decimal.natural n).takeWhile Char.isDigit = Decimal.natural n :=
  List.takeWhile_eq_self_iff.mpr (isDigit_natural n)

theorem dropWhile_natural (n : Nat) : (Decimal.natural n).dropWhile Char.isDigit = [] :=
  List.dropWhile_eq_nil_iff.mpr (isDigit_natural n)

/-- The lexeme that begins with the first digit of a number. -/
theorem lexemes_natural_append (n : Nat) {b : Char} (r : List Char) (hb : b.isDigit = false) :
    lexemes (Decimal.natural n ++ b :: r) =
      if isDieMark b && startsWithDigit r then
        ⟨[], Decimal.natural n ++ b :: r.takeWhile Char.isDigit⟩ ::
          lexemes (r.dropWhile Char.isDigit)
      else ⟨[], Decimal.natural n⟩ :: lexemes (b :: r) := by
  have ht := takeWhile_natural n
  have hd := dropWhile_natural n
  cases h : Decimal.natural n with
  | nil => exact absurd h (Decimal.natural_ne_nil n)
  | cons c ds =>
    have hc : c.isDigit = true := isDigit_natural n c (by rw [h]; exact List.mem_cons_self)
    rw [h, List.takeWhile_cons_of_pos hc, List.cons.injEq] at ht
    rw [h, List.dropWhile_cons_of_pos hc] at hd
    rw [List.cons_append, lexemes_cons _ (isGap_eq_false (.inl hc)), splitAfter, if_pos hc]
    simp only [takeWhile_append_cons r hb, dropWhile_append_cons r hb, ht.2, hd, List.nil_append]
    split <;> rfl

theorem lexemes_symbol (s : Symbol) (r : List Char) :
    lexemes (s.char :: r) = ⟨[], [s.char]⟩ :: lexemes r := by
  have hg : isGap s.char = false := by cases s <;> decide
  have hs : splitAfter s.char r = ([], r) := by cases s <;> rfl
  rw [lexemes_cons r hg, hs]

/-- A printed token is one lexeme if the next character cannot extend it. -/
theorem lexemes_chars_append {t : Token} (h : t.IsFormed) {b : Char} (r : List Char)
    (hb : t.endsBefore b = true) :
    lexemes (t.chars ++ b :: r) = ⟨[], t.chars⟩ :: lexemes (b :: r) := by
  cases t with
  | dice count sides =>
    have hb : b.isDigit = false := by simpa [Token.endsBefore] using hb
    have hs : startsWithDigit (Decimal.natural sides.val ++ b :: r) = true := by
      cases hn : Decimal.natural sides.val with
      | nil => exact absurd hn (Decimal.natural_ne_nil _)
      | cons c ds => exact isDigit_natural sides.val c (by rw [hn]; exact List.mem_cons_self)
    rw [Token.chars, List.append_assoc, List.cons_append,
      lexemes_natural_append _ _ (by decide), hs, if_pos (by decide),
      takeWhile_append_cons r hb, dropWhile_append_cons r hb, takeWhile_natural,
      dropWhile_natural, List.nil_append]
  | number n =>
    simp only [Token.endsBefore, Bool.and_eq_true, Bool.not_eq_true'] at hb
    rw [Token.chars, lexemes_natural_append n r hb.1, hb.2]
    rfl
  | word cs =>
    simp only [Token.endsBefore, Bool.and_eq_true, Bool.not_eq_true'] at hb
    obtain ⟨c, rest, rfl, hc, hrest⟩ := h
    rw [Token.chars, List.cons_append, lexemes_cons _ (isGap_eq_false (.inr (.inl hc))),
      splitAfter, isDigit_eq_false_of_isWord (.inl hc), startsWithDigit_append r hb.1,
      startsWithDigit_of_isWordPart hrest, hc, takeWhile_append_cons r hb.2,
      dropWhile_append_cons r hb.2, List.takeWhile_eq_self_iff.mpr hrest,
      List.dropWhile_eq_nil_iff.mpr hrest]
    simp
  | symbol s => exact lexemes_symbol s (b :: r)

theorem Token.chars_ne_nil {t : Token} (h : t.IsFormed) : t.chars ≠ [] := by
  cases t with
  | dice => simp [Token.chars]
  | number => exact Decimal.natural_ne_nil _
  | word => obtain ⟨c, rest, rfl, -⟩ := h; exact List.cons_ne_nil c rest
  | symbol => exact List.cons_ne_nil _ _

/-- No printed token can be extended by what follows it, which for the last one is `b`. -/
def separated (b : Char) : List Token → Bool
  | [] => true
  | [t] => t.endsBefore b
  | t :: u :: ts => t.endsBefore (u.chars.headD b) && separated b (u :: ts)

theorem lexemes_flatMap_chars {ts : List Token} (h : ∀ t ∈ ts, t.IsFormed) {b : Char}
    (r : List Char) (hb : separated b ts = true) :
    lexemes (ts.flatMap Token.chars ++ b :: r) =
      ts.map (fun t => ⟨[], t.chars⟩) ++ lexemes (b :: r) := by
  induction ts with
  | nil => rfl
  | cons t ts ih =>
    have ht := h t List.mem_cons_self
    have hts : ∀ u ∈ ts, u.IsFormed := fun u hu => h u (List.mem_cons_of_mem t hu)
    cases ts with
    | nil =>
      rw [List.flatMap_singleton, lexemes_chars_append ht r hb]
      rfl
    | cons u ts =>
      simp only [separated, Bool.and_eq_true] at hb
      have ih := ih hts hb.2
      rw [List.flatMap_cons, List.append_assoc, List.map_cons, List.cons_append, ← ih]
      cases hu : u.chars with
      | nil => exact absurd hu (Token.chars_ne_nil (hts u List.mem_cons_self))
      | cons c cs =>
        rw [hu] at hb
        rw [List.flatMap_cons, hu]
        exact lexemes_chars_append ht _ hb.1

theorem Token.ofText_chars {t : Token} (h : t.IsReadable) : Token.ofText t.chars = .ok t := by
  cases t with
  | dice count sides =>
    rw [Token.chars, Token.ofText, takeWhile_append_cons _ (by decide),
      dropWhile_append_cons _ (by decide), takeWhile_natural, dropWhile_natural]
    have hs : (Decimal.natural sides.val).all Char.isDigit = true :=
      List.all_eq_true.mpr (isDigit_natural _)
    simp [hs, isDieMark, Count.ofNat?, count.lt, sides.lt]
  | number n =>
    have hn : n < Width.signed64 := h
    rw [Token.chars, Token.ofText, takeWhile_natural, dropWhile_natural]
    simp [hn]
  | word cs =>
    obtain ⟨c, rest, rfl, hc, hrest⟩ := h
    have hd := isDigit_eq_false_of_isWord (.inl hc)
    have hall : (!rest.isEmpty && rest.all Char.isDigit) = false := by
      cases rest with
      | nil => rfl
      | cons x xs => simp [isDigit_eq_false_of_isWord (.inr (hrest x List.mem_cons_self))]
    rw [Token.chars, Token.ofText, List.takeWhile_cons_of_neg (by simp [hd]),
      List.dropWhile_cons_of_neg (by simp [hd])]
    simp [Bool.and_assoc, hall, hc]
  | symbol s => cases s <;> rfl

/-- The text of a printed token is a token just when it can be read. -/
theorem Token.ofText_chars_iff {t : Token} (h : t.IsFormed) :
    (∃ u, Token.ofText t.chars = .ok u) ↔ t.IsReadable := by
  constructor
  · rintro ⟨u, hu⟩
    cases t with
    | number n =>
      rw [Token.chars, Token.ofText, takeWhile_natural, dropWhile_natural] at hu
      by_contra hn
      have hn : ¬n < Width.signed64 := hn
      simp [hn] at hu
    | dice | word | symbol => exact h
  · exact fun ht => ⟨t, Token.ofText_chars ht⟩

/-! ## The tokens of a text -/

/-- The token stands for the lexeme. -/
structure Scanned.Spells (t : Scanned) (l : Lexeme) : Prop where
  gap : t.gap = l.gap
  text : t.text = l.text
  token : Token.ofText l.text = .ok t.token

theorem readFrom_eq_map_ok {ls : List Lexeme} (h : ∀ l ∈ ls, ∃ t, Token.ofText l.text = .ok t)
    (offset : Nat) :
    ∃ ts : List Scanned, readFrom offset ls = ts.map .ok ∧ List.Forall₂ Scanned.Spells ts ls := by
  induction ls generalizing offset with
  | nil => exact ⟨[], rfl, .nil⟩
  | cons l ls ih =>
    obtain ⟨t, ht⟩ := h l List.mem_cons_self
    obtain ⟨ts, hts, hspell⟩ := ih (fun k hk => h k (List.mem_cons_of_mem l hk))
      (offset + byteLength l.gap + byteLength l.text)
    let start := offset + byteLength l.gap
    refine ⟨⟨l.gap, l.text, ⟨start, start + byteLength l.text⟩, t⟩ :: ts, ?_,
      .cons ⟨rfl, rfl, ht⟩ hspell⟩
    simp only [readFrom, ht, hts, List.map_cons, start]

theorem error_mem_readFrom {ls : List Lexeme} {l : Lexeme} {fault : Fault} (hl : l ∈ ls)
    (h : Token.ofText l.text = .error fault) (offset : Nat) :
    ∃ f, .error f ∈ readFrom offset ls := by
  induction ls generalizing offset with
  | nil => cases hl
  | cons k ls ih =>
    rcases List.mem_cons.mp hl with rfl | hl
    · exact ⟨_, by simp only [readFrom, h]; exact List.mem_cons_self⟩
    · obtain ⟨f, hf⟩ := ih hl (offset + byteLength k.gap + byteLength k.text)
      exact ⟨f, List.mem_cons_of_mem _ hf⟩

/-- A text has no faults just when all its lexemes are tokens. -/
theorem faults_eq_nil_iff {cs : List Char} :
    faults cs = [] ↔ ∀ l ∈ lexemes cs, ∃ t, Token.ofText l.text = .ok t := by
  constructor
  · intro h l hl
    cases ht : Token.ofText l.text with
    | ok t => exact ⟨t, rfl⟩
    | error fault =>
      obtain ⟨f, hf⟩ := error_mem_readFrom hl ht 0
      cases (List.filterMap_eq_nil_iff.mp h) _ hf
  · intro h
    obtain ⟨ts, hts, -⟩ := readFrom_eq_map_ok h 0
    rw [faults, read, hts, List.filterMap_map, List.filterMap_eq_nil_iff]
    exact fun _ _ => rfl

/-- A word is one lexeme and has no faults. -/
theorem faults_word {cs : List Char} (h : (Token.word cs).IsFormed) : faults cs = [] := by
  have hread : (Token.word cs).IsReadable := h
  have htoken : Token.ofText cs = .ok (.word cs) := Token.ofText_chars hread
  obtain ⟨c, rest, rfl, hc, hrest⟩ := h
  have hsplit : splitAfter c rest = (rest, []) := by
    rw [splitAfter, isDigit_eq_false_of_isWord (.inl hc), startsWithDigit_of_isWordPart hrest, hc,
      List.takeWhile_eq_self_iff.mpr hrest, List.dropWhile_eq_nil_iff.mpr hrest]
    simp
  rw [faults_eq_nil_iff, lexemes_cons rest (isGap_eq_false (.inr (.inl hc))), hsplit, lexemes_nil]
  exact List.forall_mem_singleton.mpr ⟨_, htoken⟩

/-- A text without faults is read as its tokens, and they stand for its lexemes. -/
theorem readFrom_lexemes {cs : List Char} (h : faults cs = []) :
    readFrom 0 (lexemes cs) = (tokens cs).map .ok ∧
      List.Forall₂ Scanned.Spells (tokens cs) (lexemes cs) := by
  obtain ⟨ts, hts, hspell⟩ := readFrom_eq_map_ok (faults_eq_nil_iff.mp h) 0
  have htokens : tokens cs = ts := by
    rw [tokens, read, hts, List.filterMap_map]
    exact List.filterMap_some
  rw [htokens]
  exact ⟨hts, hspell⟩

theorem spells_tokens {cs : List Char} (h : faults cs = []) :
    List.Forall₂ Scanned.Spells (tokens cs) (lexemes cs) := (readFrom_lexemes h).2

theorem scan_eq_tokens {cs : List Char} (h : faults cs = []) : scan cs = .ok (tokens cs) := by
  rw [scan, h]

/-- A text without faults is scanned to tokens that stand for its lexemes. -/
theorem scan_of_faults_eq_nil {cs : List Char} (h : faults cs = []) :
    ∃ ts, scan cs = .ok ts ∧ List.Forall₂ Scanned.Spells ts (lexemes cs) :=
  ⟨tokens cs, scan_eq_tokens h, spells_tokens h⟩

theorem scan_of_faults_ne_nil {cs : List Char} (h : faults cs ≠ []) :
    ∃ f, scan cs = .error f := by
  cases hf : faults cs with
  | nil => exact absurd hf h
  | cons f fs => exact ⟨f, by rw [scan, hf]⟩

/-- Lexemes whose texts are those of printed tokens stand for these tokens. -/
theorem map_token_of_texts {us : List Scanned} {ls : List Lexeme}
    (hs : List.Forall₂ Scanned.Spells us ls) {ts : List Token} (h : ∀ t ∈ ts, t.IsReadable)
    (htexts : ls.map (·.text) = ts.map Token.chars) : us.map (·.token) = ts := by
  induction hs generalizing ts with
  | nil =>
    rw [List.map_nil, eq_comm, List.map_eq_nil_iff] at htexts
    rw [htexts, List.map_nil]
  | @cons u l us ls hu _ ih =>
    obtain ⟨t, ts, rfl, htext, hrest⟩ := List.map_eq_cons_iff.mp htexts.symm
    have htext : t.chars = l.text := htext
    have ht := hu.token
    rw [← htext, Token.ofText_chars (h t List.mem_cons_self)] at ht
    cases ht
    rw [List.map_cons, ih (fun v hv => h v (List.mem_cons_of_mem _ hv)) hrest.symm]

theorem map_token_of_spells {ts : List Token} (h : ∀ t ∈ ts, t.IsReadable) {us : List Scanned}
    (hs : List.Forall₂ Scanned.Spells us (ts.map fun t => ⟨[], t.chars⟩)) :
    us.map (·.token) = ts :=
  map_token_of_texts hs h (List.map_map ..)

theorem spells_append {us : List Scanned} {ls ks : List Lexeme}
    (h : List.Forall₂ Scanned.Spells us (ls ++ ks)) :
    ∃ vs ws, us = vs ++ ws ∧ List.Forall₂ Scanned.Spells vs ls ∧
      List.Forall₂ Scanned.Spells ws ks :=
  ⟨_, _, (List.take_append_drop ls.length us).symm, List.forall₂_take_append us ls ks h,
    List.forall₂_drop_append us ls ks h⟩

/-- The source text of tokens is that of the lexemes they stand for. -/
theorem flatMap_of_spells {us : List Scanned} {ls : List Lexeme}
    (h : List.Forall₂ Scanned.Spells us ls) :
    (us.flatMap fun u => u.gap ++ u.text) = ls.flatMap fun l => l.gap ++ l.text := by
  induction h with
  | nil => rfl
  | cons hu _ ih => rw [List.flatMap_cons, List.flatMap_cons, hu.gap, hu.text, ih]

theorem Symbol.char_of_ofChar? {c : Char} {s : Symbol} (h : Symbol.ofChar? c = some s) :
    s.char = c := by
  unfold Symbol.ofChar? at h
  split at h <;> cases h <;> rfl

/-- The character of a symbol stands in its text. -/
theorem mem_of_ofText_symbol {text : List Char} {s : Symbol}
    (h : Token.ofText text = .ok (.symbol s)) : s.char ∈ text := by
  unfold Token.ofText at h
  split at h
  · dsimp only at h
    split at h <;> cases h
  · next c rest hd =>
    have hc : c ∈ text := (List.dropWhile_sublist _).subset (hd ▸ List.mem_cons_self)
    split at h
    · dsimp only at h
      split at h <;> cases h
    · split at h
      · cases h
      · split at h
        · next hs => cases h; rw [Symbol.char_of_ofChar? hs]; exact hc
        · cases h

theorem exists_lexeme_of_mem {us : List Scanned} {ls : List Lexeme}
    (h : List.Forall₂ Scanned.Spells us ls) {u : Scanned} (hu : u ∈ us) : ∃ l ∈ ls, u.Spells l := by
  induction h with
  | nil => cases hu
  | cons hv _ ih =>
    rcases List.mem_cons.mp hu with rfl | hu
    · exact ⟨_, List.mem_cons_self, hv⟩
    · obtain ⟨l, hl, hspell⟩ := ih hu
      exact ⟨l, List.mem_cons_of_mem _ hl, hspell⟩

theorem mem_of_spells_symbol {cs : List Char} {us : List Scanned} {u : Scanned} {s : Symbol}
    (h : List.Forall₂ Scanned.Spells us (lexemes cs)) (hu : u ∈ us) (hs : u.token = .symbol s) :
    s.char ∈ cs := by
  obtain ⟨l, hl, hspell⟩ := exists_lexeme_of_mem h hu
  have htext : s.char ∈ l.text := mem_of_ofText_symbol (hs ▸ hspell.token)
  have hmem : s.char ∈ (lexemes cs).flatMap fun l => l.gap ++ l.text :=
    List.mem_flatMap.mpr ⟨l, hl, List.mem_append_right _ htext⟩
  rw [← flatMap_lexemes cs]
  exact List.mem_append_left _ hmem

theorem ne_nil_of_mem_lexemes {cs : List Char} {l : Lexeme} (h : l ∈ lexemes cs) :
    l.text ≠ [] := by
  induction cs using lexemes_induction with
  | gap g hg =>
    rw [lexemes_of_isGap hg] at h
    cases h
  | lexeme g c rest hg hc ih =>
    rw [lexemes_gap_append hg hc] at h
    rcases List.mem_cons.mp h with rfl | h
    · exact List.cons_ne_nil _ _
    · exact ih h

theorem ne_nil_of_mem_tokens {cs : List Char} (hfaults : faults cs = []) {t : Scanned}
    (h : t ∈ tokens cs) : t.text ≠ [] := by
  obtain ⟨l, hl, hspell⟩ := exists_lexeme_of_mem (spells_tokens hfaults) h
  rw [hspell.text]
  exact ne_nil_of_mem_lexemes hl

/-! ## Places of tokens -/

/-- The source text of consecutive tokens, with the gap before the first. -/
def sourceText (ts : List Scanned) : List Char := ts.flatMap fun t => t.gap ++ t.text

theorem sourceText_append (ts us : List Scanned) :
    sourceText (ts ++ us) = sourceText ts ++ sourceText us := List.flatMap_append

theorem byteLength_append (as bs : List Char) :
    byteLength (as ++ bs) = byteLength as + byteLength bs := by
  induction as with
  | nil => exact (Nat.zero_add _).symm
  | cons a as ih =>
    change a.utf8Size + byteLength (as ++ bs) = a.utf8Size + byteLength as + byteLength bs
    rw [ih, Nat.add_assoc]

/-- The span is that of `part`, which stands in the text. -/
def Span.Covers (s : Span) (cs part : List Char) : Prop :=
  ∃ before after, cs = before ++ part ++ after ∧ byteLength before = s.start ∧
    byteLength (before ++ part) = s.stop

/-- The tokens follow one another from `offset` on, each after its gap. -/
inductive Placed : Nat → List Scanned → Prop where
  | nil {offset : Nat} : Placed offset []
  | cons {offset : Nat} {t : Scanned} {ts : List Scanned} :
      t.span.start = offset + byteLength t.gap →
      t.span.stop = offset + byteLength (t.gap ++ t.text) → Placed t.span.stop ts →
      Placed offset (t :: ts)

theorem placed_of_readFrom {ls : List Lexeme} {ts : List Scanned} {offset : Nat}
    (h : readFrom offset ls = ts.map .ok) : Placed offset ts := by
  induction ls generalizing ts offset with
  | nil =>
    cases ts with
    | nil => exact .nil
    | cons t ts => cases h
  | cons l ls ih =>
    cases ts with
    | nil => cases h
    | cons t ts =>
      obtain ⟨hone, hrest⟩ := List.cons.inj h
      split at hone
      · cases hone
        refine .cons rfl ?_ (ih hrest)
        rw [byteLength_append, Nat.add_assoc]
      · cases hone

theorem Placed.span_eq {offset : Nat} {before after : List Scanned} {t : Scanned}
    (h : Placed offset (before ++ t :: after)) :
    t.span = ⟨offset + byteLength (sourceText before ++ t.gap),
      offset + byteLength (sourceText (before ++ [t]))⟩ := by
  induction before generalizing offset with
  | nil =>
    cases h with
    | cons hstart hstop _ =>
      have hsource : sourceText ([] ++ [t]) = t.gap ++ t.text := List.append_nil _
      rw [hsource, ← hstop]
      exact congrArg (Span.mk · _) hstart
  | cons u before ih =>
    cases h with
    | cons _ hstop hrest =>
      rw [ih hrest, hstop, Nat.add_assoc, Nat.add_assoc, ← byteLength_append, ← byteLength_append]
      simp only [sourceText, List.cons_append, List.flatMap_cons, List.append_assoc]

/-- A text without faults is the source text of its tokens and a gap at the end. -/
theorem placed_tokens {cs : List Char} (h : faults cs = []) :
    Placed 0 (tokens cs) ∧ ∃ gap, cs = sourceText (tokens cs) ++ gap := by
  obtain ⟨hread, hspell⟩ := readFrom_lexemes h
  refine ⟨placed_of_readFrom hread, cs.rtakeWhile isGap, ?_⟩
  rw [sourceText, flatMap_of_spells hspell, flatMap_lexemes]

end CriticalDamage.Dice
