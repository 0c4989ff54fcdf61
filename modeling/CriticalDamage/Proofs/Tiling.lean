import CriticalDamage.Proofs.Lexemes

/-!
# Tiling

The lexemes of a text tile it. Each kind of token has its texts (`TokenKind.Admits`). A lexeme is
the longest text of any kind at its place, or a single character that begins no text of any kind
(`isLongest_or_startsNothing`). A text is therefore a gap, a lexeme and a rest that is tiled in
turn, down to a last gap (`Tiles`), and what is read of each lexeme is the token it is or the fault
for which it is refused (`tiles_read`). Order, bytes and texts of the places that tokens and faults
name follow by induction along the tiles (`tokens_and_faults_tile`).
-/

namespace CriticalDamage.Dice

/-! ## Texts of tokens -/

/-- The kinds of tokens. -/
inductive TokenKind where
  | dice
  | number
  | word
  | symbol
deriving DecidableEq, Repr

def Token.kind : Token → TokenKind
  | .dice .. => .dice
  | .number _ => .number
  | .word _ => .word
  | .symbol _ => .symbol

/-- The texts that a kind of token has. Numbers may be of any size. -/
inductive TokenKind.Admits : TokenKind → List Char → Prop where
  | dice {count sides : List Char} {mark : Char} : (∀ x ∈ count, x.isDigit = true) →
      isDieMark mark = true → sides ≠ [] → (∀ x ∈ sides, x.isDigit = true) →
      Admits .dice (count ++ mark :: sides)
  | number {digits : List Char} : digits ≠ [] → (∀ x ∈ digits, x.isDigit = true) →
      Admits .number digits
  | word {c : Char} {rest : List Char} : isWordStart c = true →
      (∀ x ∈ rest, isWordPart x = true) → Admits .word (c :: rest)
  | symbol (s : Symbol) : Admits .symbol [s.char]

/-- A text of the kind, and the longest text of any kind with which `text ++ rest` begins. -/
structure IsLongest (kind : TokenKind) (text rest : List Char) : Prop where
  admitted : kind.Admits text
  longest : ∀ other more, TokenKind.Admits other more → more <+: text ++ rest →
    more.length ≤ text.length

/-- No text of a token begins with the character. -/
def StartsNothing (c : Char) : Prop := ∀ kind rest, ¬TokenKind.Admits kind (c :: rest)

theorem isDigit_eq_false_of_isDieMark {c : Char} (h : isDieMark c = true) : c.isDigit = false :=
  isDigit_eq_false_of_isWord (.inr (isWordPart_of_isDieMark h))

theorem isWordStart_of_isDieMark {c : Char} (h : isDieMark c = true) : isWordStart c = true := by
  rw [isDieMark, Bool.or_eq_true, beq_iff_eq, beq_iff_eq] at h
  rcases h with rfl | rfl <;> decide

theorem TokenKind.Admits.ne_nil {kind : TokenKind} {text : List Char} (h : kind.Admits text) :
    text ≠ [] := by
  cases h with
  | dice => exact List.append_ne_nil_of_right_ne_nil _ (List.cons_ne_nil _ _)
  | number hne => exact hne
  | word => exact List.cons_ne_nil _ _
  | symbol => exact List.cons_ne_nil _ _

theorem isGap_symbol (s : Symbol) : isGap s.char = false := by cases s <;> decide

/-- No gap stands in the text of a token. -/
theorem TokenKind.Admits.isGap_eq_false {kind : TokenKind} {text : List Char}
    (h : kind.Admits text) {x : Char} (hx : x ∈ text) : isGap x = false := by
  cases h with
  | dice hcount hmark _ hsides =>
    rcases List.mem_append.mp hx with hx | hx
    · exact Dice.isGap_eq_false (.inl (hcount x hx))
    · rcases List.mem_cons.mp hx with rfl | hx
      · exact Dice.isGap_eq_false (.inr (.inr (isWordPart_of_isDieMark hmark)))
      · exact Dice.isGap_eq_false (.inl (hsides x hx))
  | number _ hdigits => exact Dice.isGap_eq_false (.inl (hdigits x hx))
  | word hc hrest =>
    rcases List.mem_cons.mp hx with rfl | hx
    · exact Dice.isGap_eq_false (.inr (.inl hc))
    · exact Dice.isGap_eq_false (.inr (.inr (hrest x hx)))
  | symbol s =>
    rw [List.mem_singleton.mp hx]
    exact isGap_symbol s

/-! ## Lexemes are longest -/

section
variable {c mark : Char} {cs count : List Char}

theorem splitAfter_of_count (hc : c.isDigit = true) (hcount : ∀ x ∈ count, x.isDigit = true)
    (hmark : isDieMark mark = true) (hcs : startsWithDigit cs = true) :
    splitAfter c (count ++ mark :: cs) =
      (count ++ mark :: cs.takeWhile Char.isDigit, cs.dropWhile Char.isDigit) := by
  have hdigit : ¬mark.isDigit = true := by simp [isDigit_eq_false_of_isDieMark hmark]
  rw [splitAfter, if_pos hc, List.takeWhile_append_of_pos hcount,
    List.dropWhile_append_of_pos hcount, List.takeWhile_cons_of_neg hdigit,
    List.dropWhile_cons_of_neg hdigit, List.append_nil]
  simp only [hmark, hcs, Bool.and_self, if_true]

theorem splitAfter_of_isDieMark (hc : isDieMark c = true) (hcs : startsWithDigit cs = true) :
    splitAfter c cs = (cs.takeWhile Char.isDigit, cs.dropWhile Char.isDigit) := by
  simp [splitAfter, isDigit_eq_false_of_isDieMark hc, hc, hcs]

theorem splitAfter_of_isWordStart (hc : isWordStart c = true)
    (hdice : (isDieMark c && startsWithDigit cs) = false) :
    splitAfter c cs = (cs.takeWhile isWordPart, cs.dropWhile isWordPart) := by
  rw [splitAfter, isDigit_eq_false_of_isWord (.inl hc), hdice, hc]
  simp

/-- The digits after a first digit belong to its lexeme. -/
theorem takeWhile_prefix_splitAfter (hc : c.isDigit = true) :
    cs.takeWhile Char.isDigit <+: (splitAfter c cs).1 := by
  rw [splitAfter, if_pos hc]
  split
  · exact List.prefix_rfl
  · split
    · exact List.prefix_append _ _
    · exact List.prefix_rfl

end

theorem prefix_takeWhile {p : Char → Bool} {l : List Char} (h : ∀ x ∈ l, p x = true)
    (r : List Char) : l <+: (l ++ r).takeWhile p := by
  rw [List.takeWhile_append_of_pos h]
  exact List.prefix_append _ _

theorem startsWithDigit_append_of_ne_nil {ds : List Char} (hne : ds ≠ [])
    (h : ∀ x ∈ ds, x.isDigit = true) (r : List Char) : startsWithDigit (ds ++ r) = true := by
  cases ds with
  | nil => exact absurd rfl hne
  | cons d ds => exact h d List.mem_cons_self

/-- The text of a token with which a text begins lies within its first lexeme. -/
theorem TokenKind.Admits.prefix_lexeme {kind : TokenKind} {text : List Char}
    (h : kind.Admits text) {c : Char} {cs : List Char} (hbegins : text <+: c :: cs) :
    text <+: c :: (splitAfter c cs).1 := by
  obtain ⟨r, hr⟩ := hbegins
  cases h with
  | @dice count sides mark hcount hmark hne hsides =>
    have hstart := startsWithDigit_append_of_ne_nil hne hsides r
    cases count with
    | nil =>
      rw [List.nil_append, List.cons_append] at hr
      obtain ⟨rfl, rfl⟩ := List.cons.inj hr
      rw [splitAfter_of_isDieMark hmark hstart, List.nil_append, List.prefix_cons_inj]
      exact prefix_takeWhile hsides r
    | cons d count =>
      rw [List.cons_append, List.cons_append, List.append_assoc, List.cons_append] at hr
      obtain ⟨rfl, rfl⟩ := List.cons.inj hr
      obtain ⟨hd, hcount⟩ := List.forall_mem_cons.mp hcount
      rw [splitAfter_of_count hd hcount hmark hstart, List.cons_append, List.prefix_cons_inj,
        List.prefix_append_right_inj, List.prefix_cons_inj]
      exact prefix_takeWhile hsides r
  | number hne hdigits =>
    cases text with
    | nil => exact absurd rfl hne
    | cons d digits =>
      rw [List.cons_append] at hr
      obtain ⟨rfl, rfl⟩ := List.cons.inj hr
      obtain ⟨hd, hdigits⟩ := List.forall_mem_cons.mp hdigits
      rw [List.prefix_cons_inj]
      exact (prefix_takeWhile hdigits r).trans (takeWhile_prefix_splitAfter hd)
  | @word d rest hd hrest =>
    rw [List.cons_append] at hr
    obtain ⟨rfl, rfl⟩ := List.cons.inj hr
    rw [List.prefix_cons_inj]
    cases hdice : isDieMark d && startsWithDigit (rest ++ r) with
    | false =>
      rw [splitAfter_of_isWordStart hd hdice]
      exact prefix_takeWhile hrest r
    | true =>
      -- A digit follows the die mark, and no digit stands in a word.
      cases rest with
      | nil => exact List.nil_prefix
      | cons x rest =>
        have hx : x.isDigit = true := (Bool.and_eq_true_iff.mp hdice).2
        rw [isDigit_eq_false_of_isWord (.inr (hrest x List.mem_cons_self))] at hx
        cases hx
  | symbol s =>
    obtain ⟨rfl, -⟩ := List.cons.inj hr
    exact List.prefix_cons_inj _ |>.mpr List.nil_prefix

theorem takeWhile_isDigit_ne_nil {cs : List Char} (h : startsWithDigit cs = true) :
    cs.takeWhile Char.isDigit ≠ [] := by
  cases cs with
  | nil => cases h
  | cons c cs =>
    rw [List.takeWhile_cons_of_pos (p := Char.isDigit) h]
    exact List.cons_ne_nil _ _

theorem Symbol.ofChar?_char (s : Symbol) : ofChar? s.char = some s := by cases s <;> rfl

theorem startsNothing_iff {c : Char} :
    StartsNothing c ↔ c.isDigit = false ∧ isWordStart c = false ∧ Symbol.ofChar? c = none := by
  constructor
  · intro h
    refine ⟨?_, ?_, ?_⟩
    · rw [Bool.eq_false_iff]
      intro hc
      exact h .number [] (.number (List.cons_ne_nil c []) (List.forall_mem_singleton.mpr hc))
    · rw [Bool.eq_false_iff]
      exact fun hc => h .word [] (.word hc nofun)
    · cases hs : Symbol.ofChar? c with
      | none => rfl
      | some s => exact absurd (Symbol.char_of_ofChar? hs ▸ .symbol s) (h .symbol [])
  · rintro ⟨hdigit, hword, hsymbol⟩ kind rest h
    generalize htext : c :: rest = text at h
    cases h with
    | @dice count sides mark hcount hmark _ _ =>
      cases count with
      | nil =>
        obtain ⟨rfl, -⟩ := List.cons.inj htext
        rw [isWordStart_of_isDieMark hmark] at hword
        cases hword
      | cons d count =>
        obtain ⟨rfl, -⟩ := List.cons.inj htext
        rw [hcount c List.mem_cons_self] at hdigit
        cases hdigit
    | number _ hdigits =>
      rw [hdigits c (htext ▸ List.mem_cons_self)] at hdigit
      cases hdigit
    | word hc _ =>
      obtain ⟨rfl, -⟩ := List.cons.inj htext
      rw [hc] at hword
      cases hword
    | symbol s =>
      obtain ⟨rfl, -⟩ := List.cons.inj htext
      rw [s.ofChar?_char] at hsymbol
      cases hsymbol

/-- The first lexeme is the text of a token, unless its first character begins none. -/
theorem admits_or_startsNothing (c : Char) (cs : List Char) :
    (∃ kind, TokenKind.Admits kind (c :: (splitAfter c cs).1)) ∨
      StartsNothing c ∧ (splitAfter c cs).1 = [] := by
  have hdigits : ∀ ds : List Char, ∀ x ∈ ds.takeWhile Char.isDigit, x.isDigit = true :=
    fun _ _ => List.mem_takeWhile_imp
  by_cases hc : c.isDigit = true
  · have hcount : ∀ x ∈ c :: cs.takeWhile Char.isDigit, x.isDigit = true :=
      List.forall_mem_cons.mpr ⟨hc, hdigits cs⟩
    rw [splitAfter, if_pos hc]
    refine .inl ?_
    split
    · exact ⟨_, .number (List.cons_ne_nil _ _) hcount⟩
    · next mark rest _ =>
      split
      · next h =>
        obtain ⟨hmark, hrest⟩ := Bool.and_eq_true_iff.mp h
        exact ⟨_, .dice hcount hmark (takeWhile_isDigit_ne_nil hrest) (hdigits rest)⟩
      · exact ⟨_, .number (List.cons_ne_nil _ _) hcount⟩
  · by_cases hword : isWordStart c = true
    · refine .inl ?_
      cases hdice : isDieMark c && startsWithDigit cs with
      | true =>
        obtain ⟨hmark, hcs⟩ := Bool.and_eq_true_iff.mp hdice
        rw [splitAfter_of_isDieMark hmark hcs]
        have hcount : ∀ x ∈ ([] : List Char), x.isDigit = true := List.forall_mem_nil _
        exact ⟨_, .dice hcount hmark (takeWhile_isDigit_ne_nil hcs) (hdigits cs)⟩
      | false =>
        rw [splitAfter_of_isWordStart hword hdice]
        exact ⟨_, .word hword fun _ => List.mem_takeWhile_imp⟩
    · have hmark : isDieMark c ≠ true := fun h => hword (isWordStart_of_isDieMark h)
      have hsplit : splitAfter c cs = ([], cs) := by simp [splitAfter, hc, hmark, hword]
      rw [hsplit]
      cases hs : Symbol.ofChar? c with
      | some s =>
        rw [← Symbol.char_of_ofChar? hs]
        exact .inl ⟨_, .symbol s⟩
      | none =>
        rw [Bool.not_eq_true] at hc hword
        exact .inr ⟨startsNothing_iff.mpr ⟨hc, hword, hs⟩, rfl⟩

/-- The first lexeme of a text is longest, unless its first character begins no token. -/
theorem isLongest_or_startsNothing (c : Char) (cs : List Char) :
    (∃ kind, IsLongest kind (c :: (splitAfter c cs).1) (splitAfter c cs).2) ∨
      StartsNothing c ∧ (splitAfter c cs).1 = [] := by
  rcases admits_or_startsNothing c cs with ⟨kind, hkind⟩ | hnothing
  · refine .inl ⟨kind, hkind, fun other more hmore hbegins => ?_⟩
    rw [List.cons_append, splitAfter_append] at hbegins
    exact (hmore.prefix_lexeme hbegins).length_le
  · exact .inr hnothing

theorem TokenKind.Admits.isDigit_eq_false_of_word {text : List Char}
    (h : TokenKind.word.Admits text) {x : Char} (hx : x ∈ text) : x.isDigit = false := by
  cases h with
  | word hc hrest =>
    rcases List.mem_cons.mp hx with rfl | hx
    · exact isDigit_eq_false_of_isWord (.inl hc)
    · exact isDigit_eq_false_of_isWord (.inr (hrest x hx))

theorem isDigit_symbol (s : Symbol) : s.char.isDigit = false := by cases s <;> decide

/-- A dice term is taken before a number and before a word. -/
theorem IsLongest.kind_eq_dice {kind : TokenKind} {text rest : List Char}
    (h : IsLongest kind text rest) {more : List Char} (hmore : TokenKind.dice.Admits more)
    (hbegins : more <+: text ++ rest) : kind = .dice := by
  have hlength := h.longest .dice more hmore hbegins
  have hmem : ∀ x ∈ more, x ∈ text := fun _ hx =>
    (List.prefix_of_prefix_length_le hbegins (List.prefix_append _ _) hlength).subset hx
  cases hmore with
  | @dice count sides mark _ hmark hne hsides =>
    -- The text holds the die mark, which stands in no number, and a digit, which stands in no word.
    obtain ⟨side, hside⟩ := List.exists_mem_of_ne_nil sides hne
    have hmark' : mark ∈ text := hmem mark (List.mem_append_right _ List.mem_cons_self)
    have hside' : side ∈ text :=
      hmem side (List.mem_append_right _ (List.mem_cons_of_mem _ hside))
    have hdigit : side.isDigit = true := hsides side hside
    cases kind with
    | dice => rfl
    | number =>
      cases h.admitted with
      | number _ hdigits =>
        have hmarkDigit := hdigits mark hmark'
        rw [isDigit_eq_false_of_isDieMark hmark] at hmarkDigit
        cases hmarkDigit
    | word =>
      rw [h.admitted.isDigit_eq_false_of_word hside'] at hdigit
      cases hdigit
    | symbol =>
      cases h.admitted with
      | symbol s =>
        rw [List.mem_singleton.mp hside', isDigit_symbol] at hdigit
        cases hdigit

/-! ## Tokens and faults of lexemes -/

/-- The fault for which the text that stands before `rest` is refused: a dice term or a number whose
value has no room, or a character that begins no token. -/
inductive Refused : Fault → List Char → List Char → Prop where
  | dice {count sides rest : List Char} {mark : Char} : isDieMark mark = true →
      IsLongest .dice (count ++ mark :: sides) rest →
      Width.unsigned32 ≤ Decimal.value count ∨ Width.unsigned32 ≤ Decimal.value sides →
      Refused (.invalidDice (count ++ mark :: sides)) (count ++ mark :: sides) rest
  | number {digits rest : List Char} : IsLongest .number digits rest →
      Width.signed64 ≤ Decimal.value digits → Refused (.invalidNumber digits) digits rest
  | character {c : Char} {rest : List Char} : StartsNothing c →
      Refused (.unexpectedText [c]) [c] rest

theorem ofNat?_cases (n : Nat) :
    (∃ count, Count.ofNat? n = some count) ∨ Count.ofNat? n = none ∧ Width.unsigned32 ≤ n := by
  rw [Count.ofNat?]
  split
  · exact .inl ⟨_, rfl⟩
  · next h => exact .inr ⟨rfl, Nat.le_of_not_lt h⟩

theorem Token.ofText_dice {count sides : List Char} {mark : Char}
    (hcount : ∀ x ∈ count, x.isDigit = true) (hmark : isDieMark mark = true) (hne : sides ≠ [])
    (hsides : ∀ x ∈ sides, x.isDigit = true) :
    (∃ c s, ofText (count ++ mark :: sides) = .ok (.dice c s)) ∨
      ofText (count ++ mark :: sides) = .error (.invalidDice (count ++ mark :: sides)) ∧
        (Width.unsigned32 ≤ Decimal.value count ∨ Width.unsigned32 ≤ Decimal.value sides) := by
  have hdigit : ¬mark.isDigit = true := by simp [isDigit_eq_false_of_isDieMark hmark]
  have hall : sides.all Char.isDigit = true := List.all_eq_true.mpr hsides
  rw [ofText, List.takeWhile_append_of_pos hcount, List.dropWhile_append_of_pos hcount,
    List.takeWhile_cons_of_neg hdigit, List.dropWhile_cons_of_neg hdigit, List.append_nil]
  simp only [hmark, List.isEmpty_eq_false_iff.mpr hne, hall, Bool.not_false, Bool.and_self, if_true]
  have hcounts : (∃ c, (if count.isEmpty then some 1 else Count.ofNat? (Decimal.value count)) =
      some c) ∨ (if count.isEmpty then some 1 else Count.ofNat? (Decimal.value count)) = none ∧
        Width.unsigned32 ≤ Decimal.value count := by
    split
    · exact .inl ⟨1, rfl⟩
    · exact ofNat?_cases _
  rcases hcounts with ⟨c, hc⟩ | ⟨hnone, hlarge⟩
  · rcases ofNat?_cases (Decimal.value sides) with ⟨s, hs⟩ | ⟨hnone, hlarge⟩
    · exact .inl ⟨c, s, by rw [hc, hs]⟩
    · exact .inr ⟨by rw [hc, hnone], .inr hlarge⟩
  · exact .inr ⟨by rw [hnone], .inl hlarge⟩

theorem Token.ofText_number {digits : List Char} (hne : digits ≠ [])
    (hdigits : ∀ x ∈ digits, x.isDigit = true) :
    ofText digits =
      if Decimal.value digits < Width.signed64 then .ok (.number (Decimal.value digits))
      else .error (.invalidNumber digits) := by
  rw [ofText, List.takeWhile_eq_self_iff.mpr hdigits, List.dropWhile_eq_nil_iff.mpr hdigits]
  simp [List.isEmpty_eq_false_iff.mpr hne]

/-- A longest text of a kind is a token of that kind, or it is refused. -/
theorem IsLongest.ofText {kind : TokenKind} {text rest : List Char}
    (h : IsLongest kind text rest) :
    (∃ t, Token.ofText text = .ok t ∧ t.kind = kind) ∨
      ∃ fault, Token.ofText text = .error fault ∧ Refused fault text rest := by
  cases h.admitted with
  | @dice count sides mark hcount hmark hne hsides =>
    rcases Token.ofText_dice hcount hmark hne hsides with ⟨c, s, hok⟩ | ⟨herror, hlarge⟩
    · exact .inl ⟨_, hok, rfl⟩
    · exact .inr ⟨_, herror, .dice hmark h hlarge⟩
  | number hne hdigits =>
    rw [Token.ofText_number hne hdigits]
    split
    · exact .inl ⟨_, rfl, rfl⟩
    · next hlt => exact .inr ⟨_, rfl, .number h (Nat.le_of_not_lt hlt)⟩
  | @word c cs hc hcs =>
    have hread : (Token.word (c :: cs)).IsReadable := ⟨c, cs, rfl, hc, hcs⟩
    exact .inl ⟨_, Token.ofText_chars hread, rfl⟩
  | symbol s => exact .inl ⟨_, Token.ofText_chars (Token.isReadable_symbol s), rfl⟩

theorem StartsNothing.ofText {c : Char} (h : StartsNothing c) :
    Token.ofText [c] = .error (.unexpectedText [c]) := by
  obtain ⟨hdigit, hword, hsymbol⟩ := startsNothing_iff.mp h
  simp [Token.ofText, hdigit, hword, hsymbol]

/-! ## Tiles -/

/-- What is read of the lexeme `text`, which stands at a span between a gap and `rest`. -/
inductive IsReading (gap text rest : List Char) (span : Span) :
    Except PlacedFault Scanned → Prop where
  | token {t : Token} : IsLongest t.kind text rest → Token.ofText text = .ok t →
      IsReading gap text rest span (.ok ⟨gap, text, span, t⟩)
  | fault {fault : Fault} : Refused fault text rest →
      IsReading gap text rest span (.error ⟨fault, span⟩)

/-- A text that begins after `offset` bytes is a gap, or else a gap, a lexeme of which the first
reading is made, and a text that the other readings tile. -/
inductive Tiles : Nat → List Char → List (Except PlacedFault Scanned) → Prop where
  | gap {offset : Nat} {g : List Char} : (∀ x ∈ g, isGap x = true) → Tiles offset g []
  | lexeme {offset : Nat} {g text rest : List Char} {span : Span}
      {reading : Except PlacedFault Scanned} {readings : List (Except PlacedFault Scanned)} :
      (∀ x ∈ g, isGap x = true) → text ≠ [] → (∀ x ∈ text, isGap x = false) →
      span.start = offset + byteLength g → span.stop = span.start + byteLength text →
      IsReading g text rest span reading → Tiles span.stop rest readings →
      Tiles offset (g ++ (text ++ rest)) (reading :: readings)

/-- The place of what has been read. -/
def spanOf : Except PlacedFault Scanned → Span
  | .ok t => t.span
  | .error f => f.span

theorem IsReading.spanOf_eq {gap text rest : List Char} {span : Span}
    {reading : Except PlacedFault Scanned} (h : IsReading gap text rest span reading) :
    spanOf reading = span := by
  cases h <;> rfl

theorem IsReading.of_ok {gap text rest : List Char} {span : Span} {t : Scanned}
    (h : IsReading gap text rest span (.ok t)) :
    t.text = text ∧ IsLongest t.token.kind text rest ∧ Token.ofText text = .ok t.token := by
  cases h with
  | token hlongest htext => exact ⟨rfl, hlongest, htext⟩

theorem IsReading.of_error {gap text rest : List Char} {span : Span} {f : PlacedFault}
    (h : IsReading gap text rest span (.error f)) : Refused f.fault text rest := by
  cases h with
  | fault hrefused => exact hrefused

/-- What is read of the first lexeme of a text. -/
theorem isReading_splitAfter (gap : List Char) (c : Char) (cs : List Char) (span : Span) :
    IsReading gap (c :: (splitAfter c cs).1) (splitAfter c cs).2 span
      (match Token.ofText (c :: (splitAfter c cs).1) with
        | .ok t => .ok ⟨gap, c :: (splitAfter c cs).1, span, t⟩
        | .error fault => .error ⟨fault, span⟩) := by
  rcases isLongest_or_startsNothing c cs with ⟨kind, hlongest⟩ | ⟨hnothing, hsplit⟩
  · rcases hlongest.ofText with ⟨t, hok, rfl⟩ | ⟨fault, herror, hrefused⟩
    · simp only [hok]
      exact .token hlongest hok
    · simp only [herror]
      exact .fault hrefused
  · simp only [hsplit, hnothing.ofText]
    exact .fault (.character hnothing)

/-- A text is tiled by what is read of its lexemes. -/
theorem tiles_readFrom (cs : List Char) (offset : Nat) :
    Tiles offset cs (readFrom offset (lexemes cs)) := by
  induction cs using lexemes_induction generalizing offset with
  | gap g hg =>
    rw [lexemes_of_isGap hg]
    exact .gap hg
  | lexeme g c cs hg hc ih =>
    have htext : ∀ x ∈ c :: (splitAfter c cs).1, isGap x = false :=
      List.forall_mem_cons.mpr ⟨hc, fun _ => isGap_of_mem_splitAfter⟩
    have hsplit : c :: cs = c :: (splitAfter c cs).1 ++ (splitAfter c cs).2 := by
      rw [List.cons_append, splitAfter_append]
    rw [lexemes_gap_append hg hc, hsplit]
    exact .lexeme hg (List.cons_ne_nil _ _) htext rfl rfl (isReading_splitAfter g c cs _) (ih _)

theorem tiles_read (cs : List Char) : Tiles 0 cs (read cs) := tiles_readFrom cs 0

theorem byteLength_pos {cs : List Char} (h : cs ≠ []) : 0 < byteLength cs := by
  cases cs with
  | nil => exact absurd rfl h
  | cons c cs => exact Nat.add_pos_left c.utf8Size_pos _

namespace Tiles

variable {offset : Nat} {cs : List Char} {readings : List (Except PlacedFault Scanned)}

theorem offset_le (h : Tiles offset cs readings) :
    ∀ r ∈ readings, offset ≤ (spanOf r).start := by
  induction h with
  | gap => exact nofun
  | lexeme _ _ _ hstart hstop hreading _ ih =>
    refine List.forall_mem_cons.mpr ⟨?_, fun r hr => ?_⟩
    · rw [hreading.spanOf_eq]
      omega
    · have := ih r hr
      omega

theorem start_lt_stop (h : Tiles offset cs readings) :
    ∀ r ∈ readings, (spanOf r).start < (spanOf r).stop := by
  induction h with
  | gap => exact nofun
  | lexeme _ hne _ _ hstop hreading _ ih =>
    refine List.forall_mem_cons.mpr ⟨?_, ih⟩
    have := byteLength_pos hne
    rw [hreading.spanOf_eq]
    omega

/-- Every reading ends before the next begins. -/
theorem pairwise (h : Tiles offset cs readings) :
    readings.Pairwise fun a b => (spanOf a).stop ≤ (spanOf b).start := by
  induction h with
  | gap => exact .nil
  | lexeme _ _ _ _ _ hreading htail ih =>
    refine List.pairwise_cons.mpr ⟨fun r hr => ?_, ih⟩
    rw [hreading.spanOf_eq]
    exact htail.offset_le r hr

/-- Every reading begins before the next. -/
theorem pairwise_start (h : Tiles offset cs readings) :
    readings.Pairwise fun a b => (spanOf a).start < (spanOf b).start := by
  refine h.pairwise.imp_of_mem fun {a b} ha _ hle => ?_
  have := h.start_lt_stop a ha
  omega

theorem eq_of_start_eq (h : Tiles offset cs readings) {a b : Except PlacedFault Scanned}
    (ha : a ∈ readings) (hb : b ∈ readings) (hab : (spanOf a).start = (spanOf b).start) :
    a = b := by
  have hstarts : readings.Pairwise fun a b => (spanOf a).start = (spanOf b).start → a = b :=
    h.pairwise_start.imp fun hlt heq => absurd heq (Nat.ne_of_lt hlt)
  refine hstarts.forall_of_forall_of_flip (fun _ _ _ => rfl) ?_ ha hb hab
  exact h.pairwise_start.imp fun hlt heq => absurd heq (Nat.ne_of_gt hlt)

/-- A reading is that of a lexeme which stands in the text. -/
theorem exists_isReading (h : Tiles offset cs readings) :
    ∀ r ∈ readings, ∃ before gap text rest, cs = before ++ (text ++ rest) ∧
      (spanOf r).start = offset + byteLength before ∧
      (spanOf r).stop = (spanOf r).start + byteLength text ∧
      IsReading gap text rest (spanOf r) r := by
  induction h with
  | gap => exact nofun
  | @lexeme offset g text rest span reading _ _ _ _ hstart hstop hreading _ ih =>
    refine List.forall_mem_cons.mpr ⟨?_, fun r hr => ?_⟩
    · rw [hreading.spanOf_eq]
      exact ⟨g, g, text, rest, rfl, hstart, hstop, hreading⟩
    · obtain ⟨before, gap, text', rest', rfl, hstart', hstop', hreading'⟩ := ih r hr
      refine ⟨g ++ (text ++ before), gap, text', rest', by simp, ?_, hstop', hreading'⟩
      simp only [byteLength_append]
      omega

end Tiles

/-! ## Bytes -/

/-- The character to which a byte of a text belongs. -/
def charAtByte? : List Char → Nat → Option Char
  | [], _ => none
  | c :: cs, i => if i < c.utf8Size then some c else charAtByte? cs (i - c.utf8Size)

theorem exists_charAtByte? {cs : List Char} {i : Nat} (hi : i < byteLength cs) (r : List Char) :
    ∃ c ∈ cs, charAtByte? (cs ++ r) i = some c := by
  induction cs generalizing i with
  | nil => exact absurd hi (Nat.not_lt_zero i)
  | cons c cs ih =>
    have hlength : byteLength (c :: cs) = c.utf8Size + byteLength cs := rfl
    by_cases hc : i < c.utf8Size
    · exact ⟨c, List.mem_cons_self, if_pos hc⟩
    · obtain ⟨d, hd, hbyte⟩ := ih (i := i - c.utf8Size) (by omega)
      refine ⟨d, List.mem_cons_of_mem c hd, ?_⟩
      rw [List.cons_append, charAtByte?, if_neg hc, hbyte]

theorem charAtByte?_append {cs : List Char} {i : Nat} (hi : byteLength cs ≤ i) (r : List Char) :
    charAtByte? (cs ++ r) i = charAtByte? r (i - byteLength cs) := by
  induction cs generalizing i with
  | nil => rfl
  | cons c cs ih =>
    have hlength : byteLength (c :: cs) = c.utf8Size + byteLength cs := rfl
    rw [List.cons_append, charAtByte?, if_neg (by omega), ih (by omega), hlength, Nat.sub_sub]

/-- A byte lies in a reading just when it belongs to no gap. -/
theorem Tiles.covers_iff {offset : Nat} {cs : List Char}
    {readings : List (Except PlacedFault Scanned)} (h : Tiles offset cs readings) :
    ∀ i < byteLength cs, ∃ c, charAtByte? cs i = some c ∧
      ((∃ r ∈ readings, (spanOf r).start ≤ offset + i ∧ offset + i < (spanOf r).stop) ↔
        isGap c = false) := by
  induction h with
  | @gap _ g hg =>
    intro i hi
    obtain ⟨c, hc, hbyte⟩ := exists_charAtByte? hi []
    rw [List.append_nil] at hbyte
    exact ⟨c, hbyte, iff_of_false nofun (by simp [hg c hc])⟩
  | @lexeme offset g text rest span reading readings hg _ htext hstart hstop hreading htail ih =>
    intro i hi
    simp only [List.exists_mem_cons_iff, hreading.spanOf_eq]
    simp only [byteLength_append] at hi
    have hlater := htail.offset_le
    -- The byte belongs to the gap, to the lexeme or to the rest.
    by_cases hgap : i < byteLength g
    · obtain ⟨c, hc, hbyte⟩ := exists_charAtByte? hgap (text ++ rest)
      refine ⟨c, hbyte, iff_of_false ?_ (by simp [hg c hc])⟩
      rintro (⟨hle, -⟩ | ⟨r, hr, hle, -⟩)
      · omega
      · have := hlater r hr
        omega
    · rw [charAtByte?_append (by omega)]
      by_cases hlexeme : i - byteLength g < byteLength text
      · obtain ⟨c, hc, hbyte⟩ := exists_charAtByte? hlexeme rest
        exact ⟨c, hbyte, iff_of_true (.inl ⟨by omega, by omega⟩) (htext c hc)⟩
      · rw [charAtByte?_append (by omega)]
        obtain ⟨c, hbyte, hcovered⟩ := ih (i - byteLength g - byteLength text) (by omega)
        refine ⟨c, hbyte, Iff.trans ?_ hcovered⟩
        have hsame : span.stop + (i - byteLength g - byteLength text) = offset + i := by omega
        rw [hsame, or_iff_right]
        rintro ⟨-, hlt⟩
        omega

theorem byteLength_eq_utf8ByteSize (cs : List Char) :
    byteLength cs = (String.ofList cs).utf8ByteSize := by
  rw [String.utf8ByteSize_ofList]
  induction cs with
  | nil => rfl
  | cons c cs ih =>
    rw [String.utf8Len_cons, ← ih, Nat.add_comm]
    rfl

/-- Where a part of a text ends, a character ends. -/
theorem isValid_byteLength {source : String} {before after : List Char}
    (h : source.toList = before ++ after) :
    String.Pos.Raw.IsValid source ⟨byteLength before⟩ := by
  rw [String.Pos.Raw.isValid_iff_exists_append]
  refine ⟨String.ofList before, String.ofList after, ?_, ?_⟩
  · rw [← String.ofList_append, ← h, String.ofList_toList]
  · rw [byteLength_eq_utf8ByteSize]
    rfl

/-! ## Places -/

/-- The places of the tokens and the faults of a text, in the order in which they begin. -/
def places (cs : List Char) : List Span :=
  ((tokens cs).map (·.span) ++ (faults cs).map (·.span)).mergeSort
    fun a b => decide (a.start ≤ b.start)

theorem perm_map_spanOf (readings : List (Except PlacedFault Scanned)) :
    ((readings.filterMap fun | .ok t => some t | .error _ => none).map (·.span) ++
      (readings.filterMap fun | .ok _ => none | .error f => some f).map (·.span)).Perm
        (readings.map spanOf) := by
  induction readings with
  | nil => exact .nil
  | cons r readings ih =>
    cases r with
    | ok t => exact ih.cons t.span
    | error f => exact List.perm_middle.trans (ih.cons f.span)

theorem places_eq_map_spanOf (cs : List Char) : places cs = (read cs).map spanOf := by
  have htiles := tiles_read cs
  have hperm := (List.mergeSort_perm _ fun a b => decide (a.start ≤ b.start)).trans
    (perm_map_spanOf (read cs))
  have hsorted : (places cs).Pairwise fun a b => decide (a.start ≤ b.start) = true :=
    List.pairwise_mergeSort (by simp only [decide_eq_true_iff]; omega)
      (by simp only [Bool.or_eq_true, decide_eq_true_iff]; omega) _
  refine List.Perm.eq_of_pairwise ?_ hsorted ?_ hperm
  · intro a b ha hb hab hba
    obtain ⟨r, hr, rfl⟩ := List.mem_map.mp (hperm.mem_iff.mp ha)
    obtain ⟨q, hq, rfl⟩ := List.mem_map.mp hb
    rw [decide_eq_true_iff] at hab hba
    rw [htiles.eq_of_start_eq hr hq (Nat.le_antisymm hab hba)]
  · rw [List.pairwise_map]
    exact htiles.pairwise_start.imp fun hlt => decide_eq_true (Nat.le_of_lt hlt)

/-! ## The text of a token by itself -/

theorem TokenKind.Admits.lexemes_eq {kind : TokenKind} {text : List Char}
    (h : kind.Admits text) : lexemes text = [⟨[], text⟩] := by
  cases text with
  | nil => exact absurd rfl h.ne_nil
  | cons c cs =>
    have hc : isGap c = false := h.isGap_eq_false List.mem_cons_self
    have happend := splitAfter_append c cs
    have hbegins : (splitAfter c cs).1 <+: cs := ⟨_, happend⟩
    have hfirst : (splitAfter c cs).1 = cs := by
      apply hbegins.eq_of_length_le
      have hlength := (h.prefix_lexeme List.prefix_rfl).length_le
      simpa using hlength
    have hrest : (splitAfter c cs).2 = [] := by
      rw [hfirst] at happend
      exact List.append_right_eq_self.mp happend
    rw [lexemes_cons cs hc, hfirst, hrest, lexemes_nil]

/-- The text of a token is read as that token alone. -/
theorem TokenKind.Admits.read_eq {kind : TokenKind} {text : List Char} (h : kind.Admits text)
    {t : Token} (ht : Token.ofText text = .ok t) :
    read text = [.ok ⟨[], text, ⟨0, byteLength text⟩, t⟩] := by
  have hstop : 0 + byteLength [] + byteLength text = byteLength text := Nat.zero_add _
  rw [read, h.lexemes_eq]
  simp only [readFrom, ht, hstop]
  rfl

theorem tokens_and_faults_of_read {cs : List Char} {t : Scanned} (h : read cs = [.ok t]) :
    tokens cs = [t] ∧ faults cs = [] := by
  rw [tokens, faults, h]
  exact ⟨rfl, rfl⟩

theorem mem_tokens_iff {cs : List Char} {t : Scanned} : t ∈ tokens cs ↔ .ok t ∈ read cs := by
  rw [tokens, List.mem_filterMap]
  constructor
  · rintro ⟨r, hr, hrt⟩
    cases r with
    | ok u => cases hrt; exact hr
    | error f => cases hrt
  · exact fun h => ⟨_, h, rfl⟩

theorem mem_faults_iff {cs : List Char} {f : PlacedFault} :
    f ∈ faults cs ↔ .error f ∈ read cs := by
  rw [faults, List.mem_filterMap]
  constructor
  · rintro ⟨r, hr, hrf⟩
    cases r with
    | ok u => cases hrf
    | error g => cases hrf; exact hr
  · exact fun h => ⟨_, h, rfl⟩

/-! ## The tiling -/

/-- The text stands at the span, and `rest` stands after it. -/
def Span.Cuts (s : Span) (cs text rest : List Char) : Prop :=
  ∃ before, cs = before ++ (text ++ rest) ∧ s.start = byteLength before ∧
    s.stop = s.start + byteLength text

theorem Span.Cuts.isValid {s : Span} {source : String} {text rest : List Char}
    (h : s.Cuts source.toList text rest) :
    String.Pos.Raw.IsValid source ⟨s.start⟩ ∧ String.Pos.Raw.IsValid source ⟨s.stop⟩ := by
  obtain ⟨before, hsource, hstart, hstop⟩ := h
  rw [hstop, hstart, ← byteLength_append]
  refine ⟨isValid_byteLength hsource, ?_⟩
  exact isValid_byteLength (hsource.trans (List.append_assoc _ _ _).symm)

/-- What is read of a text stands at its place in the text. -/
theorem exists_cuts_of_mem_read {cs : List Char} {r : Except PlacedFault Scanned}
    (h : r ∈ read cs) :
    ∃ gap text rest, (spanOf r).Cuts cs text rest ∧ IsReading gap text rest (spanOf r) r := by
  obtain ⟨before, gap, text, rest, hcs, hstart, hstop, hreading⟩ :=
    (tiles_read cs).exists_isReading r h
  exact ⟨gap, text, rest, ⟨before, hcs, hstart.trans (Nat.zero_add _), hstop⟩, hreading⟩

/-- The places of the tokens and the faults of a text follow one another. They are not empty, they
begin and end where characters do, and of the bytes of the text they leave out just those of gaps.
A token has the longest text that any token has at its place, which is a dice term if one stands
there, and that text by itself is read as that token. A fault is a longest dice term or number whose
value has no room, or one character that begins no token. -/
theorem tokens_and_faults_tile (source : String) :
    (places source.toList).Pairwise (fun a b => a.stop ≤ b.start) ∧
    (∀ s ∈ places source.toList, s.start < s.stop ∧ String.Pos.Raw.IsValid source ⟨s.start⟩ ∧
      String.Pos.Raw.IsValid source ⟨s.stop⟩) ∧
    (∀ i < source.utf8ByteSize, ∃ c, charAtByte? source.toList i = some c ∧
      ((∃ s ∈ places source.toList, s.start ≤ i ∧ i < s.stop) ↔ isGap c = false)) ∧
    (∀ t ∈ tokens source.toList, ∃ rest, t.span.Cuts source.toList t.text rest ∧
      IsLongest t.token.kind t.text rest ∧
      (∀ more, TokenKind.dice.Admits more → more <+: t.text ++ rest → t.token.kind = .dice) ∧
      tokens t.text = [⟨[], t.text, ⟨0, byteLength t.text⟩, t.token⟩] ∧ faults t.text = []) ∧
    (∀ f ∈ faults source.toList, ∃ text rest, f.span.Cuts source.toList text rest ∧
      Refused f.fault text rest) := by
  have htiles := tiles_read source.toList
  rw [places_eq_map_spanOf]
  refine ⟨?_, ?_, ?_, ?_, ?_⟩
  · exact List.pairwise_map.mpr htiles.pairwise
  · refine List.forall_mem_map.mpr fun r hr => ⟨htiles.start_lt_stop r hr, ?_⟩
    obtain ⟨-, text, rest, hcuts, -⟩ := exists_cuts_of_mem_read hr
    exact hcuts.isValid
  · intro i hi
    rw [← String.ofList_toList (s := source), ← byteLength_eq_utf8ByteSize] at hi
    obtain ⟨c, hbyte, hcovered⟩ := htiles.covers_iff i hi
    simp only [Nat.zero_add] at hcovered
    refine ⟨c, hbyte, ?_⟩
    simpa using hcovered
  · intro t ht
    obtain ⟨gap, text, rest, hcuts, hreading⟩ := exists_cuts_of_mem_read (mem_tokens_iff.mp ht)
    obtain ⟨rfl, hlongest, htext⟩ := hreading.of_ok
    exact ⟨rest, hcuts, hlongest, fun _ => hlongest.kind_eq_dice,
      tokens_and_faults_of_read (hlongest.admitted.read_eq htext)⟩
  · intro f hf
    obtain ⟨gap, text, rest, hcuts, hreading⟩ := exists_cuts_of_mem_read (mem_faults_iff.mp hf)
    exact ⟨text, rest, hcuts, hreading.of_error⟩

end CriticalDamage.Dice
