import CriticalDamage.Proofs.InstanceDamage
import CriticalDamage.Proofs.PrintedTokens
import CriticalDamage.Proofs.SignedTerms

/-!
# Whole numbers as instances

An instance of damage may be a whole number, which is written out and read as a sum. Its numeral is
one token, or two with a minus sign (`wholeTokens`). The sign is no part of the number that is read,
so the magnitude must itself be an amount: every amount is read back from its numeral but the least,
whose magnitude is one more than the greatest amount (`read_integer`). The components of an
instance follow from there (`ofEntry_of_holdsWhole`).
-/

namespace CriticalDamage

namespace Dice

/-- The tokens of a whole number. -/
def wholeTokens (n : Int) : List Token :=
  if n < 0 then [.symbol .minus, .number n.natAbs] else [.number n.natAbs]

theorem map_text_lexemes_integer (n : Int) :
    (lexemes (Decimal.integer n)).map (·.text) = (wholeTokens n).map Token.chars := by
  have hnatural : TokenKind.number.Admits (Decimal.natural n.natAbs) :=
    Token.admits_chars (Token.isFormed_number n.natAbs)
  rw [Decimal.integer, wholeTokens]
  split
  · have hminus := lexemes_symbol .minus (Decimal.natural n.natAbs)
    rw [hnatural.lexemes_eq] at hminus
    exact congrArg (List.map (·.text)) hminus
  · rw [hnatural.lexemes_eq]
    rfl

theorem tokens_integer {n : Int} (h : n.natAbs < Width.signed64) :
    faults (Decimal.integer n) = [] ∧
      (tokens (Decimal.integer n)).map (·.token) = wholeTokens n := by
  refine tokens_of_map_text ?_ (map_text_lexemes_integer n)
  rw [wholeTokens]
  split <;> simpa using h

theorem wholeTokens_ne_nil (n : Int) : wholeTokens n ≠ [] := by
  rw [wholeTokens]
  split <;> exact List.cons_ne_nil _ _

namespace Additive

/-- The magnitude of an amount with the amount's sign adds up to that amount, but that of the least
amount has no room. -/
theorem addNumber?_natAbs {n : Amount} {positive : Bool}
    (hsign : n.val = if positive then (n.val.natAbs : Int) else -n.val.natAbs) :
    addNumber? 0 positive n.val.natAbs = if n.val = -2147483648 then none else some n := by
  have hle := n.le
  have hlt := n.lt
  have hwidth : Width.signed32 = 2147483648 := rfl
  split
  · next hleast =>
    rw [addNumber?, if_neg]
    omega
  · refine addNumber?_eq_some_iff.mpr ⟨by omega, ?_⟩
    rw [← hsign]
    exact (Int.zero_add _).symm

theorem readTerms_number {positive : Bool} {flat : Amount} {n : Nat} :
    readTerms (some positive) flat [.number n] =
      match addNumber? flat positive n with
      | some flat => .ok ⟨[], flat⟩
      | none => .error (.overflow n) := rfl

theorem readTerms_wholeTokens (n : Amount) :
    readTerms (some true) 0 (wholeTokens n.val) =
      if n.val = -2147483648 then .error (.overflow 2147483648) else .ok ⟨[], n⟩ := by
  -- The minus sign only turns the sign that is read with the number.
  have hread : ∀ positive, (n.val = if positive then (n.val.natAbs : Int) else -n.val.natAbs) →
      readTerms (some positive) 0 [.number n.val.natAbs] =
        if n.val = -2147483648 then .error (.overflow 2147483648) else .ok ⟨[], n⟩ := by
    intro positive hsign
    rw [readTerms_number, addNumber?_natAbs hsign]
    by_cases hleast : n.val = -2147483648
    · rw [if_pos hleast, if_pos hleast, hleast]
      rfl
    · rw [if_neg hleast, if_neg hleast]
  rw [wholeTokens]
  split
  · next hneg =>
    refine hread false ?_
    rw [if_neg Bool.false_ne_true]
    omega
  · next hnonneg =>
    refine hread true ?_
    rw [if_pos rfl]
    omega

theorem readChars_eq_readTerms {cs : List Char} (hfaults : faults cs = [])
    (hne : (tokens cs).map (·.token) ≠ []) :
    readChars cs = readTerms (some true) 0 ((tokens cs).map (·.token)) := by
  rw [readChars, scan_eq_tokens hfaults]
  cases htokens : tokens cs with
  | nil => rw [htokens] at hne; exact absurd rfl hne
  | cons => rfl

/-- An amount is read back from its numeral, unless it is the least one. -/
theorem read_integer (n : Amount) :
    read (String.ofList (Decimal.integer n.val)) =
      if n.val = -2147483648 then
        .error ⟨String.ofList (Decimal.integer n.val), .overflow 2147483648⟩
      else .ok ⟨[], n⟩ := by
  have hmagnitude : n.val.natAbs < Width.signed64 := by
    have hle := n.le
    have hlt := n.lt
    have hwidth : Width.signed64 = 9223372036854775808 := rfl
    omega
  obtain ⟨hfaults, htokens⟩ := tokens_integer hmagnitude
  have hchars := readChars_eq_readTerms hfaults (htokens ▸ wholeTokens_ne_nil n.val)
  rw [read, String.toList_ofList, hchars, htokens, readTerms_wholeTokens]
  by_cases hleast : n.val = -2147483648
  · rw [if_pos hleast, if_pos hleast]
  · rw [if_neg hleast, if_neg hleast]

end Additive

end Dice

namespace Instances

open Dice (Additive)

/-- Of the names under which an instance may have its expression, the first that holds a text or a
number holds the whole number. -/
def HoldsWhole (entry : Document) (n : Int) : Prop :=
  ∃ before name after, ["formula", "damage", "value"] = before ++ name :: after ∧
    entry.get? name = some (.whole n) ∧
    ∀ other ∈ before, ∀ d, entry.get? other = some d → d.text? = none ∧ d.isNumber = false

theorem expression?_of_holdsWhole {entry : Document} {n : Int} (h : HoldsWhole entry n) :
    entry.expression? = some (String.ofList (Decimal.integer n)) := by
  obtain ⟨before, name, after, hnames, hname, hbefore⟩ := h
  rw [Document.expression?, hnames, List.findSome?_append, List.findSome?_cons, hname]
  rw [Option.or_eq_right_of_none]
  refine List.findSome?_eq_none_iff.mpr fun other hother => ?_
  split
  · next s hs => cases (hbefore other hother _ hs).1
  · next m hm => cases (hbefore other hother _ hm).2
  · next x hx => cases (hbefore other hother _ hx).2
  · rfl

/-- What an instance that is an amount adds to a structure. -/
theorem ofEntry_of_holdsWhole {n : Amount} {entry : Document} (h : HoldsWhole entry n.val) :
    ofEntry entry =
      if n.val = -2147483648 then
        [⟨1, some ⟨4, by decide, by decide⟩, 0, type entry, category entry, false⟩]
      else if n = 0 then [] else [⟨0, none, n, type entry, category entry, false⟩] := by
  rw [ofEntry, expression?_of_holdsWhole h]
  dsimp only
  rw [parts, Additive.read_integer]
  by_cases hleast : n.val = -2147483648
  · rw [if_pos hleast, if_pos hleast]
    rfl
  · rw [if_neg hleast, if_neg hleast]
    rfl

/-- The components of an instance stand together among those of its record. -/
theorem exists_base_eq_append {key : String} {entry : Document}
    {fields : List (String × Document)} (h : (key, entry) ∈ fields) :
    ∃ before after, (toStructure (.record fields)).base = before ++ ofEntry entry ++ after := by
  have hsorted : (key, entry) ∈ sorted fields := (sorted_perm fields).mem_iff.mpr h
  obtain ⟨before, after, hsplit⟩ := List.append_of_mem hsorted
  refine ⟨before.flatMap fun f => ofEntry f.2, after.flatMap fun f => ofEntry f.2, ?_⟩
  rw [toStructure_record, hsplit, List.flatMap_append, List.flatMap_cons, List.append_assoc]

/-- An amount is read back from its numeral, without dice, unless it is the least one, which is
refused for its magnitude. An instance that is an amount therefore adds one component without dice
whose flat value is that amount, or none for zero, unless it is the least amount: that is taken for
one four-sided die. -/
theorem whole_instance_kept_iff (n : Amount) :
    (Additive.read (String.ofList (Decimal.integer n.val)) = .ok ⟨[], n⟩ ↔
      n.val ≠ -2147483648) ∧
    (n.val = -2147483648 → Additive.read (String.ofList (Decimal.integer n.val)) =
      .error ⟨String.ofList (Decimal.integer n.val), .overflow 2147483648⟩) ∧
    ∀ entry, HoldsWhole entry n.val →
      (∀ key fields, (key, entry) ∈ fields → ∃ before after,
        (toStructure (.record fields)).base = before ++ ofEntry entry ++ after) ∧
      (ofEntry entry = (if n = 0 then [] else
        [⟨0, none, n, type entry, category entry, false⟩]) ↔ n.val ≠ -2147483648) ∧
      (n.val = -2147483648 → ofEntry entry =
        [⟨1, some ⟨4, by decide, by decide⟩, 0, type entry, category entry, false⟩]) := by
  rw [Additive.read_integer]
  by_cases hleast : n.val = -2147483648
  · have hne : n ≠ 0 := by
      rintro rfl
      exact absurd hleast (by decide)
    rw [if_pos hleast]
    refine ⟨iff_of_false nofun fun h => h hleast, fun _ => rfl, fun entry hentry => ?_⟩
    have hcomponents := (ofEntry_of_holdsWhole hentry).trans (if_pos hleast)
    refine ⟨fun key fields => exists_base_eq_append, ?_, fun _ => hcomponents⟩
    rw [hcomponents, if_neg hne]
    exact iff_of_false nofun fun h => h hleast
  · rw [if_neg hleast]
    refine ⟨iff_of_true rfl hleast, fun h => absurd h hleast, fun entry hentry => ?_⟩
    have hcomponents := (ofEntry_of_holdsWhole hentry).trans (if_neg hleast)
    exact ⟨fun key fields => exists_base_eq_append, iff_of_true hcomponents hleast,
      fun h => absurd h hleast⟩

/-- The least amount but one is kept. -/
theorem whole_instance_kept_iff_penalty :
    let n : Amount := ⟨-2147483647, by decide, by decide⟩
    let entry : Document :=
      .record [("formula", .null), ("damage", .whole (-2147483647)), ("type", .text "force")]
    HoldsWhole entry n.val ∧ Additive.read "-2147483647" = .ok ⟨[], n⟩ ∧
      ofEntry entry = [⟨0, none, n, .ofName ['f', 'o', 'r', 'c', 'e'], .plain, false⟩] := by
  intro n entry
  have hholds : HoldsWhole entry n.val := by
    refine ⟨["formula"], "damage", ["value"], rfl, rfl, List.forall_mem_singleton.mpr ?_⟩
    rintro d ⟨⟩
    exact ⟨rfl, rfl⟩
  have hne : n.val ≠ -2147483648 := by decide
  have htext : String.ofList (Decimal.integer n.val) = "-2147483647" := by decide +kernel
  obtain ⟨hread, -, hentry⟩ := whole_instance_kept_iff n
  obtain ⟨-, hkept, -⟩ := hentry entry hholds
  refine ⟨hholds, ?_, ?_⟩
  · rw [← htext]
    exact hread.mpr hne
  · exact (hkept.mpr hne).trans (by decide +kernel)

/-- Not every amount is read back from its numeral, and not every instance that is an amount adds
it: the least one is lost. -/
theorem exists_whole_instance_lost :
    (¬∀ n : Amount, Additive.read (String.ofList (Decimal.integer n.val)) = .ok ⟨[], n⟩) ∧
    ¬∀ (n : Amount) (entry : Document), HoldsWhole entry n.val →
      ofEntry entry = if n = 0 then [] else
        [⟨0, none, n, type entry, category entry, false⟩] := by
  let n : Amount := ⟨-2147483648, by decide, by decide⟩
  let entry : Document := .record [("damage", .whole (-2147483648)), ("type", .text "force")]
  have hholds : HoldsWhole entry n.val := by
    refine ⟨["formula"], "damage", ["value"], rfl, rfl, List.forall_mem_singleton.mpr ?_⟩
    rintro d ⟨⟩
  constructor
  · intro h
    have hread := h n
    rw [Additive.read_integer, if_pos rfl] at hread
    cases hread
  · intro h
    have hentry := h n entry hholds
    rw [ofEntry_of_holdsWhole hholds, if_pos rfl, if_neg (by decide)] at hentry
    cases hentry

end Instances

end CriticalDamage
