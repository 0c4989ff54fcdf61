import CriticalDamage.Capture
import Mathlib.Data.Finset.Card
import Mathlib.Data.List.Infix

/-!
# Histories of captures

A history is a list of steps, each a record or a change of the configuration. The captures of a
store are the last records of their items, ordered by when these were made, and one of them stays as
long as fewer other items than the capacity in force have been recorded after it. The invariant
`Held` ties the place of a capture in the store to its place in the history; one step preserves it
(`Held.record`, `Held.configure`), so every run does (`held_run`), and `lookup_run` reads a look-up
off the history.
-/

namespace CriticalDamage.CaptureStore

/-! ## Histories -/

/-- What is done to a store. -/
inductive Step where
  | record (item : String) (damage : Structure) (time : Int)
  | configure (timeToLive : Int) (capacity : Nat)
deriving DecidableEq, Repr

def apply (s : CaptureStore) : Step → CaptureStore
  | .record item damage time => s.record item damage time
  | .configure timeToLive capacity => s.configure timeToLive capacity

def run (s : CaptureStore) (steps : List Step) : CaptureStore := steps.foldl apply s

def Step.item? : Step → Option String
  | .record item _ _ => some item
  | .configure _ _ => none

/-- The items that have been recorded. -/
def recordedItems (steps : List Step) : Finset String := (steps.filterMap Step.item?).toFinset

/-- The capacity of the last change of the configuration, or the first one. -/
def configuredCapacity (first : Nat) : List Step → Nat
  | [] => first
  | .record _ _ _ :: steps => configuredCapacity first steps
  | .configure _ capacity :: steps => configuredCapacity capacity steps

/-- The time to live of the last change of the configuration, or the first one. -/
def configuredTimeToLive (first : Int) : List Step → Int
  | [] => first
  | .record _ _ _ :: steps => configuredTimeToLive first steps
  | .configure timeToLive _ :: steps => configuredTimeToLive timeToLive steps

theorem recordedItems_append (a b : List Step) :
    recordedItems (a ++ b) = recordedItems a ∪ recordedItems b := by
  rw [recordedItems, List.filterMap_append, List.toFinset_append]
  rfl

theorem configuredCapacity_append (first : Nat) (a b : List Step) :
    configuredCapacity first (a ++ b) = configuredCapacity (configuredCapacity first a) b := by
  induction a generalizing first with
  | nil => rfl
  | cons x a ih => cases x <;> exact ih _

theorem recordedItems_concat_configure (steps : List Step) (timeToLive : Int) (capacity : Nat) :
    recordedItems (steps ++ [.configure timeToLive capacity]) = recordedItems steps := by
  rw [recordedItems_append]
  exact Finset.union_empty _

theorem recordedItems_concat_record (steps : List Step) (item : String) (damage : Structure)
    (time : Int) :
    recordedItems (steps ++ [.record item damage time]) = insert item (recordedItems steps) := by
  rw [recordedItems_append, Finset.insert_eq, Finset.union_comm]
  rfl

theorem timeToLive_run (s : CaptureStore) (steps : List Step) :
    (run s steps).timeToLive = configuredTimeToLive s.timeToLive steps := by
  induction steps generalizing s with
  | nil => rfl
  | cons x steps ih => cases x <;> exact ih _

/-! ## The newest captures -/

theorem newest_suffix (n : Nat) (l : List Capture) : newest n l <:+ l := List.drop_suffix _ l

theorem length_newest_le (n : Nat) (l : List Capture) : (newest n l).length ≤ n := by
  rw [newest, List.length_drop]
  omega

/-- Fewer than `n` captures are newer than one that stays among the newest `n`. -/
theorem newest_append_cons {n : Nat} (older : List Capture) (c : Capture) {newer : List Capture}
    (h : newer.length < n) : ∃ rest, newest n (older ++ c :: newer) = rest ++ c :: newer := by
  refine ⟨older.drop ((older ++ c :: newer).length - n), ?_⟩
  rw [newest, List.drop_append_of_le_length]
  simp only [List.length_append, List.length_cons]
  omega

/-- A capture among those of other items, and what stands around it. -/
theorem filter_eq_append_cons {p : Capture → Bool} {l older newer : List Capture} {c : Capture}
    (h : l.filter p = older ++ c :: newer) :
    p c = true ∧ ∃ l₁ l₂, l = l₁ ++ c :: l₂ ∧ l₂.filter p = newer := by
  obtain ⟨l₁, rest, rfl, -, hrest⟩ := List.filter_eq_append_iff.mp h
  obtain ⟨l₂, l₃, rfl, -, hc, hnewer⟩ := List.filter_eq_cons_iff.mp hrest
  exact ⟨hc, l₁ ++ l₂, l₃, by simp, hnewer⟩

/-- The items of captures. -/
def items (l : List Capture) : Finset String := (l.map (·.item)).toFinset

theorem card_items_le (l : List Capture) : (items l).card ≤ l.length := by
  rw [items, ← List.length_map (·.item)]
  exact List.toFinset_card_le _

theorem card_items {l : List Capture} (h : (l.map (·.item)).Nodup) : (items l).card = l.length := by
  rw [items, List.toFinset_card_of_nodup h, List.length_map]

theorem items_concat (l : List Capture) (c : Capture) :
    items (l ++ [c]) = insert c.item (items l) := by
  rw [items, List.map_append, List.toFinset_append, Finset.union_comm, Finset.insert_eq]
  rfl

theorem notMem_items_filter (l : List Capture) (item : String) :
    item ∉ items (l.filter (·.item ≠ item)) := by
  simp [items]

/-- Taking an item out of captures and putting it back. -/
theorem insert_items_filter (l : List Capture) (item : String) :
    insert item (items (l.filter (·.item ≠ item))) = insert item (items l) := by
  ext x
  simp only [items, Finset.mem_insert, List.mem_toFinset, List.mem_map, List.mem_filter,
    decide_eq_true_eq]
  constructor
  · rintro (rfl | ⟨c, ⟨hc, -⟩, rfl⟩)
    · exact .inl rfl
    · exact .inr ⟨c, hc, rfl⟩
  · rintro (rfl | ⟨c, hc, rfl⟩)
    · exact .inl rfl
    · by_cases h : c.item = item
      · exact .inl h
      · exact .inr ⟨c, ⟨hc, h⟩, rfl⟩

/-! ## What stays -/

def Step.ofCapture (c : Capture) : Step := .record c.item c.damage c.time

/-- After the steps `before` the capture was recorded, then came the steps `after`: these record
its item no more, and at no point as many other items as the capacity in force there. -/
structure Retained (first : Nat) (before : List Step) (c : Capture) (after : List Step) : Prop where
  last : c.item ∉ recordedItems after
  room : ∀ soFar, soFar <+: after → ((recordedItems soFar).erase c.item).card <
    max 1 (configuredCapacity first (before ++ .ofCapture c :: soFar))

theorem Retained.nil (first : Nat) (before : List Step) (c : Capture) :
    Retained first before c [] := by
  refine ⟨by simp [recordedItems], fun soFar h => ?_⟩
  rw [List.prefix_nil.mp h]
  simp [recordedItems]

theorem retained_concat {first : Nat} {before after : List Step} {c : Capture} {x : Step} :
    Retained first before c (after ++ [x]) ↔
      Retained first before c after ∧ c.item ∉ recordedItems (after ++ [x]) ∧
        (recordedItems (after ++ [x])).card <
          max 1 (configuredCapacity first (before ++ .ofCapture c :: (after ++ [x]))) := by
  constructor
  · intro h
    refine ⟨⟨fun hmem => h.last ?_, fun soFar hs => h.room soFar ?_⟩, h.last, ?_⟩
    · rw [recordedItems_append]
      exact Finset.mem_union_left _ hmem
    · exact hs.trans (List.prefix_append after [x])
    · have := h.room _ List.prefix_rfl
      rwa [Finset.erase_eq_of_notMem h.last] at this
  · rintro ⟨h, hlast, hroom⟩
    refine ⟨hlast, fun soFar hs => ?_⟩
    rcases List.prefix_concat_iff.mp hs with rfl | hs
    · rwa [Finset.erase_eq_of_notMem hlast]
    · exact h.room soFar hs

/-- A history that ends with the step `x` and in which a capture was recorded. -/
theorem concat_eq_append_cons {steps before after : List Step} {x y : Step}
    (h : steps ++ [x] = before ++ y :: after) :
    (after = [] ∧ before = steps ∧ y = x) ∨
      ∃ rest, after = rest ++ [x] ∧ steps = before ++ y :: rest := by
  rcases List.eq_nil_or_concat' after with rfl | ⟨rest, z, rfl⟩
  · obtain ⟨hsteps, hx⟩ := List.append_inj' h rfl
    cases hx
    exact .inl ⟨rfl, hsteps.symm, rfl⟩
  · rw [← List.cons_append, ← List.append_assoc] at h
    obtain ⟨hsteps, hx⟩ := List.append_inj' h rfl
    cases hx
    exact .inr ⟨rest, rfl, hsteps⟩

/-- The captures of a store after a history: they are the last records that have been retained, and
those newer than one are of the items recorded after it. -/
structure Held (first : Nat) (steps : List Step) (s : CaptureStore) : Prop where
  capacity_eq : s.capacity = max 1 (configuredCapacity first steps)
  length_le : s.captures.length ≤ s.capacity
  nodup : (s.captures.map (·.item)).Nodup
  sound : ∀ {older : List Capture} {c : Capture} {newer : List Capture},
    s.captures = older ++ c :: newer → ∃ before after, steps = before ++ .ofCapture c :: after ∧
      Retained first before c after ∧ items newer = recordedItems after
  complete : ∀ {before : List Step} {c : Capture} {after : List Step},
    steps = before ++ .ofCapture c :: after → Retained first before c after →
      ∃ older newer, s.captures = older ++ c :: newer ∧ items newer = recordedItems after

theorem held_new (timeToLive : Int) (capacity : Nat) :
    Held capacity [] (new timeToLive capacity) where
  capacity_eq := Nat.max_comm capacity 1
  length_le := Nat.zero_le _
  nodup := List.nodup_nil
  sound h := by simp [new] at h
  complete h := by simp at h

/-! ## One step more -/

theorem capacity_configure (s : CaptureStore) (first : Nat) (steps : List Step) (timeToLive : Int)
    (capacity : Nat) : (s.configure timeToLive capacity).capacity =
      max 1 (configuredCapacity first (steps ++ [.configure timeToLive capacity])) := by
  rw [configuredCapacity_append]
  exact Nat.max_comm capacity 1

section

variable {first : Nat} {steps : List Step} {s : CaptureStore} (h : Held first steps s)
include h

theorem Held.one_le_capacity : 1 ≤ s.capacity := by
  rw [h.capacity_eq]
  exact Nat.le_max_left _ _

theorem Held.capacity_record (item : String) (damage : Structure) (time : Int) :
    (s.record item damage time).capacity =
      max 1 (configuredCapacity first (steps ++ [.record item damage time])) := by
  rw [configuredCapacity_append]
  exact h.capacity_eq

theorem Held.nodup_newer {older newer : List Capture} {c : Capture}
    (hcaptures : s.captures = older ++ c :: newer) : (newer.map (·.item)).Nodup := by
  have hnodup := h.nodup
  rw [hcaptures, List.map_append, List.map_cons] at hnodup
  exact hnodup.of_append_right.of_cons

/-- What is still there after a change of the configuration has been retained. -/
theorem Held.sound_configure (timeToLive : Int) (capacity : Nat) {older newer : List Capture}
    {c : Capture} (hnewest : newest (max capacity 1) s.captures = older ++ c :: newer) :
    ∃ before after, steps ++ [.configure timeToLive capacity] = before ++ .ofCapture c :: after ∧
      Retained first before c after ∧ items newer = recordedItems after := by
  obtain ⟨rest, hrest⟩ := newest_suffix (max capacity 1) s.captures
  have hcaptures : s.captures = rest ++ older ++ c :: newer := by
    rw [← hrest, List.append_assoc, hnewest]
  obtain ⟨before, after, rfl, hret, hnewer⟩ := h.sound hcaptures
  have hitems := recordedItems_concat_configure after timeToLive capacity
  have hcapacity := capacity_configure s first (before ++ .ofCapture c :: after) timeToLive capacity
  have hroom : (items newer).card < max capacity 1 := by
    have hlength := length_newest_le (max capacity 1) s.captures
    rw [hnewest, List.length_append, List.length_cons] at hlength
    have := card_items_le newer
    omega
  rw [List.append_assoc, List.cons_append] at hcapacity
  refine ⟨before, after ++ [.configure timeToLive capacity], by simp, ?_, by rw [hitems, hnewer]⟩
  refine retained_concat.mpr ⟨hret, hitems ▸ hret.last, ?_⟩
  rw [hitems, ← hnewer, ← hcapacity]
  exact hroom

/-- What has been retained is still there after a change of the configuration. -/
theorem Held.complete_configure (timeToLive : Int) (capacity : Nat) {before after : List Step}
    {c : Capture}
    (hsteps : steps ++ [.configure timeToLive capacity] = before ++ .ofCapture c :: after)
    (hret : Retained first before c after) :
    ∃ older newer, newest (max capacity 1) s.captures = older ++ c :: newer ∧
      items newer = recordedItems after := by
  rcases concat_eq_append_cons hsteps with ⟨-, -, hstep⟩ | ⟨rest, rfl, rfl⟩
  · cases hstep
  · obtain ⟨hret, -, hroom⟩ := retained_concat.mp hret
    obtain ⟨older, newer, hcaptures, hnewer⟩ := h.complete rfl hret
    have hitems := recordedItems_concat_configure rest timeToLive capacity
    have hcapacity :=
      capacity_configure s first (before ++ .ofCapture c :: rest) timeToLive capacity
    rw [List.append_assoc, List.cons_append] at hcapacity
    rw [hitems, ← hnewer, card_items (h.nodup_newer hcaptures), ← hcapacity] at hroom
    obtain ⟨kept, hkept⟩ := newest_append_cons older c hroom
    refine ⟨kept, newer, ?_, by rw [hitems, hnewer]⟩
    rw [← hkept, ← hcaptures]
    rfl

theorem Held.configure (timeToLive : Int) (capacity : Nat) :
    Held first (steps ++ [.configure timeToLive capacity]) (s.configure timeToLive capacity) where
  capacity_eq := capacity_configure s first steps timeToLive capacity
  length_le := length_newest_le _ _
  nodup := h.nodup.sublist ((newest_suffix _ _).sublist.map _)
  sound := h.sound_configure timeToLive capacity
  complete := h.complete_configure timeToLive capacity

/-- What is still there after a record has been retained. -/
theorem Held.sound_record (item : String) (damage : Structure) (time : Int)
    {older newer : List Capture} {c : Capture}
    (hnewest : (s.record item damage time).captures = older ++ c :: newer) :
    ∃ before after, steps ++ [.record item damage time] = before ++ .ofCapture c :: after ∧
      Retained first before c after ∧ items newer = recordedItems after := by
  rcases List.eq_nil_or_concat' newer with rfl | ⟨init, z, rfl⟩
  · obtain ⟨-, hc⟩ := List.append_inj' hnewest rfl
    cases hc
    exact ⟨steps, [], rfl, .nil first steps _, rfl⟩
  · rw [← List.cons_append, ← List.append_assoc] at hnewest
    obtain ⟨hkept, hz⟩ := List.append_inj' hnewest rfl
    cases hz
    have hlength := length_newest_le (s.capacity - 1) (s.captures.filter (·.item ≠ item))
    obtain ⟨rest, hrest⟩ := newest_suffix (s.capacity - 1) (s.captures.filter (·.item ≠ item))
    rw [hkept, List.length_append, List.length_cons] at hlength
    rw [hkept, ← List.append_assoc] at hrest
    obtain ⟨hc, l₁, l₂, hcaptures, hinit⟩ := filter_eq_append_cons hrest.symm
    obtain ⟨before, after, rfl, hret, hnewer⟩ := h.sound hcaptures
    have hrecorded := recordedItems_concat_record after item damage time
    have hafter : recordedItems (after ++ [.record item damage time]) =
        insert item (items init) := by
      rw [hrecorded, ← hnewer, ← hinit, insert_items_filter]
    have hcapacity := h.capacity_record item damage time
    rw [List.append_assoc, List.cons_append] at hcapacity
    have hroom : (insert item (items init)).card < s.capacity := by
      have hinsert := Finset.card_insert_le item (items init)
      have hcard := card_items_le init
      have hpos := h.one_le_capacity
      omega
    refine ⟨before, after ++ [.record item damage time], by simp,
      retained_concat.mpr ⟨hret, ?_, ?_⟩, by rw [hafter, items_concat]⟩
    · rw [hrecorded, Finset.mem_insert, not_or]
      exact ⟨by simpa using hc, hret.last⟩
    · rw [hafter, ← hcapacity]
      exact hroom

/-- What has been retained is still there after a record. -/
theorem Held.complete_record (item : String) (damage : Structure) (time : Int)
    {before after : List Step} {c : Capture}
    (hsteps : steps ++ [.record item damage time] = before ++ .ofCapture c :: after)
    (hret : Retained first before c after) :
    ∃ older newer, (s.record item damage time).captures = older ++ c :: newer ∧
      items newer = recordedItems after := by
  rcases concat_eq_append_cons hsteps with ⟨rfl, rfl, hstep⟩ | ⟨rest, rfl, rfl⟩
  · cases c
    cases hstep
    exact ⟨_, [], rfl, rfl⟩
  · obtain ⟨hret, hlast, hroom⟩ := retained_concat.mp hret
    obtain ⟨older, newer, hcaptures, hnewer⟩ := h.complete rfl hret
    have hrecorded := recordedItems_concat_record rest item damage time
    have hc : c.item ≠ item := by
      rw [hrecorded, Finset.mem_insert, not_or] at hlast
      exact hlast.1
    have hothers : s.captures.filter (·.item ≠ item) =
        older.filter (·.item ≠ item) ++ c :: newer.filter (·.item ≠ item) := by
      rw [hcaptures, List.filter_append, List.filter_cons_of_pos (by simpa using hc)]
    have hnodup : ((newer.filter (·.item ≠ item)).map (·.item)).Nodup :=
      (h.nodup_newer hcaptures).sublist (List.filter_sublist.map _)
    have hrest : recordedItems (rest ++ [.record item damage time]) =
        insert item (items (newer.filter (·.item ≠ item))) := by
      rw [hrecorded, ← hnewer, insert_items_filter]
    have hcapacity := h.capacity_record item damage time
    rw [List.append_assoc, List.cons_append] at hcapacity
    rw [hrest, Finset.card_insert_of_notMem (notMem_items_filter newer item), card_items hnodup,
      ← hcapacity] at hroom
    obtain ⟨kept, hkept⟩ := newest_append_cons (n := s.capacity - 1)
      (older.filter (·.item ≠ item)) c (Nat.lt_sub_of_add_lt hroom)
    refine ⟨kept, newer.filter (·.item ≠ item) ++ [⟨item, damage, time⟩], ?_, ?_⟩
    · rw [CaptureStore.record, hothers, hkept, List.append_assoc, List.cons_append]
    · rw [hrest, items_concat]

theorem Held.record (item : String) (damage : Structure) (time : Int) :
    Held first (steps ++ [.record item damage time]) (s.record item damage time) where
  capacity_eq := h.capacity_record item damage time
  length_le := by
    have hlength := length_newest_le (s.capacity - 1) (s.captures.filter (·.item ≠ item))
    have hpos := h.one_le_capacity
    simp only [CaptureStore.record, List.length_append, List.length_singleton]
    omega
  nodup := by
    have hsub := (newest_suffix (s.capacity - 1) (s.captures.filter (·.item ≠ item))).sublist
    simp only [CaptureStore.record, List.map_append, List.map_cons, List.map_nil]
    refine List.Nodup.append (h.nodup.sublist ((hsub.trans List.filter_sublist).map _))
      (List.nodup_singleton _) ?_
    rw [List.disjoint_singleton]
    intro hmem
    obtain ⟨c, hc, hitem⟩ := List.mem_map.mp hmem
    exact absurd hitem (by simpa using (List.mem_filter.mp (hsub.subset hc)).2)
  sound := h.sound_record item damage time
  complete := h.complete_record item damage time

end

theorem held_run (timeToLive : Int) (capacity : Nat) (steps : List Step) :
    Held capacity steps (run (new timeToLive capacity) steps) := by
  induction steps using List.reverseRecOn with
  | nil => exact held_new timeToLive capacity
  | append_singleton steps x ih =>
    rw [run, List.foldl_append]
    cases x with
    | record item damage time => exact ih.record item damage time
    | configure timeToLive capacity => exact ih.configure timeToLive capacity

/-! ## Look-ups -/

/-- A look-up finds the capture of an item that is not too old. -/
theorem lookup_eq_some_iff {s : CaptureStore} (h : (s.captures.map (·.item)).Nodup) {item : String}
    {now : Int} {damage : Structure} :
    s.lookup item now = some damage ↔
      ∃ time, ⟨item, damage, time⟩ ∈ s.captures ∧ saturate64 (now - time) ≤ s.timeToLive := by
  rw [lookup]
  constructor
  · intro hlookup
    split at hlookup
    · next c hc =>
      have hitem : c.item = item := by simpa using List.find?_some hc
      split at hlookup
      · next hage =>
        cases hlookup
        exact ⟨c.time, hitem ▸ List.mem_of_find?_eq_some hc, hage⟩
      · cases hlookup
    · cases hlookup
  · rintro ⟨time, hmem, hage⟩
    have hfind : s.captures.find? (·.item = item) = some ⟨item, damage, time⟩ := by
      obtain ⟨older, newer, hcaptures⟩ := List.append_of_mem hmem
      rw [hcaptures, List.map_append, List.map_cons] at h
      refine List.find?_eq_some_iff_append.mpr ⟨by simp, older, newer, hcaptures, fun c hc => ?_⟩
      have hne := List.disjoint_of_nodup_append h (List.mem_map_of_mem hc)
      simpa using fun hitem : c.item = item => hne (hitem ▸ List.mem_cons_self)
    rw [hfind]
    exact if_pos hage

/-- After every history of a store no item has two captures, there are no more captures than the
capacity, which is at least one, and a look-up of an item finds the damage of its last record, as
long as that is not older than the time to live in force and at no point after it as many other
items as the capacity in force had been recorded. -/
theorem lookup_run (timeToLive : Int) (capacity : Nat) (steps : List Step) :
    let store := run (new timeToLive capacity) steps
    ((store.captures.map (·.item)).Nodup ∧ store.captures.length ≤ store.capacity ∧
      1 ≤ store.capacity) ∧
    ∀ (item : String) (now : Int) (damage : Structure),
      store.lookup item now = some damage ↔
        ∃ before time after, steps = before ++ .record item damage time :: after ∧
          item ∉ recordedItems after ∧
          (∀ soFar, soFar <+: after → ((recordedItems soFar).erase item).card <
            max 1 (configuredCapacity capacity (before ++ .record item damage time :: soFar))) ∧
          saturate64 (now - time) ≤ configuredTimeToLive timeToLive steps := by
  intro store
  have h := held_run timeToLive capacity steps
  refine ⟨⟨h.nodup, h.length_le, h.capacity_eq ▸ Nat.le_max_left _ _⟩, fun item now damage => ?_⟩
  rw [lookup_eq_some_iff h.nodup, timeToLive_run]
  constructor
  · rintro ⟨time, hmem, hage⟩
    obtain ⟨older, newer, hcaptures⟩ := List.append_of_mem hmem
    obtain ⟨before, after, hsteps, hret, -⟩ := h.sound hcaptures
    exact ⟨before, time, after, hsteps, hret.last, hret.room, hage⟩
  · rintro ⟨before, time, after, hsteps, hlast, hroom, hage⟩
    obtain ⟨older, newer, hcaptures, -⟩ :=
      h.complete (c := ⟨item, damage, time⟩) hsteps ⟨hlast, hroom⟩
    exact ⟨time, by rw [hcaptures]; exact List.mem_append_right _ List.mem_cons_self, hage⟩

/-- A capacity that grows again brings nothing back. -/
example : (run (new 10 2) [.record "a" default 0, .record "b" default 0, .configure 10 1,
    .configure 10 2]).lookup "a" 0 = none := by decide

end CriticalDamage.CaptureStore
