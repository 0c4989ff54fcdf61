import CriticalDamage.Proofs.AttackRolls

/-!
# Captures just taken

A capture is the newest of the store when it is taken (`CaptureStore.find?_record`), whatever the
store held before, and no age is less than its own. So a session that says that it has captured
damage finds it at once, unless the time to live is negative (`resolve_new_capture_iff`).
-/

namespace CriticalDamage

namespace CaptureStore

theorem find?_record (s : CaptureStore) (item : String) (damage : Structure) (time : Int) :
    (s.record item damage time).captures.find? (·.item = item) = some ⟨item, damage, time⟩ := by
  have hothers : (newest (s.capacity - 1) (s.captures.filter (·.item ≠ item))).find?
      (·.item = item) = none := by
    rw [List.find?_eq_none]
    intro c hc
    have hmem := (newest_suffix _ _).subset hc
    simpa using (List.mem_filter.mp hmem).2
  have hnew : [Capture.mk item damage time].find? (·.item = item) = some ⟨item, damage, time⟩ :=
    List.find?_cons_of_pos (by simp)
  rw [record, List.find?_append, hothers, hnew]
  rfl

theorem lookup_record (s : CaptureStore) (item : String) (damage : Structure) (now : Int) :
    (s.record item damage now).lookup item now =
      if 0 ≤ s.timeToLive then some damage else none := by
  have hage : saturate64 (now - now) = 0 := by
    rw [Int.sub_self]
    decide
  rw [lookup, find?_record]
  dsimp only
  rw [hage]
  rfl

end CaptureStore

namespace Session

/-- A chat entry whose damage is captured, and what it does to the store. -/
theorem exists_record_of_observe {settings : Settings} {now : Int} {captures : CaptureStore}
    {entry : NewEntry} (h : (observe settings now captures entry).1 = true) :
    ∃ name d found, entry.sourceItem = some name ∧ entry.damage? = some d ∧
      d.damage = .ok found ∧ (observe settings now captures entry).2 =
        (captures.configure settings.captureTimeToLive settings.captureCapacity).record name found
          now := by
  unfold observe at h ⊢
  split at h
  · next henabled =>
    rw [if_pos henabled]
    split at h
    · next name d hname hd =>
      split at h
      · next found hfound => exact ⟨name, d, found, hname, hd, hfound, rfl⟩
      · cases h
    · cases h
  · cases h

/-- Damage that a session has just captured is taken from the capture just when it assembles to
any parts and the time to live is not negative. Then it is taken whole. -/
theorem resolve_new_capture_iff (batch : Batch σ) (host : Host σ) (settings : Settings)
    (start : Int) (st : σ) (events : List Event) (entry : NewEntry) :
    let s := (State.first settings start st).run batch host events
    let t := s.next batch host (.created entry)
    (observe s.settings s.now s.captures entry).1 = true →
      ∃ name d found, entry.sourceItem = some name ∧ entry.damage? = some d ∧
        d.damage = .ok found ∧
        ∀ (item : Item) (actor : Option Actor) (options : HitOptions) (parts : List Part),
          item.id = name →
            (resolve t.captures t.now item actor options = some (.captured, parts) ↔
              parts = found.assemble options ∧ parts ≠ [] ∧
                0 ≤ s.settings.captureTimeToLive) := by
  intro s t hcaptured
  obtain ⟨name, d, found, hname, hd, hfound, hstore⟩ := exists_record_of_observe hcaptured
  refine ⟨name, d, found, hname, hd, hfound, ?_⟩
  rintro item actor options parts rfl
  have hlookup : t.captures.lookup item.id t.now =
      if 0 ≤ s.settings.captureTimeToLive then some found else none := by
    change (observe s.settings s.now s.captures entry).2.lookup item.id s.now = _
    rw [hstore, CaptureStore.lookup_record]
    rfl
  rw [resolve_eq_some_iff, takes_captured_iff_lookup, hlookup]
  constructor
  · rintro ⟨hne, other, hother, rfl⟩
    split at hother
    · next hwindow =>
      cases hother
      exact ⟨rfl, hne, hwindow⟩
    · cases hother
  · rintro ⟨rfl, hne, hwindow⟩
    exact ⟨hne, found, if_pos hwindow, rfl⟩

/-- A damage roll of the longsword is found under the usual settings when it has replaced another
capture. -/
theorem resolve_new_capture_iff_longsword :
    let s := (State.first .usual 0 []).run (evaluateAll Command.faceHost) Command.faceHost
      [.created ⟨longswordRoll.rolls, some "dagger"⟩, .clock 5]
    let t := s.next (evaluateAll Command.faceHost) Command.faceHost (.created longswordRoll)
    (observe s.settings s.now s.captures longswordRoll).1 = true ∧
      resolve t.captures t.now longsword none default =
        some (.captured, longswordDamage.assemble default) := by
  intro s t
  have hcaptured : (observe s.settings s.now s.captures longswordRoll).1 = true := by
    decide +kernel
  obtain ⟨name, d, found, hname, hd, hfound, hresolve⟩ :=
    resolve_new_capture_iff (evaluateAll Command.faceHost) Command.faceHost .usual 0 []
      [.created ⟨longswordRoll.rolls, some "dagger"⟩, .clock 5] longswordRoll hcaptured
  cases hname
  cases hd
  have hdamage : longsword.system.damage = .ok longswordDamage := by decide +kernel
  cases hfound.symm.trans hdamage
  exact ⟨hcaptured, (hresolve longsword none default _ rfl).mpr
    ⟨rfl, by decide +kernel, by decide +kernel⟩⟩

/-- Under a time to live of -1, which settings may have, a capture is not found when it has just
been taken. -/
theorem exists_new_capture_missed :
    ¬∀ (d : Document) (settings : Settings) (start : Int) (faces : Dice.Faces)
      (events : List Event) (entry : NewEntry) (item : Item) (damage : Document)
      (found : Structure) (options : HitOptions),
      let s := (State.first settings start faces).run (evaluateAll Command.faceHost)
        Command.faceHost events
      let t := s.next (evaluateAll Command.faceHost) Command.faceHost (.created entry)
      Settings.ofDocument? d = some settings →
        (observe s.settings s.now s.captures entry).1 = true →
        entry.sourceItem = some item.id → entry.damage? = some damage →
        damage.damage = .ok found → found.assemble options ≠ [] →
          resolve t.captures t.now item none options =
            some (.captured, found.assemble options) := by
  intro h
  let settings : Settings := { Settings.usual with captureTimeToLive := -1 }
  have hsettings : Settings.ofDocument? (.record [("captureTtlMs", .whole (-1))]) =
      some settings := by decide +kernel
  have hfound := h _ settings 0 [] [] longswordRoll longsword _ longswordDamage default hsettings
    (by decide +kernel) rfl rfl (by decide +kernel) (by decide +kernel)
  exact absurd hfound (by decide +kernel)

end Session

end CriticalDamage
