import CriticalDamage.Command.Run
import CriticalDamage.Proofs.CanonicalForm
import CriticalDamage.Proofs.CaptureHistory

/-!
# Histories of sessions

A session goes on by events: its host changes its settings or the time, a chat entry is created, an
attack is rolled. Only chat entries change the captures, and what one of them does to the store is a
few steps of the store's own history (`observe_eq_run`). So the captures of a session have a history
of their own (`captures_run`), in which only damage found in documents is recorded, and what is
known of histories of captures holds in sessions. The time to live of the store is that of the
settings that the last chat entry found in force (`timeToLive_run`), which need not be the host's
present one. All structures that are found, estimated or captured are in canonical form and have
entries (`found_structures_normal`).
-/

namespace CriticalDamage.Session

/-- What happens to a session. -/
inductive Event where
  /-- The host has other settings from now on. -/
  | settings (settings : Settings)
  | clock (now : Int)
  | created (entry : NewEntry)
  | attacked (attack : Attack)

/-- A session and its host: the settings that the host gives, the time, the captures and the host's
own state. -/
structure State (σ : Type) where
  settings : Settings
  now : Int
  captures : CaptureStore
  host : σ

namespace State

/-- A session that begins. -/
def first (settings : Settings) (now : Int) (host : σ) : State σ :=
  ⟨settings, now, begin settings, host⟩

section

variable (batch : Batch σ) (host : Host σ)

/-- The roll of an attack. -/
def roll (s : State σ) (attack : Attack) : Transcript σ :=
  rollBy batch s.settings s.now s.captures host attack s.host

def next (s : State σ) : Event → State σ
  | .settings settings => { s with settings }
  | .clock now => { s with now }
  | .created entry => { s with captures := (observe s.settings s.now s.captures entry).2 }
  | .attacked attack => { s with host := (s.roll batch host attack).state }

def run (s : State σ) (events : List Event) : State σ := events.foldl (next batch host) s

theorem run_cons (s : State σ) (event : Event) (events : List Event) :
    s.run batch host (event :: events) = (s.next batch host event).run batch host events := rfl

end

end State

/-! ## Captures in a session -/

/-- The item of a chat entry and the damage found in it, if it has both. -/
def found? (entry : NewEntry) : Option (String × Structure) :=
  match entry.sourceItem, entry.damage? with
  | some item, some d => d.damage.toOption.map (item, ·)
  | _, _ => none

/-- What a chat entry does to the captures. -/
def observed (settings : Settings) (now : Int) (entry : NewEntry) : List CaptureStore.Step :=
  if settings.enabled then
    .configure settings.captureTimeToLive settings.captureCapacity ::
      (found? entry).toList.map fun p => .record p.1 p.2 now
  else []

theorem observe_eq_run (settings : Settings) (now : Int) (captures : CaptureStore)
    (entry : NewEntry) :
    (observe settings now captures entry).2 =
      CaptureStore.run captures (observed settings now entry) := by
  rw [observe, observed]
  split
  · rw [found?]
    cases entry.sourceItem with
    | none => rfl
    | some item =>
      cases entry.damage? with
      | none => rfl
      | some d =>
        dsimp only
        cases d.damage <;> rfl
  · rfl

theorem exists_damage_of_found? {entry : NewEntry} {item : String} {found : Structure}
    (h : found? entry = some (item, found)) : ∃ d : Document, d.damage = .ok found := by
  rw [found?] at h
  split at h
  · next d _ _ =>
    cases hd : d.damage with
    | error e =>
      rw [hd] at h
      cases h
    | ok s =>
      rw [hd] at h
      cases h
      exact ⟨d, hd⟩
  · cases h

/-- What is recorded from a chat entry is damage found in a document. -/
theorem exists_damage_of_mem_observed {settings : Settings} {now : Int} {entry : NewEntry}
    {item : String} {found : Structure} {time : Int}
    (h : .record item found time ∈ observed settings now entry) :
    ∃ d : Document, d.damage = .ok found := by
  rw [observed] at h
  split at h
  · rcases List.mem_cons.mp h with h | h
    · cases h
    · obtain ⟨p, hmem, hstep⟩ := List.mem_map.mp h
      cases hstep
      exact exists_damage_of_found? (Option.mem_toList.mp hmem)
  · cases h

/-- What events do to the captures of a session that has the given settings and time. -/
def history (settings : Settings) (now : Int) : List Event → List CaptureStore.Step
  | [] => []
  | .settings settings :: events => history settings now events
  | .clock now :: events => history settings now events
  | .created entry :: events => observed settings now entry ++ history settings now events
  | .attacked _ :: events => history settings now events

/-- The time to live of the settings that the last chat entry found in force, if any did. -/
def lastTimeToLive (settings : Settings) (timeToLive : Int) : List Event → Int
  | [] => timeToLive
  | .settings settings :: events => lastTimeToLive settings timeToLive events
  | .created _ :: events =>
    lastTimeToLive settings
      (if settings.enabled then settings.captureTimeToLive else timeToLive) events
  | .clock _ :: events | .attacked _ :: events => lastTimeToLive settings timeToLive events

theorem exists_damage_of_mem_history {settings : Settings} {now : Int} {events : List Event}
    {item : String} {found : Structure} {time : Int}
    (h : .record item found time ∈ history settings now events) :
    ∃ d : Document, d.damage = .ok found := by
  induction events generalizing settings now with
  | nil => cases h
  | cons event events ih =>
    cases event with
    | settings settings => exact ih h
    | clock now => exact ih h
    | created entry =>
      rcases List.mem_append.mp h with h | h
      · exact exists_damage_of_mem_observed h
      · exact ih h
    | attacked attack => exact ih h

section

variable (batch : Batch σ) (host : Host σ)

theorem captures_run (s : State σ) (events : List Event) :
    (s.run batch host events).captures =
      CaptureStore.run s.captures (history s.settings s.now events) := by
  induction events generalizing s with
  | nil => rfl
  | cons event events ih =>
    rw [State.run_cons, ih]
    cases event with
    | settings settings => rfl
    | clock now => rfl
    | created entry =>
      rw [history, CaptureStore.run, CaptureStore.run, List.foldl_append, State.next,
        observe_eq_run]
      rfl
    | attacked attack => rfl

theorem timeToLive_observe (settings : Settings) (now : Int) (captures : CaptureStore)
    (entry : NewEntry) : (observe settings now captures entry).2.timeToLive =
      if settings.enabled then settings.captureTimeToLive else captures.timeToLive := by
  rw [observe]
  split
  · split
    · split <;> rfl
    · rfl
  · rfl

theorem timeToLive_run (s : State σ) (events : List Event) :
    (s.run batch host events).captures.timeToLive =
      lastTimeToLive s.settings s.captures.timeToLive events := by
  induction events generalizing s with
  | nil => rfl
  | cons event events ih =>
    rw [State.run_cons, ih]
    cases event with
    | settings settings => rfl
    | clock now => rfl
    | created entry => rw [lastTimeToLive, State.next, timeToLive_observe]
    | attacked attack => rfl

variable (settings : Settings) (start : Int) (st : σ) (events : List Event)

theorem held_run : CaptureStore.Held settings.captureCapacity (history settings start events)
    ((State.first settings start st).run batch host events).captures := by
  rw [captures_run]
  exact CaptureStore.held_run settings.captureTimeToLive settings.captureCapacity
    (history settings start events)

/-- Every capture of a session is damage found in a document. -/
theorem exists_damage_of_mem_captures {c : Capture}
    (h : c ∈ ((State.first settings start st).run batch host events).captures.captures) :
    ∃ d : Document, d.damage = .ok c.damage := by
  obtain ⟨older, newer, hcaptures⟩ := List.append_of_mem h
  obtain ⟨before, after, hsteps, -, -⟩ := (held_run batch host settings start st events).sound
    hcaptures
  have hrecord : .record c.item c.damage c.time ∈ history settings start events := by
    rw [hsteps]
    exact List.mem_append_right _ List.mem_cons_self
  exact exists_damage_of_mem_history hrecord

end

end Session

/-! ## Normal structures -/

/-- The structure has entries, all of them active and proper, and is its own canonical form. -/
structure Structure.IsNormal (s : Structure) : Prop where
  hasEntries : s.isEmpty = false
  isCanonical : s.IsCanonical
  canonical_eq : s.canonical = s

theorem Structure.isEmpty_eq_false_of_hasBaseDice {s : Structure} (h : s.hasBaseDice = true) :
    s.isEmpty = false := by
  obtain ⟨base, modifiers, extraDice⟩ := s
  cases base with
  | nil => cases h
  | cons c base => rfl

theorem Document.isNormal_of_damage {d : Document} {s : Structure} (h : d.damage = .ok s) :
    s.IsNormal :=
  have ⟨hentries, hcanonical⟩ := canonical_of_damage h
  ⟨hentries, hcanonical, Structure.canonical_eq_self hcanonical⟩

/-- The damage found in a document is normal, an estimate is and has a base component that rolls
dice, and so is every capture that a session holds at any time. -/
theorem found_structures_normal :
    (∀ (d : Document) (s : Structure), d.damage = .ok s → s.IsNormal) ∧
    (∀ (item : Item) (actor : Option Actor) (s : Structure), estimate item actor = .ok s →
      s.IsNormal ∧ ∃ c ∈ s.base, c.rolledDie?.isSome = true) ∧
    ∀ (σ : Type) (batch : Batch σ) (host : Host σ) (settings : Settings) (start : Int) (st : σ)
      (events : List Session.Event), ∀ c ∈
        ((Session.State.first settings start st).run batch host events).captures.captures,
      c.damage.IsNormal := by
  refine ⟨fun d s => Document.isNormal_of_damage, fun item actor s h => ?_,
    fun σ batch host settings start st events c hc => ?_⟩
  · obtain ⟨hdice, hcanonical⟩ := canonical_of_estimate h
    exact ⟨⟨Structure.isEmpty_eq_false_of_hasBaseDice hdice, hcanonical,
      Structure.canonical_eq_self hcanonical⟩, List.any_eq_true.mp hdice⟩
  · obtain ⟨d, hd⟩ :=
      Session.exists_damage_of_mem_captures batch host settings start st events hc
    exact Document.isNormal_of_damage hd

/-- A longsword whose deadly trait adds no dice. -/
def longsword : Item where
  id := "longsword"
  name := "Longsword"
  kind := .weapon
  system := .record [
    ("damage", .record [("dice", .whole 1), ("die", .text "d8"),
      ("damageType", .text "slashing")]),
    ("traits", .list [.text "versatile-p", .text "deadly-0d8"])]

/-- The deadly dice of the longsword are found and then left out. -/
def longswordDamage : Structure where
  base := [⟨1, Die.ofSides? 8, 0, .ofName "slashing".toList, .plain, false⟩]
  modifiers := [.new "modifier" 0]
  extraDice := []

/-- A damage roll of the longsword. -/
def longswordRoll : NewEntry := ⟨[⟨RollRecord.damageType, some longsword.system⟩], longsword.id⟩

theorem found_structures_normal_longsword :
    (longsword.system.damage = .ok longswordDamage ∧ longswordDamage.IsNormal) ∧
    (estimate longsword none = .ok longswordDamage ∧
      ∃ c ∈ longswordDamage.base, c.rolledDie?.isSome = true) ∧
    ∃ c ∈ ((Session.State.first .usual 0 []).run (Session.evaluateAll Command.faceHost)
        Command.faceHost [.clock 5, .created longswordRoll]).captures.captures,
      c.time = 5 ∧ c.damage.IsNormal := by
  have hfound : longsword.system.damage = .ok longswordDamage := by decide +kernel
  have hestimate : estimate longsword none = .ok longswordDamage := by decide +kernel
  obtain ⟨hdamage, hdice, hcaptures⟩ := found_structures_normal
  refine ⟨⟨hfound, hdamage _ _ hfound⟩, ⟨hestimate, (hdice _ _ _ hestimate).2⟩,
    ⟨longsword.id, longswordDamage, 5⟩, ?hheld, rfl, hcaptures _ _ _ _ _ _ _ _ ?hheld⟩
  decide +kernel

end CriticalDamage
