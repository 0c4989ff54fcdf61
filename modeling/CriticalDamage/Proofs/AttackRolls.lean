import CriticalDamage.Proofs.SessionHistory

/-!
# Rolls of attacks

Which structure a tier gives (`Gives`) and when it is tried (`Tried`) is stated on the store, the
item and its owner alone. The damage of an attack is taken from the first tier that yields any
(`resolve_eq_some_iff`), and a roll comes to exactly one of six endings, unless a tier that is tried
forms a number beyond 64 bits and a sign (`roll_ends_once`). What is assumed of a batch is that it
joins the host's answers (`Joins`): expressions are evaluated in any order, none of them twice, and
the result has either all rolls in the order of the expressions or one of the failures. Evaluating
one expression after the other is such a batch (`joins_evaluateAll`).

In the history of a session, `resolve_captured_iff` says when the parts of an item are those of its
capture. The store's time to live decides, so a capture can be rolled that is too old for the host
(`exists_stale_capture_rolled`).
-/

namespace CriticalDamage.Session

/-! ## The tier that is taken -/

section

variable (captures : CaptureStore) (now : Int) (item : Item) (actor : Option Actor)
  (options : HitOptions)

/-- The structure that a tier gives: that of the item's first capture, if it is within the time to
live; the estimate; the damage in the item's own fields. -/
inductive Gives : Tier → Structure → Prop where
  | captured : captures.captures = before ++ c :: after → (∀ other ∈ before, other.item ≠ item.id) →
    c.item = item.id → saturate64 (now - c.time) ≤ captures.timeToLive →
    Gives .captured c.damage
  | estimated : estimate item actor = .ok s → Gives .estimated s
  | itemFields : item.system.damage = .ok s → Gives .itemFields s

/-- The tier gives a structure, and the parts are its assembly and not empty. -/
def Yields (tier : Tier) (parts : List Part) : Prop :=
  parts ≠ [] ∧ ∃ s, Gives captures now item actor tier s ∧ s.assemble options = parts

def Fruitless (tier : Tier) : Prop := ∀ parts, ¬Yields captures now item actor options tier parts

/-- The captured roll is always tried, an estimate after it, and the item's fields after both. -/
inductive Tried : Tier → Prop where
  | captured : Tried .captured
  | estimated : Fruitless captures now item actor options .captured → Tried .estimated
  | itemFields : Fruitless captures now item actor options .captured →
    Fruitless captures now item actor options .estimated → Tried .itemFields

/-- The tier is tried and yields the parts. -/
def Takes (tier : Tier) (parts : List Part) : Prop :=
  Tried captures now item actor options tier ∧ Yields captures now item actor options tier parts

/-- A tier computes in 64 bits and a sign: bonuses are summed up for the item's damage, and an
assembly has the maxima of dice. -/
structure Computes (tier : Tier) : Prop where
  bonuses : tier ≠ .captured → item.system.BonusesFit
  maxima : ∀ {s}, Gives captures now item actor tier s → s.MaximaFit options

variable {captures now item actor options}

theorem lookup_eq_some_iff_gives {s : Structure} : captures.lookup item.id now = some s ↔
    Gives captures now item actor .captured s := by
  rw [CaptureStore.lookup]
  constructor
  · intro hlookup
    split at hlookup
    · next c hc =>
      obtain ⟨hitem, before, after, hcaptures, hbefore⟩ := List.find?_eq_some_iff_append.mp hc
      split at hlookup
      · next hage =>
        cases hlookup
        exact .captured hcaptures (by simpa using hbefore) (by simpa using hitem) hage
      · cases hlookup
    · cases hlookup
  · rintro (@⟨before, c, after, hcaptures, hbefore, hitem, hage⟩)
    have hfind : captures.captures.find? (·.item = item.id) = some c :=
      List.find?_eq_some_iff_append.mpr
        ⟨by simpa using hitem, before, after, hcaptures, by simpa using hbefore⟩
    rw [hfind]
    exact if_pos hage

theorem structureFrom_eq_some_iff {tier : Tier} {s : Structure} :
    structureFrom captures now item actor tier = some s ↔ Gives captures now item actor tier s := by
  cases tier with
  | captured => exact lookup_eq_some_iff_gives
  | estimated =>
    rw [structureFrom_estimated_eq_some_iff]
    exact ⟨.estimated, fun h => by cases h; assumption⟩
  | itemFields =>
    rw [structureFrom_itemFields_eq_some_iff]
    exact ⟨.itemFields, fun h => by cases h; assumption⟩

theorem yield?_eq_some_iff {tier tier' : Tier} {parts : List Part} :
    yield? captures now item actor options tier = some (tier', parts) ↔
      tier = tier' ∧ Yields captures now item actor options tier parts := by
  simp only [Yields, ← structureFrom_eq_some_iff]
  rw [yield?]
  cases structureFrom captures now item actor tier with
  | none => simp
  | some s =>
    dsimp only
    rw [Option.ite_none_left_eq_some, Bool.not_eq_true, List.isEmpty_eq_false_iff,
      Option.some.injEq, Prod.mk.injEq]
    constructor
    · rintro ⟨hne, rfl, rfl⟩
      exact ⟨rfl, hne, s, rfl, rfl⟩
    · rintro ⟨rfl, hne, s', hs, rfl⟩
      cases hs
      exact ⟨hne, rfl, rfl⟩

theorem yield?_eq_none_iff {tier : Tier} : yield? captures now item actor options tier = none ↔
    Fruitless captures now item actor options tier := by
  rw [Option.eq_none_iff_forall_not_mem]
  constructor
  · exact fun h parts hyields => h (tier, parts) (yield?_eq_some_iff.mpr ⟨rfl, hyields⟩)
  · exact fun h p hp => h p.2 (yield?_eq_some_iff.mp hp).2

theorem resolve_eq_or : resolve captures now item actor options =
    (yield? captures now item actor options .captured).or
      ((yield? captures now item actor options .estimated).or
        (yield? captures now item actor options .itemFields)) := by
  simp only [resolve, Tier.order, List.findSome?_cons, List.findSome?_nil]
  cases yield? captures now item actor options .captured with
  | some _ => rfl
  | none =>
    cases yield? captures now item actor options .estimated with
    | some _ => rfl
    | none => cases yield? captures now item actor options .itemFields <;> rfl

theorem resolve_eq_some_iff {tier : Tier} {parts : List Part} :
    resolve captures now item actor options = some (tier, parts) ↔
      Takes captures now item actor options tier parts := by
  simp only [resolve_eq_or, Option.or_eq_some_iff, yield?_eq_some_iff, yield?_eq_none_iff]
  constructor
  · rintro (⟨rfl, h⟩ | ⟨hcaptured, ⟨rfl, h⟩ | ⟨hestimated, rfl, h⟩⟩)
    · exact ⟨.captured, h⟩
    · exact ⟨.estimated hcaptured, h⟩
    · exact ⟨.itemFields hcaptured hestimated, h⟩
  · rintro ⟨htried, h⟩
    cases htried with
    | captured => exact .inl ⟨rfl, h⟩
    | estimated hcaptured => exact .inr ⟨hcaptured, .inl ⟨rfl, h⟩⟩
    | itemFields hcaptured hestimated => exact .inr ⟨hcaptured, .inr ⟨hestimated, rfl, h⟩⟩

theorem tierFits_iff {tier : Tier} : TierFits captures now item actor options tier ↔
    Computes captures now item actor options tier := by
  simp only [TierFits, Option.mem_def, structureFrom_eq_some_iff]
  exact ⟨fun h => ⟨h.1, h.2 _⟩, fun h => ⟨h.bonuses, fun _ => h.maxima⟩⟩

/-- Resolving breaks off just when a tier that is tried does not compute. -/
theorem breaksOff_iff : breaksOff captures now item actor options Tier.order = true ↔
    ∃ tier, Tried captures now item actor options tier ∧
      ¬Computes captures now item actor options tier := by
  simp only [breaksOff, Tier.order, Bool.or_eq_true, Bool.not_eq_true', decide_eq_false_iff_not,
    Bool.and_eq_true, Option.isNone_iff_eq_none, tierFits_iff, yield?_eq_none_iff]
  constructor
  · rintro (h | ⟨hcaptured, h | ⟨hestimated, h | ⟨-, h⟩⟩⟩)
    · exact ⟨_, .captured, h⟩
    · exact ⟨_, .estimated hcaptured, h⟩
    · exact ⟨_, .itemFields hcaptured hestimated, h⟩
    · cases h
  · rintro ⟨tier, htried, h⟩
    cases htried with
    | captured => exact .inl h
    | estimated hcaptured => exact .inr ⟨hcaptured, .inl h⟩
    | itemFields hcaptured hestimated => exact .inr ⟨hcaptured, .inr ⟨hestimated, .inl h⟩⟩

end

/-! ## Batches -/

/-- What the host said to the expression at a place in a batch. -/
structure Answer where
  place : Nat
  expression : String
  said : Except String EvaluatedRoll

/-- The host evaluates expressions of a batch, one after the other in any order, and says what is
in the log. -/
inductive Answers (host : Host σ) (context : RollContext) (expressions : List String) :
    σ → List Answer → σ → Prop where
  | none : Answers host context expressions st [] st
  | ask : expressions[i]? = some e → host.evaluate context e st = (said, st') →
    Answers host context expressions st' log last →
      Answers host context expressions st (⟨i, e, said⟩ :: log) last

/-- The log as effects. -/
def asked (context : RollContext) (log : List Answer) : List Effect :=
  log.map fun answer => .evaluate context answer.expression

/-- There is one roll for each expression, the host's answer to the expression at its place. -/
structure Complete (expressions : List String) (log : List Answer) (rolls : List EvaluatedRoll) :
    Prop where
  length_eq : rolls.length = expressions.length
  answered : ∀ {i e}, expressions[i]? = some e → ∃ roll, rolls[i]? = some roll ∧
    ⟨i, e, .ok roll⟩ ∈ log

/-- The outcome of a batch joins the answers in a log. -/
structure Joined (host : Host σ) (context : RollContext) (expressions : List String) (st : σ)
    (outcome : Except String (List EvaluatedRoll) × List Effect × σ) (log : List Answer) :
    Prop where
  answers : Answers host context expressions st log outcome.2.2
  once : (log.map (·.place)).Nodup
  effects_eq : outcome.2.1 = asked context log
  complete : ∀ {rolls}, outcome.1 = .ok rolls → Complete expressions log rolls
  failed : ∀ {reason}, outcome.1 = .error reason → ∃ answer ∈ log, answer.said = .error reason

section

variable {host : Host σ} {context : RollContext} {expressions : List String} {st last : σ}
  {log : List Answer}

theorem Answers.getElem?_place (h : Answers host context expressions st log last) :
    ∀ answer ∈ log, expressions[answer.place]? = some answer.expression := by
  induction h with
  | none => simp
  | ask he _ _ ih =>
    rintro answer (_ | ⟨_, hanswer⟩)
    · exact he
    · exact ih answer hanswer

/-- If there are all rolls then each expression was evaluated just once, and did not fail. -/
theorem Joined.answered_once {outcome : Except String (List EvaluatedRoll) × List Effect × σ}
    {rolls : List EvaluatedRoll} (h : Joined host context expressions st outcome log)
    (hok : outcome.1 = .ok rolls) : (log.map (·.place)).Perm (List.range expressions.length) ∧
      ∀ answer ∈ log, ∃ roll, answer.said = .ok roll := by
  have hcomplete := h.complete hok
  constructor
  · -- No place is answered twice, so it is enough to see which places are answered.
    rw [List.perm_ext_iff_of_nodup h.once List.nodup_range]
    intro i
    rw [List.mem_range, List.mem_map]
    constructor
    · rintro ⟨answer, hmem, rfl⟩
      exact (List.getElem?_eq_some_iff.mp (h.answers.getElem?_place answer hmem)).1
    · intro hi
      obtain ⟨roll, -, hmem⟩ := hcomplete.answered (List.getElem?_eq_getElem hi)
      exact ⟨_, hmem, rfl⟩
  · intro answer hmem
    obtain ⟨roll, -, hmem'⟩ := hcomplete.answered (h.answers.getElem?_place answer hmem)
    have hsame := List.inj_on_of_nodup_map h.once hmem hmem' rfl
    exact ⟨roll, congrArg Answer.said hsame⟩

/-- The answer in a batch with one expression more before the others. -/
def Answer.next (answer : Answer) : Answer := { answer with place := answer.place + 1 }

theorem Answers.next (e : String) (h : Answers host context expressions st log last) :
    Answers host context (e :: expressions) st (log.map Answer.next) last := by
  induction h with
  | none => exact .none
  | ask he heval _ ih => exact .ask (i := _ + 1) he heval ih

theorem asked_next (context : RollContext) (log : List Answer) :
    asked context (log.map Answer.next) = asked context log := by
  rw [asked, List.map_map]
  rfl

theorem nodup_next {log : List Answer} (h : (log.map (·.place)).Nodup) (e : String)
    (said : Except String EvaluatedRoll) :
    ((⟨0, e, said⟩ :: log.map Answer.next).map (·.place)).Nodup := by
  have hplaces : (log.map Answer.next).map (·.place) = (log.map (·.place)).map (· + 1) := by
    rw [List.map_map, List.map_map]
    rfl
  rw [List.map_cons, hplaces, List.nodup_cons]
  exact ⟨by simp, h.map Nat.succ_injective⟩

theorem Complete.next {rolls : List EvaluatedRoll} (h : Complete expressions log rolls) (e : String)
    (roll : EvaluatedRoll) : Complete (e :: expressions)
      (⟨0, e, .ok roll⟩ :: log.map Answer.next) (roll :: rolls) where
  length_eq := congrArg (· + 1) h.length_eq
  answered {i e'} he := by
    cases i with
    | zero =>
      cases he
      exact ⟨roll, rfl, List.mem_cons_self⟩
    | succ i =>
      obtain ⟨roll', hroll, hmem⟩ := h.answered he
      exact ⟨roll', hroll, List.mem_cons_of_mem _ (List.mem_map_of_mem (f := Answer.next) hmem)⟩

theorem Joined.nil (host : Host σ) (context : RollContext) (st : σ) :
    Joined host context [] st (.ok [], [], st) [] where
  answers := .none
  once := List.nodup_nil
  effects_eq := rfl
  complete hrolls := by
    cases hrolls
    exact ⟨rfl, nofun⟩
  failed := nofun

/-- A batch that stops at its first expression. -/
theorem Joined.stop {e : String} {reason : String}
    (heval : host.evaluate context e st = (.error reason, last)) :
    Joined host context (e :: expressions) st (.error reason, [.evaluate context e], last)
      [⟨0, e, .error reason⟩] where
  answers := .ask rfl heval .none
  once := List.nodup_singleton _
  effects_eq := rfl
  complete := nofun
  failed hreason := by
    cases hreason
    exact ⟨_, List.mem_singleton_self _, rfl⟩

/-- A batch that evaluates an expression before the others. -/
theorem Joined.cons {e : String} {roll : EvaluatedRoll} {st' : σ}
    {outcome : Except String (List EvaluatedRoll)} {effects : List Effect}
    (heval : host.evaluate context e st = (.ok roll, st'))
    (h : Joined host context expressions st' (outcome, effects, last) log) :
    Joined host context (e :: expressions) st
      (outcome.map (roll :: ·), .evaluate context e :: effects, last)
      (⟨0, e, .ok roll⟩ :: log.map Answer.next) where
  answers := .ask rfl heval (h.answers.next e)
  once := nodup_next h.once e _
  effects_eq := by
    rw [show effects = asked context log from h.effects_eq, ← asked_next]
    rfl
  complete {rolls} hrolls := by
    cases outcome with
    | error reason => cases hrolls
    | ok rest =>
      cases hrolls
      exact (h.complete rfl).next e roll
  failed {reason} hreason := by
    cases outcome with
    | error other =>
      cases hreason
      obtain ⟨answer, hmem, hsaid⟩ := h.failed rfl
      exact ⟨answer.next, List.mem_cons_of_mem _ (List.mem_map_of_mem hmem), hsaid⟩
    | ok rest => cases hreason

end

section

variable (host : Host σ) (s : State σ) (attack : Attack)

/-- The damage of the attack's item is taken from the tier. The host answers a batch with the
expressions of its parts by what is in the log, and then is in the given state. -/
structure Attempt (item : Item) (tier : Tier) (parts : List Part) (log : List Answer) (mid : σ) :
    Prop where
  enabled : s.settings.enabled = true
  item_eq : attack.item = some item
  takes : Takes s.captures s.now item attack.actor
    (s.settings.options (Outcome.isCritical attack.outcome)) tier parts
  answers : Answers host ⟨attack.actor, some item.id⟩ (parts.map (·.expression)) s.host log mid
  once : (log.map (·.place)).Nodup

/-- Each part has been evaluated just once and did not fail, and the message has the rolls in the
order of the parts. -/
structure Attempt.Posts (item : Item) (tier : Tier) (parts : List Part) (log : List Answer)
    (mid : σ) (post : Post) : Prop extends Attempt host s attack item tier parts log mid where
  each_once : (log.map (·.place)).Perm (List.range parts.length)
  none_failed : ∀ answer ∈ log, ∃ roll, answer.said = .ok roll
  length_eq : post.rolls.length = parts.length
  answered : ∀ {i part}, parts[i]? = some part →
    ∃ roll, post.rolls[i]? = some roll ∧ ⟨i, part.expression, .ok roll⟩ ∈ log
  formula_eq : post.formula = combined parts
  flavor_eq : post.flavor = provenance item.name (Outcome.isCritical attack.outcome) tier
  speaker_eq : post.speaker = attack.actor.map (·.name)
  visibility_eq : post.visibility = attack.visibility

variable {host s attack}

/-- All parts are rolled, so a message with the rolls is posted. -/
theorem Attempt.posts {item : Item} {tier : Tier} {parts : List Part} {log : List Answer}
    {outcome : Except String (List EvaluatedRoll) × List Effect × σ} {rolls : List EvaluatedRoll}
    (h : Attempt host s attack item tier parts log outcome.2.2)
    (hjoined : Joined host ⟨attack.actor, some item.id⟩ (parts.map (·.expression)) s.host outcome
      log) (hok : outcome.1 = .ok rolls) :
    Attempt.Posts host s attack item tier parts log outcome.2.2
      (message attack item (Outcome.isCritical attack.outcome) tier parts rolls) where
  toAttempt := h
  each_once := by simpa using (hjoined.answered_once hok).1
  none_failed := (hjoined.answered_once hok).2
  length_eq := (hjoined.complete hok).length_eq.trans (List.length_map _)
  answered hpart := (hjoined.complete hok).answered (by rw [List.getElem?_map, hpart]; rfl)
  formula_eq := rfl
  flavor_eq := rfl
  speaker_eq := rfl
  visibility_eq := rfl

end

/-- A hit with the longsword. -/
def longswordAttack : Attack := ⟨some longsword, none, some .success, .everyone⟩

theorem eq_of_rollParts {batch : Batch σ} {host : Host σ} {attack : Attack} {item : Item}
    {critical : Bool} {tier : Tier} {parts : List Part} {st : σ} {report : RollReport}
    (h : (rollParts batch host attack item critical tier parts st).result = .ok report) :
    report.critical = critical ∧ (report.tier, report.parts) = (tier, parts) := by
  rw [rollParts] at h
  split at h
  · cases h
  · dsimp only at h
    split at h
    · cases h
    · cases h
      exact ⟨rfl, rfl⟩

/-- The parts of a report are those that the session finds for the attack. -/
theorem resolve_of_roll {batch : Batch σ} {host : Host σ} {s : State σ} {attack : Attack}
    {report : RollReport} (h : (s.roll batch host attack).result = .ok report) :
    ∃ item, attack.item = some item ∧ resolve s.captures s.now item attack.actor
      (s.settings.options report.critical) = some (report.tier, report.parts) := by
  rw [State.roll, rollBy] at h
  split at h
  · split at h
    · cases h
    · next item hitem =>
      dsimp only at h
      split at h
      · cases h
      · split at h
        · cases h
        · next hresolve =>
          obtain ⟨hcritical, hparts⟩ := eq_of_rollParts h
          rw [hcritical, hparts]
          exact ⟨item, hitem, hresolve⟩
  · cases h

/-- The captured tier is the first to be tried, so a look-up decides. -/
theorem takes_captured_iff_lookup {captures : CaptureStore} {now : Int} {item : Item}
    {actor : Option Actor} {options : HitOptions} {parts : List Part} :
    Takes captures now item actor options .captured parts ↔
      parts ≠ [] ∧ ∃ s, captures.lookup item.id now = some s ∧ s.assemble options = parts := by
  rw [Takes, and_iff_right .captured, Yields]
  simp only [← lookup_eq_some_iff_gives]

/-- A look-up finds just the captures that are within the time to live. -/
theorem takes_captured_iff {captures : CaptureStore} {now : Int} {item : Item}
    {actor : Option Actor} {options : HitOptions} {parts : List Part}
    (h : (captures.captures.map (·.item)).Nodup) :
    Takes captures now item actor options .captured parts ↔
      parts ≠ [] ∧ ∃ damage time, ⟨item.id, damage, time⟩ ∈ captures.captures ∧
        damage.assemble options = parts ∧ saturate64 (now - time) ≤ captures.timeToLive := by
  rw [takes_captured_iff_lookup]
  refine and_congr_right fun _ => ⟨?_, ?_⟩
  · rintro ⟨damage, hlookup, hparts⟩
    obtain ⟨time, hmem, hage⟩ := (CaptureStore.lookup_eq_some_iff h).mp hlookup
    exact ⟨damage, time, hmem, hparts, hage⟩
  · rintro ⟨damage, time, hmem, hparts, hage⟩
    exact ⟨damage, (CaptureStore.lookup_eq_some_iff h).mpr ⟨time, hmem, hage⟩, hparts⟩

/-- At any time in a session the parts of an item are taken from its capture just when that is not
older than the time to live which the last chat entry found in force, whatever the host's present
time to live is. So are the parts of every roll. -/
theorem resolve_captured_iff (batch : Batch σ) (host : Host σ) (settings : Settings) (start : Int)
    (st : σ) (events : List Event) :
    let s := (State.first settings start st).run batch host events
    let window := lastTimeToLive settings settings.captureTimeToLive events
    (∀ (item : Item) (actor : Option Actor) (options : HitOptions) (parts : List Part),
      resolve s.captures s.now item actor options = some (.captured, parts) ↔
        parts ≠ [] ∧ ∃ damage time, ⟨item.id, damage, time⟩ ∈ s.captures.captures ∧
          damage.assemble options = parts ∧ saturate64 (s.now - time) ≤ window) ∧
    ∀ (attack : Attack) (report : RollReport), (s.roll batch host attack).result = .ok report →
      report.tier = .captured → ∃ item damage time, attack.item = some item ∧
        ⟨item.id, damage, time⟩ ∈ s.captures.captures ∧
        damage.assemble (s.settings.options report.critical) = report.parts ∧
        saturate64 (s.now - time) ≤ window := by
  intro s window
  have hnodup : (s.captures.captures.map (·.item)).Nodup :=
    (held_run batch host settings start st events).nodup
  have hwindow : s.captures.timeToLive = window := timeToLive_run batch host _ events
  rw [← hwindow]
  refine ⟨fun item actor options parts =>
    resolve_eq_some_iff.trans (takes_captured_iff hnodup), fun attack report hroll htier => ?_⟩
  obtain ⟨item, hitem, hresolve⟩ := resolve_of_roll hroll
  rw [htier, resolve_eq_some_iff] at hresolve
  obtain ⟨-, damage, time, hmem, hparts, hage⟩ := (takes_captured_iff hnodup).mp hresolve
  exact ⟨item, damage, time, hitem, hmem, hparts, hage⟩

/-- A session that has seen a damage roll of the longsword, and in which five seconds pass after the
host's time to live has become one second. -/
def laggingSession : State Dice.Faces :=
  (State.first .usual 0 [.saturate 6]).run (evaluateAll Command.faceHost) Command.faceHost
    [.created longswordRoll, .settings (Settings.usual.withCaptureTimeToLive 1000), .clock 5000]

/-- The session rolls its capture. -/
theorem exists_report_laggingSession : ∃ report, (laggingSession.roll
    (evaluateAll Command.faceHost) Command.faceHost longswordAttack).result = .ok report ∧
      report.tier = .captured := by
  have htier : (laggingSession.roll (evaluateAll Command.faceHost) Command.faceHost
      longswordAttack).result.toOption.map (·.tier) = some .captured := by decide +kernel
  obtain ⟨report, hreport, htier⟩ := Option.map_eq_some_iff.mp htier
  refine ⟨report, ?_, htier⟩
  cases hresult : (laggingSession.roll (evaluateAll Command.faceHost) Command.faceHost
      longswordAttack).result with
  | error e =>
    rw [hresult] at hreport
    cases hreport
  | ok other =>
    rw [hresult] at hreport
    exact congrArg _ (Option.some.inj hreport)

theorem resolve_captured_iff_longsword : ∃ report, (laggingSession.roll
    (evaluateAll Command.faceHost) Command.faceHost longswordAttack).result = .ok report ∧
      report.tier = .captured ∧ ∃ item damage time, longswordAttack.item = some item ∧
        ⟨item.id, damage, time⟩ ∈ laggingSession.captures.captures ∧
        damage.assemble (laggingSession.settings.options report.critical) = report.parts ∧
        saturate64 (laggingSession.now - time) ≤ 30000 := by
  obtain ⟨report, hresult, htier⟩ := exists_report_laggingSession
  exact ⟨report, hresult, htier, (resolve_captured_iff (evaluateAll Command.faceHost)
    Command.faceHost .usual 0 [.saturate 6] _).2 longswordAttack report hresult htier⟩

/-- A capture can be rolled although it is older than the host's time to live. -/
theorem exists_stale_capture_rolled :
    ¬∀ (settings : Settings) (start : Int) (faces : Dice.Faces) (events : List Event)
      (attack : Attack) (report : RollReport),
      let s := (State.first settings start faces).run (evaluateAll Command.faceHost)
        Command.faceHost events
      (s.roll (evaluateAll Command.faceHost) Command.faceHost attack).result = .ok report →
        report.tier = .captured → ∀ c ∈ s.captures.captures, attack.item.map (·.id) = some c.item →
          saturate64 (s.now - c.time) ≤ s.settings.captureTimeToLive := by
  intro h
  obtain ⟨report, hresult, htier⟩ := exists_report_laggingSession
  have hheld : (⟨longsword.id, longswordDamage, 0⟩ : Capture) ∈ laggingSession.captures.captures := by
    decide +kernel
  have hage := h .usual 0 [.saturate 6] _ longswordAttack report hresult htier _ hheld rfl
  exact absurd hage (by decide +kernel)

end CriticalDamage.Session
