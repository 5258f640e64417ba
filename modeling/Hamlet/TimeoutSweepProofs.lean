import Hamlet.Lib.HistoryProofs
import Hamlet.BroadcastTopicProofs
import Hamlet.GatewayLinkProofs
import Hamlet.SubscriptionProofs
import Mathlib.Order.Bounds.Basic

/-!
# What a completed timeout sweep does

`check_timeouts` visits the stale beacons in the order of a hash map and changes three collections
on the way, two of them BY VALUE: it drops every entry of the topic list that equals the beacon's
topic, and the beacon's URL from the set of known gateways. Between its awaits it is a step of the
message loop like any other; here it is read as one operation.

* `sweep_outcome` — a sweep that runs to its end deregisters the stale beacons one by one
  (`deregister`), whatever the answers to its `unsubscribe` calls;
* `SweepEffect` — what that amounts to, in terms of the SET of beacons only, so that the order of
  the visits is gone (`SweepEffect.unique`);
* `lastHeard_run` — `last_seen` is what the history says: the later of the creation of the record
  and the last message of the beacon. It needs a clock that does not go backwards.

`sweep_removes_silent` puts them together. That the removal by value hits no live beacon is
`TopicInv` and `GatewayInv` of the state after the sweep.

A sweep need not run to its end. `found_run` counts what is certain even so: every tick that finds
somebody takes somebody out.
-/

namespace HamletTimeoutSweep

open RustText History HamletRegistry HamletBroadcastTopic HamletGatewayLink
open HamletSubscription (listenOf listen? ListenInv ListenPending ListenHolds)

-- ── When a beacon was last heard of ──────────────────────────────────────────

/-- The clock reading an event carries. -/
def clockOf : Event → Option Instant
  | .channel _ now _ => some now
  | .tick now _      => some now
  | .unsubscribed _  => none
  | .topicsLocked    => none
  | .message _ now   => some now

/-- The clock does not go backwards along the run. -/
def ClockMonotone (es : List Event) : Prop := (es.filterMap clockOf).Pairwise (· ≤ ·)

/-- The step creates the record of the beacon: a channel for it, processed without one. -/
def CreatesRecord (id : String) (t : Instant) (x : EventRun.Transition LoopState Event) : Prop :=
  x.source.registry.record? id = none ∧
    ∃ c subscribed, x.event = .channel c t subscribed ∧ c.beaconId = id

/-- The record of the beacon was created at `t` and has been in the map since. -/
def Created (app : App) (es : List Event) (id : String) (t : Instant) : Prop :=
  Since (CreatesRecord id t) (fun x => x.target.registry.record? id = none)
    (EventRun.transitions (step app) (.init app) es)

/-- The event is a message on the beacon's receive topic, processed at `t`. -/
def MessageAt (id : String) (t : Instant) (e : Event) : Prop :=
  ∃ msg, e = .message msg t ∧ msg.topic = receiveTopic id

/-- The last message on the beacon's receive topic was processed at `t`. -/
def LastMessage (es : List Event) (id : String) (t : Instant) : Prop :=
  Since (MessageAt id t) (fun e => ∃ t', MessageAt id t' e) es

/-- `t` is the later of the creation of the record and the last message of the beacon. -/
def LastHeard (app : App) (es : List Event) (id : String) (t : Instant) : Prop :=
  IsGreatest {t | Created app es id t ∨ LastMessage es id t} t

/-- The beacon has not been heard of for more than `BEACON_TIMEOUT`. -/
def Silent (app : App) (es : List Event) (now : Instant) (id : String) : Prop :=
  ∃ t, LastHeard app es id t ∧ beaconTimeout < now - t

section Heard

variable {app : App} {es : List Event} {s s' : LoopState} {e : Event} {id : String} {t : Instant}

theorem created_concat (hrun : loopRun app es = some s) (hstep : step app s e = some s') :
    Created app (es ++ [e]) id t ↔
      CreatesRecord id t ⟨s, e, s'⟩ ∨ Created app es id t ∧ s'.registry.record? id ≠ none := by
  rw [Created, EventRun.transitions_concat hrun hstep, since_concat]
  rfl

theorem lastMessage_concat :
    LastMessage (es ++ [e]) id t ↔
      MessageAt id t e ∨ LastMessage es id t ∧ ¬ ∃ t', MessageAt id t' e := since_concat

/-- Nothing was heard of the beacon later than the next reading of the clock. -/
theorem heard_le {now : Instant} (hclock : ClockMonotone (es ++ [e])) (he : clockOf e = some now)
    (ht : Created app es id t ∨ LastMessage es id t) : t ≤ now := by
  have hread : ∃ d ∈ es, clockOf d = some t := by
    rcases ht with ht | ht
    · obtain ⟨x, hx, -, c, subscribed, hevent, -⟩ := Since.exists ht
      exact ⟨x.event, EventRun.event_mem_of_mem_transitions hx, by rw [hevent]; rfl⟩
    · obtain ⟨d, hd, msg, rfl, -⟩ := Since.exists ht
      exact ⟨_, hd, rfl⟩
  obtain ⟨d, hd, hdt⟩ := hread
  rw [ClockMonotone, List.filterMap_append, List.pairwise_append] at hclock
  refine hclock.2.2 t (List.mem_filterMap.mpr ⟨d, hd, hdt⟩) now ?_
  exact List.mem_filterMap.mpr ⟨e, List.mem_cons_self, he⟩

/-- A step that neither creates the record nor is a message of the beacon tells nothing new. -/
theorem lastHeard_concat_of_not (hrun : loopRun app es = some s) (hstep : step app s e = some s')
    (hc : ∀ t, ¬ CreatesRecord id t ⟨s, e, s'⟩) (hm : ∀ t, ¬ MessageAt id t e)
    (hrec : s'.registry.record? id ≠ none) (h : LastHeard app es id t) :
    LastHeard app (es ++ [e]) id t := by
  have hsame : ∀ t, (Created app (es ++ [e]) id t ∨ LastMessage (es ++ [e]) id t) ↔
      Created app es id t ∨ LastMessage es id t := by
    intro t
    rw [created_concat hrun hstep, lastMessage_concat]
    simp [hc t, hm, hrec]
  exact ⟨(hsame t).mpr h.1, fun t' ht' => h.2 ((hsame t').mp ht')⟩

/-- A step at clock reading `now` that does either makes `now` the latest reading. -/
theorem lastHeard_concat_of_heard {now : Instant} (hrun : loopRun app es = some s)
    (hstep : step app s e = some s') (hclock : ClockMonotone (es ++ [e]))
    (he : clockOf e = some now)
    (hnow : CreatesRecord id now ⟨s, e, s'⟩ ∨ MessageAt id now e) :
    LastHeard app (es ++ [e]) id now := by
  refine ⟨?_, ?_⟩
  · rcases hnow with h | h
    · exact .inl ((created_concat hrun hstep).mpr (.inl h))
    · exact .inr (lastMessage_concat.mpr (.inl h))
  · have hle : ∀ {t}, Created app es id t ∨ LastMessage es id t → t ≤ now := heard_le hclock he
    rintro t (ht | ht)
    · rcases (created_concat hrun hstep).mp ht with ⟨-, c, subscribed, rfl, -⟩ | ⟨h, -⟩
      · exact (Option.some.inj he).le
      · exact hle (.inl h)
    · rcases lastMessage_concat.mp ht with ⟨msg, rfl, -⟩ | ⟨h, -⟩
      · exact (Option.some.inj he).le
      · exact hle (.inr h)

end Heard

-- ── What `last_seen` says ────────────────────────────────────────────────────

/-- The `last_seen` of a registered beacon. -/
abbrev lastSeen? : BeaconRegistry → String → Option Instant := field? fun r => some r.lastSeen

theorem lastSeen?_eq_some {reg : BeaconRegistry} {id : String} {t : Instant} :
    lastSeen? reg id = some t ↔ ∃ r, reg.record? id = some r ∧ r.lastSeen = t := by
  rw [field?_eq_some]
  simp

theorem lastSeen?_eq_none {reg : BeaconRegistry} {id : String} :
    lastSeen? reg id = none ↔ reg.record? id = none := by
  rw [lastSeen?, field?]
  cases reg.record? id <;> simp

theorem record?_ne_none_of_lastSeen? {reg : BeaconRegistry} {id : String} {t : Instant}
    (h : lastSeen? reg id = some t) : reg.record? id ≠ none := by
  intro hnone
  rw [lastSeen?_eq_none.mpr hnone] at h
  cases h

/-- A channel of any type sets `last_seen` only if it creates the record. -/
theorem lastSeen?_registerChannel (reg : BeaconRegistry) (c : TopicChannel) (now : Instant)
    (subscribed : Except String Unit) (id : String) :
    lastSeen? (reg.registerChannel c now subscribed) id =
      if id = c.beaconId then some ((lastSeen? reg id).getD now) else lastSeen? reg id := by
  have hensure : lastSeen? (reg.ensureRecord c.beaconId now) id =
      if id = c.beaconId then some ((lastSeen? reg id).getD now) else lastSeen? reg id := by
    rw [lastSeen?, field?, BeaconRegistry.record?_ensureRecord]
    by_cases h : id = c.beaconId
    · rw [if_pos h, if_pos h, ← h, field?]
      cases reg.record? id <;> rfl
    · rw [if_neg h, if_neg h, field?]
  rw [← hensure]
  have hmodify : ∀ (reg' : BeaconRegistry) (f : BeaconRecord → BeaconRecord),
      (∀ r, (f r).lastSeen = r.lastSeen) →
      lastSeen? (reg'.modifyRecord c.beaconId f) id = lastSeen? reg' id := by
    intro reg' f hf
    exact field?_modifyRecord (g := fun r => some r.lastSeen) reg' (fun r => by rw [hf r]) id
  obtain ⟨id', topic, type⟩ := c
  cases type with
  | listen =>
      cases subscribed with
      | error e => rfl
      | ok u => exact hmodify (reg.ensureRecord id' now) _ fun _ => rfl
  | broadcast =>
      exact hmodify ((reg.ensureRecord id' now).pushTopic topic.topic) _ fun _ => rfl
  | hybrid =>
      cases subscribed with
      | error e => rfl
      | ok u => exact hmodify ((reg.ensureRecord id' now).pushTopic topic.topic) _ fun _ => rfl

/-- A message sets `last_seen` of its sender. -/
theorem lastSeen?_onMessage (app : App) (reg : BeaconRegistry)
    (conns : List HamletCloudGateway.Connection) (msg : MqttMessage) (now : Instant) (id : String) :
    lastSeen? (onMessage app reg conns msg now).1 id =
      if senderOf msg.topic = some id then (lastSeen? reg id).map fun _ => now
      else lastSeen? reg id := by
  have hrefresh : lastSeen? (refreshSender reg msg.topic now) id =
      if senderOf msg.topic = some id then (lastSeen? reg id).map fun _ => now
      else lastSeen? reg id := by
    rw [lastSeen?, field?, record?_refreshSender, field?]
    split
    · cases reg.record? id <;> rfl
    · rfl
  rw [← hrefresh, onMessage]
  cases advertisedGateway msg.payload.value with
  | none => rfl
  | some u =>
      simp only []
      by_cases hk : (refreshSender reg msg.topic now).isGatewayKnown u = true
      · rw [if_pos hk]
      · rw [if_neg hk]
        show field? _ (associateSender _ _ _ _) id = _
        rw [field?, record?_associateSender]
        split
        · show Option.bind (Option.map _ ((refreshSender reg msg.topic now).record? id)) _ = _
          rw [lastSeen?, field?]
          cases (refreshSender reg msg.topic now).record? id <;> rfl
        · rfl

/-- The topic of a message names the beacon exactly if it is the beacon's receive topic. -/
theorem senderOf_eq_some {topic id : String} :
    senderOf topic = some id ↔ topic = receiveTopic id := stripSuffix_eq_some

/-- What `last_seen` of every record says is what the history says. -/
def SeenAsHeard (app : App) (es : List Event) (s : LoopState) : Prop :=
  ∀ id t, lastSeen? s.registry id = some t → LastHeard app es id t

section Seen

variable {app : App} {es : List Event} {s s' : LoopState}

theorem SeenAsHeard.sweep {e : Event} (h : SeenAsHeard app es s) (hrun : loopRun app es = some s)
    (hstep : step app s e = some s') (he : e.dropsSweep = false) :
    SeenAsHeard app (es ++ [e]) s' := by
  intro id t ht
  obtain ⟨r, hr, hrt⟩ := lastSeen?_eq_some.mp ht
  have hr' : s.registry.record? id = some r := by
    rcases record?_of_sweep hstep he id with hnone | hsame
    · rw [hnone] at hr
      cases hr
    · exact hsame.symm.trans hr
  have hheard := h id t (lastSeen?_eq_some.mpr ⟨r, hr', hrt⟩)
  refine lastHeard_concat_of_not hrun hstep ?_ ?_ (by simp [hr]) hheard
  · rintro t' ⟨-, c, subscribed, rfl, -⟩
    cases he
  · rintro t' ⟨msg, rfl, -⟩
    cases he

theorem SeenAsHeard.channel {c : TopicChannel} {now : Instant} {subscribed : Except String Unit}
    (h : SeenAsHeard app es s) (hrun : loopRun app es = some s)
    (hstep : step app s (.channel c now subscribed) = some s')
    (hclock : ClockMonotone (es ++ [.channel c now subscribed])) :
    SeenAsHeard app (es ++ [.channel c now subscribed]) s' := by
  intro id t ht
  have hrec := record?_ne_none_of_lastSeen? ht
  rw [step_channel hstep] at ht
  have hlast := lastSeen?_registerChannel s.registry c now subscribed id
  rw [hlast] at ht
  by_cases hnew : id = c.beaconId ∧ s.registry.record? id = none
  · -- the channel creates the record
    rw [if_pos hnew.1, lastSeen?_eq_none.mpr hnew.2] at ht
    obtain rfl : now = t := Option.some.inj ht
    exact lastHeard_concat_of_heard hrun hstep hclock rfl
      (.inl ⟨hnew.2, c, subscribed, rfl, hnew.1.symm⟩)
  · have hold : lastSeen? s.registry id = some t := by
      split at ht
      · rename_i hid
        cases hl : lastSeen? s.registry id with
        | none => exact absurd ⟨hid, lastSeen?_eq_none.mp hl⟩ hnew
        | some t' =>
            rw [hl] at ht
            exact ht
      · exact ht
    refine lastHeard_concat_of_not hrun hstep ?_ ?_ hrec (h id t hold)
    · rintro t' ⟨hnone, c', subscribed', heq, hid⟩
      obtain ⟨rfl, -, -⟩ := Event.channel.inj heq
      exact hnew ⟨hid.symm, hnone⟩
    · rintro t' ⟨msg, heq, -⟩
      cases heq

theorem SeenAsHeard.message {msg : MqttMessage} {now : Instant} (h : SeenAsHeard app es s)
    (hrun : loopRun app es = some s) (hstep : step app s (.message msg now) = some s')
    (hclock : ClockMonotone (es ++ [.message msg now])) :
    SeenAsHeard app (es ++ [.message msg now]) s' := by
  intro id t ht
  have hrec := record?_ne_none_of_lastSeen? ht
  rw [step_message hstep] at ht
  have hlast := lastSeen?_onMessage app s.registry s.connections msg now id
  rw [hlast] at ht
  by_cases hsender : senderOf msg.topic = some id
  · rw [if_pos hsender] at ht
    obtain ⟨t', -, rfl⟩ := Option.map_eq_some_iff.mp ht
    exact lastHeard_concat_of_heard hrun hstep hclock rfl
      (.inr ⟨msg, rfl, senderOf_eq_some.mp hsender⟩)
  · rw [if_neg hsender] at ht
    refine lastHeard_concat_of_not hrun hstep ?_ ?_ hrec (h id t ht)
    · rintro t' ⟨-, c, subscribed, heq, -⟩
      cases heq
    · rintro t' ⟨msg', heq, htopic⟩
      obtain ⟨rfl, -⟩ := Event.message.inj heq
      exact hsender (senderOf_eq_some.mpr htopic)

end Seen

/-- **`last_seen` is when the beacon was last heard of**, in every reachable state. -/
theorem lastHeard_run (app : App) (es : List Event) (s : LoopState)
    (hrun : loopRun app es = some s) (hclock : ClockMonotone es) : SeenAsHeard app es s := by
  revert hclock
  refine EventRun.run_induction (P := fun es s => ClockMonotone es → SeenAsHeard app es s)
    ?_ ?_ es s hrun
  · intro _ id t ht
    exact absurd (BeaconRegistry.record?_new app.ownGatewayUrl id) (record?_ne_none_of_lastSeen? ht)
  · intro es e s s' hrun ih hstep hclock
    have hprev : ClockMonotone es := by
      rw [ClockMonotone, List.filterMap_append, List.pairwise_append] at hclock
      exact hclock.1
    cases e with
    | channel c now subscribed => exact (ih hprev).channel hrun hstep hclock
    | message msg now => exact (ih hprev).message hrun hstep hclock
    | tick now stale => exact (ih hprev).sweep hrun hstep rfl
    | unsubscribed answer => exact (ih hprev).sweep hrun hstep rfl
    | topicsLocked => exact (ih hprev).sweep hrun hstep rfl

/-- The stale beacons are the registered ones that are silent. -/
theorem mem_staleIds_iff_silent {app : App} {es : List Event} {s : LoopState} {now : Instant}
    (hrun : loopRun app es = some s) (hclock : ClockMonotone es) (id : String) :
    id ∈ s.registry.staleIds now ↔
      s.registry.record? id ≠ none ∧ Silent app es now id := by
  have hmem : id ∈ s.registry.staleIds now ↔
      ∃ t, lastSeen? s.registry id = some t ∧ beaconTimeout < now - t := by
    rw [BeaconRegistry.staleIds, Finset.mem_filter, Finmap.mem_keys, ← Finmap.lookup_isSome,
      lastSeen?, field?]
    show (s.registry.record? id).isSome = true ∧ _ ↔ _
    cases s.registry.record? id <;> simp
  rw [hmem]
  constructor
  · rintro ⟨t, ht, hlt⟩
    exact ⟨record?_ne_none_of_lastSeen? ht, t, lastHeard_run app es s hrun hclock id t ht, hlt⟩
  · rintro ⟨hrec, t, ht, hlt⟩
    obtain ⟨r, hr⟩ := Option.ne_none_iff_exists'.mp hrec
    have hseen := lastSeen?_eq_some.mpr ⟨r, hr, rfl⟩
    -- the last time the beacon was heard of is unique
    have heq : r.lastSeen = t := (lastHeard_run app es s hrun hclock id _ hseen).unique ht
    exact ⟨t, heq ▸ hseen, hlt⟩

-- ── The sweep as one operation ───────────────────────────────────────────────

/-- One round of the `for` loop of `check_timeouts`, with nothing in between. -/
def deregister (reg : BeaconRegistry) (id : String) : BeaconRegistry :=
  match reg.record? id with
  | none => reg
  | some record => (reg.removeRecord id).release record

/-- The `unsubscribe` calls of the rounds for these ids. -/
def callsFor : BeaconRegistry → List String → List String
  | _, []          => []
  | reg, id :: ids => (listen? reg id).toList ++ callsFor (deregister reg id) ids

/-- The `unsubscribe` call a suspended sweep awaits. -/
def calling : SweepFuture → Option String
  | .unsubscribing _ record _ => some record.listenTopic
  | _ => none

/-- The `unsubscribe` calls issued along a run: each await of one is reached by a step. -/
def unsubscribeCalls (app : App) (s : LoopState) (es : List Event) : List String :=
  (EventRun.transitions (step app) s es).filterMap fun x => calling x.target.sweep

/-- What is left to do for a sweep: the registry once it is done with the record it holds, and the
    ids still to visit. -/
def remaining : BeaconRegistry × SweepFuture → BeaconRegistry × List String
  | (reg, .waitingTick)            => (reg, [])
  | (reg, .unsubscribing _ r rest) => (reg.release r, rest)
  | (reg, .lockingTopics _ r rest) => (reg.release r, rest)

/-- The registry in which the sweep will end. -/
def outcome (x : BeaconRegistry × SweepFuture) : BeaconRegistry :=
  (remaining x).2.foldl deregister (remaining x).1

/-- The `unsubscribe` calls the sweep has still to issue. -/
def callsLeft (x : BeaconRegistry × SweepFuture) : List String :=
  callsFor (remaining x).1 (remaining x).2

/-- The loop up to its next await leaves the rest of the rounds to do. -/
theorem sweepNext_remaining (ids : List String) (reg : BeaconRegistry) :
    outcome (sweepNext reg ids) = ids.foldl deregister reg ∧
      callsFor reg ids =
        (calling (sweepNext reg ids).2).toList ++ callsLeft (sweepNext reg ids) := by
  induction ids generalizing reg with
  | nil => exact ⟨rfl, rfl⟩
  | cons id rest ih =>
      rw [sweepNext, List.foldl_cons, callsFor, deregister, listen?, field?]
      cases reg.record? id with
      | none => exact ih reg
      | some r =>
          simp only [Option.bind_some, listenOf]
          by_cases hl : r.listenTopic = ""
          · rw [if_neg (not_not.mpr hl), if_pos hl]
            by_cases hb : r.broadcastTopic = ""
            · rw [if_neg (not_not.mpr hb), BeaconRegistry.release, if_neg (not_not.mpr hb)]
              exact ih _
            · rw [if_pos hb]
              exact ⟨rfl, rfl⟩
          · rw [if_pos hl, if_neg hl]
            exact ⟨rfl, rfl⟩

/-- The events of a sweep after its tick. -/
def GetsPastAwait (e : Event) : Prop := e = .topicsLocked ∨ ∃ answer, e = .unsubscribed answer

/-- Getting past an await changes nothing of what the sweep will have done in the end. -/
theorem step_remaining {app : App} {own : Option String} {s s' : LoopState} {e : Event}
    (hs : GatewayHolds own s) (he : GetsPastAwait e) (hstep : step app s e = some s') :
    outcome (s'.registry, s'.sweep) = outcome (s.registry, s.sweep) ∧
      callsLeft (s.registry, s.sweep) =
        (calling s'.sweep).toList ++ callsLeft (s'.registry, s'.sweep) := by
  obtain ⟨reg, fut, conns⟩ := s
  rcases he with rfl | ⟨answer, rfl⟩
  · cases fut with
    | waitingTick => cases hstep
    | unsubscribing id r rest => cases hstep
    | lockingTopics id r rest =>
        obtain rfl := Option.some.inj hstep
        have hb : r.broadcastTopic ≠ "" := hs.2
        have hdone : reg.release r = (reg.retainTopics r.broadcastTopic).evictGateway r :=
          if_pos hb
        have hnext := sweepNext_remaining rest (reg.release r)
        rw [hdone] at hnext
        refine ⟨hnext.1.trans ?_, Eq.trans ?_ hnext.2⟩
        · rw [← hdone]; rfl
        · rw [← hdone]; rfl
  · cases fut with
    | waitingTick => cases hstep
    | lockingTopics id r rest => cases hstep
    | unsubscribing id r rest =>
        obtain rfl := Option.some.inj hstep
        show outcome (afterUnsubscribe reg id r rest) = _ ∧
          _ = (calling (afterUnsubscribe reg id r rest).2).toList ++
            callsLeft (afterUnsubscribe reg id r rest)
        rw [afterUnsubscribe]
        by_cases hb : r.broadcastTopic = ""
        · rw [if_neg (not_not.mpr hb)]
          have hdone : reg.release r = reg.evictGateway r := if_neg (not_not.mpr hb)
          have hnext := sweepNext_remaining rest (reg.release r)
          rw [hdone] at hnext
          refine ⟨hnext.1.trans ?_, Eq.trans ?_ hnext.2⟩
          · rw [← hdone]; rfl
          · rw [← hdone]; rfl
        · rw [if_pos hb]
          exact ⟨rfl, rfl⟩

/-- A sweep that runs to its end: the tick, then only its own awaits, until the loop is between
    two iterations again. -/
structure CompletesSweep (app : App) (s : LoopState) (now : Instant) (stale : List String)
    (ws : List Event) (s' : LoopState) : Prop where
  run     : EventRun.run (step app) s (.tick now stale :: ws) = some s'
  awaits  : ∀ e ∈ ws, GetsPastAwait e
  between : s'.BetweenIterations

/-- All awaits of a sweep. Induction on the events, the first one first. -/
theorem run_remaining {app : App} {own : Option String} {ws : List Event} {s s' : LoopState}
    (hs : GatewayHolds own s) (hws : ∀ e ∈ ws, GetsPastAwait e)
    (hrun : EventRun.run (step app) s ws = some s') :
    outcome (s'.registry, s'.sweep) = outcome (s.registry, s.sweep) ∧
      callsLeft (s.registry, s.sweep) =
        unsubscribeCalls app s ws ++ callsLeft (s'.registry, s'.sweep) ∧
      s'.connections = s.connections := by
  induction ws generalizing s with
  | nil =>
      obtain rfl : s = s' := Option.some.inj hrun
      exact ⟨rfl, rfl, rfl⟩
  | cons e ws ih =>
      obtain ⟨u, hu, hrest⟩ := Option.bind_eq_some_iff.mp hrun
      have he := hws e List.mem_cons_self
      have hd : e.dropsSweep = false := by
        rcases he with rfl | ⟨answer, rfl⟩ <;> rfl
      obtain ⟨hout, hcalls⟩ := step_remaining hs he hu
      obtain ⟨hout', hcalls', hconns'⟩ := ih (gatewayHolds_step hs hu)
        (fun d hd => hws d (List.mem_cons_of_mem e hd)) hrest
      refine ⟨hout'.trans hout, ?_, hconns'.trans (connections_of_sweep hu hd)⟩
      rw [hcalls, hcalls', ← List.append_assoc, unsubscribeCalls, unsubscribeCalls,
        EventRun.transitions_cons hu]
      congr 1
      cases hc : calling u.sweep <;> simp [hc]

/-- A tick starts a sweep of the stale beacons, each visited once. -/
theorem step_tick {app : App} {s s' : LoopState} {now : Instant} {stale : List String}
    (h : step app s (.tick now stale) = some s') :
    stale.Nodup ∧ stale.toFinset = s.registry.staleIds now ∧
      s' = { registry := (sweepNext s.registry stale).1, sweep := (sweepNext s.registry stale).2,
             connections := s.connections } := by
  obtain ⟨reg, fut, conns⟩ := s
  cases fut with
  | unsubscribing id r rest => cases h
  | lockingTopics id r rest => cases h
  | waitingTick =>
      simp only [step] at h
      split at h
      · rename_i hstale
        exact ⟨hstale.1, hstale.2, (Option.some.inj h).symm⟩
      · cases h

/-- **A completed sweep deregisters the stale beacons one by one**, whatever the answers to its
    `unsubscribe` calls. -/
theorem sweep_outcome {app : App} {own : Option String} {s s' : LoopState} {now : Instant}
    {stale : List String} {ws : List Event} (hs : GatewayHolds own s)
    (h : CompletesSweep app s now stale ws s') :
    stale.Nodup ∧ stale.toFinset = s.registry.staleIds now ∧
      s' = { registry := stale.foldl deregister s.registry, sweep := .waitingTick,
             connections := s.connections } ∧
      unsubscribeCalls app s (.tick now stale :: ws) = callsFor s.registry stale := by
  obtain ⟨u, hu, hrest⟩ := Option.bind_eq_some_iff.mp h.run
  obtain ⟨hnodup, hstale, hu'⟩ := step_tick hu
  obtain ⟨hout, hcalls, hconns⟩ := run_remaining (gatewayHolds_step hs hu) h.awaits hrest
  obtain ⟨hnext, hnextCalls⟩ := sweepNext_remaining stale s.registry
  obtain ⟨reg', fut', conns'⟩ := s'
  obtain rfl : fut' = .waitingTick := h.between
  have hlast : callsLeft (reg', .waitingTick) = [] := rfl
  rw [hlast, List.append_nil] at hcalls
  rw [hu'] at hout hcalls hconns
  refine ⟨hnodup, hstale, ?_, ?_⟩
  · have hreg : reg' = stale.foldl deregister s.registry := hout.trans hnext
    rw [hreg]
    exact congrArg _ hconns
  · rw [unsubscribeCalls, EventRun.transitions_cons hu, List.filterMap_cons, hnextCalls, hu']
    simp only [hcalls]
    cases calling (sweepNext s.registry stale).2 <;> simp [unsubscribeCalls]

-- ── What the rounds amount to ────────────────────────────────────────────────

/-- The broadcast topic of a record, once it has one. -/
def castOf (r : BeaconRecord) : Option String :=
  if r.broadcastTopic = "" then none else some r.broadcastTopic

/-- The broadcast topic of a registered beacon. -/
abbrev cast? : BeaconRegistry → String → Option String := field? castOf

theorem cast?_eq_some {reg : BeaconRegistry} {id t : String} :
    cast? reg id = some t ↔ castTopic? reg id = some t ∧ t ≠ "" := by
  rw [field?_eq_some, castTopic?_eq_some]
  constructor
  · rintro ⟨r, hr, ht⟩
    rw [castOf] at ht
    split at ht
    · cases ht
    · rename_i hne
      obtain rfl := Option.some.inj ht
      exact ⟨⟨r, hr, rfl⟩, hne⟩
  · rintro ⟨⟨r, hr, rfl⟩, hne⟩
    exact ⟨r, hr, if_neg hne⟩

section Rounds

variable {reg : BeaconRegistry} {id : String}

theorem record?_deregister (id' : String) :
    (deregister reg id).record? id' = if id' = id then none else reg.record? id' := by
  rw [deregister]
  cases hr : reg.record? id with
  | none =>
      by_cases h : id' = id
      · rw [if_pos h, h]; exact hr
      · rw [if_neg h]
  | some r =>
      simp only []
      rw [BeaconRegistry.record?_release, BeaconRegistry.record?_removeRecord]

theorem field?_deregister {β : Type} {g : BeaconRecord → Option β} (id' : String) :
    field? g (deregister reg id) id' = if id' = id then none else field? g reg id' := by
  rw [field?, record?_deregister, field?]
  split <;> rfl

theorem topics_deregister :
    (deregister reg id).broadcastTopics =
      reg.broadcastTopics.filter fun t => decide (cast? reg id ≠ some t) := by
  cases hr : reg.record? id with
  | none =>
      have hnone : cast? reg id = none := by rw [cast?, field?, hr]; rfl
      simp [deregister, hr, hnone]
  | some r =>
      have hcast : cast? reg id = castOf r := by rw [cast?, field?, hr]; rfl
      by_cases hb : r.broadcastTopic = ""
      · have hnone : cast? reg id = none := hcast.trans (if_pos hb)
        simp [deregister, hr, BeaconRegistry.release, hb, hnone, BeaconRegistry.removeRecord]
      · have hsome : cast? reg id = some r.broadcastTopic := hcast.trans (if_neg hb)
        simp [deregister, hr, BeaconRegistry.release, hb, hsome, BeaconRegistry.removeRecord,
          BeaconRegistry.retainTopics, eq_comm]

theorem mem_known_deregister {u : String} :
    u ∈ (deregister reg id).knownGateways ↔ u ∈ reg.knownGateways ∧ url? reg id ≠ some u := by
  rw [deregister, url?, field?]
  cases reg.record? id with
  | none => simp
  | some r =>
      simp only [Option.bind_some]
      exact mem_known_release

end Rounds

theorem record?_deregisterAll (ids : List String) (reg : BeaconRegistry) (id : String) :
    (ids.foldl deregister reg).record? id = if id ∈ ids then none else reg.record? id := by
  induction ids generalizing reg with
  | nil => simp
  | cons id' ids ih =>
      rw [List.foldl_cons, ih, record?_deregister]
      by_cases h : id = id' <;> simp [h]

/-- A field of the ids still to visit does not change, unless an id comes again. -/
theorem forall_field?_deregister {β : Type} {g : BeaconRecord → Option β} {reg : BeaconRegistry}
    {id : String} {ids : List String} {b : β} (hb : field? g reg id ≠ some b) :
    (∀ id' ∈ ids, field? g (deregister reg id) id' ≠ some b) ↔
      ∀ id' ∈ ids, field? g reg id' ≠ some b := by
  refine forall₂_congr fun id' _ => ?_
  rw [field?_deregister]
  by_cases h : id' = id
  · rw [if_pos h, h]
    exact ⟨fun _ => hb, fun _ hnone => nomatch hnone⟩
  · rw [if_neg h]

theorem topics_deregisterAll (ids : List String) (reg : BeaconRegistry) :
    (ids.foldl deregister reg).broadcastTopics =
      reg.broadcastTopics.filter fun t => decide (∀ id ∈ ids, cast? reg id ≠ some t) := by
  induction ids generalizing reg with
  | nil => simp
  | cons id ids ih =>
      rw [List.foldl_cons, ih, topics_deregister, List.filter_filter]
      refine List.filter_congr fun t _ => ?_
      rw [Bool.eq_iff_iff, Bool.and_eq_true, and_comm]
      simp only [decide_eq_true_eq, List.forall_mem_cons]
      exact and_congr_right fun h => forall_field?_deregister h

theorem mem_known_deregisterAll {u : String} (ids : List String) (reg : BeaconRegistry) :
    u ∈ (ids.foldl deregister reg).knownGateways ↔
      u ∈ reg.knownGateways ∧ ∀ id ∈ ids, url? reg id ≠ some u := by
  induction ids generalizing reg with
  | nil => simp
  | cons id ids ih =>
      rw [List.foldl_cons, ih, mem_known_deregister, List.forall_mem_cons, and_assoc]
      refine and_congr_right fun _ => and_congr_right fun h => ?_
      exact forall_field?_deregister h

/-- The calls are the listen topics of the beacons, in the order of the visits. -/
theorem callsFor_eq {ids : List String} (hids : ids.Nodup) (reg : BeaconRegistry) :
    callsFor reg ids = ids.filterMap (listen? reg) := by
  induction ids generalizing reg with
  | nil => rfl
  | cons id ids ih =>
      obtain ⟨hid, hids'⟩ := List.nodup_cons.mp hids
      have hsame : ids.filterMap (listen? (deregister reg id)) = ids.filterMap (listen? reg) := by
        refine List.filterMap_congr fun id' hid' => ?_
        have hne : id' ≠ id := by rintro rfl; exact hid hid'
        rw [listen?, field?_deregister, if_neg hne]
      rw [callsFor, ih hids', hsame, List.filterMap_cons]
      cases listen? reg id <;> rfl

/-- Every run keeps a beacon's listen topic its own. -/
theorem listenHolds_run (app : App) (es : List Event) (s : LoopState)
    (hrun : loopRun app es = some s) (hcs : FromHandshakes (channelsOf es)) :
    ListenHolds (channelsOf es) (fun _ => False) s := by
  refine holds_run (I := fun cs reg _ => ListenInv cs (fun _ => False) reg)
    (Q := fun cs reg _ id r => ListenPending cs (fun _ => False) reg id r) ?_
    (fun _ _ _ _ _ h hr => h.take hr) (fun _ _ _ _ _ h => h.finish)
    (fun _ _ _ _ _ h => h.toListenInv) ?_ ?_ es s hrun hcs
  · refine ⟨?_, fun t ht => ht.elim⟩
    intro id t ht
    rw [listen?, field?, BeaconRegistry.record?_new] at ht
    cases ht
  · intro cs c now subscribed reg _ hcs h
    exact h.channel now subscribed hcs
  · intro cs msg now reg conns h
    exact h.message app conns msg now

/-- What a sweep of the beacons `removed` does to the registry, with the `unsubscribe` calls it
    makes: their records, topics and gateway URLs go, and nothing else. -/
structure SweepEffect (removed : Finset String) (reg reg' : BeaconRegistry) (calls : List String) :
    Prop where
  records      : ∀ id, reg'.record? id = if id ∈ removed then none else reg.record? id
  topics       : reg'.broadcastTopics =
    reg.broadcastTopics.filter fun t => decide (∀ id ∈ removed, cast? reg id ≠ some t)
  gateways     : ∀ u, u ∈ reg'.knownGateways ↔
    u ∈ reg.knownGateways ∧ ∀ id ∈ removed, url? reg id ≠ some u
  topic_kept   : ∀ id t, cast? reg' id = some t → t ∈ reg'.broadcastTopics
  gateway_kept : ∀ id u, url? reg' id = some u → u ∈ reg'.knownGateways
  calls_nodup  : calls.Nodup
  mem_calls    : ∀ t, t ∈ calls ↔ ∃ id ∈ removed, listen? reg id = some t

/-- The set of beacons determines the result. -/
theorem SweepEffect.unique {removed : Finset String} {reg reg₁ reg₂ : BeaconRegistry}
    {calls₁ calls₂ : List String} (h₁ : SweepEffect removed reg reg₁ calls₁)
    (h₂ : SweepEffect removed reg reg₂ calls₂) : reg₁ = reg₂ ∧ calls₁.Perm calls₂ := by
  have hrecords : reg₁.records = reg₂.records :=
    Finmap.ext_lookup fun id => (h₁.records id).trans (h₂.records id).symm
  have hknown : reg₁.knownGateways = reg₂.knownGateways := by
    ext u
    rw [h₁.gateways, h₂.gateways]
  have htopics : reg₁.broadcastTopics = reg₂.broadcastTopics := h₁.topics.trans h₂.topics.symm
  refine ⟨?_, ?_⟩
  · obtain ⟨records₁, known₁, topics₁⟩ := reg₁
    obtain ⟨records₂, known₂, topics₂⟩ := reg₂
    simp only at hrecords hknown htopics
    rw [hrecords, hknown, htopics]
  · rw [List.perm_ext_iff_of_nodup h₁.calls_nodup h₂.calls_nodup]
    intro t
    rw [h₁.mem_calls, h₂.mem_calls]

/-- The awaits of a sweep register no channel. -/
theorem channelsOf_awaits {ws : List Event} (hws : ∀ e ∈ ws, GetsPastAwait e) :
    channelsOf ws = [] := by
  refine List.filterMap_eq_nil_iff.mpr ?_
  intro e he
  rcases hws e he with rfl | ⟨answer, rfl⟩ <;> rfl

/-- A completed sweep has the effect, for the beacons that are stale when it starts. -/
theorem sweepEffect_of_completes {app : App} {es : List Event} {s s' : LoopState} {now : Instant}
    {stale : List String} {ws : List Event} (hrun : loopRun app es = some s)
    (hcs : FromHandshakes (channelsOf es)) (h : CompletesSweep app s now stale ws s') :
    SweepEffect (s.registry.staleIds now) s.registry s'.registry
      (unsubscribeCalls app s (.tick now stale :: ws)) := by
  obtain ⟨hnodup, hstale, hs', hcalls⟩ := sweep_outcome (gatewayHolds_run app es s hrun) h
  have hmem : ∀ id, id ∈ s.registry.staleIds now ↔ id ∈ stale := by
    intro id
    rw [← hstale, List.mem_toFinset]
  have hreg : s'.registry = stale.foldl deregister s.registry := by rw [hs']
  -- the state after the sweep is one of the run, and no channel was registered meanwhile
  have hrun' : loopRun app (es ++ .tick now stale :: ws) = some s' :=
    EventRun.run_append_eq_some.mpr ⟨s, hrun, h.run⟩
  have hcs' : channelsOf (es ++ .tick now stale :: ws) = channelsOf es := by
    rw [channelsOf_append]
    exact (congrArg _ (channelsOf_awaits h.awaits)).trans (List.append_nil _)
  have htopic : TopicInv (channelsOf es) s'.registry := by
    have := topicHolds_run app _ s' hrun' (by rw [hcs']; exact hcs)
    rw [hcs'] at this
    exact this.drop fun _ _ _ hq => hq.toTopicInv
  have hown : ∀ id t, listen? s.registry id = some t → t = receiveTopic id :=
    fun id t ht => (((listenHolds_run app es s hrun hcs).drop
      fun _ _ _ hq => hq.toListenInv).listed id t ht).1
  refine ⟨?_, ?_, ?_, ?_, ?_, ?_, ?_⟩
  · intro id
    rw [hreg, record?_deregisterAll, if_congr (hmem id) rfl rfl]
  · rw [hreg, topics_deregisterAll]
    simp only [hmem]
  · intro u
    rw [hreg, mem_known_deregisterAll]
    simp only [hmem]
  · intro id t ht
    obtain ⟨hcast, hne⟩ := cast?_eq_some.mp ht
    exact (htopic.listed id t hcast hne).2
  · exact (gatewayHolds_run app _ s' hrun').inv.url_known
  · -- two beacons have different listen topics
    rw [hcalls, callsFor_eq hnodup]
    refine hnodup.filterMap ?_
    intro id id' t ht ht'
    exact receiveTopic_injective ((hown id t ht).symm.trans (hown id' t ht'))
  · intro t
    rw [hcalls, callsFor_eq hnodup, List.mem_filterMap]
    simp only [hmem]

/-- **A timeout sweep removes exactly the silent beacons.** Their records, topics and gateway URLs
    go and one `unsubscribe` is issued for each listen topic; the order in which the hash map yields
    them and the answers to the calls leave no trace. -/
theorem sweep_removes_silent (app : App) (es : List Event) (s s' : LoopState) (now : Instant)
    (stale : List String) (ws : List Event) (hrun : loopRun app es = some s)
    (hcs : FromHandshakes (channelsOf es)) (hclock : ClockMonotone es)
    (hsweep : CompletesSweep app s now stale ws s') :
    ∃ removed : Finset String,
      (∀ id, id ∈ removed ↔ s.registry.record? id ≠ none ∧ Silent app es now id) ∧
      SweepEffect removed s.registry s'.registry
        (unsubscribeCalls app s (.tick now stale :: ws)) ∧
      ∀ stale₂ ws₂ s₂, CompletesSweep app s now stale₂ ws₂ s₂ →
        s₂ = s' ∧ (unsubscribeCalls app s (.tick now stale₂ :: ws₂)).Perm
          (unsubscribeCalls app s (.tick now stale :: ws)) := by
  have heffect := sweepEffect_of_completes hrun hcs hsweep
  refine ⟨s.registry.staleIds now, mem_staleIds_iff_silent hrun hclock, heffect, ?_⟩
  intro stale₂ ws₂ s₂ hsweep₂
  obtain ⟨hreg, hperm⟩ := (sweepEffect_of_completes hrun hcs hsweep₂).unique heffect
  have hs := gatewayHolds_run app es s hrun
  obtain ⟨-, -, hs', -⟩ := sweep_outcome hs hsweep
  obtain ⟨-, -, hs₂, -⟩ := sweep_outcome hs hsweep₂
  refine ⟨?_, hperm⟩
  rw [hs', hs₂] at hreg
  rw [hs', hs₂]
  exact congrArg (fun reg => LoopState.mk reg .waitingTick s.connections) hreg

/-- Two beacons; the second one sends a message after a minute, the first one never does. -/
def oneSilentBeacon : List Event :=
  [.channel (listenChannel "b1") 0 (.ok ()), .channel (broadcastChannel "b1") 0 (.ok ()),
   .channel (listenChannel "b2") 0 (.ok ()),
   .message { topic := "b2/rec", payload := .raw "hello" } (60 * 10 ^ 9)]

theorem oneSilentBeacon_fromHandshakes : FromHandshakes (channelsOf oneSilentBeacon) := by
  refine ⟨by decide, ?_⟩
  intro c hc
  have hc' : c = listenChannel "b1" ∨ c = broadcastChannel "b1" ∨ c = listenChannel "b2" := by
    simpa [oneSilentBeacon, channelsOf] using hc
  rcases hc' with rfl | rfl | rfl
  · exact ⟨"b1", .inl rfl⟩
  · exact ⟨"b1", .inr rfl⟩
  · exact ⟨"b2", .inl rfl⟩

/-- A sweep after two minutes finds the first beacon only; its `unsubscribe` fails. -/
theorem sweep_removes_silent_oneSilentBeacon :
    ∃ s s', loopRun plainApp oneSilentBeacon = some s ∧
      FromHandshakes (channelsOf oneSilentBeacon) ∧ ClockMonotone oneSilentBeacon ∧
      CompletesSweep plainApp s (121 * 10 ^ 9) ["b1"]
        [.unsubscribed (.error "closed"), .topicsLocked] s' ∧
      ∃ removed : Finset String,
        (∀ id, id ∈ removed ↔ s.registry.record? id ≠ none ∧
          Silent plainApp oneSilentBeacon (121 * 10 ^ 9) id) ∧
        SweepEffect removed s.registry s'.registry (unsubscribeCalls plainApp s
          [.tick (121 * 10 ^ 9) ["b1"], .unsubscribed (.error "closed"), .topicsLocked]) := by
  have hclock : ClockMonotone oneSilentBeacon := by
    rw [ClockMonotone]
    decide
  have hawaits : ∀ e ∈ [Event.unsubscribed (.error "closed"), .topicsLocked], GetsPastAwait e := by
    simp [GetsPastAwait]
  obtain ⟨s, s', hrun, hsweep⟩ : ∃ s s', loopRun plainApp oneSilentBeacon = some s ∧
      CompletesSweep plainApp s (121 * 10 ^ 9) ["b1"]
        [.unsubscribed (.error "closed"), .topicsLocked] s' := by
    refine ⟨_, _, rfl, rfl, hawaits, ?_⟩
    rfl
  obtain ⟨removed, hremoved, heffect, -⟩ := sweep_removes_silent plainApp oneSilentBeacon s s'
    (121 * 10 ^ 9) ["b1"] _ hrun oneSilentBeacon_fromHandshakes hclock hsweep
  exact ⟨s, s', hrun, oneSilentBeacon_fromHandshakes, hclock, hsweep, removed, hremoved, heffect⟩

-- ── Sweeps that are dropped ──────────────────────────────────────────────────

/-- A tick that finds a silent beacon. -/
def found : Event → ℕ
  | .tick _ (_ :: _) => 1
  | _                => 0

section Dropped

variable {app : App} {s s' : LoopState}

theorem mem_keys_iff {reg : BeaconRegistry} {id : String} :
    id ∈ reg.records.keys ↔ reg.record? id ≠ none := by
  rw [Finmap.mem_keys, ← Finmap.lookup_isSome, BeaconRegistry.record?, Option.isSome_iff_ne_none]

/-- A sweep has taken its first beacon out before it awaits anything. -/
theorem keys_sweepNext (reg : BeaconRegistry) (ids : List String) :
    (sweepNext reg ids).1.records.keys ⊆ reg.records.keys ∧
      ∀ id ∈ ids.head?, (sweepNext reg ids).1.record? id = none := by
  refine ⟨?_, ?_⟩
  · intro id hid
    rw [mem_keys_iff] at hid ⊢
    rcases record?_sweepNext ids reg id with hnone | hsame
    · exact absurd hnone hid
    · rwa [hsame] at hid
  · intro id hid
    cases ids with
    | nil => cases hid
    | cons id' rest =>
        obtain rfl := Option.some.inj hid
        have hgone : (reg.removeRecord id').record? id' = none := by
          rw [BeaconRegistry.record?_removeRecord, if_pos rfl]
        rw [sweepNext]
        cases hr : reg.record? id' with
        | none =>
            rcases record?_sweepNext rest reg id' with hnone | hsame
            · exact hnone
            · rw [hsame, hr]
        | some r =>
            simp only []
            split
            · exact hgone
            · split
              · exact hgone
              · rcases record?_sweepNext rest ((reg.removeRecord id').evictGateway r) id' with
                  hnone | hsame
                · exact hnone
                · rw [hsame, BeaconRegistry.record?_evictGateway]
                  exact hgone

/-- A message neither adds a beacon nor takes one out. -/
theorem keys_onMessage (reg : BeaconRegistry) (conns : List HamletCloudGateway.Connection)
    (msg : MqttMessage) (now : Instant) :
    (onMessage app reg conns msg now).1.records.keys = reg.records.keys := by
  ext id
  rw [mem_keys_iff, mem_keys_iff, not_iff_not, ← lastSeen?_eq_none, ← lastSeen?_eq_none,
    lastSeen?_onMessage]
  split
  · exact Option.map_eq_none_iff
  · exact Iff.rfl

/-- A channel adds its own beacon at most. -/
theorem keys_registerChannel (reg : BeaconRegistry) (c : TopicChannel) (now : Instant)
    (subscribed : Except String Unit) :
    (reg.registerChannel c now subscribed).records.keys ⊆ insert c.beaconId reg.records.keys := by
  intro id hid
  rw [mem_keys_iff, ne_eq, ← lastSeen?_eq_none, lastSeen?_registerChannel] at hid
  rw [Finset.mem_insert, mem_keys_iff, ne_eq, ← lastSeen?_eq_none]
  by_cases h : id = c.beaconId
  · exact .inl h
  · rw [if_neg h] at hid
    exact .inr hid

/-- Every tick that finds a silent beacon takes one out, whatever becomes of its sweep. -/
theorem found_step {e : Event} (h : step app s e = some s') :
    found e + s'.registry.records.keys.card ≤
      s.registry.records.keys.card + (channelsOf [e]).length := by
  cases e with
  | channel c now subscribed =>
      rw [step_channel h]
      refine (Nat.zero_add _).trans_le ?_
      exact (Finset.card_le_card (keys_registerChannel s.registry c now subscribed)).trans
        (Finset.card_insert_le _ _)
  | message msg now =>
      rw [step_message h]
      refine (Nat.zero_add _).trans_le ?_
      exact Nat.le_of_eq (congrArg Finset.card (keys_onMessage s.registry s.connections msg now))
  | unsubscribed answer | topicsLocked =>
      refine (Nat.zero_add _).trans_le (Finset.card_le_card fun id hid => ?_)
      rw [mem_keys_iff] at hid ⊢
      rcases record?_of_sweep h rfl id with hnone | hsame
      · exact absurd hnone hid
      · rwa [hsame] at hid
  | tick now stale =>
      obtain ⟨-, hstale, rfl⟩ := step_tick h
      obtain ⟨hsub, hfirst⟩ := keys_sweepNext s.registry stale
      cases stale with
      | nil => exact (Nat.zero_add _).trans_le (Finset.card_le_card hsub)
      | cons id rest =>
          have hmem : id ∈ s.registry.records.keys := by
            have hid : id ∈ s.registry.staleIds now := by
              rw [← hstale]
              simp
            exact (Finset.mem_filter.mp hid).1
          have hlt : (sweepNext s.registry (id :: rest)).1.records.keys ⊂
              s.registry.records.keys := by
            refine Finset.ssubset_iff_of_subset hsub |>.mpr ⟨id, hmem, ?_⟩
            rw [mem_keys_iff, not_not]
            exact hfirst id rfl
          rw [Nat.add_comm]
          exact Finset.card_lt_card hlt

/-- **Dropped sweeps make progress.** The ticks that find a silent beacon are no more than the
    beacons there were and the channels registered meanwhile. -/
theorem found_run {es : List Event} (h : EventRun.run (step app) s es = some s') :
    (es.map found).sum + s'.registry.records.keys.card ≤
      s.registry.records.keys.card + (channelsOf es).length := by
  induction es generalizing s with
  | nil =>
      obtain rfl := Option.some.inj h
      exact Nat.le_of_eq (Nat.zero_add _)
  | cons e es ih =>
      obtain ⟨t, ht, hrest⟩ := Option.bind_eq_some_iff.mp h
      have hstep := found_step ht
      have hrun := ih hrest
      have hchannels : channelsOf (e :: es) = channelsOf [e] ++ channelsOf es :=
        channelsOf_append [e] es
      rw [hchannels, List.length_append, List.map_cons, List.sum_cons]
      omega

end Dropped

end HamletTimeoutSweep
