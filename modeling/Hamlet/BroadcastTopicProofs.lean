import Hamlet.RegistryProofs

/-!
# The shared topic list against the records

The broadcast loop publishes to `broadcast_topics`; the registry keeps, per beacon, the topic it
put there. `TopicsInSync` says that the list is exactly the topics of the registered beacons.

What holds of EVERY run is one half of it (`TopicInv`): a record's topic is in the list, once,
and it is the topic of that beacon. The other half — no topic without a record — is lost when
`select!` drops a sweep between taking a record out of the map and taking its topic out of the
list. `topicsInSync_iff` is exact: the two agree between all iterations of a run if and only if
no sweep of the run is dropped while it holds a record with a broadcast topic.
-/

namespace HamletBroadcastTopic

open RustText HamletRegistry HamletCloudGateway

/-- The channels registered along a run. -/
def channelsOf (es : List Event) : List TopicChannel :=
  es.filterMap fun
    | .channel c _ _ => some c
    | _ => none

/-- The channels come from device handshakes: each is one of the two that `handle_device_init`
    builds for an id, and no id is used for two handshakes. -/
def FromHandshakes (cs : List TopicChannel) : Prop :=
  cs.Nodup ∧ ∀ c ∈ cs, ∃ id, c = listenChannel id ∨ c = broadcastChannel id

/-- The list holds no topic twice, and exactly the non-empty topics of the records. -/
def TopicsInSync (reg : BeaconRegistry) : Prop :=
  reg.broadcastTopics.Nodup ∧
    ∀ t, t ∈ reg.broadcastTopics ↔
      t ≠ "" ∧ ∃ id r, reg.record? id = some r ∧ r.broadcastTopic = t

-- ── The broadcast topics as the records have them ────────────────────────────

/-- The broadcast topic of a registered beacon, empty while it has none. -/
def castTopic? (reg : BeaconRegistry) (id : String) : Option String :=
  (reg.record? id).map BeaconRecord.broadcastTopic

theorem castTopic?_eq_some {reg : BeaconRegistry} {id t : String} :
    castTopic? reg id = some t ↔ ∃ r, reg.record? id = some r ∧ r.broadcastTopic = t := by
  rw [castTopic?, Option.map_eq_some_iff]

/-- A change of a record that leaves its broadcast topic alone does not show. -/
theorem castTopic?_modifyRecord {reg : BeaconRegistry} {id : String}
    {f : BeaconRecord → BeaconRecord} (hf : ∀ r, (f r).broadcastTopic = r.broadcastTopic)
    (id' : String) : castTopic? (reg.modifyRecord id f) id' = castTopic? reg id' := by
  rw [castTopic?, castTopic?, BeaconRegistry.record?_modifyRecord]
  by_cases h : id' = id
  · subst h
    rw [if_pos rfl, Option.map_map]
    congr 1
    funext r
    exact hf r
  · rw [if_neg h]

theorem castTopic?_ensureRecord (reg : BeaconRegistry) (id id' : String) (now : Instant) :
    castTopic? (reg.ensureRecord id now) id' =
      if id' = id then some ((castTopic? reg id).getD "") else castTopic? reg id' := by
  rw [castTopic?, BeaconRegistry.record?_ensureRecord]
  by_cases h : id' = id
  · rw [if_pos h, if_pos h, castTopic?]
    cases reg.record? id <;> rfl
  · rw [if_neg h, if_neg h, castTopic?]

theorem castTopic?_removeRecord (reg : BeaconRegistry) (id id' : String) :
    castTopic? (reg.removeRecord id) id' = if id' = id then none else castTopic? reg id' := by
  rw [castTopic?, BeaconRegistry.record?_removeRecord]
  by_cases h : id' = id
  · rw [if_pos h, if_pos h]; rfl
  · rw [if_neg h, if_neg h, castTopic?]

theorem castTopic?_release (reg : BeaconRegistry) (r : BeaconRecord) (id : String) :
    castTopic? (reg.release r) id = castTopic? reg id := by
  rw [castTopic?, castTopic?, BeaconRegistry.record?_release]

/-- Being done with a removed record takes its topic out of the list. -/
theorem mem_topics_release {reg : BeaconRegistry} {r : BeaconRecord} {t : String} :
    t ∈ (reg.release r).broadcastTopics ↔
      t ∈ reg.broadcastTopics ∧ (r.broadcastTopic ≠ "" → t ≠ r.broadcastTopic) := by
  rw [BeaconRegistry.release]
  by_cases h : r.broadcastTopic = ""
  · rw [if_neg (not_not.mpr h)]; simp [h]
  · rw [if_pos h]; simp [BeaconRegistry.retainTopics, h]

theorem nodup_topics_release {reg : BeaconRegistry} {r : BeaconRecord}
    (h : reg.broadcastTopics.Nodup) : (reg.release r).broadcastTopics.Nodup := by
  rw [BeaconRegistry.release]
  split
  · rw [BeaconRegistry.broadcastTopics_evictGateway]; exact h.filter _
  · rwa [BeaconRegistry.broadcastTopics_evictGateway]

/-- A listen channel gives the beacon a record, and no topic in the list. -/
theorem register_listen (reg : BeaconRegistry) (id : String) (now : Instant)
    (subscribed : Except String Unit) :
    (reg.registerChannel (listenChannel id) now subscribed).broadcastTopics = reg.broadcastTopics ∧
      ∀ id', castTopic? (reg.registerChannel (listenChannel id) now subscribed) id' =
        if id' = id then some ((castTopic? reg id).getD "") else castTopic? reg id' := by
  cases subscribed with
  | error e =>
      exact ⟨BeaconRegistry.broadcastTopics_ensureRecord .., fun id' =>
        castTopic?_ensureRecord reg id id' now⟩
  | ok u =>
      refine ⟨?_, ?_⟩
      · exact (BeaconRegistry.broadcastTopics_modifyRecord ..).trans
          (BeaconRegistry.broadcastTopics_ensureRecord ..)
      · intro id'
        rw [← castTopic?_ensureRecord reg id id' now]
        exact castTopic?_modifyRecord
          (f := fun r => { r with listenTopic := receiveTopic id }) (fun _ => rfl) id'

/-- A broadcast channel puts the topic at the end of the list and into the record. -/
theorem register_broadcast (reg : BeaconRegistry) (id : String) (now : Instant)
    (subscribed : Except String Unit) :
    (reg.registerChannel (broadcastChannel id) now subscribed).broadcastTopics =
        reg.broadcastTopics ++ [broadcastTopic id] ∧
      ∀ id', castTopic? (reg.registerChannel (broadcastChannel id) now subscribed) id' =
        if id' = id then some (broadcastTopic id) else castTopic? reg id' := by
  refine ⟨?_, ?_⟩
  · refine (BeaconRegistry.broadcastTopics_modifyRecord ..).trans ?_
    show (reg.ensureRecord id now).broadcastTopics ++ [broadcastTopic id] = _
    rw [BeaconRegistry.broadcastTopics_ensureRecord]
  · intro id'
    show Option.map _ (BeaconRegistry.record? (BeaconRegistry.modifyRecord _ id _) id') = _
    rw [BeaconRegistry.record?_modifyRecord]
    by_cases h : id' = id
    · rw [if_pos h, if_pos h, BeaconRegistry.record?_pushTopic]
      show Option.map _ (Option.map _ ((reg.ensureRecord id now).record? id)) = _
      rw [BeaconRegistry.record?_ensureRecord, if_pos rfl]
      rfl
    · rw [if_neg h, if_neg h, BeaconRegistry.record?_pushTopic]
      show Option.map _ ((reg.ensureRecord id now).record? id') = _
      rw [BeaconRegistry.record?_ensureRecord, if_neg h]
      rfl

/-- A message leaves every broadcast topic alone. -/
theorem onMessage_topics (app : App) (reg : BeaconRegistry) (conns : List Connection)
    (msg : MqttMessage) (now : Instant) :
    (onMessage app reg conns msg now).1.broadcastTopics = reg.broadcastTopics ∧
      ∀ id, castTopic? (onMessage app reg conns msg now).1 id = castTopic? reg id := by
  have hrefresh : (refreshSender reg msg.topic now).broadcastTopics = reg.broadcastTopics ∧
      ∀ id, castTopic? (refreshSender reg msg.topic now) id = castTopic? reg id := by
    rw [refreshSender]
    cases senderOf msg.topic with
    | none => exact ⟨rfl, fun _ => rfl⟩
    | some id =>
        exact ⟨BeaconRegistry.broadcastTopics_modifyRecord ..,
          castTopic?_modifyRecord fun _ => rfl⟩
  have hassoc : ∀ (reg' : BeaconRegistry) (u : String) (tx : ShutdownTx),
      (associateSender reg' msg.topic u tx).broadcastTopics = reg'.broadcastTopics ∧
        ∀ id, castTopic? (associateSender reg' msg.topic u tx) id = castTopic? reg' id := by
    intro reg' u tx
    rw [associateSender]
    cases senderOf msg.topic with
    | none => exact ⟨rfl, fun _ => rfl⟩
    | some id =>
        exact ⟨BeaconRegistry.broadcastTopics_modifyRecord ..,
          castTopic?_modifyRecord fun _ => rfl⟩
  rw [onMessage]
  cases advertisedGateway msg.payload.value with
  | none => exact hrefresh
  | some u =>
      simp only []
      by_cases hk : (refreshSender reg msg.topic now).isGatewayKnown u = true
      · rw [if_pos hk]; exact hrefresh
      · rw [if_neg hk]
        obtain ⟨h1, h2⟩ := hassoc ((refreshSender reg msg.topic now).insertGateway u) u
          ⟨conns.length⟩
        exact ⟨h1.trans hrefresh.1, fun id => (h2 id).trans (hrefresh.2 id)⟩

-- ── What every run guarantees ────────────────────────────────────────────────

/-- No topic twice, every topic from a registered broadcast channel, and every record's topic
    in the list under the beacon's own name. `cs` are the channels registered so far. -/
structure TopicInv (cs : List TopicChannel) (reg : BeaconRegistry) : Prop where
  nodup      : reg.broadcastTopics.Nodup
  registered : ∀ t ∈ reg.broadcastTopics, ∃ id, t = broadcastTopic id ∧ broadcastChannel id ∈ cs
  listed     : ∀ id t, castTopic? reg id = some t → t ≠ "" →
    t = broadcastTopic id ∧ t ∈ reg.broadcastTopics

/-- While a record is being deregistered its beacon is out of the map and its topic is still
    in the list. -/
structure TopicPending (cs : List TopicChannel) (reg : BeaconRegistry) (id : String)
    (r : BeaconRecord) : Prop extends TopicInv cs reg where
  removed : castTopic? reg id = none
  own     : r.broadcastTopic ≠ "" →
    r.broadcastTopic = broadcastTopic id ∧ r.broadcastTopic ∈ reg.broadcastTopics

theorem TopicInv.take {cs : List TopicChannel} {reg : BeaconRegistry} {id : String}
    {r : BeaconRecord} (h : TopicInv cs reg) (hr : reg.record? id = some r) :
    TopicPending cs (reg.removeRecord id) id r where
  nodup := h.nodup
  registered := h.registered
  listed := by
    intro id' t ht
    rw [castTopic?_removeRecord] at ht
    by_cases hid : id' = id
    · rw [if_pos hid] at ht; exact nomatch ht
    · rw [if_neg hid] at ht; exact h.listed id' t ht
  removed := by rw [castTopic?_removeRecord, if_pos rfl]
  own := h.listed id _ (castTopic?_eq_some.mpr ⟨r, hr, rfl⟩)

theorem TopicPending.finish {cs : List TopicChannel} {reg : BeaconRegistry} {id : String}
    {r : BeaconRecord} (h : TopicPending cs reg id r) : TopicInv cs (reg.release r) where
  nodup := nodup_topics_release h.nodup
  registered := fun t ht => h.registered t (mem_topics_release.mp ht).1
  listed := by
    intro id' t ht hne
    rw [castTopic?_release] at ht
    obtain ⟨hown, hmem⟩ := h.listed id' t ht hne
    refine ⟨hown, mem_topics_release.mpr ⟨hmem, ?_⟩⟩
    -- the removed beacon has another id, hence another topic
    intro hr heq
    have hid : id' = id := broadcastTopic_injective (by rw [← hown, heq]; exact (h.own hr).1)
    rw [hid, h.removed] at ht
    exact nomatch ht

theorem TopicInv.channel {cs : List TopicChannel} {reg : BeaconRegistry} {c : TopicChannel}
    (h : TopicInv cs reg) (now : Instant) (subscribed : Except String Unit)
    (hcs : FromHandshakes (cs ++ [c])) :
    TopicInv (cs ++ [c]) (reg.registerChannel c now subscribed) := by
  obtain ⟨id, rfl | rfl⟩ := hcs.2 c (List.mem_append_right cs List.mem_cons_self)
  · obtain ⟨htopics, hcast⟩ := register_listen reg id now subscribed
    refine ⟨by rw [htopics]; exact h.nodup, ?_, ?_⟩
    · intro t ht
      rw [htopics] at ht
      obtain ⟨id', he, hm⟩ := h.registered t ht
      exact ⟨id', he, List.mem_append_left _ hm⟩
    · intro id' t ht hne
      rw [hcast] at ht
      rw [htopics]
      by_cases hid : id' = id
      · rw [if_pos hid] at ht
        cases hc : castTopic? reg id with
        | none =>
            rw [hc] at ht
            exact absurd (Option.some.inj ht).symm hne
        | some t' =>
            rw [hc] at ht
            obtain rfl : t' = t := Option.some.inj ht
            exact h.listed id' t' (by rw [hid]; exact hc) hne
      · rw [if_neg hid] at ht
        exact h.listed id' t ht hne
  · obtain ⟨htopics, hcast⟩ := register_broadcast reg id now subscribed
    -- the id is fresh: its topic cannot be in the list yet
    have hfresh : broadcastTopic id ∉ reg.broadcastTopics := by
      intro hmem
      obtain ⟨id', he, hm⟩ := h.registered _ hmem
      obtain rfl : id = id' := broadcastTopic_injective he
      exact (List.nodup_append.mp hcs.1).2.2 _ hm _ List.mem_cons_self rfl
    refine ⟨?_, ?_, ?_⟩
    · rw [htopics, List.nodup_append]
      refine ⟨h.nodup, List.nodup_singleton _, ?_⟩
      intro a ha b hb hab
      rw [List.mem_singleton.mp hb] at hab
      exact hfresh (hab ▸ ha)
    · intro t ht
      rw [htopics] at ht
      rcases List.mem_append.mp ht with ht | ht
      · obtain ⟨id', he, hm⟩ := h.registered t ht
        exact ⟨id', he, List.mem_append_left _ hm⟩
      · exact ⟨id, List.mem_singleton.mp ht, List.mem_append_right cs List.mem_cons_self⟩
    · intro id' t ht hne
      rw [hcast] at ht
      rw [htopics]
      by_cases hid : id' = id
      · rw [if_pos hid] at ht
        obtain rfl := Option.some.inj ht
        exact ⟨by rw [hid], List.mem_append_right _ List.mem_cons_self⟩
      · rw [if_neg hid] at ht
        obtain ⟨he, hm⟩ := h.listed id' t ht hne
        exact ⟨he, List.mem_append_left _ hm⟩

theorem TopicInv.message {cs : List TopicChannel} {reg : BeaconRegistry} (h : TopicInv cs reg)
    (app : App) (conns : List Connection) (msg : MqttMessage) (now : Instant) :
    TopicInv cs (onMessage app reg conns msg now).1 := by
  obtain ⟨htopics, hcast⟩ := onMessage_topics app reg conns msg now
  refine ⟨by rw [htopics]; exact h.nodup, ?_, ?_⟩
  · intro t ht; rw [htopics] at ht; exact h.registered t ht
  · intro id t ht hne
    rw [hcast] at ht
    rw [htopics]
    exact h.listed id t ht hne

-- ── No topic without a record ────────────────────────────────────────────────

/-- Every listed topic belongs to a record. -/
def NoOrphan (reg : BeaconRegistry) : Prop :=
  ∀ t ∈ reg.broadcastTopics, ∃ id, castTopic? reg id = some t

/-- The same while a record is being deregistered: its topic is the one exception. -/
def NoOrphanBut (reg : BeaconRegistry) (r : BeaconRecord) : Prop :=
  ∀ t ∈ reg.broadcastTopics,
    (∃ id, castTopic? reg id = some t) ∨ (r.broadcastTopic ≠ "" ∧ t = r.broadcastTopic)

theorem topicsInSync_of_noOrphan {cs : List TopicChannel} {reg : BeaconRegistry}
    (h : TopicInv cs reg) (hno : NoOrphan reg) : TopicsInSync reg := by
  refine ⟨h.nodup, fun t => ⟨?_, ?_⟩⟩
  · intro ht
    obtain ⟨id, hid⟩ := hno t ht
    obtain ⟨id', he, -⟩ := h.registered t ht
    obtain ⟨r, hr, hrt⟩ := castTopic?_eq_some.mp hid
    exact ⟨by rw [he]; exact broadcastTopic_ne_empty id', id, r, hr, hrt⟩
  · rintro ⟨hne, id, r, hr, hrt⟩
    exact (h.listed id t (castTopic?_eq_some.mpr ⟨r, hr, hrt⟩) hne).2

theorem NoOrphan.take {reg : BeaconRegistry} {cs : List TopicChannel} {id : String}
    {r : BeaconRecord} (hinv : TopicInv cs reg) (h : NoOrphan reg)
    (hr : reg.record? id = some r) : NoOrphanBut (reg.removeRecord id) r := by
  intro t ht
  obtain ⟨id', hid'⟩ := h t ht
  by_cases hid : id' = id
  · right
    subst hid
    obtain ⟨r', hr', hrt⟩ := castTopic?_eq_some.mp hid'
    obtain rfl : r = r' := Option.some.inj (hr.symm.trans hr')
    obtain ⟨id₀, he, -⟩ := hinv.registered t ht
    exact ⟨by rw [hrt, he]; exact broadcastTopic_ne_empty id₀, hrt.symm⟩
  · left
    exact ⟨id', by rw [castTopic?_removeRecord, if_neg hid]; exact hid'⟩

theorem NoOrphanBut.finish {reg : BeaconRegistry} {r : BeaconRecord} (h : NoOrphanBut reg r) :
    NoOrphan (reg.release r) := by
  intro t ht
  obtain ⟨hmem, hne⟩ := mem_topics_release.mp ht
  rcases h t hmem with ⟨id, hid⟩ | ⟨hr, heq⟩
  · exact ⟨id, by rw [castTopic?_release]; exact hid⟩
  · exact absurd heq (hne hr)

theorem NoOrphan.channel {cs : List TopicChannel} {reg : BeaconRegistry} {c : TopicChannel}
    (hinv : TopicInv cs reg) (h : NoOrphan reg) (now : Instant) (subscribed : Except String Unit)
    (hcs : FromHandshakes (cs ++ [c])) : NoOrphan (reg.registerChannel c now subscribed) := by
  obtain ⟨id, rfl | rfl⟩ := hcs.2 c (List.mem_append_right cs List.mem_cons_self)
  · obtain ⟨htopics, hcast⟩ := register_listen reg id now subscribed
    intro t ht
    rw [htopics] at ht
    obtain ⟨id', hid'⟩ := h t ht
    refine ⟨id', ?_⟩
    rw [hcast]
    by_cases hid : id' = id
    · rw [if_pos hid, ← hid, hid']; rfl
    · rw [if_neg hid]; exact hid'
  · obtain ⟨htopics, hcast⟩ := register_broadcast reg id now subscribed
    intro t ht
    rw [htopics] at ht
    rcases List.mem_append.mp ht with ht | ht
    · obtain ⟨id', hid'⟩ := h t ht
      refine ⟨id', ?_⟩
      rw [hcast]
      by_cases hid : id' = id
      · -- the record's topic is overwritten with the same one
        obtain ⟨id₀, he, -⟩ := hinv.registered t ht
        have hne : t ≠ "" := by rw [he]; exact broadcastTopic_ne_empty id₀
        rw [if_pos hid, (hinv.listed id' t hid' hne).1, hid]
      · rw [if_neg hid]; exact hid'
    · exact ⟨id, by rw [hcast, if_pos rfl, List.mem_singleton.mp ht]⟩

theorem NoOrphan.message {reg : BeaconRegistry} (h : NoOrphan reg) (app : App)
    (conns : List Connection) (msg : MqttMessage) (now : Instant) :
    NoOrphan (onMessage app reg conns msg now).1 := by
  obtain ⟨htopics, hcast⟩ := onMessage_topics app reg conns msg now
  intro t ht
  rw [htopics] at ht
  obtain ⟨id, hid⟩ := h t ht
  exact ⟨id, by rw [hcast]; exact hid⟩

-- ── Whole runs ───────────────────────────────────────────────────────────────

theorem FromHandshakes.left {cs ds : List TopicChannel} (h : FromHandshakes (cs ++ ds)) :
    FromHandshakes cs :=
  ⟨(List.nodup_append.mp h.1).1, fun c hc => h.2 c (List.mem_append_left ds hc)⟩

theorem channelsOf_append (p q : List Event) :
    channelsOf (p ++ q) = channelsOf p ++ channelsOf q := List.filterMap_append

/-- Only a `channel` event adds to the registered channels. -/
theorem channelsOf_sweep {e : Event} (h : e.dropsSweep = false) (es : List Event) :
    channelsOf (es ++ [e]) = channelsOf es := by
  cases e with
  | channel c now subscribed => exact Bool.noConfusion h
  | message msg now => exact Bool.noConfusion h
  | tick now stale => rw [channelsOf_append]; exact List.append_nil _
  | unsubscribed answer => rw [channelsOf_append]; exact List.append_nil _
  | topicsLocked => rw [channelsOf_append]; exact List.append_nil _

theorem channelsOf_channel (es : List Event) (c : TopicChannel) (now : Instant)
    (subscribed : Except String Unit) :
    channelsOf (es ++ [.channel c now subscribed]) = channelsOf es ++ [c] :=
  channelsOf_append es _

theorem channelsOf_message (es : List Event) (msg : MqttMessage) (now : Instant) :
    channelsOf (es ++ [.message msg now]) = channelsOf es := by
  rw [channelsOf_append]; exact List.append_nil _

/-- **The invariant rule for runs with channels of handshakes.** The invariant may mention the
    channels registered so far; that a sweep is dropped must not hurt it. -/
theorem holds_run {app : App} {I : List TopicChannel → BeaconRegistry → List Connection → Prop}
    {Q : List TopicChannel → BeaconRegistry → List Connection → String → BeaconRecord → Prop}
    (init : I [] (.new app.ownGatewayUrl) [])
    (take : ∀ cs reg conns id r, I cs reg conns → reg.record? id = some r →
      Q cs (reg.removeRecord id) conns id r)
    (finish : ∀ cs reg conns id r, Q cs reg conns id r → I cs (reg.release r) conns)
    (drop : ∀ cs reg conns id r, Q cs reg conns id r → I cs reg conns)
    (channel : ∀ cs c now subscribed reg conns, FromHandshakes (cs ++ [c]) → I cs reg conns →
      I (cs ++ [c]) (reg.registerChannel c now subscribed) conns)
    (message : ∀ cs msg now reg conns, I cs reg conns →
      I cs (onMessage app reg conns msg now).1 (onMessage app reg conns msg now).2)
    (es : List Event) (s : LoopState) (hrun : loopRun app es = some s)
    (hcs : FromHandshakes (channelsOf es)) :
    Holds (I (channelsOf es)) (Q (channelsOf es)) s := by
  revert hcs
  refine EventRun.run_induction (P := fun es s => FromHandshakes (channelsOf es) →
    Holds (I (channelsOf es)) (Q (channelsOf es)) s) ?_ ?_ es s hrun
  · intro _
    exact init
  · intro es e t u _ ih hstep hcs
    have hprev : FromHandshakes (channelsOf es) := by
      rw [channelsOf_append] at hcs; exact hcs.left
    refine (ih hprev).step hstep (take _) (finish _) (fun _ id r _ => drop _ _ _ id r) ?_ ?_ ?_
    · rintro c now subscribed rfl h
      rw [channelsOf_channel] at hcs ⊢
      exact channel _ c now subscribed _ _ hcs h
    · rintro msg now rfl h
      rw [channelsOf_message]
      exact message _ msg now _ _ h
    · intro he
      rw [channelsOf_sweep he]
      exact ⟨fun _ _ h => h, fun _ _ _ _ h => h⟩

/-- The invariant of every run, with the channels of the run. -/
abbrev TopicHolds (cs : List TopicChannel) : LoopState → Prop :=
  Holds (fun reg _ => TopicInv cs reg) (fun reg _ id r => TopicPending cs reg id r)

/-- **Every run keeps the records' topics listed**, whatever is dropped. -/
theorem topicHolds_run (app : App) (es : List Event) (s : LoopState)
    (hrun : loopRun app es = some s) (hcs : FromHandshakes (channelsOf es)) :
    TopicHolds (channelsOf es) s := by
  refine holds_run (I := fun cs reg _ => TopicInv cs reg)
    (Q := fun cs reg _ id r => TopicPending cs reg id r) ?_ (fun _ _ _ _ _ h hr => h.take hr)
    (fun _ _ _ _ _ h => h.finish) (fun _ _ _ _ _ h => h.toTopicInv) ?_ ?_ es s hrun hcs
  · refine ⟨List.nodup_nil, ?_, ?_⟩
    · intro t ht; exact nomatch ht
    · intro id t ht
      rw [castTopic?, BeaconRegistry.record?_new] at ht
      exact nomatch ht
  · intro cs c now subscribed reg _ hcs h
    exact h.channel now subscribed hcs
  · intro cs msg now reg conns h
    exact h.message app conns msg now

/-- The condition on a step: a sweep is not dropped while it holds a record with a broadcast
    topic. -/
def DropsNoTopic (s : LoopState) (e : Event) : Prop :=
  e.dropsSweep = true → ∀ r, s.sweep.pending = some r → r.broadcastTopic = ""

/-- The drop of a sweep that holds a record with a topic leaves that topic behind: it stays
    listed, and the beacon it was for does not have it. -/
theorem orphan_of_drop {app : App} {cs : List TopicChannel} {s s' : LoopState} {e : Event}
    (hs : TopicHolds cs s) (hcs : FromHandshakes (cs ++ channelsOf [e]))
    (hstep : step app s e = some s') (hbad : ¬ DropsNoTopic s e) :
    s'.BetweenIterations ∧ ∃ id, broadcastTopic id ∈ s'.registry.broadcastTopics ∧
      castTopic? s'.registry id ≠ some (broadcastTopic id) := by
  rw [DropsNoTopic] at hbad
  push Not at hbad
  obtain ⟨he, r, hr, hne⟩ := hbad
  obtain ⟨id, hq⟩ := hs.pending hr
  obtain ⟨hown, hmem⟩ := hq.own hne
  rw [hown] at hmem
  have hnone : castTopic? s.registry id ≠ some (broadcastTopic id) := by
    rw [hq.removed]; exact fun h => nomatch h
  cases e with
  | message msg now =>
      rw [step_message hstep]
      obtain ⟨htopics, hcast⟩ := onMessage_topics app s.registry s.connections msg now
      exact ⟨rfl, id, by rw [htopics]; exact hmem, by rw [hcast]; exact hnone⟩
  | channel c now subscribed =>
      rw [step_channel hstep]
      refine ⟨rfl, id, ?_⟩
      obtain ⟨id', rfl | rfl⟩ := hcs.2 c (List.mem_append_right cs List.mem_cons_self)
      · obtain ⟨htopics, hcast⟩ := register_listen s.registry id' now subscribed
        refine ⟨by rw [htopics]; exact hmem, ?_⟩
        rw [hcast]
        by_cases hid : id = id'
        · rw [if_pos hid, ← hid, hq.removed]
          exact fun h => broadcastTopic_ne_empty id (Option.some.inj h).symm
        · rw [if_neg hid]; exact hnone
      · obtain ⟨htopics, hcast⟩ := register_broadcast s.registry id' now subscribed
        refine ⟨by rw [htopics]; exact List.mem_append_left _ hmem, ?_⟩
        rw [hcast]
        by_cases hid : id = id'
        · -- the beacon's channel was registered before, so it does not come again
          obtain ⟨id₀, he₀, hm⟩ := hq.registered _ hmem
          rw [← broadcastTopic_injective he₀, hid] at hm
          exact absurd rfl ((List.nodup_append.mp hcs.1).2.2 _ hm _ List.mem_cons_self)
        · rw [if_neg hid]; exact hnone
  | tick now stale => exact Bool.noConfusion he
  | unsubscribed answer => exact Bool.noConfusion he
  | topicsLocked => exact Bool.noConfusion he

/-- A listed topic that its beacon does not have is nobody's. -/
theorem not_topicsInSync_of_orphan {cs : List TopicChannel} {reg : BeaconRegistry} {id : String}
    (h : TopicInv cs reg) (hmem : broadcastTopic id ∈ reg.broadcastTopics)
    (hcast : castTopic? reg id ≠ some (broadcastTopic id)) : ¬ TopicsInSync reg := by
  rintro ⟨-, hsync⟩
  obtain ⟨hne, id', r, hr, hrt⟩ := (hsync _).mp hmem
  have hc : castTopic? reg id' = some (broadcastTopic id) := castTopic?_eq_some.mpr ⟨r, hr, hrt⟩
  have hid : id = id' := broadcastTopic_injective (h.listed id' _ hc hne).1
  rw [← hid] at hc
  exact hcast hc

/-- A step that drops no topic keeps every listed topic at a record. -/
theorem noOrphan_step {app : App} {cs : List TopicChannel} {s s' : LoopState} {e : Event}
    (hinv : TopicHolds cs s) (hno : Holds (fun reg _ => NoOrphan reg)
      (fun reg _ _ r => NoOrphanBut reg r) s)
    (hcs : FromHandshakes (cs ++ channelsOf [e])) (hstep : step app s e = some s')
    (hC : DropsNoTopic s e) :
    Holds (fun reg _ => NoOrphan reg) (fun reg _ _ r => NoOrphanBut reg r) s' := by
  have hboth := hinv.and hno
  have hnext : Holds (fun reg _ => NoOrphan reg) (fun reg _ _ r => NoOrphanBut reg r) s' := by
    refine hboth.step hstep ?_ ?_ ?_ ?_ ?_ ?_
    · rintro reg - id r ⟨h, hn⟩ hr
      exact ⟨h.take hr, hn.take h hr⟩
    · rintro reg - id r ⟨h, hn⟩
      exact ⟨h.finish, hn.finish⟩
    · -- dropped while holding a record without a topic: nothing is left behind
      rintro he id r hr ⟨h, hn⟩
      refine ⟨h.toTopicInv, ?_⟩
      intro t ht
      rcases hn t ht with hid | ⟨hne, -⟩
      · exact hid
      · exact absurd (hC he r hr) hne
    · rintro c now subscribed rfl ⟨h, hn⟩
      exact NoOrphan.channel h hn now subscribed hcs
    · rintro msg now rfl ⟨-, hn⟩
      exact hn.message app s.connections msg now
    · intro _
      exact ⟨fun _ _ h => h.2, fun _ _ _ _ h => h.2⟩
  exact hnext

/-- **The topic list agrees with the records between all iterations of a run exactly when** no
    sweep of the run is dropped while it holds a record with a broadcast topic. -/
theorem topicsInSync_iff (app : App) (es : List Event) (s : LoopState)
    (hrun : loopRun app es = some s) (hcs : FromHandshakes (channelsOf es)) :
    EventRun.Throughout (step app) (.init app) es
        (fun s => s.BetweenIterations → TopicsInSync s.registry) ↔
      EventRun.EachStep (step app) (.init app) es DropsNoTopic := by
  refine EventRun.throughout_iff_eachStep
    (I := fun p t => FromHandshakes (channelsOf p) ∧ TopicHolds (channelsOf p) t)
    (J := Holds (fun reg _ => NoOrphan reg) (fun reg _ _ r => NoOrphanBut reg r))
    hrun ?_ ?_ ?_ ?_ ?_
  · intro p q t hpq ht
    rw [hpq, channelsOf_append] at hcs
    exact ⟨hcs.left, topicHolds_run app p t ht hcs.left⟩
  · intro t ht
    exact nomatch ht
  · rintro p e t u ⟨-, hinv⟩ ⟨hcs', -⟩ hno hC hstep
    rw [channelsOf_append] at hcs'
    exact noOrphan_step hinv hno hcs' hstep hC
  · rintro p ⟨reg, fut, conns⟩ ⟨-, hinv⟩ hno hbetween
    obtain rfl : fut = .waitingTick := hbetween
    exact topicsInSync_of_noOrphan hinv hno
  · rintro p e t u ⟨-, hinv⟩ ⟨hcs', hinv'⟩ hstep hC hsync
    rw [channelsOf_append] at hcs'
    obtain ⟨hbetween, id, hmem, hcast⟩ := orphan_of_drop hinv hcs' hstep hC
    obtain ⟨reg, fut, conns⟩ := u
    obtain rfl : fut = .waitingTick := hbetween
    exact not_topicsInSync_of_orphan hinv' hmem hcast (hsync rfl)

/-- A node without a gateway of its own. -/
def plainApp : App where
  serverUrl     := "http://localhost:8080"
  ownGatewayUrl := none

/-- A beacon registers both topics, falls silent, and a message of another beacon arrives while
    the sweep awaits its `unsubscribe`. -/
def droppedSweep : List Event :=
  [.channel (listenChannel "b1") 0 (.ok ()), .channel (broadcastChannel "b1") 0 (.ok ()),
   .tick (121 * 10 ^ 9) ["b1"],
   .message { topic := "registration", payload := .raw "hello" } (121 * 10 ^ 9)]

theorem droppedSweep_fromHandshakes : FromHandshakes (channelsOf droppedSweep) := by
  refine ⟨by decide, ?_⟩
  intro c hc
  have hc' : c = listenChannel "b1" ∨ c = broadcastChannel "b1" := by
    simpa [droppedSweep, channelsOf] using hc
  exact ⟨"b1", hc'⟩

/-- The equivalence at a run that registers one beacon. -/
theorem topicsInSync_iff_droppedSweep :
    ∃ s, loopRun plainApp droppedSweep = some s ∧ FromHandshakes (channelsOf droppedSweep) ∧
      (EventRun.Throughout (step plainApp) (.init plainApp) droppedSweep
          (fun s => s.BetweenIterations → TopicsInSync s.registry) ↔
        EventRun.EachStep (step plainApp) (.init plainApp) droppedSweep DropsNoTopic) :=
  ⟨_, rfl, droppedSweep_fromHandshakes,
    topicsInSync_iff plainApp droppedSweep _ rfl droppedSweep_fromHandshakes⟩

/-- **A dropped sweep loses a topic.** After the run the beacon is gone and its topic is still
    broadcast to. -/
theorem droppedSweep_orphans_topic :
    FromHandshakes (channelsOf droppedSweep) ∧
      ∃ s, loopRun plainApp droppedSweep = some s ∧ s.BetweenIterations ∧
        ¬ TopicsInSync s.registry := by
  refine ⟨droppedSweep_fromHandshakes, _, rfl, by decide, ?_⟩
  rintro ⟨-, hsync⟩
  obtain ⟨-, id, r, hr, -⟩ := (hsync "b1/cast").mp (by decide)
  have hmem := Finmap.mem_keys.mpr (Finmap.mem_of_lookup_eq_some hr)
  rw [show (BeaconRegistry.records _).keys = ∅ from by decide] at hmem
  exact absurd hmem (Finset.notMem_empty id)

end HamletBroadcastTopic
