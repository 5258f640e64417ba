import Mathlib.Algebra.Order.BigOperators.Group.List
import Mathlib.Algebra.Order.Group.Nat
import Hamlet.BroadcastTopicProofs
import Hamlet.ConfigProofs

/-!
# How often the broadcast loop transmits

A broadcast goes out over a radio link, so that its RATE matters. Two mechanisms bound it. The loop
waits for a `tokio` interval, whose ticks that were missed are made up for at once: after a stall,
cycles follow each other without a pause. With jitter the loop also sleeps between the topics, and
at the end of a cycle for what is left of the interval.

The loop runs here against a clock: every event carries the instant at which it happens, so that
anything awaited — the database, the lock, the client — may take as long as it likes.

* `broadcasts_bounded` — whatever stalls there are, by any instant no topic has been published to
  more often than once for each interval since the start, and once more. The list of topics is the
  one that the message loop writes;
* `spaced_iff_jitter` — with jitter, cycles also begin an interval apart and any two calls are a
  second apart, which is what the switch is for. Without it neither holds: `burst_attains_bound`
  makes up for any stall in a single instant.

An interval of zero seconds, which the configuration does not exclude, makes the loop panic before
its first cycle (`startLoop`).
-/

namespace HamletBroadcastPacing

open EventRun HamletConfig
open HamletRegistry (App LoopState BeaconRegistry broadcastTopic broadcastChannel loopRun)
open HamletBroadcastTopic (channelsOf FromHandshakes)

/-- A second, in the unit of the clock. -/
def second : ℕ := 1000000000

/-- The interval of the loop. -/
def period (c : BeaconManagementConfig) : ℕ := c.broadcastInterval * second

/-- A call of `mqtt_handle.publish`. -/
structure PublishCall where
  time  : ℕ
  topic : String
  deriving DecidableEq, Repr

/-- Where the loop stands; `start` is the `cycle_start` of a cycle with jitter. -/
inductive Phase where
  /-- In `interval.tick()`. -/
  | ticking
  /-- In `get_or_rotate_key`. -/
  | keying
  /-- In `sweep_expired`. -/
  | sweeping
  /-- Waiting for the lock on the topics. -/
  | locking (start : Option ℕ)
  /-- Sleeping before the first of these topics is published to. -/
  | jittering (start : Option ℕ) (wake : ℕ) (topics : List String)
  /-- In `publish`, with these topics still to do. -/
  | publishing (start : Option ℕ) (rest : List String)
  /-- Sleeping for what is left of the interval. -/
  | resting (wake : ℕ)
  deriving DecidableEq, Repr

structure Loop where
  now      : ℕ
  /-- The instant of the next tick. -/
  deadline : ℕ
  phase    : Phase
  /-- How often the interval has ticked. -/
  ticks    : ℕ
  /-- When the cycles that got a key began to publish. -/
  starts   : List ℕ
  calls    : List PublishCall
  deriving DecidableEq, Repr

/-- The first tick of the interval is at once. -/
def Loop.init (t₀ : ℕ) : Loop where
  now      := t₀
  deadline := t₀
  phase    := .ticking
  ticks    := 0
  starts   := []
  calls    := []

/-- `tokio::time::interval` panics on a period of zero. -/
def startLoop (c : BeaconManagementConfig) (t₀ : ℕ) : Option Loop :=
  if period c = 0 then none else some (.init t₀)

inductive Happening where
  | tick
  /-- `get_or_rotate_key` returns; without a key the cycle is skipped. -/
  | key (ok : Bool)
  /-- `sweep_expired` returns; an error is only logged. -/
  | swept
  /-- The lock is held on these topics; `random` is the draw of the first jitter. -/
  | locked (topics : List String) (random : ℕ)
  /-- `publish` returns, an error is only logged; `random` is the draw of the next jitter. -/
  | published (random : ℕ)
  /-- A sleep is over. -/
  | woke
  deriving DecidableEq, Repr

structure Event where
  time : ℕ
  what : Happening
  deriving DecidableEq, Repr

section Steps

variable (c : BeaconManagementConfig)

/-- `publish` is called. -/
def Loop.publish (s : Loop) (start : Option ℕ) (topic : String) (rest : List String) : Loop :=
  { s with phase := .publishing start rest, calls := s.calls ++ [⟨s.now, topic⟩] }

/-- The end of a cycle: with jitter, the rest of the interval is slept through. -/
def Loop.finish (s : Loop) : Option ℕ → Loop
  | none => { s with phase := .ticking }
  | some start =>
      let remaining := period c - (s.now - start)
      if remaining = 0 then { s with phase := .ticking }
      else { s with phase := .resting (s.now + remaining) }

/-- The next topic, or the end of the cycle. -/
def Loop.next (s : Loop) (start : Option ℕ) (random : ℕ) : List String → Loop
  | [] => s.finish c start
  | topic :: rest =>
      if c.useJitter then
        let jitterSecs := random % 10 + 1
        { s with phase := .jittering start (s.now + jitterSecs * second) (topic :: rest) }
      else s.publish start topic rest

/-- One step at the instant of the state. A missed tick does not move the ones after it. -/
def Loop.react (s : Loop) : Happening → Option Loop
  | .tick =>
      if s.phase = .ticking ∧ s.deadline ≤ s.now then
        some { s with deadline := s.deadline + period c, ticks := s.ticks + 1, phase := .keying }
      else none
  | .key ok =>
      if s.phase = .keying then some { s with phase := if ok then .sweeping else .ticking }
      else none
  | .swept =>
      if s.phase = .sweeping then
        some { s with
          phase  := .locking (if c.useJitter then some s.now else none)
          starts := s.starts ++ [s.now] }
      else none
  | .locked topics random =>
      match s.phase with
      | .locking start => some (s.next c start random topics)
      | _ => none
  | .published random =>
      match s.phase with
      | .publishing start rest => some (s.next c start random rest)
      | _ => none
  | .woke =>
      match s.phase with
      | .jittering start wake (topic :: rest) =>
          if wake ≤ s.now then some (s.publish start topic rest) else none
      | .resting wake => if wake ≤ s.now then some { s with phase := .ticking } else none
      | _ => none

/-- `run_broadcast_loop`: the clock moves on, then something happens. -/
def step (s : Loop) (e : Event) : Option Loop :=
  if s.now ≤ e.time then { s with now := e.time }.react c e.what else none

end Steps

-- ── What a step can do ───────────────────────────────────────────────────────

/-- The step function read backwards, at the instant of the event. -/
inductive Moves (c : BeaconManagementConfig) (s : Loop) : Happening → Loop → Prop
  | tick (hp : s.phase = .ticking) (hdue : s.deadline ≤ s.now) :
      Moves c s .tick
        { s with deadline := s.deadline + period c, ticks := s.ticks + 1, phase := .keying }
  | key (ok : Bool) (hp : s.phase = .keying) :
      Moves c s (.key ok) { s with phase := if ok then .sweeping else .ticking }
  | swept (hp : s.phase = .sweeping) :
      Moves c s .swept
        { s with
          phase  := .locking (if c.useJitter then some s.now else none)
          starts := s.starts ++ [s.now] }
  | locked (start : Option ℕ) (topics : List String) (random : ℕ)
      (hp : s.phase = .locking start) :
      Moves c s (.locked topics random) (s.next c start random topics)
  | published (start : Option ℕ) (rest : List String) (random : ℕ)
      (hp : s.phase = .publishing start rest) :
      Moves c s (.published random) (s.next c start random rest)
  | wokeToPublish (start : Option ℕ) (wake : ℕ) (topic : String) (rest : List String)
      (hp : s.phase = .jittering start wake (topic :: rest)) (hdue : wake ≤ s.now) :
      Moves c s .woke (s.publish start topic rest)
  | wokeToTick (wake : ℕ) (hp : s.phase = .resting wake) (hdue : wake ≤ s.now) :
      Moves c s .woke { s with phase := .ticking }

variable {c : BeaconManagementConfig} {t₀ : ℕ} {s s' : Loop} {e : Event} {es : List Event}

theorem moves_of_react {h : Happening} (hreact : s.react c h = some s') : Moves c s h s' := by
  cases h with
  | tick =>
      rw [Loop.react] at hreact
      split at hreact
      case isTrue hp => cases hreact; exact .tick hp.1 hp.2
      case isFalse => cases hreact
  | key ok =>
      rw [Loop.react] at hreact
      split at hreact
      case isTrue hp => cases hreact; exact .key ok hp
      case isFalse => cases hreact
  | swept =>
      rw [Loop.react] at hreact
      split at hreact
      case isTrue hp => cases hreact; exact .swept hp
      case isFalse => cases hreact
  | locked topics random =>
      rw [Loop.react] at hreact
      split at hreact
      case h_1 start hp => cases hreact; exact .locked start topics random hp
      case h_2 => cases hreact
  | published random =>
      rw [Loop.react] at hreact
      split at hreact
      case h_1 start rest hp => cases hreact; exact .published start rest random hp
      case h_2 => cases hreact
  | woke =>
      rw [Loop.react] at hreact
      split at hreact
      case h_1 start wake topic rest hp =>
          split at hreact
          case isTrue hdue => cases hreact; exact .wokeToPublish start wake topic rest hp hdue
          case isFalse => cases hreact
      case h_2 wake hp =>
          split at hreact
          case isTrue hdue => cases hreact; exact .wokeToTick wake hp hdue
          case isFalse => cases hreact
      case h_3 => cases hreact

/-- A step: the clock does not go back, and the rest is a move at that instant. -/
theorem moves_of_step (h : step c s e = some s') :
    s.now ≤ e.time ∧ Moves c { s with now := e.time } e.what s' := by
  rw [step] at h
  split at h
  case isTrue htime => exact ⟨htime, moves_of_react h⟩
  case isFalse => cases h

/-- A cycle has been ticked for and has not begun to publish. -/
def Phase.preparing : Phase → ℕ
  | .keying   => 1
  | .sweeping => 1
  | _         => 0

/-- A cycle has begun and has not read its list. -/
def Phase.unread : Phase → ℕ
  | .locking _ => 1
  | _          => 0

/-- The topics that a cycle still has before it. -/
def Phase.topics : Phase → List String
  | .jittering _ _ topics => topics
  | .publishing _ rest    => rest
  | _                     => []

/-- Going on with a cycle that has these topics before it: none is skipped, and nothing else
    happens. -/
structure GoesOn (topics : List String) (s s' : Loop) : Prop where
  now       : s'.now = s.now
  deadline  : s'.deadline = s.deadline
  ticks     : s'.ticks = s.ticks
  starts    : s'.starts = s.starts
  preparing : s'.phase.preparing = 0
  unread    : s'.phase.unread = 0
  topics    : s'.calls.map PublishCall.topic ++ s'.phase.topics =
    s.calls.map PublishCall.topic ++ topics

theorem goesOn_publish (s : Loop) (start : Option ℕ) (topic : String) (rest : List String) :
    GoesOn (topic :: rest) s (s.publish start topic rest) :=
  ⟨rfl, rfl, rfl, rfl, rfl, rfl, by simp [Loop.publish, Phase.topics]⟩

theorem goesOn_next (c : BeaconManagementConfig) (s : Loop) (start : Option ℕ) (random : ℕ)
    (topics : List String) : GoesOn topics s (s.next c start random topics) := by
  cases topics with
  | nil =>
      cases start with
      | none => exact ⟨rfl, rfl, rfl, rfl, rfl, rfl, rfl⟩
      | some t =>
          rw [Loop.next, Loop.finish]
          split <;> exact ⟨rfl, rfl, rfl, rfl, rfl, rfl, rfl⟩
  | cons topic rest =>
      rw [Loop.next]
      split
      · exact ⟨rfl, rfl, rfl, rfl, rfl, rfl, rfl⟩
      · exact goesOn_publish s start topic rest

-- ── The rate ─────────────────────────────────────────────────────────────────

/-- Ticks are no faster than the interval, and each starts at most one cycle. -/
structure Ticked (c : BeaconManagementConfig) (t₀ : ℕ) (s : Loop) : Prop where
  deadline : s.deadline = t₀ + s.ticks * period c
  due      : s.deadline ≤ s.now + period c
  started  : s.starts.length + s.phase.preparing ≤ s.ticks

theorem Ticked.goesOn {topics : List String} (h : Ticked c t₀ s) (hon : GoesOn topics s s') :
    Ticked c t₀ s' where
  deadline := by rw [hon.deadline, hon.ticks, h.deadline]
  due := by rw [hon.deadline, hon.now]; exact h.due
  started := by
    rw [hon.starts, hon.ticks, hon.preparing]
    exact (Nat.le_add_right _ _).trans h.started

theorem Moves.ticked {w : Happening} (hm : Moves c s w s') (h : Ticked c t₀ s) :
    Ticked c t₀ s' := by
  have hstarted := h.started
  cases hm with
  | tick hp hdue =>
      refine ⟨?_, Nat.add_le_add_right hdue _, ?_⟩
      · rw [h.deadline, Nat.succ_mul, Nat.add_assoc]
      · exact Nat.add_le_add_right ((Nat.le_add_right _ _).trans hstarted) 1
  | key ok hp =>
      rw [hp] at hstarted
      refine ⟨h.deadline, h.due, ?_⟩
      cases ok
      · exact (Nat.le_add_right _ 1).trans hstarted
      · exact hstarted
  | swept hp =>
      rw [hp] at hstarted
      refine ⟨h.deadline, h.due, ?_⟩
      rw [List.length_append]
      exact hstarted
  | locked start topics random hp =>
      exact h.goesOn (goesOn_next c s start random topics)
  | published start rest random hp =>
      exact h.goesOn (goesOn_next c s start random rest)
  | wokeToPublish start wake topic rest hp hdue =>
      exact h.goesOn (goesOn_publish s start topic rest)
  | wokeToTick wake hp hdue =>
      exact ⟨h.deadline, h.due, (Nat.le_add_right _ _).trans hstarted⟩

/-- The loop was started at `t₀` and has come to this state. -/
def Runs (c : BeaconManagementConfig) (t₀ : ℕ) (es : List Event) (s : Loop) : Prop :=
  ∃ s₀, startLoop c t₀ = some s₀ ∧ run (step c) s₀ es = some s

theorem startLoop_eq_some {s₀ : Loop} :
    startLoop c t₀ = some s₀ ↔ 0 < period c ∧ s₀ = .init t₀ := by
  rw [startLoop]
  split
  case isTrue hzero => simp [hzero]
  case isFalse hpos => simp [Nat.pos_of_ne_zero hpos, eq_comm]

theorem Runs.period_pos (h : Runs c t₀ es s) : 0 < period c := by
  obtain ⟨s₀, hstart, -⟩ := h
  exact (startLoop_eq_some.mp hstart).1

/-- The rule for invariants of the loop: the clock may move on, and every move keeps it. -/
theorem Runs.invariant {P : List Event → Loop → Prop} (h : Runs c t₀ es s)
    (init : P [] (.init t₀))
    (clock : ∀ es s t, s.now ≤ t → P es s → P es { s with now := t })
    (move : ∀ es e s s', Moves c s e.what s' → P es s → P (es ++ [e]) s') : P es s := by
  obtain ⟨s₀, hstart, hrun⟩ := h
  obtain ⟨-, rfl⟩ := startLoop_eq_some.mp hstart
  refine run_induction init ?_ es s hrun
  intro es e t u _ ih hstep
  obtain ⟨htime, hmove⟩ := moves_of_step hstep
  exact move es e _ u hmove (clock es t e.time htime ih)

theorem ticked_run (h : Runs c t₀ es s) : Ticked c t₀ s := by
  refine h.invariant (P := fun _ s => Ticked c t₀ s) ?_ ?_ ?_
  · exact ⟨by simp [Loop.init], Nat.le_add_right _ _, Nat.zero_le _⟩
  · intro _ s t ht hs
    exact ⟨hs.deadline, hs.due.trans (Nat.add_le_add_right ht _), hs.started⟩
  · intro _ e s s' hm hs
    exact hm.ticked hs

/-- The cycles that a run has begun. -/
theorem starts_le (h : Runs c t₀ es s) : s.starts.length ≤ (s.now - t₀) / period c + 1 := by
  have hticked := ticked_run h
  have hdue := hticked.due
  rw [hticked.deadline] at hdue
  have hticks : s.ticks ≤ (s.now - t₀) / period c + 1 := by
    cases hn : s.ticks with
    | zero => exact Nat.zero_le _
    | succ n =>
        rw [hn, Nat.succ_mul] at hdue
        exact Nat.succ_le_succ ((Nat.le_div_iff_mul_le h.period_pos).mpr (by omega))
  exact (Nat.le_add_right _ _).trans (hticked.started.trans hticks)

-- ── The calls of a run ───────────────────────────────────────────────────────

/-- The list that is read. -/
def Happening.list? : Happening → Option (List String)
  | .locked topics _ => some topics
  | _ => none

/-- The lists that were read, one for each cycle that got so far. -/
def listsRead (es : List Event) : List (List String) := es.filterMap fun e => e.what.list?

theorem listsRead_concat (es : List Event) (e : Event) :
    listsRead (es ++ [e]) = listsRead es ++ e.what.list?.toList := by
  rw [listsRead, List.filterMap_append, List.filterMap_cons, List.filterMap_nil]
  cases e.what.list? <;> rfl

/-- The calls made so far and those still to be made are the lists that were read, in order, and
    every cycle reads one list. -/
structure Publishes (lists : List (List String)) (s : Loop) : Prop where
  topics : s.calls.map PublishCall.topic ++ s.phase.topics = lists.flatten
  cycles : lists.length + s.phase.unread = s.starts.length

theorem Moves.publishes {w : Happening} {lists : List (List String)} (hm : Moves c s w s')
    (h : Publishes lists s) : Publishes (lists ++ w.list?.toList) s' := by
  obtain ⟨htopics, hcycles⟩ := h
  cases hm with
  | tick hp hdue | wokeToTick wake hp hdue =>
      rw [hp] at htopics hcycles
      simp only [Happening.list?, Option.toList_none, List.append_nil]
      exact ⟨htopics, hcycles⟩
  | key ok hp =>
      rw [hp] at htopics hcycles
      simp only [Happening.list?, Option.toList_none, List.append_nil]
      cases ok <;> exact ⟨htopics, hcycles⟩
  | swept hp =>
      rw [hp] at htopics hcycles
      simp only [Happening.list?, Option.toList_none, List.append_nil]
      refine ⟨htopics, ?_⟩
      rw [List.length_append, ← hcycles]
      rfl
  | locked start topics random hp =>
      rw [hp] at htopics hcycles
      rw [Happening.list?, Option.toList_some]
      have hon := goesOn_next c s start random topics
      constructor
      · rw [hon.topics, List.flatten_concat, ← htopics]
        simp [Phase.topics]
      · rw [hon.unread, hon.starts, ← hcycles, List.length_append]
        rfl
  | published start rest random hp =>
      rw [hp] at htopics hcycles
      simp only [Happening.list?, Option.toList_none, List.append_nil]
      have hon := goesOn_next c s start random rest
      constructor
      · rw [hon.topics, ← htopics]
        rfl
      · rw [hon.unread, hon.starts, ← hcycles]
        rfl
  | wokeToPublish start wake topic rest hp hdue =>
      rw [hp] at htopics hcycles
      simp only [Happening.list?, Option.toList_none, List.append_nil]
      exact ⟨(goesOn_publish s start topic rest).topics.trans htopics, hcycles⟩

theorem publishes_run (h : Runs c t₀ es s) : Publishes (listsRead es) s := by
  refine h.invariant (P := fun es s => Publishes (listsRead es) s) ⟨rfl, rfl⟩ ?_ ?_
  · intro es s t _ hs
    exact ⟨hs.topics, hs.cycles⟩
  · intro es e s s' hm hs
    rw [listsRead_concat]
    exact hm.publishes hs

/-- The calls for a topic so far. -/
def Loop.callsTo (s : Loop) (topic : String) : ℕ := (s.calls.map PublishCall.topic).count topic

/-- The calls for a topic, if no list has it twice. -/
theorem callsTo_le (h : Runs c t₀ es s) (hnodup : ∀ l ∈ listsRead es, l.Nodup) (topic : String) :
    s.callsTo topic ≤ (s.now - t₀) / period c + 1 := by
  have hpub := publishes_run h
  calc s.callsTo topic
      ≤ (s.calls.map PublishCall.topic ++ s.phase.topics).count topic := by
        rw [List.count_append]
        exact Nat.le_add_right _ _
    _ = ((listsRead es).map (List.count topic)).sum := by rw [hpub.topics, List.count_flatten]
    _ ≤ (listsRead es).length := by
        refine (List.sum_le_card_nsmul _ 1 ?_).trans ?_
        · intro k hk
          obtain ⟨l, hl, rfl⟩ := List.mem_map.mp hk
          exact List.nodup_iff_count.mp (hnodup l hl) topic
        · rw [List.length_map]
          exact Nat.le_of_eq (Nat.mul_one _)
    _ ≤ s.starts.length := by
        rw [← hpub.cycles]
        exact Nat.le_add_right _ _
    _ ≤ (s.now - t₀) / period c + 1 := starts_le h

-- ── The two loops of the node ────────────────────────────────────────────────

/-- The message loop, the broadcast loop, and the list of topics that they share. -/
structure Node where
  loop      : LoopState
  broadcast : Loop

inductive NodeEvent where
  | loop (e : HamletRegistry.Event)
  | broadcast (e : Event)

/-- The lock gives the topics of the registry. -/
def readsTopics (reg : BeaconRegistry) : Happening → Bool
  | .locked topics _ => decide (topics = reg.broadcastTopics)
  | _ => true

def nodeStep (app : App) (c : BeaconManagementConfig) (n : Node) : NodeEvent → Option Node
  | .loop e => (HamletRegistry.step app n.loop e).map fun loop => { n with loop := loop }
  | .broadcast e =>
      if readsTopics n.loop.registry e.what then
        (step c n.broadcast e).map fun broadcast => { n with broadcast := broadcast }
      else none

/-- Both loops are started at `t₀`, and have come to this state. -/
def NodeRuns (app : App) (c : BeaconManagementConfig) (t₀ : ℕ) (es : List NodeEvent) (n : Node) :
    Prop :=
  ∃ s₀, startLoop c t₀ = some s₀ ∧ run (nodeStep app c) ⟨.init app, s₀⟩ es = some n

/-- The events of the message loop. -/
def loopEvents (es : List NodeEvent) : List HamletRegistry.Event :=
  es.filterMap fun
    | .loop e => some e
    | .broadcast _ => none

/-- The events of the broadcast loop. -/
def broadcastEvents (es : List NodeEvent) : List Event :=
  es.filterMap fun
    | .loop _ => none
    | .broadcast e => some e

/-- A topic of a broadcast channel that was registered. -/
def Registered (es : List NodeEvent) (topic : String) : Prop :=
  ∃ id, topic = broadcastTopic id ∧ broadcastChannel id ∈ channelsOf (loopEvents es)

variable {app : App} {n n' : Node} {d : NodeEvent} {ds : List NodeEvent}

@[simp] theorem loopEvents_loop (ds : List NodeEvent) (e : HamletRegistry.Event) :
    loopEvents (ds ++ [.loop e]) = loopEvents ds ++ [e] := List.filterMap_append

@[simp] theorem loopEvents_broadcast (ds : List NodeEvent) (e : Event) :
    loopEvents (ds ++ [.broadcast e]) = loopEvents ds :=
  List.filterMap_append.trans (List.append_nil _)

@[simp] theorem broadcastEvents_loop (ds : List NodeEvent) (e : HamletRegistry.Event) :
    broadcastEvents (ds ++ [.loop e]) = broadcastEvents ds :=
  List.filterMap_append.trans (List.append_nil _)

@[simp] theorem broadcastEvents_broadcast (ds : List NodeEvent) (e : Event) :
    broadcastEvents (ds ++ [.broadcast e]) = broadcastEvents ds ++ [e] := List.filterMap_append

theorem channelsOf_loopEvents_concat (ds : List NodeEvent) (d : NodeEvent) :
    ∃ cs, channelsOf (loopEvents (ds ++ [d])) = channelsOf (loopEvents ds) ++ cs :=
  ⟨_, by rw [loopEvents, List.filterMap_append]; exact HamletBroadcastTopic.channelsOf_append _ _⟩

theorem Registered.concat {topic : String} (h : Registered ds topic) (d : NodeEvent) :
    Registered (ds ++ [d]) topic := by
  obtain ⟨id, htopic, hmem⟩ := h
  obtain ⟨cs, hcs⟩ := channelsOf_loopEvents_concat ds d
  exact ⟨id, htopic, by rw [hcs]; exact List.mem_append_left _ hmem⟩

/-- What the lock shows: no topic twice, and only registered ones. -/
theorem reads_ok (hloop : loopRun app (loopEvents ds) = some n.loop)
    (hcs : FromHandshakes (channelsOf (loopEvents ds))) {w : Happening}
    (hreads : readsTopics n.loop.registry w = true) :
    ∀ l ∈ w.list?, l.Nodup ∧ ∀ t ∈ l, Registered ds t := by
  intro l hl
  cases w with
  | locked topics random =>
      obtain rfl := Option.some.inj hl
      obtain rfl := of_decide_eq_true hreads
      have hinv := (HamletBroadcastTopic.topicHolds_run app _ n.loop hloop hcs).drop
        fun id r _ h => h.toTopicInv
      exact ⟨hinv.nodup, hinv.registered⟩
  | tick | key _ | swept | published _ | woke => cases hl

/-- Each loop of a node runs on its own, and the broadcast loop reads registered topics only. -/
theorem node_run (h : NodeRuns app c t₀ ds n)
    (hcs : FromHandshakes (channelsOf (loopEvents ds))) :
    loopRun app (loopEvents ds) = some n.loop ∧ Runs c t₀ (broadcastEvents ds) n.broadcast ∧
      ∀ l ∈ listsRead (broadcastEvents ds), l.Nodup ∧ ∀ t ∈ l, Registered ds t := by
  obtain ⟨s₀, hstart, hrun⟩ := h
  revert hcs
  refine run_induction (P := fun ds n => FromHandshakes (channelsOf (loopEvents ds)) →
    loopRun app (loopEvents ds) = some n.loop ∧ Runs c t₀ (broadcastEvents ds) n.broadcast ∧
      ∀ l ∈ listsRead (broadcastEvents ds), l.Nodup ∧ ∀ t ∈ l, Registered ds t) ?_ ?_ ds n hrun
  · intro _
    exact ⟨rfl, ⟨s₀, hstart, rfl⟩, fun l hl => by cases hl⟩
  · intro ds d n n' _ ih hstep hcs
    obtain ⟨cs, hmore⟩ := channelsOf_loopEvents_concat ds d
    have hprev : FromHandshakes (channelsOf (loopEvents ds)) := by
      rw [hmore] at hcs
      exact hcs.left
    obtain ⟨hloop, ⟨s₁, hstart₁, hbroadcast⟩, hreads⟩ := ih hprev
    have hold : ∀ l ∈ listsRead (broadcastEvents ds),
        l.Nodup ∧ ∀ t ∈ l, Registered (ds ++ [d]) t := by
      intro l hl
      exact ⟨(hreads l hl).1, fun t ht => ((hreads l hl).2 t ht).concat d⟩
    cases d with
    | loop e =>
        obtain ⟨l, hl, rfl⟩ := Option.map_eq_some_iff.mp hstep
        rw [loopEvents_loop, broadcastEvents_loop]
        exact ⟨run_concat_eq_some.mpr ⟨_, hloop, hl⟩, ⟨s₁, hstart₁, hbroadcast⟩, hold⟩
    | broadcast e =>
        rw [nodeStep] at hstep
        split at hstep
        case isFalse => cases hstep
        case isTrue hread =>
            obtain ⟨b, hb, rfl⟩ := Option.map_eq_some_iff.mp hstep
            rw [loopEvents_broadcast, broadcastEvents_broadcast]
            refine ⟨hloop, ⟨s₁, hstart₁, run_concat_eq_some.mpr ⟨_, hbroadcast, hb⟩⟩, ?_⟩
            intro l hl
            rw [listsRead_concat] at hl
            rcases List.mem_append.mp hl with hl | hl
            · exact hold l hl
            · obtain ⟨hnodup, hlisted⟩ := reads_ok hloop hprev hread l (Option.mem_toList.mp hl)
              exact ⟨hnodup, fun t ht => (hlisted t ht).concat _⟩

/-- **How often a topic is published to.** In every interleaving of the two loops, whatever takes
    however long: the calls are those of the lists that were read, list by list and in their order,
    up to what the cycle under way has left to do; by any instant a topic has been published to at
    most once for each whole interval since the start, and once more; and only topics are published
    to that a device handshake has registered. -/
theorem broadcasts_bounded (app : App) (c : BeaconManagementConfig) (t₀ : ℕ)
    (ds : List NodeEvent) (n : Node) (h : NodeRuns app c t₀ ds n)
    (hcs : FromHandshakes (channelsOf (loopEvents ds))) :
    n.broadcast.calls.map PublishCall.topic ++ n.broadcast.phase.topics =
        (listsRead (broadcastEvents ds)).flatten ∧
      (∀ topic, n.broadcast.callsTo topic ≤ (n.broadcast.now - t₀) / period c + 1) ∧
      ∀ x ∈ n.broadcast.calls, ∃ id, x.topic = broadcastTopic id ∧
        broadcastChannel id ∈ channelsOf (loopEvents ds) := by
  obtain ⟨-, hruns, hreads⟩ := node_run h hcs
  have htopics := (publishes_run hruns).topics
  refine ⟨htopics, callsTo_le hruns fun l hl => (hreads l hl).1, ?_⟩
  intro x hx
  have hmem : x.topic ∈ (listsRead (broadcastEvents ds)).flatten := by
    rw [← htopics]
    exact List.mem_append_left _ (List.mem_map_of_mem hx)
  obtain ⟨l, hl, hx⟩ := List.mem_flatten.mp hmem
  exact (hreads l hl).2 x.topic hx

/-- A cycle with one topic in which nothing takes any time. -/
def instantCycle (t : ℕ) (topic : String) : List Event :=
  [⟨t, .tick⟩, ⟨t, .key true⟩, ⟨t, .swept⟩, ⟨t, .locked [topic] 0⟩, ⟨t, .published 0⟩]

/-- The default settings, with or without jitter. -/
def minuteLoop (jitter : Bool) : BeaconManagementConfig := ⟨jitter, 60, 3600, 7200⟩

/-- A beacon is registered, and hears of the node in two cycles a minute apart. -/
def twoCycles : List NodeEvent :=
  .loop (.channel (broadcastChannel "b1") 0 (.ok ())) ::
    (instantCycle 0 "b1/cast" ++ instantCycle (60 * second) "b1/cast").map .broadcast

theorem broadcasts_bounded_twoCycles :
    ∃ n, NodeRuns HamletBroadcastTopic.plainApp (minuteLoop false) 0 twoCycles n ∧
      FromHandshakes (channelsOf (loopEvents twoCycles)) ∧ n.broadcast.callsTo "b1/cast" = 2 ∧
      n.broadcast.callsTo "b1/cast" ≤ (n.broadcast.now - 0) / period (minuteLoop false) + 1 := by
  have hcs : FromHandshakes (channelsOf (loopEvents twoCycles)) :=
    ⟨List.nodup_singleton _, fun c hc => ⟨"b1", .inr (List.mem_singleton.mp hc)⟩⟩
  have hrun : NodeRuns HamletBroadcastTopic.plainApp (minuteLoop false) 0 twoCycles _ :=
    ⟨.init 0, startLoop_eq_some.mpr ⟨by decide, rfl⟩, rfl⟩
  exact ⟨_, hrun, hcs, rfl, (broadcasts_bounded _ _ 0 twoCycles _ hrun hcs).2.1 "b1/cast"⟩

-- ── With jitter ──────────────────────────────────────────────────────────────

/-- When the next cycle can begin, seen from within one. -/
def dueAfter (c : BeaconManagementConfig) (now : ℕ) : Option ℕ → ℕ
  | none       => now
  | some start => start + period c

/-- The `cycle_start` of the cycle under way. -/
def Phase.start? : Phase → Option ℕ
  | .locking start       => start
  | .jittering start _ _ => start
  | .publishing start _  => start
  | _                    => none

/-- The earliest instant at which the next cycle can begin to publish. -/
def Phase.notBefore (c : BeaconManagementConfig) (now : ℕ) : Phase → ℕ
  | .ticking             => now
  | .keying              => now
  | .sweeping            => now
  | .locking start       => dueAfter c now start
  | .jittering start _ _ => dueAfter c now start
  | .publishing start _  => dueAfter c now start
  | .resting wake        => wake

/-- What the sleeps of a loop with jitter keep apart. -/
structure Spaced (c : BeaconManagementConfig) (s : Loop) : Prop where
  cycles : s.starts.Pairwise fun a b => a + period c ≤ b
  next   : ∀ x ∈ s.starts, x + period c ≤ s.phase.notBefore c s.now
  begun  : ∀ t, s.phase.start? = some t → t ≤ s.now
  calls  : (s.calls.map PublishCall.time).Pairwise fun a b => a + second ≤ b
  past   : ∀ x ∈ s.calls, x.time ≤ s.now
  wake   : ∀ start wake topics, s.phase = .jittering start wake topics →
    ∀ x ∈ s.calls, x.time + second ≤ wake

theorem notBefore_mono (c : BeaconManagementConfig) {now now' : ℕ} (h : now ≤ now') (p : Phase) :
    p.notBefore c now ≤ p.notBefore c now' := by
  cases p with
  | resting wake => exact Nat.le_refl _
  | ticking | keying | sweeping => exact h
  | locking start | jittering start _ _ | publishing start _ =>
      cases start with
      | none => exact h
      | some t => exact Nat.le_refl _

theorem Spaced.clock (h : Spaced c s) {t : ℕ} (ht : s.now ≤ t) : Spaced c { s with now := t } where
  cycles := h.cycles
  next x hx := (h.next x hx).trans (notBefore_mono c ht s.phase)
  begun t' ht' := (h.begun t' ht').trans ht
  calls := h.calls
  past x hx := (h.past x hx).trans ht
  wake := h.wake

/-- A step to another phase that calls nothing. -/
theorem Spaced.goTo (h : Spaced c s) (p : Phase)
    (hnext : s.phase.notBefore c s.now ≤ p.notBefore c s.now)
    (hbegun : ∀ t, p.start? = some t → t ≤ s.now)
    (hwake : ∀ start wake topics, p = .jittering start wake topics → s.now + second ≤ wake) :
    Spaced c { s with phase := p } where
  cycles := h.cycles
  next x hx := (h.next x hx).trans hnext
  begun := hbegun
  calls := h.calls
  past := h.past
  wake start wake topics hp x hx :=
    (Nat.add_le_add_right (h.past x hx) second).trans (hwake start wake topics hp)

/-- The loop is not in a cycle that publishes. -/
def Phase.isOutside : Phase → Bool
  | .ticking   => true
  | .keying    => true
  | .sweeping  => true
  | .resting _ => true
  | _          => false

theorem Spaced.goOutside (h : Spaced c s) {p : Phase} (hp : p.isOutside = true)
    (hnext : s.phase.notBefore c s.now ≤ p.notBefore c s.now) :
    Spaced c { s with phase := p } := by
  refine h.goTo p hnext ?_ ?_
  · intro t ht
    cases p with
    | ticking | keying | sweeping | resting wake => cases ht
    | locking start | jittering start wake topics | publishing start rest => cases hp
  · rintro start wake topics rfl
    cases hp

/-- The end of a cycle: the rest of the interval is slept through, or is over. -/
theorem Spaced.finish (h : Spaced c s) {start : Option ℕ} (hbegun : ∀ t, start = some t → t ≤ s.now)
    (hdue : s.phase.notBefore c s.now = dueAfter c s.now start) : Spaced c (s.finish c start) := by
  cases start with
  | none => exact h.goOutside rfl (Nat.le_of_eq hdue)
  | some t =>
      have ht := hbegun t rfl
      have hdue : s.phase.notBefore c s.now = t + period c := hdue
      rw [Loop.finish]
      split
      case isTrue hover =>
          refine h.goOutside rfl ?_
          show _ ≤ s.now
          omega
      case isFalse =>
          refine h.goOutside rfl ?_
          show _ ≤ s.now + (period c - (s.now - t))
          omega

/-- Going on with a cycle calls nothing at once, and does not bring the next one forward. -/
theorem Spaced.goOn (hjitter : c.useJitter = true) (h : Spaced c s) {start : Option ℕ}
    (random : ℕ) (topics : List String) (hstart : s.phase.start? = start)
    (hdue : s.phase.notBefore c s.now = dueAfter c s.now start) :
    Spaced c (s.next c start random topics) := by
  have hbegun : ∀ t, start = some t → t ≤ s.now := fun t ht => h.begun t (hstart.trans ht)
  cases topics with
  | nil => exact h.finish hbegun hdue
  | cons topic rest =>
      rw [Loop.next, if_pos hjitter]
      refine h.goTo (.jittering _ _ _) (Nat.le_of_eq hdue) hbegun ?_
      intro start' wake topics' hp
      cases hp
      rw [Nat.succ_mul]
      omega

theorem Moves.spaced {w : Happening} (hjitter : c.useJitter = true) (hm : Moves c s w s')
    (h : Spaced c s) : Spaced c s' := by
  cases hm with
  | tick hp hdue =>
      have hs := h.goOutside (p := .keying) rfl (by rw [hp]; exact Nat.le_refl _)
      exact ⟨hs.cycles, hs.next, hs.begun, hs.calls, hs.past, hs.wake⟩
  | key ok hp =>
      cases ok
      · exact h.goOutside rfl (by rw [hp]; exact Nat.le_refl _)
      · exact h.goOutside rfl (by rw [hp]; exact Nat.le_refl _)
  | swept hp =>
      have hnext : ∀ x ∈ s.starts, x + period c ≤ s.now := by
        have hnext := h.next
        rw [hp] at hnext
        exact hnext
      rw [if_pos hjitter]
      refine ⟨?_, ?_, ?_, h.calls, h.past, fun _ _ _ hp => by cases hp⟩
      · refine List.pairwise_append.mpr ⟨h.cycles, List.pairwise_singleton _ _, ?_⟩
        intro x hx y hy
        obtain rfl := List.mem_singleton.mp hy
        exact hnext x hx
      · intro x hx
        show x + period c ≤ s.now + period c
        rcases List.mem_append.mp hx with hx | hx
        · exact (hnext x hx).trans (Nat.le_add_right _ _)
        · rw [List.mem_singleton.mp hx]
      · intro t ht
        cases ht
        exact Nat.le_refl _
  | locked start topics random hp =>
      exact h.goOn hjitter random topics (by rw [hp]; rfl) (by rw [hp]; rfl)
  | published start rest random hp =>
      exact h.goOn hjitter random rest (by rw [hp]; rfl) (by rw [hp]; rfl)
  | wokeToPublish start wake topic rest hp hdue =>
      have hnext := h.next
      have hbegun := h.begun
      rw [hp] at hnext hbegun
      refine ⟨h.cycles, hnext, hbegun, ?_, ?_, fun _ _ _ hp => by cases hp⟩
      · show ((s.calls ++ [_]).map PublishCall.time).Pairwise _
        rw [List.map_append]
        refine List.pairwise_append.mpr ⟨h.calls, List.pairwise_singleton _ _, ?_⟩
        intro a ha b hb
        obtain ⟨x, hx, rfl⟩ := List.mem_map.mp ha
        obtain rfl := List.mem_singleton.mp hb
        exact (h.wake start wake _ hp x hx).trans hdue
      · intro x hx
        rcases List.mem_append.mp hx with hx | hx
        · exact h.past x hx
        · rw [List.mem_singleton.mp hx]
          exact Nat.le_refl _
  | wokeToTick wake hp hdue =>
      exact h.goOutside rfl (by rw [hp]; exact hdue)

theorem spaced_run (hjitter : c.useJitter = true) (h : Runs c t₀ es s) : Spaced c s := by
  refine h.invariant (P := fun _ s => Spaced c s) ?_ ?_ ?_
  · exact ⟨.nil, by simp [Loop.init], by simp [Loop.init, Phase.start?], .nil, by simp [Loop.init],
      by simp [Loop.init]⟩
  · intro _ s t ht hs
    exact hs.clock ht
  · intro _ e s s' hm hs
    exact hm.spaced hjitter hs

-- ── Without jitter ───────────────────────────────────────────────────────────

theorem instantCycle_run (hplain : c.useJitter = false) {t : ℕ} (topic : String)
    (hp : s.phase = .ticking) (hnow : s.now ≤ t) (hdue : s.deadline ≤ t) :
    run (step c) s (instantCycle t topic) = some
      { now      := t
        deadline := s.deadline + period c
        phase    := .ticking
        ticks    := s.ticks + 1
        starts   := s.starts ++ [t]
        calls    := s.calls ++ [⟨t, topic⟩] } := by
  simp [instantCycle, step, Loop.react, Loop.next, Loop.publish, Loop.finish, hp, hnow, hdue,
    hplain]

/-- Cycles one after another, all at the same instant. -/
def burst (t : ℕ) (topic : String) : ℕ → List Event
  | 0     => []
  | n + 1 => burst t topic n ++ instantCycle t topic

/-- **A stall is made up for in an instant.** When the loop is held up for `n` intervals, it may go
    through `n + 1` cycles at the instant it goes on: the bound on the calls is attained. -/
theorem burst_attains_bound (hplain : c.useJitter = false) (hpos : 0 < period c) (t₀ n : ℕ)
    (topic : String) :
    ∃ s, Runs c t₀ (burst (t₀ + n * period c) topic (n + 1)) s ∧ s.now = t₀ + n * period c ∧
      s.starts = List.replicate (n + 1) s.now ∧
      s.calls = List.replicate (n + 1) ⟨s.now, topic⟩ := by
  -- after `k` cycles the `k + 1`st tick is due since `n - k` intervals
  have hcycles : ∀ k ≤ n + 1, ∃ s, Runs c t₀ (burst (t₀ + n * period c) topic k) s ∧
      s.phase = .ticking ∧ s.now ≤ t₀ + n * period c ∧ (0 < k → s.now = t₀ + n * period c) ∧
      s.deadline = t₀ + k * period c ∧ s.starts = List.replicate k (t₀ + n * period c) ∧
      s.calls = List.replicate k ⟨t₀ + n * period c, topic⟩ := by
    intro k
    induction k with
    | zero =>
        intro _
        refine ⟨_, ⟨_, startLoop_eq_some.mpr ⟨hpos, rfl⟩, rfl⟩, rfl, ?_, by simp, ?_, rfl, rfl⟩
        · exact Nat.le_add_right _ _
        · simp [Loop.init]
    | succ k ih =>
        intro hk
        obtain ⟨s, ⟨s₀, hstart, hrun⟩, hp, hnow, -, hdeadline, hstarts, hcalls⟩ :=
          ih (Nat.le_of_succ_le hk)
        have hdue : s.deadline ≤ t₀ + n * period c := by
          rw [hdeadline]
          exact Nat.add_le_add_left (Nat.mul_le_mul_right _ (Nat.le_of_succ_le_succ hk)) _
        refine ⟨_, ⟨s₀, hstart, run_append_eq_some.mpr
          ⟨s, hrun, instantCycle_run hplain topic hp hnow hdue⟩⟩, rfl, Nat.le_refl _, fun _ => rfl,
          ?_, ?_, ?_⟩
        · rw [hdeadline, Nat.succ_mul, Nat.add_assoc]
        · rw [hstarts, List.replicate_succ']
        · rw [hcalls, List.replicate_succ']
  obtain ⟨s, hrun, -, -, hnow, -, hstarts, hcalls⟩ := hcycles (n + 1) (Nat.le_refl _)
  refine ⟨s, hrun, hnow n.succ_pos, ?_, ?_⟩
  · rw [hnow n.succ_pos, hstarts]
  · rw [hnow n.succ_pos, hcalls]

/-- **What the jitter is for.** In every run of a loop with jitter the cycles begin at least an
    interval apart and the calls are made at least a second apart, however long the topics take; a
    loop without jitter has runs in which both fail: held up for `n` intervals, for any `n`, it may
    go through `n + 1` cycles at one instant. -/
theorem spaced_iff_jitter (c : BeaconManagementConfig) (hpos : 0 < c.broadcastInterval) :
    ((∀ t₀ es s, Runs c t₀ es s →
      (s.starts.Pairwise fun a b => a + period c ≤ b) ∧
        (s.calls.map PublishCall.time).Pairwise fun a b => a + second ≤ b) ↔
      c.useJitter = true) ∧
    (c.useJitter = false → ∀ t₀ n topic,
      ∃ s, Runs c t₀ (burst (t₀ + n * period c) topic (n + 1)) s ∧ s.now = t₀ + n * period c ∧
        s.starts = List.replicate (n + 1) s.now ∧
        s.calls = List.replicate (n + 1) ⟨s.now, topic⟩) := by
  have hperiod : 0 < period c := Nat.mul_pos hpos (by decide)
  refine ⟨⟨?_, ?_⟩, fun hplain => burst_attains_bound hplain hperiod⟩
  · intro hall
    by_contra hplain
    obtain ⟨s, hrun, -, hstarts, -⟩ :=
      burst_attains_bound (Bool.eq_false_iff.mpr hplain) hperiod 0 1 "b/cast"
    have hspaced := (hall 0 _ s hrun).1
    rw [hstarts] at hspaced
    have hle := List.rel_of_pairwise_cons hspaced List.mem_cons_self
    omega
  · intro hjitter t₀ es s hrun
    have hspaced := spaced_run hjitter hrun
    exact ⟨hspaced.cycles, hspaced.calls⟩

/-- A broadcast every minute: with jitter the cycles are spaced, without it an hour's stall may be
    made up for by 61 cycles at once. -/
theorem spaced_iff_jitter_minute :
    (∀ t₀ es s, Runs (minuteLoop true) t₀ es s →
      (s.starts.Pairwise fun a b => a + period (minuteLoop true) ≤ b) ∧
        (s.calls.map PublishCall.time).Pairwise fun a b => a + second ≤ b) ∧
      ∃ s, Runs (minuteLoop false) 0 (burst (0 + 60 * period (minuteLoop false)) "b1/cast" 61) s ∧
        s.now = 0 + 60 * period (minuteLoop false) ∧ s.starts = List.replicate 61 s.now ∧
        s.calls = List.replicate 61 ⟨s.now, "b1/cast"⟩ :=
  ⟨(spaced_iff_jitter (minuteLoop true) (by decide)).1.mpr rfl,
    (spaced_iff_jitter (minuteLoop false) (by decide)).2 rfl 0 60 "b1/cast"⟩

end HamletBroadcastPacing
