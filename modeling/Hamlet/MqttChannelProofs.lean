import Hamlet.Lib.CallerLoopProofs
import Hamlet.RegistryProofs

/-!
# Calling the MQTT client

The message loop, the broadcast loop and the start-up share one MQTT client through clones of
`MqttClientHandle`: a call sends a command with a one-shot reply into a channel of 64 places, and the
command task hands the commands to `AsyncClient` one after another. The task is told to shut down
when the service is stopped, and leaves then whatever is queued.

Two of the callers are loops over a list, each call awaited before the next (`CallerLoop`): a
broadcast cycle publishes to every topic and logs the errors, `subscribe_all` stops at the first.

* `loop_calls_in_order` — over every interleaving with other callers and every time of a shutdown,
  the commands of a loop reach the client in the order of the list, each at most once, those of the
  successful calls for certain, and those that returned a channel error NOT AT ALL, so that nothing
  is done twice by trying again;
* `subscribe_all_spec` — what the client has been told when `subscribe_all` returns, with success or
  with its first error.
-/

namespace HamletMqttChannel

open EventRun Noninterference Mailbox HamletRegistry

-- ── The channel ──────────────────────────────────────────────────────────────

/-- `MqttCommand`, without the reply senders. -/
inductive MqttCommand where
  | subscribe (topic : String) (qos : QoS)
  | unsubscribe (topic : String)
  | publish (topic : String) (qos : QoS) (payload : List UInt8)
  deriving DecidableEq, Repr

/-- What stands before an error of the client. -/
def MqttCommand.failed : MqttCommand → String
  | .subscribe .. => "subscribe failed: "
  | .unsubscribe .. => "unsubscribe failed: "
  | .publish .. => "publish failed: "

/-- A command, with what the client answers when it is handed over. -/
structure Request where
  command : MqttCommand
  answer  : Except String Unit

/-- One iteration of the command task; `taken` are the commands the client has taken so far. -/
def serveCommand (taken : List MqttCommand) (r : Request) : List MqttCommand × Except String Unit :=
  match r.answer with
  | .ok () => (taken ++ [r.command], .ok ())
  | .error e => (taken, .error (r.command.failed ++ e))

/-- `CMD_CAPACITY`; the task has a shutdown receiver. -/
def cmdChannel : Params where
  capacity      := 64
  interruptible := true

/-- The calls in flight, the channel and the command task. -/
abbrev Calls (κ : Type) := State κ Request (Except String Unit) (List MqttCommand)

variable {κ : Type} [DecidableEq κ]

/-- A run of calls on a client that has taken nothing yet. -/
def Runs (es : List (Event κ Request)) (s : Calls κ) : Prop :=
  Reaches cmdChannel serveCommand [] es s

/-- What a method of `MqttClientHandle` returns. -/
def handleResult : Except Failure (Except String Unit) → Except String Unit
  | .error .closed => .error "mqtt client channel closed"
  | .error .dropped => .error "mqtt client dropped reply"
  | .ok result => result

/-- What a call has returned, if it has. -/
def result? (s : Calls κ) (c : κ) : Option (Except String Unit) :=
  match s.stage c with
  | .returned outcome => some (handleResult outcome)
  | _ => none

/-- The call has returned `Ok`. -/
def succeeded (s : Calls κ) (c : κ) : Bool :=
  match result? s c with
  | some (.ok ()) => true
  | _ => false

/-- The commands handed to the client, with their calls. -/
def handed (s : Calls κ) : List (κ × MqttCommand) := s.log.map fun x => (x.call, x.request.command)

-- ── What the client has taken ────────────────────────────────────────────────

variable {es : List (Event κ Request)} {s : Calls κ}

/-- The reply was `Ok`. -/
def isOk : Except String Unit → Bool
  | .ok () => true
  | .error _ => false

theorem serveCommand_eq (taken : List MqttCommand) (r : Request) :
    (serveCommand taken r).1 =
      taken ++ if isOk (serveCommand taken r).2 then [r.command] else [] := by
  rw [serveCommand]
  cases r.answer with
  | ok u => rfl
  | error e => exact (List.append_nil taken).symm

theorem exec_serveCommand (rs : List Request) : ∀ taken : List MqttCommand,
    (exec serveCommand taken rs).1 = taken ++
      ((exec serveCommand taken rs).2.filter fun x => isOk x.2).map fun x => x.1.command := by
  induction rs with
  | nil => exact fun taken => (List.append_nil taken).symm
  | cons r rs ih =>
      intro taken
      rw [exec, ih, serveCommand_eq, List.append_assoc, List.filter_cons]
      cases isOk (serveCommand taken r).2 with
      | true => rfl
      | false => rfl

/-- The client has taken the commands that were answered `Ok`, in the order of the log. -/
theorem Runs.server_eq (h : Runs es s) :
    s.server = (s.log.filter fun x => isOk x.reply).map fun x => x.request.command := by
  have hexec := exec_serveCommand (s.log.map Entry.request) []
  rw [h.linearized.serial, List.nil_append, List.filter_map, List.map_map] at hexec
  exact hexec

/-- A call that returned `Ok` has an entry. -/
theorem Runs.entry_of_succeeded (h : Runs es s) {c : κ} (hok : succeeded s c = true) :
    ∃ r, ⟨c, r, .ok ()⟩ ∈ s.log := by
  rw [succeeded, result?] at hok
  split at hok
  · next hres =>
      split at hres
      · next outcome hst =>
          have hout : handleResult outcome = .ok () := Option.some.inj hres
          cases outcome with
          | error f => cases f <;> cases hout
          | ok reply =>
              obtain rfl : reply = .ok () := hout
              exact h.linearized.returned c _ hst
      · cases hres
  · cases hok

/-- The one entry of a call. -/
theorem Runs.entry_unique (h : Runs es s) {x y : Entry κ Request (Except String Unit)}
    (hx : x ∈ s.log) (hy : y ∈ s.log) (heq : x.call = y.call) : x = y :=
  List.inj_on_of_nodup_map h.linearized.once hx hy heq

-- ── A loop over a list of commands ───────────────────────────────────────────

/-- A loop with its commands, each under the name of its call, among the other callers. -/
abbrev Looping (κ : Type) :=
  CallerLoop.State κ MqttCommand Request (Except String Unit) (List MqttCommand)

/-- Each call is made with the command of the list, whatever the client will answer. -/
def loopBody (goesOn : Except String Unit → Bool) :
    CallerLoop.Body MqttCommand Request (Except String Unit) where
  asks   := Request.command
  goesOn := fun outcome => goesOn (handleResult outcome)

/-- A broadcast cycle logs an error. -/
def logging : Except String Unit → Bool := fun _ => true

/-- `subscribe_all` returns it, with `?`. -/
def untilError : Except String Unit → Bool := isOk

/-- A run of a loop over these calls, of the other callers and of the command task. -/
def LoopRuns (goesOn : Except String Unit → Bool) (calls : List (κ × MqttCommand))
    (es : List (CallerLoop.Event κ Request)) (s : Looping κ) : Prop :=
  run (CallerLoop.step cmdChannel serveCommand (loopBody goesOn) calls) (.init [] calls) es = some s

/-- The run of the channel under it. -/
def channelTrace (goesOn : Except String Unit → Bool) (calls : List (κ × MqttCommand))
    (es : List (CallerLoop.Event κ Request)) : List (Event κ Request) :=
  CallerLoop.trace cmdChannel serveCommand (loopBody goesOn) calls [] es

/-- What the calls of a loop are in a run of the channel. -/
structure LoopCalls (es : List (Event κ Request)) (calls : List (κ × MqttCommand)) : Prop where
  names      : (calls.map Prod.fst).Nodup
  commands   : ∀ x ∈ calls, ∀ r, .invoke x.1 r ∈ es → r.command = x.2
  sequential : Sequential cmdChannel serveCommand [] es (calls.map Prod.fst)

section Loops

variable {goesOn : Except String Unit → Bool} {calls : List (κ × MqttCommand)}
  {les : List (CallerLoop.Event κ Request)} {ls : Looping κ}

theorem LoopRuns.progress (h : LoopRuns goesOn calls les ls) (hnames : (calls.map Prod.fst).Nodup) :
    CallerLoop.Progress cmdChannel serveCommand (loopBody goesOn) calls []
      (channelTrace goesOn calls les) ls :=
  CallerLoop.progress_run hnames h

theorem LoopRuns.loopCalls (h : LoopRuns goesOn calls les ls)
    (hnames : (calls.map Prod.fst).Nodup) : LoopCalls (channelTrace goesOn calls les) calls where
  names := hnames
  commands := (h.progress hnames).asked
  sequential := by
    refine List.pairwise_map.mpr ((h.progress hnames).ordered.imp ?_)
    intro y x hafter p q r heq
    obtain ⟨u, hu, outcome, hret, -⟩ := hafter p q r heq
    exact ⟨u, outcome, hu, hret⟩

end Loops

omit [DecidableEq κ] in
/-- Pairs of a list without repeated names, told apart by their names. -/
theorem eq_of_map_fst_eq {calls : List (κ × MqttCommand)} (hnames : (calls.map Prod.fst).Nodup) :
    ∀ {l l' : List (κ × MqttCommand)}, (∀ x ∈ l, x ∈ calls) → (∀ x ∈ l', x ∈ calls) →
      l.map Prod.fst = l'.map Prod.fst → l = l' := by
  intro l
  induction l with
  | nil =>
      intro l' _ _ h
      exact (List.map_eq_nil_iff.mp h.symm).symm
  | cons x l ih =>
      intro l' hl hl' h
      cases l' with
      | nil => cases h
      | cons y l' =>
          obtain ⟨hfst, hrest⟩ := List.cons.inj h
          obtain rfl : x = y := List.inj_on_of_nodup_map hnames (hl x List.mem_cons_self)
            (hl' y List.mem_cons_self) hfst
          rw [ih (fun z hz => hl z (List.mem_cons_of_mem x hz))
            (fun z hz => hl' z (List.mem_cons_of_mem x hz)) hrest]

/-- What was handed over for the loop, in order. -/
theorem LoopCalls.handed_eq (h : Runs es s) {calls : List (κ × MqttCommand)}
    (hloop : LoopCalls es calls) :
    (handed s).filter (fun x => decide (x.1 ∈ calls.map Prod.fst)) =
      calls.filter fun x => decide (x.1 ∈ s.log.map Entry.call) := by
  have horder := h.in_order hloop.names hloop.sequential
  have hfst : (handed s).map Prod.fst = s.log.map Entry.call := by
    rw [handed, List.map_map]
    rfl
  refine eq_of_map_fst_eq hloop.names ?_ ?_ ?_
  · intro x hx
    obtain ⟨hmem, hname⟩ := List.mem_filter.mp hx
    obtain ⟨y, hy, rfl⟩ := List.mem_map.mp hmem
    obtain ⟨z, hz, hzy⟩ := List.mem_map.mp (of_decide_eq_true hname)
    have hcommand := hloop.commands z hz y.request (by rw [hzy]; exact h.linearized.made y hy)
    rw [hcommand, show y.call = z.1 from hzy.symm]
    exact hz
  · exact fun x hx => (List.mem_filter.mp hx).1
  · rw [← hfst, List.filter_map, List.filter_map, hfst] at horder
    exact horder

/-- The commands of the calls that returned `Ok` are with the client, in order. -/
theorem LoopCalls.taken_sublist (h : Runs es s) {calls : List (κ × MqttCommand)}
    (hloop : LoopCalls es calls) :
    ((calls.filter fun x => succeeded s x.1).map Prod.snd).Sublist s.server := by
  -- the entries of these calls, among those that were answered `Ok`
  have hentries : (s.log.filter fun x =>
      succeeded s x.call && decide (x.call ∈ calls.map Prod.fst)).Sublist
        (s.log.filter fun x => isOk x.reply) := by
    have hweaken : (s.log.filter fun x =>
        succeeded s x.call && decide (x.call ∈ calls.map Prod.fst)) =
        (s.log.filter fun x => isOk x.reply).filter fun x =>
          succeeded s x.call && decide (x.call ∈ calls.map Prod.fst) := by
      rw [List.filter_filter]
      refine List.filter_congr ?_
      intro x hx
      cases hok : succeeded s x.call with
      | false => rfl
      | true =>
          obtain ⟨r, hmem⟩ := h.entry_of_succeeded hok
          rw [h.entry_unique hx hmem rfl]
          exact (Bool.and_true _).symm
    rw [hweaken]
    exact List.filter_sublist
  have hcalls : (calls.filter fun x => succeeded s x.1) =
      ((handed s).filter fun x => decide (x.1 ∈ calls.map Prod.fst)).filter fun x =>
        succeeded s x.1 := by
    rw [hloop.handed_eq h, List.filter_filter]
    refine List.filter_congr ?_
    intro x _
    cases hok : succeeded s x.1 with
    | false => rfl
    | true =>
        obtain ⟨r, hmem⟩ := h.entry_of_succeeded hok
        rw [Bool.true_and]
        exact (decide_eq_true (List.mem_map_of_mem (f := Entry.call) hmem)).symm
  rw [hcalls, List.filter_filter, handed, List.filter_map, List.map_map, h.server_eq]
  exact List.Sublist.map (fun x : Entry κ Request (Except String Unit) => x.request.command)
    hentries

/-- **Loops over the client.** Whatever other callers do, and whenever the command task is shut down:
    what was handed to the client for a loop is, in the order of the list and each at most once, the
    commands of its calls that were served; the calls that returned `Ok` are among them and their
    commands are with the client in this order; a call that returned a channel error was not handed
    over; and after the shutdown nothing more is. -/
theorem loop_calls_in_order (goesOn : Except String Unit → Bool) (calls : List (κ × MqttCommand))
    (hnames : (calls.map Prod.fst).Nodup) (es : List (CallerLoop.Event κ Request)) (s : Looping κ)
    (h : LoopRuns goesOn calls es s) :
    (handed s.calls).filter (fun x => decide (x.1 ∈ calls.map Prod.fst)) =
        calls.filter (fun x => decide (x.1 ∈ s.calls.log.map Entry.call)) ∧
      ((calls.filter fun x => succeeded s.calls x.1).map Prod.snd).Sublist s.calls.server ∧
      (∀ c f, s.calls.stage c = .returned (.error f) → c ∉ s.calls.log.map Entry.call) ∧
      ∀ p q u, es = p ++ q → LoopRuns goesOn calls p u → u.calls.receiver = false →
        handed s.calls = handed u.calls := by
  have hruns : Runs (channelTrace goesOn calls es) s.calls := (h.progress hnames).reaches
  have hloop := h.loopCalls hnames
  refine ⟨hloop.handed_eq hruns, hloop.taken_sublist hruns,
    fun c f hret => (hruns.failed hret).2.2, ?_⟩
  rintro p q u rfl hu hend
  obtain ⟨u', hu', hrest⟩ := run_append_eq_some.mp h
  obtain rfl : u = u' := Option.some.inj (hu.symm.trans hu')
  have hrefines := CallerLoop.refines cmdChannel serveCommand (loopBody goesOn) calls
  obtain ⟨calls', hcalls, rfl⟩ := hrefines.run (s := u) rfl q s hrest
  rw [handed, handed, log_ended (hu.progress hnames).reaches.inv hend hcalls]

/-- A cycle that publishes to two topics, and a registration that subscribes in between. -/
def cycleAndSubscribe : List (CallerLoop.Event ℕ Request) :=
  [.call ⟨.publish "a/cast" .atLeastOnce [123], .ok ()⟩,
    .mailbox (.invoke 7 ⟨.subscribe "b/rec" .atLeastOnce, .ok ()⟩), .mailbox (.enqueue 7),
    .mailbox (.enqueue 0), .mailbox .take, .mailbox .answer, .mailbox .take, .mailbox .answer,
    .mailbox (.receive 0), .resume, .call ⟨.publish "b/cast" .atLeastOnce [123], .ok ()⟩,
    .mailbox (.enqueue 1), .mailbox .take, .mailbox (.receive 7), .mailbox .answer,
    .mailbox (.receive 1), .resume]

/-- The calls of the cycle. -/
def cycleCalls : List (ℕ × MqttCommand) :=
  [(0, .publish "a/cast" .atLeastOnce [123]), (1, .publish "b/cast" .atLeastOnce [123])]

theorem loop_calls_in_order_cycle :
    ∃ s : Looping ℕ, LoopRuns logging cycleCalls cycleAndSubscribe s ∧
      handed s.calls = [(7, .subscribe "b/rec" .atLeastOnce),
        (0, .publish "a/cast" .atLeastOnce [123]), (1, .publish "b/cast" .atLeastOnce [123])] ∧
      (cycleCalls.map Prod.snd).Sublist s.calls.server := by
  have hrun : LoopRuns logging cycleCalls cycleAndSubscribe _ := rfl
  exact ⟨_, hrun, rfl, (loop_calls_in_order logging cycleCalls (by decide) _ _ hrun).2.1⟩

-- ── `subscribe_all` ──────────────────────────────────────────────────────────

/-- What `subscribe_all` has returned, if it has. -/
def subscribeAll (s : Looping κ) : Option (Except String Unit) :=
  match s.awaited, s.todo, s.broken with
  | none, [], none         => some (.ok ())
  | none, [], some outcome => some (handleResult outcome)
  | _, _, _                => none

omit [DecidableEq κ] in
theorem succeeded_of_passed {c : κ} (h : CallerLoop.Passed (loopBody untilError) s c) :
    succeeded s c = true := by
  obtain ⟨outcome, hret, hgo⟩ := h
  have hok : handleResult outcome = .ok () := by
    cases hresult : handleResult outcome with
    | ok u => rfl
    | error e =>
        have hno : isOk (handleResult outcome) = true := hgo
        rw [hresult] at hno
        exact nomatch hno
  simp only [succeeded, result?, hret, hok]

omit [DecidableEq κ] in
/-- `subscribe_all` has returned when its loop is over. -/
theorem subscribeAll_eq_some {ls : Looping κ} {result : Except String Unit}
    (h : subscribeAll ls = some result) :
    ls.awaited = none ∧ ls.todo = [] ∧ (ls.broken = none ∧ result = .ok () ∨
      ∃ outcome, ls.broken = some outcome ∧ handleResult outcome = result) := by
  rw [subscribeAll] at h
  split at h
  · rename_i hawaited htodo hbroken
    exact ⟨hawaited, htodo, .inl ⟨hbroken, (Option.some.inj h).symm⟩⟩
  · rename_i outcome hawaited htodo hbroken
    exact ⟨hawaited, htodo, .inr ⟨outcome, hbroken, Option.some.inj h⟩⟩
  · exact nomatch h

section Ended

variable {calls before here behind : List (κ × MqttCommand)} {ls : Looping κ}

omit [DecidableEq κ] in
/-- With `Ok` the loop is at the end of its list. -/
theorem place_of_ok (h : CallerLoop.Place (loopBody untilError) calls ls before here behind)
    (hres : subscribeAll ls = some (.ok ())) : here = [] ∧ behind = [] := by
  obtain ⟨hawaited, htodo, hend⟩ := subscribeAll_eq_some hres
  cases h.stands with
  | idle => exact ⟨rfl, htodo⟩
  | awaiting hnot => exact nomatch hawaited.symm.trans hnot
  | @broken x _ outcome _ _ hbroken _ hstop =>
      rcases hend with ⟨hnone, -⟩ | ⟨outcome', hsome, hok⟩
      · exact nomatch hnone.symm.trans hbroken
      · obtain rfl := Option.some.inj (hbroken.symm.trans hsome)
        have hgo : isOk (handleResult outcome) = false := hstop
        rw [hok] at hgo
        exact nomatch hgo

omit [DecidableEq κ] in
/-- With an error it is at the call that returned it. -/
theorem place_of_error (h : CallerLoop.Place (loopBody untilError) calls ls before here behind)
    {e : String} (hres : subscribeAll ls = some (.error e)) :
    ∃ x, here = [x] ∧ result? ls.calls x.1 = some (.error e) := by
  obtain ⟨hawaited, htodo, hend⟩ := subscribeAll_eq_some hres
  cases h.stands with
  | idle _ hbroken =>
      rcases hend with ⟨-, hok⟩ | ⟨outcome, hsome, -⟩
      · exact nomatch hok
      · exact nomatch hbroken.symm.trans hsome
  | awaiting hnot => exact nomatch hawaited.symm.trans hnot
  | @broken x _ outcome _ _ hbroken hret _ =>
      rcases hend with ⟨hnone, -⟩ | ⟨outcome', hsome, herror⟩
      · exact nomatch hnone.symm.trans hbroken
      · obtain rfl := Option.some.inj (hbroken.symm.trans hsome)
        exact ⟨x, rfl, by simp only [result?, hret, herror]⟩

end Ended

/-- **What `subscribe_all` leaves.** It returns `Ok` only if the client has taken all the
    subscriptions, in their order; and if it returns an error then of one call, with those before it
    taken in their order and those after it never made. -/
theorem subscribe_all_spec (calls : List (κ × MqttCommand)) (hnames : (calls.map Prod.fst).Nodup)
    (subs : List (String × QoS)) (hsubs : calls.map Prod.snd = subs.map fun x => .subscribe x.1 x.2)
    (es : List (CallerLoop.Event κ Request)) (s : Looping κ) (h : LoopRuns untilError calls es s) :
    (subscribeAll s = some (.ok ()) →
      (subs.map fun x => MqttCommand.subscribe x.1 x.2).Sublist s.calls.server) ∧
    ∀ e, subscribeAll s = some (.error e) →
      ∃ before x after, calls = before ++ x :: after ∧ result? s.calls x.1 = some (.error e) ∧
        ((subs.take before.length).map fun x =>
          MqttCommand.subscribe x.1 x.2).Sublist s.calls.server ∧
        ∀ y ∈ after, (∀ r, .invoke y.1 r ∉ channelTrace untilError calls es) ∧
          y.1 ∉ s.calls.log.map Entry.call := by
  have hruns : Runs (channelTrace untilError calls es) s.calls := (h.progress hnames).reaches
  have htaken := (h.loopCalls hnames).taken_sublist hruns
  obtain ⟨before, here, behind, hplace⟩ := (h.progress hnames).place
  have hbefore : ∀ y ∈ before, succeeded s.calls y.1 = true :=
    fun y hy => succeeded_of_passed (hplace.passed y hy)
  refine ⟨fun hres => ?_, fun e hres => ?_⟩
  · obtain ⟨rfl, rfl⟩ := place_of_ok hplace hres
    have hall : calls = before := hplace.split.trans (List.append_nil before)
    rw [← hsubs]
    rw [List.filter_eq_self.mpr (hall ▸ hbefore)] at htaken
    exact htaken
  · obtain ⟨x, rfl, hx⟩ := place_of_error hplace hres
    refine ⟨before, x, behind, hplace.split, hx, ?_, ?_⟩
    · have hfirst : (subs.take before.length).map (fun x => MqttCommand.subscribe x.1 x.2) =
          before.map Prod.snd := by
        rw [List.map_take, ← hsubs, hplace.split, List.map_append]
        exact List.take_left' (List.length_map ..)
      rw [hfirst]
      refine List.Sublist.trans ?_ htaken
      refine List.Sublist.map Prod.snd ?_
      rw [hplace.split, List.filter_append, List.filter_eq_self.mpr hbefore]
      exact List.sublist_append_left ..
    · intro y hy
      have hnot : ∀ r, .invoke y.1 r ∉ channelTrace untilError calls es :=
        fun r hmade => hplace.unmade y hy (hruns.mem_calls hmade)
      refine ⟨hnot, ?_⟩
      intro hmem
      obtain ⟨z, hz, hzy⟩ := List.mem_map.mp hmem
      exact hnot z.request (hzy ▸ hruns.linearized.made z hz)

/-- The client is stopped between the two subscriptions of the start-up. -/
def stoppedBetween : List (CallerLoop.Event ℕ Request) :=
  [.call ⟨.subscribe "registration" .atLeastOnce, .ok ()⟩, .mailbox (.enqueue 0), .mailbox .take,
    .mailbox .answer, .mailbox (.receive 0), .resume, .mailbox .finish,
    .call ⟨.subscribe "key-bridge" .atLeastOnce, .ok ()⟩, .mailbox (.refuse 1), .resume]

def startUpCalls : List (ℕ × MqttCommand) :=
  [(0, .subscribe "registration" .atLeastOnce), (1, .subscribe "key-bridge" .atLeastOnce)]

theorem subscribe_all_spec_stopped :
    ∃ s : Looping ℕ, LoopRuns untilError startUpCalls stoppedBetween s ∧
      subscribeAll s = some (.error "mqtt client channel closed") ∧
      ∃ before x after, startUpCalls = before ++ x :: after ∧
        result? s.calls x.1 = some (.error "mqtt client channel closed") := by
  obtain ⟨s, hrun, hres⟩ : ∃ s : Looping ℕ, LoopRuns untilError startUpCalls stoppedBetween s ∧
      subscribeAll s = some (.error "mqtt client channel closed") := ⟨_, rfl, rfl⟩
  obtain ⟨before, x, after, hcalls, hx, -⟩ := (subscribe_all_spec startUpCalls (by decide)
    [("registration", .atLeastOnce), ("key-bridge", .atLeastOnce)] rfl stoppedBetween s
    hrun).2 _ hres
  exact ⟨s, hrun, hres, before, x, after, hcalls, hx⟩

end HamletMqttChannel
