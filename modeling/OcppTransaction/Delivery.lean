import Mathlib.Data.List.Basic
import OcppTransaction.Sessions

/-!
# Delivery through the FIFO

The drainer's discipline, read off the calls of a run. `FifoMonitor` replays the calls on
the FIFO: a push appends, a `front` of an entry whose action the drainer knows opens a
send, the drainer's `call` is that send and counts as an attempt, a `front` of any other
entry is itself a failed attempt, and a `pop` removes the head. It flags a `front`,
`call` or `pop` on anything but the head, a `call` that no `front` opened, a `front` or
`pop` while a send is open, a `front` after a delivery or past
`TransactionMessageAttempts + 1` attempts, and a `pop` that follows neither a delivery
nor the last allowed attempt. `Call.attempt?` reads the same attempts off the trace, and
`sinceLastPop` cuts the trace after its last pop.

* `drainer_retry_discipline`: over every run, also one whose jobs see the link drop or
  the timer fire while they run (`ReachableObserving`), the monitor flags nothing, its
  queue is the FIFO, and `m_request_retry_count` is the number of attempts on the head, none of which
  delivered, at most `TransactionMessageAttempts`, and 0 when the FIFO is empty. On the
  trace itself: the attempts since the last pop are `m_request_retry_count` failed ones
  on the head, and every pop follows, since the pop before it, between 1 and
  `TransactionMessageAttempts + 1` attempts on its entry, the last of which delivered or
  was the `TransactionMessageAttempts + 1`-th failure.
* `queued_order_kept_direct_stop_unordered`: entries leave the FIFO in the order they
  were pushed, and the drainer delivers only entries it then pops. A stop's own send
  does not look at the FIFO, so it can overtake its session's queued start
  (`stop_delivered_before_queued_start`).
* `provisional_start_queued_or_taken`: the start of every provisional session was queued,
  and is still in the FIFO or has been taken out of it by the drainer.
-/

namespace Ocpp

open TransactionManager

/-- What an observer of the FIFO calls knows: the queue as pushed and popped, the
attempts on its head, whether a send of the head is under way, whether the last attempt
delivered, and whether every call so far kept the discipline. -/
structure FifoMonitor where
  queue : List FifoEntry
  attempts : Nat
  sending : Bool
  delivered : Bool
  sound : Bool
  deriving DecidableEq, Repr

namespace FifoMonitor

/-- Nothing observed yet. -/
def initial : FifoMonitor := ⟨[], 0, false, false, true⟩

/-- The monitor after one call, with `attemptsLimit` the configured
`TransactionMessageAttempts`. The read of a head whose action the drainer knows opens a
send, and that send is the attempt; the read of any other head is itself a failed
attempt. -/
def observe (attemptsLimit : Nat) (m : FifoMonitor) : Call → FifoMonitor
  | .push entry => { m with queue := m.queue ++ [entry] }
  | .front entry =>
    { m with
      attempts := if entry.Known then m.attempts else m.attempts + 1,
      sending := decide entry.Known,
      sound := m.sound && decide (m.queue.head? = some entry) && !m.sending && !m.delivered &&
        decide (m.attempts ≤ attemptsLimit) }
  | .call entry result =>
    { m with
      attempts := m.attempts + 1, sending := false, delivered := decide (result = .ok),
      sound := m.sound && decide (m.queue.head? = some entry) && m.sending }
  | .pop entry =>
    { m with
      queue := m.queue.tail, attempts := 0, delivered := false,
      sound := m.sound && decide (m.queue.head? = some entry) && !m.sending &&
        (m.delivered || decide (m.attempts = attemptsLimit + 1)) }
  | _ => m

/-- The monitor after a list of calls. -/
def run (attemptsLimit : Nat) (m : FifoMonitor) (calls : List Call) : FifoMonitor :=
  calls.foldl (observe attemptsLimit) m

variable {attemptsLimit : Nat}

theorem run_cons (m : FifoMonitor) (c : Call) (calls : List Call) :
    m.run attemptsLimit (c :: calls) = (m.observe attemptsLimit c).run attemptsLimit calls :=
  rfl

theorem run_append (m : FifoMonitor) (calls calls' : List Call) :
    m.run attemptsLimit (calls ++ calls') = (m.run attemptsLimit calls).run attemptsLimit calls' :=
  List.foldl_append _ _ _ _

/-- Calls that do not touch the FIFO head only append what they push. -/
theorem run_of_not_drains (m : FifoMonitor) {calls : List Call} (h : ∀ c ∈ calls, ¬ c.Drains) :
    m.run attemptsLimit calls = { m with queue := m.queue ++ calls.filterMap Call.pushed? } := by
  induction calls generalizing m with
  | nil => simp [run]
  | cons c calls ih =>
    have rest := ih (m.observe attemptsLimit c) fun c' hc' => h c' (.tail _ hc')
    have hc := h c (.head _)
    cases c with
    | push entry => exact rest.trans (by simp [observe, Call.pushed?])
    | call | front | pop => exact absurd trivial hc
    | _ => exact rest

theorem run_of_quiet (m : FifoMonitor) {calls : List Call}
    (h : ∀ c ∈ calls, ¬ c.Drains ∧ c.pushed? = none) : m.run attemptsLimit calls = m := by
  rw [run_of_not_drains m fun c hc => (h c hc).1,
    List.filterMap_eq_nil_iff.2 fun c hc => (h c hc).2, List.append_nil]

theorem sound_of_observe {m : FifoMonitor} {c : Call}
    (h : (m.observe attemptsLimit c).sound = true) : m.sound = true := by
  cases c <;> simp_all [observe]

theorem sound_of_run {m : FifoMonitor} {calls : List Call}
    (h : (m.run attemptsLimit calls).sound = true) : m.sound = true := by
  induction calls generalizing m with
  | nil => exact h
  | cons c calls ih => exact sound_of_observe (ih h)

/-- A sound monitor's queue is what was pushed less what was popped, from the front. -/
theorem popped_append_queue {m : FifoMonitor} {calls : List Call}
    (h : (m.run attemptsLimit calls).sound = true) :
    calls.filterMap Call.popped? ++ (m.run attemptsLimit calls).queue =
      m.queue ++ calls.filterMap Call.pushed? := by
  induction calls generalizing m with
  | nil => simp [run]
  | cons c calls ih =>
    have rest := ih h
    have hsound : (m.observe attemptsLimit c).sound = true := sound_of_run h
    cases c with
    | push entry => simpa [run_cons, observe, Call.popped?, Call.pushed?] using rest
    | pop entry =>
      simp only [observe, Bool.and_eq_true, decide_eq_true_eq] at hsound
      have hhead := hsound.1.1.2
      rcases hq : m.queue with _ | ⟨head, tail⟩
      · simp [hq] at hhead
      · simp only [hq, List.head?_cons, Option.some.injEq] at hhead
        subst hhead
        simpa [run_cons, observe, hq, Call.popped?, Call.pushed?] using rest
    | _ => simpa [run_cons, observe, Call.popped?, Call.pushed?] using rest

end FifoMonitor

open FifoMonitor

/-! ## The attempts since the last pop -/

/-- The attempt a call makes on a queued entry, with its outcome: a send from the FIFO,
or the read of an entry whose action the drainer does not know, which counts as a failed
attempt. -/
def Call.attempt? : Call → Option (FifoEntry × CallResult)
  | .call entry result => some (entry, result)
  | .front entry => if entry.Known then none else some (entry, .failed)
  | _ => none

/-- The calls after the last pop: those made while the current head has been the head. -/
def sinceLastPop (calls : List Call) : List Call :=
  (calls.reverse.takeWhile fun c => c.popped?.isNone).reverse

theorem sinceLastPop_append_singleton (calls : List Call) (c : Call) :
    sinceLastPop (calls ++ [c]) = if c.popped?.isNone then sinceLastPop calls ++ [c] else [] := by
  by_cases h : c.popped?.isNone <;> simp [sinceLastPop, h]

/-- A call other than a pop adds its own attempt, if any, to those since the last pop. -/
theorem attempts_sinceLastPop_append {calls : List Call} (c : Call) (h : c.popped? = none) :
    (sinceLastPop (calls ++ [c])).filterMap Call.attempt? =
      (sinceLastPop calls).filterMap Call.attempt? ++ c.attempt?.toList := by
  rw [sinceLastPop_append_singleton, if_pos (by simp [h]), List.filterMap_append]
  cases hc : c.attempt? <;> simp [hc]

namespace FifoMonitor

/-- The attempts on the head the monitor has counted: all failed but the last, which
delivered when the monitor says so. -/
def headAttempts (m : FifoMonitor) : List (FifoEntry × CallResult) :=
  match m.queue with
  | [] => []
  | entry :: _ =>
    if m.delivered then List.replicate (m.attempts - 1) (entry, .failed) ++ [(entry, .ok)]
    else List.replicate m.attempts (entry, .failed)

theorem headAttempts_of_fresh {m : FifoMonitor} (h₀ : m.attempts = 0) (hd : m.delivered = false) :
    m.headAttempts = [] := by
  unfold headAttempts; split <;> simp [h₀, hd]

/-- The monitor's count is the attempts on the head since the last pop, and it keeps the
bounds its checks rely on. -/
structure Segment (attemptsLimit : Nat) (m : FifoMonitor) (calls : List Call) : Prop where
  attempts : (sinceLastPop calls).filterMap Call.attempt? = m.headAttempts
  bounded : m.attempts ≤ attemptsLimit + 1
  sending : m.sending = true → m.delivered = false ∧ m.attempts ≤ attemptsLimit
  empty : m.queue = [] → m.attempts = 0 ∧ m.delivered = false

theorem Segment.nil : Segment attemptsLimit initial [] :=
  ⟨rfl, Nat.zero_le _, fun h => absurd h Bool.false_ne_true, fun _ => ⟨rfl, rfl⟩⟩

/-- A call the monitor accepts keeps the count in step with the attempts since the last
pop. -/
theorem Segment.observe {m : FifoMonitor} {calls : List Call} (h : Segment attemptsLimit m calls)
    {c : Call} (hsound : (m.observe attemptsLimit c).sound = true) :
    Segment attemptsLimit (m.observe attemptsLimit c) (calls ++ [c]) := by
  obtain ⟨hattempts, hbounded, hsending, hempty⟩ := h
  cases c with
  | push entry =>
    refine ⟨?_, hbounded, hsending, by simp [FifoMonitor.observe]⟩
    rw [attempts_sinceLastPop_append (.push entry) rfl, hattempts]
    rcases hq : m.queue with _ | ⟨head, tail⟩
    · simp [headAttempts, FifoMonitor.observe, hq, hempty hq, Call.attempt?]
    · simp [headAttempts, FifoMonitor.observe, hq, Call.attempt?]
  | front entry =>
    simp only [FifoMonitor.observe, Bool.and_eq_true, Bool.not_eq_true', decide_eq_true_eq]
      at hsound
    obtain ⟨⟨⟨⟨-, hhead⟩, -⟩, hfresh⟩, hbound⟩ := hsound
    obtain ⟨rest, hq⟩ := List.head?_eq_some_iff.1 hhead
    refine ⟨?_, ?_, fun hs => ⟨hfresh, ?_⟩, by simp [FifoMonitor.observe, hq]⟩
    · rw [attempts_sinceLastPop_append (.front entry) rfl, hattempts]
      by_cases hknown : entry.Known <;>
        simp [FifoMonitor.observe, headAttempts, Call.attempt?, hq, hknown, hfresh,
          List.replicate_succ']
    all_goals by_cases hknown : entry.Known <;> simp_all [FifoMonitor.observe]
  | call entry result =>
    simp only [FifoMonitor.observe, Bool.and_eq_true, decide_eq_true_eq] at hsound
    obtain ⟨⟨-, hhead⟩, hsent⟩ := hsound
    obtain ⟨hfresh, hbound⟩ := hsending hsent
    obtain ⟨rest, hq⟩ := List.head?_eq_some_iff.1 hhead
    refine ⟨?_, by simp only [FifoMonitor.observe]; omega, fun h => absurd h Bool.false_ne_true,
      by simp [FifoMonitor.observe, hq]⟩
    rw [attempts_sinceLastPop_append (.call entry result) rfl, hattempts]
    cases result <;>
      simp [FifoMonitor.observe, headAttempts, Call.attempt?, hq, hfresh, List.replicate_succ']
  | pop entry =>
    exact ⟨by simp [sinceLastPop_append_singleton, Call.popped?,
        headAttempts_of_fresh (m := m.observe attemptsLimit (.pop entry)) rfl rfl],
      Nat.zero_le _, by simp [FifoMonitor.observe], fun _ => ⟨rfl, rfl⟩⟩
  | _ =>
    exact ⟨by simpa [attempts_sinceLastPop_append, Call.popped?, Call.attempt?,
      FifoMonitor.observe] using hattempts, hbounded, hsending, hempty⟩

/-- Every sound run from nothing counts the attempts since the last pop. -/
theorem segment_of_sound {calls : List Call}
    (h : (initial.run attemptsLimit calls).sound = true) :
    Segment attemptsLimit (initial.run attemptsLimit calls) calls := by
  induction calls using List.reverseRecOn with
  | nil => exact Segment.nil
  | append_singleton calls c ih =>
    rw [run_append] at h ⊢
    exact (ih (sound_of_observe h)).observe h

/-- A pop the monitor accepts follows the attempts on its entry since the previous pop:
at most `attemptsLimit` failed ones and a delivered one, or `attemptsLimit + 1` failed
ones. -/
theorem Segment.pop {m : FifoMonitor} {calls : List Call} (h : Segment attemptsLimit m calls)
    {entry : FifoEntry} (hsound : (m.observe attemptsLimit (.pop entry)).sound = true) :
    (∃ k ≤ attemptsLimit, (sinceLastPop calls).filterMap Call.attempt? =
        List.replicate k (entry, .failed) ++ [(entry, .ok)]) ∨
      (sinceLastPop calls).filterMap Call.attempt? =
        List.replicate (attemptsLimit + 1) (entry, .failed) := by
  simp only [FifoMonitor.observe, Bool.and_eq_true, Bool.not_eq_true', Bool.or_eq_true,
    decide_eq_true_eq] at hsound
  obtain ⟨⟨⟨-, hhead⟩, -⟩, hdone⟩ := hsound
  obtain ⟨rest, hq⟩ := List.head?_eq_some_iff.1 hhead
  rw [h.attempts, headAttempts, hq]
  rcases hdone with hdelivered | hlast
  · exact .inl ⟨m.attempts - 1, by have := h.bounded; omega, by simp [hdelivered]⟩
  · cases hd : m.delivered
    · exact .inr (by simp [hlast])
    · exact .inl ⟨m.attempts - 1, by omega, rfl⟩

end FifoMonitor

/-- In a run the monitor accepts, every pop follows the attempts on its entry since the
previous pop: at most `attemptsLimit` failed ones and a delivered one, or
`attemptsLimit + 1` failed ones. -/
theorem FifoMonitor.pop_after_attempts {attemptsLimit : Nat} {pre post : List Call}
    {entry : FifoEntry}
    (h : (initial.run attemptsLimit (pre ++ .pop entry :: post)).sound = true) :
    (∃ k ≤ attemptsLimit, (sinceLastPop pre).filterMap Call.attempt? =
        List.replicate k (entry, .failed) ++ [(entry, .ok)]) ∨
      (sinceLastPop pre).filterMap Call.attempt? =
        List.replicate (attemptsLimit + 1) (entry, .failed) := by
  rw [run_append, run_cons] at h
  have hpop := sound_of_run h
  exact (segment_of_sound (sound_of_observe hpop)).pop hpop

/-! ## The monitor follows the drainer -/

/-- The monitor agrees with the manager between steps. -/
structure Tracks (attemptsLimit : Nat) (tm : TransactionManager) (m : FifoMonitor) : Prop where
  sound : m.sound = true
  queue : m.queue = tm.requestsFifo
  attempts : m.attempts = tm.requestRetryCount
  sending : m.sending = false
  delivered : m.delivered = false
  bounded : tm.requestRetryCount ≤ attemptsLimit
  empty : tm.requestsFifo = [] → tm.requestRetryCount = 0

namespace Tracks

variable {attemptsLimit : Nat} {tm tm' : TransactionManager} {m : FifoMonitor}

theorem of_eq (h : Tracks attemptsLimit tm m) (hfifo : tm'.requestsFifo = tm.requestsFifo)
    (hcount : tm'.requestRetryCount = tm.requestRetryCount) : Tracks attemptsLimit tm' m :=
  ⟨h.sound, hfifo ▸ h.queue, hcount ▸ h.attempts, h.sending, h.delivered, hcount ▸ h.bounded,
    fun he => hcount ▸ h.empty (hfifo ▸ he)⟩

theorem retryTimerThread (h : Tracks attemptsLimit tm m) (fires : Bool) :
    Tracks attemptsLimit (tm.retryTimerThread fires) m :=
  h.of_eq (retryTimerThread_requestsFifo tm fires) (retryTimerThread_requestRetryCount tm fires)

theorem appendsOnly (h : Tracks attemptsLimit tm m) {calls : List Call}
    (happ : AppendsOnly tm tm' calls) : Tracks attemptsLimit tm' (m.run attemptsLimit calls) := by
  rw [run_of_not_drains m happ.not_drains]
  refine ⟨h.sound, by rw [happ.requestsFifo, h.queue], happ.requestRetryCount ▸ h.attempts,
    h.sending, h.delivered, happ.requestRetryCount ▸ h.bounded, fun he => ?_⟩
  rw [happ.requestRetryCount]
  exact h.empty (List.append_eq_nil.1 (happ.requestsFifo ▸ he)).1

end Tracks

/-- An attempt on the head: the monitor counts it and records whether it delivered. -/
theorem run_front_sendRequest {attemptsLimit : Nat} {m : FifoMonitor} (cs : Connectors)
    (round : DrainRound) {entry : FifoEntry} (hhead : m.queue.head? = some entry)
    (hsound : m.sound = true) (hidle : m.sending = false) (hdelivered : m.delivered = false)
    (hbound : m.attempts ≤ attemptsLimit) :
    m.run attemptsLimit (.front entry :: (sendRequest cs round entry).2) =
      { m with
        attempts := m.attempts + 1,
        delivered := decide ((sendRequest cs round entry).1 = .ok) } := by
  rcases sendRequest_shape round cs entry with ⟨hunknown, hfail⟩ | ⟨hknown, rest, hcalls, hrest⟩
  · rw [hfail]
    simp [run, observe, hunknown, hhead, hsound, hidle, hdelivered, hbound]
  · rw [run_cons, hcalls, run_cons, run_of_quiet _ fun c hc => ?_]
    · simp [observe, hknown, hhead, hsound, hidle, hdelivered, hbound]
    · rcases hrest c hc with ⟨_, rfl⟩ | ⟨_, _, rfl⟩ | ⟨_, rfl⟩ <;>
        simp [Call.Drains, Call.pushed?]

variable (config : OcppConfig)

/-- One pass of the drainer keeps the monitor in step with the manager. -/
theorem Tracks.drainRound {tm : TransactionManager} {m : FifoMonitor}
    (h : Tracks config.transactionMessageAttempts tm m) (round : DrainRound) :
    Tracks config.transactionMessageAttempts (tm.drainRound config round).1
      (m.run config.transactionMessageAttempts (tm.drainRound config round).2) := by
  cases hfifo : tm.requestsFifo with
  | nil => rw [drainRound_nil config round hfifo]; exact h.retryTimerThread _
  | cons entry rest =>
    have hhead : m.queue.head? = some entry := by rw [h.queue, hfifo]; rfl
    have attempt := run_front_sendRequest tm.connectors round hhead h.sound h.sending
      h.delivered (h.attempts ▸ h.bounded)
    rw [drainRound_cons config round hfifo]
    dsimp only
    refine Tracks.retryTimerThread ?_ _
    split_ifs with hpop hup <;> dsimp only <;> rw [run_append, attempt]
    · refine ⟨?_, by simp [run, observe, h.queue, hfifo], rfl, h.sending, rfl, Nat.zero_le _,
        fun _ => rfl⟩
      have hcount := h.bounded
      simp only [run, List.foldl_cons, List.foldl_nil, observe, h.sound, hhead, h.sending,
        Bool.and_eq_true, decide_eq_true_eq, Bool.or_eq_true, h.attempts, true_and]
      rcases hpop with hok | hover
      · exact ⟨rfl, .inl hok⟩
      · exact ⟨rfl, .inr (by omega)⟩
    all_goals
      have hfail : (sendRequest tm.connectors round entry).1 ≠ .ok := fun hok => hpop (.inl hok)
      have hbound : tm.requestRetryCount + 1 ≤ config.transactionMessageAttempts := by
        by_contra hlt; exact hpop (.inr (by omega))
      rw [run_of_quiet _ (by simp [Call.Drains, Call.pushed?])]
      refine ⟨h.sound, by simp [h.queue], by rw [h.attempts], h.sending, decide_eq_false hfail,
        hbound, fun he => ?_⟩
      simp [hfifo] at he

/-- The monitor of a run's calls. -/
def ChargePoint.fifoMonitor (s : ChargePoint) (config : OcppConfig) : FifoMonitor :=
  FifoMonitor.initial.run config.transactionMessageAttempts s.trace

theorem Call.quiet_of_polls {c : Call} (h : c.Polls) : ¬ c.Drains ∧ c.pushed? = none := by
  cases c <;> simp_all [Call.Polls, Call.Drains, Call.pushed?]

/-- One event keeps a relation between the manager and the calls so far if every event
but a job keeps it by appending its calls, and the drainer's passes, polls and timer keep
it. -/
theorem ChargePoint.next_preserves (P : TransactionManager → List Call → Prop)
    (appends : ∀ tm tm' t calls, AppendsOnly tm tm' calls → P tm t → P tm' (t ++ calls))
    (pass : ∀ tm round t, P tm t →
      P (tm.drainRound config round).1 (t ++ (tm.drainRound config round).2))
    (poll : ∀ tm t c, c.Polls → P tm t → P tm (t ++ [c]))
    (frame : ∀ tm tm' t, tm'.requestsFifo = tm.requestsFifo →
      tm'.requestRetryCount = tm.requestRetryCount → P tm t → P tm' t)
    (s : ChargePoint) (event : Event) (h : P s.manager s.trace) :
    P (s.next config event).manager (s.next config event).trace := by
  cases happ : event.appendsOnly
  · cases event with
    | runJob rounds =>
      exact processFifoRequest_preserves config P _ (fun tm _ t => pass tm _ t) poll
        (fun tm t => frame tm _ t rfl rfl) _ _ _ (frame s.manager _ s.trace rfl rfl h)
    | timerExpired => exact frame s.manager _ s.trace rfl rfl h
    | linkChange =>
      exact frame s.manager _ s.trace (by simp [ChargePoint.next]) (by simp [ChargePoint.next]) h
    | _ => cases happ
  · obtain ⟨calls, htrace, happ'⟩ := s.next_appendsOnly config happ
    rw [htrace]
    exact appends _ _ _ _ happ' h

/-- A relation between the manager and the calls so far holds in every state reachable
with non-atomic jobs if it holds initially and every event keeps it
(`ChargePoint.next_preserves`). -/
theorem ReachableObserving.drainer_induction (P : TransactionManager → List Call → Prop)
    (init : ∀ connectors : Connectors, P ⟨connectors, [], 0, false, 0⟩ [])
    (appends : ∀ tm tm' t calls, AppendsOnly tm tm' calls → P tm t → P tm' (t ++ calls))
    (pass : ∀ tm round t, P tm t →
      P (tm.drainRound config round).1 (t ++ (tm.drainRound config round).2))
    (poll : ∀ tm t c, c.Polls → P tm t → P tm (t ++ [c]))
    (frame : ∀ tm tm' t, tm'.requestsFifo = tm.requestsFifo →
      tm'.requestRetryCount = tm.requestRetryCount → P tm t → P tm' t)
    {s : ChargePoint} (h : ReachableObserving config s) : P s.manager s.trace := by
  induction h with
  | init connectors => exact init connectors
  | step event _ _ ih => exact ChargePoint.next_preserves config P appends pass poll frame _ event ih
  | @runJob s rounds _ _ ih =>
    exact processFifoRequest_preserves config P rounds (fun tm _ t => pass tm _ t) poll
      (fun tm t => frame tm _ t rfl rfl) _ _ _ (frame s.manager _ s.trace rfl rfl ih)

theorem Reachable.drainer_induction (P : TransactionManager → List Call → Prop)
    (init : ∀ connectors : Connectors, P ⟨connectors, [], 0, false, 0⟩ [])
    (appends : ∀ tm tm' t calls, AppendsOnly tm tm' calls → P tm t → P tm' (t ++ calls))
    (pass : ∀ tm round t, P tm t →
      P (tm.drainRound config round).1 (t ++ (tm.drainRound config round).2))
    (poll : ∀ tm t c, c.Polls → P tm t → P tm (t ++ [c]))
    (frame : ∀ tm tm' t, tm'.requestsFifo = tm.requestsFifo →
      tm'.requestRetryCount = tm.requestRetryCount → P tm t → P tm' t)
    {s : ChargePoint} (h : Reachable config s) : P s.manager s.trace :=
  ReachableObserving.drainer_induction config P init appends pass poll frame h.observing

theorem tracks_of_reachable {s : ChargePoint} (h : ReachableObserving config s) :
    Tracks config.transactionMessageAttempts s.manager (s.fifoMonitor config) :=
  ReachableObserving.drainer_induction config
    (fun tm t => Tracks config.transactionMessageAttempts tm (FifoMonitor.initial.run _ t))
    (fun _ => ⟨rfl, rfl, rfl, rfl, rfl, Nat.zero_le _, fun _ => rfl⟩)
    (fun _ _ _ _ happ ht => by dsimp only at ht ⊢; rw [run_append]; exact ht.appendsOnly happ)
    (fun _ round _ ht => by dsimp only at ht ⊢; rw [run_append]; exact ht.drainRound config round)
    (fun _ _ _ hc ht => by
      dsimp only at ht ⊢
      rw [run_append, run_of_quiet _ (by simpa using Call.quiet_of_polls hc)]
      exact ht)
    (fun _ _ _ hfifo hcount ht => ht.of_eq hfifo hcount) h

/-- The attempts since the last pop are the retry counter's failed attempts on the head. -/
theorem attempts_on_head {s : ChargePoint} (h : ReachableObserving config s) {head : FifoEntry}
    {rest : List FifoEntry} (hfifo : s.manager.requestsFifo = head :: rest) :
    (sinceLastPop s.trace).filterMap Call.attempt? =
      List.replicate s.manager.requestRetryCount (head, .failed) := by
  have t := tracks_of_reachable config h
  have seg : Segment _ (s.fifoMonitor config) s.trace := segment_of_sound t.sound
  rw [seg.attempts, headAttempts, t.queue, hfifo, t.delivered, t.attempts]
  rfl

theorem drainer_retry_discipline {config : OcppConfig} {s : ChargePoint}
    (h : ReachableObserving config s) :
    (s.fifoMonitor config).sound = true ∧
    (s.fifoMonitor config).queue = s.manager.requestsFifo ∧
    (s.fifoMonitor config).attempts = s.manager.requestRetryCount ∧
    (s.fifoMonitor config).delivered = false ∧
    s.manager.requestRetryCount ≤ config.transactionMessageAttempts ∧
    (s.manager.requestsFifo = [] → s.manager.requestRetryCount = 0) ∧
    (∀ head rest, s.manager.requestsFifo = head :: rest →
      (sinceLastPop s.trace).filterMap Call.attempt? =
        List.replicate s.manager.requestRetryCount (head, .failed)) ∧
    ∀ pre entry post, s.trace = pre ++ .pop entry :: post →
      (∃ k ≤ config.transactionMessageAttempts, (sinceLastPop pre).filterMap Call.attempt? =
          List.replicate k (entry, .failed) ++ [(entry, .ok)]) ∨
        (sinceLastPop pre).filterMap Call.attempt? =
          List.replicate (config.transactionMessageAttempts + 1) (entry, .failed) := by
  have t := tracks_of_reachable config h
  refine ⟨t.sound, t.queue, t.attempts, t.delivered, t.bounded, t.empty,
    fun _ _ hfifo => attempts_on_head config h hfifo, fun pre entry post htrace => ?_⟩
  have hsound := t.sound
  rw [ChargePoint.fifoMonitor, htrace] at hsound
  exact FifoMonitor.pop_after_attempts hsound

/-! ## Order -/

theorem Call.drained?_of_not_drains {c : Call} (h : ¬ c.Drains) :
    c.drained? = none ∧ c.popped? = none := by
  cases c <;> simp_all [Call.Drains, Call.drained?, Call.popped?]

/-- A send delivers its entry from the FIFO exactly when it succeeds, and pops nothing. -/
theorem sendRequest_drained_popped (cs : Connectors) (round : DrainRound) (entry : FifoEntry) :
    (sendRequest cs round entry).2.filterMap Call.drained? =
        (if (sendRequest cs round entry).1 = .ok then [entry] else []) ∧
      (sendRequest cs round entry).2.filterMap Call.popped? = [] := by
  rcases sendRequest_shape round cs entry with ⟨-, hfail⟩ | ⟨-, rest, hcalls, hrest⟩
  · simp [hfail]
  · have quiet := fun c hc => Call.drained?_of_not_drains (c := c) <| by
      rcases hrest c hc with ⟨_, rfl⟩ | ⟨_, _, rfl⟩ | ⟨_, rfl⟩ <;> simp [Call.Drains]
    have hd : rest.filterMap Call.drained? = [] :=
      List.filterMap_eq_nil_iff.2 fun c hc => (quiet c hc).1
    have hp : rest.filterMap Call.popped? = [] :=
      List.filterMap_eq_nil_iff.2 fun c hc => (quiet c hc).2
    rw [hcalls]
    generalize (sendRequest cs round entry).1 = r
    cases r <;> simp [Call.drained?, Call.popped?, hd, hp]

/-- A pass delivers from the FIFO only the head it then pops. -/
theorem drainRound_drained_sublist (tm : TransactionManager) (round : DrainRound) :
    ((tm.drainRound config round).2.filterMap Call.drained?).Sublist
      ((tm.drainRound config round).2.filterMap Call.popped?) := by
  cases hfifo : tm.requestsFifo with
  | nil => simp [drainRound_nil config round hfifo]
  | cons entry rest =>
    obtain ⟨hd, hp⟩ := sendRequest_drained_popped tm.connectors round entry
    rw [drainRound_cons config round hfifo]
    dsimp only
    split_ifs with hpop hup
    · simp only [List.filterMap_append, List.filterMap_cons, hd, hp, Call.drained?, Call.popped?]
      split_ifs <;> simp
    all_goals
      have hfail : (sendRequest tm.connectors round entry).1 ≠ .ok := fun hok => hpop (.inl hok)
      simp [hd, hp, hfail, Call.drained?, Call.popped?]

theorem drained_sublist_popped_of_reachable {s : ChargePoint} (h : Reachable config s) :
    (s.trace.filterMap Call.drained?).Sublist (s.trace.filterMap Call.popped?) :=
  Reachable.drainer_induction config
    (fun _ t => (t.filterMap Call.drained?).Sublist (t.filterMap Call.popped?))
    (fun _ => List.Sublist.slnil)
    (fun _ _ _ calls happ ht => by
      have quiet := fun c hc => Call.drained?_of_not_drains (happ.not_drains c hc)
      simpa [List.filterMap_eq_nil_iff.2 fun c hc => (quiet c hc).1,
        List.filterMap_eq_nil_iff.2 fun c hc => (quiet c hc).2] using ht)
    (fun tm round _ ht => by
      simpa only [List.filterMap_append] using
        ht.append (drainRound_drained_sublist config tm round))
    (fun _ _ c hc ht => by
      obtain ⟨hd, hp⟩ := Call.drained?_of_not_drains (Call.quiet_of_polls hc).1
      simpa [hd, hp] using ht)
    (fun _ _ _ _ _ ht => ht) h

theorem queued_order_kept_direct_stop_unordered {config : OcppConfig} {s : ChargePoint}
    (h : Reachable config s) :
    s.trace.filterMap Call.popped? ++ s.manager.requestsFifo = s.trace.filterMap Call.pushed? ∧
    (s.trace.filterMap Call.drained?).Sublist (s.trace.filterMap Call.popped?) ∧
    ∀ env connectorId idTag reason requestsFifo,
      ({ s.manager with requestsFifo := requestsFifo }.stopTransaction env connectorId idTag
        reason).2.2 = (s.manager.stopTransaction env connectorId idTag reason).2.2 := by
  have t := tracks_of_reachable config h.observing
  refine ⟨?_, drained_sublist_popped_of_reachable config h,
    fun env connectorId idTag reason fifo =>
      stopTransaction_calls_of_requestsFifo _ env connectorId idTag reason fifo⟩
  have fifo : _ ++ (s.fifoMonitor config).queue = _ := popped_append_queue t.sound
  rwa [t.queue, FifoMonitor.initial, List.nil_append] at fifo

/-- A stop whose send succeeds. -/
def onlineStop : StopEnv := { offlineStop 200 with result := .ok }

/-- Connector 1 is started offline and the link comes up; the session is stopped before
the drain job runs, and the job then delivers the queued start. -/
def stopOvertakesStart : ChargePoint :=
  ((((ChargePoint.initial oneConnector false .accepted).next defaultConfig
    (.startTransaction (offlineStart 100) 1 "T")).next defaultConfig (.linkChange true)).next
    defaultConfig (.stopTransaction onlineStop 1 "T" .«local»)).next defaultConfig
    (.runJob fun _ => answeredRound ⟨⟨.accepted, none, none⟩, 7⟩)

theorem stopOvertakesStart_reachable : Reachable defaultConfig stopOvertakesStart :=
  .step _ (.step _ (.step _ (.step _ (.init _ oneConnector_idle _ _) rfl) rfl) rfl) rfl

/-- Nothing is dropped from the FIFO, yet the central system receives the session's stop
before its start. -/
theorem stop_delivered_before_queued_start :
    Reachable defaultConfig stopOvertakesStart ∧
    stopOvertakesStart.trace.filterMap Call.popped? =
      stopOvertakesStart.trace.filterMap Call.drained? ∧
    stopOvertakesStart.trace.filterMap Call.delivered? =
      [(stopRequest onlineStop ⟨.available, 0, -1, 100, "T"⟩ "T" .«local»).entry,
        (startRequest (offlineStart 100) 1 "T" none).entry] :=
  ⟨stopOvertakesStart_reachable, by decide⟩

theorem drainer_retry_discipline_stopOvertakesStart :
    (stopOvertakesStart.fifoMonitor defaultConfig).sound = true ∧
    (stopOvertakesStart.fifoMonitor defaultConfig).queue =
      stopOvertakesStart.manager.requestsFifo ∧
    (stopOvertakesStart.fifoMonitor defaultConfig).attempts =
      stopOvertakesStart.manager.requestRetryCount ∧
    (stopOvertakesStart.fifoMonitor defaultConfig).delivered = false ∧
    stopOvertakesStart.manager.requestRetryCount ≤ defaultConfig.transactionMessageAttempts ∧
    (stopOvertakesStart.manager.requestsFifo = [] →
      stopOvertakesStart.manager.requestRetryCount = 0) ∧
    (∀ head rest, stopOvertakesStart.manager.requestsFifo = head :: rest →
      (sinceLastPop stopOvertakesStart.trace).filterMap Call.attempt? =
        List.replicate stopOvertakesStart.manager.requestRetryCount (head, .failed)) ∧
    ∀ pre entry post, stopOvertakesStart.trace = pre ++ .pop entry :: post →
      (∃ k ≤ defaultConfig.transactionMessageAttempts,
          (sinceLastPop pre).filterMap Call.attempt? =
            List.replicate k (entry, .failed) ++ [(entry, .ok)]) ∨
        (sinceLastPop pre).filterMap Call.attempt? =
          List.replicate (defaultConfig.transactionMessageAttempts + 1) (entry, .failed) :=
  drainer_retry_discipline stopOvertakesStart_reachable.observing

theorem queued_order_kept_stopOvertakesStart :
    stopOvertakesStart.trace.filterMap Call.popped? ++ stopOvertakesStart.manager.requestsFifo =
      stopOvertakesStart.trace.filterMap Call.pushed? ∧
    (stopOvertakesStart.trace.filterMap Call.drained?).Sublist
      (stopOvertakesStart.trace.filterMap Call.popped?) ∧
    ∀ env connectorId idTag reason requestsFifo,
      ({ stopOvertakesStart.manager with requestsFifo := requestsFifo }.stopTransaction env
        connectorId idTag reason).2.2 =
        (stopOvertakesStart.manager.stopTransaction env connectorId idTag reason).2.2 :=
  queued_order_kept_direct_stop_unordered stopOvertakesStart_reachable

/-! ## Provisional sessions -/

/-- A start that opens a provisional session queues its request. -/
theorem push_of_provisional_start {tm : TransactionManager} {env : StartEnv}
    {connectorId : Nat} {idTag : String}
    (haccepted : (tm.startTransaction config env connectorId idTag).1 = .accepted)
    (hfailed : env.startResult = .failed) :
    ∃ request : StartTransactionReq, request.connectorId = connectorId ∧ request.idTag = idTag ∧
      Call.push request.entry ∈ (tm.startTransaction config env connectorId idTag).2.2 := by
  obtain ⟨h0, connector, hc, hallowed⟩ := startTransaction_guarded _ _ _ _ _ haccepted
  rw [startTransaction_of_allowed _ _ _ _ _ connector h0 hc hallowed]
  refine ⟨startRequest env connectorId idTag (checkReservation config env.isTransactionAllowed
    tm.connectors connector connectorId idTag).1, rfl, rfl, ?_⟩
  simp [sendStartTransaction, startOutcome_of_failed env idTag hfailed, callWithFifo, hfailed]

/-- The trace only grows. -/
theorem ChargePoint.next_trace (s : ChargePoint) (event : Event) :
    ∃ calls, (s.next config event).trace = s.trace ++ calls := by
  cases event <;> first | exact ⟨_, rfl⟩ | exact ⟨[], (List.append_nil _).symm⟩

/-- A session after an event was open before it, or the event is the start that opened
it. -/
theorem ChargePoint.sessions_next (s : ChargePoint) (event : Event) {id : Nat}
    {session : Session} (h : (s.next config event).sessions id = some session) :
    s.sessions id = some session ∨ ∃ env idTag, event = .startTransaction env id idTag ∧
      (s.manager.startTransaction config env id idTag).1 = .accepted ∧
      session = ChargePoint.openedSession env idTag := by
  cases event with
  | startTransaction env connectorId idTag =>
    simp only [ChargePoint.next] at h
    split_ifs at h with haccepted
    · by_cases hid : id = connectorId
      · subst hid
        rw [Function.update_same] at h
        exact .inr ⟨env, idTag, rfl, haccepted, (Option.some.inj h).symm⟩
      · rw [Function.update_noteq hid] at h
        exact .inl h
    · exact .inl h
  | stopTransaction env connectorId idTag reason =>
    simp only [ChargePoint.next] at h
    split_ifs at h
    · by_cases hid : id = connectorId
      · subst hid; rw [Function.update_same] at h; cases h
      · rw [Function.update_noteq hid] at h; exact .inl h
    · exact .inl h
  | _ => exact .inl h

/-- Every provisional session's start was queued. -/
def ProvisionalQueued (s : ChargePoint) : Prop :=
  ∀ id session, s.sessions id = some session → session.answer = none →
    ∃ request : StartTransactionReq, request.connectorId = id ∧ request.idTag = session.idTag ∧
      Call.push request.entry ∈ s.trace

theorem provisionalQueued_of_reachable {s : ChargePoint} (h : Reachable config s) :
    ProvisionalQueued s := by
  induction h with
  | init => intro id session hs; cases hs
  | @step s event _ _ ih =>
    intro id session hs hnone
    rcases s.sessions_next config event hs with hold | ⟨env, idTag, rfl, haccepted, rfl⟩
    · obtain ⟨request, h1, h2, hpush⟩ := ih id session hold hnone
      obtain ⟨calls, htrace⟩ := s.next_trace config event
      exact ⟨request, h1, h2, htrace ▸ List.mem_append_left _ hpush⟩
    · have hfailed : env.startResult = .failed := by
        cases hr : env.startResult
        · simp [ChargePoint.openedSession, hr] at hnone
        · rfl
      obtain ⟨request, h1, h2, hpush⟩ := push_of_provisional_start config haccepted hfailed
      exact ⟨request, h1, h2, List.mem_append_right _ hpush⟩

theorem provisional_start_queued_or_taken {config : OcppConfig} {s : ChargePoint}
    (h : Reachable config s) {connectorId : Nat} {session : Session}
    (hs : s.sessions connectorId = some session) (hprovisional : session.answer = none) :
    ∃ request : StartTransactionReq, request.connectorId = connectorId ∧
      request.idTag = session.idTag ∧ Call.push request.entry ∈ s.trace ∧
      (request.entry ∈ s.manager.requestsFifo ∨ Call.pop request.entry ∈ s.trace) := by
  obtain ⟨request, h1, h2, hpush⟩ := provisionalQueued_of_reachable config h _ _ hs hprovisional
  have t := tracks_of_reachable config h.observing
  have fifo : _ ++ (s.fifoMonitor config).queue = _ := popped_append_queue t.sound
  rw [t.queue, FifoMonitor.initial, List.nil_append] at fifo
  have pushed : request.entry ∈ s.trace.filterMap Call.pushed? :=
    List.mem_filterMap.2 ⟨_, hpush, rfl⟩
  rw [← fifo, List.mem_append] at pushed
  refine ⟨request, h1, h2, hpush, pushed.symm.imp id fun hpop => ?_⟩
  obtain ⟨c, hc, hpopped⟩ := List.mem_filterMap.1 hpop
  cases c <;> simp only [Call.popped?, reduceCtorEq, Option.some.injEq] at hpopped
  exact hpopped ▸ hc

theorem provisional_start_queued_reconnected :
    ∃ request : StartTransactionReq, request.connectorId = 1 ∧ request.idTag = "T" ∧
      Call.push request.entry ∈ reconnected.trace ∧
      (request.entry ∈ reconnected.manager.requestsFifo ∨
        Call.pop request.entry ∈ reconnected.trace) :=
  provisional_start_queued_or_taken reconnected_reachable
    (show reconnected.sessions 1 = some ⟨"T", 100, none⟩ by decide) rfl

end Ocpp
