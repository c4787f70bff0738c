import OcppTransaction.Progress

/-!
# Restarting the charge point

The connectors and the FIFO are persisted on every change (spec §4.1 and §4.2), so a
crash between two events loses neither. The constructor (source lines 44–80) builds a
new manager over them: `m_request_retry_count(0)`, a new retry timer, which is stopped,
and a new worker pool, with no job queued. `ChargePoint.restart` is that crash and
restart: the link is down until the sender connects again, the registration status is
whatever the central system answers the new boot with, and the history and the sessions,
which the persisted connectors carry, are kept. `ReachableWithRestarts` adds restarts to
the runs of `Reachable`.

* `fifo_accounted_across_restarts`: over every run with restarts, the FIFO is what was
  pushed less what was popped, from the front, and the retry counter is at most
  `TransactionMessageAttempts`, and 0 when the FIFO is empty. The counter starts again at
  0 on a restart, so the attempts of `drainer_retry_discipline` are counted per lifetime
  of the manager.
* `restart_reconnect_drains_persisted`: after a restart from any state, the registration
  accepted, the link up and the job the link-up queues deliver every persisted entry, in
  order, when the central system answers every send (spec §8, property 5).
-/

namespace Ocpp

open TransactionManager

/-- The constructor (lines 44–80) over the persisted `connectors` and FIFO: the retry
counter starts at 0, the new timer is stopped, and the new worker pool has no job. -/
def TransactionManager.ofPersisted (connectors : Connectors) (requestsFifo : List FifoEntry) :
    TransactionManager :=
  { connectors := connectors, requestsFifo := requestsFifo, requestRetryCount := 0,
    requestRetryTimer := false, queuedJobs := 0 }

/-- A crash and a restart, with the registration status `status` the central system
answers the new boot with. -/
def ChargePoint.restart (s : ChargePoint) (status : RegistrationStatus) : ChargePoint :=
  { s with
    manager := ofPersisted s.manager.connectors s.manager.requestsFifo,
    connected := false, registrationStatus := status }

/-- The states a charge point reaches from a fresh start, with restarts. -/
inductive ReachableWithRestarts (config : OcppConfig) : ChargePoint → Prop where
  | init (connectors : Connectors) (idle : ∀ id c, connectors.getConnector id = some c → c.Idle)
      (connected : Bool) (status : RegistrationStatus) :
      ReachableWithRestarts config (ChargePoint.initial connectors connected status)
  | step {s : ChargePoint} (event : Event) : ReachableWithRestarts config s →
      s.enabled event = true → ReachableWithRestarts config (s.next config event)
  | restart {s : ChargePoint} (status : RegistrationStatus) : ReachableWithRestarts config s →
      ReachableWithRestarts config (s.restart status)

variable (config : OcppConfig)

theorem Reachable.withRestarts {s : ChargePoint} (h : Reachable config s) :
    ReachableWithRestarts config s := by
  induction h with
  | init connectors idle connected status => exact .init connectors idle connected status
  | step event _ enabled ih => exact .step event ih enabled

/-- `Reachable.drainer_induction` with restarts: the relation must also survive the
manager being built again over the persisted connectors and FIFO. -/
theorem ReachableWithRestarts.drainer_induction (P : TransactionManager → List Call → Prop)
    (init : ∀ connectors : Connectors, P ⟨connectors, [], 0, false, 0⟩ [])
    (appends : ∀ tm tm' t calls, AppendsOnly tm tm' calls → P tm t → P tm' (t ++ calls))
    (pass : ∀ tm round t, P tm t →
      P (tm.drainRound config round).1 (t ++ (tm.drainRound config round).2))
    (poll : ∀ tm t c, c.Polls → P tm t → P tm (t ++ [c]))
    (frame : ∀ tm tm' t, tm'.requestsFifo = tm.requestsFifo →
      tm'.requestRetryCount = tm.requestRetryCount → P tm t → P tm' t)
    (restart : ∀ tm t, P tm t → P (ofPersisted tm.connectors tm.requestsFifo) t)
    {s : ChargePoint} (h : ReachableWithRestarts config s) : P s.manager s.trace := by
  induction h with
  | init connectors => exact init connectors
  | step event _ _ ih => exact ChargePoint.next_preserves config P appends pass poll frame _ event ih
  | restart status _ ih => exact restart _ _ ih

/-! ## What survives a restart -/

theorem Call.pushed?_of_byDrainer {c : Call} (h : c.ByDrainer) : c.pushed? = none := by
  cases c <;> first | rfl | exact h.elim

/-- The FIFO accounts for the calls so far: it is what was pushed less what was popped,
from the front; and the retry counter is at most `attemptsLimit`, and 0 when the FIFO is
empty. -/
structure Accounted (attemptsLimit : Nat) (tm : TransactionManager) (calls : List Call) :
    Prop where
  fifo : calls.filterMap Call.popped? ++ tm.requestsFifo = calls.filterMap Call.pushed?
  bounded : tm.requestRetryCount ≤ attemptsLimit
  empty : tm.requestsFifo = [] → tm.requestRetryCount = 0

namespace Accounted

variable {attemptsLimit : Nat} {tm tm' : TransactionManager} {t calls : List Call}

/-- New calls that pop from the FIFO's front and push onto its back keep the account. -/
theorem fifo_append (h : t.filterMap Call.popped? ++ tm.requestsFifo = t.filterMap Call.pushed?)
    (hstep : calls.filterMap Call.popped? ++ tm'.requestsFifo =
      tm.requestsFifo ++ calls.filterMap Call.pushed?) :
    (t ++ calls).filterMap Call.popped? ++ tm'.requestsFifo =
      (t ++ calls).filterMap Call.pushed? := by
  rw [List.filterMap_append, List.filterMap_append, List.append_assoc, hstep,
    ← List.append_assoc, h]

theorem appendsOnly (h : Accounted attemptsLimit tm t) (happ : AppendsOnly tm tm' calls) :
    Accounted attemptsLimit tm' (t ++ calls) := by
  have hpopped : calls.filterMap Call.popped? = [] := List.filterMap_eq_nil_iff.2 fun c hc => by
    have := happ.not_drains c hc
    cases c <;> first | rfl | exact absurd trivial this
  refine ⟨fifo_append h.fifo (by rw [hpopped, List.nil_append, happ.requestsFifo]),
    happ.requestRetryCount ▸ h.bounded, fun he => ?_⟩
  rw [happ.requestRetryCount]
  exact h.empty (List.append_eq_nil.1 (happ.requestsFifo ▸ he)).1

theorem frame (h : Accounted attemptsLimit tm t) (hfifo : tm'.requestsFifo = tm.requestsFifo)
    (hcount : tm'.requestRetryCount = tm.requestRetryCount) : Accounted attemptsLimit tm' t :=
  ⟨hfifo ▸ h.fifo, hcount ▸ h.bounded, fun he => hcount ▸ h.empty (hfifo ▸ he)⟩

theorem poll (h : Accounted attemptsLimit tm t) {c : Call} (hc : c.Polls) :
    Accounted attemptsLimit tm (t ++ [c]) :=
  ⟨fifo_append h.fifo (by cases c <;> simp_all [Call.Polls, Call.popped?, Call.pushed?]),
    h.bounded, h.empty⟩

theorem restart (h : Accounted attemptsLimit tm t) :
    Accounted attemptsLimit (ofPersisted tm.connectors tm.requestsFifo) t :=
  ⟨h.fifo, Nat.zero_le _, fun _ => rfl⟩

/-- A pass pops the head, or counts a failure below the limit. -/
theorem drainRound (h : Accounted config.transactionMessageAttempts tm t) (round : DrainRound) :
    Accounted config.transactionMessageAttempts (tm.drainRound config round).1
      (t ++ (tm.drainRound config round).2) := by
  have pushed : (tm.drainRound config round).2.filterMap Call.pushed? = [] :=
    List.filterMap_eq_nil_iff.2 fun c hc =>
      Call.pushed?_of_byDrainer (drainRound_byDrainer config round tm hc)
  cases hfifo : tm.requestsFifo with
  | nil =>
    rw [drainRound_nil config round hfifo, List.append_nil]
    exact h.frame (retryTimerThread_requestsFifo _ _) (retryTimerThread_requestRetryCount _ _)
  | cons entry rest =>
    have hpopped := (sendRequest_drained_popped tm.connectors round entry).2
    rw [drainRound_cons config round hfifo] at pushed ⊢
    dsimp only at pushed ⊢
    split_ifs at pushed ⊢ with hpop <;> dsimp only at pushed ⊢
    · refine ⟨fifo_append h.fifo ?_, by simp, fun _ => by simp⟩
      rw [pushed]; simp [hpopped, hfifo, Call.popped?]
    all_goals
      have hbound : tm.requestRetryCount + 1 ≤ config.transactionMessageAttempts := by
        by_contra hlt; exact hpop (.inr (by omega))
      refine ⟨fifo_append h.fifo ?_, by simpa using hbound, fun he => by simp [hfifo] at he⟩
      rw [pushed]; simp [hpopped, Call.popped?]

end Accounted

theorem fifo_accounted_across_restarts {config : OcppConfig} {s : ChargePoint}
    (h : ReachableWithRestarts config s) :
    s.trace.filterMap Call.popped? ++ s.manager.requestsFifo = s.trace.filterMap Call.pushed? ∧
    s.manager.requestRetryCount ≤ config.transactionMessageAttempts ∧
    (s.manager.requestsFifo = [] → s.manager.requestRetryCount = 0) :=
  have accounted := ReachableWithRestarts.drainer_induction config
    (fun tm t => Accounted config.transactionMessageAttempts tm t)
    (fun _ => ⟨rfl, Nat.zero_le _, fun _ => rfl⟩) (fun _ _ _ _ happ ht => ht.appendsOnly happ)
    (fun _ round _ ht => ht.drainRound config round) (fun _ _ _ hc ht => ht.poll hc)
    (fun _ _ _ hfifo hcount ht => ht.frame hfifo hcount) (fun _ _ ht => ht.restart) h
  ⟨accounted.fifo, accounted.bounded, accounted.empty⟩

/-- Connector 1 is started while the link is up and the send times out; the charge point
then crashes and restarts before any drain, with its registration pending. -/
def crashedWithStart : ChargePoint :=
  strandedStart.restart .pending

theorem fifo_accounted_crashedWithStart :
    crashedWithStart.trace.filterMap Call.popped? ++ crashedWithStart.manager.requestsFifo =
      crashedWithStart.trace.filterMap Call.pushed? ∧
    crashedWithStart.manager.requestRetryCount ≤ defaultConfig.transactionMessageAttempts ∧
    (crashedWithStart.manager.requestsFifo = [] →
      crashedWithStart.manager.requestRetryCount = 0) :=
  fifo_accounted_across_restarts
    (.restart _ (.step _ (.init _ oneConnector_idle _ _) rfl))

/-! ## Durability -/

theorem restart_reconnect_drains_persisted (s : ChargePoint) (config : OcppConfig)
    (status : RegistrationStatus) (rounds : Nat → DrainRound)
    (hfifo : s.manager.requestsFifo ≠ []) (hknown : ∀ entry ∈ s.manager.requestsFifo, entry.Known)
    (hok : ∀ i, (rounds i).result = .ok) :
    ∃ s' calls,
      (s.restart status).run config
          [.registrationChange .accepted, .linkChange true, .runJob rounds] = some s' ∧
      s'.manager.requestsFifo = [] ∧ s'.trace = s.trace ++ calls ∧
      calls.filterMap Call.sent? = s.manager.requestsFifo ∧
      calls.filterMap Call.drained? = s.manager.requestsFifo := by
  obtain ⟨hempty, calls, htrace, hsent, hdrained⟩ :=
    (((s.restart status).next config (.registrationChange .accepted)).next config
      (.linkChange true)).next_runJob_of_good config rounds rfl rfl
      (by simp [ChargePoint.next, ChargePoint.restart, updateConnectionStatus_requestRetryTimer,
        ofPersisted])
      (by simpa [ChargePoint.next, ChargePoint.restart, updateConnectionStatus_requestsFifo,
        ofPersisted] using hknown) hok
  refine ⟨_, calls, ?_, hempty, htrace, ?_, ?_⟩
  · simp [ChargePoint.run, ChargePoint.enabled, ChargePoint.next, ChargePoint.restart,
      updateConnectionStatus_queuedJobs, ofPersisted, hfifo]
  · simpa [ChargePoint.next, ChargePoint.restart, updateConnectionStatus_requestsFifo,
      ofPersisted] using hsent
  · simpa [ChargePoint.next, ChargePoint.restart, updateConnectionStatus_requestsFifo,
      ofPersisted] using hdrained

/-- The start stranded on a live link survives the crash and is delivered after it. -/
theorem restart_reconnect_drains_strandedStart :
    ∃ s' calls,
      (strandedStart.restart .pending).run defaultConfig
          [.registrationChange .accepted, .linkChange true,
            .runJob fun _ => answeredRound ⟨⟨.accepted, none, none⟩, 7⟩] = some s' ∧
      s'.manager.requestsFifo = [] ∧ s'.trace = strandedStart.trace ++ calls ∧
      calls.filterMap Call.sent? = strandedStart.manager.requestsFifo ∧
      calls.filterMap Call.drained? = strandedStart.manager.requestsFifo :=
  restart_reconnect_drains_persisted strandedStart defaultConfig .pending _ (by decide)
    (by decide) fun _ => rfl

end Ocpp
