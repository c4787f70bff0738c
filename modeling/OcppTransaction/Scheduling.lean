import OcppTransaction.Delivery

/-!
# Scheduling the drainer

A drain job is queued when the link comes up with the FIFO non-empty
(`updateConnectionStatus`) and when the retry timer fires; a job whose send fails on a
live link re-arms the timer. Nothing else schedules one, and nothing checks whether one
is already pending.

* `live_fifo_scheduled_unless_queued_idle`: while the link is up, a non-empty FIFO has a
  job queued or the timer armed, in every run where no message is queued while the link
  is up and nothing is pending. A start whose send times out on a live link strands its
  request (`start_stranded_on_live_link`).
* `drainers_added_only_by_link_up`: only a link-up event that finds the FIFO non-empty
  adds a pending drainer, and it adds one; so runs whose link comes up only when none is
  pending keep at most one. Two link-ups with data queued leave two jobs
  (`two_jobs_after_reconnect`).

Both results are about the step system, whose jobs are atomic (`DrainRound.atomic`): a
job reads the link status the charge point has, and the retry timer does not fire while
it runs. A link that drops is a `linkChange` before or after a job, and a timer expiry an
event of its own; for a link that drops between two reads of one job, or a timer that
fires inside one, neither result is stated.
-/

namespace Ocpp

open TransactionManager

/-- The drain jobs queued, plus one if the retry timer is armed. -/
def ChargePoint.pendingDrainers (s : ChargePoint) : Nat :=
  s.manager.queuedJobs + if s.manager.requestRetryTimer then 1 else 0

/-- An event that queues a message while the link is up and no drain is pending. -/
def StrandsFifo (config : OcppConfig) (s : ChargePoint) (event : Event) : Prop :=
  s.connected = true ∧ s.manager.queuedJobs = 0 ∧ s.manager.requestRetryTimer = false ∧
    s.manager.requestsFifo.length < (s.next config event).manager.requestsFifo.length

/-- The states reached by the runs whose events all satisfy `allowed`. -/
inductive ReachableUnder (config : OcppConfig) (allowed : ChargePoint → Event → Prop) :
    ChargePoint → Prop where
  | init (connectors : Connectors) (idle : ∀ id c, connectors.getConnector id = some c → c.Idle)
      (connected : Bool) (status : RegistrationStatus) :
      ReachableUnder config allowed (ChargePoint.initial connectors connected status)
  | step {s : ChargePoint} (event : Event) : ReachableUnder config allowed s →
      s.enabled event = true → allowed s event →
      ReachableUnder config allowed (s.next config event)

theorem ReachableUnder.reachable {config : OcppConfig} {allowed : ChargePoint → Event → Prop}
    {s : ChargePoint} (h : ReachableUnder config allowed s) : Reachable config s := by
  induction h with
  | init connectors idle connected status => exact .init connectors idle connected status
  | step event _ enabled _ ih => exact .step event ih enabled

theorem ChargePoint.next_connected (s : ChargePoint) (config : OcppConfig) {event : Event}
    (h : event.appendsOnly = true) : (s.next config event).connected = s.connected := by
  cases event <;> first | rfl | cases h

variable (config : OcppConfig)

/-! ## No stranded FIFO -/

/-- A job on a live link ends with the FIFO empty or the retry timer armed. -/
theorem processFifoRequest_empty_or_armed (tm : TransactionManager) (status : RegistrationStatus)
    (rounds : Nat → DrainRound) :
    (tm.processFifoRequest config true status
        fun i => (rounds i).atomic true).1.requestsFifo = [] ∨
      (tm.processFifoRequest config true status
        fun i => (rounds i).atomic true).1.requestRetryTimer = true := by
  unfold processFifoRequest
  split_ifs with up
  · exact drainLoop_stops config _ _ tm (fun _ => ⟨rfl, rfl, rfl⟩)
      (Nat.lt_succ_of_le (Nat.le_mul_of_pos_right _ (Nat.succ_pos _)))
  · exact .inr rfl
  · exact absurd rfl up

/-- While the link is up, a non-empty FIFO has a drain job queued or the timer armed. -/
def Scheduled (s : ChargePoint) : Prop :=
  s.connected = true → s.manager.requestsFifo ≠ [] →
    s.manager.queuedJobs ≠ 0 ∨ s.manager.requestRetryTimer = true

theorem Scheduled.next {s : ChargePoint} (h : Scheduled s) {event : Event}
    (allowed : ¬ StrandsFifo config s event) : Scheduled (s.next config event) := by
  intro hup hfifo
  cases happ : event.appendsOnly
  · cases event with
    | runJob rounds =>
      change s.connected = true at hup
      simp only [ChargePoint.next, hup] at hfifo ⊢
      exact .inr ((processFifoRequest_empty_or_armed config _ _ rounds).resolve_left hfifo)
    | timerExpired => exact .inl (Nat.succ_ne_zero _)
    | linkChange connected =>
      change connected = true at hup
      subst hup
      simp only [ChargePoint.next, updateConnectionStatus_requestsFifo] at hfifo
      simp [ChargePoint.next, updateConnectionStatus_queuedJobs, hfifo]
    | _ => cases happ
  · obtain ⟨calls, -, happ'⟩ := s.next_appendsOnly config happ
    rw [s.next_connected config happ] at hup
    rw [happ'.queuedJobs, happ'.requestRetryTimer]
    by_cases hempty : s.manager.requestsFifo = []
    · by_contra hnot
      simp only [not_or, not_not, Bool.not_eq_true] at hnot
      unfold StrandsFifo at allowed
      exact allowed ⟨hup, hnot.1, hnot.2, by rw [hempty]; exact List.length_pos.2 hfifo⟩
    · exact h hup hempty

theorem live_fifo_scheduled_unless_queued_idle {config : OcppConfig} {s : ChargePoint}
    (h : ReachableUnder config (fun s event => ¬ StrandsFifo config s event) s) :
    s.connected = true → s.registrationStatus = .accepted → s.manager.requestsFifo ≠ [] →
      s.manager.queuedJobs ≠ 0 ∨ s.manager.requestRetryTimer = true := by
  have scheduled : Scheduled s := by
    induction h with
    | init => exact fun _ hfifo => absurd rfl hfifo
    | step event _ _ allowed ih => exact ih.next config allowed
  exact fun hup _ hfifo => scheduled hup hfifo

/-- Connector 1 is started while the link is up, and the send times out. -/
def strandedStart : ChargePoint :=
  (ChargePoint.initial oneConnector true .accepted).next defaultConfig
    (.startTransaction (offlineStart 100) 1 "T")

/-- The link is up, the registration accepted, the request queued, and no drain is
pending. -/
theorem start_stranded_on_live_link :
    Reachable defaultConfig strandedStart ∧ strandedStart.connected = true ∧
    strandedStart.registrationStatus = .accepted ∧ strandedStart.manager.requestsFifo ≠ [] ∧
    strandedStart.manager.queuedJobs = 0 ∧ strandedStart.manager.requestRetryTimer = false :=
  ⟨.step _ (.init _ oneConnector_idle _ _) rfl, by decide⟩

theorem live_fifo_scheduled_reconnected :
    reconnected.manager.queuedJobs ≠ 0 ∨ reconnected.manager.requestRetryTimer = true :=
  live_fifo_scheduled_unless_queued_idle
    (.step _ (.step _ (.init _ oneConnector_idle _ _) rfl fun h => absurd h.1 (by decide)) rfl
      fun h => absurd h.1 (by decide))
    rfl rfl (by decide)

/-! ## Pending drainers -/

/-- What an event does to the pending drainers: a job and a timer expiry never add one,
and a link-up adds one when it finds the FIFO non-empty. -/
theorem pendingDrainers_next (s : ChargePoint) {event : Event} (enabled : s.enabled event = true) :
    (s.next config event).pendingDrainers ≤ s.pendingDrainers ∨
      (event = .linkChange true ∧ s.manager.requestsFifo ≠ [] ∧
        (s.next config event).pendingDrainers = s.pendingDrainers + 1) := by
  cases happ : event.appendsOnly
  · cases event with
    | runJob rounds =>
      have queued : s.manager.queuedJobs ≠ 0 := by simpa [ChargePoint.enabled] using enabled
      have jobs := processFifoRequest_preserves config
        (fun tm _ => tm.queuedJobs = s.manager.queuedJobs - 1)
        (fun i => (rounds i).atomic s.connected)
        (fun tm _ _ h => (drainRound_queuedJobs config _ tm rfl rfl).trans h)
        (fun _ _ _ _ h => h) (fun _ _ h => h)
        { s.manager with queuedJobs := s.manager.queuedJobs - 1 } s.connected
        s.registrationStatus (t := []) rfl
      simp only [ChargePoint.pendingDrainers, ChargePoint.next] at jobs ⊢
      rw [jobs]
      left
      split_ifs <;> omega
    | timerExpired =>
      have armed : s.manager.requestRetryTimer = true := by
        simpa [ChargePoint.enabled] using enabled
      simp [ChargePoint.pendingDrainers, ChargePoint.next, requestRetryTimerExpired, armed]
    | linkChange connected =>
      by_cases up : connected = true ∧ s.manager.requestsFifo ≠ []
      · obtain ⟨rfl, hfifo⟩ := up
        refine .inr ⟨rfl, hfifo, ?_⟩
        simp [ChargePoint.pendingDrainers, ChargePoint.next, updateConnectionStatus_queuedJobs,
          hfifo]
        omega
      · simp [ChargePoint.pendingDrainers, ChargePoint.next, updateConnectionStatus_queuedJobs, up]
    | _ => cases happ
  · obtain ⟨calls, -, happ'⟩ := s.next_appendsOnly config happ
    simp [ChargePoint.pendingDrainers, happ'.queuedJobs, happ'.requestRetryTimer]

theorem drainers_added_only_by_link_up {config : OcppConfig} :
    (∀ (s : ChargePoint) (event : Event), s.enabled event = true →
      (s.next config event).pendingDrainers ≤ s.pendingDrainers ∨
        (event = .linkChange true ∧ s.manager.requestsFifo ≠ [] ∧
          (s.next config event).pendingDrainers = s.pendingDrainers + 1)) ∧
    ∀ s : ChargePoint,
      ReachableUnder config
        (fun s event => event = .linkChange true → s.pendingDrainers = 0) s →
      s.pendingDrainers ≤ 1 := by
  refine ⟨fun s _ enabled => pendingDrainers_next config s enabled, fun s h => ?_⟩
  induction h with
  | init => exact Nat.zero_le _
  | step event _ enabled allowed ih =>
    rcases pendingDrainers_next config _ enabled with hle | ⟨rfl, -, hadd⟩
    · exact Nat.le_trans hle ih
    · have := allowed rfl
      omega

/-- A meter value queued for connector 1. -/
def queuedMeterValues : FifoEntry :=
  ⟨meterValuesAction, .meterValues ⟨1, none, []⟩⟩

/-- A producer queues a meter value while the link is down; the link comes up, goes down
and comes up again. -/
def reconnectedTwice : ChargePoint :=
  ((((ChargePoint.initial oneConnector false .accepted).next defaultConfig
    (.push queuedMeterValues)).next defaultConfig (.linkChange true)).next defaultConfig
    (.linkChange false)).next defaultConfig (.linkChange true)

/-- Two drain jobs are queued. -/
theorem two_jobs_after_reconnect :
    Reachable defaultConfig reconnectedTwice ∧ reconnectedTwice.manager.queuedJobs = 2 ∧
    reconnectedTwice.pendingDrainers = 2 :=
  ⟨.step _ (.step _ (.step _ (.step _ (.init _ oneConnector_idle _ _) rfl) rfl) rfl) rfl,
    by decide⟩

end Ocpp
