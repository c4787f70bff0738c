import OcppTransaction.Scheduling

/-!
# Draining on a good link

The drainer's liveness. A pass that sends a known action and gets an answer pops the
head; while the link stays up and the timer is stopped, the `do … while` loop goes on to
the next entry. So one job on a good link delivers the whole FIFO, in order, each entry
once (`good_link_job_drains_fifo`). From any state with a drainer pending, a timer
expiry when the timer is armed and then one job empty the FIFO
(`pending_drainer_empties_fifo`). A FIFO stranded with no drainer pending
(`start_stranded_on_live_link`) is stranded only until the next link-up, which queues a
job (`reconnect_drains_fifo`).

"Good" is the environment's part: the link stays up, the registration is accepted, every
send is answered, and every queued entry has an action the drainer knows. These are
hypotheses of the results, as they are assumptions on the central system and on the
producers.
-/

namespace Ocpp

open TransactionManager

/-- The charge point after `events`, in order, or `none` if one of them is not enabled
when its turn comes. -/
def ChargePoint.run (config : OcppConfig) : ChargePoint → List Event → Option ChargePoint
  | s, [] => some s
  | s, event :: events =>
    if s.enabled event then (s.next config event).run config events else none

namespace TransactionManager

variable (config : OcppConfig)

/-- An answered send of a known action delivers the entry and nothing else. -/
theorem sendRequest_of_known (cs : Connectors) {round : DrainRound} {entry : FifoEntry}
    (hknown : entry.Known) (hok : round.result = .ok) :
    (sendRequest cs round entry).1 = .ok ∧
      (sendRequest cs round entry).2.filterMap Call.sent? = [entry] ∧
      (sendRequest cs round entry).2.filterMap Call.drained? = [entry] := by
  have answered : ∀ c ∈ startTransactionAnswered cs entry.payload.startTransactionReq
      round.startConf, c.sent? = none ∧ c.drained? = none := by
    intro c hc
    rcases mem_startTransactionAnswered hc with rfl | rfl | rfl <;> exact ⟨rfl, rfl⟩
  unfold sendRequest
  by_cases hstart : entry.action = startTransactionAction
  · simp only [if_pos hstart, hok, if_true, List.filterMap_cons, Call.sent?, Call.drained?,
      List.filterMap_eq_nil_iff.2 fun c hc => (answered c hc).1,
      List.filterMap_eq_nil_iff.2 fun c hc => (answered c hc).2, and_self]
  · have hother := hknown.resolve_left hstart
    simp [hstart, hother, hok, Call.sent?, Call.drained?]

/-- An answered pass over a known head, with the timer stopped, pops the head and resets
the counter. -/
theorem drainRound_of_known {tm : TransactionManager} {round : DrainRound} {entry : FifoEntry}
    {rest : List FifoEntry} (hfifo : tm.requestsFifo = entry :: rest) (hknown : entry.Known)
    (hok : round.result = .ok) (htimer : tm.requestRetryTimer = false) :
    (tm.drainRound config round).1 = { tm with requestsFifo := rest, requestRetryCount := 0 } ∧
      (tm.drainRound config round).2.filterMap Call.sent? = [entry] ∧
      (tm.drainRound config round).2.filterMap Call.drained? = [entry] := by
  obtain ⟨hresult, hsent, hdrained⟩ := sendRequest_of_known tm.connectors hknown hok
  rw [drainRound_cons config round hfifo]
  simp [hresult, hsent, hdrained, Call.sent?, Call.drained?, retryTimerThread, htimer]

/-- A loop on a link that stays up, with every send answered and the timer stopped,
delivers every known entry in order and ends with the FIFO empty. -/
theorem drainLoop_of_known : ∀ (fuel : Nat) (rounds : Nat → DrainRound)
    (tm : TransactionManager),
    (∀ i, (rounds i).result = .ok ∧ (rounds i).connectedAtEnd = true) →
    tm.requestRetryTimer = false → (∀ entry ∈ tm.requestsFifo, entry.Known) →
    tm.requestsFifo.length < fuel →
    (drainLoop config fuel rounds tm).1 =
        { tm with
          requestsFifo := [],
          requestRetryCount := if tm.requestsFifo = [] then tm.requestRetryCount else 0 } ∧
      (drainLoop config fuel rounds tm).2.filterMap Call.sent? = tm.requestsFifo ∧
      (drainLoop config fuel rounds tm).2.filterMap Call.drained? = tm.requestsFifo
  | 0, _, _, _, _, _, hfuel => absurd hfuel (Nat.not_lt_zero _)
  | fuel + 1, rounds, tm, hok, htimer, hknown, hfuel => by
    cases hfifo : tm.requestsFifo with
    | nil => simp [drainLoop, drainRound_nil config _ hfifo, ← hfifo,
      retryTimerThread_of_stopped _ _ htimer]
    | cons entry rest =>
      obtain ⟨hpass, hsent, hdrained⟩ := drainRound_of_known config hfifo
        (hknown entry (by simp [hfifo])) (hok 0).1 htimer
      by_cases hrest : rest = []
      · subst hrest
        simp [drainLoop, hpass, hsent, hdrained]
      · obtain ⟨hloop, hsent', hdrained'⟩ := drainLoop_of_known fuel (fun i => rounds (i + 1))
          { tm with requestsFifo := rest, requestRetryCount := 0 } (fun i => hok (i + 1)) htimer
          (fun e he => hknown e (by simp [hfifo, he]))
          (by rw [hfifo, List.length_cons] at hfuel; exact Nat.lt_of_succ_lt_succ hfuel)
        have hcont : ({ tm with requestsFifo := rest, requestRetryCount := 0 } :
            TransactionManager).requestsFifo ≠ [] ∧
            ({ tm with requestsFifo := rest, requestRetryCount := 0 } :
              TransactionManager).requestRetryTimer = false := ⟨hrest, htimer⟩
        simp only [drainLoop, hpass, if_pos hcont, if_pos (hok 0).2, hloop,
          List.filterMap_append, List.filterMap_cons, Call.sent?, Call.drained?, hsent, hsent',
          hdrained, hdrained', if_neg hrest, reduceCtorEq, if_false]
        simp

end TransactionManager

theorem good_link_job_drains_fifo (tm : TransactionManager) (config : OcppConfig)
    (rounds : Nat → DrainRound)
    (hok : ∀ i, (rounds i).result = .ok ∧ (rounds i).connectedAtEnd = true)
    (htimer : tm.requestRetryTimer = false) (hknown : ∀ entry ∈ tm.requestsFifo, entry.Known) :
    (tm.processFifoRequest config true .accepted rounds).1 =
        { tm with
          requestsFifo := [],
          requestRetryCount := if tm.requestsFifo = [] then tm.requestRetryCount else 0 } ∧
      (tm.processFifoRequest config true .accepted rounds).2.filterMap Call.sent? =
        tm.requestsFifo ∧
      (tm.processFifoRequest config true .accepted rounds).2.filterMap Call.drained? =
        tm.requestsFifo := by
  obtain ⟨hloop, hsent, hdrained⟩ :=
    drainLoop_of_known config _ rounds tm hok htimer hknown (length_lt_drainFuel config tm)
  simp [processFifoRequest, hloop, hsent, hdrained, Call.sent?, Call.drained?]

/-- Two starts and a stop queued on connector 1, drained on a link where every send is
answered. -/
theorem good_link_job_drains_restartedOffline :
    (restartedOffline.processFifoRequest defaultConfig true .accepted
        fun _ => answeredRound ⟨⟨.accepted, none, none⟩, 7⟩).1 =
        { restartedOffline with
          requestsFifo := [],
          requestRetryCount := if restartedOffline.requestsFifo = [] then
            restartedOffline.requestRetryCount else 0 } ∧
      (restartedOffline.processFifoRequest defaultConfig true .accepted
          fun _ => answeredRound ⟨⟨.accepted, none, none⟩, 7⟩).2.filterMap Call.sent? =
        restartedOffline.requestsFifo ∧
      (restartedOffline.processFifoRequest defaultConfig true .accepted
          fun _ => answeredRound ⟨⟨.accepted, none, none⟩, 7⟩).2.filterMap Call.drained? =
        restartedOffline.requestsFifo :=
  good_link_job_drains_fifo restartedOffline defaultConfig _ (fun _ => ⟨rfl, rfl⟩) rfl
    (by decide)

/-- A job on a good link, from a state whose timer is stopped, delivers the FIFO. -/
theorem ChargePoint.next_runJob_of_good (s : ChargePoint) (config : OcppConfig)
    (rounds : Nat → DrainRound) (hup : s.connected = true)
    (hreg : s.registrationStatus = .accepted) (htimer : s.manager.requestRetryTimer = false)
    (hknown : ∀ entry ∈ s.manager.requestsFifo, entry.Known)
    (hok : ∀ i, (rounds i).result = .ok) :
    (s.next config (.runJob rounds)).manager.requestsFifo = [] ∧
      ∃ calls, (s.next config (.runJob rounds)).trace = s.trace ++ calls ∧
        calls.filterMap Call.sent? = s.manager.requestsFifo ∧
        calls.filterMap Call.drained? = s.manager.requestsFifo := by
  obtain ⟨hloop, hsent, hdrained⟩ := drainLoop_of_known config _ (fun i => (rounds i).atomic true)
    { s.manager with queuedJobs := s.manager.queuedJobs - 1 } (fun i => ⟨hok i, rfl⟩) htimer
    hknown (length_lt_drainFuel config _)
  simp only [ChargePoint.next, processFifoRequest, hup, hreg, if_true]
  exact ⟨by rw [hloop], _, rfl, by simp [hsent, Call.sent?], by simp [hdrained, Call.drained?]⟩

/-- With a drainer pending, the timer's expiry when it is armed and then a job are
enabled, and the job runs from a state with the timer stopped and the FIFO, the link,
the registration status and the trace as they were. -/
theorem ChargePoint.run_pending (s : ChargePoint) (config : OcppConfig)
    (rounds : Nat → DrainRound)
    (hpending : s.manager.queuedJobs ≠ 0 ∨ s.manager.requestRetryTimer = true) :
    ∃ s₁ : ChargePoint,
      s.run config
          ((if s.manager.requestRetryTimer then [.timerExpired] else []) ++ [.runJob rounds]) =
        some (s₁.next config (.runJob rounds)) ∧
      s₁.manager.requestRetryTimer = false ∧ s₁.manager.requestsFifo = s.manager.requestsFifo ∧
      s₁.connected = s.connected ∧ s₁.registrationStatus = s.registrationStatus ∧
      s₁.trace = s.trace := by
  cases htimer : s.manager.requestRetryTimer
  · have queued : s.manager.queuedJobs ≠ 0 := hpending.resolve_right (by simp [htimer])
    exact ⟨s, by simp [ChargePoint.run, ChargePoint.enabled, queued], htimer, rfl, rfl, rfl,
      rfl⟩
  · exact ⟨s.next config .timerExpired,
      by simp [ChargePoint.run, ChargePoint.enabled, htimer, ChargePoint.next,
        requestRetryTimerExpired], rfl, rfl, rfl, rfl, rfl⟩

theorem pending_drainer_empties_fifo (s : ChargePoint) (config : OcppConfig)
    (rounds : Nat → DrainRound) (hup : s.connected = true)
    (hreg : s.registrationStatus = .accepted)
    (hpending : s.manager.queuedJobs ≠ 0 ∨ s.manager.requestRetryTimer = true)
    (hknown : ∀ entry ∈ s.manager.requestsFifo, entry.Known)
    (hok : ∀ i, (rounds i).result = .ok) :
    ∃ s' calls,
      s.run config
          ((if s.manager.requestRetryTimer then [.timerExpired] else []) ++ [.runJob rounds]) =
        some s' ∧
      s'.manager.requestsFifo = [] ∧ s'.trace = s.trace ++ calls ∧
      calls.filterMap Call.sent? = s.manager.requestsFifo ∧
      calls.filterMap Call.drained? = s.manager.requestsFifo := by
  obtain ⟨s₁, hrun, htimer, hfifo, hcon, hreg₁, htrace₁⟩ := s.run_pending config rounds hpending
  obtain ⟨hempty, calls, htrace, hsent, hdrained⟩ := s₁.next_runJob_of_good config rounds
    (hcon.trans hup) (hreg₁.trans hreg) htimer (hfifo ▸ hknown) hok
  exact ⟨_, calls, hrun, hempty, htrace₁ ▸ htrace, hfifo ▸ hsent, hfifo ▸ hdrained⟩

/-- The link came up with a start queued: the queued job delivers it. -/
theorem pending_drainer_empties_reconnected :
    ∃ s' calls,
      reconnected.run defaultConfig
          ((if reconnected.manager.requestRetryTimer then [.timerExpired] else []) ++
            [.runJob fun _ => answeredRound ⟨⟨.accepted, none, none⟩, 7⟩]) = some s' ∧
      s'.manager.requestsFifo = [] ∧ s'.trace = reconnected.trace ++ calls ∧
      calls.filterMap Call.sent? = reconnected.manager.requestsFifo ∧
      calls.filterMap Call.drained? = reconnected.manager.requestsFifo :=
  pending_drainer_empties_fifo reconnected defaultConfig _ rfl rfl (by decide) (by decide)
    fun _ => rfl

theorem reconnect_drains_fifo (s : ChargePoint) (config : OcppConfig)
    (rounds : Nat → DrainRound) (hreg : s.registrationStatus = .accepted)
    (hfifo : s.manager.requestsFifo ≠ []) (hknown : ∀ entry ∈ s.manager.requestsFifo, entry.Known)
    (hok : ∀ i, (rounds i).result = .ok) :
    ∃ s' calls,
      s.run config (.linkChange true ::
          (if s.manager.requestRetryTimer then [.timerExpired] else []) ++ [.runJob rounds]) =
        some s' ∧
      s'.manager.requestsFifo = [] ∧ s'.trace = s.trace ++ calls ∧
      calls.filterMap Call.sent? = s.manager.requestsFifo ∧
      calls.filterMap Call.drained? = s.manager.requestsFifo := by
  have hjobs : (s.next config (.linkChange true)).manager.queuedJobs ≠ 0 := by
    simp [ChargePoint.next, updateConnectionStatus_queuedJobs, hfifo]
  obtain ⟨s₁, hrun, htimer, hfifo₁, hcon, hreg₁, htrace₁⟩ :=
    (s.next config (.linkChange true)).run_pending config rounds (.inl hjobs)
  simp only [ChargePoint.next, updateConnectionStatus_requestsFifo,
    updateConnectionStatus_requestRetryTimer] at hrun hfifo₁ hcon hreg₁ htrace₁
  obtain ⟨hempty, calls, htrace, hsent, hdrained⟩ := s₁.next_runJob_of_good config rounds
    hcon (hreg₁.trans hreg) htimer (hfifo₁ ▸ hknown) hok
  exact ⟨_, calls, by simpa [ChargePoint.run, ChargePoint.enabled, ChargePoint.next] using hrun,
    hempty, htrace₁ ▸ htrace, hfifo₁ ▸ hsent, hfifo₁ ▸ hdrained⟩

/-- The start stranded on a live link (`start_stranded_on_live_link`): a reconnect
delivers it. -/
theorem reconnect_drains_strandedStart :
    ∃ s' calls,
      strandedStart.run defaultConfig (.linkChange true ::
          (if strandedStart.manager.requestRetryTimer then [.timerExpired] else []) ++
            [.runJob fun _ => answeredRound ⟨⟨.accepted, none, none⟩, 7⟩]) = some s' ∧
      s'.manager.requestsFifo = [] ∧ s'.trace = strandedStart.trace ++ calls ∧
      calls.filterMap Call.sent? = strandedStart.manager.requestsFifo ∧
      calls.filterMap Call.drained? = strandedStart.manager.requestsFifo :=
  reconnect_drains_fifo strandedStart defaultConfig _ rfl (by decide) (by decide)
    fun _ => rfl

end Ocpp
