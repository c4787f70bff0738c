import OcppTransaction.Manager

/-!
# The FIFO drainer

`TransactionManager::processFifoRequest` (source lines 382–492). On entry it checks the
link and the registration status; then its `do … while` loop sends the FIFO head,
pops it on success or after too many failures, and otherwise counts the failure and
re-arms the retry timer while the link is up.

The loop is `drainLoop`, over at most `fuel` passes; `processFifoRequest` gives it
`drainFuel`, a number of passes after which the loop has always stopped by its own
condition (`drainLoop_stops` for a drainer that sees the link up throughout).

* `drainRound_cons` is the one unfolding of a pass every later proof uses.
* `drainRound_sent_startTransaction` and `drainRound_deAuthorized_startTransaction` say
  what a pass does with a queued start: it sends that request and no `StopTransaction`,
  and when the central system refuses it, calls `transactionDeAuthorized` exactly when
  the connector of the request holds `-1` with the request's id tag.
* `processFifoRequest_deAuthorized`: a whole job de-authorizes only for starts that were
  queued when it began.
-/

namespace Ocpp

/-- What the drainer observes in one pass of its loop: the outcome of its send, the
response it reads, the link status at the two places the pass reads it, and what the
retry timer does on its own thread meanwhile. -/
structure DrainRound where
  result : CallResult
  /-- The response to a queued `StartTransaction`, read when the call succeeded. -/
  startConf : StartTransactionConf
  /-- `isConnected()` before re-arming the retry timer (line 475). -/
  connectedAfterFailure : Bool
  /-- `isConnected()` in the loop condition (line 484). -/
  connectedAtEnd : Bool
  /-- Whether the timer, if started, fires during the send, before the pass can re-arm
  it. -/
  timerFiresDuringSend : Bool
  /-- Whether the timer, if started, fires after the pass and before the loop condition
  reads `isStarted()` (line 484). -/
  timerFiresBeforeCheck : Bool

/-- The lookup of lines 426–428: connector `connectorId` exists and holds a provisional
transaction with the id tag `idTag`. -/
def Connectors.holdsProvisional (cs : Connectors) (connectorId : Nat) (idTag : String) : Bool :=
  match cs.getConnector connectorId with
  | some connector => connector.transactionId = -1 ∧ connector.transactionIdTag = idTag
  | none => false

namespace TransactionManager

/-- Lines 409–433: a queued `StartTransaction` was answered. The response is read, the
cache is updated, and a refusal de-authorizes the provisional transaction the lookup
finds. -/
def startTransactionAnswered (cs : Connectors) (request : StartTransactionReq)
    (response : StartTransactionConf) : List Call :=
  .response (.startTransaction response) ::
    ((if response.idTagInfo.status ≠ .concurrentTx then
      [.authentUpdate request.idTag response.idTagInfo] else []) ++
    (if response.idTagInfo.status ≠ .accepted ∧
        cs.holdsProvisional request.connectorId request.idTag then
      [.transactionDeAuthorized request.connectorId] else []))

/-- Lines 400–452: send the head entry by its action. The responses to `StopTransaction`
and `MeterValues` are ignored alike; an unknown action fails without a send. -/
def sendRequest (cs : Connectors) (round : DrainRound) (entry : FifoEntry) :
    CallResult × List Call :=
  if entry.action = startTransactionAction then
    (round.result, .call entry round.result ::
      if round.result = .ok then
        startTransactionAnswered cs entry.payload.startTransactionReq round.startConf
      else [])
  else if entry.action = stopTransactionAction ∨ entry.action = meterValuesAction then
    (round.result, [.call entry round.result])
  else (.failed, [])

/-- One pass of the loop body (lines 392–482), up to the loop condition's read of the
timer (line 484). A success and a failure past `TransactionMessageAttempts` both pop the
head and reset the counter. The single-shot retry timer runs on its own thread: a started
timer may fire during the send, before the pass can re-arm it, and after the pass. -/
def drainRound (tm : TransactionManager) (config : OcppConfig) (round : DrainRound) :
    TransactionManager × List Call :=
  let pass : TransactionManager × List Call :=
    match tm.requestsFifo with
    | [] => (tm, [])
    | entry :: rest =>
      let sent := sendRequest tm.connectors round entry
      let sending := tm.retryTimerThread round.timerFiresDuringSend
      if sent.1 = .ok ∨ tm.requestRetryCount + 1 > config.transactionMessageAttempts then
        ({ sending with requestsFifo := rest, requestRetryCount := 0 },
          .front entry :: sent.2 ++ [.pop entry])
      else if round.connectedAfterFailure then
        ({ sending with
            requestRetryCount := tm.requestRetryCount + 1, requestRetryTimer := true },
          .front entry :: sent.2 ++
            [.isConnected true, .restartTimer (config.transactionMessageRetryInterval * 1000)])
      else
        ({ sending with requestRetryCount := tm.requestRetryCount + 1 },
          .front entry :: sent.2 ++ [.isConnected false])
  (pass.1.retryTimerThread round.timerFiresBeforeCheck, pass.2)

/-- The `do … while` loop of lines 390–484, for at most `fuel` passes; pass `i`
observes `rounds i`. -/
def drainLoop (config : OcppConfig) : Nat → (Nat → DrainRound) → TransactionManager →
    TransactionManager × List Call
  | 0, _, tm => (tm, [])
  | fuel + 1, rounds, tm =>
    let pass := tm.drainRound config (rounds 0)
    if pass.1.requestsFifo ≠ [] ∧ pass.1.requestRetryTimer = false then
      if (rounds 0).connectedAtEnd then
        let rest := drainLoop config fuel (fun i => rounds (i + 1)) pass.1
        (rest.1, pass.2 ++ .isConnected true :: rest.2)
      else (pass.1, pass.2 ++ [.isConnected false])
    else pass

/-- Passes enough for the loop to stop by its own condition. -/
def drainFuel (config : OcppConfig) (tm : TransactionManager) : Nat :=
  tm.requestsFifo.length * (config.transactionMessageAttempts + 1) + 1

/-- The job's loop gets a pass for every entry, and one more. -/
theorem length_lt_drainFuel (config : OcppConfig) (tm : TransactionManager) :
    tm.requestsFifo.length < tm.drainFuel config :=
  Nat.lt_succ_of_le (Nat.le_mul_of_pos_right _ (Nat.succ_pos _))

/-- `TransactionManager::processFifoRequest`, observing the link status `connected` and
the registration status on entry, and `rounds` in the loop. -/
def processFifoRequest (tm : TransactionManager) (config : OcppConfig) (connected : Bool)
    (registrationStatus : RegistrationStatus) (rounds : Nat → DrainRound) :
    TransactionManager × List Call :=
  if connected then
    if registrationStatus = .accepted then
      let loop := drainLoop config (tm.drainFuel config) rounds tm
      (loop.1, .isConnected true :: .getRegistrationStatus .accepted :: loop.2)
    else
      ({ tm with requestRetryTimer := true },
        [.isConnected true, .getRegistrationStatus registrationStatus, .restartTimer 250])
  else (tm, [.isConnected false])

section

variable (config : OcppConfig) (round : DrainRound)

/-! ## One pass -/

theorem drainRound_nil {tm : TransactionManager} (h : tm.requestsFifo = []) :
    tm.drainRound config round = (tm.retryTimerThread round.timerFiresBeforeCheck, []) := by
  simp [drainRound, h]

/-- A pass over a non-empty FIFO: it reads the head, sends it, then pops it, or counts
the failure and reads the link (arming the timer when the link is up). -/
theorem drainRound_cons {tm : TransactionManager} {entry : FifoEntry} {rest : List FifoEntry}
    (h : tm.requestsFifo = entry :: rest) :
    tm.drainRound config round =
      let sent := sendRequest tm.connectors round entry
      let sending := tm.retryTimerThread round.timerFiresDuringSend
      let pass : TransactionManager × List Call :=
        if sent.1 = .ok ∨ tm.requestRetryCount + 1 > config.transactionMessageAttempts then
          ({ sending with requestsFifo := rest, requestRetryCount := 0 },
            .front entry :: sent.2 ++ [.pop entry])
        else if round.connectedAfterFailure then
          ({ sending with
              requestRetryCount := tm.requestRetryCount + 1, requestRetryTimer := true },
            .front entry :: sent.2 ++
              [.isConnected true, .restartTimer (config.transactionMessageRetryInterval * 1000)])
        else
          ({ sending with requestRetryCount := tm.requestRetryCount + 1 },
            .front entry :: sent.2 ++ [.isConnected false])
      (pass.1.retryTimerThread round.timerFiresBeforeCheck, pass.2) := by
  simp only [drainRound, h]

/-- The calls of a pass after the send: a pop, or a read of the link and a re-arm. -/
theorem drainRound_calls {tm : TransactionManager} {entry : FifoEntry} {rest : List FifoEntry}
    (h : tm.requestsFifo = entry :: rest) :
    ∃ tail, (tm.drainRound config round).2 =
        .front entry :: (sendRequest tm.connectors round entry).2 ++ tail ∧
      ∀ c ∈ tail,
        c = .pop entry ∨ (∃ b, c = .isConnected b) ∨ ∃ ms, c = .restartTimer ms := by
  rw [drainRound_cons config round h]
  dsimp only
  split_ifs <;> exact ⟨_, rfl, by simp⟩

theorem mem_startTransactionAnswered {cs : Connectors} {request : StartTransactionReq}
    {response : StartTransactionConf} {c : Call}
    (h : c ∈ startTransactionAnswered cs request response) :
    c = .response (.startTransaction response) ∨
      c = .authentUpdate request.idTag response.idTagInfo ∨
      c = .transactionDeAuthorized request.connectorId := by
  unfold startTransactionAnswered at h
  split_ifs at h <;> simp only [List.mem_cons, List.mem_append, List.mem_singleton,
    List.not_mem_nil, or_false, false_or] at h <;> rcases h with rfl | rfl | rfl <;> simp

theorem mem_sendRequest {cs : Connectors} {entry : FifoEntry} {c : Call}
    (h : c ∈ (sendRequest cs round entry).2) :
    c = .call entry round.result ∨ (∃ r, c = .response r) ∨
      (∃ tag info, c = .authentUpdate tag info) ∨ ∃ id, c = .transactionDeAuthorized id := by
  unfold sendRequest at h
  split_ifs at h <;> simp only [List.mem_cons, List.mem_singleton, List.not_mem_nil, or_false] at h
  · rcases h with rfl | h
    · exact .inl rfl
    · rcases mem_startTransactionAnswered h with rfl | rfl | rfl <;> simp
  all_goals exact .inl h

/-- A send: an unknown action fails with no call; any other is one call on the sender,
followed for a start by the response read, the cache update and the de-authorization. -/
theorem sendRequest_shape (cs : Connectors) (entry : FifoEntry) :
    (¬ entry.Known ∧ sendRequest cs round entry = (.failed, [])) ∨
      entry.Known ∧ ∃ rest,
        (sendRequest cs round entry).2 = .call entry (sendRequest cs round entry).1 :: rest ∧
        ∀ c ∈ rest, (∃ r, c = .response r) ∨ (∃ tag info, c = .authentUpdate tag info) ∨
          ∃ id, c = .transactionDeAuthorized id := by
  unfold sendRequest
  by_cases hstart : entry.action = startTransactionAction
  · rw [if_pos hstart]
    refine .inr ⟨.inl hstart, _, rfl, fun c hc => ?_⟩
    split_ifs at hc
    · rcases mem_startTransactionAnswered hc with rfl | rfl | rfl <;> simp
    · simp at hc
  · rw [if_neg hstart]
    split_ifs with hother
    · exact .inr ⟨.inr hother, [], rfl, by simp⟩
    · exact .inl ⟨fun h => h.elim hstart hother, rfl⟩

theorem drainRound_byDrainer (tm : TransactionManager) {c : Call}
    (h : c ∈ (tm.drainRound config round).2) : c.ByDrainer := by
  cases hfifo : tm.requestsFifo with
  | nil => simp [drainRound_nil config round hfifo] at h
  | cons entry rest =>
    obtain ⟨tail, htail, hmem⟩ := drainRound_calls config round hfifo
    rw [htail] at h
    rcases List.mem_cons.1 h with rfl | h
    · trivial
    rcases List.mem_append.1 h with h | h
    · rcases mem_sendRequest round h with rfl | ⟨_, rfl⟩ | ⟨_, _, rfl⟩ | ⟨_, rfl⟩ <;> trivial
    · rcases hmem c h with rfl | ⟨_, rfl⟩ | ⟨_, rfl⟩ <;> trivial

/-- A pass writes no connector. -/
theorem drainRound_connectors (tm : TransactionManager) :
    (tm.drainRound config round).1.connectors = tm.connectors := by
  cases hfifo : tm.requestsFifo with
  | nil => simp [drainRound_nil config round hfifo]
  | cons entry rest =>
    rw [drainRound_cons config round hfifo]; dsimp only; split_ifs <;> simp

/-- A pass during which the timer does not fire queues no job. -/
theorem drainRound_queuedJobs (tm : TransactionManager) (h₁ : round.timerFiresDuringSend = false)
    (h₂ : round.timerFiresBeforeCheck = false) :
    (tm.drainRound config round).1.queuedJobs = tm.queuedJobs := by
  cases hfifo : tm.requestsFifo with
  | nil => simp [drainRound_nil config round hfifo, h₂]
  | cons entry rest =>
    rw [drainRound_cons config round hfifo]; dsimp only; split_ifs <;> simp [h₁, h₂]

/-- A pass that reads the link up, and after which the timer does not fire, either pops
the head or arms the retry timer. -/
theorem drainRound_progress {tm : TransactionManager} {entry : FifoEntry} {rest : List FifoEntry}
    (h : tm.requestsFifo = entry :: rest) (up : round.connectedAfterFailure = true)
    (quiet : round.timerFiresBeforeCheck = false) :
    (tm.drainRound config round).1.requestsFifo = rest ∨
      (tm.drainRound config round).1.requestRetryTimer = true := by
  rw [drainRound_cons config round h]; dsimp only; split_ifs <;> simp_all

/-- A pass pops the head or leaves the FIFO as it was. -/
theorem drainRound_requestsFifo (tm : TransactionManager) (round : DrainRound) :
    (tm.drainRound config round).1.requestsFifo = tm.requestsFifo ∨
      (tm.drainRound config round).1.requestsFifo = tm.requestsFifo.tail := by
  cases hfifo : tm.requestsFifo with
  | nil => simp [drainRound_nil config round hfifo, hfifo]
  | cons entry rest =>
    rw [drainRound_cons config round hfifo]; dsimp only; split_ifs <;> simp [hfifo]

theorem drainRound_mem_requestsFifo {tm : TransactionManager} {round : DrainRound}
    {e : FifoEntry} (h : e ∈ (tm.drainRound config round).1.requestsFifo) :
    e ∈ tm.requestsFifo := by
  rcases drainRound_requestsFifo config tm round with hfifo | hfifo <;> rw [hfifo] at h
  · exact h
  · exact List.mem_of_mem_tail h

/-! ## The loop and the invocation -/

/-- A relation between the manager and the calls made so far that every pass keeps, and
that the drainer's polls keep, holds after the whole loop. -/
theorem drainLoop_preserves (P : TransactionManager → List Call → Prop)
    (poll : ∀ tm t c, c.Polls → P tm t → P tm (t ++ [c])) :
    ∀ fuel (rounds : Nat → DrainRound), (∀ tm i t, P tm t →
      P (tm.drainRound config (rounds i)).1 (t ++ (tm.drainRound config (rounds i)).2)) →
    ∀ tm t, P tm t →
      P (drainLoop config fuel rounds tm).1 (t ++ (drainLoop config fuel rounds tm).2)
  | 0, _, _, _, _, h => by simpa [drainLoop] using h
  | fuel + 1, rounds, step, tm, t, h => by
    have pass := step tm 0 t h
    simp only [drainLoop]
    split_ifs
    · simpa using drainLoop_preserves P poll fuel _ (fun tm i t h => step tm (i + 1) t h) _ _
        (poll _ _ (.isConnected true) trivial pass)
    · simpa using poll _ _ (.isConnected false) trivial pass
    · exact pass

theorem drainLoop_byDrainer : ∀ fuel rounds tm {c : Call},
    c ∈ (drainLoop config fuel rounds tm).2 → c.ByDrainer
  | 0, _, _, _, h => by simp [drainLoop] at h
  | fuel + 1, rounds, tm, c, h => by
    simp only [drainLoop] at h
    split_ifs at h
    · rcases List.mem_append.1 h with h | h
      · exact drainRound_byDrainer config _ tm h
      rcases List.mem_cons.1 h with rfl | h
      · trivial
      · exact drainLoop_byDrainer fuel _ _ h
    · rcases List.mem_append.1 h with h | h
      · exact drainRound_byDrainer config _ tm h
      · simp at h; subst h; trivial
    · exact drainRound_byDrainer config _ tm h

/-- A relation that every pass of `rounds` keeps, and that the drainer's polls and arming
the timer keep, holds after a whole invocation observing `rounds`. -/
theorem processFifoRequest_preserves (P : TransactionManager → List Call → Prop)
    (rounds : Nat → DrainRound) (step : ∀ tm i t, P tm t →
      P (tm.drainRound config (rounds i)).1 (t ++ (tm.drainRound config (rounds i)).2))
    (poll : ∀ tm t c, c.Polls → P tm t → P tm (t ++ [c]))
    (arm : ∀ tm t, P tm t → P { tm with requestRetryTimer := true } t) (tm : TransactionManager)
    (connected : Bool) (status : RegistrationStatus) {t : List Call} (h : P tm t) :
    P (tm.processFifoRequest config connected status rounds).1
      (t ++ (tm.processFifoRequest config connected status rounds).2) := by
  have polls : ∀ cs tm t, (∀ c ∈ cs, Call.Polls c) → P tm t → P tm (t ++ cs) := by
    intro cs
    induction cs with
    | nil => simp
    | cons c cs ih =>
      intro tm t hcs h
      simpa using ih tm _ (fun c' hc' => hcs c' (.tail c hc')) (poll tm t c (hcs c (.head cs)) h)
  unfold processFifoRequest
  split_ifs
  · simpa using drainLoop_preserves config P poll _ rounds step tm _
      (polls [.isConnected true, .getRegistrationStatus .accepted] tm t (by simp [Call.Polls]) h)
  · exact polls _ _ _ (by simp [Call.Polls]) (arm tm t h)
  · exact polls _ _ _ (by simp [Call.Polls]) h

theorem processFifoRequest_byDrainer (tm : TransactionManager) (connected : Bool)
    (status : RegistrationStatus) (rounds : Nat → DrainRound) {c : Call}
    (h : c ∈ (tm.processFifoRequest config connected status rounds).2) : c.ByDrainer := by
  unfold processFifoRequest at h
  split_ifs at h
  · rcases List.mem_cons.1 h with rfl | h
    · trivial
    rcases List.mem_cons.1 h with rfl | h
    · trivial
    · exact drainLoop_byDrainer config _ _ _ h
  · simp at h; rcases h with rfl | rfl | rfl <;> trivial
  · simp at h; subst h; trivial

/-- A drainer that reads the link up throughout, and whose armed timer does not fire
before the loop condition reads it, stops with the FIFO empty or the retry timer armed,
within one pass more than the FIFO has entries. -/
theorem drainLoop_stops : ∀ (fuel : Nat) (rounds : Nat → DrainRound) (tm : TransactionManager),
    (∀ i, (rounds i).connectedAfterFailure = true ∧ (rounds i).connectedAtEnd = true ∧
      (rounds i).timerFiresBeforeCheck = false) →
    tm.requestsFifo.length < fuel →
    (drainLoop config fuel rounds tm).1.requestsFifo = [] ∨
      (drainLoop config fuel rounds tm).1.requestRetryTimer = true
  | 0, _, _, _, h => absurd h (Nat.not_lt_zero _)
  | fuel + 1, rounds, tm, up, h => by
    simp only [drainLoop]
    split_ifs with hcont hend
    · refine drainLoop_stops fuel _ _ (fun i => up (i + 1)) ?_
      cases hfifo : tm.requestsFifo with
      | nil => simp [drainRound_nil config _ hfifo, hfifo] at hcont
      | cons entry rest =>
        rcases drainRound_progress config _ hfifo (up 0).1 (up 0).2.2 with hrest | harmed
        · rw [hfifo, List.length_cons] at h; rw [hrest]; omega
        · simp [harmed] at hcont
    · exact absurd (up 0).2.1 hend
    · by_cases hempty : (tm.drainRound config (rounds 0)).1.requestsFifo = []
      · exact .inl hempty
      · exact .inr (by simpa [hempty] using hcont)

/-! ## A refused queued start -/

theorem sendRequest_startTransaction {cs : Connectors} {entry : FifoEntry}
    (h : entry.action = startTransactionAction) :
    sendRequest cs round entry = (round.result, .call entry round.result ::
      if round.result = .ok then
        startTransactionAnswered cs entry.payload.startTransactionReq round.startConf
      else []) := by
  rw [sendRequest, if_pos h]

/-- A pass over a queued `StartTransaction` de-authorizes at most once: the request's
connector, exactly when the send succeeded, the answer is a refusal, and the lookup
finds a provisional transaction with the request's id tag. -/
theorem drainRound_deAuthorized_startTransaction {tm : TransactionManager} {entry : FifoEntry}
    {rest : List FifoEntry} (hfifo : tm.requestsFifo = entry :: rest)
    (haction : entry.action = startTransactionAction) :
    (tm.drainRound config round).2.filterMap Call.deAuthorized? =
      if round.result = .ok ∧ round.startConf.idTagInfo.status ≠ .accepted ∧
          tm.connectors.holdsProvisional entry.payload.startTransactionReq.connectorId
            entry.payload.startTransactionReq.idTag = true
      then [entry.payload.startTransactionReq.connectorId] else [] := by
  obtain ⟨tail, htail, hmem⟩ := drainRound_calls config round hfifo
  have quiet : ∀ c ∈ tail, c.deAuthorized? = none := by
    intro c hc; rcases hmem c hc with rfl | ⟨_, rfl⟩ | ⟨_, rfl⟩ <;> rfl
  rw [htail, sendRequest_startTransaction round haction]
  cases round.result <;>
    simp [List.filterMap_append, List.filterMap_eq_nil_iff.2 quiet, Call.deAuthorized?,
      startTransactionAnswered]
  split_ifs <;> simp_all [Call.deAuthorized?]

/-- A pass de-authorizes only for a queued start at the head, and only the connector
of that start, where the lookup finds a provisional transaction with the start's tag. -/
theorem drainRound_deAuthorized {tm : TransactionManager} {id : Nat}
    (h : id ∈ (tm.drainRound config round).2.filterMap Call.deAuthorized?) :
    ∃ entry ∈ tm.requestsFifo, entry.action = startTransactionAction ∧
      entry.payload.startTransactionReq.connectorId = id ∧
      tm.connectors.holdsProvisional id entry.payload.startTransactionReq.idTag = true := by
  cases hfifo : tm.requestsFifo with
  | nil => simp [drainRound_nil config round hfifo] at h
  | cons entry rest =>
    by_cases hstart : entry.action = startTransactionAction
    · rw [drainRound_deAuthorized_startTransaction config round hfifo hstart] at h
      split_ifs at h with hde
      · obtain rfl := List.mem_singleton.1 h
        exact ⟨entry, List.mem_cons_self _ _, hstart, rfl, hde.2.2⟩
      · simp at h
    · obtain ⟨tail, htail, hmem⟩ := drainRound_calls config round hfifo
      have send : (sendRequest tm.connectors round entry).2.filterMap Call.deAuthorized? = [] := by
        unfold sendRequest
        rw [if_neg hstart]
        split_ifs <;> rfl
      have quiet : tail.filterMap Call.deAuthorized? = [] :=
        List.filterMap_eq_nil_iff.2 fun c hc => by
          rcases hmem c hc with rfl | ⟨_, rfl⟩ | ⟨_, rfl⟩ <;> rfl
      simp [htail, send, quiet, Call.deAuthorized?] at h

/-- A job de-authorizes only for starts queued when it began, where the lookup found a
provisional transaction with the start's tag. -/
theorem processFifoRequest_deAuthorized (tm : TransactionManager) (connected : Bool)
    (status : RegistrationStatus) (rounds : Nat → DrainRound) {id : Nat}
    (h : id ∈ (tm.processFifoRequest config connected status rounds).2.filterMap
      Call.deAuthorized?) :
    ∃ entry ∈ tm.requestsFifo, entry.action = startTransactionAction ∧
      entry.payload.startTransactionReq.connectorId = id ∧
      tm.connectors.holdsProvisional id entry.payload.startTransactionReq.idTag = true := by
  have kept := processFifoRequest_preserves config
    (fun tm' t => tm'.connectors = tm.connectors ∧ (∀ e ∈ tm'.requestsFifo, e ∈ tm.requestsFifo) ∧
      ∀ id ∈ t.filterMap Call.deAuthorized?, ∃ entry ∈ tm.requestsFifo,
        entry.action = startTransactionAction ∧
        entry.payload.startTransactionReq.connectorId = id ∧
        tm.connectors.holdsProvisional id entry.payload.startTransactionReq.idTag = true)
    rounds (fun tm' i t ⟨hconn, hfifo, ht⟩ => by
      refine ⟨(drainRound_connectors config _ tm').trans hconn,
        fun e he => hfifo e (drainRound_mem_requestsFifo config he), fun id hid => ?_⟩
      rcases List.mem_append.1 ((List.filterMap_append _ _ _).symm ▸ hid) with hid | hid
      · exact ht id hid
      · obtain ⟨entry, hentry, haction, hid', hprov⟩ := drainRound_deAuthorized config _ hid
        exact ⟨entry, hfifo entry hentry, haction, hid', hconn ▸ hprov⟩)
    (fun _ t c hc ⟨hconn, hfifo, ht⟩ => ⟨hconn, hfifo, fun id hid => ht id (by
      have quiet : c.deAuthorized? = none := by cases c <;> first | rfl | exact hc.elim
      simpa [quiet] using hid)⟩)
    (fun _ _ h => h) tm connected status (t := []) ⟨rfl, fun _ he => he, by simp⟩
  exact kept.2.2 id (by simpa using h)

end

end TransactionManager

end Ocpp
