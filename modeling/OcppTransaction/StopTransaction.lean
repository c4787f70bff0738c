import OcppTransaction.StartTransaction

/-!
# Local stop

`TransactionManager::stopTransaction` (source lines 223–282). The connector is reset
before the request is sent (spec §4.3: the session is physically over), and the
request goes through the sender with FIFO fallback whatever the FIFO holds.

* `stopTransaction_of_open` unfolds a stop of an open transaction; the two guards
  return `false` with nothing done (`stopTransaction_of_none`, `_of_idle`).
* `stopTransaction_contract`: a stop of an open transaction emits one `StopTransaction`
  for it, sent or queued, resets its connector whatever the send's outcome and writes
  no other; a stop of anything else does nothing.
* `stopTransaction_congr`: what a stop answers and asks depends on its own connector only;
  in particular (`stopTransaction_calls_of_requestsFifo`) not on the FIFO, so a stop is
  sent directly even while its session's start is queued.
-/

namespace Ocpp

/-- What `stopTransaction` reads from its collaborators and the clock. -/
structure StopEnv where
  /-- `IChargePointEventsHandler::getTxStartStopMeterValue`. -/
  meterStop : Int
  /-- `DateTime::now()`. -/
  timestamp : DateTime
  /-- `IMeterValuesManager::getTxStopMeterValues`. -/
  txStopMeterValues : List MeterValue
  result : CallResult
  /-- The response, read only when the call succeeded. -/
  conf : StopTransactionConf

namespace TransactionManager

/-- Lines 238–247: the request; the id tag is omitted when empty. -/
def stopRequest (env : StopEnv) (connector : Connector) (idTag : String) (reason : Reason) :
    StopTransactionReq :=
  { idTag := if idTag.isEmpty then none else some idTag, meterStop := env.meterStop,
    timestamp := env.timestamp, transactionId := connector.transactionId, reason := reason,
    transactionData := env.txStopMeterValues }

/-- Lines 250–256: reset the transaction fields of connector `connectorId`. -/
def resetTransaction (tm : TransactionManager) (connectorId : Nat) : TransactionManager :=
  { tm with connectors := tm.connectors.modify connectorId Connector.resetTransaction }

/-- Lines 265–272: a delivered send's response is read, and the cache is updated when
the response carries an `idTagInfo`. -/
def stopOutcome (env : StopEnv) (idTag : String) : List Call :=
  match env.result with
  | .ok => .response (.stopTransaction env.conf) ::
      (env.conf.idTagInfo.map (Call.authentUpdate idTag)).toList
  | .failed => []

/-- `TransactionManager::stopTransaction`: whether a transaction was stopped, the new
state, and the calls made. -/
def stopTransaction (tm : TransactionManager) (env : StopEnv) (connectorId : Nat)
    (idTag : String) (reason : Reason) : Bool × TransactionManager × List Call :=
  match tm.connectors.getConnector connectorId with
  | none => (false, tm, [])
  | some connector =>
    if connector.transactionId = 0 then (false, tm, []) else
    let sent := (tm.resetTransaction connectorId).callWithFifo
      (stopRequest env connector idTag reason).entry env.result
    (true, sent.1,
      .stopSampledMeterValues connectorId :: sent.2 ++ stopOutcome env idTag ++
        [.clearTxProfiles connectorId])

section

variable (tm : TransactionManager) (env : StopEnv) (connectorId : Nat) (idTag : String)
  (reason : Reason) {connector : Connector}

theorem stopTransaction_of_none (h : tm.connectors.getConnector connectorId = none) :
    tm.stopTransaction env connectorId idTag reason = (false, tm, []) := by
  simp [stopTransaction, h]

theorem stopTransaction_of_idle (hc : tm.connectors.getConnector connectorId = some connector)
    (h : connector.transactionId = 0) :
    tm.stopTransaction env connectorId idTag reason = (false, tm, []) := by
  simp [stopTransaction, hc, h]

theorem stopTransaction_of_open (hc : tm.connectors.getConnector connectorId = some connector)
    (h : connector.transactionId ≠ 0) :
    tm.stopTransaction env connectorId idTag reason =
      let sent := (tm.resetTransaction connectorId).callWithFifo
        (stopRequest env connector idTag reason).entry env.result
      (true, sent.1, .stopSampledMeterValues connectorId :: sent.2 ++ stopOutcome env idTag ++
        [.clearTxProfiles connectorId]) := by
  simp [stopTransaction, hc, h]

theorem mem_stopOutcome {c : Call} (h : c ∈ stopOutcome env idTag) :
    c = .response (.stopTransaction env.conf) ∨ ∃ info, c = .authentUpdate idTag info := by
  unfold stopOutcome at h
  split at h
  · cases hinfo : env.conf.idTagInfo <;> simp only [hinfo, Option.map_some', Option.map_none',
      Option.toList_some, Option.toList_none, List.mem_cons, List.mem_singleton,
      List.not_mem_nil, or_false] at h
    · exact .inl h
    · exact h.imp_right fun h => ⟨_, h⟩
  · cases h

/-- A stop reports `true` exactly when the connector exists and holds a transaction. -/
theorem stopTransaction_fst :
    (tm.stopTransaction env connectorId idTag reason).1 = true ↔
      ∃ connector, tm.connectors.getConnector connectorId = some connector ∧
        connector.transactionId ≠ 0 := by
  cases hc : tm.connectors.getConnector connectorId with
  | none => simp [stopTransaction_of_none _ _ _ _ _ hc]
  | some connector =>
    by_cases h : connector.transactionId = 0
    · simp [stopTransaction_of_idle _ _ _ _ _ hc h, h]
    · simp [stopTransaction_of_open _ _ _ _ _ hc h, h]

theorem stopTransaction_connectors :
    (tm.stopTransaction env connectorId idTag reason).2.1.connectors =
      if (tm.stopTransaction env connectorId idTag reason).1 then
        tm.connectors.modify connectorId Connector.resetTransaction
      else tm.connectors := by
  cases hc : tm.connectors.getConnector connectorId with
  | none => simp [stopTransaction_of_none _ _ _ _ _ hc]
  | some connector =>
    by_cases h : connector.transactionId = 0
    · simp [stopTransaction_of_idle _ _ _ _ _ hc h]
    · simp [stopTransaction_of_open _ _ _ _ _ hc h, resetTransaction]

theorem stopTransaction_appendsOnly :
    AppendsOnly tm (tm.stopTransaction env connectorId idTag reason).2.1
      (tm.stopTransaction env connectorId idTag reason).2.2 := by
  have quiet : AppendsOnly tm tm [] := .of_quiet rfl rfl rfl rfl (by simp)
  cases hc : tm.connectors.getConnector connectorId with
  | none => rw [stopTransaction_of_none _ _ _ _ _ hc]; exact quiet
  | some connector =>
    by_cases h : connector.transactionId = 0
    · rw [stopTransaction_of_idle _ _ _ _ _ hc h]; exact quiet
    · rw [stopTransaction_of_open _ _ _ _ _ hc h]
      have sampling : AppendsOnly tm (tm.resetTransaction connectorId)
          [.stopSampledMeterValues connectorId] :=
        .of_quiet rfl rfl rfl rfl (by simp [Call.pushed?, Call.Drains])
      have outcome (tm' : TransactionManager) :
          AppendsOnly tm' tm' (stopOutcome env idTag ++ [.clearTxProfiles connectorId]) :=
        .of_quiet rfl rfl rfl rfl fun c hc => by
          rcases List.mem_append.1 hc with hc | hc
          · rcases mem_stopOutcome env idTag hc with rfl | ⟨_, rfl⟩ <;>
              simp [Call.pushed?, Call.Drains]
          · simp at hc; simp [hc, Call.pushed?, Call.Drains]
      simpa only [List.cons_append, List.singleton_append, List.append_assoc] using
        (sampling.trans (.callWithFifo _ _ _)).trans (outcome _)

/-- Every call a stop makes: the sampling stop, the send and its queueing, the response
read and the cache update, and the profile clearing, all for this connector and only
when it stops. -/
theorem mem_stopTransaction {c : Call}
    (hc : c ∈ (tm.stopTransaction env connectorId idTag reason).2.2) :
    (tm.stopTransaction env connectorId idTag reason).1 = true ∧
      (c = .stopSampledMeterValues connectorId ∨ (∃ e r, c = .callWithFifo e r) ∨
        (∃ e, c = .push e) ∨ c = .response (.stopTransaction env.conf) ∨
        (∃ info, c = .authentUpdate idTag info) ∨ c = .clearTxProfiles connectorId) := by
  cases hconn : tm.connectors.getConnector connectorId with
  | none => simp [stopTransaction_of_none _ _ _ _ _ hconn] at hc
  | some connector =>
    by_cases h : connector.transactionId = 0
    · simp [stopTransaction_of_idle _ _ _ _ _ hconn h] at hc
    · rw [stopTransaction_of_open _ _ _ _ _ hconn h] at hc ⊢
      refine ⟨rfl, ?_⟩
      simp only [List.cons_append, List.mem_cons, List.mem_append, List.mem_singleton,
        List.not_mem_nil, or_false] at hc
      rcases hc with hc | (hc | hc) | hc
      · exact .inl hc
      · rcases mem_callWithFifo hc with rfl | rfl <;> simp
      · rcases mem_stopOutcome env idTag hc with rfl | h <;> simp [h]
      · exact .inr (.inr (.inr (.inr (.inr hc))))

/-- A stop that returns `true` turns sampled meter values off for its connector. -/
theorem stopSampledMeterValues_mem
    (h : (tm.stopTransaction env connectorId idTag reason).1 = true) :
    .stopSampledMeterValues connectorId ∈
      (tm.stopTransaction env connectorId idTag reason).2.2 := by
  obtain ⟨connector, hc, hopen⟩ := (stopTransaction_fst tm env connectorId idTag reason).1 h
  simp [stopTransaction_of_open _ _ _ _ _ hc hopen]

theorem stopTransaction_emitted (hc : tm.connectors.getConnector connectorId = some connector)
    (h : connector.transactionId ≠ 0) :
    (tm.stopTransaction env connectorId idTag reason).2.2.filterMap Call.emitted? =
      [(stopRequest env connector idTag reason).entry] := by
  have outcome : (stopOutcome env idTag).filterMap Call.emitted? = [] :=
    List.filterMap_eq_nil_iff.2 fun c hc => by
      rcases mem_stopOutcome env idTag hc with rfl | ⟨_, rfl⟩ <;> rfl
  simp [stopTransaction_of_open _ _ _ _ _ hc h, outcome, callWithFifo_emitted, Call.emitted?]

/-- The contract of a local stop (spec §4.3): it reports `true` exactly when the
connector holds a transaction. It then emits one `StopTransaction` for that
transaction, sent or else queued. It resets the connector whatever the send's outcome,
stops sampling, clears the transaction's profiles and writes no other connector. A stop
that reports `false` does nothing. -/
theorem stopTransaction_contract :
    ((tm.stopTransaction env connectorId idTag reason).1 = true ↔
      ∃ connector, tm.connectors.getConnector connectorId = some connector ∧
        connector.transactionId ≠ 0) ∧
    (∀ connector, tm.connectors.getConnector connectorId = some connector →
      connector.transactionId ≠ 0 →
      ∃ request : StopTransactionReq,
        (tm.stopTransaction env connectorId idTag reason).2.2.filterMap Call.emitted? =
          [request.entry] ∧
        (tm.stopTransaction env connectorId idTag reason).2.1.requestsFifo =
          tm.requestsFifo ++ (if env.result = .ok then [] else [request.entry]) ∧
        request.transactionId = connector.transactionId ∧ request.reason = reason ∧
        request.idTag = (if idTag.isEmpty then none else some idTag) ∧
        (tm.stopTransaction env connectorId idTag reason).2.1.connectors.getConnector
            connectorId =
          some
            { connector with transactionId := 0, transactionIdTag := "", transactionStart := 0 } ∧
        (∀ id, id ≠ connectorId →
          (tm.stopTransaction env connectorId idTag reason).2.1.connectors.getConnector id =
            tm.connectors.getConnector id) ∧
        Call.stopSampledMeterValues connectorId ∈
          (tm.stopTransaction env connectorId idTag reason).2.2 ∧
        Call.clearTxProfiles connectorId ∈ (tm.stopTransaction env connectorId idTag reason).2.2) ∧
    ((tm.stopTransaction env connectorId idTag reason).1 = false →
      tm.stopTransaction env connectorId idTag reason = (false, tm, [])) := by
  refine ⟨stopTransaction_fst tm env connectorId idTag reason, fun connector hc hopen => ?_,
    fun h => ?_⟩
  · have sampling := stopSampledMeterValues_mem tm env connectorId idTag reason
      ((stopTransaction_fst tm env connectorId idTag reason).2 ⟨connector, hc, hopen⟩)
    rw [stopTransaction_of_open _ _ _ _ _ hc hopen] at sampling ⊢
    refine ⟨stopRequest env connector idTag reason, ?_, ?_, rfl, rfl, rfl, ?_, fun id hid => ?_,
      sampling, by simp⟩
    · simpa [stopTransaction_of_open _ _ _ _ _ hc hopen] using
        stopTransaction_emitted tm env connectorId idTag reason hc hopen
    · cases env.result <;> simp [callWithFifo, resetTransaction]
    · simp [resetTransaction, hc, Connector.resetTransaction]
    · simp [resetTransaction, Connectors.getConnector_modify_of_ne _ _ (Ne.symm hid)]
  · cases hc : tm.connectors.getConnector connectorId with
    | none => exact stopTransaction_of_none _ _ _ _ _ hc
    | some connector =>
      by_cases hopen : connector.transactionId = 0
      · exact stopTransaction_of_idle _ _ _ _ _ hc hopen
      · rw [stopTransaction_of_open _ _ _ _ _ hc hopen] at h; cases h

/-- What a stop answers and asks of its collaborators depends on its own connector
only. -/
theorem stopTransaction_congr {tm' : TransactionManager}
    (hc : tm.connectors.getConnector connectorId = tm'.connectors.getConnector connectorId) :
    (tm.stopTransaction env connectorId idTag reason).1 =
        (tm'.stopTransaction env connectorId idTag reason).1 ∧
      (tm.stopTransaction env connectorId idTag reason).2.2 =
        (tm'.stopTransaction env connectorId idTag reason).2.2 := by
  unfold stopTransaction
  rw [hc]
  split
  · exact ⟨rfl, rfl⟩
  split
  · exact ⟨rfl, rfl⟩
  · refine ⟨rfl, ?_⟩
    dsimp only
    rw [callWithFifo_snd _ _ _ (tm'.resetTransaction connectorId)]

/-- The calls a stop makes do not read the FIFO. -/
theorem stopTransaction_calls_of_requestsFifo (requestsFifo : List FifoEntry) :
    ({ tm with requestsFifo := requestsFifo }.stopTransaction env connectorId idTag reason).2.2 =
      (tm.stopTransaction env connectorId idTag reason).2.2 :=
  (stopTransaction_congr { tm with requestsFifo := requestsFifo } env connectorId idTag reason
    (show _ = tm.connectors.getConnector connectorId from rfl)).2

end

end TransactionManager

end Ocpp
