import OcppTransaction.Manager

/-!
# Local start

`TransactionManager::startTransaction` (source lines 102–220), cut at the points the
source comments mark: the reservation check (`checkReservation`), the send with FIFO
fallback, the adopted status (`startOutcome`), and then either the connector update or
the compensating `StopTransaction`.

* `startTransaction_of_allowed` unfolds a call that passed the three guards; the
  other guards return at once (`startTransaction_of_zero`, `_of_none`, `_of_refused`),
  so a call that returns `Accepted` passed all three (`startTransaction_guarded`).
* `startTransaction_connectors` and `startTransaction_appendsOnly` say what a call can
  change, `mem_startTransaction` every call it makes, and `startTransaction_congr` what it
  reads: its own connector and the charge point's reservation.
-/

namespace Ocpp

/-- What `startTransaction` reads from its collaborators and the clock. -/
structure StartEnv where
  /-- `ReservationManager::isTransactionAllowed`. -/
  isTransactionAllowed : Nat → String → AuthorizationStatus
  /-- `IChargePointEventsHandler::getTxStartStopMeterValue`. -/
  meterStart : Int
  /-- `DateTime::now()` when the request is built. -/
  timestamp : DateTime
  /-- `DateTime::now()` when the connector is updated. -/
  transactionStart : DateTime
  startResult : CallResult
  /-- The response, read only when the call succeeded. -/
  startConf : StartTransactionConf
  /-- The outcome of the compensating `StopTransaction` call. -/
  stopResult : CallResult

/-- Lines 124–153: the reservation id stamped on the request, and the reservation
cleared. A charge-point reservation also clears `connectorId`, as the source does. -/
def checkReservation (config : OcppConfig)
    (isTransactionAllowed : Nat → String → AuthorizationStatus) (cs : Connectors)
    (connector : Connector) (connectorId : Nat) (idTag : String) :
    Option Int × List Call :=
  if connector.status = .reserved then
    (some connector.reservationId, [.clearReservation connectorId])
  else if config.reserveConnectorZeroSupported ∧ cs.chargePoint.status = .reserved ∧
      isTransactionAllowed 0 idTag = .accepted then
    (some cs.chargePoint.reservationId, [.clearReservation connectorId])
  else (none, [])

/-- Lines 162–178: the status adopted, the transaction id, and the cache update. A
delivered send's response is read; a failed send authorizes the transaction with the
provisional id `-1`. -/
def startOutcome (env : StartEnv) (idTag : String) : AuthorizationStatus × Int × List Call :=
  match env.startResult with
  | .ok => (env.startConf.idTagInfo.status, env.startConf.transactionId,
      .response (.startTransaction env.startConf) ::
        if env.startConf.idTagInfo.status ≠ .concurrentTx then
          [.authentUpdate idTag env.startConf.idTagInfo] else [])
  | .failed => (.accepted, -1, [])

/-- Lines 207–211: the `StopTransaction` that closes a refused start's transaction id. -/
def StartTransactionReq.compensatingStop (request : StartTransactionReq) (transactionId : Int) :
    StopTransactionReq :=
  { idTag := none, meterStop := request.meterStart, timestamp := request.timestamp,
    transactionId := transactionId, reason := .deAuthorized, transactionData := [] }

theorem mem_checkReservation {config : OcppConfig}
    {allowed : Nat → String → AuthorizationStatus} {cs : Connectors} {connector : Connector}
    {connectorId : Nat} {idTag : String} {c : Call}
    (h : c ∈ (checkReservation config allowed cs connector connectorId idTag).2) :
    c = .clearReservation connectorId := by
  unfold checkReservation at h; split_ifs at h <;> simp_all

/-- The check stamps a reservation id exactly when it clears a reservation, and it
clears the one of `connectorId` in both of its branches. -/
theorem checkReservation_snd {config : OcppConfig}
    {allowed : Nat → String → AuthorizationStatus} {cs : Connectors} {connector : Connector}
    {connectorId : Nat} {idTag : String} :
    (checkReservation config allowed cs connector connectorId idTag).2 =
      if (checkReservation config allowed cs connector connectorId idTag).1.isSome then
        [.clearReservation connectorId] else [] := by
  unfold checkReservation; split_ifs <;> simp_all

/-- The check reads the whole charge point's record only for its reservation. -/
theorem checkReservation_congr {config : OcppConfig}
    {allowed : Nat → String → AuthorizationStatus} {cs cs' : Connectors} {connector : Connector}
    {connectorId : Nat} {idTag : String}
    (hstatus : cs.chargePoint.status = cs'.chargePoint.status)
    (hreservation : cs.chargePoint.reservationId = cs'.chargePoint.reservationId) :
    checkReservation config allowed cs connector connectorId idTag =
      checkReservation config allowed cs' connector connectorId idTag := by
  simp only [checkReservation, hstatus, hreservation]

theorem mem_startOutcome {env : StartEnv} {idTag : String} {c : Call}
    (h : c ∈ (startOutcome env idTag).2.2) :
    c = .response (.startTransaction env.startConf) ∨
      c = .authentUpdate idTag env.startConf.idTagInfo := by
  unfold startOutcome at h; split at h <;> (try split_ifs at h) <;> simp_all

namespace TransactionManager

/-- The request built at lines 118–122, with the reservation id of lines 124–153. -/
def startRequest (env : StartEnv) (connectorId : Nat) (idTag : String)
    (reservationId : Option Int) : StartTransactionReq :=
  { connectorId := connectorId, idTag := idTag, meterStart := env.meterStart,
    reservationId := reservationId, timestamp := env.timestamp }

/-- Lines 185–191: record the accepted transaction on connector `connectorId`. -/
def recordTransaction (tm : TransactionManager) (connectorId : Nat) (transactionId : Int)
    (start : DateTime) (idTag : String) : TransactionManager :=
  { tm with
    connectors := tm.connectors.modify connectorId (·.setTransaction transactionId start idTag) }

/-- Lines 117–214: a start the three guards let through. The reservation is handled,
the request sent with FIFO fallback, and the adopted status either records the
transaction on the connector or triggers the compensating `StopTransaction`. -/
def sendStartTransaction (tm : TransactionManager) (config : OcppConfig) (env : StartEnv)
    (connector : Connector) (connectorId : Nat) (idTag : String) :
    AuthorizationStatus × TransactionManager × List Call :=
  let reservation :=
    checkReservation config env.isTransactionAllowed tm.connectors connector connectorId idTag
  let request := startRequest env connectorId idTag reservation.1
  let sent := tm.callWithFifo request.entry env.startResult
  let outcome := startOutcome env idTag
  if outcome.1 = .accepted then
    (.accepted, sent.1.recordTransaction connectorId outcome.2.1 env.transactionStart idTag,
      reservation.2 ++ sent.2 ++ outcome.2.2 ++
        [.assignPendingTxProfiles connectorId outcome.2.1, .startSampledMeterValues connectorId])
  else
    let stop := sent.1.callWithFifo (request.compensatingStop outcome.2.1).entry env.stopResult
    (outcome.1, stop.1, reservation.2 ++ sent.2 ++ outcome.2.2 ++ stop.2)

/-- `TransactionManager::startTransaction`: the returned status, the new state, and the
calls made. -/
def startTransaction (tm : TransactionManager) (config : OcppConfig) (env : StartEnv)
    (connectorId : Nat) (idTag : String) : AuthorizationStatus × TransactionManager × List Call :=
  if connectorId = 0 then (.invalid, tm, []) else
  match tm.connectors.getConnector connectorId with
  | none => (.invalid, tm, [])
  | some connector =>
    if env.isTransactionAllowed connectorId idTag ≠ .accepted then
      (env.isTransactionAllowed connectorId idTag, tm, [])
    else tm.sendStartTransaction config env connector connectorId idTag

/-! ## One lemma per exit -/

section

variable (tm : TransactionManager) (config : OcppConfig) (env : StartEnv) (connectorId : Nat)
  (idTag : String) (connector : Connector)

theorem startTransaction_of_zero : tm.startTransaction config env 0 idTag = (.invalid, tm, []) :=
  rfl

theorem startTransaction_of_none (h : tm.connectors.getConnector connectorId = none) :
    tm.startTransaction config env connectorId idTag = (.invalid, tm, []) := by
  simp [startTransaction, h]

theorem startTransaction_of_refused (h0 : connectorId ≠ 0)
    (hc : tm.connectors.getConnector connectorId = some connector)
    (h : env.isTransactionAllowed connectorId idTag ≠ .accepted) :
    tm.startTransaction config env connectorId idTag =
      (env.isTransactionAllowed connectorId idTag, tm, []) := by
  simp [startTransaction, h0, hc, h]

theorem startTransaction_of_allowed (h0 : connectorId ≠ 0)
    (hc : tm.connectors.getConnector connectorId = some connector)
    (h : env.isTransactionAllowed connectorId idTag = .accepted) :
    tm.startTransaction config env connectorId idTag =
      tm.sendStartTransaction config env connector connectorId idTag := by
  simp [startTransaction, h0, hc, h]

/-- The status a start that passed the guards returns is the one it adopted. -/
theorem sendStartTransaction_fst :
    (tm.sendStartTransaction config env connector connectorId idTag).1 =
      (startOutcome env idTag).1 := by
  by_cases h : (startOutcome env idTag).1 = .accepted <;> simp [sendStartTransaction, h]

/-- A start returns `Accepted` only past the three guards. -/
theorem startTransaction_guarded
    (h : (tm.startTransaction config env connectorId idTag).1 = .accepted) :
    connectorId ≠ 0 ∧ ∃ connector, tm.connectors.getConnector connectorId = some connector ∧
      env.isTransactionAllowed connectorId idTag = .accepted := by
  by_cases h0 : connectorId = 0
  · subst h0; simp [startTransaction_of_zero] at h
  cases hc : tm.connectors.getConnector connectorId with
  | none => simp [startTransaction_of_none _ _ _ _ _ hc] at h
  | some connector =>
    refine ⟨h0, connector, rfl, by_contra fun hrefused => hrefused ?_⟩
    rwa [startTransaction_of_refused _ _ _ _ _ connector h0 hc hrefused] at h

theorem startOutcome_of_failed (h : env.startResult = .failed) :
    startOutcome env idTag = (.accepted, -1, []) := by
  simp [startOutcome, h]

/-- What a start answers and asks of its collaborators depends on its own connector and
on the charge point's reservation only: not on the FIFO, the drainer, or any other
connector. -/
theorem startTransaction_congr {tm' : TransactionManager}
    (hc : tm.connectors.getConnector connectorId = tm'.connectors.getConnector connectorId)
    (hstatus : tm.connectors.chargePoint.status = tm'.connectors.chargePoint.status)
    (hreservation :
      tm.connectors.chargePoint.reservationId = tm'.connectors.chargePoint.reservationId) :
    (tm.startTransaction config env connectorId idTag).1 =
        (tm'.startTransaction config env connectorId idTag).1 ∧
      (tm.startTransaction config env connectorId idTag).2.2 =
        (tm'.startTransaction config env connectorId idTag).2.2 := by
  unfold startTransaction
  rw [hc]
  split
  · exact ⟨rfl, rfl⟩
  split
  · exact ⟨rfl, rfl⟩
  split
  · exact ⟨rfl, rfl⟩
  refine ⟨by rw [sendStartTransaction_fst, sendStartTransaction_fst], ?_⟩
  simp only [sendStartTransaction, checkReservation_congr hstatus hreservation]
  split_ifs
  · rw [callWithFifo_snd tm _ _ tm']
  · rw [callWithFifo_snd (tm.callWithFifo _ _).1 _ _ tm,
      callWithFifo_snd (tm'.callWithFifo _ _).1 _ _ tm, callWithFifo_snd tm _ _ tm']

/-! ## What a start changes -/

theorem sendStartTransaction_appendsOnly :
    AppendsOnly tm (tm.sendStartTransaction config env connector connectorId idTag).2.1
      (tm.sendStartTransaction config env connector connectorId idTag).2.2 := by
  have reservation : AppendsOnly tm tm
      (checkReservation config env.isTransactionAllowed tm.connectors connector connectorId
        idTag).2 :=
    .of_quiet rfl rfl rfl rfl fun c hc => by
      rw [mem_checkReservation hc]; simp [Call.pushed?, Call.Drains]
  have outcome (tm' : TransactionManager) : AppendsOnly tm' tm' (startOutcome env idTag).2.2 :=
    .of_quiet rfl rfl rfl rfl fun c hc => by
      rcases mem_startOutcome hc with rfl | rfl <;> simp [Call.pushed?, Call.Drains]
  by_cases h : (startOutcome env idTag).1 = .accepted
  · simp only [sendStartTransaction, h, if_true]
    exact ((reservation.trans (.callWithFifo _ _ _)).trans (outcome _)).trans
      (.of_quiet rfl rfl rfl rfl (by simp [Call.pushed?, Call.Drains]))
  · simp only [sendStartTransaction, h, if_false]
    exact ((reservation.trans (.callWithFifo _ _ _)).trans (outcome _)).trans (.callWithFifo _ _ _)

theorem startTransaction_appendsOnly :
    AppendsOnly tm (tm.startTransaction config env connectorId idTag).2.1
      (tm.startTransaction config env connectorId idTag).2.2 := by
  have quiet : AppendsOnly tm tm [] := .of_quiet rfl rfl rfl rfl (by simp)
  unfold startTransaction
  split
  · exact quiet
  · split
    · exact quiet
    · split
      · exact quiet
      · exact sendStartTransaction_appendsOnly ..

theorem startTransaction_connectors :
    (tm.startTransaction config env connectorId idTag).2.1.connectors =
      if (tm.startTransaction config env connectorId idTag).1 = .accepted then
        tm.connectors.modify connectorId
          (·.setTransaction (startOutcome env idTag).2.1 env.transactionStart idTag)
      else tm.connectors := by
  unfold startTransaction
  split
  · simp
  · split
    · simp
    · split
      · simp [*]
      · by_cases h : (startOutcome env idTag).1 = .accepted <;>
          simp [sendStartTransaction, h, recordTransaction]

theorem sendStartTransaction_emitted :
    (tm.sendStartTransaction config env connector connectorId idTag).2.2.filterMap Call.emitted? =
      let request := startRequest env connectorId idTag
        (checkReservation config env.isTransactionAllowed tm.connectors connector connectorId
          idTag).1
      if (startOutcome env idTag).1 = .accepted then [request.entry]
      else [request.entry, (request.compensatingStop (startOutcome env idTag).2.1).entry] := by
  have reservation : (checkReservation config env.isTransactionAllowed tm.connectors connector
      connectorId idTag).2.filterMap Call.emitted? = [] :=
    List.filterMap_eq_nil_iff.2 fun c hc => by rw [mem_checkReservation hc]; rfl
  have outcome : (startOutcome env idTag).2.2.filterMap Call.emitted? = [] :=
    List.filterMap_eq_nil_iff.2 fun c hc => by rcases mem_startOutcome hc with rfl | rfl <;> rfl
  by_cases h : (startOutcome env idTag).1 = .accepted <;>
    simp [sendStartTransaction, h, reservation, outcome, callWithFifo_emitted, Call.emitted?]

/-- A start past the guards clears a reservation, on its own connector, exactly when
its request carries a reservation id. -/
theorem sendStartTransaction_cleared :
    (tm.sendStartTransaction config env connector connectorId idTag).2.2.filterMap
        Call.reservationCleared? =
      if (checkReservation config env.isTransactionAllowed tm.connectors connector connectorId
          idTag).1.isSome then [connectorId] else [] := by
  have outcome : (startOutcome env idTag).2.2.filterMap Call.reservationCleared? = [] :=
    List.filterMap_eq_nil_iff.2 fun c hc => by rcases mem_startOutcome hc with rfl | rfl <;> rfl
  have sent (tm' : TransactionManager) (e : FifoEntry) (r : CallResult) :
      (tm'.callWithFifo e r).2.filterMap Call.reservationCleared? = [] := by
    cases r <;> rfl
  by_cases h : (startOutcome env idTag).1 = .accepted <;>
    simp only [sendStartTransaction, h, if_true, if_false, List.filterMap_append, outcome, sent,
      checkReservation_snd] <;>
    split_ifs <;> simp [Call.reservationCleared?]

/-- Every call a start makes: the reservation clear, the sends and their queueing, the
response read and the cache update, and, only when it records the transaction, the two
notifications. -/
theorem mem_startTransaction {c : Call}
    (hc : c ∈ (tm.startTransaction config env connectorId idTag).2.2) :
    c = .clearReservation connectorId ∨ (∃ e r, c = .callWithFifo e r) ∨
      (∃ e, c = .push e) ∨ c = .response (.startTransaction env.startConf) ∨
      c = .authentUpdate idTag env.startConf.idTagInfo ∨
      ((tm.startTransaction config env connectorId idTag).1 = .accepted ∧
        (c = .assignPendingTxProfiles connectorId (startOutcome env idTag).2.1 ∨
          c = .startSampledMeterValues connectorId)) := by
  unfold startTransaction at hc ⊢
  split at hc
  · simp at hc
  · split at hc
    · simp at hc
    · split at hc
      · simp at hc
      · rename_i h0 _ connector hc' hallowed
        simp only [h0, if_false, hc', hallowed, if_false, not_false_eq_true]
        rw [sendStartTransaction_fst]
        by_cases h : (startOutcome env idTag).1 = .accepted
        · simp only [sendStartTransaction, h, if_true, List.mem_append, List.mem_cons,
            List.not_mem_nil, or_false] at hc
          rcases hc with ((hr | hs) | ho) | ha | hs'
          · exact .inl (mem_checkReservation hr)
          · rcases mem_callWithFifo hs with rfl | rfl <;> simp
          · rcases mem_startOutcome ho with rfl | rfl <;> simp
          · simp [ha, h]
          · simp [hs', h]
        · simp only [sendStartTransaction, h, if_false, List.mem_append] at hc
          rcases hc with ((hr | hs) | ho) | hs
          · exact .inl (mem_checkReservation hr)
          · rcases mem_callWithFifo hs with rfl | rfl <;> simp
          · rcases mem_startOutcome ho with rfl | rfl <;> simp
          · rcases mem_callWithFifo hs with rfl | rfl <;> simp

/-- An accepted start turns sampled meter values on for its connector. -/
theorem startSampledMeterValues_mem
    (h : (tm.startTransaction config env connectorId idTag).1 = .accepted) :
    .startSampledMeterValues connectorId ∈
      (tm.startTransaction config env connectorId idTag).2.2 := by
  obtain ⟨h0, connector, hc, hallowed⟩ := startTransaction_guarded _ _ _ _ _ h
  rw [startTransaction_of_allowed _ _ _ _ _ connector h0 hc hallowed] at h ⊢
  rw [sendStartTransaction_fst] at h
  simp [sendStartTransaction, h]

end

end TransactionManager

/-- Connector 1 holds transaction 42, opened at time 100 for the tag "A". -/
def busyManager : TransactionManager :=
  { connectors := ⟨⟨.available, 0, 0, 0, ""⟩, [⟨.charging, 0, 42, 100, "A"⟩]⟩,
    requestsFifo := [], requestRetryCount := 0, requestRetryTimer := false, queuedJobs := 0 }

/-- The reservation manager and the central system accept a start, with id 43. -/
def acceptingStart : StartEnv :=
  { isTransactionAllowed := fun _ _ => .accepted, meterStart := 500, timestamp := 200,
    transactionStart := 200, startResult := .ok,
    startConf := ⟨⟨.accepted, none, none⟩, 43⟩, stopResult := .ok }

theorem startTransaction_overwrites_busy_connector :
    (busyManager.startTransaction defaultConfig acceptingStart 1 "B").1 = .accepted ∧
      (busyManager.startTransaction defaultConfig acceptingStart 1 "B").2.2.filterMap
        Call.emitted? = [(TransactionManager.startRequest acceptingStart 1 "B" none).entry] ∧
      (busyManager.startTransaction defaultConfig acceptingStart 1 "B").2.1.connectors.getConnector
        1 = some ⟨.charging, 0, 43, 200, "B"⟩ := by
  decide

end Ocpp
