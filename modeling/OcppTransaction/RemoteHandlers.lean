import OcppTransaction.Manager

/-!
# Remote start and remote stop

The two `TransactionManager::handleMessage` overloads (source lines 289–379). Neither
changes the manager's state: a remote start only asks the events handler (and, with a
profile, the smart charging manager), and the actual start comes later from the
events handler. A remote stop looks for the connector holding the requested
transaction id, in id order, and forwards the events handler's verdict.

* `findTransaction_eq_some_iff`: the remote-stop scan finds the first connector holding
  the requested non-zero id.
* `RemoteStopTransactionReq.remoteStop_contract`: what the remote stop answers and whom
  it asks.
* `RemoteStartTransactionReq.handleMessage_rejected_of_busy`: a connector with a
  transaction is never handed a remote start, and the events handler is not asked.
-/

namespace Ocpp

/-- What the remote-start handler reads from its collaborators. -/
structure RemoteStartEnv where
  /-- `ReservationManager::isTransactionAllowed`. -/
  isTransactionAllowed : Nat → String → AuthorizationStatus
  /-- `IChargePointEventsHandler::remoteStartTransactionRequested`. -/
  remoteStartTransactionRequested : Bool
  /-- `ISmartChargingManager::installTxProfile`. -/
  installTxProfile : Bool

/-- `TransactionManager::handleMessage(RemoteStartTransactionReq)`: the response and the
calls made. -/
def RemoteStartTransactionReq.handleMessage (request : RemoteStartTransactionReq)
    (cs : Connectors) (env : RemoteStartEnv) : RemoteStartTransactionConf × List Call :=
  let authorized : Bool × List Call :=
    match request.connectorId with
    | none => (false, [])
    | some connectorId =>
      if connectorId = 0 then (false, []) else
      match cs.getConnector connectorId with
      | none => (false, [])
      | some connector =>
        if connector.status ≠ .unavailable ∧ connector.transactionId = 0 ∧
            env.isTransactionAllowed connectorId request.idTag = .accepted then
          let notified : List Call := [.remoteStartTransactionRequested connectorId request.idTag]
          match env.remoteStartTransactionRequested, request.chargingProfile with
          | true, some profile => (env.installTxProfile,
              notified ++ [.installTxProfile connectorId profile])
          | requested, _ => (requested, notified)
        else (false, [])
  (⟨if authorized.1 then .accepted else .rejected⟩, authorized.2)

/-- The scan of lines 355–363 over connectors `id`, `id + 1`, …: the first whose
transaction id is not 0 and is `transactionId`. -/
def findTransactionFrom (transactionId : Int) : Nat → List Connector → Option Nat
  | _, [] => none
  | id, c :: cs =>
    if c.transactionId ≠ 0 ∧ c.transactionId = transactionId then some id
    else findTransactionFrom transactionId (id + 1) cs

/-- The remote-stop scan over every connector, in id order. -/
def Connectors.findTransaction (cs : Connectors) (transactionId : Int) : Option Nat :=
  findTransactionFrom transactionId 0 cs.getConnectors

/-- `TransactionManager::handleMessage(RemoteStopTransactionReq)`, with the events
handler's verdict `remoteStopTransactionRequested`. -/
def RemoteStopTransactionReq.handleMessage (request : RemoteStopTransactionReq) (cs : Connectors)
    (remoteStopTransactionRequested : Bool) : RemoteStopTransactionConf × List Call :=
  match cs.findTransaction request.transactionId with
  | none => (⟨.rejected⟩, [])
  | some connectorId =>
    (⟨if remoteStopTransactionRequested then .accepted else .rejected⟩,
      [.remoteStopTransactionRequested connectorId])

theorem Connectors.getConnector_eq_getConnectors (cs : Connectors) (id : Nat) :
    cs.getConnector id = cs.getConnectors[id]? := by
  cases id <;> simp [getConnector, getConnectors]

theorem findTransactionFrom_eq_some {transactionId : Int} :
    ∀ {k id : Nat} {l : List Connector}, findTransactionFrom transactionId k l = some id →
      k ≤ id ∧
        ∃ c, l[id - k]? = some c ∧ c.transactionId ≠ 0 ∧ c.transactionId = transactionId
  | _, _, [], h => by simp [findTransactionFrom] at h
  | k, id, c :: l, h => by
    unfold findTransactionFrom at h
    split at h
    · cases h; exact ⟨Nat.le_refl _, c, by simp, ‹_›⟩
    · obtain ⟨hk, c', hc', hne⟩ := findTransactionFrom_eq_some h
      refine ⟨by omega, c', ?_, hne⟩
      rw [show id - k = (id - (k + 1)) + 1 by omega]
      simpa using hc'

theorem findTransactionFrom_eq_none {transactionId : Int} :
    ∀ {k : Nat} {l : List Connector}, findTransactionFrom transactionId k l = none →
      ∀ c ∈ l, c.transactionId = 0 ∨ c.transactionId ≠ transactionId
  | _, [], _ => by simp
  | k, c :: l, h => by
    unfold findTransactionFrom at h
    split at h
    · cases h
    · rename_i hc
      rintro c' (_ | ⟨_, hc'⟩)
      · by_cases h0 : c.transactionId = 0 <;> simp_all
      · exact findTransactionFrom_eq_none h c' hc'

/-- The scan stops at the first connector that holds the id. -/
theorem findTransactionFrom_first {transactionId : Int} :
    ∀ {k id : Nat} {l : List Connector}, findTransactionFrom transactionId k l = some id →
      ∀ j c, k ≤ j → j < id → l[j - k]? = some c →
        c.transactionId = 0 ∨ c.transactionId ≠ transactionId
  | _, _, [], h => by simp [findTransactionFrom] at h
  | k, id, c :: l, h => by
    unfold findTransactionFrom at h
    split at h
    · cases h; intro j c' hkj hj; omega
    · rename_i hc
      intro j c' hkj hj hget
      rcases Nat.eq_or_lt_of_le hkj with rfl | hlt
      · simp only [Nat.sub_self, List.getElem?_cons_zero, Option.some.injEq] at hget
        subst hget
        by_cases h0 : c.transactionId = 0
        · exact .inl h0
        · exact .inr fun heq => hc ⟨h0, heq⟩
      · refine findTransactionFrom_first h j c' hlt hj ?_
        rwa [show j - k = (j - (k + 1)) + 1 by omega, List.getElem?_cons_succ] at hget

/-- The connector a remote stop finds holds the requested, non-zero transaction id. -/
theorem Connectors.findTransaction_eq_some {cs : Connectors} {transactionId : Int} {id : Nat}
    (h : cs.findTransaction transactionId = some id) :
    ∃ c, cs.getConnector id = some c ∧ c.transactionId ≠ 0 ∧
      c.transactionId = transactionId := by
  simpa [getConnector_eq_getConnectors] using (findTransactionFrom_eq_some h).2

/-- A remote stop finds nothing only when no connector holds the requested id. -/
theorem Connectors.findTransaction_eq_none {cs : Connectors} {transactionId : Int}
    (h : cs.findTransaction transactionId = none) {id : Nat} {c : Connector}
    (hc : cs.getConnector id = some c) :
    c.transactionId = 0 ∨ c.transactionId ≠ transactionId :=
  findTransactionFrom_eq_none h c (List.getElem?_mem (by rwa [← getConnector_eq_getConnectors]))

/-- The remote-stop scan finds the first connector, in id order, that holds the requested
non-zero transaction id. -/
theorem Connectors.findTransaction_eq_some_iff {cs : Connectors} {transactionId : Int}
    {id : Nat} :
    cs.findTransaction transactionId = some id ↔
      (∃ c, cs.getConnector id = some c ∧ c.transactionId ≠ 0 ∧
        c.transactionId = transactionId) ∧
      ∀ j < id, ∀ c, cs.getConnector j = some c →
        c.transactionId = 0 ∨ c.transactionId ≠ transactionId := by
  have first {id : Nat} (h : cs.findTransaction transactionId = some id) {j : Nat} (hj : j < id)
      {c : Connector} (hc : cs.getConnector j = some c) :
      c.transactionId = 0 ∨ c.transactionId ≠ transactionId :=
    findTransactionFrom_first h j c (Nat.zero_le _) hj
      (by rwa [Nat.sub_zero, ← getConnector_eq_getConnectors])
  refine ⟨fun h => ⟨findTransaction_eq_some h, fun j hj c hc => first h hj hc⟩,
    fun ⟨⟨c, hc, hnz, heq⟩, hbefore⟩ => ?_⟩
  cases hfind : cs.findTransaction transactionId with
  | none => exact (findTransaction_eq_none hfind hc).elim (absurd · hnz) (absurd heq)
  | some id' =>
    obtain ⟨c', hc', hnz', heq'⟩ := findTransaction_eq_some hfind
    rcases Nat.lt_trichotomy id' id with hlt | rfl | hgt
    · exact (hbefore id' hlt c' hc').elim (absurd · hnz') (absurd heq')
    · rfl
    · exact (first hfind hgt hc).elim (absurd · hnz) (absurd heq)

/-- The scan finds something exactly when some connector holds the requested non-zero
id. -/
theorem Connectors.findTransaction_isSome_iff {cs : Connectors} {transactionId : Int} :
    (cs.findTransaction transactionId).isSome ↔
      ∃ id c, cs.getConnector id = some c ∧ c.transactionId ≠ 0 ∧
        c.transactionId = transactionId := by
  refine ⟨fun h => ?_, fun ⟨id, c, hc, hnz, heq⟩ => ?_⟩
  · obtain ⟨id, hid⟩ := Option.isSome_iff_exists.1 h
    exact ⟨id, findTransaction_eq_some hid⟩
  · cases hfind : cs.findTransaction transactionId with
    | none => exact (findTransaction_eq_none hfind hc).elim (absurd · hnz) (absurd heq)
    | some => rfl

/-- The remote-stop handler (lines 343–379): it answers `Accepted` exactly when some
connector holds the requested non-zero id and the events handler agrees; it asks the
events handler about the first such connector in id order, and asks nobody when there is
none. -/
theorem RemoteStopTransactionReq.remoteStop_contract (request : RemoteStopTransactionReq)
    (cs : Connectors) (requested : Bool) :
    ((request.handleMessage cs requested).1.status = .accepted ↔
      requested = true ∧ ∃ id c, cs.getConnector id = some c ∧ c.transactionId ≠ 0 ∧
        c.transactionId = request.transactionId) ∧
    (∀ id, (request.handleMessage cs requested).2 = [.remoteStopTransactionRequested id] ↔
      (∃ c, cs.getConnector id = some c ∧ c.transactionId ≠ 0 ∧
        c.transactionId = request.transactionId) ∧
      ∀ j < id, ∀ c, cs.getConnector j = some c →
        c.transactionId = 0 ∨ c.transactionId ≠ request.transactionId) ∧
    ((request.handleMessage cs requested).2 = [] ↔
      ∀ id c, cs.getConnector id = some c →
        c.transactionId = 0 ∨ c.transactionId ≠ request.transactionId) := by
  simp only [← Connectors.findTransaction_isSome_iff, ← Connectors.findTransaction_eq_some_iff]
  refine ⟨?_, fun id => ?_, ⟨fun h id c hc => ?_, fun h => ?_⟩⟩
  · unfold handleMessage; split <;> simp_all
  · unfold handleMessage; split <;> simp_all
  · unfold handleMessage at h
    split at h
    · exact Connectors.findTransaction_eq_none ‹_› hc
    · cases h
  · unfold handleMessage
    cases hfind : cs.findTransaction request.transactionId with
    | none => rfl
    | some id =>
      obtain ⟨c, hc, hnz, heq⟩ := Connectors.findTransaction_eq_some hfind
      exact (h id c hc).elim (absurd · hnz) (absurd heq)

theorem RemoteStartTransactionReq.handleMessage_rejected_of_busy
    (request : RemoteStartTransactionReq) (cs : Connectors) (env : RemoteStartEnv) {id : Nat}
    {connector : Connector} (hid : request.connectorId = some id)
    (hc : cs.getConnector id = some connector) (busy : connector.transactionId ≠ 0) :
    request.handleMessage cs env = (⟨.rejected⟩, []) := by
  simp [handleMessage, hid, hc, busy]

/-- A remote start reads only the connector it names. -/
theorem RemoteStartTransactionReq.handleMessage_congr (request : RemoteStartTransactionReq)
    {cs cs' : Connectors} (env : RemoteStartEnv) {id : Nat} (hid : request.connectorId = some id)
    (hc : cs.getConnector id = cs'.getConnector id) :
    request.handleMessage cs env = request.handleMessage cs' env := by
  simp only [handleMessage, hid, hc]

/-- The calls of a remote start are notifications only. -/
theorem RemoteStartTransactionReq.mem_handleMessage (request : RemoteStartTransactionReq)
    (cs : Connectors) (env : RemoteStartEnv) {c : Call}
    (hc : c ∈ (request.handleMessage cs env).2) :
    (∃ id tag, c = .remoteStartTransactionRequested id tag) ∨
      ∃ id profile, c = .installTxProfile id profile := by
  simp only [handleMessage] at hc
  split at hc
  · simp at hc
  · split at hc
    · simp at hc
    · split at hc
      · simp at hc
      · split at hc
        · split at hc <;> simp at hc <;> rcases hc with rfl | rfl <;> simp
        · simp at hc

theorem RemoteStopTransactionReq.mem_handleMessage (request : RemoteStopTransactionReq)
    (cs : Connectors) (requested : Bool) {c : Call}
    (hc : c ∈ (request.handleMessage cs requested).2) :
    ∃ id, c = .remoteStopTransactionRequested id := by
  unfold handleMessage at hc
  split at hc <;> simp_all

end Ocpp
