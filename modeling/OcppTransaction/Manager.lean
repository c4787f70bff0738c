import OcppTransaction.Connectors

/-!
# The transaction manager and its collaborators

`TransactionManager` is the state of the C++ object: the connectors it writes, the
transaction FIFO `m_requests_fifo`, the retry counter `m_request_retry_count`, whether
the single-shot `m_request_retry_timer` is started, and the `processFifoRequest` jobs
it has queued on the worker pool.

Every other collaborator is an interface (spec §6). What a call on one of them
returns is an input of the operation; what the operation asks of them is recorded as
a `Call`, in program order. The FIFO's `push`, `front` and `pop` are recorded too, so
that the delivery discipline can be read off a run (`OcppTransaction.Delivery`).

* `callWithFifo` is the sender contract of spec §4.2: a call either succeeds, or
  fails and appends exactly one entry to the FIFO.
* `updateConnectionStatus` and `requestRetryTimerExpired` are the two ways a drain
  job is queued (source lines 79 and 86–99). `retryTimerThread` is the timer's own
  thread at a point where it may fire, also while a job runs.
-/

namespace Ocpp

/-- The configuration options the transaction core reads. -/
structure OcppConfig where
  transactionMessageAttempts : Nat
  /-- In seconds. -/
  transactionMessageRetryInterval : Nat
  reserveConnectorZeroSupported : Bool
  deriving DecidableEq, Repr

/-- The defaults of spec §6. -/
def defaultConfig : OcppConfig :=
  { transactionMessageAttempts := 3, transactionMessageRetryInterval := 60,
    reserveConnectorZeroSupported := false }

/-- A call of the transaction manager on a collaborator. -/
inductive Call where
  /-- `m_msg_sender.call` with `&m_requests_fifo` attached: a direct send. -/
  | callWithFifo (entry : FifoEntry) (result : CallResult)
  /-- `m_msg_sender.call` on a queued payload: a drain attempt. -/
  | call (entry : FifoEntry) (result : CallResult)
  /-- The response record a successful call filled in, read by the caller right after. -/
  | response (response : Response)
  | push (entry : FifoEntry)
  | front (entry : FifoEntry)
  | pop (entry : FifoEntry)
  | isConnected (connected : Bool)
  | getRegistrationStatus (status : RegistrationStatus)
  | restartTimer (milliseconds : Nat)
  | clearReservation (connectorId : Nat)
  | authentUpdate (idTag : String) (idTagInfo : IdTagInfo)
  | assignPendingTxProfiles (connectorId : Nat) (transactionId : Int)
  | startSampledMeterValues (connectorId : Nat)
  | stopSampledMeterValues (connectorId : Nat)
  | clearTxProfiles (connectorId : Nat)
  | installTxProfile (connectorId : Nat) (profile : ChargingProfile)
  | transactionDeAuthorized (connectorId : Nat)
  | remoteStartTransactionRequested (connectorId : Nat) (idTag : String)
  | remoteStopTransactionRequested (connectorId : Nat)
  deriving DecidableEq, Repr

namespace Call

/-- The entry a call appends to the FIFO. -/
def pushed? : Call → Option FifoEntry
  | push entry => some entry
  | _ => none

/-- The entry a call removes from the FIFO. -/
def popped? : Call → Option FifoEntry
  | pop entry => some entry
  | _ => none

/-- The message a direct send hands to the sender, whatever its outcome. -/
def emitted? : Call → Option FifoEntry
  | callWithFifo entry _ => some entry
  | _ => none

/-- The message a call hands to the sender, directly or from the FIFO. -/
def sent? : Call → Option FifoEntry
  | callWithFifo entry _ => some entry
  | call entry _ => some entry
  | _ => none

/-- The connector a call de-authorizes. -/
def deAuthorized? : Call → Option Nat
  | transactionDeAuthorized connectorId => some connectorId
  | _ => none

/-- The message a call delivers to the central system. -/
def delivered? : Call → Option FifoEntry
  | callWithFifo entry .ok => some entry
  | call entry .ok => some entry
  | _ => none

/-- The connector whose reservation a call clears. -/
def reservationCleared? : Call → Option Nat
  | clearReservation connectorId => some connectorId
  | _ => none

/-- The queued message a drain attempt delivers. -/
def drained? : Call → Option FifoEntry
  | call entry .ok => some entry
  | _ => none

/-- The queued message a drain attempt hands to the sender, whatever its outcome. -/
def drainSent? : Call → Option FifoEntry
  | call entry _ => some entry
  | _ => none

/-- The calls that read or remove the FIFO head: only the drainer makes them. -/
def Drains : Call → Prop
  | call _ _ | front _ | pop _ => True
  | _ => False

/-- The calls the drainer makes. -/
def ByDrainer : Call → Prop
  | call _ _ | response _ | front _ | pop _ | isConnected _ | getRegistrationStatus _
  | restartTimer _ | authentUpdate _ _ | transactionDeAuthorized _ => True
  | _ => False

/-- The calls the drainer makes on its environment rather than on the FIFO. -/
def Polls : Call → Prop
  | isConnected _ | getRegistrationStatus _ | restartTimer _ => True
  | _ => False

/-- Whether a call starts (`some true`) or stops (`some false`) sampled meter values on
connector `connectorId`. -/
def sampling? (connectorId : Nat) : Call → Option Bool
  | startSampledMeterValues id => if id = connectorId then some true else none
  | stopSampledMeterValues id => if id = connectorId then some false else none
  | _ => none

end Call

/-- The state of a `TransactionManager` object. -/
structure TransactionManager where
  connectors : Connectors
  requestsFifo : List FifoEntry
  requestRetryCount : Nat
  /-- `m_request_retry_timer.isStarted()`. -/
  requestRetryTimer : Bool
  /-- `processFifoRequest` jobs queued on `m_worker_pool` and not yet run. -/
  queuedJobs : Nat
  deriving DecidableEq, Repr

namespace TransactionManager

/-- Modelled from the spec: `GenericMessageSender::call` is not under `src/`, so
`m_msg_sender.call(action, request, response, &m_requests_fifo)` follows the sender
contract of spec §4.2 and §6. A send succeeds, or fails and appends the request to the
FIFO, atomically. -/
def callWithFifo (tm : TransactionManager) (entry : FifoEntry) (result : CallResult) :
    TransactionManager × List Call :=
  match result with
  | .ok => (tm, [.callWithFifo entry .ok])
  | .failed => ({ tm with requestsFifo := tm.requestsFifo ++ [entry] },
      [.callWithFifo entry .failed, .push entry])

/-- `TransactionManager::updateConnectionStatus`. -/
def updateConnectionStatus (tm : TransactionManager) (isConnected : Bool) : TransactionManager :=
  if isConnected ∧ tm.requestsFifo ≠ [] then { tm with queuedJobs := tm.queuedJobs + 1 } else tm

/-- The retry timer fires: a single-shot timer stops, and the callback set in the
constructor queues a `processFifoRequest` job. -/
def requestRetryTimerExpired (tm : TransactionManager) : TransactionManager :=
  { tm with requestRetryTimer := false, queuedJobs := tm.queuedJobs + 1 }

/-- The timer's own thread at a point where it may fire (`fires`): only a started timer
fires. -/
def retryTimerThread (tm : TransactionManager) (fires : Bool) : TransactionManager :=
  if fires ∧ tm.requestRetryTimer then tm.requestRetryTimerExpired else tm

theorem mem_callWithFifo {tm : TransactionManager} {entry : FifoEntry} {result : CallResult}
    {c : Call} (h : c ∈ (tm.callWithFifo entry result).2) :
    c = .callWithFifo entry result ∨ c = .push entry := by
  cases result <;> simp_all [callWithFifo]

variable (tm : TransactionManager) (entry : FifoEntry) (result : CallResult)

@[simp] theorem callWithFifo_connectors :
    (tm.callWithFifo entry result).1.connectors = tm.connectors := by
  cases result <;> rfl

@[simp] theorem callWithFifo_requestRetryCount :
    (tm.callWithFifo entry result).1.requestRetryCount = tm.requestRetryCount := by
  cases result <;> rfl

@[simp] theorem callWithFifo_requestRetryTimer :
    (tm.callWithFifo entry result).1.requestRetryTimer = tm.requestRetryTimer := by
  cases result <;> rfl

@[simp] theorem callWithFifo_queuedJobs :
    (tm.callWithFifo entry result).1.queuedJobs = tm.queuedJobs := by
  cases result <;> rfl

/-- The sender contract: the FIFO grows by exactly the entries the call pushed. -/
theorem callWithFifo_requestsFifo :
    (tm.callWithFifo entry result).1.requestsFifo =
      tm.requestsFifo ++ (tm.callWithFifo entry result).2.filterMap Call.pushed? := by
  cases result <;> simp [callWithFifo, Call.pushed?]

/-- What a send asks of the sender does not depend on the manager's state. -/
theorem callWithFifo_snd (tm' : TransactionManager) :
    (tm.callWithFifo entry result).2 = (tm'.callWithFifo entry result).2 := by
  cases result <;> rfl

section

variable (isConnected : Bool)

@[simp] theorem updateConnectionStatus_connectors :
    (tm.updateConnectionStatus isConnected).connectors = tm.connectors := by
  unfold updateConnectionStatus; split <;> rfl

@[simp] theorem updateConnectionStatus_requestsFifo :
    (tm.updateConnectionStatus isConnected).requestsFifo = tm.requestsFifo := by
  unfold updateConnectionStatus; split <;> rfl

@[simp] theorem updateConnectionStatus_requestRetryCount :
    (tm.updateConnectionStatus isConnected).requestRetryCount = tm.requestRetryCount := by
  unfold updateConnectionStatus; split <;> rfl

@[simp] theorem updateConnectionStatus_requestRetryTimer :
    (tm.updateConnectionStatus isConnected).requestRetryTimer = tm.requestRetryTimer := by
  unfold updateConnectionStatus; split <;> rfl

/-- A link that comes up with the FIFO non-empty queues one drain job. -/
theorem updateConnectionStatus_queuedJobs :
    (tm.updateConnectionStatus isConnected).queuedJobs =
      if isConnected ∧ tm.requestsFifo ≠ [] then tm.queuedJobs + 1 else tm.queuedJobs := by
  unfold updateConnectionStatus; split <;> rfl

end

section

variable (fires : Bool)

@[simp] theorem retryTimerThread_connectors :
    (tm.retryTimerThread fires).connectors = tm.connectors := by
  unfold retryTimerThread; split <;> rfl

@[simp] theorem retryTimerThread_requestsFifo :
    (tm.retryTimerThread fires).requestsFifo = tm.requestsFifo := by
  unfold retryTimerThread; split <;> rfl

@[simp] theorem retryTimerThread_requestRetryCount :
    (tm.retryTimerThread fires).requestRetryCount = tm.requestRetryCount := by
  unfold retryTimerThread; split <;> rfl

@[simp] theorem retryTimerThread_requestRetryTimer :
    (tm.retryTimerThread fires).requestRetryTimer = (tm.requestRetryTimer && !fires) := by
  unfold retryTimerThread requestRetryTimerExpired
  cases fires <;> cases h : tm.requestRetryTimer <;> simp [h]

theorem retryTimerThread_queuedJobs :
    (tm.retryTimerThread fires).queuedJobs =
      if fires ∧ tm.requestRetryTimer then tm.queuedJobs + 1 else tm.queuedJobs := by
  unfold retryTimerThread; split <;> rfl

@[simp] theorem retryTimerThread_false : tm.retryTimerThread false = tm := by
  simp [retryTimerThread]

/-- A stopped timer does not fire. -/
theorem retryTimerThread_of_stopped (h : tm.requestRetryTimer = false) :
    tm.retryTimerThread fires = tm := by
  simp [retryTimerThread, h]

end

theorem callWithFifo_emitted :
    (tm.callWithFifo entry result).2.filterMap Call.emitted? = [entry] := by
  cases result <;> rfl

end TransactionManager

/-- An operation that leaves the drainer's state alone: it only appends to the FIFO
the entries it pushed, and makes no call on the FIFO head. Every operation but
`processFifoRequest` is one. -/
structure AppendsOnly (tm tm' : TransactionManager) (calls : List Call) : Prop where
  requestsFifo : tm'.requestsFifo = tm.requestsFifo ++ calls.filterMap Call.pushed?
  requestRetryCount : tm'.requestRetryCount = tm.requestRetryCount
  requestRetryTimer : tm'.requestRetryTimer = tm.requestRetryTimer
  queuedJobs : tm'.queuedJobs = tm.queuedJobs
  not_drains : ∀ c ∈ calls, ¬ c.Drains

namespace AppendsOnly

variable {tm tm₁ tm₂ : TransactionManager} {calls calls₁ calls₂ : List Call}

theorem trans (h₁ : AppendsOnly tm tm₁ calls₁) (h₂ : AppendsOnly tm₁ tm₂ calls₂) :
    AppendsOnly tm tm₂ (calls₁ ++ calls₂) where
  requestsFifo := by simp [h₂.requestsFifo, h₁.requestsFifo]
  requestRetryCount := h₂.requestRetryCount.trans h₁.requestRetryCount
  requestRetryTimer := h₂.requestRetryTimer.trans h₁.requestRetryTimer
  queuedJobs := h₂.queuedJobs.trans h₁.queuedJobs
  not_drains c hc := (List.mem_append.1 hc).elim (h₁.not_drains c) (h₂.not_drains c)

/-- Such an operation is known by the connectors it leaves and the calls it makes. -/
theorem eq (h : AppendsOnly tm tm₁ calls) :
    tm₁ = { tm with
      connectors := tm₁.connectors,
      requestsFifo := tm.requestsFifo ++ calls.filterMap Call.pushed? } := by
  obtain ⟨hfifo, hcount, htimer, hjobs, -⟩ := h
  cases tm₁
  simp_all

/-- Calls that neither push nor drain, with the drainer's state untouched. -/
theorem of_quiet (hfifo : tm'.requestsFifo = tm.requestsFifo)
    (hcount : tm'.requestRetryCount = tm.requestRetryCount)
    (htimer : tm'.requestRetryTimer = tm.requestRetryTimer) (hjobs : tm'.queuedJobs = tm.queuedJobs)
    (hquiet : ∀ c ∈ calls, c.pushed? = none ∧ ¬ c.Drains) : AppendsOnly tm tm' calls where
  requestsFifo := by
    rw [hfifo, List.filterMap_eq_nil_iff.2 fun c hc => (hquiet c hc).1, List.append_nil]
  requestRetryCount := hcount
  requestRetryTimer := htimer
  queuedJobs := hjobs
  not_drains c hc := (hquiet c hc).2

theorem callWithFifo (tm : TransactionManager) (entry : FifoEntry) (result : CallResult) :
    AppendsOnly tm (tm.callWithFifo entry result).1 (tm.callWithFifo entry result).2 where
  requestsFifo := tm.callWithFifo_requestsFifo entry result
  requestRetryCount := by simp
  requestRetryTimer := by simp
  queuedJobs := by simp
  not_drains c hc := by
    cases result <;> simp [TransactionManager.callWithFifo] at hc <;> rcases hc with rfl | rfl <;>
      simp [Call.Drains]

end AppendsOnly

end Ocpp
