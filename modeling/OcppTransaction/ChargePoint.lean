import OcppTransaction.StopTransaction
import OcppTransaction.RemoteHandlers
import OcppTransaction.ProcessFifo

/-!
# The charge point as a step system

The transaction manager inside its environment: the link status the message sender
reports, the registration status, the trace of every call the manager has made, and
the open session of each connector. An `Event` is one operation of the manager, run
atomically with whatever its collaborators answer, or one change of the environment:
the link going up or down (the sender then calls `updateConnectionStatus`), the
registration status changing, the retry timer firing, a queued `processFifoRequest` job
running on the worker pool, a producer pushing onto the FIFO, or the status manager
rewriting a connector's status. `Reachable` is every state a run reaches from a fresh
start.

Jobs run atomically (`DrainRound.atomic`): a job reads the charge point's link status
throughout, and the retry timer does not fire while it runs. The drainer itself,
`processFifoRequest`, takes any observations, with the link dropping and the timer firing
during the job, and the results about one invocation hold for all of them
(`OcppTransaction.DrainInvocation`). `ReachableObserving` adds the jobs that make such
observations to the runs; the results over runs that rely on atomic jobs say so.

`sessions` is the spec's view of the connectors, not the code's: a session is opened by
a `startTransaction` that returned `Accepted` and closed by a `stopTransaction` of its
connector that returned `true`.

* `next_appendsOnly`: every event but a job, a timer expiry and a link change leaves the
  drainer's state alone and only appends to the FIFO the entries it pushed.
* `next_connectors`: only a start, a stop and a status change write a connector, each the
  fields it names.
-/

namespace Ocpp

/-- A charging session: its id tag, its start time, and the answer to its
`StartTransaction`, or `none` when that send failed and the request was queued. -/
structure Session where
  idTag : String
  transactionStart : DateTime
  answer : Option StartTransactionConf
  deriving DecidableEq, Repr

/-- The session's transaction id: the central system's, or the provisional `-1`. -/
def Session.transactionId (session : Session) : Int :=
  match session.answer with
  | some conf => conf.transactionId
  | none => -1

/-- A drain pass as a job of the step system makes it. Jobs run atomically: every read of
the link returns the charge point's link status, and the retry timer does not fire while
the job runs (a link change or a timer expiry is an event of its own, before or after the
job). -/
def DrainRound.atomic (round : DrainRound) (connected : Bool) : DrainRound :=
  { round with
    connectedAfterFailure := connected, connectedAtEnd := connected,
    timerFiresDuringSend := false, timerFiresBeforeCheck := false }

/-- What happens next to a charge point. -/
inductive Event where
  | startTransaction (env : StartEnv) (connectorId : Nat) (idTag : String)
  | stopTransaction (env : StopEnv) (connectorId : Nat) (idTag : String) (reason : Reason)
  | remoteStart (env : RemoteStartEnv) (request : RemoteStartTransactionReq)
  | remoteStop (requested : Bool) (request : RemoteStopTransactionReq)
  /-- The worker pool runs a queued `processFifoRequest` job, atomically
  (`DrainRound.atomic`); `rounds` are the sender's answers. -/
  | runJob (rounds : Nat → DrainRound)
  | timerExpired
  | linkChange (connected : Bool)
  | registrationChange (status : RegistrationStatus)
  /-- A producer (the meter values manager) queues an entry. -/
  | push (entry : FifoEntry)
  /-- The status manager or the reservation manager rewrites a connector's status. -/
  | setStatus (connectorId : Nat) (status : ChargePointStatus) (reservationId : Int)

/-- The events that leave the drainer's state alone. -/
def Event.appendsOnly : Event → Bool
  | runJob _ | timerExpired | linkChange _ => false
  | _ => true

/-- The transaction manager, what it observes of its environment, and the history. -/
structure ChargePoint where
  manager : TransactionManager
  connected : Bool
  registrationStatus : RegistrationStatus
  /-- Every call of the manager on its collaborators so far, in order. -/
  trace : List Call
  /-- The open session of each connector. -/
  sessions : Nat → Option Session

namespace ChargePoint

/-- A fresh charge point: no transaction on any connector, an empty FIFO, no job
queued, the timer stopped, nothing called yet. -/
def initial (connectors : Connectors) (connected : Bool) (status : RegistrationStatus) :
    ChargePoint :=
  { manager :=
      { connectors := connectors, requestsFifo := [], requestRetryCount := 0,
        requestRetryTimer := false, queuedJobs := 0 },
    connected := connected, registrationStatus := status, trace := [],
    sessions := fun _ => none }

/-- The session an `Accepted` start opens. -/
def openedSession (env : StartEnv) (idTag : String) : Session :=
  ⟨idTag, env.transactionStart, if env.startResult = .ok then some env.startConf else none⟩

/-- A job can run only when one is queued, and the timer fires only when armed. -/
def enabled (s : ChargePoint) : Event → Bool
  | .runJob _ => s.manager.queuedJobs != 0
  | .timerExpired => s.manager.requestRetryTimer
  | _ => true

/-- The state after an event. -/
def next (s : ChargePoint) (config : OcppConfig) : Event → ChargePoint
  | .startTransaction env connectorId idTag =>
    let r := s.manager.startTransaction config env connectorId idTag
    { s with
      manager := r.2.1, trace := s.trace ++ r.2.2,
      sessions := if r.1 = .accepted then
        Function.update s.sessions connectorId (some (openedSession env idTag)) else s.sessions }
  | .stopTransaction env connectorId idTag reason =>
    let r := s.manager.stopTransaction env connectorId idTag reason
    { s with
      manager := r.2.1, trace := s.trace ++ r.2.2,
      sessions := if r.1 then Function.update s.sessions connectorId none else s.sessions }
  | .remoteStart env request =>
    { s with trace := s.trace ++ (request.handleMessage s.manager.connectors env).2 }
  | .remoteStop requested request =>
    { s with trace := s.trace ++ (request.handleMessage s.manager.connectors requested).2 }
  | .runJob rounds =>
    let r := { s.manager with queuedJobs := s.manager.queuedJobs - 1 }.processFifoRequest config
      s.connected s.registrationStatus (fun i => (rounds i).atomic s.connected)
    { s with manager := r.1, trace := s.trace ++ r.2 }
  | .timerExpired => { s with manager := s.manager.requestRetryTimerExpired }
  | .linkChange connected =>
    { s with connected := connected, manager := s.manager.updateConnectionStatus connected }
  | .registrationChange status => { s with registrationStatus := status }
  | .push entry =>
    { s with
      manager := { s.manager with requestsFifo := s.manager.requestsFifo ++ [entry] },
      trace := s.trace ++ [.push entry] }
  | .setStatus connectorId status reservationId =>
    { s with
      manager := { s.manager with
        connectors := s.manager.connectors.modify connectorId
          fun c => { c with status := status, reservationId := reservationId } } }

end ChargePoint

/-- The states a charge point reaches from a fresh start. -/
inductive Reachable (config : OcppConfig) : ChargePoint → Prop where
  | init (connectors : Connectors) (idle : ∀ id c, connectors.getConnector id = some c → c.Idle)
      (connected : Bool) (status : RegistrationStatus) :
      Reachable config (ChargePoint.initial connectors connected status)
  | step {s : ChargePoint} (event : Event) : Reachable config s → s.enabled event = true →
      Reachable config (s.next config event)

namespace ChargePoint

/-- A job that makes the drainer's own observations `rounds`: the link may drop between
its reads, and the retry timer may fire while it runs. -/
def runJobObserving (s : ChargePoint) (config : OcppConfig) (rounds : Nat → DrainRound) :
    ChargePoint :=
  let r := { s.manager with queuedJobs := s.manager.queuedJobs - 1 }.processFifoRequest config
    s.connected s.registrationStatus rounds
  { s with manager := r.1, trace := s.trace ++ r.2 }

end ChargePoint

/-- The states a charge point reaches from a fresh start when jobs are not atomic: besides
the events, a queued job may run with the drainer's own observations. -/
inductive ReachableObserving (config : OcppConfig) : ChargePoint → Prop where
  | init (connectors : Connectors) (idle : ∀ id c, connectors.getConnector id = some c → c.Idle)
      (connected : Bool) (status : RegistrationStatus) :
      ReachableObserving config (ChargePoint.initial connectors connected status)
  | step {s : ChargePoint} (event : Event) : ReachableObserving config s →
      s.enabled event = true → ReachableObserving config (s.next config event)
  | runJob {s : ChargePoint} (rounds : Nat → DrainRound) : ReachableObserving config s →
      s.manager.queuedJobs ≠ 0 → ReachableObserving config (s.runJobObserving config rounds)

theorem Reachable.observing {config : OcppConfig} {s : ChargePoint} (h : Reachable config s) :
    ReachableObserving config s := by
  induction h with
  | init connectors idle connected status => exact .init connectors idle connected status
  | step event _ enabled ih => exact .step event ih enabled

namespace ChargePoint

open TransactionManager

variable (s : ChargePoint) (config : OcppConfig)

/-! ## What each event changes -/

theorem next_appendsOnly {event : Event} (h : event.appendsOnly = true) :
    ∃ calls, (s.next config event).trace = s.trace ++ calls ∧
      AppendsOnly s.manager (s.next config event).manager calls := by
  have quiet : ∀ calls : List Call, (∀ c ∈ calls, c.pushed? = none ∧ ¬ c.Drains) →
      AppendsOnly s.manager s.manager calls := fun _ => .of_quiet rfl rfl rfl rfl
  cases event with
  | startTransaction env connectorId idTag =>
    exact ⟨_, rfl, startTransaction_appendsOnly _ _ _ _ _⟩
  | stopTransaction env connectorId idTag reason =>
    exact ⟨_, rfl, stopTransaction_appendsOnly _ _ _ _ _⟩
  | remoteStart env request =>
    refine ⟨_, rfl, quiet _ fun c hc => ?_⟩
    rcases request.mem_handleMessage _ env hc with ⟨_, _, rfl⟩ | ⟨_, _, rfl⟩ <;>
      exact ⟨rfl, id⟩
  | remoteStop requested request =>
    refine ⟨_, rfl, quiet _ fun c hc => ?_⟩
    obtain ⟨_, rfl⟩ := request.mem_handleMessage _ requested hc
    exact ⟨rfl, id⟩
  | registrationChange status => exact ⟨[], by simp [next], quiet [] (by simp)⟩
  | push entry =>
    exact ⟨[.push entry], rfl,
      ⟨by simp [next, Call.pushed?], rfl, rfl, rfl, by simp [Call.Drains]⟩⟩
  | setStatus connectorId status reservationId =>
    exact ⟨[], by simp [next], ⟨by simp [next], rfl, rfl, rfl, by simp⟩⟩
  | runJob | timerExpired | linkChange => cases h

/-- A job: the drainer's calls, after the job has left the queue. -/
theorem next_runJob (rounds : Nat → DrainRound) :
    ∃ calls, s.next config (.runJob rounds) =
      { s with
        manager := ({ s.manager with queuedJobs := s.manager.queuedJobs - 1 }.processFifoRequest
          config s.connected s.registrationStatus (fun i => (rounds i).atomic s.connected)).1,
        trace := s.trace ++ calls } ∧
      ∀ c ∈ calls, c.ByDrainer :=
  ⟨_, rfl, fun _ => processFifoRequest_byDrainer config _ _ _ _⟩

/-- The connectors after an event: a start that returned `Accepted` records its
transaction, a stop that returned `true` resets its connector, a status change rewrites
the status, and nothing else writes a connector. -/
theorem next_connectors (event : Event) :
    (s.next config event).manager.connectors =
      match event with
      | .startTransaction env connectorId idTag =>
        if (s.manager.startTransaction config env connectorId idTag).1 = .accepted then
          s.manager.connectors.modify connectorId
            (·.setTransaction (startOutcome env idTag).2.1 env.transactionStart idTag)
        else s.manager.connectors
      | .stopTransaction env connectorId idTag reason =>
        if (s.manager.stopTransaction env connectorId idTag reason).1 then
          s.manager.connectors.modify connectorId Connector.resetTransaction
        else s.manager.connectors
      | .setStatus connectorId status reservationId =>
        s.manager.connectors.modify connectorId
          fun c => { c with status := status, reservationId := reservationId }
      | _ => s.manager.connectors := by
  cases event with
  | startTransaction => exact startTransaction_connectors _ _ _ _ _
  | stopTransaction => exact stopTransaction_connectors _ _ _ _ _
  | runJob rounds =>
    exact processFifoRequest_preserves config (fun tm _ => tm.connectors = s.manager.connectors)
      _ (fun tm _ _ h => (drainRound_connectors config _ tm).trans h) (fun _ _ _ _ h => h)
      (fun _ _ h => h) _ _ _ (t := []) rfl
  | linkChange => simp [next]
  | timerExpired | remoteStart | remoteStop | registrationChange | push | setStatus => rfl

end ChargePoint

/-- Connector 0 and one physical connector, both available and idle. -/
def oneConnector : Connectors :=
  ⟨⟨.available, 0, 0, 0, ""⟩, [⟨.available, 0, 0, 0, ""⟩]⟩

theorem oneConnector_idle (id : Nat) (c : Connector) (h : oneConnector.getConnector id = some c) :
    c.Idle := by
  rcases id with _ | _ | _ <;> simp [oneConnector, Connectors.getConnector] at h <;> subst h <;>
    exact ⟨rfl, rfl, rfl⟩

end Ocpp
