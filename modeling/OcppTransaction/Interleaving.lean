import OcppTransaction.ChargePoint
import OcppTransaction.Refusals

/-!
# Local operations on different connectors

`startTransaction` and `stopTransaction` run on the threads of the connectors they are
called for, each locking only its own connector while it writes it, and a remote start
is handled on the message dispatcher's thread. Run atomically, such operations on
different connectors are independent: whichever runs first, each answers the same and
makes the same calls, and the two orders end with the same connectors, sessions and
drainer state. Only the order of the two operations' calls in the trace, and of what
they queued in the FIFO, differs. A remote stop is not local: it scans every connector.

* `LocalEffect` is what a local operation does to a charge point: a write of its
  connector's transaction fields and an update of its session, both only when it took
  effect, and its calls. `LocalEffect.apply_comm`: two effects on different connectors
  commute up to the order of their calls.
* `ChargePoint.next_eq_apply`: a local operation does exactly its effect, and
  `Event.localEffect_congr`: that effect reads only the operation's own connector and the
  reservation of the whole charge point, which no local operation writes.
* `local_events_commute` puts the two together.
-/

namespace Ocpp

open TransactionManager

/-- What a start or a stop on connector `connectorId` reads of the connectors: that
connector, and the reservation of the whole charge point. -/
def Connectors.ReadsAgree (connectorId : Nat) (cs cs' : Connectors) : Prop :=
  cs.getConnector connectorId = cs'.getConnector connectorId ∧
    cs.chargePoint.status = cs'.chargePoint.status ∧
    cs.chargePoint.reservationId = cs'.chargePoint.reservationId

/-- A write of another connector that keeps its status and reservation leaves what a
start or a stop reads alone. -/
theorem Connectors.readsAgree_modify (cs : Connectors) {f : Connector → Connector}
    {id connectorId : Nat} (hne : id ≠ connectorId)
    (hf : ∀ c, (f c).status = c.status ∧ (f c).reservationId = c.reservationId) :
    ReadsAgree connectorId cs (cs.modify id f) := by
  refine ⟨(getConnector_modify_of_ne cs f hne).symm, ?_⟩
  rw [chargePoint_modify]
  split_ifs
  · exact ⟨(hf _).1.symm, (hf _).2.symm⟩
  · exact ⟨rfl, rfl⟩

/-- The connector a start, a stop or a remote start works on; no other event is local. -/
def Event.localOn : Event → Option Nat
  | .startTransaction _ connectorId _ | .stopTransaction _ connectorId _ _ => some connectorId
  | .remoteStart _ request => request.connectorId
  | _ => none

/-- What a local operation does: whether it took effect (a start returned `Accepted`, a
stop `true`), the write it then makes to its connector and the session it then leaves
there, and its calls. -/
structure LocalEffect where
  taken : Bool
  write : Connector → Connector
  session : Option Session
  calls : List Call

namespace LocalEffect

/-- A charge point after the effect `e` on connector `connectorId`. -/
def apply (e : LocalEffect) (connectorId : Nat) (s : ChargePoint) : ChargePoint :=
  { s with
    manager := { s.manager with
      connectors :=
        if e.taken then s.manager.connectors.modify connectorId e.write else s.manager.connectors,
      requestsFifo := s.manager.requestsFifo ++ e.calls.filterMap Call.pushed? },
    trace := s.trace ++ e.calls,
    sessions := if e.taken then Function.update s.sessions connectorId e.session else s.sessions }

variable (e e₁ e₂ : LocalEffect) {a b : Nat} (s : ChargePoint)

/-- An effect that keeps statuses and reservations leaves what a local operation on
another connector reads alone. -/
theorem apply_readsAgree (hab : a ≠ b)
    (hwrite : ∀ c, (e.write c).status = c.status ∧ (e.write c).reservationId = c.reservationId) :
    Connectors.ReadsAgree b s.manager.connectors (e.apply a s).manager.connectors := by
  unfold apply
  split_ifs
  · exact s.manager.connectors.readsAgree_modify hab hwrite
  · exact ⟨rfl, rfl, rfl⟩

/-- Two effects on different connectors commute, up to the order of their calls. -/
theorem apply_comm (hab : a ≠ b) :
    (e₂.apply b (e₁.apply a s)).manager =
        { (e₁.apply a (e₂.apply b s)).manager with
          requestsFifo :=
            s.manager.requestsFifo ++ (e₁.calls ++ e₂.calls).filterMap Call.pushed? } ∧
      (e₂.apply b (e₁.apply a s)).sessions = (e₁.apply a (e₂.apply b s)).sessions := by
  cases h₁ : e₁.taken <;> cases h₂ : e₂.taken <;>
    simp [apply, h₁, h₂, Connectors.modify_comm _ _ _ hab, Function.update_comm hab]

end LocalEffect

/-- The effect of a local operation on a manager in state `tm`. -/
def Event.localEffect (config : OcppConfig) (tm : TransactionManager) : Event → LocalEffect
  | .startTransaction env connectorId idTag =>
    let r := tm.startTransaction config env connectorId idTag
    ⟨r.1 = .accepted, (·.setTransaction (startOutcome env idTag).2.1 env.transactionStart idTag),
      some (ChargePoint.openedSession env idTag), r.2.2⟩
  | .stopTransaction env connectorId idTag reason =>
    let r := tm.stopTransaction env connectorId idTag reason
    ⟨r.1, Connector.resetTransaction, none, r.2.2⟩
  | .remoteStart env request => ⟨false, id, none, (request.handleMessage tm.connectors env).2⟩
  | _ => ⟨false, id, none, []⟩

namespace Event

variable (config : OcppConfig) {e : Event} {a : Nat}

/-- A local operation writes only transaction fields. -/
theorem localEffect_write (tm : TransactionManager) (e : Event) (c : Connector) :
    ((e.localEffect config tm).write c).status = c.status ∧
      ((e.localEffect config tm).write c).reservationId = c.reservationId := by
  cases e <;> exact ⟨rfl, rfl⟩

/-- A local operation's effect reads only its connector and the charge point's
reservation. -/
theorem localEffect_congr {tm tm' : TransactionManager} (he : e.localOn = some a)
    (h : Connectors.ReadsAgree a tm.connectors tm'.connectors) :
    e.localEffect config tm' = e.localEffect config tm := by
  cases e <;> simp only [localOn, Option.some.injEq, reduceCtorEq] at he
  case startTransaction env connectorId idTag =>
    subst he
    obtain ⟨h₁, h₂⟩ := startTransaction_congr tm config env connectorId idTag h.1 h.2.1 h.2.2
    simp only [localEffect, h₁, h₂]
  case stopTransaction env connectorId idTag reason =>
    subst he
    obtain ⟨h₁, h₂⟩ := stopTransaction_congr tm env connectorId idTag reason h.1
    simp only [localEffect, h₁, h₂]
  case remoteStart env request =>
    simp only [localEffect, request.handleMessage_congr env he h.1]

end Event

/-- A local operation does exactly its effect. -/
theorem ChargePoint.next_eq_apply (s : ChargePoint) (config : OcppConfig) {e : Event} {a : Nat}
    (he : e.localOn = some a) : s.next config e = (e.localEffect config s.manager).apply a s := by
  cases e <;> simp only [Event.localOn, Option.some.injEq, reduceCtorEq] at he
  case remoteStart env request =>
    have quiet : (request.handleMessage s.manager.connectors env).2.filterMap Call.pushed? = [] :=
      List.filterMap_eq_nil_iff.2 fun c hc => by
        rcases request.mem_handleMessage _ env hc with ⟨_, _, rfl⟩ | ⟨_, _, rfl⟩ <;> rfl
    simp [next, LocalEffect.apply, Event.localEffect, quiet]
  all_goals subst he
  case startTransaction env connectorId idTag =>
    have hm := (startTransaction_appendsOnly s.manager config env connectorId idTag).eq
    rw [startTransaction_connectors] at hm
    simp only [next, LocalEffect.apply, Event.localEffect, decide_eq_true_eq]
    rw [← hm]
  case stopTransaction env connectorId idTag reason =>
    have hm := (stopTransaction_appendsOnly s.manager env connectorId idTag reason).eq
    rw [stopTransaction_connectors] at hm
    simp only [next, LocalEffect.apply, Event.localEffect]
    rw [← hm]

/-- Two local operations on different connectors, one after the other: the second does
the effect it would have done first. -/
theorem ChargePoint.next_next_local (s : ChargePoint) (config : OcppConfig) {e₁ e₂ : Event}
    {a b : Nat} (h₁ : e₁.localOn = some a) (h₂ : e₂.localOn = some b) (hab : a ≠ b) :
    (s.next config e₁).next config e₂ =
      (e₂.localEffect config s.manager).apply b ((e₁.localEffect config s.manager).apply a s) := by
  rw [s.next_eq_apply config h₁, ChargePoint.next_eq_apply _ config h₂,
    Event.localEffect_congr config h₂ (LocalEffect.apply_readsAgree _ s hab
      (Event.localEffect_write config _ e₁))]

theorem local_events_commute (s : ChargePoint) (config : OcppConfig) (e₁ e₂ : Event) (a b : Nat)
    (h₁ : e₁.localOn = some a) (h₂ : e₂.localOn = some b) (hab : a ≠ b) :
    ∃ calls₁ calls₂,
      (s.next config e₁).trace = s.trace ++ calls₁ ∧ (s.next config e₂).trace = s.trace ++ calls₂ ∧
      ((s.next config e₁).next config e₂).trace = s.trace ++ calls₁ ++ calls₂ ∧
      ((s.next config e₂).next config e₁).trace = s.trace ++ calls₂ ++ calls₁ ∧
      ((s.next config e₁).next config e₂).sessions =
        ((s.next config e₂).next config e₁).sessions ∧
      ((s.next config e₁).next config e₂).manager =
        { ((s.next config e₂).next config e₁).manager with
          requestsFifo := s.manager.requestsFifo ++ (calls₁ ++ calls₂).filterMap Call.pushed? } ∧
      ((s.next config e₂).next config e₁).manager.requestsFifo =
        s.manager.requestsFifo ++ (calls₂ ++ calls₁).filterMap Call.pushed? := by
  have second₁ := s.next_next_local config h₂ h₁ (Ne.symm hab)
  have second₂ := s.next_next_local config h₁ h₂ hab
  obtain ⟨hmanager, hsessions⟩ := LocalEffect.apply_comm (e₁.localEffect config s.manager)
    (e₂.localEffect config s.manager) s hab
  refine ⟨(e₁.localEffect config s.manager).calls, (e₂.localEffect config s.manager).calls,
    by rw [s.next_eq_apply config h₁]; rfl, by rw [s.next_eq_apply config h₂]; rfl, ?_, ?_,
    ?_, ?_, ?_⟩
  all_goals simp only [second₁, second₂, hmanager, hsessions]
  all_goals simp [LocalEffect.apply]

/-- Connector 0 and two physical connectors, all available and idle. -/
def twoConnectors : Connectors :=
  ⟨⟨.available, 0, 0, 0, ""⟩, [⟨.available, 0, 0, 0, ""⟩, ⟨.available, 0, 0, 0, ""⟩]⟩

/-- Both connectors are started while the central system is unreachable: both starts
are queued, in the order they ran. -/
theorem offline_starts_commute :
    ∃ calls₁ calls₂,
      ((ChargePoint.initial twoConnectors true .accepted).next defaultConfig
          (.startTransaction (offlineStart 100) 1 "A")).trace =
        (ChargePoint.initial twoConnectors true .accepted).trace ++ calls₁ ∧
      ((ChargePoint.initial twoConnectors true .accepted).next defaultConfig
          (.startTransaction (offlineStart 200) 2 "B")).trace =
        (ChargePoint.initial twoConnectors true .accepted).trace ++ calls₂ ∧
      (((ChargePoint.initial twoConnectors true .accepted).next defaultConfig
          (.startTransaction (offlineStart 100) 1 "A")).next defaultConfig
          (.startTransaction (offlineStart 200) 2 "B")).trace =
        (ChargePoint.initial twoConnectors true .accepted).trace ++ calls₁ ++ calls₂ ∧
      (((ChargePoint.initial twoConnectors true .accepted).next defaultConfig
          (.startTransaction (offlineStart 200) 2 "B")).next defaultConfig
          (.startTransaction (offlineStart 100) 1 "A")).trace =
        (ChargePoint.initial twoConnectors true .accepted).trace ++ calls₂ ++ calls₁ ∧
      (((ChargePoint.initial twoConnectors true .accepted).next defaultConfig
          (.startTransaction (offlineStart 100) 1 "A")).next defaultConfig
          (.startTransaction (offlineStart 200) 2 "B")).sessions =
        (((ChargePoint.initial twoConnectors true .accepted).next defaultConfig
          (.startTransaction (offlineStart 200) 2 "B")).next defaultConfig
          (.startTransaction (offlineStart 100) 1 "A")).sessions ∧
      (((ChargePoint.initial twoConnectors true .accepted).next defaultConfig
          (.startTransaction (offlineStart 100) 1 "A")).next defaultConfig
          (.startTransaction (offlineStart 200) 2 "B")).manager =
        { (((ChargePoint.initial twoConnectors true .accepted).next defaultConfig
            (.startTransaction (offlineStart 200) 2 "B")).next defaultConfig
            (.startTransaction (offlineStart 100) 1 "A")).manager with
          requestsFifo := (ChargePoint.initial twoConnectors true .accepted).manager.requestsFifo ++
            (calls₁ ++ calls₂).filterMap Call.pushed? } ∧
      (((ChargePoint.initial twoConnectors true .accepted).next defaultConfig
          (.startTransaction (offlineStart 200) 2 "B")).next defaultConfig
          (.startTransaction (offlineStart 100) 1 "A")).manager.requestsFifo =
        (ChargePoint.initial twoConnectors true .accepted).manager.requestsFifo ++
          (calls₂ ++ calls₁).filterMap Call.pushed? :=
  local_events_commute _ defaultConfig _ _ 1 2 rfl rfl (by decide)

example : (((ChargePoint.initial twoConnectors true .accepted).next defaultConfig
      (.startTransaction (offlineStart 100) 1 "A")).next defaultConfig
      (.startTransaction (offlineStart 200) 2 "B")).manager.requestsFifo ≠
    (((ChargePoint.initial twoConnectors true .accepted).next defaultConfig
      (.startTransaction (offlineStart 200) 2 "B")).next defaultConfig
      (.startTransaction (offlineStart 100) 1 "A")).manager.requestsFifo := by
  decide

end Ocpp
