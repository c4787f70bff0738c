import OcppTransaction.Messages

/-!
# Connectors

The per-connector records the transaction manager reads and writes. Connector `0`
is the whole charge point and always exists (`Connectors::getChargePointConnector`
returns a reference); connector `i + 1` exists while the charge point has that many
physical connectors. A connector's id is its position, which is what the source's
`connector->id` holds.

Persistence (`saveConnector`) is write-through in the spec, so the records here are
the persisted ones.
-/

namespace Ocpp

/-- One connector's record, restricted to the fields `TransactionManager.cpp` uses. -/
structure Connector where
  status : ChargePointStatus
  reservationId : Int
  transactionId : Int
  transactionStart : DateTime
  transactionIdTag : String
  deriving DecidableEq, Repr

namespace Connector

/-- The fields `startTransaction` writes under the connector's lock. -/
def setTransaction (c : Connector) (transactionId : Int) (start : DateTime) (idTag : String) :
    Connector :=
  { c with transactionId := transactionId, transactionStart := start, transactionIdTag := idTag }

/-- The fields `stopTransaction` resets under the connector's lock. -/
def resetTransaction (c : Connector) : Connector :=
  { c with transactionId := 0, transactionIdTag := "", transactionStart := 0 }

/-- No transaction is recorded on the connector. -/
def Idle (c : Connector) : Prop :=
  c.transactionId = 0 ∧ c.transactionIdTag = "" ∧ c.transactionStart = 0

@[simp] theorem setTransaction_transactionId (c : Connector) (t : Int) (s : DateTime)
    (tag : String) : (c.setTransaction t s tag).transactionId = t := rfl

@[simp] theorem setTransaction_transactionStart (c : Connector) (t : Int) (s : DateTime)
    (tag : String) : (c.setTransaction t s tag).transactionStart = s := rfl

@[simp] theorem setTransaction_transactionIdTag (c : Connector) (t : Int) (s : DateTime)
    (tag : String) : (c.setTransaction t s tag).transactionIdTag = tag := rfl

@[simp] theorem setTransaction_status (c : Connector) (t : Int) (s : DateTime)
    (tag : String) : (c.setTransaction t s tag).status = c.status := rfl

@[simp] theorem resetTransaction_transactionId (c : Connector) :
    c.resetTransaction.transactionId = 0 := rfl

@[simp] theorem resetTransaction_transactionStart (c : Connector) :
    c.resetTransaction.transactionStart = 0 := rfl

@[simp] theorem resetTransaction_transactionIdTag (c : Connector) :
    c.resetTransaction.transactionIdTag = "" := rfl

theorem resetTransaction_idle (c : Connector) : c.resetTransaction.Idle :=
  ⟨rfl, rfl, rfl⟩

end Connector

/-- The charge point's connectors: `chargePoint` is connector `0`, and
`connectors[i]` is connector `i + 1`. -/
structure Connectors where
  chargePoint : Connector
  connectors : List Connector
  deriving DecidableEq, Repr

namespace Connectors

/-- Modelled from the spec: the `Connectors` class is not under `src/`, so
`Connectors::getConnector` follows spec §4.1 (`get(id) → ConnectorState?`): connector 0
is the charge point, and there is no connector past the last one. -/
def getConnector (cs : Connectors) : Nat → Option Connector
  | 0 => some cs.chargePoint
  | i + 1 => cs.connectors[i]?

/-- Modelled from the spec: `Connectors::getConnectors` follows spec §4.1
(`list() → sequence`), every connector in id order. -/
def getConnectors (cs : Connectors) : List Connector :=
  cs.chargePoint :: cs.connectors

/-- Write connector `id` through the pointer `getConnector` returned. -/
def modify (cs : Connectors) (id : Nat) (f : Connector → Connector) : Connectors :=
  match id with
  | 0 => { cs with chargePoint := f cs.chargePoint }
  | i + 1 => { cs with connectors := cs.connectors.modify f i }

variable (cs : Connectors) (f : Connector → Connector)

@[simp] theorem getConnector_zero : cs.getConnector 0 = some cs.chargePoint := rfl

@[simp] theorem getConnector_modify_self (id : Nat) :
    (cs.modify id f).getConnector id = (cs.getConnector id).map f := by
  cases id <;> simp [modify, getConnector]

@[simp] theorem getConnector_modify_of_ne {id id' : Nat} (h : id ≠ id') :
    (cs.modify id f).getConnector id' = cs.getConnector id' := by
  cases id <;> cases id' <;> simp_all [modify, getConnector]

theorem getConnector_modify (id id' : Nat) :
    (cs.modify id f).getConnector id' =
      if id = id' then (cs.getConnector id').map f else cs.getConnector id' := by
  split
  · subst id'; exact getConnector_modify_self cs f id
  · exact getConnector_modify_of_ne cs f ‹_›

/-- The charge point's connectors are what `getConnector` finds. -/
theorem ext_getConnector {cs' : Connectors} (h : ∀ id, cs.getConnector id = cs'.getConnector id) :
    cs = cs' := by
  obtain ⟨chargePoint, connectors⟩ := cs
  obtain ⟨chargePoint', connectors'⟩ := cs'
  have hzero : chargePoint = chargePoint' := Option.some.inj (h 0)
  have hrest : connectors = connectors' := List.ext_getElem? fun i => h (i + 1)
  rw [hzero, hrest]

theorem chargePoint_modify (id : Nat) :
    (cs.modify id f).chargePoint = if id = 0 then f cs.chargePoint else cs.chargePoint := by
  cases id <;> rfl

/-- Writes through two different connectors' pointers commute. -/
theorem modify_comm (g : Connector → Connector) {id id' : Nat} (h : id ≠ id') :
    (cs.modify id f).modify id' g = (cs.modify id' g).modify id f := by
  refine ext_getConnector _ fun k => ?_
  simp only [getConnector_modify]
  split_ifs <;> first | rfl | omega

end Connectors

end Ocpp
