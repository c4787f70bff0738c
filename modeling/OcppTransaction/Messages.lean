import Mathlib.Logic.Function.Basic

/-!
# OCPP 1.6 messages of the transaction core

The enumerations and the request and response records that
`TransactionManager.cpp` builds and reads, with the fields it touches.

A request that the message sender could not deliver is queued in the transaction
FIFO as the pair `(action, payload)`. The payload is a JSON document in the source;
here it is the request it was serialized from, and `Payload.startTransactionReq`
is the converter `processFifoRequest` applies to read a queued start back.
-/

namespace Ocpp

/-- A timestamp in seconds; `0` is the unset `transaction_start` of a connector. -/
abbrev DateTime := Nat

inductive AuthorizationStatus where
  | accepted | blocked | expired | invalid | concurrentTx
  deriving DecidableEq, Repr

inductive ChargePointStatus where
  | available | preparing | charging | suspendedEV | suspendedEVSE | finishing | reserved
  | unavailable | faulted
  deriving DecidableEq, Repr

inductive Reason where
  | deAuthorized | emergencyStop | evDisconnected | hardReset | «local» | other | powerLoss
  | reboot | remote | softReset | unlockCommand
  deriving DecidableEq, Repr

inductive RegistrationStatus where
  | accepted | pending | rejected
  deriving DecidableEq, Repr

inductive RemoteStartStopStatus where
  | accepted | rejected
  deriving DecidableEq, Repr

/-- The outcome of `GenericMessageSender::call`: a response was received, or the
request could not be sent or was not answered. -/
inductive CallResult where
  | ok | failed
  deriving DecidableEq, Repr

structure IdTagInfo where
  status : AuthorizationStatus
  expiryDate : Option DateTime
  parentIdTag : Option String
  deriving DecidableEq, Repr

/-- A meter value as the meter values manager hands it over; the core never reads it. -/
structure MeterValue where
  timestamp : DateTime
  sampledValue : List String
  deriving DecidableEq, Repr

structure StartTransactionReq where
  connectorId : Nat
  idTag : String
  meterStart : Int
  reservationId : Option Int
  timestamp : DateTime
  deriving DecidableEq, Repr, Inhabited

structure StartTransactionConf where
  idTagInfo : IdTagInfo
  transactionId : Int
  deriving DecidableEq, Repr

structure StopTransactionReq where
  idTag : Option String
  meterStop : Int
  timestamp : DateTime
  transactionId : Int
  reason : Reason
  transactionData : List MeterValue
  deriving DecidableEq, Repr

structure StopTransactionConf where
  idTagInfo : Option IdTagInfo
  deriving DecidableEq, Repr

structure MeterValuesReq where
  connectorId : Nat
  transactionId : Option Int
  meterValue : List MeterValue
  deriving DecidableEq, Repr

/-- A charging profile is handed to the smart charging manager and never read here. -/
structure ChargingProfile where
  chargingProfileId : Int
  stackLevel : Nat
  deriving DecidableEq, Repr

structure RemoteStartTransactionReq where
  connectorId : Option Nat
  idTag : String
  chargingProfile : Option ChargingProfile
  deriving DecidableEq, Repr

structure RemoteStartTransactionConf where
  status : RemoteStartStopStatus
  deriving DecidableEq, Repr

structure RemoteStopTransactionReq where
  transactionId : Int
  deriving DecidableEq, Repr

structure RemoteStopTransactionConf where
  status : RemoteStartStopStatus
  deriving DecidableEq, Repr

def startTransactionAction : String := "StartTransaction"

def stopTransactionAction : String := "StopTransaction"

def meterValuesAction : String := "MeterValues"

/-- The payload of a queued request: the request it was serialized from. -/
inductive Payload where
  | startTransaction (request : StartTransactionReq)
  | stopTransaction (request : StopTransactionReq)
  | meterValues (request : MeterValuesReq)
  deriving DecidableEq, Repr

/-- One entry of the transaction FIFO. -/
structure FifoEntry where
  action : String
  payload : Payload
  deriving DecidableEq, Repr

/-- `StartTransactionReqConverter::fromJson` as `processFifoRequest` calls it: its
result is not checked, so a payload that is not a start request leaves the
default-constructed request. -/
def Payload.startTransactionReq : Payload → StartTransactionReq
  | .startTransaction request => request
  | _ => default

/-- The actions `processFifoRequest` sends (lines 400–447); any other entry fails
without a send. -/
def FifoEntry.Known (entry : FifoEntry) : Prop :=
  entry.action = startTransactionAction ∨ entry.action = stopTransactionAction ∨
    entry.action = meterValuesAction

instance (entry : FifoEntry) : Decidable entry.Known :=
  inferInstanceAs (Decidable (_ ∨ _ ∨ _))

/-- A response record the sender fills in on a successful call and the caller reads:
the answers to `StartTransaction` (lines 165 and 417–423) and to a direct
`StopTransaction` (line 268). -/
inductive Response where
  | startTransaction (conf : StartTransactionConf)
  | stopTransaction (conf : StopTransactionConf)
  deriving DecidableEq, Repr

/-- The FIFO entry the sender queues for a failed `StartTransaction` call. -/
def StartTransactionReq.entry (request : StartTransactionReq) : FifoEntry :=
  ⟨startTransactionAction, .startTransaction request⟩

/-- The FIFO entry the sender queues for a failed `StopTransaction` call. -/
def StopTransactionReq.entry (request : StopTransactionReq) : FifoEntry :=
  ⟨stopTransactionAction, .stopTransaction request⟩

end Ocpp
