import OcppTransaction.Messages
import OcppTransaction.Connectors
import OcppTransaction.Manager
import OcppTransaction.StartTransaction
import OcppTransaction.StopTransaction
import OcppTransaction.RemoteHandlers
import OcppTransaction.ProcessFifo
import OcppTransaction.Refusals
import OcppTransaction.ChargePoint
import OcppTransaction.Sessions
import OcppTransaction.Delivery
import OcppTransaction.Scheduling
import OcppTransaction.Collaborators
import OcppTransaction.DrainInvocation
import OcppTransaction.Interleaving
import OcppTransaction.Progress
import OcppTransaction.Restart
