import Redelivery.Main
import Redelivery.Message.Json
import Redelivery.Notification.Bus
import Redelivery.Pipeline.Probe
import Redelivery.Exchange.Session
import Redelivery.Rehearsal.Reception
import Redelivery.Rehearsal.Session
import Redelivery.Proofs.Delivery.Course
import Redelivery.Proofs.Delivery.Handlers
import Redelivery.Proofs.FailureTable.Lookups
import Redelivery.Proofs.Delivery.Attempt
import Redelivery.Proofs.Delivery.Deferral
import Redelivery.Proofs.Delivery.Outcome
import Redelivery.Proofs.Processing.ModeAgreement
import Redelivery.Proofs.Processing.Settlement
import Redelivery.Proofs.Delivery.Separation
import Redelivery.Proofs.Processing.RetryRounds
import Redelivery.Proofs.Delivery.Interleaving
import Redelivery.Proofs.Receiver.MessageConservation
import Redelivery.Proofs.Receiver.Schedules
import Redelivery.Proofs.FailureTable.StageChanges
import Redelivery.Proofs.FailureTable.RecordInvariant
import Redelivery.Proofs.Delivery.RetryBound
import Redelivery.Proofs.Delivery.TimeIndependence
import Redelivery.Proofs.Delivery.Overlap
import Redelivery.Proofs.Processing.Deliveries
import Redelivery.Proofs.Processing.UnreadableMessages
import Redelivery.Proofs.Processing.RootCause
import Redelivery.Proofs.Processing.ForwardResumption
import Redelivery.Proofs.Processing.SentOperations
import Redelivery.Proofs.Processing.DeliveryCount
import Redelivery.Proofs.Processing.Notifications
import Redelivery.Proofs.Receiver.Settlement
import Redelivery.Proofs.Transport.Conservation
import Redelivery.Proofs.FailureTable.Recency
import Redelivery.Proofs.Processing.PolicyQuestions
import Redelivery.Proofs.Processing.PolicyAskedOnce
import Redelivery.Proofs.Demo.Batch
import Redelivery.Proofs.Delivery.RetryCounter
import Redelivery.Proofs.Processing.RetryNumbers
import Redelivery.Proofs.Receiver.Backoff
import Redelivery.Proofs.Json.Messages
import Redelivery.Proofs.Config.Settings
import Redelivery.Proofs.Notification.Subscriptions
import Redelivery.Proofs.Time.WireTime
import Redelivery.Proofs.Time.LinearDelays
import Redelivery.Proofs.Failure.Pools
import Redelivery.Proofs.Delivery.HandlerChains
