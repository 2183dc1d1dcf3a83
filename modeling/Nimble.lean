import Nimble.Library.Machine
import Nimble.Library.UpDownCounter
import Nimble.Library.Trace
import Nimble.Library.ReorderBuffer
import Nimble.Library.SendWindow
import Nimble.Model.SmallLibraries
import Nimble.Model.ReorderingLibraries
import Nimble.Verification.Update
import Nimble.Verification.Watchdog
import Nimble.Verification.Disconnect
import Nimble.Verification.Deadline
import Nimble.Verification.Realizer
import Nimble.Verification.SequenceIds
import Nimble.Verification.Duplicates
import Nimble.Verification.Sessions
import Nimble.Verification.GameState
import Nimble.Verification.Alike
import Nimble.Verification.Reset
import Nimble.Verification.StepBuffers
import Nimble.Verification.AuthoritativeSteps
import Nimble.Verification.StepIntake
import Nimble.Verification.PhaseGating
import Nimble.Verification.PredictedSteps
import Nimble.Verification.Answers
import Nimble.Verification.Truncation
import Nimble.Verification.FailedFeeds
import Nimble.Verification.Clock
import Nimble.Verification.Disconnected
import Nimble.Verification.ConnectionId
import Nimble.Verification.Acknowledgement
import Nimble.Verification.Prediction
import Nimble.Verification.Participants
import Nimble.Verification.FailedSends
import Nimble.Verification.Pacing
import Nimble.Library.SequenceGaps
import Nimble.Verification.DatagramLoss
import Nimble.Verification.Describing
import Nimble.Verification.BlobAcks
import Nimble.Verification.RepeatedAnswers
import Nimble.Library.Ledger
import Nimble.Verification.GameStateBlocks
import Nimble.Library.Score
import Nimble.Verification.Rating
import Nimble.Library.Queue
import Nimble.Verification.TransportQueue
import Nimble.Library.RunningRecords
import Nimble.Verification.FeedTrace
import Nimble.Verification.OrderedDelivery
import Nimble.Verification.Phases
import Nimble.Verification.Progress
import Nimble.Verification.SendCadence
import Nimble.Verification.RequestBudget
import Nimble.Library.Thinning
import Nimble.Verification.TickDuration
import Nimble.Verification.TruthfulAcks
import Nimble.Verification.RoundTrips
import Nimble.Verification.Download
import Nimble.Verification.SendResults
import Nimble.Verification.Spectator
import Nimble.Library.Tickets
import Nimble.Verification.JoinRequests
import Nimble.Model.Example
import Nimble.Verification.Example
import Nimble.Verification.Traffic
