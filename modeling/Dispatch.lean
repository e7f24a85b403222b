import Dispatch.Abi
import Dispatch.Address
import Dispatch.Backend
import Dispatch.Balance
import Dispatch.Base64
import Dispatch.Binary64
import Dispatch.Bytes
import Dispatch.Call
import Dispatch.Curve.Basic
import Dispatch.Curve.Ecdsa
import Dispatch.Digest.Keccak
import Dispatch.Digest.Sha256
import Dispatch.Dotenv
import Dispatch.Duration
import Dispatch.Envelope
import Dispatch.Failure
import Dispatch.Fees
import Dispatch.Hex
import Dispatch.Http.Status
import Dispatch.Json.Decode
import Dispatch.Json.Tree
import Dispatch.Json.Value
import Dispatch.JsonRpc.Gateway
import Dispatch.JsonRpc.Reply
import Dispatch.JsonRpc.Revert
import Dispatch.Message
import Dispatch.Node
import Dispatch.Nonces
import Dispatch.Outcome
import Dispatch.Outside
import Dispatch.Pem.Armor
import Dispatch.Pem.Key
import Dispatch.Program
import Dispatch.Queue.Broker
import Dispatch.Queue.Completion
import Dispatch.Queue.Exchange
import Dispatch.Queue.Score
import Dispatch.Queue.Wallet
import Dispatch.Retry
import Dispatch.Rlp
import Dispatch.Settings
import Dispatch.Setup
import Dispatch.Simulation
import Dispatch.Submission
import Dispatch.Text.Alphanumeric
import Dispatch.Text.Blank
import Dispatch.Text.Decimal
import Dispatch.Text.Lossy
import Dispatch.Text.Quoted
import Dispatch.Text.Unprintable
import Dispatch.Transaction
import Dispatch.Url
import Dispatch.Waiting
import Dispatch.Wallet.Config
import Dispatch.Wallet.DerivationPath
import Dispatch.Wallet.Enclave
import Dispatch.Wallet.Ledger
import Dispatch.Wallet.Local
import Dispatch.Wallet.Remote
import Dispatch.Proofs.Course
import Dispatch.Proofs.WaitRounds
import Dispatch.Proofs.Stages
import Dispatch.Proofs.Clearance
import Dispatch.Proofs.Repetition
import Dispatch.Proofs.NonceRuns
import Dispatch.Proofs.Digits
import Dispatch.Proofs.RlpForm
import Dispatch.Proofs.SignedBytes
import Dispatch.Proofs.EnvelopeForm
import Dispatch.Proofs.OutsideCourse
import Dispatch.Proofs.RemoteSigner
import Dispatch.Proofs.HexDigits
import Dispatch.Proofs.JsonText
import Dispatch.Proofs.Utf8
import Dispatch.Proofs.DeviceSigning
import Dispatch.Proofs.EnclaveSigning
import Dispatch.Proofs.SignersAgree
import Dispatch.Proofs.BrokerMail
import Dispatch.Proofs.QueueTraffic
import Dispatch.Proofs.TicketHands
import Dispatch.Proofs.TicketKeeping
import Dispatch.Proofs.TicketCourse
import Dispatch.Proofs.Completions
import Dispatch.Proofs.RetrySchedule
import Dispatch.Proofs.Deadlines
import Dispatch.Proofs.BrokerChannels
import Dispatch.Proofs.QueueCalls
import Dispatch.Proofs.TicketAccounts
import Dispatch.Proofs.CallEffects
import Dispatch.Proofs.QueueSessions
import Dispatch.Proofs.ChannelAccounts
import Dispatch.Proofs.WaitingAgain
import Dispatch.Proofs.RlpReading
import Dispatch.Proofs.EnvelopeReading
import Dispatch.Proofs.DraftText
import Dispatch.Proofs.HonestService
import Dispatch.Proofs.Covering
import Dispatch.Proofs.EnclaveAnswers
import Dispatch.Proofs.OutstandingNonces
import Dispatch.Proofs.AddressAnswers
import Dispatch.Proofs.DeviceAnswers
import Dispatch.Proofs.BrokerHistory
import Dispatch.Proofs.FreeFormText
import Dispatch.Proofs.QueueRecords
import Dispatch.Proofs.QueueSends
import Dispatch.Proofs.ForeignDrafts
import Dispatch.Proofs.SimulatedGas
import Dispatch.Proofs.JoinedQuestions
import Dispatch.Proofs.OneChain
import Dispatch.Proofs.Interpretation
import Dispatch.Proofs.NodeReplies
import Dispatch.Proofs.Confirmations
import Dispatch.Proofs.InclusionBlocks
import Dispatch.Proofs.NodeFailures
import Dispatch.Proofs.Polling
import Dispatch.Proofs.ConfirmationWaits
import Dispatch.Proofs.FeeQuotes
import Dispatch.Proofs.ServiceAnswers
import Dispatch.Proofs.CompletionText
import Dispatch.Proofs.CallData
import Dispatch.Proofs.TextLines
import Dispatch.Proofs.KeyTexts
import Dispatch.Proofs.BareKeys
import Dispatch.Proofs.DeviceCommands
import Dispatch.Proofs.QueueOrder
import Dispatch.Proofs.AccountPaths
import Dispatch.Proofs.EmulatorStream
import Dispatch.Proofs.SignatureAnswers
