import DoubleRatchet.Address
import DoubleRatchet.Cipher.Aes
import DoubleRatchet.Cipher.Gcm
import DoubleRatchet.Curve.Ed25519
import DoubleRatchet.Curve.Edwards
import DoubleRatchet.Curve.Field
import DoubleRatchet.Curve.X25519
import DoubleRatchet.Establishment
import DoubleRatchet.Fault
import DoubleRatchet.Hash.Hmac
import DoubleRatchet.Hash.Sha2
import DoubleRatchet.Host
import DoubleRatchet.Json.Shape
import DoubleRatchet.Json.Text
import DoubleRatchet.Json.Token
import DoubleRatchet.Json.Value
import DoubleRatchet.Key.Fault
import DoubleRatchet.Key.Generation
import DoubleRatchet.Key.Identity
import DoubleRatchet.Key.Pair
import DoubleRatchet.Key.PreKey
import DoubleRatchet.Limits
import DoubleRatchet.Log.Event
import DoubleRatchet.Log.Level
import DoubleRatchet.Log.Line
import DoubleRatchet.Log.Unprintable
import DoubleRatchet.Message.Envelope
import DoubleRatchet.Message.KeyExchange
import DoubleRatchet.Message.PreKeyWhisper
import DoubleRatchet.Message.Version
import DoubleRatchet.Message.Whisper
import DoubleRatchet.Negotiation
import DoubleRatchet.Octets.Basic
import DoubleRatchet.Octets.Endian
import DoubleRatchet.Octets.Hex
import DoubleRatchet.Ratchet.Chain
import DoubleRatchet.Ratchet.Root
import DoubleRatchet.Ratchet.Skipped
import DoubleRatchet.Session.Chains
import DoubleRatchet.Session.Record
import DoubleRatchet.Session.State
import DoubleRatchet.Standard
import DoubleRatchet.Store
import DoubleRatchet.Stored.Chains
import DoubleRatchet.Stored.Keys
import DoubleRatchet.Stored.Session
import DoubleRatchet.Suite
import DoubleRatchet.Table
import DoubleRatchet.Trace
import DoubleRatchet.Transport
import DoubleRatchet.Wire.Field
import DoubleRatchet.Wire.Varint
import DoubleRatchet.Proofs.Agreement
import DoubleRatchet.Proofs.Atomicity
import DoubleRatchet.Proofs.Batches
import DoubleRatchet.Proofs.Caching
import DoubleRatchet.Proofs.Codecs
import DoubleRatchet.Proofs.Completion
import DoubleRatchet.Proofs.Confirmation
import DoubleRatchet.Proofs.Convergence
import DoubleRatchet.Proofs.Correspondence.Arrival
import DoubleRatchet.Proofs.Correspondence.Course
import DoubleRatchet.Proofs.Correspondence.Letters
import DoubleRatchet.Proofs.Correspondence.Meeting
import DoubleRatchet.Proofs.Correspondence.Status
import DoubleRatchet.Proofs.Delivery
import DoubleRatchet.Proofs.Engine.Awaiting
import DoubleRatchet.Proofs.Engine.Blame
import DoubleRatchet.Proofs.Engine.Crossing
import DoubleRatchet.Proofs.Engine.Draws
import DoubleRatchet.Proofs.Engine.Establishing
import DoubleRatchet.Proofs.Engine.FailClosed
import DoubleRatchet.Proofs.Engine.Handshake
import DoubleRatchet.Proofs.Engine.History
import DoubleRatchet.Proofs.Engine.Ledger
import DoubleRatchet.Proofs.Engine.Lives
import DoubleRatchet.Proofs.Engine.Locality
import DoubleRatchet.Proofs.Engine.Operation
import DoubleRatchet.Proofs.Engine.Outcome
import DoubleRatchet.Proofs.Engine.Overtaking
import DoubleRatchet.Proofs.Engine.Perform
import DoubleRatchet.Proofs.Engine.Reachable
import DoubleRatchet.Proofs.Engine.Records
import DoubleRatchet.Proofs.Engine.Run
import DoubleRatchet.Proofs.Engine.Seeding
import DoubleRatchet.Proofs.Engine.Sequence
import DoubleRatchet.Proofs.Engine.Sessions
import DoubleRatchet.Proofs.Engine.Traffic
import DoubleRatchet.Proofs.Engine.Transporting
import DoubleRatchet.Proofs.Engine.Vouching
import DoubleRatchet.Proofs.Independence
import DoubleRatchet.Proofs.Json.Scan
import DoubleRatchet.Proofs.Json.Shape
import DoubleRatchet.Proofs.Json.Tree
import DoubleRatchet.Proofs.Message.Fitting
import DoubleRatchet.Proofs.Message.Reading
import DoubleRatchet.Proofs.Message.Refusing
import DoubleRatchet.Proofs.Outstanding
import DoubleRatchet.Proofs.Persistence
import DoubleRatchet.Proofs.Pinning
import DoubleRatchet.Proofs.Positions
import DoubleRatchet.Proofs.PreKeys
import DoubleRatchet.Proofs.PreviousCounters
import DoubleRatchet.Proofs.Ratchet.Cache
import DoubleRatchet.Proofs.Ratchet.Descent
import DoubleRatchet.Proofs.Ratchet.Selection
import DoubleRatchet.Proofs.Ratchet.Serving
import DoubleRatchet.Proofs.Ratchet.Tracking
import DoubleRatchet.Proofs.Refusals
import DoubleRatchet.Proofs.Renegotiation
import DoubleRatchet.Proofs.Replay
import DoubleRatchet.Proofs.Session.Agreement
import DoubleRatchet.Proofs.Session.Decider
import DoubleRatchet.Proofs.Session.Hearing
import DoubleRatchet.Proofs.Session.InPlace
import DoubleRatchet.Proofs.Session.Labels
import DoubleRatchet.Proofs.Session.Ladder
import DoubleRatchet.Proofs.Session.Opening
import DoubleRatchet.Proofs.Session.Positions
import DoubleRatchet.Proofs.Session.Receivers
import DoubleRatchet.Proofs.Session.Replay
import DoubleRatchet.Proofs.Session.Sealing
import DoubleRatchet.Proofs.Session.Soundness
import DoubleRatchet.Proofs.Session.Trial
import DoubleRatchet.Proofs.Session.Verdict
import DoubleRatchet.Proofs.Session.Voices
import DoubleRatchet.Proofs.Signatures
import DoubleRatchet.Proofs.Skipping
import DoubleRatchet.Proofs.Soundness
import DoubleRatchet.Proofs.Stored.Keys
import DoubleRatchet.Proofs.Stored.Session
import DoubleRatchet.Proofs.Suite.Newcomer
import DoubleRatchet.Proofs.Suite.Plain
import DoubleRatchet.Proofs.Trials
import DoubleRatchet.Proofs.Turning
import DoubleRatchet.Proofs.Wire.Field
import DoubleRatchet.Proofs.Wire.Reading
