import SelfRelay.Backend.AttemptLimit
import SelfRelay.Backend.Authentication
import SelfRelay.Backend.Base64url
import SelfRelay.Backend.BodyLimit
import SelfRelay.Backend.Capacity
import SelfRelay.Backend.CleanupInvisible
import SelfRelay.Backend.DeviceLifecycle
import SelfRelay.Backend.Enrolment
import SelfRelay.Backend.ExpiredTransfers
import SelfRelay.Backend.LogoutRaces
import SelfRelay.Backend.LogoutSockets
import SelfRelay.Backend.MemoryRefinement
import SelfRelay.Backend.OtpBootstrap
import SelfRelay.Backend.OtpGuesses
import SelfRelay.Backend.OutboundWriter
import SelfRelay.Backend.PresenceLeaks
import SelfRelay.Backend.RateLimitAgreement
import SelfRelay.Backend.RateLimitRaces
import SelfRelay.Backend.RedactedTwice
import SelfRelay.Backend.RelayIsolation
import SelfRelay.Backend.SessionExpiry
import SelfRelay.Backend.SessionRotation
import SelfRelay.Backend.SignatureForms
import SelfRelay.Backend.SignedBytes
import SelfRelay.Backend.SingleUseSignaling
import SelfRelay.Backend.SocketAdmission
import SelfRelay.Backend.SocketFrames
import SelfRelay.Backend.WriteSafety
import SelfRelay.Client.DisposedRuns
import SelfRelay.Client.NeverWedged
import SelfRelay.Protocol.CanonicalText
import SelfRelay.Protocol.CreateFrame
import SelfRelay.Protocol.DerSignature
import SelfRelay.Protocol.FrameHeaderCodec
import SelfRelay.Protocol.SecureChannel
import SelfRelay.Protocol.StrictJson
import SelfRelay.Protocol.Transcript
import SelfRelay.Session.ClosedSession
import SelfRelay.Session.IceCandidates
import SelfRelay.Transfer.Agreement
import SelfRelay.Transfer.Confirmation
import SelfRelay.Transfer.Delivery
import SelfRelay.Transfer.DigestNumbers
import SelfRelay.Transfer.FailureReport
import SelfRelay.Transfer.FileName
import SelfRelay.Transfer.HandlerRestoration
import SelfRelay.Transfer.HonestOffer
import SelfRelay.Transfer.InOrder
import SelfRelay.Transfer.Orphans
import SelfRelay.Transfer.Partition
import SelfRelay.Transfer.PlainName
import SelfRelay.Transfer.Received
import SelfRelay.Transfer.Reservation
import SelfRelay.Transfer.Terminal
