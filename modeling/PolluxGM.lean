import PolluxGM.ClientErrors
import PolluxGM.HeaderProtection
import PolluxGM.Decline
import PolluxGM.SetupRun
import PolluxGM.KeyHistory
import PolluxGM.ZeroRtt
import PolluxGM.ServerGate
import PolluxGM.TlcpNonce
import PolluxGM.CrlAuto
import PolluxGM.HybridListener
import PolluxGM.SshRequests
import PolluxGM.ShortHeader
import PolluxGM.HelloRetry
import PolluxGM.MessageCodec
import PolluxGM.TicketRotation
import PolluxGM.ReplayMemory
import PolluxGM.CryptoFrame
import PolluxGM.Negotiation
import PolluxGM.OcspCreate
import PolluxGM.TlcpAgreement
import PolluxGM.TlcpProtection
import PolluxGM.TlcpDecrypt
import PolluxGM.KeyWrap
import PolluxGM.Sm4Kdf
import PolluxGM.Envelope
import PolluxGM.KeyUsages
import PolluxGM.CertLoad
import PolluxGM.KeyParse
import PolluxGM.OcspNonce
import PolluxGM.PwHash
import PolluxGM.Derivation
