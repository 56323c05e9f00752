import WebrtcFileSender.Signaling.Tunnel
import WebrtcFileSender.Signaling.PeerJoined
import WebrtcFileSender.Client.HalfDuplex
import WebrtcFileSender.Client.DeferredWork
import WebrtcFileSender.Client.Emission
import WebrtcFileSender.Client.FailureFinal
import WebrtcFileSender.Session.System
import WebrtcFileSender.Session.Serial
import WebrtcFileSender.Session.ControlMessages
import WebrtcFileSender.Session.Outlook
import WebrtcFileSender.Session.Integrity
import WebrtcFileSender.Session.Arrival
import WebrtcFileSender.Session.Success
import WebrtcFileSender.Session.Stages
import WebrtcFileSender.Session.Regular
import WebrtcFileSender.Session.Undisturbed
import WebrtcFileSender.Net.Signals
import WebrtcFileSender.Net.Container
import WebrtcFileSender.Net.System
import WebrtcFileSender.Net.Effect
import WebrtcFileSender.Net.AutoSend
import WebrtcFileSender.Client.Decoding
import WebrtcFileSender.Net.Decoding
import WebrtcFileSender.Net.Negotiation
import WebrtcFileSender.Net.Candidates
import WebrtcFileSender.Net.OwnDescription
import WebrtcFileSender.Library.JavaScript
import WebrtcFileSender.Signaling.Uncaught
import WebrtcFileSender.Signaling.Directory
import WebrtcFileSender.Client.ReceivedSize
import WebrtcFileSender.Net.Observation
import WebrtcFileSender.Signaling.Roles
import WebrtcFileSender.Net.Roles
import WebrtcFileSender.Library.Tagged
import WebrtcFileSender.Net.Crossing
import WebrtcFileSender.Client.SavePanel
import WebrtcFileSender.Client.Involvement
import WebrtcFileSender.Client.Orderly
import WebrtcFileSender.Session.Aborts
import WebrtcFileSender.Client.LoopRun
import WebrtcFileSender.Client.Progress
import WebrtcFileSender.Net.Provenance
import WebrtcFileSender.Net.ReceiveLoop
import WebrtcFileSender.Net.Targets
import WebrtcFileSender.Net.Suppression
import WebrtcFileSender.Net.DeviceList
import WebrtcFileSender.Net.Application
import WebrtcFileSender.Session.Finishes
import WebrtcFileSender.Library.Weight
import WebrtcFileSender.Session.Quiescence
import WebrtcFileSender.Net.Quiescence
import WebrtcFileSender.Net.Exchange
import WebrtcFileSender.Net.Negotiated
import WebrtcFileSender.Net.OnlineDevices
import WebrtcFileSender.Net.Deployment
import WebrtcFileSender.Client.Disclosure
import WebrtcFileSender.Library.Lobby
import WebrtcFileSender.Signaling.Matchmaking
import WebrtcFileSender.Session.Destinations
import WebrtcFileSender.Session.Content
import WebrtcFileSender.Client.Cancellation
import WebrtcFileSender.Client.Backpressure
import WebrtcFileSender.Client.ReceivePage
