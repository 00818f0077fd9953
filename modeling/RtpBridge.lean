import RtpBridge.Media.Srtp.Agreement
import RtpBridge.Media.Srtp.Atomic
import RtpBridge.Media.Srtp.RtcpRoundTrip
import RtpBridge.Session.Rtp.Answers
import RtpBridge.Session.Rtp.Replay
import RtpBridge.Session.Dtmf.Timestamps
import RtpBridge.Session.Dtmf.Injection
import RtpBridge.Session.Dtmf.Negotiation
import RtpBridge.Session.Playout.GridRate
import RtpBridge.Session.FilePlayback
import RtpBridge.Session.FileSeek
import RtpBridge.Recording.SenderEpochs
import RtpBridge.Session.Playout.Restart
import RtpBridge.Session.Bridges
import RtpBridge.Session.Emptiness
import RtpBridge.Session.RoutingSafety
import RtpBridge.Session.Playout.SenderOrder
import RtpBridge.Session.Playout.Synth
import RtpBridge.Playback.CacheOwners
import RtpBridge.Control.Orphans
import RtpBridge.Recording.SelfDescribing
import RtpBridge.Recording.CaptureFrame
import RtpBridge.Session.RouteTable
import RtpBridge.Playback.DownloadPolicy
import RtpBridge.Playback.SharedPlayback
import RtpBridge.Control.Authorization
import RtpBridge.Media.SdpReading
import RtpBridge.Media.DtmfInverse
import RtpBridge.Media.RtcpReading
import RtpBridge.Media.Vad
import RtpBridge.Media.RtcpLoss
import RtpBridge.Session.WebRtc.Offers
import RtpBridge.Session.Mixer
import RtpBridge.Session.WebSocketIo
import RtpBridge.Session.SourceAudio
import RtpBridge.Control.Logging
import RtpBridge.Control.Shutdown
import RtpBridge.Media.HeaderWalk
import RtpBridge.Media.RtcpTiming
import RtpBridge.Net.SocketPool
