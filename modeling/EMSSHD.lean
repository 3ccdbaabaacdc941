import EMSSHD.Core.Packet.Delivery
import EMSSHD.Core.Transport.Transcript
import EMSSHD.Server.Sftp.Room
import EMSSHD.Server.Reply.Session
import EMSSHD.Server.Terminal.Input
import EMSSHD.App.SameUser
import EMSSHD.Sftp.Mediation
import EMSSHD.Sftp.Ownership
import EMSSHD.Sftp.RequestId
import EMSSHD.App.Emtask.Feed
import EMSSHD.App.Emtask.SessionManager
import EMSSHD.App.Emtask.Restart
import EMSSHD.App.Emtask.TermSize
import EMSSHD.App.Emtask.Replay
import EMSSHD.App.Emtask.Worker
import EMSSHD.App.Emtask.Register
import EMSSHD.App.Emtask.PanelHttp
import EMSSHD.App.Emtask.PanelTasks
import EMSSHD.Core.Packet.Rejection
import EMSSHD.Core.Packet.Counter
import EMSSHD.Core.Connection.Agreement
import EMSSHD.Core.Transport.Activation
import EMSSHD.Core.Transport.Rekey
import EMSSHD.Core.Transport.Guess
import EMSSHD.Core.Transport.Ignorable
import EMSSHD.Core.KexinitCodec
import EMSSHD.Core.Userauth.SignedData
import EMSSHD.Core.Userauth.Advertised
import EMSSHD.Server.Accounting
import EMSSHD.Server.Stack
import EMSSHD.Core.Transport.Identification
import EMSSHD.Sftp.Canonical
import EMSSHD.Sftp.AttrsCodec
import EMSSHD.Sftp.OpenRefusal
import EMSSHD.Platform.SshdConfig.ListenAddress
import EMSSHD.Crypto.KeyDerivation
import EMSSHD.Crypto.Pem
import EMSSHD.Crypto.Pkcs1
import EMSSHD.Crypto.RsaBlob
import EMSSHD.Platform.PortableFs
