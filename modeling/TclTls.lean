import TclTls.Accept
import TclTls.Alpn
import TclTls.Certificate
import TclTls.Connect
import TclTls.ContextExits
import TclTls.ContextRefs
import TclTls.Conversion
import TclTls.Defaults
import TclTls.Digest
import TclTls.DigestFailure
import TclTls.DigestMain
import TclTls.Duplex
import TclTls.Encrypt
import TclTls.EncryptCalls
import TclTls.EncryptFile
import TclTls.EncryptInstance
import TclTls.EncryptLength
import TclTls.EncryptMain
import TclTls.EncryptRead
import TclTls.Extensions
import TclTls.Handshake
import TclTls.HandshakeFinal
import TclTls.HandshakeFirst
import TclTls.Import
import TclTls.Input
import TclTls.IoContract
import TclTls.KdfRun
import TclTls.Lifetime
import TclTls.MiscReq
import TclTls.ModelChannel
import TclTls.OptionWords
import TclTls.Output
import TclTls.Password
import TclTls.Protocols
import TclTls.ReadErrors
import TclTls.Registration
import TclTls.Resource.Estate
import TclTls.SecureDefault
import TclTls.ServerName
import TclTls.SocketOptions
import TclTls.Stacks
import TclTls.Stream.Pipe
import TclTls.TimerRefs
import TclTls.TransformBuffer
import TclTls.TransformErrors
import TclTls.TransformLife
import TclTls.Transient
import TclTls.TrustSources
import TclTls.Unimport
import TclTls.Verdicts
import TclTls.Verify
import TclTls.Wants
import TclTls.Watch
