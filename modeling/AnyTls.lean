import AnyTls.Library.BigEndian
import AnyTls.Library.Framing
import AnyTls.Library.Runs
import AnyTls.Library.RustText
import AnyTls.Protocol.Frame
import AnyTls.Protocol.Codec
import AnyTls.Session.StreamReader
import AnyTls.Util.StringMap
import AnyTls.Padding.Factory
import AnyTls.Util.Auth
import AnyTls.Session.WritePadding
import AnyTls.Util.Error
import AnyTls.Session.State
import AnyTls.Session.HandleFrame
import AnyTls.Session.Lifecycle
import AnyTls.Session.Registry
import AnyTls.Session.Opening
import AnyTls.Server.Handler
import AnyTls.Session.WriteOrder
import AnyTls.Library.SortedMap
import AnyTls.Client.SessionPool
import AnyTls.Client.Client
import AnyTls.Session.Delivery
import AnyTls.Session.Transport
import AnyTls.Client.Connection
import AnyTls.Session.StreamIds
import AnyTls.Client.Socks5
import AnyTls.Client.HttpProxy
import AnyTls.Client.Destination
import AnyTls.Server.UdpProxy
import AnyTls.Util.CertAnalyzer
import AnyTls.Util.DnsCache
import AnyTls.Client.HttpHeader
import AnyTls.Session.Heartbeat
import AnyTls.Client.ProxyStream
import AnyTls.Util.CertWatcher
import AnyTls.Session.StreamData
import AnyTls.Session.Negotiation
import AnyTls.Bin.CommandLine
import AnyTls.Bin.Startup
