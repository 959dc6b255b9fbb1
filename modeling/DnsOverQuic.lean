import DnsOverQuic.Arguments.Commands
import DnsOverQuic.Client.Connection
import DnsOverQuic.Client.Query
import DnsOverQuic.Client.Report
import DnsOverQuic.Dns.NameText
import DnsOverQuic.Exchange.Datagram
import DnsOverQuic.Exchange.Network
import DnsOverQuic.Gateway.Meter
import DnsOverQuic.Gateway.Relay
import DnsOverQuic.Gateway.Routes
import DnsOverQuic.Gateway.Sampling
import DnsOverQuic.Gateway.Services
import DnsOverQuic.Gateway.Session
import DnsOverQuic.Main
import DnsOverQuic.Proofs.Accounting
import DnsOverQuic.Proofs.AddressText
import DnsOverQuic.Proofs.ClientQuery
import DnsOverQuic.Proofs.CounterTexts
import DnsOverQuic.Proofs.CredentialFiles
import DnsOverQuic.Proofs.EndToEnd
import DnsOverQuic.Proofs.ExchangeConduct
import DnsOverQuic.Proofs.ExchangeCourse
import DnsOverQuic.Proofs.GatewayCommandLine
import DnsOverQuic.Proofs.Handling
import DnsOverQuic.Proofs.IndependentExchanges
import DnsOverQuic.Proofs.Interleaving
import DnsOverQuic.Proofs.Isolation
import DnsOverQuic.Proofs.KeepaliveOption
import DnsOverQuic.Proofs.LeastSize
import DnsOverQuic.Proofs.ListenAddress
import DnsOverQuic.Proofs.MessageHeader
import DnsOverQuic.Proofs.MessageSize
import DnsOverQuic.Proofs.MeterViews
import DnsOverQuic.Proofs.PemText
import DnsOverQuic.Proofs.Relaying
import DnsOverQuic.Proofs.ReportLines
import DnsOverQuic.Proofs.ResolverFailure
import DnsOverQuic.Proofs.ResolverGrammar
import DnsOverQuic.Proofs.ResolverText
import DnsOverQuic.Proofs.ServerSpelling
import DnsOverQuic.Proofs.SessionProtocol
import DnsOverQuic.Proofs.SettingsLayers
import DnsOverQuic.Proofs.SharedCounters
import DnsOverQuic.Proofs.SpelledArguments
import DnsOverQuic.Proofs.Stepwise
import DnsOverQuic.Proofs.TornSnapshot
import DnsOverQuic.Proofs.TraceLanguage
import DnsOverQuic.Proofs.Transparency
import DnsOverQuic.Proofs.UniqueKeys
import DnsOverQuic.Proofs.ValidSettings
import DnsOverQuic.Proofs.WireForm
import DnsOverQuic.Proofs.WireWriting
