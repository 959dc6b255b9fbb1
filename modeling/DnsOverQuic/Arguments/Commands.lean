import DnsOverQuic.Arguments.Reading
import DnsOverQuic.Settings.Loading

/-!
# The two command lines

The gateway takes its settings from a file and lets flags override them.  The
client takes from its flags the server, the question and how to ask it.
-/

namespace DnsOverQuic

open Arguments

/-- The arguments of the gateway. -/
structure GatewayArguments where
  settingsFile : Option String := none
  bindAddress : Option String := none
  portNumber : Option UInt16 := none
  resolver : Option String := none
  certificateFile : Option String := none
  keyFile : Option String := none
  withDrafts : Bool := false
  metricsNumber : Option UInt16 := none
  logLevel : Option String := none
deriving DecidableEq, Inhabited

namespace GatewayArguments

/-- The flags of the gateway. -/
def flags : List Flag :=
  [⟨"config", some 'c', .valued .text⟩, ⟨"bind", some 'b', .valued .text⟩,
    ⟨"port", some 'p', .valued .socketNumber⟩, ⟨"upstream", some 'u', .valued .text⟩,
    ⟨"cert", none, .valued .path⟩, ⟨"key", none, .valued .path⟩,
    ⟨"tls-compat", none, .switch⟩, ⟨"metrics-port", none, .valued .socketNumber⟩,
    ⟨"log-level", none, .valued .text⟩]

/-- The arguments in what flags were given. -/
def ofGiven
    (given : List (String × Arguments.Value)) :
    GatewayArguments where
  settingsFile := textOf? given "config"
  bindAddress := textOf? given "bind"
  portNumber := socketNumberOf? given "port"
  resolver := textOf? given "upstream"
  certificateFile := textOf? given "cert"
  keyFile := textOf? given "key"
  withDrafts := isPresent given "tls-compat"
  metricsNumber := socketNumberOf? given "metrics-port"
  logLevel := textOf? given "log-level"

/-- Read the command line of the gateway. -/
def read
    (arguments : List String) :
    Except Fault GatewayArguments :=
  (Arguments.read flags arguments).map ofGiven

/-- What the arguments override. -/
def overrides
    (arguments : GatewayArguments) :
    Overrides where
  bindAddress := arguments.bindAddress
  portNumber := arguments.portNumber
  withDrafts := arguments.withDrafts
  certificateFile := arguments.certificateFile
  keyFile := arguments.keyFile
  resolver := arguments.resolver
  metricsNumber := arguments.metricsNumber
  logLevel := arguments.logLevel

/-- Load the settings of the run. -/
def load
    (arguments : GatewayArguments)
    (files : Files) :
    Except Settings.LoadFault Settings :=
  Settings.loadValid files arguments.settingsFile arguments.overrides

end GatewayArguments

/-- The arguments of the client. -/
structure ClientArguments where
  server : String := "[::1]:784"
  trustsAny : Bool := false
  security : Bool := true
  recursion : Bool := true
  queryName : String := "example.com."
  queryType : String := "A"
  withDrafts : Bool := false
deriving DecidableEq, Inhabited

namespace ClientArguments

/-- The flags of the client. -/
def flags : List Flag :=
  [⟨"server", none, .valued .text⟩, ⟨"insecure-skip-verify", none, .switch⟩,
    ⟨"dnssec", none, .valued .truth⟩, ⟨"recursion", none, .valued .truth⟩,
    ⟨"query-name", none, .valued .text⟩, ⟨"query-type", none, .valued .text⟩,
    ⟨"compat", none, .switch⟩]

/-- The arguments in what flags were given. -/
def ofGiven
    (given : List (String × Arguments.Value)) :
    ClientArguments :=
  let standard : ClientArguments := {}
  { server := (textOf? given "server").getD standard.server
    trustsAny := isPresent given "insecure-skip-verify"
    security := (truthOf? given "dnssec").getD standard.security
    recursion := (truthOf? given "recursion").getD standard.recursion
    queryName := (textOf? given "query-name").getD standard.queryName
    queryType := (textOf? given "query-type").getD standard.queryType
    withDrafts := isPresent given "compat" }

/-- Read the command line of the client. -/
def read
    (arguments : List String) :
    Except Fault ClientArguments :=
  (Arguments.read flags arguments).map ofGiven

end ClientArguments

end DnsOverQuic
