import DnsOverQuic.Arguments.Commands
import DnsOverQuic.Client.Query
import DnsOverQuic.Client.Report
import DnsOverQuic.Dns.NameText
import DnsOverQuic.Exchange.Datagram
import DnsOverQuic.Gateway.Routes
import DnsOverQuic.Gateway.Services
import DnsOverQuic.Gateway.Task

/-!
# The command lines, run

The program is the gateway, or the client if its first argument says so.  The
carriage of streams and datagrams is left to a transport program at the other
end of the standard streams, which are read and written line by line; octets
are written in hexadecimal.

To the gateway, a line with a path asks for what can be read there, and any
other line is what a stream delivered.  The gateway answers with the lines
`forward`, `write` and `close`, and reads one line after `forward`: the
datagram from the resolver, `fault` with a reason, or nothing if there was none.
To the client, the line that it reads is the response.
-/

namespace DnsOverQuic.Main

open Dns Gateway

/-- The octets that hexadecimal digits stand for. -/
def octets? :
    List Char → Option Octets
  | [] => some []
  | high :: low :: rest => do
      let first ← Text.Hexadecimal.digitValue? high
      let second ← Text.Hexadecimal.digitValue? low
      return UInt8.ofNat (16 * first + second) :: (← octets? rest)
  | _ => none

/-- Octets in hexadecimal digits. -/
def digits
    (octets : Octets) :
    String :=
  String.ofList (octets.flatMap (fun octet =>
    [Nat.digitChar (octet.toNat / 16), Nat.digitChar (octet.toNat % 16)]))

/-- Read a line, without its end; there is none when the input has ended. -/
def readLine : IO (Option String) := do
  let line ← (← IO.getStdin).getLine
  return if line.isEmpty then none else some line.trimAscii.toString

/-- Report what went wrong, from the failed step down to its cause. -/
def complain
    (messages : List String) :
    IO Unit := do
  let output ← IO.getStderr
  for message in messages do
    output.putStrLn message

/-- The files that exist among paths. -/
def findFiles
    (paths : List String) :
    IO Files := do
  let mut entries : List (String × File) := []
  for path in paths do
    try
      let content ← IO.FS.readBinFile path
      entries := entries ++ [(path, .regular content.toList)]
    catch error =>
      match error with
      | .inappropriateType .. => entries := entries ++ [(path, .directory)]
      | _ => pure ()
  return ⟨entries⟩

/-- What the resolver did, as the transport tells it. -/
def receptionOf
    (line : String) :
    Exchange.Reception :=
  if line.isEmpty then
    .silence
  else
    match octets? line.toList with
    | some octets => .datagram octets
    | none => .fault line

/-- What the resolver answers to a query that has been handed to the transport. -/
def await
    (services : Services) :
    IO Forwarder := do
  let line := (← readLine).getD ""
  let server := Exchange.serverText services.handler.resolver
  let result := Exchange.conclude services.handler.codec services.timeout server (receptionOf line)
  return fun _ _ => result.getD (.error (.resolverTimeout server))

/-- Hand an event to the transport. -/
def announce
    (services : Services)
    (event : Event) :
    IO Unit := do
  match event with
  | .forward resolver message =>
      let octets := (services.handler.codec.encode message).getD []
      IO.println ("forward " ++ Exchange.serverText resolver ++ " " ++ digits octets)
  | .write octets => IO.println ("write " ++ digits octets)
  | .close => IO.println "close"
  | .read _ | .count _ => pure ()

/-- Take a stream from a stage to its end. -/
partial def advance
    (services : Services)
    (stream : ClientStream)
    (stage : Stage)
    (counters : Counters) :
    IO Counters := do
  let forward ←
    match stage with
    | .waiting _ => await services
    | _ => pure (fun _ _ => .error (.resolverTimeout ""))
  match stage.step? services.handler forward stream with
  | some (event, next) =>
      announce services event
      advance services stream next (counters.afterEvent event)
  | none => return counters

/-- Serve what the transport hands over, until it ends. -/
partial def serve
    (services : Services) :
    IO Unit := do
  match ← readLine with
  | none => pure ()
  | some line =>
      if line.startsWith "/" then
        let texts := Routes.Texts.of .standard (Exposition.families services.counters)
          services.counters
        IO.println (String.ofList (Routes.respond texts "GET" line.toList).body)
        serve services
      else
        let stream : ClientStream := ⟨.ok ((octets? line.toList).getD []), .all⟩
        serve { services with counters := ← advance services stream .opened services.counters }

/-- Run the gateway. -/
def runGateway
    (arguments : List String) :
    IO UInt32 := do
  match GatewayArguments.read arguments with
  | .error .helpAsked | .error .versionAsked => return 0
  | .error _ =>
      complain ["the arguments cannot be used"]
      return 2
  | .ok arguments =>
      let sources := arguments.settingsFile.toList ++ Settings.standardPaths
      match arguments.load (← findFiles sources) with
      | .error fault =>
          complain fault.messages
          return 1
      | .ok settings =>
          let identity := settings.identity
          let files ← findFiles (identity.certificateFile.toList ++ identity.keyFile.toList)
          match start files settings with
          | .error fault =>
              complain fault.messages
              return 1
          | .ok (services, listener) =>
              IO.println ("listen " ++ String.ofList listener.address.text)
              serve services
              return 0

/-- Run the client. -/
def runClient
    (arguments : List String) :
    IO UInt32 := do
  match ClientArguments.read arguments with
  | .error .helpAsked | .error .versionAsked => return 0
  | .error _ =>
      complain ["the arguments cannot be used"]
      return 2
  | .ok arguments =>
      match Name.read? arguments.queryName.toList, Client.recordType? arguments.queryType with
      | some name, some type =>
          let id := UInt16.ofNat (← IO.rand 0 65535)
          let query := Client.query id name type arguments.recursion arguments.security
          match Codec.wire.encode query with
          | none =>
              complain ["the query cannot be encoded"]
              return 1
          | some octets =>
              IO.println ("ask " ++ arguments.server ++ " " ++ digits octets)
              let line := (← readLine).getD ""
              match (octets? line.toList).bind Codec.wire.decode with
              | some response =>
                  IO.print (String.ofList (Client.Report.text response))
                  return 0
              | none =>
                  complain ["the response is not a message"]
                  return 1
      | none, _ =>
          complain ["Invalid query name " ++ arguments.queryName]
          return 1
      | _, none =>
          complain ["Invalid query type " ++ arguments.queryType]
          return 1

end DnsOverQuic.Main

/-- The program: the client if the first argument says so, or else the gateway. -/
def main
    (arguments : List String) :
    IO UInt32 :=
  match arguments with
  | "client" :: arguments => DnsOverQuic.Main.runClient arguments
  | arguments => DnsOverQuic.Main.runGateway arguments
