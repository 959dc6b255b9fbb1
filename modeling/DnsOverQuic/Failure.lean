/-!
# Failures

Everything that can go wrong between reading a command line and closing a
stream, by cause.  The wording of a failure is in one place, `Failure.message`.
-/

namespace DnsOverQuic

/-- A cause of failure, with what its message names. -/
inductive Failure where
  | invalidMessage (detail : String)
  | unencodable (detail : String)
  | resolverConnect (server reason : String)
  | resolverWrite (server reason : String)
  | resolverRead (server reason : String)
  | resolverReply (server reason : String)
  | resolverTimeout (server : String)
  | streamRead (detail : String)
  | streamWrite (detail : String)
  | streamOpen (detail : String)
  | sessionAccept (detail : String)
  | connect (server reason : String)
  | tls (detail : String)
  | listen (address reason : String)
  | inputOutput (detail : String)
  | settings (detail : String)
deriving DecidableEq, Inhabited

namespace Failure

/-- The message that reports the failure. -/
def message :
    Failure → String
  | invalidMessage detail => "Invalid DNS message: " ++ detail
  | unencodable detail => "Failed to encode DNS message: " ++ detail
  | resolverConnect server reason =>
      "Upstream connect to " ++ server ++ " failed: " ++ reason
  | resolverWrite server reason =>
      "Upstream query write to " ++ server ++ " failed: " ++ reason
  | resolverRead server reason =>
      "Upstream query read from " ++ server ++ " failed: " ++ reason
  | resolverReply server reason =>
      "Upstream response from " ++ server ++ " could not be decoded: " ++ reason
  | resolverTimeout server => "Upstream query to " ++ server ++ " timed out"
  | streamRead detail => "QUIC stream read failed: " ++ detail
  | streamWrite detail => "QUIC stream write failed: " ++ detail
  | streamOpen detail => "QUIC stream open failed: " ++ detail
  | sessionAccept detail => "QUIC stream accept failed: " ++ detail
  | connect server reason => "QUIC connection to " ++ server ++ " failed: " ++ reason
  | tls detail => "TLS configuration error: " ++ detail
  | listen address reason =>
      "Failed to start QUIC listener on " ++ address ++ ": " ++ reason
  | inputOutput detail => "I/O error: " ++ detail
  | settings detail => "Configuration error: " ++ detail

/-- True for the failures of an exchange with the resolver. -/
def concernsResolver :
    Failure → Bool
  | resolverConnect _ _ => true
  | resolverWrite _ _ => true
  | resolverRead _ _ => true
  | resolverReply _ _ => true
  | resolverTimeout _ => true
  | _ => false

end Failure

end DnsOverQuic
