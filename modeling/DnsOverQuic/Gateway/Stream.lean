import DnsOverQuic.Failure
import DnsOverQuic.Octets

/-!
# Client streams

A stream delivers what the client sent before it finished its side, and takes
octets in return.  What a stream does when it is read and written is all that
a handler sees of it.
-/

namespace DnsOverQuic.Gateway

/-- What a stream does with octets that are written to it. -/
inductive Acceptance where
  | all
  | count (octets : Nat)
  | fault (failure : Failure)
deriving DecidableEq, Inhabited

/-- A stream that a client opened. -/
structure ClientStream where
  delivery : Except Failure Octets
  acceptance : Acceptance := .all
deriving Inhabited

namespace ClientStream

/-- Read until the client finishes; more octets than the limit are a failure. -/
def read
    (stream : ClientStream)
    (limit : Nat) :
    Except Failure Octets :=
  match stream.delivery with
  | .ok octets =>
      if octets.length ≤ limit then .ok octets else .error (.streamRead "stream too long")
  | .error failure => .error failure

/-- Write octets: how many of them the stream takes. -/
def write
    (stream : ClientStream)
    (octets : Octets) :
    Except Failure Nat :=
  match stream.acceptance with
  | .all => .ok octets.length
  | .count taken => .ok taken
  | .fault failure => .error failure

end ClientStream

/-- How the handling of a stream ended. -/
inductive Outcome where
  | undersized
  | malformed
  | keepaliveRejected
  | answered (resolverOk shortWrite : Bool)
  | writeFailed
deriving DecidableEq, Inhabited

namespace Outcome

/-- The word for the outcome. -/
def label :
    Outcome → String
  | undersized => "undersized"
  | malformed => "malformed"
  | keepaliveRejected => "keepalive_rejected"
  | answered true _ => "answered"
  | answered false _ => "answered_empty"
  | writeFailed => "write_failed"

/-- True if a response was written. -/
def isAnswered :
    Outcome → Bool
  | answered _ _ => true
  | _ => false

end Outcome

end DnsOverQuic.Gateway
