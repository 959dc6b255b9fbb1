import DnsOverQuic.Gateway.Meter
import DnsOverQuic.Gateway.Session

/-!
# Sampling a running gateway

A snapshot is put together from three reads, one of each counter, in a fixed
order.  Nothing keeps the tasks of streams from counting between two of them.
So the gateway and the reader of a snapshot take their steps in any order: each
mover is an actor of a session, which takes its turn, or the reader, which does
its next read.
-/

namespace DnsOverQuic.Gateway

open Dns

/-- How far the reads of a snapshot have come, with the counts read so far. -/
inductive Sampling where
  | begun
  | readQueries (queries : UInt64)
  | readValidQueries (queries validQueries : UInt64)
  | taken (counters : Counters)
deriving DecidableEq, Inhabited

namespace Sampling

/-- Do the next read; a snapshot that has been taken stays as it is. -/
def read
    (count : Counter → UInt64) :
    Sampling → Sampling
  | begun => readQueries (count .queries)
  | readQueries queries => readValidQueries queries (count .validQueries)
  | readValidQueries queries validQueries =>
      taken ⟨queries, validQueries, count .resolverFailures⟩
  | taken counters => taken counters

/-- The snapshot of a meter is what its reads come to if nothing is counted between them. -/
theorem read_snapshot
    (meter : Meter)
    (cells : Cells) :
    let count := fun counter => (meter.tally counter).read cells
    ((begun.read count).read count).read count = taken (meter.snapshot cells) :=
  rfl

end Sampling

/-- A running gateway, and a snapshot that is being taken of it. -/
structure Observed where
  running : Running
  sampling : Sampling := .begun
deriving Inhabited

/-- Who moves: an actor of a session, given with its place, or the reader. -/
inductive Mover where
  | actor (turn : Nat × Actor)
  | reader
deriving DecidableEq, Inhabited

/-- The turn of a mover that is an actor. -/
def Mover.turn? :
    Mover → Option (Nat × Actor)
  | actor turn => some turn
  | reader => none

namespace Observed

section

variable
    (handler : Handler)
    (forward : Nat → Nat → Forwarder)
    (held : Nat → Nat → Message → Bool)

/-- Let a mover move. -/
def move
    (observed : Observed) :
    Mover → Observed
  | .actor turn =>
      { observed with running := observed.running.turn handler forward held turn }
  | .reader =>
      { observed with sampling := observed.sampling.read observed.running.counters.get }

/-- Let movers move one after the other. -/
def run
    (movers : List Mover)
    (observed : Observed) :
    Observed :=
  movers.foldl (move handler forward held) observed

/-- The counters at an instant of a run, which is given by the number of moves before it. -/
def countersAt
    (movers : List Mover)
    (observed : Observed)
    (instant : Nat) :
    Counters :=
  (observed.run handler forward held (movers.take instant)).running.counters

end

end Observed

end DnsOverQuic.Gateway
