/-!
# Counters

The gateway counts the streams that delivered a message of admissible size,
the queries that it forwarded, and the exchanges with the resolver that failed.
The counts wrap around at 2 ^ 64.
-/

namespace DnsOverQuic.Gateway

/-- What is counted. -/
inductive Counter where
  | queries
  | validQueries
  | resolverFailures
deriving DecidableEq, Inhabited

/-- The three counts. -/
structure Counters where
  queries : UInt64 := 0
  validQueries : UInt64 := 0
  resolverFailures : UInt64 := 0
deriving DecidableEq, Inhabited

namespace Counters

/-- No counts. -/
def zero : Counters := {}

/-- One count. -/
def get
    (counters : Counters) :
    Counter → UInt64
  | .queries => counters.queries
  | .validQueries => counters.validQueries
  | .resolverFailures => counters.resolverFailures

/-- Add one to a count. -/
def increment
    (counters : Counters) :
    Counter → Counters
  | .queries => { counters with queries := counters.queries + 1 }
  | .validQueries => { counters with validQueries := counters.validQueries + 1 }
  | .resolverFailures => { counters with resolverFailures := counters.resolverFailures + 1 }

/-- An increment adds one to its own count and to no other. -/
theorem get_increment
    (counters : Counters)
    (incremented counter : Counter) :
    (counters.increment incremented).get counter =
      if counter = incremented then counters.get counter + 1 else counters.get counter := by
  cases incremented <;> cases counter <;> rfl

end Counters

end DnsOverQuic.Gateway
