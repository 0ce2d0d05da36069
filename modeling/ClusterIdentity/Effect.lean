import ClusterIdentity.Duration
import ClusterIdentity.Event
import ClusterIdentity.Program
import ClusterIdentity.Table.Call

/-!
# Effects

What locking and claiming do to the world: they send requests to a store, report events, read
the clock and wait. Nothing else about the store is known to them, so their programs can be run
against any store, next to each other, and against failures of every kind.

## Main definitions

* `Effect`, `Effect.Answer`
* `Procedure`: programs over these effects
-/

namespace ClusterIdentity

/-- One thing that a procedure may do. -/
inductive Effect where
  /-- Sends a request to the store. -/
  | call (call : StoreCall)
  /-- Reports an event. -/
  | report (event : Event)
  /-- Reads the clock: milliseconds since the epoch. -/
  | clock
  | pause (duration : Duration)
  deriving DecidableEq

/-- The type of the answer to an effect. -/
def Effect.Answer : Effect → Type
  | call c => Except StoreError c.Reply
  | report _ => Unit
  | clock => UInt64
  | pause _ => Unit

/-- A program that works on a store. -/
abbrev Procedure (α : Type) := Program Effect Effect.Answer α

namespace Procedure

/-- Sends a request to the store. -/
def call (c : StoreCall) : Procedure (Except StoreError c.Reply) := Program.ask (Effect.call c)

/-- Reports an event. -/
def report (event : Event) : Procedure Unit := Program.ask (Effect.report event)

def clock : Procedure UInt64 := Program.ask Effect.clock

def pause (duration : Duration) : Procedure Unit := Program.ask (Effect.pause duration)

end Procedure

end ClusterIdentity
