import ClusterIdentity.Table.Contents

/-!
# An in-memory store

A store that keeps its contents in memory and can be told to misbehave: to be switched off, to
fail the requests that fit certain descriptions, and to let other work go first whenever a
request reaches it.

## Main definitions

* `Memory`, `Memory.serve`
-/

namespace ClusterIdentity

/-- An in-memory store and its switches. -/
structure Memory where
  contents : Contents
  /-- Every request fails. -/
  switchedOff : Bool
  /-- Requests that fit one of these fail. -/
  faults : List CallPattern
  /-- A request waits once before it takes effect. -/
  interleaved : Bool

namespace Memory

/-- A store without rows that serves every request. -/
def new (interleaved : Bool) : Memory := ⟨∅, false, [], interleaved⟩

/-- Why the store refuses a request, if it does. Being switched off comes first. -/
def refusal? (memory : Memory) (call : StoreCall) : Option StoreError :=
  if memory.switchedOff then some (.unavailable .switchedOff)
  else if memory.faults.any (·.fits call) then
    some (.unavailable (.injected call.kind call.table))
  else none

/-- Serves a request. A refused request has no effect. -/
def serve (memory : Memory) (call : StoreCall) : Except StoreError call.Reply × Memory :=
  match memory.refusal? call with
  | some e => (.error e, memory)
  | none =>
    let (reply, contents) := memory.contents.perform call
    (.ok reply, { memory with contents })

def describe (memory : Memory) : String :=
  "MemoryStore \x7b unavailable: " ++ toString memory.switchedOff ++ ", interleaved: " ++
    toString memory.interleaved ++ " \x7d"

end Memory

end ClusterIdentity
