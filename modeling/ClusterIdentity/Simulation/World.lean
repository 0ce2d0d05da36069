import ClusterIdentity.Claim.Registry
import ClusterIdentity.Claim.Retry
import ClusterIdentity.Dynamo.Answer
import ClusterIdentity.Dynamo.Client
import ClusterIdentity.Dynamo.Wire
import ClusterIdentity.Simulation.Interceptor
import ClusterIdentity.Table.Memory

/-!
# The world of a simulation

One store behind an interceptor, the clock, and a record of what happened. Programs of a
simulation may do all that procedures do, and besides work the switches of the store, keep locks
under names and report results.

## Main definitions

* `Backend`: the store, in memory or remote with scripted answers
* `Action`, `Result`: what programs of a simulation may do and report
* `World`, `World.answer`: carries out one action
-/

namespace ClusterIdentity.Simulation

/-! ### Stores -/

/-- What becomes of a request to a remote service. -/
inductive Delivery where
  | answered (reply : Dynamo.HttpReply)
  | lost

/-- A connection with scripted answers, and the requests sent over it, the latest first. -/
structure Wire where
  script : List Delivery
  sent : List Dynamo.Request

/-- Sends a request. When the script has run out, the connection fails. -/
def Wire.send (request : Dynamo.Request) (wire : Wire) :
    Except Dynamo.Failure request.Output × Wire :=
  let sent := request :: wire.sent
  match wire.script with
  | [] => (.error .connection, ⟨[], sent⟩)
  | .lost :: script => (.error .connection, ⟨script, sent⟩)
  | .answered reply :: script => (request.decode reply, ⟨script, sent⟩)

/-- How many requests find an answer, and the one that finds none any more. -/
def Wire.rounds (wire : Wire) : Nat := wire.script.length + 1

inductive Backend where
  | memory (memory : Memory)
  | remote (wire : Wire)

namespace Backend

def serve (call : StoreCall) : Backend → Except StoreError call.Reply × Backend
  | memory m =>
    let (answer, m) := m.serve call
    (answer, memory m)
  | remote wire =>
    let (answer, wire) := (Dynamo.Client.perform wire.rounds call).run Wire.send wire
    (answer, remote wire)

/-- Creates a table unless it exists. Tables in memory need not be created. -/
def ensureTable (table : String) :
    Backend → Except StoreError Dynamo.Client.Creation × Backend
  | memory m => (.ok .existed, memory m)
  | remote wire =>
    let (answer, wire) := (Dynamo.Client.ensureTable table).run Wire.send wire
    (answer, remote wire)

/-- Whether a request that reaches the store lets other work go first. -/
def yields : Backend → Bool
  | memory m => m.interleaved
  | remote _ => false

def describe : Backend → String
  | memory m => m.describe
  | remote _ => "DynamoDbStore \x7b .. \x7d"

/-- The store with its switches changed, if it has any. -/
def adjust (change : Memory → Memory) : Backend → Backend
  | memory m => memory (change m)
  | remote wire => remote wire

def contents : Backend → Contents
  | memory m => m.contents
  | remote _ => ∅

end Backend

/-! ### Actions -/

/-- Why a policy gave up: with the error itself, or by aborting. -/
inductive Refusal where
  | claim (error : ClaimError)
  | aborted (error : AbortedError)

/-- What a step of a simulation results in. -/
inductive Result where
  | locked (hold : Hold)
  | lockError (error : LockError)
  | released (outcome : ReleaseOutcome)
  | tornDown
  | sameHold (same : Bool)
  /-- A lock was to be used that was never taken. -/
  | noHold
  | created (outcome : CreateOutcome)
  | removed (outcome : RemoveOutcome)
  | claimError (error : ClaimError)
  | invalidDescriptor
  | createdWith (outcome : Retried Refusal CreateOutcome) (asked : List ClaimError)
  | removedWith (outcome : Retried Refusal RemoveOutcome) (asked : List ClaimError)
  | record (record : Option Descriptor)
  | records (records : List Descriptor)
  | key (key : Option String)
  | storeError (error : StoreError)
  /-- A request to the store was served. -/
  | served (call : StoreCall) (reply : call.Reply)
  | row (row : Option Row)
  | table (rows : List Row)
  | text (text : String)
  | ensured
  | switched
  /-- The task was abandoned before the end of this step. -/
  | abandoned

/-- One thing that a program of a simulation may do. -/
inductive Action where
  | effect (effect : Effect)
  | keep (name : String) (hold : Hold)
  | lookUp (name : String)
  | switchOff (off : Bool)
  | injectFaults (faults : List CallPattern)
  | setRules (rules : List FaultRule)
  | readRow (table key : String)
  | readTable (table : String)
  | describe
  | ensureTable (table : String)
  | report (result : Result)

/-- The type of the answer to an action. -/
def Action.Answer : Action → Type
  | effect e => e.Answer
  | keep .. => Unit
  | lookUp _ => Option Hold
  | switchOff _ => Unit
  | injectFaults _ => Unit
  | setRules _ => Unit
  | readRow .. => Option Row
  | readTable _ => List Row
  | describe => String
  | ensureTable _ => Except StoreError Unit
  | report _ => Unit

abbrev Script (α : Type) := Program Action Action.Answer α

/-- A procedure as a program of a simulation. -/
def Script.ofProcedure {α : Type} (p : Procedure α) : Script α :=
  p.lift Action.effect fun _ answer => answer

/-! ### Worlds -/

/-- A request that was answered, with the task that sent it. -/
structure Completed where
  task : Option Nat
  call : StoreCall
  answer : Except StoreError call.Reply

/-- The state of a simulation. The records have the latest entry first. -/
structure World where
  backend : Backend
  rules : List FaultRule
  holds : Dict String Hold
  now : UInt64
  /-- The task that is running, if tasks run concurrently. -/
  task : Option Nat
  trace : List Completed
  log : List Event
  reported : List Result

namespace World

/-- A world in which nothing has happened. -/
def start (backend : Backend) (now : UInt64) : World := ⟨backend, [], ∅, now, none, [], [], []⟩

def judge (call : StoreCall) (world : World) : Verdict × World :=
  let (verdict, rules) := intercept world.rules call
  (verdict, { world with rules })

/-- Serves a request under a verdict and records it. -/
def complete (verdict : Verdict) (call : StoreCall) (world : World) :
    Except StoreError call.Reply × World :=
  let (answer, backend) := verdict.serve Backend.serve call world.backend
  (answer, { world with backend, trace := ⟨world.task, call, answer⟩ :: world.trace })

/-- Carries out an effect. Waiting takes no time. -/
def performEffect : (effect : Effect) → World → effect.Answer × World
  | .call call, world =>
    let (verdict, world) := world.judge call
    world.complete verdict call
  | .report event, world => ((), { world with log := event :: world.log })
  | .clock, world => (world.now, world)
  | .pause _, world => ((), world)

/-- Creates a table unless it exists, and tells of it. -/
def ensureTable (table : String) (world : World) : Except StoreError Unit × World :=
  match world.backend.ensureTable table with
  | (.ok creation, backend) =>
    (.ok (), { world with backend, log := (creation.event? table).toList ++ world.log })
  | (.error e, backend) => (.error e, { world with backend })

def answer : (action : Action) → World → action.Answer × World
  | .effect e, world => world.performEffect e
  | .keep name hold, world => ((), { world with holds := world.holds.insert name hold })
  | .lookUp name, world => (world.holds.get? name, world)
  | .switchOff off, world =>
    ((), { world with backend := world.backend.adjust ({ · with switchedOff := off }) })
  | .injectFaults faults, world =>
    ((), { world with backend := world.backend.adjust ({ · with faults }) })
  | .setRules rules, world => ((), { world with rules })
  | .readRow table key, world =>
    ((world.backend.contents.row? table key).map (⟨key, ·⟩), world)
  | .readTable table, world => (world.backend.contents.rows table, world)
  | .describe, world => (world.backend.describe, world)
  | .ensureTable table, world => world.ensureTable table
  | .report result, world => ((), { world with reported := result :: world.reported })

end World

end ClusterIdentity.Simulation
