import ClusterIdentity.Simulation.Schedule

/-!
# Sessions

A session runs steps on one store and tells after each what it resulted in and what happened.

## Main definitions

* `SessionStep`: a step, or tasks to be run concurrently
* `StepReport`: what is told after a step
* `runSession`
-/

namespace ClusterIdentity.Simulation

/-- What a session runs at a time. -/
inductive SessionStep where
  | single (step : Step)
  | concurrent (tasks : List Task) (schedule : List Nat)

/-- What a session step results in. -/
inductive SessionResult where
  | single (result : Result)
  /-- What each task reported and how many turns it had. -/
  | concurrent (results : List (List Result)) (turns : List Nat)

/-- The state of the store after a step. -/
inductive StoreView where
  /-- The rows of every table that has any. -/
  | memory (tables : List (String × List Row))
  /-- The requests sent in the step, and how many scripted answers are left. -/
  | remote (requests : List Dynamo.Request) (unused : Nat)

/-- What is told after a step. -/
structure StepReport where
  result : SessionResult
  /-- The requests to the store that were answered in the step, in order. -/
  trace : List Completed
  log : List Event
  view : StoreView

/-- The rows of every table that has any. -/
def tablesOf (contents : Contents) : List (String × List Row) :=
  let names := (contents.keys.map RowId.table).eraseDups
  names.map fun name => (name, contents.rows name)

def Backend.view : Backend → StoreView
  | memory m => .memory (tablesOf m.contents)
  | remote wire => .remote wire.sent.reverse wire.script.length

/-- The store before a step, with the answers scripted for it. -/
def Backend.prepare (script : List Delivery) : Backend → Backend
  | memory m => memory m
  | remote _ => remote ⟨script, []⟩

def SessionStep.run (world : World) : SessionStep → SessionResult × World
  | single step =>
    let (result, world) := step.script.run World.answer world
    (.single result, world)
  | concurrent tasks schedule =>
    let (running, world) := runTasks tasks schedule world
    (.concurrent (running.map Running.results) (running.map Running.turns), world)

/-- Runs a session step on a fresh record and tells what happened. -/
def World.step (world : World) (step : SessionStep) (script : List Delivery) :
    StepReport × World :=
  let fresh :=
    { world with backend := world.backend.prepare script, trace := [], log := [], reported := [] }
  let (result, world) := step.run fresh
  (⟨result, world.trace.reverse, world.log.reverse, world.backend.view⟩, world)

/-- Runs the steps of a session in order, each with the answers scripted for it. -/
def runSession : World → List (SessionStep × List Delivery) → List StepReport
  | _, [] => []
  | world, (step, script) :: rest =>
    let (report, world) := world.step step script
    report :: runSession world rest

end ClusterIdentity.Simulation
