import ClusterIdentity.Simulation.Step

/-!
# Concurrent tasks

Tasks run their steps one after another and take turns on one store. A turn takes a task up to
the next request that lets other work go first; the request takes effect at the start of the
task's next turn. A task may be abandoned after a number of turns, in which case the request that
it was waiting for never takes effect.

## Main definitions

* `Progress`, `advance`: one turn of a program
* `Task`, `Running`: tasks and how far they have come
* `runTasks`: the turns of a schedule, then turns in rotation until all tasks are over
-/

namespace ClusterIdentity.Simulation

/-- How far a program came in a turn. -/
inductive Progress (α : Type) where
  | finished (result : α)
  /-- A request waits to take effect. -/
  | waiting (call : StoreCall) (verdict : Verdict)
      (next : Except StoreError call.Reply → Script α)

/-- Runs a program up to its next request that lets other work go first, or to its end. -/
def advance {α : Type} : Script α → World → Progress α × World
  | .done a, world => (.finished a, world)
  | .perform (.effect (.call call)) next, world =>
    let (verdict, world) := world.judge call
    if verdict.reachesStore && world.backend.yields then (.waiting call verdict next, world)
    else
      let (answer, world) := world.complete verdict call
      advance (next answer) world
  | .perform action next, world =>
    let (answer, world) := world.answer action
    advance (next answer) world

/-- Lets the waiting request take effect and goes on from there. -/
def Progress.resume {α : Type} : Progress α → World → Progress α × World
  | finished a, world => (finished a, world)
  | waiting call verdict next, world =>
    let (answer, world) := world.complete verdict call
    advance (next answer) world

/-- Steps to be run one after another, and the number of turns after which to abandon them. Turns
count from one, so a task to be abandoned after none runs to its end. -/
structure Task where
  steps : List Step
  abandonAfter : Option Nat

/-- The program of steps; it reports the result of each. -/
def stepsScript : List Step → Script Unit
  | [] => return ()
  | step :: rest => do
    let result ← step.script
    let _ ← act (.report result)
    stepsScript rest

inductive Stage where
  | ready (script : Script Unit)
  | suspended (progress : Progress Unit)
  | over

/-- A task, how many turns it had and what it reported. -/
structure Running where
  stage : Stage
  abandonAfter : Option Nat
  turns : Nat
  results : List Result

namespace Running

def start (task : Task) : Running := ⟨.ready (stepsScript task.steps), task.abandonAfter, 0, []⟩

/-- Whether the task is finished or abandoned. -/
def isOver (running : Running) : Bool :=
  match running.stage with
  | .over => true
  | _ => false

/-- The task after a turn in which its program came this far. -/
def settle (running : Running) (progress : Progress Unit) (reported : List Result) : Running :=
  let turns := running.turns + 1
  let results := running.results ++ reported
  match progress with
  | .finished () => { running with stage := .over, turns, results }
  | progress =>
    if running.abandonAfter = some turns then
      { running with stage := .over, turns, results := results ++ [.abandoned] }
    else { running with stage := .suspended progress, turns, results }

/-- Gives the task a turn, unless it is over. -/
def turn (index : Nat) (running : Running) (world : World) : Running × World :=
  let begun := { world with task := some index, reported := [] }
  let finish (progress : Progress Unit) (world : World) :=
    (running.settle progress world.reported.reverse, { world with task := none, reported := [] })
  match running.stage with
  | .over => (running, world)
  | .ready script =>
    let (progress, world) := advance script begun
    finish progress world
  | .suspended progress =>
    let (progress, world) := progress.resume begun
    finish progress world

end Running

/-- Gives a turn to the task at an index, if there is one. -/
def turnAt (index : Nat) (tasks : List Running) (world : World) : List Running × World :=
  match tasks[index]? with
  | some running =>
    let (running, world) := running.turn index world
    (tasks.set index running, world)
  | none => (tasks, world)

/-- Gives turns to tasks in the order of a list of indices. -/
def turnsAt : List Nat → List Running → World → List Running × World
  | [], tasks, world => (tasks, world)
  | index :: rest, tasks, world =>
    let (tasks, world) := turnAt index tasks world
    turnsAt rest tasks world

/-- Gives turns to all tasks in rotation until all are over, at most a number of times. -/
def rotate : (rounds : Nat) → List Running → World → List Running × World
  | 0, tasks, world => (tasks, world)
  | rounds + 1, tasks, world =>
    if tasks.all Running.isOver then (tasks, world)
    else
      let (tasks, world) := turnsAt (List.range tasks.length) tasks world
      rotate rounds tasks world

/-- More turns than the task ever needs. -/
def Task.maxTurns (task : Task) : Nat := (task.steps.map Step.maxCalls).foldr (· + ·) 1

/-- Runs tasks to their ends: first in the order of a schedule, then in rotation. -/
def runTasks (tasks : List Task) (schedule : List Nat) (world : World) : List Running × World :=
  let (running, world) := turnsAt schedule (tasks.map Running.start) world
  rotate ((tasks.map Task.maxTurns).foldr (· + ·) 0) running world

end ClusterIdentity.Simulation
