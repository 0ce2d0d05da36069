import ClusterIdentity.Identity.Json
import ClusterIdentity.Simulation.World

/-!
# Steps of a simulation

A step is one operation on the store, on locks or on identities, or a look at the roster. Each
step is a program that returns a result.

## Main definitions

* `StoreStep`, `StoreStep.script`: operations on the store and its switches
* `Policy`: retry policies, among them one that runs store steps before each further attempt
* `Step`, `Step.script`: all operations
-/

namespace ClusterIdentity.Simulation

/-- An operation on the store or its switches. -/
inductive StoreStep where
  | call (call : StoreCall)
  | row (table key : String)
  | table (name : String)
  | switchOff (off : Bool)
  | injectFaults (faults : List CallPattern)
  | setRules (rules : List FaultRule)
  | describe
  | ensureTable (table : String)

def act (action : Action) : Script action.Answer := Program.ask action

/-- The program of an operation on the store. -/
def StoreStep.script : StoreStep → Script Result
  | call c => do
    match ← act (.effect (.call c)) with
    | .ok reply => return .served c reply
    | .error e => return .storeError e
  | row name key => do
    let row ← act (.readRow name key)
    return .row row
  | table name => do
    let rows ← act (.readTable name)
    return .table rows
  | switchOff off => do
    let _ ← act (.switchOff off)
    return .switched
  | injectFaults faults => do
    let _ ← act (.injectFaults faults)
    return .switched
  | setRules rules => do
    let _ ← act (.setRules rules)
    return .switched
  | describe => do
    let text ← act .describe
    return .text text
  | ensureTable name => do
    match ← act (.ensureTable name) with
    | .ok _ => return .ensured
    | .error e => return .storeError e

/-- The program of several operations on the store, whose results are dropped. -/
def StoreStep.scripts : List StoreStep → Script Unit
  | [] => return ()
  | step :: rest => do
    let _ ← step.script
    StoreStep.scripts rest

/-! ### Policies -/

inductive Policy where
  | never
  | times (retries : Nat)
  | backoff (pauses : List (Option Duration))
  /-- Runs the next list of steps before each further attempt; gives up when there is none. -/
  | scripted (steps : List (List StoreStep))

/-- Runs the next list of steps, if there is one. -/
def scriptedPolicy : RetryPolicy Script (List (List StoreStep)) ClaimError where
  eval lists e :=
    match lists with
    | [] => return (.error e, [])
    | steps :: rest => do
      StoreStep.scripts steps
      return (.ok (), rest)

/-- How many attempts the policy can lead to. -/
def Policy.attempts : Policy → Nat
  | never => 1
  | times retries => retries + 1
  | backoff pauses => pauses.length + 1
  | scripted steps => steps.length + 1

/-- Repeats attempts under a policy, for as long as it can allow. -/
def Policy.retry {α : Type} (policy : Policy)
    (loop : ∀ {σ ε : Type}, RetryPolicy Script σ ε → Nat → σ →
      Script (Retried ε α × List ClaimError)) : Script (Retried Refusal α × List ClaimError) := do
  match policy with
  | .never =>
    let (outcome, asked) ← loop RetryPolicy.never policy.attempts ()
    return (Retried.mapError .claim outcome, asked)
  | .times retries =>
    let (outcome, asked) ← loop RetryPolicy.times policy.attempts retries
    return (Retried.mapError .aborted outcome, asked)
  | .backoff pauses =>
    let pause (d : Duration) : Script Unit := Program.ask (Action.effect (.pause d))
    let (outcome, asked) ←
      loop (RetryPolicy.backoff RetryPolicy.nextPause pause) policy.attempts pauses
    return (Retried.mapError .aborted outcome, asked)
  | .scripted steps =>
    let (outcome, asked) ← loop scriptedPolicy policy.attempts steps
    return (Retried.mapError .claim outcome, asked)

/-- What a policy says to each of some errors. Pauses take no time. -/
def Policy.answers (errors : List ClaimError) : Policy → List (Except Refusal Unit)
  | never =>
    (Id.run (RetryPolicy.never.answers () errors)).map (Except.mapError .claim)
  | times retries =>
    (Id.run (RetryPolicy.times.answers retries errors)).map (Except.mapError .aborted)
  | backoff pauses =>
    let policy := RetryPolicy.backoff RetryPolicy.nextPause fun _ => pure ()
    (Id.run (policy.answers pauses errors)).map (Except.mapError .aborted)
  | scripted steps =>
    errors.mapIdx fun i e => if i < steps.length then .ok () else .error (.claim e)

/-! ### Steps -/

inductive Step where
  | store (step : StoreStep)
  /-- Takes a lock and keeps it under a name, if there is one. -/
  | acquire (registry : Registry) (rowKey : RowKey) (contender : String) (name : Option String)
  | release (registry : Registry) (rowKey : RowKey) (contender : String)
  | tearDown (registry : Registry) (name : String)
  | compareHolds (first second : String)
  | create (registry : Registry) (descriptor : Json)
  | delete (registry : Registry) (descriptor : Json)
  | createWith (registry : Registry) (descriptor : Json) (policy : Policy)
  | deleteWith (registry : Registry) (descriptor : Json) (policy : Policy)
  | instance? (registry : Registry) (application rack : String) (slot : UInt32)
  | instances (registry : Registry) (application : String)
  | instancesIn (registry : Registry) (application datacenter : String)
  | key? (registry : Registry) (application : String) (slot : UInt32) (datacenter rack : String)

/-- Runs a procedure that may fail, and makes a result of what it returns. -/
def resultOf {ε α : Type} (procedure : Procedure (Except ε α)) (failed : ε → Result)
    (succeeded : α → Result) : Script Result := do
  match ← Script.ofProcedure procedure with
  | .ok a => return succeeded a
  | .error e => return failed e

/-- Goes on with a descriptor in its JSON form, if it is one. -/
def withDescriptor (json : Json) (next : Descriptor → Script Result) : Script Result :=
  match Descriptor.ofJson? json with
  | some descriptor => next descriptor
  | none => return .invalidDescriptor

def Step.script : Step → Script Result
  | store step => step.script
  | acquire registry rowKey contender name => do
    match ← Script.ofProcedure (registry.locks.acquire rowKey contender) with
    | .error e => return .lockError e
    | .ok hold =>
      match name with
      | some name =>
        let _ ← act (.keep name hold)
        return .locked hold
      | none => return .locked hold
  | release registry rowKey contender =>
    resultOf (registry.locks.release rowKey contender) .storeError .released
  | tearDown registry name => do
    match ← act (.lookUp name) with
    | none => return .noHold
    | some (hold : Hold) =>
      resultOf (registry.locks.tearDown hold) .storeError fun _ => .tornDown
  | compareHolds first second => do
    let a ← act (.lookUp first)
    let b ← act (.lookUp second)
    match a, b with
    | some (a : Hold), some (b : Hold) => return .sameHold (a = b)
    | _, _ => return .noHold
  | create registry json =>
    withDescriptor json fun d => resultOf (registry.create d) .claimError .created
  | delete registry json =>
    withDescriptor json fun d => resultOf (registry.delete d) .claimError .removed
  | createWith registry json policy =>
    withDescriptor json fun d => do
      let (outcome, asked) ← policy.retry (registry.createWith Script.ofProcedure d)
      return .createdWith outcome asked
  | deleteWith registry json policy =>
    withDescriptor json fun d => do
      let (outcome, asked) ← policy.retry (registry.deleteWith Script.ofProcedure d)
      return .removedWith outcome asked
  | instance? registry application rack slot =>
    resultOf (Roster.instance? registry.tokens application rack slot) .storeError .record
  | instances registry application =>
    resultOf (Roster.instances registry.tokens application) .storeError .records
  | instancesIn registry application datacenter =>
    resultOf (Roster.instancesIn registry.tokens application datacenter) .storeError .records
  | key? registry application slot datacenter rack =>
    resultOf (Roster.key? registry.tokens application slot datacenter rack) .storeError .key

/-- More requests than one attempt to claim an identity or to give it up ever sends. -/
def attemptCalls : Nat := 12

/-- The number of steps that a policy may run. -/
def Policy.storeSteps : Policy → Nat
  | scripted steps => (steps.map List.length).foldr (· + ·) 0
  | _ => 0

/-- At least as many requests as the operation ever sends. -/
def Step.maxCalls : Step → Nat
  | createWith _ _ policy | deleteWith _ _ policy =>
    policy.attempts * attemptCalls + policy.storeSteps
  | _ => attemptCalls

end ClusterIdentity.Simulation
