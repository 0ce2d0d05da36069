import ClusterIdentity.Claim.Registry
import ClusterIdentity.Proofs.Claim.Lookups
import ClusterIdentity.Proofs.Claim.Merged

/-!
# One table for identities and locks

Registries may keep identities and locks in one table. Under every schedule they come to the
results that they come to with two tables, and the shared table has the rows of both.

## Main definitions

* `Operation`, `Outcome`, `Job`: what is asked of registries, and their answers
* `ServesBoth`: what two tables and a shared one have in common

## Main statements

* `alike_acquire`, `alike_create`, `alike_delete`, `alike_instances`, `alike_key?`: what is done
  with two tables and with one
* `one_table_serves_both`: the results are the same
-/

namespace ClusterIdentity.Claiming

open Interleaving RowKey Solo
open Roster hiding instances instance? instancesIn key?

/-! ### Jobs -/

/-- What may be asked of a registry. -/
inductive Operation where
  | create (descriptor : Descriptor)
  | delete (descriptor : Descriptor)
  | instances (application : String)
  | instance? (application rack : String) (slot : UInt32)
  | instancesIn (application datacenter : String)
  | key? (application : String) (slot : UInt32) (datacenter rack : String)

/-- What a registry answers. -/
inductive Outcome where
  | creating (answer : Except ClaimError CreateOutcome)
  | deleting (answer : Except ClaimError RemoveOutcome)
  | instances (answer : Except StoreError (List Descriptor))
  | instance? (answer : Except StoreError (Option Descriptor))
  | key? (answer : Except StoreError (Option String))

/-- What a registry does when it is asked. -/
def Operation.procedure (registry : Registry) : Operation → Procedure Outcome
  | create d => (registry.create d).bind fun answer => .done (.creating answer)
  | delete d => (registry.delete d).bind fun answer => .done (.deleting answer)
  | instances application =>
    (Roster.instances registry.tokens application).bind fun answer => .done (.instances answer)
  | instance? application rack slot =>
    (Roster.instance? registry.tokens application rack slot).bind fun answer =>
      .done (.instance? answer)
  | instancesIn application datacenter =>
    (Roster.instancesIn registry.tokens application datacenter).bind fun answer =>
      .done (.instances answer)
  | key? application slot datacenter rack =>
    (Roster.key? registry.tokens application slot datacenter rack).bind fun answer =>
      .done (.key? answer)

/-- What is asked of a registry, and how long that waits before it verifies a lock. -/
structure Job where
  operation : Operation
  settleDelay : Duration

/-- A registry that is configured with the tables does a job and keeps the outcome. -/
def Job.procedure (tables : Tables) (job : Job) (outcomes : List Outcome) :
    Procedure (List Outcome) :=
  (job.operation.procedure (Registry.ofSettings ⟨tables, job.settleDelay⟩)).bind fun outcome =>
    .done (outcome :: outcomes)

variable {tokens locks shared : String}

/-! ### Requests in procedures -/

theorem alike_put {table key : String} (h : KeptIn tokens locks table key) {attributes : Attributes}
    (hentered : ∀ k : RowKey, k.GuardedBy key → OnlyEntered attributes) :
    (sharing tokens locks shared).Alike (α := Except StoreError PutOutcome)
      (Procedure.call (.put table key attributes none))
      (Procedure.call (.put shared key attributes none)) := by
  refine .call (.put h attributes hentered) fun outcome outcome' houtcome => ?_
  obtain rfl : outcome = outcome' := houtcome
  exact .done _

theorem alike_deleteCall {table key : String} (h : KeptIn tokens locks table key)
    (scope : DeleteScope) (condition : Option Condition) :
    (sharing tokens locks shared).Alike (α := Except StoreError DeleteOutcome)
      (Procedure.call (.delete table key scope condition))
      (Procedure.call (.delete shared key scope condition)) := by
  refine .call (.delete h scope condition) fun outcome outcome' houtcome => ?_
  obtain rfl : outcome = outcome' := houtcome
  exact .done _

theorem alike_read {table key : String} (h : KeptIn tokens locks table key) :
    (sharing tokens locks shared).Alike (α := Except StoreError Rows)
      (Procedure.call (.batchGet table [key])) (Procedure.call (.batchGet shared [key])) := by
  refine .call (.read h) fun rows rows' hrows => ?_
  obtain rfl : rows = rows' := hrows
  exact .done _

/-! ### Locks -/

section Locks

variable {delay : Duration} {k : RowKey} {key : String}

theorem alike_enter (hk : k.GuardedBy key) (i : String) :
    (sharing tokens locks shared).Alike (LockTable.enter ⟨locks, delay⟩ key i)
      (LockTable.enter ⟨shared, delay⟩ key i) :=
  (alike_put (.guard hk) fun _ _ => .singleton i).bind fun answer => by
    cases answer <;> exact .done _

theorem alike_leave (hk : k.GuardedBy key) (i : String) :
    (sharing tokens locks shared).Alike (LockTable.leave ⟨locks, delay⟩ key i)
      (LockTable.leave ⟨shared, delay⟩ key i) :=
  alike_deleteCall (.guard hk) _ _

theorem alike_entries (hk : k.GuardedBy key) :
    (sharing tokens locks shared).Alike (LockTable.entries ⟨locks, delay⟩ key)
      (LockTable.entries ⟨shared, delay⟩ key) :=
  (alike_read (.guard hk)).bind fun answer => by cases answer <;> exact .done _

theorem alike_moveTo (attempt : Attempt) (next : LockState) :
    (sharing tokens locks shared).Alike (attempt.moveTo next) (attempt.moveTo next) :=
  (Pairing.Alike.report _ _).bind fun _ => .done _

theorem alike_settle :
    (sharing tokens locks shared).Alike (LockTable.settle ⟨locks, delay⟩)
      (LockTable.settle ⟨shared, delay⟩) := by
  rw [LockTable.settle, LockTable.settle]
  split
  · exact .done ()
  · exact .pause (.done ())

theorem alike_verify (attempt : Attempt) :
    (sharing tokens locks shared).Alike (LockTable.verify ⟨locks, delay⟩ attempt)
      (LockTable.verify ⟨shared, delay⟩ attempt) := by
  refine (alike_entries attempt.rowKey.guardedBy_lock).bind fun answer => ?_
  cases answer with
  | error e => exact .done _
  | ok holders =>
    simp only []
    split
    · exact (alike_moveTo attempt .locked).bind fun _ => .done _
    · exact .done _

theorem alike_claim (attempt : Attempt) :
    (sharing tokens locks shared).Alike (LockTable.claim ⟨locks, delay⟩ attempt)
      (LockTable.claim ⟨shared, delay⟩ attempt) := by
  refine (alike_moveTo attempt .locking).bind fun moved => ?_
  refine (alike_enter moved.rowKey.guardedBy_lock moved.contender).bind fun answer => ?_
  cases answer with
  | error e => exact .done _
  | ok _ => exact alike_settle.bind fun _ => alike_verify _

theorem alike_decide (attempt : Attempt) (choosing holders : Attributes) :
    (sharing tokens locks shared).Alike (LockTable.decide ⟨locks, delay⟩ attempt choosing holders)
      (LockTable.decide ⟨shared, delay⟩ attempt choosing holders) := by
  rw [LockTable.decide, LockTable.decide]
  split
  · exact .done _
  · split
    · exact (alike_moveTo attempt .contending).bind fun _ => .done _
    · exact alike_claim _

theorem alike_contend (attempt : Attempt) :
    (sharing tokens locks shared).Alike (LockTable.contend ⟨locks, delay⟩ attempt)
      (LockTable.contend ⟨shared, delay⟩ attempt) := by
  refine (alike_moveTo attempt .choosing).bind fun moved => ?_
  refine (alike_enter moved.rowKey.guardedBy_choosing moved.contender).bind fun answer => ?_
  cases answer with
  | error e => exact .done _
  | ok _ =>
    refine (alike_entries moved.rowKey.guardedBy_choosing).bind fun answer => ?_
    cases answer with
    | error e => exact .done _
    | ok choosing =>
      refine (alike_entries moved.rowKey.guardedBy_lock).bind fun answer => ?_
      cases answer with
      | error e => exact .done _
      | ok holders => exact alike_decide moved choosing holders

theorem alike_withdraw (hk : k.GuardedBy key) (i : String) (error : LockError) :
    (sharing tokens locks shared).Alike (LockTable.withdraw ⟨locks, delay⟩ key i error)
      (LockTable.withdraw ⟨shared, delay⟩ key i error) := by
  refine (alike_leave hk i).bind fun answer => ?_
  cases answer with
  | ok outcome => exact .done ()
  | error cause => exact .report _ _

theorem alike_cleanUp (attempt : Attempt) (error : LockError) :
    (sharing tokens locks shared).Alike (LockTable.cleanUp ⟨locks, delay⟩ attempt error)
      (LockTable.cleanUp ⟨shared, delay⟩ attempt error) := by
  have hchoosing : (sharing tokens locks shared).Alike
      (LockTable.withdrawChoosing ⟨locks, delay⟩ attempt error)
      (LockTable.withdrawChoosing ⟨shared, delay⟩ attempt error) := by
    rw [LockTable.withdrawChoosing, LockTable.withdrawChoosing]
    split
    · exact .done ()
    · exact alike_withdraw attempt.rowKey.guardedBy_choosing _ error
  refine hchoosing.bind fun _ => ?_
  rw [LockTable.withdrawLock, LockTable.withdrawLock]
  split
  · exact alike_withdraw attempt.rowKey.guardedBy_lock _ error
  · exact .done ()

theorem alike_acquire (k : RowKey) (i : String) :
    (sharing tokens locks shared).Alike (LockTable.acquire ⟨locks, delay⟩ k i)
      (LockTable.acquire ⟨shared, delay⟩ k i) := by
  refine (alike_contend (Attempt.start k i)).bind fun ended => ?_
  obtain ⟨attempt, outcome⟩ := ended
  cases outcome with
  | ok _ => exact (Pairing.Alike.report _ _).bind fun _ => .done _
  | error error =>
    refine (Pairing.Alike.report _ _).bind fun _ => ?_
    refine (alike_cleanUp attempt error).bind fun _ => ?_
    exact (alike_moveTo attempt .failed).bind fun _ => .done _

theorem alike_release (k : RowKey) (i : String) :
    (sharing tokens locks shared).Alike (LockTable.release ⟨locks, delay⟩ k i)
      (LockTable.release ⟨shared, delay⟩ k i) := by
  refine (alike_leave k.guardedBy_choosing i).bind fun answer => ?_
  cases answer with
  | error e => exact .done _
  | ok outcome =>
    cases outcome with
    | deleted old =>
      refine (alike_moveTo _ .released).bind fun _ => ?_
      exact (Pairing.Alike.report _ _).bind fun _ => .done _
    | conditionFailed => exact (Pairing.Alike.report _ _).bind fun _ => .done _

theorem alike_tearDown (hold : Hold) :
    (sharing tokens locks shared).Alike (LockTable.tearDown ⟨locks, delay⟩ hold)
      (LockTable.tearDown ⟨shared, delay⟩ hold) := by
  refine (alike_deleteCall (.guard hold.rowKey.guardedBy_lock) _ _).bind fun answer => ?_
  cases answer with
  | error e => exact .done _
  | ok outcome =>
    have hlost : (sharing tokens locks shared).Alike (LockTable.reportLost hold outcome)
        (LockTable.reportLost hold outcome) := by
      cases outcome with
      | deleted old => exact .done ()
      | conditionFailed => exact .report _ _
    refine hlost.bind fun _ => ?_
    refine (alike_deleteCall (.guard hold.rowKey.guardedBy_choosing) _ _).bind fun answer => ?_
    cases answer <;> exact .done _

end Locks

/-! ### Queries -/

/-- Decoding comes to the records, and all that it does besides is to report. -/
theorem reports_decode (table : String) (rows : List Row) :
    Reports (recordsOf rows) (decode table rows) := by
  induction rows with
  | nil => exact .done
  | cons row rest ih =>
    rw [decode]
    cases hrow : Descriptor.ofRow row with
    | ok record =>
      rw [recordsOf_cons_of_ok hrow]
      exact ih.bind .done
    | error e =>
      rw [recordsOf_cons_of_error hrow]
      exact .report ih

section Queries

variable {application datacenter rack : String} {slot : UInt32}

theorem alike_instances (application : String) :
    (sharing tokens locks shared).Alike (Roster.instances tokens application)
      (Roster.instances shared application) := by
  refine .call (.instances application) fun scanned scanned' hscanned => ?_
  obtain ⟨rows, failure⟩ : Scanned := scanned
  obtain ⟨rows', failure'⟩ : Scanned := scanned'
  obtain ⟨hrecords, rfl⟩ : recordsOf rows = recordsOf rows' ∧ failure = failure' := hscanned
  show (sharing tokens locks shared).Alike ((decode tokens rows).bind _)
    ((decode shared rows').bind _)
  refine .of_reports (reports_decode tokens rows) (reports_decode shared rows') ?_
  rw [hrecords]
  cases failure <;> exact .done _

theorem alike_instance? (application rack : String) (slot : UInt32) :
    (sharing tokens locks shared).Alike (Roster.instance? tokens application rack slot)
      (Roster.instance? shared application rack slot) :=
  (alike_instances application).bind fun answer => by cases answer <;> exact .done _

theorem alike_instancesIn (application datacenter : String) :
    (sharing tokens locks shared).Alike (Roster.instancesIn tokens application datacenter)
      (Roster.instancesIn shared application datacenter) :=
  (alike_instances application).bind fun answer => by cases answer <;> exact .done _

/-- What follows the look-up of a key may rely on that no key of a row that guards is found. -/
theorem alike_key? {α : Type} {f f' : Except StoreError (Option String) → Procedure α}
    (hf : ∀ found : Option String, (∀ key, found = some key → Unguarding key) →
      (sharing tokens locks shared).Alike (f (.ok found)) (f' (.ok found)))
    (hfailed : ∀ e, (sharing tokens locks shared).Alike (f (.error e)) (f' (.error e))) :
    (sharing tokens locks shared).Alike
      ((Roster.key? tokens application slot datacenter rack).bind f)
      ((Roster.key? shared application slot datacenter rack).bind f') := by
  refine .call (.key? application slot datacenter rack) fun scanned scanned' hscanned => ?_
  obtain ⟨rfl, hkeys⟩ : scanned = scanned' ∧ ∀ row ∈ (scanned : Scanned).rows,
    Unguarding row.key := hscanned
  obtain ⟨rows, failure⟩ : Scanned := scanned
  cases rows with
  | cons row rest =>
    refine hf (some row.key) ?_
    rintro key ⟨rfl⟩
    exact hkeys row (List.mem_cons_self ..)
  | nil =>
    cases failure with
    | none => exact hf none nofun
    | some e => exact hfailed e

end Queries

/-! ### Registries -/

section Registries

variable {delay : Duration}

theorem alike_lock (k : RowKey) (i : String) :
    (sharing tokens locks shared).Alike (Registry.lock ⟨tokens, locks, delay⟩ k i)
      (Registry.lock ⟨shared, shared, delay⟩ k i) :=
  (alike_acquire k i).bind fun answer => by cases answer <;> exact .done _

theorem alike_unlock (hold : Hold) :
    (sharing tokens locks shared).Alike (Registry.unlock ⟨tokens, locks, delay⟩ hold)
      (Registry.unlock ⟨shared, shared, delay⟩ hold) := by
  refine (alike_release hold.rowKey hold.contender).bind fun answer => ?_
  cases answer with
  | ok outcome => exact .done ()
  | error e => exact .report _ _

theorem alike_writeRecord (d : Descriptor) :
    (sharing tokens locks shared).Alike (Registry.writeRecord ⟨tokens, locks, delay⟩ d)
      (Registry.writeRecord ⟨shared, shared, delay⟩ d) := by
  refine .clock fun now => ?_
  have hkey : Unguarding (d.stamp now).rowKey.text := (d.stamp now).unguarding_rowKey
  refine (alike_put (.record hkey) fun k hk => (hkey k hk).elim).bind fun answer => ?_
  cases answer <;> exact .done _

theorem alike_deleteRecord {key : String} (hkey : Unguarding key) :
    (sharing tokens locks shared).Alike (Registry.deleteRecord ⟨tokens, locks, delay⟩ key)
      (Registry.deleteRecord ⟨shared, shared, delay⟩ key) :=
  (alike_deleteCall (.record hkey) _ _).bind fun answer => by cases answer <;> exact .done _

theorem alike_create (d : Descriptor) :
    (sharing tokens locks shared).Alike (Registry.create ⟨tokens, locks, delay⟩ d)
      (Registry.create ⟨shared, shared, delay⟩ d) := by
  refine (alike_instance? d.application d.rack d.slot).bind fun answer => ?_
  rcases answer with e | _ | record
  · exact .done _
  · refine (alike_lock d.rowKey d.instanceId).bind fun answer => ?_
    cases answer with
    | error e => exact .done _
    | ok hold =>
      refine (alike_writeRecord d).bind fun written => ?_
      refine (alike_unlock hold).bind fun _ => ?_
      cases written with
      | error e => exact .done _
      | ok _ => exact (Pairing.Alike.report _ _).bind fun _ => .done _
  · exact (Pairing.Alike.report _ _).bind fun _ => .done _

theorem alike_delete (d : Descriptor) :
    (sharing tokens locks shared).Alike (Registry.delete ⟨tokens, locks, delay⟩ d)
      (Registry.delete ⟨shared, shared, delay⟩ d) := by
  refine (alike_lock d.rowKey d.instanceId).bind fun answer => ?_
  cases answer with
  | error e => exact .done _
  | ok hold =>
    refine alike_key? (fun found hfound => ?_) fun e => (alike_unlock hold).bind fun _ => .done _
    cases found with
    | none =>
      refine (Pairing.Alike.report _ _).bind fun _ => ?_
      exact (alike_tearDown hold).bind fun answer => by cases answer <;> exact .done _
    | some key =>
      refine (alike_deleteRecord (hfound key rfl)).bind fun answer => ?_
      cases answer with
      | error e => exact (alike_unlock hold).bind fun _ => .done _
      | ok _ =>
        refine (alike_tearDown hold).bind fun answer => ?_
        cases answer with
        | error e => exact .done _
        | ok _ => exact (Pairing.Alike.report _ _).bind fun _ => .done _

/-- Whatever a registry is asked, it does with a shared table what it does with two tables. -/
theorem alike_job (job : Job) (outcomes : List Outcome) :
    (sharing tokens locks shared).Alike (job.procedure ⟨tokens, locks⟩ outcomes)
      (job.procedure ⟨shared, shared⟩ outcomes) := by
  obtain ⟨operation, delay⟩ := job
  refine Pairing.Alike.bind ?_ fun _ => .done _
  cases operation with
  | create d => exact (alike_create d).bind fun _ => .done _
  | delete d => exact (alike_delete d).bind fun _ => .done _
  | instances application => exact (alike_instances application).bind fun _ => .done _
  | instance? application rack slot =>
    exact (alike_instance? application rack slot).bind fun _ => .done _
  | instancesIn application datacenter =>
    exact (alike_instancesIn application datacenter).bind fun _ => .done _
  | key? application slot datacenter rack =>
    exact alike_key? (fun _ _ => .done _) fun _ => .done _

end Registries

/-! ### All registries -/

/-- What registries with two tables have in common with registries that share a table. -/
structure ServesBoth {ι : Type} (tokens locks shared : String)
    (separate joint : State ι (List Outcome)) : Prop where
  /-- Everyone has done its jobs with the same outcomes. -/
  outcomes : ∀ i, (joint.activity i).note = (separate.activity i).note
  /-- Everyone waits for nothing, or for the answer to a request of one kind for one key. -/
  requests : ∀ i, (joint.activity i).request?.map (fun call => (call.kind, call.key?)) =
    (separate.activity i).request?.map fun call => (call.kind, call.key?)
  union : ∀ key, joint.contents.row? shared key =
    (separate.contents.row? tokens key).or (separate.contents.row? locks key)
  disjoint : ∀ key, separate.contents.row? tokens key = none ∨
    separate.contents.row? locks key = none
  /-- No row that guards holds a record. -/
  undecoded : ∀ {k : RowKey} {key : String} {row : Attributes}, k.GuardedBy key →
    joint.contents.row? shared key = some row → ∀ record, Descriptor.ofRow ⟨key, row⟩ ≠ .ok record
  /-- Whoever looks for the row of an instance does not find one that guards. -/
  unfound : ∀ {k : RowKey} {key : String}, k.GuardedBy key →
    ∀ now application slot datacenter rack,
      (outcome now (Roster.key? shared application slot datacenter rack) joint.contents).1 ≠
        .ok (some key)

/-- Systems that are equally far have in common what matters. -/
theorem servesBoth_of_alikeStates {ι : Type} {s s' : State ι (List Outcome)}
    (h : (sharing tokens locks shared).AlikeStates s s') (htables : tokens ≠ locks) :
    ServesBoth tokens locks shared s s' := by
  have hmerged : Merged tokens locks shared s.contents s'.contents := h.contents
  have hguards : ∀ {k : RowKey} {key : String} {row : Attributes}, k.GuardedBy key →
      s'.contents.row? shared key = some row → OnlyEntered row := fun hk hrow =>
    hmerged.entered hk ((hmerged.same (.guard hk)).symm.trans hrow)
  refine ⟨fun i => (h.activity i).note_eq,
    fun i => (h.activity i).request_eq fun _ _ hcall => hcall.kind_key?,
    fun key => (hmerged.disjoint_union htables key).1,
    fun key => (hmerged.disjoint_union htables key).2,
    fun hk hrow => Descriptor.ofRow_ne_ok_of_onlyEntered (hguards hk hrow), ?_⟩
  intro k key hk now application slot datacenter rack hfound
  rw [outcome_key?, ← hmerged.filter_ofInstance, Except.ok.injEq, Option.map_eq_some_iff] at hfound
  obtain ⟨row, hhead, rfl⟩ := hfound
  exact hmerged.unguarding_of_selected (List.mem_of_head? hhead) k hk

variable {ι : Type} [DecidableEq ι]

/-- **One table serves for both.** Any number of registries work on an empty store, each doing one
job after another, for any applications, racks and machines, and nothing goes wrong. Every schedule
takes them to the same results whether identities and locks are kept in two tables or in one. The
shared table is the disjoint union of the two: records, lock rows and choosing rows have keys of
different kinds. In it no row that guards is taken for a record or found by a query for a key. -/
theorem one_table_serves_both (htables : tokens ≠ locks) (shared : String)
    (moves : List (Move ι Job)) :
    ServesBoth tokens locks shared
        ((State.initial ∅ []).play (Job.procedure ⟨tokens, locks⟩) moves)
        ((State.initial ∅ []).play (Job.procedure ⟨shared, shared⟩) moves) ∧
      (∀ application rack slot (k : RowKey), (ofSlot application rack slot).text ≠ k.choosing ∧
        (ofSlot application rack slot).text ≠ k.lock) ∧
      ∀ k k' : RowKey, k.choosing ≠ k'.lock := by
  have halike : (sharing tokens locks shared).AlikeStates
      ((State.initial ∅ []).play (Job.procedure ⟨tokens, locks⟩) moves)
      ((State.initial ∅ []).play (Job.procedure ⟨shared, shared⟩) moves) :=
    Pairing.play_alike ⟨Merged.empty tokens locks shared, fun _ => .idle []⟩ alike_job moves
  refine ⟨?_, fun application rack slot k => ?_, fun k k' h => lock_ne_choosing k' k h.symm⟩
  · exact servesBoth_of_alikeStates halike htables
  · have hkey := unguarding_text_ofSlot application rack slot k
    exact ⟨fun h => hkey (.inr h), fun h => hkey (.inl h)⟩

/-- A machine and its application that are both called like the column for applications. -/
def namesake : Descriptor :=
  ⟨"appId", "rack", 1, "appId", "host", "10.0.0.1", "east", "zone", "0", ∅, none⟩

/-- One registry claims an identity for the machine. Another one asks who is there and which row
that is recorded in. -/
def namesakeMoves : List (Move Bool Job) :=
  .call true ⟨.create namesake, .zero⟩ 1 :: List.replicate 8 (.answer true 1) ++
    [.call false ⟨.instances "appId", .zero⟩ 2, .answer false 2,
      .call false ⟨.key? "appId" 1 "east" "rack", .zero⟩ 3, .answer false 3]

/-- In a shared table the query for the application scans the lock row as well, in vain. -/
theorem one_table_serves_namesake :
    "tokens" ≠ "locks" ∧
      ServesBoth "tokens" "locks" "shared"
        ((State.initial ∅ []).play (Job.procedure ⟨"tokens", "locks"⟩) namesakeMoves)
        ((State.initial ∅ []).play (Job.procedure ⟨"shared", "shared"⟩) namesakeMoves) ∧
      (((State.initial ∅ []).play (Job.procedure ⟨"shared", "shared"⟩)
        namesakeMoves).activity false).note =
          [.key? (.ok (some "appId_rack_1")), .instances (.ok [namesake.stamp 1])] ∧
      ((((State.initial ∅ []).play (Job.procedure ⟨"shared", "shared"⟩)
        namesakeMoves).contents.rows "shared").filter (ofApplication "appId").selects).map Row.key =
          ["appId_rack_1", "appId_rack_1-lock"] := by
  have htables : "tokens" ≠ "locks" := by decide
  exact ⟨htables, (one_table_serves_both htables "shared" namesakeMoves).1, rfl, rfl⟩

end ClusterIdentity.Claiming
