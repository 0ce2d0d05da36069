import ClusterIdentity.Claim.Registry
import ClusterIdentity.Proofs.Claim.Roster
import ClusterIdentity.Proofs.Lock.Footprint

/-!
# Footprints of claims

Claiming an identity and giving it up come down to four kinds of requests: scans of the table of
identities, requests for the lock of the row key, and writing and erasing a record.

## Main definitions

* `ClaimCall`: the requests of a claim

## Main statements

* `within_create`, `within_delete`
-/

namespace ClusterIdentity.Claiming

open Interleaving Locking

variable {P : StoreCall → Prop} {E : Event → Prop}

/-! ### Queries -/

theorem within_instances {table application : String}
    (hscan : P (.scan table (Roster.ofApplication application) none))
    (hskipped : ∀ e, E (.rowSkipped table e)) :
    (Roster.instances table application).Within P E fun _ => True := by
  refine Procedure.Within.bind (Procedure.within_call hscan) fun answer _ => ?_
  cases answer with
  | error e => trivial
  | ok scanned =>
    obtain ⟨rows, failure⟩ : Scanned := scanned
    have hreports : ∀ event, (∃ e, event = Event.rowSkipped table e) → E event := by
      rintro _ ⟨e, rfl⟩
      exact hskipped e
    refine ((Roster.within_decode_eq table rows).mono (fun _ h => h.elim) hreports).bind
      fun records _ => ?_
    cases failure <;> trivial

theorem within_instance? {table application rack : String} {slot : UInt32}
    (hscan : P (.scan table (Roster.ofApplication application) none))
    (hskipped : ∀ e, E (.rowSkipped table e)) :
    (Roster.instance? table application rack slot).Within P E fun _ => True := by
  refine (within_instances hscan hskipped).bind fun answer _ => ?_
  cases answer <;> trivial

theorem within_key? {table application datacenter rack : String} {slot : UInt32}
    (hscan : P (.scan table (Roster.ofInstance application slot datacenter rack) (some 1))) :
    (Roster.key? table application slot datacenter rack).Within P E fun _ => True := by
  refine Procedure.Within.bind (Procedure.within_call hscan) fun answer _ => ?_
  cases answer with
  | error e => trivial
  | ok scanned =>
    obtain ⟨rows, failure⟩ : Scanned := scanned
    cases rows with
    | cons row rest => trivial
    | nil => cases failure <;> trivial

/-! ### Records and locks -/

variable {registry : Registry} {d : Descriptor}

theorem within_writeRecord (hput : ∀ now, P (.put registry.tokens d.rowKey.text
    (d.stamp now).toAttributes none)) :
    (registry.writeRecord d).Within P E fun _ => True := by
  refine Procedure.Within.bind (R := fun _ => True) (fun _ => trivial) fun now _ => ?_
  refine Procedure.Within.bind (Procedure.within_call (hput now)) fun answer _ => ?_
  cases answer <;> trivial

theorem within_deleteRecord {key : String} (hdelete : P (.delete registry.tokens key .row none)) :
    (registry.deleteRecord key).Within P E fun _ => True := by
  refine Procedure.Within.bind (Procedure.within_call hdelete) fun answer _ => ?_
  cases answer <;> trivial

theorem within_lock (registry : Registry) (k : RowKey) (i : String) :
    (registry.lock k i).Within (AttemptCall registry.locks.name k i) (MovesOnly k)
      fun answer => ∀ hold, answer = .ok hold → hold = ⟨k, i⟩ := by
  refine (within_acquire registry.locks k i).bind fun answer hanswer => ?_
  cases answer with
  | ok hold =>
    intro hold' hhold
    cases hhold
    exact hanswer hold rfl
  | error e => exact fun _ => nofun

theorem within_unlock (registry : Registry) (hold : Hold) :
    (registry.unlock hold).Within (OwnCall registry.locks.name hold.rowKey hold.contender)
      (MovesOnly hold.rowKey) fun _ => True := by
  refine Procedure.Within.bind ((within_release registry.locks hold.rowKey hold.contender).mono
    (fun _ h => h.1) fun _ h => h) fun answer _ => ?_
  cases answer with
  | ok outcome => trivial
  | error e => exact Procedure.within_report trivial

/-! ### Claims -/

/-- What a claim for a descriptor may send. -/
inductive ClaimCall (registry : Registry) (d : Descriptor) : StoreCall → Prop where
  | query (filter : Filter) (limit : Option Nat) :
    ClaimCall registry d (.scan registry.tokens filter limit)
  | lock {call : StoreCall} (h : OwnCall registry.locks.name d.rowKey d.instanceId call) :
    ClaimCall registry d call
  | write (now : UInt64) :
    ClaimCall registry d (.put registry.tokens d.rowKey.text (d.stamp now).toAttributes none)
  /-- The key is that of whichever row was found. -/
  | erase (key : String) : ClaimCall registry d (.delete registry.tokens key .row none)

variable (registry d)

theorem within_create :
    (registry.create d).Within (ClaimCall registry d) (fun _ => True) fun _ => True := by
  refine (within_instance? (.query _ _) fun _ => trivial).bind fun answer _ => ?_
  rcases answer with e | _ | record
  · trivial
  · refine ((within_lock registry d.rowKey d.instanceId).mono (fun _ h => .lock h.1)
      fun _ _ => trivial).bind fun answer hanswer => ?_
    cases answer with
    | error e => trivial
    | ok hold =>
      obtain rfl := hanswer hold rfl
      refine (within_writeRecord .write).bind fun written _ => ?_
      refine ((within_unlock registry _).mono (fun _ h => .lock h) fun _ _ => trivial).bind
        fun _ _ => ?_
      cases written with
      | error e => trivial
      | ok _ => exact (Procedure.within_report trivial).bind fun _ _ => trivial
  · exact (Procedure.within_report trivial).bind fun _ _ => trivial

theorem within_delete :
    (registry.delete d).Within (ClaimCall registry d) (fun _ => True) fun _ => True := by
  have hunlock : (registry.unlock ⟨d.rowKey, d.instanceId⟩).Within (ClaimCall registry d)
      (fun _ => True) fun _ => True :=
    (within_unlock registry _).mono (fun _ h => .lock h) fun _ _ => trivial
  have htearDown : (registry.locks.tearDown ⟨d.rowKey, d.instanceId⟩).Within
      (ClaimCall registry d) (fun _ => True) fun _ => True :=
    (within_tearDown registry.locks _).mono (fun _ h => .lock h) fun _ _ => trivial
  refine ((within_lock registry d.rowKey d.instanceId).mono (fun _ h => .lock h.1)
    fun _ _ => trivial).bind fun answer hanswer => ?_
  cases answer with
  | error e => trivial
  | ok hold =>
    obtain rfl := hanswer hold rfl
    refine (within_key? (.query _ _)).bind fun answer _ => ?_
    rcases answer with e | _ | key
    · exact hunlock.bind fun _ _ => trivial
    · refine (Procedure.within_report trivial).bind fun _ _ => ?_
      refine htearDown.bind fun answer _ => ?_
      cases answer <;> trivial
    · refine (within_deleteRecord (.erase key)).bind fun answer _ => ?_
      cases answer with
      | error e => exact hunlock.bind fun _ _ => trivial
      | ok _ =>
        refine htearDown.bind fun answer _ => ?_
        cases answer with
        | error e => trivial
        | ok _ => exact (Procedure.within_report trivial).bind fun _ _ => trivial

end ClusterIdentity.Claiming
