import ClusterIdentity.Table.Call

/-!
# Intercepting requests

An interceptor stands between programs and a store and makes chosen requests fail: before they
reach the store, after they took effect, or, for a scan, after some rows.

## Main definitions

* `FaultRule`, `intercept`: which requests fail
* `Verdict`, `Verdict.serve`: what happens to a request on its way
-/

namespace ClusterIdentity.Simulation

/-- The point at which a request fails. -/
inductive FaultPoint where
  /-- The request never reaches the store. -/
  | before
  /-- The request is served, but the answer is lost. -/
  | after
  /-- The reader of a scan gets some rows and then the failure. -/
  | midScan (rows : Nat)
  deriving DecidableEq

/-- Makes requests fail that fit a description: after the first `skip` of them, `times` many. -/
structure FaultRule where
  pattern : CallPattern
  skip : Nat
  /-- How many requests fail; without a number, all. -/
  times : Option Nat
  point : FaultPoint
  /-- Whether the failure is that the table is missing, rather than that the store is
  unavailable. -/
  missingTable : Bool
  /-- How many requests fitted the description so far. -/
  seen : Nat

namespace FaultRule

/-- Whether the rule applies to the request, going by the count so far. -/
def fires (rule : FaultRule) (call : StoreCall) : Bool :=
  rule.pattern.fits call && decide (rule.skip ≤ rule.seen) &&
    rule.times.all fun n => decide (rule.seen < rule.skip + n)

/-- Counts the request if it fits the description. -/
def count (rule : FaultRule) (call : StoreCall) : FaultRule :=
  if rule.pattern.fits call then { rule with seen := rule.seen + 1 } else rule

def error (rule : FaultRule) (call : StoreCall) : StoreError :=
  if rule.missingTable then .noSuchTable call.table else .unavailable .intercepted

end FaultRule

/-- What happens to a request on its way to the store. -/
inductive Verdict where
  | pass
  | refuse (error : StoreError)
  | failAfter (error : StoreError)
  | cutScan (rows : Nat) (error : StoreError)

/-- The verdict of the first rule that applies. Every rule counts the request. -/
def intercept (rules : List FaultRule) (call : StoreCall) : Verdict × List FaultRule :=
  let verdict :=
    match rules.find? (·.fires call) with
    | none => Verdict.pass
    | some rule =>
      match rule.point with
      | .before => .refuse (rule.error call)
      | .after => .failAfter (rule.error call)
      | .midScan rows => .cutScan rows (rule.error call)
  (verdict, rules.map (·.count call))

namespace Verdict

/-- Whether the request reaches the store. -/
def reachesStore : Verdict → Bool
  | refuse _ => false
  | _ => true

/-- How many rows are read of a scan that is cut off. -/
def cutLimit (rows : Nat) : Option Nat → Nat
  | some limit => min limit rows
  | none => rows

/-- What the reader of a scan that is cut off gets: the failure, unless it has all the rows that
it wanted or the store's own failure came first. -/
def cut (limit : Option Nat) (error : StoreError) (scanned : Scanned) : Scanned :=
  match scanned.failure, limit with
  | some _, _ => scanned
  | none, some n => if n ≤ scanned.rows.length then scanned else ⟨scanned.rows, some error⟩
  | none, none => ⟨scanned.rows, some error⟩

/-- Serves a request under a verdict. The reading of a scan whose answer is lost never begins. -/
def serve {σ : Type} (store : (call : StoreCall) → σ → Except StoreError call.Reply × σ) :
    Verdict → (call : StoreCall) → σ → Except StoreError call.Reply × σ
  | pass, call, s => store call s
  | refuse e, _, s => (.error e, s)
  | failAfter e, .scan table filter _, s =>
    match store (.scan table filter (some 0)) s with
    | (.ok _, s) => (.error e, s)
    | (.error own, s) => (.error own, s)
  | failAfter e, call, s =>
    match store call s with
    | (.ok _, s) => (.error e, s)
    | (.error own, s) => (.error own, s)
  | cutScan rows e, .scan table filter limit, s =>
    match store (.scan table filter (some (cutLimit rows limit))) s with
    | (.ok (scanned : Scanned), s) => (.ok (cut limit e scanned), s)
    | (.error own, s) => (.error own, s)
  | cutScan _ _, call, s => store call s

end Verdict

end ClusterIdentity.Simulation
