import Mathlib.Data.Finset.Card
import ClusterIdentity.Proofs.Lock.Alone
import ClusterIdentity.Proofs.Solo

/-!
# What a lone attempt decides

An attempt that nobody disturbs and that meets no failure is decided by the names in the two rows:
by those in the lock row first, and if they leave it open, by those in the choosing row. The two
rows may hold anything, also entries of the contender itself.

## Main definitions

* `Contents.names`, `Contents.others`: who is in a row
* `Decision`: what an attempt answers and what it leaves behind

## Main statements

* `lone_acquire_decides`: every lone attempt ends with this decision
* `sole_holder_turned_away`: the holder itself gives way to names in the choosing row
-/

namespace ClusterIdentity

namespace Dict

variable {κ β : Type} [KeyOrder κ]

theorem nodup_keys (d : Dict κ β) : d.keys.Nodup :=
  List.pairwise_map.mpr d.pairwise_ne

theorem card_keys [DecidableEq κ] (d : Dict κ β) : d.keys.toFinset.card = d.size := by
  rw [List.toFinset_card_of_nodup d.nodup_keys, keys, List.length_map, size]

end Dict

namespace Contents

/-- The names of the attributes of a row. A missing row has none. -/
def names (c : Contents) (table key : String) : Finset String :=
  ((c.row? table key).getD ∅).keys.toFinset

/-- The names in a row other than a contender's. -/
def others (c : Contents) (table key i : String) : Finset String := (c.names table key).erase i

variable {c : Contents} {table key i name : String}

theorem mem_names :
    name ∈ c.names table key ↔ ∃ value, c.attribute? table key name = some value := by
  rw [names, List.mem_toFinset, Dict.mem_keys_iff, attribute?_eq_get?_getD]

theorem mem_others : name ∈ c.others table key i ↔
    name ≠ i ∧ ∃ value, ((c.row? table key).getD ∅).get? name = some value := by
  rw [others, Finset.mem_erase, mem_names, attribute?_eq_get?_getD]

/-- There are two names at least in a row that a contender has entered if it was not alone there. -/
theorem one_lt_card_insert_names_iff :
    1 < (insert i (c.names table key)).card ↔ (c.others table key i).Nonempty := by
  have hcard : (c.others table key i).card = (insert i (c.names table key)).card - 1 := by
    rw [others, ← Finset.erase_insert_eq_erase,
      Finset.card_erase_of_mem (Finset.mem_insert_self ..)]
  rw [← Finset.card_pos, hcard]
  omega

/-- A contender that enters a row adds itself to the names in it. -/
theorem size_written (c : Contents) (table key i : String) :
    (written (c.row? table key) (Dict.singleton i i)).size =
      (insert i (c.names table key)).card := by
  rw [← Dict.card_keys]
  congr 1
  ext name
  rw [List.mem_toFinset, Dict.mem_keys_iff, Finset.mem_insert, mem_names, written,
    Dict.get?_overlay, Dict.get?_singleton, attribute?_eq_get?_getD]
  by_cases hname : name = i
  · simp [hname]
  · simp [hname, Ne.symm hname]

end Contents

namespace Locking

open Interleaving Solo

variable {table : String} {k : RowKey} {i : String} {before after : Contents}

/-! ### Who is in the lock row -/

theorem otherThan_eq_none_iff_others {key : String} :
    LockTable.otherThan i ((before.row? table key).getD ∅) = none ↔
      before.others table key i = ∅ := by
  rw [otherThan_eq_none_iff, Finset.eq_empty_iff_forall_notMem]
  constructor
  · intro h name hname
    obtain ⟨hne, value, hvalue⟩ := Contents.mem_others.mp hname
    rw [h name hne] at hvalue
    cases hvalue
  · intro h name hne
    cases hvalue : ((before.row? table key).getD ∅).get? name with
    | none => rfl
    | some value => exact (h name (Contents.mem_others.mpr ⟨hne, value, hvalue⟩)).elim

/-- The name that turns a contender away is the first one that is not its own. -/
theorem least_of_otherThan {entries : Attributes} {holder : String}
    (h : LockTable.otherThan i entries = some holder) :
    (holder ≠ i ∧ ∃ value, entries.get? holder = some value) ∧
      ∀ name value, name ≠ i → entries.get? name = some value →
        KeyOrder.before name holder = false := by
  -- the keys are in order, and those before the one that was found are the contender's own
  obtain ⟨hholder, passed, rest, hkeys, hpassed⟩ := List.find?_eq_some_iff_append.mp h
  have hsorted : (passed ++ holder :: rest).Pairwise
      fun a b => KeyOrder.before a b = true := by
    rw [← hkeys]
    exact List.pairwise_map.mpr entries.sorted
  refine ⟨⟨by simpa using hholder, ?_⟩, fun name value hname hvalue => ?_⟩
  · rw [← Dict.mem_keys_iff, hkeys]
    simp
  · have hmem : name ∈ passed ++ holder :: rest := by
      rw [← hkeys]
      exact Dict.mem_keys_iff.mpr ⟨value, hvalue⟩
    rcases List.mem_append.mp hmem with hin | hin
    · exact (hname (by simpa using hpassed name hin)).elim
    · rcases List.mem_cons.mp hin with rfl | hin
      · exact KeyOrder.before_irrefl name
      · have hbefore : KeyOrder.before holder name = true :=
          (List.pairwise_cons.mp (List.pairwise_append.mp hsorted).2.1).1 name hin
        cases hback : KeyOrder.before name holder with
        | false => rfl
        | true =>
          have hself := KeyOrder.before_trans hbefore hback
          rw [KeyOrder.before_irrefl] at hself
          cases hself

/-! ### Decisions -/

/-- What a lone attempt answers by the names that it meets, and what it leaves behind. -/
structure Decision (table : String) (k : RowKey) (i : String) (before : Contents)
    (answer : Except LockError Hold) (after : Contents) : Prop where
  /-- It gives way to the others in the lock row and names the first of them. -/
  held : (before.others table k.lock i).Nonempty →
    ∃ holder ∈ before.others table k.lock i,
      (∀ name ∈ before.others table k.lock i, KeyOrder.before name holder = false) ∧
        answer = .error (.heldByOther k.lock holder)
  /-- If there are none, it gives way to those in the choosing row and counts itself in. -/
  contended : before.others table k.lock i = ∅ →
    1 < (insert i (before.names table k.choosing)).card →
      answer = .error
        (.contention k.choosing (insert i (before.names table k.choosing)).card)
  free : before.others table k.lock i = ∅ →
    ¬ 1 < (insert i (before.names table k.choosing)).card → answer = .ok ⟨k, i⟩
  unraced : ∀ key, answer ≠ .error (.raceLost key)
  taken : ∀ hold, answer = .ok hold →
    after.attribute? table k.choosing i = some i ∧ after.attribute? table k.lock i = some i
  refused : ∀ error, answer = .error error →
    after.row? table k.lock = before.row? table k.lock ∧
      after.attribute? table k.choosing i = none
  /-- Nothing else changes. -/
  frame : Contents.SameBut table k.GuardedBy i before after
  /-- The only one in the lock row takes the lock again exactly if no others are in the choosing
  row, and then it is still the only one. -/
  renewed : before.names table k.lock = {i} →
    (answer = .ok ⟨k, i⟩ ↔ before.others table k.choosing i = ∅) ∧
      (answer = .ok ⟨k, i⟩ → after.names table k.lock = {i})

/-- What a lone attempt leaves behind that is turned away: it entered the choosing row and left
it again. -/
theorem refused_of_perform (hafter : after = ((before.perform (.put table k.choosing
      (Dict.singleton i i) none)).2.perform
        (Contents.deleteAttribute table k.choosing i i)).2) :
    after.row? table k.lock = before.row? table k.lock ∧
      after.attribute? table k.choosing i = none ∧
      Contents.SameBut table k.GuardedBy i before after := by
  rw [hafter]
  refine ⟨?_, ?_, (Contents.SameBut.refl.put k.guardedBy_choosing i).deleteAttribute
    k.guardedBy_choosing i⟩
  · rw [Contents.row?_perform
      (StoreCall.not_writesTo_delete (RowKey.lock_ne_choosing k k).symm _ _),
      Contents.row?_perform (StoreCall.not_writesTo_put (RowKey.lock_ne_choosing k k).symm _ _)]
  · simp [Contents.attribute?_deleteAttribute, Contents.attribute?_put]

/-- What a lone attempt leaves behind that takes the lock: it entered both rows. -/
theorem taken_of_perform (hafter : after = ((before.perform (.put table k.choosing
      (Dict.singleton i i) none)).2.perform
        (.put table k.lock (Dict.singleton i i) none)).2) :
    after.attribute? table k.choosing i = some i ∧
      (∀ name, after.attribute? table k.lock name =
        if i = name then some i else before.attribute? table k.lock name) ∧
      Contents.SameBut table k.GuardedBy i before after := by
  rw [hafter]
  refine ⟨?_, fun name => ?_, (Contents.SameBut.refl.put k.guardedBy_choosing i).put
    k.guardedBy_lock i⟩
  · rw [Contents.attribute?_perform
      (StoreCall.not_writesTo_put (RowKey.lock_ne_choosing k k) _ _), Contents.attribute?_put]
    simp
  · rw [Contents.attribute?_put, Contents.attribute?_perform
      (StoreCall.not_writesTo_put (RowKey.lock_ne_choosing k k).symm _ _), Dict.get?_singleton]
    split
    · rfl
    · rfl

theorem Decision.of_held (hheld : (before.others table k.lock i).Nonempty) {holder : String}
    (hholder : LockTable.otherThan i ((before.row? table k.lock).getD ∅) = some holder)
    (hafter : after = ((before.perform (.put table k.choosing
      (Dict.singleton i i) none)).2.perform
        (Contents.deleteAttribute table k.choosing i i)).2) :
    Decision table k i before (.error (.heldByOther k.lock holder)) after := by
  obtain ⟨hlock, hchoosing, hframe⟩ := refused_of_perform hafter
  obtain ⟨hmem, hleast⟩ := least_of_otherThan hholder
  refine ⟨fun _ => ⟨holder, Contents.mem_others.mpr hmem, fun name hname => ?_, rfl⟩,
    fun hnone => (hheld.ne_empty hnone).elim, fun hnone => (hheld.ne_empty hnone).elim,
    nofun, nofun, fun _ _ => ⟨hlock, hchoosing⟩, hframe, fun hsole => ?_⟩
  · obtain ⟨hne, value, hvalue⟩ := Contents.mem_others.mp hname
    exact hleast name value hne hvalue
  · rw [Contents.others, hsole] at hheld
    simp at hheld

theorem Decision.of_contended (hnone : before.others table k.lock i = ∅)
    (hcard : 1 < (insert i (before.names table k.choosing)).card)
    (hafter : after = ((before.perform (.put table k.choosing
      (Dict.singleton i i) none)).2.perform
        (Contents.deleteAttribute table k.choosing i i)).2) :
    Decision table k i before
      (.error (.contention k.choosing (insert i (before.names table k.choosing)).card)) after := by
  obtain ⟨hlock, hchoosing, hframe⟩ := refused_of_perform hafter
  refine ⟨fun hheld => (hheld.ne_empty hnone).elim, fun _ _ => rfl,
    fun _ hfree => (hfree hcard).elim, nofun, nofun, fun _ _ => ⟨hlock, hchoosing⟩, hframe,
    fun _ => ⟨⟨nofun, fun halone => ?_⟩, nofun⟩⟩
  exact ((Contents.one_lt_card_insert_names_iff.mp hcard).ne_empty halone).elim

theorem Decision.of_free (hnone : before.others table k.lock i = ∅)
    (hcard : ¬ 1 < (insert i (before.names table k.choosing)).card)
    (hafter : after = ((before.perform (.put table k.choosing
      (Dict.singleton i i) none)).2.perform
        (.put table k.lock (Dict.singleton i i) none)).2) :
    Decision table k i before (.ok ⟨k, i⟩) after := by
  obtain ⟨hchoosing, hlock, hframe⟩ := taken_of_perform hafter
  have halone : before.others table k.choosing i = ∅ := by
    rw [← Finset.not_nonempty_iff_eq_empty, ← Contents.one_lt_card_insert_names_iff]
    exact hcard
  refine ⟨fun hheld => (hheld.ne_empty hnone).elim, fun _ h => (hcard h).elim, fun _ _ => rfl,
    nofun, fun _ _ => ⟨hchoosing, (hlock i).trans (if_pos rfl)⟩, nofun, hframe,
    fun hsole => ⟨⟨fun _ => halone, fun _ => rfl⟩, fun _ => ?_⟩⟩
  ext name
  rw [Contents.mem_names, hlock]
  by_cases hname : i = name
  · simp [hname]
  · rw [if_neg hname, ← Contents.mem_names, hsole]

/-- **What a lone attempt decides.** With nobody else about and nothing failing, an attempt gives
way to the first other name in the lock row if there is one, otherwise to the names in the choosing
row if there are others than its own, and otherwise takes the lock, whatever is in the store. -/
theorem lone_acquire_decides (locks : LockTable) (k : RowKey) (i : String) (now : UInt64)
    (before : Contents) :
    Decision locks.name k i before (run Faults.none now (locks.acquire k i) before).1
      (run Faults.none now (locks.acquire k i) before).2.contents := by
  obtain ⟨hanswer, hcontents⟩ :=
    run_none now (locks.acquire k i) i ⟨before, []⟩ ⟨before, []⟩ rfl
  rw [run, hanswer, hcontents]
  cases hother : LockTable.otherThan i ((before.row? locks.name k.lock).getD ∅) with
  | some holder =>
    obtain ⟨hrefused, hafter⟩ := run_acquire_held now (s := ⟨before, []⟩) hother
    rw [hrefused]
    refine .of_held ?_ hother hafter
    exact ⟨holder, Contents.mem_others.mpr (least_of_otherThan hother).1⟩
  | none =>
    have hnone := otherThan_eq_none_iff_others.mp hother
    by_cases hcard : 1 < (insert i (before.names locks.name k.choosing)).card
    · obtain ⟨hrefused, hafter⟩ := run_acquire_contended now (s := ⟨before, []⟩) hother
        (Contents.size_written .. ▸ hcard)
      rw [hrefused]
      show Decision _ _ _ _ (.error (.contention _ (Contents.written _ _).size)) _
      rw [Contents.size_written]
      exact .of_contended hnone hcard hafter
    · obtain ⟨htaken, hafter⟩ := run_acquire_free now (s := ⟨before, []⟩) hother
        (Contents.size_written .. ▸ hcard)
      rw [htaken]
      exact .of_free hnone hcard hafter

/-- The holder of a lock does not take it again while another name is in the choosing row. -/
theorem sole_holder_turned_away :
    ∃ before : Contents,
      before.row? "locks" (RowKey.lock ⟨"app_rack_1"⟩) = some (Dict.singleton "a" "a") ∧
      (run Faults.none 0 (LockTable.acquire ⟨"locks", .zero⟩ ⟨"app_rack_1"⟩ "a") before).1 =
        .error (.contention "app_rack_1-choosing" 2) :=
  ⟨((∅ : Contents).setRow "locks" "app_rack_1-lock" (some (Dict.singleton "a" "a"))).setRow
    "locks" "app_rack_1-choosing" (some (Dict.singleton "b" "b")), rfl, rfl⟩

end Locking

end ClusterIdentity
