import ClusterIdentity.Proofs.Lock.Alone
import ClusterIdentity.Proofs.Lock.Contenders
import ClusterIdentity.Proofs.Simulation.InMemory

/-!
# What contenders leave behind

If nothing goes wrong, the two rows of a row key tell between calls who holds the lock and nothing
else, however calls overlapped: no failed attempt and no lock that was torn down leaves an entry
that would turn later attempts away.

## Main statements

* `holds_iff_token`: a contender holds the locks that its attempts returned
* `no_stale_entries`: what is in the rows when no call is under way
-/

namespace ClusterIdentity.Locking

open Interleaving

variable {table : String} {k : RowKey}

/-- A contender between calls that does not hold the lock has no entry in the two rows. -/
theorem attribute?_of_idle {s : State String Tokens}
    (hsound : (lockConduct table k).Sound True (Rests True table k) s) {i : String}
    {tokens : Tokens} (hidle : s.activity i = .idle tokens) (hfree : s.holds table k i = false)
    {key : String} (hkey : k.GuardedBy key) : s.contents.attribute? table key i = none := by
  obtain ⟨h, -, -, hapart⟩ := hsound.idle i tokens hidle
  have hh : h = false := hapart.holds.symm.trans hfree
  exact hapart.unlisted trivial hh key hkey

variable {contents : Contents} {s : State String Tokens}

/-- If nothing goes wrong, the locks that a contender holds between calls are those of which it
keeps what a successful attempt returned. -/
theorem holds_iff_token (hlock : contents.row? table k.lock = none)
    (hchoosing : contents.row? table k.choosing = none)
    (hreach : Reaches (lockRules table True) (State.initial contents Tokens.none) s) {i : String}
    {tokens : Tokens} (hidle : s.activity i = .idle tokens) :
    s.holds table k i = true ↔ tokens k = some ⟨k, i⟩ := by
  constructor
  · intro hholds
    obtain ⟨h, htokens, hspent, hapart⟩ :=
      (sound_of_reaches hlock hchoosing hreach).idle i tokens hidle
    cases htoken : tokens k with
    | none =>
      have hfree : s.holds table k i = false := hapart.holds.trans (hspent trivial htoken)
      rw [hholds] at hfree
      cases hfree
    | some hold => rw [(htokens hold htoken).1]
  · exact fun htoken => (holds_of_token hlock hchoosing hreach hidle htoken).2

/-- **No stale entries.** If nothing goes wrong and no call is under way, the lock row has just
the holder's entry, or is absent if nobody holds the lock; in the choosing row there is at most
the holder; and if nobody holds the lock, a contender that is left alone takes it. -/
theorem no_stale_entries (hlock : contents.row? table k.lock = none)
    (hchoosing : contents.row? table k.choosing = none)
    (hreach : Reaches (lockRules table True) (State.initial contents Tokens.none) s)
    (hidle : ∀ i, ∃ tokens, s.activity i = .idle tokens) :
    (∀ i, s.holds table k i = true →
      s.contents.row? table k.lock = some (Dict.singleton i i)) ∧
    ((∀ i, s.holds table k i = false) → s.contents.row? table k.lock = none) ∧
    (∀ i value, s.contents.attribute? table k.choosing i = some value →
      s.holds table k i = true) ∧
    ((∀ i, s.holds table k i = false) → ∀ (c : String) (locks : LockTable) (world :
        Simulation.World), locks.name = table → world.Stores s.contents → world.Undisturbed →
      ((locks.acquire k c).run Simulation.World.performEffect world).1 = .ok ⟨k, c⟩) := by
  have hsound := sound_of_reaches hlock hchoosing hreach
  have hinv : LockInv table k s.toScene := hsound.inv
  have hfree : ∀ i, s.holds table k i = false → ∀ key, k.GuardedBy key →
      s.contents.attribute? table key i = none := by
    intro i hi key hkey
    obtain ⟨tokens, htokens⟩ := hidle i
    exact attribute?_of_idle hsound htokens hi hkey
  -- an empty row is an absent row
  have habsent : (∀ i, s.holds table k i = false) → ∀ key, k.GuardedBy key →
      s.contents.row? table key = none := fun hnobody key hkey =>
    (hinv.occupied key hkey).row?_eq_none fun i => hfree i (hnobody i) key hkey
  refine ⟨fun i hi => ?_, fun hnobody => ?_, fun i value hvalue => ?_, ?_⟩
  · obtain ⟨row, hrow, hentry⟩ := Contents.exists_row?_of_attribute? (hinv.named i hi)
    rw [hrow, Option.some.injEq]
    refine Dict.ext_get? fun j => ?_
    rw [Dict.get?_singleton]
    split
    · rename_i heq
      rw [← heq, hentry]
    · rename_i hne
      have hj : s.holds table k j = false :=
        Bool.eq_false_iff.mpr fun hj => hne (hinv.unique i j hi hj)
      rw [← Contents.attribute?_of_row? hrow]
      exact hfree j hj _ k.guardedBy_lock
  · exact habsent hnobody _ k.guardedBy_lock
  · cases hi : s.holds table k i with
    | true => rfl
    | false =>
      rw [hfree i hi _ k.guardedBy_choosing] at hvalue
      cases hvalue
  · intro hnobody c locks world hname hworld hcalm
    subst hname
    rw [(Simulation.World.run_of_undisturbed _ hcalm c hworld).1]
    exact (run_acquire _ (habsent hnobody _ k.guardedBy_choosing)
      (.inl (habsent hnobody _ k.guardedBy_lock))).1

/-- After a contender took the lock and tore it down, another one that is left alone takes it. -/
theorem acquire_after_lone_tearDown :
    ∃ s, Reaches (lockRules "locks" True) (State.initial ∅ Tokens.none) s ∧
      s.contents.row? "locks" (RowKey.lock ⟨"app_rack_1"⟩) = none ∧
      ∀ (world : Simulation.World), world.Stores s.contents → world.Undisturbed →
        ((LockTable.acquire ⟨"locks", .zero⟩ ⟨"app_rack_1"⟩ "b").run
          Simulation.World.performEffect world).1 = .ok ⟨⟨"app_rack_1"⟩, "b"⟩ := by
  obtain ⟨taken, htaken⟩ : ∃ taken : State String Tokens,
      taken = (State.initial ∅ Tokens.none).alone "a" 0 ((LockTable.acquire ⟨"locks", .zero⟩
        ⟨"app_rack_1"⟩ "a").bind fun answer =>
          .done (Tokens.none.keep ⟨"app_rack_1"⟩ answer)) := ⟨_, rfl⟩
  obtain ⟨s, hs⟩ : ∃ s : State String Tokens,
      s = taken.alone "a" 0 ((LockTable.tearDown ⟨"locks", .zero⟩ ⟨⟨"app_rack_1"⟩, "a"⟩).bind
        fun _ => .done ((Tokens.none.keep ⟨"app_rack_1"⟩
          (.ok ⟨⟨"app_rack_1"⟩, "a"⟩)).drop ⟨"app_rack_1"⟩)) := ⟨_, rfl⟩
  have htake : Reaches (lockRules "locks" True) (State.initial ∅ Tokens.none) taken := by
    rw [htaken]
    exact Step.call_reaches 0 rfl (.acquire ⟨"locks", .zero⟩ rfl ⟨"app_rack_1"⟩ Tokens.none)
  have hreach : Reaches (lockRules "locks" True) (State.initial ∅ Tokens.none) s := by
    refine htake.trans ?_
    rw [hs]
    refine Step.call_reaches 0 ?_ (.tearDown ⟨"locks", .zero⟩ rfl (Tokens.none.keep ⟨"app_rack_1"⟩
      (.ok ⟨⟨"app_rack_1"⟩, "a"⟩)) rfl)
    rw [htaken]
    rfl
  have hspent : ∀ i, ∃ tokens, s.activity i = .idle tokens ∧ tokens ⟨"app_rack_1"⟩ = .none := by
    intro i
    by_cases hi : i = "a"
    · rw [hs, hi, State.activity_alone_self, Program.run_bind]
      exact ⟨_, rfl, Tokens.drop_self (Tokens.none.keep ⟨"app_rack_1"⟩ (.ok ⟨⟨"app_rack_1"⟩, "a"⟩))
        ⟨"app_rack_1"⟩⟩
    · rw [hs, State.activity_alone_of_ne _ hi, htaken, State.activity_alone_of_ne _ hi]
      exact ⟨Tokens.none, rfl, rfl⟩
  have hfree : ∀ i, s.holds "locks" ⟨"app_rack_1"⟩ i = false := by
    intro i
    obtain ⟨tokens, hidle, hnone⟩ := hspent i
    refine Bool.eq_false_iff.mpr fun hholds => ?_
    cases hnone.symm.trans ((holds_iff_token rfl rfl hreach hidle).mp hholds)
  have hidle : ∀ i, ∃ tokens, s.activity i = .idle tokens := fun i =>
    (hspent i).imp fun _ h => h.1
  obtain ⟨-, hrow, -, hlone⟩ := no_stale_entries (k := ⟨"app_rack_1"⟩) rfl rfl hreach hidle
  exact ⟨s, hreach, hrow hfree, fun world => hlone hfree "b" _ world rfl⟩

end ClusterIdentity.Locking
