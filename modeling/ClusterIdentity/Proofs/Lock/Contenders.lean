import ClusterIdentity.Proofs.Lock.Footprint

/-!
# Contenders for locks

Any number of contenders take, release and tear down locks, each making one call at a time. A
contender tears a lock down only with what its latest successful attempt returned, and only once.

## Main definitions

* `Tokens`: the locks that a contender may still tear down
* `Calls`, `lockRules`: which calls a contender may make
* `Rests`: what is known of a contender between calls

## Main statements

* `sound_of_reaches`: contenders keep to the conduct in every state that they reach
* `holds_of_token`: what a successful attempt returned tells of a lock that is held
* `holder_unique_and_named`: at most one contender holds a lock, and the lock row names it
-/

namespace ClusterIdentity.Locking

open Interleaving

/-- What a contender's latest successful attempt at each row key returned, unless it has used it
to tear the lock down. -/
abbrev Tokens := RowKey → Option Hold

namespace Tokens

def none : Tokens := fun _ => .none

/-- The locks after an attempt at one. -/
def keep (tokens : Tokens) (k : RowKey) : Except LockError Hold → Tokens
  | .ok hold => Function.update tokens k (some hold)
  | .error _ => tokens

/-- The locks without that of a row key. -/
def drop (tokens : Tokens) (k : RowKey) : Tokens := Function.update tokens k .none

@[simp] theorem keep_self (tokens : Tokens) (k : RowKey) (hold : Hold) :
    tokens.keep k (.ok hold) k = some hold :=
  Function.update_self ..

@[simp] theorem drop_self (tokens : Tokens) (k : RowKey) : tokens.drop k k = .none :=
  Function.update_self ..

theorem keep_of_ne (tokens : Tokens) {k k' : RowKey} (h : k' ≠ k)
    (answer : Except LockError Hold) : tokens.keep k' answer k = tokens k := by
  cases answer with
  | ok hold => exact Function.update_of_ne h.symm _ _
  | error e => rfl

theorem drop_of_ne (tokens : Tokens) {k k' : RowKey} (h : k' ≠ k) :
    tokens.drop k' k = tokens k :=
  Function.update_of_ne h.symm _ _

end Tokens

/-- The calls that a contender may make, with the locks that it keeps before it, those that it
keeps if the call is abandoned, and those that it keeps in the end. -/
inductive Calls (table i : String) : Tokens → Tokens → Procedure Tokens → Prop
  | acquire (locks : LockTable) (hname : locks.name = table) (k : RowKey) (tokens : Tokens) :
    Calls table i tokens tokens
      ((locks.acquire k i).bind fun answer => .done (tokens.keep k answer))
  | release (locks : LockTable) (hname : locks.name = table) (k : RowKey) (tokens : Tokens) :
    Calls table i tokens tokens ((locks.release k i).bind fun _ => .done tokens)
  | tearDown (locks : LockTable) (hname : locks.name = table) (tokens : Tokens) {hold : Hold}
    (hhold : tokens hold.rowKey = some hold) :
    Calls table i tokens (tokens.drop hold.rowKey)
      ((locks.tearDown hold).bind fun _ => .done (tokens.drop hold.rowKey))

/-- Contenders whose locks are kept in one table. -/
def lockRules (table : String) (reliable : Prop) : Rules String Tokens := ⟨reliable, Calls table⟩

/-- What is known of a contender between calls: it holds every lock that it may tear down, and if
nothing goes wrong, it holds no other one and has no entries in the rows of a lock that it does not
hold. -/
def Rests (reliable : Prop) (table : String) (k : RowKey) (i : String) (tokens : Tokens)
    (s : Scene String) : Prop :=
  ∃ h, (∀ hold, tokens k = some hold → hold = ⟨k, i⟩ ∧ h = true) ∧
    (reliable → tokens k = .none → h = false) ∧ Apart reliable table k i h s

variable {table : String} {reliable : Prop} {k : RowKey} {i : String} {tokens : Tokens}

theorem stable_rests : (lockConduct table k).Stable i (Rests reliable table k i tokens) := by
  rintro a b ha hb hrely ⟨h, htokens, hspent, hapart⟩
  exact ⟨h, htokens, hspent, stable_apart a b ha hb hrely hapart⟩

/-- Where a call may be abandoned, it is enough that the lock is as it was. -/
theorem rests_of_unreliable {h : Bool} {s : Scene String}
    (htokens : ∀ hold, tokens k = some hold → hold = ⟨k, i⟩ ∧ h = true) (hr : ¬ reliable)
    (hholds : s.holds table k i = h) : Rests reliable table k i tokens s :=
  ⟨h, htokens, fun hr' => (hr hr').elim, hholds, fun hr' => (hr hr').elim⟩

/-- Calls for another lock leave everything as it is. -/
theorem triple_elsewhere {k' : RowKey} (hne : k' ≠ k) {α : Type} {p : Procedure α} {R : α → Prop}
    (hp : p.Within (ForLock table k') (TakesOnly k') R) {fallback : Tokens} (note : α → Tokens)
    (hfallback : fallback k = tokens k) (hnote : ∀ a, note a k = tokens k) :
    (lockConduct table k).Triple reliable i (Rests reliable table k i fallback)
      (Rests reliable table k i tokens) (p.bind fun a => .done (note a))
      (Rests reliable table k i) := by
  rintro s hs ⟨h, htokens, hspent, hapart⟩
  have hkeep : ¬ reliable → ∀ s, s.holds table k i = h → Rests reliable table k i fallback s :=
    fun hr _ => rests_of_unreliable (hfallback ▸ htokens) hr
  refine (triple_of_forLock hne hp hkeep).bind (fun a => ?_) s hs hapart
  exact Conduct.Triple.done fun s _ hs => ⟨h, hnote a ▸ htokens, hnote a ▸ hspent, hs.2⟩

theorem triple_calls {fallback : Tokens} {p : Procedure Tokens}
    (hcall : Calls table i tokens fallback p) :
    (lockConduct table k).Triple reliable i (Rests reliable table k i fallback)
      (Rests reliable table k i tokens) p (Rests reliable table k i) := by
  cases hcall with
  | acquire locks hname k' =>
    subst hname
    by_cases hk : k' = k
    · subst hk
      rintro s hs ⟨h, htokens, hspent, hapart⟩
      refine (triple_acquire fun hr _ => rests_of_unreliable htokens hr).bind
        (fun answer => ?_) s hs hapart
      cases answer with
      | error e => exact Conduct.Triple.done fun s _ hs => ⟨h, htokens, hspent, hs⟩
      | ok hold =>
        refine Conduct.Triple.done fun s _ hs =>
          ⟨true, fun hold' hhold => ?_, fun _ hnone => ?_, hs.2, nofun⟩
        · rw [tokens.keep_self, Option.some.injEq] at hhold
          exact ⟨hhold.symm.trans hs.1, rfl⟩
        · cases (tokens.keep_self k' hold).symm.trans hnone
    · exact triple_elsewhere hk ((within_acquire locks k' i).mono (fun _ hcall => hcall.1.forLock)
        fun _ hevent => hevent.takesOnly) _ rfl (tokens.keep_of_ne hk)
  | release locks hname k' =>
    subst hname
    by_cases hk : k' = k
    · subst hk
      rintro s hs ⟨h, htokens, hspent, hapart⟩
      refine (triple_release fun hr _ => rests_of_unreliable htokens hr).bind
        (fun answer => ?_) s hs hapart
      exact Conduct.Triple.done fun s _ hs => ⟨h, htokens, hspent, hs⟩
    · exact triple_elsewhere hk ((within_release locks k' i).mono (fun _ hcall => hcall.1.forLock)
        fun _ hevent => hevent.takesOnly) _ rfl fun _ => rfl
  | @tearDown locks hname _ hold hhold =>
    subst hname
    by_cases hk : hold.rowKey = k
    · subst hk
      -- the lock counts as torn down as soon as the call is made, even if it is abandoned
      have hdropped : ∀ hold', tokens.drop hold.rowKey hold.rowKey ≠ some hold' := by
        intro hold'
        rw [tokens.drop_self]
        exact nofun
      rintro s hs ⟨h, htokens, -, hapart⟩
      obtain ⟨hhold, rfl⟩ := htokens hold hhold
      have hkeep : ¬ reliable → ∀ s, Rests reliable locks.name hold.rowKey i
          (tokens.drop hold.rowKey) s :=
        fun hr _ => rests_of_unreliable (fun hold' h => (hdropped hold' h).elim) hr rfl
      refine (triple_tearDown hhold hkeep).bind (fun answer => ?_) s hs hapart.holds
      exact Conduct.Triple.done fun s _ hs => ⟨_, fun hold' h => (hdropped hold' h).elim,
        fun hr _ => (hs hr).holds, rfl, fun hr _ => (hs hr).unlisted hr rfl⟩
    · exact triple_elsewhere hk ((within_tearDown locks hold).mono (fun _ hcall => hcall.forLock)
        fun _ hevent => hevent.takesOnly _) _ (tokens.drop_of_ne hk) fun _ => tokens.drop_of_ne hk

section Run

variable {contents : Contents} (hlock : contents.row? table k.lock = none)
  (hchoosing : contents.row? table k.choosing = none) {s : State String Tokens}
  (hreach : Reaches (lockRules table reliable) (State.initial contents Tokens.none) s)

include hlock hchoosing hreach

/-- In every state that contenders reach, each of them keeps to the conduct. -/
theorem sound_of_reaches :
    (lockConduct table k).Sound reliable (Rests reliable table k) s := by
  have habsent : ∀ key, k.GuardedBy key → contents.row? table key = none := by
    rintro key (rfl | rfl)
    · exact hlock
    · exact hchoosing
  have hnone : ∀ key, k.GuardedBy key → ∀ i, contents.attribute? table key i = none :=
    fun key hkey i => Contents.attribute?_eq_none_of_row? (habsent key hkey)
  have hstart : (lockConduct table k).Sound reliable (Rests reliable table k)
      (State.initial contents Tokens.none) := by
    refine ⟨LockInv.initial habsent, fun i note hi => ?_, nofun⟩
    cases hi
    exact ⟨false, nofun, fun _ _ => rfl, rfl, fun _ _ key hkey => hnone key hkey i⟩
  have hcalls : ∀ i note fallback p, (lockRules table reliable).allows i note fallback p →
      (lockConduct table k).Triple reliable i (Rests reliable table k i fallback)
        (Rests reliable table k i note) p (Rests reliable table k i) :=
    fun _ _ _ _ hcall => triple_calls hcall
  exact Conduct.sound (fun _ _ => stable_rests) hcalls hstart hreach

/-- A contender between calls holds every lock of which it keeps what a successful attempt
returned. -/
theorem holds_of_token {hold : Hold} (hidle : s.activity i = .idle tokens)
    (htoken : tokens k = some hold) : hold = ⟨k, i⟩ ∧ s.holds table k i = true := by
  obtain ⟨h, htokens, -, hapart⟩ := (sound_of_reaches hlock hchoosing hreach).idle i tokens hidle
  obtain ⟨hhold, rfl⟩ := htokens hold htoken
  exact ⟨hhold, hapart.holds⟩

/-- **Mutual exclusion.** Whatever fails and whoever gives up in the middle of a call, at most
one contender holds the lock of a row key, and the lock row names it. -/
theorem holder_unique_and_named :
    (∀ i j, s.holds table k i = true → s.holds table k j = true → i = j) ∧
      ∀ i, s.holds table k i = true →
        ∃ row, s.contents.row? table k.lock = some row ∧ row.get? i = some i := by
  have hinv : LockInv table k s.toScene := (sound_of_reaches hlock hchoosing hreach).inv
  exact ⟨hinv.unique, fun i hi => Contents.exists_row?_of_attribute? (hinv.named i hi)⟩

end Run

/-- A contender that takes a lock is the only holder, and is named. -/
theorem holder_named_after_lone_acquire :
    ∃ s, Reaches (lockRules "locks" False) (State.initial ∅ Tokens.none) s ∧
      s.holds "locks" ⟨"app_rack_1"⟩ "a" = true ∧
      (∀ i, s.holds "locks" ⟨"app_rack_1"⟩ i = true → i = "a") ∧
      ∃ row, s.contents.row? "locks" (RowKey.lock ⟨"app_rack_1"⟩) = some row ∧
        row.get? "a" = some "a" := by
  have hreach : Reaches (lockRules "locks" False) (State.initial ∅ Tokens.none) _ :=
    Step.call_reaches (i := "a") 0 rfl (.acquire ⟨"locks", .zero⟩ rfl ⟨"app_rack_1"⟩ Tokens.none)
  obtain ⟨hunique, hnamed⟩ := holder_unique_and_named (k := ⟨"app_rack_1"⟩) rfl rfl hreach
  exact ⟨_, hreach, rfl, fun i hi => hunique i "a" hi rfl, hnamed "a" rfl⟩

end ClusterIdentity.Locking
