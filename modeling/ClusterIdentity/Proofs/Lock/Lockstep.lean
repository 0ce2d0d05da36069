import Mathlib.Data.Finset.Max
import ClusterIdentity.Proofs.Lock.Choosing
import ClusterIdentity.Proofs.Lock.Deciding

/-!
# Attempts in lockstep

Contenders that try to take a lock at the same time may all give way to each other. They surely do
if they go through their attempts in rounds: all of them enter the choosing row before any of them
reads it, and all of them read it before any of them leaves. The order within the rounds, and all
that is done between entering and leaving, does not matter. Each contender then finds everyone in
the choosing row, nobody gets as far as the lock row, and everything is as it was before.

## Main definitions

* `sentBy`: the requests of one participant
* `InLockstep`: the contenders keep to the rounds
* `attemptCalls`: what an attempt sends that gives way to the contention
* `lockstepRules`, `lockstepConduct`: contenders that make one attempt each, and their conduct

## Main statements

* `LockstepInv.size_choosing`: who reads the choosing row finds all contenders in it
* `LockstepInv.proper_sent`, `lockstep_acquire`: requests and attempts keep to the conduct
* `lockstep_contenders_give_way`: what an attempt comes to, and what is left of all of them

## Design notes

That contenders keep to the rounds is not something they see to: it is a property of the record of
what was done, and what is claimed of a scene is claimed on the condition that it has been so up to
then. Since the condition only ever goes from true to false, a contender that has found out that it
does not hold may do anything.
-/

namespace ClusterIdentity.Interleaving

/-- Whether an act is to read one row. -/
def Act.reads (table key : String) : Act → Bool
  | .sent (.batchGet t keys) true => decide (t = table ∧ keys = [key])
  | _ => false

section SentBy

variable {ι : Type} [DecidableEq ι]

/-- The requests that a participant sent, in order. -/
def sentBy (i : ι) : List (ι × Act) → List Act
  | [] => []
  | (j, .sent call reached) :: earlier =>
    if j = i then sentBy i earlier ++ [.sent call reached] else sentBy i earlier
  | (_, .reported _) :: earlier => sentBy i earlier

theorem sentBy_self (i : ι) (call : StoreCall) (reached : Bool) (earlier : List (ι × Act)) :
    sentBy i ((i, .sent call reached) :: earlier) = sentBy i earlier ++ [.sent call reached] :=
  if_pos rfl

theorem sentBy_of_ne {i j : ι} (h : j ≠ i) (act : Act) (earlier : List (ι × Act)) :
    sentBy i ((j, act) :: earlier) = sentBy i earlier := by
  cases act with
  | sent call reached => exact if_neg h
  | reported event => rfl

end SentBy

end ClusterIdentity.Interleaving

namespace ClusterIdentity.Locking

open Interleaving

/-! ### Rounds -/

section Rounds

variable (S : Finset String) (table : String) (k : RowKey)

/-- Whether contenders kept to the rounds: nobody read the choosing row before all had entered it,
and nobody removed anything from the two rows before all had read the choosing row. -/
def InLockstep : List (String × Act) → Prop
  | [] => True
  | (_, act) :: earlier => InLockstep earlier ∧
    (act.reads table k.choosing = true →
      ∀ c ∈ S, (sentBy c earlier).any (Act.enters table k.choosing) = true) ∧
    ((act.leaves table k.choosing || act.leaves table k.lock) = true →
      ∀ c ∈ S, (sentBy c earlier).any (Act.reads table k.choosing) = true)

instance InLockstep.decidable : DecidablePred (InLockstep S table k)
  | [] => .isTrue trivial
  | (_, _) :: earlier =>
    have : Decidable (InLockstep S table k earlier) := InLockstep.decidable earlier
    inferInstanceAs (Decidable (_ ∧ _ ∧ _))

/-- What an attempt of a contender sends that gives way to others in the choosing row. -/
def attemptCalls (i : String) : List StoreCall :=
  [.put table k.choosing (Dict.singleton i i) none, .batchGet table [k.choosing],
    .batchGet table [k.lock], Contents.deleteAttribute table k.choosing i i]

/-- The requests of such an attempt, none of which is lost. -/
def script (i : String) : List Act := (attemptCalls table k i).map (.sent · true)

end Rounds

variable {S : Finset String} {table : String} {k : RowKey} {i : String}

theorem inLockstep_of_cons {entry : String × Act} {earlier : List (String × Act)}
    (h : InLockstep S table k (entry :: earlier)) : InLockstep S table k earlier :=
  h.1

theorem inLockstep_report (event : Event) (earlier : List (String × Act)) :
    InLockstep S table k ((i, .reported event) :: earlier) ↔ InLockstep S table k earlier :=
  ⟨inLockstep_of_cons, fun h => ⟨h, nofun, nofun⟩⟩

/-- What the request of a contender is that has sent a number of them. -/
theorem attemptCalls_cases {m : ℕ} {call : StoreCall}
    (h : (attemptCalls table k i)[m]? = some call) :
    m = 0 ∧ call = .put table k.choosing (Dict.singleton i i) none ∨
    m = 1 ∧ call = .batchGet table [k.choosing] ∨
    m = 2 ∧ call = .batchGet table [k.lock] ∨
    m = 3 ∧ call = Contents.deleteAttribute table k.choosing i i := by
  match m with
  | 0 => exact .inl ⟨rfl, (Option.some.inj h).symm⟩
  | 1 => exact .inr (.inl ⟨rfl, (Option.some.inj h).symm⟩)
  | 2 => exact .inr (.inr (.inl ⟨rfl, (Option.some.inj h).symm⟩))
  | 3 => exact .inr (.inr (.inr ⟨rfl, (Option.some.inj h).symm⟩))
  | m + 4 => exact absurd h (by simp [attemptCalls])

/-- The first requests of an attempt, and one more. -/
theorem prefix_script_concat {acts : List Act} (hacts : acts <+: script table k i)
    {call : StoreCall} (hcall : (attemptCalls table k i)[acts.length]? = some call) :
    acts ++ [.sent call true] <+: script table k i := by
  obtain ⟨rest, hrest⟩ := hacts
  have hnext : (script table k i)[acts.length]? = some (.sent call true) := by
    rw [script, List.getElem?_map, hcall]
    rfl
  rw [← hrest, List.getElem?_append_right (Nat.le_refl _), Nat.sub_self] at hnext
  cases rest with
  | nil => cases hnext
  | cons act rest =>
    obtain rfl : act = .sent call true := by simpa using hnext
    exact ⟨rest, by rw [← hrest, List.append_assoc, List.singleton_append]⟩

theorem prefix_script_cases {acts : List Act} (h : acts <+: script table k i) :
    acts = [] ∨ acts = (script table k i).take 1 ∨ acts = (script table k i).take 2 ∨
      acts = (script table k i).take 3 ∨ acts = script table k i := by
  have htake := List.prefix_iff_eq_take.mp h
  have hlength : (script table k i).length = 4 := rfl
  match hm : acts.length with
  | 0 => exact .inl (List.length_eq_zero_iff.mp hm)
  | 1 => exact .inr (.inl (hm ▸ htake))
  | 2 => exact .inr (.inr (.inl (hm ▸ htake)))
  | 3 => exact .inr (.inr (.inr (.inl (hm ▸ htake))))
  | m + 4 => exact .inr (.inr (.inr (.inr (htake.trans (List.take_of_length_le (by omega))))))

theorem any_enters_iff {acts : List Act} (h : acts <+: script table k i) :
    acts.any (Act.enters table k.choosing) = true ↔ 1 ≤ acts.length := by
  rcases prefix_script_cases h with rfl | rfl | rfl | rfl | rfl <;>
    simp [script, attemptCalls, Act.enters]

theorem any_reads_iff {acts : List Act} (h : acts <+: script table k i) :
    acts.any (Act.reads table k.choosing) = true ↔ 2 ≤ acts.length := by
  rcases prefix_script_cases h with rfl | rfl | rfl | rfl | rfl <;>
    simp [script, attemptCalls, Act.reads]

/-! ### What holds in lockstep -/

/-- What holds of a scene up to which the contenders kept to the rounds. -/
structure LockstepInv (S : Finset String) (table : String) (k : RowKey) (s : Scene String) :
    Prop where
  inOrder : ∀ c, sentBy c s.history <+: script table k c
  others : ∀ c, c ∉ S → sentBy c s.history = []
  /-- A contender leaves after all of them have read the choosing row. -/
  looked : ∀ c, 4 ≤ (sentBy c s.history).length → ∀ d ∈ S, 2 ≤ (sentBy d s.history).length
  /-- The choosing row names those who entered it and did not leave. -/
  choosing : ∀ c, s.contents.attribute? table k.choosing c =
    if 1 ≤ (sentBy c s.history).length ∧ (sentBy c s.history).length ≤ 3 then some c else none
  occupied : s.contents.Occupied table k.choosing
  lock : s.contents.row? table k.lock = none

/-- How contenders behave of which nothing is claimed once they do not keep to the rounds. -/
def lockstepConduct (S : Finset String) (table : String) (k : RowKey) : Conduct String where
  inv s := InLockstep S table k s.history → LockstepInv S table k s
  rely i a b := (InLockstep S table k b.history → InLockstep S table k a.history) ∧
    sentBy i b.history = sentBy i a.history
  may i call s := InLockstep S table k s.history →
    (attemptCalls table k i)[(sentBy i s.history).length]? = some call
  rely_refl _ _ := ⟨id, rfl⟩
  rely_trans h₁ h₂ := ⟨h₁.1 ∘ h₂.1, h₂.2.trans h₁.2⟩

theorem LockstepInv.initial {contents : Contents}
    (habsent : ∀ key, k.GuardedBy key → contents.row? table key = none) :
    LockstepInv S table k ⟨contents, []⟩ where
  inOrder _ := List.nil_prefix
  others _ _ := rfl
  looked _ h := absurd h (Nat.not_succ_le_zero 3)
  choosing _ := Contents.attribute?_eq_none_of_row? (habsent _ k.guardedBy_choosing)
  occupied row hrow := by
    rw [show contents.row? table k.choosing = none from habsent _ k.guardedBy_choosing] at hrow
    cases hrow
  lock := habsent _ k.guardedBy_lock

/-- Who reads the choosing row in lockstep finds all contenders in it and nobody else. -/
theorem LockstepInv.size_choosing {s : Scene String} (hs : LockstepInv S table k s) (hi : i ∈ S)
    (hsent : (sentBy i s.history).length = 1)
    (hentered : ∀ c ∈ S, (sentBy c s.history).any (Act.enters table k.choosing) = true) :
    ((s.contents.row? table k.choosing).getD ∅).size = S.card := by
  have hnames : s.contents.names table k.choosing = S := by
    ext c
    rw [Contents.mem_names]
    by_cases hc : c ∈ S
    · have hone : 1 ≤ (sentBy c s.history).length :=
        (any_enters_iff (hs.inOrder c)).mp (hentered c hc)
      -- nobody has left, since the reader has only now come to read
      have hthree : (sentBy c s.history).length ≤ 3 := by
        by_contra hfour
        have htwo := hs.looked c (by omega) i hi
        omega
      rw [hs.choosing c, if_pos ⟨hone, hthree⟩]
      exact iff_of_true ⟨c, rfl⟩ hc
    · have hnone : ¬ (1 ≤ (sentBy c s.history).length ∧ (sentBy c s.history).length ≤ 3) := by
        simp [hs.others c hc]
      rw [hs.choosing c, if_neg hnone]
      exact iff_of_false nofun hc
  rw [← hnames, Contents.names, Dict.card_keys]

/-- The next request of an attempt keeps to the conduct. -/
theorem LockstepInv.proper_sent {s : Scene String} (hs : (lockstepConduct S table k).inv s)
    (hi : i ∈ S) {call : StoreCall} (hmay : (lockstepConduct S table k).may i call s) :
    (lockstepConduct S table k).Proper i s
      (s.sent i call true (s.contents.perform call).2) := by
  refine ⟨fun hstep => ?_, fun j hj => ⟨inLockstep_of_cons, sentBy_of_ne hj.symm _ _⟩⟩
  obtain ⟨hbefore, hreads, hleaves⟩ := hstep
  have hinv : LockstepInv S table k s := hs hbefore
  have hcall := hmay hbefore
  have hself : sentBy i ((i, .sent call true) :: s.history) =
      sentBy i s.history ++ [.sent call true] := sentBy_self ..
  have hlength : (sentBy i ((i, .sent call true) :: s.history)).length =
      (sentBy i s.history).length + 1 := by rw [hself, List.length_append, List.length_singleton]
  have hother : ∀ c, c ≠ i → sentBy c ((i, .sent call true) :: s.history) = sentBy c s.history :=
    fun c hc => sentBy_of_ne hc.symm _ _
  have hgrows : ∀ c, (sentBy c s.history).length ≤
      (sentBy c ((i, .sent call true) :: s.history)).length := by
    intro c
    by_cases hc : c = i
    · rw [hc, hlength]
      exact Nat.le_succ _
    · rw [hother c hc]
  have hwrites : ¬ call.WritesTo table k.lock := by
    rcases attemptCalls_cases hcall with ⟨-, rfl⟩ | ⟨-, rfl⟩ | ⟨-, rfl⟩ | ⟨-, rfl⟩
    · exact StoreCall.not_writesTo_put (RowKey.lock_ne_choosing k k).symm _ _
    · exact id
    · exact id
    · exact StoreCall.not_writesTo_delete (RowKey.lock_ne_choosing k k).symm _ _
  refine ⟨fun c => ?_, fun c hc => ?_, fun c hfour d hd => ?_, fun c => ?_, ?_,
    (Contents.row?_perform hwrites).trans hinv.lock⟩
  · by_cases hc : c = i
    · subst hc
      exact hself ▸ prefix_script_concat (hinv.inOrder c) hcall
    · exact hother c hc ▸ hinv.inOrder c
  · exact (hother c fun h => hc (h ▸ hi)).trans (hinv.others c hc)
  · refine le_trans ?_ (hgrows d)
    by_cases hc : c = i
    · -- the contender leaves, for which all have to have read the choosing row
      subst hc
      have hthree : 3 ≤ (sentBy c s.history).length := by
        rw [Scene.sent, hlength] at hfour
        omega
      have hleaving : ((Act.sent call true).leaves table k.choosing ||
          (Act.sent call true).leaves table k.lock) = true := by
        rcases attemptCalls_cases hcall with ⟨hm, -⟩ | ⟨hm, -⟩ | ⟨hm, -⟩ | ⟨-, rfl⟩
        · omega
        · omega
        · omega
        · simp [Act.leaves]
      exact (any_reads_iff (hinv.inOrder d)).mp (hleaves hleaving d hd)
    · exact hinv.looked c (hother c hc ▸ hfour) d hd
  · by_cases hc : c = i
    · subst hc
      have hchoosing := hinv.choosing c
      rw [Scene.sent, hlength]
      rcases attemptCalls_cases hcall with ⟨hm, rfl⟩ | ⟨hm, rfl⟩ | ⟨hm, rfl⟩ | ⟨hm, rfl⟩ <;>
        rw [hm] at hchoosing ⊢
      · simp
      · exact hchoosing
      · exact hchoosing
      · rw [Contents.attribute?_deleteAttribute, if_pos ⟨rfl, hchoosing⟩]
        rfl
    · rw [Scene.sent, hother c hc, ← hinv.choosing c]
      rcases attemptCalls_cases hcall with ⟨-, rfl⟩ | ⟨-, rfl⟩ | ⟨-, rfl⟩ | ⟨-, rfl⟩
      · simp [Ne.symm hc]
      · rfl
      · rfl
      · exact Contents.attribute?_deleteAttribute_of_ne (Ne.symm hc) ..
  · rcases attemptCalls_cases hcall with ⟨-, rfl⟩ | ⟨-, rfl⟩ | ⟨-, rfl⟩ | ⟨-, rfl⟩
    · exact Contents.occupied_put _ _ _ ((Dict.get?_singleton ..).trans (if_pos rfl))
    · exact hinv.occupied
    · exact hinv.occupied
    · exact Contents.occupied_deleteAttribute hinv.occupied i i

theorem proper_report {s : Scene String} (hs : (lockstepConduct S table k).inv s) (event : Event) :
    (lockstepConduct S table k).Proper i s (s.report i event) := by
  refine ⟨fun hstep => ?_, fun j hj => ⟨inLockstep_of_cons, rfl⟩⟩
  have hinv : LockstepInv S table k s := hs hstep.1
  exact ⟨hinv.inOrder, hinv.others, hinv.looked, hinv.choosing, hinv.occupied, hinv.lock⟩

/-! ### Attempts in lockstep -/

/-- What a contender knows that has sent a number of requests, as long as all are in lockstep. -/
def Stage (S : Finset String) (table : String) (k : RowKey) (i : String) (m : ℕ) (q : Prop)
    (s : Scene String) : Prop :=
  InLockstep S table k s.history → (sentBy i s.history).length = m ∧ q

variable {m : ℕ} {q : Prop} {keep : Scene String → Prop}

theorem stable_stage : (lockstepConduct S table k).Stable i (Stage S table k i m q) := by
  intro a b _ _ hrely hstage hstep
  rw [hrely.2]
  exact hstage (hrely.1 hstep)

theorem Stage.report {s : Scene String} (h : Stage S table k i m q s) (event : Event) :
    Stage S table k i m q (s.report i event) := fun hstep => h hstep.1

/-- Once the contenders do not keep to the rounds, anything may be done. -/
theorem triple_outOfStep {α : Type} (p : Procedure α) {post : α → Scene String → Prop}
    (hpost : ∀ a s, ¬ InLockstep S table k s.history → post a s) :
    (lockstepConduct S table k).Triple True i keep (fun s => ¬ InLockstep S table k s.history) p
      post := by
  have hstable : (lockstepConduct S table k).Stable i
      fun s => ¬ InLockstep S table k s.history :=
    fun _ _ _ _ hrely hout hstep => hout (hrely.1 hstep)
  refine (Conduct.Triple.of_within (Procedure.within_any p) (fun _ _ => hstable)
    (fun hr => absurd trivial hr) (fun _ _ s _ hout hstep => absurd hstep hout)
    (fun call _ s _ hout reached contents _ => ?_) fun event _ s hs hout => ?_).strengthen_post
      fun a s _ h => hpost a s h.2
  · exact ⟨⟨fun hstep => absurd hstep.1 hout, fun j hj => ⟨inLockstep_of_cons,
      sentBy_of_ne hj.symm _ _⟩⟩, fun hstep => hout hstep.1⟩
  · exact ⟨proper_report hs event, fun hstep => hout hstep.1⟩

/-- What a contender has found out holds, or else they do not keep to the rounds. -/
theorem triple_of_stage {α : Type} {p : Procedure α} {post : α → Scene String → Prop}
    (hp : q → (lockstepConduct S table k).Triple True i keep (Stage S table k i m True) p post)
    (hpost : ∀ a s, ¬ InLockstep S table k s.history → post a s) :
    (lockstepConduct S table k).Triple True i keep (Stage S table k i m q) p post := by
  by_cases hq : q
  · exact (hp hq).weaken_pre fun s _ hs hstep => ⟨(hs hstep).1, trivial⟩
  · exact (triple_outOfStep p hpost).weaken_pre fun s _ hs hstep => hq (hs hstep).2

theorem triple_moveTo_stage (attempt : Attempt) (next : LockState) :
    (lockstepConduct S table k).Triple True i keep (Stage S table k i m q) (attempt.moveTo next)
      fun moved s => moved = { attempt with state := next } ∧ Stage S table k i m q s :=
  (Conduct.Triple.report (fun _ hs _ => proper_report hs _) fun _ _ hs => hs.report _).bind
    fun _ => Conduct.Triple.done fun _ _ hs => ⟨rfl, hs⟩

/-- The next request of an attempt is served, and its answer is that of the moment. -/
theorem triple_next (hi : i ∈ S) {call : StoreCall}
    (hcall : (attemptCalls table k i)[m]? = some call) (fact : call.Reply → Prop)
    (hfact : ∀ s, LockstepInv S table k s → (sentBy i s.history).length = m →
      InLockstep S table k ((i, .sent call true) :: s.history) → fact (s.contents.perform call).1) :
    (lockstepConduct S table k).Triple True i keep (Stage S table k i m q) (Procedure.call call)
      fun answer s => ∃ reply, answer = .ok reply ∧
        Stage S table k i (m + 1) (q ∧ fact reply) s := by
  have hmay : ∀ s, Stage S table k i m q s → (lockstepConduct S table k).may i call s :=
    fun s hs hstep => by rw [(hs hstep).1, hcall]
  refine Conduct.Triple.call stable_stage (fun hr => absurd trivial hr)
    (fun s _ hs => hmay s hs) fun s hs hstage verdict hverdict => ?_
  obtain rfl := hverdict trivial
  refine ⟨LockstepInv.proper_sent hs hi (hmay s hstage), (s.contents.perform call).1, rfl,
    fun hstep => ?_⟩
  obtain ⟨hm, hq⟩ := hstage hstep.1
  refine ⟨?_, hq, hfact s (hs hstep.1) hm hstep⟩
  show (sentBy i ((i, .sent call true) :: s.history)).length = m + 1
  rw [sentBy_self, List.length_append, List.length_singleton, hm]

/-- What goes on from an answer that is no failure. -/
theorem triple_ok {ε α β : Type} {f : Except ε α → Procedure β} {P : α → Scene String → Prop}
    {post : β → Scene String → Prop}
    (h : ∀ a, (lockstepConduct S table k).Triple True i keep (P a) (f (.ok a)) post)
    (answer : Except ε α) :
    (lockstepConduct S table k).Triple True i keep (fun s => ∃ a, answer = .ok a ∧ P a s)
      (f answer) post := by
  rintro s hs ⟨a, rfl, ha⟩
  exact h a s hs ha

variable {locks : LockTable}

theorem triple_enter_stage (hi : i ∈ S) :
    (lockstepConduct S locks.name k).Triple True i keep (Stage S locks.name k i 0 q)
      (locks.enter k.choosing i) fun answer s => ∃ done, answer = .ok done ∧
        Stage S locks.name k i 1 q s := by
  refine (triple_next hi rfl (fun _ => True) fun _ _ _ _ => trivial).bind (triple_ok fun _ => ?_)
  exact Conduct.Triple.done fun s _ hs => ⟨(), rfl, fun hstep => ⟨(hs hstep).1, (hs hstep).2.1⟩⟩

theorem triple_read_stage (hi : i ∈ S) {key : String}
    (hcall : (attemptCalls locks.name k i)[m]? = some (.batchGet locks.name [key]))
    (fact : Attributes → Prop)
    (hfact : ∀ s, LockstepInv S locks.name k s → (sentBy i s.history).length = m →
      InLockstep S locks.name k ((i, .sent (.batchGet locks.name [key]) true) :: s.history) →
      fact ((s.contents.row? locks.name key).getD ∅)) :
    (lockstepConduct S locks.name k).Triple True i keep (Stage S locks.name k i m q)
      (locks.entries key) fun answer s => ∃ row, answer = .ok row ∧
        Stage S locks.name k i (m + 1) (q ∧ fact row) s := by
  refine (triple_next hi hcall (fun rows : Rows => fact ((rows.get? key).getD ∅))
    fun s hs hm hstep => ?_).bind (triple_ok fun rows => ?_)
  · show fact (((s.contents.select locks.name [key]).get? key).getD ∅)
    rw [Contents.get?_select_singleton]
    exact hfact s hs hm hstep
  · exact Conduct.Triple.done fun s _ hs => ⟨_, rfl, hs⟩

/-- A contender reads the choosing row after it entered it, and finds all contenders. -/
theorem triple_readChoosing (hi : i ∈ S) :
    (lockstepConduct S locks.name k).Triple True i keep (Stage S locks.name k i 1 q)
      (locks.entries k.choosing) fun answer s => ∃ choosing, answer = .ok choosing ∧
        Stage S locks.name k i 2 (q ∧ choosing.size = S.card) s :=
  triple_read_stage hi rfl (fun row => row.size = S.card) fun _ hs hm hstep =>
    hs.size_choosing hi hm (hstep.2.1 (decide_eq_true ⟨rfl, rfl⟩))

/-- It then finds nobody in the lock row. -/
theorem triple_readLock (hi : i ∈ S) :
    (lockstepConduct S locks.name k).Triple True i keep (Stage S locks.name k i 2 q)
      (locks.entries k.lock) fun answer s => ∃ holders, answer = .ok holders ∧
        Stage S locks.name k i 3 (q ∧ LockTable.otherThan i holders = none) s :=
  triple_read_stage hi rfl (fun row => LockTable.otherThan i row = none) fun _ hs _ _ => by
    rw [hs.lock]
    rfl

/-- What an attempt comes to that gives way to all contenders. -/
def givenWay (S : Finset String) (k : RowKey) (i : String) : Attempt × Except LockError Unit :=
  (⟨k, i, .contending, false, false⟩, .error (.contention k.choosing S.card))

/-- The part of an attempt up to its failure gives way to the contention. -/
theorem triple_contend_stage (hmany : 1 < S.card) (hi : i ∈ S) :
    (lockstepConduct S locks.name k).Triple True i keep (Stage S locks.name k i 0 True)
      (locks.contend (Attempt.start k i)) fun ended =>
        Stage S locks.name k i 3 (ended = givenWay S k i) := by
  refine (triple_moveTo_stage _ _).bind fun attempt => Conduct.Triple.given fun hattempt => ?_
  subst hattempt
  refine (triple_enter_stage hi).bind (triple_ok fun _ => ?_)
  refine (triple_readChoosing hi).bind (triple_ok fun choosing => ?_)
  refine (triple_readLock hi).bind (triple_ok fun holders => ?_)
  refine triple_of_stage (fun hread => ?_) fun _ s hout hstep => absurd hstep hout
  obtain ⟨⟨-, hsize⟩, hfree⟩ := hread
  have hdecide : locks.decide ⟨k, i, .choosing, false, false⟩ choosing holders =
      (Attempt.moveTo ⟨k, i, .choosing, false, false⟩ .contending).bind fun attempt =>
        .done (attempt, .error (.contention k.choosing S.card)) := by
    rw [LockTable.decide, hfree, hsize]
    exact if_pos hmany
  show (lockstepConduct S locks.name k).Triple True i keep _
    (locks.decide ⟨k, i, .choosing, false, false⟩ choosing holders) _
  rw [hdecide]
  refine (triple_moveTo_stage _ _).bind fun attempt => Conduct.Triple.given fun hattempt => ?_
  subst hattempt
  exact Conduct.Triple.done fun s _ hs hstep => ⟨(hs hstep).1, rfl⟩

/-- A contender that gives way leaves the choosing row, and has nothing to do in the lock row. -/
theorem triple_cleanUp_stage (hi : i ∈ S) (error : LockError) :
    (lockstepConduct S locks.name k).Triple True i keep (Stage S locks.name k i 3 q)
      (locks.cleanUp (givenWay S k i).1 error) fun _ => Stage S locks.name k i 4 q := by
  have hcleanUp : locks.cleanUp (givenWay S k i).1 error =
      (locks.withdraw k.choosing i error).bind fun _ => .done () := rfl
  have hwithdraw : (lockstepConduct S locks.name k).Triple True i keep
      (Stage S locks.name k i 3 q) (locks.withdraw k.choosing i error)
      fun _ => Stage S locks.name k i 4 q :=
    (triple_next hi rfl (fun _ => True) fun _ _ _ _ => trivial).bind (triple_ok fun _ =>
      Conduct.Triple.done fun s _ hs hstep => ⟨(hs hstep).1, (hs hstep).2.1⟩)
  rw [hcleanUp]
  exact hwithdraw.bind fun _ => Conduct.Triple.done fun _ _ hs => hs

/-- An attempt of a contender gives way to the contention and leaves nothing behind. -/
theorem lockstep_acquire (hmany : 1 < S.card) (hi : i ∈ S) :
    (lockstepConduct S locks.name k).Triple True i keep (Stage S locks.name k i 0 True)
      (locks.acquire k i) fun answer =>
        Stage S locks.name k i 4 (answer = .error (.contention k.choosing S.card)) := by
  refine (triple_contend_stage hmany hi).bind fun ended => ?_
  refine triple_of_stage (fun hended => ?_) fun _ s hout hstep => absurd hstep hout
  subst hended
  have hreport : (lockstepConduct S locks.name k).Triple True i keep
      (Stage S locks.name k i 3 True) (Procedure.report (.lockRefused k i .contending
        (.contention k.choosing S.card))) fun _ => Stage S locks.name k i 3 True :=
    Conduct.Triple.report (fun _ hs _ => proper_report hs _) fun _ _ hs => hs.report _
  refine hreport.bind fun _ => (triple_cleanUp_stage hi _).bind fun _ => ?_
  refine (triple_moveTo_stage _ _).bind fun _ => ?_
  exact Conduct.Triple.done fun s _ hs hstep => ⟨(hs.2 hstep).1, rfl⟩

/-! ### Contenders in lockstep -/

/-- What a contender's attempt returned, once it is over. -/
abbrev AttemptResult := Option (Except LockError Hold)

/-- The one call that a contender of a set makes. -/
inductive OneAttempt (S : Finset String) (table : String) (k : RowKey) (i : String) :
    AttemptResult → AttemptResult → Procedure AttemptResult → Prop
  | acquire (locks : LockTable) (hname : locks.name = table) (hi : i ∈ S) :
    OneAttempt S table k i none none ((locks.acquire k i).bind fun answer => .done (some answer))

/-- Contenders that make one attempt each at the same lock, with nothing going wrong. -/
def lockstepRules (S : Finset String) (table : String) (k : RowKey) : Rules String AttemptResult :=
  ⟨True, OneAttempt S table k⟩

/-- What is known of a contender before its attempt and after it. -/
def Rested (S : Finset String) (table : String) (k : RowKey) (i : String) :
    AttemptResult → Scene String → Prop
  | none => Stage S table k i 0 True
  | some answer => Stage S table k i 4 (answer = .error (.contention k.choosing S.card))

/-- What holds in every state up to which the contenders kept to the rounds. -/
structure GivesWay (S : Finset String) (table : String) (k : RowKey)
    (s : State String AttemptResult) : Prop where
  /-- A contender sends four requests at most, always the same. -/
  inOrder : ∀ c, sentBy c s.history <+: script table k c
  /-- Nobody writes to the lock row. -/
  unclaimed : ∀ c act, (c, act) ∈ s.history → act.enters table k.lock = false
  /-- Who has sent these requests has returned. -/
  returned : ∀ c, sentBy c s.history = script table k c →
    ∃ answer, s.activity c = .idle (some answer)
  contention : ∀ c answer, s.activity c = .idle (some answer) →
    answer = .error (.contention k.choosing S.card)
  /-- Until all have returned, somebody may go on that leaves them in lockstep. -/
  goesOn : (∃ c ∈ S, ∀ answer, s.activity c ≠ .idle (some answer)) →
    ∃ s', Step (lockstepRules S table k) s s' ∧ InLockstep S table k s'.history
  /-- When all have returned, both rows are as they were. -/
  undone : (∀ c ∈ S, ∃ answer, s.activity c = .idle (some answer)) →
    s.contents.row? table k.choosing = none ∧ s.contents.row? table k.lock = none
  /-- Then each of them takes the lock if it tries again with nobody else about. -/
  free : (∀ c ∈ S, ∃ answer, s.activity c = .idle (some answer)) →
    ∀ c ∈ S, ∀ (locks : LockTable) (now : UInt64), locks.name = table →
      ((locks.acquire k c).run (Scene.answer c now) s.toScene).1 = .ok ⟨k, c⟩

theorem stable_rested (i : String) (note : AttemptResult) :
    (lockstepConduct S table k).Stable i (Rested S table k i note) := by
  cases note with
  | none => exact stable_stage
  | some answer => exact stable_stage

theorem mem_sentBy {ι : Type} [DecidableEq ι] {c : ι} {call : StoreCall} {reached : Bool}
    {history : List (ι × Act)} (h : (c, .sent call reached) ∈ history) :
    .sent call reached ∈ sentBy c history := by
  induction history with
  | nil => cases h
  | cons entry earlier ih =>
    obtain ⟨d, act⟩ := entry
    by_cases hd : d = c
    · subst hd
      rcases List.mem_cons.mp h with heq | hmem
      · cases heq
        rw [sentBy_self]
        exact List.mem_append_right _ (List.mem_singleton_self _)
      · cases act with
        | reported event => exact ih hmem
        | sent call' reached' =>
          rw [sentBy_self]
          exact List.mem_append_left _ (ih hmem)
    · rw [sentBy_of_ne hd]
      rcases List.mem_cons.mp h with heq | hmem
      · exact absurd (congrArg Prod.fst heq).symm hd
      · exact ih hmem

/-- Nothing between two requests has to do with the rounds. -/
theorem inLockstep_advance {α : Type} (now : UInt64) (p : Procedure α) (s : Scene String) :
    InLockstep S table k (advance i now p s).2.history ↔ InLockstep S table k s.history := by
  induction p generalizing s with
  | done a => rfl
  | perform op next ih =>
    cases op with
    | call call => rfl
    | report event => exact (ih () (s.report i event)).trans (inLockstep_report ..)
    | clock => exact ih now s
    | pause duration => exact ih () s

/-- A contender that is not ahead of any other may send its next request. -/
theorem LockstepInv.inLockstep_next {s : Scene String} (hs : LockstepInv S table k s)
    (hstep : InLockstep S table k s.history) {call : StoreCall}
    (hcall : (attemptCalls table k i)[(sentBy i s.history).length]? = some call)
    (hleast : ∀ d ∈ S, (sentBy i s.history).length ≤ (sentBy d s.history).length) :
    InLockstep S table k ((i, .sent call true) :: s.history) := by
  refine ⟨hstep, fun hreads d hd => ?_, fun hleaves d hd => ?_⟩
  · have hone : 1 ≤ (sentBy i s.history).length := by
      rcases attemptCalls_cases hcall with ⟨-, rfl⟩ | ⟨hm, -⟩ | ⟨hm, -⟩ | ⟨hm, -⟩
      · cases hreads
      all_goals omega
    exact (any_enters_iff (hs.inOrder d)).mpr (hone.trans (hleast d hd))
  · have htwo : 2 ≤ (sentBy i s.history).length := by
      rcases attemptCalls_cases hcall with ⟨-, rfl⟩ | ⟨-, rfl⟩ | ⟨hm, -⟩ | ⟨hm, -⟩
      · cases hleaves
      · cases hleaves
      all_goals omega
    exact (any_reads_iff (hs.inOrder d)).mpr (htwo.trans (hleast d hd))

section Sound

variable {s : State String AttemptResult}
  (hsound : (lockstepConduct S table k).Sound True (Rested S table k) s)
  (hstep : InLockstep S table k s.history)

include hsound hstep

/-- Who has returned gave way to the contention and sent all requests of an attempt. -/
theorem returned_gave_way {c : String} {answer : Except LockError Hold}
    (hidle : s.activity c = .idle (some answer)) :
    (sentBy c s.history).length = 4 ∧ answer = .error (.contention k.choosing S.card) :=
  hsound.idle c (some answer) hidle hstep

/-- Who has sent all requests of an attempt has returned. -/
theorem exists_returned {c : String} (hall : (sentBy c s.history).length = 4) :
    ∃ answer, s.activity c = .idle (some answer) := by
  cases hactivity : s.activity c with
  | idle note =>
    cases note with
    | none =>
      have hnone : (sentBy c s.history).length = 0 ∧ True := hsound.idle c none hactivity hstep
      omega
    | some answer => exact ⟨answer, rfl⟩
  | sending fallback call next =>
    have hcall := hsound.may hactivity hstep
    rw [hall] at hcall
    cases hcall

/-- When all have returned, nobody is in the rows any more. -/
theorem rows_absent (hall : ∀ c ∈ S, ∃ answer, s.activity c = .idle (some answer)) :
    s.contents.row? table k.choosing = none ∧ s.contents.row? table k.lock = none := by
  have hinv : LockstepInv S table k s.toScene := hsound.inv hstep
  refine ⟨hinv.occupied.row?_eq_none fun c => (hinv.choosing c).trans (if_neg ?_), hinv.lock⟩
  by_cases hc : c ∈ S
  · obtain ⟨answer, hidle⟩ := hall c hc
    have hfour := (returned_gave_way hsound hstep hidle).1
    omega
  · simp [hinv.others c hc]

/-- As long as not all have returned, one that is behind all others may go on. -/
theorem exists_step_inLockstep
    (hsome : ∃ c ∈ S, ∀ answer, s.activity c ≠ .idle (some answer)) :
    ∃ s', Step (lockstepRules S table k) s s' ∧ InLockstep S table k s'.history := by
  have hinv : LockstepInv S table k s.toScene := hsound.inv hstep
  obtain ⟨c₀, hc₀, hnot₀⟩ := hsome
  obtain ⟨c, hc, hleast⟩ := S.exists_min_image (fun c => (sentBy c s.history).length) ⟨c₀, hc₀⟩
  -- the one with the fewest requests has not returned, or else nobody would have to go on
  have hnot : ∀ answer, s.activity c ≠ .idle (some answer) := by
    intro answer hidle
    have hfour := (returned_gave_way hsound hstep hidle).1
    have hle : (sentBy c₀ s.history).length ≤ 4 := (hinv.inOrder c₀).length_le
    obtain ⟨other, hother⟩ := exists_returned hsound hstep (c := c₀)
      (le_antisymm hle (hfour ▸ hleast c₀ hc₀))
    exact hnot₀ other hother
  cases hactivity : s.activity c with
  | idle note =>
    cases note with
    | none =>
      exact ⟨_, .call 0 hactivity (.acquire ⟨table, .zero⟩ rfl hc),
        (inLockstep_advance ..).mpr hstep⟩
    | some answer => exact absurd hactivity (hnot answer)
  | sending fallback call next =>
    exact ⟨_, .answer .pass 0 hactivity fun _ => rfl, (inLockstep_advance ..).mpr
      (hinv.inLockstep_next hstep (hsound.may hactivity hstep) hleast)⟩

end Sound

section Run

variable {contents : Contents} (hmany : 2 ≤ S.card) (hlock : contents.row? table k.lock = none)
  (hchoosing : contents.row? table k.choosing = none) {s : State String AttemptResult}
  (hreach : Reaches (lockstepRules S table k) (State.initial contents none) s)

include hmany hlock hchoosing hreach

/-- In every state that contenders reach, each of them keeps to the conduct. -/
theorem lockstep_sound :
    (lockstepConduct S table k).Sound True (Rested S table k) s := by
  have habsent : ∀ key, k.GuardedBy key → contents.row? table key = none := by
    rintro key (rfl | rfl)
    · exact hlock
    · exact hchoosing
  have hstart : (lockstepConduct S table k).Sound True (Rested S table k)
      (State.initial contents none) := by
    refine ⟨fun _ => LockstepInv.initial habsent, fun i note hi => ?_, nofun⟩
    cases hi
    exact fun _ => ⟨rfl, trivial⟩
  have hcalls : ∀ i note fallback p, OneAttempt S table k i note fallback p →
      (lockstepConduct S table k).Triple True i (Rested S table k i fallback)
        (Rested S table k i note) p (Rested S table k i) := by
    rintro i _ _ _ ⟨locks, rfl, hi⟩
    exact (lockstep_acquire hmany hi).bind fun answer => Conduct.Triple.done fun _ _ hs => hs
  exact Conduct.sound stable_rested hcalls hstart hreach

/-- **Contenders in lockstep all give way.** If all of them enter the choosing row before any of
them reads it, and all read it before any removes its entry, then each of them, however the
requests are ordered otherwise, ends with the contention of all contenders and nobody writes to
the lock row. Each sends the same four requests and has then returned, and as long as somebody has
not, the contenders can go on in lockstep. When all have returned, both rows are absent again, and
each of them takes the lock if it is left alone. -/
theorem lockstep_contenders_give_way (hstep : InLockstep S table k s.history) :
    GivesWay S table k s := by
  have hsound := lockstep_sound hmany hlock hchoosing hreach
  have hinv : LockstepInv S table k s.toScene := hsound.inv hstep
  refine ⟨hinv.inOrder, fun c act hmem => ?_, fun c hall => ?_,
    fun c answer hidle => (returned_gave_way hsound hstep hidle).2,
    exists_step_inLockstep hsound hstep, rows_absent hsound hstep,
    fun hall c hc locks now hname => ?_⟩
  · cases act with
    | reported event => rfl
    | sent call reached =>
      have hscript := (hinv.inOrder c).subset (mem_sentBy hmem)
      have hne : k.choosing ≠ k.lock := (RowKey.lock_ne_choosing k k).symm
      simp only [script, attemptCalls, List.map_cons, List.map_nil, List.mem_cons,
        Act.sent.injEq, List.not_mem_nil, or_false] at hscript
      rcases hscript with ⟨rfl, rfl⟩ | ⟨rfl, rfl⟩ | ⟨rfl, rfl⟩ | ⟨rfl, rfl⟩
      · exact decide_eq_false fun h => hne h.2
      · rfl
      · rfl
      · rfl
  · exact exists_returned hsound hstep (congrArg List.length hall)
  · subst hname
    obtain ⟨hno, hfree⟩ := rows_absent hsound hstep hall
    exact (run_acquire now hno (.inl hfree)).1

end Run

/-- Two contenders in lockstep, one of which leaves before the other has read the lock row. -/
theorem lockstep_pair_gives_way :
    ∃ s, Reaches (lockstepRules {"a", "b"} "locks" ⟨"app_rack_1"⟩) (State.initial ∅ none) s ∧
      InLockstep {"a", "b"} "locks" ⟨"app_rack_1"⟩ s.history ∧
      (∀ c ∈ ({"a", "b"} : Finset String), ∃ answer, s.activity c = .idle (some answer)) ∧
      GivesWay {"a", "b"} "locks" ⟨"app_rack_1"⟩ s := by
  have hstart : Reaches (lockstepRules {"a", "b"} "locks" ⟨"app_rack_1"⟩)
      (State.initial ∅ none) _ :=
    .single (.call (i := "a") 0 rfl (.acquire ⟨"locks", .zero⟩ rfl (by decide)))
  have hboth := hstart.tail (.call (i := "b") 0 rfl (.acquire ⟨"locks", .zero⟩ rfl (by decide)))
  have hentered := reaches_served (reaches_served hboth "b" rfl) "a" rfl
  have hread := reaches_served (reaches_served hentered "a" rfl) "b" rfl
  have hleft := reaches_served (reaches_served hread "a" rfl) "a" rfl
  have hreach := reaches_served (reaches_served hleft "b" rfl) "b" rfl
  obtain ⟨s, hreach, hstep, ha, hb⟩ : ∃ s,
      Reaches (lockstepRules {"a", "b"} "locks" ⟨"app_rack_1"⟩) (State.initial ∅ none) s ∧
      InLockstep {"a", "b"} "locks" ⟨"app_rack_1"⟩ s.history ∧
      (∃ answer, s.activity "a" = .idle (some answer)) ∧
      ∃ answer, s.activity "b" = .idle (some answer) :=
    ⟨_, hreach, by decide, ⟨_, rfl⟩, ⟨_, rfl⟩⟩
  refine ⟨s, hreach, hstep, fun c hc => ?_,
    lockstep_contenders_give_way (by decide) rfl rfl hreach hstep⟩
  rcases Finset.mem_insert.mp hc with rfl | hc
  · exact ha
  · exact Finset.mem_singleton.mp hc ▸ hb

end ClusterIdentity.Locking
