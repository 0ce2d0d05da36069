import ClusterIdentity.Proofs.Footprint
import ClusterIdentity.Proofs.Interleaving
import ClusterIdentity.Proofs.Table.Rows

/-!
# Solo runs

A procedure works on a store with nobody else about, but any of its requests may fail: before or
after it took effect or, if it is a scan, after some rows.

## Main definitions

* `Faults`: what happens to each request of a run
* `StoreCall.isWithdrawal`: requests that take entries back
* `Ledger`: a store, and the requests to it with their answers
* `Ledger.Cleaned`, `Ledger.Cleared`: every withdrawal, or every delete in a table, was carried out
* `answer`, `run`: how a procedure runs
* `Ends`: a procedure that starts with a precondition ends with a postcondition
* `outcome`, `Yields`: the result and the contents that a procedure ends with if nothing fails

## Main statements

* `Ends.bind`, `Ends.request`: procedures are put together from single requests
* `Ends.invariant`, `Ends.row?`, `Ends.answered`: what the footprint of a procedure says of its runs

## Design notes

What happens to a request may depend on the request and on how many came before it. Nothing but
the answers makes two runs of a procedure differ, so every pattern of failures is of this kind.
-/

namespace ClusterIdentity

/-- Whether a request takes entries back from a row, rather than deleting it. Nothing else is done
at best effort: whether it succeeds is not the business of who asked for it. -/
def StoreCall.isWithdrawal : StoreCall → Bool
  | .delete _ _ (.attributes _) _ => true
  | _ => false

namespace Solo

open Interleaving
open Simulation (Verdict)

/-- What happens to each request of a run, by the number of requests before it. -/
abbrev Faults := Nat → StoreCall → Verdict

def Faults.none : Faults := fun _ _ => .pass

/-- A request and the answer to it. -/
structure AnsweredCall where
  call : StoreCall
  answer : Except StoreError call.Reply

/-- A store that one procedure works on, and the record of its requests, the latest first. -/
structure Ledger where
  contents : Contents
  answered : List AnsweredCall

/-- The ledger after a request that was answered and left the contents given. -/
def Ledger.record (s : Ledger) (call : StoreCall) (answer : Except StoreError call.Reply)
    (contents : Contents) : Ledger :=
  ⟨contents, ⟨call, answer⟩ :: s.answered⟩

/-- Whether no withdrawal failed. -/
def Ledger.Cleaned (s : Ledger) : Prop :=
  ∀ entry ∈ s.answered, entry.call.isWithdrawal = true → ∃ reply, entry.answer = .ok reply

theorem Ledger.Cleaned.of_record {s : Ledger} {call : StoreCall}
    {answer : Except StoreError call.Reply} {contents : Contents}
    (h : (s.record call answer contents).Cleaned) : s.Cleaned :=
  fun entry hmem => h entry (List.mem_cons_of_mem _ hmem)

theorem Ledger.not_cleaned_record {s : Ledger} {call : StoreCall} (hcall : call.isWithdrawal = true)
    (error : StoreError) (contents : Contents) :
    ¬ (s.record call (.error error) contents).Cleaned := by
  intro h
  obtain ⟨reply, hreply⟩ := h _ (List.mem_cons_self ..) hcall
  cases hreply

/-- Whether no delete in a table failed. -/
def Ledger.Cleared (table : String) (s : Ledger) : Prop :=
  ∀ entry ∈ s.answered, entry.call.kind = .delete → entry.call.table = table →
    ∃ reply, entry.answer = .ok reply

theorem Ledger.not_cleared_record {s : Ledger} {call : StoreCall} (hkind : call.kind = .delete)
    (error : StoreError) (contents : Contents) :
    ¬ (s.record call (.error error) contents).Cleared call.table := by
  intro h
  obtain ⟨reply, hreply⟩ := h _ (List.mem_cons_self ..) hkind rfl
  cases hreply

section

variable (faults : Faults) (now : UInt64)

def serve (call : StoreCall) (s : Ledger) : Except StoreError call.Reply × Ledger :=
  let served := (faults s.answered.length call).serve steady call s.contents
  (served.1, s.record call served.1 served.2)

/-- Carries out an effect. The clock stands still. -/
def answer : (effect : Effect) → Ledger → effect.Answer × Ledger
  | .call call, s => serve faults call s
  | .report _, s => ((), s)
  | .clock, s => (now, s)
  | .pause _, s => ((), s)

variable {α β : Type}

/-- Runs a procedure on contents that nothing was asked of yet. -/
def run (p : Procedure α) (contents : Contents) : α × Ledger :=
  Program.run (answer faults now) p ⟨contents, []⟩

/-- If no request fails, a procedure runs as it does for a participant that is left alone. -/
theorem run_none {ι : Type} (p : Procedure α) (i : ι) (s : Scene ι) (ledger : Ledger)
    (h : ledger.contents = s.contents) :
    (p.run (answer Faults.none now) ledger).1 = (p.run (Scene.answer i now) s).1 ∧
      (p.run (answer Faults.none now) ledger).2.contents =
        (p.run (Scene.answer i now) s).2.contents := by
  -- both serve a request on the same contents, and only what they record of it differs
  induction p generalizing s ledger with
  | done a => exact ⟨rfl, h⟩
  | perform op next ih =>
    cases op with
    | call call =>
      have hserve : serve Faults.none call ledger = ((s.serve i .pass call).1,
          ledger.record call (s.serve i .pass call).1 (s.serve i .pass call).2.contents) := by
        rw [serve, h]
        rfl
      show (Program.run _ (next (serve Faults.none call ledger).1)
        (serve Faults.none call ledger).2).1 = _ ∧ (Program.run _ (next
        (serve Faults.none call ledger).1) (serve Faults.none call ledger).2).2.contents = _
      rw [hserve]
      exact ih _ _ _ rfl
    | report event => exact ih () _ _ h
    | clock => exact ih now s ledger h
    | pause duration => exact ih () s ledger h

/-- Whichever requests fail, a procedure that runs from a precondition ends with a
postcondition. -/
def Ends (pre : Ledger → Prop) (p : Procedure α) (post : α → Ledger → Prop) : Prop :=
  ∀ s, pre s → post (p.run (answer faults now) s).1 (p.run (answer faults now) s).2

end

variable {faults : Faults} {now : UInt64} {α β : Type} {pre : Ledger → Prop}

/-- A request other than a scan is served, or it fails before or after it was served. -/
theorem serve_cases (faults : Faults) (s : Ledger) {call : StoreCall} (hscan : call.kind ≠ .scan) :
    serve faults call s =
        (.ok (s.contents.perform call).1,
          s.record call (.ok (s.contents.perform call).1) (s.contents.perform call).2) ∨
      ∃ error reached contents, Delivered call s.contents reached contents ∧
        serve faults call s = (.error error, s.record call (.error error) contents) := by
  rcases steady_cases (faults s.answered.length call) s.contents hscan with
    ⟨-, h⟩ | ⟨-, error, contents, hcontents, h⟩
  · refine .inl ?_
    rw [serve, h]
  · refine .inr ⟨error, _, contents, hcontents, ?_⟩
    rw [serve, h]

namespace Ends

theorem done {a : α} {post : α → Ledger → Prop} (h : ∀ s, pre s → post a s) :
    Ends faults now pre (Program.done a) post :=
  h

theorem bind {mid : α → Ledger → Prop} {post : β → Ledger → Prop} {p : Procedure α}
    {f : α → Procedure β} (hp : Ends faults now pre p mid)
    (hf : ∀ a, Ends faults now (mid a) (f a) post) : Ends faults now pre (p.bind f) post := by
  intro s hs
  rw [Program.run_bind]
  exact hf _ _ (hp s hs)

/-- What comes first need not be known for what comes after it. -/
theorem skip {post : β → Ledger → Prop} {p : Procedure α} {f : α → Procedure β}
    (hf : ∀ a, Ends faults now (fun _ => True) (f a) post) : Ends faults now pre (p.bind f) post :=
  bind (fun _ _ => trivial) hf

theorem consequence {pre' : Ledger → Prop} {post post' : α → Ledger → Prop} {p : Procedure α}
    (h : Ends faults now pre p post) (hpre : ∀ s, pre' s → pre s)
    (hpost : ∀ a s, post a s → post' a s) : Ends faults now pre' p post' :=
  fun s hs => hpost _ _ (h s (hpre s hs))

theorem weaken_pre {pre' : Ledger → Prop} {post : α → Ledger → Prop} {p : Procedure α}
    (h : Ends faults now pre p post) (hpre : ∀ s, pre' s → pre s) : Ends faults now pre' p post :=
  h.consequence hpre fun _ _ hpost => hpost

theorem strengthen_post {post post' : α → Ledger → Prop} {p : Procedure α}
    (h : Ends faults now pre p post) (hpost : ∀ a s, post a s → post' a s) :
    Ends faults now pre p post' :=
  h.consequence (fun _ hpre => hpre) hpost

theorem and {post post' : α → Ledger → Prop} {p : Procedure α} (h : Ends faults now pre p post)
    (h' : Ends faults now pre p post') : Ends faults now pre p fun a s => post a s ∧ post' a s :=
  fun s hs => ⟨h s hs, h' s hs⟩

/-- The contents that a procedure meets may be given a name. -/
theorem named {P : Contents → Prop} {post : α → Ledger → Prop} {p : Procedure α}
    (h : ∀ c, P c → Ends faults now (fun s => s.contents = c) p post) :
    Ends faults now (fun s => P s.contents) p post :=
  fun s hs => h s.contents hs s rfl

/-- What a precondition says of no ledger in particular may be assumed. -/
theorem assume {q : Prop} {post : α → Ledger → Prop} {p : Procedure α} (hq : ∀ s, pre s → q)
    (h : q → Ends faults now pre p post) : Ends faults now pre p post :=
  fun s hs => h (hq s hs) s hs

theorem given {q : Prop} {post : α → Ledger → Prop} {p : Procedure α}
    (h : q → Ends faults now pre p post) : Ends faults now (fun s => q ∧ pre s) p post :=
  fun s hs => h hs.1 s hs.2

/-- What a procedure returns whatever it is answered. -/
theorem of_within {P : StoreCall → Prop} {E : Event → Prop} {R : α → Prop} {p : Procedure α}
    (hp : p.Within P E R) : Ends faults now pre p fun a _ => R a :=
  fun s _ => hp.result_run (answer faults now) s

/-- What no request of a procedure undoes is kept by all of it. -/
theorem invariant {P : StoreCall → Prop} {E : Event → Prop} {R : α → Prop} {p : Procedure α}
    (hp : p.Within P E R) {I : Contents → Prop}
    (hI : ∀ call c, P call → I c → I (c.perform call).2) :
    Ends faults now (fun s => I s.contents) p fun _ s => I s.contents := by
  intro s hs
  induction p generalizing s with
  | done a => exact hs
  | perform op next ih =>
    cases op with
    | call call =>
      refine ih _ (hp.2 _) _ ?_
      have hdelivered := delivered_serve (faults s.answered.length call) call s.contents
      rcases hdelivered.eq_or with hsame | hserved
      · exact hsame.symm ▸ hs
      · exact hserved.symm ▸ hI call s.contents hp.1 hs
    | report event => exact ih () hp.2 s hs
    | clock => exact ih now (hp now) s hs
    | pause duration => exact ih () hp s hs

/-- Rows to which a procedure does not write stay as they are. -/
theorem row? {P : StoreCall → Prop} {E : Event → Prop} {R : α → Prop} {p : Procedure α}
    (hp : p.Within P E R) {c : Contents} :
    Ends faults now (fun s => s.contents = c) p fun _ s => ∀ table key,
      (∀ call, P call → ¬ call.WritesTo table key) →
        s.contents.row? table key = c.row? table key := by
  rintro s rfl table key hP
  exact invariant hp (I := fun c => c.row? table key = s.contents.row? table key)
    (fun call c hcall hc => (Contents.row?_perform (hP call hcall)).trans hc) s rfl

/-- All requests of a procedure are on record. -/
theorem answered {P : StoreCall → Prop} {E : Event → Prop} {R : α → Prop} {p : Procedure α}
    (hp : p.Within P E R) : Ends faults now (fun s => ∀ entry ∈ s.answered, P entry.call) p
      fun _ s => ∀ entry ∈ s.answered, P entry.call := by
  intro s hs
  induction p generalizing s with
  | done a => exact hs
  | perform op next ih =>
    cases op with
    | call call =>
      refine ih _ (hp.2 _) _ fun entry hmem => ?_
      rcases List.mem_cons.mp hmem with rfl | hmem
      · exact hp.1
      · exact hs entry hmem
    | report event => exact ih () hp.2 s hs
    | clock => exact ih now (hp now) s hs
    | pause duration => exact ih () hp s hs

theorem report (event : Event) : Ends faults now pre (Procedure.report event) fun _ => pre :=
  fun _ hs => hs

theorem clock : Ends faults now pre Procedure.clock fun t s => t = now ∧ pre s :=
  fun _ hs => ⟨rfl, hs⟩

theorem pause (duration : Duration) :
    Ends faults now pre (Procedure.pause duration) fun _ => pre :=
  fun _ hs => hs

/-- A request that is not a scan comes down to being served and to failing before or after
that. -/
theorem request {call : StoreCall} {post : Except StoreError call.Reply → Ledger → Prop}
    (hscan : call.kind ≠ .scan)
    (hok : ∀ s, pre s → post (.ok (s.contents.perform call).1)
      (s.record call (.ok (s.contents.perform call).1) (s.contents.perform call).2))
    (herror : ∀ s, pre s → ∀ error reached contents, Delivered call s.contents reached contents →
      post (.error error) (s.record call (.error error) contents)) :
    Ends faults now pre (Procedure.call call) post := by
  intro s hs
  have hrun : (Procedure.call call).run (answer faults now) s = serve faults call s := rfl
  rw [hrun]
  rcases serve_cases faults s hscan with h | ⟨error, reached, contents, hcontents, h⟩
  · rw [h]
    exact hok s hs
  · rw [h]
    exact herror s hs error reached contents hcontents

end Ends

/-! ### Runs without failures -/

/-- The result of a procedure of which no request fails, and the contents after it. -/
def outcome (now : UInt64) (p : Procedure α) (c : Contents) : α × Contents :=
  ((run Faults.none now p c).1, (run Faults.none now p c).2.contents)

/-- Whether a procedure of which no request fails turns contents into others and returns a result,
whatever was asked of the store before. -/
def Yields (now : UInt64) (p : Procedure α) (c : Contents) (a : α) (c' : Contents) : Prop :=
  Ends Faults.none now (fun s => s.contents = c) p fun a' s => a' = a ∧ s.contents = c'

namespace Yields

variable {p : Procedure α} {c c' c'' : Contents} {a : α}

theorem done (a : α) (c : Contents) : Yields now (.done a) c a c :=
  fun _ hs => ⟨rfl, hs⟩

theorem bind {f : α → Procedure β} {b : β} (hp : Yields now p c a c')
    (hf : Yields now (f a) c' b c'') : Yields now (p.bind f) c b c'' :=
  Ends.bind hp fun _ => Ends.given fun h => h ▸ hf

theorem report (event : Event) (c : Contents) : Yields now (Procedure.report event) c () c :=
  fun _ hs => ⟨rfl, hs⟩

theorem clock (c : Contents) : Yields now Procedure.clock c now c :=
  fun _ hs => ⟨rfl, hs⟩

theorem call (call : StoreCall) (c : Contents) :
    Yields now (Procedure.call call) c (.ok (c.perform call).1) (c.perform call).2 := by
  rintro s rfl
  exact ⟨rfl, rfl⟩

/-- What a participant that is left alone does is what a procedure does of which nothing fails. -/
theorem of_scene {ι : Type} (i : ι) (h : (p.run (Scene.answer i now) ⟨c, []⟩).1 = a ∧
      (p.run (Scene.answer i now) ⟨c, []⟩).2.contents = c') : Yields now p c a c' := by
  intro s hs
  obtain ⟨hanswer, hcontents⟩ := run_none now p i ⟨c, []⟩ s hs
  exact ⟨hanswer.trans h.1, hcontents.trans h.2⟩

theorem outcome_eq (h : Yields now p c a c') : outcome now p c = (a, c') :=
  Prod.ext (h ⟨c, []⟩ rfl).1 (h ⟨c, []⟩ rfl).2

end Yields

end Solo

end ClusterIdentity
