import ClusterIdentity.Proofs.Footprint
import ClusterIdentity.Proofs.Interleaving

/-!
# Conduct of participants

To show that something holds in every reachable state, each procedure is looked at on its own.
A conduct says what always holds of the scene, what a participant may take for granted about the
moves of the others, and what has to be the case when it sends a request. A procedure is safe if
it keeps to the conduct whatever the others do within it.

## Main definitions

* `Conduct`, `Conduct.Proper`: a conduct, and single moves that keep to it
* `Conduct.Safe`: a procedure keeps to the conduct from a scene on
* `Conduct.Triple`: it does so from every scene with a precondition, and ends with a postcondition
* `Conduct.Sound`: what follows for a state of a whole system

## Main statements

* `Conduct.Triple.bind`, `Conduct.Triple.call`: procedures are put together from single requests
* `Conduct.Triple.all`, `Conduct.Triple.extend`: conducts are put together
* `Conduct.sound`: if every call that the rules allow is safe, every reachable state is sound
* `contents_of_reaches`: invariants of the contents alone

## Design notes

The others may move before any request, and only then: events are reported at once. Hence an
assertion has to be stable only where a request is about to be sent, and a participant may act
on what it has just read.
-/

namespace ClusterIdentity.Interleaving

open Simulation (Verdict)

/-- How participants behave towards each other. -/
structure Conduct (ι : Type) where
  /-- What holds of every scene. -/
  inv : Scene ι → Prop
  /-- What a participant may take for granted about the moves of the others. -/
  rely : ι → Scene ι → Scene ι → Prop
  /-- What is the case when a participant's request is answered. -/
  may : ι → StoreCall → Scene ι → Prop
  rely_refl : ∀ i s, rely i s s
  rely_trans : ∀ {i a b c}, rely i a b → rely i b c → rely i a c

namespace Conduct

variable {ι α β : Type}

/-- A move of a participant that keeps what always holds and what the others rely on. -/
structure Proper (C : Conduct ι) (i : ι) (a b : Scene ι) : Prop where
  inv : C.inv b
  rely : ∀ j, j ≠ i → C.rely j a b

/-- An assertion that moves of the others do not make false. -/
def Stable (C : Conduct ι) (i : ι) (P : Scene ι → Prop) : Prop :=
  ∀ a b, C.inv a → C.inv b → C.rely i a b → P a → P b

theorem Stable.and {C : Conduct ι} {i : ι} {P Q : Scene ι → Prop} (hP : C.Stable i P)
    (hQ : C.Stable i Q) : C.Stable i fun s => P s ∧ Q s :=
  fun a b ha hb hrely h => ⟨hP a b ha hb hrely h.1, hQ a b ha hb hrely h.2⟩

/-- A participant's procedure keeps to the conduct, and the postcondition holds when it ends. In
a system that is not reliable, `keep` holds whenever the procedure may be abandoned. -/
def Safe (C : Conduct ι) (reliable : Prop) (i : ι) (keep : Scene ι → Prop)
    (post : α → Scene ι → Prop) : Procedure α → Scene ι → Prop
  | .done a, s => post a s
  | .perform (.call call) next, s =>
    ∀ a, C.inv a → C.rely i s a →
      (¬ reliable → keep a) ∧ C.may i call a ∧
      ∀ verdict : Verdict, (reliable → verdict = .pass) →
        C.Proper i a (a.serve i verdict call).2 ∧
        Safe C reliable i keep post (next (a.serve i verdict call).1) (a.serve i verdict call).2
  | .perform (.report event) next, s =>
    C.Proper i s (s.report i event) ∧
      Safe C reliable i keep post (next ()) (s.report i event)
  | .perform .clock next, s => ∀ now, Safe C reliable i keep post (next now) s
  | .perform (.pause _) next, s => Safe C reliable i keep post (next ()) s

/-- From every scene with the precondition, a participant's procedure keeps to the conduct and
ends with the postcondition. -/
def Triple (C : Conduct ι) (reliable : Prop) (i : ι) (keep : Scene ι → Prop)
    (pre : Scene ι → Prop) (p : Procedure α) (post : α → Scene ι → Prop) : Prop :=
  ∀ s, C.inv s → pre s → C.Safe reliable i keep post p s

section Safe

variable {C : Conduct ι} {reliable : Prop} {i : ι} {keep : Scene ι → Prop}

/-- The invariant holds at the end of a safe procedure. -/
theorem Safe.inv {post : α → Scene ι → Prop} {p : Procedure α} {s : Scene ι} (hs : C.inv s)
    (h : C.Safe reliable i keep post p s) :
    C.Safe reliable i keep (fun a b => C.inv b ∧ post a b) p s := by
  induction p generalizing s with
  | done a => exact ⟨hs, h⟩
  | perform op next ih =>
    cases op with
    | call call =>
      intro a ha hrely
      obtain ⟨hkeep, hmay, hnext⟩ := h a ha hrely
      refine ⟨hkeep, hmay, fun verdict hverdict => ?_⟩
      obtain ⟨hproper, hsafe⟩ := hnext verdict hverdict
      exact ⟨hproper, ih _ hproper.inv hsafe⟩
    | report event => exact ⟨h.1, ih () h.1.inv h.2⟩
    | clock => exact fun now => ih now hs (h now)
    | pause duration => exact ih () hs h

theorem Safe.mono {post post' : α → Scene ι → Prop} {p : Procedure α} {s : Scene ι}
    (h : C.Safe reliable i keep post p s) (himp : ∀ a b, post a b → post' a b) :
    C.Safe reliable i keep post' p s := by
  induction p generalizing s with
  | done a => exact himp a s h
  | perform op next ih =>
    cases op with
    | call call =>
      intro a ha hrely
      obtain ⟨hkeep, hmay, hnext⟩ := h a ha hrely
      exact ⟨hkeep, hmay, fun verdict hverdict =>
        ⟨(hnext verdict hverdict).1, ih _ (hnext verdict hverdict).2⟩⟩
    | report event => exact ⟨h.1, ih () h.2⟩
    | clock => exact fun now => ih now (h now)
    | pause duration => exact ih () h

/-- A sequence is safe if its first part is, and the second is from wherever the first ends. -/
theorem Safe.bind {post : β → Scene ι → Prop} {p : Procedure α} {f : α → Procedure β}
    {s : Scene ι} (h : C.Safe reliable i keep (fun a => C.Safe reliable i keep post (f a)) p s) :
    C.Safe reliable i keep post (p.bind f) s := by
  induction p generalizing s with
  | done a => exact h
  | perform op next ih =>
    cases op with
    | call call =>
      intro a ha hrely
      obtain ⟨hkeep, hmay, hnext⟩ := h a ha hrely
      exact ⟨hkeep, hmay, fun verdict hverdict =>
        ⟨(hnext verdict hverdict).1, ih _ (hnext verdict hverdict).2⟩⟩
    | report event => exact ⟨h.1, ih () h.2⟩
    | clock => exact fun now => ih now (h now)
    | pause duration => exact ih () h

end Safe

section Triple

variable {C : Conduct ι} {reliable : Prop} {i : ι} {keep pre : Scene ι → Prop}

theorem Triple.done {a : α} {post : α → Scene ι → Prop}
    (h : ∀ s, C.inv s → pre s → post a s) :
    C.Triple reliable i keep pre (Program.done a) post :=
  h

theorem Triple.bind {mid : α → Scene ι → Prop} {post : β → Scene ι → Prop} {p : Procedure α}
    {f : α → Procedure β} (hp : C.Triple reliable i keep pre p mid)
    (hf : ∀ a, C.Triple reliable i keep (mid a) (f a) post) :
    C.Triple reliable i keep pre (p.bind f) post := by
  intro s hs hpre
  exact ((hp s hs hpre).inv hs).mono (fun a b hb => hf a b hb.1 hb.2) |>.bind

theorem Triple.consequence {pre' : Scene ι → Prop} {post post' : α → Scene ι → Prop}
    {p : Procedure α} (h : C.Triple reliable i keep pre p post)
    (hpre : ∀ s, C.inv s → pre' s → pre s)
    (hpost : ∀ a s, C.inv s → post a s → post' a s) :
    C.Triple reliable i keep pre' p post' := by
  intro s hs hs'
  exact ((h s hs (hpre s hs hs')).inv hs).mono fun a b hb => hpost a b hb.1 hb.2

theorem Triple.weaken_pre {pre' : Scene ι → Prop} {post : α → Scene ι → Prop}
    {p : Procedure α} (h : C.Triple reliable i keep pre p post)
    (hpre : ∀ s, C.inv s → pre' s → pre s) : C.Triple reliable i keep pre' p post :=
  h.consequence hpre fun _ _ _ hb => hb

theorem Triple.strengthen_post {post post' : α → Scene ι → Prop} {p : Procedure α}
    (h : C.Triple reliable i keep pre p post)
    (hpost : ∀ a s, C.inv s → post a s → post' a s) :
    C.Triple reliable i keep pre p post' :=
  h.consequence (fun _ _ hb => hb) hpost

theorem Triple.weaken_keep {keep' : Scene ι → Prop} {post : α → Scene ι → Prop}
    {p : Procedure α} (h : C.Triple reliable i keep pre p post)
    (hkeep : ∀ s, keep s → keep' s) : C.Triple reliable i keep' pre p post := by
  intro s hs hpre
  have hsafe := h s hs hpre
  clear h hs hpre
  induction p generalizing s with
  | done a => exact hsafe
  | perform op next ih =>
    cases op with
    | call call =>
      intro a ha hrely
      obtain ⟨hkeep_a, hmay, hnext⟩ := hsafe a ha hrely
      exact ⟨fun hr => hkeep a (hkeep_a hr), hmay, fun verdict hverdict =>
        ⟨(hnext verdict hverdict).1, ih _ _ (hnext verdict hverdict).2⟩⟩
    | report event => exact ⟨hsafe.1, ih () _ hsafe.2⟩
    | clock => exact fun now => ih now s (hsafe now)
    | pause duration => exact ih () s hsafe

/-- What a precondition says of no scene in particular may be assumed. -/
theorem Triple.assume {q : Prop} {p : Procedure α} {post : α → Scene ι → Prop}
    (hq : ∀ s, C.inv s → pre s → q) (h : q → C.Triple reliable i keep pre p post) :
    C.Triple reliable i keep pre p post :=
  fun s hs hpre => h (hq s hs hpre) s hs hpre

theorem Triple.given {q : Prop} {p : Procedure α} {post : α → Scene ι → Prop}
    (h : q → C.Triple reliable i keep pre p post) :
    C.Triple reliable i keep (fun s => q ∧ pre s) p post :=
  Triple.assume (fun _ _ hs => hs.1) fun hq => (h hq).weaken_pre fun _ _ hs => hs.2

theorem Triple.report {event : Event} {post : Unit → Scene ι → Prop}
    (hproper : ∀ s, C.inv s → pre s → C.Proper i s (s.report i event))
    (hpost : ∀ s, C.inv s → pre s → post () (s.report i event)) :
    C.Triple reliable i keep pre (Procedure.report event) post :=
  fun s hs hpre => ⟨hproper s hs hpre, hpost s hs hpre⟩

theorem Triple.clock {post : UInt64 → Scene ι → Prop}
    (hpost : ∀ now s, C.inv s → pre s → post now s) :
    C.Triple reliable i keep pre Procedure.clock post :=
  fun s hs hpre now => hpost now s hs hpre

theorem Triple.pause {duration : Duration} :
    C.Triple reliable i keep pre (Procedure.pause duration) fun _ => pre :=
  fun _ _ hpre => hpre

/-- A request is safe if the precondition is stable and every verdict on the request leads to a
scene with the postcondition. -/
theorem Triple.call {call : StoreCall} {post : Except StoreError call.Reply → Scene ι → Prop}
    (hstable : C.Stable i pre) (hkeep : ¬ reliable → ∀ s, C.inv s → pre s → keep s)
    (hmay : ∀ s, C.inv s → pre s → C.may i call s)
    (hserve : ∀ s, C.inv s → pre s → ∀ verdict : Verdict, (reliable → verdict = .pass) →
      C.Proper i s (s.serve i verdict call).2 ∧
      post (s.serve i verdict call).1 (s.serve i verdict call).2) :
    C.Triple reliable i keep pre (Procedure.call call) post := by
  intro s hs hpre a ha hrely
  have hpre_a : pre a := hstable s a hs ha hrely hpre
  exact ⟨fun hr => hkeep hr a ha hpre_a, hmay a ha hpre_a, hserve a ha hpre_a⟩

/-- The same for a request that is not a scan, whose verdicts come down to being served and to
failing before or after that. -/
theorem Triple.request {call : StoreCall} {post : Except StoreError call.Reply → Scene ι → Prop}
    (hscan : call.kind ≠ .scan) (hstable : C.Stable i pre)
    (hkeep : ¬ reliable → ∀ s, C.inv s → pre s → keep s)
    (hmay : ∀ s, C.inv s → pre s → C.may i call s)
    (hproper : ∀ s, C.inv s → pre s → ∀ reached contents,
      Delivered call s.contents reached contents →
      C.Proper i s (s.sent i call reached contents))
    (hok : ∀ s, C.inv s → pre s → post (.ok (s.contents.perform call).1)
      (s.sent i call true (s.contents.perform call).2))
    (herror : ¬ reliable → ∀ s, C.inv s → pre s → ∀ error reached contents,
      Delivered call s.contents reached contents →
      post (.error error) (s.sent i call reached contents)) :
    C.Triple reliable i keep pre (Procedure.call call) post := by
  refine Triple.call hstable hkeep hmay fun s hs hpre verdict hverdict => ?_
  rcases s.serve_cases i verdict hscan with h | ⟨hne, error, reached, contents, hcontents, h⟩
  · rw [h]
    exact ⟨hproper s hs hpre _ _ .served, hok s hs hpre⟩
  · have hr : ¬ reliable := fun hr => hne (hverdict hr)
    rw [h]
    exact ⟨hproper s hs hpre _ _ hcontents,
      herror hr s hs hpre error reached contents hcontents⟩

/-- An assertion that survives all requests and events which a procedure may make, survives the
procedure, provided that it is stable if there are any requests. -/
theorem Triple.of_within {P : StoreCall → Prop} {E : Event → Prop} {R : α → Prop}
    {p : Procedure α} (hp : p.Within P E R) (hstable : ∀ call, P call → C.Stable i pre)
    (hkeep : ¬ reliable → ∀ s, C.inv s → pre s → keep s)
    (hmay : ∀ call, P call → ∀ s, C.inv s → pre s → C.may i call s)
    (hsent : ∀ call, P call → ∀ s, C.inv s → pre s → ∀ reached contents,
      Delivered call s.contents reached contents →
      C.Proper i s (s.sent i call reached contents) ∧ pre (s.sent i call reached contents))
    (hreport : ∀ event, E event → ∀ s, C.inv s → pre s →
      C.Proper i s (s.report i event) ∧ pre (s.report i event)) :
    C.Triple reliable i keep pre p fun a s => R a ∧ pre s := by
  induction p with
  | done a => exact fun _ _ hpre => ⟨hp, hpre⟩
  | perform op next ih =>
    cases op with
    | call call =>
      intro s hs hpre a ha hrely
      have hpre_a : pre a := hstable call hp.1 s a hs ha hrely hpre
      refine ⟨fun hr => hkeep hr a ha hpre_a, hmay call hp.1 a ha hpre_a, fun verdict _ => ?_⟩
      obtain ⟨hproper, hpre_b⟩ := hsent call hp.1 a ha hpre_a verdict.reachesStore _
        (delivered_serve verdict call a.contents)
      exact ⟨hproper, ih _ (hp.2 _) _ hproper.inv hpre_b⟩
    | report event =>
      intro s hs hpre
      obtain ⟨hproper, hpre_b⟩ := hreport event hp.1 s hs hpre
      exact ⟨hproper, ih () hp.2 _ hproper.inv hpre_b⟩
    | clock => exact fun s hs hpre now => ih now (hp now) s hs hpre
    | pause duration => exact fun s hs hpre => ih () hp s hs hpre

end Triple

/-! ### Putting conducts together -/

def inf (C D : Conduct ι) : Conduct ι where
  inv s := C.inv s ∧ D.inv s
  rely i a b := C.rely i a b ∧ D.rely i a b
  may i call s := C.may i call s ∧ D.may i call s
  rely_refl i s := ⟨C.rely_refl i s, D.rely_refl i s⟩
  rely_trans h₁ h₂ := ⟨C.rely_trans h₁.1 h₂.1, D.rely_trans h₁.2 h₂.2⟩

/-- All conducts of a family at once. -/
def all {κ : Type} (C : κ → Conduct ι) : Conduct ι where
  inv s := ∀ k, (C k).inv s
  rely i a b := ∀ k, (C k).rely i a b
  may i call s := ∀ k, (C k).may i call s
  rely_refl i s k := (C k).rely_refl i s
  rely_trans h₁ h₂ k := (C k).rely_trans (h₁ k) (h₂ k)

section Together

variable {reliable : Prop} {i : ι}

theorem Proper.inf {C D : Conduct ι} {a b : Scene ι} (hC : C.Proper i a b)
    (hD : D.Proper i a b) : (C.inf D).Proper i a b :=
  ⟨⟨hC.inv, hD.inv⟩, fun j hj => ⟨hC.rely j hj, hD.rely j hj⟩⟩

theorem Proper.all {κ : Type} {C : κ → Conduct ι} {a b : Scene ι}
    (h : ∀ k, (C k).Proper i a b) : (Conduct.all C).Proper i a b :=
  ⟨fun k => (h k).inv, fun j hj k => (h k).rely j hj⟩

theorem Safe.all {κ : Type} {C : κ → Conduct ι} {keep : κ → Scene ι → Prop}
    {post : κ → α → Scene ι → Prop} {p : Procedure α} {s : Scene ι}
    (h : ∀ k, (C k).Safe reliable i (keep k) (post k) p s) :
    (Conduct.all C).Safe reliable i (fun s => ∀ k, keep k s) (fun a s => ∀ k, post k a s)
      p s := by
  induction p generalizing s with
  | done a => exact h
  | perform op next ih =>
    cases op with
    | call call =>
      intro a ha hrely
      have hall := fun k => h k a (ha k) (hrely k)
      refine ⟨fun hr k => (hall k).1 hr, fun k => (hall k).2.1, fun verdict hverdict => ?_⟩
      have hnext := fun k => (hall k).2.2 verdict hverdict
      exact ⟨Proper.all fun k => (hnext k).1, ih _ fun k => (hnext k).2⟩
    | report event => exact ⟨Proper.all fun k => (h k).1, ih () fun k => (h k).2⟩
    | clock => exact fun now => ih now fun k => h k now
    | pause duration => exact ih () h

/-- A procedure that keeps to every conduct of a family keeps to all of them at once. -/
theorem Triple.all {κ : Type} {C : κ → Conduct ι} {keep pre : κ → Scene ι → Prop}
    {post : κ → α → Scene ι → Prop} {p : Procedure α}
    (h : ∀ k, (C k).Triple reliable i (keep k) (pre k) p (post k)) :
    (Conduct.all C).Triple reliable i (fun s => ∀ k, keep k s) (fun s => ∀ k, pre k s) p
      fun a s => ∀ k, post k a s :=
  fun s hs hpre => Safe.all fun k => h k s (hs k) (hpre k)

/-- A procedure that keeps to a conduct keeps to a second one as well, if an assertion is stable
under both and each of the requests and events that it may make keeps to the second conduct and
preserves the assertion, given that it keeps to the first. -/
theorem Triple.extend {C D : Conduct ι} {P : StoreCall → Prop} {E : Event → Prop}
    {R : α → Prop} {keepC keepD pre I : Scene ι → Prop} {post : α → Scene ι → Prop}
    {p : Procedure α} (hC : C.Triple reliable i keepC pre p post) (hp : p.Within P E R)
    (hstable : (C.inf D).Stable i I) (hkeep : ¬ reliable → ∀ s, I s → keepD s)
    (hmay : ∀ call, P call → ∀ s, (C.inf D).inv s → I s → D.may i call s)
    (hsent : ∀ call, P call → ∀ s, (C.inf D).inv s → I s → ∀ reached contents,
      Delivered call s.contents reached contents →
      C.Proper i s (s.sent i call reached contents) →
      D.Proper i s (s.sent i call reached contents) ∧ I (s.sent i call reached contents))
    (hreport : ∀ event, E event → ∀ s, (C.inf D).inv s → I s → C.Proper i s (s.report i event) →
      D.Proper i s (s.report i event) ∧ I (s.report i event)) :
    (C.inf D).Triple reliable i (fun s => keepC s ∧ keepD s) (fun s => pre s ∧ I s) p
      fun a s => post a s ∧ R a ∧ I s := by
  have hsafe : ∀ s, (C.inf D).inv s → C.Safe reliable i keepC post p s → I s →
      (C.inf D).Safe reliable i (fun s => keepC s ∧ keepD s)
        (fun a s => post a s ∧ R a ∧ I s) p s := by
    clear hC
    induction p with
    | done a => exact fun s _ hpost hI => ⟨hpost, hp, hI⟩
    | perform op next ih =>
      intro s hs hC hI
      cases op with
      | call call =>
        intro a ha hrely
        -- the others have moved since, which the assertion survives
        have hI_a : I a := hstable s a hs ha hrely hI
        obtain ⟨hkeepC, hmayC, hnext⟩ := hC a ha.1 hrely.1
        refine ⟨fun hr => ⟨hkeepC hr, hkeep hr a hI_a⟩, ⟨hmayC, hmay call hp.1 a ha hI_a⟩,
          fun verdict hverdict => ?_⟩
        obtain ⟨hproperC, hsafeC⟩ := hnext verdict hverdict
        obtain ⟨hproperD, hI_b⟩ := hsent call hp.1 a ha hI_a verdict.reachesStore _
          (delivered_serve verdict call a.contents) hproperC
        exact ⟨hproperC.inf hproperD, ih _ (hp.2 _) _ ⟨hproperC.inv, hproperD.inv⟩ hsafeC hI_b⟩
      | report event =>
        obtain ⟨hproperD, hI_b⟩ := hreport event hp.1 s hs hI hC.1
        exact ⟨hC.1.inf hproperD, ih () hp.2 _ ⟨hC.1.inv, hproperD.inv⟩ hC.2 hI_b⟩
      | clock => exact fun now => ih now (hp now) s hs (hC now) hI
      | pause duration => exact ih () hp s hs hC hI
  exact fun s hs hpre => hsafe s hs (hC s hs.1 hpre.1) hpre.2

end Together

/-! ### Systems -/

/-- What is left of a call keeps to the conduct. -/
def Fits (C : Conduct ι) (reliable : Prop) (i : ι) (keep : Scene ι → Prop)
    (post : α → Scene ι → Prop) : Pending α → Scene ι → Prop
  | .finished a, s => post a s
  | .sending call next, s =>
    C.Safe reliable i keep post (.perform (.call call) next) s

/-- Running on to the next request keeps to the conduct. -/
theorem Safe.advance {C : Conduct ι} {reliable : Prop} {i : ι} {keep : Scene ι → Prop}
    {post : α → Scene ι → Prop} {p : Procedure α} {s : Scene ι} (hs : C.inv s)
    (h : C.Safe reliable i keep post p s) (now : UInt64) :
    C.inv (advance i now p s).2 ∧ (∀ j, j ≠ i → C.rely j s (advance i now p s).2) ∧
      C.Fits reliable i keep post (advance i now p s).1 (advance i now p s).2 := by
  induction p generalizing s with
  | done a => exact ⟨hs, fun j _ => C.rely_refl j s, h⟩
  | perform op next ih =>
    cases op with
    | call call => exact ⟨hs, fun j _ => C.rely_refl j s, h⟩
    | report event =>
      obtain ⟨hinv, hrely, hfits⟩ := ih () h.1.inv h.2
      exact ⟨hinv, fun j hj => C.rely_trans (h.1.rely j hj) (hrely j hj), hfits⟩
    | clock => exact ih now hs (h now)
    | pause duration => exact ih () hs h

variable {ℓ : Type}

/-- A state of a system in which everyone keeps to the conduct: between calls a participant's
`rest` holds, and what is left of a call is safe. -/
structure Sound (C : Conduct ι) (reliable : Prop) (rest : ι → ℓ → Scene ι → Prop)
    (s : State ι ℓ) : Prop where
  inv : C.inv s.toScene
  idle : ∀ i note, s.activity i = .idle note → rest i note s.toScene
  sending : ∀ i fallback call next, s.activity i = .sending fallback call next →
    C.Safe reliable i (rest i fallback) (rest i) (.perform (.call call) next) s.toScene

namespace Sound

variable {C : Conduct ι} {reliable : Prop} {rest : ι → ℓ → Scene ι → Prop} {s : State ι ℓ}

/-- A request that is about to be answered is one that the participant may send. -/
theorem may (h : C.Sound reliable rest s) {i : ι} {fallback : ℓ} {call : StoreCall}
    {next : Except StoreError call.Reply → Procedure ℓ}
    (hsending : s.activity i = .sending fallback call next) : C.may i call s.toScene :=
  (h.sending i fallback call next hsending s.toScene h.inv (C.rely_refl i _)).2.1

variable [DecidableEq ι]

/-- The state stays sound when one participant moves within the conduct and what is left of its
call fits. -/
theorem goOn (h : C.Sound reliable rest s) (hstable : ∀ i note, C.Stable i (rest i note))
    {i : ι} {fallback : ℓ} {p : Procedure ℓ} {scene : Scene ι} (now : UInt64)
    (hinv : C.inv scene) (hrely : ∀ j, j ≠ i → C.rely j s.toScene scene)
    (hsafe : C.Safe reliable i (rest i fallback) (rest i) p scene) :
    C.Sound reliable rest (s.goOn i fallback now p scene) := by
  obtain ⟨hinv', hrely', hfits⟩ := hsafe.advance hinv now
  -- to the others, the answer and what was reported after it are one move
  have hothers : ∀ j, j ≠ i → C.rely j s.toScene (advance i now p scene).2 := fun j hj =>
    C.rely_trans (hrely j hj) (hrely' j hj)
  refine ⟨hinv', fun j note hj => ?_, fun j fb call next hj => ?_⟩
  · by_cases hji : j = i
    · subst hji
      simp only [State.goOn, Function.update_self] at hj
      cases hp : (advance j now p scene).1 with
      | finished a =>
        rw [hp] at hj hfits
        cases hj
        exact hfits
      | sending call next => rw [hp] at hj; cases hj
    · simp only [State.goOn, Function.update_of_ne hji] at hj
      exact hstable j note _ _ h.inv hinv' (hothers j hji) (h.idle j note hj)
  · by_cases hji : j = i
    · subst hji
      simp only [State.goOn, Function.update_self] at hj
      cases hp : (advance j now p scene).1 with
      | finished a => rw [hp] at hj; cases hj
      | sending call' next' =>
        rw [hp] at hj hfits
        cases hj
        exact hfits
    · -- a procedure that waits for its answer is safe wherever the others may lead
      simp only [State.goOn, Function.update_of_ne hji] at hj
      intro a ha hrely_a
      exact h.sending j fb call next hj a ha (C.rely_trans (hothers j hji) hrely_a)

/-- One move keeps a state sound if every call that the rules allow is safe. -/
theorem step {rules : Rules ι ℓ} (h : C.Sound rules.reliable rest s)
    (hstable : ∀ i note, C.Stable i (rest i note))
    (hcalls : ∀ i note fallback p, rules.allows i note fallback p →
      C.Triple rules.reliable i (rest i fallback) (rest i note) p (rest i))
    {s' : State ι ℓ} (hstep : Step rules s s') : C.Sound rules.reliable rest s' := by
  cases hstep with
  | call now hidle hallows =>
    have hsafe := hcalls _ _ _ _ hallows s.toScene h.inv (h.idle _ _ hidle)
    exact h.goOn hstable now h.inv (fun j _ => C.rely_refl j _) hsafe
  | answer verdict now hsending hverdict =>
    have hpending := h.sending _ _ _ _ hsending s.toScene h.inv (C.rely_refl _ _)
    obtain ⟨hproper, hsafe⟩ := hpending.2.2 verdict hverdict
    exact h.goOn hstable now hproper.inv hproper.rely hsafe
  | @abandon i fallback call next hfaulty hsending =>
    have hpending := h.sending i fallback call next hsending s.toScene h.inv (C.rely_refl i _)
    refine ⟨h.inv, fun j note hj => ?_, fun j fb call next hj => ?_⟩
    · by_cases hji : j = i
      · subst hji
        simp only [Function.update_self] at hj
        cases hj
        exact hpending.1 hfaulty
      · simp only [Function.update_of_ne hji] at hj
        exact h.idle j note hj
    · by_cases hji : j = i
      · subst hji
        simp only [Function.update_self] at hj
        cases hj
      · simp only [Function.update_of_ne hji] at hj
        exact h.sending j fb call next hj

end Sound

/-- If every call that the rules allow is safe, every state that is reached is sound. -/
theorem sound [DecidableEq ι] {C : Conduct ι} {rules : Rules ι ℓ}
    {rest : ι → ℓ → Scene ι → Prop} (hstable : ∀ i note, C.Stable i (rest i note))
    (hcalls : ∀ i note fallback p, rules.allows i note fallback p →
      C.Triple rules.reliable i (rest i fallback) (rest i note) p (rest i))
    {s s' : State ι ℓ} (hs : C.Sound rules.reliable rest s) (hreach : Reaches rules s s') :
    C.Sound rules.reliable rest s' := by
  induction hreach with
  | refl => exact hs
  | tail _ hstep ih => exact ih.step hstable hcalls hstep

/-- The conduct that asks for nothing but an invariant of the contents. -/
def ofContents (I : Contents → Prop) : Conduct ι where
  inv s := I s.contents
  rely _ _ _ := True
  may _ _ _ := True
  rely_refl _ _ := trivial
  rely_trans _ _ := trivial

end Conduct

/-- What no request makes false that calls may send, holds of the contents in every state that is
reached. -/
theorem contents_of_reaches {ι ℓ : Type} [DecidableEq ι] {rules : Rules ι ℓ}
    {P : StoreCall → Prop} {I : Contents → Prop} {contents : Contents} {note : ℓ} {s : State ι ℓ}
    (hcalls : ∀ i note fallback p, rules.allows i note fallback p →
      p.Within P (fun _ => True) fun _ => True)
    (hperform : ∀ call c, P call → I c → I (c.perform call).2) (hcontents : I contents)
    (hreach : Reaches rules (State.initial contents note) s) : I s.contents := by
  have hstart : (Conduct.ofContents (ι := ι) I).Sound rules.reliable (fun _ _ _ => True)
      (State.initial contents note) := by
    refine ⟨hcontents, fun _ _ _ => trivial, fun i _ _ _ hi => ?_⟩
    cases hi
  have htriples : ∀ i note fallback p, rules.allows i note fallback p →
      (Conduct.ofContents I).Triple rules.reliable i (fun _ => True) (fun _ => True) p
        fun _ _ => True := by
    intro i note fallback p hallows
    refine (Conduct.Triple.of_within (hcalls i note fallback p hallows)
      (fun _ _ _ _ _ _ _ _ => trivial) (fun _ _ _ _ => trivial) (fun _ _ _ _ _ => trivial)
      (fun call hcall s hs _ reached contents hdelivered => ?_)
      fun event _ s hs _ => ⟨⟨hs, fun _ _ => trivial⟩, trivial⟩).strengthen_post
        fun _ _ _ _ => trivial
    refine ⟨⟨?_, fun _ _ => trivial⟩, trivial⟩
    rcases hdelivered.eq_or with rfl | rfl
    · exact hs
    · exact hperform call s.contents hcall hs
  exact (Conduct.sound (fun _ _ _ _ _ _ _ _ => trivial) htriples hstart hreach).inv

end ClusterIdentity.Interleaving
