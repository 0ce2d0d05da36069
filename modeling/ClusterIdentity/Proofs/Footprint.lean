import ClusterIdentity.Effect

/-!
# Footprints of procedures

Which requests a procedure may send, which events it may report and what it may return, whatever
it is answered.

## Main definitions

* `Procedure.Within`: all requests, events and results of a procedure are of certain kinds
-/

namespace ClusterIdentity.Procedure

variable {α β : Type} {P : StoreCall → Prop} {E : Event → Prop} {R : α → Prop}

/-- Whatever the answers are, the procedure sends only certain requests, reports only certain
events and returns only certain results. -/
def Within (P : StoreCall → Prop) (E : Event → Prop) (R : α → Prop) : Procedure α → Prop
  | .done a => R a
  | .perform (.call call) next => P call ∧ ∀ answer, Within P E R (next answer)
  | .perform (.report event) next => E event ∧ Within P E R (next ())
  | .perform .clock next => ∀ now, Within P E R (next now)
  | .perform (.pause _) next => Within P E R (next ())

theorem within_call {call : StoreCall} (h : P call) :
    Within P E (fun _ => True) (Procedure.call call) :=
  ⟨h, fun _ => trivial⟩

theorem within_report {event : Event} (h : E event) :
    Within P E (fun _ => True) (Procedure.report event) :=
  ⟨h, trivial⟩

theorem Within.mono {P' : StoreCall → Prop} {E' : Event → Prop} {p : Procedure α}
    (hp : Within P E R p) (hP : ∀ call, P call → P' call) (hE : ∀ event, E event → E' event) :
    Within P' E' R p := by
  induction p with
  | done a => exact hp
  | perform op next ih =>
    cases op with
    | call call => exact ⟨hP call hp.1, fun answer => ih answer (hp.2 answer)⟩
    | report event => exact ⟨hE event hp.1, ih () hp.2⟩
    | clock => exact fun now => ih now (hp now)
    | pause duration => exact ih () hp

theorem Within.bind {R' : β → Prop} {p : Procedure α} {f : α → Procedure β}
    (hp : Within P E R p) (hf : ∀ a, R a → Within P E R' (f a)) : Within P E R' (p.bind f) := by
  induction p with
  | done a => exact hf a hp
  | perform op next ih =>
    cases op with
    | call call => exact ⟨hp.1, fun answer => ih answer (hp.2 answer)⟩
    | report event => exact ⟨hp.1, ih () hp.2⟩
    | clock => exact fun now => ih now (hp now)
    | pause duration => exact ih () hp

theorem Within.weaken_result {R' : α → Prop} {p : Procedure α} (hp : Within P E R p)
    (hR : ∀ a, R a → R' a) : Within P E R' p := by
  rw [← Program.bind_done p]
  exact hp.bind hR

theorem within_any (p : Procedure α) :
    Within (fun _ => True) (fun _ => True) (fun _ => True) p := by
  induction p with
  | done a => trivial
  | perform op next ih =>
    cases op with
    | call call => exact ⟨trivial, ih⟩
    | report event => exact ⟨trivial, ih ()⟩
    | clock => exact ih
    | pause duration => exact ih ()

/-- However a procedure is run, it returns one of its results. -/
theorem Within.result_run {σ : Type} {p : Procedure α} (hp : Within P E R p)
    (handler : (effect : Effect) → σ → effect.Answer × σ) (s : σ) : R (p.run handler s).1 := by
  induction p generalizing s with
  | done a => exact hp
  | perform op next ih =>
    cases op with
    | call call => exact ih _ (hp.2 _) _
    | report event => exact ih _ hp.2 _
    | clock => exact ih _ (hp _) _
    | pause duration => exact ih _ hp _

end ClusterIdentity.Procedure
