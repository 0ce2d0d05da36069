import ClusterIdentity.Program

/-!
# Operations of a run

What a program does when it is run against a handler: its operations, one after the other.

## Main definitions

* `Program.operations`: the operations of a run, in order

## Main statements

* `Program.operations_bind`: a sequence performs the operations of its parts
-/

namespace ClusterIdentity.Program

variable {Op : Type} {Answer : Op → Type} {α β σ : Type}

/-- The operations that a program performs when it is run, in order. -/
def operations (handler : (op : Op) → σ → Answer op × σ) : Program Op Answer α → σ → List Op
  | done _, _ => []
  | perform op next, s => op :: (next (handler op s).1).operations handler (handler op s).2

/-- A sequence performs the operations of its parts. -/
theorem operations_bind (handler : (op : Op) → σ → Answer op × σ) (p : Program Op Answer α)
    (f : α → Program Op Answer β) (s : σ) :
    (p.bind f).operations handler s =
      p.operations handler s ++
        (f (p.run handler s).1).operations handler (p.run handler s).2 := by
  induction p generalizing s with
  | done a => rfl
  | perform op next ih =>
    show op :: ((next (handler op s).1).bind f).operations handler (handler op s).2 = _
    rw [ih]
    rfl

end ClusterIdentity.Program
