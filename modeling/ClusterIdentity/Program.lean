/-!
# Programs

A `Program` is a finite tree of operations: it is done and has a result, or it performs one
operation and goes on in a way that depends on the answer. What an operation does is left to
whoever runs the program, so one program can be run to its end, operation by operation next to
others, or against answers of any kind.

## Main definitions

* `Program`, `Program.bind` and its monad
* `Program.run`: runs a program with a handler for its operations
* `Program.lift`: the same program in a larger language of operations

## Main statements

* `Program.run_bind`: a sequence runs as its parts one after the other
-/

namespace ClusterIdentity

/-- A program over operations `Op`, of which each has its own type of answer. -/
inductive Program (Op : Type) (Answer : Op → Type) (α : Type) : Type where
  | done (result : α)
  /-- The program performs an operation and goes on with the answer. -/
  | perform (op : Op) (next : Answer op → Program Op Answer α)

namespace Program

variable {Op : Type} {Answer : Op → Type} {α β σ : Type}

/-- The first program and then the one that its result selects. -/
def bind : Program Op Answer α → (α → Program Op Answer β) → Program Op Answer β
  | done a, f => f a
  | perform op next, f => perform op fun answer => (next answer).bind f

/-- The program that performs one operation and returns the answer. -/
def ask (op : Op) : Program Op Answer (Answer op) := perform op done

instance : Monad (Program Op Answer) where
  pure := done
  bind := bind

/-- Runs a program to its end; the handler answers the operations and keeps a state. -/
def run (handler : (op : Op) → σ → Answer op × σ) : Program Op Answer α → σ → α × σ
  | done a, s => (a, s)
  | perform op next, s =>
    let (answer, s) := handler op s
    (next answer).run handler s

/-- The program with each operation replaced by one of a larger language. -/
def lift {Op' : Type} {Answer' : Op' → Type} (embed : Op → Op')
    (back : (op : Op) → Answer' (embed op) → Answer op) :
    Program Op Answer α → Program Op' Answer' α
  | done a => done a
  | perform op next => perform (embed op) fun answer => (next (back op answer)).lift embed back

theorem bind_done (p : Program Op Answer α) : p.bind done = p := by
  induction p with
  | done a => rfl
  | perform op next ih => simp [bind, ih]

theorem bind_assoc {γ : Type} (p : Program Op Answer α) (f : α → Program Op Answer β)
    (g : β → Program Op Answer γ) : (p.bind f).bind g = p.bind fun a => (f a).bind g := by
  induction p with
  | done a => rfl
  | perform op next ih => simp [bind, ih]

instance : LawfulMonad (Program Op Answer) :=
  LawfulMonad.mk' _ (fun p => bind_done p) (fun _ _ => rfl) (fun p f g => bind_assoc p f g)

@[simp] theorem pure_eq_done (a : α) : (pure a : Program Op Answer α) = done a := rfl

@[simp] theorem bind_eq_bind (p : Program Op Answer α) (f : α → Program Op Answer β) :
    p >>= f = p.bind f := rfl

/-- A sequence runs as its parts one after the other. -/
theorem run_bind (handler : (op : Op) → σ → Answer op × σ) (p : Program Op Answer α)
    (f : α → Program Op Answer β) (s : σ) :
    (p.bind f).run handler s =
      (f (p.run handler s).1).run handler (p.run handler s).2 := by
  induction p generalizing s with
  | done a => rfl
  | perform op next ih => simp [bind, run, ih]

end Program

end ClusterIdentity
