/-!
Computations that ask questions. A dialogue either is done or asks a question and goes on with the
answer; who answers, when, and from which state, is left to whoever conducts it. The stages of a
request are dialogues over calls to the identity provider and to storage, so that what a stage asks
for can be stated without saying how it is answered.
-/

namespace Gatehouse

/-- A computation that asks questions of type `Q`, each with answers of its own type. -/
inductive Dialogue (Q : Type) (A : Q → Type) (α : Type) : Type
  | done (result : α)
  | ask (question : Q) (next : A question → Dialogue Q A α)

namespace Dialogue

variable {Q P : Type} {A : Q → Type} {B : P → Type} {α β γ σ : Type}

/-- Goes on with the result of a dialogue. -/
def bind (d : Dialogue Q A α) (f : α → Dialogue Q A β) : Dialogue Q A β :=
  match d with
  | .done a => f a
  | .ask q next => .ask q fun x => (next x).bind f

instance : Monad (Dialogue Q A) where
  pure := .done
  bind := bind

/-- The dialogue that asks one question and is done with the answer. -/
def question (q : Q) : Dialogue Q A (A q) := .ask q .done

/-- The result when a function answers every question. -/
def answered (answer : (q : Q) → A q) : Dialogue Q A α → α
  | .done a => a
  | .ask q next => (next (answer q)).answered answer

/-- The questions asked, in order, when a function answers them. -/
def asked (answer : (q : Q) → A q) : Dialogue Q A α → List Q
  | .done _ => []
  | .ask q next => q :: (next (answer q)).asked answer

/-- The result, and the state left behind, when a party with a state answers every question. -/
def conduct (answer : (q : Q) → σ → A q × σ) : Dialogue Q A α → σ → α × σ
  | .done a, s => (a, s)
  | .ask q next, s => (next (answer q s).1).conduct answer (answer q s).2

def interpret {M : Type → Type} [Monad M] (answer : (q : Q) → M (A q)) : Dialogue Q A α → M α
  | .done a => pure a
  | .ask q next => do (next (← answer q)).interpret answer

/-- The dialogue in which every question is answered by holding another dialogue. -/
def through (answer : (q : Q) → Dialogue P B (A q)) : Dialogue Q A α → Dialogue P B α
  | .done a => .done a
  | .ask q next => (answer q).bind fun x => (next x).through answer

/-! ## Laws -/

@[simp] theorem pure_eq_done (a : α) : (pure a : Dialogue Q A α) = .done a := rfl

@[simp] theorem bind_eq (d : Dialogue Q A α) (f : α → Dialogue Q A β) : d >>= f = d.bind f := rfl

@[simp] theorem map_eq (f : α → β) (d : Dialogue Q A α) : f <$> d = d.bind fun a => .done (f a) :=
  rfl

@[simp] theorem done_bind (a : α) (f : α → Dialogue Q A β) :
    (done a : Dialogue Q A α).bind f = f a := rfl

@[simp] theorem ask_bind (q : Q) (next : A q → Dialogue Q A α) (f : α → Dialogue Q A β) :
    (ask q next).bind f = .ask q fun x => (next x).bind f := rfl

@[simp] theorem bind_done (d : Dialogue Q A α) : d.bind .done = d := by
  induction d with
  | done => rfl
  | ask q next ih => simp [ih]

theorem bind_assoc (d : Dialogue Q A α) (f : α → Dialogue Q A β) (g : β → Dialogue Q A γ) :
    (d.bind f).bind g = d.bind fun a => (f a).bind g := by
  induction d with
  | done => rfl
  | ask q next ih => simp [ih]

instance : LawfulMonad (Dialogue Q A) :=
  LawfulMonad.mk' _ bind_done (fun _ _ => rfl) bind_assoc

@[simp] theorem answered_bind (answer : (q : Q) → A q) (d : Dialogue Q A α)
    (f : α → Dialogue Q A β) :
    (d.bind f).answered answer = (f (d.answered answer)).answered answer := by
  induction d with
  | done => rfl
  | ask q next ih => simpa [answered] using ih (answer q)

@[simp] theorem asked_bind (answer : (q : Q) → A q) (d : Dialogue Q A α)
    (f : α → Dialogue Q A β) :
    (d.bind f).asked answer = d.asked answer ++ (f (d.answered answer)).asked answer := by
  induction d with
  | done => rfl
  | ask q next ih => simpa [answered, asked] using ih (answer q)

end Dialogue

end Gatehouse
