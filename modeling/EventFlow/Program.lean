/-!
# Programs that ask

A program is a finite tree of questions: it either is done with a value, or asks
something of its surroundings and goes on in a way that depends on the answer.
What can be asked, and what kind of answer each question has, is an interface.
Programs do nothing by themselves, so that one and the same program can be run
alone, together with others in any order of their questions, or against
surroundings in which some questions fail.
-/

namespace EventFlow

/-- What can be asked, and the type of the answer to each question. -/
structure Interface where
  Question : Type
  Answer : Question → Type

/-- A program over an interface. -/
inductive Program (I : Interface) (α : Type) where
  | done (value : α)
  | ask (question : I.Question) (next : I.Answer question → Program I α)

namespace Program

variable {I : Interface} {α β γ : Type}

/-- Goes on with the value of a program. -/
def bind (p : Program I α) (f : α → Program I β) : Program I β :=
  match p with
  | .done value => f value
  | .ask question next => .ask question fun answer => (next answer).bind f

instance : Monad (Program I) where
  pure := .done
  bind := bind

/-- Asks one question. -/
def question (q : I.Question) : Program I (I.Answer q) :=
  .ask q .done

@[simp]
theorem pure_eq (a : α) : (pure a : Program I α) = .done a := rfl

@[simp]
theorem done_bind (a : α) (f : α → Program I β) : (Program.done a : Program I α) >>= f = f a := rfl

@[simp]
theorem ask_bind (q : I.Question) (next : I.Answer q → Program I α) (f : α → Program I β) :
    Program.ask q next >>= f = .ask q fun answer => next answer >>= f := rfl

/-- Going on with the value itself changes nothing. -/
theorem bind_done (p : Program I α) : p >>= .done = p := by
  induction p with
  | done a => rfl
  | ask q next ih =>
    rw [ask_bind]
    exact congrArg (Program.ask q) (funext ih)

/-- It does not matter how programs that follow each other are grouped. -/
theorem bind_assoc (p : Program I α) (f : α → Program I β) (g : β → Program I γ) :
    p >>= f >>= g = p >>= fun a => f a >>= g := by
  induction p with
  | done a => rfl
  | ask q next ih =>
    simp only [ask_bind]
    exact congrArg (Program.ask q) (funext ih)

instance : LawfulMonad (Program I) :=
  LawfulMonad.mk' (Program I) bind_done (fun _ _ => rfl) bind_assoc

end Program

end EventFlow
