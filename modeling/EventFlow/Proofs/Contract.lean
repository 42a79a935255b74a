import EventFlow.Program

/-!
# Runs of programs and their contracts

Surroundings in a state answer a question in one of several ways, and are in
another state afterwards.  A program that has its surroundings to itself runs
from one answer to the next.  Beside other programs it only knows what the
others may do between two of its questions; its contract says what it owes the
others in turn, and what holds when it ends.
-/

namespace EventFlow.Program

variable {I : Interface} {S α β : Type}

/-- How surroundings in a state may answer a question, and in which state they
are then. -/
abbrev Answering (I : Interface) (S : Type) : Type :=
  S → (q : I.Question) → I.Answer q → S → Prop

/-! ## Runs -/

/-- A program goes on behind the answer to its next question. -/
inductive Step (answers : Answering I S) : Program I α → S → Program I α → S → Prop where
  | ask {q : I.Question} {next : I.Answer q → Program I α} {s t : S} {a : I.Answer q}
      (answered : answers s q a t) : Step answers (.ask q next) s (next a) t

/-- A program that has its surroundings to itself runs to its end. -/
inductive Runs (answers : Answering I S) : Program I α → S → α → S → Prop where
  | done (value : α) (s : S) : Runs answers (.done value) s value s
  | ask {q : I.Question} {next : I.Answer q → Program I α} {s t u : S} {a : I.Answer q} {r : α}
      (answered : answers s q a t) (rest : Runs answers (next a) t r u) :
      Runs answers (.ask q next) s r u

section Runs

variable {answers : Answering I S} {s t : S}

@[simp]
theorem runs_done_iff {value r : α} :
    Runs answers (.done value : Program I α) s r t ↔ r = value ∧ t = s := by
  constructor
  · intro run
    cases run
    exact ⟨rfl, rfl⟩
  · rintro ⟨rfl, rfl⟩
    exact .done _ _

theorem runs_ask_iff {q : I.Question} {next : I.Answer q → Program I α} {r : α} :
    Runs answers (.ask q next) s r t ↔ ∃ a u, answers s q a u ∧ Runs answers (next a) u r t := by
  constructor
  · intro run
    cases run with
    | ask answered rest => exact ⟨_, _, answered, rest⟩
  · rintro ⟨a, u, answered, rest⟩
    exact .ask answered rest

theorem step_ask_iff {q : I.Question} {next : I.Answer q → Program I α} {rest : Program I α} :
    Step answers (.ask q next) s rest t ↔ ∃ a, answers s q a t ∧ rest = next a := by
  constructor
  · intro step
    cases step with
    | ask answered => exact ⟨_, answered, rfl⟩
  · rintro ⟨a, answered, rfl⟩
    exact .ask answered

/-- Of two programs that follow each other the first one goes on, until it is over. -/
theorem step_bind_iff {p : Program I α} {f : α → Program I β} {rest : Program I β} :
    Step answers (p >>= f) s rest t ↔
      (∃ between, Step answers p s between t ∧ rest = between >>= f) ∨
        ∃ value, p = .done value ∧ Step answers (f value) s rest t := by
  cases p with
  | done value =>
      constructor
      · intro step
        exact .inr ⟨value, rfl, step⟩
      · rintro (⟨_, step, _⟩ | ⟨_, ⟨⟩, step⟩)
        · cases step
        · exact step
  | ask q next =>
      simp only [ask_bind, step_ask_iff]
      constructor
      · rintro ⟨a, answered, rfl⟩
        exact .inl ⟨_, ⟨a, answered, rfl⟩, rfl⟩
      · rintro (⟨_, ⟨a, answered, rfl⟩, rfl⟩ | ⟨_, done, _⟩)
        · exact ⟨a, answered, rfl⟩
        · cases done

/-- A run against some answers is one against all answers that contain them. -/
theorem Runs.mono {wider : Answering I S} (within : ∀ s q a t, answers s q a t → wider s q a t)
    {p : Program I α} {r : α} (run : Runs answers p s r t) : Runs wider p s r t := by
  induction run with
  | done value s => exact .done value s
  | ask answered _ ih => exact .ask (within _ _ _ _ answered) ih

/-- Of two programs that follow each other the second runs from where the first ends. -/
theorem runs_bind_iff {p : Program I α} {f : α → Program I β} {r : β} :
    Runs answers (p >>= f) s r t ↔
      ∃ value u, Runs answers p s value u ∧ Runs answers (f value) u r t := by
  induction p generalizing s with
  | done value => simp [and_assoc]
  | ask q next ih =>
      simp only [ask_bind, runs_ask_iff, ih]
      constructor
      · rintro ⟨a, u, answered, value, v, first, rest⟩
        exact ⟨value, v, ⟨a, u, answered, first⟩, rest⟩
      · rintro ⟨value, v, ⟨a, u, answered, first⟩, rest⟩
        exact ⟨a, u, answered, value, v, first, rest⟩

end Runs

/-- Where no question stays without an answer, every program runs to its end. -/
theorem exists_runs {answers : Answering I S} (total : ∀ s q, ∃ a t, answers s q a t)
    (p : Program I α) (s : S) : ∃ r t, Runs answers p s r t := by
  induction p generalizing s with
  | done value => exact ⟨value, s, .done value s⟩
  | ask q next ih =>
      obtain ⟨a, t, answered⟩ := total s q
      obtain ⟨r, u, rest⟩ := ih a t
      exact ⟨r, u, .ask answered rest⟩

/-- How a program runs where there is one answer to each question. -/
def run (answer : S → (q : I.Question) → I.Answer q × S) : Program I α → S → α × S
  | .done value, s => (value, s)
  | .ask q next, s => (next (answer s q).1).run answer (answer s q).2

theorem runs_run_of_valid {answers : Answering I S}
    {answer : S → (q : I.Question) → I.Answer q × S} (valid : S → Prop)
    (possible : ∀ s q, valid s → answers s q (answer s q).1 (answer s q).2 ∧ valid (answer s q).2)
    (p : Program I α) (s : S) (holds : valid s) :
    Runs answers p s (p.run answer s).1 (p.run answer s).2 := by
  induction p generalizing s with
  | done value => exact .done value s
  | ask q next ih =>
      rcases possible s q holds with ⟨answered, still⟩
      exact .ask answered (ih _ _ still)

theorem runs_run {answers : Answering I S} {answer : S → (q : I.Question) → I.Answer q × S}
    (possible : ∀ s q, answers s q (answer s q).1 (answer s q).2) (p : Program I α) (s : S) :
    Runs answers p s (p.run answer s).1 (p.run answer s).2 :=
  runs_run_of_valid (fun _ => True) (fun s q _ => ⟨possible s q, trivial⟩) p s trivial

/-! ## Questions -/

/-- All questions that the program may come to ask are of a kind. -/
def Asks (kind : I.Question → Prop) : Program I α → Prop
  | .done _ => True
  | .ask q next => kind q ∧ ∀ a, Asks kind (next a)

section Asks

variable {kind : I.Question → Prop}

@[simp]
theorem asks_done {value : α} : Asks kind (.done value : Program I α) := trivial

/-- Questions of a kind are of every kind that contains it. -/
theorem Asks.mono {wider : I.Question → Prop} {p : Program I α} (asks : Asks kind p)
    (within : ∀ q, kind q → wider q) : Asks wider p := by
  induction p with
  | done value => trivial
  | ask q next ih => exact ⟨within q asks.1, fun a => ih a (asks.2 a)⟩

theorem asks_of_all {p : Program I α} (all : ∀ q, kind q) : Asks kind p := by
  induction p with
  | done value => trivial
  | ask q next ih => exact ⟨all q, ih⟩

theorem Asks.bind {p : Program I α} {f : α → Program I β} (first : Asks kind p)
    (rest : ∀ value, Asks kind (f value)) : Asks kind (p >>= f) := by
  induction p with
  | done value => exact rest value
  | ask q next ih => exact ⟨first.1, fun a => ih a (first.2 a)⟩

/-- A run that asks nothing but questions of a kind is one against all answers that contain
those to such questions. -/
theorem Runs.mono_of_asks {S : Type} {answers wider : Answering I S} {p : Program I α} {s t : S}
    {r : α} (run : Runs answers p s r t) (asks : Asks kind p)
    (within : ∀ s q a t, kind q → answers s q a t → wider s q a t) : Runs wider p s r t := by
  induction run with
  | done value s => exact .done value s
  | ask answered _ ih => exact .ask (within _ _ _ _ asks.1 answered) (ih (asks.2 _))

/-- A run that asks nothing but questions of a kind makes the changes that answers to
such questions make. -/
theorem Runs.change_of_asks {S : Type} {answers : Answering I S} {p : Program I α} {s t : S}
    {r : α} (run : Runs answers p s r t) (asks : Asks kind p) (change : S → S → Prop)
    (refl : ∀ s, change s s) (trans : ∀ s t u, change s t → change t u → change s u)
    (each : ∀ s q a t, kind q → answers s q a t → change s t) : change s t := by
  induction run with
  | done value s => exact refl s
  | ask answered _ ih => exact trans _ _ _ (each _ _ _ _ asks.1 answered) (ih (asks.2 _))

end Asks

/-! ## Contracts -/

/-- The terms on which a program runs beside others: the states that it may find,
what the others may do between two of its questions, and what it may do itself
with one of them. -/
structure Terms (S : Type) where
  valid : S → Prop
  rely : S → S → Prop
  guarantee : S → S → Prop

/-- The program keeps to its terms from a state on, and ends as it ensures. -/
def Keeps (answers : Answering I S) (terms : Terms S) (ensures : α → S → Prop) :
    Program I α → S → Prop
  | .done value, s => ensures value s
  | .ask q next, s =>
    ∀ t, terms.rely s t → terms.valid t → ∀ a u, answers t q a u →
      terms.guarantee t u ∧ Keeps answers terms ensures (next a) u

section Keeps

variable {answers : Answering I S} {terms : Terms S} {ensures : α → S → Prop}

@[simp]
theorem keeps_done {value : α} {s : S} :
    Keeps answers terms ensures (.done value : Program I α) s ↔ ensures value s :=
  Iff.rfl

/-- A program that ensures something ensures all that follows from it. -/
theorem Keeps.imp {weaker : α → S → Prop} {p : Program I α} {s : S}
    (kept : Keeps answers terms ensures p s)
    (implies : ∀ value t, ensures value t → weaker value t) :
    Keeps answers terms weaker p s := by
  induction p generalizing s with
  | done value => exact implies value s kept
  | ask q next ih =>
      intro t others valid a u answered
      obtain ⟨owed, rest⟩ := kept t others valid a u answered
      exact ⟨owed, ih a rest⟩

/-- A program keeps terms that allow all of its questions. -/
theorem Keeps.of_asks {kind : I.Question → Prop} {p : Program I α} (asks : Asks kind p)
    (allowed : ∀ t q a u, kind q → terms.valid t → answers t q a u → terms.guarantee t u)
    (s : S) : Keeps answers terms (fun _ _ => True) p s := by
  induction p generalizing s with
  | done value => trivial
  | ask q next ih =>
      intro t others valid a u answered
      exact ⟨allowed t q a u asks.1 valid answered, ih a (asks.2 a) u⟩

/-- What the first of two programs ensures is where the second one begins. -/
theorem Keeps.bind {between : α → S → Prop} {ensures : β → S → Prop} {p : Program I α}
    {f : α → Program I β} {s : S} (kept : Keeps answers terms between p s)
    (rest : ∀ value t, between value t → Keeps answers terms ensures (f value) t) :
    Keeps answers terms ensures (p >>= f) s := by
  induction p generalizing s with
  | done value => exact rest value s kept
  | ask q next ih =>
      rw [ask_bind]
      intro t others valid a u answered
      obtain ⟨owed, after⟩ := kept t others valid a u answered
      exact ⟨owed, ih a after⟩

/-- A program that keeps its terms keeps all terms that expect more of the
others and less of itself. -/
theorem Keeps.weaken (other : Terms S) {p : Program I α} {s : S}
    (kept : Keeps answers terms ensures p s)
    (valid : ∀ t, other.valid t → terms.valid t)
    (rely : ∀ t u, other.rely t u → terms.rely t u)
    (guarantee : ∀ t u, terms.guarantee t u → other.guarantee t u) :
    Keeps answers other ensures p s := by
  induction p generalizing s with
  | done value => exact kept
  | ask q next ih =>
      intro t others found a u answered
      obtain ⟨owed, rest⟩ := kept t (rely s t others) (valid t found) a u answered
      exact ⟨guarantee t u owed, ih a rest⟩

/-- What neither the others nor the program undo holds at every question and at the
end. -/
theorem Keeps.throughout (carried : S → Prop) {p : Program I α} {s : S}
    (kept : Keeps answers terms ensures p s)
    (rely : ∀ t u, terms.rely t u → carried t → carried u)
    (guarantee : ∀ t u, terms.guarantee t u → carried t → carried u) (holds : carried s) :
    Keeps answers { terms with guarantee := fun t u => terms.guarantee t u ∧ carried t }
      (fun value t => ensures value t ∧ carried t) p s := by
  induction p generalizing s with
  | done value => exact ⟨kept, holds⟩
  | ask q next ih =>
      intro t others valid a u answered
      obtain ⟨owed, rest⟩ := kept t others valid a u answered
      have still := rely s t others holds
      exact ⟨⟨owed, still⟩, ih a rest (guarantee t u owed still)⟩

/-- What neither the others nor the program undo still holds at the end. -/
theorem Keeps.carry (carried : S → Prop) {p : Program I α} {s : S}
    (kept : Keeps answers terms ensures p s)
    (rely : ∀ t u, terms.rely t u → carried t → carried u)
    (guarantee : ∀ t u, terms.guarantee t u → carried t → carried u) (holds : carried s) :
    Keeps answers terms (fun value t => ensures value t ∧ carried t) p s :=
  (kept.throughout carried rely guarantee holds).weaken terms (fun _ valid => valid)
    (fun _ _ others => others) fun _ _ owed => owed.1

/-- What the others may do does not break a contract. -/
theorem Keeps.after {p : Program I α} {s t : S} (kept : Keeps answers terms ensures p s)
    (trans : ∀ {t u v}, terms.rely t u → terms.rely u v → terms.rely t v)
    (stable : ∀ value t u, terms.rely t u → ensures value t → ensures value u)
    (others : terms.rely s t) : Keeps answers terms ensures p t := by
  cases p with
  | done value => exact stable value s t others kept
  | ask q next =>
      intro u later valid
      exact kept u (trans others later) valid

/-- A program that has its surroundings to itself ends as it ensures, in a state
that it may leave and to which it may have changed the first one. -/
theorem Keeps.of_runs {p : Program I α} {s t : S} {r : α}
    (kept : Keeps answers terms ensures p s) (run : Runs answers p s r t)
    (valid : terms.valid s)
    (stays : ∀ {t q a u}, terms.valid t → answers t q a u → terms.valid u)
    (alone : ∀ t, terms.rely t t)
    (refl : ∀ t, terms.guarantee t t)
    (trans : ∀ {t u v}, terms.guarantee t u → terms.guarantee u v → terms.guarantee t v) :
    ensures r t ∧ terms.guarantee s t ∧ terms.valid t := by
  induction run with
  | done value s => exact ⟨kept, refl s, valid⟩
  | @ask q next s t u a r answered _ ih =>
      obtain ⟨owed, after⟩ := kept s (alone s) valid a t answered
      obtain ⟨ended, done, left⟩ := ih after (stays valid answered)
      exact ⟨ended, trans owed done, left⟩

end Keeps

end EventFlow.Program
