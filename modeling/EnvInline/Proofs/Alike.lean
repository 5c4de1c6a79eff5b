import EnvInline.Proofs.Reading

/-!
# Computations that run alike

Two computations over a text run alike when they end in the same way wherever they are run: both
with the same fault, or both in the same state with results that are related. The rules of this
module follow the ways in which computations are put together, so that two readers of the grammar
which differ in a tree alone are compared step by step.

* `Alike.bind`, `Alike.step`, `Alike.ite` — sequences and conditions;
* `Alike.forIn`, `Alike.attempt`, `Alike.withContext` — loops, attempts, other rules;
* `SameEnd.step`, `SameEnd.bind` — the same from two states that may differ.
-/

namespace EnvInline.Syntax

variable {α β γ δ : Type} {R : α → β → Prop} {Q : γ → δ → Prop}

/-- Both fail in the same way, or both give something in the same state, and what they give is
related. -/
inductive SameEnd (R : α → β → Prop) :
    EStateM.Result Fault State α → EStateM.Result Fault State β → Prop where
  | ok {a : α} {b : β} (h : R a b) (s : State) : SameEnd R (.ok a s) (.ok b s)
  | error (f : Fault) (s : State) : SameEnd R (.error f s) (.error f s)

/-- Two computations end in the same way, wherever they are run. -/
def Alike (R : α → β → Prop) (x : P α) (y : P β) : Prop :=
  ∀ env s, SameEnd R (x env s) (y env s)

/-! ## From two states -/

section SameEnd

variable {env : Surroundings} {s s' s₁ s₁' : State} {f : γ → P α} {g : δ → P β}

/-- Steps that are known lead on to the rest. -/
theorem SameEnd.step {x : P γ} {y : P δ} {a : γ} {b : δ} (hx : x env s = .ok a s₁)
    (hy : y env s' = .ok b s₁') (h : SameEnd R (f a env s₁) (g b env s₁')) :
    SameEnd R ((x >>= f) env s) ((y >>= g) env s') := by
  rw [run_bind_of_ok hx, run_bind_of_ok hy]
  exact h

theorem SameEnd.bind {x : P γ} {y : P δ} (h : SameEnd Q (x env s) (y env s'))
    (hf : ∀ a b, Q a b → Alike R (f a) (g b)) :
    SameEnd R ((x >>= f) env s) ((y >>= g) env s') := by
  rw [run_bind, run_bind]
  generalize x env s = left, y env s' = right at h ⊢
  cases h with
  | ok hab s => exact hf _ _ hab env s
  | error f s => exact .error f s

end SameEnd

/-! ## From any state -/

theorem Alike.pure {a : α} {b : β} (h : R a b) : Alike R (pure a) (pure b) :=
  fun _ s => .ok h s

theorem Alike.same (x : P α) : Alike Eq x x := by
  intro env s
  cases x env s with
  | ok a s' => exact .ok rfl s'
  | error f s' => exact .error f s'

theorem Alike.bind {x : P γ} {y : P δ} (h : Alike Q x y) {f : γ → P α} {g : δ → P β}
    (hf : ∀ a b, Q a b → Alike R (f a) (g b)) : Alike R (x >>= f) (y >>= g) :=
  fun env s => (h env s).bind hf

theorem Alike.step (x : P γ) {f : γ → P α} {g : γ → P β} (h : ∀ a, Alike R (f a) (g a)) :
    Alike R (x >>= f) (x >>= g) :=
  (Alike.same x).bind fun a _ hab => hab ▸ h a

theorem Alike.ite {c : Prop} [Decidable c] {x x' : P α} {y y' : P β} (h : Alike R x y)
    (h' : Alike R x' y') : Alike R (if c then x else x') (if c then y else y') := by
  split
  · exact h
  · exact h'

/-- Conditions that agree take the same way. -/
theorem Alike.iteEq {c c' : Bool} (hc : c = c') {x x' : P α} {y y' : P β} (h : Alike R x y)
    (h' : Alike R x' y') : Alike R (if c then x else x') (if c' then y else y') := by
  subst hc
  exact .ite h h'

theorem Alike.withContext {x : P α} {y : P β} (f : Context → Context) (h : Alike R x y) :
    Alike R (withContext f x) (withContext f y) :=
  .step _ fun _ => .step _ fun _ => h.bind fun _ _ hab => .step _ fun _ => .pure hab

theorem Alike.attempt {x : P (Option α)} {y : P (Option β)} (h : Alike (Option.Rel R) x y) :
    Alike (Option.Rel R) (attempt x) (attempt y) := by
  intro env s
  have hend := h env { s with context := { s.context with ignoreFaults := true } }
  unfold Syntax.attempt
  dsimp only at hend ⊢
  generalize x env _ = left, y env _ = right at hend ⊢
  cases hend with
  | ok hab s' =>
    cases hab with
    | some hab => exact .ok (.some hab) _
    | none => exact .ok Option.Rel.none _
  | error f s' => exact .ok Option.Rel.none _

/-- Both loops go on or both end, with what is related. -/
def SameTurn (R : α → β → Prop) : ForInStep α → ForInStep β → Prop
  | .done a, .done b => R a b
  | .yield a, .yield b => R a b
  | _, _ => False

/-- Loops whose turns are alike are alike. The induction is on the turns that are left. -/
theorem Alike.forIn {n : Turns} {f : Unit → α → P (ForInStep α)} {g : Unit → β → P (ForInStep β)}
    (h : ∀ a b, R a b → Alike (SameTurn R) (f () a) (g () b)) {a : α} {b : β} (hab : R a b) :
    Alike R (forIn n a f) (forIn n b g) := by
  obtain ⟨n⟩ := n
  change Alike R (Turns.run _ n a) (Turns.run _ n b)
  induction n generalizing a b with
  | zero => exact .pure hab
  | succ n ih =>
    refine (h a b hab).bind fun a b hab => ?_
    cases a with
    | done a =>
      cases b with
      | done b => exact .pure hab
      | yield b => exact hab.elim
    | yield a =>
      cases b with
      | done b => exact hab.elim
      | yield b => exact ih hab

end EnvInline.Syntax
