import EnvInline.Syntax.Token.Next

/-!
# Running computations over a text

What the small steps of reading do to a state, one equation for each. A computation that does not
fail is run by rewriting with them; one that is known to give something is taken apart by
`bind_eq_ok` and `pure_eq_ok`. Where only the characters ahead matter the state is written
`s.moved rest pos`.
-/

namespace EnvInline.Syntax

/-- The state with this text ahead of it, at this place. -/
def State.moved (s : State) (rest : List Char) (pos : Nat) : State :=
  { s with rest := rest, pos := pos }

section Run

variable {α β : Type} (env : Surroundings) (s : State)

@[simp] theorem moved_rest (r : List Char) (p : Nat) : (s.moved r p).rest = r := rfl

@[simp] theorem moved_pos (r : List Char) (p : Nat) : (s.moved r p).pos = p := rfl

/-! ## Sequences -/

@[simp] theorem run_pure (a : α) : (pure a : P α) env s = .ok a s := rfl

@[simp] theorem run_bind (x : P α) (f : α → P β) :
    (x >>= f) env s =
      match x env s with
      | .ok a s' => f a env s'
      | .error e s' => .error e s' := by
  change EStateM.bind (x env) (fun a => f a env) s = _
  unfold EStateM.bind
  cases x env s <;> rfl

@[simp] theorem run_map (x : P α) (f : α → β) :
    (f <$> x) env s =
      match x env s with
      | .ok a s' => .ok (f a) s'
      | .error e s' => .error e s' := by
  change EStateM.map f (x env) s = _
  unfold EStateM.map
  cases x env s <;> rfl

@[simp] theorem run_ite (c : Prop) [Decidable c] (x y : P α) :
    (if c then x else y) env s = if c then x env s else y env s := by
  split <;> rfl

@[simp] theorem run_tryCatch {α : Type} (x : P α) (f : Fault → P α) :
    tryCatch x f env s =
      match x env s with
      | .ok a s' => .ok a s'
      | .error e s' => f e env s' := by
  change EStateM.tryCatch (x env) (fun e => f e env) s = _
  unfold EStateM.tryCatch
  cases x env s <;> rfl

variable {env s} {s' : State}

/-- A step that is known leads on to the rest. -/
theorem run_bind_of_ok {x : P α} {f : α → P β} {a : α} (h : x env s = .ok a s') :
    (x >>= f) env s = f a env s' := by
  rw [run_bind, h]

/-- A sequence of two computations gives something only if both do. -/
theorem bind_eq_ok {x : P α} {f : α → P β} {b : β} (h : (x >>= f) env s = .ok b s') :
    ∃ a s₁, x env s = .ok a s₁ ∧ f a env s₁ = .ok b s' := by
  rw [run_bind] at h
  split at h
  · next a s₁ hx => exact ⟨a, s₁, hx, h⟩
  · cases h

theorem pure_eq_ok {a b : α} (h : (pure a : P α) env s = .ok b s') : b = a := by
  cases h
  rfl

variable (env s)

/-! ## Loops -/

theorem run_turns_yield {body : β → P (ForInStep β)} {b b' : β} {s s' : State} (n : Nat)
    (h : body b env s = .ok (.yield b') s') :
    Turns.run body (n + 1) b env s = Turns.run body n b' env s' := by
  rw [Turns.run, run_bind, h]

theorem run_turns_done {body : β → P (ForInStep β)} {b b' : β} {s s' : State} (n : Nat)
    (h : body b env s = .ok (.done b') s') : Turns.run body (n + 1) b env s = .ok b' s' := by
  rw [Turns.run, run_bind, h]
  rfl

theorem run_forIn_succ (n : Nat) (b : β) (f : Unit → β → P (ForInStep β)) :
    forIn (Turns.mk (n + 1)) b f env s =
      match f () b env s with
      | .ok (.done b') s' => .ok b' s'
      | .ok (.yield b') s' => forIn (Turns.mk n) b' f env s'
      | .error e s' => .error e s' := by
  change Turns.run (f ()) (n + 1) b env s = _
  rw [Turns.run, run_bind]
  cases f () b env s with
  | error e s' => rfl
  | ok step s' => cases step <;> rfl

/-! ## Steps -/

@[simp] theorem run_get : (get : P State) env s = .ok s s := rfl

@[simp] theorem run_modify (f : State → State) : (modify f : P Unit) env s = .ok () (f s) := rfl

@[simp] theorem run_failAt (place : Nat) (cause : SyntaxError) :
    (failAt place cause : P α) env s = .error ⟨place, cause⟩ s := rfl

@[simp] theorem run_turns : turns env s = .ok ⟨env.turns⟩ s := rfl

@[simp] theorem run_context : context env s = .ok s.context s := rfl

@[simp] theorem run_hasMarkup : hasMarkup env s = .ok env.dialect.markup s := rfl

@[simp] theorem run_char? : char? env s = .ok s.rest.head? s := rfl

@[simp] theorem run_secondChar? : secondChar? env s = .ok s.rest[1]? s := rfl

@[simp] theorem run_place : place env s = .ok s.pos s := rfl

@[simp] theorem run_nextIs (c : Char) : nextIs c env s = .ok (s.rest.head? == some c) s := rfl

@[simp] theorem run_nextAre (word : String) :
    nextAre word env s = .ok (word.toList.isPrefixOf s.rest) s := rfl

@[simp] theorem run_takeChars (p : Char → Bool) (r : List Char) (pos : Nat) :
    takeChars p env (s.moved r pos) =
      .ok (r.takeWhile p) (s.moved (r.dropWhile p) (pos + byteLength (r.takeWhile p))) := rfl

@[simp] theorem run_skipChar (c : Char) (r : List Char) (pos : Nat) :
    skipChar env (s.moved (c :: r) pos) = .ok () (s.moved r (pos + c.utf8Size)) := rfl

@[simp] theorem run_skipChars_succ (n : Nat) (c : Char) (r : List Char) (pos : Nat) :
    skipChars (n + 1) env (s.moved (c :: r) pos) =
      skipChars n env (s.moved r (pos + c.utf8Size)) := by
  simp [skipChars]

@[simp] theorem run_textSince (start : Nat) :
    textSince start env s = .ok (String.ofList (textBetween start s.pos env.text)) s := rfl

end Run

/-! ## Lengths -/

@[simp] theorem byteLength_nil : byteLength [] = 0 := rfl

theorem byteLength_cons (c : Char) (cs : List Char) :
    byteLength (c :: cs) = c.utf8Size + byteLength cs := by
  have h : ∀ n, cs.foldl (fun n c => n + c.utf8Size) n = n + byteLength cs := by
    unfold byteLength
    induction cs with
    | nil => simp
    | cons d cs ih =>
      intro n
      rw [List.foldl_cons, ih, List.foldl_cons, ih (0 + _), Nat.zero_add, Nat.add_assoc]
  rw [byteLength, List.foldl_cons, h, Nat.zero_add]

theorem byteLength_append (cs ds : List Char) :
    byteLength (cs ++ ds) = byteLength cs + byteLength ds := by
  induction cs with
  | nil => simp
  | cons c cs ih => rw [List.cons_append, byteLength_cons, byteLength_cons, ih, Nat.add_assoc]

end EnvInline.Syntax
