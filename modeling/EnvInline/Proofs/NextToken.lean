import EnvInline.Proofs.Reading

/-!
# The next token

In code, that is outside of templates, tags and regular expressions (`Calm`), the next token is the
one that the text opens with behind the space before it: `nextLexeme_of_text`. Reading it changes
nothing about how the tokens after it are read, unless it opens or closes something
(`KeepsFrames`).
-/

namespace EnvInline.Syntax

variable (env : Surroundings) (s : State)

/-- Tokens are read in the usual way: not inside of a template, of a tag or between tags. -/
structure Calm (s : State) : Prop where
  regexAt : s.regexAt = none
  template : s.frames.head? ≠ some .template
  element : s.frames.head? ≠ some .element
  openingTag : s.frames.head? ≠ some .openingTag
  closingTag : s.frames.head? ≠ some .closingTag

/-- Tokens are read in the same way in two states, and nothing more is wrong with the text. -/
structure SameWay (s s' : State) : Prop where
  frames : s'.frames = s.frames
  regexAt : s'.regexAt = s.regexAt
  faults : s'.faults = s.faults

theorem SameWay.moved (r : List Char) (p : Nat) : SameWay s (s.moved r p) := ⟨rfl, rfl, rfl⟩

variable {s} in
theorem SameWay.calm {s' : State} (h : SameWay s s') (hs : Calm s) : Calm s' where
  regexAt := h.regexAt.trans hs.regexAt
  template := h.frames ▸ hs.template
  element := h.frames ▸ hs.element
  openingTag := h.frames ▸ hs.openingTag
  closingTag := h.frames ▸ hs.closingTag

theorem SameWay.trans {s₁ s₂ s₃ : State} (h : SameWay s₁ s₂) (h' : SameWay s₂ s₃) :
    SameWay s₁ s₃ where
  frames := h'.frames.trans h.frames
  regexAt := h'.regexAt.trans h.regexAt
  faults := h'.faults.trans h.faults

theorem calm_initial (text : List Char) (context : Context) : Calm (.initial text context) where
  regexAt := rfl
  template := by simp [State.initial]
  element := by simp [State.initial]
  openingTag := by simp [State.initial]
  closingTag := by simp [State.initial]

/-! ## The space before a token -/

/-- Characters between tokens. -/
def isBetween (c : Char) : Bool := isSpace c || isLineEnd c

theorem run_skipBlanks {between : List Char} (hbetween : ∀ c ∈ between, isBetween c = true)
    {c : Char} (hc : isBetween c = false) (r : List Char) (p : Nat) :
    ∃ s₁, SameWay s s₁ ∧ skipBlanks env (s.moved (between ++ c :: r) p) =
      .ok () (s₁.moved (c :: r) (p + byteLength between)) := by
  have htake : (between ++ c :: r).takeWhile isBetween = between := by
    simp [List.takeWhile_append_of_pos hbetween, hc]
  have hdrop : (between ++ c :: r).dropWhile isBetween = c :: r := by
    simp [List.dropWhile_append_of_pos hbetween, hc]
  change ∃ s₁, SameWay s s₁ ∧ (do
    let taken ← takeChars isBetween
    if taken.any isLineEnd then
      modify fun s => { s with afterBreak := true } : P Unit)
      env (s.moved (between ++ c :: r) p) = _
  simp only [run_bind, run_takeChars, htake, hdrop, run_ite]
  split
  · exact ⟨{ s with afterBreak := true }, ⟨rfl, rfl, rfl⟩, rfl⟩
  · exact ⟨s, ⟨rfl, rfl, rfl⟩, rfl⟩

theorem run_skipSpace (hturns : 0 < env.turns) {between : List Char}
    (hbetween : ∀ c ∈ between, isBetween c = true) {c : Char} (hc : isBetween c = false)
    (hslash : c ≠ '/') (r : List Char) (p : Nat) :
    ∃ s₁, SameWay s s₁ ∧ skipSpace env (s.moved (between ++ c :: r) p) =
      .ok () (s₁.moved (c :: r) (p + byteLength between)) := by
  obtain ⟨n, hn⟩ : ∃ n, env.turns = n + 1 := ⟨env.turns - 1, by omega⟩
  obtain ⟨s₁, hsame, hrun⟩ := run_skipBlanks env s hbetween hc r p
  refine ⟨s₁, hsame, ?_⟩
  unfold skipSpace
  simp [hn, run_forIn_succ, hrun, hslash.symm]

/-! ## Where a token starts -/

/-- A token can open with the character, but no comment, first line or tag. -/
def opensToken (c : Char) : Bool := !isBetween c && c != '/' && c != '#' && c != '<'

/-- Reads a token behind the space before it. -/
def tokenStart (frames : List Frame) : P (Option Token) := do
  let start ← place
  modify fun s => { s with start := start }
  if (← char?).isNone then return none
  let c ← context
  if (← hasMarkup) && !c.inPropertyName && !c.inType then markupToken
  else if frames.head? == some .template then return some (← templateToken)
  else plainToken

theorem Calm.keepsSpace {s : State} (hs : Calm s) :
    s.frames.head?.any Frame.keepsSpace = false := by
  have htemplate := hs.template
  have helement := hs.element
  cases hframe : s.frames.head? with
  | none => rfl
  | some f => cases f <;> simp_all [Frame.keepsSpace]

variable {s}

/-- Where no regular expression and no first line is read, the space before the token is. -/
theorem tokenHere_eq (hs : Calm s) (hshebang : "#!".toList.isPrefixOf s.rest = false) :
    tokenHere env s = (skipSpace >>= fun _ => tokenStart s.frames) env
      { s with afterBreak := s.isFirst, isFirst := false } := by
  unfold tokenHere
  conv =>
    lhs
    simp only [run_bind, run_get, hs.regexAt, hs.keepsSpace]
  by_cases hfirst : s.isFirst = true
  · have hnone : shebang? env s = .ok none s := by
      simp only [shebang?, run_bind, run_nextAre, hshebang]
      rfl
    rw [if_pos hfirst, run_bind, hnone]
    rfl
  · rw [if_neg hfirst]
    rfl

/-- Elements change nothing about a token that stands outside of them. -/
theorem markupToken_eq (hs : Calm s) {c : Char} (hc : s.rest.head? = some c)
    (hangle : c ≠ '<') : markupToken env s = plainToken env s := by
  have htag : tagToken? s.frames.head? env s = .ok none s := by
    simp [tagToken?, hs.openingTag, hs.closingTag]
  unfold markupToken
  simp [hs.element, hs.template, htag, hc, hangle]

theorem tokenStart_eq {frames : List Frame} (hs : Calm s) (hframes : s.frames = frames) {c : Char}
    (hc : s.rest.head? = some c) (hangle : c ≠ '<') :
    tokenStart frames env s = plainToken env { s with start := s.pos } := by
  have hcalm : Calm { s with start := s.pos } := SameWay.calm (s := s) ⟨rfl, rfl, rfl⟩ hs
  have hmarkup := markupToken_eq env hcalm hc hangle
  subst hframes
  unfold tokenStart
  simp [hc, hmarkup, hs.template]

variable (s)

theorem run_tokenHere (hs : Calm s) (hturns : 0 < env.turns) {between : List Char}
    (hbetween : ∀ c ∈ between, isBetween c = true) {c : Char} (hc : opensToken c = true)
    (r : List Char) (p : Nat) :
    ∃ s₁, SameWay s s₁ ∧ tokenHere env (s.moved (between ++ c :: r) p) =
      plainToken env (s₁.moved (c :: r) (p + byteLength between)) := by
  simp only [opensToken, Bool.and_eq_true, Bool.not_eq_true', bne_iff_ne] at hc
  obtain ⟨⟨⟨hc, hslash⟩, hshebang⟩, hangle⟩ := hc
  have hprefix : "#!".toList.isPrefixOf (between ++ c :: r) = false := by
    have hhash : isBetween '#' = false := by decide
    cases between with
    | nil => simp [List.isPrefixOf, hshebang.symm]
    | cons b between =>
      have hb : '#' ≠ b := by
        rintro rfl
        have := hbetween '#' (List.mem_cons_self ..)
        simp [hhash] at this
      simp [List.isPrefixOf, hb]
  have hmoved : Calm (s.moved (between ++ c :: r) p) := (SameWay.moved s _ _).calm hs
  obtain ⟨s₁, hsame, hrun⟩ := run_skipSpace env
    ({ s with afterBreak := s.isFirst, isFirst := false }) hturns hbetween hc hslash r p
  have hsame : SameWay s s₁ := ⟨hsame.frames, hsame.regexAt, hsame.faults⟩
  have hs₁ : Calm (s₁.moved (c :: r) (p + byteLength between)) :=
    (SameWay.moved s₁ _ _).calm (hsame.calm hs)
  refine ⟨{ s₁ with start := p + byteLength between },
    ⟨hsame.frames, hsame.regexAt, hsame.faults⟩, ?_⟩
  have hrun : skipSpace env { s.moved (between ++ c :: r) p with
      afterBreak := (s.moved (between ++ c :: r) p).isFirst, isFirst := false } =
      .ok () (s₁.moved (c :: r) (p + byteLength between)) := hrun
  rw [tokenHere_eq env hmoved hprefix, run_bind, hrun]
  exact tokenStart_eq env hs₁ hsame.frames rfl hangle

/-! ## The next token -/

/-- The token that a text opens with; text that is no token is one of its own kind. -/
def tokenOrFault : P (Option Token) := tryCatch plainToken fun f => return some (.fault f)

/-- A token that opens and closes nothing. -/
def KeepsFrames (t : Token) : Prop :=
  ∀ markup frames last afterBreak mayStart,
    (Frame.step markup frames last afterBreak mayStart t).1 = frames

/-- Behind the space before it, the token that stands there is read. -/
theorem tokenOrFault_of_text (hs : Calm s) (hturns : 0 < env.turns) {between : List Char}
    (hbetween : ∀ c ∈ between, isBetween c = true) {c : Char} (hc : opensToken c = true)
    (r : List Char) (p : Nat) :
    ∃ s₁, SameWay s s₁ ∧ (tryCatch tokenHere fun f => return some (.fault f)) env
        { s.moved (between ++ c :: r) p with start := p } =
      tokenOrFault env (s₁.moved (c :: r) (p + byteLength between)) := by
  have hs' : Calm { s with start := p } := SameWay.calm (s := s) ⟨rfl, rfl, rfl⟩ hs
  obtain ⟨s₁, hsame, hrun⟩ := run_tokenHere env _ hs' hturns hbetween hc r p
  refine ⟨s₁, ⟨hsame.frames, hsame.regexAt, hsame.faults⟩, ?_⟩
  rw [tokenOrFault, run_tryCatch, run_tryCatch, ← hrun]
  rfl

theorem nextLexeme_of_tokenHere {t : Token} {s₁ : State}
    (h : (tryCatch tokenHere fun f => return some (.fault f)) env { s with start := s.pos } =
      .ok (some t) s₁) :
    ∃ l s', nextLexeme env s = .ok (some l) s' ∧ l.token = t ∧
      s' = s'.moved s₁.rest s₁.pos ∧ (KeepsFrames t → SameWay s₁ s') := by
  unfold nextLexeme
  simp only [run_bind, run_modify, h, run_hasMarkup, run_get]
  exact ⟨_, _, rfl, rfl, rfl, fun hframes => ⟨hframes _ _ _ _ _, rfl, rfl⟩⟩

/-- The next token is the one that the text opens with behind the space before it. -/
theorem nextLexeme_of_text (hs : Calm s) (hturns : 0 < env.turns) {between : List Char}
    (hbetween : ∀ c ∈ between, isBetween c = true) {c : Char} (hc : opensToken c = true)
    {r rest : List Char} {p p' : Nat} {t : Token}
    (htoken : ∀ s₁ : State, tokenOrFault env (s₁.moved (c :: r) (p + byteLength between)) =
      .ok (some t) (s₁.moved rest p'))
    (hframes : KeepsFrames t) :
    ∃ l s', nextLexeme env (s.moved (between ++ c :: r) p) = .ok (some l) (s'.moved rest p') ∧
      l.token = t ∧ SameWay s s' := by
  obtain ⟨s₁, hsame, htry⟩ := tokenOrFault_of_text env s hs hturns hbetween hc r p
  obtain ⟨l, s', hlexeme, htoken, hmoved, hsame'⟩ :=
    nextLexeme_of_tokenHere env _ (htry.trans (htoken s₁))
  exact ⟨l, s', hlexeme.trans (congrArg _ hmoved), htoken,
    hsame.trans ((SameWay.moved s₁ rest p').trans (hsame' hframes))⟩

/-- Text that is no token becomes one of its own kind. -/
theorem nextLexeme_fault_of_text (hs : Calm s) (hturns : 0 < env.turns) {between : List Char}
    (hbetween : ∀ c ∈ between, isBetween c = true) {c : Char} (hc : opensToken c = true)
    {r : List Char} {p : Nat}
    (htoken : ∀ s₁ : State, ∃ f s₂,
      tokenOrFault env (s₁.moved (c :: r) (p + byteLength between)) = .ok (some (.fault f)) s₂) :
    ∃ f l s', nextLexeme env (s.moved (between ++ c :: r) p) = .ok (some l) s' ∧
      l.token = .fault f := by
  obtain ⟨s₁, -, htry⟩ := tokenOrFault_of_text env s hs hturns hbetween hc r p
  obtain ⟨f, s₂, hfault⟩ := htoken s₁
  obtain ⟨l, s', hlexeme, htoken, -⟩ := nextLexeme_of_tokenHere env _ (htry.trans hfault)
  exact ⟨f, l, s', hlexeme, htoken⟩

end EnvInline.Syntax
