import EnvInline.Layout.Print
import EnvInline.Literal
import EnvInline.Proofs.NextToken
import EnvInline.Proofs.QuotedText

/-!
# Literals as text

The value that an import stands for is written into the text of the file as a literal, without
parentheses around it. A string is read as one token, whatever stands behind it, unless an escape
that it spells is not closed. `void 0` is read as its two tokens unless what stands behind it runs
into the number: before a point the zero takes the point for its own, and a name behind that cannot
be read.

* `text_some`, `text_none`, `memberText_none` — what is written;
* `reads_string`, `reads_unreadable` — the token of a string;
* `reads_void_alone`, `reads_void_member` — the tokens of `void 0`, and of a member of it.
-/

namespace EnvInline.Syntax

open EnvInline.Layout

variable (env : Surroundings) (s : State)

/-! ## Words, numbers and strings -/

theorem plainToken_string (hturns : 0 < env.turns) {q : Char} (hq : q = '"' ∨ q = '\'')
    (r : List Char) (p : Nat) :
    plainToken env (s.moved (q :: r) p) = (some <$> stringToken q) env (s.moved (q :: r) p) := by
  obtain ⟨n, hn⟩ : ∃ n, env.turns = n + 1 := ⟨env.turns - 1, by omega⟩
  have hstart : Text.isIdentifierStart q = false := by rcases hq with rfl | rfl <;> decide
  have hdigit : ¬ ('0' ≤ q ∧ q ≤ '9') := by rcases hq with rfl | rfl <;> decide
  have hslash : q ≠ '\\' := by rcases hq with rfl | rfl <;> decide
  cases hrun : stringToken q env (s.moved (q :: r) p) <;>
    simp [plainToken, hn, run_forIn_succ, hstart, hslash, hq, hdigit, hrun]

theorem plainToken_word (hturns : 0 < env.turns) {c : Char} (hc : Text.isIdentifierStart c = true)
    (r : List Char) (p : Nat) :
    plainToken env (s.moved (c :: r) p) = (some <$> wordToken) env (s.moved (c :: r) p) := by
  obtain ⟨n, hn⟩ : ∃ n, env.turns = n + 1 := ⟨env.turns - 1, by omega⟩
  cases hrun : wordToken env (s.moved (c :: r) p) <;>
    simp [plainToken, hn, run_forIn_succ, hc, hrun]

theorem plainToken_zero (hturns : 0 < env.turns) (r : List Char) (p : Nat) :
    plainToken env (s.moved ('0' :: r) p) = (some <$> numberToken) env (s.moved ('0' :: r) p) := by
  obtain ⟨n, hn⟩ : ∃ n, env.turns = n + 1 := ⟨env.turns - 1, by omega⟩
  have hstart : Text.isIdentifierStart '0' = false := by decide
  cases hrun : numberToken env (s.moved ('0' :: r) p) <;>
    simp [plainToken, hn, run_forIn_succ, hstart, hrun]

/-! ## `void` and the zero behind it -/

theorem run_void (hturns : 0 < env.turns) (r : List Char) (p : Nat) :
    wordToken env (s.moved ("void".toList ++ ' ' :: r) p) =
      .ok (.keyword "void") (s.moved (' ' :: r) (p + 4)) := by
  obtain ⟨n, hn⟩ : ∃ n, env.turns = n + 1 := ⟨env.turns - 1, by omega⟩
  have htake : ("void".toList ++ ' ' :: r).takeWhile Text.isIdentifierPart = "void".toList := rfl
  have hdrop : ("void".toList ++ ' ' :: r).dropWhile Text.isIdentifierPart = ' ' :: r := rfl
  have hword : wordText env (s.moved ("void".toList ++ ' ' :: r) p) =
      .ok ("void".toList, false) (s.moved (' ' :: r) (p + 4)) := by
    unfold wordText
    simp only [run_bind, run_turns, hn, run_forIn_succ, run_takeChars, htake, hdrop]
    rfl
  unfold wordToken
  simp only [run_bind, run_place, run_nextIs, hword]
  rfl

/-- A number can end before the text. -/
def EndsNumber (rest : List Char) : Prop :=
  ∀ c, rest.head? = some c → c ≠ '.' ∧ c.isDigit = false ∧ Text.isIdentifierStart c = false

/-- A digit of a number, or what separates digits. -/
def isNumberPart (c : Char) : Bool := (digitValue? 10 c).isSome || c == '_'

theorem isNumberPart_eq_false {c : Char} (hdigit : c.isDigit = false) (hline : c ≠ '_') :
    isNumberPart c = false := by
  have hvalue : (digitValue? 10 c).isSome = false := by
    rw [← Bool.not_eq_true] at hdigit ⊢
    exact fun h => hdigit (isDigit_of_digitValue? (Nat.le_refl 10) h)
  simp [isNumberPart, hvalue, hline]

theorem isDigit_eq_false_of_start {c : Char} (h : Text.isIdentifierStart c = true) :
    c.isDigit = false := by
  rw [← Bool.not_eq_true]
  intro hdigit
  have hrange : 48 ≤ c.toNat ∧ c.toNat ≤ 57 := by
    simpa [Char.isDigit, UInt32.le_iff_toNat_le] using hdigit
  have halpha : c.isAlpha =
      (decide (65 ≤ c.val ∧ c.val ≤ 90) || 97 ≤ c.val && c.val ≤ 122) := rfl
  have hline : c ≠ '_' ∧ c ≠ '$' := by
    constructor <;> rintro rfl <;> revert hdigit <;> decide
  have hascii : c.toNat < 0x80 := by omega
  simp only [Text.isIdentifierStart, if_pos hascii, halpha, Bool.or_eq_true, Bool.and_eq_true,
    decide_eq_true_eq, beq_iff_eq, hline, or_false, UInt32.le_iff_toNat_le] at h
  change (65 ≤ c.toNat ∧ c.toNat ≤ 90) ∨ (97 ≤ c.toNat ∧ c.toNat ≤ 122) at h
  omega

theorem run_digitRun_nil {r : List Char} (hr : r.head?.any isNumberPart = false) (p : Nat) :
    digitRun 10 true env (s.moved r p) = .ok [] (s.moved r p) := by
  have htake : r.takeWhile (fun c => (digitValue? 10 c).isSome || (true && c == '_')) = [] :=
    takeWhile_of_head? hr
  unfold digitRun
  simp only [run_bind, run_place, run_get, moved_rest, htake]
  rfl

theorem run_digitRun_zero {r : List Char} (hr : r.head?.any isNumberPart = false) (p : Nat) :
    digitRun 10 true env (s.moved ('0' :: r) p) = .ok ['0'] (s.moved r (p + 1)) := by
  have hzero : isNumberPart '0' = true := rfl
  have htake : ('0' :: r).takeWhile (fun c => (digitValue? 10 c).isSome || (true && c == '_')) =
      ['0'] := (List.takeWhile_cons_of_pos hzero).trans (congrArg _ (takeWhile_of_head? hr))
  unfold digitRun
  simp only [run_bind, run_place, run_get, moved_rest, htake, List.forIn_cons, List.forIn_nil]
  rfl

theorem decimalNumber_zero {r : List Char} (hpart : r.head?.any isNumberPart = false)
    (hbig : r.head? ≠ some 'n') (p : Nat) :
    decimalNumber env (s.moved ('0' :: r) p) = decimalTail p ['0'] env (s.moved r (p + 1)) := by
  simp [decimalNumber, run_digitRun_zero, hpart, eatChar, hbig]

theorem numberToken_zero {r : List Char}
    (hr : ∀ c ∈ ['x', 'X', 'o', 'O', 'b', 'B'], r.head? ≠ some c) (p : Nat) :
    numberToken env (s.moved ('0' :: r) p) = decimalNumber env (s.moved ('0' :: r) p) := by
  simp only [List.mem_cons, List.not_mem_nil, or_false, forall_eq_or_imp, forall_eq,
    List.head?_eq_getElem?] at hr
  simp [numberToken, hr]

theorem decimalTail_end {r : List Char} (hpoint : r.head? ≠ some '.')
    (hr : r.head?.any Text.isIdentifierStart = false) (digits : List Char) (start p : Nat) :
    decimalTail start digits env (s.moved r p) =
      .ok (.number (Binary64.ofDecimal (digitsValue 10 digits) 0)
        (String.ofList (textBetween start p env.text))) (s.moved r p) := by
  have he : ∀ c ∈ ['e', 'E'], r.head? ≠ some c := by
    have hletters : ∀ c ∈ ['e', 'E'], Text.isIdentifierStart c = true :=
      List.all_eq_true.mp (by decide)
    intro c hc h
    simp [h, hletters c hc] at hr
  simp only [List.mem_cons, List.not_mem_nil, or_false, forall_eq_or_imp, forall_eq] at he
  cases r with
  | nil => simp [decimalTail, eatChar, endNumber]
  | cons c r =>
    have hc : Text.isIdentifierStart c = false := by simpa using hr
    simp only [List.head?_cons, ne_eq, Option.some.injEq] at hpoint he
    simp [decimalTail, eatChar, hpoint, he, endNumber, hc]

/-- The point is taken for that of a fraction, and then a name follows a number. -/
theorem decimalTail_point {c : Char} (hc : Text.isIdentifierStart c = true)
    (he : c ∉ ['e', 'E', '_']) (r digits : List Char) (start p : Nat) :
    decimalTail start digits env (s.moved ('.' :: c :: r) p) =
      .error ⟨p + 1, .nameAfterNumber⟩ (s.moved (c :: r) (p + 1)) := by
  simp only [List.mem_cons, List.not_mem_nil, or_false, not_or] at he
  have hnil := isNumberPart_eq_false (isDigit_eq_false_of_start hc) he.2.2
  have hsize : ('.').utf8Size = 1 := rfl
  simp [decimalTail, run_digitRun_nil, hnil, eatChar, endNumber, he.1, he.2.1, hc, hsize]

/-! ## What a text opens with -/

variable {env s}

theorem tokenOrFault_of_ok {x : P Token} {t : Token} {s' : State}
    (h : plainToken env s = (some <$> x) env s) (hx : x env s = .ok t s') :
    tokenOrFault env s = .ok (some t) s' := by
  simp only [tokenOrFault, run_tryCatch, h, run_map, hx]

theorem tokenOrFault_of_error {x : P Token} {f : Fault} {s' : State}
    (h : plainToken env s = (some <$> x) env s) (hx : x env s = .error f s') :
    tokenOrFault env s = .ok (some (.fault f)) s' := by
  simp only [tokenOrFault, run_tryCatch, h, run_map, hx, run_pure]

variable (env s)

/-- A string is a token of its own, whatever stands behind it. -/
theorem tokenOrFault_string {q : Char} (hq : q = '"' ∨ q = '\'') {v : List Char}
    (hread : isReadable v = true) (rest : List Char) (hturns : v.length < env.turns) (p : Nat) :
    ∃ w raw, (keepsHalf v = false → w = v) ∧ ∀ s : State,
      tokenOrFault env (s.moved (q :: (escapeAll q v ++ q :: rest)) p) =
        .ok (some (.string (String.ofList w) raw))
          (s.moved rest (p + byteLength (q :: escapeAll q v ++ [q]))) := by
  obtain ⟨w, hw, hrun⟩ := run_stringToken env hq hread rest hturns
  exact ⟨w, _, hw, fun s => tokenOrFault_of_ok
    (plainToken_string env s (Nat.zero_lt_of_lt hturns) hq _ p) (hrun s p)⟩

theorem tokenOrFault_unreadable {q : Char} (hq : q = '"' ∨ q = '\'') {v : List Char}
    (hread : isReadable v = false) (rest : List Char) (hturns : v.length < env.turns) (p : Nat) :
    ∃ f s', tokenOrFault env (s.moved (q :: (escapeAll q v ++ q :: rest)) p) =
      .ok (some (.fault f)) s' := by
  obtain ⟨f, s', hrun⟩ := run_stringToken_fault env hq hread rest hturns s p
  exact ⟨f, s', tokenOrFault_of_error
    (plainToken_string env s (Nat.zero_lt_of_lt hturns) hq _ p) hrun⟩

theorem tokenOrFault_void (hturns : 0 < env.turns) (r : List Char) (p : Nat) :
    tokenOrFault env (s.moved ('v' :: 'o' :: 'i' :: 'd' :: ' ' :: r) p) =
      .ok (some (.keyword "void")) (s.moved (' ' :: r) (p + 4)) :=
  tokenOrFault_of_ok (plainToken_word env s hturns (by decide) _ p) (run_void env s hturns r p)

/-- A zero is a number of its own unless the text behind it goes on with the number. -/
theorem tokenOrFault_zero (hturns : 0 < env.turns) {r : List Char} (hr : EndsNumber r) (p : Nat) :
    tokenOrFault env (s.moved ('0' :: r) p) =
      .ok (some (.number .zero (String.ofList (textBetween p (p + 1) env.text))))
        (s.moved r (p + 1)) := by
  have hstart : r.head?.any Text.isIdentifierStart = false := by
    cases r with
    | nil => rfl
    | cons c r => exact (hr c rfl).2.2
  have hletter : ∀ c, Text.isIdentifierStart c = true → r.head? ≠ some c := by
    rintro c hc hhead
    simp [hhead, hc] at hstart
  have hpart : r.head?.any isNumberPart = false := by
    cases r with
    | nil => rfl
    | cons c r =>
      have hline : c ≠ '_' := by
        rintro rfl
        exact hletter '_' (by decide) rfl
      exact isNumberPart_eq_false (hr c rfl).2.1 hline
  have hmarks : ∀ c ∈ ['x', 'X', 'o', 'O', 'b', 'B'], Text.isIdentifierStart c = true :=
    List.all_eq_true.mp (by decide)
  refine tokenOrFault_of_ok (plainToken_zero env s hturns r p) ?_
  rw [numberToken_zero env s fun c hc => hletter c (hmarks c hc),
    decimalNumber_zero env s hpart (hletter 'n' (by decide)),
    decimalTail_end env s (fun h => (hr _ h).1 rfl) hstart]
  rfl

/-- A zero takes a point behind it for its own, so a name behind the point is a fault. -/
theorem tokenOrFault_point (hturns : 0 < env.turns) {c : Char}
    (hc : Text.isIdentifierStart c = true) (he : c ∉ ['e', 'E', '_']) (r : List Char) (p : Nat) :
    tokenOrFault env (s.moved ('0' :: '.' :: c :: r) p) =
      .ok (some (.fault ⟨p + 2, .nameAfterNumber⟩)) (s.moved (c :: r) (p + 2)) := by
  refine tokenOrFault_of_error (plainToken_zero env s hturns _ p) ?_
  have hpoint : isNumberPart '.' = false := by decide
  rw [numberToken_zero env s (by simp), decimalNumber_zero env s (by simpa using hpoint) (by simp),
    decimalTail_point env s hc he]

end EnvInline.Syntax

namespace EnvInline.Literal

open EnvInline.Syntax EnvInline.Layout

/-! ## Writing a literal -/

/-- What a piece writes onto a line when there are no comments. -/
def ink : Piece → String
  | .text s => s
  | _ => ""

/-- The piece stays on its line. -/
def staysOnLine : Piece → Bool
  | .text _ | .leading _ | .trailing _ => true
  | _ => false

theorem write_text {p : Page} (hdepth : p.depth = 0) (s : String) :
    (p.write s).text = p.text ++ s := by
  unfold Page.write
  split
  · next h => simp [String.isEmpty_iff.mp h]
  · simp [Page.text, hdepth, Page.margin]

theorem text_foldl_step {pieces : List Piece} (hline : ∀ x ∈ pieces, staysOnLine x = true)
    {p : Page} (hdepth : p.depth = 0) (hcomments : p.comments = []) :
    (pieces.foldl Page.step p).text = p.text ++ String.join (pieces.map ink) := by
  induction pieces generalizing p with
  | nil => simp
  | cons x pieces ih =>
    have hstep : (p.step x).text = p.text ++ ink x ∧ (p.step x).depth = 0 ∧
        (p.step x).comments = [] := by
      have hx := hline x (List.mem_cons_self ..)
      cases x with
      | text s =>
        refine ⟨write_text hdepth s, ?_⟩
        simp only [Page.step, Page.write]
        split
        · exact ⟨hdepth, hcomments⟩
        · exact ⟨hdepth, hcomments⟩
      | leading place | trailing place =>
        simp [Page.step, Page.takeComments, hcomments, hdepth, ink, Page.text]
      | _ => simp [staysOnLine] at hx
    obtain ⟨htext, hdepth', hcomments'⟩ := hstep
    have htail : ∀ y ∈ pieces, staysOnLine y = true :=
      fun y hy => hline y (List.mem_cons_of_mem _ hy)
    rw [List.foldl_cons, ih htail hdepth' hcomments', htext]
    simp [String.append_assoc]

theorem print_eq_join {t : Syntax.Tree} {source : String} {pieces : List Piece}
    (hown : (layOut ⟨source.toList⟩ t).own = pieces)
    (hline : ∀ x ∈ pieces, staysOnLine x = true) :
    t.print source [] = String.join (pieces.map ink) := by
  rw [Syntax.Tree.print, Piece.render, hown, text_foldl_step hline rfl rfl]
  simp [Page.text, Page.blank]

/-- The text that is written for a value. -/
def text (value : Option String) : String := (ofValue? ⟨0, 0⟩ value).print "" []

/-- The text that is written for a member of a value. -/
def memberText (value : Option String) (name : String) : String :=
  (Syntax.Tree.node .member ⟨0, 0⟩
    [ofValue? ⟨0, 0⟩ value, .node (.name name) ⟨0, 0⟩ []]).print "" []

theorem text_some (value : String) : text (some value) = quoted value := by
  have hown : (layOut ⟨"".toList⟩ (ofValue? ⟨0, 0⟩ (some value))).own =
    [.leading 0, .text (quoted value)] := rfl
  rw [text, print_eq_join hown (by simp [staysOnLine])]
  simp [ink]

theorem text_none : text none = "void 0" := rfl

theorem memberText_none (name : String) : memberText none name = "void 0." ++ name := by
  have hown : (layOut ⟨"".toList⟩
      (.node .member ⟨0, 0⟩ [ofValue? ⟨0, 0⟩ none, .node (.name name) ⟨0, 0⟩ []])).own =
    [.leading 0, .leading 0, .text "void", .text " ", .leading 0, .text "0", .trailing 0,
      .trailing 0, .leading 0, .text ".", .leading 0, .text name] := rfl
  rw [memberText, print_eq_join hown (by simp [staysOnLine])]
  apply String.ext
  simp [ink]

/-! ## Reading a literal -/

/-- The next tokens are these, and then the state is `s'`. -/
def Reads (env : Surroundings) (s : State) : List Token → State → Prop
  | [], s' => s' = s
  | t :: ts, s' =>
    ∃ l s₁, nextLexeme env s = .ok (some l) s₁ ∧ l.token = t ∧ Reads env s₁ ts s'

variable (env : Surroundings) (s : State)

theorem quote_cases (value : List Char) : quoteFor value = '"' ∨ quoteFor value = '\'' := by
  unfold quoteFor
  split
  · exact .inr rfl
  · exact .inl rfl

theorem toList_quoted (value : String) : (quoted value).toList =
    quoteFor value.toList :: escapeAll (quoteFor value.toList) value.toList ++
      [quoteFor value.toList] := by
  simp [quoted]

theorem length_le_escapeAll (q : Char) (v : List Char) : v.length ≤ (escapeAll q v).length := by
  induction v with
  | nil => exact Nat.le_refl 0
  | cons c v ih =>
    have hpos : 0 < (escapeChar q c v).length := by
      fun_cases escapeChar q c v <;> simp
    rw [escapeAll, List.length_append, List.length_cons]
    omega

/-- A text has turns enough for the string that it spells. -/
theorem length_lt_of_text {value : String} {n : Nat} (h : (text (some value)).length < n) :
    value.toList.length < n := by
  have hle := length_le_escapeAll (quoteFor value.toList) value.toList
  rw [text_some, ← String.length_toList, toList_quoted] at h
  simp only [List.length_append, List.length_cons] at h
  omega

theorem opensToken_quoteFor (value : List Char) : opensToken (quoteFor value) = true := by
  rcases quote_cases value with h | h <;> rw [h] <;> decide

section

variable {between : List Char} (hbetween : ∀ c ∈ between, isBetween c = true)
include hbetween

/-- A string is read as one token. It is the string itself unless an escape of half a surrogate pair
is spelled in it. -/
theorem reads_string (hs : Calm s) {value : String}
    (hturns : (text (some value)).length < env.turns) (hread : isReadable value.toList = true)
    (rest : List Char) (p : Nat) :
    ∃ w raw s', (keepsHalf value.toList = false → w = value) ∧ SameWay s s' ∧
      Reads env (s.moved (between ++ (text (some value)).toList ++ rest) p) [.string w raw]
        (s'.moved rest (p + byteLength between + byteLength (text (some value)).toList)) := by
  have hlength := length_lt_of_text hturns
  obtain ⟨w, raw, hw, htoken⟩ := tokenOrFault_string env (quote_cases value.toList) hread rest
    hlength (p + byteLength between)
  obtain ⟨l, s', hlexeme, htoken, hsame⟩ := nextLexeme_of_text env s hs
    (Nat.zero_lt_of_lt hlength) hbetween (opensToken_quoteFor value.toList) htoken
    fun _ _ _ _ _ => rfl
  refine ⟨String.ofList w, raw, s', fun h => ?_, hsame, l, _, ?_, htoken, rfl⟩
  · rw [hw h, String.ofList_toList]
  · rw [text_some, toList_quoted, ← hlexeme]
    simp

/-- A string in which a brace is not closed is no token. -/
theorem reads_unreadable (hs : Calm s) {value : String}
    (hturns : (text (some value)).length < env.turns) (hread : isReadable value.toList = false)
    (rest : List Char) (p : Nat) :
    ∃ f s', Reads env (s.moved (between ++ (text (some value)).toList ++ rest) p) [.fault f]
      s' := by
  have hlength := length_lt_of_text hturns
  obtain ⟨f, l, s', hlexeme, htoken⟩ := nextLexeme_fault_of_text env s hs
    (Nat.zero_lt_of_lt hlength) hbetween (opensToken_quoteFor value.toList) (p := p)
    fun s₁ => tokenOrFault_unreadable env s₁ (quote_cases value.toList) hread rest hlength _
  refine ⟨f, s', l, s', ?_, htoken, rfl⟩
  rw [text_some, toList_quoted, ← hlexeme]
  simp

theorem lexeme_void (hs : Calm s) (hturns : 0 < env.turns) (r : List Char) (p : Nat) :
    ∃ l s', nextLexeme env (s.moved (between ++ 'v' :: 'o' :: 'i' :: 'd' :: ' ' :: r) p) =
        .ok (some l) (s'.moved (' ' :: r) (p + byteLength between + 4)) ∧
      l.token = .keyword "void" ∧ SameWay s s' := by
  refine nextLexeme_of_text env s hs hturns hbetween (by decide)
    (fun s₁ => tokenOrFault_void env s₁ hturns r _) ?_
  intro _ _ _ _ _
  simp only [Frame.step]
  split <;> rfl

/-- `void 0` is read as its first word and the token that the zero opens. -/
theorem reads_void (hs : Calm s) (hturns : 0 < env.turns) {r rest : List Char} {p p' : Nat}
    {t : Token} (hframes : KeepsFrames t)
    (htoken : ∀ s₁ : State, tokenOrFault env (s₁.moved ('0' :: r) (p + byteLength between + 5)) =
      .ok (some t) (s₁.moved rest p')) :
    ∃ s', SameWay s s' ∧ Reads env (s.moved (between ++ "void 0".toList ++ r) p)
      [.keyword "void", t] (s'.moved rest p') := by
  obtain ⟨l, s₁, hvoid, hkeyword, hsame⟩ := lexeme_void env s hbetween hs hturns ('0' :: r) p
  have hblank : ∀ c ∈ [' '], isBetween c = true := List.all_eq_true.mp (by decide)
  obtain ⟨l', s', hzero, hnext, hsame'⟩ := nextLexeme_of_text env s₁ (hsame.calm hs) hturns hblank
    (by decide) htoken hframes
  have htext : between ++ 'v' :: 'o' :: 'i' :: 'd' :: ' ' :: '0' :: r =
      between ++ "void 0".toList ++ r := by simp
  rw [htext] at hvoid
  exact ⟨s', hsame.trans hsame', l, _, hvoid, hkeyword, l', _, hzero, hnext, rfl⟩

/-- `void 0` alone is read as its two tokens. -/
theorem reads_void_alone (hs : Calm s) (hturns : 0 < env.turns) {rest : List Char}
    (hrest : EndsNumber rest) (p : Nat) :
    ∃ raw s', SameWay s s' ∧
      Reads env (s.moved (between ++ (text none).toList ++ rest) p)
        [.keyword "void", .number .zero raw]
        (s'.moved rest (p + byteLength between + byteLength (text none).toList)) := by
  rw [text_none]
  obtain ⟨s', hsame, hreads⟩ := reads_void env s hbetween hs hturns (fun _ _ _ _ _ => rfl)
    fun s₁ => tokenOrFault_zero env s₁ hturns hrest (p + byteLength between + 5)
  exact ⟨_, s', hsame, hreads⟩

/-- Where a member of `void 0` is taken, the token behind `void` is a fault. -/
theorem reads_void_member (hs : Calm s) (hturns : 0 < env.turns) {name : String} {c : Char}
    {r : List Char} (hname : name.toList = c :: r) (hc : Text.isIdentifierStart c = true)
    (he : c ∉ ['e', 'E', '_']) (rest : List Char) (p : Nat) :
    ∃ s', SameWay s s' ∧
      Reads env (s.moved (between ++ (memberText none name).toList ++ rest) p)
        [.keyword "void", .fault ⟨p + byteLength between + 7, .nameAfterNumber⟩]
        (s'.moved (name.toList ++ rest) (p + byteLength between + 7)) := by
  obtain ⟨s', hsame, hreads⟩ := reads_void env s hbetween hs hturns (fun _ _ _ _ _ => rfl)
    fun s₁ => tokenOrFault_point env s₁ hturns hc he (r ++ rest) (p + byteLength between + 5)
  have htext : between ++ "void 0".toList ++ '.' :: c :: (r ++ rest) =
      between ++ (memberText none name).toList ++ rest := by
    simp [memberText_none, hname]
  rw [htext] at hreads
  rw [hname]
  exact ⟨s', hsame, hreads⟩

end

end EnvInline.Literal
