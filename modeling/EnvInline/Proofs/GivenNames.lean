import Mathlib.Data.List.Basic
import EnvInline.Command.Reader
import EnvInline.Proofs.Fallible

/-!
# Names given on a command line

What becomes of the values of a setting that may be given more than once. They are compared with
the text of the command line itself (`namesIn`).

* `argument_step` — each argument that is read moves its value from the text to the reading;
* `arguments_atCommand`, `arguments_atEnd` — so a level is read as its text says;
* `lists_of_read` — the values of both levels count if only one of the levels has any; otherwise
  those before the command are lost (`blocked_name_lost`).
-/

namespace EnvInline

/-- The list that a setting stands for. -/
def Options.listOf (o : Options) : Command.Setting → Option (List String)
  | .allow => o.allowlist
  | .block => o.blocklist
  | _ => none

namespace Command

/-- The value that is attached to the name of a setting, as in `--allow=NAME`. -/
def attached? (s : Setting) (arg : String) : Option String :=
  (("--" ++ s.long ++ "=").toList.isPrefixOf? arg.toList).map String.ofList

/-- The name of a setting with a value attached to it, if there is one. -/
def spelled (s : Setting) (value? : Option String) : List Char :=
  s.long.toList ++
    match value? with
    | some value => '=' :: value.toList
    | none => []

/-- The values of a setting in the text of some arguments, up to a `--`; `isWanted` tells whether
its bare name stands before them. -/
def occurrences (s : Setting) : Bool → List String → List String
  | _, [] => []
  | true, value :: args => value :: occurrences s false args
  | false, arg :: args =>
    if arg = "--" then []
    else if arg = "--" ++ s.long then occurrences s true args
    else (attached? s arg).toList ++ occurrences s false args

/-- The values that some arguments give for a setting, in order of appearance. -/
def namesIn (s : Setting) (args : List String) : List String := occurrences s false args

/-! ## The text of an argument -/

section Text

variable {s t : Setting} {arg : String} {text : List Char}

theorem long_injective (h : s.long = t.long) : s = t := by
  revert h
  cases s <;> cases t <;> simp [Setting.long]

theorem equals_notMem_long (s : Setting) : '=' ∉ s.long.toList := by
  cases s <;> decide

/-- The name of a setting is what stands before the first `=`. -/
theorem takeWhile_spelled (s : Setting) (value? : Option String) :
    (spelled s value?).takeWhile (· != '=') = s.long.toList := by
  have hname : ∀ c ∈ s.long.toList, (c != '=') = true := by
    intro c hc
    rw [bne_iff_ne]
    rintro rfl
    exact equals_notMem_long s hc
  unfold spelled
  rw [List.takeWhile_append_of_pos hname]
  cases value? <;> simp

theorem spelled_inj {value? value?' : Option String} :
    spelled t value? = spelled s value?' ↔ t = s ∧ value? = value?' := by
  constructor
  · intro h
    have hname := congrArg (List.takeWhile (· != '=')) h
    rw [takeWhile_spelled, takeWhile_spelled, String.toList_inj] at hname
    obtain rfl := long_injective hname
    refine ⟨rfl, ?_⟩
    have hrest := List.append_cancel_left h
    cases value? <;> cases value?' <;> simp_all [String.toList_inj]
  · rintro ⟨rfl, rfl⟩
    rfl

theorem attached?_eq_some_iff (harg : arg.toList = '-' :: '-' :: text) {value : String} :
    attached? s arg = some value ↔ text = spelled s (some value) := by
  have hdashes : ("--" ++ s.long ++ "=").toList = '-' :: '-' :: (s.long.toList ++ ['=']) := by
    simp
  rw [attached?, hdashes, harg, Option.map_eq_some_iff]
  simp only [List.isPrefixOf?_eq_some_iff_append_eq, spelled]
  constructor
  · rintro ⟨rest, hrest, rfl⟩
    rw [List.cons_append, List.cons_append, List.cons_inj_right, List.cons_inj_right] at hrest
    rw [← hrest, String.toList_ofList]
    simp
  · rintro rfl
    exact ⟨value.toList, by simp, String.ofList_toList⟩

/-- What an argument that spells a setting gives to this or another one. -/
theorem attached?_of_spelled {value? : Option String}
    (harg : arg.toList = '-' :: '-' :: spelled t value?) :
    attached? s arg = if t = s then value? else none := by
  ext value
  rw [attached?_eq_some_iff harg, spelled_inj]
  by_cases ht : t = s <;> simp [ht]

/-- An argument without two dashes in front gives nothing by a name. -/
theorem occurrences_plain (h : ¬ ['-', '-'] <+: arg.toList) (args : List String) :
    occurrences s false (arg :: args) = occurrences s false args := by
  have hdashes : ∀ rest : List Char, arg.toList ≠ '-' :: '-' :: rest := by
    intro rest heq
    exact h (heq ▸ ⟨rest, rfl⟩)
  have hend : arg ≠ "--" := fun heq => hdashes [] (by rw [heq]; rfl)
  have hbare : arg ≠ "--" ++ s.long := fun heq => hdashes s.long.toList (by simp [heq])
  have hattached : attached? s arg = none := by
    rw [attached?, Option.map_eq_none_iff, Option.eq_none_iff_forall_ne_some]
    intro rest hrest
    rw [List.isPrefixOf?_eq_some_iff_append_eq] at hrest
    exact hdashes (s.long.toList ++ '=' :: rest) (by simp [← hrest])
  rw [occurrences, if_neg hend, if_neg hbare, hattached, Option.toList_none, List.nil_append]

end Text

/-! ## One argument -/

namespace Reading

/-- The values that a reading has for a setting, with the one that is kept back. -/
def taken (r : Reading) (s : Setting) : List String :=
  r.values s ++
    match r.pending with
    | .value t (some text) => if t = s then [text] else []
    | _ => []

/-- The reading waits for a value of the setting. -/
def wants (r : Reading) (s : Setting) : Bool := r.wanting? == some s

/-- A step that gives the setting nothing. -/
structure Silent (s : Setting) (r r' : Reading) : Prop where
  before : r.wanting? = none
  taken : r'.taken s = r.taken s
  after : r'.wants s = false

variable {s t : Setting} {r r' : Reading} {level : Level}

theorem wants_of_none (h : r.wanting? = none) : r.wants s = false := by
  rw [wants, h]
  rfl

theorem accept_eq_ok {value : String} (h : r.accept t value = .ok r') :
    r' = { r with given := r.given ++ [(t, value)] } := by
  unfold accept at h
  split at h
  · cases h
  · split at h
    · cases h
    · exact (Except.ok.inj h).symm

theorem values_append (r : Reading) (s t : Setting) (value : String) :
    Reading.values { r with given := r.given ++ [(t, value)] } s =
      r.values s ++ if t = s then [value] else [] := by
  by_cases ht : t = s <;> simp [values, ht]

/-- What was kept back is taken, unless it is a setting without its value. -/
theorem settle_eq_ok (h : r.settle = .ok r') :
    r.wanting? = none ∧ r'.pending = .nothing ∧ r'.values s = r.taken s := by
  unfold settle at h
  split at h
  · next hpending =>
    obtain rfl := Except.ok.inj h
    simp [wanting?, taken, hpending]
  · cases h
  · next t text hpending =>
    obtain rfl := accept_eq_ok h
    refine ⟨by simp [wanting?, hpending], rfl, ?_⟩
    rw [values_append]
    simp only [taken, hpending]
    rfl
  · next names hpending =>
    split at h
    · cases h
    · obtain rfl := Except.ok.inj h
      simp [wanting?, taken, hpending, values]

theorem valued_eq_ok {attached? : Option String} (h : r.valued t attached? = .ok r') :
    r.wanting? = none ∧
      r'.taken s = r.taken s ++ (if t = s then attached?.toList else []) ∧
      (r'.wants s = true ↔ t = s ∧ attached? = none) := by
  obtain ⟨r₁, hsettle, h⟩ := Fallible.bind_eq_ok_iff.mp h
  obtain ⟨hwanting, hpending, hvalues⟩ := settle_eq_ok (s := s) hsettle
  refine ⟨hwanting, ?_⟩
  cases attached? with
  | none =>
    obtain rfl := Except.ok.inj h
    rw [← hvalues]
    simp [taken, values, wants, wanting?]
  | some text =>
    obtain rfl := accept_eq_ok h
    rw [← hvalues, taken, values_append]
    simp [wants, wanting?, hpending]

theorem valued_silent {attached? : Option String} (ht : t ≠ s)
    (h : r.valued t attached? = .ok r') : Silent s r r' := by
  obtain ⟨hwanting, htaken, hwants⟩ := valued_eq_ok (s := s) h
  refine ⟨hwanting, by simpa [ht] using htaken, ?_⟩
  rw [Bool.eq_false_iff]
  exact fun hafter => ht (hwants.mp hafter).1

theorem flag_silent (ht : t ≠ s) (h : r.flag t = .ok r') : Silent s r r' := by
  obtain ⟨r₁, hsettle, h⟩ := Fallible.bind_eq_ok_iff.mp h
  obtain ⟨hwanting, hpending, hvalues⟩ := settle_eq_ok (s := s) hsettle
  have haccept : r₁.accept t "" = .ok r' := by
    split at h
    · cases h
    · cases h
    · exact h
  obtain rfl := accept_eq_ok haccept
  refine ⟨hwanting, ?_, ?_⟩
  · rw [← hvalues, taken, values_append, if_neg ht]
    simp [hpending]
  · simp [wants, wanting?, hpending]

theorem file_silent {name : String} (h : r.file name = .ok r') : Silent s r r' := by
  unfold file at h
  split at h
  · next names hpending =>
    obtain rfl := Except.ok.inj h
    constructor <;> simp [wanting?, taken, values, wants, hpending]
  · obtain ⟨r₁, hsettle, h⟩ := Fallible.bind_eq_ok_iff.mp h
    obtain ⟨hwanting, hpending, hvalues⟩ := settle_eq_ok (s := s) hsettle
    obtain rfl := Except.ok.inj h
    refine ⟨hwanting, ?_, by simp [wants, wanting?]⟩
    rw [← hvalues]
    simp [taken, values]

theorem plain_silent {isTrailing : Bool} {arg : String}
    (h : r.plain level isTrailing arg = .ok r') : Silent s r r' := by
  cases level with
  | transform => exact file_silent h
  | resolve => cases h
  | deps => cases h
  | root =>
    simp only [plain] at h
    split at h <;> cases h

/-- A setting by its name is read with the value that is attached to it. -/
theorem longSetting_cases {text : List Char} (h : r.longSetting level text = .ok r') :
    ∃ t value?, text = spelled t value? ∧
      (t.takesValue = true ∧ r.valued t value? = .ok r' ∨
        t.takesValue = false ∧ value? = none ∧ r.flag t = .ok r') := by
  unfold longSetting at h
  simp only at h
  split at h
  · cases h
  · next t hfind =>
    have hname : text.takeWhile (· != '=') = t.long.toList := by
      have ht := List.find?_some hfind
      rw [beq_iff_eq] at ht
      rw [ht, String.toList_ofList]
    have hsplit := List.takeWhile_append_dropWhile (p := (· != '=')) (l := text)
    rw [hname] at hsplit
    cases hrest : text.dropWhile (· != '=') with
    | nil =>
      rw [hrest] at h hsplit
      refine ⟨t, none, hsplit.symm, ?_⟩
      cases htakes : t.takesValue with
      | true => exact .inl ⟨rfl, by simpa [htakes] using h⟩
      | false => exact .inr ⟨rfl, rfl, by simpa [htakes] using h⟩
    | cons c value =>
      obtain rfl : c = '=' := by
        have hhead := List.head?_dropWhile_not (· != '=') text
        simpa [hrest] using hhead
      rw [hrest] at h hsplit
      refine ⟨t, some (String.ofList value), by rw [← hsplit]; simp [spelled], ?_⟩
      cases htakes : t.takesValue with
      | true => exact .inl ⟨rfl, by simpa [htakes] using h⟩
      | false => simp [htakes] at h

/-- A setting by its name takes the value that is attached to it, or waits for one. -/
theorem longSetting_eq_ok (hs : s.takesValue = true) {arg : String} {text : List Char}
    (harg : arg.toList = '-' :: '-' :: text) (h : r.longSetting level text = .ok r') :
    r.wanting? = none ∧ r'.taken s = r.taken s ++ (attached? s arg).toList ∧
      (r'.wants s = true ↔ text = s.long.toList) := by
  obtain ⟨t, value?, rfl, hread⟩ := longSetting_cases h
  have hbare : spelled t value? = s.long.toList ↔ t = s ∧ value? = none := by
    rw [← spelled_inj]
    simp [spelled]
  rw [attached?_of_spelled harg, hbare]
  rcases hread with ⟨-, hvalued⟩ | ⟨hflag, rfl, hread⟩
  · obtain ⟨hwanting, htaken, hwants⟩ := valued_eq_ok (s := s) hvalued
    refine ⟨hwanting, ?_, hwants⟩
    rw [htaken]
    by_cases ht : t = s <;> simp [ht]
  · have ht : t ≠ s := by
      rintro rfl
      rw [hs] at hflag
      cases hflag
    have hsilent := flag_silent ht hread
    refine ⟨hsilent.before, ?_, ?_⟩
    · simp [hsilent.taken]
    · simp [hsilent.after, ht]

/-- A letter stands for a setting with a letter. -/
theorem shortSettings_cases (hs : s.short? = none) {c : Char} {cs : List Char}
    (h : r.shortSettings level (c :: cs) = .ok r') :
    ∃ t, t ≠ s ∧ ((∃ value?, r.valued t value? = .ok r') ∨
      ∃ r₁, r.flag t = .ok r₁ ∧ r₁.shortSettings level cs = .ok r') := by
  unfold shortSettings at h
  split at h
  · cases h
  · next t hfind =>
    have ht : t ≠ s := by
      rintro rfl
      have hletter := List.find?_some hfind
      simp [hs] at hletter
    refine ⟨t, ht, ?_⟩
    split at h
    · exact .inl ⟨_, h⟩
    · split at h
      · cases h
      · next r₁ hflag => exact .inr ⟨r₁, hflag, h⟩

/-- Settings by their letters give nothing to one without a letter. -/
theorem shortSettings_silent (hs : s.short? = none) {c : Char} {cs : List Char}
    (h : r.shortSettings level (c :: cs) = .ok r') : Silent s r r' := by
  induction cs generalizing r c with
  | nil =>
    obtain ⟨t, ht, ⟨value?, hvalued⟩ | ⟨r₁, hflag, hrest⟩⟩ := shortSettings_cases hs h
    · exact valued_silent ht hvalued
    · obtain rfl := Except.ok.inj hrest
      exact flag_silent ht hflag
  | cons c' cs ih =>
    obtain ⟨t, ht, ⟨value?, hvalued⟩ | ⟨r₁, hflag, hrest⟩⟩ := shortSettings_cases hs h
    · exact valued_silent ht hvalued
    · have hfirst := flag_silent ht hflag
      have hothers := ih hrest
      exact ⟨hfirst.before, hothers.taken.trans hfirst.taken, hothers.after⟩

end Reading

/-! ## All arguments -/

theorem Setting.takesValue_of_isRepeatable {s : Setting} (hs : s.isRepeatable = true) :
    s.takesValue = true := by
  cases s <;> first | rfl | cases hs

theorem Setting.short?_of_isRepeatable {s : Setting} (hs : s.isRepeatable = true) :
    s.short? = none := by
  cases s <;> first | rfl | cases hs

theorem level_of_name {name : String} {command : Level} (h : Level.ofName? name = some command) :
    name = command.name ∧ ¬ ['-', '-'] <+: name.toList := by
  have hname : command.name = name := by simpa using List.find?_some h
  subst hname
  refine ⟨rfl, ?_⟩
  cases command <;> decide

namespace Reading

section Arguments

variable {s : Setting} (hs : s.isRepeatable = true) {r r' : Reading} {level : Level}
include hs

/-- What an argument gives goes from the text to the reading, whatever stands behind it. -/
theorem argument_step {arg : String} (hend : arg ≠ "--") (h : r.argument level arg = .ok r')
    (args : List String) :
    r'.taken s ++ occurrences s (r'.wants s) args =
      r.taken s ++ occurrences s (r.wants s) (arg :: args) := by
  unfold argument at h
  split at h
  · next text harg =>
    -- a setting by its name
    obtain ⟨hwanting, htaken, hwants⟩ :=
      longSetting_eq_ok (Setting.takesValue_of_isRepeatable hs) harg h
    have hbare : arg = "--" ++ s.long ↔ r'.wants s = true := by
      rw [hwants, ← String.toList_inj, harg]
      simp
    rw [wants_of_none hwanting, occurrences, if_neg hend, htaken]
    by_cases hafter : r'.wants s = true
    · have hspelled : arg.toList = '-' :: '-' :: spelled s none := by
        rw [harg, hwants.mp hafter]
        simp [spelled]
      have hnone : attached? s arg = none := by
        rw [attached?_of_spelled hspelled, if_pos rfl]
      rw [if_pos (hbare.mpr hafter), hafter, hnone, Option.toList_none, List.append_nil]
    · rw [if_neg (hbare.not.mpr hafter), Bool.eq_false_iff.mpr hafter, List.append_assoc]
  · next c cs hdash harg =>
    -- settings by their letters
    have hsilent := shortSettings_silent (Setting.short?_of_isRepeatable hs) h
    have hplain : ¬ ['-', '-'] <+: arg.toList := by
      rintro ⟨text, htext⟩
      rw [harg] at htext
      exact hdash (List.cons.inj (List.cons.inj htext).2).1.symm
    rw [hsilent.taken, hsilent.after, wants_of_none hsilent.before, occurrences_plain hplain]
  · next hlong hshort =>
    have hplain : ¬ ['-', '-'] <+: arg.toList := by
      rintro ⟨text, htext⟩
      exact hlong text htext.symm
    split at h
    · next t hwanting =>
      -- the value that the reading waits for
      obtain rfl := Except.ok.inj h
      have hpending : r.pending = .value t none := by
        unfold wanting? at hwanting
        split at hwanting
        · next t' hpending =>
          obtain rfl := Option.some.inj hwanting
          exact hpending
        · cases hwanting
      have hafter : Reading.wants { r with pending := .value t (some arg) } s = false := rfl
      rw [hafter]
      by_cases ht : t = s
      · subst ht
        have hwants : r.wants t = true := by simp [wants, hwanting]
        rw [hwants, occurrences]
        simp [taken, values, hpending]
      · have hwants : r.wants s = false := by simp [wants, hwanting, ht]
        rw [hwants, occurrences_plain hplain]
        simp [taken, values, hpending, ht]
    · next hwanting =>
      have hsilent := plain_silent (s := s) h
      rw [hsilent.taken, hsilent.after, wants_of_none hsilent.before, occurrences_plain hplain]

omit hs in
theorem trailing_eq_ok {args : List String} (h : r.trailing level args = .ok r')
    (hend : r'.wanting? = none) : r.wanting? = none ∧ r'.taken s = r.taken s := by
  induction args generalizing r with
  | nil =>
    obtain rfl := Except.ok.inj h
    exact ⟨hend, rfl⟩
  | cons arg args ih =>
    obtain ⟨r₁, hplain, hrest⟩ := Fallible.bind_eq_ok_iff.mp h
    have hsilent := plain_silent (s := s) hplain
    exact ⟨hsilent.before, (ih hrest).2.trans hsilent.taken⟩

omit hs in
/-- Each argument ends the level, is read, or is the name of a command where one is expected. -/
theorem arguments_cases {arg : String} {args : List String} {stop : Stop}
    (h : r.arguments level (arg :: args) = .ok stop) :
    (arg = "--" ∧ ∃ r', r.trailing level args = .ok r' ∧ stop = .atEnd r') ∨
    (∃ command, Level.ofName? arg = some command ∧ r.wanting? = none ∧
      stop = .atCommand r command args) ∨
    (stop = .atHelp args) ∨
    arg ≠ "--" ∧ ∃ r', r.argument level arg = .ok r' ∧ r'.arguments level args = .ok stop := by
  unfold arguments at h
  split at h
  · next hend =>
    left
    refine ⟨by simpa using hend, ?_⟩
    cases htrailing : r.trailing level args with
    | error u => simp [htrailing, Except.map] at h
    | ok r' =>
      refine ⟨r', rfl, ?_⟩
      simpa [htrailing, Except.map, eq_comm] using h
  · next hend =>
    right
    split at h
    · next command hname =>
      left
      split at hname
      · next hfree =>
        refine ⟨command, hname, ?_, (Except.ok.inj h).symm⟩
        rw [Bool.and_eq_true, Option.isNone_iff_eq_none] at hfree
        exact hfree.2
      · cases hname
    · right
      split at h
      · left
        exact (Except.ok.inj h).symm
      · right
        refine ⟨by simpa using hend, ?_⟩
        split at h
        · cases h
        · next r' hargument => exact ⟨r', hargument, h⟩

/-- A level that is read to its end has the values that its text gives. -/
theorem arguments_atEnd {args : List String} (h : r.arguments level args = .ok (.atEnd r'))
    (hend : r'.wanting? = none) : r'.taken s = r.taken s ++ occurrences s (r.wants s) args := by
  induction args generalizing r with
  | nil =>
    obtain rfl : r = r' := Stop.atEnd.inj (Except.ok.inj h)
    rw [wants_of_none hend, occurrences, List.append_nil]
  | cons arg args ih =>
    rcases arguments_cases h with
      ⟨rfl, r₁, htrailing, hstop⟩ | ⟨command, -, -, hstop⟩ | hstop | ⟨harg, r₁, hargument, hrest⟩
    · obtain rfl := Stop.atEnd.inj hstop
      obtain ⟨hwanting, htaken⟩ := trailing_eq_ok (s := s) htrailing hend
      rw [htaken, wants_of_none hwanting, occurrences, if_pos rfl, List.append_nil]
    · cases hstop
    · cases hstop
    · rw [ih hrest, argument_step hs harg hargument]

omit hs in
/-- So has a level that ends at a command, and the text behind the command is not read. -/
theorem arguments_atCommand {args rest : List String} {command : Level}
    (h : r.arguments level args = .ok (.atCommand r' command rest)) :
    ∃ before, args = before ++ command.name :: rest ∧
      ∀ s : Setting, s.isRepeatable = true →
        r'.taken s = r.taken s ++ occurrences s (r.wants s) before ∧
        occurrences s (r.wants s) args = occurrences s (r.wants s) before ++ namesIn s rest := by
  induction args generalizing r with
  | nil => cases h
  | cons arg args ih =>
    rcases arguments_cases h with
      ⟨rfl, r₁, htrailing, hstop⟩ | ⟨command', hname, hwanting, hstop⟩ | hstop |
      ⟨harg, r₁, hargument, hrest⟩
    · cases hstop
    · obtain ⟨rfl, rfl, rfl⟩ := Stop.atCommand.inj hstop
      obtain ⟨rfl, hplain⟩ := level_of_name hname
      refine ⟨[], rfl, fun s _ => ⟨?_, ?_⟩⟩
      · rw [wants_of_none hwanting, occurrences, List.append_nil]
      · rw [wants_of_none hwanting, occurrences_plain hplain]
        rfl
    · cases hstop
    · obtain ⟨before, rfl, hbefore⟩ := ih hrest
      refine ⟨arg :: before, rfl, fun s hs => ?_⟩
      obtain ⟨htaken, hsplit⟩ := hbefore s hs
      have hstep := argument_step hs harg hargument
      refine ⟨by rw [htaken, hstep], ?_⟩
      have hall := hstep (before ++ command.name :: rest)
      rw [hsplit, ← List.append_assoc, hstep before, List.append_assoc] at hall
      exact (List.append_cancel_left hall).symm

omit hs in
theorem finish_eq_ok {configVariable? : Option String} (h : r.finish configVariable? = .ok r') :
    r.wanting? = none ∧ r'.values s = r.taken s := by
  obtain ⟨r₁, hsettle, h⟩ := Fallible.bind_eq_ok_iff.mp h
  obtain ⟨hwanting, -, hvalues⟩ := settle_eq_ok (s := s) hsettle
  split at h
  · cases h
  · obtain rfl := Except.ok.inj h
    exact ⟨hwanting, hvalues⟩

end Arguments

end Reading

/-- The names that an invocation has for a setting. -/
def Invocation.namesOf (i : Invocation) : Setting → List String
  | .allow => i.allow
  | .block => i.block
  | _ => []

/-- The names of an invocation are those behind the command, or else those before it. -/
theorem namesOf_read {configVariable? : Option String} {args : List String} {i : Invocation}
    (h : read configVariable? args = .ok i) :
    ∃ r before command behind,
      Reading.start.arguments .root args = .ok (.atCommand r command behind) ∧
      args = before ++ command.name :: behind ∧
      ∀ s : Setting, s.isRepeatable = true →
        namesIn s args = namesIn s before ++ namesIn s behind ∧
        i.namesOf s = if namesIn s behind = [] then namesIn s before else namesIn s behind := by
  obtain ⟨stop, hroot, h⟩ := Fallible.bind_eq_ok_iff.mp h
  cases stop with
  | atEnd r =>
    obtain ⟨r', -, h⟩ := Fallible.bind_eq_ok_iff.mp h
    split at h <;> cases h
  | atHelp rest => cases h
  | atCommand r command behind =>
    obtain ⟨stop', hbehind, h⟩ := Fallible.bind_eq_ok_iff.mp h
    cases stop' with
    | atCommand r' command' rest => cases h
    | atHelp rest => cases h
    | atEnd b =>
      obtain ⟨b', hfinish, h⟩ := Fallible.bind_eq_ok_iff.mp h
      obtain ⟨task, -, h⟩ := Fallible.bind_eq_ok_iff.mp h
      obtain ⟨r', hfinish', h⟩ := Fallible.bind_eq_ok_iff.mp h
      obtain rfl := Except.ok.inj h
      obtain ⟨before, hargs, hbefore⟩ := Reading.arguments_atCommand hroot
      refine ⟨r, before, command, behind, hroot, hargs, fun s hs => ?_⟩
      obtain ⟨htaken, hsplit⟩ := hbefore s hs
      have hstart : r'.values s = namesIn s before := by
        rw [(Reading.finish_eq_ok hfinish').2, htaken]
        rfl
      have hend : b'.values s = namesIn s behind := by
        obtain ⟨hwanting, hvalues⟩ := Reading.finish_eq_ok (s := s) hfinish
        rw [hvalues, Reading.arguments_atEnd hs hbehind hwanting]
        rfl
      refine ⟨hsplit, ?_⟩
      have hmerged : merged r' b' s =
          if namesIn s behind = [] then namesIn s before else namesIn s behind := by
        rw [merged, hstart, hend]
        simp only [List.isEmpty_iff]
      rw [← hmerged]
      cases s <;> first | rfl | cases hs

/-- The file with the options, or nothing: what the options are when no setting is given. -/
def Invocation.FileOptions (i : Invocation) (cwd : Path) (now : Int) (d : Disk) (o : Options) :
    Prop :=
  match i.config? with
  | none => o = .default
  | some path => ((Options.ofFile path).run cwd now d).1 = .ok o

/-- The lists of the options are those of the command line, where it has any names for them. -/
theorem listOf_options {i : Invocation} {cwd : Path} {now : Int} {d : Disk} {o : Options}
    (h : (i.options.run cwd now d).1 = .ok o) :
    ∃ file, i.FileOptions cwd now d file ∧
      ∀ s : Setting, s.isRepeatable = true →
        o.listOf s = if i.namesOf s = [] then file.listOf s else some (i.namesOf s) := by
  have hoverride : ∀ file : Options, ∀ s : Setting, s.isRepeatable = true →
      (i.override file).listOf s =
        if i.namesOf s = [] then file.listOf s else some (i.namesOf s) := by
    intro file s hs
    cases s with
    | allow =>
      by_cases hnames : i.allow = [] <;>
        simp [Invocation.override, Options.listOf, Invocation.unlessEmpty, Invocation.namesOf,
          hnames]
    | block =>
      by_cases hnames : i.block = [] <;>
        simp [Invocation.override, Options.listOf, Invocation.unlessEmpty, Invocation.namesOf,
          hnames]
    | _ => cases hs
  unfold Invocation.options at h
  unfold Invocation.FileOptions
  cases hconfig : i.config? with
  | none =>
    simp only [hconfig, Access.run_pure] at h
    obtain rfl := Except.ok.inj h
    exact ⟨.default, rfl, hoverride .default⟩
  | some path =>
    simp only [hconfig, Access.run_bind] at h
    cases hfile : ((Options.ofFile path).run cwd now d).1 with
    | error e =>
      rw [hfile] at h
      cases h
    | ok file =>
      rw [hfile] at h
      obtain rfl := Except.ok.inj h
      exact ⟨file, hfile, hoverride file⟩

/-- The two lists of the options. If the names for a list are given at both levels, those before
the command are lost; in every other case the list is made of all names in order of appearance, or
is that of the file if there are none. -/
theorem lists_of_read {configVariable? : Option String} {args : List String} {i : Invocation}
    (hread : read configVariable? args = .ok i) (cwd : Path) (now : Int) (d : Disk) {o : Options}
    (hoptions : (i.options.run cwd now d).1 = .ok o) :
    ∃ r before command behind file,
      Reading.start.arguments .root args = .ok (.atCommand r command behind) ∧
      args = before ++ command.name :: behind ∧ i.FileOptions cwd now d file ∧
      ∀ s : Setting, s.isRepeatable = true →
        namesIn s args = namesIn s before ++ namesIn s behind ∧
        o.listOf s =
          (if namesIn s behind ≠ [] then some (namesIn s behind)
          else if namesIn s before ≠ [] then some (namesIn s before)
          else file.listOf s) ∧
        (o.listOf s = (if namesIn s args = [] then file.listOf s else some (namesIn s args)) ↔
          namesIn s before = [] ∨ namesIn s behind = []) := by
  obtain ⟨r, before, command, behind, hroot, hargs, hnames⟩ := namesOf_read hread
  obtain ⟨file, hfile, hlists⟩ := listOf_options hoptions
  refine ⟨r, before, command, behind, file, hroot, hargs, hfile, fun s hs => ?_⟩
  obtain ⟨hsplit, hkept⟩ := hnames s hs
  have hlist := hlists s hs
  rw [hkept] at hlist
  refine ⟨hsplit, ?_, ?_⟩
  · rw [hlist]
    by_cases hbehind : namesIn s behind = [] <;> by_cases hbefore : namesIn s before = [] <;>
      simp [hbehind, hbefore]
  · rw [hlist, hsplit]
    by_cases hbehind : namesIn s behind = [] <;> by_cases hbefore : namesIn s before = [] <;>
      simp [hbehind, hbefore]

/-- Names to allow at one level, in both spellings, and names to block at both levels. Behind a `--`
the word `--allow` is the name of a file. -/
theorem lists_of_read_levels :
    let args := ["--allow", "A", "--block=X", "-v", "--allow=B", "transform", "--block", "Y", "--",
      "--allow"]
    ∃ i o, read none args = .ok i ∧ (i.options.run ⟨"/w"⟩ 0 .empty).1 = .ok o ∧
      namesIn .allow args = ["A", "B"] ∧ o.allowlist = some ["A", "B"] ∧
      namesIn .block args = ["X", "Y"] ∧ o.blocklist = some ["Y"] := by
  intro args
  have hread : ∃ i, read none args = .ok i := ⟨_, rfl⟩
  obtain ⟨i, hread⟩ := hread
  have hoptions : ∃ o, (i.options.run ⟨"/w"⟩ 0 .empty).1 = .ok o := by
    obtain rfl := Except.ok.inj hread
    exact ⟨_, rfl⟩
  obtain ⟨o, hoptions⟩ := hoptions
  obtain ⟨r, before, command, behind, file, hroot, hargs, -, hlists⟩ :=
    lists_of_read hread ⟨"/w"⟩ 0 .empty hoptions
  -- the command is the sixth argument
  have hstop : ∃ r', Reading.start.arguments .root args =
      .ok (.atCommand r' .transform ["--block", "Y", "--", "--allow"]) := ⟨_, rfl⟩
  obtain ⟨r', hstop⟩ := hstop
  obtain ⟨-, rfl, rfl⟩ := Reading.Stop.atCommand.inj (Except.ok.inj (hroot.symm.trans hstop))
  obtain rfl : before = ["--allow", "A", "--block=X", "-v", "--allow=B"] :=
    (List.append_cancel_right hargs).symm
  obtain ⟨-, hallow, -⟩ := hlists .allow rfl
  obtain ⟨-, hblock, -⟩ := hlists .block rfl
  have hbefore : namesIn .allow ["--allow", "A", "--block=X", "-v", "--allow=B"] = ["A", "B"] := by
    decide +kernel
  have hbehind : namesIn .allow ["--block", "Y", "--", "--allow"] = [] := by decide +kernel
  have hlast : namesIn .block ["--block", "Y", "--", "--allow"] = ["Y"] := by decide +kernel
  refine ⟨i, o, hread, hoptions, by decide +kernel, ?_, by decide +kernel, ?_⟩
  · rw [hbefore, hbehind] at hallow
    exact hallow
  · rw [hlast] at hblock
    exact hblock

/-- A name that is blocked before the command may be imported if another one is blocked behind
it. -/
theorem blocked_name_lost :
    let args := ["--block", "SECRET", "deps", "--block", "OTHER"]
    ∃ i o, read none args = .ok i ∧ (i.options.run ⟨"/w"⟩ 0 .empty).1 = .ok o ∧
      namesIn .block args = ["SECRET", "OTHER"] ∧ o.blocklist = some ["OTHER"] ∧
      o.rejects "SECRET" = false := by
  refine ⟨_, _, rfl, rfl, ?_, ?_, ?_⟩ <;> decide +kernel

end Command

end EnvInline
