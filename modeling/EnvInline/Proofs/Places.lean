import EnvInline.Proofs.JoinedPaths

/-!
# Places

Where a path leads on a disk. Only directories are stood in on the way, so files decide nothing
(`locate_congr`), and a disk with more directories has the same places (`locate_mono`).
-/

namespace EnvInline

/-- There is a directory at the place. -/
def Disk.HasDirectory (d : Disk) (place : Place) : Prop :=
  ∃ modified, d.node? place = some (.directory modified)

namespace Disk

variable {d d' : Disk} {cwd p : Path} {here place : Place}

/-! ## Following a path -/

/-- A step needs nothing but a directory to stand in. -/
theorem step_mono (hdir : d.HasDirectory here → d'.HasDirectory here) {segment : List Char}
    (h : d.step here segment = .ok place) : d'.step here segment = .ok place := by
  unfold step at h ⊢
  split at h
  · cases h
  · cases h
  · next modified hnode =>
    obtain ⟨modified', hnode'⟩ := hdir ⟨modified, hnode⟩
    rw [hnode']
    exact h

theorem hasDirectory_of_step {segment : List Char} (h : d.step here segment = .ok place) :
    d.HasDirectory here := by
  unfold step at h
  split at h
  · cases h
  · cases h
  · next modified hnode => exact ⟨modified, hnode⟩

/-- A segment leads to its name, unless it stands for staying or for going up. -/
theorem place_of_step {segment : List Char} (h : d.step here segment = .ok place) :
    (segment.length ≤ 2 ∧ place.length ≤ here.length) ∨ place = String.ofList segment :: here := by
  unfold step at h
  split at h
  · cases h
  · cases h
  · split at h
    · next hstay =>
      cases h
      rcases hstay with rfl | rfl <;> simp
    · split at h
      · next hup =>
        cases h
        subst hup
        simp
      · dsimp only at h
        split at h
        · cases h
        · cases h
          exact .inr rfl

/-- All that a step can do: stay, go up, or go down to what has the name. -/
theorem step_cases {segment : List Char} (h : d.step here segment = .ok place) :
    d.HasDirectory here ∧
      ((segment = [] ∨ segment = ['.']) ∧ place = here ∨
        segment = ['.', '.'] ∧ place = here.drop 1 ∨
        Path.component? segment = some (.normal (String.ofList segment)) ∧
          place = String.ofList segment :: here) := by
  refine ⟨hasDirectory_of_step h, ?_⟩
  unfold step at h
  split at h
  · cases h
  · cases h
  · by_cases hstay : segment = [] ∨ segment = ['.']
    · rw [if_pos hstay] at h
      exact .inl ⟨hstay, (Except.ok.inj h).symm⟩
    · by_cases hup : segment = ['.', '.']
      · rw [if_neg hstay, if_pos hup] at h
        exact .inr (.inl ⟨hup, (Except.ok.inj h).symm⟩)
      · rw [if_neg hstay, if_neg hup] at h
        dsimp only at h
        split at h
        · cases h
        · have hname : Path.component? segment = some (.normal (String.ofList segment)) := by
            rw [Path.component?, if_neg hstay, if_neg hup]
          exact .inr (.inr ⟨hname, (Except.ok.inj h).symm⟩)

/-- Above a place there are only directories. -/
def Reached (d : Disk) (place : Place) : Prop := ∀ n, 0 < n → d.HasDirectory (place.drop n)

theorem reached_nil (d : Disk) : d.Reached [] := by
  intro n _
  exact ⟨0, by simp [node?]⟩

theorem Reached.step {segment : List Char} (hhere : d.Reached here)
    (h : d.step here segment = .ok place) : d.Reached place := by
  obtain ⟨hdirectory, ⟨-, rfl⟩ | ⟨-, rfl⟩ | ⟨-, rfl⟩⟩ := step_cases h
  · exact hhere
  · intro n hn
    rw [List.drop_drop]
    exact hhere (1 + n) (by omega)
  · intro n hn
    obtain ⟨m, rfl⟩ : ∃ m, n = m + 1 := ⟨n - 1, by omega⟩
    rw [List.drop_succ_cons]
    cases m with
    | zero => exact hdirectory
    | succ m => exact hhere (m + 1) (by omega)

theorem walk_cons_eq_ok_iff {s : List Char} {ss : List (List Char)} :
    d.walk here (s :: ss) = .ok place ↔
      ∃ next, d.step here s = .ok next ∧ d.walk next ss = .ok place := by
  rw [walk]
  cases d.step here s <;> simp

theorem walk_append_eq_ok_iff {first second : List (List Char)} :
    d.walk here (first ++ second) = .ok place ↔
      ∃ middle, d.walk here first = .ok middle ∧ d.walk middle second = .ok place := by
  induction first generalizing here with
  | nil => simp [walk]
  | cons s ss ih =>
    simp only [List.cons_append, walk_cons_eq_ok_iff, ih]
    constructor
    · rintro ⟨next, hnext, middle, hmiddle, hplace⟩
      exact ⟨middle, ⟨next, hnext, hmiddle⟩, hplace⟩
    · rintro ⟨middle, ⟨next, hnext, hmiddle⟩, hplace⟩
      exact ⟨next, hnext, middle, hmiddle, hplace⟩

theorem Reached.walk {segments : List (List Char)} (hhere : d.Reached here)
    (h : d.walk here segments = .ok place) : d.Reached place := by
  induction segments generalizing here with
  | nil => exact Except.ok.inj h ▸ hhere
  | cons s ss ih =>
    obtain ⟨next, hstep, hwalk⟩ := walk_cons_eq_ok_iff.mp h
    exact ih (hhere.step hstep) hwalk

/-- Behind segments that lead somewhere the walk goes on from there. -/
theorem walk_append_of_walk {first second : List (List Char)} {middle : Place}
    (h : d.walk here first = .ok middle) : d.walk here (first ++ second) = d.walk middle second := by
  induction first generalizing here with
  | nil => rw [List.nil_append, Except.ok.inj h]
  | cons s ss ih =>
    obtain ⟨next, hnext, hmiddle⟩ := walk_cons_eq_ok_iff.mp h
    rw [List.cons_append, walk, hnext]
    exact ih hmiddle

theorem hasDirectory_of_walk {ss : List (List Char)} (hss : ss ≠ [])
    (h : d.walk here ss = .ok place) : d.HasDirectory here := by
  obtain ⟨s, ss, rfl⟩ := List.exists_cons_of_ne_nil hss
  obtain ⟨next, hstep, -⟩ := walk_cons_eq_ok_iff.mp h
  exact hasDirectory_of_step hstep

/-- An empty segment and `.` stay in a directory. -/
theorem step_stay_eq_ok_iff {segment : List Char} (h : segment = [] ∨ segment = ['.']) :
    d.step here segment = .ok place ↔ d.HasDirectory here ∧ here = place := by
  unfold step HasDirectory
  cases d.node? here with
  | none => simp
  | some node => cases node <;> simp [h]

/-- Segments that stay where they are need a directory to stand in. All but the last one share it
with the segment behind them. -/
theorem walk_filter_iff {keep : List Char → Bool}
    (hstay : ∀ s, keep s = false → s = [] ∨ s = ['.']) {ss : List (List Char)} :
    d.walk here ss = .ok place ↔ d.walk here (ss.filter keep) = .ok place ∧
      ∀ s, ss.getLast? = some s → keep s = false → d.HasDirectory place := by
  induction ss generalizing here with
  | nil => simp
  | cons s ss ih =>
    by_cases hs : keep s = true
    · rw [List.filter_cons_of_pos hs, walk_cons_eq_ok_iff, walk_cons_eq_ok_iff]
      simp only [ih]
      cases ss with
      | nil => simp [hs]
      | cons t ss =>
        simp only [List.getLast?_cons_cons]
        constructor
        · rintro ⟨next, hstep, hwalk, hlast⟩
          exact ⟨⟨next, hstep, hwalk⟩, hlast⟩
        · rintro ⟨⟨next, hstep, hwalk⟩, hlast⟩
          exact ⟨next, hstep, hwalk, hlast⟩
    · have hdrop : keep s = false := Bool.not_eq_true _ ▸ hs
      rw [List.filter_cons_of_neg hs, walk_cons_eq_ok_iff]
      simp only [step_stay_eq_ok_iff (hstay s hdrop)]
      constructor
      · rintro ⟨next, ⟨hdirectory, rfl⟩, hwalk⟩
        obtain ⟨hfilter, hlast⟩ := ih.mp hwalk
        refine ⟨hfilter, ?_⟩
        cases ss with
        | nil =>
          obtain rfl := Except.ok.inj hwalk
          exact fun _ _ _ => hdirectory
        | cons t ss => exact hlast
      · rintro ⟨hfilter, hlast⟩
        cases ss with
        | nil =>
          obtain rfl := Except.ok.inj hfilter
          exact ⟨here, ⟨hlast s rfl hdrop, rfl⟩, rfl⟩
        | cons t ss =>
          have hwalk := ih.mpr ⟨hfilter, hlast⟩
          exact ⟨here, ⟨hasDirectory_of_walk (List.cons_ne_nil t ss) hwalk, rfl⟩, hwalk⟩

theorem locate_eq_ok_iff :
    d.locate cwd p = .ok place ↔
      refusal? p = none ∧ d.walk [] (segmentsFrom cwd p) = .ok place := by
  unfold locate
  cases refusal? p <;> simp

theorem find_eq_ok_iff {node : Node} :
    d.find cwd p = .ok (place, node) ↔ d.locate cwd p = .ok place ∧ d.node? place = some node := by
  unfold find
  cases d.locate cwd p with
  | error e => simp
  | ok place' =>
    dsimp only
    cases hnode : d.node? place' with
    | none =>
      refine iff_of_false nofun ?_
      rintro ⟨hplace, hsome⟩
      rw [← Except.ok.inj hplace, hnode] at hsome
      cases hsome
    | some node' =>
      rw [Except.ok.injEq, Except.ok.injEq, Prod.mk.injEq]
      refine and_congr_right ?_
      rintro rfl
      rw [hnode, Option.some.injEq]

theorem walk_mono (hdir : ∀ q, d.HasDirectory q → d'.HasDirectory q)
    {segments : List (List Char)} (h : d.walk here segments = .ok place) :
    d'.walk here segments = .ok place := by
  induction segments generalizing here with
  | nil => exact h
  | cons s ss ih =>
    obtain ⟨next, hstep, hwalk⟩ := walk_cons_eq_ok_iff.mp h
    exact walk_cons_eq_ok_iff.mpr ⟨next, step_mono (hdir here) hstep, ih hwalk⟩

theorem locate_mono (hdir : ∀ q, d.HasDirectory q → d'.HasDirectory q)
    (h : d.locate cwd p = .ok place) : d'.locate cwd p = .ok place := by
  obtain ⟨hrefusal, hwalk⟩ := locate_eq_ok_iff.mp h
  exact locate_eq_ok_iff.mpr ⟨hrefusal, walk_mono hdir hwalk⟩

/-- On disks with the same directories a path leads to the same place. -/
theorem locate_congr (hdir : ∀ q, d.HasDirectory q ↔ d'.HasDirectory q) :
    d.locate cwd p = .ok place ↔ d'.locate cwd p = .ok place :=
  ⟨locate_mono fun q => (hdir q).mp, locate_mono fun q => (hdir q).mpr⟩

theorem hasDirectory_congr (h : d.node? place = d'.node? place) :
    d.HasDirectory place ↔ d'.HasDirectory place := by
  unfold HasDirectory
  rw [h]

/-! ## A node at a place -/

theorem node?_put (hplace : place ≠ []) (node : Node) (q : Place) :
    (d.put place node).node? q = if q = place then some node else d.node? q := by
  have hlookup : ∀ nodes : List (Place × Node), q ≠ place →
      (nodes.filter (·.1 != place)).lookup q = nodes.lookup q := by
    intro nodes hq
    induction nodes with
    | nil => rfl
    | cons entry nodes ih =>
      obtain ⟨r, node'⟩ := entry
      by_cases hr : r = place
      · have hqr : (q == r) = false := by simpa [hr] using hq
        rw [List.filter_cons_of_neg (by simpa using hr), List.lookup_cons, hqr, ih]
      · rw [List.filter_cons_of_pos (by simpa using hr), List.lookup_cons, List.lookup_cons, ih]
  by_cases hq : q = place
  · subst hq
    simp [node?, put, hplace]
  · have hqp : (q == place) = false := by simpa using hq
    simp only [node?, put, List.lookup_cons, hqp, hlookup _ hq, if_neg hq]

section PutFile

variable (hfile : ¬ d.HasDirectory place) (content : List UInt8) (modified : Int)
include hfile

theorem node?_put_file (q : Place) :
    (d.put place (.file content modified)).node? q =
      if q = place then some (.file content modified) else d.node? q := by
  refine node?_put ?_ _ q
  rintro rfl
  exact hfile ⟨0, rfl⟩

theorem hasDirectory_put_file (q : Place) :
    d.HasDirectory q ↔ (d.put place (.file content modified)).HasDirectory q := by
  by_cases hq : q = place
  · subst hq
    refine iff_of_false hfile ?_
    rintro ⟨modified', h⟩
    rw [node?_put_file hfile, if_pos rfl] at h
    cases h
  · refine hasDirectory_congr ?_
    rw [node?_put_file hfile, if_neg hq]

end PutFile

end Disk

end EnvInline
