import EnvInline.Proofs.Staleness
import EnvInline.Proofs.WrittenFiles

/-!
# Recorded paths

A stamp records a path in its absolute form. That form takes the same steps as the path itself, so it
leads to the same place on every disk, as long as neither of the two is refused. Only a `.` at the
end gets lost: `dir/.` leads to a directory and to nothing else, and is recorded like `dir`.

* `Disk.locate_eq_ok_iff_steps` — a path leads where its steps lead;
* `stepsFrom_fullPath` — the absolute form takes the same steps;
* `modified?_fullPath` — what is found at a recorded path.
-/

namespace EnvInline

namespace Path

/-- The path ends in a segment that takes no step: in a slash or in `.`. -/
def Stays (p : Path) : Prop :=
  ∃ s, (segments p.text.toList).getLast? = some s ∧ isStep s = false

/-- The steps of a path from the root, seen from a directory. -/
def stepsFrom (cwd p : Path) : List (List Char) := (Disk.segmentsFrom cwd p).filter isStep

/-! ## The steps of the absolute form -/

theorem steps_eq (p : Path) : steps p.text.toList = p.names.map String.toList := by
  rw [names_eq, List.map_map]
  exact (List.map_id _).symm.trans (List.map_congr_left fun l _ => String.toList_ofList.symm)

theorem stepsFrom_eq (cwd p : Path) :
    stepsFrom cwd p =
      ((if p.isAbsolute then [] else cwd.names) ++ p.names).map String.toList := by
  unfold stepsFrom Disk.segmentsFrom
  rw [List.map_append, ← steps_eq p]
  split
  · rfl
  · rw [List.filter_append, ← steps_eq cwd]
    rfl

theorem names_joinAll {p : Path} {ns : List String} (hp : Full p) (hns : ∀ n ∈ ns, IsName n) :
    (joinAll p ns).names = p.names ++ ns := by
  induction ns generalizing p with
  | nil => simp [joinAll]
  | cons n ns ih =>
    obtain ⟨hn, hns⟩ := List.forall_mem_cons.mp hns
    calc (joinAll (p.join ⟨n⟩) ns).names
        = (p.join ⟨n⟩).names ++ ns := ih (hp.join hn) hns
      _ = p.names ++ n :: ns := by
          rw [names_join (text_ne_of_head? (full_head? hp)) hn, List.append_assoc,
            List.singleton_append]

theorem names_start (p : Path) : p.start.names = [] := by
  unfold start
  split <;> decide +kernel

theorem stays_join (p : Path) {n : String} (hn : '/' ∉ n.toList) :
    (p.join ⟨n⟩).Stays ↔ isStep n.toList = false := by
  rw [Stays, segments_join p hn, List.getLast?_concat]
  simp

theorem stays_iff_endsWith_slash {p : Path} (hp : p.text ≠ "")
    (hdot : (segments p.text.toList).getLast? ≠ some ['.']) :
    p.Stays ↔ p.text.endsWith "/" = true := by
  rw [endsWith_slash]
  constructor
  · rintro ⟨s, hs, hstays⟩
    by_contra hslash
    have hempty := getLast?_segments (by simpa using hp) hslash
    rw [hs, ne_eq, Option.some.injEq] at hempty hdot
    have hstep : isStep s = true := by simpa [isStep] using And.intro hempty hdot
    exact Bool.false_ne_true (hstays.symm.trans hstep)
  · intro hslash
    obtain ⟨t, ht⟩ := List.getLast?_eq_some_iff.mp hslash
    exact ⟨[], by simp [ht, segments_append_slash, segments], rfl⟩

/-- The last segment of a path that does not stay is its last name. -/
theorem exists_last_name {p : Path} (h : ¬ p.Stays) : ∃ front last, p.names = front ++ [last] := by
  obtain ⟨init, last, hsegments⟩ : ∃ init last, segments p.text.toList = init ++ [last] :=
    ⟨_, _, (List.dropLast_append_getLast (segments_ne_nil _)).symm⟩
  have hstep : isStep last = true := by
    by_contra hstay
    exact h ⟨last, by rw [hsegments, List.getLast?_concat], by simpa using hstay⟩
  refine ⟨(init.filter isStep).map String.ofList, String.ofList last, ?_⟩
  simp [names_eq, steps, hsegments, hstep]

section Absolute

variable {cwd p q : Path} (hc : cwd.IsRooted) (h : absolute? cwd p = some q)
include hc h

/-- The absolute form is the names of the path behind the root or the directory, with a slash at the
end if the path has one. -/
theorem exists_full_of_absolute? :
    ∃ base, Full base ∧ base.names = (if p.isAbsolute then [] else cwd.names) ∧
      q = if p.text.endsWith "/" then (joinAll base p.names).join ⟨""⟩ else joinAll base p.names := by
  have hp : p.text ≠ "" := by
    intro hp
    simp [absolute?, hp] at h
  rw [absolute?_eq cwd hp] at h
  refine ⟨if p.isAbsolute then p.start else cwd, ?_, ?_, (Option.some.inj h).symm⟩
  · split
    · exact full_start p
    · exact full_of_absolute? (.inl hc.1) hc.2
  · split
    · exact names_start p
    · rfl

theorem stepsFrom_absolute? : stepsFrom cwd q = stepsFrom cwd p := by
  obtain ⟨base, hbase, hnames, hq⟩ := exists_full_of_absolute? hc h
  have hisName : ∀ n ∈ p.names, IsName n := fun n hn => isName_of_mem_names hn
  have hall := full_joinAll hbase hisName
  have habsolute : q.isAbsolute = true :=
    (isAbsolute_iff q).mpr (full_head? (full_of_absolute? (.inr (full_of_absolute? (.inl hc.1) hc.2)) h))
  -- a slash at the end adds no name
  have hqnames : q.names = base.names ++ p.names := by
    rw [hq, ← names_joinAll hbase hisName]
    split
    · exact names_slash (text_ne_of_head? (full_head? hall))
    · rfl
  rw [stepsFrom_eq, stepsFrom_eq, if_pos habsolute, List.nil_append, hqnames, hnames]

/-- The absolute form ends like the path, unless that ends in `.`. -/
theorem stays_absolute? (hdot : (segments p.text.toList).getLast? ≠ some ['.']) :
    q.Stays ↔ p.Stays := by
  have hp : p.text ≠ "" := by
    intro hp
    simp [absolute?, hp] at h
  obtain ⟨base, -, -, hq⟩ := exists_full_of_absolute? hc h
  have hslash := stays_iff_endsWith_slash hp hdot
  by_cases hstays : p.Stays
  · refine iff_of_true ?_ hstays
    rw [hq, if_pos (hslash.mp hstays), stays_join _ (by simp)]
    rfl
  · refine iff_of_false ?_ hstays
    -- the last name is joined last, and it is a step
    obtain ⟨front, last, hnames⟩ := exists_last_name hstays
    have hlast : IsName last := isName_of_mem_names (p := p) (by simp [hnames])
    have hjoin : joinAll base p.names = (joinAll base front).join ⟨last⟩ := by
      rw [hnames, joinAll, List.foldl_append]
      rfl
    rw [hq, if_neg fun hend => hstays (hslash.mpr hend), hjoin, stays_join _ hlast.2.2,
      hlast.isStep]
    simp

end Absolute

end Path

/-! ## Where the absolute form leads -/

open EnvInline.Path Stamp

namespace Disk

variable {d : Disk} {cwd p : Path} {place : Place}

/-- A path leads where its steps lead; what it ends with may need a directory there. -/
theorem locate_eq_ok_iff_steps :
    d.locate cwd p = .ok place ↔
      refusal? p = none ∧ d.walk [] (stepsFrom cwd p) = .ok place ∧
        (p.Stays → d.HasDirectory place) := by
  have hstay : ∀ s, isStep s = false → s = [] ∨ s = ['.'] := by
    simp only [isStep, decide_eq_false_iff_not]
    intro s hs
    by_contra hor
    exact hs (not_or.mp hor)
  rw [locate_eq_ok_iff, walk_filter_iff hstay, getLast?_segmentsFrom, stepsFrom, Path.Stays]
  simp only [forall_exists_index, and_imp]

end Disk

/-- The path and its recorded form are both followed, and the path does not end in `.`. -/
structure Path.Recordable (p cwd : Path) : Prop where
  followed : Disk.refusal? p = none
  recorded : Disk.refusal? (fullPath cwd p) = none
  last : (segments p.text.toList).getLast? ≠ some ['.']

section Recorded

variable {cwd p : Path} (hc : cwd.IsRooted) (hp : p.Recordable cwd)
include hc

theorem stepsFrom_fullPath (p : Path) : stepsFrom cwd (fullPath cwd p) = stepsFrom cwd p := by
  unfold fullPath
  cases h : absolute? cwd p with
  | none => rfl
  | some q => exact stepsFrom_absolute? hc h

theorem stays_fullPath (hdot : (segments p.text.toList).getLast? ≠ some ['.']) :
    (fullPath cwd p).Stays ↔ p.Stays := by
  unfold fullPath
  cases h : absolute? cwd p with
  | none => rfl
  | some q => exact stays_absolute? hc h hdot

include hp

theorem locate_fullPath {d : Disk} {place : Place} :
    d.locate cwd (fullPath cwd p) = .ok place ↔ d.locate cwd p = .ok place := by
  rw [Disk.locate_eq_ok_iff_steps, Disk.locate_eq_ok_iff_steps, stepsFrom_fullPath hc,
    stays_fullPath hc hp.last]
  simp only [hp.followed, hp.recorded]

/-- At a recorded path the same is found as at the path itself. -/
theorem modified?_fullPath (d : Disk) : d.modified? cwd (fullPath cwd p) = d.modified? cwd p := by
  have hlocate : ∀ place,
      d.locate cwd (fullPath cwd p) = .ok place ↔ d.locate cwd p = .ok place :=
    fun _ => locate_fullPath hc hp
  unfold Disk.modified? Disk.find
  cases h : d.locate cwd p with
  | ok place => rw [(hlocate place).mpr h]
  | error e =>
    cases h' : d.locate cwd (fullPath cwd p) with
    | ok place => rw [(hlocate place).mp h'] at h; cases h
    | error e' => rfl

end Recorded

end EnvInline
