import Mathlib.Control.Monad.Basic
import EnvInline.Proofs.Staleness

/-!
# Resolving while files change

Others may change the disk between any two accesses of a resolution. No update is lost by this: the
stamps are taken before the contents are read, so a file that changes in between has a stamp that
was not recorded, and the fingerprint is stale from then on.

* `view_take_eq` — a file with the same stamp at two moments was left alone between them;
* `runAmid_resolve` — what a resolution comes to when the disk changes between its accesses;
* `resolve_amid_changes` — it is what resolving gives later on, unless its fingerprint is stale then.
-/

namespace EnvInline

/-- The disk after some changes from outside, one after the other. -/
def Disk.changed (d : Disk) (changes : List (Disk → Disk)) : Disk :=
  changes.foldl (fun d c => c d) d

/-- What a resolution can see of a file: its stamp, and what comes of reading it. -/
def Disk.view (d : Disk) (cwd f : Path) : Stamp × Except DiskError (List UInt8) :=
  (Stamp.on d cwd f, d.read cwd f)

/-- Under the changes the file never returns to a stamp that it had before: each of them leaves the
file as it is, or gives it a stamp that it has not had so far. A missing file has a stamp too. -/
def NeverReturns (cwd f : Path) (d : Disk) (changes : List (Disk → Disk)) : Prop :=
  ∀ n < changes.length,
    (d.changed (changes.take (n + 1))).view cwd f = (d.changed (changes.take n)).view cwd f ∨
    ∀ m ≤ n, Stamp.on (d.changed (changes.take m)) cwd f ≠
      Stamp.on (d.changed (changes.take (n + 1))) cwd f

instance (cwd f : Path) (d : Disk) (changes : List (Disk → Disk)) :
    Decidable (NeverReturns cwd f d changes) :=
  inferInstanceAs (Decidable (∀ n < _, _ ∨ ∀ m ≤ n, _))

/-! ## One file over a sequence of changes -/

section History

variable {cwd f : Path} {d : Disk} {changes : List (Disk → Disk)}

theorem changed_append (first second : List (Disk → Disk)) :
    d.changed (first ++ second) = (d.changed first).changed second := by
  simp [Disk.changed, List.foldl_append]

/-- A file that has the same stamp at two moments has been left alone at every moment between. -/
theorem view_take_eq (hnever : NeverReturns cwd f d changes) {i j k : Nat} (hij : i ≤ j)
    (hjk : j ≤ k) (hk : k ≤ changes.length)
    (hstamp : Stamp.on (d.changed (changes.take k)) cwd f =
      Stamp.on (d.changed (changes.take i)) cwd f) :
    (d.changed (changes.take j)).view cwd f = (d.changed (changes.take i)).view cwd f := by
  induction k generalizing j with
  | zero =>
    obtain rfl : j = i := by omega
    rfl
  | succ k ih =>
    by_cases hi : i = k + 1
    · obtain rfl : j = i := by omega
      rfl
    rcases hnever k (by omega) with hsame | hnew
    · -- the last change left the file alone, so its stamp was the same already before it
      have hbefore : Stamp.on (d.changed (changes.take k)) cwd f =
          Stamp.on (d.changed (changes.take i)) cwd f :=
        (congrArg Prod.fst hsame).symm.trans hstamp
      by_cases hj : j = k + 1
      · subst hj
        rw [hsame]
        exact ih (by omega) (Nat.le_refl _) (by omega) hbefore
      · exact ih hij (by omega) (by omega) hbefore
    · exact absurd hstamp.symm (hnew i (by omega))

/-- What a file reads as between is what it reads as in the end, if its stamp in the end is one that
it had before. -/
theorem read_eq_of_stamp_eq (hnever : NeverReturns cwd f d changes) {a b : List (Disk → Disk)}
    (hab : a <+: b) (hb : b <+: changes)
    (hstamp : Stamp.on (d.changed changes) cwd f = Stamp.on (d.changed a) cwd f) :
    (d.changed b).read cwd f = (d.changed changes).read cwd f := by
  have hview : ∀ c, a <+: c → c <+: changes →
      (d.changed c).view cwd f = (d.changed a).view cwd f := by
    intro c hac hc
    rw [List.prefix_iff_eq_take.mp hc, List.prefix_iff_eq_take.mp (hac.trans hc)]
    refine view_take_eq hnever hac.length_le hc.length_le (Nat.le_refl _) ?_
    rw [List.take_length, ← List.prefix_iff_eq_take.mp (hac.trans hc)]
    exact hstamp
  have hsame := (hview b hab hb).trans (hview changes (hab.trans hb) (List.prefix_refl _)).symm
  exact congrArg Prod.snd hsame

end History

/-! ## A resolution amid changes -/

/-- A resolution stats the four candidates and then reads the base file and the file of the mode;
each of the six accesses finds the disk of its moment. -/
theorem runAmid_resolve (o : Options) (e : Environment) (cwd : Path) (now : Int) (d : Disk)
    (g₁ g₂ g₃ g₄ g₅ g₆ : Disk → Disk) :
    let files := Candidates.of o.path (e.mode o.envName)
    let d₁ := g₁ d
    let d₂ := g₂ d₁
    let d₃ := g₃ d₂
    let d₄ := g₄ d₃
    let d₅ := g₅ d₄
    let d₆ := g₆ d₅
    let outcome := (Resolution.resolve o e cwd).runAmid cwd now [g₁, g₂, g₃, g₄, g₅, g₆] d
    outcome.2 = d₆ ∧ outcome.1.1 =
      { mode := e.mode o.envName
        files
        values := Resolution.layered o (Definition.entriesOn d₅ cwd files.base)
          (Definition.entriesOn d₆ cwd files.mode) e
        fingerprint := ⟨[Stamp.on d₁ cwd files.base, Stamp.on d₂ cwd files.baseLocal,
          Stamp.on d₃ cwd files.mode, Stamp.on d₄ cwd files.modeLocal]⟩ } := by
  intro files d₁ d₂ d₃ d₄ d₅ d₆ outcome
  refine ⟨rfl, ?_⟩
  rw [← ofContent_entries o.verbose, ← ofContent_entries o.verbose]
  rfl

/-- Whatever happens to the disk before each of the six accesses of a resolution and after the last
one, as long as no candidate returns to a stamp that it had before: unless the fingerprint is stale
on the disk that comes of it, the resolution is that of an undisturbed run there. -/
theorem resolve_amid_changes {cwd : Path} (hc : cwd.IsRooted) (now : Int) (o : Options)
    (e : Environment) (d : Disk) (gaps : List (List (Disk → Disk))) (hgaps : gaps.length = 6)
    (later : List (Disk → Disk))
    (hnever : ∀ f ∈ (Candidates.of o.path (e.mode o.envName)).toList,
      NeverReturns cwd f d (gaps.flatten ++ later)) :
    let outcome := (Resolution.resolve o e cwd).runAmid cwd now
      (gaps.map fun gap d => d.changed gap) d
    let r := outcome.1.1
    let d' := outcome.2.changed later
    ((r.fingerprint.isStale cwd).run cwd now d').1 = false →
      r = ((Resolution.resolve o e cwd).run cwd now d').1.1 := by
  match gaps, hgaps with
  | [g₁, g₂, g₃, g₄, g₅, g₆], _ =>
    intro outcome r d' hfresh
    have hrun := runAmid_resolve o e cwd now d (·.changed g₁) (·.changed g₂) (·.changed g₃)
      (·.changed g₄) (·.changed g₅) (·.changed g₆)
    simp only [← changed_append] at hrun
    obtain ⟨hdisk, hr⟩ : outcome.2 = _ ∧ r = _ := hrun
    have hd' : d' = d.changed ([g₁, g₂, g₃, g₄, g₅, g₆].flatten ++ later) := by
      show outcome.2.changed later = _
      rw [hdisk, ← changed_append]
      simp
    -- the fingerprint is not stale, so each recorded stamp is the one at the end
    rw [run_isStale, hr, Fingerprint.isStaleOn, List.any_eq_false] at hfresh
    simp only [List.forall_mem_cons, Bool.not_eq_true, Bool.not_eq_false',
      same_recorded_iff hc] at hfresh
    obtain ⟨hbase, hlocal, hmode, hmodeLocal, -⟩ := hfresh
    -- the stamps were taken before the contents were read
    have hbaseRead := read_eq_of_stamp_eq (hnever _ (by simp [Candidates.toList]))
      (b := g₁ ++ g₂ ++ g₃ ++ g₄ ++ g₅) (by simp) ⟨g₆ ++ later, by simp⟩ (hd' ▸ hbase)
    have hmodeRead := read_eq_of_stamp_eq (hnever _ (by simp [Candidates.toList]))
      (b := g₁ ++ g₂ ++ g₃ ++ g₄ ++ g₅ ++ g₆) (by simp) ⟨later, by simp⟩ (hd' ▸ hmode)
    rw [← hd'] at hbaseRead hmodeRead
    rw [hr, run_resolve, entriesOn_congr hbaseRead, entriesOn_congr hmodeRead, ← hbase, ← hlocal,
      ← hmode, ← hmodeLocal]
    rfl

/-- The base file changes before its stamp is taken, the file of the mode turns up and changes
between these two stamps, and another file comes and goes while both are read and after. -/
theorem resolve_amid_changes_qa :
    let cwd : Path := ⟨"/w"⟩
    let e : Environment := ⟨[("NODE_ENV", "qa")]⟩
    let d : Disk := ⟨[(["w"], .directory 0),
      ([".env", "w"], .file (Text.Utf8.ofString "A=1\nB=1") 1000000)]⟩
    let put (name text : String) (time : Int) (d : Disk) : Disk :=
      d.put [name, "w"] (.file (Text.Utf8.ofString text) time)
    let gaps : List (List (Disk → Disk)) := [[put ".env" "A=2\nB=2" 2000000],
      [put ".env.qa" "B=3" 3000000, put ".env.qa" "B=4" 4000000], [], [], [],
      [put "other" "B=5" 5000000]]
    let later : List (Disk → Disk) := [(·.erase ["other", "w"])]
    let outcome := (Resolution.resolve .default e cwd).runAmid cwd 0
      (gaps.map fun gap d => d.changed gap) d
    let r := outcome.1.1
    let d' := outcome.2.changed later
    cwd.IsRooted ∧ gaps.length = 6 ∧
      (∀ f ∈ (Candidates.of ⟨".env"⟩ (e.mode "APP_ENV")).toList,
        NeverReturns cwd f d (gaps.flatten ++ later)) ∧
      ((r.fingerprint.isStale cwd).run cwd 0 d').1 = false ∧
      r = ((Resolution.resolve .default e cwd).run cwd 0 d').1.1 ∧
      r.values.get? "A" = some "2" ∧ r.values.get? "B" = some "4" := by
  intro cwd e d put gaps later outcome r d'
  have hc : cwd.IsRooted := by decide +kernel
  have hnever : ∀ f ∈ (Candidates.of ⟨".env"⟩ (e.mode "APP_ENV")).toList,
      NeverReturns cwd f d (gaps.flatten ++ later) := by decide +kernel
  have hfresh : ((r.fingerprint.isStale cwd).run cwd 0 d').1 = false := by decide +kernel
  have hr := resolve_amid_changes hc 0 .default e d gaps rfl later hnever hfresh
  exact ⟨hc, rfl, hnever, hfresh, hr, by decide +kernel, by decide +kernel⟩

end EnvInline
