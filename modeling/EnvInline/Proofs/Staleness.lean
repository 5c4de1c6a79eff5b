import EnvInline.Proofs.AbsolutePath
import EnvInline.Proofs.Undisturbed

/-!
# Staleness

Whether a fingerprint is stale is decided by taking stamps again, at the paths that were recorded.
These paths are absolute already, so taking them as they are or making them absolute once more comes
to the same (`fullPath_idem`), and a fingerprint is not stale exactly when every candidate has its
recorded stamp again (`isStaleOn_eq_false_iff`).
-/

namespace EnvInline

theorem fullPath_idem {cwd : Path} (hc : cwd.IsRooted) (p : Path) :
    Stamp.fullPath cwd (Stamp.fullPath cwd p) = Stamp.fullPath cwd p := by
  unfold Stamp.fullPath
  cases h : Path.absolute? cwd p with
  | none => simp [h]
  | some q => simp [Path.absolute?_idem hc h]

/-- A stamp at a recorded path is the stamp of the file that was recorded. -/
theorem stampOn_fullPath {cwd : Path} (hc : cwd.IsRooted) (d : Disk) (p : Path) :
    Stamp.on d cwd (Stamp.fullPath cwd p) = Stamp.on d cwd p := by
  unfold Stamp.on
  rw [fullPath_idem hc]

theorem stampOn_same_iff (cwd : Path) (d d₀ : Disk) (p : Path) :
    (Stamp.on d cwd p).same (Stamp.on d₀ cwd p) = true ↔ Stamp.on d cwd p = Stamp.on d₀ cwd p := by
  simp [Stamp.on, Stamp.same, Path.same]

/-- A recorded stamp is found unchanged exactly when the file has the same stamp again. -/
theorem same_recorded_iff {cwd : Path} (hc : cwd.IsRooted) (d d₀ : Disk) (p : Path) :
    (Stamp.on d cwd (Stamp.on d₀ cwd p).path).same (Stamp.on d₀ cwd p) = true ↔
      Stamp.on d cwd p = Stamp.on d₀ cwd p := by
  have hpath : (Stamp.on d₀ cwd p).path = Stamp.fullPath cwd p := rfl
  rw [hpath, stampOn_fullPath hc, stampOn_same_iff]

/-- Whether a fingerprint is stale on a disk. -/
def Fingerprint.isStaleOn (d : Disk) (cwd : Path) (f : Fingerprint) : Bool :=
  f.stamps.any fun s => !(Stamp.on d cwd s.path).same s

@[simp] theorem run_isStale (cwd : Path) (now : Int) (f : Fingerprint) (d : Disk) :
    (f.isStale cwd).run cwd now d = (f.isStaleOn d cwd, d) :=
  run_anyStale cwd now f.stamps d

/-- Staleness asks of each candidate whether its stamp has changed. -/
theorem isStaleOn_eq_false_iff {cwd : Path} (hc : cwd.IsRooted) (d d₀ : Disk)
    (files : Candidates) :
    (Fingerprint.on d₀ cwd files).isStaleOn d cwd = false ↔
      ∀ p ∈ files.toList, Stamp.on d cwd p = Stamp.on d₀ cwd p := by
  unfold Fingerprint.isStaleOn Fingerprint.on
  rw [List.any_eq_false]
  simp only [List.forall_mem_map, Bool.not_eq_true, Bool.not_eq_false', same_recorded_iff hc]

end EnvInline
