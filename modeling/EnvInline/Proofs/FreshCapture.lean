import EnvInline.Proofs.Staleness

/-!
# Stale and fresh fingerprints

A fingerprint is stale exactly when a fresh one of the same candidates differs from it. All that is
asked of a file system here is when files were changed, so this holds however such questions are
answered, with links, closed directories and whatever else may decide an answer. A disk is one way to
answer them (`run_of_answered`).

* `answered_capture`, `answered_isStale` — what fingerprints come to, whatever is answered;
* `isStale_eq_not_same` — staleness is difference from a fresh fingerprint.
-/

namespace EnvInline

open Stamp

/-! ## Programs that only ask for times -/

/-- The value of a program when `times` says of each path when it was changed. There is none if the
program asks for anything else. -/
def Access.answered (times : Path → Option Int) : Access α → Option α
  | .done value => some value
  | .stat path next => (next (times path)).answered times
  | .read _ _ | .makeDirectories _ _ | .write _ _ _ => none

namespace Access

@[simp] theorem answered_pure (times : Path → Option Int) (value : α) :
    (pure value : Access α).answered times = some value := rfl

@[simp] theorem answered_bind (times : Path → Option Int) (a : Access α) (f : α → Access β) :
    (a >>= f).answered times = (a.answered times).bind fun value => (f value).answered times := by
  show (a.bind f).answered times = _
  induction a with
  | done value => rfl
  | stat path next ih => exact ih _
  | read path next => rfl
  | makeDirectories path next => rfl
  | write path content next => rfl

/-- On a disk a program that only asks for times has the value that its answers give, and the disk
stays as it is. -/
theorem run_of_answered {cwd : Path} {now : Int} {a : Access α} {d : Disk} {value : α}
    (h : a.answered (d.modified? cwd) = some value) : a.run cwd now d = (value, d) := by
  induction a with
  | done value' => exact congrArg (·, d) (Option.some.inj h)
  | stat path next ih => exact ih _ h
  | read path next => cases h
  | makeDirectories path next => cases h
  | write path content next => cases h

end Access

/-! ## Stamps and fingerprints -/

/-- The stamp of a file, by the times that are answered. -/
def Stamp.ofTimes (times : Path → Option Int) (cwd p : Path) : Stamp :=
  ⟨fullPath cwd p, (times (fullPath cwd p)).bind milliseconds?⟩

/-- The fingerprint of some candidates, by the times that are answered. -/
def Fingerprint.ofTimes (times : Path → Option Int) (cwd : Path) (files : Candidates) :
    Fingerprint :=
  ⟨files.toList.map (Stamp.ofTimes times cwd)⟩

section Answers

variable (times times' : Path → Option Int) (cwd : Path)

@[simp] theorem answered_stampCapture (p : Path) :
    (Stamp.capture cwd p).answered times = some (Stamp.ofTimes times cwd p) := rfl

theorem answered_captureAll (ps : List Path) :
    (Fingerprint.captureAll cwd ps).answered times = some (ps.map (Stamp.ofTimes times cwd)) := by
  induction ps with
  | nil => rfl
  | cons p ps ih => simp [Fingerprint.captureAll, ih]

theorem answered_capture (files : Candidates) :
    (Fingerprint.capture cwd files).answered times = some (Fingerprint.ofTimes times cwd files) := by
  simp [Fingerprint.capture, Fingerprint.ofTimes, answered_captureAll]

theorem answered_anyStale (stamps : List Stamp) :
    (Fingerprint.anyStale cwd stamps).answered times =
      some (stamps.any fun s => !(Stamp.ofTimes times cwd s.path).same s) := by
  induction stamps with
  | nil => rfl
  | cons s ss ih =>
    by_cases h : (Stamp.ofTimes times cwd s.path).same s
    · simp [Fingerprint.anyStale, h, ih]
    · simp [Fingerprint.anyStale, h]

/-- Fingerprints of the same candidates are the same if all their stamps are. -/
theorem same_ofTimes (files : Candidates) :
    (Fingerprint.ofTimes times cwd files).same (Fingerprint.ofTimes times' cwd files) =
      files.toList.all fun p => (Stamp.ofTimes times cwd p).same (Stamp.ofTimes times' cwd p) := by
  simp [Fingerprint.same, Fingerprint.ofTimes, List.zip_map', Function.comp_def]

variable {cwd}

/-- A stamp that is taken again at the recorded path is a fresh stamp of the file. -/
theorem ofTimes_recorded (hc : cwd.IsRooted) (p : Path) :
    Stamp.ofTimes times' cwd (Stamp.ofTimes times cwd p).path = Stamp.ofTimes times' cwd p := by
  have hpath : (Stamp.ofTimes times cwd p).path = fullPath cwd p := rfl
  rw [hpath, Stamp.ofTimes, fullPath_idem hc, Stamp.ofTimes]

theorem same_ofTimes_comm (p : Path) :
    (Stamp.ofTimes times' cwd p).same (Stamp.ofTimes times cwd p) =
      (Stamp.ofTimes times cwd p).same (Stamp.ofTimes times' cwd p) := by
  simp only [Stamp.ofTimes, Stamp.same, Path.same, BEq.rfl, Bool.true_and]
  exact BEq.comm

/-- A fingerprint is looked at again: it is stale if it is not the same as a fresh one. -/
theorem answered_isStale (hc : cwd.IsRooted) (files : Candidates) :
    ((Fingerprint.ofTimes times cwd files).isStale cwd).answered times' =
      some (!(Fingerprint.ofTimes times cwd files).same (Fingerprint.ofTimes times' cwd files)) := by
  have hlook : ((Fingerprint.ofTimes times cwd files).isStale cwd).answered times' =
      some ((Fingerprint.ofTimes times cwd files).stamps.any fun s =>
        !(Stamp.ofTimes times' cwd s.path).same s) := answered_anyStale times' cwd _
  rw [hlook, same_ofTimes, List.not_all_eq_any_not, Fingerprint.ofTimes, List.any_map]
  -- stamp by stamp, looking again is taking a fresh stamp
  simp only [Function.comp_def, ofTimes_recorded times times' hc, same_ofTimes_comm times times']

end Answers

/-- Whatever times a file system answers with, when a fingerprint of the candidates is taken and
when it is looked at again: it is stale exactly when it differs from a fresh one. A path that was
recorded in its absolute form is recorded in the same form again. -/
theorem isStale_eq_not_same {cwd : Path} (hc : cwd.IsRooted) (base : Path) (mode : String) :
    let capture := Fingerprint.capture cwd (Candidates.of base mode)
    (∀ times times' : Path → Option Int, ∃ f fresh,
      capture.answered times = some f ∧ capture.answered times' = some fresh ∧
        (f.isStale cwd).answered times' = some (!f.same fresh)) ∧
    (∀ (d d' : Disk) (now now' : Int),
      let f := (capture.run cwd now d).1
      let fresh := (capture.run cwd now' d').1
      ((f.isStale cwd).run cwd now' d').1 = !f.same fresh) ∧
    ∀ p : Path, fullPath cwd (fullPath cwd p) = fullPath cwd p := by
  intro capture
  have hcapture : ∀ times, capture.answered times = some (Fingerprint.ofTimes times cwd _) :=
    fun times => answered_capture times cwd _
  refine ⟨?_, ?_, fullPath_idem hc⟩
  · intro times times'
    exact ⟨_, _, hcapture times, hcapture times', answered_isStale times times' hc _⟩
  · intro d d' now now'
    have hstale := answered_isStale (d.modified? cwd) (d'.modified? cwd) hc (Candidates.of base mode)
    dsimp only
    rw [Access.run_of_answered (hcapture (d.modified? cwd)),
      Access.run_of_answered (hcapture (d'.modified? cwd)), Access.run_of_answered hstale]

/-- A dotted base path that leaves the directory and comes back: the file of the mode is changed,
and the fingerprint is stale and differs from a fresh one. -/
theorem isStale_eq_not_same_dotted :
    let cwd : Path := ⟨"/w"⟩
    let capture := Fingerprint.capture cwd (Candidates.of ⟨"./..//w/.env"⟩ "qa")
    let d : Disk := ⟨[(["w"], .directory 0), ([".env.qa", "w"], .file [] 1000)]⟩
    let d' : Disk := ⟨[(["w"], .directory 0), ([".env.qa", "w"], .file [] 2000)]⟩
    let f := (capture.run cwd 0 d).1
    let fresh := (capture.run cwd 0 d').1
    cwd.IsRooted ∧ f.same fresh = false ∧ ((f.isStale cwd).run cwd 0 d').1 = true ∧
      fullPath cwd ⟨"./..//w/.env"⟩ = ⟨"/w/../w/.env"⟩ ∧
      fullPath cwd ⟨"/w/../w/.env"⟩ = ⟨"/w/../w/.env"⟩ := by
  intro cwd capture d d' f fresh
  have hc : cwd.IsRooted := by decide +kernel
  obtain ⟨-, hdisks, hidem⟩ := isStale_eq_not_same hc ⟨"./..//w/.env"⟩ "qa"
  have hdiffer : f.same fresh = false := by decide +kernel
  have hstale : ((f.isStale cwd).run cwd 0 d').1 = true :=
    (hdisks d d' 0 0).trans (by rw [hdiffer, Bool.not_false])
  have hfull : fullPath cwd ⟨"./..//w/.env"⟩ = ⟨"/w/../w/.env"⟩ := by decide +kernel
  exact ⟨hc, hdiffer, hstale, hfull, hfull ▸ hidem ⟨"./..//w/.env"⟩⟩

end EnvInline
