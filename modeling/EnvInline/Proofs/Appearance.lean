import EnvInline.Proofs.RecordedPath

/-!
# Appearing and disappearing

A fingerprint tells a file that is there from one that is missing by its time alone. A candidate that
has come or gone makes it stale if that time is a number of milliseconds, of 64 bits and not before
the epoch; with any other time the file counts as missing, and its coming and going goes unnoticed.

* `isSome_milliseconds?_iff` — the times that count;
* `stampOn_ne_iff_of_foundOnOne` — a stamp changes exactly when such a file comes or goes;
* `isStale_of_foundOnOne` — what a fingerprint notices.
-/

namespace EnvInline

open Stamp

/-- The time is a number of milliseconds, as stamps hold them. -/
def Stamp.Counts (time : Int) : Prop := 0 ≤ time ∧ time < 1000 * UInt64.size

instance (time : Int) : Decidable (Counts time) := inferInstanceAs (Decidable (_ ∧ _))

theorem isSome_milliseconds?_iff (time : Int) :
    (milliseconds? time).isSome = true ↔ Counts time := by
  have hiff : 0 ≤ time ∧ time.toNat / 1000 < UInt64.size ↔ Counts time := by
    unfold Counts
    omega
  unfold milliseconds?
  split
  · next h => simpa using hiff.mp h
  · next h => simpa using fun hcounts => h (hiff.mpr hcounts)

/-- Something is found at a path on one of two disks only, with this time. -/
inductive FoundOnOne (d d' : Disk) (cwd p : Path) (time : Int) : Prop where
  | removed (before : d.modified? cwd p = some time) (after : d'.modified? cwd p = none)
  | created (before : d.modified? cwd p = none) (after : d'.modified? cwd p = some time)

section Stamps

variable {d d' : Disk} {cwd p : Path} {time : Int}

theorem stampOn_eq_iff :
    Stamp.on d' cwd p = Stamp.on d cwd p ↔
      (d'.modified? cwd (fullPath cwd p)).bind milliseconds? =
        (d.modified? cwd (fullPath cwd p)).bind milliseconds? := by
  simp [Stamp.on]

/-- A file that comes or goes changes its stamp exactly when its time counts. -/
theorem stampOn_ne_iff_of_foundOnOne (h : FoundOnOne d d' cwd (fullPath cwd p) time) :
    Stamp.on d' cwd p ≠ Stamp.on d cwd p ↔ Counts time := by
  rw [← isSome_milliseconds?_iff, ne_eq, stampOn_eq_iff]
  cases h with
  | removed before after =>
    rw [before, after, Option.bind_none, Option.bind_some, eq_comm, ← ne_eq,
      Option.ne_none_iff_isSome]
  | created before after =>
    rw [before, after, Option.bind_none, Option.bind_some, ← ne_eq, Option.ne_none_iff_isSome]

end Stamps

/-- A fingerprint of some candidates is taken on one disk and looked at again on another one.

* It is stale if one of the candidates is found on one of the disks only, with a time that counts.
* If no other candidate has changed its time, it is stale only then.
* What is found at the path that was recorded for a candidate is what is found at its own path, if
  both are followed and it does not end in `.`. -/
theorem isStale_of_foundOnOne {cwd : Path} (hc : cwd.IsRooted) (files : Candidates)
    (now now' : Int) (d d' : Disk) :
    let f := ((Fingerprint.capture cwd files).run cwd now d).1
    let isStale := ((f.isStale cwd).run cwd now' d').1
    (∀ p ∈ files.toList, ∀ time, FoundOnOne d d' cwd (fullPath cwd p) time → Counts time →
      isStale = true) ∧
    ((∀ p ∈ files.toList,
        d'.modified? cwd (fullPath cwd p) = d.modified? cwd (fullPath cwd p) ∨
          ∃ time, FoundOnOne d d' cwd (fullPath cwd p) time) →
      (isStale = true ↔
        ∃ p ∈ files.toList, ∃ time, FoundOnOne d d' cwd (fullPath cwd p) time ∧ Counts time)) ∧
    ∀ p ∈ files.toList, p.Recordable cwd →
      ∀ e : Disk, e.modified? cwd (fullPath cwd p) = e.modified? cwd p := by
  intro f isStale
  have hf : f = Fingerprint.on d cwd files := by simp [f]
  have hstale : isStale = true ↔ ∃ p ∈ files.toList, Stamp.on d' cwd p ≠ Stamp.on d cwd p := by
    have hfresh := isStaleOn_eq_false_iff hc d' d files
    have hrun : isStale = (Fingerprint.on d cwd files).isStaleOn d' cwd := by simp [isStale, hf]
    rw [hrun, ← Bool.not_eq_false, hfresh]
    simp only [not_forall, exists_prop, ne_eq]
  refine ⟨?_, ?_, fun p _ hp => modified?_fullPath hc hp⟩
  · intro p hp time hone htime
    exact hstale.mpr ⟨p, hp, (stampOn_ne_iff_of_foundOnOne hone).mpr htime⟩
  · intro hrest
    rw [hstale]
    constructor
    · rintro ⟨p, hp, hne⟩
      rcases hrest p hp with hsame | ⟨time, hone⟩
      · -- equal times have equal stamps, whether or not they count
        exact absurd (stampOn_eq_iff.mpr (by rw [hsame])) hne
      · exact ⟨p, hp, time, hone, (stampOn_ne_iff_of_foundOnOne hone).mp hne⟩
    · rintro ⟨p, hp, time, hone, htime⟩
      exact ⟨p, hp, (stampOn_ne_iff_of_foundOnOne hone).mpr htime⟩

/-- A local file turns up, and the fingerprint notices. -/
theorem isStale_of_foundOnOne_local :
    let cwd : Path := ⟨"/w"⟩
    let files := Candidates.of ⟨".env"⟩ "qa"
    let d : Disk := ⟨[(["w"], .directory 0)]⟩
    let d' : Disk := ⟨[([".env.local", "w"], .file [] 2000000), (["w"], .directory 0)]⟩
    let f := ((Fingerprint.capture cwd files).run cwd 0 d).1
    cwd.IsRooted ∧ ⟨".env.local"⟩ ∈ files.toList ∧ Path.Recordable ⟨".env.local"⟩ cwd ∧
      FoundOnOne d d' cwd (fullPath cwd ⟨".env.local"⟩) 2000000 ∧ Counts 2000000 ∧
      ((f.isStale cwd).run cwd 0 d').1 = true ∧
      d'.modified? cwd (fullPath cwd ⟨".env.local"⟩) = d'.modified? cwd ⟨".env.local"⟩ := by
  intro cwd files d d' f
  have hc : cwd.IsRooted := by decide +kernel
  have hmem : ⟨".env.local"⟩ ∈ files.toList := by decide +kernel
  have hrec : Path.Recordable ⟨".env.local"⟩ cwd :=
    ⟨by decide +kernel, by decide +kernel, by decide +kernel⟩
  have hone : FoundOnOne d d' cwd (fullPath cwd ⟨".env.local"⟩) 2000000 :=
    .created (by decide +kernel) (by decide +kernel)
  have htime : Counts 2000000 := by decide
  obtain ⟨hnoticed, -, hpath⟩ := isStale_of_foundOnOne hc files 0 0 d d'
  exact ⟨hc, hmem, hrec, hone, htime, hnoticed _ hmem _ hone htime, hpath _ hmem hrec d'⟩

/-- A local file from just before the epoch turns up, and the fingerprint does not notice. -/
theorem unnoticed_early_file :
    let cwd : Path := ⟨"/w"⟩
    let files := Candidates.of ⟨".env"⟩ "qa"
    let d : Disk := ⟨[(["w"], .directory 0)]⟩
    let d' : Disk := ⟨[([".env.local", "w"], .file [] (-1)), (["w"], .directory 0)]⟩
    let f := ((Fingerprint.capture cwd files).run cwd 0 d).1
    ⟨".env.local"⟩ ∈ files.toList ∧ d.modified? cwd ⟨".env.local"⟩ = none ∧
      d'.modified? cwd ⟨".env.local"⟩ = some (-1) ∧ ((f.isStale cwd).run cwd 0 d').1 = false := by
  decide +kernel

end EnvInline
