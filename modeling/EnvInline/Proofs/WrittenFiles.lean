import EnvInline.Proofs.Places

/-!
# Written files

What stays of a disk when something is written to it. Directories are only ever added, so a path
that led to a place still leads there. Making directories changes no file, and writing a file
changes no other one.

* `made_makeDirectories` — what making directories does to a disk;
* `write_spec` — what writing does to a disk, and where the file is found afterwards.
-/

namespace EnvInline

namespace Disk

variable {d d' d'' : Disk} {cwd p : Path} {place here : Place} {content : List UInt8} {now : Int}

/-- The content of the file at a place, and the time of its last change. -/
def file? (d : Disk) (place : Place) : Option (List UInt8 × Int) :=
  match d.node? place with
  | some (.file content modified) => some (content, modified)
  | some (.directory _) | none => none

/-- All directories of the first disk are on the second one. -/
def Grows (d d' : Disk) : Prop := ∀ place, d.HasDirectory place → d'.HasDirectory place

theorem Grows.refl (d : Disk) : d.Grows d := fun _ h => h

theorem Grows.trans (h : d.Grows d') (h' : d'.Grows d'') : d.Grows d'' :=
  fun place hplace => h' place (h place hplace)

theorem file?_congr (h : d'.node? place = d.node? place) : d'.file? place = d.file? place := by
  unfold file?
  rw [h]

theorem file?_of_node? (h : d.node? place = some (.file content now)) :
    d.file? place = some (content, now) := by
  unfold file?
  rw [h]

/-- What is read is the content of the file at the place of the path. -/
theorem read_eq_ok_iff :
    d.read cwd p = .ok content ↔
      ∃ place modified, d.locate cwd p = .ok place ∧ d.file? place = some (content, modified) := by
  unfold read find file?
  cases d.locate cwd p with
  | error e => simp
  | ok place =>
    cases hnode : d.node? place with
    | none => simp [hnode]
    | some node => cases node <;> simp [hnode]

/-! ## Making directories -/

/-- Nothing but directories was made. -/
structure Made (d d' : Disk) : Prop where
  grows : d.Grows d'
  files : ∀ place, d'.file? place = d.file? place

theorem Made.refl (d : Disk) : d.Made d := ⟨.refl d, fun _ => rfl⟩

theorem Made.trans (h : d.Made d') (h' : d'.Made d'') : d.Made d'' :=
  ⟨h.grows.trans h'.grows, fun place => (h'.files place).trans (h.files place)⟩

theorem made_put_directory (h : d.node? place = none) : d.Made (d.put place (.directory now)) := by
  have hplace : place ≠ [] := by
    rintro rfl
    cases h
  constructor
  · intro q hq
    by_cases hqp : q = place
    · subst hqp
      exact ⟨now, by rw [node?_put hplace, if_pos rfl]⟩
    · obtain ⟨modified, hnode⟩ := hq
      exact ⟨modified, by rw [node?_put hplace, if_neg hqp, hnode]⟩
  · intro q
    by_cases hqp : q = place
    · subst hqp
      simp only [file?, node?_put hplace, if_pos, h]
    · exact file?_congr (by rw [node?_put hplace, if_neg hqp])

theorem made_makeDirectory (h : d.makeDirectory cwd p now = .ok d') : d.Made d' := by
  unfold makeDirectory at h
  split at h
  · cases h
  · next place isName hlocate =>
    split at h
    · cases h
    · next hfree =>
      cases h
      have hnone : isName = true ∧ d.node? place = none := by simpa using hfree
      exact made_put_directory hnone.2

/-- The disk as it is left, whether or not the last change has failed. -/
def leftBy : Except (DiskError × Disk) Disk → Disk
  | .ok d => d
  | .error (_, d) => d

/-- Directories that are made on the way stay, and nothing else is made. -/
theorem made_makeNested (ps : List Path) : d.Made (leftBy (d.makeNested cwd now ps)) := by
  induction ps generalizing d with
  | nil => exact .refl d
  | cons p ps ih =>
    -- it does not matter here whether the directory is found after all
    have hsettle : ∀ (d₁ : Disk) (e : DiskError), leftBy
        (if d₁.isDirectory cwd p then Except.ok d₁ else .error (e, d₁)) = d₁ := by
      intro d₁ e
      split <;> rfl
    rw [makeNested]
    split
    · exact .refl d
    · dsimp only
      split
      · next d₁ hmake => exact made_makeDirectory hmake
      · have hnested := ih (d := d)
        split
        · next left hleft =>
          rw [hleft] at hnested
          exact hnested
        · next d₁ hleft =>
          rw [hleft] at hnested
          split
          · next d₂ hmake => exact hnested.trans (made_makeDirectory hmake)
          · rw [hsettle]
            exact hnested
      · rw [hsettle]
        exact .refl d

theorem made_makeDirectories (d : Disk) (cwd p : Path) (now : Int) :
    d.Made (leftBy (d.makeDirectories cwd p now)) :=
  made_makeNested _

/-! ## Writing a file -/

/-- A path that does not end in a slash leads to the place where it would put something. -/
theorem locate_of_locateNew {isName : Bool} (hslash : ¬ p.text.endsWith "/" = true)
    (h : d.locateNew cwd p = .ok (place, isName)) : d.locate cwd p = .ok place := by
  unfold locateNew at h
  split at h
  · cases h
  · next hrefusal =>
    dsimp only at h
    split at h
    · cases h
    · next place' hwalk =>
      obtain ⟨rfl, -⟩ := Prod.mk.inj (Except.ok.inj h)
      have hp : p.text ≠ "" := by
        intro hempty
        simp [refusal?, hempty] at hrefusal
      refine locate_eq_ok_iff.mpr
        ⟨hrefusal, (walk_filter_iff (by simp +contextual)).mpr ⟨hwalk, ?_⟩⟩
      intro s hlast hdrop
      obtain rfl : s = [] := by simpa using hdrop
      rw [Path.getLast?_segmentsFrom] at hlast
      exact absurd hlast (Path.getLast?_segments (by simpa using hp)
        fun h => hslash ((Path.endsWith_slash _).mpr h))

theorem exists_put_of_write (h : d.write cwd p content now = .ok d') :
    ∃ place, d.locate cwd p = .ok place ∧ ¬ d.HasDirectory place ∧
      d' = d.put place (.file content now) := by
  unfold write at h
  split at h
  · cases h
  · next place isName hlocate =>
    split at h
    · cases h
    · next hname =>
      have hslash : ¬ p.text.endsWith "/" = true := fun hend => hname (by simp [hend])
      split at h
      · cases h
      · next hnode =>
        cases h
        refine ⟨place, locate_of_locateNew hslash hlocate, ?_, rfl⟩
        rintro ⟨modified, hdir⟩
        exact hnode modified hdir

/-- A file that was written is found and holds what was written; nothing else is another one. -/
theorem write_spec (h : d.write cwd p content now = .ok d') :
    d.Grows d' ∧ ∃ place, d'.locate cwd p = .ok place ∧ d'.file? place = some (content, now) ∧
      ∀ q, q ≠ place → d'.file? q = d.file? q := by
  obtain ⟨place, hlocate, hfile, rfl⟩ := exists_put_of_write h
  have hgrows : d.Grows (d.put place (.file content now)) :=
    fun q => (hasDirectory_put_file hfile content now q).mp
  refine ⟨hgrows, place, locate_mono hgrows hlocate, ?_, ?_⟩
  · exact file?_of_node? (by rw [node?_put_file hfile, if_pos rfl])
  · intro q hq
    exact file?_congr (by rw [node?_put_file hfile, if_neg hq])

end Disk

end EnvInline
