import EnvInline.Definition.Writer
import EnvInline.Proofs.LocalFiles
import EnvInline.Proofs.WrittenFiles

/-!
# Baking the values into the base file

The values of a resolution can be written into the base file: whatever text reads as exactly these
values, resolving again with the same environment and the same other files gives them back. What the
variables and the file of the mode put over the base file is in it already.

* `layered_layered` — putting the same layers over their own outcome changes nothing;
* `entriesOn_replaced` — what the other files read as when one file is replaced;
* `values_of_baked` — resolving over a baked base file.
-/

namespace EnvInline

/-! ## The layers over their own outcome -/

/-- The layers are absorbed by their outcome. The file of the mode may also have got lost, or have
become the outcome itself. -/
theorem layered_layered (o : Options) (e : Environment) (base mode : Mapping) {mode' : Mapping}
    (h : mode' = mode ∨ mode' = .empty ∨ mode' = Resolution.layered o base mode e) :
    Resolution.layered o (Resolution.layered o base mode e) mode' e =
      Resolution.layered o base mode e := by
  apply Mapping.ext_get?
  intro name
  have houtcome := get?_layered_last o base mode e name
  rw [get?_layered_last]
  cases hvariable : Resolution.variableValue? o e name with
  | some value =>
    rw [hvariable] at houtcome
    exact houtcome.symm
  | none =>
    rw [hvariable, Option.none_or] at houtcome
    rw [Option.none_or]
    rcases h with rfl | rfl | rfl
    · rw [houtcome]
      cases nonEmpty? (mode'.get? name) <;> rfl
    · rfl
    · -- a value that is empty is not put over itself, but it is there
      cases (Resolution.layered o base mode e).get? name with
      | none => rfl
      | some value =>
        rw [nonEmpty?_some]
        split <;> rfl

/-! ## Replacing one file -/

/-- The disks are the same at all places but the one where the path leads on the second one. -/
def Disk.SameBut (d d' : Disk) (cwd p : Path) : Prop :=
  ∀ place, d'.locate cwd p ≠ .ok place → d'.node? place = d.node? place

section Replaced

variable {d d' : Disk} {cwd p : Path} {content : List UInt8}

/-- Where a file is written, it is replaced. -/
theorem sameBut_of_write {time : Int} (h : d.write cwd p content time = .ok d') :
    d'.read cwd p = .ok content ∧ d.SameBut d' cwd p := by
  obtain ⟨place, hlocate, hfile, rfl⟩ := Disk.exists_put_of_write h
  have hlocate' := (Disk.locate_congr (Disk.hasDirectory_put_file hfile content time)).mp hlocate
  constructor
  · refine Disk.read_eq_ok_iff.mpr ⟨place, time, hlocate', Disk.file?_of_node? ?_⟩
    rw [Disk.node?_put_file hfile, if_pos rfl]
  · intro q hq
    rw [Disk.node?_put_file hfile, if_neg]
    rintro rfl
    exact hq hlocate'

section

variable (hread : d'.read cwd p = .ok content) (hothers : d.SameBut d' cwd p)
include hread hothers

/-- There is no directory that was not there before. -/
theorem grows_of_sameBut : d'.Grows d := by
  obtain ⟨place, modified, hlocate, hfile⟩ := Disk.read_eq_ok_iff.mp hread
  rintro q ⟨time, hnode⟩
  refine ⟨time, ?_⟩
  rw [← hothers q, hnode]
  intro hq
  obtain rfl : place = q := Except.ok.inj (hlocate.symm.trans hq)
  simp [Disk.file?, hnode] at hfile

/-- Any file reads as before, or as the one that was replaced, or its path leads nowhere any more. -/
theorem entriesOn_replaced (q : Path) :
    Definition.entriesOn d' cwd q = Definition.entriesOn d cwd q ∨
      Definition.entriesOn d' cwd q = .empty ∨
      Definition.entriesOn d' cwd q = Definition.entriesOn d' cwd p := by
  by_cases hlocated : ∃ place, d'.locate cwd q = .ok place
  · obtain ⟨place, hplace⟩ := hlocated
    by_cases hsame : d'.locate cwd p = .ok place
    · right
      right
      rw [entriesOn_of_located hplace, entriesOn_of_located hsame]
    · left
      have hbefore := Disk.locate_mono (grows_of_sameBut hread hothers) hplace
      rw [entriesOn_of_located hplace, entriesOn_of_located hbefore, hothers place hsame]
  · right
    left
    exact entriesOn_of_not_located fun place hplace => hlocated ⟨place, hplace⟩

end

end Replaced

/-! ## Resolving again -/

/-- On all disks and for all options and environments: if the base file is replaced by one that reads
as exactly the values of a resolution, and nothing else on the disk changes, resolving gives these
values again. -/
theorem values_of_baked (o : Options) (e : Environment) (cwd : Path) (now now' : Int) {d d' : Disk}
    {content : List UInt8} (hread : d'.read cwd o.path = .ok content)
    (hothers : d.SameBut d' cwd o.path)
    (hbaked : (Definition.read (Text.Utf8.toStringLossy content)).entries =
      ((Resolution.resolve o e cwd).run cwd now d).1.1.values) :
    ((Resolution.resolve o e cwd).run cwd now' d').1.1.values =
      ((Resolution.resolve o e cwd).run cwd now d).1.1.values := by
  rw [run_resolve] at hbaked
  rw [run_resolve, run_resolve]
  have hbase : Definition.entriesOn d' cwd o.path = (Resolution.on d cwd o e).values := by
    rw [← hbaked, Definition.entriesOn, hread]
  have hmode := entriesOn_replaced hread hothers (Candidates.of o.path (e.mode o.envName)).mode
  rw [hbase] at hmode
  calc (Resolution.on d' cwd o e).values
      = Resolution.layered o (Definition.entriesOn d' cwd o.path)
          (Definition.entriesOn d' cwd (Candidates.of o.path (e.mode o.envName)).mode) e := rfl
    _ = Resolution.layered o (Resolution.on d cwd o e).values
          (Definition.entriesOn d' cwd (Candidates.of o.path (e.mode o.envName)).mode) e := by
        rw [hbase]
    _ = (Resolution.on d cwd o e).values := layered_layered o e _ _ hmode

/-- In safe mode, with a variable that is empty and counts, one that is blocked, an empty entry in the
file of the mode, and a value of two lines. The base file is overwritten with the values as they are
written in a definition file. -/
theorem values_of_baked_qa :
    let o : Options := { Options.default with safe := true, blocklist := some ["LOW"] }
    let e : Environment := ⟨[("LOW", "leak"), ("KEY", ""), ("NODE_ENV", "qa")]⟩
    let cwd : Path := ⟨"/w"⟩
    let d : Disk := ⟨[(["w"], .directory 0),
      ([".env", "w"], .file (Text.Utf8.ofString "KEY=base\nLOW='x\ny'\n") 5),
      ([".env.qa", "w"], .file (Text.Utf8.ofString "LOW=\nMODE=qa # 1\n") 5)]⟩
    let values := ((Resolution.resolve o e cwd).run cwd 0 d).1.1.values
    let baked := Text.Utf8.ofString (Definition.write values)
    let d' := d.put [".env", "w"] (.file baked 9)
    d.write cwd o.path baked 9 = .ok d' ∧
      values.toList = [("KEY", ""), ("LOW", "x\ny"), ("MODE", "qa"), ("NODE_ENV", "qa")] ∧
      d'.read cwd o.path = .ok baked ∧ d.SameBut d' cwd o.path ∧
      (Definition.read (Text.Utf8.toStringLossy baked)).entries = values ∧
      ((Resolution.resolve o e cwd).run cwd 0 d').1.1.values = values := by
  intro o e cwd d values baked d'
  have hwrite : d.write cwd o.path baked 9 = .ok d' := by decide +kernel
  have hbaked : (Definition.read (Text.Utf8.toStringLossy baked)).entries = values := by
    decide +kernel
  obtain ⟨hread, hothers⟩ := sameBut_of_write hwrite
  exact ⟨hwrite, by decide +kernel, hread, hothers, hbaked,
    values_of_baked o e cwd 0 0 hread hothers hbaked⟩

end EnvInline
