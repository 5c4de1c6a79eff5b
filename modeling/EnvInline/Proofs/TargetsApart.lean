import Mathlib.Data.List.Forall2
import EnvInline.Command.Target
import EnvInline.Proofs.WrittenFiles

/-!
# Targets apart

A target is a directory with names behind it, and names lead straight down. So no disk has two
different targets of one directory at one place, and the results of a run do not overwrite each
other: the targets of a list of files are pairwise `Apart`.

* `place_of_joinAll` — where names behind a path lead;
* `pairwise_apart_of_all` — the targets of some files are apart.
-/

namespace EnvInline

namespace Path

/-- No disk has both paths at one place. -/
def Apart (cwd p q : Path) : Prop :=
  ∀ (d : Disk) (place : Place), d.locate cwd p = .ok place → d.locate cwd q ≠ .ok place

/-- A name that a file or a directory can have: it leads down. -/
def LeadsDown (name : String) : Prop := IsName name ∧ name ≠ ".."

theorem LeadsDown.toList_ne {name : String} (h : LeadsDown name) :
    name.toList ≠ [] ∧ name.toList ≠ ['.'] ∧ name.toList ≠ ['.', '.'] := by
  obtain ⟨⟨hempty, hdot, -⟩, hup⟩ := h
  refine ⟨?_, ?_, ?_⟩
  · exact fun hname => hempty (String.toList_inj.mp hname)
  · exact fun hname => hdot (String.toList_inj.mp hname)
  · exact fun hname => hup (String.toList_inj.mp hname)

theorem same_self (p : Path) : p.same p = true := by
  simp [same]

/-! ## Names in a path -/

theorem exists_component?_of_mem {p : Path} {name : String} (h : .normal name ∈ p.components) :
    ∃ segment ∈ segments p.text.toList, component? segment = some (.normal name) := by
  have hlead : .normal name ∉ p.lead := by
    unfold lead
    split
    · simp
    · split <;> simp
  rw [components_eq] at h
  exact List.mem_filterMap.mp ((List.mem_append.mp h).resolve_left hlead)

theorem leadsDown_of_component? {segment : List Char} {name : String} (hslash : '/' ∉ segment)
    (h : component? segment = some (.normal name)) : LeadsDown name := by
  unfold component? at h
  split at h
  · cases h
  · next hstay =>
    split at h
    · cases h
    · next hup =>
      obtain rfl : String.ofList segment = name := by simpa using h
      rw [not_or] at hstay
      refine ⟨⟨?_, ?_, ?_⟩, ?_⟩
      · simpa using hstay.1
      · intro h
        exact hstay.2 (by simpa using congrArg String.toList h)
      · simpa using hslash
      · intro h
        exact hup (by simpa using congrArg String.toList h)

theorem leadsDown_of_mem_components {p : Path} {name : String}
    (h : .normal name ∈ p.components) : LeadsDown name := by
  obtain ⟨segment, hmem, hc⟩ := exists_component?_of_mem h
  exact leadsDown_of_component? (slash_notMem_of_mem_segments hmem) hc

theorem fileName?_eq_some_iff {p : Path} {name : String} :
    p.fileName? = some name ↔ p.components.getLast? = some (.normal name) := by
  unfold fileName?
  split
  · next last hlast => simp [hlast]
  · next hlast =>
    refine iff_of_false nofun ?_
    intro h
    exact hlast name h

/-! ## Names behind a path -/

/-- Names behind a path are segments behind its own. -/
theorem segmentsFrom_joinAll (cwd p : Path) {names : List String} (hne : names ≠ [])
    (hnames : ∀ n ∈ names, LeadsDown n) :
    Disk.segmentsFrom cwd (joinAll p names) =
      stem (Disk.segmentsFrom cwd p) ++ names.map String.toList := by
  obtain ⟨first, rest, rfl⟩ := List.exists_cons_of_ne_nil hne
  clear hne
  induction rest generalizing p first with
  | nil => exact segmentsFrom_join cwd p (hnames first (by simp)).1.2.2
  | cons second rest ih =>
    obtain ⟨hfirst, hrest⟩ := List.forall_mem_cons.mp hnames
    have hname : first.toList ≠ [] := by simpa using hfirst.1.1
    calc Disk.segmentsFrom cwd (joinAll (p.join ⟨first⟩) (second :: rest))
        = stem (Disk.segmentsFrom cwd (p.join ⟨first⟩)) ++ (second :: rest).map String.toList :=
          ih (p.join ⟨first⟩) second hrest
      _ = stem (Disk.segmentsFrom cwd p) ++ (first :: second :: rest).map String.toList := by
          rw [segmentsFrom_join cwd p hfirst.1.2.2, stem_append_singleton _ hname,
            List.append_assoc]
          rfl

end Path

namespace Disk

variable {d : Disk} {cwd p : Path} {here place : Place}

theorem place_of_step_name {n : String} (hn : Path.LeadsDown n)
    (h : d.step here n.toList = .ok place) : place = n :: here := by
  obtain ⟨hempty, hdot, hup⟩ := hn.toList_ne
  unfold step at h
  split at h
  · cases h
  · cases h
  · rw [if_neg (not_or.mpr ⟨hempty, hdot⟩), if_neg hup] at h
    dsimp only at h
    split at h
    · cases h
    · cases h
      rw [String.ofList_toList]

theorem place_of_walk_names {names : List String} (hnames : ∀ n ∈ names, Path.LeadsDown n)
    (h : d.walk here (names.map String.toList) = .ok place) : place = names.reverse ++ here := by
  induction names generalizing here with
  | nil => exact (Except.ok.inj h).symm
  | cons n ns ih =>
    obtain ⟨hn, hns⟩ := List.forall_mem_cons.mp hnames
    obtain ⟨next, hstep, hwalk⟩ := walk_cons_eq_ok_iff.mp h
    obtain rfl := place_of_step_name hn hstep
    rw [ih hns hwalk, List.reverse_cons, List.append_assoc, List.singleton_append]

/-- Names behind a path lead straight down from one place, and there is a directory at it. -/
theorem place_of_joinAll {names : List String} (hne : names ≠ [])
    (hnames : ∀ n ∈ names, Path.LeadsDown n) (h : d.locate cwd (Path.joinAll p names) = .ok place) :
    ∃ here, d.walk [] (Path.stem (segmentsFrom cwd p)) = .ok here ∧ d.HasDirectory here ∧
      place = names.reverse ++ here := by
  obtain ⟨-, hwalk⟩ := locate_eq_ok_iff.mp h
  rw [Path.segmentsFrom_joinAll cwd p hne hnames] at hwalk
  obtain ⟨here, hhere, hdown⟩ := walk_append_eq_ok_iff.mp hwalk
  have hdirectory := hasDirectory_of_walk (List.map_eq_nil_iff.not.mpr hne) hdown
  exact ⟨here, hhere, hdirectory, place_of_walk_names hnames hdown⟩

end Disk

namespace Command.Target

variable {outDir file target : Path} {names : List String}

theorem names?_eq_some_iff {cs : List Path.Component} :
    names? cs = some names ↔ cs.filter (· != .current) = names.map .normal := by
  induction cs generalizing names with
  | nil => simp [names?, eq_comm]
  | cons c cs ih =>
    cases c with
    | root => cases names <;> simp [names?]
    | parent => cases names <;> simp [names?]
    | current => simpa [names?] using ih
    | normal name =>
      cases names with
      | nil => simp [names?]
      | cons first rest => simp [names?, ih, and_comm]

/-- A target is at least one name behind the directory. -/
theorem leadsDown_of_within? (h : within? file = some names) :
    names ≠ [] ∧ ∀ n ∈ names, Path.LeadsDown n := by
  unfold within? at h
  split at h
  · cases h
  · next names' hempty hnames =>
    cases h
    refine ⟨fun hnil => hempty (hnil ▸ rfl), ?_⟩
    intro n hn
    have hmem : .normal n ∈ file.components.filter (· != .current) := by
      rw [names?_eq_some_iff.mp hnames]
      exact List.mem_map_of_mem hn
    exact Path.leadsDown_of_mem_components (List.mem_filter.mp hmem).1
  · obtain ⟨name, hname, rfl⟩ := Option.map_eq_some_iff.mp h
    refine ⟨by simp, List.forall_mem_singleton.mpr ?_⟩
    exact Path.leadsDown_of_mem_components
      (List.mem_of_getLast? (Path.fileName?_eq_some_iff.mp hname))

theorem eq_of_located {file' target' : Path} {cwd : Path} {d : Disk} {place : Place}
    (h : of? outDir file = some target) (h' : of? outDir file' = some target')
    (hplace : d.locate cwd target = .ok place) (hplace' : d.locate cwd target' = .ok place) :
    target = target' := by
  obtain ⟨names, hnames, rfl⟩ := Option.map_eq_some_iff.mp h
  obtain ⟨names', hnames', rfl⟩ := Option.map_eq_some_iff.mp h'
  obtain ⟨hne, hdown⟩ := leadsDown_of_within? hnames
  obtain ⟨hne', hdown'⟩ := leadsDown_of_within? hnames'
  obtain ⟨here, hhere, -, hp⟩ := Disk.place_of_joinAll hne hdown hplace
  obtain ⟨here', hhere', -, hp'⟩ := Disk.place_of_joinAll hne' hdown' hplace'
  obtain rfl : here = here' := Except.ok.inj (hhere.symm.trans hhere')
  have hreverse : names.reverse = names'.reverse := List.append_cancel_right (hp.symm.trans hp')
  rw [List.reverse_injective hreverse]

/-- A file needs a target that no file before it has. -/
theorem next_cons_eq_ok_iff {seen : List (Path × Path)} {files targets : List Path} :
    next outDir seen (file :: files) = .ok targets ↔
      ∃ target rest, of? outDir file = some target ∧ (∀ p ∈ seen, p.1.same target = false) ∧
        next outDir ((target, file) :: seen) files = .ok rest ∧ targets = target :: rest := by
  cases htarget : of? outDir file with
  | none => simp [next, htarget]
  | some target =>
    cases hfind : seen.find? fun p => p.1.same target with
    | some p =>
      have hmem : p ∈ seen := List.mem_of_find?_eq_some hfind
      have hsame : p.1.same target = true := by simpa using List.find?_some hfind
      refine iff_of_false (by simp [next, htarget, hfind]) ?_
      rintro ⟨target', rest, htarget', hseen, -⟩
      obtain rfl := Option.some.inj htarget'
      exact Bool.false_ne_true ((hseen p hmem).symm.trans hsame)
    | none =>
      have hfresh : ∀ p ∈ seen, p.1.same target = false := by simpa using hfind
      have hnext : next outDir seen (file :: files) =
          (next outDir ((target, file) :: seen) files).map (target :: ·) := by
        simp [next, htarget, hfind]
      rw [hnext]
      cases hrest : next outDir ((target, file) :: seen) files with
      | error e => simp [Except.map, hrest]
      | ok rest =>
        constructor
        · intro h
          obtain rfl := Except.ok.inj h
          exact ⟨target, rest, rfl, hfresh, hrest, rfl⟩
        · rintro ⟨target', rest', htarget', -, hrest', rfl⟩
          obtain rfl := Option.some.inj htarget'
          obtain rfl := Except.ok.inj (hrest.symm.trans hrest')
          rfl

/-- The targets are those of the files. No two are the same path, and none is one that was given
before. -/
theorem next_eq_ok_iff {seen : List (Path × Path)} {files targets : List Path} :
    next outDir seen files = .ok targets ↔
      List.Forall₂ (fun file target => of? outDir file = some target) files targets ∧
        targets.Pairwise (fun p q => p.same q = false) ∧
        ∀ t ∈ targets, ∀ p ∈ seen, p.1.same t = false := by
  induction files generalizing seen targets with
  | nil =>
    constructor
    · intro h
      cases h
      exact ⟨.nil, .nil, by simp⟩
    · rintro ⟨hfiles, -⟩
      cases hfiles
      rfl
  | cons file files ih =>
    rw [next_cons_eq_ok_iff]
    constructor
    · rintro ⟨target, rest, htarget, hfresh, hrest, rfl⟩
      obtain ⟨hfiles, hapart, hseen⟩ := ih.mp hrest
      refine ⟨.cons htarget hfiles, .cons ?_ hapart, ?_⟩
      · exact fun t ht => hseen t ht (target, file) List.mem_cons_self
      · rw [List.forall_mem_cons]
        exact ⟨hfresh, fun t ht p hp => hseen t ht p (List.mem_cons_of_mem _ hp)⟩
    · rintro ⟨hfiles, hapart, hseen⟩
      obtain ⟨target, rest, htarget, hrest, rfl⟩ := List.forall₂_cons_left_iff.mp hfiles
      obtain ⟨hfirst, hapart⟩ := List.pairwise_cons.mp hapart
      obtain ⟨hfresh, hseen⟩ := List.forall_mem_cons.mp hseen
      refine ⟨target, rest, htarget, hfresh, ih.mpr ⟨hrest, hapart, ?_⟩, rfl⟩
      intro t ht
      exact List.forall_mem_cons.mpr ⟨hfirst t ht, hseen t ht⟩

/-- The targets of some files are those of each, if no two are the same path. -/
theorem all_eq_ok_iff {files targets : List Path} :
    all outDir files = .ok targets ↔
      List.Forall₂ (fun file target => of? outDir file = some target) files targets ∧
        targets.Pairwise (fun p q => p.same q = false) := by
  rw [all, next_eq_ok_iff]
  simp

theorem length_of_all {files targets : List Path} (h : all outDir files = .ok targets) :
    targets.length = files.length := (all_eq_ok_iff.mp h).1.length_eq.symm

section Each

variable {files targets : List Path}
  (h : List.Forall₂ (fun file target => of? outDir file = some target) files targets)
include h

theorem exists_of?_of_mem (hfile : file ∈ files) : ∃ target, of? outDir file = some target := by
  induction h with
  | nil => simp at hfile
  | cons htarget _ ih =>
    rcases List.mem_cons.mp hfile with rfl | hfile
    · exact ⟨_, htarget⟩
    · exact ih hfile

theorem exists_file_of_mem (htarget : target ∈ targets) :
    ∃ file ∈ files, of? outDir file = some target := by
  induction h with
  | nil => simp at htarget
  | cons hfile _ ih =>
    rcases List.mem_cons.mp htarget with rfl | htarget
    · exact ⟨_, List.mem_cons_self, hfile⟩
    · obtain ⟨file, hmem, hof⟩ := ih htarget
      exact ⟨file, List.mem_cons_of_mem _ hmem, hof⟩

end Each

/-- The targets of some files are apart. -/
theorem pairwise_apart_of_all (cwd : Path) {files targets : List Path}
    (h : all outDir files = .ok targets) : targets.Pairwise (Path.Apart cwd) := by
  obtain ⟨hfiles, hdifferent⟩ := all_eq_ok_iff.mp h
  refine hdifferent.imp_of_mem ?_
  intro t t' ht ht' hdiffer d place hplace hplace'
  obtain ⟨file, -, hfile⟩ := exists_file_of_mem hfiles ht
  obtain ⟨file', -, hfile'⟩ := exists_file_of_mem hfiles ht'
  obtain rfl := eq_of_located hfile hfile' hplace hplace'
  rw [Path.same_self] at hdiffer
  cases hdiffer

end Command.Target

end EnvInline
