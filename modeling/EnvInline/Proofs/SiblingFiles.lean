import Mathlib.Data.List.DropRight
import EnvInline.Proofs.TargetsWithin
import EnvInline.Proofs.Undisturbed

/-!
# Sibling files

The candidates are the base path with four endings. An ending goes to the text, so it belongs to what
stands behind the last slash there. If that is a name, and the mode has no slash, the candidates are
siblings: they lie in one directory, and each has the name of the base file with its ending. A mode
with a slash, or a base path that ends in a slash or in dots, breaks this.

* `Path.append_eq_join` — an ending goes to the entry of the directory that a path is written in;
* `siblings_of_iff` — when the candidates are siblings;
* `Disk.leadsDown_of_file` — a file is found at a name only;
* `siblings_iff` — siblings, by what is written and on every disk.
-/

namespace EnvInline

namespace Path

/-- The directory that a path is written in: its text up to the last slash. -/
def directory (p : Path) : Path := ⟨String.ofList (p.text.toList.rdropWhile (· ≠ '/'))⟩

/-- What the path is in that directory: its text behind the last slash. This need not be a name. -/
def entry (p : Path) : String := String.ofList (p.text.toList.rtakeWhile (· ≠ '/'))

theorem slash_notMem_entry (p : Path) : '/' ∉ p.entry.toList := by
  intro h
  rw [entry, String.toList_ofList] at h
  simpa using List.mem_rtakeWhile_imp h

theorem directory_append_entry (p : Path) : p.directory.text ++ p.entry = p.text := by
  have hparts : p.text.toList.rdropWhile (· ≠ '/') ++ p.text.toList.rtakeWhile (· ≠ '/') =
      p.text.toList := by
    rw [List.rdropWhile, List.rtakeWhile, ← List.reverse_append, List.takeWhile_append_dropWhile,
      List.reverse_reverse]
  rw [directory, entry, ← String.ofList_append, hparts, String.ofList_toList]

/-- The directory is empty, or it ends in a slash. -/
theorem directory_ends (p : Path) :
    p.directory.text = "" ∨ p.directory.text.toList.getLast? = some '/' := by
  by_cases hnil : p.text.toList.rdropWhile (· ≠ '/') = []
  · left
    rw [directory, hnil, String.ofList_nil]
  · right
    have hlast := List.rdropWhile_last_not (· ≠ '/') p.text.toList hnil
    rw [directory, String.toList_ofList, List.getLast?_eq_some_getLast hnil]
    simpa using hlast

/-- An ending without a slash goes to the entry. -/
theorem append_eq_join (p : Path) {t : String} (ht : '/' ∉ t.toList) :
    (⟨p.text ++ t⟩ : Path) = p.directory.join ⟨p.entry ++ t⟩ := by
  have hrelative : ¬ (Path.mk (p.entry ++ t)).isAbsolute = true := by
    intro habsolute
    have hslash := List.mem_of_mem_head? ((isAbsolute_iff _).mp habsolute)
    rw [String.toList_append, List.mem_append] at hslash
    exact hslash.elim (slash_notMem_entry p) ht
  have hend : (p.directory.text.isEmpty || p.directory.text.toList.getLast? == some '/') = true := by
    rcases directory_ends p with hempty | hslash
    · rw [hempty]
      rfl
    · simp [hslash]
  rw [join, if_neg hrelative, if_pos hend, ← String.append_assoc, directory_append_entry]

theorem joinAll_singleton (p : Path) (n : String) : joinAll p [n] = p.join ⟨n⟩ := rfl

theorem leadsDown_of_length {n : String} (hslash : '/' ∉ n.toList) (h : 3 ≤ n.toList.length) :
    LeadsDown n := by
  have hne : ∀ s : String, s.toList.length ≤ 2 → n ≠ s := by
    rintro s hs rfl
    omega
  exact ⟨⟨hne "" (by decide), hne "." (by decide), hslash⟩, hne ".." (by decide)⟩

/-- A name with an ending is a name. -/
theorem LeadsDown.append {n t : String} (h : LeadsDown n) (ht : '/' ∉ t.toList) :
    LeadsDown (n ++ t) := by
  obtain ⟨hempty, hdot, hup⟩ := h.toList_ne
  have hslash : '/' ∉ (n ++ t).toList := by
    rw [String.toList_append, List.mem_append]
    exact not_or.mpr ⟨h.1.2.2, ht⟩
  have hne : ∀ (s : String) (dots : ℕ), dots ≤ 2 → s.toList = List.replicate dots '.' →
      n ++ t ≠ s := by
    intro s dots hdots hs heq
    have hfront : n.toList <+: List.replicate dots '.' :=
      ⟨t.toList, by rw [← hs, ← heq, String.toList_append]⟩
    have hall : ∀ c ∈ n.toList, c = '.' := fun c hc =>
      List.eq_of_mem_replicate (hfront.subset hc)
    have hn : n.toList = List.replicate n.toList.length '.' := List.eq_replicate_of_mem hall
    have hle := hfront.length_le
    rw [List.length_replicate] at hle
    -- one dot or two
    generalize n.toList.length = k at hn hle
    match k with
    | 0 => exact hempty hn
    | 1 => exact hdot hn
    | 2 => exact hup hn
    | k + 3 => omega
  exact ⟨⟨hne "" 0 (by omega) rfl, hne "." 1 (by omega) rfl, hslash⟩,
    hne ".." 2 le_rfl rfl⟩

end Path

open EnvInline.Path

namespace Candidates

/-- What the candidates have behind the base path, in their order. -/
def endings (mode : String) : List String := ["", ".local", "." ++ mode, "." ++ mode ++ ".local"]

/-- The candidates lie in one directory, and each has the name of the first with its ending. -/
def Siblings (files : Candidates) (mode : String) : Prop :=
  ∃ front name, files.toList.map components =
    (endings mode).map fun t => front ++ [.normal (name ++ t)]

theorem toList_of (base : Path) (mode : String) :
    (of base mode).toList = (endings mode).map fun t => ⟨base.text ++ t⟩ := by
  simp [toList, of, endings, withSuffix, String.append_assoc]

theorem slash_notMem_of_mem_endings {mode t : String} (hmode : '/' ∉ mode.toList)
    (ht : t ∈ endings mode) : '/' ∉ t.toList := by
  simp only [endings, List.mem_cons, List.not_mem_nil, or_false] at ht
  rcases ht with rfl | rfl | rfl | rfl
  · simp
  · decide
  · simpa using hmode
  · simpa using hmode

/-- By what is written, the candidates are siblings exactly if the base path ends in a name and the
mode has no slash. -/
theorem siblings_of_iff (base : Path) (mode : String) :
    (of base mode).Siblings mode ↔ LeadsDown base.entry ∧ '/' ∉ mode.toList := by
  constructor
  · rintro ⟨front, name, hall⟩
    rw [toList_of, List.map_map, List.map_inj_left] at hall
    have hbase : components ⟨base.text ++ ""⟩ = front ++ [.normal (name ++ "")] :=
      hall "" (by simp [endings])
    have hlocal : components ⟨base.text ++ ".local"⟩ = front ++ [.normal (name ++ ".local")] :=
      hall ".local" (by simp [endings])
    have hmode : components ⟨base.text ++ ("." ++ mode)⟩ =
        front ++ [.normal (name ++ ("." ++ mode))] := hall ("." ++ mode) (by simp [endings])
    -- the local file is in the directory that the base path is written in
    have hslash : '/' ∉ ".local".toList := by decide
    have hname : LeadsDown (base.entry ++ ".local") := by
      refine leadsDown_of_length ?_ ?_
      · rw [String.toList_append, List.mem_append]
        exact not_or.mpr ⟨slash_notMem_entry base, hslash⟩
      · rw [String.toList_append, List.length_append]
        exact Nat.le_add_left_of_le (by decide)
    rw [append_eq_join base hslash, components_join _ hname] at hlocal
    have hentry : base.entry = name := by
      have hlast := congrArg List.getLast? hlocal
      rw [List.getLast?_concat, List.getLast?_concat, Option.some.injEq, Component.normal.injEq,
        ← String.toList_inj, String.toList_append, String.toList_append] at hlast
      exact String.toList_inj.mp (List.append_cancel_right hlast)
    subst hentry
    constructor
    · refine leadsDown_of_mem_components (p := base) ?_
      rw [String.append_empty, String.append_empty] at hbase
      simp [hbase]
    · have hdown : LeadsDown (base.entry ++ ("." ++ mode)) :=
        leadsDown_of_mem_components (by rw [hmode]; simp)
      have hfree := hdown.1.2.2
      simp only [String.toList_append, List.mem_append, not_or] at hfree
      exact hfree.2.2
  · rintro ⟨hentry, hmode⟩
    refine ⟨base.directory.components, base.entry, ?_⟩
    rw [toList_of, List.map_map]
    refine List.map_congr_left ?_
    intro t ht
    have hslash := slash_notMem_of_mem_endings hmode ht
    rw [Function.comp_apply, append_eq_join base hslash, components_join _ (hentry.append hslash)]

end Candidates

/-- A file is found at a name only: everything else leads to a directory. -/
theorem Disk.leadsDown_of_file {d : Disk} {cwd dir : Path} {n : String} {place : Place}
    {content : List UInt8} {modified : Int} (hn : '/' ∉ n.toList)
    (h : d.find cwd (dir.join ⟨n⟩) = .ok (place, .file content modified)) : LeadsDown n := by
  obtain ⟨hlocate, hnode⟩ := find_eq_ok_iff.mp h
  have hfile : ¬ d.HasDirectory place := by
    rintro ⟨modified', hdirectory⟩
    rw [hnode] at hdirectory
    cases hdirectory
  obtain ⟨-, hwalk⟩ := locate_eq_ok_iff.mp hlocate
  rw [segmentsFrom_join cwd dir hn] at hwalk
  obtain ⟨here, hhere, hlast⟩ := walk_append_eq_ok_iff.mp hwalk
  obtain ⟨next, hstep, hend⟩ := walk_cons_eq_ok_iff.mp hlast
  obtain rfl : next = place := Except.ok.inj hend
  obtain ⟨hdirectory, ⟨-, rfl⟩ | ⟨-, rfl⟩ | ⟨hname, -⟩⟩ := step_cases hstep
  · exact absurd hdirectory hfile
  · -- going up leads to where the walk has been, or stays at the root
    cases here with
    | nil => exact absurd hdirectory hfile
    | cons first above => exact absurd ((reached_nil d).walk hhere 1 Nat.one_pos) hfile
  · rw [String.ofList_toList] at hname
    exact leadsDown_of_component? hn hname

/-- For all options and environments.

* By what is written, the candidates are siblings exactly if the base path ends in a name and the mode
  has no slash.
* If the mode has no slash, then on every disk each candidate that is a file lies in the directory
  that the base path is written in, as the entry that the base path is for, with its ending. -/
theorem siblings_iff (o : Options) (e : Environment) (cwd : Path) (now : Int) (d : Disk) :
    let r := ((Resolution.resolve o e cwd).run cwd now d).1.1
    (r.files.Siblings r.mode ↔ LeadsDown o.path.entry ∧ '/' ∉ r.mode.toList) ∧
    ('/' ∉ r.mode.toList → ∀ d' : Disk, List.Forall₂ (fun p ending => ∀ place content modified,
        d'.find cwd p = .ok (place, .file content modified) →
          ∃ here, d'.locate cwd (o.path.directory.join ⟨"."⟩) = .ok here ∧
            place = (o.path.entry ++ ending) :: here)
      r.files.toList (Candidates.endings r.mode)) := by
  intro r
  have hr : r = Resolution.on d cwd o e := run_resolve o e cwd now d
  have hfiles : r.files = Candidates.of o.path r.mode := by rw [hr]; rfl
  rw [hfiles]
  refine ⟨Candidates.siblings_of_iff o.path r.mode, ?_⟩
  intro hmode d'
  rw [Candidates.toList_of, List.forall₂_map_left_iff, List.forall₂_same]
  intro ending hending place content modified hfind
  have hslash := Candidates.slash_notMem_of_mem_endings hmode hending
  rw [append_eq_join o.path hslash] at hfind
  have hname : LeadsDown (o.path.entry ++ ending) := by
    refine Disk.leadsDown_of_file ?_ hfind
    rw [String.toList_append, List.mem_append]
    exact not_or.mpr ⟨slash_notMem_entry o.path, hslash⟩
  have hlocate := (Disk.find_eq_ok_iff.mp hfind).1
  rw [← joinAll_singleton] at hlocate
  exact Disk.locate_join_dot (List.cons_ne_nil _ []) (List.forall_mem_singleton.mpr hname) hlocate

/-- Under the mode `qa` the candidates of `conf/.env` are siblings, and the file of the mode is found
next to the base file. -/
theorem siblings_iff_qa :
    let o : Options := { Options.default with path := ⟨"conf/.env"⟩ }
    let e : Environment := ⟨[("NODE_ENV", "qa")]⟩
    let cwd : Path := ⟨"/w"⟩
    let d : Disk := ⟨[(["w"], .directory 0), (["conf", "w"], .directory 0),
      ([".env.qa", "conf", "w"], .file [] 5)]⟩
    let r := ((Resolution.resolve o e cwd).run cwd 0 d).1.1
    LeadsDown ".env" ∧ '/' ∉ r.mode.toList ∧ r.files.Siblings r.mode ∧
      d.find cwd r.files.mode = .ok ([".env.qa", "conf", "w"], .file [] 5) ∧
      d.locate cwd ⟨"conf/."⟩ = .ok ["conf", "w"] := by
  intro o e cwd d r
  have hentry : LeadsDown ".env" :=
    leadsDown_of_length (by decide) (by decide)
  have hmode : '/' ∉ r.mode.toList := by decide +kernel
  have hfind : d.find cwd r.files.mode = .ok ([".env.qa", "conf", "w"], .file [] 5) := by
    decide +kernel
  have hspec := siblings_iff o e cwd 0 d
  change (r.files.Siblings r.mode ↔ _) ∧ (_ → ∀ d', List.Forall₂ _ r.files.toList _) at hspec
  obtain ⟨hsiblings, hfiles⟩ := hspec
  have hpath : o.path.entry = ".env" := by decide +kernel
  have hdirectory : o.path.directory.join ⟨"."⟩ = ⟨"conf/."⟩ := by decide +kernel
  have hfile := hfiles hmode d
  simp only [Candidates.toList, Candidates.endings, List.forall₂_cons] at hfile
  obtain ⟨-, -, hmodeFile, -⟩ := hfile
  obtain ⟨here, hhere, hplace⟩ := hmodeFile _ _ _ hfind
  obtain rfl : ["conf", "w"] = here := (List.cons.inj hplace).2
  exact ⟨hentry, hmode, hsiblings.mpr ⟨hpath ▸ hentry, hmode⟩, hfind, hdirectory ▸ hhere⟩

/-- A mode with slashes leads out of the directory of the base file, and what is found there counts.
A base path that ends in a slash has its candidates in itself and not beside it. -/
theorem candidates_apart :
    let o : Options := { Options.default with path := ⟨"conf/.env"⟩ }
    let e : Environment := ⟨[("NODE_ENV", "x/../../secret")]⟩
    let cwd : Path := ⟨"/w"⟩
    let d : Disk := ⟨[(["w"], .directory 0), (["conf", "w"], .directory 0),
      ([".env.x", "conf", "w"], .directory 0),
      ([".env", "conf", "w"], .file (Text.Utf8.ofString "A=1") 5),
      (["secret", "w"], .file (Text.Utf8.ofString "A=2") 5)]⟩
    let r := ((Resolution.resolve o e cwd).run cwd 0 d).1.1
    ¬ r.files.Siblings r.mode ∧ d.locate cwd r.files.base = .ok [".env", "conf", "w"] ∧
      d.locate cwd r.files.mode = .ok ["secret", "w"] ∧ r.values.get? "A" = some "2" ∧
      ¬ (Candidates.of ⟨"conf/"⟩ "qa").Siblings "qa" := by
  intro o e cwd d r
  have hapart : ¬ (Candidates.of o.path r.mode).Siblings r.mode := by
    rw [Candidates.siblings_of_iff]
    rintro ⟨-, hmode⟩
    exact hmode (by decide +kernel)
  have hslash : ¬ (Candidates.of ⟨"conf/"⟩ "qa").Siblings "qa" := by
    rw [Candidates.siblings_of_iff]
    rintro ⟨⟨⟨hempty, -⟩, -⟩, -⟩
    exact hempty (by decide +kernel)
  exact ⟨hapart, by decide +kernel, by decide +kernel, by decide +kernel, hslash⟩

end EnvInline
