import EnvInline.Proofs.RecordedPath
import EnvInline.Proofs.SiblingFiles

/-!
# Dependencies

A resolution tells which files its values depend on: the four candidates, by the paths that their
stamps record. Such a path is absolute unless the candidate is the empty path, and it takes the same
steps from the root as the candidate does from the directory. It goes astray in two ways only: the
system follows one of the two spellings and refuses the other one, or the candidate ends in `.`, which
asks for a directory, and the recorded path finds a file.

* `isAbsolute_fullPath` — which recorded paths are absolute;
* `find_fullPath_iff` — where a recorded path leads to something else;
* `dependencies_of_resolve` — what the dependencies of a resolution are.
-/

namespace EnvInline

open EnvInline.Path EnvInline.Stamp

/-- The first path is recorded as the second one, and on this disk that makes a difference. -/
inductive Astray (d : Disk) (cwd p q : Path) : Prop
  | refused :
    (Disk.refusal? p).isSome = true → (∃ found, d.find cwd q = .ok found) → Astray d cwd p q
  | recordedRefused :
    (Disk.refusal? q).isSome = true → (∃ found, d.find cwd p = .ok found) → Astray d cwd p q
  | dot {place : Place} {content : List UInt8} {modified : Int} :
    (segments p.text.toList).getLast? = some ['.'] →
    d.find cwd q = .ok (place, .file content modified) →
    Astray d cwd p q

/-- What a path finds is at the end of its steps. -/
theorem Disk.find_eq_ok_iff_steps {d : Disk} {cwd p : Path} {place : Place} {node : Node} :
    d.find cwd p = .ok (place, node) ↔
      refusal? p = none ∧ d.walk [] (stepsFrom cwd p) = .ok place ∧
        (p.Stays → d.HasDirectory place) ∧ d.node? place = some node := by
  rw [find_eq_ok_iff, locate_eq_ok_iff_steps, and_assoc, and_assoc]

/-- A node that is no file is a directory. -/
theorem Disk.hasDirectory_of_node? {d : Disk} {place : Place} {node : Node}
    (hnode : d.node? place = some node) (hfile : ∀ content modified, node ≠ .file content modified) :
    d.HasDirectory place := by
  cases node with
  | file content modified => exact absurd rfl (hfile content modified)
  | directory modified => exact ⟨modified, hnode⟩

theorem stays_of_dot {p : Path} (h : (segments p.text.toList).getLast? = some ['.']) : p.Stays :=
  ⟨['.'], h, rfl⟩

section Recorded

variable {cwd : Path} (hc : cwd.IsRooted)
include hc

theorem isAbsolute_fullPath (p : Path) : (fullPath cwd p).isAbsolute = true ↔ p.text ≠ "" := by
  unfold fullPath
  by_cases hp : p.text = ""
  · have hnone : absolute? cwd p = none := by
      rw [absolute?, hp]
      rfl
    have hrelative : ¬ p.isAbsolute = true := by
      rw [isAbsolute_iff, hp]
      simp
    rw [hnone, Option.getD_none]
    exact iff_of_false hrelative (not_not.mpr hp)
  · have hsome := absolute?_eq cwd hp
    have hfull := full_of_absolute? (.inr (full_of_absolute? (.inl hc.1) hc.2)) hsome
    rw [hsome, Option.getD_some]
    exact iff_of_true ((isAbsolute_iff _).mpr (full_head? hfull)) hp

variable {d : Disk} {p : Path}

/-- What the recorded path finds, the path finds, unless that goes astray. -/
theorem find_of_find_fullPath (h : ¬ Astray d cwd p (fullPath cwd p)) {place : Place} {node : Node}
    (hfind : d.find cwd (fullPath cwd p) = .ok (place, node)) : d.find cwd p = .ok (place, node) := by
  obtain ⟨-, hwalk, hstays, hnode⟩ := Disk.find_eq_ok_iff_steps.mp hfind
  rw [stepsFrom_fullPath hc] at hwalk
  refine Disk.find_eq_ok_iff_steps.mpr ⟨?_, hwalk, ?_, hnode⟩
  · by_contra hrefusal
    exact h (.refused (Option.isSome_iff_ne_none.mpr hrefusal) ⟨_, hfind⟩)
  · intro hp
    by_cases hdot : (segments p.text.toList).getLast? = some ['.']
    · -- the dot is not recorded, so it is up to the disk that no file is there
      refine Disk.hasDirectory_of_node? hnode ?_
      rintro content modified rfl
      exact h (.dot hdot hfind)
    · exact hstays ((stays_fullPath hc hdot).mpr hp)

/-- What the path finds, the recorded path finds, unless that goes astray. -/
theorem find_fullPath_of_find (h : ¬ Astray d cwd p (fullPath cwd p)) {place : Place} {node : Node}
    (hfind : d.find cwd p = .ok (place, node)) : d.find cwd (fullPath cwd p) = .ok (place, node) := by
  obtain ⟨-, hwalk, hstays, hnode⟩ := Disk.find_eq_ok_iff_steps.mp hfind
  rw [← stepsFrom_fullPath hc] at hwalk
  refine Disk.find_eq_ok_iff_steps.mpr ⟨?_, hwalk, ?_, hnode⟩
  · by_contra hrefusal
    exact h (.recordedRefused (Option.isSome_iff_ne_none.mpr hrefusal) ⟨_, hfind⟩)
  · intro hq
    by_cases hdot : (segments p.text.toList).getLast? = some ['.']
    · exact hstays (stays_of_dot hdot)
    · exact hstays ((stays_fullPath hc hdot).mp hq)

/-- A path and its recorded form find the same, unless that goes astray. -/
theorem find_fullPath_iff :
    (∀ found, d.find cwd (fullPath cwd p) = .ok found ↔ d.find cwd p = .ok found) ↔
      ¬ Astray d cwd p (fullPath cwd p) := by
  constructor
  · rintro hsame (⟨hrefused, found, hfound⟩ | ⟨hrefused, found, hfound⟩ | ⟨hdot, hfile⟩)
    · obtain ⟨hnone, -⟩ := Disk.find_eq_ok_iff_steps.mp ((hsame found).mp hfound)
      rw [hnone] at hrefused
      cases hrefused
    · obtain ⟨hnone, -⟩ := Disk.find_eq_ok_iff_steps.mp ((hsame found).mpr hfound)
      rw [hnone] at hrefused
      cases hrefused
    · obtain ⟨-, -, hstays, hnode⟩ := Disk.find_eq_ok_iff_steps.mp ((hsame _).mp hfile)
      obtain ⟨modified, hdirectory⟩ := hstays (stays_of_dot hdot)
      rw [hnode] at hdirectory
      cases hdirectory
  · intro h found
    exact ⟨find_of_find_fullPath hc h, find_fullPath_of_find hc h⟩

end Recorded

/-- The base path is the only candidate that can be empty. -/
theorem Candidates.forall_text_ne_iff (base : Path) (mode : String) :
    (∀ p ∈ (of base mode).toList, p.text ≠ "") ↔ base.text ≠ "" := by
  rw [toList_of, List.forall_mem_map]
  constructor
  · intro h
    simpa using h "" (by simp [endings])
  · rintro hbase ending - hempty
    exact hbase (String.append_eq_empty_iff.mp hempty).1

/-- For all options and environments, seen from the working directory.

* There are four dependencies, in the order of the candidates.
* A dependency is absolute unless its candidate is the empty path; it takes the same steps from the
  root, and on every disk it finds the same, unless it goes astray there.
* So all of them are absolute exactly if the base path is not empty. -/
theorem dependencies_of_resolve {cwd : Path} (hc : cwd.IsRooted) (o : Options) (e : Environment)
    (now : Int) (d : Disk) :
    let r := ((Resolution.resolve o e cwd).run cwd now d).1.1
    let dependencies := r.fingerprint.dependencies
    dependencies.length = 4 ∧
    List.Forall₂ (fun p q => (q.isAbsolute = true ↔ p.text ≠ "") ∧
        stepsFrom cwd q = stepsFrom cwd p ∧
        ∀ d' : Disk, (∀ found, d'.find cwd q = .ok found ↔ d'.find cwd p = .ok found) ↔
          ¬ Astray d' cwd p q)
      r.files.toList dependencies ∧
    ((∀ q ∈ dependencies, q.isAbsolute = true) ↔ o.path.text ≠ "") := by
  intro r dependencies
  have hr : r = Resolution.on d cwd o e := run_resolve o e cwd now d
  have hfiles : r.files = Candidates.of o.path r.mode := by
    rw [hr]
    rfl
  have hdependencies : dependencies = r.files.toList.map (fullPath cwd) := by
    have hfingerprint : r.fingerprint = Fingerprint.on d cwd r.files := by
      rw [hr]
      rfl
    show r.fingerprint.stamps.map Stamp.path = _
    rw [hfingerprint, Fingerprint.on, List.map_map]
    rfl
  refine ⟨?_, ?_, ?_⟩
  · rw [hdependencies, List.length_map]
    rfl
  · rw [hdependencies, List.forall₂_map_right_iff, List.forall₂_same]
    intro p _
    exact ⟨isAbsolute_fullPath hc p, stepsFrom_fullPath hc p, fun d' => find_fullPath_iff hc⟩
  · rw [hdependencies, List.forall_mem_map, ← Candidates.forall_text_ne_iff o.path r.mode, ← hfiles]
    simp only [isAbsolute_fullPath hc]

/-- A base path with a dot and a double slash: the dependencies are absolute, and the file that the
first of them finds is the base file. -/
theorem dependencies_of_resolve_qa :
    let cwd : Path := ⟨"/w"⟩
    let o : Options := { Options.default with path := ⟨"./conf//.env"⟩ }
    let e : Environment := ⟨[("NODE_ENV", "qa")]⟩
    let d : Disk := ⟨[(["w"], .directory 0), (["conf", "w"], .directory 0),
      ([".env", "conf", "w"], .file [] 5)]⟩
    let r := ((Resolution.resolve o e cwd).run cwd 0 d).1.1
    let dependencies := r.fingerprint.dependencies
    cwd.IsRooted ∧ dependencies = [⟨"/w/conf/.env"⟩, ⟨"/w/conf/.env.local"⟩, ⟨"/w/conf/.env.qa"⟩,
        ⟨"/w/conf/.env.qa.local"⟩] ∧
      (∀ q ∈ dependencies, q.isAbsolute = true) ∧ ¬ Astray d cwd o.path ⟨"/w/conf/.env"⟩ ∧
      d.find cwd ⟨"/w/conf/.env"⟩ = .ok ([".env", "conf", "w"], .file [] 5) ∧
      d.find cwd o.path = .ok ([".env", "conf", "w"], .file [] 5) := by
  intro cwd o e d r dependencies
  have hc : cwd.IsRooted := by decide +kernel
  have hlist : dependencies = [⟨"/w/conf/.env"⟩, ⟨"/w/conf/.env.local"⟩, ⟨"/w/conf/.env.qa"⟩,
      ⟨"/w/conf/.env.qa.local"⟩] := by decide +kernel
  have hfound : d.find cwd ⟨"/w/conf/.env"⟩ = .ok ([".env", "conf", "w"], .file [] 5) := by
    decide +kernel
  have hright : ¬ Astray d cwd o.path ⟨"/w/conf/.env"⟩ := by
    rintro (⟨hrefused, -⟩ | ⟨hrefused, -⟩ | ⟨hdot, -⟩)
    · exact absurd hrefused (by decide +kernel)
    · exact absurd hrefused (by decide +kernel)
    · exact absurd hdot (by decide +kernel)
  have hspec := dependencies_of_resolve hc o e 0 d
  change _ ∧ List.Forall₂ _ r.files.toList dependencies ∧
    ((∀ q ∈ dependencies, q.isAbsolute = true) ↔ _) at hspec
  obtain ⟨-, hall, habsolute⟩ := hspec
  rw [hlist, Candidates.toList, List.forall₂_cons] at hall
  obtain ⟨⟨-, -, hfind⟩, -⟩ := hall
  have hsame : ∀ found, d.find cwd ⟨"/w/conf/.env"⟩ = .ok found ↔ d.find cwd o.path = .ok found :=
    (hfind d).mpr hright
  exact ⟨hc, hlist, habsolute.mpr (by decide), hright, hfound, (hsame _).mp hfound⟩

/-- The empty base path is recorded as it is, and not from the root. A base path that ends in `/.` is
recorded without it, and then a file is found where the path itself finds none. -/
theorem empty_path_recorded :
    let cwd : Path := ⟨"/w"⟩
    let d : Disk := ⟨[(["w"], .directory 0), (["x", "w"], .file [] 5)]⟩
    let dependencies (base : Path) := ((Resolution.resolve { Options.default with path := base }
      ⟨[]⟩ cwd).run cwd 0 d).1.1.fingerprint.dependencies
    (∃ q ∈ dependencies ⟨""⟩, q.isAbsolute = false) ∧
      (dependencies ⟨"x/."⟩).head? = some ⟨"/w/x"⟩ ∧
      d.find cwd ⟨"/w/x"⟩ = .ok (["x", "w"], .file [] 5) ∧
      d.find cwd ⟨"x/."⟩ = .error .notDirectory := by
  decide +kernel

end EnvInline
