import Mathlib.Algebra.Order.BigOperators.Group.List
import Mathlib.Algebra.Order.Group.Nat
import Mathlib.Control.Monad.Basic
import EnvInline.Proofs.Concatenation
import EnvInline.Proofs.Places
import EnvInline.Proofs.Precedence

/-!
# Local files

Of the four candidates the two local ones are watched and not read. Their content, and whether they
exist, is no matter for the values, unless a file that is read is one of them under another name.

* `suffix_eq_of_located` — two names that begin alike are at one place if they are the same name;
* `local_files_unread` — when exactly the local files do not matter; a mode without slashes has to
  be `local` for them to matter.
-/

namespace EnvInline

namespace Candidates

/-- One of the two local candidates is at the place. -/
def LocalAt (files : Candidates) (cwd : Path) (d : Disk) (place : Place) : Prop :=
  d.locate cwd files.baseLocal = .ok place ∨ d.locate cwd files.modeLocal = .ok place

/-- The disks differ at most in the content and the existence of the local candidates. -/
def DifferInLocals (files : Candidates) (cwd : Path) (d d' : Disk) : Prop :=
  ∀ place, d.node? place = d'.node? place ∨
    files.LocalAt cwd d place ∧ ¬ d.HasDirectory place ∧ ¬ d'.HasDirectory place

/-- A file that is read is at the place of a local candidate. -/
def ReadsLocal (files : Candidates) (cwd : Path) (d : Disk) : Prop :=
  ∃ place, (d.locate cwd files.base = .ok place ∨ d.locate cwd files.mode = .ok place) ∧
    files.LocalAt cwd d place ∧ ¬ d.HasDirectory place

end Candidates

namespace Path

theorem isAbsolute_append (p : Path) {t : String} (ht : '/' ∉ t.toList) :
    (Path.mk (p.text ++ t)).isAbsolute = p.isAbsolute := by
  have hhead : t.toList.head? ≠ some '/' := fun h => ht (List.mem_of_mem_head? h)
  unfold isAbsolute
  rw [String.toList_append, List.head?_append]
  cases p.text.toList.head? with
  | none => simpa using hhead
  | some c => rfl

theorem exists_segmentsFrom_append (cwd p : Path) :
    ∃ init last, ∀ t : String, '/' ∉ t.toList →
      Disk.segmentsFrom cwd ⟨p.text ++ t⟩ = init ++ [last ++ t.toList] := by
  obtain ⟨init, last, h⟩ := exists_segments_append p.text.toList
  by_cases habs : p.isAbsolute
  · refine ⟨init, last, ?_⟩
    intro t ht
    rw [Disk.segmentsFrom, isAbsolute_append p ht, if_pos habs, String.toList_append, h _ ht]
  · refine ⟨segments cwd.text.toList ++ init, last, ?_⟩
    intro t ht
    rw [Disk.segmentsFrom, isAbsolute_append p ht, if_neg habs, String.toList_append, h _ ht,
      List.append_assoc]

end Path

/-- A path leads to a place by a last step from the place of the segments before it. -/
theorem Disk.exists_step_of_locate {d : Disk} {cwd p : Path} {place : Place}
    {init : List (List Char)} {last : List Char}
    (hsegments : Disk.segmentsFrom cwd p = init ++ [last]) (h : d.locate cwd p = .ok place) :
    ∃ here, d.walk [] init = .ok here ∧ d.step here last = .ok place := by
  obtain ⟨-, hwalk⟩ := locate_eq_ok_iff.mp h
  rw [hsegments] at hwalk
  obtain ⟨here, hhere, hlast⟩ := walk_append_eq_ok_iff.mp hwalk
  obtain ⟨next, hstep, hend⟩ := walk_cons_eq_ok_iff.mp hlast
  obtain rfl : next = place := Except.ok.inj hend
  exact ⟨here, hhere, hstep⟩

/-- Two endings of one path, the second of which makes a name, lead to one place only if they are
the same ending. -/
theorem suffix_eq_of_located {d : Disk} {cwd p : Path} {place : Place} {t t' : String}
    (ht : '/' ∉ t.toList) (ht' : '/' ∉ t'.toList) (hlong : 3 ≤ t'.toList.length)
    (h : d.locate cwd ⟨p.text ++ t⟩ = .ok place) (h' : d.locate cwd ⟨p.text ++ t'⟩ = .ok place) :
    t = t' := by
  obtain ⟨init, last, hsegments⟩ := Path.exists_segmentsFrom_append cwd p
  obtain ⟨here, hhere, hstep⟩ := Disk.exists_step_of_locate (hsegments t ht) h
  obtain ⟨here', hhere', hstep'⟩ := Disk.exists_step_of_locate (hsegments t' ht') h'
  obtain rfl : here = here' := Except.ok.inj (hhere.symm.trans hhere')
  have hname : place = String.ofList (last ++ t'.toList) :: here := by
    refine (Disk.place_of_step hstep').resolve_left ?_
    rintro ⟨hshort, -⟩
    rw [List.length_append] at hshort
    omega
  rcases Disk.place_of_step hstep with ⟨-, hup⟩ | hsame
  · rw [hname, List.length_cons] at hup
    omega
  · rw [hname] at hsame
    have hlist := String.ofList_inj.mp (List.cons.inj hsame).1
    exact (String.toList_inj.mp (List.append_cancel_left hlist)).symm

/-! ## Values from the disk -/

section Values

variable {d d' : Disk} {cwd p : Path} {place : Place} {files : Candidates}

theorem entriesOn_of_located (h : d.locate cwd p = .ok place) :
    Definition.entriesOn d cwd p =
      match d.node? place with
      | some (.file content _) => (Definition.read (Text.Utf8.toStringLossy content)).entries
      | _ => .empty := by
  simp only [Definition.entriesOn, Disk.read, Disk.find, h]
  cases d.node? place with
  | none => rfl
  | some node => cases node <;> rfl

theorem entriesOn_of_not_located (h : ∀ place, d.locate cwd p ≠ .ok place) :
    Definition.entriesOn d cwd p = .empty := by
  unfold Definition.entriesOn Disk.read Disk.find
  cases hlocate : d.locate cwd p with
  | error e => rfl
  | ok place => exact absurd hlocate (h place)

/-- The entries of a file are those of the node that its path leads to. -/
theorem entriesOn_congr_node (hdir : ∀ q, d.HasDirectory q ↔ d'.HasDirectory q)
    (hnode : ∀ place, d.locate cwd p = .ok place → d.node? place = d'.node? place) :
    Definition.entriesOn d cwd p = Definition.entriesOn d' cwd p := by
  by_cases hlocated : ∃ place, d.locate cwd p = .ok place
  · obtain ⟨place, h⟩ := hlocated
    rw [entriesOn_of_located h, entriesOn_of_located ((Disk.locate_congr hdir).mp h), hnode place h]
  · have hnowhere : ∀ place, d.locate cwd p ≠ .ok place := fun place h => hlocated ⟨place, h⟩
    have hnowhere' : ∀ place, d'.locate cwd p ≠ .ok place :=
      fun place h => hnowhere place ((Disk.locate_congr hdir).mpr h)
    rw [entriesOn_of_not_located hnowhere, entriesOn_of_not_located hnowhere']

theorem Candidates.DifferInLocals.hasDirectory (h : files.DifferInLocals cwd d d') (q : Place) :
    d.HasDirectory q ↔ d'.HasDirectory q := by
  rcases h q with hsame | ⟨-, hd, hd'⟩
  · exact Disk.hasDirectory_congr hsame
  · exact iff_of_false hd hd'

theorem Candidates.DifferInLocals.trans {d'' : Disk} (h : files.DifferInLocals cwd d d')
    (h' : files.DifferInLocals cwd d' d'') : files.DifferInLocals cwd d d'' := by
  intro place
  rcases h place with hsame | ⟨hat, hd, hd'⟩
  · rcases h' place with hsame' | ⟨hat', hd', hd''⟩
    · exact .inl (hsame.trans hsame')
    · have hat : files.LocalAt cwd d place :=
        hat'.imp (Disk.locate_congr h.hasDirectory).mpr (Disk.locate_congr h.hasDirectory).mpr
      exact .inr ⟨hat, (h.hasDirectory place).not.mpr hd', hd''⟩
  · exact .inr ⟨hat, hd, (h'.hasDirectory place).not.mp hd'⟩

/-- A file that is at no place of a local candidate has the same entries on both disks. -/
theorem entriesOn_of_not_readsLocal (hlocal : ¬ files.ReadsLocal cwd d)
    (h : files.DifferInLocals cwd d d') (hp : p = files.base ∨ p = files.mode) :
    Definition.entriesOn d cwd p = Definition.entriesOn d' cwd p := by
  refine entriesOn_congr_node h.hasDirectory ?_
  intro place hplace
  rcases h place with hsame | ⟨hat, hfile, -⟩
  · exact hsame
  · have hread : d.locate cwd files.base = .ok place ∨ d.locate cwd files.mode = .ok place := by
      rcases hp with rfl | rfl
      · exact .inl hplace
      · exact .inr hplace
    exact absurd ⟨place, hread, hat, hfile⟩ hlocal

/-! ### Another content for a local file -/

section Put

variable (hfile : ¬ d.HasDirectory place) (content : List UInt8) (modified : Int)
include hfile

theorem differInLocals_put (hat : files.LocalAt cwd d place) :
    files.DifferInLocals cwd d (d.put place (.file content modified)) := by
  intro q
  by_cases hq : q = place
  · subst hq
    exact .inr ⟨hat, hfile, (Disk.hasDirectory_put_file hfile content modified q).not.mp hfile⟩
  · left
    rw [Disk.node?_put_file hfile, if_neg hq]

/-- What a file has entries for afterwards: the new content, if it is at that place. -/
theorem entriesOn_put (p : Path) :
    Definition.entriesOn (d.put place (.file content modified)) cwd p =
      if d.locate cwd p = .ok place then
        (Definition.read (Text.Utf8.toStringLossy content)).entries
      else Definition.entriesOn d cwd p := by
  have hdir := Disk.hasDirectory_put_file hfile content modified
  by_cases h : d.locate cwd p = .ok place
  · rw [if_pos h, entriesOn_of_located ((Disk.locate_congr hdir).mp h), Disk.node?_put_file hfile,
      if_pos rfl]
  · rw [if_neg h]
    refine (entriesOn_congr_node hdir ?_).symm
    intro place' hplace'
    have hne : place' ≠ place := fun heq => h (heq ▸ hplace')
    rw [Disk.node?_put_file hfile, if_neg hne]

end Put

end Values

/-- The value of a name that the environment does not know is that of the files. -/
theorem get?_layered_of_notMem (o : Options) (base mode : Mapping) {e : Environment} {name : String}
    (h : name ∉ e.variables.map (·.1)) :
    (Resolution.layered o base mode e).get? name =
      (nonEmpty? (mode.get? name)).or (base.get? name) := by
  rw [get?_layered_last, variableValue?_of_notMem o h, Option.none_or]

namespace Definition

open EnvInline.Text

/-- A name of so many letters, and one more. -/
def longName (n : Nat) : String := String.ofList (List.replicate (n + 1) 'A')

/-- A file that defines the name. -/
def longFile (n : Nat) : List UInt8 := Utf8.ofString (longName n ++ "=1\n")

theorem exists_longName_notMem (names : List String) : ∃ n, longName n ∉ names := by
  refine ⟨(names.map String.length).sum, ?_⟩
  intro h
  have hle := List.le_sum_of_mem (List.mem_map_of_mem (f := String.length) h)
  simp only [longName, String.length_ofList, List.length_replicate] at hle
  omega

theorem get?_read_longFile (n : Nat) :
    (read (Utf8.toStringLossy (longFile n))).entries.get? (longName n) = some "1" := by
  have hletter : ∀ c ∈ List.replicate (n + 1) 'A', c = 'A' :=
    fun c hc => (List.mem_replicate.mp hc).2
  have hname : ∀ c ∈ List.replicate (n + 1) 'A', Assignment.isNameChar c = true := by
    intro c hc
    rw [hletter c hc]
    decide
  have htext : (longName n ++ "=1\n").toList =
      (List.replicate (n + 1) 'A' ++ '=' :: ['1']) ++ '\n' :: [] := by
    simp [longName]
  have hreturn : '\r' ∉ (longName n ++ "=1\n").toList := by
    rw [htext]
    simp
  have hline : '\n' ∉ List.replicate (n + 1) 'A' ++ '=' :: ['1'] := by simp
  have hroles : roles 0 (splitLines (longName n ++ "=1\n").toList) =
      [.assignment (longName n) "1", .blank] := by
    rw [htext, roles_newline hline, readLine_name (by simp) hname]
    rfl
  rw [longFile, Utf8.toStringLossy_ofString, read_of_notMem hreturn, readLines]
  simp only [hroles]
  simp [assignments, Mapping.get?_ofList]

theorem get?_read_empty (name : String) :
    (read (Utf8.toStringLossy (Utf8.ofString ""))).entries.get? name = none := by
  rw [Utf8.toStringLossy_ofString]
  rfl

end Definition

/-! ## Values and local files -/

/-- If a file that is read is a local candidate, one of two contents for it makes a difference. -/
theorem exists_values_ne {cwd : Path} {d : Disk} {files : Candidates} (o : Options)
    (e : Environment) (h : files.ReadsLocal cwd d) :
    ∃ d', files.DifferInLocals cwd d d' ∧
      Resolution.layered o (Definition.entriesOn d' cwd files.base)
          (Definition.entriesOn d' cwd files.mode) e ≠
        Resolution.layered o (Definition.entriesOn d cwd files.base)
          (Definition.entriesOn d cwd files.mode) e := by
  obtain ⟨place, hread, hat, hfile⟩ := h
  -- a name that neither the environment nor the two files know
  obtain ⟨n, hn⟩ := Definition.exists_longName_notMem (e.variables.map (·.1) ++
    ((Definition.entriesOn d cwd files.base).toList.map (·.1) ++
      (Definition.entriesOn d cwd files.mode).toList.map (·.1)))
  rw [List.mem_append, List.mem_append, not_or, not_or] at hn
  obtain ⟨hvariable, hbase, hmode⟩ := hn
  have hunknown : ∀ m : Mapping, Definition.longName n ∉ m.toList.map (·.1) →
      m.get? (Definition.longName n) = none := by
    intro m hm
    rw [← Mapping.lookup_toList, Mapping.lookup_eq_none_of_notMem hm]
  have hempty : ∀ p, Definition.longName n ∉ (Definition.entriesOn d cwd p).toList.map (·.1) →
      (Definition.entriesOn (d.put place (.file (Text.Utf8.ofString "") 0)) cwd p).get?
        (Definition.longName n) = none := by
    intro p hp
    rw [entriesOn_put hfile]
    split
    · exact Definition.get?_read_empty _
    · exact hunknown _ hp
  have hfull : ∀ p, d.locate cwd p = .ok place →
      (Definition.entriesOn (d.put place (.file (Definition.longFile n) 0)) cwd p).get?
        (Definition.longName n) = some "1" := by
    intro p hp
    rw [entriesOn_put hfile, if_pos hp]
    exact Definition.get?_read_longFile n
  -- the values are the same with either content only if the name has a value with neither
  by_contra hall
  push Not at hall
  have hsame := (hall _ (differInLocals_put hfile (Definition.longFile n) 0 hat)).trans
    (hall _ (differInLocals_put hfile (Text.Utf8.ofString "") 0 hat)).symm
  have hvalue := congrArg (·.get? (Definition.longName n)) hsame
  simp only [get?_layered_of_notMem o _ _ hvariable, hempty _ hbase, hempty _ hmode,
    nonEmpty?_none, Option.none_or, Option.or_eq_none_iff] at hvalue
  rcases hread with hp | hp
  · rw [hfull _ hp] at hvalue
    cases hvalue.2
  · rw [hfull _ hp] at hvalue
    cases hvalue.1

/-- Without a slash in the mode, a local candidate is read under the mode `local` only. -/
theorem readsLocal_iff (base : Path) {mode : String} (hslash : '/' ∉ mode.toList) (cwd : Path)
    (d : Disk) :
    (Candidates.of base mode).ReadsLocal cwd d ↔
      mode = "local" ∧ ∃ place,
        d.locate cwd (Candidates.of base mode).baseLocal = .ok place ∧ ¬ d.HasDirectory place := by
  -- the four candidates are the base path with four endings
  have hbase : (Candidates.of base mode).base = ⟨base.text ++ ""⟩ := by
    rw [String.append_empty]
    rfl
  have hlocal : (Candidates.of base mode).baseLocal = ⟨base.text ++ ".local"⟩ :=
    congrArg Path.mk String.append_assoc
  have hmode : (Candidates.of base mode).mode = ⟨base.text ++ ("." ++ mode)⟩ :=
    congrArg Path.mk String.append_assoc
  have hmodeLocal : (Candidates.of base mode).modeLocal =
      ⟨base.text ++ ("." ++ mode ++ ".local")⟩ := by
    apply Path.ext
    simp [Candidates.of, Path.withSuffix]
  have hslashLocal : '/' ∉ ".local".toList := by decide
  have hslashMode : '/' ∉ ("." ++ mode).toList := by simpa using hslash
  have hslashModeLocal : '/' ∉ ("." ++ mode ++ ".local").toList := by simpa using hslash
  have hlong : 3 ≤ ("." ++ mode ++ ".local").toList.length := by simp
  constructor
  · rintro ⟨place, hread, hat, hfile⟩
    rw [hbase, hmode] at hread
    rw [Candidates.LocalAt, hlocal, hmodeLocal] at hat
    rcases hread with hread | hread <;> rcases hat with hat | hat
    · exact absurd (suffix_eq_of_located (by simp) hslashLocal (by decide) hread hat) (by decide)
    · have hends := suffix_eq_of_located (by simp) hslashModeLocal hlong hread hat
      have hlength := congrArg (fun t : String => t.toList.length) hends
      simp at hlength
    · have hends := suffix_eq_of_located hslashMode hslashLocal (by decide) hread hat
      refine ⟨?_, place, hlocal ▸ hat, hfile⟩
      apply String.toList_inj.mp
      simpa using congrArg String.toList hends
    · have hends := suffix_eq_of_located hslashMode hslashModeLocal hlong hread hat
      have hlength := congrArg (fun t : String => t.toList.length) hends
      simp at hlength
  · rintro ⟨rfl, place, hat, hfile⟩
    exact ⟨place, .inr hat, .inl hat, hfile⟩

/-- For all options and environments: the values are the same on all disks that differ in the local
candidates only, exactly when no file that is read is one of these. -/
theorem local_files_unread (o : Options) (e : Environment) (cwd : Path) (now : Int) (d : Disk) :
    let resolved (d : Disk) := ((Resolution.resolve o e cwd).run cwd now d).1.1
    let files := (resolved d).files
    ((∀ d', files.DifferInLocals cwd d d' → (resolved d').values = (resolved d).values) ↔
        ¬ files.ReadsLocal cwd d) ∧
      ('/' ∉ (resolved d).mode.toList →
        (files.ReadsLocal cwd d ↔ (resolved d).mode = "local" ∧
          ∃ place, d.locate cwd files.baseLocal = .ok place ∧ ¬ d.HasDirectory place)) := by
  intro resolved files
  have hresolved : ∀ d, resolved d = Resolution.on d cwd o e := run_resolve o e cwd now
  have hfiles : files = Candidates.of o.path (e.mode o.envName) :=
    congrArg Resolution.files (hresolved d)
  refine ⟨⟨?_, ?_⟩, ?_⟩
  · intro hall hreads
    obtain ⟨d', hdiffer, hne⟩ := exists_values_ne o e hreads
    refine hne ?_
    have hsame := hall d' hdiffer
    rw [hresolved, hresolved] at hsame
    rw [hfiles]
    exact hsame
  · intro hreads d' hdiffer
    have hbase := entriesOn_of_not_readsLocal hreads hdiffer (.inl rfl)
    have hmode := entriesOn_of_not_readsLocal hreads hdiffer (.inr rfl)
    rw [hfiles] at hbase hmode
    rw [hresolved, hresolved, Resolution.on, Resolution.on]
    dsimp only
    rw [hbase, hmode]
  · intro hslash
    rw [hresolved] at hslash ⊢
    rw [hfiles]
    exact readsLocal_iff o.path hslash cwd d

/-- Under the mode `qa` the values stay when one local file changes and the other one turns up. -/
theorem local_files_unread_qa :
    let e : Environment := ⟨[("NODE_ENV", "qa")]⟩
    let d : Disk := ⟨[(["w"], .directory 0),
      ([".env", "w"], .file (Text.Utf8.ofString "A=1\n") 5),
      ([".env.local", "w"], .file (Text.Utf8.ofString "A=2\n") 5)]⟩
    let d' := (d.put [".env.local", "w"] (.file (Text.Utf8.ofString "A=3\n") 6)).put
      [".env.qa.local", "w"] (.file (Text.Utf8.ofString "A=4\n") 7)
    let resolved (d : Disk) := ((Resolution.resolve .default e ⟨"/w"⟩).run ⟨"/w"⟩ 0 d).1.1
    '/' ∉ (resolved d).mode.toList ∧ (resolved d).files.DifferInLocals ⟨"/w"⟩ d d' ∧
      (resolved d').values = (resolved d).values ∧ (resolved d').values.get? "A" = some "1" := by
  intro e d d' resolved
  have hslash : '/' ∉ (resolved d).mode.toList := by decide +kernel
  have hdiffer : (resolved d).files.DifferInLocals ⟨"/w"⟩ d d' := by
    refine (differInLocals_put ?_ _ _ (.inl (by decide +kernel))).trans
      (differInLocals_put ?_ _ _ (.inr (by decide +kernel)))
    · rintro ⟨modified, h⟩
      cases h
    · rintro ⟨modified, h⟩
      cases h
  obtain ⟨hsame, hreads⟩ := local_files_unread .default e ⟨"/w"⟩ 0 d
  have hmode : (resolved d).mode ≠ "local" := by decide +kernel
  have hvalues := hsame.mpr (fun h => hmode ((hreads hslash).mp h).1) d' hdiffer
  exact ⟨hslash, hdiffer, hvalues, hvalues ▸ by decide +kernel⟩

/-- Under the mode `local` the file of the mode is the local file of the base: its entries count. -/
theorem local_file_read :
    let e : Environment := ⟨[("NODE_ENV", "local")]⟩
    let d : Disk := ⟨[(["w"], .directory 0),
      ([".env", "w"], .file (Text.Utf8.ofString "A=1\n") 5)]⟩
    let d' := d.put [".env.local", "w"] (.file (Text.Utf8.ofString "A=2\n") 6)
    let resolved (d : Disk) := ((Resolution.resolve .default e ⟨"/w"⟩).run ⟨"/w"⟩ 0 d).1.1
    (resolved d).files.DifferInLocals ⟨"/w"⟩ d d' ∧ (resolved d).values.get? "A" = some "1" ∧
      (resolved d').values.get? "A" = some "2" := by
  intro e d d' resolved
  have hdiffer : (resolved d).files.DifferInLocals ⟨"/w"⟩ d d' := by
    refine differInLocals_put ?_ _ _ (.inl (by decide +kernel))
    rintro ⟨modified, h⟩
    cases h
  exact ⟨hdiffer, by decide +kernel, by decide +kernel⟩

end EnvInline
