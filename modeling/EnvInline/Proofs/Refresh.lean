import Mathlib.Data.List.Induction
import EnvInline.Proofs.Precedence
import EnvInline.Proofs.Staleness
import EnvInline.Session

/-!
# Refreshing

A pass is a cache: it keeps the resolution of some moment, and only a construction or a refresh that
finds a stamp changed replaces it. Over every run of a session,

* `passAct_of_not_renews` — nothing else replaces it;
* `pass_of_lastRenewal` — it is what resolving gave at the last such moment;
* `resolution_over_session` — right after a refresh it is not stale, and it is what resolving would
  give now, provided that no content has changed behind an unchanged stamp.
-/

namespace EnvInline.Session

/-- The action makes a new resolution: it builds the pass, or it is a refresh that says so. -/
def renews (s : Session) (cwd : Path) (now : Int) : Action → Bool
  | .build _ => true
  | .refresh => (s.act cwd now .refresh).answer == .refreshed true
  | _ => false

/-- In a run from `s₀`, the session `m` is the one in which the last new resolution was made. -/
def LastRenewal (cwd : Path) (now : Int) (s₀ : Session) (actions : List Action) (m : Session) :
    Prop :=
  ∃ before a after, actions = before ++ a :: after ∧ m = s₀.actAll cwd now before ∧
    m.renews cwd now a = true ∧
    ∀ x b y, after = x ++ b :: y →
      (s₀.actAll cwd now (before ++ a :: x)).renews cwd now b = false

/-- The options of the last construction among some actions. -/
def lastBuilt? (actions : List Action) : Option Options :=
  actions.foldl (fun last a => match a with
    | .build o => some o
    | _ => last) none

/-! ## One action -/

section Step

variable (s : Session) (cwd : Path) (now : Int)

theorem act_build (o : Options) :
    (s.act cwd now (.build o)).session =
      { s with pass? := some ⟨o, Resolution.on s.disk cwd o s.environment⟩ } := by
  simp [act, Pass.build, run_resolve, run_resolve_disk]

theorem act_refresh_of_stale {p : Pass} (hp : s.pass? = some p)
    (h : p.resolution.fingerprint.isStaleOn s.disk cwd = true) :
    (s.act cwd now .refresh).session =
        { s with pass? := some ⟨p.options, Resolution.on s.disk cwd p.options s.environment⟩ } ∧
      (s.act cwd now .refresh).answer = .refreshed true := by
  simp [act, hp, Pass.refresh, Pass.isStale, h, Pass.build, run_resolve, run_resolve_disk]

theorem act_refresh_of_not_stale {p : Pass} (hp : s.pass? = some p)
    (h : p.resolution.fingerprint.isStaleOn s.disk cwd = false) :
    (s.act cwd now .refresh).session = s ∧
      (s.act cwd now .refresh).answer = .refreshed false := by
  obtain ⟨disk, environment, pass?⟩ := s
  obtain rfl : pass? = some p := hp
  simp [act, Pass.refresh, Pass.isStale, h]

theorem act_checkStale {p : Pass} (hp : s.pass? = some p) :
    (s.act cwd now .checkStale).answer =
      .stale (p.resolution.fingerprint.isStaleOn s.disk cwd) := by
  simp [act, hp, Pass.isStale]

/-- What makes no new resolution leaves the pass alone. -/
theorem passAct_of_not_renews {a : Action} (h : s.renews cwd now a = false) :
    (s.act cwd now a).session.pass? = s.pass? := by
  cases a with
  | change c => cases hc : s.disk.change cwd now c <;> simp [act, hc]
  | setVariable name value => rfl
  | build o => simp [renews] at h
  | refresh =>
    cases hp : s.pass? with
    | none => simp [act, hp]
    | some p =>
      cases hs : p.resolution.fingerprint.isStaleOn s.disk cwd with
      | true =>
        have hanswer := (act_refresh_of_stale s cwd now hp hs).2
        simp [renews, hanswer] at h
      | false => rw [(act_refresh_of_not_stale s cwd now hp hs).1, hp]
  | checkStale =>
    cases hp : s.pass? with
    | none => simp [act, hp]
    | some p => simp [act, hp]
  | transform file =>
    cases hp : s.pass? with
    | none => simp [act, hp]
    | some p => cases ht : p.transform file <;> simp [act, hp, ht]

/-- What makes a new resolution makes it of the disk and the environment of the moment. -/
theorem passAct_of_renews {a : Action} (h : s.renews cwd now a = true) :
    ∃ o, (s.act cwd now a).session.pass? =
      some ⟨o, Resolution.on s.disk cwd o s.environment⟩ := by
  cases a with
  | build o => exact ⟨o, by rw [act_build]⟩
  | refresh =>
    cases hp : s.pass? with
    | none => simp [renews, act, hp] at h
    | some p =>
      cases hs : p.resolution.fingerprint.isStaleOn s.disk cwd with
      | true => exact ⟨p.options, by rw [(act_refresh_of_stale s cwd now hp hs).1]⟩
      | false =>
        have hanswer := (act_refresh_of_not_stale s cwd now hp hs).2
        simp [renews, hanswer] at h
  | _ => simp [renews] at h

/-- Only a construction changes the options of the pass. -/
theorem optionsAct (a : Action) :
    (s.act cwd now a).session.pass?.map Pass.options =
      match a with
      | .build o => some o
      | _ => s.pass?.map Pass.options := by
  cases hr : s.renews cwd now a with
  | false =>
    rw [passAct_of_not_renews s cwd now hr]
    cases a <;> simp [renews] at hr ⊢
  | true =>
    cases a with
    | build o => rw [act_build]; rfl
    | refresh =>
      cases hp : s.pass? with
      | none => simp [renews, act, hp] at hr
      | some p =>
        cases hs : p.resolution.fingerprint.isStaleOn s.disk cwd with
        | true => rw [(act_refresh_of_stale s cwd now hp hs).1]; rfl
        | false => rw [(act_refresh_of_not_stale s cwd now hp hs).1, hp]
    | _ => simp [renews] at hr

end Step

/-! ## Runs -/

section Run

variable {cwd : Path} {now : Int} {s₀ m : Session} {actions : List Action}

theorem actAll_snoc (a : Action) :
    s₀.actAll cwd now (actions ++ [a]) = ((s₀.actAll cwd now actions).act cwd now a).session := by
  simp [actAll, List.foldl_append]

theorem distinct_set {e : Environment} (h : e.Distinct) (name : String) (value : Option String) :
    (e.set name value).Distinct := by
  have hfilter : ((e.variables.filter (·.1 != name)).map (·.1)).Nodup :=
    (List.filter_sublist.map _).nodup h
  cases value with
  | none => exact hfilter
  | some v =>
    refine List.nodup_cons.mpr ⟨?_, hfilter⟩
    intro hmem
    obtain ⟨q, hq, hname⟩ := List.mem_map.mp hmem
    have hne := (List.mem_filter.mp hq).2
    simp [hname] at hne

theorem distinct_act {s : Session} (h : s.environment.Distinct) (a : Action) :
    (s.act cwd now a).session.environment.Distinct := by
  cases a with
  | change c => cases hc : s.disk.change cwd now c <;> simpa [act, hc] using h
  | setVariable name value => exact distinct_set h name value
  | build o => rw [act_build]; exact h
  | refresh =>
    cases hp : s.pass? with
    | none => simpa [act, hp] using h
    | some p =>
      cases hs : p.resolution.fingerprint.isStaleOn s.disk cwd with
      | true => rw [(act_refresh_of_stale s cwd now hp hs).1]; exact h
      | false => rw [(act_refresh_of_not_stale s cwd now hp hs).1]; exact h
  | checkStale =>
    cases hp : s.pass? with
    | none => simpa [act, hp] using h
    | some p => simpa [act, hp] using h
  | transform file =>
    cases hp : s.pass? with
    | none => simpa [act, hp] using h
    | some p => cases ht : p.transform file <;> simpa [act, hp, ht] using h

theorem distinct_actAll (h : s₀.environment.Distinct) (actions : List Action) :
    (s₀.actAll cwd now actions).environment.Distinct := by
  induction actions generalizing s₀ with
  | nil => exact h
  | cons a as ih => exact ih (distinct_act h a)

theorem lastRenewal_of_renews {a : Action}
    (h : (s₀.actAll cwd now actions).renews cwd now a = true) :
    LastRenewal cwd now s₀ (actions ++ [a]) (s₀.actAll cwd now actions) :=
  ⟨actions, a, [], rfl, rfl, h, fun x b y hxy => by simp at hxy⟩

theorem LastRenewal.snoc (hm : LastRenewal cwd now s₀ actions m) {a : Action}
    (h : (s₀.actAll cwd now actions).renews cwd now a = false) :
    LastRenewal cwd now s₀ (actions ++ [a]) m := by
  obtain ⟨before, b, after, rfl, hbefore, hb, hafter⟩ := hm
  refine ⟨before, b, after ++ [a], by simp, hbefore, hb, ?_⟩
  intro x c y hxy
  -- the later action is the new one, or it came before it
  rcases List.append_eq_append_iff.mp hxy with ⟨z, hx, hy⟩ | ⟨z, hx, hy⟩
  · cases z with
    | nil =>
      obtain ⟨rfl, -⟩ := List.cons.inj hy
      rw [hx, List.append_nil]
      exact h
    | cons d z => simp at hy
  · cases z with
    | nil =>
      obtain ⟨rfl, -⟩ := List.cons.inj hy
      rw [List.append_nil] at hx
      rw [← hx]
      exact h
    | cons d z =>
      obtain ⟨rfl, -⟩ := List.cons.inj hy
      exact hafter x c z hx

theorem LastRenewal.environment_distinct (hm : LastRenewal cwd now s₀ actions m)
    (hd : s₀.environment.Distinct) : m.environment.Distinct := by
  obtain ⟨before, -, -, -, rfl, -, -⟩ := hm
  exact distinct_actAll hd before

/-- In every run that starts without a pass, a pass holds what resolving came to when the last new
resolution was made. -/
theorem pass_of_lastRenewal (hnew : s₀.pass? = none) (actions : List Action) {p : Pass}
    (hp : (s₀.actAll cwd now actions).pass? = some p) :
    ∃ m, LastRenewal cwd now s₀ actions m ∧
      p.resolution = Resolution.on m.disk cwd p.options m.environment := by
  induction actions using List.reverseRecOn generalizing p with
  | nil =>
    have hnone : (s₀.actAll cwd now []).pass? = none := hnew
    rw [hnone] at hp
    cases hp
  | append_singleton actions a ih =>
    rw [actAll_snoc] at hp
    cases hr : (s₀.actAll cwd now actions).renews cwd now a with
    | true =>
      obtain ⟨o, ho⟩ := passAct_of_renews _ cwd now hr
      rw [hp, Option.some.injEq] at ho
      exact ⟨_, lastRenewal_of_renews hr, by rw [ho]⟩
    | false =>
      rw [passAct_of_not_renews _ cwd now hr] at hp
      obtain ⟨m, hm, hres⟩ := ih hp
      exact ⟨m, hm.snoc hr, hres⟩

/-- The options of the pass are those of the last construction. -/
theorem options_actAll (hnew : s₀.pass? = none) (actions : List Action) :
    (s₀.actAll cwd now actions).pass?.map Pass.options = lastBuilt? actions := by
  induction actions using List.reverseRecOn with
  | nil =>
    have hnone : (s₀.actAll cwd now []).pass? = none := hnew
    rw [hnone]
    rfl
  | append_singleton actions a ih =>
    rw [actAll_snoc, optionsAct, ih, lastBuilt?, lastBuilt?, List.foldl_append]
    cases a <;> rfl

end Run

/-! ## What a resolution depends on -/

/-- Resolving looks at the values of variables, not at the order in which they are listed. -/
theorem resolutionOn_congr_environment {e e' : Environment} (hd : e.Distinct) (hd' : e'.Distinct)
    (h : ∀ name, e.var? name = e'.var? name) (d : Disk) (cwd : Path) (o : Options) :
    Resolution.on d cwd o e = Resolution.on d cwd o e' := by
  have hmode : e.mode o.envName = e'.mode o.envName := by
    rw [mode_eq, mode_eq, h, h, h]
  have hvalues : ∀ base mode,
      Resolution.layered o base mode e = Resolution.layered o base mode e' := by
    intro base mode
    apply Mapping.ext_get?
    intro name
    rw [get?_layered o base mode hd, get?_layered o base mode hd']
    unfold Resolution.valueOf
    rw [h]
  unfold Resolution.on
  dsimp only
  rw [hmode, hvalues]

/-- Two disks with the same stamps and contents of the candidates come to the same resolution. -/
theorem resolutionOn_congr_disk {d d₀ : Disk} {cwd : Path} {o : Options} {e : Environment}
    (hstamp : ∀ f ∈ (Candidates.of o.path (e.mode o.envName)).toList,
      Stamp.on d cwd f = Stamp.on d₀ cwd f)
    (hread : ∀ f ∈ (Candidates.of o.path (e.mode o.envName)).toList,
      d.read cwd f = d₀.read cwd f) :
    Resolution.on d cwd o e = Resolution.on d₀ cwd o e := by
  have hentries : ∀ f ∈ (Candidates.of o.path (e.mode o.envName)).toList,
      Definition.entriesOn d cwd f = Definition.entriesOn d₀ cwd f :=
    fun f hf => entriesOn_congr (hread f hf)
  have hprint : Fingerprint.on d cwd (Candidates.of o.path (e.mode o.envName)) =
      Fingerprint.on d₀ cwd (Candidates.of o.path (e.mode o.envName)) := by
    unfold Fingerprint.on
    rw [List.map_inj_left.mpr hstamp]
  unfold Resolution.on
  dsimp only
  rw [hprint, hentries _ (by simp [Candidates.toList]), hentries _ (by simp [Candidates.toList])]

/-! ## After a refresh -/

theorem not_stale_of_fresh {cwd : Path} (hc : cwd.IsRooted) (d : Disk) (o : Options)
    (e : Environment) : (Resolution.on d cwd o e).fingerprint.isStaleOn d cwd = false :=
  (isStaleOn_eq_false_iff hc d d _).mpr fun _ _ => rfl

/-- A refresh leaves a pass that is not stale on the disk it leaves. -/
theorem not_stale_after_refresh {cwd : Path} (hc : cwd.IsRooted) (now : Int) {s : Session}
    {p : Pass} (hp : s.pass? = some p) :
    ∃ p', (s.act cwd now .refresh).session.pass? = some p' ∧
      p'.resolution.fingerprint.isStaleOn (s.act cwd now .refresh).session.disk cwd = false := by
  cases hs : p.resolution.fingerprint.isStaleOn s.disk cwd with
  | true =>
    rw [(act_refresh_of_stale s cwd now hp hs).1]
    exact ⟨_, rfl, not_stale_of_fresh hc s.disk p.options s.environment⟩
  | false =>
    rw [(act_refresh_of_not_stale s cwd now hp hs).1]
    exact ⟨p, hp, hs⟩

/-- When nothing hides behind an unchanged stamp, a refresh leaves what resolving gives now. -/
theorem pass_after_refresh {cwd : Path} (hc : cwd.IsRooted) (now : Int) {s m : Session} {p : Pass}
    (hp : s.pass? = some p) (hres : p.resolution = Resolution.on m.disk cwd p.options m.environment)
    (hd : s.environment.Distinct) (hdm : m.environment.Distinct)
    (henv : ∀ name, s.environment.var? name = m.environment.var? name)
    (hread : ∀ f ∈ p.resolution.files.toList,
      (Stamp.on s.disk cwd f).modified = (Stamp.on m.disk cwd f).modified →
        s.disk.read cwd f = m.disk.read cwd f) :
    (s.act cwd now .refresh).session.pass? =
      some ⟨p.options, Resolution.on s.disk cwd p.options s.environment⟩ := by
  cases hs : p.resolution.fingerprint.isStaleOn s.disk cwd with
  | true => rw [(act_refresh_of_stale s cwd now hp hs).1]
  | false =>
    rw [(act_refresh_of_not_stale s cwd now hp hs).1, hp]
    rw [hres] at hs hread
    have hstamp := (isStaleOn_eq_false_iff hc s.disk m.disk _).mp hs
    have hsame : Resolution.on s.disk cwd p.options m.environment = p.resolution := by
      rw [hres]
      exact resolutionOn_congr_disk hstamp fun f hf => hread f hf (by rw [hstamp f hf])
    rw [resolutionOn_congr_environment hd hdm henv, hsame]

/-- In every run that starts without a pass:

* an action that makes no new resolution leaves the pass as it is, and the options are those of the
  last construction;
* the resolution is what resolving gave on the disk and the environment of the last renewal;
* right after a refresh, as long as disk and pass stay the same, the pass is not stale and another
  refresh changes nothing;
* if the variables are those of the last renewal and no candidate reads differently under an
  unchanged stamp, a refresh leaves what resolving gives on the disk as it is now. -/
theorem resolution_over_session {cwd : Path} (hc : cwd.IsRooted) (now : Int) {s₀ : Session}
    (hnew : s₀.pass? = none) (hd : s₀.environment.Distinct) (actions : List Action) :
    let s := s₀.actAll cwd now actions
    let s' := (s.act cwd now .refresh).session
    (∀ a, s.renews cwd now a = false → (s.act cwd now a).session.pass? = s.pass?) ∧
    s.pass?.map Pass.options = lastBuilt? actions ∧
    ∀ p, s.pass? = some p → ∃ m, LastRenewal cwd now s₀ actions m ∧
      p.resolution = ((Resolution.resolve p.options m.environment cwd).run cwd now m.disk).1.1 ∧
      (∀ t : Session, t.disk = s'.disk → t.pass? = s'.pass? →
        (t.act cwd now .checkStale).answer = .stale false ∧
        (t.act cwd now .refresh).answer = .refreshed false) ∧
      ((∀ name, s.environment.var? name = m.environment.var? name) →
        (∀ f ∈ p.resolution.files.toList,
          ((Stamp.capture cwd f).run cwd now s.disk).1.modified =
              ((Stamp.capture cwd f).run cwd now m.disk).1.modified →
            s.disk.read cwd f = m.disk.read cwd f) →
        s'.pass? = some ⟨p.options,
          ((Resolution.resolve p.options s.environment cwd).run cwd now s.disk).1.1⟩) := by
  intro s s'
  refine ⟨fun a => passAct_of_not_renews s cwd now, options_actAll hnew actions, ?_⟩
  intro p hp
  obtain ⟨m, hm, hres⟩ := pass_of_lastRenewal hnew actions hp
  refine ⟨m, hm, by rw [run_resolve, hres], ?_, ?_⟩
  · intro t hdisk hpass
    obtain ⟨p', hp', hfresh⟩ := not_stale_after_refresh hc now hp
    have htp : t.pass? = some p' := hpass.trans hp'
    have hfresh' : p'.resolution.fingerprint.isStaleOn t.disk cwd = false := by
      rw [hdisk]
      exact hfresh
    rw [act_checkStale t cwd now htp, hfresh']
    exact ⟨rfl, (act_refresh_of_not_stale t cwd now htp hfresh').2⟩
  · intro henv hread
    simp only [run_stampCapture] at hread
    rw [run_resolve]
    exact pass_after_refresh hc now hp hres (distinct_actAll hd actions)
      (hm.environment_distinct hd) henv hread

/-- A file of the mode turns up after the construction; the transformation in between sees nothing
of it, and the refresh reads it. The variables and the other file are as they were. -/
theorem resolution_over_session_qa :
    let cwd : Path := ⟨"/w"⟩
    let s₀ : Session := ⟨⟨[(["w"], .directory 0)]⟩, ⟨[("NODE_ENV", "qa")]⟩, none⟩
    let actions : List Action :=
      [.change (.write ⟨".env"⟩ (Text.Utf8.ofString "A=1") 1000000), .build .default,
        .change (.write ⟨".env.qa"⟩ (Text.Utf8.ofString "A=2") 2000000)]
    let s := s₀.actAll cwd 0 actions
    let s' := (s.act cwd 0 .refresh).session
    cwd.IsRooted ∧ s₀.pass? = none ∧ s₀.environment.Distinct ∧
      s.pass?.map (fun p => p.resolution.values.get? "A") = some (some "1") ∧
      (s.act cwd 0 (.transform ⟨"a.js", ""⟩)).session.pass? = s.pass? ∧
      s'.pass?.map (fun p => p.resolution.values.get? "A") = some (some "2") ∧
      (s'.act cwd 0 .checkStale).answer = .stale false ∧
      ∃ p m, s.pass? = some p ∧ m = s₀.actAll cwd 0 (actions.take 1) ∧
        (∀ name, s.environment.var? name = m.environment.var? name) ∧
        (∀ f ∈ p.resolution.files.toList,
          ((Stamp.capture cwd f).run cwd 0 s.disk).1.modified =
              ((Stamp.capture cwd f).run cwd 0 m.disk).1.modified →
            s.disk.read cwd f = m.disk.read cwd f) ∧
        s'.pass? = some ⟨p.options,
          ((Resolution.resolve p.options s.environment cwd).run cwd 0 s.disk).1.1⟩ := by
  intro cwd s₀ actions s s'
  have hc : cwd.IsRooted := by decide +kernel
  have hnew : s₀.pass? = none := rfl
  have hd : s₀.environment.Distinct := by decide
  obtain ⟨hkeep, -, hpass⟩ := resolution_over_session hc 0 hnew hd actions
  have hsome : s.pass?.isSome = true := by decide +kernel
  obtain ⟨p, hp⟩ := Option.isSome_iff_exists.mp hsome
  obtain ⟨m, hrenewal, -, hfresh, hnow⟩ := hpass p hp
  -- the construction is the only action that renews
  have hm : m = s₀.actAll cwd 0 (actions.take 1) := by
    obtain ⟨before, a, after, hsplit, rfl, hrenews, -⟩ := hrenewal
    rcases before with _ | ⟨_, _ | ⟨_, _ | ⟨_, before⟩⟩⟩
    · obtain ⟨rfl, -⟩ := List.cons.inj hsplit
      simp [renews] at hrenews
    · obtain ⟨rfl, -⟩ := List.cons.inj hsplit
      rfl
    · simp only [actions, List.cons_append, List.nil_append, List.cons.injEq] at hsplit
      obtain ⟨-, -, rfl, -⟩ := hsplit
      simp [renews] at hrenews
    · simp [actions] at hsplit
  have hkept : s.environment = (s₀.actAll cwd 0 (actions.take 1)).environment := by decide +kernel
  have henv : ∀ name, s.environment.var? name = m.environment.var? name := by
    rw [hm, hkept]
    exact fun _ => rfl
  have hread : ∀ f ∈ p.resolution.files.toList,
      ((Stamp.capture cwd f).run cwd 0 s.disk).1.modified =
          ((Stamp.capture cwd f).run cwd 0 m.disk).1.modified →
        s.disk.read cwd f = m.disk.read cwd f := by
    have hfiles : s.pass?.map (fun p => p.resolution.files) =
        some (Candidates.of ⟨".env"⟩ "qa") := by decide +kernel
    rw [hp, Option.map_some, Option.some.injEq] at hfiles
    rw [hfiles, hm]
    decide +kernel
  exact ⟨hc, hnew, hd, by decide +kernel, hkeep _ rfl, by decide +kernel, (hfresh s' rfl rfl).1,
    p, m, hp, hm, henv, hread, hnow henv hread⟩

end EnvInline.Session
