import EnvInline.Proofs.Undisturbed

/-!
# Precedence of the layers

What the value of a name is after resolution, read off the three layers at once. Without safe mode
the first of these that is not empty counts: the variable, the entry of the file of the mode, the
entry of the base file (which may be empty). In safe mode the variable counts, even an empty one, if
the lists admit its name.

Main statement: `value_of_resolve`, for every disk and every environment whose names are distinct.
-/

namespace EnvInline

/-- A text, unless it is empty. -/
def nonEmpty? (value? : Option String) : Option String := value?.filter (· ≠ "")

@[simp] theorem nonEmpty?_none : nonEmpty? none = none := rfl

theorem nonEmpty?_some (value : String) :
    nonEmpty? (some value) = if value = "" then none else some value := by
  by_cases h : value = "" <;> simp [nonEmpty?, h]

theorem getLast?_filter_toList (value? : Option String) :
    (value?.toList.filter (· ≠ "")).getLast? = nonEmpty? value? := by
  cases value? with
  | none => rfl
  | some value => by_cases h : value = "" <;> simp [nonEmpty?_some, h]

/-- The names of an environment are distinct, as they are in a process. -/
def Environment.Distinct (e : Environment) : Prop := (e.variables.map (·.1)).Nodup

instance (e : Environment) : Decidable e.Distinct := inferInstanceAs (Decidable (List.Nodup _))

namespace Mapping

/-! ## What a layer does to a name -/

/-- The values that a layer has for a name, in their order. -/
def valuesIn (layer : List (String × String)) (name : String) : List String :=
  (layer.filter (·.1 == name)).map (·.2)

theorem valuesIn_cons (k v : String) (layer : List (String × String)) (name : String) :
    valuesIn ((k, v) :: layer) name =
      if k = name then v :: valuesIn layer name else valuesIn layer name := by
  by_cases hk : k = name <;> simp [valuesIn, hk]

theorem valuesIn_of_notMem {layer : List (String × String)} {name : String}
    (h : name ∉ layer.map (·.1)) : valuesIn layer name = [] := by
  rw [valuesIn, List.map_eq_nil_iff, List.filter_eq_nil_iff]
  intro p hp hname
  exact h (List.mem_map.mpr ⟨p, hp, by simpa using hname⟩)

/-- A layer of distinct names has at most one value for a name. -/
theorem valuesIn_eq_toList {layer : List (String × String)} (hd : (layer.map (·.1)).Nodup)
    (name : String) : valuesIn layer name = (layer.lookup name).toList := by
  induction layer with
  | nil => rfl
  | cons p r ih =>
    obtain ⟨k, v⟩ := p
    rw [List.map_cons, List.nodup_cons] at hd
    rw [valuesIn_cons, ih hd.2]
    by_cases hk : k = name
    · subst hk
      simp [lookup_eq_none_of_notMem hd.1]
    · have hne : (name == k) = false := beq_eq_false_iff_ne.mpr (Ne.symm hk)
      simp [List.lookup_cons, hne, hk]

/-- Over a mapping, the last value of a layer for a name that is not empty counts. -/
theorem get?_overlay_last (m : Mapping) (layer : List (String × String)) (name : String) :
    (m.overlay layer).get? name =
      ((valuesIn layer name).filter (· ≠ "")).getLast?.or (m.get? name) := by
  induction layer generalizing m with
  | nil => rfl
  | cons p r ih =>
    obtain ⟨k, v⟩ := p
    have hstep : m.overlay ((k, v) :: r) =
        (if v.isEmpty then m else m.insert k v).overlay r := rfl
    rw [hstep, ih, valuesIn_cons]
    by_cases hk : k = name
    · subst hk
      by_cases hv : v = ""
      · simp [hv]
      · have hkeep : (v :: valuesIn r k).filter (· ≠ "") = v :: (valuesIn r k).filter (· ≠ "") :=
          List.filter_cons_of_pos (by simpa using hv)
        rw [if_neg (by simpa using hv), if_pos rfl, hkeep, List.getLast?_cons, get?_insert,
          if_pos rfl]
        cases ((valuesIn r k).filter (· ≠ "")).getLast? <;> rfl
    · by_cases hv : v = "" <;> simp [hv, hk]

/-- Over a mapping, another mapping counts where it is not empty. -/
theorem get?_overlay_toList (m layer : Mapping) (name : String) :
    (m.overlay layer.toList).get? name = (nonEmpty? (layer.get? name)).or (m.get? name) := by
  rw [get?_overlay_last, valuesIn_eq_toList layer.nodup_toList, getLast?_filter_toList,
    lookup_toList]

/-- Over a mapping, the last value that a layer has for an admitted name counts. -/
theorem get?_overlayAdmitted_last (m : Mapping) (layer : List (String × String))
    (allowed blocked : List String) (name : String) :
    (m.overlayAdmitted layer allowed blocked).get? name =
      if admits allowed blocked name then (valuesIn layer name).getLast?.or (m.get? name)
      else m.get? name := by
  induction layer generalizing m with
  | nil => simp [overlayAdmitted, valuesIn]
  | cons p r ih =>
    obtain ⟨k, v⟩ := p
    have hstep : m.overlayAdmitted ((k, v) :: r) allowed blocked =
        (if admits allowed blocked k then m.insert k v else m).overlayAdmitted r allowed blocked :=
      rfl
    rw [hstep, ih, valuesIn_cons]
    by_cases hk : k = name
    · subst hk
      by_cases ha : admits allowed blocked k
      · cases h : (valuesIn r k).getLast? <;> simp [ha, List.getLast?_cons, h]
      · simp [ha]
    · by_cases ha : admits allowed blocked k <;> simp [ha, hk]

end Mapping

/-! ## The three layers -/

/-- In safe mode a variable takes part only under such a name: it is not in the blocklist nor one
of the two that are always blocked, and it is in the allowlist unless that is missing or empty. -/
def Options.Admits (o : Options) (name : String) : Prop :=
  name ∉ o.blocklist.getD [] ∧ name ≠ "EXPO_PUBLIC_" ∧ name ≠ "EXPO_" ∧
    (o.allowlist.getD [] = [] ∨ name ∈ o.allowlist.getD [])

instance (o : Options) (name : String) : Decidable (o.Admits name) :=
  inferInstanceAs (Decidable (_ ∧ _))

theorem admits_iff (o : Options) (name : String) :
    Mapping.admits (o.allowlist.getD []) (o.blocklist.getD [] ++ Resolution.alwaysBlocked) name ↔
      o.Admits name := by
  simp [Mapping.admits, Resolution.alwaysBlocked, Options.Admits, and_assoc]

/-- The value of a name that the variables and the entries of the two files come to. -/
def Resolution.valueOf (o : Options) (base mode : Mapping) (e : Environment) (name : String) :
    Option String :=
  let ofFiles := (nonEmpty? (mode.get? name)).or (base.get? name)
  if o.safe then
    if o.Admits name then (e.var? name).or ofFiles else ofFiles
  else (nonEmpty? (e.var? name)).or ofFiles

/-- The value that the variables have for a name, where they count: in safe mode the last one under
an admitted name, and otherwise the last one that is not empty. -/
def Resolution.variableValue? (o : Options) (e : Environment) (name : String) : Option String :=
  if o.safe then
    if o.Admits name then (Mapping.valuesIn e.variables name).getLast? else none
  else ((Mapping.valuesIn e.variables name).filter (· ≠ "")).getLast?

/-- The variables count before the files, also when a name is listed more than once. -/
theorem get?_layered_last (o : Options) (base mode : Mapping) (e : Environment) (name : String) :
    (Resolution.layered o base mode e).get? name =
      (Resolution.variableValue? o e name).or
        ((nonEmpty? (mode.get? name)).or (base.get? name)) := by
  have hfiles := Mapping.get?_overlay_toList base mode name
  unfold Resolution.layered Resolution.variableValue?
  by_cases hs : o.safe
  · rw [if_pos hs, if_pos hs, Mapping.get?_overlayAdmitted_last, hfiles]
    simp only [admits_iff]
    split <;> rfl
  · rw [if_neg hs, if_neg hs, Mapping.get?_overlay_last, hfiles]

theorem variableValue?_of_notMem (o : Options) {e : Environment} {name : String}
    (h : name ∉ e.variables.map (·.1)) : Resolution.variableValue? o e name = none := by
  unfold Resolution.variableValue?
  rw [Mapping.valuesIn_of_notMem h]
  split
  · split <;> rfl
  · rfl

theorem get?_layered (o : Options) (base mode : Mapping) {e : Environment} (hd : e.Distinct)
    (name : String) :
    (Resolution.layered o base mode e).get? name = Resolution.valueOf o base mode e name := by
  rw [get?_layered_last]
  unfold Resolution.variableValue? Resolution.valueOf Environment.var?
  rw [Mapping.valuesIn_eq_toList hd]
  by_cases hs : o.safe
  · rw [if_pos hs, if_pos hs]
    by_cases ha : o.Admits name
    · rw [if_pos ha, if_pos ha]
      cases e.variables.lookup name <;> rfl
    · rw [if_neg ha, if_neg ha, Option.none_or]
  · rw [if_neg hs, if_neg hs, getLast?_filter_toList]

/-! ## Resolution -/

theorem mode_eq (e : Environment) (selector : String) :
    e.mode selector =
      ((nonEmpty? (e.var? selector)).or
        ((nonEmpty? (e.var? "BABEL_ENV")).or (nonEmpty? (e.var? "NODE_ENV")))).getD
          "development" := by
  have htext : ∀ name, e.text? name = nonEmpty? (e.var? name) := by
    intro name
    unfold Environment.text? nonEmpty?
    congr 1
    funext value
    rw [Bool.eq_iff_iff]
    simp
  unfold Environment.mode
  rw [List.findSome?_cons, List.findSome?_cons, List.findSome?_cons, htext, htext, htext]
  cases nonEmpty? (e.var? selector) <;> cases nonEmpty? (e.var? "BABEL_ENV") <;>
    cases nonEmpty? (e.var? "NODE_ENV") <;> rfl

/-- Whatever the disk holds, resolution picks the mode, reads the base file and the file of that
mode, and gives every name the value that precedence says. -/
theorem value_of_resolve (o : Options) (e : Environment) (hd : e.Distinct) (cwd : Path) (now : Int)
    (d : Disk) :
    let r := ((Resolution.resolve o e cwd).run cwd now d).1.1
    r.mode = ((nonEmpty? (e.var? o.envName)).or
        ((nonEmpty? (e.var? "BABEL_ENV")).or (nonEmpty? (e.var? "NODE_ENV")))).getD
          "development" ∧
      r.files.base = o.path ∧
      r.files.mode.text = o.path.text ++ "." ++ r.mode ∧
      ∀ name, r.values.get? name =
        Resolution.valueOf o (Definition.entriesOn d cwd r.files.base)
          (Definition.entriesOn d cwd r.files.mode) e name := by
  intro r
  have hr : r = Resolution.on d cwd o e := run_resolve o e cwd now d
  rw [hr]
  refine ⟨mode_eq e o.envName, rfl, rfl, ?_⟩
  intro name
  exact get?_layered o _ _ hd name

/-- In safe mode an admitted variable counts although it is empty, and a blocked one does not count
although the file of the mode has nothing but an empty entry for it. -/
theorem value_of_resolve_qa :
    let o : Options := { Options.default with safe := true, blocklist := some ["LOW"] }
    let e : Environment := ⟨[("LOW", "leak"), ("KEY", ""), ("NODE_ENV", "qa")]⟩
    let d : Disk := ⟨[(["w"], .directory 0),
      ([".env", "w"], .file (Text.Utf8.ofString "KEY=base\nLOW='x\ny'\n") 5),
      ([".env.qa", "w"], .file (Text.Utf8.ofString "LOW=\n") 5)]⟩
    let r := ((Resolution.resolve o e ⟨"/w"⟩).run ⟨"/w"⟩ 0 d).1.1
    e.Distinct ∧ r.mode = "qa" ∧ r.values.get? "KEY" = some "" ∧
      r.values.get? "LOW" = some "x\ny" := by
  intro o e d r
  have hd : e.Distinct := by decide
  obtain ⟨hmode, -, -, hvalue⟩ := value_of_resolve o e hd ⟨"/w"⟩ 0 d
  refine ⟨hd, hmode.trans (by decide +kernel), ?_, ?_⟩
  · exact (hvalue "KEY").trans (by decide +kernel)
  · exact (hvalue "LOW").trans (by decide +kernel)

end EnvInline
