import EnvInline.Path

/-!
# Absolute paths

Writing a path from the root is idempotent: what `Path.absolute?` gives is written as it would write
it again, so a path that was recorded in this form stays the same however often it is made absolute.

* `Full` — the paths that start with one or two slashes and have one slash before each name;
* `full_of_absolute?` — from a full working directory, every absolute form is full;
* `absolute?_of_full` — a full path is its own absolute form, seen from anywhere.
-/

namespace EnvInline.Path

/-- A segment that stands for a step: not empty, not `.`, and of course without a slash. -/
def IsName (n : String) : Prop := n ≠ "" ∧ n ≠ "." ∧ '/' ∉ n.toList

/-- The names of a path, without what stands for nothing. -/
def names (p : Path) : List String :=
  (p.components.filter fun c => c != .root && c != .current).map Component.text

/-- The paths that are written from the root, with one slash before each name. -/
inductive Full : Path → Prop where
  | root : Full ⟨"/"⟩
  | doubleRoot : Full ⟨"//"⟩
  | join {q : Path} {n : String} : Full q → IsName n → Full (q.join ⟨n⟩)
  | slash {q : Path} : Full q → Full (q.join ⟨""⟩)

/-! ## Texts and segments -/

theorem endsWith_slash (s : String) : s.endsWith "/" = true ↔ s.toList.getLast? = some '/' := by
  have h : s.endsWith "/" = s.toSlice.endsWith "/" := rfl
  rw [h, String.Slice.endsWith_string_iff]
  simp [List.singleton_suffix_iff_getLast?_eq_some]

theorem ext {p q : Path} (h : p.text.toList = q.text.toList) : p = q := by
  cases p
  cases q
  exact congrArg Path.mk (String.toList_inj.mp h)

theorem segments_ne_nil (s : List Char) : segments s ≠ [] := by
  cases s with
  | nil => simp [segments]
  | cons c r =>
    unfold segments
    split
    · simp
    · split <;> simp

theorem segments_cons_slash (s : List Char) : segments ('/' :: s) = [] :: segments s := by
  simp [segments]

theorem segments_of_notMem {s : List Char} (h : '/' ∉ s) : segments s = [s] := by
  induction s with
  | nil => rfl
  | cons c r ih =>
    rw [List.mem_cons, not_or] at h
    rw [segments, if_neg (Ne.symm h.1), ih h.2]

theorem segments_append_slash (s t : List Char) :
    segments (s ++ '/' :: t) = segments s ++ segments t := by
  induction s with
  | nil => simp [segments]
  | cons c r ih =>
    by_cases hc : c = '/'
    · simp [segments, hc, ih]
    · rw [List.cons_append, segments, if_neg hc, ih, segments, if_neg hc]
      cases hr : segments r with
      | nil => exact absurd hr (segments_ne_nil r)
      | cons l ls => rfl

theorem slash_notMem_of_mem_segments {s l : List Char} (h : l ∈ segments s) : '/' ∉ l := by
  induction s generalizing l with
  | nil => simp_all [segments]
  | cons c r ih =>
    unfold segments at h
    split at h
    · rcases List.mem_cons.mp h with rfl | h
      · simp
      · exact ih h
    · next hc =>
      split at h
      · have hl : l = [c] := by simpa using h
        simpa [hl] using Ne.symm hc
      · next s ss hs =>
        rcases List.mem_cons.mp h with rfl | h
        · have := ih (l := s) (by simp [hs])
          simp [Ne.symm hc, this]
        · exact ih (by simp [hs, h])

/-! ## Names -/

/-- The segment stands for a step. -/
def isStep (l : List Char) : Bool := l ≠ [] ∧ l ≠ ['.']

theorem IsName.isStep {n : String} (hn : IsName n) : isStep n.toList = true := by
  have hempty : n.toList ≠ [] := by simpa using hn.1
  have hdot : n.toList ≠ ['.'] := by
    intro h
    exact hn.2.1 (String.toList_inj.mp (by simpa using h))
  simpa [Path.isStep] using And.intro hempty hdot

/-- The segments that stand for a step. -/
def steps (s : List Char) : List (List Char) := (segments s).filter isStep

theorem text_filterMap_component? (ls : List (List Char)) :
    ((ls.filterMap component?).filter fun c => c != .root && c != .current).map Component.text =
      (ls.filter isStep).map String.ofList := by
  induction ls with
  | nil => rfl
  | cons l ls ih =>
    by_cases hl : l = [] ∨ l = ['.']
    · have hnone : component? l = none := if_pos hl
      have hdrop : ¬ isStep l = true := by
        simpa [isStep] using fun h => hl.resolve_left h
      rw [List.filterMap_cons_none hnone, ih, List.filter_cons_of_neg hdrop]
    · have hkeep : isStep l = true := by simpa [isStep] using hl
      rw [List.filter_cons_of_pos hkeep, List.map_cons, ← ih]
      by_cases hp : l = ['.', '.']
      · subst hp
        rfl
      · have hsome : component? l = some (.normal (String.ofList l)) := by
          rw [component?, if_neg hl, if_neg hp]
        rw [List.filterMap_cons_some hsome]
        rfl

theorem segments_of_isAbsolute {p : Path} (h : p.isAbsolute = true) :
    ∃ rest, segments p.text.toList = [] :: rest := by
  have hhead : p.text.toList.head? = some '/' := by simpa [isAbsolute] using h
  obtain ⟨r, hr⟩ := List.head?_eq_some_iff.mp hhead
  exact ⟨segments r, by rw [hr, segments_cons_slash]⟩

/-- What the components of a path start with, before those that its segments stand for. -/
def lead (p : Path) : List Component :=
  if p.isAbsolute then [.root]
  else if (segments p.text.toList).head? = some ['.'] then [.current]
  else []

theorem components_eq (p : Path) :
    p.components = p.lead ++ (segments p.text.toList).filterMap component? := by
  unfold components lead
  cases hs : segments p.text.toList with
  | nil => exact absurd hs (segments_ne_nil _)
  | cons first rest =>
    by_cases ha : p.isAbsolute = true
    · -- the segment before the slash in front is empty
      obtain ⟨rest', hrest⟩ := segments_of_isAbsolute ha
      obtain ⟨rfl, -⟩ := List.cons.inj (hs.symm.trans hrest)
      simp [ha, component?]
    · by_cases hd : first = ['.']
      · simp [ha, hd, component?]
      · simp [ha, hd]

theorem names_eq (p : Path) : p.names = (steps p.text.toList).map String.ofList := by
  have hlead : p.lead.filter (fun c => c != .root && c != .current) = [] := by
    unfold lead
    split
    · rfl
    · split <;> rfl
  unfold names steps
  rw [components_eq, List.filter_append, hlead, List.nil_append, text_filterMap_component?]

theorem isName_of_mem_names {p : Path} {n : String} (h : n ∈ p.names) : IsName n := by
  rw [names_eq] at h
  obtain ⟨l, hl, rfl⟩ := List.mem_map.mp h
  obtain ⟨hmem, hne⟩ := List.mem_filter.mp hl
  have hne' : l ≠ [] ∧ l ≠ ['.'] := by simpa [isStep] using hne
  refine ⟨?_, ?_, ?_⟩
  · intro heq
    exact hne'.1 (by simpa using congrArg String.toList heq)
  · intro heq
    exact hne'.2 (by simpa using congrArg String.toList heq)
  · simpa using slash_notMem_of_mem_segments hmem

/-! ## Joining -/

/-- A text with a slash at its end, unless it has one. -/
def withSlash (s : List Char) : List Char := if s.getLast? = some '/' then s else s ++ ['/']

theorem text_join {p : Path} {n : String} (hp : p.text ≠ "") (hn : '/' ∉ n.toList) :
    (p.join ⟨n⟩).text.toList = withSlash p.text.toList ++ n.toList := by
  have hnot : (Path.mk n).isAbsolute = false := by
    unfold isAbsolute
    cases ht : n.toList with
    | nil => rfl
    | cons c r =>
      rw [ht, List.mem_cons, not_or] at hn
      simpa using Ne.symm hn.1
  unfold join withSlash
  rw [if_neg (by simp [hnot])]
  by_cases hl : p.text.toList.getLast? = some '/'
  · rw [if_pos hl, if_pos (by simp [hl])]
    simp
  · rw [if_neg hl, if_neg (by simp [hl, hp])]
    simp

theorem steps_withSlash_append (s n : List Char) :
    steps (withSlash s ++ n) = steps s ++ steps n := by
  have hsplit : ∀ t : List Char, steps (t ++ '/' :: n) = steps t ++ steps n := by
    intro t
    simp [steps, segments_append_slash]
  unfold withSlash
  split
  · next hl =>
    obtain ⟨t, rfl⟩ := List.getLast?_eq_some_iff.mp hl
    have ht : steps (t ++ ['/']) = steps t := by
      simp [steps, segments_append_slash, segments, isStep]
    rw [List.append_assoc, List.singleton_append, hsplit, ht]
  · rw [List.append_assoc, List.singleton_append, hsplit]

theorem names_join {p : Path} {n : String} (hp : p.text ≠ "") (hn : IsName n) :
    (p.join ⟨n⟩).names = p.names ++ [n] := by
  have hsteps : steps n.toList = [n.toList] := by
    rw [steps, segments_of_notMem hn.2.2, List.filter_cons_of_pos hn.isStep, List.filter_nil]
  rw [names_eq, names_eq, text_join hp hn.2.2, steps_withSlash_append, hsteps]
  simp

theorem names_slash {p : Path} (hp : p.text ≠ "") : (p.join ⟨""⟩).names = p.names := by
  rw [names_eq, names_eq, text_join hp (by simp), steps_withSlash_append]
  simp [steps, segments, isStep]

theorem slash_join {p : Path} {n : String} (hp : p.text ≠ "") (hn : '/' ∉ n.toList) :
    (p.join ⟨""⟩).join ⟨n⟩ = p.join ⟨n⟩ := by
  have hslash : (p.join ⟨""⟩).text.toList = withSlash p.text.toList := by
    simpa using text_join hp (by simp : '/' ∉ "".toList)
  have hne : (p.join ⟨""⟩).text ≠ "" := by
    intro h
    rw [h] at hslash
    unfold withSlash at hslash
    split at hslash
    · exact hp (String.toList_inj.mp hslash.symm)
    · simp at hslash
  have hidem : withSlash (withSlash p.text.toList) = withSlash p.text.toList := by
    by_cases h : p.text.toList.getLast? = some '/' <;> simp [withSlash, h]
  apply ext
  rw [text_join hne hn, text_join hp hn, hslash, hidem]

/-! ## Where an absolute path starts -/

/-- Two slashes in front, and no third one. -/
def startsDouble (s : List Char) : Prop := ∃ r, s = '/' :: '/' :: r ∧ r.head? ≠ some '/'

theorem startsDouble_withSlash_append {s n : List Char} (hs : s.head? = some '/')
    (hn : n.head? ≠ some '/') : startsDouble (withSlash s ++ n) ↔ startsDouble s := by
  match s with
  | [] => simp at hs
  | [c] =>
    have hc : c = '/' := by simpa using hs
    subst hc
    have hone : withSlash ['/'] = ['/'] := rfl
    rw [hone]
    constructor
    · rintro ⟨r, hr, -⟩
      exact absurd (by simpa using congrArg (fun l => l.tail.head?) hr) hn
    · rintro ⟨r, hr, -⟩
      simp at hr
  | c :: d :: [] =>
    by_cases hd : d = '/'
    · subst hd
      have hc : c = '/' := by simpa using hs
      subst hc
      simp [startsDouble, withSlash, hn]
    · simp [startsDouble, withSlash, hd]
  | c :: d :: e :: r =>
    have hlong : withSlash (c :: d :: e :: r) = c :: d :: withSlash (e :: r) := by
      simp only [withSlash, List.getLast?_cons_cons]
      split <;> rfl
    have hhead : (withSlash (e :: r) ++ n).head? = some e := by
      unfold withSlash
      split <;> simp
    simp only [hlong, startsDouble, List.cons_append, List.cons.injEq]
    constructor
    · rintro ⟨t, ⟨rfl, rfl, rfl⟩, ht⟩
      exact ⟨e :: r, ⟨rfl, rfl, rfl⟩, by simpa [hhead] using ht⟩
    · rintro ⟨t, ⟨rfl, rfl, rfl⟩, ht⟩
      exact ⟨_, ⟨rfl, rfl, rfl⟩, by simpa [hhead] using ht⟩

theorem startsDouble_iff (s : String) :
    (s.startsWith "//" && !s.startsWith "///") = true ↔ startsDouble s.toList := by
  rw [Bool.and_eq_true, Bool.not_eq_true', String.startsWith_string_iff,
    String.startsWith_string_eq_false_iff]
  constructor
  · rintro ⟨⟨r, hr⟩, hthree⟩
    have hr' : s.toList = '/' :: '/' :: r := by simpa using hr.symm
    refine ⟨r, hr', ?_⟩
    intro hhead
    obtain ⟨t, rfl⟩ := List.head?_eq_some_iff.mp hhead
    exact hthree ⟨t, by simpa using hr'.symm⟩
  · rintro ⟨r, hr, hhead⟩
    refine ⟨⟨r, by simpa using hr.symm⟩, ?_⟩
    rintro ⟨t, ht⟩
    rw [hr] at ht
    have hrt : r = '/' :: t := by simpa using ht.symm
    exact hhead (by simp [hrt])

/-- The root that a path starts from. -/
def start (p : Path) : Path :=
  if p.text.startsWith "//" && !p.text.startsWith "///" then ⟨"//"⟩ else ⟨"/"⟩

theorem start_join {p : Path} {n : String} (hp : p.text.toList.head? = some '/')
    (hn : '/' ∉ n.toList) : (p.join ⟨n⟩).start = p.start := by
  have hne : p.text ≠ "" := by
    intro h
    simp [h] at hp
  have hhead : n.toList.head? ≠ some '/' := fun h => hn (List.mem_of_mem_head? h)
  have hiff := startsDouble_withSlash_append hp hhead
  rw [← text_join hne hn, ← startsDouble_iff, ← startsDouble_iff] at hiff
  unfold start
  rw [Bool.eq_iff_iff.mpr hiff]

/-! ## The absolute form -/

/-- A path with names behind it, one after the other. -/
def joinAll (p : Path) (ns : List String) : Path := ns.foldl (fun q n => q.join ⟨n⟩) p

theorem absolute?_eq (cwd : Path) {p : Path} (hp : p.text ≠ "") :
    absolute? cwd p = some (
      let all := joinAll (if p.isAbsolute then p.start else cwd) p.names
      if p.text.endsWith "/" then all.join ⟨""⟩ else all) := by
  have hne : ¬ p.text.isEmpty = true := fun h => hp (String.isEmpty_iff.mp h)
  unfold absolute?
  rw [if_neg hne]
  exact (apply_ite some _ _ _).symm

theorem isAbsolute_iff (p : Path) : p.isAbsolute = true ↔ p.text.toList.head? = some '/' := by
  simp [isAbsolute]

theorem text_ne_of_head? {p : Path} (hp : p.text.toList.head? = some '/') : p.text ≠ "" := by
  intro h
  simp [h] at hp

theorem head?_join {p : Path} {n : String} (hp : p.text.toList.head? = some '/')
    (hn : '/' ∉ n.toList) : (p.join ⟨n⟩).text.toList.head? = some '/' := by
  obtain ⟨r, hr⟩ := List.head?_eq_some_iff.mp hp
  rw [text_join (text_ne_of_head? hp) hn, hr]
  unfold withSlash
  split <;> simp

theorem full_head? {p : Path} (h : Full p) : p.text.toList.head? = some '/' := by
  induction h with
  | root => decide
  | doubleRoot => decide
  | join _ hn ih => exact head?_join ih hn.2.2
  | slash _ ih => exact head?_join ih (by simp)

theorem full_joinAll {p : Path} {ns : List String} (hp : Full p) (hns : ∀ n ∈ ns, IsName n) :
    Full (joinAll p ns) := by
  induction ns generalizing p with
  | nil => exact hp
  | cons n ns ih =>
    exact ih (hp.join (hns n (by simp))) fun m hm => hns m (by simp [hm])

theorem full_start (p : Path) : Full p.start := by
  unfold start
  split
  · exact .doubleRoot
  · exact .root

/-- Seen from a full directory, every path that is not empty has a full form. -/
theorem full_of_absolute? {cwd p q : Path} (hc : p.isAbsolute = true ∨ Full cwd)
    (h : absolute? cwd p = some q) : Full q := by
  have hp : p.text ≠ "" := by
    rintro hp
    simp [absolute?, hp] at h
  have hbase : Full (if p.isAbsolute then p.start else cwd) := by
    split
    · exact full_start p
    · next ha => exact hc.resolve_left ha
  have hall := full_joinAll hbase fun n hn => isName_of_mem_names (p := p) hn
  rw [absolute?_eq cwd hp] at h
  obtain rfl := Option.some.inj h
  dsimp only
  split
  · exact hall.slash
  · exact hall

theorem endsWith_join {p : Path} {n : String} (hp : p.text ≠ "") (hn : IsName n) :
    ¬ (p.join ⟨n⟩).text.endsWith "/" = true := by
  rw [endsWith_slash, text_join hp hn.2.2]
  intro hlast
  have hne : n.toList ≠ [] := by simpa using hn.1
  rw [List.getLast?_append, List.getLast?_eq_some_getLast hne, Option.some_or] at hlast
  exact hn.2.2 (Option.some.inj hlast ▸ List.getLast_mem hne)

theorem endsWith_slash_join {p : Path} (hp : p.text ≠ "") :
    (p.join ⟨""⟩).text.endsWith "/" = true := by
  rw [endsWith_slash, text_join hp (by simp)]
  unfold withSlash
  split
  · next h => simpa using h
  · simp

/-- A full path is its own absolute form. -/
theorem absolute?_of_full (cwd : Path) {q : Path} (h : Full q) : absolute? cwd q = some q := by
  have key : ∀ {p : Path}, Full p → absolute? cwd p = some (
      if p.text.endsWith "/" then (joinAll p.start p.names).join ⟨""⟩
      else joinAll p.start p.names) := by
    intro p hp
    have hhead := full_head? hp
    rw [absolute?_eq cwd (text_ne_of_head? hhead), if_pos ((isAbsolute_iff p).mpr hhead)]
  induction h with
  | root => rw [key .root]; decide +kernel
  | doubleRoot => rw [key .doubleRoot]; decide +kernel
  | @join q n hq hn ih =>
    have hhead := full_head? hq
    have hne := text_ne_of_head? hhead
    have hall : Full (joinAll q.start q.names) :=
      full_joinAll (full_start q) fun m hm => isName_of_mem_names hm
    have hstep : joinAll (q.join ⟨n⟩).start (q.join ⟨n⟩).names =
        (joinAll q.start q.names).join ⟨n⟩ := by
      rw [start_join hhead hn.2.2, names_join hne hn, joinAll, List.foldl_append]
      rfl
    rw [key (hq.join hn), if_neg (endsWith_join hne hn), hstep]
    -- `q` is its names joined, with or without a slash behind them
    rw [key hq, Option.some.injEq] at ih
    split at ih
    · rw [← slash_join (text_ne_of_head? (full_head? hall)) hn.2.2, ih]
    · rw [ih]
  | @slash q hq ih =>
    have hhead := full_head? hq
    have hne := text_ne_of_head? hhead
    have hall : Full (joinAll q.start q.names) :=
      full_joinAll (full_start q) fun m hm => isName_of_mem_names hm
    rw [key hq.slash, if_pos (endsWith_slash_join hne), start_join hhead (by simp),
      names_slash hne]
    rw [key hq, Option.some.injEq] at ih
    split at ih
    · rw [← slash_join (text_ne_of_head? (full_head? hall)) (by simp), ih]
    · rw [ih]

/-- A directory to work in, as a system gives it: its path is absolute and in absolute form. -/
def IsRooted (cwd : Path) : Prop := cwd.isAbsolute = true ∧ absolute? cwd cwd = some cwd

instance (cwd : Path) : Decidable cwd.IsRooted := inferInstanceAs (Decidable (_ ∧ _))

/-- Making a path absolute once is enough. -/
theorem absolute?_idem {cwd p q : Path} (hc : cwd.IsRooted) (h : absolute? cwd p = some q) :
    absolute? cwd q = some q :=
  absolute?_of_full cwd (full_of_absolute? (.inr (full_of_absolute? (.inl hc.1) hc.2)) h)

end EnvInline.Path
