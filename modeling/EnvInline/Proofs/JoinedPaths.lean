import Mathlib.Data.List.Basic
import EnvInline.Disk
import EnvInline.Proofs.AbsolutePath

/-!
# Joined paths

The segments of a text with something behind it, and of a path with a name behind it: those of the
path, and then the name.

* `exists_segments_append` — a text with something behind it that has no slash;
* `segments_join`, `segmentsFrom_join` — a path with a name behind it.
-/

namespace EnvInline.Path

/-! ## The last segment -/

/-- What is appended to a text without a slash goes to its last segment. -/
theorem exists_segments_append (s : List Char) :
    ∃ init last, ∀ t, '/' ∉ t → segments (s ++ t) = init ++ [last ++ t] := by
  induction s with
  | nil => exact ⟨[], [], fun t ht => segments_of_notMem ht⟩
  | cons c s ih =>
    obtain ⟨init, last, h⟩ := ih
    by_cases hc : c = '/'
    · subst hc
      refine ⟨[] :: init, last, ?_⟩
      intro t ht
      rw [List.cons_append, segments_cons_slash, h t ht, List.cons_append]
    · cases init with
      | nil =>
        refine ⟨[], c :: last, ?_⟩
        intro t ht
        rw [List.cons_append, segments, if_neg hc, h t ht]
        rfl
      | cons first init =>
        refine ⟨(c :: first) :: init, last, ?_⟩
        intro t ht
        rw [List.cons_append, segments, if_neg hc, h t ht]
        rfl

/-- The last segment of a text that does not end in a slash is not empty. -/
theorem getLast?_segments {s : List Char} (hs : s ≠ []) (hslash : s.getLast? ≠ some '/') :
    (segments s).getLast? ≠ some [] := by
  obtain ⟨init, last, hsegments⟩ := exists_segments_append s.dropLast
  have hend : '/' ∉ [s.getLast hs] := by
    rw [List.mem_singleton]
    intro hlast
    exact hslash (by rw [List.getLast?_eq_some_getLast hs, ← hlast])
  have htext := hsegments _ hend
  rw [List.dropLast_append_getLast hs] at htext
  simp [htext]

/-- The last segment is one of the path, not of the directory it is seen from. -/
theorem getLast?_segmentsFrom (cwd p : Path) :
    (Disk.segmentsFrom cwd p).getLast? = (segments p.text.toList).getLast? := by
  unfold Disk.segmentsFrom
  split
  · rfl
  · rw [List.getLast?_append_of_ne_nil _ (segments_ne_nil _)]

/-! ## Segments of joined paths -/

/-- Segments without an empty one at the end. -/
def stem (ss : List (List Char)) : List (List Char) :=
  if ss.getLast? = some [] then ss.dropLast else ss

theorem stem_append_singleton (ss : List (List Char)) {s : List Char} (hs : s ≠ []) :
    stem (ss ++ [s]) = ss ++ [s] := by
  simp [stem, hs]

theorem stem_append {ss ts : List (List Char)} (hts : ts ≠ []) :
    stem (ss ++ ts) = ss ++ stem ts := by
  unfold stem
  rw [List.getLast?_append_of_ne_nil _ hts, List.dropLast_append_of_ne_nil hts]
  split <;> rfl

theorem segments_withSlash_append {s n : List Char} (hs : s ≠ []) (hn : '/' ∉ n) :
    segments (withSlash s ++ n) = stem (segments s) ++ [n] := by
  unfold withSlash
  split
  · next hslash =>
    obtain ⟨t, rfl⟩ := List.getLast?_eq_some_iff.mp hslash
    rw [List.append_assoc, List.singleton_append, segments_append_slash,
      segments_append_slash, segments_of_notMem hn]
    simp [stem, segments]
  · next hslash =>
    have hkeep : stem (segments s) = segments s := if_neg (getLast?_segments hs hslash)
    rw [List.append_assoc, List.singleton_append, segments_append_slash,
      segments_of_notMem hn, hkeep]

theorem join_of_text_empty {p : Path} {n : String} (hp : p.text = "") : p.join ⟨n⟩ = ⟨n⟩ := by
  unfold join
  split
  · rfl
  · simp [hp]

theorem segments_join (p : Path) {n : String} (hn : '/' ∉ n.toList) :
    segments (p.join ⟨n⟩).text.toList = stem (segments p.text.toList) ++ [n.toList] := by
  by_cases hp : p.text = ""
  · rw [join_of_text_empty hp, hp, segments_of_notMem hn]
    rfl
  · rw [text_join hp hn, segments_withSlash_append (by simpa using hp) hn]

theorem isAbsolute_join (p : Path) {n : String} (hn : '/' ∉ n.toList) :
    (p.join ⟨n⟩).isAbsolute = p.isAbsolute := by
  have hhead : n.toList.head? ≠ some '/' := fun h => hn (List.mem_of_mem_head? h)
  rw [Bool.eq_iff_iff, isAbsolute_iff, isAbsolute_iff]
  by_cases hp : p.text = ""
  · simpa [join_of_text_empty hp, hp] using hhead
  · have hne : p.text.toList ≠ [] := by simpa using hp
    have hkeep : (withSlash p.text.toList).head? = p.text.toList.head? := by
      unfold withSlash
      split
      · rfl
      · exact List.head?_append_of_ne_nil _ hne
    have hslash : withSlash p.text.toList ≠ [] := by
      unfold withSlash
      split
      · exact hne
      · simp
    rw [text_join hp hn, List.head?_append_of_ne_nil _ hslash, hkeep]

theorem segmentsFrom_join (cwd p : Path) {n : String} (hn : '/' ∉ n.toList) :
    Disk.segmentsFrom cwd (p.join ⟨n⟩) = stem (Disk.segmentsFrom cwd p) ++ [n.toList] := by
  unfold Disk.segmentsFrom
  rw [isAbsolute_join p hn, segments_join p hn]
  split
  · rfl
  · rw [stem_append (segments_ne_nil _), List.append_assoc]

end EnvInline.Path
