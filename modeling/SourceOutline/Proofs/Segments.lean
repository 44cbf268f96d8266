import Mathlib.Data.List.Basic
import SourceOutline.Path.Basic

/-! Segments of bytes that are put together, and the components of a joined path. -/

namespace SourceOutline.Path

lemma segments_ne_nil (s : List UInt8) : segments s ≠ [] := by
  cases s with
  | nil => simp [segments]
  | cons c s =>
    rw [segments]
    split
    · simp
    · split <;> simp

lemma segments_slash (s : List UInt8) : segments (slash :: s) = [] :: segments s := by
  rw [segments, if_pos rfl]

lemma segments_cons {c : UInt8} (hc : c ≠ slash) {s first : List UInt8} {rest : List (List UInt8)}
    (h : segments s = first :: rest) : segments (c :: s) = (c :: first) :: rest := by
  rw [segments, if_neg hc, h]

lemma segments_append_slash (a b : List UInt8) :
    segments (a ++ slash :: b) = segments a ++ segments b := by
  induction a with
  | nil => exact segments_slash b
  | cons c a ih =>
    rw [List.cons_append]
    by_cases hc : c = slash
    · subst hc
      rw [segments_slash, segments_slash, ih, List.cons_append]
    · obtain ⟨first, rest, ha⟩ := List.exists_cons_of_ne_nil (segments_ne_nil a)
      have hab : segments (a ++ slash :: b) = first :: (rest ++ segments b) := by
        rw [ih, ha, List.cons_append]
      rw [segments_cons hc hab, segments_cons hc ha, List.cons_append]

lemma slash_not_mem_segment {s segment : List UInt8} (h : segment ∈ segments s) :
    slash ∉ segment := by
  induction s generalizing segment with
  | nil =>
    rw [segments, List.mem_singleton] at h
    simp [h]
  | cons c s ih =>
    by_cases hc : c = slash
    · rw [hc, segments_slash, List.mem_cons] at h
      rcases h with rfl | h
      · exact List.not_mem_nil
      · exact ih h
    · obtain ⟨first, rest, hs⟩ := List.exists_cons_of_ne_nil (segments_ne_nil s)
      rw [hs] at ih
      rw [segments_cons hc hs, List.mem_cons] at h
      rcases h with rfl | h
      · exact List.not_mem_cons_of_ne_of_not_mem (Ne.symm hc) (ih List.mem_cons_self)
      · exact ih (List.mem_cons_of_mem first h)

def steps (p : Path) : List Component :=
  p.split.2.filterMap component?

lemma components_eq (p : Path) : p.components = p.split.1.toList ++ p.steps := rfl

lemma isAbsolute_iff {p : Path} : p.isAbsolute = true ↔ ∃ rest, p.bytes = slash :: rest := by
  rw [isAbsolute, beq_iff_eq, List.head?_eq_some_iff]

lemma split_absolute {p : Path} (h : p.isAbsolute = true) :
    p.split = (some .root, (segments p.bytes).tail) := by
  rw [split, if_pos h]

lemma split_here {p : Path} (h : p.isAbsolute = false)
    (hdot : (segments p.bytes).head? = some [dot]) :
    p.split = (some .here, (segments p.bytes).tail) := by
  rw [split, h, if_neg Bool.false_ne_true, if_pos hdot]

lemma split_plain {p : Path} (h : p.isAbsolute = false)
    (hdot : (segments p.bytes).head? ≠ some [dot]) : p.split = (none, segments p.bytes) := by
  rw [split, h, if_neg Bool.false_ne_true, if_neg hdot]

lemma front_absolute {p : Path} (h : p.isAbsolute = true) : p.split.1 = some .root := by
  rw [split_absolute h]

lemma front_relative {p : Path} (h : p.isAbsolute = false) :
    p.split.1 = none ∨ p.split.1 = some .here := by
  by_cases hdot : (segments p.bytes).head? = some [dot]
  · rw [split_here h hdot]
    exact .inr rfl
  · rw [split_plain h hdot]
    exact .inl rfl

lemma split_suffix (p : Path) : p.split.2 <:+ segments p.bytes := by
  rw [split]
  split
  · exact List.tail_suffix _
  · split
    · exact List.tail_suffix _
    · exact List.suffix_rfl

lemma filterMap_tail {ss : List (List UInt8)} {s : List UInt8} (h : ss.head? = some s)
    (hs : component? s = none) : ss.tail.filterMap component? = ss.filterMap component? := by
  obtain ⟨rest, rfl⟩ := List.head?_eq_some_iff.mp h
  rw [List.tail_cons, List.filterMap_cons_none hs]

lemma steps_eq (p : Path) : p.steps = (segments p.bytes).filterMap component? := by
  by_cases h : p.isAbsolute = true
  · obtain ⟨rest, hrest⟩ := isAbsolute_iff.mp h
    -- the segment in front of the first slash is empty and names nothing
    rw [steps, split_absolute h]
    exact filterMap_tail (s := []) (by rw [hrest, segments_slash]; rfl) rfl
  · by_cases hdot : (segments p.bytes).head? = some [dot]
    · rw [steps, split_here (Bool.eq_false_iff.mpr h) hdot]
      exact filterMap_tail hdot rfl
    · rw [steps, split_plain (Bool.eq_false_iff.mpr h) hdot]

lemma bytes_join {root p : Path} (hr : root.isAbsolute = true) (hp : p.isAbsolute = false) :
    ∃ front, (root.join p).bytes = front ++ slash :: p.bytes ∧
      (root.bytes = front ∨ root.bytes = front ++ [slash]) := by
  have hne : root.bytes.isEmpty = false := by
    obtain ⟨rest, hrest⟩ := isAbsolute_iff.mp hr
    rw [hrest]
    rfl
  rw [join, hp, hne]
  by_cases hl : root.bytes.getLast? = some slash
  · obtain ⟨front, hfront⟩ := List.getLast?_eq_some_iff.mp hl
    refine ⟨front, ?_, .inr hfront⟩
    simp [hfront]
  · refine ⟨root.bytes, ?_, .inl rfl⟩
    simp [hl]

lemma isAbsolute_join {root p : Path} (hr : root.isAbsolute = true)
    (hp : p.isAbsolute = false) : (root.join p).isAbsolute = true := by
  obtain ⟨rest, hrest⟩ := isAbsolute_iff.mp hr
  obtain ⟨front, hbytes, hfront | hfront⟩ := bytes_join hr hp
  · rw [isAbsolute_iff, hbytes, ← hfront, hrest]
    exact ⟨_, rfl⟩
  · have hsplit : front ++ slash :: p.bytes = slash :: (rest ++ p.bytes) := by
      rw [← List.cons_append, ← hrest, hfront, List.append_assoc, List.singleton_append]
    exact isAbsolute_iff.mpr ⟨_, hbytes.trans hsplit⟩

lemma steps_join {root p : Path} (hr : root.isAbsolute = true) (hp : p.isAbsolute = false) :
    (root.join p).steps = root.steps ++ p.steps := by
  obtain ⟨front, hbytes, hfront | hfront⟩ := bytes_join hr hp
  · rw [steps_eq, steps_eq root, steps_eq p, hbytes, hfront, segments_append_slash,
      List.filterMap_append]
  · have hlast : (segments (front ++ [slash])).filterMap component? =
        (segments front).filterMap component? := by
      rw [segments_append_slash, List.filterMap_append]
      exact List.append_nil _
    rw [steps_eq, steps_eq root, steps_eq p, hbytes, hfront, hlast, segments_append_slash,
      List.filterMap_append]

lemma components_join {root p : Path} (hr : root.isAbsolute = true) (hp : p.isAbsolute = false) :
    (root.join p).components = root.components ++ p.steps := by
  rw [components_eq, components_eq root, front_absolute hr, front_absolute (isAbsolute_join hr hp),
    steps_join hr hp, List.append_assoc]

lemma name_mem_components {p : Path} {s : List UInt8} :
    .name s ∈ p.components ↔ ∃ segment ∈ segments p.bytes, component? segment = some (.name s) := by
  rw [components_eq, List.mem_append, Option.mem_toList, steps_eq, List.mem_filterMap,
    or_iff_right]
  intro h
  by_cases ha : p.isAbsolute = true
  · simp [front_absolute ha] at h
  · rcases front_relative (Bool.eq_false_iff.mpr ha) with hf | hf <;> simp [hf] at h

lemma eq_of_component?_name {s t : List UInt8} (h : component? s = some (.name t)) : s = t := by
  rw [component?] at h
  split at h
  · cases h
  · split at h
    · cases h
    · rwa [Option.some.injEq, Component.name.injEq] at h

lemma slash_not_mem_name {p : Path} {s : List UInt8} (h : Component.name s ∈ p.components) :
    slash ∉ s := by
  obtain ⟨segment, hmem, hc⟩ := name_mem_components.mp h
  exact eq_of_component?_name hc ▸ slash_not_mem_segment hmem

lemma fileName?_eq_some {p : Path} {s : List UInt8} :
    p.fileName? = some s ↔ p.components.getLast? = some (.name s) := by
  rw [fileName?]
  split
  · rename_i t ht
    rw [ht, Option.some.injEq, Option.some.injEq, Component.name.injEq]
  · rename_i hnone
    constructor
    · intro h
      cases h
    · intro h
      exact (hnone s h).elim

lemma fileName?_join {root p : Path} (hr : root.isAbsolute = true) (hp : p.isAbsolute = false)
    {s : List UInt8} (h : p.fileName? = some s) : (root.join p).fileName? = some s := by
  rw [fileName?_eq_some] at h ⊢
  have hsteps : p.steps.getLast? = some (.name s) := by
    rw [components_eq, List.getLast?_append, Option.or_eq_some_iff] at h
    rcases h with h | ⟨_, h⟩
    · exact h
    · rcases front_relative hp with hf | hf <;> simp [hf] at h
  rw [components_join hr hp, List.getLast?_append, hsteps]
  rfl

end SourceOutline.Path
