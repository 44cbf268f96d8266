import Mathlib.Data.List.DropRight
import SourceOutline.Path.Identifier
import SourceOutline.Proofs.Encoding
import SourceOutline.Proofs.Lists
import SourceOutline.Proofs.Segments

/-!
What is left of a path below a base. What is left is cut out of the path as it was given;
read as a path it has the components that come after those of the base.
-/

namespace SourceOutline.Path

lemma segments_of_slashless {s : List UInt8} (h : slash ∉ s) : segments s = [s] := by
  induction s with
  | nil => rfl
  | cons c s ih =>
    rw [List.mem_cons, not_or] at h
    exact segments_cons (Ne.symm h.1) (ih h.2)

lemma segments_joined {ss : List (List UInt8)} (hne : ss ≠ []) (h : ∀ s ∈ ss, slash ∉ s) :
    segments (joined ss) = ss := by
  induction ss with
  | nil => exact (hne rfl).elim
  | cons s ss ih =>
    rw [List.forall_mem_cons] at h
    cases ss with
    | nil => exact segments_of_slashless h.1
    | cons t ts =>
      have hrest := ih (List.cons_ne_nil t ts) h.2
      rw [joined, segments_append_slash, segments_of_slashless h.1, hrest]
      · rfl
      · exact List.cons_ne_nil t ts

lemma joined_concat {ss : List (List UInt8)} (hne : ss ≠ []) (s : List UInt8) :
    joined (ss ++ [s]) = joined ss ++ slash :: s := by
  induction ss with
  | nil => exact (hne rfl).elim
  | cons t ts ih =>
    cases ts with
    | nil => rfl
    | cons u us =>
      have hrest := ih (List.cons_ne_nil u us)
      simp only [List.cons_append] at hrest
      simp only [List.cons_append, joined, hrest, List.append_assoc]

lemma suffix_joined {ss : List (List UInt8)} {s : List UInt8} (h : ss.getLast? = some s) :
    s <:+ joined ss := by
  obtain ⟨front, rfl⟩ := List.getLast?_eq_some_iff.mp h
  by_cases hf : front = []
  · rw [hf]
    exact List.suffix_rfl
  · exact ⟨joined front ++ [slash], by rw [joined_concat hf, List.append_assoc]; rfl⟩

lemma component?_silent {s : List UInt8} (h : silent s = true) : component? s = none := by
  rw [component?, if_pos h]

lemma component?_loud {s : List UInt8} (h : silent s = false) : ∃ c, component? s = some c := by
  rw [component?, if_neg (by simp [h])]
  split
  · exact ⟨_, rfl⟩
  · exact ⟨_, rfl⟩

lemma filterMap_trimFront (ss : List (List UInt8)) :
    (trimFront ss).filterMap component? = ss.filterMap component? := by
  induction ss with
  | nil => rfl
  | cons s ss ih =>
    by_cases h : silent s = true
    · rw [List.filterMap_cons_none (component?_silent h), ← ih, trimFront,
        List.dropWhile_cons_of_pos h, trimFront]
    · rw [trimFront, List.dropWhile_cons_of_neg h]

lemma filterMap_trimBack (ss : List (List UInt8)) :
    (trimBack ss).filterMap component? = ss.filterMap component? := by
  have h := filterMap_trimFront ss.reverse
  rw [List.filterMap_reverse] at h
  rw [trimBack, List.filterMap_reverse]
  exact List.reverse_eq_iff.mpr h

lemma filterMap_after (n : ℕ) (ss : List (List UInt8)) :
    (after n ss).filterMap component? = (ss.filterMap component?).drop n := by
  induction ss generalizing n with
  | nil => cases n <;> simp [after]
  | cons s ss ih =>
    cases n with
    | zero => rfl
    | succ n =>
      by_cases h : silent s = true
      · rw [after, if_pos h, ih, List.filterMap_cons_none (component?_silent h)]
      · obtain ⟨c, hc⟩ := component?_loud (Bool.eq_false_iff.mpr h)
        rw [after, if_neg h, ih, List.filterMap_cons_some hc, List.drop_succ_cons]

lemma after_suffix (n : ℕ) (ss : List (List UInt8)) : after n ss <:+ ss := by
  induction ss generalizing n with
  | nil => cases n <;> exact List.suffix_rfl
  | cons s ss ih =>
    cases n with
    | zero => exact List.suffix_rfl
    | succ n =>
      rw [after]
      split
      · exact (ih _).trans (List.suffix_cons s ss)
      · exact (ih _).trans (List.suffix_cons s ss)

lemma trimBack_isPrefix (ss : List (List UInt8)) : trimBack ss <+: ss :=
  List.rdropWhile_prefix silent ss

lemma trimFront_suffix (ss : List (List UInt8)) : trimFront ss <:+ ss :=
  List.dropWhile_suffix silent

lemma loud_of_getLast?_trimBack {ss : List (List UInt8)} {s : List UInt8}
    (h : (trimBack ss).getLast? = some s) : silent s = false := by
  obtain ⟨hne, rfl⟩ := List.mem_getLast?_eq_getLast h
  exact Bool.eq_false_iff.mpr (List.rdropWhile_last_not silent ss hne)

lemma loud_of_head?_trimFront {ss : List (List UInt8)} {s : List UInt8}
    (h : (trimFront ss).head? = some s) : silent s = false := by
  have hne : trimFront ss ≠ [] := by
    intro he
    rw [he] at h
    cases h
  have hs := List.head_dropWhile_not silent hne
  rw [List.head?_eq_some_head hne, Option.some.injEq] at h
  exact h ▸ hs

lemma slash_not_mem_split {p : Path} {s : List UInt8} (h : s ∈ p.split.2) : slash ∉ s :=
  slash_not_mem_segment ((split_suffix p).subset h)

section Joined

variable {ss : List (List UInt8)} (hslash : ∀ s ∈ ss, slash ∉ s)

include hslash

lemma filterMap_segments_joined :
    (segments (joined ss)).filterMap component? = ss.filterMap component? := by
  by_cases hne : ss = []
  · rw [hne]
    rfl
  · rw [segments_joined hne hslash]

lemma head?_joined (hfirst : ss.head? ≠ some []) : (joined ss).head? ≠ some slash := by
  cases ss with
  | nil => simp [joined]
  | cons s ss =>
    rw [List.forall_mem_cons] at hslash
    cases s with
    | nil => exact (hfirst rfl).elim
    | cons c s =>
      have hc : c ≠ slash := fun he => hslash.1 (he ▸ List.mem_cons_self)
      cases ss <;> simpa [joined] using hc

lemma isAbsolute_joined (hfirst : ss.head? ≠ some []) :
    (Path.mk (joined ss)).isAbsolute = false := by
  exact beq_eq_false_iff_ne.mpr (head?_joined hslash hfirst)

lemma steps_joined :
    (Path.mk (joined ss)).steps = ss.filterMap component? := by
  rw [steps_eq, filterMap_segments_joined hslash]

lemma components_joined (hfirst : ∀ s, ss.head? = some s → silent s = false) :
    (Path.mk (joined ss)).components = ss.filterMap component? := by
  have hnil : ss.head? ≠ some [] := fun h => Bool.noConfusion (hfirst _ h)
  have hdot : (segments (joined ss)).head? ≠ some [dot] := by
    by_cases hne : ss = []
    · rw [hne]
      exact (by decide)
    · rw [segments_joined hne hslash]
      exact fun h => Bool.noConfusion (hfirst _ h)
  have hfront : (Path.mk (joined ss)).split.1 = none := by
    rw [split_plain (isAbsolute_joined hslash hnil) hdot]
  rw [components_eq, hfront, steps_joined hslash]
  rfl

end Joined

lemma eq_nil_of_segments {bytes : List UInt8} (habs : bytes.head? ≠ some slash)
    (h : (segments bytes).head? = some []) : bytes = [] := by
  cases bytes with
  | nil => rfl
  | cons c bytes =>
    have hc : c ≠ slash := fun he => habs (he ▸ rfl)
    obtain ⟨first, rest, hs⟩ := List.exists_cons_of_ne_nil (segments_ne_nil bytes)
    rw [segments_cons hc hs] at h
    cases h

lemma components_trimmed_relative {p : Path} (h : p.isAbsolute = false) :
    (Path.mk p.trimmed).components = p.components := by
  have hslash (ss : List (List UInt8)) (hss : ss ⊆ segments p.bytes) (s : List UInt8)
      (hs : s ∈ ss) : slash ∉ s := slash_not_mem_segment (hss hs)
  by_cases hdot : (segments p.bytes).head? = some [dot]
  · obtain ⟨rest, hrest⟩ := List.head?_eq_some_iff.mp hdot
    have hsplit := split_here h hdot
    rw [hrest, List.tail_cons] at hsplit
    have hback : [dot] :: trimBack rest ⊆ segments p.bytes := by
      rw [hrest]
      exact List.cons_subset_cons _ (trimBack_isPrefix rest).subset
    have htrimmed : p.trimmed = joined ([dot] :: trimBack rest) := by rw [trimmed, hsplit]
    have hagain := segments_joined (List.cons_ne_nil _ _) (hslash _ hback)
    have habs := isAbsolute_joined (hslash _ hback) (by simp)
    rw [components, components, htrimmed, split_here habs (by rw [hagain]; rfl), hsplit, hagain]
    exact congrArg (Component.here :: ·) (filterMap_trimBack rest)
  · have hsplit := split_plain h hdot
    have htrimmed : p.trimmed = joined (trimBack (segments p.bytes)) := by rw [trimmed, hsplit]
    have hback := trimBack_isPrefix (segments p.bytes)
    -- the first segment is neither a dot nor empty, unless the whole path is
    have hfirst (s : List UInt8) (hs : (trimBack (segments p.bytes)).head? = some s) :
        silent s = false := by
      have hhead := head?_of_isPrefix hback hs
      by_cases hnil : s = []
      · subst hnil
        have hbytes := eq_nil_of_segments (beq_eq_false_iff_ne.mp h) hhead
        rw [hbytes] at hs
        cases hs
      · have hne : s ≠ [dot] := fun he => hdot (he ▸ hhead)
        simp [silent, hnil, hne]
    rw [htrimmed, components_joined (hslash _ hback.subset) hfirst, filterMap_trimBack,
      components, hsplit]
    rfl

lemma components_trimmed (p : Path) : (Path.mk p.trimmed).components = p.components := by
  have hslash (s : List UInt8) (hs : s ∈ trimBack p.split.2) : slash ∉ s :=
    slash_not_mem_split ((trimBack_isPrefix _).subset hs)
  by_cases ha : p.isAbsolute = true
  · have hsplit := split_absolute ha
    have htrimmed : p.trimmed = slash :: joined (trimBack p.split.2) := by rw [trimmed, hsplit]
    have habs : (Path.mk p.trimmed).isAbsolute = true := isAbsolute_iff.mpr ⟨_, htrimmed⟩
    rw [components_eq, components_eq p, front_absolute habs, front_absolute ha, steps_eq, steps,
      htrimmed, segments_slash, List.filterMap_cons_none rfl, filterMap_segments_joined hslash,
      filterMap_trimBack]
  · exact components_trimmed_relative (Bool.eq_false_iff.mpr ha)

lemma bytes_eq_nil_of_components {p : Path} (h : p.components = []) : p.bytes = [] := by
  rw [components_eq, List.append_eq_nil_iff, steps_eq] at h
  have habs : p.isAbsolute = false := by
    rw [← Bool.not_eq_true]
    intro ha
    rw [front_absolute ha] at h
    cases h.1
  obtain ⟨first, rest, hs⟩ := List.exists_cons_of_ne_nil (segments_ne_nil p.bytes)
  have hsilent : silent first = true := by
    by_contra hloud
    obtain ⟨c, hc⟩ := component?_loud (Bool.eq_false_iff.mpr hloud)
    rw [hs, List.filterMap_cons_some hc] at h
    cases h.2
  have hne : first ≠ [dot] := by
    rintro rfl
    rw [split_here habs (by rw [hs]; rfl)] at h
    cases h.1
  have hnil : first = [] := by simpa [silent, hne] using hsilent
  exact eq_nil_of_segments (beq_eq_false_iff_ne.mp habs) (by rw [hs, hnil]; rfl)

/-- The segments of `p` that are left below as many components as `base` has. -/
def restBelow (p base : Path) : List (List UInt8) :=
  trimBack (trimFront (after (base.components.length - p.split.1.toList.length) p.split.2))

lemma restBelow_subset (p base : Path) : p.restBelow base ⊆ p.split.2 := by
  intro s hs
  have hfront := (trimBack_isPrefix _).subset hs
  exact (after_suffix _ _).subset ((trimFront_suffix _).subset hfront)

lemma loud_of_head?_restBelow {p base : Path} {s : List UInt8}
    (h : (p.restBelow base).head? = some s) : silent s = false :=
  loud_of_head?_trimFront (head?_of_isPrefix (trimBack_isPrefix _) h)

section NonemptyBase

variable {p base : Path} (hbase : base.bytes ≠ [])

include hbase

lemma below?_eq (hbelow : base.components <+: p.components) :
    p.below? base = some (joined (p.restBelow base)) := by
  have hskip : base.components.length ≠ 0 := by
    rw [Ne, List.length_eq_zero_iff]
    exact fun h => hbase (bytes_eq_nil_of_components h)
  rw [below?, if_pos (List.isPrefixOf_iff_prefix.mpr hbelow), if_neg hskip, restBelow]

lemma components_restBelow :
    (p.restBelow base).filterMap component? = p.components.drop base.components.length := by
  have hfront : p.split.1.toList.length ≤ base.components.length := by
    have hpos : 0 < base.components.length :=
      List.length_pos_iff.mpr fun h => hbase (bytes_eq_nil_of_components h)
    have hone : p.split.1.toList.length ≤ 1 := by cases p.split.1 <;> simp
    omega
  rw [restBelow, filterMap_trimBack, filterMap_trimFront, filterMap_after, components_eq p,
    List.drop_append, List.drop_of_length_le hfront, List.nil_append]
  rfl

end NonemptyBase

lemma below?_isSome (p base : Path) :
    (p.below? base).isSome = true ↔ base.components <+: p.components := by
  rw [below?, ← List.isPrefixOf_iff_prefix]
  split
  · rename_i h
    split <;> simp [h]
  · rename_i h
    simp [h]

lemma components_below {p base : Path} {rel : List UInt8} (h : p.below? base = some rel) :
    base.components ++ (Path.mk rel).components = p.components := by
  have hbelow : base.components <+: p.components :=
    (below?_isSome p base).mp (Option.isSome_of_eq_some h)
  by_cases hbase : base.bytes = []
  · have hnil : base.components = [] := by
      rw [components, split, isAbsolute, hbase]
      rfl
    rw [below?, if_pos (List.isPrefixOf_iff_prefix.mpr hbelow), hnil, List.length_nil,
      if_pos rfl, Option.some.injEq] at h
    rw [hnil, ← h, components_trimmed, List.nil_append]
  · rw [below?_eq hbase hbelow, Option.some.injEq] at h
    have hslash (s : List UInt8) (hs : s ∈ p.restBelow base) : slash ∉ s :=
      slash_not_mem_split (restBelow_subset p base hs)
    rw [← h, components_joined hslash fun s => loud_of_head?_restBelow,
      components_restBelow hbase]
    exact List.prefix_iff_eq_append.mp hbelow

section Texts

open Utf8

lemma joined_segments (bytes : List UInt8) : joined (segments bytes) = bytes := by
  induction bytes with
  | nil => rfl
  | cons b bytes ih =>
    obtain ⟨first, rest, hs⟩ := List.exists_cons_of_ne_nil (segments_ne_nil bytes)
    by_cases hb : b = slash
    · rw [hb, segments_slash, hs, joined, ← hs, ih]
      · rfl
      · exact List.cons_ne_nil first rest
    · rw [hs] at ih
      rw [segments_cons hb hs]
      cases rest with
      | nil => exact congrArg (b :: ·) ih
      | cons second rest => exact congrArg (b :: ·) ih

lemma isText_joined {ss : List (List UInt8)} : IsText (joined ss) ↔ ∀ s ∈ ss, IsText s := by
  induction ss with
  | nil => exact ⟨by simp, fun _ => ⟨"", rfl⟩⟩
  | cons s ss ih =>
    cases ss with
    | nil => simp [joined]
    | cons t ts =>
      rw [joined, isText_append_cons (c := '/') (by decide) (by decide), ih,
        List.forall_mem_cons (a := s)]
      exact List.cons_ne_nil t ts

lemma isText_of_silent {s : List UInt8} (h : silent s = true) : IsText s := by
  rw [silent, Bool.or_eq_true, beq_iff_eq, beq_iff_eq] at h
  rcases h with rfl | rfl
  · exact ⟨"", rfl⟩
  · exact ⟨".", rfl⟩

lemma isText_of_nameless {s : List UInt8} (h : ∀ name, component? s ≠ some (.name name)) :
    IsText s := by
  rw [component?] at h
  split at h
  · rename_i hs
    exact isText_of_silent hs
  · split at h
    · rename_i hup
      exact ⟨"..", hup⟩
    · exact (h s rfl).elim

lemma isText_iff_names (p : Path) :
    IsText p.bytes ↔ ∀ name, Component.name name ∈ p.components → IsText name := by
  rw [← joined_segments p.bytes, isText_joined]
  constructor
  · intro h name hname
    obtain ⟨s, hs, hc⟩ := name_mem_components.mp hname
    exact eq_of_component?_name hc ▸ h s hs
  · intro h s hs
    by_cases hname : ∃ name, component? s = some (.name name)
    · obtain ⟨name, hc⟩ := hname
      exact eq_of_component?_name hc ▸ h name (name_mem_components.mpr ⟨s, hs, hc⟩)
    · exact isText_of_nameless (not_exists.mp hname)

/-- Whether the names on a path that come after those on the root are texts. -/
def TextBelow (p root : Path) : Prop :=
  ∀ name, Component.name name ∈ p.components.drop root.components.length → IsText name

lemma isText_below {p root : Path} {rest : List UInt8} (h : p.below? root = some rest) :
    IsText rest ↔ p.TextBelow root := by
  have hdrop : p.components.drop root.components.length = (Path.mk rest).components := by
    rw [← components_below h, List.drop_left]
  rw [TextBelow, hdrop]
  exact isText_iff_names ⟨rest⟩

end Texts

def IsOn (p : Path) (d : Disk) : Prop :=
  ∃ place, d.locate p = .ok place

lemma isOn_of_canonical? {p p' : Path} {d : Disk} (h : d.canonical? p = some p') : p.IsOn d := by
  rw [Disk.canonical?] at h
  split at h
  · rename_i place hplace
    exact ⟨place, hplace⟩
  · cases h

section Apart

variable {d : Disk} {p root : Path} (h : ¬ (p.IsOn d ∧ root.IsOn d))

include h

lemma compared_eq : compared d p root = (p, root) := by
  rw [compared]
  split
  · rename_i hp hr
    exact (h ⟨isOn_of_canonical? hp, isOn_of_canonical? hr⟩).elim
  · rfl

lemma relativeTo_cases :
    (¬ root.components <+: p.components ∧ p.relativeTo d root = .error (.outside p root)) ∨
    (root.components <+: p.components ∧ ¬ p.TextBelow root ∧
      p.relativeTo d root = .error .invalidText) ∨
    ∃ rel, root.components <+: p.components ∧ p.TextBelow root ∧
      p.below? root = some (Utf8.encode rel) ∧ p.relativeTo d root = .ok rel := by
  have hpair := compared_eq h
  have hsome := below?_isSome p root
  cases hrest : p.below? root with
  | none =>
    have hbelow : ¬ root.components <+: p.components := by simpa [hrest] using hsome
    exact .inl ⟨hbelow, by simp [relativeTo, hpair, hrest]⟩
  | some rest =>
    have hbelow : root.components <+: p.components := by simpa [hrest] using hsome
    have htext := isText_below hrest
    cases hrel : Utf8.text? rest with
    | none =>
      have hnot : ¬ p.TextBelow root := by simpa [Utf8.isText_iff, hrel] using htext
      exact .inr (.inl ⟨hbelow, hnot, by simp [relativeTo, hpair, hrest, hrel]⟩)
    | some rel =>
      have hbytes := Utf8.text?_eq_some.mp hrel
      exact .inr (.inr ⟨rel, hbelow, htext.mp ⟨rel, hbytes⟩, congrArg some hbytes,
        by simp [relativeTo, hpair, hrest, hrel]⟩)

end Apart

end SourceOutline.Path
