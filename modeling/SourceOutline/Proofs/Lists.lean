import Mathlib.Data.List.Forall2

/-! General facts about lists and optional values. -/

namespace SourceOutline

lemma takeWhile_congr {α : Type} {p q : α → Bool} {l : List α} (h : ∀ a ∈ l, p a = q a) :
    l.takeWhile p = l.takeWhile q := by
  induction l with
  | nil => rfl
  | cons a l ih =>
    rw [List.forall_mem_cons] at h
    rw [List.takeWhile_cons, List.takeWhile_cons, h.1, ih h.2]

lemma drop_eq_cons {α : Type} {l : List α} {index : Nat} {a : α} {as : List α}
    (h : l.drop index = a :: as) : l[index]? = some a ∧ l.drop (index + 1) = as := by
  rw [← List.head?_drop, ← List.tail_drop, h]
  exact ⟨rfl, rfl⟩

lemma head?_of_isPrefix {α : Type} {l m : List α} {a : α} (h : l <+: m) (ha : l.head? = some a) :
    m.head? = some a := by
  obtain ⟨t, rfl⟩ := h
  rw [List.head?_append, ha]
  rfl

lemma findIdx?_first {α : Type} {p : α → Bool} {l : List α} {i : Nat} {a : α}
    (h : l[i]? = some a) (ha : p a = true) :
    ∃ (j : Nat) (b : α), l.findIdx? p = some j ∧ l[j]? = some b ∧ l.find? p = some b ∧ p b = true ∧
      j ≤ i ∧ ∀ k < j, ∀ c, l[k]? = some c → p c = false := by
  obtain ⟨hi, rfl⟩ := List.getElem?_eq_some_iff.mp h
  have hj := List.findIdx?_eq_some_of_exists ⟨_, List.getElem_mem hi, ha⟩
  obtain ⟨hlt, hp, hmin⟩ := List.findIdx?_eq_some_iff_getElem.mp hj
  have hf : l.find? p = some l[l.findIdx p] := by
    rw [List.find?_eq_getElem?_findIdx, List.getElem?_eq_getElem hlt]
  refine ⟨l.findIdx p, _, hj, List.getElem?_eq_getElem hlt, hf, hp, ?_, ?_⟩
  · by_contra hc
    exact hmin i (by omega) ha
  · intro k hk c hc
    obtain ⟨_, rfl⟩ := List.getElem?_eq_some_iff.mp hc
    simpa using hmin k hk

lemma filterMap_range {α β : Type} (l : List α) (f : α → Option β) :
    (List.range l.length).filterMap (fun i => l[i]?.bind f) = l.filterMap f := by
  induction l with
  | nil => rfl
  | cons a l ih =>
    rw [List.length_cons, List.range_succ_eq_map, List.filterMap_cons, List.filterMap_map,
      List.filterMap_cons, ← ih]
    rfl

lemma flatMap_filter_congr {α β : Type} {keep : α → Bool} {f g : α → List β} {l : List α}
    (hk : ∀ a ∈ l, keep a = true → f a = g a) (hn : ∀ a ∈ l, keep a = false → g a = []) :
    (l.filter keep).flatMap f = l.flatMap g := by
  induction l with
  | nil => rfl
  | cons a l ih =>
    rw [List.forall_mem_cons] at hk hn
    have hl := ih hk.2 hn.2
    cases ha : keep a with
    | true => simp [ha, hk.1 ha, hl]
    | false => simp [ha, hn.1 ha, hl]

lemma eq_of_flatMap_eq {α β : Type} {f g : α → List β} {l : List α}
    (hlen : ∀ x ∈ l, (f x).length = (g x).length) (h : l.flatMap f = l.flatMap g) :
    ∀ x ∈ l, f x = g x := by
  induction l with
  | nil => simp
  | cons a l ih =>
    rw [List.forall_mem_cons] at hlen
    rw [List.flatMap_cons, List.flatMap_cons] at h
    obtain ⟨ha, hl⟩ := List.append_inj h hlen.1
    exact List.forall_mem_cons.mpr ⟨ha, ih hlen.2 hl⟩

lemma forall₂_filterMap {α β γ : Type} {R : β → γ → Prop} {f : α → Option β} {g : α → Option γ}
    (h : ∀ a, Option.Rel R (f a) (g a)) (l : List α) :
    List.Forall₂ R (l.filterMap f) (l.filterMap g) :=
  List.rel_filterMap (fun a b (he : a = b) => he ▸ h a) (List.forall₂_refl l)

lemma forall₂_filter {α β : Type} {p : α → Bool} {f : α → Option β}
    (h : ∀ a, (f a).isSome = p a) (l : List α) :
    List.Forall₂ (fun a b => f a = some b) (l.filter p) (l.filterMap f) := by
  rw [← List.filterMap_eq_filter]
  apply forall₂_filterMap
  intro a
  rw [Option.guard, ← h a]
  cases hf : f a with
  | none => exact .none
  | some b => exact .some hf

lemma mapM_eq_some {α β : Type} {f : α → Option β} {g : α → β} {xs : List α}
    (h : ∀ x ∈ xs, f x = some (g x)) : xs.mapM f = some (xs.map g) := by
  induction xs with
  | nil => rfl
  | cons x xs ih =>
    have hx : f x = some (g x) := h x List.mem_cons_self
    have hxs := ih fun y hy => h y (List.mem_cons_of_mem x hy)
    simp [List.mapM_cons, hx, hxs]

lemma mapM_eq_some_iff {α β : Type} {f : α → Option β} {xs : List α} {ys : List β} :
    xs.mapM f = some ys ↔ List.Forall₂ (fun x y => f x = some y) xs ys := by
  induction xs generalizing ys with
  | nil => simp [eq_comm]
  | cons x xs ih =>
    simp only [List.mapM_cons, Option.bind_eq_bind, Option.bind_eq_some_iff, Option.pure_def,
      Option.some.injEq, List.forall₂_cons_left_iff, ih]
    constructor
    · rintro ⟨y, hy, zs, hzs, rfl⟩
      exact ⟨y, zs, hy, hzs, rfl⟩
    · rintro ⟨y, zs, hy, hzs, rfl⟩
      exact ⟨y, hy, zs, hzs, rfl⟩

lemma mapM_congr {α β : Type} {f g : α → Option β} {xs : List α} (h : ∀ x ∈ xs, f x = g x) :
    xs.mapM f = xs.mapM g := by
  induction xs with
  | nil => rfl
  | cons x xs ih =>
    have hxs := ih fun y hy => h y (List.mem_cons_of_mem x hy)
    rw [List.mapM_cons, List.mapM_cons, h x List.mem_cons_self, hxs]

lemma mapM_mono {α β : Type} {f g : α → Option β} {xs : List α} {ys : List β}
    (h : ∀ x ∈ xs, ∀ y, f x = some y → g x = some y) (hf : xs.mapM f = some ys) :
    xs.mapM g = some ys := by
  rw [mapM_eq_some_iff] at hf ⊢
  rw [List.forall₂_iff_zip] at hf ⊢
  exact ⟨hf.1, fun hxy => h _ (List.of_mem_zip hxy).1 _ (hf.2 hxy)⟩

lemma mapM_eq_none {α β : Type} {f : α → Option β} {xs : List α} {x : α} (hx : x ∈ xs)
    (h : f x = none) : xs.mapM f = none := by
  induction xs with
  | nil => cases hx
  | cons a xs ih =>
    rw [List.mapM_cons]
    rcases List.mem_cons.mp hx with rfl | hx
    · simp [h]
    · cases f a <;> simp [ih hx]

lemma rel_getElem? {α β : Type} {R : α → β → Prop} {l : List α} {m : List β}
    (h : List.Forall₂ R l m) (i : Nat) : Option.Rel R l[i]? m[i]? := by
  induction h generalizing i with
  | nil => exact .none
  | cons ha _ ih =>
    cases i with
    | zero => exact .some ha
    | succ i => exact ih i

lemma rel_bind {α β γ δ : Type} {R : α → β → Prop} {S : γ → δ → Prop} {a : Option α}
    {b : Option β} {f : α → Option γ} {g : β → Option δ} (h : Option.Rel R a b)
    (hs : ∀ x y, R x y → Option.Rel S (f x) (g y)) : Option.Rel S (a.bind f) (b.bind g) := by
  cases h with
  | some hr => exact hs _ _ hr
  | none => exact .none

lemma rel_some {α β : Type} {R : α → β → Prop} {a : α} {b : Option β}
    (h : Option.Rel R (some a) b) : ∃ y, b = some y ∧ R a y := by
  cases h with
  | some hr => exact ⟨_, rfl, hr⟩

lemma rel_map {α β γ : Type} {R : γ → β → Prop} {f : α → γ} {a : Option α} {b : Option β}
    (h : Option.Rel (fun x y => R (f x) y) a b) : Option.Rel R (a.map f) b := by
  cases h with
  | some hr => exact .some hr
  | none => exact .none

lemma bind_eq_some_of_iff {α β : Type} {x : Option α} {a : α} {P : Prop}
    (h : ∀ y, x = some y ↔ P ∧ a = y) {f : α → Option β} {z : β} :
    x >>= f = some z ↔ P ∧ f a = some z := by
  rw [Option.bind_eq_bind, Option.bind_eq_some_iff]
  constructor
  · rintro ⟨y, hy, hz⟩
    obtain ⟨hP, rfl⟩ := (h y).mp hy
    exact ⟨hP, hz⟩
  · rintro ⟨hP, hz⟩
    exact ⟨a, (h a).mpr ⟨hP, rfl⟩, hz⟩

end SourceOutline
