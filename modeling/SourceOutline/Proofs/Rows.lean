import Mathlib.Data.List.OfFn
import SourceOutline.Proofs.Records

/-! What is found under the keys of an object, and in the columns of a record. -/

namespace SourceOutline.Json

section Keys

variable {key : String} {fields front back : List (String × Json)} {v : Json}

lemma unique?_of_mem {column : Option Json} (hv : (key, v) ∈ fields)
    (h : unique? key fields = some column) : column = some v := by
  have hmem : (key, v) ∈ fields.filter fun f => f.1 == key := by simpa using hv
  unfold unique? at h
  split at h
  · simp_all
  · rename_i f hf
    rw [hf, List.mem_singleton] at hmem
    subst hmem
    exact (Option.some.inj h).symm
  · simp at h

lemma unique?_filter_ne {other : String} (h : other ≠ key) :
    unique? other (fields.filter fun f => f.1 != key) = unique? other fields := by
  have hboth : ((fields.filter fun f => f.1 != key).filter fun f => f.1 == other) =
      fields.filter fun f => f.1 == other := by
    rw [List.filter_filter]
    apply List.filter_congr
    intro f _
    by_cases hf : f.1 = other <;> simp [hf, h]
  rw [unique?, unique?, hboth]

lemma unique?_perm {fields' : List (String × Json)} (h : fields.Perm fields') (key : String) :
    unique? key fields = unique? key fields' := by
  have hp := h.filter fun f => f.1 == key
  unfold unique?
  generalize fields.filter (fun f => f.1 == key) = own at hp ⊢
  generalize fields'.filter (fun f => f.1 == key) = own' at hp ⊢
  have hlength := hp.length_eq
  rcases own with _ | ⟨f, _ | ⟨g, own⟩⟩
  · rw [List.nil_perm.mp hp]
  · rw [List.singleton_perm.mp hp]
  · rcases own' with _ | ⟨f', _ | ⟨g', own'⟩⟩
    · cases hlength
    · simp at hlength
    · rfl

lemma filter_key_eq_nil (h : key ∉ fields.map Prod.fst) :
    (fields.filter fun f => f.1 == key) = [] := by
  rw [List.filter_eq_nil_iff]
  intro f hf he
  exact h (List.mem_map.mpr ⟨f, hf, by simpa using he⟩)

lemma unique?_of_not_mem (h : key ∉ fields.map Prod.fst) : unique? key fields = some none := by
  rw [unique?, filter_key_eq_nil h]

lemma unique?_insert_ne {other : String} (h : other ≠ key) :
    unique? other (front ++ (key, v) :: back) = unique? other (front ++ back) := by
  have hkey : (key == other) = false := by simpa using h.symm
  simp [unique?, List.filter_append, hkey]

lemma unique?_insert (h : key ∉ (front ++ back).map Prod.fst) :
    unique? key (front ++ (key, v) :: back) = some (some v) := by
  rw [unique?_perm List.perm_middle, unique?, List.filter_cons_of_pos (by simp),
    filter_key_eq_nil h]

lemma unique?_double (h : key ∈ (front ++ back).map Prod.fst) :
    unique? key (front ++ (key, v) :: back) = none := by
  obtain ⟨f, hf, rfl⟩ := List.mem_map.mp h
  have hown : f ∈ (front ++ back).filter fun g => g.1 == f.1 := by simpa using hf
  obtain ⟨g, own, hcons⟩ := List.exists_cons_of_ne_nil (List.ne_nil_of_mem hown)
  rw [unique?_perm List.perm_middle, unique?, List.filter_cons_of_pos (by simp), hcons]

lemma unique?_middle {column : Option Json}
    (h : unique? key (front ++ (key, v) :: back) = some column) :
    column = some v ∧ key ∉ (front ++ back).map Prod.fst := by
  refine ⟨unique?_of_mem (by simp) h, fun hmem => ?_⟩
  rw [unique?_double hmem] at h
  cases h

lemma lookup_of_unique? {column : Option Json} (h : unique? key fields = some column) :
    fields.lookup key = column := by
  cases hv : fields.lookup key with
  | none =>
    have hkey : key ∉ fields.map Prod.fst := by
      rintro hmem
      obtain ⟨f, hf, rfl⟩ := List.mem_map.mp hmem
      simpa using List.lookup_eq_none_iff.mp hv f hf
    rw [unique?_of_not_mem hkey] at h
    exact Option.some.inj h
  | some v =>
    obtain ⟨front, back, rfl, _⟩ := List.lookup_eq_some_iff.mp hv
    exact (unique?_of_mem (by simp) h).symm

lemma mem_of_unique? (h : unique? key fields = some (some v)) : (key, v) ∈ fields := by
  obtain ⟨front, back, rfl, _⟩ := List.lookup_eq_some_iff.mp (lookup_of_unique? h)
  simp

lemma exists_unique?_iff :
    (∃ column, unique? key fields = some column) ↔ (fields.map Prod.fst).count key ≤ 1 := by
  have hcount : (fields.map Prod.fst).count key =
      (fields.filter fun f => f.1 == key).length := by
    rw [List.count_eq_countP, List.countP_map, List.countP_eq_length_filter]
    rfl
  rw [hcount, unique?]
  generalize fields.filter (fun f => f.1 == key) = own
  rcases own with _ | ⟨f, _ | ⟨g, own⟩⟩
  · simp
  · simp
  · simp

lemma mem_iff_of_unique? {column : Option Json} (h : unique? key fields = some column) (v : Json) :
    (key, v) ∈ fields ↔ column = some v := by
  constructor
  · intro hv
    exact unique?_of_mem hv h
  · rintro rfl
    exact mem_of_unique? h

lemma not_mem_of_unique? (h : unique? key fields = some none) : key ∉ fields.map Prod.fst := by
  intro hkey
  obtain ⟨⟨_, v⟩, hv, rfl⟩ := List.mem_map.mp hkey
  cases unique?_of_mem hv h

end Keys

lemma length_row? {keys : List String} {j : Json} {columns : List (Option Json)}
    (h : j.row? keys = some columns) : columns.length = keys.length := by
  cases j with
  | obj fields => exact (mapM_eq_some_iff.mp h).length_eq.symm
  | arr items =>
    simp only [row?, Option.ite_none_right_eq_some, Option.some.injEq] at h
    rw [← h.2, List.length_map]
    exact h.1
  | _ => simp [row?] at h

lemma row?_eq_ofFn {keys : List String} {j : Json} {columns : List (Option Json)} (n : Nat)
    (hn : keys.length = n) (h : j.row? keys = some columns) :
    ∃ column : Fin n → Option Json, columns = List.ofFn column := by
  rw [← hn, ← length_row? h]
  exact ⟨columns.get, (List.ofFn_get columns).symm⟩

lemma isReadable_of_row? {keys : List String} {j v : Json} {row : List (Option Json)}
    (hrow : j.row? keys = some row) (hv : some v ∈ row) (hj : j.isReadable = true) :
    v.isReadable = true := by
  cases j with
  | obj fields =>
    obtain ⟨k, _, hk⟩ := mem_of_mem_mapM hrow hv
    exact (isReadable_obj fields).mp hj _ (mem_of_unique? hk)
  | arr items =>
    simp only [row?, Option.ite_none_right_eq_some, Option.some.injEq] at hrow
    rw [← hrow.2, List.mem_map] at hv
    obtain ⟨w, hw, hwv⟩ := hv
    exact Option.some.inj hwv ▸ (areReadable_iff items).mp hj w hw
  | _ => simp [row?] at hrow

end SourceOutline.Json
