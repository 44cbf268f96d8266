import Mathlib.Data.List.Nodup
import SourceOutline.Json.Record
import SourceOutline.Proofs.Lists

/-!
Writing and reading of records. A record that is written with each of its keys once is read as
one full row, and what holds of the values in it carries over to lists and absent values.
-/

namespace SourceOutline.Json

lemma filter_key {fields : List (String × Json)} (hn : (fields.map Prod.fst).Nodup)
    {f : String × Json} (hf : f ∈ fields) : (fields.filter fun g => g.1 == f.1) = [f] := by
  induction fields with
  | nil => cases hf
  | cons g fields ih =>
    rw [List.map_cons, List.nodup_cons] at hn
    have hfresh : ∀ x ∈ fields, x.1 ≠ g.1 := by
      intro x hx he
      exact hn.1 (he ▸ List.mem_map_of_mem hx)
    rcases List.mem_cons.mp hf with rfl | hf
    · have hnone : (fields.filter fun x => x.1 == f.1) = [] := by
        rw [List.filter_eq_nil_iff]
        intro x hx
        simpa using hfresh x hx
      rw [List.filter_cons_of_pos (by simp), hnone]
    · have hne : g.1 ≠ f.1 := (hfresh f hf).symm
      rw [List.filter_cons_of_neg (by simpa using hne)]
      exact ih hn.2 hf

lemma row?_obj {keys : List String} {fields : List (String × Json)}
    (hk : fields.map Prod.fst = keys) (hn : keys.Nodup) :
    row? keys (.obj fields) = some (fields.map fun f => some f.2) := by
  subst hk
  have hcolumn : ∀ f ∈ fields, unique? f.1 fields = some (some f.2) := by
    intro f hf
    rw [unique?, filter_key hn hf]
  rw [row?, List.mapM_map]
  exact mapM_eq_some hcolumn

lemma tagged?_obj {key tag : String} {fields : List (String × Json)}
    (hk : key ∉ fields.map Prod.fst) (hr : (obj fields).isReadable = true) :
    tagged? key (.obj ((key, .str tag) :: fields)) = some (tag, .obj fields) := by
  have hother : ∀ f ∈ fields, f.1 ≠ key := by
    rintro f hf rfl
    exact hk (List.mem_map_of_mem hf)
  have hown : (fields.filter fun f => f.1 == key) = [] := by
    rw [List.filter_eq_nil_iff]
    intro f hf
    simpa using hother f hf
  have hrest : (fields.filter fun f => f.1 != key) = fields := by
    rw [List.filter_eq_self]
    intro f hf
    simpa using hother f hf
  rw [isReadable] at hr
  simp [tagged?, unique?, hown, hrest, hr]

lemma choice?_named (reading : Reading) (name : String) (v : Json) :
    choice? reading (.obj [("kind", .str name), ("value", v)]) =
      some (name, some v, reading) := by
  rfl

lemma areReadable_iff (items : List Json) :
    areReadable items = true ↔ ∀ v ∈ items, v.isReadable = true := by
  induction items with
  | nil => simp [areReadable]
  | cons v items ih => simp [areReadable, ih]

lemma isReadable_obj (fields : List (String × Json)) :
    (obj fields).isReadable = true ↔ ∀ f ∈ fields, f.2.isReadable = true := by
  rw [isReadable]
  induction fields with
  | nil => simp [haveReadable]
  | cons f fields ih => simp [haveReadable, ih]

/-- What `write` writes has no unreadable part, differs from the absence of a value, and is read
back by `read`. -/
structure Faithful {α : Type} (write : α → Json) (read : Json → Option α) : Prop where
  reads : ∀ a, read (write a) = some a
  readable : ∀ a, (write a).isReadable = true
  present : ∀ a, write a ≠ .null

namespace Faithful

variable {α : Type} {write : α → Json} {read : Json → Option α}

lemma optional_reads (h : Faithful write read) (a : Option α) :
    optional read (some (ofOption write a)) = some a := by
  cases a with
  | none => rfl
  | some a =>
    have hp := h.present a
    have hr := h.reads a
    simp only [ofOption]
    revert hp hr
    cases write a <;> simp +contextual [optional]

lemma optional_readable (h : Faithful write read) (a : Option α) :
    (ofOption write a).isReadable = true := by
  cases a with
  | none => rfl
  | some a => exact h.readable a

lemma list (h : Faithful write read) : Faithful (fun l => .arr (l.map write)) (toList? read) where
  reads l := by
    have hitems : l.mapM (read ∘ write) = some (l.map id) := mapM_eq_some fun a _ => h.reads a
    rw [toList?, List.mapM_map, hitems, List.map_id]
  readable l := by
    rw [isReadable, areReadable_iff]
    intro v hv
    obtain ⟨a, _, rfl⟩ := List.mem_map.mp hv
    exact h.readable a
  present l := by simp

lemma text : Faithful .str toText? where
  reads _ := rfl
  readable _ := rfl
  present _ := by simp

lemma bool : Faithful .bool toBool? where
  reads _ := rfl
  readable _ := rfl
  present _ := by simp

lemma uint32 : Faithful (fun n : UInt32 => .nat n.toNat) toUInt32? where
  reads n := by
    have hn : n.toNat < UInt32.size := n.toNat_lt
    simp [toUInt32?, nat, toNat?, Numeral.ofNat, Numeral.toNat?, hn]
  readable _ := rfl
  present _ := by simp [nat]

end Faithful

end SourceOutline.Json
