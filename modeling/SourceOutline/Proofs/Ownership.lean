import Mathlib.Data.List.Nodup
import SourceOutline.Proofs.Regions

/-!
Every node below a tree belongs to the region of one ground, the tree itself or the body of an
ambient block, unless a class, an import statement or the rest of an ambient block hides it.
-/

namespace SourceOutline

/-- A node whose region becomes a resource, and the way to it. -/
structure Ground where
  way : Way
  node : Node

namespace Node

def bodyIndex (n : Node) : Nat :=
  n.children.findIdx fun c => c.carries .body

def groundIn? (n : Node) (way : Way) : Option Ground :=
  (n.edge? way).bind fun e =>
    if e.2.isAmbientBlock then
      (e.2.field? .body).map fun body => ⟨way ++ [e.2.bodyIndex], body⟩
    else none

def grounds (n : Node) : List Ground :=
  n.openWays.filterMap n.groundIn?

/-- The ground at an address, which counts ambient blocks from the outermost inwards. -/
def groundAt? (n : Node) : List Nat → Option Ground
  | [] => some ⟨[], n⟩
  | i :: address =>
    n.grounds[i]?.bind fun g =>
      (g.node.groundAt? address).map fun inner => ⟨g.way ++ inner.way, inner.node⟩

def Owns (n : Node) (address : List Nat) (way : Way) : Prop :=
  ∃ g rest, n.groundAt? address = some g ∧ rest ∈ g.node.openWays ∧ way = g.way ++ rest

/-- Whether a way goes below an owned class or import statement, or into an owned ambient block
and not below its body. -/
def Hidden (n : Node) (way : Way) : Prop :=
  ∃ front rest address parent c, way = front ++ rest ∧ rest ≠ [] ∧ n.Owns address front ∧
    n.edge? front = some (parent, c) ∧
    (c.isClassSite parent = true ∨ c.isImportStatement = true ∨
      c.isAmbientBlock = true ∧ ∀ inner, inner ≠ [] → rest ≠ c.bodyIndex :: inner)

lemma mem_openWays_iff (n : Node) (way : Way) :
    way ∈ n.openWays ↔ (n.edge? way).isSome = true ∧ n.isOpen way = true := by
  rw [openWays, List.mem_filter, mem_ways_iff]

lemma children_bodyIndex (n : Node) : n.children[n.bodyIndex]? = n.field? .body := by
  rw [bodyIndex, field?, List.find?_eq_getElem?_findIdx]

lemma groundIn?_eq_some {n : Node} {way : Way} {g : Ground} (h : n.groundIn? way = some g) :
    ∃ parent c, n.edge? way = some (parent, c) ∧ c.isAmbientBlock = true ∧
      c.field? .body = some g.node ∧ g.way = way ++ [c.bodyIndex] := by
  obtain ⟨⟨parent, c⟩, he, h⟩ := Option.bind_eq_some_iff.mp h
  split at h
  · obtain ⟨body, hb, rfl⟩ := Option.map_eq_some_iff.mp h
    exact ⟨parent, c, he, ‹_›, hb, rfl⟩
  · cases h

lemma at?_ground {n : Node} {way : Way} {g : Ground} (h : n.groundIn? way = some g) :
    n.at? g.way = some g.node := by
  obtain ⟨parent, c, he, _, hb, hw⟩ := groundIn?_eq_some h
  rw [hw, at?_append, at?_of_edge? he, Option.bind_some]
  simp [at?, children_bodyIndex, hb]

lemma edge?_below_ground {n : Node} {way rest : Way} {g : Ground}
    (h : n.groundIn? way = some g) (hr : rest ≠ []) :
    n.edge? (g.way ++ rest) = g.node.edge? rest := by
  rw [edge?_append n g.way hr, at?_ground h, Option.bind_some]

lemma barrierAt_ground {n : Node} {way : Way} {g : Ground} (h : n.groundIn? way = some g) :
    n.barrierAt way = true := by
  obtain ⟨parent, c, he, ha, _⟩ := groundIn?_eq_some h
  simp [barrierAt, he, isBarrier, ha]

lemma mem_grounds_iff (n : Node) (g : Ground) :
    g ∈ n.grounds ↔ ∃ way ∈ n.openWays, n.groundIn? way = some g := by
  rw [grounds, List.mem_filterMap]

lemma openWays_nodup (n : Node) : n.openWays.Nodup := by
  apply List.Nodup.filter
  apply (ways_ordered n).imp
  rintro v w h rfl
  exact List.lex_irrefl (fun i => Nat.lt_irrefl i) v h

lemma grounds_nodup (n : Node) : n.grounds.Nodup := by
  apply List.Pairwise.filterMap _ _ (openWays_nodup n)
  rintro v w hne g hg _ hh rfl
  obtain ⟨_, _, _, _, _, hv⟩ := groundIn?_eq_some hg
  obtain ⟨_, _, _, _, _, hw⟩ := groundIn?_eq_some hh
  exact hne (List.append_inj_left' (hv.symm.trans hw) rfl)

lemma owns_nil (n : Node) (way : Way) : n.Owns [] way ↔ way ∈ n.openWays := by
  simp [Owns, groundAt?]

lemma owns_cons (n : Node) (i : Nat) (address : List Nat) (way : Way) :
    n.Owns (i :: address) way ↔
      ∃ g rest, n.grounds[i]? = some g ∧ g.node.Owns address rest ∧ way = g.way ++ rest := by
  simp only [Owns, groundAt?, Option.bind_eq_some_iff, Option.map_eq_some_iff]
  constructor
  · rintro ⟨_, rest, ⟨g, hg, inner, hi, rfl⟩, hr, rfl⟩
    exact ⟨g, inner.way ++ rest, hg, ⟨inner, rest, hi, hr, rfl⟩, List.append_assoc ..⟩
  · rintro ⟨g, _, hg, ⟨inner, rest, hi, hr, rfl⟩, rfl⟩
    exact ⟨_, rest, ⟨g, hg, inner, hi, rfl⟩, hr, (List.append_assoc ..).symm⟩

lemma ne_nil_of_owns {n : Node} {address : List Nat} {way : Way} (h : n.Owns address way) :
    way ≠ [] := by
  obtain ⟨g, rest, _, hr, rfl⟩ := h
  simp [ne_nil_of_mem_openWays hr]

lemma not_barrierAt_nil (n : Node) : n.barrierAt [] = false := rfl

lemma eq_of_open_barriers {n : Node} {v w : Way} (hv : n.isOpen v = true)
    (hw : n.isOpen w = true) (bv : n.barrierAt v = true) (bw : n.barrierAt w = true)
    (h : v <+: w ∨ w <+: v) : v = w := by
  have shorter {v w : Way} (hw : n.isOpen w = true) (bv : n.barrierAt v = true) (h : v <+: w) :
      v = w := by
    obtain ⟨rest, rfl⟩ := h
    by_contra hne
    have hv : v ≠ [] := by
      rintro rfl
      simp [not_barrierAt_nil] at bv
    have := (isOpen_iff n _).mp hw v rest rfl hv (by simpa using hne)
    simp [bv] at this
  rcases h with h | h
  · exact shorter hw bv h
  · exact (shorter hv bw h).symm

lemma open_of_ground {n : Node} {i : Nat} {g : Ground} (h : n.grounds[i]? = some g) :
    ∃ v j, v ∈ n.openWays ∧ n.groundIn? v = some g ∧ g.way = v ++ [j] := by
  obtain ⟨v, hv, hg⟩ := (mem_grounds_iff n g).mp (List.mem_of_getElem? h)
  obtain ⟨_, c, _, _, _, hw⟩ := groundIn?_eq_some hg
  exact ⟨v, c.bodyIndex, hv, hg, hw⟩

lemma not_open_below_ground {n : Node} {i : Nat} {g : Ground} (h : n.grounds[i]? = some g)
    (rest : Way) : g.way ++ rest ∉ n.openWays := by
  obtain ⟨v, j, hv, hg, hw⟩ := open_of_ground h
  intro ho
  have := (isOpen_iff n _).mp (isOpen_of_mem_openWays ho) v (j :: rest) (by simp [hw])
    (ne_nil_of_mem_openWays hv) (by simp)
  simp [barrierAt_ground hg] at this

lemma ground_unique {n : Node} {i k : Nat} {g h : Ground} {v w : Way}
    (hg : n.grounds[i]? = some g) (hh : n.grounds[k]? = some h)
    (he : g.way ++ v = h.way ++ w) : i = k ∧ g = h ∧ v = w := by
  obtain ⟨a, j, ha, hga, haw⟩ := open_of_ground hg
  obtain ⟨b, l, hb, hhb, hbw⟩ := open_of_ground hh
  have hab : a = b := by
    apply eq_of_open_barriers (isOpen_of_mem_openWays ha) (isOpen_of_mem_openWays hb)
      (barrierAt_ground hga) (barrierAt_ground hhb)
    rw [haw, hbw, List.append_assoc, List.append_assoc] at he
    exact List.prefix_or_prefix_of_prefix (List.prefix_append a _) ⟨_, he.symm⟩
  subst b
  obtain rfl : g = h := Option.some.inj (hga.symm.trans hhb)
  refine ⟨?_, rfl, List.append_cancel_left he⟩
  exact (List.getElem?_inj (List.getElem?_eq_some_iff.mp hg).1 (grounds_nodup n)).mp
    (hg.trans hh.symm)

lemma owner_unique {n : Node} {a b : List Nat} {way : Way} (ha : n.Owns a way)
    (hb : n.Owns b way) : a = b := by
  induction a generalizing n b way with
  | nil =>
    cases b with
    | nil => rfl
    | cons i b =>
      obtain ⟨g, rest, hg, _, rfl⟩ := (owns_cons ..).mp hb
      exact (not_open_below_ground hg rest ((owns_nil ..).mp ha)).elim
  | cons i a ih =>
    obtain ⟨g, rest, hg, hr, rfl⟩ := (owns_cons ..).mp ha
    cases b with
    | nil => exact (not_open_below_ground hg rest ((owns_nil ..).mp hb)).elim
    | cons k b =>
      obtain ⟨h, rest', hh, hr', he⟩ := (owns_cons ..).mp hb
      obtain ⟨rfl, rfl, rfl⟩ := ground_unique hg hh he
      rw [ih hr hr']

lemma owned_below_barrier {n parent c : Node} {a b : List Nat} {front rest : Way}
    (hf : n.Owns a front) (he : n.edge? front = some (parent, c))
    (hc : c.isBarrier parent = true) (hr : rest ≠ []) (ho : n.Owns b (front ++ rest)) :
    c.isAmbientBlock = true ∧ ∃ inner, inner ≠ [] ∧ rest = c.bodyIndex :: inner := by
  induction a generalizing n b front with
  | nil =>
    have hfo := isOpen_of_mem_openWays ((owns_nil ..).mp hf)
    have hfb : n.barrierAt front = true := by simp [barrierAt, he, hc]
    cases b with
    | nil =>
      have hop := isOpen_of_mem_openWays ((owns_nil ..).mp ho)
      have := (isOpen_iff n _).mp hop front rest rfl (ne_nil_of_owns hf) hr
      simp [hfb] at this
    | cons k b =>
      obtain ⟨g, inner, hg, hi, hw⟩ := (owns_cons ..).mp ho
      obtain ⟨v, hv, hgv⟩ := (mem_grounds_iff n g).mp (List.mem_of_getElem? hg)
      obtain ⟨parent', c', he', ha, _, hgw⟩ := groundIn?_eq_some hgv
      rw [hgw, List.append_assoc] at hw
      have hfv : front = v := by
        apply eq_of_open_barriers hfo (isOpen_of_mem_openWays hv) hfb (barrierAt_ground hgv)
        exact List.prefix_or_prefix_of_prefix (List.prefix_append front rest) ⟨_, hw.symm⟩
      subst v
      obtain ⟨rfl, rfl⟩ := Prod.mk.inj (Option.some.inj (he.symm.trans he'))
      exact ⟨ha, inner, ne_nil_of_owns hi, List.append_cancel_left hw⟩
  | cons i a ih =>
    obtain ⟨g, front', hg, hf', rfl⟩ := (owns_cons ..).mp hf
    rw [List.append_assoc] at ho
    cases b with
    | nil => exact (not_open_below_ground hg _ ((owns_nil ..).mp ho)).elim
    | cons k b =>
      obtain ⟨h, inner, hh, hi, hw⟩ := (owns_cons ..).mp ho
      obtain ⟨rfl, rfl, rfl⟩ := ground_unique hg hh hw
      obtain ⟨v, _, _, hgv, _⟩ := open_of_ground hg
      rw [edge?_below_ground hgv (ne_nil_of_owns hf')] at he
      exact ih hf' he hi

lemma not_owned_of_hidden {n : Node} {way : Way} (h : n.Hidden way) (address : List Nat) :
    ¬ n.Owns address way := by
  obtain ⟨front, rest, a, parent, c, rfl, hr, hf, he, hc⟩ := h
  intro ho
  have hb : c.isBarrier parent = true := by
    rcases hc with h | h | ⟨h, _⟩ <;> simp [isBarrier, h]
  obtain ⟨ha, inner, hi, rfl⟩ := owned_below_barrier hf he hb hr ho
  rcases hc with h | h | ⟨_, h⟩
  · simp [(classSite_excludes h).2] at ha
  · simp [import_excludes h] at ha
  · exact h inner hi rfl

lemma first_barrier {n : Node} {way : Way} (h : n.barrierAt way = true) :
    ∃ front rest, way = front ++ rest ∧ n.isOpen front = true ∧ n.barrierAt front = true := by
  induction hl : way.length using Nat.strongRecOn generalizing way with
  | ind l ih =>
    by_cases ho : n.isOpen way = true
    · exact ⟨way, [], by simp, ho, h⟩
    · simp only [isOpen_iff, not_forall, Bool.not_eq_false] at ho
      obtain ⟨front, rest, rfl, hf, hr, hb⟩ := ho
      have hlt : front.length < l := by
        rw [← hl, List.length_append]
        have := List.length_pos_iff.mpr hr
        omega
      obtain ⟨v, w, rfl, hv⟩ := ih _ hlt hb rfl
      exact ⟨v, w ++ rest, by simp, hv⟩

lemma barrierAt_iff (n : Node) (way : Way) :
    n.barrierAt way = true ↔
      ∃ parent c, n.edge? way = some (parent, c) ∧ c.isBarrier parent = true := by
  simp [barrierAt, Option.any_eq_true]

lemma barrier_above {n : Node} {way : Way} (h : ¬ n.isOpen way = true) :
    ∃ front rest parent c, way = front ++ rest ∧ rest ≠ [] ∧ front ∈ n.openWays ∧
      n.edge? front = some (parent, c) ∧ c.isBarrier parent = true := by
  simp only [isOpen_iff, not_forall, Bool.not_eq_false] at h
  obtain ⟨front, rest, rfl, _, hr, hb⟩ := h
  obtain ⟨v, w, rfl, hv, hvb⟩ := first_barrier hb
  obtain ⟨parent, c, he, hc⟩ := (barrierAt_iff n v).mp hvb
  refine ⟨v, w ++ rest, parent, c, List.append_assoc .., by simp [hr], ?_, he, hc⟩
  exact (mem_openWays_iff n v).mpr ⟨by simp [he], hv⟩

lemma hidden_below_ground {n : Node} {i : Nat} {g : Ground} {way : Way}
    (hg : n.grounds[i]? = some g) (h : g.node.Hidden way) : n.Hidden (g.way ++ way) := by
  obtain ⟨front, rest, a, parent, c, rfl, hr, hf, he, hc⟩ := h
  obtain ⟨v, _, _, hgv, _⟩ := open_of_ground hg
  refine ⟨g.way ++ front, rest, i :: a, parent, c, by simp, hr, ?_, ?_, hc⟩
  · exact (owns_cons ..).mpr ⟨g, front, hg, hf, rfl⟩
  · rw [edge?_below_ground hgv (ne_nil_of_owns hf), he]

lemma ground_of_block {n parent c : Node} {way : Way} (hw : way ∈ n.openWays)
    (he : n.edge? way = some (parent, c)) (ha : c.isAmbientBlock = true) :
    ∃ (i : Nat) (g : Ground), n.grounds[i]? = some g ∧ n.groundIn? way = some g ∧
      g.way = way ++ [c.bodyIndex] := by
  obtain ⟨body, hb⟩ := field?_body_of_ambientBlock ha
  have hg : n.groundIn? way = some ⟨way ++ [c.bodyIndex], body⟩ := by
    simp [groundIn?, he, ha, hb]
  obtain ⟨i, hi⟩ := List.getElem?_of_mem ((mem_grounds_iff n _).mpr ⟨way, hw, hg⟩)
  exact ⟨i, _, hi, hg, rfl⟩

lemma owned_or_hidden {n : Node} {way : Way} (h : (n.edge? way).isSome = true) :
    (∃ address, n.Owns address way) ∨ n.Hidden way := by
  -- The induction is on the length, since a way below the body of a block goes on as a shorter
  -- one from another ground.
  induction hl : way.length using Nat.strongRecOn generalizing n way with
  | ind l ih =>
    by_cases ho : n.isOpen way = true
    · exact .inl ⟨[], (owns_nil ..).mpr ((mem_openWays_iff n way).mpr ⟨h, ho⟩)⟩
    · obtain ⟨front, rest, parent, c, rfl, hr, hf, he, hc⟩ := barrier_above ho
      have hn : n.Owns [] front := (owns_nil ..).mpr hf
      simp only [isBarrier, Bool.or_eq_true, or_assoc] at hc
      rcases hc with hc | hc | hc
      · exact .inr ⟨front, rest, [], parent, c, rfl, hr, hn, he, .inl hc⟩
      · exact .inr ⟨front, rest, [], parent, c, rfl, hr, hn, he, .inr (.inl hc)⟩
      · by_cases hin : ∃ inner, inner ≠ [] ∧ rest = c.bodyIndex :: inner
        · obtain ⟨inner, hi, rfl⟩ := hin
          obtain ⟨i, g, hg, hgv, hgw⟩ := ground_of_block hf he hc
          have hway : front ++ c.bodyIndex :: inner = g.way ++ inner := by simp [hgw]
          have hlt : inner.length < l := by
            rw [← hl, List.length_append, List.length_cons]
            omega
          rw [hway] at h ⊢
          rw [edge?_below_ground hgv hi] at h
          rcases ih _ hlt h rfl with ⟨a, ha⟩ | hh
          · exact .inl ⟨i :: a, (owns_cons ..).mpr ⟨g, inner, hg, ha, rfl⟩⟩
          · exact .inr (hidden_below_ground hg hh)
        · refine .inr ⟨front, rest, [], parent, c, rfl, hr, hn, he, .inr (.inr ⟨hc, ?_⟩)⟩
          intro inner hi hw
          exact hin ⟨inner, hi, hw⟩

theorem owned_once_unless_hidden (n : Node) {way : Way} (h : way ∈ n.ways) :
    (n.Hidden way → ∀ address, ¬ n.Owns address way) ∧
      (¬ n.Hidden way → ∃! address, n.Owns address way) := by
  refine ⟨not_owned_of_hidden, fun hn => ?_⟩
  rcases owned_or_hidden ((mem_ways_iff n way).mp h) with ⟨address, ha⟩ | hh
  · exact ⟨address, ha, fun b hb => owner_unique hb ha⟩
  · exact (hn hh).elim

end Node

end SourceOutline
