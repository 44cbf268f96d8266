import Mathlib.Data.List.Basic
import SourceOutline.Extraction.Shape

/-!
The pool of a level can be done without: when the members of a type are reached, all that earlier
types have put into the pool has been taken, so that a member takes from its own type alone.
-/

namespace SourceOutline.Shape

open Node

/-- The members of a level, each with what it takes from its own type. -/
def level (src : Source) (taken : List Nat) (members : List Node) : List Parameter :=
  match members with
  | [] => []
  | m :: ms =>
    match m.shapeName? src with
    | none => level src taken ms
    | some name =>
      match _h : m.objectType? with
      | none => .leaf name (m.typeText? src m.typeClause?) m.span :: level src taken ms
      | some t =>
        let own := take src taken t.content
        ⟨name, some (.structural (level src [] t.content)), m.span, own.2⟩ ::
          level src own.1 ms
termination_by sizeOf members
decreasing_by
  all_goals simp only [List.cons.sizeOf_spec]
  · omega
  · omega
  · have h₁ := sizeOf_members_lt t
    have h₂ := sizeOf_objectType?_lt _h
    omega
  · omega

lemma level_nil (src : Source) (taken : List Nat) : level src taken [] = [] := by
  rw [level]

lemma level_unnamed {src : Source} {m : Node} (hn : m.shapeName? src = none) (taken : List Nat)
    (ms : List Node) : level src taken (m :: ms) = level src taken ms := by
  rw [level, hn]

lemma level_leaf {src : Source} {m : Node} {name : String} (hn : m.shapeName? src = some name)
    (ho : m.objectType? = none) (taken : List Nat) (ms : List Node) :
    level src taken (m :: ms) =
      .leaf name (m.typeText? src m.typeClause?) m.span :: level src taken ms := by
  rw [level, hn]
  simp only
  split
  · rfl
  · simp_all

lemma level_structural {src : Source} {m t : Node} {name : String}
    (hn : m.shapeName? src = some name) (ho : m.objectType? = some t) (taken : List Nat)
    (ms : List Node) :
    level src taken (m :: ms) =
      ⟨name, some (.structural (level src [] t.content)), m.span,
        (take src taken t.content).2⟩ :: level src (take src taken t.content).1 ms := by
  rw [level, hn]
  simp only
  split
  · simp_all
  · simp_all

lemma members_induction {motive : List Node → Prop} (nil : motive [])
    (cons : ∀ m ms, (∀ t, m.objectType? = some t → motive t.content) → motive ms →
      motive (m :: ms)) (ms : List Node) : motive ms := by
  induction h : sizeOf ms using Nat.strongRecOn generalizing ms with
  | ind size ih =>
    cases ms with
    | nil => exact nil
    | cons m ms =>
      subst h
      apply cons
      · intro t ht
        refine ih _ ?_ _ rfl
        have h₁ := sizeOf_members_lt t
        have h₂ := sizeOf_objectType?_lt ht
        simp only [List.cons.sizeOf_spec]
        omega
      · refine ih _ ?_ _ rfl
        simp only [List.cons.sizeOf_spec]
        omega

lemma take_cons_taken (src : Source) {taken : List Nat} {c : Node} (h : c.start ∈ taken)
    (cs : List Node) : take src taken (c :: cs) = take src taken cs := by
  rw [take, if_pos (List.contains_iff_mem.mpr h)]

lemma take_cons_fresh (src : Source) {taken : List Nat} {c : Node} (h : c.start ∉ taken)
    (cs : List Node) :
    take src taken (c :: cs) = ((take src (c.start :: taken) cs).1,
      (leaf? src c).toList ++ (take src (c.start :: taken) cs).2) := by
  rw [take, if_neg (fun hc => h (List.contains_iff_mem.mp hc))]

lemma take_append_taken (src : Source) {taken : List Nat} {old : List Node}
    (h : ∀ c ∈ old, c.start ∈ taken) (cs : List Node) :
    take src taken (old ++ cs) = take src taken cs := by
  induction old with
  | nil => rfl
  | cons c old ih =>
    rw [List.forall_mem_cons] at h
    rw [List.cons_append, take_cons_taken src h.1, ih h.2]

lemma subset_taken (src : Source) (taken : List Nat) (cs : List Node) :
    taken ⊆ (take src taken cs).1 := by
  induction cs generalizing taken with
  | nil => exact List.Subset.refl taken
  | cons c cs ih =>
    by_cases h : c.start ∈ taken
    · rw [take_cons_taken src h]
      exact ih taken
    · rw [take_cons_fresh src h]
      exact List.Subset.trans (List.subset_cons_self c.start taken) (ih _)

lemma start_mem_taken (src : Source) (taken : List Nat) {cs : List Node} {c : Node}
    (hc : c ∈ cs) : c.start ∈ (take src taken cs).1 := by
  induction cs generalizing taken with
  | nil => cases hc
  | cons d cs ih =>
    by_cases h : d.start ∈ taken
    · rw [take_cons_taken src h]
      rcases List.mem_cons.mp hc with rfl | hc
      · exact subset_taken src taken cs h
      · exact ih taken hc
    · rw [take_cons_fresh src h]
      rcases List.mem_cons.mp hc with rfl | hc
      · exact subset_taken src _ cs List.mem_cons_self
      · exact ih _ hc

lemma leaf_of_mem_take {src : Source} {taken : List Nat} {cs : List Node} {p : Parameter}
    (hp : p ∈ (take src taken cs).2) : ∃ c ∈ cs, leaf? src c = some p := by
  induction cs generalizing taken with
  | nil => cases hp
  | cons d cs ih =>
    by_cases h : d.start ∈ taken
    · rw [take_cons_taken src h] at hp
      obtain ⟨c, hc, hl⟩ := ih hp
      exact ⟨c, List.mem_cons_of_mem d hc, hl⟩
    · rw [take_cons_fresh src h, List.mem_append, Option.mem_toList] at hp
      rcases hp with hp | hp
      · exact ⟨d, List.mem_cons_self, hp⟩
      · obtain ⟨c, hc, hl⟩ := ih hp
        exact ⟨c, List.mem_cons_of_mem d hc, hl⟩

def poolFrom (src : Source) (index : Nat) (members : List Node) : List (Nat × Node) :=
  (members.zipIdx index).flatMap fun (m, i) => (nested src m).map fun c => (i, c)

lemma poolFrom_cons (src : Source) (index : Nat) (m : Node) (ms : List Node) :
    poolFrom src index (m :: ms) =
      (nested src m).map (fun c => (index, c)) ++ poolFrom src (index + 1) ms := by
  rw [poolFrom, List.zipIdx_cons, List.flatMap_cons]
  rfl

lemma le_of_mem_poolFrom {src : Source} {index : Nat} {members : List Node} {e : Nat × Node}
    (h : e ∈ poolFrom src index members) : index ≤ e.1 := by
  induction members generalizing index with
  | nil => cases h
  | cons m ms ih =>
    rw [poolFrom_cons, List.mem_append, List.mem_map] at h
    rcases h with ⟨c, _, rfl⟩ | h
    · exact Nat.le_refl index
    · exact Nat.le_of_succ_le (ih h)

lemma nested_unnamed {src : Source} {m : Node} (hn : m.shapeName? src = none) :
    nested src m = [] := by
  rw [nested, hn]
  rfl

lemma nested_leaf {src : Source} {m : Node} (ho : m.objectType? = none) :
    nested src m = [] := by
  rw [nested, ho]
  split <;> rfl

lemma nested_structural {src : Source} {m t : Node} {name : String}
    (hn : m.shapeName? src = some name) (ho : m.objectType? = some t) :
    nested src m = t.content := by
  rw [nested, hn, ho]
  rfl

lemma filter_pool {index : Nat} {old new later : List (Nat × Node)} (hold : ∀ e ∈ old, e.1 < index)
    (hnew : ∀ e ∈ new, e.1 = index) (hlater : ∀ e ∈ later, index < e.1) :
    ((old ++ (new ++ later)).filter fun e => e.1 ≤ index) = old ++ new := by
  have hold' : (old.filter fun e => decide (e.1 ≤ index)) = old := by
    rw [List.filter_eq_self]
    intro e he
    exact decide_eq_true (Nat.le_of_lt (hold e he))
  have hnew' : (new.filter fun e => decide (e.1 ≤ index)) = new := by
    rw [List.filter_eq_self]
    intro e he
    exact decide_eq_true (Nat.le_of_eq (hnew e he))
  have hlater' : (later.filter fun e => decide (e.1 ≤ index)) = [] := by
    rw [List.filter_eq_nil_iff]
    intro e he
    simpa using hlater e he
  rw [List.filter_append, List.filter_append, hold', hnew', hlater', List.append_nil]

lemma flattenFrom_unnamed {src : Source} {m : Node} (hn : m.shapeName? src = none)
    (pool : List (Nat × Node)) (index : Nat) (taken : List Nat) (ms : List Node) :
    flattenFrom src pool index taken (m :: ms) = flattenFrom src pool (index + 1) taken ms := by
  rw [flattenFrom, hn]

lemma flattenFrom_leaf {src : Source} {m : Node} {name : String}
    (hn : m.shapeName? src = some name) (ho : m.objectType? = none) (pool : List (Nat × Node))
    (index : Nat) (taken : List Nat) (ms : List Node) :
    flattenFrom src pool index taken (m :: ms) =
      .leaf name (m.typeText? src m.typeClause?) m.span ::
        flattenFrom src pool (index + 1) taken ms := by
  rw [flattenFrom, hn]
  simp only
  split <;> simp_all

lemma flattenFrom_structural {src : Source} {m t : Node} {name : String} {index : Nat}
    {pool : List (Nat × Node)} {taken : List Nat} {own : List Nat × List Parameter}
    (hn : m.shapeName? src = some name) (ho : m.objectType? = some t)
    (hown : take src taken ((pool.filter fun e => e.1 ≤ index).map Prod.snd) = own)
    (ms : List Node) :
    flattenFrom src pool index taken (m :: ms) =
      ⟨name, some (.structural (flatten src t.content)), m.span, own.2⟩ ::
        flattenFrom src pool (index + 1) own.1 ms := by
  subst hown
  rw [flattenFrom, hn]
  simp only
  split
  · simp_all
  · rename_i t' ht
    rw [ho, Option.some.injEq] at ht
    subst ht
    rfl

lemma flattenFrom_eq_level (src : Source) (members : List Node) (old : List (Nat × Node))
    {index : Nat} {taken : List Nat} (hold : ∀ e ∈ old, e.1 < index ∧ e.2.start ∈ taken) :
    flattenFrom src (old ++ poolFrom src index members) index taken members =
      level src taken members := by
  -- The invariant of the loop: what earlier members have put into the pool has been taken.
  induction members using members_induction generalizing index taken old with
  | nil => rw [flattenFrom, level]
  | cons m ms inner ih =>
    have hnext : ∀ e ∈ old, e.1 < index + 1 ∧ e.2.start ∈ taken := by
      intro e he
      exact ⟨Nat.lt_succ_of_lt (hold e he).1, (hold e he).2⟩
    rw [poolFrom_cons]
    cases hn : m.shapeName? src with
    | none =>
      rw [level_unnamed hn, nested_unnamed hn, flattenFrom_unnamed hn]
      exact ih old hnext
    | some name =>
      cases ho : m.objectType? with
      | none =>
        rw [level_leaf hn ho, nested_leaf ho, flattenFrom_leaf hn ho]
        exact congrArg _ (ih old hnext)
      | some t =>
        let new := t.content.map fun c => (index, c)
        have hnew : ∀ e ∈ new, e.1 = index := by
          intro e he
          obtain ⟨c, _, rfl⟩ := List.mem_map.mp he
          rfl
        have hreach : ((old ++ (new ++ poolFrom src (index + 1) ms)).filter
            fun e => e.1 ≤ index).map Prod.snd = old.map Prod.snd ++ t.content := by
          rw [filter_pool (fun e he => (hold e he).1) hnew fun e he => le_of_mem_poolFrom he]
          simp [new, Function.comp_def]
        have hown : take src taken (old.map Prod.snd ++ t.content) = take src taken t.content := by
          apply take_append_taken
          intro c hc
          obtain ⟨e, he, rfl⟩ := List.mem_map.mp hc
          exact (hold e he).2
        have htaken : ∀ e ∈ old ++ new,
            e.1 < index + 1 ∧ e.2.start ∈ (take src taken t.content).1 := by
          intro e he
          rcases List.mem_append.mp he with he | he
          · exact ⟨(hnext e he).1, subset_taken src taken t.content (hnext e he).2⟩
          · obtain ⟨c, hc, rfl⟩ := List.mem_map.mp he
            exact ⟨Nat.lt_succ_self index, start_mem_taken src taken hc⟩
        have hinner : flatten src t.content = level src [] t.content :=
          inner t ho [] (by simp)
        have hrest := ih (old ++ new) htaken
        rw [List.append_assoc] at hrest
        rw [level_structural hn ho, nested_structural hn ho,
          flattenFrom_structural hn ho ((congrArg (take src taken) hreach).trans hown), hinner,
          hrest]

theorem flatten_eq_level (src : Source) (members : List Node) :
    flatten src members = level src [] members :=
  flattenFrom_eq_level src members [] (by simp)

end SourceOutline.Shape
