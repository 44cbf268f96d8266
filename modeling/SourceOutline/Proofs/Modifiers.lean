import Mathlib.Data.List.Forall2
import SourceOutline.Extraction.Modifier

/-!
Only what stands in front of a name counts as a modifier. Two nodes with the same tokens there have
the same modifiers, whatever they are called and whatever follows, and the word of flags answers
for the modifiers as their list does.
-/

namespace SourceOutline

namespace Modifier

lemma place_lt (m : Modifier) : m.place < 16 := by
  cases m with
  | access v => cases v <;> decide
  | _ => decide

lemma mem_all (m : Modifier) : m ∈ all := by
  cases m with
  | access v => cases v <;> decide
  | _ => decide

lemma place_injective {m k : Modifier} (h : m.place = k.place) : m = k := by
  have hapart : ∀ m ∈ all, ∀ k ∈ all, m.place = k.place → m = k := by decide
  exact hapart m m.mem_all k k.mem_all h

lemma visibility?_eq_some {m : Modifier} {v : Visibility} :
    m.visibility? = some v ↔ m = access v := by
  cases m <;> simp [visibility?]

lemma getLsbD_flag (m : Modifier) (i : ℕ) : m.flag.getLsbD i = decide (m.place = i) := by
  rw [flag, BitVec.getLsbD_twoPow]
  simp [place_lt]

lemma getLsbD_flags (ms : List Modifier) (i : ℕ) :
    (flags ms).getLsbD i = ms.any fun m => m.place == i := by
  have hfold (word : BitVec 16) :
      (ms.foldl (fun word m => word ||| m.flag) word).getLsbD i =
        (word.getLsbD i || ms.any fun m => m.place == i) := by
    induction ms generalizing word with
    | nil => simp
    | cons m ms ih =>
      rw [List.foldl_cons, ih, BitVec.getLsbD_or, getLsbD_flag, List.any_cons, Bool.or_assoc]
      rfl
  rw [flags, hfold]
  simp

lemma getLsbD_flags_place (ms : List Modifier) (m : Modifier) :
    (flags ms).getLsbD m.place = true ↔ m ∈ ms := by
  rw [getLsbD_flags, List.any_eq_true]
  constructor
  · rintro ⟨k, hk, hplace⟩
    exact place_injective (beq_iff_eq.mp hplace) ▸ hk
  · intro hm
    exact ⟨m, hm, beq_self_eq_true m.place⟩

lemma flags_and_flag (ms : List Modifier) (m : Modifier) :
    (flags ms &&& m.flag == m.flag) = true ↔ m ∈ ms := by
  have hne : 0#16 ≠ m.flag := by
    intro h
    have hbit := getLsbD_flag m m.place
    rw [← h] at hbit
    simp at hbit
  rw [beq_iff_eq, ← getLsbD_flags_place, flag, BitVec.and_twoPow]
  split
  · rename_i h
    exact iff_of_true rfl h
  · rename_i h
    exact iff_of_false hne h

lemma flags_meet (ms ks : List Modifier) :
    (flags ms &&& flags ks != 0#16) = true ↔ ∃ k ∈ ks, k ∈ ms := by
  rw [bne_iff_ne]
  constructor
  · intro hne
    by_contra hnone
    apply hne
    apply BitVec.eq_of_getLsbD_eq
    intro i _
    rw [BitVec.getLsbD_and, BitVec.getLsbD_zero, Bool.and_eq_false_imp]
    intro hm
    rw [getLsbD_flags, List.any_eq_true] at hm
    obtain ⟨m, hm, hplace⟩ := hm
    rw [← beq_iff_eq.mp hplace, ← Bool.not_eq_true, getLsbD_flags_place]
    exact fun hk => hnone ⟨m, hk, hm⟩
  · rintro ⟨k, hk, hm⟩ hzero
    have hbit := congrArg (fun word => word.getLsbD k.place) hzero
    simp only [BitVec.getLsbD_and, (getLsbD_flags_place ms k).mpr hm,
      (getLsbD_flags_place ks k).mpr hk, BitVec.getLsbD_zero] at hbit
    cases hbit

end Modifier

namespace Node

lemma isParameterProperty_eq_any (n : Node) :
    n.isParameterProperty = n.modifiers.any Modifier.promotes := by
  rw [Bool.eq_iff_iff, isParameterProperty, Modifier.promotingFlags, Modifier.flags_meet,
    List.any_eq_true]
  constructor
  · rintro ⟨k, hk, hm⟩
    exact ⟨k, hm, (List.mem_filter.mp hk).2⟩
  · rintro ⟨k, hm, hk⟩
    exact ⟨k, List.mem_filter.mpr ⟨k.mem_all, hk⟩, hm⟩

def called? (n : Node) : Option Node :=
  (n.field? .name).or (n.field? .pattern)

/-- Whether `before` are the children in front of what the node is called by. -/
def FrontedBy (n : Node) (before : List Node) : Prop :=
  ∃ called after, n.called? = some called ∧ n.children = before ++ called :: after ∧
    ∀ c ∈ before, c.id ≠ called.id

/-- Whether two tokens in front of a name say the same. -/
def SameToken (c c' : Node) : Prop :=
  c.kind = c'.kind ∧ (c.kind = "accessibility_modifier" →
    c.children.head?.map kind = c'.children.head?.map kind)

lemma called?_eq (n : Node) : n.called? = n.field? n.nameField := by
  cases h : n.field? .name with
  | none => simp [called?, nameField, hasField, h]
  | some name => simp [called?, nameField, hasField, h]

lemma front_eq_of_frontedBy {n : Node} {before : List Node} (h : n.FrontedBy before) :
    n.front = before := by
  obtain ⟨called, after, hcalled, hchildren, hid⟩ := h
  rw [called?_eq, field?, hchildren] at hcalled
  have hfound := List.find?_some hcalled
  have hcarries : called.carries n.nameField = true := hfound
  have hnone : before.find? (fun c => c.carries n.nameField) = none := by
    cases hfind : before.find? (fun c => c.carries n.nameField) with
    | none => rfl
    | some c =>
      rw [List.find?_append, hfind, Option.some_or, Option.some.injEq] at hcalled
      exact (hid c (List.mem_of_find?_eq_some hfind) (congrArg id hcalled)).elim
  rw [List.find?_eq_none] at hnone
  rw [front, hchildren, List.takeWhile_append_of_pos (by simpa using hnone),
    List.takeWhile_cons_of_neg (by simp [hcarries]), List.append_nil]

lemma ofNode?_eq_of_sameToken {c c' : Node} (h : c.SameToken c') :
    Modifier.ofNode? c = Modifier.ofNode? c' := by
  rw [Modifier.ofNode?, Modifier.ofNode?, ← h.1]
  split
  · rename_i hk
    have hkeyword (t : Node) : (t.children.head?.bind fun keyword =>
        Visibility.ofKeyword? keyword.kind) =
          (t.children.head?.map kind).bind Visibility.ofKeyword? := by
      rw [Option.bind_map]
      rfl
    rw [hkeyword, hkeyword, h.2 hk]
  all_goals rfl

lemma accessorKeyword?_eq_of_sameToken {c c' : Node} (h : c.SameToken c') :
    c.accessorKeyword? = c'.accessorKeyword? := by
  rw [accessorKeyword?, accessorKeyword?, ← h.1]

lemma map_eq_of_sameTokens {α : Type} {f : Node → α} {before before' : List Node}
    (hf : ∀ {c c' : Node}, c.SameToken c' → f c = f c')
    (h : List.Forall₂ SameToken before before') : before.map f = before'.map f := by
  rw [← List.forall₂_eq_eq_eq, List.forall₂_map_left_iff, List.forall₂_map_right_iff]
  exact h.imp fun c c' hc => hf hc

lemma modifiers_of_frontedBy {n : Node} {before : List Node} (h : n.FrontedBy before) :
    n.modifiers = before.filterMap Modifier.ofNode? := by
  rw [modifiers, front_eq_of_frontedBy h]

section SameTokens

variable {n m : Node} {before before' : List Node} (hn : n.FrontedBy before)
  (hm : m.FrontedBy before') (hsame : List.Forall₂ SameToken before before')

include hn hm hsame

lemma modifiers_eq_of_sameTokens : n.modifiers = m.modifiers := by
  have hmap := map_eq_of_sameTokens ofNode?_eq_of_sameToken hsame
  have hread := congrArg (List.filterMap fun k => k) hmap
  rw [List.filterMap_map, List.filterMap_map] at hread
  rw [modifiers_of_frontedBy hn, modifiers_of_frontedBy hm]
  exact hread

lemma accessorKind?_eq_of_sameTokens (hname : n.hasField .name = true)
    (hname' : m.hasField .name = true) : n.accessorKind? = m.accessorKind? := by
  have hmap := map_eq_of_sameTokens accessorKeyword?_eq_of_sameToken hsame
  have hread := congrArg (List.findSome? fun k => k) hmap
  rw [List.findSome?_map, List.findSome?_map] at hread
  rw [accessorKind?, accessorKind?, if_pos hname, if_pos hname', front_eq_of_frontedBy hn,
    front_eq_of_frontedBy hm]
  exact hread

end SameTokens

lemma mem_promoting_iff (n : Node) :
    n.isParameterProperty = true ↔
      ∃ k ∈ [Modifier.access .publicAccess, .access .protectedAccess, .access .privateAccess,
        .static, .readonly, .override], k ∈ n.modifiers := by
  rw [isParameterProperty, Modifier.promotingFlags, Modifier.flags_meet]
  rfl

lemma visibility?_eq_some_iff (n : Node) (v : Visibility) :
    n.visibility? = some v ↔
      ∃ front back, n.modifiers = front ++ .access v :: back ∧ ∀ u, .access u ∉ front := by
  rw [visibility?, List.findSome?_eq_some_iff]
  constructor
  · rintro ⟨front, m, back, hsplit, hm, hfront⟩
    rw [Modifier.visibility?_eq_some] at hm
    refine ⟨front, back, hm ▸ hsplit, ?_⟩
    intro u hu
    cases hfront _ hu
  · rintro ⟨front, back, hsplit, hfront⟩
    refine ⟨front, _, back, hsplit, rfl, ?_⟩
    intro m hm
    rw [Option.eq_none_iff_forall_ne_some]
    intro u hu
    rw [Modifier.visibility?_eq_some] at hu
    exact hfront u (hu ▸ hm)

lemma visibility?_eq_none_iff (n : Node) :
    n.visibility? = none ↔ ∀ u, .access u ∉ n.modifiers := by
  rw [visibility?, List.findSome?_eq_none_iff]
  constructor
  · intro h u hu
    cases h _ hu
  · intro h m hm
    rw [Option.eq_none_iff_forall_ne_some]
    intro u hu
    rw [Modifier.visibility?_eq_some] at hu
    exact h u (hu ▸ hm)

end Node

theorem only_the_front_modifies :
    (∀ (n : Node) (before : List Node), n.FrontedBy before →
      n.modifiers = before.filterMap Modifier.ofNode?) ∧
    (∀ (n m : Node) (before before' : List Node), n.FrontedBy before → m.FrontedBy before' →
      List.Forall₂ Node.SameToken before before' →
      n.modifiers = m.modifiers ∧ n.visibility? = m.visibility? ∧
        (∀ k, n.hasModifier k = m.hasModifier k) ∧
        n.isParameterProperty = m.isParameterProperty ∧
        (n.hasField .name = true → m.hasField .name = true →
          n.accessorKind? = m.accessorKind?)) ∧
    ∀ n : Node,
      (∀ k, n.hasModifier k = true ↔ k ∈ n.modifiers) ∧
      (n.isParameterProperty = true ↔
        ∃ k ∈ [Modifier.access .publicAccess, .access .protectedAccess, .access .privateAccess,
          .static, .readonly, .override], k ∈ n.modifiers) ∧
      (∀ v, n.visibility? = some v ↔
        ∃ front back, n.modifiers = front ++ .access v :: back ∧ ∀ u, .access u ∉ front) ∧
      (n.visibility? = none ↔ ∀ u, .access u ∉ n.modifiers) := by
  refine ⟨fun n before => Node.modifiers_of_frontedBy, ?_, ?_⟩
  · intro n m before before' hn hm hsame
    have hmodifiers := Node.modifiers_eq_of_sameTokens hn hm hsame
    refine ⟨hmodifiers, ?_, ?_, ?_, Node.accessorKind?_eq_of_sameTokens hn hm hsame⟩
    · rw [Node.visibility?, hmodifiers, Node.visibility?]
    · intro k
      rw [Node.hasModifier, hmodifiers, Node.hasModifier]
    · rw [Node.isParameterProperty, hmodifiers, Node.isParameterProperty]
  · intro n
    exact ⟨fun k => Modifier.flags_and_flag n.modifiers k, n.mem_promoting_iff,
      n.visibility?_eq_some_iff, n.visibility?_eq_none_iff⟩

def staticGetter : Node :=
  ⟨0, "method_definition", true, 0, 30, [],
    [⟨1, "accessibility_modifier", true, 0, 7, [], [⟨2, "private", false, 0, 7, [], []⟩]⟩,
      ⟨3, "static", false, 8, 14, [], []⟩,
      ⟨4, "get", false, 15, 18, [], []⟩,
      ⟨5, "property_identifier", true, 19, 25, [.name], []⟩,
      ⟨6, "formal_parameters", true, 25, 27, [.parameters], []⟩,
      ⟨7, "statement_block", true, 28, 30, [.body], []⟩]⟩

/-- A getter with a quoted name, and tokens behind it that would be modifiers in front. -/
def quotedGetter : Node :=
  ⟨10, "method_signature", true, 40, 80, [],
    [⟨11, "accessibility_modifier", true, 40, 47, [], [⟨12, "private", false, 40, 47, [], []⟩]⟩,
      ⟨13, "static", false, 48, 54, [], []⟩,
      ⟨14, "get", false, 55, 58, [], []⟩,
      ⟨15, "string", true, 59, 64, [.name], []⟩,
      ⟨16, "async", false, 65, 70, [], []⟩,
      ⟨17, "set", false, 71, 74, [], []⟩]⟩

theorem getters_modified_alike :
    staticGetter.modifiers = [.access .privateAccess, .static] ∧
    staticGetter.modifiers = quotedGetter.modifiers ∧
    staticGetter.visibility? = quotedGetter.visibility? ∧
    (∀ k, staticGetter.hasModifier k = quotedGetter.hasModifier k) ∧
    staticGetter.isParameterProperty = quotedGetter.isParameterProperty ∧
    staticGetter.accessorKind? = quotedGetter.accessorKind? := by
  have hstatic : staticGetter.FrontedBy (staticGetter.children.take 3) :=
    ⟨_, _, rfl, rfl, by decide⟩
  have hquoted : quotedGetter.FrontedBy (quotedGetter.children.take 3) :=
    ⟨_, _, rfl, rfl, by decide⟩
  have hsame : List.Forall₂ Node.SameToken (staticGetter.children.take 3)
      (quotedGetter.children.take 3) := by
    refine .cons ⟨rfl, fun _ => rfl⟩ (.cons ⟨rfl, ?_⟩ (.cons ⟨rfl, ?_⟩ .nil))
    · exact fun h => absurd h (by decide)
    · exact fun h => absurd h (by decide)
  obtain ⟨hread, halike, _⟩ := only_the_front_modifies
  obtain ⟨hmodifiers, hvisibility, hhas, hproperty, haccessor⟩ :=
    halike _ _ _ _ hstatic hquoted hsame
  exact ⟨hread _ _ hstatic, hmodifiers, hvisibility, hhas, hproperty, haccessor rfl rfl⟩

end SourceOutline
