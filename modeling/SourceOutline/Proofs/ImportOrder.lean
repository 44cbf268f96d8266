import Mathlib.Data.List.Basic
import SourceOutline.Import.Text

/-!
The text of an import, and the order of its names in it, which is one only. Names that are folded
alike keep the order in which they are given, and no two lists in order agree on all of these
without being equal; so the text of an import depends on its names as far as they are folded alike
and no further.
-/

namespace SourceOutline

namespace Specifier

section Order

variable (fold : String → String)

def alike (key : String) (ss : List Specifier) : List Specifier :=
  ss.filter fun s => fold s.name == key

/-- The list `ss` has what is given, in order, and what is folded alike as it is given. -/
structure Arranges (given ss : List Specifier) : Prop where
  perm : ss.Perm given
  ordered : ss.Pairwise fun a b => fold a.name ≤ fold b.name
  stable : ∀ key, alike fold key ss = alike fold key given

lemma isLE_compareBy (a b : Specifier) :
    (compareBy fold a b).isLE = true ↔ fold a.name ≤ fold b.name :=
  isLE_compareOfLessAndEq String.le_antisymm String.not_le String.le_total

lemma compareBy_trans (a b c : Specifier) (hab : (compareBy fold a b).isLE = true)
    (hbc : (compareBy fold b c).isLE = true) : (compareBy fold a c).isLE = true := by
  rw [isLE_compareBy] at hab hbc ⊢
  exact String.le_trans hab hbc

lemma compareBy_total (a b : Specifier) :
    ((compareBy fold a b).isLE || (compareBy fold b a).isLE) = true := by
  rw [Bool.or_eq_true, isLE_compareBy, isLE_compareBy]
  exact String.le_total _ _

lemma alike_cons (key : String) (s : Specifier) (ss : List Specifier) :
    alike fold key (s :: ss) =
      if fold s.name = key then s :: alike fold key ss else alike fold key ss := by
  by_cases h : fold s.name = key
  · rw [if_pos h, alike, List.filter_cons_of_pos (by simpa using h), alike]
  · rw [if_neg h, alike, List.filter_cons_of_neg (by simpa using h), alike]

lemma mem_of_alike_eq {ss ts : List Specifier} (h : ∀ key, alike fold key ss = alike fold key ts)
    {s : Specifier} (hs : s ∈ ss) : s ∈ ts := by
  have hs' : s ∈ alike fold (fold s.name) ss := List.mem_filter.mpr ⟨hs, beq_self_eq_true _⟩
  rw [h] at hs'
  exact (List.mem_filter.mp hs').1

lemma ordered_sortBy (ss : List Specifier) :
    (sortBy fold ss).Pairwise fun a b => fold a.name ≤ fold b.name := by
  have hsorted := List.pairwise_mergeSort (compareBy_trans fold) (compareBy_total fold) ss
  apply hsorted.imp
  intro a b hab
  exact (isLE_compareBy fold a b).mp hab

lemma alike_sublist_sortBy (key : String) (ss : List Specifier) :
    (alike fold key ss).Sublist (sortBy fold ss) := by
  apply List.sublist_mergeSort (compareBy_trans fold) (compareBy_total fold) ?_ List.filter_sublist
  have hkey : ∀ s ∈ alike fold key ss, fold s.name = key := by
    intro s hs
    exact beq_iff_eq.mp (List.mem_filter.mp hs).2
  apply List.pairwise_of_forall_mem_list
  intro a ha b hb
  have hsame : fold a.name = fold b.name := (hkey a ha).trans (hkey b hb).symm
  exact (isLE_compareBy fold a b).mpr (hsame ▸ String.le_refl _)

lemma alike_sortBy (key : String) (ss : List Specifier) :
    alike fold key (sortBy fold ss) = alike fold key ss := by
  have hsub : (alike fold key ss).Sublist (alike fold key (sortBy fold ss)) := by
    have h := (alike_sublist_sortBy fold key ss).filter fun s => fold s.name == key
    simpa only [alike, List.filter_filter, Bool.and_self] using h
  have hperm : (alike fold key (sortBy fold ss)).Perm (alike fold key ss) :=
    (List.mergeSort_perm ss _).filter _
  exact (hsub.eq_of_length hperm.length_eq.symm).symm

lemma arranges_sortBy (ss : List Specifier) : Arranges fold ss (sortBy fold ss) where
  perm := List.mergeSort_perm ss _
  ordered := ordered_sortBy fold ss
  stable key := alike_sortBy fold key ss

variable {fold}

lemma name_le_of_mem {s t : Specifier} {ss : List Specifier}
    (h : (s :: ss).Pairwise fun a b => fold a.name ≤ fold b.name) (ht : t ∈ s :: ss) :
    fold s.name ≤ fold t.name := by
  rcases List.mem_cons.mp ht with rfl | ht
  · exact String.le_refl _
  · exact List.rel_of_pairwise_cons h ht

lemma eq_of_ordered {ss ts : List Specifier}
    (hs : ss.Pairwise fun a b => fold a.name ≤ fold b.name)
    (ht : ts.Pairwise fun a b => fold a.name ≤ fold b.name)
    (h : ∀ key, alike fold key ss = alike fold key ts) : ss = ts := by
  induction ss generalizing ts with
  | nil =>
    symm
    apply List.eq_nil_iff_forall_not_mem.mpr
    intro t hmem
    exact List.not_mem_nil (mem_of_alike_eq fold (fun key => (h key).symm) hmem)
  | cons s ss ih =>
    cases ts with
    | nil => exact absurd (mem_of_alike_eq fold h List.mem_cons_self) List.not_mem_nil
    | cons t ts =>
      -- the first of each list is least in both
      have hst : fold s.name ≤ fold t.name :=
        name_le_of_mem hs (mem_of_alike_eq fold (fun key => (h key).symm) List.mem_cons_self)
      have hts : fold t.name ≤ fold s.name :=
        name_le_of_mem ht (mem_of_alike_eq fold h List.mem_cons_self)
      have hkey : fold t.name = fold s.name := String.le_antisymm hts hst
      have hfirst := h (fold s.name)
      rw [alike_cons, alike_cons, if_pos rfl, if_pos hkey, List.cons.injEq] at hfirst
      obtain ⟨rfl, hrest⟩ := hfirst
      congr 1
      apply ih hs.of_cons ht.of_cons
      intro key
      by_cases hk : fold s.name = key
      · subst hk
        exact hrest
      · have hother := h key
        rwa [alike_cons, alike_cons, if_neg hk, if_neg hk] at hother

lemma Arranges.unique {xs ys ss ts : List Specifier} (hs : Arranges fold xs ss)
    (ht : Arranges fold ys ts) (h : ∀ key, alike fold key xs = alike fold key ys) : ss = ts := by
  apply eq_of_ordered hs.ordered ht.ordered
  intro key
  rw [hs.stable, ht.stable, h]

end Order

def written (s : Specifier) : String :=
  s.name ++ (s.localName.map fun other => " as " ++ other).getD ""

lemma render_eq_written : render = written := by
  funext s
  rw [render, written]
  cases s.localName <;> simp [String.append_assoc]

end Specifier

namespace NamedImport

open Specifier

def around (i : NamedImport) (l : Layout) (inner : String) : String :=
  let mark := if l.quote = .single then "'" else "\""
  "import " ++ (i.defaultName.map fun name => name ++ ", ").getD "" ++ "\x7b" ++
    (inner ++ "\x7d from " ++ (mark ++ i.library ++ mark ++ l.eol))

def onOneLine (i : NamedImport) (l : Layout) (ss : List Specifier) : String :=
  i.around l ((if l.spaceBraces then " " else "") ++ ", ".intercalate (ss.map written) ++
    (if l.spaceBraces then " " else ""))

def onLines (i : NamedImport) (l : Layout) (ss : List Specifier) : String :=
  i.around l ("\n" ++ ",\n".intercalate
      (ss.map fun s => String.ofList (List.replicate l.tabSize.toNat ' ') ++ s.written) ++
    (if l.trailingComma then "," else "") ++ "\n")

lemma opening_append_closing (i : NamedImport) (l : Layout) (inner : String) :
    i.opening ++ (inner ++ i.closing l) = i.around l inner := by
  have hquote : l.quote.mark = if l.quote = .single then "'" else "\"" := by
    cases l.quote <;> rfl
  have hopening : i.opening =
      "import " ++ (i.defaultName.map fun name => name ++ ", ").getD "" ++ "\x7b" := by
    rw [opening]
    cases i.defaultName with
    | none => rfl
    | some name =>
      simp only [Option.map_some, Option.getD_some, String.append_assoc]
      rfl
  simp only [closing, around, hquote, hopening, String.append_assoc]

lemma oneLine_eq_onOneLine (i : NamedImport) (l : Layout) (ss : List Specifier) :
    i.oneLine l (ss.map Specifier.render) = i.onOneLine l ss := by
  simp only [onOneLine, ← opening_append_closing, oneLine, String.append_assoc,
    render_eq_written]

lemma wrapped_eq_onLines (i : NamedImport) (l : Layout) (ss : List Specifier) :
    i.wrapped l (ss.map Specifier.render) = i.onLines l ss := by
  simp only [onLines, ← opening_append_closing, wrapped, indent, String.append_assoc,
    List.map_map, Function.comp_def, render_eq_written]

lemma renderBy_congr {fold : String → String} {i j : NamedImport}
    (hdefault : i.defaultName = j.defaultName) (hlibrary : i.library = j.library)
    (hsort : sortBy fold i.specifiers = sortBy fold j.specifiers) (l : Layout) :
    i.renderBy fold l = j.renderBy fold l := by
  have hopening : i.opening = j.opening := by rw [opening, hdefault, opening]
  have hclosing : i.closing l = j.closing l := by rw [closing, hlibrary, closing]
  have hline : i.oneLine l = j.oneLine l := by
    funext names
    rw [oneLine, hopening, hclosing, oneLine]
  have hwrapped : i.wrapped l = j.wrapped l := by
    funext names
    rw [wrapped, hopening, hclosing, wrapped]
  rw [renderBy, hsort, hline, hwrapped, renderBy]

end NamedImport

open Specifier

theorem import_text_ignores_order (fold : String → String) (l : Layout) :
    (∀ i : NamedImport, ∃ ss, Arranges fold i.specifiers ss ∧
      i.renderBy fold l =
        if (i.onOneLine l ss).length ≤ l.wrapThreshold.toNat then i.onOneLine l ss
        else i.onLines l ss) ∧
    (∀ i j : NamedImport, i.defaultName = j.defaultName → i.library = j.library →
      i.specifiers.Perm j.specifiers →
      (∀ key, alike fold key i.specifiers = alike fold key j.specifiers) →
        i.renderBy fold l = j.renderBy fold l) ∧
    (∀ i : NamedImport, { i with specifiers := sortBy fold i.specifiers }.renderBy fold l =
      i.renderBy fold l) ∧
    ∀ i : NamedImport, i.render l = i.renderBy lowercase l := by
  have harranges := arranges_sortBy fold
  refine ⟨?_, ?_, ?_, fun _ => rfl⟩
  · intro i
    refine ⟨sortBy fold i.specifiers, harranges i.specifiers, ?_⟩
    rw [NamedImport.renderBy, NamedImport.oneLine_eq_onOneLine, NamedImport.wrapped_eq_onLines]
  · intro i j hdefault hlibrary _ halike
    have hsort := (harranges i.specifiers).unique (harranges j.specifiers) halike
    exact NamedImport.renderBy_congr hdefault hlibrary hsort l
  · intro i
    have hstable := (harranges i.specifiers).stable
    apply NamedImport.renderBy_congr
    · rfl
    · rfl
    · exact (harranges (sortBy fold i.specifiers)).unique (harranges i.specifiers) hstable

def tiedImport : NamedImport :=
  ⟨"x", some "d", [⟨"Foo", none⟩, ⟨"bar", some "b"⟩, ⟨"foo", none⟩], none, none⟩

def shuffledImport : NamedImport :=
  ⟨"x", some "d", [⟨"bar", some "b"⟩, ⟨"Foo", none⟩, ⟨"foo", none⟩], none, some 9⟩

theorem tiedImport_shuffled :
    tiedImport.specifiers.Perm shuffledImport.specifiers ∧
      (∀ key, alike lowercase key tiedImport.specifiers =
        alike lowercase key shuffledImport.specifiers) ∧
      (∀ l, tiedImport.renderBy lowercase l = shuffledImport.renderBy lowercase l) ∧
      tiedImport.render .standard = "import d, \x7b bar as b, Foo, foo \x7d from \"x\";" ∧
      tiedImport.render { Layout.standard with tabSize := 1, wrapThreshold := 0 } =
        "import d, \x7b\n bar as b,\n Foo,\n foo,\n\x7d from \"x\";" := by
  have hperm : tiedImport.specifiers.Perm shuffledImport.specifiers := by decide
  have halike : ∀ key, alike lowercase key tiedImport.specifiers =
      alike lowercase key shuffledImport.specifiers := by
    have hFoo : lowercase "Foo" = "foo" := by decide
    have hbar : lowercase "bar" = "bar" := by decide
    have hfoo : lowercase "foo" = "foo" := by decide
    intro key
    simp only [tiedImport, shuffledImport, alike_cons, hFoo, hbar, hfoo]
    by_cases hk : "bar" = key
    · subst hk
      decide
    · simp only [if_neg hk]
  -- the second import has the names of the first in their order
  have harranges : Arranges lowercase tiedImport.specifiers shuffledImport.specifiers :=
    ⟨hperm.symm, by decide, fun key => (halike key).symm⟩
  have htext (l : Layout) : tiedImport.render l =
      if (tiedImport.onOneLine l shuffledImport.specifiers).length ≤ l.wrapThreshold.toNat then
        tiedImport.onOneLine l shuffledImport.specifiers
      else tiedImport.onLines l shuffledImport.specifiers := by
    obtain ⟨hrender, _, _, hlowercase⟩ := import_text_ignores_order lowercase l
    obtain ⟨ss, hss, htext⟩ := hrender tiedImport
    rw [hss.unique harranges fun _ => rfl] at htext
    rw [hlowercase, htext]
  refine ⟨hperm, halike, ?_, ?_, ?_⟩
  · intro l
    exact (import_text_ignores_order lowercase l).2.1 tiedImport shuffledImport rfl rfl hperm halike
  · rw [htext]
    decide
  · rw [htext]
    decide

end SourceOutline
