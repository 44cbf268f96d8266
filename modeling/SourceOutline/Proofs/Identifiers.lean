import SourceOutline.Proofs.Below
import SourceOutline.Workspace

/-!
Identifiers of modules. Below a root, two paths share an identifier only where their texts differ
in nothing but an ending that identifiers leave out. Of the extensions by which a language is told,
two are not among these endings, and the identifiers of such files keep them.
-/

namespace SourceOutline.Path

lemma exists_ending (text : List Char) :
    ∃ e ∈ [] :: moduleEndings, text = cutEnding text ++ e := by
  rw [cutEnding]
  split
  · rename_i e he
    have hfits := List.find?_some he
    have hsuffix : e <:+ text := List.isSuffixOf_iff_suffix.mp hfits
    refine ⟨e, List.mem_cons_of_mem _ (List.mem_of_find?_eq_some he), ?_⟩
    exact (List.suffix_iff_eq_append.mp hsuffix).symm
  · exact ⟨[], List.mem_cons_self, (List.append_nil _).symm⟩

lemma cutEnding_isPrefix (text : List Char) : cutEnding text <+: text := by
  obtain ⟨e, _, he⟩ := exists_ending text
  exact ⟨e, he.symm⟩

lemma moduleIdentifier_one_slash (d : Disk) (p root : Path) :
    ∃ rest, (p.moduleIdentifier d root).toList = '/' :: rest ∧ rest.head? ≠ some '/' := by
  refine ⟨_, String.toList_ofList, ?_⟩
  intro h
  have hhead := head?_of_isPrefix (cutEnding_isPrefix _) h
  have hnot := List.head?_dropWhile_not (· == '/') (moduleText d p root)
  rw [hhead] at hnot
  simp at hnot

section Relative

variable {d : Disk} {p root : Path} {rel : String} (habsent : ¬ (p.IsOn d ∧ root.IsOn d))
  (hrel : p.relativeTo d root = .ok rel)

include habsent hrel

lemma below_of_relativeTo : root.components <+: p.components ∧ p.TextBelow root ∧
    p.below? root = some (Utf8.encode rel) := by
  rcases relativeTo_cases habsent with ⟨_, h⟩ | ⟨_, _, h⟩ | ⟨rel', hbelow, htext, hbytes, h⟩
  · cases h.symm.trans hrel
  · cases h.symm.trans hrel
  · cases h.symm.trans hrel
    exact ⟨hbelow, htext, hbytes⟩

lemma components_relativeTo : root.components ++ (ofText rel).components = p.components :=
  components_below (below_of_relativeTo habsent hrel).2.2

lemma encode_relativeTo (hroot : root.bytes ≠ []) :
    Utf8.encode rel = joined (p.restBelow root) := by
  obtain ⟨hbelow, _, hbytes⟩ := below_of_relativeTo habsent hrel
  rw [below?_eq hroot hbelow, Option.some.injEq] at hbytes
  exact hbytes.symm

lemma head?_relativeTo (hroot : root.bytes ≠ []) : rel.toList.head? ≠ some '/' := by
  intro h
  obtain ⟨rest, hrest⟩ := List.head?_eq_some_iff.mp h
  have hslash (s : List UInt8) (hs : s ∈ p.restBelow root) : slash ∉ s :=
    slash_not_mem_split (restBelow_subset p root hs)
  have hfirst : (p.restBelow root).head? ≠ some [] := fun h =>
    Bool.noConfusion (loud_of_head?_restBelow h)
  have hhead := head?_joined hslash hfirst
  rw [← encode_relativeTo habsent hrel hroot, ← String.ofList_toList (s := rel), hrest,
    Utf8.encode_ofList] at hhead
  exact hhead rfl

lemma toList_moduleIdentifier (hroot : root.bytes ≠ []) :
    (p.moduleIdentifier d root).toList = '/' :: cutEnding rel.toList := by
  have hhead := head?_relativeTo habsent hrel hroot
  have hkeep : rel.toList.dropWhile (· == '/') = rel.toList := by
    cases htext : rel.toList with
    | nil => rfl
    | cons c text =>
      rw [htext] at hhead
      rw [List.dropWhile_cons_of_neg (by simpa using hhead)]
  rw [moduleIdentifier, moduleText, hrel]
  simp only [String.toList_ofList, hkeep]

end Relative

lemma text_ending (text : String) :
    ∃ e ∈ ["", ".d.ts", ".tsx", ".ts", ".js"],
      text = String.ofList (cutEnding text.toList) ++ e := by
  obtain ⟨e, he, htext⟩ := exists_ending text.toList
  refine ⟨String.ofList e, ?_, ?_⟩
  · simp only [moduleEndings, List.mem_cons, List.not_mem_nil, or_false] at he
    rcases he with rfl | rfl | rfl | rfl | rfl <;> simp
  · rw [← String.ofList_append, ← htext, String.ofList_toList]

lemma exists_relativeTo_iff {d : Disk} {p root : Path} (habsent : ¬ (p.IsOn d ∧ root.IsOn d)) :
    (∃ rel, p.relativeTo d root = .ok rel) ↔
      root.components <+: p.components ∧ p.TextBelow root := by
  constructor
  · rintro ⟨rel, hrel⟩
    have h := below_of_relativeTo habsent hrel
    exact ⟨h.1, h.2.1⟩
  · rintro ⟨hbelow, htext⟩
    rcases relativeTo_cases habsent with ⟨h, _⟩ | ⟨_, h, _⟩ | ⟨rel, _, _, _, h⟩
    · exact (h hbelow).elim
    · exact (h htext).elim
    · exact ⟨rel, h⟩

lemma relativeTo_outside_iff {d : Disk} {p root : Path} (habsent : ¬ (p.IsOn d ∧ root.IsOn d)) :
    p.relativeTo d root = .error (.outside p root) ↔ ¬ root.components <+: p.components := by
  rcases relativeTo_cases habsent with ⟨h, hrel⟩ | ⟨h, _, hrel⟩ | ⟨rel, h, _, _, hrel⟩ <;>
    simp [h, hrel]

lemma relativeTo_invalidText_iff {d : Disk} {p root : Path}
    (habsent : ¬ (p.IsOn d ∧ root.IsOn d)) :
    p.relativeTo d root = .error .invalidText ↔
      root.components <+: p.components ∧ ¬ p.TextBelow root := by
  rcases relativeTo_cases habsent with ⟨h, hrel⟩ | ⟨h, htext, hrel⟩ | ⟨rel, h, htext, _, hrel⟩
  · simp [h, hrel]
  · simp [h, htext, hrel]
  · simp [h, htext, hrel]

lemma not_isOn_absent (p : Path) : ¬ p.IsOn .absent := by
  rintro ⟨place, h⟩
  cases h

theorem identifiers_collide_only_on_endings (d : Disk) (p q root : Path)
    (hp : ¬ (p.IsOn d ∧ root.IsOn d)) (hq : ¬ (q.IsOn d ∧ root.IsOn d)) :
    ((∃ rel, p.relativeTo d root = .ok rel) ↔
      root.components <+: p.components ∧ p.TextBelow root) ∧
    (p.relativeTo d root = .error (.outside p root) ↔ ¬ root.components <+: p.components) ∧
    (p.relativeTo d root = .error .invalidText ↔
      root.components <+: p.components ∧ ¬ p.TextBelow root) ∧
    (∀ rel, p.relativeTo d root = .ok rel →
      root.components ++ (ofText rel).components = p.components) ∧
    (∃ rest, (p.moduleIdentifier d root).toList = '/' :: rest ∧ rest.head? ≠ some '/') ∧
    ∀ rel rel', root.bytes ≠ [] → p.relativeTo d root = .ok rel → q.relativeTo d root = .ok rel' →
      p.moduleIdentifier d root = q.moduleIdentifier d root →
      ∃ s e e' : String, p.moduleIdentifier d root = "/" ++ s ∧ rel = s ++ e ∧ rel' = s ++ e' ∧
        e ∈ ["", ".d.ts", ".tsx", ".ts", ".js"] ∧ e' ∈ ["", ".d.ts", ".tsx", ".ts", ".js"] ∧
        (e = e' → p.components = q.components) := by
  refine ⟨exists_relativeTo_iff hp, relativeTo_outside_iff hp, relativeTo_invalidText_iff hp,
    fun rel => components_relativeTo hp, moduleIdentifier_one_slash d p root, ?_⟩
  intro rel rel' hroot hprel hqrel hsame
  obtain ⟨e, he, hrel⟩ := text_ending rel
  obtain ⟨e', he', hrel'⟩ := text_ending rel'
  have hpid := toList_moduleIdentifier hp hprel hroot
  have hcut : cutEnding rel.toList = cutEnding rel'.toList := by
    rw [← String.toList_inj, hpid, toList_moduleIdentifier hq hqrel hroot] at hsame
    exact List.tail_eq_of_cons_eq hsame
  rw [← hcut] at hrel'
  refine ⟨_, e, e', ?_, hrel, hrel', he, he', ?_⟩
  · rw [← String.toList_inj, hpid]
    simp
  · rintro rfl
    have htext : rel = rel' := hrel.trans hrel'.symm
    rw [← components_relativeTo hp hprel, ← components_relativeTo hq hqrel, htext]

/-- A file in `/work` whose name without its extension is a single byte. -/
def byteNamed (b : UInt8) : Path :=
  ⟨Utf8.encode "/work/" ++ b :: Utf8.encode ".ts"⟩

theorem strayBytes_share_identifier :
    (ofText "/work").components <+: (byteNamed 0xFF).components ∧
    (byteNamed 0xFF).relativeTo .absent (ofText "/work") = .error .invalidText ∧
    (byteNamed 0xFF).moduleIdentifier .absent (ofText "/work") = "/work/\uFFFD" ∧
    (byteNamed 0xFE).moduleIdentifier .absent (ofText "/work") = "/work/\uFFFD" ∧
    (byteNamed 0xFF).components ≠ (byteNamed 0xFE).components :=
  ⟨by decide, rfl, by decide, by decide, by decide⟩

theorem identifier_shared_by_two_files :
    (ofText "/work/./src/a.d.ts/").relativeTo .absent (ofText "/work/") = .ok "src/a.d.ts" ∧
    (ofText "/work/src/a.tsx").relativeTo .absent (ofText "/work/") = .ok "src/a.tsx" ∧
    (ofText "/work/./src/a.d.ts/").moduleIdentifier .absent (ofText "/work/") =
      (ofText "/work/src/a.tsx").moduleIdentifier .absent (ofText "/work/") ∧
    (ofText "/work/").components ++ (ofText "src/a.d.ts").components =
      (ofText "/work/./src/a.d.ts/").components ∧
    ∃ s e e' : String,
      (ofText "/work/./src/a.d.ts/").moduleIdentifier .absent (ofText "/work/") = "/" ++ s ∧
      "src/a.d.ts" = s ++ e ∧ "src/a.tsx" = s ++ e' ∧
      e ∈ ["", ".d.ts", ".tsx", ".ts", ".js"] ∧ e' ∈ ["", ".d.ts", ".tsx", ".ts", ".js"] ∧
      (e = e' → (ofText "/work/./src/a.d.ts/").components =
        (ofText "/work/src/a.tsx").components) := by
  have hp : (ofText "/work/./src/a.d.ts/").relativeTo .absent (ofText "/work/") =
      .ok "src/a.d.ts" := rfl
  have hq : (ofText "/work/src/a.tsx").relativeTo .absent (ofText "/work/") = .ok "src/a.tsx" := rfl
  have hsame : (ofText "/work/./src/a.d.ts/").moduleIdentifier .absent (ofText "/work/") =
      (ofText "/work/src/a.tsx").moduleIdentifier .absent (ofText "/work/") := by decide
  obtain ⟨_, _, _, hrebuilt, _, h⟩ := identifiers_collide_only_on_endings .absent
    (ofText "/work/./src/a.d.ts/") (ofText "/work/src/a.tsx") (ofText "/work/")
    (fun h => not_isOn_absent _ h.1) (fun h => not_isOn_absent _ h.1)
  exact ⟨hp, hq, hsame, hrebuilt _ hp, h _ _ (by decide) hp hq hsame⟩

/-- A relative path without the extension `e` at its end, or without the two that mark a file of
declarations. -/
def withoutExtension (rel e : List Char) : List Char :=
  if ['.', 'd', '.', 't', 's'] <:+ rel then rel.rdrop 5 else rel.rdrop (e.length + 1)

lemma dot_suffix_of_cutAtDot {name ext : List UInt8} (h : (cutAtDot name).2 = some ext) :
    dot :: ext <:+ name := by
  rw [cutAtDot] at h
  split at h
  · cases h
  · rename_i hcut
    rw [not_or] at hcut
    rw [Option.some.injEq] at h
    have hname := List.takeWhile_append_dropWhile (p := (· != dot)) (l := name.reverse)
    cases hrest : name.reverse.dropWhile (· != dot) with
    | nil => simp [hrest] at hcut
    | cons c rest =>
      have hc : c = dot := by
        have hnot := List.head?_dropWhile_not (· != dot) name.reverse
        rw [hrest] at hnot
        simpa using hnot
      rw [hrest, hc] at hname
      have hflip := congrArg List.reverse hname
      rw [List.reverse_reverse, List.reverse_append, List.reverse_cons, List.append_assoc,
        h] at hflip
      exact ⟨rest.reverse, hflip⟩

lemma name_suffix_restBelow {p root : Path} (hroot : root.bytes ≠ [])
    (hbelow : root.components <+: p.components) (hstrict : root.components ≠ p.components)
    {name : List UInt8} (hname : p.fileName? = some name) : name <:+ joined (p.restBelow root) := by
  obtain ⟨below, hbelow⟩ := hbelow
  have hne : below ≠ [] := by
    rintro rfl
    exact hstrict (by rw [← hbelow, List.append_nil])
  have hrest := components_restBelow (p := p) hroot
  rw [← hbelow, List.drop_left] at hrest
  have hlast : below.getLast? = some (.name name) := by
    rw [fileName?_eq_some, ← hbelow, List.getLast?_append_of_ne_nil _ hne] at hname
    exact hname
  cases hs : (p.restBelow root).getLast? with
  | none =>
    rw [List.getLast?_eq_none_iff.mp hs] at hrest
    exact (hne hrest.symm).elim
  | some s =>
    -- the last segment is not silent, so that it is the last component
    obtain ⟨c, hc⟩ := component?_loud (loud_of_getLast?_trimBack hs)
    obtain ⟨front, hfront⟩ := List.getLast?_eq_some_iff.mp hs
    rw [hfront, List.filterMap_append, List.filterMap_cons_some hc] at hrest
    rw [← hrest, List.filterMap_nil, List.getLast?_concat, Option.some.injEq] at hlast
    rw [hlast] at hc
    exact eq_of_component?_name hc ▸ suffix_joined hs

section Ending

variable {text e : List Char} (h : e <:+ text)

include h

lemma not_suffix_of_apart {other : List Char} (hapart : ¬ other <:+ e ∧ ¬ e <:+ other) :
    ¬ other <:+ text := fun hother =>
  (List.suffix_or_suffix_of_suffix hother h).elim hapart.1 hapart.2

lemma cutEnding_of_first (front : List (List Char)) {back : List (List Char)}
    (hsplit : moduleEndings = front ++ e :: back) (hfront : ∀ other ∈ front, ¬ other <:+ text) :
    cutEnding text = text.rdrop e.length := by
  have hfind : moduleEndings.find? (fun other => other.isSuffixOf text) = some e := by
    rw [List.find?_eq_some_iff_append]
    refine ⟨List.isSuffixOf_iff_suffix.mpr h, front, back, hsplit, ?_⟩
    intro other hmem
    have hother := hfront other hmem
    rw [← List.isSuffixOf_iff_suffix, Bool.not_eq_true] at hother
    rw [hother]
    rfl
  rw [cutEnding, hfind]
  rfl

lemma cutEnding_eq_self (hapart : ∀ other ∈ moduleEndings, ¬ other <:+ e ∧ ¬ e <:+ other) :
    cutEnding text = text := by
  have hnone : moduleEndings.find? (fun other => other.isSuffixOf text) = none := by
    rw [List.find?_eq_none]
    intro other hmem
    rw [List.isSuffixOf_iff_suffix]
    exact not_suffix_of_apart h (hapart other hmem)
  rw [cutEnding, hnone]

end Ending

lemma cutEnding_ts {text : List Char} (h : ['.', 't', 's'] <:+ text) :
    cutEnding text = withoutExtension text ['t', 's'] := by
  have htsx : ¬ ['.', 't', 's', 'x'] <:+ text := not_suffix_of_apart h (by decide)
  rw [withoutExtension]
  split
  · rename_i hd
    exact cutEnding_of_first hd [] rfl (by simp)
  · rename_i hd
    exact cutEnding_of_first h [['.', 'd', '.', 't', 's'], ['.', 't', 's', 'x']] rfl
      (by simpa using ⟨hd, htsx⟩)

lemma cutEnding_tsx {text : List Char} (h : ['.', 't', 's', 'x'] <:+ text) :
    cutEnding text = withoutExtension text ['t', 's', 'x'] := by
  have hd : ¬ ['.', 'd', '.', 't', 's'] <:+ text := not_suffix_of_apart h (by decide)
  rw [withoutExtension, if_neg hd]
  exact cutEnding_of_first h [['.', 'd', '.', 't', 's']] rfl (by simpa using hd)

lemma withoutExtension_ne {rel : List Char} (h : rel ≠ []) (e : List Char) :
    withoutExtension rel e ≠ rel := by
  intro he
  have hlen := congrArg List.length he
  have hpos := List.length_pos_iff.mpr h
  rw [withoutExtension] at hlen
  split at hlen
  · rw [List.rdrop, List.length_take] at hlen
    omega
  · rw [List.rdrop, List.length_take] at hlen
    omega

lemma cutEnding_extension {text : List Char} {e : String} (he : e ∈ ["ts", "mts", "cts", "tsx"])
    (h : '.' :: e.toList <:+ text) :
    (cutEnding text = withoutExtension text e.toList ↔ e = "ts" ∨ e = "tsx") ∧
      (cutEnding text = text ↔ e = "mts" ∨ e = "cts") := by
  have hne : text ≠ [] := by
    rintro rfl
    cases List.suffix_nil.mp h
  have hcut := withoutExtension_ne hne e.toList
  simp only [List.mem_cons, List.not_mem_nil, or_false] at he
  rcases he with rfl | rfl | rfl | rfl
  · have hts : cutEnding text = withoutExtension text "ts".toList := cutEnding_ts h
    rw [hts]
    simpa using hcut
  · rw [cutEnding_eq_self h (by decide)]
    simpa using hcut.symm
  · rw [cutEnding_eq_self h (by decide)]
    simpa using hcut.symm
  · have htsx : cutEnding text = withoutExtension text "tsx".toList := cutEnding_tsx h
    rw [htsx]
    simpa using hcut

lemma extension_of_language {p : Path} (h : (Language.ofPath? p).isSome = true) :
    ∃ e ∈ ["ts", "mts", "cts", "tsx"], p.extension? = some (Utf8.encode e) := by
  have hbytes {e : String} (he : p.extension?.bind Utf8.text? = some e) :
      p.extension? = some (Utf8.encode e) := by
    obtain ⟨ext, hext, htext⟩ := Option.bind_eq_some_iff.mp he
    rw [hext, Utf8.text?_eq_some.mp htext]
  rw [Language.ofPath?] at h
  split at h
  case h_1 he | h_2 he | h_3 he | h_4 he => exact ⟨_, by simp, hbytes he⟩
  case h_5 => cases h

lemma dot_suffix_restBelow {p root : Path} (hroot : root.bytes ≠ [])
    (hbelow : root.components <+: p.components) (hstrict : root.components ≠ p.components)
    {ext : List UInt8} (hext : p.extension? = some ext) :
    dot :: ext <:+ joined (p.restBelow root) := by
  rw [extension?, Option.bind_eq_some_iff] at hext
  obtain ⟨name, hname, hcut⟩ := hext
  exact (dot_suffix_of_cutAtDot hcut).trans (name_suffix_restBelow hroot hbelow hstrict hname)

lemma dot_suffix_of_encode {text e : String} (h : dot :: Utf8.encode e <:+ Utf8.encode text) :
    '.' :: e.toList <:+ text.toList := by
  obtain ⟨front, hfront⟩ := h
  obtain ⟨⟨s, rfl⟩, _⟩ : Utf8.IsText front ∧ Utf8.IsText (Utf8.encode e) :=
    (Utf8.isText_append_cons (c := '.') (b := dot) (by decide) (by decide)).mp ⟨text, hfront⟩
  have htext : s ++ ("." ++ e) = text := by
    apply Utf8.encode_injective
    rw [Utf8.encode_append, Utf8.encode_append, ← hfront]
    rfl
  exact ⟨s.toList, by simp [← htext]⟩

theorem identifier_drops_extension_iff (d : Disk) (p root : Path) (hroot : root.bytes ≠ [])
    (hbelow : root.components <+: p.components) (hstrict : root.components ≠ p.components)
    (habsent : ¬ (p.IsOn d ∧ root.IsOn d)) (hlanguage : (Language.ofPath? p).isSome = true) :
    ∃ e : String, p.extension? = some (Utf8.encode e) ∧
      ((∃ rel, p.relativeTo d root = .ok rel) ↔ p.TextBelow root) ∧
      ∀ rel, p.relativeTo d root = .ok rel →
        '.' :: e.toList <:+ rel.toList ∧
        ((p.moduleIdentifier d root).toList = '/' :: withoutExtension rel.toList e.toList ↔
          e = "ts" ∨ e = "tsx") ∧
        ((p.moduleIdentifier d root).toList = '/' :: rel.toList ↔ e = "mts" ∨ e = "cts") := by
  obtain ⟨e, hmem, he⟩ := extension_of_language hlanguage
  refine ⟨e, he, by rw [exists_relativeTo_iff habsent, and_iff_right hbelow], ?_⟩
  intro rel hrel
  have hbytes := dot_suffix_restBelow hroot hbelow hstrict he
  rw [← encode_relativeTo habsent hrel hroot] at hbytes
  have hsuffix := dot_suffix_of_encode hbytes
  rw [toList_moduleIdentifier habsent hrel hroot, List.cons.injEq, List.cons.injEq, eq_self,
    true_and, true_and]
  exact ⟨hsuffix, cutEnding_extension hmem hsuffix⟩

theorem declarationFile_drops_extension :
    (ofText "/work/./a.b.d.ts/").extension? = some (Utf8.encode "ts") ∧
    (ofText "/work/./a.b.d.ts/").relativeTo .absent (ofText "/work") = .ok "a.b.d.ts" ∧
    ".ts".toList <:+ "a.b.d.ts".toList ∧
    ((ofText "/work/./a.b.d.ts/").moduleIdentifier .absent (ofText "/work")).toList =
      '/' :: withoutExtension "a.b.d.ts".toList "ts".toList := by
  obtain ⟨e, he, _, h⟩ := identifier_drops_extension_iff .absent (ofText "/work/./a.b.d.ts/")
    (ofText "/work") (by decide) (by decide) (by decide) (fun h => not_isOn_absent _ h.1)
    (by decide)
  have hts : e = "ts" := Utf8.encode_injective (Option.some.inj (he.symm.trans (by decide)))
  subst hts
  obtain ⟨hsuffix, hdrops, _⟩ := h "a.b.d.ts" rfl
  exact ⟨he, rfl, hsuffix, hdrops.mpr (.inl rfl)⟩

theorem moduleFile_keeps_extension :
    Language.ofPath? (ofText "/work/src/a.mts") = some .typescript ∧
    (ofText "/work/src/a.mts").extension? = some (Utf8.encode "mts") ∧
    (ofText "/work/src/a.mts").relativeTo .absent (ofText "/work") = .ok "src/a.mts" ∧
    (ofText "/work/src/a.mts").moduleIdentifier .absent (ofText "/work") = "/src/a.mts" ∧
    withoutExtension "src/a.mts".toList "mts".toList = "src/a".toList :=
  ⟨by decide, by decide, rfl, by decide, by decide⟩

end SourceOutline.Path
