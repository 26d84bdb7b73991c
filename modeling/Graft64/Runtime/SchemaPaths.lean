import Graft64.Library.JsonSchema
import Graft64.Runtime.Manifest

/-! The patterns of `runtime-manifest.schema.json`, and the paths, links and digests that they take. -/

namespace Graft64.Runtime.Manifest

open Graft64.Library Utf8 Unpack Results DepsLock FileSystem
open PatchSeries (Dependency)

/-- `.`, which stands for no line terminator. -/
def anyChar (c : ℕ) : Bool := !(c == 10 || c == 13 || c == 0x2028 || c == 0x2029)

/-- `\.{1,2}(?:/|$)` -/
def dots : Regex := .seq (.alt (.text (lit "..")) (.text (lit "."))) (.alt (.char (· == 47)) .endOfText)

/-- `(?!/)(?!\.{1,2}(?:/|$))(?!.*?/\.{1,2}(?:/|$))(?!.*//)[^\\]*[^/\\]$` -/
def namesPattern : Regex :=
  .seqs [.notAhead (.char (· == 47)), .notAhead dots, .notAhead (.seqs [.manyLazy anyChar, .char (· == 47), dots]),
    .notAhead (.seqs [.many anyChar, .text (lit "//")]), .many (· != 92), .char fun c =>
      c != 47 && c != 92, .endOfText]

def artifactPathPattern : Regex := .seqs [.startOfLine, .text (lit "root/"), namesPattern]

def logPattern : Regex := .seq .startOfLine namesPattern

/-- `^(?!/).+$` -/
def linkPattern : Regex := .seqs [.startOfLine, .notAhead (.char (· == 47)), .plus anyChar, .endOfText]

/-- `^patches/(wine|fex)/[^/]+\.patch$` -/
def patchPathPattern : Regex :=
  .seqs [.startOfLine, .text (lit "patches/"), .group (.alt (.text (lit "wine")) (.text (lit "fex"))),
    .text (lit "/"), .plus (· != 47), .text (lit ".patch"), .endOfText]

/-- `^[0-9a-f]{n}$` -/
def hexPattern (n : ℕ) : Regex := .seqs [.startOfLine, .seqs (List.replicate n (.char isHex)), .endOfText]

def ProperName (n : Str) : Prop := n ≠ [] ∧ n ≠ lit "." ∧ n ≠ lit ".."

lemma mem_splitOn {u d w : Str} (hd : 47 ∉ d) (hu : u = [] ∨ ∃ u', u = u' ++ [47])
    (hw : w = [] ∨ ∃ w', w = 47 :: w') :
    d ∈ (u ++ (d ++ w)).splitOn 47 := by
  have hright : d ∈ (d ++ w).splitOn 47 := by
    rcases hw with rfl | ⟨w', rfl⟩
    · rw [List.append_nil, List.splitOn_eq_singleton hd]
      exact List.mem_singleton_self d
    · rw [List.splitOn_append_cons_self, List.splitOn_eq_singleton hd]
      exact List.mem_cons_self
  rcases hu with rfl | ⟨u', rfl⟩
  · exact hright
  · rw [List.append_assoc, List.singleton_append, List.splitOn_append_cons_self]
    exact List.mem_append_right _ hright

section

variable {rest : Str} (hnames : ∀ n ∈ rest.splitOn 47, ProperName n)

include hnames

lemma not_between {u d w : Str} (h : rest = u ++ (d ++ w)) (hd : d = [] ∨ d = lit "." ∨ d = lit "..")
    (hu : u = [] ∨ ∃ u', u = u' ++ [47]) (hw : w = [] ∨ ∃ w', w = 47 :: w') : False := by
  have h47 : 47 ∉ d := by rcases hd with rfl | rfl | rfl <;> decide
  have hproper := hnames d (h ▸ mem_splitOn h47 hu hw)
  rcases hd with rfl | rfl | rfl
  · exact hproper.1 rfl
  · exact hproper.2.1 rfl
  · exact hproper.2.2 rfl

lemma not_dots {u : Str} {c d : Regex.Cursor} (h : rest = u ++ c.rest) (hu : u = [] ∨ ∃ u', u = u' ++ [47]) :
    ¬dots.Accepts c d := by
  rintro ⟨e, hdot, hend⟩
  simp only [Regex.Accepts, Regex.accepts_text] at hdot hend
  have hw : e.rest = [] ∨ ∃ w', e.rest = 47 :: w' := by
    rcases hend with ⟨x, w', he, hx, -⟩ | ⟨he, -⟩
    · exact .inr ⟨w', by rw [he, eq_of_beq hx]⟩
    · exact .inl he
  rcases hdot with ⟨w, hw', rfl⟩ | ⟨w, hw', rfl⟩
  · exact not_between hnames (by rw [h, hw']) (.inr (.inr rfl)) hu hw
  · exact not_between hnames (by rw [h, hw']) (.inr (.inl rfl)) hu hw

lemma namesPattern_accepts (h92 : 92 ∉ rest) (bol : Bool) : ∃ d, namesPattern.Accepts ⟨bol, rest⟩ d := by
  have hne : rest ≠ [] := by
    rintro rfl
    exact not_between hnames (u := []) (d := []) (w := []) rfl (.inl rfl) (.inl rfl) (.inl rfl)
  obtain ⟨w, c, rfl⟩ : ∃ w c, rest = w ++ [c] := ⟨_, _, (List.dropLast_append_getLast hne).symm⟩
  rw [List.mem_append, List.mem_singleton, not_or] at h92
  have hc : c ≠ 47 := by
    rintro rfl
    exact not_between hnames (u := w ++ [47]) (d := []) (w := []) (by simp) (.inl rfl) (.inr ⟨w, rfl⟩) (.inl rfl)
  have hslash : ¬∃ e, (Regex.char (· == 47)).Accepts ⟨bol, w ++ [c]⟩ e := by
    rintro ⟨_, x, rest, he, hx, -⟩
    obtain rfl := eq_of_beq hx
    exact not_between hnames (u := []) (d := []) he (.inl rfl) (.inl rfl) (.inr ⟨rest, rfl⟩)
  have hdots : ¬∃ e, dots.Accepts ⟨bol, w ++ [c]⟩ e := by
    rintro ⟨e, he⟩
    exact not_dots hnames (u := []) rfl (.inl rfl) he
  have hdeep : ¬∃ e, (Regex.seqs [.manyLazy anyChar, .char (· == 47), dots]).Accepts ⟨bol, w ++ [c]⟩ e := by
    rintro ⟨e, c₁, ⟨u, r₁, h₁, -, rfl⟩, c₂, ⟨x, r₂, h₂, hx, rfl⟩, he⟩
    obtain rfl := eq_of_beq hx
    obtain rfl : r₁ = 47 :: r₂ := h₂
    have he₁ : w ++ [c] = u ++ 47 :: r₂ := h₁
    exact not_dots hnames (u := u ++ [47]) (by rw [he₁, List.append_assoc]; rfl) (.inr ⟨u, rfl⟩) he
  have hdouble : ¬∃ e, (Regex.seqs [.many anyChar, .text (lit "//")]).Accepts ⟨bol, w ++ [c]⟩ e := by
    rintro ⟨e, c₁, ⟨u, r₁, h₁, -, rfl⟩, he⟩
    obtain ⟨r₂, h₂, -⟩ := Regex.accepts_text.mp he
    obtain rfl : r₁ = 47 :: 47 :: r₂ := h₂
    have he₁ : w ++ [c] = u ++ 47 :: 47 :: r₂ := h₁
    exact not_between hnames (u := u ++ [47]) (d := []) (w := 47 :: r₂)
      (by rw [he₁, List.append_assoc]; rfl) (.inl rfl)
      (.inr ⟨u, rfl⟩) (.inr ⟨r₂, rfl⟩)
  refine ⟨⟨c == 10, []⟩, _, ⟨hslash, rfl⟩, _, ⟨hdots, rfl⟩, _, ⟨hdeep, rfl⟩, _, ⟨hdouble, rfl⟩,
    ⟨Regex.bolAfter bol w, [c]⟩, ⟨w, [c], rfl, ?_, rfl⟩, ⟨c == 10, []⟩, ⟨c, [], rfl, ?_, rfl⟩, rfl, rfl⟩
  · intro x hx
    exact bne_iff_ne.mpr fun he => h92.1 (he ▸ hx)
  · simp [hc, Ne.symm h92.2]

end

lemma not_mem_of_mem_splitOn {n s : Str} (h : n ∈ s.splitOn 47) : 47 ∉ n := by
  induction s generalizing n with
  | nil =>
    rw [List.splitOn_nil, List.mem_singleton] at h
    simp [h]
  | cons c s ih =>
    rw [List.splitOn_cons_eq_if_modifyHead] at h
    split_ifs at h with hc
    · rcases List.mem_cons.mp h with rfl | h
      · simp
      · exact ih h
    · obtain ⟨first, others, hs⟩ := List.exists_cons_of_ne_nil (List.splitOn_ne_nil 47 s)
      rw [hs, List.modifyHead_cons] at h
      rcases List.mem_cons.mp h with rfl | h
      · have hfirst := ih (n := first) (by simp [hs])
        have hne : c ≠ 47 := by simpa using hc
        simp [hfirst, Ne.symm hne]
      · exact ih (by simp [hs, h])

lemma safeRelativePath_names {value owner s : Str} {rootPrefix : Bool}
    (h : safeRelativePath value owner rootPrefix = .ok s) :
    92 ∉ value ∧ (value = lit "." ∨ ∀ n ∈ value.splitOn 47, ProperName n) := by
  unfold safeRelativePath at h
  split_ifs at h with hn
  simp only [not_or, not_not] at hn
  obtain ⟨-, -, hup, h92, -, hposix⟩ := hn
  refine ⟨h92, ?_⟩
  unfold asPosix at hposix
  split_ifs at hposix with hp
  · exact .inl hposix.symm
  · right
    have hsplit : value.splitOn 47 = parts value := by
      rw [← hposix, List.splitOn_intercalate _ _ hp, hposix]
      intro p hp
      exact not_mem_of_mem_splitOn (List.mem_filter.mp hp).1
    rw [hsplit]
    intro n hmem
    have hfilter := (List.mem_filter.mp hmem).2
    simp only [Bool.and_eq_true, bne_iff_ne] at hfilter
    refine ⟨hfilter.1, hfilter.2, ?_⟩
    rintro rfl
    exact hup hmem

lemma logPattern_isSome {log owner s : Str} (h : safeRelativePath log owner false = .ok s) (hne : log ≠ lit ".") :
    (logPattern.matchAt ⟨true, log⟩).isSome = true := by
  obtain ⟨h92, hdot | hnames⟩ := safeRelativePath_names h
  · exact absurd hdot hne
  · rw [Regex.matchAt_isSome]
    obtain ⟨d, hd⟩ := namesPattern_accepts hnames h92 true
    exact ⟨d, _, ⟨rfl, rfl⟩, hd⟩

lemma artifactPathPattern_isSome {rest owner s : Str}
    (h : safeRelativePath (lit "root/" ++ rest) owner true = .ok s) :
    (artifactPathPattern.matchAt ⟨true, lit "root/" ++ rest⟩).isSome = true := by
  obtain ⟨h92, hdot | hnames⟩ := safeRelativePath_names h
  · cases hdot
  · rw [Regex.matchAt_isSome]
    have hsplit : (lit "root/" ++ rest).splitOn 47 = lit "root" :: rest.splitOn 47 :=
      List.splitOn_append_cons_self_of_not_mem (show 47 ∉ lit "root" by decide) rest
    rw [hsplit] at hnames
    obtain ⟨d, hd⟩ := namesPattern_accepts (List.forall_mem_cons.mp hnames).2
      (fun hr => h92 (List.mem_append_right _ hr)) (Regex.bolAfter true (lit "root/"))
    exact ⟨d, _, ⟨rfl, rfl⟩, _, Regex.accepts_text.mpr ⟨rest, rfl, rfl⟩, hd⟩

lemma hexPattern_isSome {n : ℕ} {s : Str} (h : isHexOf n s = true) :
    ((hexPattern n).matchAt ⟨true, s⟩).isSome = true := by
  obtain ⟨hlen, hhex⟩ := Bool.and_eq_true_iff.mp h
  obtain rfl := eq_of_beq hlen
  have hrun : (hexPattern s.length).matchAt ⟨true, s ++ []⟩ = some (⟨Regex.bolAfter true s, []⟩, []) :=
    Regex.run_chars (List.all_eq_true.mp hhex) true
  rw [List.append_nil] at hrun
  rw [hrun]
  rfl

lemma linkPattern_isSome {target : Str} (hne : target ≠ []) (ha : isAbsolute target = false) :
    (linkPattern.matchAt ⟨true, target⟩).isSome = true ↔ ∀ c ∈ target, anyChar c = true := by
  rw [Regex.matchAt_isSome]
  constructor
  · rintro ⟨d, _, ⟨-, rfl⟩, _, ⟨-, rfl⟩, _, ⟨_, ⟨x, r, he, hx, rfl⟩, w, r', hw, hany, rfl⟩, hr, -⟩
    obtain rfl : target = x :: r := he
    obtain rfl : r = w ++ r' := hw
    obtain rfl : r' = [] := hr
    rw [List.append_nil]
    exact List.forall_mem_cons.mpr ⟨hx, hany⟩
  · intro hany
    obtain ⟨x, r, rfl⟩ := List.exists_cons_of_ne_nil hne
    obtain ⟨hx, hr⟩ := List.forall_mem_cons.mp hany
    have h47 : ¬∃ e, (Regex.char (· == 47)).Accepts ⟨true, x :: r⟩ e := by
      rintro ⟨_, y, r', he, hy, -⟩
      obtain ⟨rfl, rfl⟩ := List.cons.inj he
      rw [eq_of_beq hy] at ha
      cases ha
    exact ⟨_, _, ⟨rfl, rfl⟩, _, ⟨h47, rfl⟩, _,
      ⟨.after x r, ⟨x, r, rfl, hx, rfl⟩, r, [], (List.append_nil r).symm, hr, rfl⟩, rfl, rfl⟩

lemma patchPathPattern_isSome (d : Dependency) {name : Str} (h47 : 47 ∉ name) (hs : lit ".patch" <:+ name) :
    (patchPathPattern.matchAt ⟨true, lit "patches/" ++ (lit d.name ++ (lit "/" ++ name))⟩).isSome = true ↔
      name ≠ lit ".patch" := by
  constructor
  · rintro h rfl
    revert h
    cases d <;> decide
  · intro hne
    obtain ⟨t, rfl⟩ := hs
    obtain ⟨x, t, rfl⟩ := List.exists_cons_of_ne_nil (show t ≠ [] by rintro rfl; exact hne rfl)
    have hclass : ∀ c ∈ x :: t, (c != 47) = true := by
      intro c hc
      exact bne_iff_ne.mpr fun he => h47 (List.mem_append_left _ (he ▸ hc))
    obtain ⟨hx, ht⟩ := List.forall_mem_cons.mp hclass
    have hname : (Regex.group (.alt (.text (lit "wine")) (.text (lit "fex")))).Accepts
        ⟨Regex.bolAfter true (lit "patches/"), lit d.name ++ (lit "/" ++ (x :: t ++ lit ".patch"))⟩
        ⟨Regex.bolAfter (Regex.bolAfter true (lit "patches/")) (lit d.name), lit "/" ++
          (x :: t ++ lit ".patch")⟩ := by
      cases d with
      | wine => exact .inl (Regex.accepts_text.mpr ⟨_, rfl, rfl⟩)
      | fex => exact .inr (Regex.accepts_text.mpr ⟨_, rfl, rfl⟩)
    rw [Regex.matchAt_isSome]
    exact ⟨_, _, ⟨rfl, rfl⟩, _, Regex.accepts_text.mpr ⟨_, rfl, rfl⟩, _, hname, _,
      Regex.accepts_text.mpr ⟨_, rfl, rfl⟩, _,
      ⟨.after x (t ++ lit ".patch"), ⟨x, _, rfl, hx, rfl⟩, t, lit ".patch", rfl, ht, rfl⟩, _,
      Regex.accepts_text.mpr ⟨[], rfl, rfl⟩, rfl, rfl⟩

lemma startsWith_isSome (s rest : Str) :
    ((Regex.seqs [.startOfLine, .text s]).matchAt ⟨true, s ++ rest⟩).isSome = true := by
  rw [Regex.matchAt_isSome]
  exact ⟨_, _, ⟨rfl, rfl⟩, Regex.accepts_text.mpr ⟨rest, rfl, rfl⟩⟩

end Graft64.Runtime.Manifest
