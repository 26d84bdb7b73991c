import Graft64.Runtime.LockReaders

/-! The fields that the readers of `fetch-upstream.sh` and `apply-patches.sh` find in a block. -/

namespace Graft64.Runtime.DepsLock

open Graft64.Library Regex

def trimmedLines : Option Str → List Str → List (Str × Str)
  | none, [] => []
  | some key, [] => [(key, [])]
  | none, l :: ls => match keyOf 4 l with
    | none => trimmedLines none ls
    | some (key, rest) =>
      if strip rest = [] then trimmedLines (some key) ls else (key, strip rest) :: trimmedLines none ls
  | some key, l :: ls =>
      if strip l = [] then trimmedLines (some key) ls else (key, strip l) :: trimmedLines none ls

/-- `\s*$` -/
def lineEnd : Regex := .seq (.many isSpace) .endOfLine

/-- `(.*?)\s*$` -/
def trimmedRest : Regex := .seq (.group (.manyLazy inLine)) lineEnd

/-- `\s*(.*?)\s*$` -/
def trimmedValue : Regex := .seq (.many isSpace) trimmedRest

lemma trimmedPattern_matchAt (l : Str) {t : Str} (ht : ∀ c ∈ t.head?, c = 10) :
    trimmedPattern.matchAt ⟨true, l ++ t⟩ =
    (keyOf 4 l).bind fun field => trimmedValue.run found ⟨false, field.2 ++ t⟩ [field.1] :=
  keyPattern_matchAt 4 trimmedValue l ht

lemma lineEnd_run (k : Cont) (b : Bool) (s : Str) (caps : List Str) : lineEnd.run k ⟨b, s⟩ caps =
    greedy isSpace (fun c => if c.rest.head?.all (· == 10) then k c caps else none) b s := rfl

lemma lineEnd_none (k : Cont) {l : Str} (hl : 10 ∉ l) (hs : ¬ l.all isSpace = true) (b : Bool) (t : Str)
    (caps : List Str) : lineEnd.run k ⟨b, l ++ t⟩ caps = none := by
  induction l generalizing b with
  | nil => exact absurd rfl hs
  | cons c l ih =>
    simp only [List.mem_cons, not_or] at hl
    have hc : (c == 10) = false := beq_eq_false_iff_ne.mpr (Ne.symm hl.1)
    have hstop : ¬ (c :: (l ++ t)).head?.all (· == 10) = true := by simp [hc]
    rw [List.cons_append, lineEnd_run, greedy, if_neg hstop]
    by_cases hp : isSpace c = true
    · have hs' : ¬ l.all isSpace = true := by simpa [hp] using hs
      rw [if_pos hp, ← lineEnd_run, ih hl.2 hs']
      rfl
    · rw [if_neg hp]

lemma lineEnd_some {l : Str} (hs : l.all isSpace = true) {ls : List Str} (h10 : ∀ m ∈ ls, 10 ∉ m) (b : Bool)
    (caps : List Str) : ∃ b' front back, ls = front ++ back ∧ (∀ m ∈ front, m.all isSpace = true) ∧
      lineEnd.run found ⟨b, l ++ joined ls⟩ caps = some (⟨b', joined back⟩, caps) := by
  induction ls generalizing l b with
  | nil =>
    refine ⟨bolAfter b l, [], [], rfl, by simp, ?_⟩
    rw [lineEnd_run]
    exact greedy_append (List.all_eq_true.mp hs) rfl
  | cons m ls ih =>
    obtain ⟨hm, h10⟩ := List.forall_mem_cons.mp h10
    have hnl : isSpace 10 = true := rfl
    have hrun (b : Bool) : lineEnd.run found ⟨b, joined (m :: ls)⟩ caps =
        (lineEnd.run found ⟨true, m ++ joined ls⟩ caps).orElse fun _ => some (⟨b, joined (m :: ls)⟩, caps) := rfl
    by_cases hb : m.all isSpace = true
    · obtain ⟨b', front, back, rfl, hfront, hlast⟩ := ih hb h10 true
      refine ⟨b', m :: front, back, rfl, List.forall_mem_cons.mpr ⟨hb, hfront⟩, ?_⟩
      rw [lineEnd_run]
      refine greedy_append (List.all_eq_true.mp hs) ?_
      rw [← lineEnd_run, hrun, hlast]
      rfl
    · refine ⟨bolAfter b l, [], m :: ls, rfl, by simp, ?_⟩
      rw [lineEnd_run]
      refine greedy_append (List.all_eq_true.mp hs) ?_
      rw [← lineEnd_run, hrun, lineEnd_none found hm hb]
      rfl

lemma trimmedRest_run (b : Bool) (s : Str) (caps : List Str) : trimmedRest.run found ⟨b, s⟩ caps =
    shortest inLine (fun c => lineEnd.run found c (caps ++ [s.take (s.length - c.rest.length)])) b s := rfl

lemma rtakeWhile_all (l : Str) : (l.rtakeWhile isSpace).all isSpace = true :=
  List.all_eq_true.mpr fun _ hc => List.mem_rtakeWhile_imp hc

lemma trimmedRest_line {w : Str} (hw : 10 ∉ w) {ls : List Str} (h10 : ∀ m ∈ ls, 10 ∉ m) (b : Bool)
    (caps : List Str) :
    ∃ b' front back, ls = front ++ back ∧ (∀ m ∈ front, m.all isSpace = true) ∧
      trimmedRest.run found ⟨b, w ++ joined ls⟩ caps =
        some (⟨b', joined back⟩, caps ++ [w.rdropWhile isSpace]) := by
  obtain ⟨b', front, back, hls, hfront, hend⟩ := lineEnd_some (rtakeWhile_all w) h10
    (bolAfter b (w.rdropWhile isSpace)) (caps ++ [w.rdropWhile isSpace])
  refine ⟨b', front, back, hls, hfront, ?_⟩
  have hsplit : w ++ joined ls = w.rdropWhile isSpace ++ (w.rtakeWhile isSpace ++ joined ls) := by
    rw [← List.append_assoc, List.rdropWhile_append_rtakeWhile]
  have hv : 10 ∉ w.rdropWhile isSpace := fun h => hw ((List.rdropWhile_prefix isSpace w).mem h)
  rw [trimmedRest_run, hsplit]
  apply shortest_exact
  · intro c hc
    rw [inLine_iff]
    rintro rfl
    exact hv hc
  · intro front hs hne b
    apply lineEnd_none
    · exact fun h => hv (hs.mem h)
    · intro hall
      have hlast : front.getLast hne = (w.rdropWhile isSpace).getLast (hs.ne_nil hne) := hs.getLast hne
      have hspace := List.all_eq_true.mp hall _ (List.getLast_mem hne)
      rw [hlast] at hspace
      exact List.rdropWhile_last_not isSpace w _ hspace
  · rw [take_group]
    exact hend

lemma trimmedValue_line {u w : Str} (hu : ∀ c ∈ u, isSpace c = true) (hs : ∀ c ∈ w.head?, isSpace c = false)
    (hn : w ≠ []) (hw : 10 ∉ w) {ls : List Str} (h10 : ∀ m ∈ ls, 10 ∉ m) (b : Bool) (caps : List Str) :
    ∃ b' front back, ls = front ++ back ∧ (∀ m ∈ front, m.all isSpace = true) ∧
      trimmedValue.run found ⟨b, u ++ (w ++ joined ls)⟩ caps =
        some (⟨b', joined back⟩, caps ++ [w.rdropWhile isSpace]) := by
  obtain ⟨b', front, back, hls, hfront, hrest⟩ := trimmedRest_line hw h10 (bolAfter b u) caps
  refine ⟨b', front, back, hls, hfront, ?_⟩
  have hrun : trimmedValue.run found ⟨b, u ++ (w ++ joined ls)⟩ caps =
      greedy isSpace (fun c => trimmedRest.run found c caps) b (u ++ (w ++ joined ls)) := rfl
  obtain ⟨c, w, rfl⟩ := List.exists_cons_of_ne_nil hn
  rw [hrun]
  apply greedy_append hu
  rw [greedy_stop (by simpa using hs)]
  exact hrest

lemma trimmedValue_blank {u : Str} (hu : ∀ c ∈ u, isSpace c = true) (b : Bool) (caps : List Str) :
    ∃ b', trimmedValue.run found ⟨b, u⟩ caps = some (⟨b', []⟩, caps ++ [[]]) := by
  have hrun : trimmedValue.run found ⟨b, u⟩ caps =
      greedy isSpace (fun c => trimmedRest.run found c caps) b (u ++ []) := by
    rw [List.append_nil]
    rfl
  refine ⟨bolAfter b u, ?_⟩
  rw [hrun]
  exact greedy_append hu rfl

lemma strip_eq_nil {s : Str} : strip s = [] ↔ s.dropWhile isSpace = [] := by
  constructor
  · intro h
    cases hd : s.dropWhile isSpace with
    | nil => rfl
    | cons c v =>
      have hc := List.head?_dropWhile_not isSpace s
      rw [strip, hd, List.rdropWhile_eq_nil_iff] at h
      rw [hd] at hc
      simp [h c List.mem_cons_self] at hc
  · intro h
    rw [strip, h]
    rfl

inductive Trimmed (key : Str) (rest : Str) (ls : List Str) : Prop
  | value (u w : Str) (ms : List Str) (text : rest ++ joined ls = u ++ (w ++ joined ms))
    (blank : ∀ c ∈ u, isSpace c = true) (ne : w ≠ []) (head : ∀ c ∈ w.head?, isSpace c = false) (line : 10 ∉ w)
    (suffix : ms <:+ ls)
    (read : trimmedLines (some key) (rest :: ls) = (key, w.rdropWhile isSpace) :: trimmedLines none ms)
  | blank (blank : ∀ c ∈ rest ++ joined ls, isSpace c = true)
    (read : trimmedLines (some key) (rest :: ls) = [(key, [])])

lemma trimmed_value (key : Str) {rest : Str} {c : ℕ} {v : Str} (hd : rest.dropWhile isSpace = c :: v)
    (h10 : 10 ∉ rest) (ls : List Str) : Trimmed key rest ls := by
  have hc : isSpace c = false := by
    have h := List.head?_dropWhile_not isSpace rest
    rw [hd] at h
    simpa using h
  have hrest : rest.takeWhile isSpace ++ c :: v = rest := hd ▸ List.takeWhile_append_dropWhile
  have hline : 10 ∉ c :: v := fun h => h10 (hrest ▸ List.mem_append_right _ h)
  have hne : strip rest ≠ [] := by
    rw [Ne, strip_eq_nil, hd]
    exact List.cons_ne_nil c v
  apply Trimmed.value (rest.takeWhile isSpace) (c :: v) ls _ (fun d hm => List.mem_takeWhile_imp hm)
    (List.cons_ne_nil _ _) (by simpa using hc) hline List.suffix_rfl
  · rw [trimmedLines, if_neg hne, strip, hd]
  · rw [← List.append_assoc, hrest]

lemma trimmed (key : Str) {rest : Str} {ls : List Str} (h10 : ∀ l ∈ rest :: ls, 10 ∉ l) : Trimmed key rest ls := by
  induction ls generalizing rest with
  | nil =>
    cases hd : rest.dropWhile isSpace with
    | nil =>
      apply Trimmed.blank
      · simpa using dropWhile_eq_nil hd
      · rw [trimmedLines, if_pos (strip_eq_nil.mpr hd), trimmedLines]
    | cons c v => exact trimmed_value key hd (h10 rest List.mem_cons_self) []
  | cons m ms ih =>
    cases hd : rest.dropWhile isSpace with
    | cons c v => exact trimmed_value key hd (h10 rest List.mem_cons_self) (m :: ms)
    | nil =>
      have hread : trimmedLines (some key) (rest :: m :: ms) = trimmedLines (some key) (m :: ms) := by
        rw [trimmedLines, if_pos (strip_eq_nil.mpr hd)]
      have hblank (u : Str) (hu : ∀ c ∈ u, isSpace c = true) : ∀ c ∈ rest ++ 10 :: u, isSpace c = true := by
        intro c hc
        rcases List.mem_append.mp hc with hc | hc
        · exact dropWhile_eq_nil hd c hc
        · rcases List.mem_cons.mp hc with rfl | hc
          · rfl
          · exact hu c hc
      cases ih fun l hl => h10 l (List.mem_cons_of_mem _ hl) with
      | value u w ks ht hu hn hw hl hs hr =>
        apply Trimmed.value (rest ++ 10 :: u) w ks _ (hblank u hu) hn hw hl (hs.trans (List.suffix_cons m ms))
          (hread.trans hr)
        rw [joined_cons, ht, List.append_assoc]
        rfl
      | blank hu hr => exact .blank (hblank _ hu) (hread.trans hr)

lemma trimmedLines_blank {front : List Str} (h : ∀ m ∈ front, m.all isSpace = true) (back : List Str) :
    trimmedLines none (front ++ back) = trimmedLines none back := by
  induction front with
  | nil => rfl
  | cons m front ih =>
    obtain ⟨hm, h⟩ := List.forall_mem_cons.mp h
    rw [List.cons_append, trimmedLines, keyOf_blank (all_isSpace.mp hm)]
    exact ih h

lemma trimmedPattern_anchored : trimmedPattern.Anchored := anchored_seq _

lemma trimmedPattern_nil (b : Bool) (ls : List Str) : trimmedPattern.matchAt ⟨b, joined ls⟩ = none := by
  cases b with
  | false => exact trimmedPattern_anchored _
  | true =>
    have h := trimmedPattern_matchAt [] (joined_head ls)
    rwa [keyOf_nil] at h

lemma searchFrom_joined_trimmed (b : Bool) (m : Str) (ls : List Str) :
    searchFrom trimmedPattern b (joined (m :: ls)) = searchFrom trimmedPattern true (m ++ joined ls) := by
  have h := trimmedPattern_nil b (m :: ls)
  rw [joined_cons] at h ⊢
  rw [searchFrom, h]
  rfl

lemma findAll_trimmed {l : Str} {ls : List Str} (h10 : ∀ m ∈ l :: ls, 10 ∉ m) {n : ℕ} (hn : ls.length < n) :
    findAllFrom trimmedPattern n ⟨true, l ++ joined ls⟩ = (trimmedLines none (l :: ls)).map toCaps := by
  induction hN : ls.length using Nat.strong_induction_on generalizing l ls n with
  | _ N ih =>
  subst hN
  have hr := trimmedPattern_anchored
  have hl : 10 ∉ l := h10 l List.mem_cons_self
  have htail : ∀ m ∈ ls, 10 ∉ m := fun m hm => h10 m (List.mem_cons_of_mem _ hm)
  obtain ⟨n, rfl⟩ : ∃ k, n = k + 1 := ⟨n - 1, by omega⟩
  have hm := trimmedPattern_matchAt l (joined_head ls)
  cases hk : keyOf 4 l with
  | none =>
    rw [hk, Option.bind_none] at hm
    rw [trimmedLines, hk]
    cases ls with
    | nil =>
      apply findAllFrom_of_none
      rw [joined_nil, List.append_nil] at hm ⊢
      exact searchFrom_last_of_none hr hl hm
    | cons m ms =>
      rw [findAllFrom_congr ⟨true, m ++ joined ms⟩ (searchFrom_lines_of_none hr hl hm)]
      exact ih ms.length (by simp) htail (by simp at hn; omega) rfl
  | some field =>
    obtain ⟨key, rest⟩ := field
    rw [hk, Option.bind_some] at hm
    have hrest : 10 ∉ rest := fun h => hl ((keyOf_rest hk).mem h)
    have hread : trimmedLines none (l :: ls) = trimmedLines (some key) (rest :: ls) := by
      rw [trimmedLines, hk, trimmedLines]
    rw [hread]
    cases trimmed key (List.forall_mem_cons.mpr ⟨hrest, htail⟩) with
    | value u w ms ht hu hn' hw hline hs hread =>
      obtain ⟨b', front, back, rfl, hfront, hval⟩ :=
        trimmedValue_line hu hw hn' hline (fun m hm => htail m (hs.mem hm)) false [key]
      rw [← ht] at hval
      rw [findAllFrom_of_some (hm.trans hval), hread, List.map_cons, trimmedLines_blank hfront]
      congr 1
      have hle := hs.length_le
      rw [List.length_append] at hle
      cases back with
      | nil => exact findAllFrom_of_none (c := ⟨b', []⟩) (trimmedPattern_nil b' []) n
      | cons m ms =>
        rw [List.length_cons] at hle
        rw [findAllFrom_congr ⟨true, m ++ joined ms⟩ (searchFrom_joined_trimmed b' m ms)]
        exact ih ms.length (by omega) (fun k hk => htail k (hs.mem (List.mem_append_right _ hk))) (by omega) rfl
    | blank hu hread =>
      obtain ⟨b', hval⟩ := trimmedValue_blank hu false [key]
      rw [findAllFrom_of_some (hm.trans hval), hread,
        findAllFrom_of_none (c := ⟨b', []⟩) (trimmedPattern_nil b' [])]
      rfl

theorem findPairs_trimmed (text : Str) : findPairs trimmedPattern text = trimmedLines none (lines text) := by
  obtain ⟨l, ls, hl, rfl, h10⟩ := exists_lines text
  apply findPairs_of_findAll
  rw [hl, findAll, findAll_trimmed h10 (lines_length_lt l ls)]

lemma findPairs_isInfix {r : Regex} {text : Str} {p : Str × Str} (hp : p ∈ findPairs r text) :
    p.1 <:+: text ∧ p.2 <:+: text := by
  obtain ⟨caps, hc, h⟩ := List.mem_filterMap.mp hp
  have hall := findAll_isInfix caps hc
  rcases caps with _ | ⟨a, _ | ⟨b, _ | ⟨c, caps⟩⟩⟩
  · cases h
  · cases h
  · obtain rfl := Option.some.inj h
    exact ⟨hall a (by simp), hall b (by simp)⟩
  · cases h

lemma not_mem_strip {c : ℕ} {s : Str} (h : c ∉ s) : c ∉ strip s := by
  intro hm
  exact h ((List.dropWhile_suffix isSpace).mem ((List.rdropWhile_prefix isSpace _).mem hm))

lemma trimmedLines_line {ls : List Str} (h10 : ∀ l ∈ ls, 10 ∉ l) (w : Option Str) :
    ∀ field ∈ trimmedLines w ls, 10 ∉ field.2 := by
  induction ls generalizing w with
  | nil => cases w <;> simp [trimmedLines]
  | cons l ls ih =>
    obtain ⟨hl, h10⟩ := List.forall_mem_cons.mp h10
    cases w with
    | none =>
      cases hk : keyOf 4 l with
      | none =>
        rw [trimmedLines, hk]
        exact ih h10 none
      | some field =>
        have hrest : 10 ∉ field.2 := fun h => hl ((keyOf_rest hk).mem h)
        rw [trimmedLines, hk]
        dsimp only
        split_ifs
        · exact ih h10 (some field.1)
        · exact List.forall_mem_cons.mpr ⟨not_mem_strip hrest, ih h10 none⟩
    | some key =>
      rw [trimmedLines]
      split_ifs
      · exact ih h10 (some key)
      · exact List.forall_mem_cons.mpr ⟨not_mem_strip hl, ih h10 none⟩

lemma findPairs_trimmed_line {text : Str} {p : Str × Str} (hp : p ∈ findPairs trimmedPattern text) : 10 ∉ p.2 := by
  obtain ⟨l, ls, hl, -, h10⟩ := exists_lines text
  rw [findPairs_trimmed] at hp
  exact trimmedLines_line (hl ▸ h10) none p hp

def pending : Waiting → List Str → Waiting
  | w, [] => w
  | w, l :: ls => pending (readLine 4 l w).2 ls

def EndsInKey (key body : Str) : Prop := pending none (lines body) = some (key, none)

instance (key body : Str) : Decidable (EndsInKey key body) := inferInstanceAs (Decidable (_ = _))

def trim (field : Str × Str) : Str × Str := (field.1, strip field.2)

def bare : Waiting → List (Str × Str)
  | some (key, none) => [(key, [])]
  | _ => []

lemma readLine_key {l key rest : Str} (h : keyOf 4 l = some (key, rest)) :
    readLine 4 l none = readLine 4 rest (some (key, none)) := by
  simp [readLine, h]

lemma getLast_isSpace {l : Str} (hl : l.dropWhile isSpace = []) {last : Option ℕ}
    (h : ∀ c ∈ last, isSpace c = true) :
    ∀ c ∈ l.getLast?.or last, isSpace c = true := by
  intro c hc
  cases hlast : l.getLast? with
  | none =>
    rw [hlast] at hc
    exact h c hc
  | some d =>
    rw [hlast] at hc
    obtain rfl := Option.some.inj hc
    exact dropWhile_eq_nil hl d (List.mem_of_getLast? hlast)

lemma trimmedLines_eq (ls : List Str) (w : Waiting) (hw : ∀ f ∈ w, ∀ c ∈ f.2, isSpace c = true) :
    trimmedLines (w.map Prod.fst) ls = (readLines 4 w ls).map trim ++ bare (pending w ls) := by
  have hwait (l key : Str) (ls : List Str) (last : Option ℕ) (hlast : ∀ c ∈ last, isSpace c = true)
      (ih : ∀ w : Waiting, (∀ f ∈ w, ∀ c ∈ f.2, isSpace c = true) →
        trimmedLines (w.map Prod.fst) ls = (readLines 4 w ls).map trim ++ bare (pending w ls)) :
      trimmedLines (some key) (l :: ls) = (readLines 4 (some (key, last)) (l :: ls)).map trim ++
        bare (pending (some (key, last)) (l :: ls)) := by
    cases hd : l.dropWhile isSpace with
    | nil =>
      have hread : (readLine 4 l (some (key, last))).2 = some (key, l.getLast?.or last) := by
        simp [readLine, awaitValue, hd]
      rw [trimmedLines, if_pos (strip_eq_nil.mpr hd), readLines_blank hd, pending, hread]
      refine ih (some (key, l.getLast?.or last)) ?_
      rintro f ⟨⟩
      exact getLast_isSpace hd hlast
    | cons c v =>
      have hread : (readLine 4 l (some (key, last))).2 = none := by
        simp [readLine, awaitValue, hd]
      have hne : strip l ≠ [] := by
        rw [Ne, strip_eq_nil, hd]
        exact List.cons_ne_nil c v
      have hstrip : strip l = strip (c :: v) := by rw [← hd, strip_dropWhile]
      rw [trimmedLines, if_neg hne, readLines_value hd, pending, hread, List.map_cons,
        List.cons_append, trim, hstrip]
      congr 1
      exact ih none (by simp)
  induction ls generalizing w with
  | nil =>
    obtain _ | ⟨key, _ | c⟩ := w
    · rfl
    · rfl
    · have hc : isSpace c = true := hw (key, some c) rfl c rfl
      simp [trimmedLines, readLines, readEnd, pending, bare, trim, strip, hc]
  | cons l ls ih =>
    obtain _ | ⟨key, last⟩ := w
    · cases hk : keyOf 4 l with
      | none =>
        have hread : (readLine 4 l none).2 = none := by rw [readLine, hk]
        rw [Option.map_none, trimmedLines, hk, readLines_other hk, pending, hread]
        exact ih none (by simp)
      | some field =>
        obtain ⟨key, rest⟩ := field
        have hline : trimmedLines none (l :: ls) = trimmedLines (some key) (rest :: ls) := by
          rw [trimmedLines, hk, trimmedLines]
        have hpending : pending none (l :: ls) = pending (some (key, none)) (rest :: ls) := by
          rw [pending, pending, readLine_key hk]
        rw [Option.map_none, hline, readLines_key hk, hpending]
        exact hwait rest key ls none (by simp) ih
    · exact hwait l key ls last (hw (key, last) rfl) ih

lemma valuesOf_trim (key : Str) (fields : List (Str × Str)) :
    valuesOf key (fields.map trim) = (valuesOf key fields).map strip := by
  induction fields with
  | nil => rfl
  | cons field fields ih =>
    rw [List.map_cons, valuesOf_cons, valuesOf_cons, ih, List.map_append]
    by_cases h : field.1 = key <;> simp [trim, h]

lemma lastOf_trimmed {body key raw : Str} (h : valuesOf key (findPairs (fieldPattern 4) body) = [raw]) :
    lastOf key (findPairs trimmedPattern body) = some (if EndsInKey key body then [] else strip raw) := by
  have heq : trimmedLines none (lines body) = _ := trimmedLines_eq (lines body) none (by simp)
  rw [findPairs_field] at h
  rw [lastOf, findPairs_trimmed, heq, valuesOf_append, valuesOf_trim, h]
  split_ifs with hk
  · rw [EndsInKey] at hk
    rw [hk, bare, valuesOf_cons, if_pos rfl]
    simp
  · have hbare : valuesOf key (bare (pending none (lines body))) = [] := by
      generalize hp : pending none (lines body) = w
      obtain _ | ⟨k, _ | c⟩ := w
      · rfl
      · have hne : k ≠ key := by
          rintro rfl
          exact hk hp
        simp [bare, valuesOf_cons, hne]
      · rfl
    rw [hbare]
    rfl

end Graft64.Runtime.DepsLock
