import Graft64.Runtime.DepsLock

/-! The lines that `parse_lock` takes the fields of a block from. -/

namespace Graft64.Runtime.DepsLock

open Graft64.Library Regex

def keyOf (indent : ℕ) (l : Str) : Option (Str × Str) :=
  if List.replicate indent 32 <+: l then
    match (l.drop indent).takeWhile isWord, (l.drop indent).dropWhile isWord with
    | _ :: _, 58 :: rest => some ((l.drop indent).takeWhile isWord, rest)
    | _, _ => none
  else none

/-- A key whose value has not come yet, and the last character of the white space after its colon that
is not a line break. -/
abbrev Waiting := Option (Str × Option ℕ)

/-- White space after the colon, line breaks included, is passed over. -/
def awaitValue (key : Str) (last : Option ℕ) (l : Str) : List (Str × Str) × Waiting :=
  match l.dropWhile isSpace with
  | [] => ([], some (key, l.getLast?.or last))
  | value => ([(key, value)], none)

def readLine (indent : ℕ) (l : Str) : Waiting → List (Str × Str) × Waiting
  | some (key, last) => awaitValue key last l
  | none => match keyOf indent l with
    | none => ([], none)
    | some (key, rest) => awaitValue key none rest

/-- At the end of the text the last blank is given back and is the value. -/
def readEnd : Waiting → List (Str × Str)
  | some (key, some c) => [(key, [c])]
  | _ => []

def readLines (indent : ℕ) : Waiting → List Str → List (Str × Str)
  | w, [] => readEnd w
  | w, l :: ls => (readLine indent l w).1 ++ readLines indent (readLine indent l w).2 ls

section

variable {indent : ℕ}

lemma prefix_of_append {s l t : Str} (ht : ∀ c ∈ t.head?, c ∉ s) (h : s <+: l ++ t) : s <+: l := by
  induction s generalizing l with
  | nil => exact List.nil_prefix
  | cons c s ih => cases l with
    | nil =>
      obtain ⟨u, rfl⟩ := h
      exact absurd List.mem_cons_self (ht c rfl)
    | cons d l =>
      obtain ⟨rfl, hs⟩ := List.cons_prefix_cons.mp h
      exact List.cons_prefix_cons.mpr ⟨rfl, ih (fun c hc hm => ht c hc (List.mem_cons_of_mem _ hm)) hs⟩

def found (c : Cursor) (caps : List Str) : Option Match := some (c, caps)

/-- `([^\n]+)$` -/
def restOfLine : Regex := .seqs [.group (.plus inLine), .endOfLine]

lemma inLine_iff {c : ℕ} : inLine c = true ↔ c ≠ 10 := bne_iff_ne

lemma restOfLine_run {b : Bool} {w t : Str} (hn : w ≠ []) (hw : 10 ∉ w) (ht : ∀ c ∈ t.head?, c = 10)
    (caps : List Str) : restOfLine.run found ⟨b, w ++ t⟩ caps = some (⟨false, t⟩, caps ++ [w]) := by
  have hline : ∀ c ∈ w, inLine c = true := by
    intro c hc
    rw [inLine_iff]
    rintro rfl
    exact hw hc
  have hstop : ∀ c ∈ t.head?, inLine c = false := by
    intro c hc
    rw [ht c hc]
    rfl
  have heol : t.head?.all (· == 10) = true := by
    rw [Option.all_eq_true]
    intro c hc
    exact beq_iff_eq.mpr (ht c hc)
  simp only [restOfLine, seqs, run]
  rw [run_plus_exact hn hline hstop, bolAfter_of_not_mem hn hw, if_pos heol]
  · simp [found]
  · intro b c s hc
    simp [inLine_iff.mp hc]

lemma restOfLine_none {b : Bool} {s : Str} (hs : ∀ c ∈ s.head?, inLine c = false) (caps : List Str) :
    restOfLine.run found ⟨b, s⟩ caps = none := by
  simp only [restOfLine, seqs, run]
  exact run_plus_none hs b

/-- `\s*([^\n]+)$` -/
def valuePattern : Regex := .seqs [.many isSpace, .group (.plus inLine), .endOfLine]

lemma valuePattern_run (b : Bool) (text : Str) (caps : List Str) : valuePattern.run found ⟨b, text⟩ caps =
    greedy isSpace (fun c => restOfLine.run found c caps) b text := rfl

lemma value_run {b : Bool} {u w t : Str} (hu : ∀ c ∈ u, isSpace c = true) (hn : w ≠ [])
    (hs : ∀ c ∈ w.head?, isSpace c = false) (hw : 10 ∉ w) (ht : ∀ c ∈ t.head?, c = 10) (caps : List Str) :
    valuePattern.run found ⟨b, u ++ (w ++ t)⟩ caps = some (⟨false, t⟩, caps ++ [w]) := by
  obtain ⟨c, w, rfl⟩ := List.exists_cons_of_ne_nil hn
  rw [valuePattern_run]
  apply greedy_append hu
  rw [greedy_stop (by simpa using hs)]
  exact restOfLine_run hn hw ht caps

lemma greedy_newlines (b : Bool) (n : ℕ) (caps : List Str) :
    greedy isSpace (fun c => restOfLine.run found c caps) b (List.replicate n 10) = none := by
  apply greedy_none
  intro b s hs
  apply restOfLine_none
  intro d hd
  rw [List.eq_of_mem_replicate (hs.mem (List.mem_of_mem_head? hd))]
  rfl

lemma value_run_blank {b : Bool} {u : Str} (hu : ∀ c ∈ u, isSpace c = true) {c : ℕ} (hs : isSpace c = true)
    (hc : c ≠ 10) (n : ℕ) (caps : List Str) :
    valuePattern.run found ⟨b, u ++ c :: List.replicate n 10⟩ caps =
      some (⟨false, List.replicate n 10⟩, caps ++ [[c]]) := by
  have hhead : ∀ d ∈ (List.replicate n 10).head?, d = 10 := by
    intro d hd
    exact List.eq_of_mem_replicate (List.mem_of_mem_head? hd)
  rw [valuePattern_run]
  apply greedy_append hu
  rw [greedy, if_pos hs, greedy_newlines]
  exact restOfLine_run (w := [c]) (List.cons_ne_nil _ _) (by simpa using hc.symm) hhead caps

lemma head_dropWhile_word (l : Str) : ∀ c ∈ (l.dropWhile isWord).head?, isWord c = false := by
  intro c hc
  have h := List.head?_dropWhile_not isWord l
  rw [Option.mem_def.mp hc] at h
  simpa using h

lemma head_append {p : ℕ → Bool} {s t : Str} (hs : ∀ c ∈ s.head?, p c = false) (ht : ∀ c ∈ t.head?, p c = false) :
    ∀ c ∈ (s ++ t).head?, p c = false := by
  cases s with
  | nil => exact ht
  | cons d s => exact hs

def keyPattern (indent : ℕ) (value : Regex) : Regex :=
  .seq .startOfLine (.seq (.text (List.replicate indent 32))
    (.seq (.group (.plus isWord)) (.seq (.char (· == 58)) value)))

lemma keyPattern_matchAt (indent : ℕ) (value : Regex) (l : Str) {t : Str} (ht : ∀ c ∈ t.head?, c = 10) :
    (keyPattern indent value).matchAt ⟨true, l ++ t⟩ =
      (keyOf indent l).bind fun field => value.run found ⟨false, field.2 ++ t⟩ [field.1] := by
  have hword : ∀ c ∈ t.head?, isWord c = false := by
    intro c hc
    rw [ht c hc]
    rfl
  have hrun : (keyPattern indent value).matchAt ⟨true, l ++ t⟩ =
      (text (List.replicate indent 32)).run
        (Regex.run (.seq (.group (.plus isWord)) (.seq (.char (· == 58)) value))
        found) ⟨true, l ++ t⟩ [] := rfl
  rw [hrun, keyOf]
  by_cases hp : List.replicate indent 32 <+: l
  · obtain ⟨m, rfl⟩ := hp
    rw [if_pos (List.prefix_append _ _), List.append_assoc, run_text, List.drop_left' (List.length_replicate)]
    generalize hk : m.takeWhile isWord = key, hr : m.dropWhile isWord = rest
    have hm : m = key ++ rest := by rw [← hk, ← hr, List.takeWhile_append_dropWhile]
    have hrest : ∀ c ∈ (rest ++ t).head?, isWord c = false := head_append (hr ▸ head_dropWhile_word m) hword
    rw [hm, List.append_assoc]
    simp only [run]
    cases key with
    | nil => exact run_plus_none hrest _
    | cons c key =>
      rw [run_plus_exact (List.cons_ne_nil _ _) (fun d hd => List.mem_takeWhile_imp (hk ▸ hd)) hrest]
      · cases rest with
        | nil => cases t with
          | nil => rfl
          | cons d t =>
            obtain rfl : d = 10 := ht d rfl
            rfl
        | cons d rest =>
          by_cases hd : d = 58
          · subst hd
            simp only [List.cons_append, beq_self_eq_true, if_true, Cursor.after, List.nil_append,
              Option.bind_some]
            have htake := take_group (c :: key) (58 :: (rest ++ t))
            rw [List.cons_append] at htake
            rw [htake]
            rfl
          · have hne : (d == 58) = false := beq_eq_false_iff_ne.mpr hd
            simp [hd]
      · intro b d s hd
        have hne : d ≠ 58 := by
          rintro rfl
          cases hd
        simp [hne]
  · rw [if_neg hp]
    apply run_text_none
    intro h
    apply hp
    apply prefix_of_append _ h
    intro c hc hm
    rw [ht c hc] at hm
    cases List.eq_of_mem_replicate hm

lemma field_matchAt (indent : ℕ) (l : Str) {t : Str} (ht : ∀ c ∈ t.head?, c = 10) :
    (fieldPattern indent).matchAt ⟨true, l ++ t⟩ =
      (keyOf indent l).bind fun field => valuePattern.run found ⟨false, field.2 ++ t⟩ [field.1] :=
  keyPattern_matchAt indent valuePattern l ht

lemma dropWhile_eq_nil {l : Str} (h : l.dropWhile isSpace = []) : ∀ c ∈ l, isSpace c = true :=
  List.dropWhile_eq_nil_iff.mp h

inductive Awaited (indent : ℕ) (key : Str) (last : Option ℕ) (rest : Str) (ls : List Str) : Prop
  | value (u w : Str) (ms : List Str) (text : rest ++ joined ls = u ++ (w ++ joined ms))
    (blank : ∀ c ∈ u, isSpace c = true) (ne : w ≠ []) (head : ∀ c ∈ w.head?, isSpace c = false) (line : 10 ∉ w)
    (suffix : ms <:+ ls)
    (read : readLines indent (some (key, last)) (rest :: ls) = (key, w) :: readLines indent none ms)
  | blank (u : Str) (c n : ℕ) (text : rest ++ joined ls = u ++ c :: List.replicate n 10)
    (blank : ∀ c ∈ u, isSpace c = true) (space : isSpace c = true) (line : c ≠ 10)
    (read : readLines indent (some (key, last)) (rest :: ls) = [(key, [c])])
  | nothing (n : ℕ) (text : rest ++ joined ls = List.replicate n 10)
    (read : readLines indent (some (key, last)) (rest :: ls) = readEnd (some (key, last)))

lemma readLines_value {key : Str} {last : Option ℕ} {rest : Str} {c : ℕ} {v : Str}
    (h : rest.dropWhile isSpace = c :: v) (ls : List Str) :
    readLines indent (some (key, last)) (rest :: ls) = (key, c :: v) :: readLines indent none ls := by
  simp [readLines, readLine, awaitValue, h]

lemma readLines_blank {key : Str} {last : Option ℕ} {rest : Str} (h : rest.dropWhile isSpace = [])
    (ls : List Str) :
    readLines indent (some (key, last)) (rest :: ls) =
      readLines indent (some (key, rest.getLast?.or last)) ls := by
  simp [readLines, readLine, awaitValue, h]

lemma readLines_key {l key rest : Str} (h : keyOf indent l = some (key, rest)) (ls : List Str) :
    readLines indent none (l :: ls) = readLines indent (some (key, none)) (rest :: ls) := by
  simp [readLines, readLine, h]

lemma readLines_other {l : Str} (h : keyOf indent l = none) (ls : List Str) :
    readLines indent none (l :: ls) = readLines indent none ls := by
  simp [readLines, readLine, h]

lemma awaited_value (key : Str) (last : Option ℕ) {rest : Str} {c : ℕ} {v : Str}
    (hd : rest.dropWhile isSpace = c :: v)
    (h10 : 10 ∉ rest) (ls : List Str) : Awaited indent key last rest ls := by
  have hc : isSpace c = false := by
    have h := List.head?_dropWhile_not isSpace rest
    rw [hd] at h
    simpa using h
  have hrest : rest.takeWhile isSpace ++ c :: v = rest := hd ▸ List.takeWhile_append_dropWhile
  have hline : 10 ∉ c :: v := fun h => h10 (hrest ▸ List.mem_append_right _ h)
  apply Awaited.value (rest.takeWhile isSpace) (c :: v) ls _ (fun d hm => List.mem_takeWhile_imp hm)
    (List.cons_ne_nil _ _) (by simpa using hc) hline List.suffix_rfl (readLines_value hd ls)
  rw [← List.append_assoc, hrest]

lemma awaited_blank {key : Str} {last : Option ℕ} {rest : Str} {ls : List Str} {n : ℕ}
    (hd : rest.dropWhile isSpace = [])
    (h10 : 10 ∉ rest) (ht : joined ls = List.replicate n 10)
    (hread : readLines indent (some (key, last)) (rest :: ls) = readEnd (some (key, rest.getLast?.or last))) :
    Awaited indent key last rest ls := by
  rcases List.eq_nil_or_concat rest with rfl | ⟨u, c, rfl⟩
  · exact .nothing n ht hread
  · rw [List.concat_eq_append] at *
    have hspace := dropWhile_eq_nil hd
    apply Awaited.blank u c n _ (fun d hm => hspace d (List.mem_append_left _ hm)) (hspace c (by simp))
    · rintro rfl
      exact h10 (by simp)
    · rw [hread, List.getLast?_concat]
      rfl
    · rw [ht, List.append_assoc]
      rfl

lemma awaited (key : Str) (last : Option ℕ) {rest : Str} {ls : List Str} (h10 : ∀ l ∈ rest :: ls, 10 ∉ l) :
    Awaited indent key last rest ls := by
  induction ls generalizing rest last with
  | nil =>
    have hrest : 10 ∉ rest := h10 rest List.mem_cons_self
    cases hd : rest.dropWhile isSpace with
    | cons c v => exact awaited_value key last hd hrest []
    | nil => exact awaited_blank (n := 0) hd hrest rfl (readLines_blank hd [])
  | cons m ms ih =>
    have hrest : 10 ∉ rest := h10 rest List.mem_cons_self
    cases hd : rest.dropWhile isSpace with
    | cons c v => exact awaited_value key last hd hrest (m :: ms)
    | nil =>
      have hread : readLines indent (some (key, last)) (rest :: m :: ms) =
          readLines indent (some (key, rest.getLast?.or last)) (m :: ms) := readLines_blank hd (m :: ms)
      have hblank (u : Str) (hu : ∀ c ∈ u, isSpace c = true) : ∀ c ∈ rest ++ 10 :: u, isSpace c = true := by
        intro c hc
        rcases List.mem_append.mp hc with hc | hc
        · exact dropWhile_eq_nil hd c hc
        · rcases List.mem_cons.mp hc with rfl | hc
          · rfl
          · exact hu c hc
      cases ih (rest.getLast?.or last) fun l hl => h10 l (List.mem_cons_of_mem _ hl) with
      | value u w ks ht hu hn hw hl hs hr =>
        apply Awaited.value (rest ++ 10 :: u) w ks _ (hblank u hu) hn hw hl (hs.trans (List.suffix_cons m ms))
          (hread.trans hr)
        rw [joined_cons, ht, List.append_assoc]
        rfl
      | blank u c n ht hu hs hc hr =>
        apply Awaited.blank (rest ++ 10 :: u) c n _ (hblank u hu) hs hc (hread.trans hr)
        rw [joined_cons, ht, List.append_assoc]
        rfl
      | nothing n ht hr =>
        apply awaited_blank (n := n + 1) hd hrest _ (hread.trans hr)
        rw [joined_cons, ht]
        rfl

def toCaps (field : Str × Str) : List Str := [field.1, field.2]

lemma keyOf_rest {l key rest : Str} (h : keyOf indent l = some (key, rest)) : rest <:+ l := by
  unfold keyOf at h
  split_ifs at h with hp
  split at h
  · next d rest' _ hr =>
    obtain ⟨-, rfl⟩ := Prod.mk.inj (Option.some.inj h)
    have hdrop : 58 :: rest' <:+ l.drop indent := hr ▸ List.dropWhile_suffix isWord
    exact (List.suffix_cons 58 rest').trans (hdrop.trans (List.drop_suffix indent l))
  · cases h

lemma keyOf_nil : keyOf indent [] = none := by
  unfold keyOf
  split_ifs
  · simp
  · rfl

lemma not_isSpace_of_isWord {c : ℕ} (h : isWord c = true) : isSpace c = false := by
  simp only [isWord, isSpace, decide_eq_true_eq, decide_eq_false_iff_not] at h ⊢
  omega

lemma keyOf_blank {l : Str} (h : l.dropWhile isSpace = []) : keyOf indent l = none := by
  unfold keyOf
  split_ifs with hp
  · split
    · next c _ _ hw _ =>
      have hc : c ∈ (l.drop indent).takeWhile isWord := hw ▸ List.mem_cons_self
      have hl : c ∈ l := List.mem_of_mem_drop ((List.takeWhile_prefix isWord).mem hc)
      cases (dropWhile_eq_nil h c hl).symm.trans (not_isSpace_of_isWord (List.mem_takeWhile_imp hc))
    · rfl
  · rfl

lemma fieldPattern_anchored (indent : ℕ) : (fieldPattern indent).Anchored := anchored_seq _

lemma search_newlines (b : Bool) (n : ℕ) : searchFrom (fieldPattern indent) b (List.replicate n 10) = none := by
  have hm (b : Bool) (n : ℕ) : (fieldPattern indent).matchAt ⟨b, List.replicate n 10⟩ = none := by
    cases b with
    | false => exact fieldPattern_anchored indent _
    | true =>
      have h := field_matchAt indent [] (t := List.replicate n 10) fun c hc =>
        List.eq_of_mem_replicate (List.mem_of_mem_head? hc)
      rwa [keyOf_nil] at h
  induction n generalizing b with
  | zero => exact hm b 0
  | succ n ih =>
    rw [List.replicate_succ, searchFrom, ← List.replicate_succ, hm, ih]
    rfl

lemma findAll_lines {l : Str} {ls : List Str} (h10 : ∀ m ∈ l :: ls, 10 ∉ m) {n : ℕ} (hn : ls.length < n) :
    findAllFrom (fieldPattern indent) n ⟨true, l ++ joined ls⟩ = (readLines indent none (l :: ls)).map toCaps := by
  induction hN : ls.length using Nat.strong_induction_on generalizing l ls n with
  | _ N ih =>
  subst hN
  have hr := fieldPattern_anchored indent
  have hl : 10 ∉ l := h10 l List.mem_cons_self
  have htail : ∀ m ∈ ls, 10 ∉ m := fun m hm => h10 m (List.mem_cons_of_mem _ hm)
  obtain ⟨n, rfl⟩ : ∃ k, n = k + 1 := ⟨n - 1, by omega⟩
  have hm := field_matchAt indent l (joined_head ls)
  cases hk : keyOf indent l with
  | none =>
    rw [hk, Option.bind_none] at hm
    rw [readLines_other hk]
    cases ls with
    | nil =>
      apply findAllFrom_of_none
      rw [joined_nil, List.append_nil] at hm ⊢
      exact searchFrom_last_of_none hr hl hm
    | cons m ms =>
      rw [findAllFrom_congr ⟨true, m ++ joined ms⟩ (searchFrom_lines_of_none hr hl hm)]
      exact ih ms.length (by simp) htail (by simp at hn; omega) rfl
  | some field =>
    obtain ⟨key, rest⟩ := field
    rw [hk, Option.bind_some] at hm
    have hrest : 10 ∉ rest := fun h => hl ((keyOf_rest hk).mem h)
    rw [readLines_key hk]
    have ha : Awaited indent key none rest ls := awaited key none (List.forall_mem_cons.mpr ⟨hrest, htail⟩)
    cases ha with
    | value u w ms ht hu hn hw hline hs hread =>
      have hval := value_run (b := false) hu hn hw hline (joined_head ms) [key]
      rw [← ht] at hval
      rw [findAllFrom_of_some (hm.trans hval), hread, List.map_cons]
      congr 1
      have hle := hs.length_le
      cases ms with
      | nil => exact findAllFrom_of_none (c := ⟨false, []⟩) (hr []) n
      | cons m ms =>
        rw [List.length_cons] at hle
        rw [findAllFrom_congr ⟨true, m ++ joined ms⟩ (searchFrom_joined hr m ms)]
        exact ih ms.length (by omega) (fun k hk => htail k (hs.mem hk)) (by omega) rfl
    | blank u c k ht hu hs hc hread =>
      have hval := value_run_blank (b := false) hu hs hc k [key]
      rw [← ht] at hval
      rw [findAllFrom_of_some (hm.trans hval), hread, findAllFrom_of_none (search_newlines false k)]
      rfl
    | nothing k ht hread =>
      have hval : valuePattern.run found ⟨false, List.replicate k 10⟩ [key] = none := greedy_newlines false k [key]
      have hend : readEnd (some (key, none)) = [] := rfl
      rw [← ht] at hval
      rw [hread, hend, List.map_nil]
      have hnone := hm.trans hval
      apply findAllFrom_of_none
      cases ls with
      | nil =>
        rw [joined_nil, List.append_nil] at hnone ⊢
        exact searchFrom_last_of_none hr hl hnone
      | cons m ms =>
        have hall : ∀ c ∈ m ++ joined ms, c = 10 := by
          intro c hc
          apply List.eq_of_mem_replicate (n := k)
          rw [← ht]
          exact List.mem_append_right _ (List.mem_cons_of_mem _ hc)
        rw [searchFrom_lines_of_none hr hl hnone, List.eq_replicate_of_mem hall]
        exact search_newlines true _

lemma length_le_joined (ls : List Str) : ls.length ≤ (joined ls).length := by
  induction ls with
  | nil => exact Nat.le_refl 0
  | cons l ls ih =>
    rw [joined_cons]
    simp only [List.length_cons, List.length_append]
    omega

lemma findPairs_of_findAll {r : Regex} {text : Str} {fields : List (Str × Str)}
    (h : r.findAll text = fields.map toCaps) : findPairs r text = fields := by
  rw [findPairs, h]
  clear h
  induction fields with
  | nil => rfl
  | cons field fields ih => rw [List.map_cons, List.filterMap_cons, ih, toCaps]

lemma lines_length_lt (l : Str) (ls : List Str) : ls.length < (l ++ joined ls).length + 1 := by
  have h := length_le_joined ls
  rw [List.length_append]
  omega

theorem findPairs_field (text : Str) :
    findPairs (fieldPattern indent) text = readLines indent none (lines text) := by
  obtain ⟨l, ls, hl, rfl, h10⟩ := exists_lines text
  apply findPairs_of_findAll
  rw [hl, findAll, findAll_lines h10 (lines_length_lt l ls)]

end

end Graft64.Runtime.DepsLock
