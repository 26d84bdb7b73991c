import Graft64.Library.FileSystem
import Mathlib.Data.List.Infix

/-! Paths that need not exist, and the changes programs make to a tree of directories. -/

namespace Graft64.Library.FileSystem

open Unpack

variable {fs : FileSystem}

lemma get_eq_some_iff {p : Path} (hp : p ≠ []) {e : Entry} : fs.get p = some e ↔ (p, e) ∈ fs.entries := by
  rw [get, if_neg hp, List.lookup_eq_some_iff]
  constructor
  · rintro ⟨front, back, h, -⟩
    simp [h]
  · intro h
    obtain ⟨front, back, h⟩ := List.append_of_mem h
    refine ⟨front, back, h, ?_⟩
    have hn := fs.nodup
    rw [h, List.map_append, List.map_cons, List.nodup_append] at hn
    intro q hq
    simpa using (hn.2.2 q.1 (List.mem_map_of_mem hq) p (by simp)).symm

lemma isDir_iff {p : Path} : fs.isDir p = true ↔ fs.get p = some .dir := by
  unfold isDir
  split <;> simp_all

@[simp] lemma get_nil : fs.get [] = some .dir := rfl

lemma get_names {p : Path} {e : Entry} (h : fs.get p = some e) : ∀ n ∈ p, IsName n := by
  by_cases hp : p = []
  · simp [hp]
  · exact (fs.names p (List.mem_map.mpr ⟨_, (get_eq_some_iff hp).mp h, rfl⟩)).2

lemma isDir_of_get {p : Path} {n : Bytes} {e : Entry} (h : fs.get (p ++ [n]) = some e) : fs.isDir p = true := by
  rw [isDir_iff]
  have hm := (get_eq_some_iff (by simp)).mp h
  rcases fs.parents (p ++ [n]) (List.mem_map.mpr ⟨_, hm, rfl⟩) with hp | ⟨⟨q, e'⟩, hq, he, hd⟩
  · rw [List.dropLast_concat] at hp
    rw [hp, get_nil]
  · rw [List.dropLast_concat] at he
    obtain rfl : q = p := he
    by_cases hq' : q = []
    · rw [hq', get_nil]
    · cases e' with
      | dir => exact (get_eq_some_iff hq').mpr hq
      | file | link | other => cases hd

lemma get_append_eq_none {p : Path} {n : Bytes} (h : fs.isDir p = false) : fs.get (p ++ [n]) = none := by
  rw [Option.eq_none_iff_forall_ne_some]
  intro e he
  rw [isDir_of_get he] at h
  cases h

lemma walk_isSome {kernel : Bool} {steps : ℕ} {p q : Path} {names : List Bytes} (hp : (fs.get p).isSome = true)
    (h : fs.walk kernel steps p names = some q) : (fs.get q).isSome = true := by
  have hup {p : Path} (hp : (fs.get p).isSome = true) : (fs.get p.dropLast).isSome = true := by
    by_cases hne : p = []
    · rw [hne]
      rfl
    · obtain ⟨e, he⟩ := Option.isSome_iff_exists.mp hp
      rw [← List.dropLast_append_getLast hne] at he
      rw [isDir_iff.mp (isDir_of_get he)]
      rfl
  fun_induction walk fs kernel steps p names with
  | case1 =>
    obtain rfl := Option.some.inj h
    exact hp
  | case2 | case3 | case5 | case7 | case8 => cases h
  | case4 _ _ _ _ _ _ ih => exact ih hp h
  | case6 _ _ _ _ _ ih => exact ih (hup hp) h
  | case9 steps p name rest _ _ target hget ht ih =>
    refine ih ?_ h
    split_ifs
    · rfl
    · exact hp
  | case10 steps p name rest _ _ e _ hget ih => exact ih (by simp [hget]) h

lemma children_eq_nil_iff {p : Path} : fs.children p = [] ↔ ∀ n, fs.get (p ++ [n]) = none := by
  rw [List.eq_nil_iff_forall_not_mem]
  constructor
  · intro h n
    rw [Option.eq_none_iff_forall_ne_some]
    intro e he
    exact h (n, e) (mem_children.mpr ((get_eq_some_iff (by simp)).mp he))
  · rintro h ⟨n, e⟩ hm
    have he := (get_eq_some_iff (by simp)).mpr (mem_children.mp hm)
    rw [h n] at he
    cases he

def others (fs : FileSystem) (p : Path) : List (Path × Entry) := fs.entries.filter fun f => f.1 ≠ p

lemma mem_others {p : Path} {f : Path × Entry} : f ∈ fs.others p ↔ f ∈ fs.entries ∧ f.1 ≠ p := by
  simp [others]

lemma others_nodup {p : Path} {e : Entry} : (((p, e) :: fs.others p).map Prod.fst).Nodup := by
  rw [List.map_cons, List.nodup_cons]
  refine ⟨?_, fs.nodup.sublist (List.filter_sublist.map _)⟩
  intro hm
  obtain ⟨f, hf, he⟩ := List.mem_map.mp hm
  exact (mem_others.mp hf).2 he

lemma others_names {p : Path} {n : Bytes} {e : Entry} (hn : IsName n) (hp : fs.isDir p = true) :
    ∀ q ∈ ((p ++ [n], e) :: fs.others (p ++ [n])).map Prod.fst, q ≠ [] ∧ ∀ m ∈ q, IsName m := by
  intro q hq
  rcases List.mem_cons.mp hq with rfl | hq
  · refine ⟨by simp, ?_⟩
    intro m hm
    rcases List.mem_append.mp hm with hm | hm
    · exact get_names (isDir_iff.mp hp) m hm
    · rw [List.mem_singleton.mp hm]
      exact hn
  · exact fs.names q ((List.filter_sublist.map _).subset hq)

lemma others_parents {p : Path} {n : Bytes} {e : Entry} (hp : fs.isDir p = true)
    (hd : fs.isDir (p ++ [n]) = false) :
    ∀ q ∈ ((p ++ [n], e) :: fs.others (p ++ [n])).map Prod.fst, q.dropLast = [] ∨
      ∃ f ∈ (p ++ [n], e) :: fs.others (p ++ [n]), f.1 = q.dropLast ∧
        (match f.2 with | .dir => true | _ => false) = true := by
  have hkeep {q : Path} (hq : fs.isDir q = true) : q = [] ∨
      ∃ f ∈ (p ++ [n], e) :: fs.others (p ++ [n]), f.1 = q ∧
        (match f.2 with | .dir => true | _ => false) = true := by
    by_cases hq' : q = []
    · exact .inl hq'
    · refine .inr ⟨(q, .dir), List.mem_cons_of_mem _ (mem_others.mpr ⟨?_, ?_⟩), rfl, rfl⟩
      · exact (get_eq_some_iff hq').mp (isDir_iff.mp hq)
      · rintro rfl
        rw [hd] at hq
        cases hq
  intro q hq
  rcases List.mem_cons.mp hq with rfl | hq
  · rw [List.dropLast_concat]
    exact hkeep hp
  · obtain ⟨⟨q, f⟩, hf, rfl⟩ := List.mem_map.mp hq
    have hq' : q ≠ [] := (fs.names q ((List.filter_sublist.map _).subset hq)).1
    have hget := (get_eq_some_iff hq').mpr (mem_others.mp hf).1
    rw [← List.dropLast_append_getLast hq'] at hget
    exact hkeep (isDir_of_get hget)

/-- A new entry of a directory, or another one in place of what is no directory itself. -/
def put (fs : FileSystem) (p : Path) (n : Bytes) (e : Entry) : Option FileSystem :=
  if h : IsName n ∧ fs.isDir p = true ∧ fs.isDir (p ++ [n]) = false then
    some ⟨_, others_nodup, others_names h.1 h.2.1, others_parents (e := e) h.2.1 h.2.2⟩
  else none

lemma get_put {fs' : FileSystem} {p : Path} {n : Bytes} {e : Entry} (h : fs.put p n e = some fs') (q : Path) :
    fs'.get q = if q = p ++ [n] then some e else fs.get q := by
  unfold put at h
  split_ifs at h
  obtain rfl := Option.some.inj h
  by_cases hq : q = []
  · rw [if_neg (by simp [hq]), hq, get_nil, get_nil]
  · split_ifs with he
    · rw [get_eq_some_iff hq, he]
      exact List.mem_cons_self
    · rw [Option.ext_iff]
      intro f
      rw [get_eq_some_iff hq, get_eq_some_iff hq, List.mem_cons, mem_others]
      simp [he]

lemma put_isSome {p : Path} {n : Bytes} {e : Entry} (hn : IsName n) (hp : fs.isDir p = true)
    (hd : fs.isDir (p ++ [n]) = false) : ∃ fs', fs.put p n e = some fs' :=
  ⟨_, dif_pos ⟨hn, hp, hd⟩⟩

def removeTree (fs : FileSystem) (p : Path) : FileSystem where
  entries := fs.entries.filter fun f => ¬p <+: f.1
  nodup := fs.nodup.sublist (List.filter_sublist.map _)
  names q hq := fs.names q ((List.filter_sublist.map _).subset hq)
  parents q hq := by
    obtain ⟨⟨q, e⟩, hm, rfl⟩ := List.mem_map.mp hq
    rw [List.mem_filter] at hm
    rcases fs.parents q (List.mem_map.mpr ⟨_, hm.1, rfl⟩) with h | ⟨f, hf, he, hd⟩
    · exact .inl h
    · refine .inr ⟨f, List.mem_filter.mpr ⟨hf, ?_⟩, he, hd⟩
      rw [decide_eq_true_eq] at hm ⊢
      rw [he]
      intro hp
      exact hm.2 (hp.trans (List.dropLast_prefix q))

lemma get_removeTree {p q : Path} (h : ¬p <+: q) : (fs.removeTree p).get q = fs.get q := by
  by_cases hq : q = []
  · rw [hq, get_nil, get_nil]
  · rw [Option.ext_iff]
    intro e
    rw [get_eq_some_iff hq, get_eq_some_iff hq, removeTree, List.mem_filter]
    simp [h]

/-- Where the names lead when what is missing counts as a directory. -/
def walkMissing (fs : FileSystem) : ℕ → Path → List Bytes → Option Path
  | _, p, [] => some p
  | 0, _, _ :: _ => none
  | steps + 1, p, name :: rest =>
    if name = [] ∨ name = dot then walkMissing fs steps p rest
    else if name = dotdot then walkMissing fs steps p.dropLast rest
    else match fs.get (p ++ [name]) with
      | some (.link target) =>
        walkMissing fs steps (if target.head? = some 47 then [] else p) (components target ++ rest)
      | _ => walkMissing fs steps (p ++ [name]) rest

/-- `Path.resolve()` -/
def realpath (fs : FileSystem) (steps : ℕ) (p : List Bytes) : Option Path := fs.walkMissing steps [] p

/-- `Path.is_symlink`, where links on the way are followed. -/
def isSymlink (fs : FileSystem) (steps : ℕ) (p : List Bytes) : Bool :=
  match p.getLast? with
  | none => false
  | some name => name != dotdot && match fs.walk true steps [] p.dropLast with
    | none => false
    | some q => fs.isLink (q ++ [name])

def mkdirs (fs : FileSystem) (p : Path) : List Bytes → FileSystem × Bool
  | [] => (fs, true)
  | name :: rest => match fs.get (p ++ [name]) with
    | some .dir => fs.mkdirs (p ++ [name]) rest
    | some _ => (fs, false)
    | none => match fs.put p name .dir with
      | none => (fs, false)
      | some fs' => fs'.mkdirs (p ++ [name]) rest

/-- `Path.mkdir(parents=True, exist_ok=True)`; a name that no entry can have is refused at once. -/
def makeDirectory (fs : FileSystem) (p : Path) : FileSystem × Bool :=
  if ∀ n ∈ p, IsName n then fs.mkdirs [] p else (fs, false)

def Grows (fs fs' : FileSystem) : Prop :=
  ∀ q, fs'.get q = fs.get q ∨ fs.get q = none ∧ fs'.isLink q = false

lemma isLink_eq_false_iff {p : Path} : fs.isLink p = false ↔ ∀ t, fs.get p ≠ some (.link t) := by
  unfold isLink
  split <;> simp_all

lemma Grows.walkMissing {fs' : FileSystem} (h : Grows fs fs') (steps : ℕ) (p : Path) (names : List Bytes) :
    fs'.walkMissing steps p names = fs.walkMissing steps p names := by
  induction steps generalizing p names with
  | zero => cases names <;> rfl
  | succ steps ih =>
    cases names with
    | nil => rfl
    | cons name rest =>
      simp only [FileSystem.walkMissing, ih]
      rcases h (p ++ [name]) with he | ⟨hn, hl⟩
      · rw [he]
      · rw [hn]
        split_ifs
        · rfl
        · rfl
        · split
          · rename_i target ht
            exact absurd ht (isLink_eq_false_iff.mp hl target)
          · rfl

lemma isDir_of_append {p q : Path} (h : fs.isDir (p ++ q) = true) : fs.isDir p = true := by
  induction q using List.reverseRecOn with
  | nil => simpa using h
  | append_singleton q n ih =>
    rw [← List.append_assoc] at h
    exact ih (isDir_of_get (isDir_iff.mp h))

lemma walk_of_isDir {kernel : Bool} {steps : ℕ} {p q : Path} {names : List Bytes}
    (h : fs.isDir (p ++ names) = true)
    (hw : fs.walk kernel steps p names = some q) : q = p ++ names := by
  induction names generalizing p steps with
  | nil =>
    have hq : fs.walk kernel steps p [] = some p := by cases steps <;> rfl
    rw [List.append_nil]
    exact Option.some.inj (hw.symm.trans hq)
  | cons name rest ih =>
    obtain ⟨hne, hdot, hdotdot, -⟩ := get_names (isDir_iff.mp h) name (by simp)
    rw [List.append_cons] at h ⊢
    cases steps with
    | zero => cases hw
    | succ steps =>
      rw [walk, if_neg (by simp [hne, hdot]), if_neg hdotdot, isDir_iff.mp (isDir_of_append h)] at hw
      exact ih h hw

lemma mkdirs_of_isDir {p : Path} {names : List Bytes} (h : fs.isDir (p ++ names) = true) :
    fs.mkdirs p names = (fs, true) := by
  induction names generalizing p with
  | nil => rfl
  | cons name rest ih =>
    rw [List.append_cons] at h
    rw [mkdirs, isDir_iff.mp (isDir_of_append h)]
    exact ih h

lemma get_mkdirs {fs' : FileSystem} {b : Bool} {p : Path} {names : List Bytes}
    (h : fs.mkdirs p names = (fs', b)) (q : Path) :
    fs'.get q = fs.get q ∨ fs.get q = none ∧ fs'.get q = some .dir ∧ q <+: p ++ names := by
  induction names generalizing fs p with
  | nil =>
    obtain rfl := (Prod.mk.inj h).1
    exact .inl rfl
  | cons name rest ih =>
    rw [List.append_cons]
    rw [mkdirs] at h
    split at h
    · exact ih h
    · obtain rfl := (Prod.mk.inj h).1
      exact .inl rfl
    · rename_i hnone
      split at h
      · obtain rfl := (Prod.mk.inj h).1
        exact .inl rfl
      · rename_i fs₁ hput
        have hget := get_put hput q
        by_cases hq : q = p ++ [name]
        · rw [if_pos hq] at hget
          refine .inr ⟨hq ▸ hnone, ?_, hq ▸ List.prefix_append _ _⟩
          rcases ih h with he | ⟨hn, -⟩
          · rw [he, hget]
          · rw [hget] at hn
            cases hn
        · rw [if_neg hq] at hget
          rw [← hget]
          exact ih h

lemma isDir_mkdirs {fs' : FileSystem} {p : Path} {names : List Bytes} (hp : fs.isDir p = true)
    (h : fs.mkdirs p names = (fs', true)) : fs'.isDir (p ++ names) = true := by
  induction names generalizing fs p with
  | nil =>
    obtain rfl := (Prod.mk.inj h).1
    rwa [List.append_nil]
  | cons name rest ih =>
    rw [List.append_cons]
    rw [mkdirs] at h
    split at h
    · rename_i hd
      exact ih (isDir_iff.mpr hd) h
    · cases h
    · split at h
      · cases h
      · rename_i fs₁ hput
        refine ih (isDir_iff.mpr ?_) h
        rw [get_put hput, if_pos rfl]

lemma mkdirs_of_children_eq_nil {p : Path} {names : List Bytes} (hn : ∀ n ∈ names, IsName n)
    (hp : fs.isDir p = true) (hc : ∀ n, fs.get (p ++ [n]) = none) : ∃ fs', fs.mkdirs p names = (fs', true) := by
  induction names generalizing fs p with
  | nil => exact ⟨fs, rfl⟩
  | cons name rest ih =>
    have hd : fs.isDir (p ++ [name]) = false := by simp [isDir, hc]
    obtain ⟨fs₁, hput⟩ := put_isSome (hn name List.mem_cons_self) hp hd (e := .dir)
    rw [mkdirs, hc]
    simp only [hput]
    refine ih (fun n hm => hn n (List.mem_cons_of_mem _ hm)) (isDir_iff.mpr ?_) ?_
    · rw [get_put hput, if_pos rfl]
    · intro n
      rw [get_put hput, if_neg (by simp)]
      exact get_append_eq_none hd

lemma mkdirs_false {fs' : FileSystem} {p : Path} {names : List Bytes} (hn : ∀ n ∈ names, IsName n)
    (hp : fs.isDir p = true) (h : fs.mkdirs p names = (fs', false)) : fs' = fs := by
  induction names generalizing p with
  | nil => cases h
  | cons name rest ih =>
    have hrest : ∀ n ∈ rest, IsName n := fun n hm => hn n (List.mem_cons_of_mem _ hm)
    rw [mkdirs] at h
    split at h
    · rename_i hd
      exact ih hrest (isDir_iff.mpr hd) h
    · exact (Prod.mk.inj h).1.symm
    · rename_i hnone
      split at h
      · exact (Prod.mk.inj h).1.symm
      · rename_i fs₁ hput
        have hd : fs.isDir (p ++ [name]) = false := by simp [isDir, hnone]
        obtain ⟨fs₂, hnew⟩ : ∃ fs₂, fs₁.mkdirs (p ++ [name]) rest = (fs₂, true) := by
          refine mkdirs_of_children_eq_nil hrest (isDir_iff.mpr ?_) ?_
          · rw [get_put hput, if_pos rfl]
          · intro n
            rw [get_put hput, if_neg (by simp)]
            exact get_append_eq_none hd
        rw [hnew] at h
        cases h

lemma makeDirectory_of_isDir {p : Path} (h : fs.isDir p = true) : fs.makeDirectory p = (fs, true) := by
  rw [makeDirectory, if_pos (get_names (isDir_iff.mp h))]
  exact mkdirs_of_isDir h

lemma makeDirectory_false {fs' : FileSystem} {p : Path} (h : fs.makeDirectory p = (fs', false)) : fs' = fs := by
  unfold makeDirectory at h
  split_ifs at h with hn
  · exact mkdirs_false hn (isDir_iff.mpr get_nil) h
  · exact (Prod.mk.inj h).1.symm

lemma makeDirectory_true {fs' : FileSystem} {p : Path} (h : fs.makeDirectory p = (fs', true)) :
    fs'.isDir p = true ∧
      ∀ q, fs'.get q = fs.get q ∨ fs.get q = none ∧ fs'.get q = some .dir ∧ q <+: p := by
  unfold makeDirectory at h
  split_ifs at h with hn
  · exact ⟨isDir_mkdirs (isDir_iff.mpr get_nil) h, get_mkdirs h⟩
  · cases h

lemma walk_of_not_isDir {steps : ℕ} {p : Path} (hp : fs.isDir p = false) (name : Bytes) (rest : List Bytes) :
    fs.walk true steps p (name :: rest) = none := by
  cases steps with
  | zero => rfl
  | succ steps => simp [walk, hp, get_append_eq_none hp]

lemma walk_put_file {fs' : FileSystem} {p : Path} {n : Bytes} {content : File} {x : Bool}
    (hput : fs.put p n (.file content x) = some fs') (hnew : fs.get (p ++ [n]) = none) (steps : ℕ) (q : Path)
    (names : List Bytes) (hq : q ≠ p ++ [n]) :
    fs'.walk true steps q names = fs.walk true steps q names ∨
      fs.walk true steps q names = none ∧ fs'.walk true steps q names = some (p ++ [n]) := by
  have hget {r : Path} (hr : r ≠ p ++ [n]) : fs'.get r = fs.get r := by rw [get_put hput, if_neg hr]
  have hfile : fs'.get (p ++ [n]) = some (.file content x) := by rw [get_put hput, if_pos rfl]
  induction steps generalizing q names with
  | zero => cases names <;> exact .inl rfl
  | succ steps ih =>
    cases names with
    | nil => exact .inl rfl
    | cons name rest =>
      have hdir : fs'.isDir q = fs.isDir q := by rw [isDir, isDir, hget hq]
      cases hd : fs.isDir q with
      | false =>
        rw [walk_of_not_isDir hd, walk_of_not_isDir (hdir.trans hd)]
        exact .inl rfl
      | true =>
        simp only [walk, hdir, hd, Bool.not_true, Bool.and_false, Bool.false_eq_true, if_false]
        split_ifs
        · exact ih q rest hq
        · refine ih _ rest ?_
          intro he
          -- a directory is in a directory, and the new file's place is none
          rw [← he] at hnew
          by_cases hq' : q = []
          · rw [hq'] at he
            exact absurd he (by simp)
          · rw [← List.dropLast_append_getLast hq'] at hd
            have hparent := isDir_of_append hd
            rw [isDir_iff, hnew] at hparent
            cases hparent
        · by_cases hm : q ++ [name] = p ++ [n]
          · rw [hm, hnew, hfile]
            cases rest with
            | nil => exact .inr ⟨rfl, by cases steps <;> rfl⟩
            | cons m rest =>
              refine .inl (walk_of_not_isDir ?_ m rest)
              simp [isDir, hfile]
          · rw [hget hm]
            split
            · exact .inl rfl
            · split_ifs
              · exact .inl rfl
              · exact ih _ _ (by simp)
              · exact ih _ _ hq
            · exact ih _ _ hm

lemma isSymlink_put_file {fs' : FileSystem} {p : Path} {n : Bytes} {content : File} {x : Bool}
    (hput : fs.put p n (.file content x) = some fs') (hnew : fs.get (p ++ [n]) = none) (steps : ℕ)
    (path : List Bytes) : fs'.isSymlink steps path = fs.isSymlink steps path := by
  have hfile : fs'.get (p ++ [n]) = some (.file content x) := by rw [get_put hput, if_pos rfl]
  have hlink (q : Path) : fs'.isLink q = fs.isLink q := by
    by_cases hq : q = p ++ [n]
    · simp [isLink, hq, hfile, hnew]
    · rw [isLink, isLink, get_put hput, if_neg hq]
  unfold isSymlink
  split
  · rfl
  · rename_i name _
    rcases walk_put_file hput hnew steps [] path.dropLast (by simp) with he | ⟨hn, he⟩
    · rw [he]
      simp only [hlink]
    · have hbelow : fs'.get (p ++ [n] ++ [name]) = none := get_append_eq_none (by simp [isDir, hfile])
      rw [hn, he]
      simp only [isLink, hbelow]

end Graft64.Library.FileSystem
