import Graft64.Library.Directories
import Graft64.Library.Utf8

/-! Files written through their paths. -/

namespace Graft64.Library.FileSystem

open Unpack

/-- The directory and the name of the file that `open` truncates or makes. -/
def openPath (fs : FileSystem) : ℕ → Path → List Bytes → Option (Path × Bytes)
  | 0, _, _ => none
  | _, _, [] => none
  | steps + 1, p, name :: rest =>
    if name = [] ∨ name = dot then if fs.isDir p then openPath fs steps p rest else none
    else if name = dotdot then if fs.isDir p then openPath fs steps p.dropLast rest else none
    else match fs.get (p ++ [name]) with
      | some .dir => openPath fs steps (p ++ [name]) rest
      | some (.link target) =>
        if target = [] then none
        else openPath fs steps (if target.head? = some 47 then [] else p) (components target ++ rest)
      | some .other => none
      | some (.file _ _) | none => if rest = [] then some (p, name) else none

def executable (fs : FileSystem) (p : Path) : Bool :=
  match fs.get p with
  | some (.file _ x) => x
  | _ => false

def located (place : Path × Bytes) : Path := place.1 ++ [place.2]

def store (fs : FileSystem) (place : Path × Bytes) (content : File) : Option FileSystem :=
  fs.put place.1 place.2 (.file content (fs.executable (located place)))

def emptyFile : File := ⟨[], by decide⟩

inductive WriteError
  | os
  | unicode

/-- `Path.write_text(text, encoding="utf-8")`: the file is truncated before the text is encoded. -/
def writeText (steps : ℕ) (p : List Bytes) (text : Str) (fs : FileSystem) : FileSystem × Except WriteError Unit :=
  match (fs.openPath steps [] p).bind fun place => (fs.store place emptyFile).map fun opened =>
    (place, opened) with
  | none => (fs, .error .os)
  | some (place, opened) => match Utf8.encode text with
    | none => (opened, .error .unicode)
    | some bytes =>
      if h : bytes.length < 2 ^ 63 then
        match fs.store place ⟨bytes, h⟩ with
        | none => (opened, .error .os)
        | some fs' => (fs', .ok ())
      else (opened, .error .os)

variable {fs fs' : FileSystem} {place : Path × Bytes} {content : File}

lemma get_store (h : fs.store place content = some fs') (q : Path) :
    fs'.get q = if q = located place then some (.file content (fs.executable (located place))) else fs.get q :=
  get_put h q

lemma openPath_cases {steps : ℕ} {p : Path} {names : List Bytes} (h : fs.openPath steps p names = some place) :
    fs.get (located place) = none ∨ ∃ f x, fs.get (located place) = some (.file f x) := by
  fun_induction openPath fs steps p names with
  | case1 | case2 | case4 | case6 | case8 | case10 | case12 | case14 => cases h
  | case3 _ _ _ _ _ _ ih | case5 _ _ _ _ _ ih | case7 _ _ _ _ _ _ _ ih | case9 _ _ _ _ _ _ _ _ _ ih => exact ih h
  | case11 _ _ _ _ _ f x hget =>
    obtain rfl := Option.some.inj h
    exact .inr ⟨f, x, hget⟩
  | case13 _ _ _ _ _ hget =>
    obtain rfl := Option.some.inj h
    exact .inl hget

lemma walk_openPath {steps : ℕ} {p : Path} {names : List Bytes} (h : fs.openPath steps p names = some place)
    (hs : fs.store place content = some fs') : fs'.walk true steps p names = some (located place) := by
  have hfile : ∃ x, fs'.get (located place) = some (.file content x) := ⟨_, by rw [get_store hs, if_pos rfl]⟩
  have hcases := openPath_cases h
  have hother {q : Path} (hq : q ≠ located place) : fs'.get q = fs.get q := by rw [get_store hs, if_neg hq]
  have hdir {q : Path} (hq : fs.isDir q = true) : fs'.isDir q = true := by
    rw [isDir_iff] at hq ⊢
    rw [hother, hq]
    rintro rfl
    rcases hcases with he | ⟨f, x, he⟩ <;> rw [he] at hq <;> cases hq
  obtain ⟨x, hfile⟩ := hfile
  fun_induction openPath fs steps p names with
  | case1 | case2 | case4 | case6 | case8 | case10 | case12 | case14 => cases h
  | case3 steps p name rest hn hd ih =>
    rw [walk, if_pos hn, hdir hd]
    exact ih h
  | case5 steps p rest hd hn ih =>
    rw [walk, if_neg hn, if_pos rfl, hdir hd]
    exact ih h
  | case7 steps p name rest hn hn' hget ih =>
    have hother : fs'.get (p ++ [name]) = some .dir := isDir_iff.mp (hdir (isDir_iff.mpr hget))
    rw [walk, if_neg hn, if_neg hn', hother]
    exact ih h
  | case9 steps p name rest hn hn' target hget ht ih =>
    have hlink : fs'.get (p ++ [name]) = some (.link target) := by
      rw [hother, hget]
      rintro he
      rw [he] at hget
      rcases hcases with he | ⟨f, x, he⟩ <;> rw [he] at hget <;> cases hget
    rw [walk, if_neg hn, if_neg hn', hlink]
    simp only [if_neg ht]
    exact ih h
  | case11 steps p name hn hn' f x' hget | case13 steps p name hn hn' hget =>
    obtain rfl := Option.some.inj h
    rw [located] at hfile
    rw [walk, if_neg hn, if_neg hn', hfile]
    cases steps <;> rfl

lemma readBytes_store {steps : ℕ} {p : Path} (h : fs.openPath steps [] p = some place)
    (hs : fs.store place content = some fs') : fs'.readBytes steps p = some content.bytes := by
  rw [readBytes, stat, walk_openPath h hs, Option.bind_some, get_store hs, if_pos rfl]
  rfl

lemma writeText_ok {steps : ℕ} {p : Path} {text : Str} (h : writeText steps p text fs = (fs', .ok ())) :
    ∃ bs place content, Utf8.encode text = some bs ∧ fs.openPath steps [] p = some place ∧ content.bytes = bs ∧
      fs.store place content = some fs' := by
  unfold writeText at h
  split at h
  · cases h
  · rename_i place opened ho
    obtain ⟨place', hp, ho⟩ := Option.bind_eq_some_iff.mp ho
    obtain ⟨opened', -, he⟩ := Option.map_eq_some_iff.mp ho
    obtain ⟨rfl, rfl⟩ := Prod.mk.inj he
    split at h
    · cases h
    · rename_i bs hb
      split_ifs at h with hl
      · split at h
        · cases h
        · rename_i fs₁ hs
          obtain rfl := (Prod.mk.inj h).1
          exact ⟨bs, place', ⟨bs, hl⟩, hb, hp, rfl, hs⟩
      · cases h

lemma writeText_unicode {steps : ℕ} {p : Path} {text : Str}
    (h : writeText steps p text fs = (fs', .error .unicode)) :
    Utf8.encode text = none ∧ ∃ place, fs.openPath steps [] p = some place ∧
      fs.store place emptyFile = some fs' := by
  unfold writeText at h
  split at h
  · cases h
  · rename_i place opened ho
    obtain ⟨place', hp, ho⟩ := Option.bind_eq_some_iff.mp ho
    obtain ⟨opened', hs, he⟩ := Option.map_eq_some_iff.mp ho
    obtain ⟨rfl, rfl⟩ := Prod.mk.inj he
    split at h
    · rename_i hb
      obtain rfl := (Prod.mk.inj h).1
      exact ⟨hb, place', hp, hs⟩
    · split_ifs at h
      · split at h <;> cases h
      · cases h

def SameShape (fs fs' : FileSystem) : Prop :=
  ∀ q, fs'.get q = fs.get q ∨ ∃ f x f' x', fs.get q = some (.file f x) ∧ fs'.get q = some (.file f' x')

lemma SameShape.isDir (h : SameShape fs fs') (q : Path) : fs'.isDir q = fs.isDir q := by
  rcases h q with he | ⟨f, x, f', x', he, he'⟩
  · rw [FileSystem.isDir, FileSystem.isDir, he]
  · simp [FileSystem.isDir, he, he']

lemma SameShape.walk (h : SameShape fs fs') (kernel : Bool) (steps : ℕ) (p : Path) (names : List Bytes) :
    fs'.walk kernel steps p names = fs.walk kernel steps p names := by
  induction steps generalizing p names with
  | zero => cases names <;> rfl
  | succ steps ih =>
    cases names with
    | nil => rfl
    | cons name rest =>
      simp only [FileSystem.walk, h.isDir, ih]
      rcases h (p ++ [name]) with he | ⟨f, x, f', x', he, he'⟩
      · rw [he]
      · rw [he, he']

lemma sameShape_store {f : File} {x : Bool} (hf : fs.get (located place) = some (.file f x))
    (hs : fs.store place content = some fs') : SameShape fs fs' := by
  intro q
  rw [get_store hs]
  split_ifs with hq
  · exact .inr ⟨f, x, content, _, hq ▸ hf, rfl⟩
  · exact .inl rfl

lemma walk_of_openPath {steps : ℕ} {p : Path} {names : List Bytes} (h : fs.openPath steps p names = some place) :
    fs.walk true steps p names = if (fs.get (located place)).isSome then some (located place) else none := by
  fun_induction openPath fs steps p names with
  | case1 | case2 | case4 | case6 | case8 | case10 | case12 | case14 => cases h
  | case3 steps p name rest hn hd ih =>
    rw [walk, if_pos hn, hd]
    exact ih h
  | case5 steps p rest hd hn ih =>
    rw [walk, if_neg hn, if_pos rfl, hd]
    exact ih h
  | case7 steps p name rest hn hn' hget ih =>
    rw [walk, if_neg hn, if_neg hn', hget]
    exact ih h
  | case9 steps p name rest hn hn' target hget ht ih =>
    rw [walk, if_neg hn, if_neg hn', hget]
    simp only [if_neg ht]
    exact ih h
  | case11 steps p name hn hn' f x hget =>
    obtain rfl := Option.some.inj h
    rw [walk, if_neg hn, if_neg hn', located, hget]
    cases steps <;> rfl
  | case13 steps p name hn hn' hget =>
    obtain rfl := Option.some.inj h
    rw [walk, if_neg hn, if_neg hn', located, hget]
    rfl

lemma SameShape.openPath (h : SameShape fs fs') (steps : ℕ) (p : Path) (names : List Bytes) :
    fs'.openPath steps p names = fs.openPath steps p names := by
  induction steps generalizing p names with
  | zero => rfl
  | succ steps ih =>
    cases names with
    | nil => rfl
    | cons name rest =>
      simp only [FileSystem.openPath, h.isDir, ih]
      rcases h (p ++ [name]) with he | ⟨f, x, f', x', he, he'⟩
      · rw [he]
      · rw [he, he']

lemma walk_store {f : File} {steps : ℕ} {p q : Path} {names : List Bytes}
    (hfile : fs.get (located place) = none ∨ ∃ f x, fs.get (located place) = some (.file f x))
    (hs : fs.store place f = some fs') (hp : p ≠ located place) (h : fs.walk true steps p names = some q) :
    fs'.walk true steps p names = some q := by
  rcases hfile with hnone | ⟨f', x, hf⟩
  · rcases walk_put_file hs hnone steps p names hp with he | ⟨he, -⟩
    · rw [he, h]
    · rw [he] at h
      cases h
  · rw [(sameShape_store hf hs).walk, h]

lemma located_inj {place place' : Path × Bytes} (h : located place = located place') : place = place' := by
  obtain ⟨h₁, h₂⟩ := List.append_inj' h rfl
  exact Prod.ext h₁ (List.singleton_inj.mp h₂)

lemma get_of_readBytes {steps : ℕ} {p : Path} {bs : Bytes} (hp : fs.openPath steps [] p = some place)
    (hr : fs.readBytes steps p = some bs) : ∃ f x, fs.get (located place) = some (.file f x) ∧ f.bytes = bs := by
  rw [readBytes, stat, walk_of_openPath hp] at hr
  rcases openPath_cases hp with hnone | ⟨f, x, hf⟩
  · simp [hnone] at hr
  · refine ⟨f, x, hf, ?_⟩
    simpa [hf, FileSystem.content] using hr

lemma readBytes_of_get {steps : ℕ} {p q : Path} {f : File} {x : Bool} (hw : fs.walk true steps [] p = some q)
    (hf : fs.get q = some (.file f x)) : fs.readBytes steps p = some f.bytes := by
  rw [readBytes, stat, hw, Option.bind_some, hf]
  rfl

section Twice

variable {fs₁ fs₂ : FileSystem} {steps : ℕ} {p₁ p₂ : Path} {place₁ place₂ : Path × Bytes}
  {content₁ content₂ : File}
  (h₁ : fs.openPath steps [] p₁ = some place₁) (hs₁ : fs.store place₁ content₁ = some fs₁)
  (h₂ : fs₁.openPath steps [] p₂ = some place₂) (hs₂ : fs₁.store place₂ content₂ = some fs₂)

include h₁ hs₁ h₂ hs₂

lemma of_readBytes_store_store (hr₁ : fs₂.readBytes steps p₁ = fs.readBytes steps p₁)
    (hr₂ : fs₂.readBytes steps p₂ = fs.readBytes steps p₂) :
    fs.readBytes steps p₂ = some content₂.bytes ∧ fs.readBytes steps p₁ =
      if fs.openPath steps [] p₁ = fs.openPath steps [] p₂ then some content₂.bytes else some content₁.bytes := by
  have hread := readBytes_store h₂ hs₂
  rw [hr₂] at hread
  refine ⟨hread, ?_⟩
  -- the second file was there, so the second write keeps the shape and the first path still leads to its file
  obtain ⟨q, hw⟩ : ∃ q, fs.walk true steps [] p₂ = some q := by
    cases hw : fs.walk true steps [] p₂ with
    | none => simp [readBytes, stat, hw] at hread
    | some q => exact ⟨q, rfl⟩
  have hw₁ := walk_store (openPath_cases h₁) hs₁ (by simp [located]) hw
  obtain ⟨f, x, hf⟩ : ∃ f x, fs₁.get (located place₂) = some (.file f x) := by
    rcases openPath_cases h₂ with hnone | hf
    · rw [walk_of_openPath h₂, hnone] at hw₁
      cases hw₁
    · exact hf
  have hwalk₂ : fs₂.walk true steps [] p₁ = some (located place₁) := by
    rw [(sameShape_store hf hs₂).walk, walk_openPath h₁ hs₁]
  have hget₁ := get_store hs₁ (located place₁)
  rw [if_pos rfl] at hget₁
  have hread₁ : fs.readBytes steps p₁ =
      some (if located place₁ = located place₂ then content₂.bytes else content₁.bytes) := by
    have hget₂ := get_store hs₂ (located place₁)
    rw [← hr₁]
    split_ifs at hget₂ ⊢
    · exact readBytes_of_get hwalk₂ hget₂
    · rw [hget₁] at hget₂
      exact readBytes_of_get hwalk₂ hget₂
  obtain ⟨f₁, x₁, hf₁, -⟩ := get_of_readBytes h₁ hread₁
  rw [hread₁, h₁, ← (sameShape_store hf₁ hs₁).openPath, h₂]
  by_cases he : place₁ = place₂
  · rw [if_pos (congrArg located he), if_pos (congrArg some he)]
  · rw [if_neg fun h => he (located_inj h), if_neg fun h => he (Option.some.inj h)]

lemma get_store_store (hr₂ : fs.readBytes steps p₂ = some content₂.bytes) (hr₁ : fs.readBytes steps p₁ =
      if fs.openPath steps [] p₁ = fs.openPath steps [] p₂ then some content₂.bytes else some content₁.bytes)
    (q : Path) : fs₂.get q = fs.get q := by
  have hext {f g : File} (h : f.bytes = g.bytes) : f = g := by
    cases f
    cases g
    simpa using h
  obtain ⟨bs, hbs⟩ : ∃ bs, fs.readBytes steps p₁ = some bs := by
    rw [hr₁]
    split_ifs <;> exact ⟨_, rfl⟩
  obtain ⟨f₁, x₁, hf₁, hb₁⟩ := get_of_readBytes h₁ hbs
  have hopen : fs.openPath steps [] p₂ = some place₂ := by rw [← (sameShape_store hf₁ hs₁).openPath, h₂]
  obtain ⟨f₂, x₂, hf₂, hb₂⟩ := get_of_readBytes hopen hr₂
  rw [hbs, h₁, hopen] at hr₁
  have hx₁ : fs.executable (located place₁) = x₁ := by rw [executable, hf₁]
  have hx₂ : fs₁.executable (located place₂) = x₂ := by
    rw [executable, get_store hs₁]
    split_ifs with he
    · rw [he, hf₁] at hf₂
      obtain ⟨-, rfl⟩ := Entry.file.inj (Option.some.inj hf₂)
      exact hx₁
    · rw [hf₂]
  rw [get_store hs₂, get_store hs₁]
  split_ifs with hq₂ hq₁
  · rw [hq₂, hf₂, hx₂, hext hb₂]
  · have hne : place₁ ≠ place₂ := fun he => hq₂ (by rw [hq₁, he])
    rw [if_neg fun h => hne (Option.some.inj h)] at hr₁
    rw [hq₁, hf₁, hx₁, hext (hb₁.trans (Option.some.inj hr₁))]
  · rfl

end Twice

end Graft64.Library.FileSystem
