import Graft64.Library.Writes

/-! Trees that differ in files only: what was read through a path is read after the writes, or was
written. -/

namespace Graft64.Library.FileSystem

open Unpack

variable {fs fs' fs'' : FileSystem}

def Overwritten (fs fs' : FileSystem) : Prop :=
  ∀ q, fs'.get q = fs.get q ∨ (∃ f, fs'.get q = some (.file f (fs.executable q))) ∧
    (fs.get q = none ∨ ∃ f x, fs.get q = some (.file f x))

lemma Overwritten.executable (h : Overwritten fs fs') (q : Path) : fs'.executable q = fs.executable q := by
  rcases h q with he | ⟨⟨f, he⟩, -⟩
  · rw [FileSystem.executable, FileSystem.executable, he]
  · rw [FileSystem.executable, he]

lemma Overwritten.trans (h : Overwritten fs fs') (h' : Overwritten fs' fs'') : Overwritten fs fs'' := by
  intro q
  rcases h' q with he' | ⟨⟨f', hf'⟩, hold'⟩
  · rw [he']
    exact h q
  · rw [h.executable] at hf'
    refine .inr ⟨⟨f', hf'⟩, ?_⟩
    rcases h q with he | ⟨-, hold⟩
    · rwa [he] at hold'
    · exact hold

lemma overwritten_store {steps : ℕ} {p : Path} {names : List Bytes} {place : Path × Bytes} {content : File}
    (h : fs.openPath steps p names = some place) (hs : fs.store place content = some fs') :
    Overwritten fs fs' := by
  intro q
  rw [get_store hs]
  split_ifs with hq
  · rw [hq]
    exact .inr ⟨⟨content, rfl⟩, openPath_cases h⟩
  · exact .inl rfl

lemma Overwritten.isDir (h : Overwritten fs fs') (q : Path) : fs'.isDir q = fs.isDir q := by
  rcases h q with he | ⟨⟨f, hf⟩, hold | ⟨f', x', hold⟩⟩
  · rw [FileSystem.isDir, FileSystem.isDir, he]
  · simp [FileSystem.isDir, hf, hold]
  · simp [FileSystem.isDir, hf, hold]

lemma Overwritten.isLink (h : Overwritten fs fs') (q : Path) : fs'.isLink q = fs.isLink q := by
  rcases h q with he | ⟨⟨f, hf⟩, hold | ⟨f', x', hold⟩⟩
  · rw [FileSystem.isLink, FileSystem.isLink, he]
  · simp [FileSystem.isLink, hf, hold]
  · simp [FileSystem.isLink, hf, hold]

lemma Overwritten.walk (h : Overwritten fs fs') {kernel : Bool} {steps : ℕ} {p q : Path} {names : List Bytes}
    (hw : fs.walk kernel steps p names = some q) : fs'.walk kernel steps p names = some q := by
  induction steps generalizing p names with
  | zero => cases names <;> exact hw
  | succ steps ih =>
    cases names with
    | nil => exact hw
    | cons name rest =>
      simp only [FileSystem.walk, h.isDir] at hw ⊢
      split_ifs at hw ⊢
      · exact ih hw
      · exact ih hw
      · rcases h (p ++ [name]) with he | ⟨⟨f, hf⟩, hold | ⟨f', x', hold⟩⟩
        · rw [he]
          split at hw
          · cases hw
          · split_ifs at hw ⊢ <;> exact ih hw
          · exact ih hw
        · rw [hold] at hw
          cases hw
        · rw [hold] at hw
          rw [hf]
          exact ih hw

lemma Overwritten.openPath (h : Overwritten fs fs') (steps : ℕ) (p : Path) (names : List Bytes) :
    fs'.openPath steps p names = fs.openPath steps p names := by
  induction steps generalizing p names with
  | zero => rfl
  | succ steps ih =>
    cases names with
    | nil => rfl
    | cons name rest =>
      simp only [FileSystem.openPath, h.isDir, ih]
      rcases h (p ++ [name]) with he | ⟨⟨f, hf⟩, hold | ⟨f', x', hold⟩⟩
      · rw [he]
      · rw [hf, hold]
      · rw [hf, hold]

lemma readBytes_store_or {steps : ℕ} {p : Path} {names : List Bytes} {place : Path × Bytes} {content : File}
    (h : fs.openPath steps p names = some place) (hs : fs.store place content = some fs') (steps' : ℕ)
    (path : List Bytes) :
    fs'.readBytes steps' path = fs.readBytes steps' path ∨ fs'.readBytes steps' path = some content.bytes := by
  have hread {q : Path} : (fs'.get q).bind FileSystem.content = (fs.get q).bind FileSystem.content ∨
      (fs'.get q).bind FileSystem.content = some content.bytes := by
    rw [get_store hs]
    split_ifs
    · exact .inr rfl
    · exact .inl rfl
  have hplace : (fs'.get (located place)).bind FileSystem.content = some content.bytes := by
    rw [get_store hs, if_pos rfl]
    rfl
  simp only [readBytes, stat]
  rcases openPath_cases h with hnone | ⟨f, x, hf⟩
  · rcases walk_put_file hs hnone steps' [] path (by simp) with he | ⟨-, he⟩
    · rw [he]
      cases fs.walk true steps' [] path with
      | none => exact .inl rfl
      | some q => exact hread
    · rw [he]
      exact .inr hplace
  · rw [(sameShape_store hf hs).walk]
    cases fs.walk true steps' [] path with
    | none => exact .inl rfl
    | some q => exact hread

lemma link_text_ne_nil {kernel : Bool} {steps : ℕ} {p q : Path} {names : List Bytes}
    {text : Bytes} (hget : fs.get (p ++ names) = some (.link text)) (hne : names ≠ [])
    (hw : fs.walk kernel steps p names = some q) : text ≠ [] := by
  induction names generalizing p steps with
  | nil => exact absurd rfl hne
  | cons name rest ih =>
    obtain ⟨hname, hdot, hdotdot, -⟩ := get_names hget name (by simp)
    cases steps with
    | zero => cases hw
    | succ steps =>
      rw [List.append_cons] at hget
      rw [walk, if_neg (by simp [hname, hdot]), if_neg hdotdot] at hw
      cases hrest : rest with
      | nil =>
        rw [hrest, List.append_nil] at hget
        rw [hget] at hw
        rintro rfl
        simp at hw
      | cons m ms =>
        have hdir : fs.get (p ++ [name]) = some .dir := by
          rw [hrest, ← List.dropLast_append_getLast (List.cons_ne_nil m ms), ← List.append_assoc] at hget
          exact isDir_iff.mp (isDir_of_append (isDir_of_get hget))
        rw [hdir] at hw
        exact ih hget (by simp [hrest]) hw

end Graft64.Library.FileSystem
