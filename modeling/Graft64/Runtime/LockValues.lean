import Graft64.Runtime.DepsLock

/-! What `parse_lock` makes sure of: which fields there are, that none is empty and which are digests. -/

namespace Graft64.Runtime.DepsLock

open Graft64.Library Results

def Filled (names : List Str) (d : Dict) : Prop := List.Forall₂ (fun name f => f.1 = name ∧ f.2 ≠ []) names d

lemma requiredFields_filled {fields d : Dict} {owner : Str} {names : List Str}
    (h : requiredFields fields owner names = .ok d) : Filled names d := by
  refine (of_mapM_eq_ok h).imp ?_
  intro name f hf
  obtain ⟨value, hv, rfl⟩ := of_map_eq_ok hf
  refine ⟨rfl, ?_⟩
  rintro rfl
  simp only [requiredField] at hv
  split_ifs at hv with hne
  exact hne (Except.ok.inj hv)

lemma of_check {b : Bool} {message : Str} {u : Unit} (h : check b message = .ok u) : b = true := by
  unfold check at h
  split_ifs at h with hb
  exact hb

lemma parseToolchain_filled {body : Str} {d : Dict} (h : parseToolchain body = .ok d) :
    Filled toolchainFields d ∧ hasValue d (lit "architecture") (· == lit "linux/arm64") = true := by
  obtain ⟨fields, -, h⟩ := of_bind_eq_ok h
  obtain ⟨d', hd, h⟩ := of_bind_eq_ok h
  obtain ⟨_, hc, h⟩ := of_bind_eq_ok h
  obtain rfl := Except.ok.inj h
  exact ⟨requiredFields_filled hd, of_check hc⟩

lemma parseLlvm_filled {body : Str} {d : Dict} (h : parseLlvm body = .ok d) :
    Filled llvmFields d ∧ hasValue d (lit "archive_sha256") (isHexOf 64) = true := by
  obtain ⟨fields, -, h⟩ := of_bind_eq_ok h
  obtain ⟨d', hd, h⟩ := of_bind_eq_ok h
  obtain ⟨_, hc, h⟩ := of_bind_eq_ok h
  obtain rfl := Except.ok.inj h
  exact ⟨requiredFields_filled hd, of_check hc⟩

lemma parseDependency_filled {name body : Str} {d : Dict} (h : parseDependency name body = .ok d) :
    ∃ d', d = (lit "name", name) :: d' ∧ Filled dependencyFields d' ∧
      hasValue d' (lit "commit") (isHexOf 40) = true ∧
      hasValue d' (lit "archive_sha256") (isHexOf 64) = true := by
  obtain ⟨fields, -, h⟩ := of_bind_eq_ok h
  obtain ⟨d', hd, h⟩ := of_bind_eq_ok h
  obtain ⟨_, hcommit, h⟩ := of_bind_eq_ok h
  obtain ⟨_, hsha, h⟩ := of_bind_eq_ok h
  obtain rfl := Except.ok.inj h
  exact ⟨d', rfl, requiredFields_filled hd, of_check hcommit, of_check hsha⟩

lemma parseDependencies_filled {seen : List Str} {blocks : List (Str × Str)} {ds : List Dict}
    (h : parseDependencies seen blocks = .ok ds) :
    (∀ d ∈ ds, ∃ name body, parseDependency name body = .ok d) ∧
      (ds.map fun d => (d.lookup (lit "name")).getD []).Nodup ∧
      ∀ d ∈ ds, (d.lookup (lit "name")).getD [] ∉ seen := by
  induction blocks generalizing seen ds with
  | nil =>
    obtain rfl := Except.ok.inj h
    simp
  | cons block blocks ih =>
    obtain ⟨_, hseen, h⟩ := of_bind_eq_ok h
    obtain ⟨d, hd, h⟩ := of_bind_eq_ok h
    obtain ⟨ds', hds, h⟩ := of_bind_eq_ok h
    obtain rfl := Except.ok.inj h
    obtain ⟨hparsed, hnodup, hnot⟩ := ih hds
    have hname : (d.lookup (lit "name")).getD [] = scalar block.1 := by
      obtain ⟨d', rfl, -⟩ := parseDependency_filled hd
      rfl
    refine ⟨List.forall_mem_cons.mpr ⟨⟨_, _, hd⟩, hparsed⟩, ?_, List.forall_mem_cons.mpr ⟨?_, ?_⟩⟩
    · rw [List.map_cons, List.nodup_cons]
      refine ⟨?_, hnodup⟩
      intro hm
      obtain ⟨d', hd', he⟩ := List.mem_map.mp hm
      exact hnot d' hd' (by rw [he, hname]; simp)
    · rw [hname]
      simpa using of_check hseen
    · intro d' hd' hm
      exact hnot d' hd' (List.mem_append_left _ hm)

lemma Filled.keys {names : List Str} {d : Dict} (h : Filled names d) : d.map Prod.fst = names := by
  induction h with
  | nil => rfl
  | cons hf _ ih => rw [List.map_cons, hf.1, ih]

lemma lookup_of_mem {d : Dict} (hn : (d.map Prod.fst).Nodup) {f : Str × Str} (h : f ∈ d) :
    d.lookup f.1 = some f.2 := by
  obtain ⟨front, back, rfl⟩ := List.append_of_mem h
  rw [List.lookup_eq_some_iff]
  refine ⟨front, back, rfl, ?_⟩
  rw [List.map_append, List.map_cons, List.nodup_append] at hn
  intro g hg
  simpa using (hn.2.2 g.1 (List.mem_map_of_mem hg) f.1 List.mem_cons_self).symm

lemma hasValue_imp {d : Dict} {key : Str} {p q : Str → Bool} (hpq : ∀ v, p v = true → q v = true)
    (h : hasValue d key p = true) : hasValue d key q = true := by
  rw [hasValue, Option.any_eq_true] at h ⊢
  obtain ⟨v, hv, hp⟩ := h
  exact ⟨v, hv, hpq v hp⟩

lemma parseDependency_keys {name body : Str} {d : Dict} (hd : parseDependency name body = .ok d) :
    (d.map Prod.fst).Nodup := by
  obtain ⟨d', rfl, hfilled, -⟩ := parseDependency_filled hd
  rw [List.map_cons, hfilled.keys]
  exact (by decide : (lit "name" :: dependencyFields).Nodup)

structure Locked (lock : Lock) : Prop where
  toolchain : Filled toolchainFields lock.toolchain
  architecture : hasValue lock.toolchain (lit "architecture") (· == lit "linux/arm64") = true
  llvm : Filled llvmFields lock.llvmMingw
  llvm_sha256 : hasValue lock.llvmMingw (lit "archive_sha256") (isHexOf 64) = true
  parsed : ∀ d ∈ lock.dependencies, ∃ name body, parseDependency name body = .ok d
  distinct : (lock.dependencies.map fun d => (d.lookup (lit "name")).getD []).Nodup
  pinned : pinsWineAndFex lock.dependencies = true

lemma locked_of_parseLock {text : Str} {lock : Lock} (h : parseLock text = .ok lock) : Locked lock := by
  obtain ⟨_, -, h⟩ := of_bind_eq_ok h
  obtain ⟨_, -, h⟩ := of_bind_eq_ok h
  obtain ⟨_, -, h⟩ := of_bind_eq_ok h
  obtain ⟨toolchainText, -, h⟩ := of_bind_eq_ok h
  obtain ⟨toolchain, htoolchain, h⟩ := of_bind_eq_ok h
  obtain ⟨llvmText, -, h⟩ := of_bind_eq_ok h
  obtain ⟨llvm, hllvm, h⟩ := of_bind_eq_ok h
  obtain ⟨_, -, h⟩ := of_bind_eq_ok h
  obtain ⟨dependencies, hdependencies, h⟩ := of_bind_eq_ok h
  obtain ⟨_, hpinned, h⟩ := of_bind_eq_ok h
  obtain rfl := Except.ok.inj h
  obtain ⟨hfilled, harch⟩ := parseToolchain_filled htoolchain
  obtain ⟨hfilled', hsha⟩ := parseLlvm_filled hllvm
  obtain ⟨hparsed, hdistinct, -⟩ := parseDependencies_filled hdependencies
  exact ⟨hfilled, harch, hfilled', hsha, hparsed, hdistinct, of_check hpinned⟩

end Graft64.Runtime.DepsLock
