import Graft64.Runtime.TrimmedFields

/-! Where the values of a lock come from: each stands in the text. -/

namespace Graft64.Runtime.DepsLock

open Graft64.Library Regex Results

lemma strip_isInfix (s : Str) : strip s <:+: s :=
  (List.rdropWhile_prefix isSpace _).isInfix.trans (List.dropWhile_suffix isSpace).isInfix

lemma scalar_isInfix (raw : Str) : scalar raw <:+: raw := by
  simp only [scalar]
  split_ifs
  · exact ((List.dropLast_prefix _).isInfix.trans (List.tail_suffix _).isInfix).trans (strip_isInfix raw)
  · exact strip_isInfix raw

def From (text : Str) (d : Dict) : Prop := ∀ f ∈ d, f.2 <:+: text

variable {text : Str}

lemma From.mono {body : Str} {d : Dict} (h : From body d) (hb : body <:+: text) : From text d :=
  fun f hf => (h f hf).trans hb

lemma from_uniqueFieldsFrom {owner : Str} {found : List (Str × Str)} {fields d : Dict} (hfields : From text fields)
    (hfound : ∀ p ∈ found, p.2 <:+: text) (h : uniqueFieldsFrom owner fields found = .ok d) : From text d := by
  induction found generalizing fields with
  | nil =>
    obtain rfl := Except.ok.inj h
    exact hfields
  | cons p found ih =>
    obtain ⟨name, raw⟩ := p
    obtain ⟨hp, hfound⟩ := List.forall_mem_cons.mp hfound
    rw [uniqueFieldsFrom] at h
    split_ifs at h
    refine ih ?_ hfound h
    intro f hf
    rcases List.mem_append.mp hf with hf | hf
    · exact hfields f hf
    · rw [List.mem_singleton.mp hf]
      exact (scalar_isInfix raw).trans hp

lemma from_requiredFields {fields d : Dict} {owner : Str} {names : List Str} (hfields : From text fields)
    (h : requiredFields fields owner names = .ok d) : From text d := by
  intro f hf
  obtain ⟨name, -, hr⟩ := (mem_of_mapM_eq_ok h).mp hf
  obtain ⟨value, hv, rfl⟩ := of_map_eq_ok hr
  simp only [requiredField] at hv
  split_ifs at hv with hne
  obtain rfl := Except.ok.inj hv
  cases hl : fields.lookup name with
  | none => simp [hl, scalar, strip] at hne
  | some raw =>
    obtain ⟨front, back, rfl, -⟩ := List.lookup_eq_some_iff.mp hl
    exact (scalar_isInfix raw).trans (hfields (name, raw) (by simp))

lemma from_found {indent : ℕ} {body owner owner' : Str} {fields d : Dict} {names : List Str}
    (h : uniqueFields (findPairs (fieldPattern indent) body) owner = .ok fields)
    (h' : requiredFields fields owner' names = .ok d) : From body d :=
  from_requiredFields (from_uniqueFieldsFrom (by simp [From]) (fun _ hp => (findPairs_isInfix hp).2) h) h'

lemma from_parseToolchain {body : Str} {d : Dict} (h : parseToolchain body = .ok d) : From body d := by
  obtain ⟨fields, hfields, h⟩ := of_bind_eq_ok h
  obtain ⟨d', hd, h⟩ := of_bind_eq_ok h
  obtain ⟨_, -, h⟩ := of_bind_eq_ok h
  obtain rfl := Except.ok.inj h
  exact from_found hfields hd

lemma from_parseLlvm {body : Str} {d : Dict} (h : parseLlvm body = .ok d) : From body d := by
  obtain ⟨fields, hfields, h⟩ := of_bind_eq_ok h
  obtain ⟨d', hd, h⟩ := of_bind_eq_ok h
  obtain ⟨_, -, h⟩ := of_bind_eq_ok h
  obtain rfl := Except.ok.inj h
  exact from_found hfields hd

lemma from_parseDependency {name body : Str} {d : Dict} (hname : name <:+: text) (hbody : body <:+: text)
    (h : parseDependency name body = .ok d) : From text d := by
  obtain ⟨fields, hfields, h⟩ := of_bind_eq_ok h
  obtain ⟨d', hd, h⟩ := of_bind_eq_ok h
  obtain ⟨_, -, h⟩ := of_bind_eq_ok h
  obtain ⟨_, -, h⟩ := of_bind_eq_ok h
  obtain rfl := Except.ok.inj h
  exact List.forall_mem_cons.mpr ⟨hname, (from_found hfields hd).mono hbody⟩

lemma from_parseDependencies {seen : List Str} {blocks : List (Str × Str)} {ds : List Dict}
    (hblocks : ∀ p ∈ blocks, p.1 <:+: text ∧ p.2 <:+: text) (h : parseDependencies seen blocks = .ok ds) :
    ∀ d ∈ ds, From text d := by
  induction blocks generalizing seen ds with
  | nil =>
    obtain rfl := Except.ok.inj h
    simp
  | cons p blocks ih =>
    obtain ⟨hp, hblocks⟩ := List.forall_mem_cons.mp hblocks
    obtain ⟨_, -, h⟩ := of_bind_eq_ok h
    obtain ⟨d, hd, h⟩ := of_bind_eq_ok h
    obtain ⟨ds', hds, h⟩ := of_bind_eq_ok h
    obtain rfl := Except.ok.inj h
    exact List.forall_mem_cons.mpr ⟨from_parseDependency ((scalar_isInfix _).trans hp.1) hp.2 hd, ih hblocks hds⟩

lemma search_head_isInfix {r : Regex} {body : Str} (h : (r.search text).bind List.head? = some body) :
    body <:+: text := by
  obtain ⟨groups, hg, hhead⟩ := Option.bind_eq_some_iff.mp h
  obtain ⟨m, hm, rfl⟩ := Option.map_eq_some_iff.mp hg
  exact (searchFrom_within List.suffix_rfl hm).2 body (List.mem_of_mem_head? hhead)

theorem from_parseLock {lock : Lock} (h : parseLock text = .ok lock) :
    From text lock.toolchain ∧ From text lock.llvmMingw ∧ ∀ d ∈ lock.dependencies, From text d := by
  obtain ⟨_, -, h⟩ := of_bind_eq_ok h
  obtain ⟨_, -, h⟩ := of_bind_eq_ok h
  obtain ⟨_, -, h⟩ := of_bind_eq_ok h
  obtain ⟨toolchainText, ht, h⟩ := of_bind_eq_ok h
  obtain ⟨toolchain, htoolchain, h⟩ := of_bind_eq_ok h
  obtain ⟨llvmText, hl, h⟩ := of_bind_eq_ok h
  obtain ⟨llvm, hllvm, h⟩ := of_bind_eq_ok h
  obtain ⟨_, -, h⟩ := of_bind_eq_ok h
  obtain ⟨dependencies, hdependencies, h⟩ := of_bind_eq_ok h
  obtain ⟨_, -, h⟩ := of_bind_eq_ok h
  obtain rfl := Except.ok.inj h
  have htext := search_head_isInfix (of_orError_eq_ok ht)
  have hllvmText := (search_head_isInfix (of_orError_eq_ok hl)).trans htext
  exact ⟨(from_parseToolchain htoolchain).mono htext, (from_parseLlvm hllvm).mono hllvmText,
    from_parseDependencies (fun _ hp => findPairs_isInfix hp) hdependencies⟩

end Graft64.Runtime.DepsLock
