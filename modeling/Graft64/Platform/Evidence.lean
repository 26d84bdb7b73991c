import Graft64.Platform.ProbeConsistency
import Graft64.Platform.ProbeStore

/-! The runs behind the entries of the store. -/

namespace Graft64.Platform.ProbeStore

open Graft64.Library Latest Probes

section

variable (b : Build) (page : Jit.Size)

def ran (s : Store) : Event → List (Run × Probe)
  | .runAll r => probes.map fun p => (r, p)
  | .run r name => (findProbe (cString name)).toList.map fun p => (r, p)
  | .noteBackground _ => []
  | .noteForeground r =>
    if s.backgroundObserved && (Lifecycle.graftLifecycleNoteForeground s.lifecycle).1.isOk
      then [(r, .lifecycleJit)]
    else []

def note (p : Store × List (Run × Probe)) (e : Event) : Store × List (Run × Probe) :=
  (step b page p.1 e, match e with
    | .runAll _ => ran p.1 e
    | _ => p.2 ++ ran p.1 e)

def history (es : List Event) : List (Run × Probe) := (es.foldl (note b page) (.initial, [])).2

def latest (h : List (Run × Probe)) (p : Probe) : Option Run := (h.reverse.find? fun x => x.2 = p).map Prod.fst

def entry (x : Run × Probe) : ProbeResultModel :=
  .ofResult (resultOf b.target x.2 (probeFn b x.1.configuration x.1.calls x.2)) (x.1.duration x.2.name)

end

variable {b : Build} {page : Jit.Size}

@[simp] lemma entry_id (x : Run × Probe) : (entry b x).id = x.2.name := rfl

lemma name_injective {p q : Probe} (h : p.name = q.name) : p = q := by
  have hp := findProbe_name p
  rw [h, findProbe_name] at hp
  exact (Option.some.inj hp).symm

lemma map_runProbe (r : Run) (name : String) : (runProbe b r name).map
    (fun x => ProbeResultModel.ofResult x (r.duration x.name)) =
      ((findProbe (cString name)).toList.map fun p => (r, p)).map (entry b) := by
  rw [runProbe, graftRunProbe]
  cases h : findProbe (cString name) with
  | none => rfl
  | some p => rfl

lemma delivered_eq (s : Store) (e : Event) : delivered b s e = (ran s e).map (entry b) := by
  cases e with
  | runAll r =>
    have hall : graftRunAllProbes b r.configuration r.calls =
        probes.map fun p => resultOf b.target p (probeFn b r.configuration r.calls p) := by
      simp only [graftRunAllProbes, graftRunProbe_name, List.filterMap_eq_map']
    rw [delivered, ran, hall, List.map_map, List.map_map]
    rfl
  | run r name => exact map_runProbe r name
  | noteBackground o => rfl
  | noteForeground r =>
    rw [delivered, ran]
    split_ifs with hs
    · exact map_runProbe r "lifecycle_jit"
    · rfl

variable (b page) in
lemma foldl_note (es : List Event) (s : Store) (h : List (Run × Probe)) :
    es.foldl (record b page) (s, h.map (entry b)) =
      ((es.foldl (note b page) (s, h)).1, (es.foldl (note b page) (s, h)).2.map (entry b)) := by
  induction es generalizing s h with
  | nil => rfl
  | cons e es ih =>
    have hstep : record b page (s, h.map (entry b)) e =
        ((note b page (s, h) e).1, (note b page (s, h) e).2.map (entry b)) := by
      cases e <;> simp only [record, note, delivered_eq, List.map_append]
    rw [List.foldl_cons, List.foldl_cons, hstep, ih]

lemma reported_eq (es : List Event) : reported b page es = (history b page es).map (entry b) := by
  have h := foldl_note b page es .initial []
  rw [reported, history]
  exact congrArg Prod.snd h

lemma mem_of_latest {h : List (Run × Probe)} {p : Probe} {r : Run} (hr : latest h p = some r) : (r, p) ∈ h := by
  obtain ⟨x, hx, rfl⟩ := Option.map_eq_some_iff.mp hr
  have hp : x.2 = p := by simpa using List.find?_some hx
  rw [← hp]
  exact List.mem_reverse.mp (List.mem_of_find?_eq_some hx)

lemma find?_entry (h : List (Run × Probe)) (p : Probe) :
    (h.map (entry b)).reverse.find? (fun x => x.id == p.name) = (latest h p).map fun r => entry b (r, p) := by
  have hkey : ((fun x : ProbeResultModel => x.id == p.name) ∘ entry b) = fun x => decide (x.2 = p) := by
    funext x
    rw [Function.comp_apply, entry_id, Bool.eq_iff_iff, beq_iff_eq, decide_eq_true_eq]
    exact ⟨name_injective, congrArg Probe.name⟩
  rw [← List.map_reverse, List.find?_map, hkey, latest, Option.map_map]
  refine Option.map_congr fun x hx => ?_
  have hp : x.2 = p := by simpa using List.find?_some hx
  rw [← hp]
  rfl

variable (b page) in
lemma digest (es : List Event) :
    Digest ProbeResultModel.id ((history b page es).map (entry b)) (after b page es).results := by
  have h := (consistent_foldl b page es).digest
  rwa [foldl_record_fst, ← reported, reported_eq] at h

lemma mem_results_iff (es : List Event) (x : ProbeResultModel) : x ∈ (after b page es).results ↔
    ∃ p r, latest (history b page es) p = some r ∧ x = entry b (r, p) := by
  have hd := digest b page es
  constructor
  · intro hx
    obtain ⟨y, hy, hid⟩ := List.mem_map.mp (hd.mem_map.mp (List.mem_map_of_mem hx))
    obtain ⟨⟨r, p⟩, -, rfl⟩ := List.mem_map.mp hy
    have hfind := hd.latest x hx
    rw [← hid, entry_id, find?_entry] at hfind
    obtain ⟨r', hr, he⟩ := Option.map_eq_some_iff.mp hfind
    exact ⟨p, r', hr, he.symm⟩
  · rintro ⟨p, r, hr, rfl⟩
    obtain ⟨y, hy, hid⟩ := List.mem_map.mp (hd.complete _ (List.mem_map_of_mem (mem_of_latest hr)))
    have hfind := hd.latest y hy
    rw [hid, entry_id, find?_entry] at hfind
    have hy' : entry b (r, p) = y := by simpa [hr] using hfind
    rwa [hy']

lemma probeStatus_eq_pass {rc : ℤ} : probeStatus rc = .pass ↔ rc = 0 := by
  unfold probeStatus
  split_ifs <;> simp_all

/-- A probe is listed as passed exactly when the calls that decide its result all succeeded in its latest run. -/
theorem listed_pass_iff (es : List Event) (p : Probe) :
    (∃ x ∈ (after b page es).results, x.id = p.name ∧ x.status = .pass) ↔
      ∃ r, latest (history b page es) p = some r ∧ Done b r.configuration r.calls p := by
  have hstatus (r : Run) : (entry b (r, p)).status = .pass ↔ Done b r.configuration r.calls p := by
    rw [← (probeFn_returns b r.configuration r.calls p).pass]
    exact probeStatus_eq_pass
  constructor
  · rintro ⟨x, hx, hid, hs⟩
    obtain ⟨q, r, hr, rfl⟩ := (mem_results_iff es x).mp hx
    obtain rfl := name_injective hid
    exact ⟨r, hr, (hstatus r).mp hs⟩
  · rintro ⟨r, hr, hd⟩
    exact ⟨entry b (r, p), (mem_results_iff es _).mpr ⟨p, r, hr, rfl⟩, rfl, (hstatus r).mpr hd⟩

theorem listed_details_iff (es : List Event) {p : Probe} {r : Run} (hr : latest (history b page es) p = some r)
    (hg : Configured b.target r.configuration) :
    (∃ x ∈ (after b page es).results, x.id = p.name ∧ ∃ ms,
      Probes.reported b r.configuration r.calls p = some (.obj ms) ∧ readDetails x.detailsJSON = some (.obj ms)) ↔
        Clear b r.configuration r.calls p := by
  rw [← probeFn_faithful_iff hg]
  constructor
  · rintro ⟨x, hx, hid, ms, hj, hd⟩
    obtain ⟨q, r', hr', rfl⟩ := (mem_results_iff es x).mp hx
    obtain rfl := name_injective hid
    obtain rfl := Option.some.inj (hr.symm.trans hr')
    exact ⟨.obj ms, hj, hd⟩
  · rintro ⟨j, hj, hd⟩
    have ho := reported_isObject hj
    cases j with
    | obj ms => exact ⟨entry b (r, p), (mem_results_iff es _).mpr ⟨p, r, hr, rfl⟩, rfl, ms, hj, hd⟩
    | null | bool | int | float | str | arr => cases ho

end Graft64.Platform.ProbeStore
