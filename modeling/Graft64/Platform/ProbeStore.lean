import Graft64.Library.Latest
import Graft64.Library.Runs
import Graft64.Platform.Probes

/-! `ProbeStore`: the list of results behind the app's views, and the calls that change it. -/

namespace Graft64.Platform.ProbeStore

open Graft64.Library Latest Probes

def reasonRawValue : ReasonCode → Int32
  | .none => 0
  | .invalidArgument => 1
  | .notSupported => 2
  | .jitNotEnabled => 3
  | .io => 4
  | .lifecycleWaiting => 5
  | .childProcess => 7
  | .permission => 8
  | .internal => 255

def errorRawValue : ErrorCode → Int32
  | .none => 0
  | .argument => 1
  | .unsupported => 2
  | .permission => 3
  | .io => 4
  | .internal => 5

/-- A text is kept as the bytes it is made from. -/
structure ProbeResultModel where
  id : String
  name : String
  status : ProbeStatus
  reasonCode : Int32
  graftError : Int32
  osError : ℤ
  durationNanoseconds : UInt64
  summary : CString
  detailsJSON : CString

def ProbeResultModel.ofResult (result : ProbeResult) (duration : UInt64) : ProbeResultModel where
  id := result.name
  name := result.name
  status := result.status
  reasonCode := reasonRawValue result.reasonCode
  graftError := errorRawValue result.graftError
  osError := result.osError
  durationNanoseconds := duration
  summary := result.summary
  detailsJSON := result.detailsJson

structure Store where
  results : List ProbeResultModel
  isRunning : Bool
  backgroundObserved : Bool
  lifecycle : Lifecycle.State

def Store.initial : Store := ⟨[], false, false, .initial⟩

structure Run where
  configuration : Configuration
  calls : Calls
  duration : String → UInt64

def Store.append (r : Run) (s : Store) (result : ProbeResult) : Store :=
  let updated := ProbeResultModel.ofResult result (r.duration result.name)
  match s.results.findIdx? fun x => x.id == updated.id with
  | some index => { s with results := s.results.set index updated }
  | none => { s with results := s.results ++ [updated] }

/-- A Swift string as the C functions see it: up to the first NUL. -/
def cString (name : String) : String := String.ofList (name.toList.takeWhile fun c => c.toNat != 0)

variable (b : Build) (page : Jit.Size)

/-- The results `graft_run_probe` delivers: one, or none when there is no probe of that name. -/
def runProbe (r : Run) (name : String) : List ProbeResult :=
  (graftRunProbe b r.configuration r.calls (cString name)).toList

def Store.runAll (r : Run) (s : Store) : Store :=
  if s.isRunning then s
  else
    let s := { s with isRunning := true, results := [] }
    let s := (graftRunAllProbes b r.configuration r.calls).foldl (Store.append r) s
    { s with isRunning := false }

def Store.run (r : Run) (name : String) (s : Store) : Store :=
  if s.isRunning then s
  else
    let s := { s with isRunning := true }
    let s := (runProbe b r name).foldl (Store.append r) s
    { s with isRunning := false }

def Store.noteBackground (o : Lifecycle.PrepareOutcome) (s : Store) : Store :=
  { s with
    backgroundObserved := true
    lifecycle := (Lifecycle.graftLifecycleNoteBackground b.target page o s.lifecycle).2 }

def Store.noteForeground (r : Run) (s : Store) : Store :=
  if s.backgroundObserved && !s.isRunning then
    match Lifecycle.graftLifecycleNoteForeground s.lifecycle with
    | (.error _, lifecycle) => { s with lifecycle }
    | (.ok (), lifecycle) =>
      let s := { s with lifecycle, isRunning := true }
      let s := (runProbe b r "lifecycle_jit").foldl (Store.append r) s
      { s with isRunning := false }
  else s

inductive Event
  | runAll (r : Run)
  | run (r : Run) (name : String)
  | noteBackground (o : Lifecycle.PrepareOutcome)
  | noteForeground (r : Run)

def step (s : Store) : Event → Store
  | .runAll r => s.runAll b r
  | .run r name => s.run b r name
  | .noteBackground o => s.noteBackground b page o
  | .noteForeground r => s.noteForeground b r

def after (es : List Event) : Store := es.foldl (step b page) .initial

def delivered (s : Store) : Event → List ProbeResultModel
  | .runAll r => (graftRunAllProbes b r.configuration r.calls).map fun x => .ofResult x (r.duration x.name)
  | .run r name => (runProbe b r name).map fun x => .ofResult x (r.duration x.name)
  | .noteBackground _ => []
  | .noteForeground r =>
    if s.backgroundObserved && (Lifecycle.graftLifecycleNoteForeground s.lifecycle).1.isOk then
      (runProbe b r "lifecycle_jit").map fun x => .ofResult x (r.duration x.name)
    else []

def record (p : Store × List ProbeResultModel) (e : Event) : Store × List ProbeResultModel :=
  (step b page p.1 e, match e with
    | .runAll _ => delivered b p.1 e
    | _ => p.2 ++ delivered b p.1 e)

def reported (es : List Event) : List ProbeResultModel := (es.foldl (record b page) (.initial, [])).2

lemma append_eq (r : Run) (s : Store) (result : ProbeResult) : s.append r result =
    { s with results := upsert ProbeResultModel.id s.results (.ofResult result (r.duration result.name)) } := by
  rw [Store.append, upsert]
  cases s.results.findIdx? fun x => x.id == (ProbeResultModel.ofResult result (r.duration result.name)).id <;> rfl

lemma foldl_append (r : Run) (s : Store) (results : List ProbeResult) : results.foldl (Store.append r) s =
    { s with
      results := (results.map fun x => ProbeResultModel.ofResult x (r.duration x.name)).foldl
        (upsert ProbeResultModel.id) s.results } := by
  induction results generalizing s with
  | nil => rfl
  | cons result results ih => rw [List.foldl_cons, append_eq, ih, List.map_cons, List.foldl_cons]

lemma step_spec {s : Store} (hs : s.isRunning = false) (e : Event) : (step b page s e).isRunning = false ∧
    (step b page s e).results = (delivered b s e).foldl (upsert ProbeResultModel.id)
      (match e with
        | .runAll _ => []
        | _ => s.results) := by
  cases e with
  | runAll r => simp [step, Store.runAll, hs, foldl_append, delivered]
  | run r name => simp [step, Store.run, hs, foldl_append, delivered]
  | noteBackground o => exact ⟨hs, rfl⟩
  | noteForeground r =>
    cases hb : s.backgroundObserved with
    | false => simp [step, Store.noteForeground, hb, hs, delivered]
    | true =>
      rcases hn : Lifecycle.graftLifecycleNoteForeground s.lifecycle with ⟨_ | _, l⟩
      · simp [step, Store.noteForeground, hb, hs, delivered, hn, Except.isOk, Except.toBool]
      · simp [step, Store.noteForeground, hb, hs, delivered, hn, Except.isOk, Except.toBool, foldl_append]

structure Consistent (p : Store × List ProbeResultModel) : Prop where
  idle : p.1.isRunning = false
  digest : Digest ProbeResultModel.id p.2 p.1.results

lemma Consistent.record {p : Store × List ProbeResultModel} (h : Consistent p) (e : Event) :
    Consistent (record b page p e) := by
  obtain ⟨hidle, hresults⟩ := step_spec b page h.idle e
  refine ⟨hidle, ?_⟩
  change Digest ProbeResultModel.id (ProbeStore.record b page p e).2 (step b page p.1 e).results
  rw [hresults]
  have hnil : Digest ProbeResultModel.id [] [] := .nil
  cases e with
  | runAll r => exact hnil.foldl (delivered b p.1 (.runAll r))
  | run r name => exact h.digest.foldl (delivered b p.1 (.run r name))
  | noteBackground o => exact h.digest.foldl (delivered b p.1 (.noteBackground o))
  | noteForeground r => exact h.digest.foldl (delivered b p.1 (.noteForeground r))

lemma consistent_foldl (es : List Event) : Consistent (es.foldl (record b page) (.initial, [])) :=
  Runs.foldl_invariant (fun _ p => Consistent p) ⟨rfl, .nil⟩
    (fun _ e h => h.record b page e) es

lemma foldl_record_fst (es : List Event) (p : Store × List ProbeResultModel) :
    (es.foldl (record b page) p).1 = es.foldl (step b page) p.1 := by
  induction es generalizing p with
  | nil => rfl
  | cons e es ih => exact ih (record b page p e)

lemma map_name_graftRunAllProbes (g : Configuration) (c : Calls) :
    (graftRunAllProbes b g c).map ProbeResult.name = probes.map Probe.name := by
  simp [graftRunAllProbes, graftRunProbe, findProbe_name, List.filterMap_eq_map', Function.comp_def]

/-- Every entry of the list is the latest result of its probe, and a run of all probes leaves the whole
table, in its order. -/
theorem probe_store_latest (es : List Event) :
    Digest ProbeResultModel.id (reported b page es) (after b page es).results ∧
    (after b page es).isRunning = false ∧
    ∀ r : Run, (after b page (es ++ [.runAll r])).results.map ProbeResultModel.id = probes.map Probe.name := by
  have hafter : (es.foldl (record b page) (.initial, [])).1 = after b page es := foldl_record_fst b page es _
  obtain ⟨hidle, hdigest⟩ := consistent_foldl b page es
  rw [hafter] at hidle hdigest
  refine ⟨hdigest, hidle, fun r => ?_⟩
  have hids : (delivered b (after b page es) (.runAll r)).map ProbeResultModel.id = probes.map Probe.name := by
    rw [delivered, List.map_map]
    exact map_name_graftRunAllProbes b r.configuration r.calls
  have hn : (probes.map Probe.name).Nodup := by decide
  rw [after, List.foldl_append, List.foldl_cons, List.foldl_nil, ← after,
    (step_spec b page hidle (.runAll r)).2, foldl_upsert_of_nodup (by rwa [List.nil_append, hids]),
    List.nil_append, hids]

end Graft64.Platform.ProbeStore
