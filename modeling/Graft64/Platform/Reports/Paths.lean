import Graft64.Platform.Details
import Graft64.Platform.Probes

/-! What `runtime_paths` reports, and when its details say it. -/

namespace Graft64.Platform.Probes

open Graft64.Library Utf8 Json

set_option maxRecDepth 4000

def pathFields (t : Target) (g : Configuration) (c : PathCalls) : List (String × CString) :=
  [("guest_bundle_root", g.guestBundleRoot), ("runtime_root", g.runtimeRoot), ("data_root", g.dataRoot),
    ("cache_root", g.cacheRoot), ("ns_get_executable_path", executablePath t c.executablePath),
    ("bundle_url", g.bundleUrl), ("bundle_executable_url", g.bundleExecutableUrl), ("argv0", g.argv0),
    ("current_working_directory", g.currentWorkingDirectory), ("home_directory", g.homeDirectory),
    ("documents_directory", g.documentsDirectory), ("library_directory", g.libraryDirectory),
    ("temporary_directory", g.temporaryDirectory), ("binary_uuid", binaryUuid t c.uuid), ("app_version",
    g.appVersion), ("livecontainer_evidence", g.livecontainerEvidence)]

def pathsReport (t : Target) (g : Configuration) (c : PathCalls) : Json :=
  if pathContextMissing g then
    .obj [(lit "reason", .str (lit "path_context_missing")),
      (lit "required", .arr [.str (lit "guest_bundle_root"), .str (lit "runtime_root"), .str (lit "data_root"),
        .str (lit "cache_root")])]
  else if observationMissing g then .obj [(lit "reason", .str (lit "runtime_observation_missing"))]
  else
    .obj ((lit "source", .str (lit "host_context")) ::
      (pathFields t g c).map fun f => (lit f.1, .str (fsdecode f.2)))

def PathsClear (t : Target) (g : Configuration) (c : PathCalls) : Prop :=
  pathContextMissing g = false → observationMissing g = false →
    (∀ f ∈ pathFields t g c, Printable f.2) ∧ ((pathFields t g c).map fun f => f.2.length).sum + 365 < detailsSize

lemma memberStrings_map {fs : List (String × CString)} (hk : ∀ f ∈ fs, Clean (lit f.1)) :
    MemberStrings Clean (fs.map fun f => (lit f.1, .str (fsdecode f.2))) ↔ ∀ f ∈ fs, Printable f.2 := by
  induction fs with
  | nil => simp [MemberStrings]
  | cons f fs ih =>
    obtain ⟨hf, hfs⟩ := List.forall_mem_cons.mp hk
    rw [List.map_cons, MemberStrings, Strings, ih hfs, List.forall_mem_cons, printable_iff]
    exact ⟨fun h => h.2, fun h => ⟨hf, h⟩⟩

lemma clean_pathKeys (t : Target) (g : Configuration) (c : PathCalls) :
    ∀ f ∈ pathFields t g c, Clean (lit f.1) := by
  unfold pathFields
  simp only [List.forall_mem_cons, List.not_mem_nil, false_imp_iff, implies_true, and_true]
  and_intros
  all_goals exact clean_lit _ rfl

lemma pathsDetails_length (t : Target) (g : Configuration) (c : PathCalls) :
    (pathsDetails t g c).length = ((pathFields t g c).map fun f => f.2.length).sum + 365 := by
  unfold pathsDetails pathFields
  simp only [List.length_append, List.map_cons, List.map_nil, List.sum_cons, List.sum_nil]
  repeat rw [cstr_length]
  simp only [List.length_cons, List.length_nil, Nat.reduceAdd]
  omega

lemma prints_paths (t : Target) (g : Configuration) (c : PathCalls) :
    Prints (pathsDetails t g c)
      (render compact 0 (.obj ((lit "source", .str (lit "host_context")) ::
        (pathFields t g c).map fun f => (lit f.1, .str (fsdecode f.2))))) (pathsDetails t g c).length := by
  refine ⟨?_, le_rfl⟩
  unfold pathsDetails
  simp only [List.append_assoc]
  refine (Prints.cast (.text _ rfl (.str _ rfl (.text _ rfl (.str _ rfl (.text _ rfl (.str _ rfl
    (.text _ rfl (.str _ rfl (.text _ rfl (.str _ rfl (.text _ rfl (.str _ rfl (.text _ rfl (.str _ rfl
    (.text _ rfl (.str _ rfl (.text _ rfl (.str _ rfl (.text _ rfl (.str _ rfl (.text _ rfl (.str _ rfl
    (.text _ rfl (.str _ rfl (.text _ rfl (.str _ rfl (.text _ rfl (.str _ rfl (.text _ rfl (.str _ rfl
    (.text _ rfl (.strLast _ rfl (.last _ rfl))))))))))))))))))))))))))))))))) ?_).reads
  unfold pathFields
  simp only [render, renderMembers, compact, id, List.nil_append, List.cons_append, List.append_assoc,
    List.map_cons, List.map_nil]
  repeat rw [lit_ofList]
  rfl

theorem runtimePaths_faithful_iff (t : Target) (g : Configuration) (c : PathCalls) :
    Faithful (runtimePaths t g c).details (some (pathsReport t g c)) ↔ PathsClear t g c := by
  unfold runtimePaths pathsReport PathsClear
  cases hp : pathContextMissing g with
  | true =>
    refine iff_of_true (faithful_of (.cast (.last _ rfl) ?_) (by decide) ?_) (by simp)
    · simp only [render, renderMembers, renderElements, compact, id, List.nil_append, List.cons_append,
        List.append_assoc, if_true]
      repeat rw [lit_ofList]
      rfl
    · simp only [if_true, Strings, MemberStrings, ElementStrings]
      and_intros
      all_goals first | exact trivial | exact clean_lit _ rfl
  | false =>
    cases ho : observationMissing g with
    | true =>
      refine iff_of_true (faithful_of (.cast (.last _ rfl) ?_) (by decide) ?_) (by simp)
      · simp only [render, renderMembers, compact, id, List.nil_append, List.cons_append,
          List.append_assoc, if_true, Bool.false_eq_true, if_false]
        repeat rw [lit_ofList]
        rfl
      · exact ⟨clean_lit _ rfl, clean_lit _ rfl, trivial⟩
    | false =>
      simp only [Bool.false_eq_true, if_false, report_details, forall_const]
      have hj : ∀ fs : List (String × CString),
          MemberStrings (fun _ => True) (fs.map fun f => (lit f.1, .str (fsdecode f.2))) := by
        intro fs
        induction fs with
        | nil => trivial
        | cons f fs ih => exact ⟨trivial, trivial, ih⟩
      rw [faithful_iff (prints_paths t g c) ⟨trivial, trivial, hj _⟩, pathsDetails_length, and_comm]
      refine and_congr ?_ Iff.rfl
      rw [Strings, MemberStrings, memberStrings_map (clean_pathKeys t g c)]
      exact ⟨fun h => h.2.2, fun h => ⟨clean_lit _ rfl, clean_lit _ rfl, h⟩⟩

end Graft64.Platform.Probes
