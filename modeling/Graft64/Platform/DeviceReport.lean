import Graft64.Library.Utf8Repair
import Graft64.Platform.Evidence
import Graft64.Platform.ReportSchema

/-! The report that the app exports: what `exportReport` puts into it, and what `report.schema.json` says of it. -/

namespace Graft64.Platform

open Graft64.Library Utf8 Json Probes ProbeStore

def Probes.ProbeStatus.rawValue : ProbeStatus → Str
  | .pass => lit "PASS"
  | .fail => lit "FAIL"
  | .skip => lit "SKIP"
  | .blocked => lit "BLOCKED"

/-- The encoder sorts the keys; `String(cString:)` has put replacement characters into the two texts. -/
def encodeProbe (x : ProbeResultModel) : Json :=
  .obj [(lit "details_json", .str (repair x.detailsJSON)),
    (lit "duration_nanoseconds", .int x.durationNanoseconds.toNat), (lit "graft_error", .int x.graftError.toInt),
    (lit "id", .str (lit x.id)), (lit "name", .str (lit x.name)), (lit "os_error", .int x.osError),
    (lit "reason_code", .int x.reasonCode.toInt), (lit "status", .str x.status.rawValue),
    (lit "summary", .str (repair x.summary))]

namespace DeviceReport

structure Device where
  model : Str
  systemName : Str
  systemVersion : Str
  machine : Str
  pageSize : ℤ

def Device.encode (d : Device) : Json :=
  .obj [(lit "machine", .str d.machine), (lit "model", .str d.model), (lit "page_size", .int d.pageSize),
    (lit "system_name", .str d.systemName), (lit "system_version", .str d.systemVersion)]

structure Environment where
  livecontainerDetected : Bool
  livecontainerEvidence : List Str
  jitExpected : Bool

def Environment.encode (e : Environment) : Json :=
  .obj [(lit "jit_expected", .bool e.jitExpected), (lit "livecontainer_detected", .bool e.livecontainerDetected),
    (lit "livecontainer_evidence", .arr (e.livecontainerEvidence.map Json.str))]

end DeviceReport

structure DeviceReport where
  schemaVersion : ℤ
  appVersion : Str
  buildCommit : Str
  timestampUTC : Str
  device : DeviceReport.Device
  environment : DeviceReport.Environment
  probes : List ProbeResultModel

def DeviceReport.encode (r : DeviceReport) : Json :=
  .obj [(lit "app_version", .str r.appVersion), (lit "build_commit", .str r.buildCommit),
    (lit "device", r.device.encode), (lit "environment", r.environment.encode),
    (lit "probes", .arr (r.probes.map encodeProbe)), (lit "schema_version", .int r.schemaVersion),
    (lit "timestamp_utc", .str r.timestampUTC)]

namespace AppInfo

/-- `info` gives the values of the information dictionary that are strings. -/
def value (info : String → Option Str) (key : String) (fallback : String) : Str :=
  match info key with
  | some value => if value = [] then lit fallback else value
  | none => lit fallback

def version (info : String → Option Str) : Str := value info "CFBundleShortVersionString" "0.1"

def commit (info : String → Option Str) : Str :=
  let commit := value info "GRAFT_BUILD_COMMIT" "unknown"
  if lit "$(" <:+: commit then lit "unknown" else commit

end AppInfo

/-- What the app finds when it exports; `launched` is the environment that it was started in. -/
structure Surroundings where
  info : String → Option Str
  launched : String → Option Str
  environment : String → Option Str
  model : Str
  systemName : Str
  systemVersion : Str
  /-- The bytes of the field `machine`; `none` when `uname` fails. -/
  uname : Option Utf8.Bytes
  getpagesize : Int32
  timestamp : Str
  timestamp_ne : timestamp ≠ []

namespace Surroundings

variable (x : Surroundings)

def liveContainerEvidence : List Str :=
  (["LC_HOME_PATH", "LP_HOME_PATH"].filter fun name => (x.launched name).isSome).map fun name =>
    lit "environment:" ++ lit name

def machineIdentifier : Str :=
  match x.environment "SIMULATOR_MODEL_IDENTIFIER" with
  | some simulator => simulator
  | none => match x.uname with
    | some machine => repair (machine.takeWhile fun b => b ≠ 0)
    | none => lit "unknown"

def exportReport (s : Store) : DeviceReport where
  schemaVersion := 2
  appVersion := AppInfo.version x.info
  buildCommit := AppInfo.commit x.info
  timestampUTC := x.timestamp
  device := ⟨x.model, x.systemName, x.systemVersion, x.machineIdentifier, x.getpagesize.toInt⟩
  environment := ⟨!x.liveContainerEvidence.isEmpty, x.liveContainerEvidence, true⟩
  probes := s.results

structure Described : Prop where
  model : x.model ≠ []
  systemName : x.systemName ≠ []
  systemVersion : x.systemVersion ≠ []
  simulator : x.environment "SIMULATOR_MODEL_IDENTIFIER" ≠ some []
  machine : x.environment "SIMULATOR_MODEL_IDENTIFIER" = none → ∀ bs, x.uname = some bs →
    ∃ b, bs.head? = some b ∧ b ≠ 0
  pages : 0 < x.getpagesize.toInt

end Surroundings

section Conforms

open SchemaDocument ReportSchema

variable {a : Bool}

lemma conforms_someText (s : Str) : conforms a (.str s) someText = true ↔ s ≠ [] := by
  have h : conforms a (.str s) someText = (decide ((1 : ℤ) ≤ s.length) && true && true) := rfl
  rw [h, Bool.and_true, Bool.and_true, decide_eq_true_eq, ← List.length_pos_iff]
  omega

lemma conforms_atLeast (z n : ℤ) :
    conforms a (.int z) (.obj [typed "integer", keyword "minimum" (.int n)]) = true ↔ n ≤ z := by
  have h : conforms a (.int z) (.obj [typed "integer", keyword "minimum" (.int n)]) =
      (decide ((n : ℚ) ≤ z) && true && true && true) := rfl
  rw [h, Bool.and_true, Bool.and_true, Bool.and_true, decide_eq_true_eq]
  exact_mod_cast Iff.rfl

lemma conforms_list {js : List Json} {s : Json} : conforms a (.arr js) (list s) = true ↔
    ∀ j ∈ js, conforms a j s = true := by
  have h : conforms a (.arr js) (list s) = conformsItems a js s := rfl
  rw [h, conformsItems_iff]

lemma conforms_device (d : DeviceReport.Device) : conforms a d.encode device = true ↔
    d.machine ≠ [] ∧ d.model ≠ [] ∧ 1 ≤ d.pageSize ∧ d.systemName ≠ [] ∧ d.systemVersion ≠ [] := by
  have h : conforms a d.encode device =
      (conforms a (.str d.machine) someText && (conforms a (.str d.model) someText &&
      (conforms a (.int d.pageSize) (.obj [typed "integer", keyword "minimum" (.int 1)]) &&
        (conforms a (.str d.systemName) someText && (conforms a (.str d.systemVersion) someText && true))))) := rfl
  simp only [h, Bool.and_eq_true, conforms_someText, conforms_atLeast, and_true]

lemma conforms_environment (e : DeviceReport.Environment) : conforms a e.encode environment = true ↔
    ∀ s ∈ e.livecontainerEvidence, s ≠ [] := by
  have h : conforms a e.encode environment = (conforms a (.bool e.jitExpected) boolean &&
      (conforms a (.bool e.livecontainerDetected) boolean &&
        (conforms a (.arr (e.livecontainerEvidence.map Json.str)) (list someText) && true))) := rfl
  have hbool (b : Bool) : conforms a (.bool b) boolean = true := rfl
  rw [h, hbool, hbool, Bool.true_and, Bool.true_and, Bool.and_true, conforms_list, List.forall_mem_map]
  simp only [conforms_someText]

lemma lit_ne_nil {s : String} : lit s ≠ [] ↔ s ≠ "" := by
  rw [lit, ne_eq, List.map_eq_nil_iff, String.toList_eq_nil_iff]

lemma conforms_probe (x : ProbeResultModel) : conforms a (encodeProbe x) probe = true ↔
    x.id ≠ "" ∧ x.name ≠ "" := by
  have h : conforms a (encodeProbe x) probe = (conforms a (.str (repair x.detailsJSON)) anyText &&
      (conforms a (.int x.durationNanoseconds.toNat) (.obj [typed "integer", keyword "minimum" (.int 0)]) &&
        (conforms a (.int x.graftError.toInt) anyInteger && (conforms a (.str (lit x.id)) someText &&
          (conforms a (.str (lit x.name)) someText && (conforms a (.int x.osError) anyInteger &&
            (conforms a (.int x.reasonCode.toInt) anyInteger &&
              (conforms a (.str x.status.rawValue)
                (.obj [typed "string",
                  keyword "enum" (.arr [.str (lit "PASS"), .str (lit "FAIL"), .str (lit "SKIP"),
                    .str (lit "BLOCKED")])]) &&
                (conforms a (.str (repair x.summary)) anyText && true))))))))) := rfl
  have htext (s : Str) : conforms a (.str s) anyText = true := rfl
  have hint (z : ℤ) : conforms a (.int z) anyInteger = true := rfl
  have hstatus : conforms a (.str x.status.rawValue) (.obj [typed "string",
      keyword "enum" (.arr [.str (lit "PASS"), .str (lit "FAIL"), .str (lit "SKIP"), .str (lit "BLOCKED")])]) =
        true := by
    cases x.status <;> rfl
  simp only [h, htext, hint, hstatus, Bool.and_eq_true, conforms_someText, conforms_atLeast, lit_ne_nil,
    and_true, true_and]
  exact and_iff_right (Int.natCast_nonneg _)

lemma conforms_report (r : DeviceReport) : conforms a r.encode ReportSchema.report = true ↔
    r.appVersion ≠ [] ∧ r.buildCommit ≠ [] ∧ conforms a r.device.encode device = true ∧
      conforms a r.environment.encode environment = true ∧
        (∀ x ∈ r.probes, conforms a (encodeProbe x) probe = true) ∧ r.schemaVersion = 2 ∧ r.timestampUTC ≠ [] := by
  have h : conforms a r.encode ReportSchema.report = (conforms a (.str r.appVersion) someText &&
      (conforms a (.str r.buildCommit) someText && (conforms a r.device.encode device &&
        (conforms a r.environment.encode environment &&
          (conforms a (.arr (r.probes.map encodeProbe)) (list probe) &&
          (conforms a (.int r.schemaVersion) (.obj [typed "integer", keyword "const" (.int 2)]) &&
            (conforms a (.str r.timestampUTC) someText && true))))))) := rfl
  have hversion : conforms a (.int r.schemaVersion) (.obj [typed "integer", keyword "const" (.int 2)]) = true ↔
      r.schemaVersion = 2 := by
    have hc : conforms a (.int r.schemaVersion) (.obj [typed "integer", keyword "const" (.int 2)]) =
        (((r.schemaVersion : ℚ) == ((2 : ℤ) : ℚ)) && true && true && true && true && true) := rfl
    simp only [hc, Bool.and_true, beq_iff_eq]
    exact_mod_cast Iff.rfl
  simp only [h, Bool.and_eq_true, conforms_someText, conforms_list, List.forall_mem_map, hversion, and_true]

end Conforms

section Exported

open SchemaDocument ReportSchema

lemma value_ne_nil {info : String → Option Str} {key fallback : String} (h : fallback ≠ "") :
    AppInfo.value info key fallback ≠ [] := by
  unfold AppInfo.value
  split
  · split_ifs with hv
    · exact lit_ne_nil.mpr h
    · exact hv
  · exact lit_ne_nil.mpr h

lemma commit_ne_nil (info : String → Option Str) : AppInfo.commit info ≠ [] := by
  rw [AppInfo.commit]
  split_ifs
  · exact lit_ne_nil.mpr (by decide)
  · exact value_ne_nil (by decide)

lemma machineIdentifier_ne_nil_iff (x : Surroundings) : x.machineIdentifier ≠ [] ↔
    x.environment "SIMULATOR_MODEL_IDENTIFIER" ≠ some [] ∧
      (x.environment "SIMULATOR_MODEL_IDENTIFIER" = none → ∀ bs, x.uname = some bs →
        ∃ b, bs.head? = some b ∧ b ≠ 0) := by
  unfold Surroundings.machineIdentifier
  cases x.environment "SIMULATOR_MODEL_IDENTIFIER" with
  | some s => simp
  | none =>
    simp only [ne_eq, reduceCtorEq, not_false_eq_true, true_and, true_implies]
    cases x.uname with
    | none => exact iff_of_true (lit_ne_nil.mpr (by decide)) (by simp)
    | some bs =>
      simp only [repair_eq_nil_iff, Option.some.injEq, forall_eq']
      cases bs with
      | nil => simp
      | cons b bs =>
        rw [List.takeWhile_cons]
        split_ifs with hb <;> simp_all

lemma probe_name_ne (p : Probe) : p.name ≠ "" := by
  cases p <;> decide

variable (b : Build) (page : Jit.Size)

lemma exported_conforms_iff (a : Bool) (es : List Event) (x : Surroundings) :
    conforms a (x.exportReport (after b page es)).encode ReportSchema.report = true ↔ x.Described := by
  have hprobes : ∀ y ∈ (after b page es).results, conforms a (encodeProbe y) probe = true := by
    intro y hy
    obtain ⟨p, r, -, rfl⟩ := (mem_results_iff es y).mp hy
    exact (conforms_probe _).mpr ⟨probe_name_ne p, probe_name_ne p⟩
  have hevidence : ∀ s ∈ x.liveContainerEvidence, s ≠ [] := by
    intro s hs
    obtain ⟨name, -, rfl⟩ := List.mem_map.mp hs
    exact List.append_ne_nil_of_left_ne_nil (lit_ne_nil.mpr (by decide)) _
  have hversion : AppInfo.version x.info ≠ [] := value_ne_nil (by decide)
  rw [conforms_report, conforms_device, conforms_environment]
  constructor
  · rintro ⟨-, -, ⟨hm, hmodel, hpage, hname, hv⟩, -⟩
    obtain ⟨hsim, hmachine⟩ := (machineIdentifier_ne_nil_iff x).mp hm
    exact ⟨hmodel, hname, hv, hsim, hmachine, hpage⟩
  · rintro ⟨hmodel, hname, hv, hsim, hmachine, hpage⟩
    have hm := (machineIdentifier_ne_nil_iff x).mpr ⟨hsim, hmachine⟩
    exact ⟨hversion, commit_ne_nil x.info, ⟨hm, hmodel, hpage, hname, hv⟩, hevidence, hprobes, rfl, x.timestamp_ne⟩

/-- Whatever was run before, the exported report is one that the schema describes, and that its validator accepts,
exactly when the device is described. -/
theorem exported_valid_iff (es : List Event) (x : Surroundings) :
    (conforms true (x.exportReport (after b page es)).encode ReportSchema.report = true ↔ x.Described) ∧
      (validate (lit "$") (x.exportReport (after b page es)).encode ReportSchema.report = .ok () ↔
        x.Described) := by
  rw [(validate_agrees (lit "$") _ _ report_supported).iff]
  exact ⟨exported_conforms_iff b page true es x, exported_conforms_iff b page false es x⟩

variable {b page}

lemma readDetails_iff {details : CString} {j : Json} : readDetails details = some j ↔
    decode details = some (repair details) ∧ Json.parse false (repair details) = some j := by
  rw [readDetails]
  constructor
  · intro h
    obtain ⟨t, ht, hp⟩ := Option.bind_eq_some_iff.mp h
    obtain rfl := repair_of_decode ht
    exact ⟨ht, hp⟩
  · rintro ⟨ht, hp⟩
    rw [ht, Option.bind_some, hp]

/-- The exported details of a probe are the text that it gave, and read as the object that its latest run had to
report, exactly when that run is clear. -/
theorem exported_details_iff (es : List Event) (x : Surroundings) {p : Probe} {r : Run}
    (hr : latest (history b page es) p = some r) (hg : Configured b.target r.configuration) :
    (∃ y ∈ (x.exportReport (after b page es)).probes, y.id = p.name ∧
      decode y.detailsJSON = some (repair y.detailsJSON) ∧
      ∃ ms, Probes.reported b r.configuration r.calls p = some (.obj ms) ∧
        Json.parse false (repair y.detailsJSON) = some (.obj ms)) ↔ Clear b r.configuration r.calls p := by
  rw [← listed_details_iff es hr hg]
  constructor
  · rintro ⟨y, hy, hid, hd, ms, hj, hp⟩
    exact ⟨y, hy, hid, ms, hj, readDetails_iff.mpr ⟨hd, hp⟩⟩
  · rintro ⟨y, hy, hid, ms, hj, hread⟩
    obtain ⟨hd, hp⟩ := readDetails_iff.mp hread
    exact ⟨y, hy, hid, hd, ms, hj, hp⟩

def sampleRun : Run := ⟨.initial, sampleCalls none (.ok ()), fun _ => 0⟩

def sampleSurroundings : Surroundings where
  info _ := none
  launched _ := none
  environment _ := none
  model := lit "iPhone"
  systemName := lit "iOS"
  systemVersion := lit "17.4"
  uname := some (bytes "iPhone16,1" ++ [0])
  getpagesize := 16384
  timestamp := lit "2026-08-30T00:00:00Z"
  timestamp_ne := by decide

theorem exported_details_iff_socket :
    (∃ y ∈ (sampleSurroundings.exportReport (after ⟨.linux, true⟩ 4096 [.runAll sampleRun])).probes,
      y.id = Probe.unixSocket.name ∧
      decode y.detailsJSON = some (repair y.detailsJSON) ∧
        ∃ ms, Probes.reported ⟨.linux, true⟩ sampleRun.configuration sampleRun.calls .unixSocket = some (.obj ms) ∧
          Json.parse false (repair y.detailsJSON) = some (.obj ms)) ↔
      Clear ⟨.linux, true⟩ sampleRun.configuration sampleRun.calls .unixSocket :=
  exported_details_iff [.runAll sampleRun] sampleSurroundings (p := .unixSocket) (r := sampleRun) rfl .initial

end Exported

end Graft64.Platform
