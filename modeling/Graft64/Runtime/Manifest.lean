import Graft64.Library.FileSystem
import Graft64.Library.JsonValues
import Graft64.Runtime.Binaries
import Graft64.Runtime.DepsLock
import Graft64.Runtime.PatchSeries

/-! `generate-runtime-manifest.py`: what `verify_manifest` checks a runtime directory for. -/

namespace Graft64.Runtime.Manifest

open Graft64.Library Utf8 Unpack Results DepsLock
open PatchSeries (Dependency Dir Kind Listing PatchEntry PatchTree patchEntries)

/-- What `hexdigest` returns. -/
structure Digest where
  hex : Str
  isHex : isHexOf 64 hex = true
deriving DecidableEq

/-- The hash, and how many names the walk along a path may take. -/
structure Setting where
  sha256 : Utf8.Bytes → Digest
  steps : ℕ

inductive Refusal
  | notNormalized (owner value : Str)
  | notUnderRoot (owner value : Str)
  | rootMissing
  | rootNotReal
  | absoluteLink (path target : Str)
  | brokenLink (path target : Str)
  | escapingLink (path target : Str)
  /-- A link text that `str.encode` does not take. -/
  | undecodedLink (path : Str)
  | patches (r : PatchSeries.Refusal)
  | patchStateMissing
  | patchStateNotRegular
  | patchStateInvalid
  | patchStateOther
  | notFound (owner : Str)
  | escapes (owner : Str)
  | notRegular (owner : Str)
  | testsNotArray
  | testFields (index : ℕ)
  | testStrings (index : ℕ)
  | testName (index : ℕ) (name : Str)
  | testStatus (index : ℕ) (status : Str)
  | testDigest (index : ℕ)
  | testLog (index : ℕ) (log : Str)
  | missingRoles (roles : List Str)
  | ambiguousRoles (roles : List Str)
  | notExecutable
  | elf (r : Raised Elf.Fault)
  | pe (owner : Str) (r : Raised Pe.Fault)
  | checksumUnreadable
  | checksumEmpty
  | checksumLine (index : ℕ)
  | checksumDuplicate (path : Str)
  | manifestInvalid
  | manifestFields
  | manifestVersion
  | manifestPlatform
  | sourceLockOther
  | toolchainOther
  | dependenciesOther
  | patchesOther
  | artifactsNotArray
  | artifactFields (index : ℕ)
  | artifactStrings (index : ℕ)
  | artifactDuplicate (path : Str)
  | artifactDigest (index : ℕ)
  | artifactRole (index : ℕ)
  | artifactLink (index : ℕ)
  | artifactKind (index : ℕ) (kind : Str)
  | artifactsOther
  | checksumsOther

def ensure (b : Bool) (r : Refusal) : Except Refusal Unit := if b then .ok () else .error r

/-- `f"{owner}[{index}]"` -/
def indexed (owner : Str) (index : ℕ) : Str := owner ++ 91 :: Decimal.ofNat index ++ [93]

def isAbsolute (value : Str) : Bool := value.head? == some 47

def parts (value : Str) : List Str := (value.splitOn 47).filter fun p => p != [] && p != [46]

/-- `as_posix`, for a path that is not absolute. -/
def asPosix (value : Str) : Str := if parts value = [] then [46] else [47].intercalate (parts value)

def posixName (value : Str) : Str := (parts value).getLast?.getD []

def safeRelativePath (value owner : Str) (rootPrefix : Bool) : Except Refusal Str :=
  if value = [] ∨ isAbsolute value = true ∨ lit ".." ∈ parts value ∨ 92 ∈ value ∨ lit "./" <+: value ∨
      asPosix value ≠ value then .error (.notNormalized owner value)
  else if rootPrefix = true ∧ (parts value).head? ≠ some (lit "root") then .error (.notUnderRoot owner value)
  else .ok value

def artifactRole (relative : Str) : Str :=
  if relative = lit "root/bin/wine" then lit "wine-loader"
  else if posixName relative = lit "libarm64ecfex.dll" then lit "fex-arm64ec-module"
  else if posixName relative = lit "libwow64fex.dll" then lit "fex-wow64-module"
  else lit "runtime-file"

def requiredRoles : List Str := [lit "wine-loader", lit "fex-arm64ec-module", lit "fex-wow64-module"]

structure Artifact where
  path : Str
  sha256 : Str
  role : Str
  kind : Str
  linkTarget : Option Str
deriving DecidableEq

structure Located where
  path : Path
  content : File
  executable : Bool

structure TestEntry where
  name : Str
  status : Str
  log : Str
  sha256 : Str

/-- How `read_text` takes line ends. -/
def universalNewlines : Str → Str
  | 13 :: 10 :: s => 10 :: universalNewlines s
  | 13 :: s => 10 :: universalNewlines s
  | c :: s => c :: universalNewlines s
  | [] => []

lemma universalNewlines_of_not_mem {s : Str} (h : 13 ∉ s) : universalNewlines s = s := by
  fun_induction universalNewlines s with
  | case1 s => simp at h
  | case2 s => simp at h
  | case3 c s _ _ ih => rw [ih (fun hs => h (List.mem_cons_of_mem _ hs))]
  | case4 => rfl

lemma universalNewlines_eq_nil {s : Str} (h : universalNewlines s = []) : s = [] := by
  revert h
  fun_cases universalNewlines s <;> simp

lemma of_universalNewlines {t s : Str} (ht : 10 ∉ t) (h : universalNewlines s = t ++ [10]) :
    s = t ++ [10] ∨ s = t ++ [13] ∨ s = t ++ [13, 10] := by
  induction t generalizing s with
  | nil =>
    revert h
    fun_cases universalNewlines s with
    | case1 s =>
      intro h
      obtain rfl := universalNewlines_eq_nil (List.cons.inj h).2
      simp
    | case2 s =>
      intro h
      obtain rfl := universalNewlines_eq_nil (List.cons.inj h).2
      simp
    | case3 c s =>
      intro h
      obtain ⟨rfl, hs⟩ := List.cons.inj h
      obtain rfl := universalNewlines_eq_nil hs
      simp
    | case4 => simp
  | cons c t ih =>
    rw [List.mem_cons, not_or] at ht
    revert h
    fun_cases universalNewlines s with
    | case1 s =>
      intro h
      exact absurd (List.cons.inj h).1 ht.1
    | case2 s =>
      intro h
      exact absurd (List.cons.inj h).1 ht.1
    | case3 d s =>
      intro h
      obtain ⟨rfl, hs⟩ := List.cons.inj h
      simpa using ih ht.2 hs
    | case4 => simp

/-- The end of a line, for `str.splitlines`. -/
def endsLine (c : ℕ) : Bool :=
  c == 10 || c == 11 || c == 12 || c == 13 || c == 28 || c == 29 || c == 30 || c == 133 || c == 8232 || c == 8233

def splitLinesFrom : Str → Str → List Str
  | line, [] => if line = [] then [] else [line]
  | line, 13 :: 10 :: s => line :: splitLinesFrom [] s
  | line, c :: s => if endsLine c then line :: splitLinesFrom [] s else splitLinesFrom (line ++ [c]) s

def splitLines (text : Str) : List Str := splitLinesFrom [] text

/-- The components that the system gets for a path that is not absolute. -/
def pathOf (value : Str) : Option (List Utf8.Bytes) := (parts value).mapM fsencode

def strField (key : Str) (ms : List (Str × Json)) : Option Str :=
  match Json.field key ms with
  | some (.str s) => some s
  | _ => none

def sourceLockJson : Json :=
  .obj [(lit "schema_version", .int 1), (lit "stage", .str (lit "GRAFT-0002")),
    (lit "policy", .str (lit "upstream-first"))]

def dictJson (d : Dict) : List (Str × Json) := d.map fun field => (field.1, .str field.2)

def toolchainJson (lock : Lock) : Json :=
  .obj (dictJson lock.toolchain ++ [(lit "llvm_mingw", .obj (dictJson lock.llvmMingw))])

def dependenciesJson (lock : Lock) : Json := .arr (lock.dependencies.map fun d => .obj (dictJson d))

def platformJson : Json := .obj [(lit "os", .str (lit "linux")), (lit "architecture", .str (lit "aarch64"))]

def patchJson (e : PatchEntry Digest) : Json :=
  .obj [(lit "dependency", .str (lit e.dependency.name)), (lit "path", .str e.path),
    (lit "sha256", .str e.sha256.hex)]

def patchesJson (es : List (PatchEntry Digest)) : Json := .arr (es.map patchJson)

section

variable (v : Setting) (fs : FileSystem) (runtime repository : Path)

def readText (p : Path) : Option Str := ((fs.readBytes v.steps p).bind decode).map universalNewlines

/-- `json.loads(path.read_text(encoding="utf-8"))` -/
def readJson (p : Path) : Option Json := (readText v fs p).bind (Json.parse true)

def root : Path := runtime ++ [bytes "root"]

/-- `path.relative_to(runtime_dir).as_posix()` -/
def relativeTo (p : Path) : Str := [47].intercalate ((p.drop runtime.length).map fsdecode)

/-- One round of the loop of `collect_artifacts`; directories and special files are passed over. -/
def collectArtifact (e : Path × Entry) : Except Refusal (Option Artifact) :=
  let relative := relativeTo runtime e.1
  match e.2 with
  | .dir | .other => .ok none
  | .file content _ => do
    let _ ← safeRelativePath relative (lit "runtime artifact") true
    return some ⟨relative, (v.sha256 content.bytes).hex, artifactRole relative, lit "file", none⟩
  | .link text => do
    let target := fsdecode text
    let _ ← safeRelativePath relative (lit "runtime artifact") true
    ensure (!isAbsolute target) (.absoluteLink relative target)
    let resolved ← orError (.brokenLink relative target) (fs.resolve v.steps e.1)
    ensure ((root runtime).isPrefixOf resolved) (.escapingLink relative target)
    let encoded ← orError (.undecodedLink relative) (encode target)
    return some ⟨relative, (v.sha256 encoded).hex, artifactRole relative, lit "symlink", some target⟩

/-- `sorted(root.rglob("*"))` -/
def walkRoot : List (Path × Entry) := sortBy (fun e => e.1.map fsdecode) (fs.below (root runtime))

def collectArtifacts : Except Refusal (List Artifact) :=
  match fs.get (root runtime) with
  | some .dir => (walkRoot fs runtime).mapM (collectArtifact v fs runtime) |>.map (List.filterMap id)
  | some (.link _) => match fs.stat v.steps (root runtime) with
    | some .dir => .error .rootNotReal
    | _ => .error .rootMissing
  | _ => .error .rootMissing

def kindOf (p : Path) : Entry → Kind
  | .file content _ => .regular content.bytes
  | .dir => .directory
  | .link _ => .symlink (fs.stat v.steps p).isNone
  | .other => .other

def listing (p : Path) : Listing where
  entries := (fs.children p).map fun e => ⟨e.1, kindOf v fs (p ++ [e.1]) e.2⟩
  names := by
    intro n hn
    obtain ⟨e, he, rfl⟩ := List.mem_map.mp hn
    obtain ⟨h, -, -, hs, h0⟩ := FileSystem.children_name (List.mem_map_of_mem he)
    exact ⟨h, h0, hs⟩
  nodup := by
    rw [List.map_map]
    exact FileSystem.children_nodup p

def patchTree : PatchTree where
  rootReal := fs.isDir (repository ++ [bytes "patches"])
  dir d :=
    let p := repository ++ [bytes "patches", bytes d.name]
    if fs.isDir p then .real (listing v fs p) else .unreal

def appliedPatchEntries : Except Refusal (List (PatchEntry Digest)) := do
  let expected ← (patchEntries v.sha256 (patchTree v fs repository)).mapError .patches
  let state := runtime ++ [bytes "applied-patches.json"]
  if !fs.isFile v.steps state then
    ensure expected.isEmpty .patchStateMissing
    return []
  else do
    ensure (!fs.isLink state) .patchStateNotRegular
    let found ← orError .patchStateInvalid (readJson v fs state)
    ensure (found.eqv true (patchesJson expected)) .patchStateOther
    return expected

def resolveFileInside (p rootPath : List Utf8.Bytes) (owner : Str) : Except Refusal Located := do
  let resolvedRoot ← orError (.notFound owner) (fs.resolve v.steps rootPath)
  let resolved ← orError (.notFound owner) (fs.resolve v.steps p)
  ensure (resolvedRoot.isPrefixOf resolved) (.escapes owner)
  match fs.get resolved with
  | some (.file content executable) => return ⟨resolved, content, executable⟩
  | _ => .error (.notRegular owner)

def testStatuses : List Str := [lit "PASS", lit "FAIL", lit "BLOCKED", lit "UNVERIFIED"]

/-- What the two validators ask of a name and a status. -/
def checkTestName (seen : List Str) (index : ℕ) (name status : Str) : Except Refusal Unit := do
  ensure (name != [] && !seen.contains name) (.testName index name)
  ensure (testStatuses.contains status) (.testStatus index status)

def locateLog (index : ℕ) (log : Str) : Except Refusal Located := do
  let p ← orError (.notFound (indexed (lit "test") index ++ lit " log")) (pathOf log)
  resolveFileInside v fs (runtime ++ p) runtime (indexed (lit "test") index ++ lit " log")

def manifestTest (seen : List Str) (index : ℕ) (raw : Json) : Except Refusal TestEntry :=
  match raw with
  | .obj ms => do
    ensure (Json.hasKeys ms [lit "name", lit "status", lit "log", lit "sha256"]) (.testFields index)
    let name ← orError (.testStrings index) (strField (lit "name") ms)
    let status ← orError (.testStrings index) (strField (lit "status") ms)
    let log ← orError (.testStrings index) (strField (lit "log") ms)
    let digest ← orError (.testStrings index) (strField (lit "sha256") ms)
    checkTestName seen index name status
    let relative ← safeRelativePath log (indexed (lit "test") index ++ lit ".log") false
    ensure (isHexOf 64 digest) (.testDigest index)
    let located ← locateLog v fs runtime index relative
    ensure ((v.sha256 located.content.bytes).hex == digest) (.testLog index relative)
    return ⟨name, status, log, digest⟩
  | _ => .error (.testFields index)

def testsFrom (check : List Str → ℕ → Json → Except Refusal TestEntry) (seen : List Str) (index : ℕ) :
    List Json → Except Refusal (List TestEntry)
  | [] => .ok []
  | raw :: raws => do
    let test ← check seen index raw
    let tests ← testsFrom check (seen ++ [test.name]) (index + 1) raws
    return test :: tests

def validateManifestTests : Json → Except Refusal (List TestEntry)
  | .arr raws => testsFrom (manifestTest v fs runtime) [] 0 raws
  | _ => .error .testsNotArray

def withRole (artifacts : List Artifact) (role : Str) : List Artifact := artifacts.filter fun a => a.role == role

def requiredFile (artifacts : List Artifact) (role : Str) : Except Refusal Located := do
  let artifact ← orError (.notFound role) (withRole artifacts role).head?
  let p ← orError (.notFound role) (pathOf artifact.path)
  resolveFileInside v fs (runtime ++ p) (root runtime) role

def validateRequiredArtifacts (artifacts : List Artifact) : Except Refusal Unit := do
  let missing := requiredRoles.filter fun role => (withRole artifacts role).isEmpty
  ensure missing.isEmpty (.missingRoles missing)
  let ambiguous := requiredRoles.filter fun role => (withRole artifacts role).length != 1
  ensure ambiguous.isEmpty (.ambiguousRoles ambiguous)
  let wine ← requiredFile v fs runtime artifacts (lit "wine-loader")
  let arm64ec ← requiredFile v fs runtime artifacts (lit "fex-arm64ec-module")
  let wow64 ← requiredFile v fs runtime artifacts (lit "fex-wow64-module")
  ensure wine.executable .notExecutable
  (Elf.validateElf64Aarch64 wine.content).mapError .elf
  (Pe.validatePeMachine 0xA641 arm64ec.content).mapError (.pe (lit "libarm64ecfex.dll"))
  (Pe.validatePeMachine 0xAA64 wow64.content).mapError (.pe (lit "libwow64fex.dll"))

/-- `([0-9a-f]{64})\s+(.+)`, to the end of the line. -/
def checksumPattern : Regex :=
  .seqs [.group (.seqs (List.replicate 64 (.char isHex))), .plus isSpace, .group (.plus inLine), .endOfText]

def parseChecksumLines (seen : Dict) (index : ℕ) : List Str → Except Refusal Dict
  | [] => .ok seen
  | line :: ls => match checksumPattern.matchAt ⟨true, line⟩ with
    | some (_, [digest, relative]) => do
      let _ ← safeRelativePath relative (lit "checksum line " ++ Decimal.ofNat index) true
      ensure (seen.lookup relative).isNone (.checksumDuplicate relative)
      parseChecksumLines (seen ++ [(relative, digest)]) (index + 1) ls
    | _ => .error (.checksumLine index)

def parseChecksumManifest (p : Path) : Except Refusal Dict := do
  let text ← orError .checksumUnreadable (readText v fs p)
  ensure (!(splitLines text).isEmpty) .checksumEmpty
  parseChecksumLines [] 1 (splitLines text)

def sameDict (a b : Dict) : Bool :=
  a.all (fun field => b.lookup field.1 == some field.2) && b.all fun field => a.lookup field.1 == some field.2

def checkLinkTarget (index : ℕ) (kind : Str) (target : Option Json) : Except Refusal (Option Str) :=
  if kind = lit "file" then match target with
    | some .null => .ok none
    | _ => .error (.artifactLink index)
  else if kind = lit "symlink" then match target with
    | some (.str s) => if s = [] ∨ isAbsolute s = true then .error (.artifactLink index) else .ok (some s)
    | _ => .error (.artifactLink index)
  else .error (.artifactKind index kind)

/-- One round of the loop of `verify_manifest` over the artifacts. -/
def manifestArtifact (seen : List Str) (index : ℕ) (raw : Json) : Except Refusal Artifact :=
  match raw with
  | .obj ms => do
    ensure (Json.hasKeys ms [lit "path", lit "sha256", lit "role", lit "kind", lit "link_target"])
      (.artifactFields index)
    let path ← orError (.artifactStrings index) (strField (lit "path") ms)
    let digest ← orError (.artifactStrings index) (strField (lit "sha256") ms)
    let role ← orError (.artifactStrings index) (strField (lit "role") ms)
    let kind ← orError (.artifactStrings index) (strField (lit "kind") ms)
    let relative ← safeRelativePath path (indexed (lit "artifact") index) true
    ensure (!seen.contains relative) (.artifactDuplicate relative)
    ensure (isHexOf 64 digest) (.artifactDigest index)
    ensure (role == artifactRole relative) (.artifactRole index)
    let target ← checkLinkTarget index kind (Json.field (lit "link_target") ms)
    return ⟨path, digest, role, kind, target⟩
  | _ => .error (.artifactFields index)

def artifactsFrom (seen : List Str) (index : ℕ) : List Json → Except Refusal (List Artifact)
  | [] => .ok []
  | raw :: raws => do
    let artifact ← manifestArtifact seen index raw
    let artifacts ← artifactsFrom (seen ++ [artifact.path]) (index + 1) raws
    return artifact :: artifacts

def manifestKeys : List Str :=
  [lit "schema_version", lit "stage", lit "platform", lit "source_lock", lit "toolchain", lit "dependencies",
    lit "patches", lit "artifacts", lit "tests"]

/-- Whether a field of the manifest equals a value, as `==` compares them. -/
def fieldIs (ms : List (Str × Json)) (key : Str) (j : Json) : Bool :=
  (Json.field key ms).any fun found => found.eqv true j

/-- `verify_manifest`, after the manifest is read. -/
def verifyJson (lock : Lock) : Json → Except Refusal Unit
  | .obj ms => do
    ensure (Json.hasKeys ms manifestKeys) .manifestFields
    ensure (fieldIs ms (lit "schema_version") (.int 1) &&
      fieldIs ms (lit "stage") (.str (lit "G1"))) .manifestVersion
    ensure (fieldIs ms (lit "platform") platformJson) .manifestPlatform
    ensure (fieldIs ms (lit "source_lock") sourceLockJson) .sourceLockOther
    ensure (fieldIs ms (lit "toolchain") (toolchainJson lock)) .toolchainOther
    ensure (fieldIs ms (lit "dependencies") (dependenciesJson lock)) .dependenciesOther
    let patches ← appliedPatchEntries v fs runtime repository
    ensure (fieldIs ms (lit "patches") (patchesJson patches)) .patchesOther
    let raws ← orError .artifactsNotArray (match Json.field (lit "artifacts") ms with
      | some (.arr raws) => some raws
      | _ => none)
    let artifacts ← artifactsFrom [] 0 raws
    let actual ← collectArtifacts v fs runtime
    ensure (artifacts == actual) .artifactsOther
    validateRequiredArtifacts v fs runtime artifacts
    let checksums ← parseChecksumManifest v fs (runtime ++ [bytes "runtime-manifest.sha256"])
    ensure (sameDict checksums (artifacts.map fun a => (a.path, a.sha256))) .checksumsOther
    let _ ← validateManifestTests v fs runtime ((Json.field (lit "tests") ms).getD .null)
    return ()
  | _ => .error .manifestFields

def verifyManifest (lock : Lock) : Except Refusal Unit := do
  let manifest ← orError .manifestInvalid (readJson v fs (runtime ++ [bytes "runtime-manifest.json"]))
  verifyJson v fs runtime repository lock manifest

end

end Graft64.Runtime.Manifest
