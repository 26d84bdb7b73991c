import Graft64.Library.Blocks
import Graft64.Runtime.RequiredFields
import Graft64.Runtime.Upstream

/-! The readers of the lock in `fetch-upstream.sh`, `apply-patches.sh` and `build-runtime-linux-arm64.sh`. -/

namespace Graft64.Runtime.DepsLock

open Graft64.Library Regex Results

/-- `^    ([A-Za-z0-9_]+):\s*(.*?)\s*$` -/
def trimmedPattern : Regex :=
  .seq .startOfLine (.seqs [.text (List.replicate 4 32), .group (.plus isWord), .char (· == 58), .many isSpace,
    .group (.manyLazy inLine), .many isSpace, .endOfLine])

/-- `^  - name:\s*([^\n]+)\n(.*?)(?=^  - name:|\Z)` -/
def unendedPattern : Regex :=
  .seqs [.startOfLine, .text (lit "  - name:"), .many isSpace, .group (.plus inLine), .char isNewline,
    .group (.manyLazy fun _ => true), .ahead (.alt (.seq .startOfLine (.text (lit "  - name:"))) .endOfText)]

def unendedBlocks (text : Str) : List (Str × Str) := findPairs unendedPattern text

/-- `str.strip`, of these characters. -/
def stripOf (p : ℕ → Bool) (s : Str) : Str := (s.dropWhile p).rdropWhile p

def isDoubleQuote (c : ℕ) : Bool := c == 34

/-- `dict(…)`, which keeps the last value of a key. -/
def lastOf (key : Str) (fields : List (Str × Str)) : Option Str := (valuesOf key fields).getLast?

/-- The reader of `fetch-upstream.sh`. -/
structure Fetched where
  printed : List Upstream.Dep
  error : Option Str
deriving DecidableEq

def fetchRequired : List Str := [lit "repository", lit "ref", lit "commit", lit "archive", lit "archive_sha256"]

/-- The loop over the blocks: each record is printed before the next block is looked at. -/
def fetchBlocks (seen : List Str) : List (Str × Str) → Fetched
  | [] => ⟨[], none⟩
  | (raw, body) :: blocks =>
    let name := strip raw
    let fields := findPairs trimmedPattern body
    let missing := fetchRequired.filter fun field => (lastOf field fields).getD [] == []
    let value := fun field => stripOf isDoubleQuote ((lastOf field fields).getD [])
    if seen.contains name then ⟨[], some (lit "duplicate dependency: " ++ name)⟩
    else if missing ≠ [] then ⟨[], some (name ++ lit ": missing fields: " ++ (lit ", ").intercalate missing)⟩
    else
      let rest := fetchBlocks (seen ++ [name]) blocks
      ⟨⟨name, value (lit "ref"), value (lit "commit"), value (lit "archive"), value (lit "archive_sha256")⟩ ::
        rest.printed, rest.error⟩

def fetchReader (text : Str) : Fetched :=
  if unendedBlocks text = [] then ⟨[], some (lit "deps.lock has no dependencies")⟩
  else fetchBlocks [] (unendedBlocks text)

/-- The loop of `apply-patches.sh` over the blocks of the lock. -/
def applyBlocks (locked : List Upstream.Dep) : List (Str × Str) → Except Str (List Upstream.Dep)
  | [] => .ok locked
  | (raw, body) :: blocks =>
    let name := stripOf isQuote (strip raw)
    let fields := findPairs trimmedPattern body
    let value := fun field => stripOf isQuote (strip ((lastOf field fields).getD []))
    if (locked.map (·.name)).contains name then .error (lit "dependency lock has duplicate dependency: " ++ name)
    else applyBlocks (locked ++ [⟨name, value (lit "ref"), value (lit "commit"), value (lit "archive"),
      value (lit "archive_sha256")⟩]) blocks

def areWineAndFex (names : List Str) : Bool :=
  names.all (fun n => n == lit "wine" || n == lit "fex") && names.contains (lit "wine") &&
    names.contains (lit "fex")

def applyReader (text : Str) : Except Str (List Upstream.Dep) := do
  let locked ← applyBlocks [] (dependencyBlocks text)
  check (areWineAndFex (locked.map (·.name))) (lit "dependency lock must contain exactly wine and fex")
  return locked

def firstRaw (text name : Str) : Option Str := ((headerPattern name).search text).bind List.head?

def isField (value : Str) : Bool := !value.isEmpty && !value.contains 9 && !value.contains 10

/-- `scalar` of `build-runtime-linux-arm64.sh`. -/
def containerScalar (text name owner : Str) : Except Str Str :=
  match firstRaw text name with
  | none => .error (lit "deps.lock is missing " ++ owner)
  | some raw =>
    if isField (scalar raw) then .ok (scalar raw) else .error (lit "deps.lock has an invalid " ++ owner)

structure Container where
  base : Str
  archive : Str
  sha : Str
deriving DecidableEq

/-- The reader of `build-runtime-linux-arm64.sh`, up to the check of the Dockerfile against `base`. -/
def containerReader (text : Str) : Except Str Container := do
  let base ← containerScalar text (lit "  container_base") (lit "toolchain.container_base")
  let archive ← containerScalar text (lit "    archive") (lit "toolchain.llvm_mingw.archive")
  let sha ← containerScalar text (lit "    archive_sha256") (lit "toolchain.llvm_mingw.archive_sha256")
  check (isHexOf 64 sha) (lit "deps.lock has an invalid toolchain.llvm_mingw.archive_sha256")
  return ⟨base, archive, sha⟩

end Graft64.Runtime.DepsLock
