import Graft64.Library.Regex
import Graft64.Library.Results
import Mathlib.Data.List.DropRight

/-! `parse_lock` of `generate-runtime-manifest.py`. -/

namespace Graft64.Runtime.DepsLock

open Graft64.Library Results

/-- What `str.isspace` and `\s` take for white space. -/
def isSpace (c : ℕ) : Bool :=
  decide (9 ≤ c ∧ c ≤ 13 ∨ 28 ≤ c ∧ c ≤ 32 ∨ c = 133 ∨ c = 160 ∨ c = 5760 ∨ 8192 ≤ c ∧ c ≤ 8202 ∨
    c = 8232 ∨ c = 8233 ∨ c = 8239 ∨ c = 8287 ∨ c = 12288)

/-- `[A-Za-z0-9_]` -/
def isWord (c : ℕ) : Bool :=
  decide (48 ≤ c ∧ c ≤ 57 ∨ 65 ≤ c ∧ c ≤ 90 ∨ c = 95 ∨ 97 ≤ c ∧ c ≤ 122)

/-- `[^\n]` -/
def inLine (c : ℕ) : Bool := c != 10

def isNewline (c : ℕ) : Bool := c == 10

def strip (s : Str) : Str := (s.dropWhile isSpace).rdropWhile isSpace

def isQuote (c : ℕ) : Bool := c == 34 || c == 39

def scalar (raw : Str) : Str :=
  let value := strip raw
  if 2 ≤ value.length ∧ value.head? = value.getLast? ∧ value.head?.any isQuote then value.tail.dropLast
  else value

abbrev Dict := List (Str × Str)

def requiredField (fields : Dict) (name owner : Str) : Except Str Str :=
  let value := scalar ((fields.lookup name).getD [])
  if value = [] then .error (owner ++ lit ": missing " ++ name) else .ok value

def requiredFields (fields : Dict) (owner : Str) (names : List Str) : Except Str Dict :=
  names.mapM fun name => (requiredField fields name owner).map fun value => (name, value)

def uniqueFieldsFrom (owner : Str) (fields : Dict) : List (Str × Str) → Except Str Dict
  | [] => .ok fields
  | (name, raw) :: found =>
    if (fields.lookup name).isSome then .error (owner ++ lit ": duplicate field " ++ name)
    else uniqueFieldsFrom owner (fields ++ [(name, scalar raw)]) found

def uniqueFields (found : List (Str × Str)) (owner : Str) : Except Str Dict := uniqueFieldsFrom owner [] found

/-- `^<name>:\s*([^\n]+)$` -/
def headerPattern (name : Str) : Regex :=
  .seqs [.startOfLine, .text (name ++ lit ":"), .many isSpace, .group (.plus inLine), .endOfLine]

/-- `^ ([A-Za-z0-9_]+):\s*([^\n]+)$`, with `indent` blanks. -/
def fieldPattern (indent : ℕ) : Regex :=
  .seq .startOfLine (.seqs [.text (List.replicate indent 32), .group (.plus isWord), .char (· == 58),
    .many isSpace, .group (.plus inLine), .endOfLine])

/-- `^toolchain:\s*\n(.*?)(?=^dependencies:)` -/
def toolchainPattern : Regex :=
  .seqs [.startOfLine, .text (lit "toolchain:"), .many isSpace, .char isNewline, .group (.manyLazy fun _ => true),
    .ahead (.seq .startOfLine (.text (lit "dependencies:")))]

/-- `^  llvm_mingw:\s*\n((?:^    [A-Za-z0-9_]+:\s*[^\n]*\n?)+)` -/
def llvmPattern : Regex :=
  .seqs [.startOfLine, .text (lit "  llvm_mingw:"), .many isSpace, .char isNewline,
    .group (.repeated (.seqs [.startOfLine, .text (lit "    "), .plus isWord, .char (· == 58), .many isSpace,
      .many inLine, .alt (.char isNewline) .empty]))]

/-- `^  - name:\s*([^\n]+)\n(.*?)(?=^  - name:|^notes:|\Z)` -/
def dependencyPattern : Regex :=
  .seqs [.startOfLine, .text (lit "  - name:"), .many isSpace, .group (.plus inLine), .char isNewline,
    .group (.manyLazy fun _ => true),
    .ahead (.alt (.seq .startOfLine (.text (lit "  - name:")))
      (.alt (.seq .startOfLine (.text (lit "notes:"))) .endOfText))]

def toolchainFields : List Str :=
  [lit "container_base", lit "architecture", lit "compiler", lit "cmake", lit "ninja"]

def llvmFields : List Str := [lit "version", lit "archive", lit "archive_sha256"]

def dependencyFields : List Str :=
  [lit "repository", lit "ref", lit "commit", lit "archive", lit "archive_sha256", lit "license", lit "role"]

structure Lock where
  toolchain : Dict
  llvmMingw : Dict
  dependencies : List Dict
deriving DecidableEq

def isHex (c : ℕ) : Bool := decide (48 ≤ c ∧ c ≤ 57 ∨ 97 ≤ c ∧ c ≤ 102)

/-- `re.fullmatch(r"[0-9a-f]{n}", s)` -/
def isHexOf (n : ℕ) (s : Str) : Bool := s.length == n && s.all isHex

def check (b : Bool) (message : Str) : Except Str Unit := if b then .ok () else .error message

def declares (text name value : Str) : Bool :=
  match (headerPattern name).search text with
  | some [raw] => scalar raw == value
  | _ => false

def toolchainBody (text : Str) : Option Str := (toolchainPattern.search text).bind List.head?

def llvmBody (toolchain : Str) : Option Str := (llvmPattern.search toolchain).bind List.head?

/-- What `re.findall` returns for an expression with two groups. -/
def findPairs (r : Regex) (text : Str) : List (Str × Str) :=
  (r.findAll text).filterMap fun caps => match caps with
    | [a, b] => some (a, b)
    | _ => none

def dependencyBlocks (text : Str) : List (Str × Str) := findPairs dependencyPattern text

def hasValue (fields : Dict) (name : Str) (p : Str → Bool) : Bool := (fields.lookup name).any p

def parseToolchain (body : Str) : Except Str Dict := do
  let scalars ← uniqueFields (findPairs (fieldPattern 2) body) (lit "toolchain")
  let toolchain ← requiredFields scalars (lit "toolchain") toolchainFields
  check (hasValue toolchain (lit "architecture") (· == lit "linux/arm64"))
    (lit "toolchain.architecture must be linux/arm64")
  return toolchain

def parseLlvm (body : Str) : Except Str Dict := do
  let fields ← uniqueFields (findPairs (fieldPattern 4) body) (lit "toolchain.llvm_mingw")
  let llvm ← requiredFields fields (lit "toolchain.llvm_mingw") llvmFields
  check (hasValue llvm (lit "archive_sha256") (isHexOf 64))
    (lit "toolchain.llvm_mingw.archive_sha256 must be a SHA-256")
  return llvm

def parseDependency (name body : Str) : Except Str Dict := do
  let fields ← uniqueFields (findPairs (fieldPattern 4) body) name
  let dependency ← requiredFields fields name dependencyFields
  check (hasValue dependency (lit "commit") (isHexOf 40)) (name ++ lit ": commit must be a 40-character SHA")
  check (hasValue dependency (lit "archive_sha256") (isHexOf 64))
    (name ++ lit ": archive_sha256 must be a SHA-256")
  return (lit "name", name) :: dependency

def parseDependencies (seen : List Str) : List (Str × Str) → Except Str (List Dict)
  | [] => .ok []
  | (raw, body) :: blocks => do
    let name := scalar raw
    check (!seen.contains name) (lit "duplicate dependency: " ++ name)
    let dependency ← parseDependency name body
    let dependencies ← parseDependencies (seen ++ [name]) blocks
    return dependency :: dependencies

def pinsWineAndFex (dependencies : List Dict) : Bool :=
  let names := dependencies.map fun d => (d.lookup (lit "name")).getD []
  names.all (fun n => n == lit "wine" || n == lit "fex") && names.contains (lit "wine") &&
    names.contains (lit "fex")

/-- `parse_lock`, on the text of the lock. -/
def parseLock (text : Str) : Except Str Lock := do
  check (declares text (lit "schema_version") (lit "1")) (lit "deps.lock must declare schema_version 1")
  check (declares text (lit "stage") (lit "GRAFT-0002")) (lit "deps.lock must declare stage GRAFT-0002")
  check (declares text (lit "policy") (lit "upstream-first")) (lit "deps.lock must declare policy upstream-first")
  let toolchainText ← orError (lit "deps.lock must contain a toolchain block") (toolchainBody text)
  let toolchain ← parseToolchain toolchainText
  let llvmText ← orError (lit "toolchain: missing llvm_mingw block") (llvmBody toolchainText)
  let llvm ← parseLlvm llvmText
  check (!(dependencyBlocks text).isEmpty) (lit "deps.lock has no dependencies")
  let dependencies ← parseDependencies [] (dependencyBlocks text)
  check (pinsWineAndFex dependencies) (lit "deps.lock must pin exactly wine and fex for G1")
  return ⟨toolchain, llvm, dependencies⟩

end Graft64.Runtime.DepsLock
