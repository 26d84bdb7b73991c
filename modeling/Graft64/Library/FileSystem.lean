import Graft64.Library.Unpack
import Mathlib.Data.List.Nodup

/-! A tree of directories, files and symbolic links, and the paths through it. -/

namespace Graft64.Library

open Unpack

abbrev Path := List Bytes

inductive Entry
  | file (content : File) (executable : Bool)
  | dir
  | link (target : Bytes)
  | other

namespace FileSystem

def dot : Bytes := [46]

def dotdot : Bytes := [46, 46]

def IsName (n : Bytes) : Prop := n ≠ [] ∧ n ≠ dot ∧ n ≠ dotdot ∧ 47 ∉ n ∧ 0 ∉ n

instance (n : Bytes) : Decidable (IsName n) := inferInstanceAs (Decidable (_ ∧ _))

end FileSystem

open FileSystem in
/-- What stands at each path, the root directory aside. -/
structure FileSystem where
  entries : List (Path × Entry)
  nodup : (entries.map Prod.fst).Nodup
  names : ∀ p ∈ entries.map Prod.fst, p ≠ [] ∧ ∀ n ∈ p, IsName n
  parents : ∀ p ∈ entries.map Prod.fst, p.dropLast = [] ∨
    ∃ e ∈ entries, e.1 = p.dropLast ∧ (match e.2 with | .dir => true | _ => false) = true

namespace FileSystem

variable (fs : FileSystem)

/-- `lstat` -/
def get (p : Path) : Option Entry := if p = [] then some .dir else fs.entries.lookup p

def isDir (p : Path) : Bool :=
  match fs.get p with
  | some .dir => true
  | _ => false

/-- `Path.is_symlink` -/
def isLink (p : Path) : Bool :=
  match fs.get p with
  | some (.link _) => true
  | _ => false

def components (target : Bytes) : List Bytes := target.splitOn 47

/-- Where the names lead from a directory that is reached without links, in so many steps at most. The
kernel asks for a directory before `.` and `..`; `os.path.realpath` does not. -/
def walk (kernel : Bool) : ℕ → Path → List Bytes → Option Path
  | _, p, [] => some p
  | 0, _, _ :: _ => none
  | steps + 1, p, name :: rest =>
    if name = [] ∨ name = dot then if kernel && !fs.isDir p then none else walk kernel steps p rest
    else if name = dotdot then if kernel && !fs.isDir p then none else walk kernel steps p.dropLast rest
    else match fs.get (p ++ [name]) with
      | none => none
      | some (.link target) =>
        if target = [] then none
        else walk kernel steps (if target.head? = some 47 then [] else p) (components target ++ rest)
      | some _ => walk kernel steps (p ++ [name]) rest

/-- `Path.resolve(strict=True)` -/
def resolve (steps : ℕ) (p : List Bytes) : Option Path := fs.walk false steps [] p

def stat (steps : ℕ) (p : List Bytes) : Option Entry := (fs.walk true steps [] p).bind fs.get

def content : Entry → Option Bytes
  | .file f _ => some f.bytes
  | _ => none

def isFile (steps : ℕ) (p : List Bytes) : Bool := ((fs.stat steps p).bind content).isSome

def readBytes (steps : ℕ) (p : List Bytes) : Option Bytes := (fs.stat steps p).bind content

def below (p : Path) : List (Path × Entry) := fs.entries.filter fun e => p.isPrefixOf e.1 && e.1 != p

def children (p : Path) : List (Bytes × Entry) :=
  fs.entries.filterMap fun e => if e.1.dropLast = p then e.1.getLast?.map fun n => (n, e.2) else none

variable {fs}

lemma mem_children {p : Path} {n : Bytes} {e : Entry} : (n, e) ∈ fs.children p ↔ (p ++ [n], e) ∈ fs.entries := by
  rw [children, List.mem_filterMap]
  constructor
  · rintro ⟨⟨q, f⟩, hq, h⟩
    split_ifs at h with hd
    · obtain ⟨m, hm, h⟩ := Option.map_eq_some_iff.mp h
      obtain ⟨rfl, rfl⟩ := Prod.mk.inj h
      have he : q = p ++ [m] := by
        rw [← hd]
        exact (List.dropLast_append_getLast? m hm).symm
      exact he ▸ hq
  · intro h
    exact ⟨(p ++ [n], e), h, by simp⟩

lemma children_name {p : Path} {n : Bytes} (h : n ∈ (fs.children p).map Prod.fst) : IsName n := by
  obtain ⟨⟨m, e⟩, hm, rfl⟩ := List.mem_map.mp h
  have hp := fs.names (p ++ [m]) (List.mem_map.mpr ⟨_, mem_children.mp hm, rfl⟩)
  exact hp.2 m (by simp)

lemma children_nodup (p : Path) : ((fs.children p).map Prod.fst).Nodup := by
  have hmap : (fs.children p).map Prod.fst =
      (fs.entries.map Prod.fst).filterMap fun q => if q.dropLast = p then q.getLast? else none := by
    rw [children, List.map_filterMap, List.filterMap_map]
    congr 1
    funext e
    by_cases hd : e.1.dropLast = p <;> simp [hd, Function.comp_def]
  rw [hmap]
  apply List.Nodup.filterMap _ fs.nodup
  intro q q' n hq hq'
  rw [Option.mem_def, Option.ite_none_right_eq_some] at hq hq'
  rw [← List.dropLast_append_getLast? n hq.2, ← List.dropLast_append_getLast? n hq'.2, hq.1, hq'.1]

end FileSystem

end Graft64.Library
