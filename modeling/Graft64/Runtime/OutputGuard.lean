import Graft64.Library.Directories
import Graft64.Library.Runs
import Graft64.Runtime.Manifest

/-! `prepare-runtime-output.py`: the marker of an output directory, and the builds it lets delete
there. -/

namespace Graft64.Runtime.OutputGuard

open Graft64.Library Utf8 FileSystem Manifest

def markerName : Bytes := bytes ".graft64-runtime-output"

def markerLine : String := "Graft64 generated runtime output v1"

def markerText : Str := lit markerLine ++ [10]

def markerFile : Unpack.File := ⟨bytes markerLine ++ [10], by decide⟩

inductive Refusal
  | symlink
  | unresolved
  | home
  | notDirectory
  | mkdir
  | markerNotRegular
  | markerUndecodable
  | markerInvalid
  | unexpected (names : List Str)
  | write

def readText (content : Bytes) : Option Str := (decode content).map universalNewlines

variable (steps : ℕ)

/-- The marker of a directory that is there: it is checked, or written when there is nothing else. -/
def mark (output : Path) (fs : FileSystem) : FileSystem × Except Refusal Unit :=
  if ((fs.walk true (steps + 1) output [markerName]).bind fs.get).isSome then
    match fs.get (output ++ [markerName]) with
    | some (.file content _) => match readText content.bytes with
      | none => (fs, .error .markerUndecodable)
      | some text => if text = markerText then (fs, .ok ()) else (fs, .error .markerInvalid)
    | _ => (fs, .error .markerNotRegular)
  else if fs.children output ≠ [] then
    (fs, .error (.unexpected (sortBy id ((fs.children output).map fun c => fsdecode c.1))))
  else match fs.put output markerName (.file markerFile false) with
    | some fs' => (fs', .ok ())
    | none => (fs, .error .write)

/-- The file system afterwards, and whether the call ends with an error. A resolved path holds no
link, so `get` is what stands there. -/
def prepareOutput (home output : List Bytes) (fs : FileSystem) : FileSystem × Except Refusal Unit :=
  if fs.isSymlink steps output then (fs, .error .symlink)
  else match fs.realpath steps output, fs.realpath steps home with
    | some output, some home =>
      if output = home then (fs, .error .home)
      else if (fs.get output).isSome && !fs.isDir output then (fs, .error .notDirectory)
      else match fs.makeDirectory output with
        | (fs', false) => (fs', .error .mkdir)
        | (fs', true) => mark steps output fs'
    | _, _ => (fs, .error .unresolved)

def Marked (fs : FileSystem) (output : Path) : Prop :=
  ∃ content x, fs.get (output ++ [markerName]) = some (.file content x) ∧ content.bytes = markerFile.bytes

def Acceptable (fs : FileSystem) (output : Path) : Prop :=
  fs.get output = none ∨ fs.isDir output = true ∧ (fs.children output = [] ∨ Marked fs output)

def OtherLineEnd (content : Bytes) : Prop :=
  content = bytes markerLine ++ [13] ∨ content = bytes markerLine ++ [13, 10]

lemma readText_eq_markerText {content : Bytes} :
    readText content = some markerText ↔ content = markerFile.bytes ∨ OtherLineEnd content := by
  constructor
  · intro h
    obtain ⟨s, hd, hs⟩ := Option.map_eq_some_iff.mp h
    have he := encode_decode hd
    rcases of_universalNewlines (by decide) hs with rfl | rfl | rfl
    · exact .inl (Option.some.inj (he.symm.trans (by decide)))
    · exact .inr (.inl (Option.some.inj (he.symm.trans (by decide))))
    · exact .inr (.inr (Option.some.inj (he.symm.trans (by decide))))
  · rintro (rfl | rfl | rfl) <;> decide

lemma mark_ok {output : Path} {fs fs' : FileSystem} (h : mark steps output fs = (fs', .ok ())) :
    (fs' = fs ∧ ∃ content x, fs.get (output ++ [markerName]) = some (.file content x) ∧
        readText content.bytes = some markerText) ∨
      fs.children output = [] ∧ fs.put output markerName (.file markerFile false) = some fs' := by
  unfold mark at h
  split at h
  · split at h
    · rename_i content x hget
      split at h
      · cases h
      · split_ifs at h with ht
        · rename_i text hr
          exact .inl ⟨(Prod.mk.inj h).1.symm, content, x, hget, by rw [hr, ht]⟩
        · cases h
    · cases h
  · split_ifs at h with hc
    · cases h
    · rw [not_not] at hc
      split at h
      · rename_i fs₁ hput
        exact .inr ⟨hc, (Prod.mk.inj h).1 ▸ hput⟩
      · cases h

lemma mark_error {output : Path} {fs fs' : FileSystem} {r : Refusal}
    (h : mark steps output fs = (fs', .error r)) : fs' = fs := by
  unfold mark at h
  repeat' split at h
  all_goals first | exact (Prod.mk.inj h).1.symm | cases h

lemma markerName_isName : IsName markerName := by decide

lemma mark_of_file {output : Path} {fs : FileSystem} {content : Unpack.File} {x : Bool}
    (hget : fs.get (output ++ [markerName]) = some (.file content x))
    (hr : readText content.bytes = some markerText) : mark steps output fs = (fs, .ok ()) := by
  have hw : fs.walk true (steps + 1) output [markerName] = some (output ++ [markerName]) := by
    rw [walk, if_neg (by decide), if_neg (by decide), hget]
    cases steps <;> rfl
  simp [mark, hw, hget, hr]

variable {steps} {home output : List Bytes} {fs fs' : FileSystem}

structure Reached (steps : ℕ) (home output : List Bytes) (fs : FileSystem) (out : Path) (fs₁ : FileSystem) :
    Prop where
  plain : fs.isSymlink steps output = false
  resolves : fs.realpath steps output = some out
  notHome : ∃ h, fs.realpath steps home = some h ∧ out ≠ h
  directory : fs.get out = none ∨ fs.isDir out = true
  made : fs.makeDirectory out = (fs₁, true)

lemma prepareOutput_cases (steps : ℕ) (home output : List Bytes) (fs : FileSystem) :
    (∃ r, prepareOutput steps home output fs = (fs, .error r)) ∨
      ∃ out fs₁, Reached steps home output fs out fs₁ ∧ prepareOutput steps home output fs =
        mark steps out fs₁ := by
  unfold prepareOutput
  split
  · exact .inl ⟨_, rfl⟩
  · rename_i hs
    split
    · rename_i out h ho hh
      split_ifs with hne hd
      · exact .inl ⟨_, rfl⟩
      · exact .inl ⟨_, rfl⟩
      · split
        · rename_i fs₁ hm
          rw [makeDirectory_false hm]
          exact .inl ⟨_, rfl⟩
        · rename_i fs₁ hm
          refine .inr ⟨out, fs₁, ⟨by simpa using hs, ho, ⟨h, hh, hne⟩, ?_, hm⟩, rfl⟩
          cases hg : fs.get out <;> simp_all
    · exact .inl ⟨_, rfl⟩

lemma Reached.prepareOutput {out : Path} {fs₁ : FileSystem} (h : Reached steps home output fs out fs₁) :
    prepareOutput steps home output fs = mark steps out fs₁ := by
  obtain ⟨h', hh, hne⟩ := h.notHome
  have hd : ((fs.get out).isSome && !fs.isDir out) = false := by
    rcases h.directory with hd | hd <;> simp [hd]
  simp [OutputGuard.prepareOutput, h.plain, h.resolves, hh, hne, hd, h.made]

lemma Reached.eq_of_isDir {out : Path} {fs₁ : FileSystem} (h : Reached steps home output fs out fs₁)
    (hd : fs.isDir out = true) : fs₁ = fs := by
  have hm := h.made
  rw [makeDirectory_of_isDir hd] at hm
  exact (Prod.mk.inj hm).1.symm

lemma Reached.children_of_absent {out : Path} {fs₁ : FileSystem} (h : Reached steps home output fs out fs₁)
    (hd : fs.get out = none) : fs₁.children out = [] := by
  rw [children_eq_nil_iff]
  intro n
  rcases (makeDirectory_true h.made).2 (out ++ [n]) with he | ⟨-, -, hp⟩
  · rw [he]
    exact get_append_eq_none (by simp [isDir, hd])
  · have hl := hp.length_le
    simp at hl

variable (steps) in
lemma mark_of_children_eq_nil {out : Path} (hd : fs.isDir out = true) (hc : fs.children out = []) :
    ∃ fs', mark steps out fs = (fs', .ok ()) := by
  have hget := children_eq_nil_iff.mp hc markerName
  obtain ⟨fs', hput⟩ := put_isSome markerName_isName hd (by simp [isDir, hget]) (e := .file markerFile false)
  have hw : fs.walk true (steps + 1) out [markerName] = none := by
    rw [walk, if_neg (by decide), if_neg (by decide), hget]
  refine ⟨fs', ?_⟩
  simp [mark, hw, hc, hput]

lemma prepareOutput_error {r : Refusal} (h : prepareOutput steps home output fs = (fs', .error r)) : fs' = fs := by
  rcases prepareOutput_cases steps home output fs with ⟨r', he⟩ | ⟨out, fs₁, hr, he⟩
  · rw [h] at he
    exact (Prod.mk.inj he).1
  · rw [h] at he
    rcases hr.directory with hd | hd
    · obtain ⟨fs₂, hm⟩ := mark_of_children_eq_nil steps (makeDirectory_true hr.made).1
        (hr.children_of_absent hd)
      rw [hm] at he
      cases he
    · rw [mark_error steps he.symm, hr.eq_of_isDir hd]

structure Guarded (steps : ℕ) (home output : List Bytes) (fs : FileSystem) : Prop where
  accepts : ∀ fs', prepareOutput steps home output fs = (fs', .ok ()) →
    ∃ out, fs.realpath steps output = some out ∧ fs.realpath steps home ≠ some out ∧ Acceptable fs out ∧
      Marked fs' out ∧
      (∀ q, q ≠ out ++ [markerName] →
        fs'.get q = fs.get q ∨ fs.get q = none ∧ fs'.get q = some .dir ∧ q <+: out) ∧
      prepareOutput steps home output fs' = (fs', .ok ())
  rejects : ∀ fs' r, prepareOutput steps home output fs = (fs', .error r) → fs' = fs

def LineFeed (fs : FileSystem) (out : Path) : Prop :=
  ∀ content x, fs.get (out ++ [markerName]) = some (.file content x) → ¬OtherLineEnd content.bytes

def Safe (steps : ℕ) (home output : List Bytes) (fs : FileSystem) : Prop :=
  fs.isSymlink steps output = false → ∀ out, fs.realpath steps output = some out →
    (∃ h, fs.realpath steps home = some h ∧ out ≠ h) →
    LineFeed fs out ∧ ∀ fs', fs.makeDirectory out = (fs', true) → fs'.isSymlink steps output = false

lemma not_otherLineEnd_markerFile : ¬OtherLineEnd markerFile.bytes := by
  rintro (h | h) <;> revert h <;> decide

lemma Reached.isDir_of_marker {out : Path} {fs₁ : FileSystem} {e : Entry}
    (h : Reached steps home output fs out fs₁)
    (hget : fs₁.get (out ++ [markerName]) = some e) : fs.isDir out = true := by
  rcases h.directory with hd | hd
  · rw [children_eq_nil_iff.mp (h.children_of_absent hd)] at hget
    cases hget
  · exact hd

lemma acceptable_of_ok (h : prepareOutput steps home output fs = (fs', .ok ())) :
    ∃ out fs₁, Reached steps home output fs out fs₁ ∧ mark steps out fs₁ = (fs', .ok ()) ∧
      (LineFeed fs out → Acceptable fs out) := by
  rcases prepareOutput_cases steps home output fs with ⟨r, he⟩ | ⟨out, fs₁, hr, he⟩
  · rw [h] at he
    cases he
  · rw [h] at he
    refine ⟨out, fs₁, hr, he.symm, ?_⟩
    intro hl
    rcases mark_ok steps he.symm with ⟨rfl, content, x, hget, ht⟩ | ⟨hc, -⟩
    · have hd := hr.isDir_of_marker hget
      obtain rfl := hr.eq_of_isDir hd
      refine .inr ⟨hd, .inr ⟨content, x, hget, ?_⟩⟩
      exact (readText_eq_markerText.mp ht).resolve_right (hl content x hget)
    · rcases hr.directory with hd | hd
      · exact .inl hd
      · rw [hr.eq_of_isDir hd] at hc
        exact .inr ⟨hd, .inl hc⟩

lemma prepareOutput_again {out : Path} {fs₁ : FileSystem} (hr : Reached steps home output fs out fs₁)
    (hput : fs₁.put out markerName (.file markerFile false) = some fs')
    (hnew : fs₁.get (out ++ [markerName]) = none) (hs : fs₁.isSymlink steps output = false) :
    prepareOutput steps home output fs' = (fs', .ok ()) := by
  have hmarker : fs'.get (out ++ [markerName]) = some (.file markerFile false) := by
    rw [get_put hput, if_pos rfl]
  have hdir : fs'.isDir out = true := isDir_of_get hmarker
  have hgrows : Grows fs fs' := by
    intro q
    rw [isLink_eq_false_iff, get_put hput]
    have hq := (makeDirectory_true hr.made).2 q
    split_ifs with he
    · refine .inr ⟨?_, by simp⟩
      rcases hq with h | h
      · rw [← h, he, hnew]
      · exact h.1
    · rcases hq with h | ⟨h, hd, -⟩
      · exact .inl h
      · exact .inr ⟨h, by simp [hd]⟩
  have hr' : Reached steps home output fs' out fs' := by
    obtain ⟨h, hh, hne⟩ := hr.notHome
    refine ⟨?_, ?_, ⟨h, ?_, hne⟩, .inr hdir, makeDirectory_of_isDir hdir⟩
    · rw [isSymlink_put_file hput hnew, hs]
    · rw [realpath, hgrows.walkMissing]
      exact hr.resolves
    · rw [realpath, hgrows.walkMissing]
      exact hh
  rw [hr'.prepareOutput]
  exact mark_of_file steps hmarker (readText_eq_markerText.mpr (.inl rfl))

lemma guarded_of_safe (h : Safe steps home output fs) : Guarded steps home output fs := by
  refine ⟨?_, fun _ _ => prepareOutput_error⟩
  intro fs' hok
  obtain ⟨out, fs₁, hr, hm, ha⟩ := acceptable_of_ok hok
  obtain ⟨hl, hs⟩ := h hr.plain out hr.resolves hr.notHome
  refine ⟨out, hr.resolves, ?_, ha hl, ?_⟩
  · obtain ⟨h, hh, hne⟩ := hr.notHome
    rw [hh]
    exact fun he => hne (Option.some.inj he).symm
  · rcases mark_ok steps hm with ⟨rfl, content, x, hget, ht⟩ | ⟨hc, hput⟩
    · obtain rfl := hr.eq_of_isDir (hr.isDir_of_marker hget)
      refine ⟨⟨content, x, hget, ?_⟩, fun q _ => .inl rfl, hok⟩
      exact (readText_eq_markerText.mp ht).resolve_right (hl content x hget)
    · have hnew := children_eq_nil_iff.mp hc markerName
      refine ⟨⟨markerFile, false, by rw [get_put hput, if_pos rfl], rfl⟩, ?_, ?_⟩
      · intro q hq
        rw [get_put hput, if_neg hq]
        exact (makeDirectory_true hr.made).2 q
      · exact prepareOutput_again hr hput hnew (hs fs₁ hr.made)

lemma safe_of_guarded (h : Guarded steps home output fs) : Safe steps home output fs := by
  intro hplain out hout hhome
  refine ⟨?_, ?_⟩
  · intro content x hget hother
    have hd := isDir_of_get hget
    have hr : Reached steps home output fs out fs := ⟨hplain, hout, hhome, .inr hd, makeDirectory_of_isDir hd⟩
    have hok := hr.prepareOutput.trans (mark_of_file steps hget (readText_eq_markerText.mpr (.inr hother)))
    obtain ⟨out', hout', -, ha, -⟩ := h.accepts fs hok
    obtain rfl := Option.some.inj (hout.symm.trans hout')
    rcases ha with ha | ⟨-, ha | ⟨content', x', hget', he⟩⟩
    · rw [isDir_iff, ha] at hd
      cases hd
    · rw [children_eq_nil_iff.mp ha] at hget
      cases hget
    · obtain ⟨rfl, -⟩ := Entry.file.inj (Option.some.inj (hget.symm.trans hget'))
      exact not_otherLineEnd_markerFile (he ▸ hother)
  · intro fs₁ hmade
    obtain ⟨hd₁, hget⟩ := makeDirectory_true hmade
    by_cases hd : fs.isDir out = true
    · rw [makeDirectory_of_isDir hd] at hmade
      rwa [← (Prod.mk.inj hmade).1]
    · have habsent : fs.get out = none := by
        rcases hget out with he | he
        · rw [isDir_iff, ← he, isDir_iff.mp hd₁] at hd
          exact absurd rfl hd
        · exact he.1
      have hr : Reached steps home output fs out fs₁ := ⟨hplain, hout, hhome, .inl habsent, hmade⟩
      have hc := hr.children_of_absent habsent
      obtain ⟨fs₂, hm⟩ := mark_of_children_eq_nil steps hd₁ hc
      obtain ⟨-, -, -, -, -, -, hagain⟩ := h.accepts fs₂ (hr.prepareOutput.trans hm)
      obtain ⟨out₂, fs₃, hr₂, -⟩ := acceptable_of_ok hagain
      have hnew := children_eq_nil_iff.mp hc markerName
      rcases mark_ok steps hm with ⟨-, content, x, hget', -⟩ | ⟨-, hput⟩
      · rw [hnew] at hget'
        cases hget'
      · rw [← isSymlink_put_file hput hnew]
        exact hr₂.plain

/-- `rm -rf -- "$OUT/build" "$OUT/root" "$OUT/prefix"` -/
def clean (fs : FileSystem) (out : Path) : FileSystem :=
  ((fs.removeTree (out ++ [bytes "build"])).removeTree (out ++ [bytes "root"])).removeTree
    (out ++ [bytes "prefix"])

/-- The builds so far: each output directory that was accepted, with the file system before the call,
and the directories in which trees were deleted. -/
structure Builds where
  fs : FileSystem
  accepted : List (Path × FileSystem)
  removed : List Path

inductive Action
  /-- Whatever other programs make of the file system. -/
  | other (fs : FileSystem)
  /-- A run of `build-runtime-linux-arm64.sh`: what the guard and the commands after it leave, and
  whether the trees in the output directory are to be deleted. -/
  | build (output : List Bytes) (fetched : FileSystem) (stale : Bool)

/-- One action; the commands of a run leave its output path leading where the guard found it. -/
def step (steps : ℕ) (home root : List Bytes) (s : Builds) : Action → Option Builds
  | .other fs => some { s with fs := fs }
  | .build output fetched stale =>
    if output = [] ∨ output = root then some s
    else match prepareOutput steps home output s.fs with
      | (fs, .error _) => some { s with fs := fs }
      | (_, .ok ()) => (s.fs.realpath steps output).bind fun out =>
        if fetched.walk true steps [] output = some out then
          some {
            fs := if stale then clean fetched out else fetched
            accepted := s.accepted ++ [(out, s.fs)]
            removed := if stale then s.removed ++ [out] else s.removed }
        else none

structure Sound (s : Builds) : Prop where
  acceptable : ∀ e ∈ s.accepted, Acceptable e.2 e.1
  removed : ∀ out ∈ s.removed, ∃ e ∈ s.accepted, e.1 = out

def LineFeeds (steps : ℕ) (fs : FileSystem) : Action → Prop
  | .other _ => True
  | .build output _ _ => ∀ out, fs.realpath steps output = some out → LineFeed fs out

lemma step_sound {root : List Bytes} {s t : Builds} {a : Action} (hs : Sound s) (hl : LineFeeds steps s.fs a)
    (h : step steps home root s a = some t) : Sound t := by
  cases a with
  | other fs =>
    obtain rfl := Option.some.inj h
    exact ⟨hs.acceptable, hs.removed⟩
  | build output fetched stale =>
    rw [step] at h
    by_cases hroot : output = [] ∨ output = root
    · rw [if_pos hroot] at h
      obtain rfl := Option.some.inj h
      exact hs
    · rw [if_neg hroot] at h
      split at h
      · obtain rfl := Option.some.inj h
        exact ⟨hs.acceptable, hs.removed⟩
      · rename_i fs' hok
        obtain ⟨out, hout, h⟩ := Option.bind_eq_some_iff.mp h
        obtain ⟨out', _, hr, -, ha⟩ := acceptable_of_ok hok
        obtain rfl := Option.some.inj (hout.symm.trans hr.resolves)
        obtain ⟨-, h⟩ := Option.ite_none_right_eq_some.mp h
        obtain rfl := Option.some.inj h
        refine ⟨?_, ?_⟩
        · intro e he
          rcases List.mem_append.mp he with he | he
          · exact hs.acceptable e he
          · rw [List.mem_singleton.mp he]
            exact ha (hl out hout)
        · intro o ho
          have ho' : o ∈ s.removed ++ [out] := by
            cases stale with
            | true => exact ho
            | false => exact List.mem_append_left _ ho
          rcases List.mem_append.mp ho' with ho' | ho'
          · obtain ⟨e, he, heo⟩ := hs.removed o ho'
            exact ⟨e, List.mem_append_left _ he, heo⟩
          · refine ⟨(out, s.fs), List.mem_append_right _ List.mem_cons_self, ?_⟩
            exact (List.mem_singleton.mp ho').symm

lemma run_sound {root : List Bytes} {as : List Action} {t : Builds}
    (hl : ∀ bs a s, bs ++ [a] <+: as → Runs.run (step steps home root) ⟨fs, [], []⟩ bs = some s →
      LineFeeds steps s.fs a)
    (h : Runs.run (step steps home root) ⟨fs, [], []⟩ as = some t) : Sound t := by
  refine Runs.run_invariant (fun bs s => bs <+: as → Sound s) ?_ ?_ as t h List.prefix_rfl
  · exact fun _ => ⟨by simp, by simp⟩
  · intro bs s a u hbs ih hstep hp
    exact step_sound (ih ((List.prefix_append bs [a]).trans hp)) (hl bs a s hp hbs) hstep

lemma Sound.first {s : Builds} (hs : Sound s) {out : Path} (h : out ∈ s.removed) :
    ∃ fs₀, s.accepted.find? (fun e => e.1 = out) = some (out, fs₀) ∧ Acceptable fs₀ out := by
  obtain ⟨e, he, rfl⟩ := hs.removed out h
  cases hf : s.accepted.find? (fun f => f.1 = e.1) with
  | none =>
    exact absurd (decide_eq_true rfl) (List.find?_eq_none.mp hf e he)
  | some f =>
    obtain ⟨p, fs₀⟩ := f
    obtain rfl : p = e.1 := by simpa using List.find?_some hf
    exact ⟨fs₀, rfl, hs.acceptable _ (List.mem_of_find?_eq_some hf)⟩

lemma get_clean {out q : Path} (h : ¬out <+: q) : (clean fs out).get q = fs.get q := by
  have hp (n : Bytes) : ¬out ++ [n] <+: q := fun hq => h ((List.prefix_append out [n]).trans hq)
  rw [clean, get_removeTree (hp _), get_removeTree (hp _), get_removeTree (hp _)]

variable (steps home fs) in
/-- The guard keeps to its purpose exactly when the marker that is there ends with a line feed and the
path is no link once its directory is made; the builds whose markers do so delete trees only in
directories that were absent, empty or marked when they were first accepted. -/
theorem prepareOutput_guarded_iff :
    (∀ output, Guarded steps home output fs ↔ Safe steps home output fs) ∧
    ∀ root as t, (∀ bs a s, bs ++ [a] <+: as → Runs.run (step steps home root) ⟨fs, [], []⟩ bs = some s →
        LineFeeds steps s.fs a) →
      Runs.run (step steps home root) ⟨fs, [], []⟩ as = some t → ∀ out ∈ t.removed,
        (∃ fs₀, t.accepted.find? (fun e => e.1 = out) = some (out, fs₀) ∧ Acceptable fs₀ out) ∧
          ∀ fs q, ¬out <+: q → (clean fs out).get q = fs.get q := by
  refine ⟨fun output => ⟨safe_of_guarded, guarded_of_safe⟩, ?_⟩
  intro root as t hl h out hout
  exact ⟨(run_sound hl h).first hout, fun fs q => get_clean⟩

def edited : FileSystem where
  entries := [([bytes "out"], .dir), ([bytes "out", bytes "build"], .dir),
    ([bytes "out", markerName], .file ⟨bytes markerLine ++ [13, 10], by decide⟩ false)]
  nodup := by decide
  names := by decide
  parents := by decide

def dangling : FileSystem where
  entries := [([bytes "link"], .link (bytes "new/out"))]
  nodup := by decide
  names := by decide
  parents := by decide

def atHome : List Bytes := [bytes "home"]

/-- A directory with files of its own is accepted for a marker that is not the marker's text, and a path
that leads back out of a missing directory and over a link is accepted once only. -/
theorem not_guarded :
    ¬Guarded 9 atHome [bytes "out"] edited ∧ ¬Guarded 9 atHome [bytes "new", dotdot, bytes "link"] dangling := by
  constructor
  · intro h
    have hs := safe_of_guarded h rfl [bytes "out"] rfl ⟨atHome, rfl, by decide⟩
    exact hs.1 _ false rfl (.inr rfl)
  · intro h
    have hs := safe_of_guarded h rfl [bytes "new", bytes "out"] rfl ⟨atHome, rfl, by decide⟩
    exact absurd (hs.2 _ rfl) (by decide)

def empty : FileSystem where
  entries := []
  nodup := by decide
  names := by decide
  parents := by decide

def built : FileSystem where
  entries := [([bytes "out"], .dir), ([bytes "out", bytes "build"], .dir),
    ([bytes "out", markerName], .file markerFile false)]
  nodup := by decide
  names := by decide
  parents := by decide

theorem guarded_build :
    Guarded 9 atHome [bytes "out"] empty ∧
    ∃ t, Runs.run (step 9 atHome []) ⟨empty, [], []⟩ [.build [bytes "out"] built true] = some t ∧
      ∃ fs₀, t.accepted.find? (fun e => e.1 = [bytes "out"]) = some ([bytes "out"], fs₀) ∧
        Acceptable fs₀ [bytes "out"] := by
  refine ⟨((prepareOutput_guarded_iff 9 atHome empty).1 _).mpr ?_, _, rfl, ?_⟩
  · rintro - out hout -
    obtain rfl := Option.some.inj hout
    refine ⟨fun content x h => (by cases h), ?_⟩
    intro fs' h
    obtain rfl := (Prod.mk.inj h).1
    decide
  · refine ((prepareOutput_guarded_iff 9 atHome empty).2 [] [.build [bytes "out"] built true] _ ?_ rfl
      [bytes "out"] (by decide)).1
    intro bs a s hp hrun
    obtain ⟨rfl, rfl⟩ : bs = [] ∧ a = .build [bytes "out"] built true := by
      rcases bs with - | ⟨b, bs⟩
      · simpa using hp
      · have hl := hp.length_le
        simp at hl
    obtain rfl := Option.some.inj hrun
    rintro out hout content x h
    obtain rfl := Option.some.inj hout
    cases h

end Graft64.Runtime.OutputGuard
