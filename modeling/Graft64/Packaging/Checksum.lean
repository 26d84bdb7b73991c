import Graft64.Library.Fields
import Graft64.Runtime.Manifest

/-! `GraftHost.ipa.sha256`: the line that `package-ipa.sh` writes, and the texts that `verify-package.sh`
takes for one. -/

namespace Graft64.Packaging.Checksum

open Graft64.Library Fields Runtime.DepsLock

def archiveName : Str := lit "GraftHost.ipa"

/-- What `shasum -a 256 GraftHost.ipa` prints. -/
def shasumLine (digest : Str) : Str := digest ++ lit "  " ++ archiveName ++ [10]

def isBlank (c : ℕ) : Bool := decide (c = 32 ∨ c = 9 ∨ c = 10)

/-- The characters that `awk` and the shell's classes take in the locale of a run. -/
structure Locale where
  /-- What stands between two fields of `awk`: some versions take more than a space, a tab and a newline. -/
  blank : ℕ → Bool
  /-- `[[:space:]]` -/
  space : ℕ → Bool
  /-- `[0-9a-f]` -/
  digit : ℕ → Bool
  blank_of_isBlank : ∀ {c}, isBlank c = true → blank c = true
  space_of_blank : ∀ {c}, blank c = true → space c = true
  digit_of_isHex : ∀ {c}, isHex c = true → digit c = true
  not_space_of_digit : ∀ {c}, digit c = true → space c = false
  not_space_of_name : ∀ {c}, c ∈ archiveName → space c = false

/-- `$(...)`, of one line: bash drops the NUL characters. -/
def substituted (line : Str) : Str := line.filter (· != 0)

def checksumLine (text : Str) : Str := substituted ((records text).headD [])

section

variable (l : Locale)

/-- The first `awk` program: one record, of two fields. -/
def oneRecord (text : Str) : Bool :=
  match records text with
  | [record] => (fields l.blank record).length == 2
  | _ => false

def checksumPath (text : Str) : Str := substituted (((fields l.blank ((records text).headD []))[1]?).getD [])

/-- `${CHECKSUM_LINE%%[[:space:]]*}` -/
def expectedDigest (line : Str) : Str := line.takeWhile fun c => !l.space c

/-- `[[ "$EXPECTED_DIGEST" =~ ^[0-9a-f]{64}$ ]]` -/
def isDigest (digest : Str) : Bool := digest.length == 64 && digest.all l.digit

def expected (text : Str) : Option Str :=
  let digest := expectedDigest l (checksumLine text)
  if oneRecord l text && isDigest l digest && checksumPath l text == archiveName then some digest else none

/-- The first field may go on after the digest, with a character that is a space to the shell and none to `awk`. -/
def Tail (more : Str) : Prop :=
  (∀ c ∈ more, l.blank c = false) ∧ (more = [] ∨ ∃ c rest, more = c :: rest ∧ l.space c = true)

end

def recordOf (digest more gap trail : Str) : Str := digest ++ more ++ gap ++ archiveName ++ trail

lemma substituted_eq {line : Str} (h : 0 ∉ line) : substituted line = line := by
  rw [substituted, List.filter_eq_self]
  intro c hc
  rw [bne_iff_ne]
  rintro rfl
  exact h hc

variable {l : Locale} {digest : Str}

lemma not_blank_of_not_space {c : ℕ} (h : l.space c = false) : l.blank c = false := by
  by_contra hb
  rw [l.space_of_blank (Bool.not_eq_false _ ▸ hb)] at h
  cases h

lemma word_archiveName (l : Locale) : Word l.blank archiveName :=
  ⟨by decide, fun _ hc => not_blank_of_not_space (l.not_space_of_name hc)⟩

lemma not_mem_archiveName {c : ℕ} (h : l.blank c = true) : c ∉ archiveName := by
  intro hc
  cases ((word_archiveName l).2 c hc).symm.trans h

lemma blank_newline (l : Locale) : l.blank 10 = true := l.blank_of_isBlank rfl

lemma isDigest_of_isHexOf (h : isHexOf 64 digest = true) : isDigest l digest = true := by
  rw [isHexOf, Bool.and_eq_true, List.all_eq_true] at h
  rw [isDigest, Bool.and_eq_true, List.all_eq_true]
  exact ⟨h.1, fun c hc => l.digit_of_isHex (h.2 c hc)⟩

lemma not_space_of_isDigest (h : isDigest l digest = true) : ∀ c ∈ digest, l.space c = false := by
  rw [isDigest, Bool.and_eq_true, List.all_eq_true] at h
  exact fun c hc => l.not_space_of_digit (h.2 c hc)

lemma not_blank_of_isDigest (h : isDigest l digest = true) : ∀ c ∈ digest, l.blank c = false :=
  fun c hc => not_blank_of_not_space (not_space_of_isDigest h c hc)

lemma newline_not_mem (h : ∀ c ∈ digest, l.blank c = false) : 10 ∉ digest := by
  intro hc
  cases (h 10 hc).symm.trans (blank_newline l)

lemma ne_nil_of_isDigest (h : isDigest l digest = true) : digest ≠ [] := by
  rintro rfl
  cases h

lemma expectedDigest_append {rest : Str} (h : ∀ c ∈ digest, l.space c = false)
    (hr : rest = [] ∨ ∃ c rest', rest = c :: rest' ∧ l.space c = true) :
    expectedDigest l (digest ++ rest) = digest := by
  have hall : ∀ c ∈ digest, (!l.space c) = true := fun c hc => by simp [h c hc]
  rw [expectedDigest, List.takeWhile_append_of_pos hall]
  rcases hr with rfl | ⟨c, rest, rfl, hc⟩
  · simp
  · simp [hc]

lemma expectedDigest_split (l : Locale) (field : Str) : ∃ more, field = expectedDigest l field ++ more ∧
    (more = [] ∨ ∃ c rest, more = c :: rest ∧ l.space c = true) := by
  refine ⟨field.dropWhile fun c => !l.space c, (List.takeWhile_append_dropWhile).symm, ?_⟩
  rcases he : field.dropWhile (fun c => !l.space c) with _ | ⟨c, rest⟩
  · exact .inl rfl
  · have h := List.head_dropWhile_not (fun c => !l.space c) (l := field) (by simp [he])
    exact .inr ⟨c, rest, rfl, by simpa [he] using h⟩

lemma expectedDigest_field {field rest : Str} (hr : ∃ c rest', rest = c :: rest' ∧ l.space c = true) :
    expectedDigest l (field ++ rest) = expectedDigest l field := by
  obtain ⟨more, hmore, htail⟩ := expectedDigest_split l field
  have hno : ∀ c ∈ expectedDigest l field, l.space c = false := fun c hc => by
    simpa using List.mem_takeWhile_imp hc
  conv_lhs => rw [hmore, List.append_assoc]
  apply expectedDigest_append hno
  rcases htail with rfl | ⟨c, more, rfl, hc⟩
  · exact .inr hr
  · exact .inr ⟨c, _, rfl, hc⟩

lemma no_blanks_before {pre rest : Str} (hpre : Blanks l.blank pre) (hd : isDigest l digest = true)
    (h : expectedDigest l (pre ++ rest) = digest) : pre = [] := by
  cases pre with
  | nil => rfl
  | cons c pre =>
    have hc := l.space_of_blank (hpre c List.mem_cons_self)
    rw [expectedDigest, List.cons_append, List.takeWhile_cons_of_neg (by simp [hc])] at h
    exact absurd h.symm (ne_nil_of_isDigest hd)

lemma gap_ne_nil {gap trail : Str} (h : gap ++ (archiveName ++ trail) = [] ∨
    ∃ c rest, gap ++ (archiveName ++ trail) = c :: rest ∧ l.blank c = true) : gap ≠ [] := by
  rintro rfl
  rcases h with hnil | ⟨c, rest, he, hc⟩
  · exact (word_archiveName l).1 (List.append_eq_nil_iff.mp (List.append_eq_nil_iff.mp hnil).2).1
  · obtain ⟨a, as, ha⟩ := List.exists_cons_of_ne_nil (word_archiveName l).1
    rw [List.nil_append, ha, List.cons_append] at he
    refine not_mem_archiveName hc ?_
    rw [ha, ← (List.cons.inj he).1]
    exact List.mem_cons_self

section

variable {more gap trail : Str}

lemma fields_name (h : Blanks l.blank trail) : fields l.blank (archiveName ++ trail) = [archiveName] := by
  refine (fields_eq_cons_iff _ _ _).mpr ⟨[], trail, rfl,
    by simp [Blanks], word_archiveName l, ?_, fields_blanks_only h⟩
  cases trail with
  | nil => exact .inl rfl
  | cons t ts => exact .inr ⟨t, ts, rfl, h t List.mem_cons_self⟩

lemma fields_recordOf (hd : isDigest l digest = true) (hm : Tail l more) (hne : gap ≠ []) (hg : Blanks l.blank gap)
    (ht : Blanks l.blank trail) :
    fields l.blank (recordOf digest more gap trail) = [digest ++ more, archiveName] := by
  obtain ⟨g, gs, rfl⟩ := List.exists_cons_of_ne_nil hne
  obtain ⟨hg, hgs⟩ := List.forall_mem_cons.mp hg
  have hword : Word l.blank (digest ++ more) := by
    refine ⟨fun h => ne_nil_of_isDigest hd (List.append_eq_nil_iff.mp h).1, ?_⟩
    rw [List.forall_mem_append]
    exact ⟨not_blank_of_isDigest hd, hm.1⟩
  have hrecord : recordOf digest more (g :: gs) trail = digest ++ more ++ g :: (gs ++ (archiveName ++ trail)) := by
    simp only [recordOf, List.append_assoc, List.cons_append]
  rw [hrecord, fields_word hword hg, fields_blanks hgs, fields_name ht]

lemma expectedDigest_recordOf (hd : isDigest l digest = true) (hm : Tail l more) (hne : gap ≠ [])
    (hg : Blanks l.blank gap) : expectedDigest l (recordOf digest more gap trail) = digest := by
  obtain ⟨g, gs, rfl⟩ := List.exists_cons_of_ne_nil hne
  have hs := l.space_of_blank (hg g List.mem_cons_self)
  simp only [recordOf, List.append_assoc, List.cons_append]
  apply expectedDigest_append (not_space_of_isDigest hd)
  rcases hm.2 with rfl | ⟨c, more, rfl, hc⟩
  · exact .inr ⟨g, _, rfl, hs⟩
  · exact .inr ⟨c, _, rfl, hc⟩

end

lemma record_iff (record : Str) (hd : isDigest l digest = true) :
    (∃ field, fields l.blank record = [field, archiveName]) ∧ expectedDigest l record = digest ↔
      ∃ more gap trail, record = recordOf digest more gap trail ∧ Tail l more ∧ gap ≠ [] ∧ Blanks l.blank gap ∧
        Blanks l.blank trail := by
  constructor
  · rintro ⟨⟨field, hf⟩, hdigest⟩
    obtain ⟨pre, rest, rfl, hpre, hfield, hrest, hname⟩ := (fields_eq_cons_iff _ _ _).mp hf
    obtain ⟨gap, trail, rfl, hgap, -, -, htrail⟩ := (fields_eq_cons_iff _ _ _).mp hname
    obtain rfl := no_blanks_before hpre hd hdigest
    have hne := gap_ne_nil hrest
    have hhead : ∃ c rest', gap ++ (archiveName ++ trail) = c :: rest' ∧ l.space c = true := by
      obtain ⟨g, gs, rfl⟩ := List.exists_cons_of_ne_nil hne
      exact ⟨g, _, rfl, l.space_of_blank (hgap g List.mem_cons_self)⟩
    rw [List.nil_append, expectedDigest_field hhead] at hdigest
    obtain ⟨more, hmore, htail⟩ := expectedDigest_split l field
    rw [hdigest] at hmore
    subst hmore
    have hblank := (List.forall_mem_append.mp hfield.2).2
    refine ⟨more, gap, trail, ?_, ⟨hblank, htail⟩, hne, hgap, (fields_eq_nil_iff _).mp htrail⟩
    simp only [recordOf, List.nil_append, List.append_assoc]
  · rintro ⟨more, gap, trail, rfl, hm, hne, hgap, htrail⟩
    exact ⟨⟨digest ++ more, fields_recordOf hd hm hne hgap htrail⟩, expectedDigest_recordOf hd hm hne hgap⟩

lemma field_no_nul {record field name : Str} (h0 : 0 ∉ record) (h : fields l.blank record = [field, name]) :
    0 ∉ name := by
  obtain ⟨pre, rest, rfl, -, -, -, hname⟩ := (fields_eq_cons_iff _ _ _).mp h
  obtain ⟨gap, trail, rfl, -⟩ := (fields_eq_cons_iff _ _ _).mp hname
  intro hc
  simp [hc] at h0

lemma expected_eq_some_record_iff {text : Str} (h0 : 0 ∉ text) (digest : Str) : expected l text = some digest ↔
    isDigest l digest = true ∧ ∃ record, records text = [record] ∧
      (∃ field, fields l.blank record = [field, archiveName]) ∧ expectedDigest l record = digest := by
  have hline {record : Str} (hr : records text = [record]) : 0 ∉ record ∧ checksumLine text = record := by
    have hno : 0 ∉ record := by
      obtain ⟨-, ⟨rfl, -⟩ | rfl⟩ := (records_eq_singleton_iff _ _).mp hr
      · exact h0
      · simpa using h0
    rw [checksumLine, hr]
    exact ⟨hno, substituted_eq hno⟩
  have hpath {record field name : Str} (hr : records text = [record])
      (hf : fields l.blank record = [field, name]) :
      checksumPath l text = name := by
    rw [checksumPath, hr, List.headD_cons, hf]
    exact substituted_eq (field_no_nul (hline hr).1 hf)
  rw [expected]
  simp only [Option.ite_none_right_eq_some, Bool.and_eq_true, Option.some.injEq, beq_iff_eq]
  constructor
  · rintro ⟨⟨⟨hone, hdigest⟩, hname⟩, rfl⟩
    refine ⟨hdigest, ?_⟩
    rw [oneRecord] at hone
    split at hone
    · next record hr =>
      rw [beq_iff_eq, List.length_eq_two] at hone
      obtain ⟨field, name, hf⟩ := hone
      rw [hpath hr hf] at hname
      exact ⟨record, hr, ⟨field, hname ▸ hf⟩, by rw [(hline hr).2]⟩
    · cases hone
  · rintro ⟨hdigest, record, hr, ⟨field, hf⟩, rfl⟩
    refine ⟨⟨⟨?_, by rwa [(hline hr).2]⟩, hpath hr hf⟩, by rw [(hline hr).2]⟩
    simp only [oneRecord, hr, hf]
    rfl

def wideLocale : Locale where
  blank c := isBlank c || c == 13
  space c := isBlank c || c == 13 || c == 0x3000
  digit := isHex
  blank_of_isBlank h := by rw [h, Bool.true_or]
  space_of_blank h := by rw [h, Bool.true_or]
  digit_of_isHex := id
  not_space_of_digit h := by
    simp only [isHex, isBlank, decide_eq_true_eq] at h ⊢
    simp only [Bool.or_eq_false_iff, decide_eq_false_iff_not, beq_eq_false_iff_ne]
    omega
  not_space_of_name := by decide

lemma of_expected_eq_some {text : Str} (h : expected l text = some digest) : oneRecord l text = true ∧
    expectedDigest l (checksumLine text) = digest ∧ isDigest l digest = true ∧
      checksumPath l text = archiveName := by
  rw [expected] at h
  simp only [Option.ite_none_right_eq_some, Bool.and_eq_true, Option.some.injEq, beq_iff_eq] at h
  obtain ⟨⟨⟨hone, hdigest⟩, hpath⟩, rfl⟩ := h
  exact ⟨hone, rfl, hdigest, hpath⟩

lemma expected_shasumLine (l : Locale) (hd : isHexOf 64 digest = true) :
    expected l (shasumLine digest) = some digest := by
  have hdigest : isDigest l digest = true := isDigest_of_isHexOf hd
  have hnul : 0 ∉ shasumLine digest := by
    have h0 : 0 ∉ digest := by
      rw [isHexOf, Bool.and_eq_true, List.all_eq_true] at hd
      exact fun hc => absurd (hd.2 0 hc) (by decide)
    have hrest : 0 ∉ lit "  " ++ archiveName ++ [10] := by decide
    simp only [shasumLine, List.append_assoc, List.mem_append, not_or] at hrest ⊢
    exact ⟨h0, hrest⟩
  refine (expected_eq_some_record_iff hnul _).mpr ⟨hdigest, digest ++ lit "  " ++ archiveName, ?_, ?_⟩
  · refine (records_eq_singleton_iff _ _).mpr ⟨?_, .inr rfl⟩
    have h10 : 10 ∉ digest := newline_not_mem (not_blank_of_isDigest hdigest)
    have hname : 10 ∉ archiveName := not_mem_archiveName (blank_newline l)
    simp [h10, hname, lit]
  · have hgap : Blanks l.blank (lit "  ") := by
      intro c hc
      obtain rfl : c = 32 := by simpa [lit] using hc
      exact l.blank_of_isBlank rfl
    refine (record_iff _ hdigest).mpr ⟨[], lit "  ", [], ?_, ⟨by simp, .inl rfl⟩, by decide, hgap, by simp [Blanks]⟩
    simp only [recordOf, List.append_nil]

end Graft64.Packaging.Checksum
