import Graft64.Runtime.SchemaPaths

/-! `safe_relative_path`: which strings it takes, and where they lead from a directory. -/

namespace Graft64.Runtime.Manifest

open Graft64.Library

structure Plain (value : Str) (rootPrefix : Bool) : Prop where
  no_backslash : 92 ∉ value
  names : ∀ n ∈ value.splitOn 47, ProperName n
  under_root : rootPrefix = true → (value.splitOn 47).head? = some (lit "root")

/-- The names of `directory / value`: an absolute path takes the place of the directory. -/
def join (directory : List Str) (value : Str) : List Str :=
  if isAbsolute value then parts value else directory ++ parts value

def StaysBelow (directory joined : List Str) : Prop :=
  ∃ n rest, joined = directory ++ n :: rest ∧ lit ".." ∉ n :: rest

structure TakesPlain (value owner : Str) (rootPrefix : Bool) : Prop where
  returns : Plain value rootPrefix → safeRelativePath value owner rootPrefix = .ok value
  raises : ¬ Plain value rootPrefix → ∃ r, safeRelativePath value owner rootPrefix = .error r
  below : ∀ s, safeRelativePath value owner rootPrefix = .ok s →
    ∀ directory, StaysBelow directory (join directory s)

lemma parts_eq {value : Str} (h : ∀ n ∈ value.splitOn 47, ProperName n) : parts value = value.splitOn 47 := by
  refine List.filter_eq_self.mpr ?_
  intro n hn
  obtain ⟨hne, hdot, -⟩ := h n hn
  exact Bool.and_eq_true_iff.mpr ⟨bne_iff_ne.mpr hne, bne_iff_ne.mpr hdot⟩

lemma isAbsolute_eq_false {value : Str} (h : ∀ n ∈ value.splitOn 47, ProperName n) : isAbsolute value = false := by
  cases value with
  | nil => rfl
  | cons c value =>
    by_contra habs
    obtain rfl : c = 47 := by simpa [isAbsolute] using habs
    have hsplit : (47 :: value).splitOn 47 = [] :: value.splitOn 47 := List.splitOn_append_cons_self [] value
    exact (h [] (by rw [hsplit]; exact List.mem_cons_self)).1 rfl

lemma Plain.accepted {value : Str} {rootPrefix : Bool} (h : Plain value rootPrefix) (owner : Str) :
    safeRelativePath value owner rootPrefix = .ok value := by
  have hparts := parts_eq h.names
  have hempty : value ≠ [] := by
    rintro rfl
    exact (h.names [] (by simp)).1 rfl
  have hup : lit ".." ∉ parts value := by
    rw [hparts]
    exact fun hmem => (h.names _ hmem).2.2 rfl
  have hdot : ¬ lit "./" <+: value := by
    rintro ⟨rest, rfl⟩
    have hsplit : (lit "./" ++ rest).splitOn 47 = lit "." :: rest.splitOn 47 :=
      List.splitOn_append_cons_self_of_not_mem (show 47 ∉ lit "." by decide) rest
    exact (h.names (lit ".") (by rw [hsplit]; exact List.mem_cons_self)).2.1 rfl
  have hposix : asPosix value = value := by
    rw [asPosix, hparts, if_neg (List.splitOn_ne_nil 47 value)]
    exact List.intercalate_splitOn 47
  rw [safeRelativePath, if_neg, if_neg]
  · rintro ⟨hroot, hhead⟩
    exact hhead (by rw [hparts]; exact h.under_root hroot)
  · simp only [not_or, not_not]
    exact ⟨hempty, by simp [isAbsolute_eq_false h.names], hup, h.no_backslash, hdot, hposix⟩

lemma Plain.below {value : Str} {rootPrefix : Bool} (h : Plain value rootPrefix) (directory : List Str) :
    StaysBelow directory (join directory value) := by
  obtain ⟨n, rest, hsplit⟩ := List.exists_cons_of_ne_nil (List.splitOn_ne_nil 47 value)
  rw [join, isAbsolute_eq_false h.names, parts_eq h.names, hsplit]
  refine ⟨n, rest, rfl, ?_⟩
  rw [← hsplit]
  exact fun hmem => (h.names _ hmem).2.2 rfl

lemma plain_of_accepted {value owner s : Str} {rootPrefix : Bool}
    (h : safeRelativePath value owner rootPrefix = .ok s) :
    s = value ∧ ((value = lit "." ∧ rootPrefix = false) ∨ Plain value rootPrefix) := by
  obtain ⟨h92, hnames⟩ := safeRelativePath_names h
  rw [safeRelativePath] at h
  split_ifs at h with hnormal hroot
  obtain rfl := Except.ok.inj h
  refine ⟨rfl, ?_⟩
  have hhead (hr : rootPrefix = true) : (parts value).head? = some (lit "root") := by
    by_contra hne
    exact hroot ⟨hr, hne⟩
  obtain rfl | hnames := hnames
  · cases rootPrefix with
    | false => exact .inl ⟨rfl, rfl⟩
    | true => exact absurd (hhead rfl) (by decide)
  · refine .inr ⟨h92, hnames, fun hr => ?_⟩
    rw [← parts_eq hnames]
    exact hhead hr

/-- Only a lone dot is taken for a normalized path that it should not be. -/
theorem takes_plain_iff (value owner : Str) (rootPrefix : Bool) :
    TakesPlain value owner rootPrefix ↔ value ≠ lit "." ∨ rootPrefix = true := by
  constructor
  · intro h
    by_contra hdot
    obtain ⟨hvalue, hroot⟩ := not_or.mp hdot
    obtain rfl := not_not.mp hvalue
    obtain rfl : rootPrefix = false := by simpa using hroot
    obtain ⟨n, rest, hjoin, -⟩ := h.below (lit ".") rfl []
    cases hjoin
  · intro hdot
    have hplain {s : Str} (h : safeRelativePath value owner rootPrefix = .ok s) :
        s = value ∧ Plain value rootPrefix := by
      obtain ⟨hs, ⟨hvalue, hroot⟩ | hp⟩ := plain_of_accepted h
      · obtain hne | hr := hdot
        · exact absurd hvalue hne
        · rw [hroot] at hr
          cases hr
      · exact ⟨hs, hp⟩
    refine ⟨fun h => h.accepted owner, fun h => ?_, fun s hs directory => ?_⟩
    · cases hr : safeRelativePath value owner rootPrefix with
      | error r => exact ⟨r, rfl⟩
      | ok s => exact absurd (hplain hr).2 h
    · obtain ⟨rfl, hp⟩ := hplain hs
      exact hp.below directory

/-- The log path `.` is accepted, and leads to the runtime directory itself. -/
theorem lone_dot_accepted : ¬ ∀ (value owner : Str) (rootPrefix : Bool), TakesPlain value owner rootPrefix := by
  intro h
  obtain ⟨r, hr⟩ := (h (lit ".") (lit "test[0].log") false).raises fun hp =>
    (hp.names (lit ".") (by decide)).2.1 rfl
  have hok : safeRelativePath (lit ".") (lit "test[0].log") false = .ok (lit ".") := rfl
  rw [hok] at hr
  cases hr

end Graft64.Runtime.Manifest
