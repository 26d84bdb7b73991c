import Graft64.Packaging.Release
import Mathlib.Data.Set.Basic

/-! What a completed packaging run leaves, and the verifications that find it. -/

namespace Graft64.Packaging.Release

open Graft64.Library Checksum

variable {c : Setting}

structure Ready (c : Setting) (archive : Str) (out : Out) : Prop where
  ipa : out .ipa = some (.file archive)
  checksum : out .ipaChecksum = some (.file (line c archive))
  noDirectory : ∀ n, out n ≠ some .directory

def Listed (c : Setting) (archive : Str) (out : Out) : Prop :=
  out .packageManifest = none ∨ out .packageManifest = some (.file (c.members archive))

def Process.OnTrack (c : Setting) (archive : Str) (out : Out) : Process → Prop
  | testIpa | testChecksum | checkFormat | readLine => True
  | readPath digest | copy digest => digest = (c.sha256 archive).hex
  | checkDigest digest path | checkPath digest path => digest = (c.sha256 archive).hex ∧ path = archiveName
  | compare digest snapshot => digest = (c.sha256 archive).hex ∧ snapshot = archive
  | inspect snapshot | readEntitlements snapshot | removeEntitlements snapshot _ | moveEntitlements snapshot _
  | checkBinaries snapshot | hashMembers snapshot => snapshot = archive
  | removeManifest snapshot text => snapshot = archive ∧ text = c.members archive
  | moveManifest snapshot text => snapshot = archive ∧ text = c.members archive ∧ Listed c archive out
  | verified snapshot => snapshot = archive ∧ Listed c archive out
  | _ => False

def Process.left : Process → ℕ
  | testIpa => 17
  | testChecksum => 16
  | checkFormat => 15
  | readLine => 14
  | readPath _ => 13
  | checkDigest _ _ => 12
  | checkPath _ _ => 11
  | copy _ => 10
  | compare _ _ => 9
  | inspect _ => 8
  | readEntitlements _ => 7
  | removeEntitlements _ _ => 6
  | moveEntitlements _ _ => 5
  | checkBinaries _ => 4
  | hashMembers _ => 3
  | removeManifest _ _ => 2
  | moveManifest _ _ => 1
  | _ => 0

section

variable {archive : Str} {w : World}

lemma follow_of_file {out : Out} {n : Name} {content : Str} (h : out n = some (.file content)) :
    follow out c.steps n = .file content := by
  obtain ⟨steps, hs⟩ := Nat.exists_eq_add_of_lt c.steps_pos
  rw [hs, follow, h]

lemma testing_file {n : Name} {content : Str} (h : w.out n = some (.file content)) (next : Process) (r : Refusal) :
    testing c w n next r = (w, next) := by
  rw [testing, follow_of_file h]

lemma reading_file {n : Name} {content : Str} (h : w.out n = some (.file content)) (next : Str → Process) :
    reading c w n next = (w, next content) := by
  rw [reading, follow_of_file h]

lemma remove_of_ne {out : Out} {n : Name} (h : out n ≠ some .directory) :
    remove out n = some (Function.update out n none) := by
  rw [remove]
  split
  · next hd => exact absurd hd h
  · rfl

def Advances (c : Setting) (archive : Str) (w : World) (p : Process) (r : World × Process) : Prop :=
  Ready c archive r.1.out ∧ (Listed c archive w.out → Listed c archive r.1.out) ∧ r.2.OnTrack c archive r.1.out ∧
    r.2.left = p.left - 1

lemma advances_self (h : Ready c archive w.out) {p next : Process} (hn : next.OnTrack c archive w.out)
    (hl : next.left = p.left - 1) : Advances c archive w p (w, next) := ⟨h, id, hn, hl⟩

lemma advances_removing (h : Ready c archive w.out) {n : Name} (hipa : n ≠ .ipa) (hsum : n ≠ .ipaChecksum)
    {p next : Process} (hn : ∀ out, (n = .packageManifest → out n = none) → next.OnTrack c archive out)
    (hl : next.left = p.left - 1) : Advances c archive w p (removing w n next) := by
  have hready : Ready c archive (Function.update w.out n none) := by
    refine ⟨(Function.update_of_ne (Ne.symm hipa) _ _).trans h.ipa,
      (Function.update_of_ne (Ne.symm hsum) _ _).trans h.checksum, fun m => ?_⟩
    rw [Function.update_apply]
    split_ifs
    · simp
    · exact h.noDirectory m
  have hlisted (hlist : Listed c archive w.out) : Listed c archive (Function.update w.out n none) := by
    by_cases hm : Name.packageManifest = n
    · subst hm
      exact .inl (Function.update_self _ _ _)
    · simp only [Listed, Function.update_of_ne hm]
      exact hlist
  rw [removing, remove_of_ne (h.noDirectory n)]
  exact ⟨hready, hlisted, hn _ fun _ => Function.update_self _ _ _, hl⟩

lemma advances_moving (h : Ready c archive w.out) {n : Name} (hipa : n ≠ .ipa) (hsum : n ≠ .ipaChecksum)
    {content : Str} (hc : n = .packageManifest → content = c.members archive)
    {p next : Process} (hn : ∀ out, (Listed c archive w.out → Listed c archive out) → next.OnTrack c archive out)
    (hl : next.left = p.left - 1) : Advances c archive w p (moving c w n content next) := by
  have hother {m : Name} (hm : m ≠ n) : move c.steps w.out n content m = w.out m := by
    rcases move_apply c.steps w.out n content m with he | ⟨he, -⟩
    · exact he
    · exact absurd he hm
  have hlisted (hlist : Listed c archive w.out) : Listed c archive (move c.steps w.out n content) := by
    rcases move_apply c.steps w.out n content .packageManifest with he | ⟨hm, he⟩
    · simp only [Listed, he]
      exact hlist
    · rw [Listed, he, hc hm.symm]
      exact .inr rfl
  refine ⟨⟨(hother (Ne.symm hipa)).trans h.ipa, (hother (Ne.symm hsum)).trans h.checksum, fun m hd => ?_⟩, hlisted,
    hn _ hlisted, hl⟩
  rcases move_apply c.steps w.out n content m with he | ⟨-, he⟩
  · exact h.noDirectory m (he.symm.trans hd)
  · cases he.symm.trans hd

lemma advances_command (h : Ready c archive w.out) (output : Str) {p : Process} (hp : p.OnTrack c archive w.out) :
    Advances c archive w p (command c w output p) := by
  obtain ⟨hone, hdigest, hhex, hpath⟩ :=
    of_expected_eq_some (expected_shasumLine c.locale (c.sha256 archive).isHex)
  cases p with
  | testIpa =>
    rw [command, testing_file h.ipa]
    exact advances_self h trivial rfl
  | testChecksum =>
    rw [command, testing_file h.checksum]
    exact advances_self h trivial rfl
  | checkFormat =>
    rw [command, reading_file h.checksum]
    rw [line, if_pos hone]
    exact advances_self h trivial rfl
  | readLine =>
    rw [command, reading_file h.checksum]
    exact advances_self h hdigest rfl
  | readPath digest =>
    rw [command, reading_file h.checksum]
    exact advances_self h ⟨hp, hpath⟩ rfl
  | checkDigest digest path =>
    obtain ⟨rfl, rfl⟩ := hp
    rw [command, checking, if_pos hhex]
    exact advances_self h ⟨rfl, rfl⟩ rfl
  | checkPath digest path =>
    obtain ⟨rfl, rfl⟩ := hp
    rw [command, checking, if_pos (beq_self_eq_true _)]
    exact advances_self h rfl rfl
  | copy digest =>
    rw [command, reading_file h.ipa]
    exact advances_self h ⟨hp, rfl⟩ rfl
  | compare digest snapshot =>
    obtain ⟨rfl, rfl⟩ := hp
    rw [command, checking, if_pos (beq_self_eq_true _)]
    exact advances_self h rfl rfl
  | inspect snapshot | readEntitlements snapshot | checkBinaries snapshot => exact advances_self h hp rfl
  | removeEntitlements snapshot text =>
    refine advances_removing h ?_ ?_ (fun _ _ => hp) rfl <;> decide
  | moveEntitlements snapshot text =>
    refine advances_moving h ?_ ?_ (fun hn => ?_) (fun _ _ => hp) rfl
    · decide
    · decide
    · cases hn
  | hashMembers snapshot =>
    obtain rfl := hp
    exact advances_self h ⟨rfl, rfl⟩ rfl
  | removeManifest snapshot text =>
    refine advances_removing h ?_ ?_ (fun out hout => ⟨hp.1, hp.2, .inl (hout rfl)⟩) rfl <;> decide
  | moveManifest snapshot text =>
    refine advances_moving h ?_ ?_ (fun _ => hp.2.1) (fun out hout => ⟨hp.1, hout hp.2.2⟩) rfl <;> decide
  | verified snapshot => exact advances_self h hp rfl
  | _ => cases hp

end

def Event.Verifying : Event → Prop
  | verify _ | run _ (some _) => True
  | _ => False

structure State.Published (c : Setting) (archive : Str) (old : Set ℕ) (s : State) : Prop where
  ready : Ready c archive s.world.out
  ended : ∀ k ∈ old, ∃ p, s.processes k = some p ∧ p.over = true
  onTrack : ∀ k ∉ old, ∀ p, s.processes k = some p → p.OnTrack c archive s.world.out

lemma Process.OnTrack.listed {archive : Str} {out out' : Out}
    (h : Listed c archive out → Listed c archive out') {p : Process}
    (hp : p.OnTrack c archive out) : p.OnTrack c archive out' := by
  cases p with
  | moveManifest => exact ⟨hp.1, hp.2.1, h hp.2.2⟩
  | verified => exact ⟨hp.1, h hp.2⟩
  | _ => exact hp

lemma command_over {p : Process} (hp : p.over = true) (w : World) (output : Str) :
    command c w output p = (w, p) := by
  cases p with
  | created | verified | refused | stopped => rfl
  | _ => cases hp

def Event.of (k : ℕ) : Event → Bool
  | run j _ => j == k
  | _ => false

lemma update_kept {f : ℕ → Option Process} {j k : ℕ} (hj : j ≠ k) (p : Process) {q : Process} (h : f j = some q) :
    Function.update f k (some p) j = some q := (Function.update_of_ne hj _ _).trans h

lemma ne_of_none {f : ℕ → Option Process} {j k : ℕ} (hk : f k = none) {q : Process} (hj : f j = some q) :
    j ≠ k := by
  rintro rfl
  cases hk.symm.trans hj

def State.Follows (s s' : State) (old : Set ℕ) (e : Event) : Prop :=
  ∀ k ∉ old, ∀ p, s.processes k = some p → ∃ p', s'.processes k = some p' ∧
    p'.left = p.left - if e.of k then 1 else 0

lemma published_start {archive : Str} {old : Set ℕ} {s : State} (h : s.Published c archive old) (k : ℕ) :
    (s.start k .testIpa).Published c archive old ∧ s.Follows (s.start k .testIpa) old (.verify k) := by
  rw [State.start]
  split
  · next hk =>
    refine ⟨⟨h.ready, fun j hj => ?_, fun j hj q hq => ?_⟩,
      fun j hj q hq => ⟨q, update_kept (ne_of_none hk hq) _ hq, rfl⟩⟩
    · obtain ⟨p, hp, ho⟩ := h.ended j hj
      exact ⟨p, update_kept (ne_of_none hk hp) _ hp, ho⟩
    · rcases of_update hq with ⟨-, rfl⟩ | hq
      · exact trivial
      · exact h.onTrack j hj q hq
  · exact ⟨h, fun j _ q hq => ⟨q, hq, rfl⟩⟩

lemma published_run {archive : Str} {old : Set ℕ} {s : State} (h : s.Published c archive old) (k : ℕ)
    (output : Str) :
    (step c s (.run k (some output))).Published c archive old ∧
      s.Follows (step c s (.run k (some output))) old (.run k (some output)) := by
  have hother {j : ℕ} (hj : j ≠ k) (q : Process) :
      q.left = q.left - if (Event.run k (some output)).of j then 1 else 0 := by
    simp [Event.of, Ne.symm hj]
  rw [step]
  cases hk : s.processes k with
  | none => exact ⟨h, fun j _ q hq => ⟨q, hq, hother (ne_of_none hk hq) q⟩⟩
  | some p =>
    by_cases ho : k ∈ old
    · -- a run that is over stays as it is
      obtain ⟨q, hq, hover⟩ := h.ended k ho
      obtain rfl : p = q := Option.some.inj (hk.symm.trans hq)
      have hsame : Function.update s.processes k (some p) = s.processes := by
        rw [← hk, Function.update_eq_self]
      simp only [advance, command_over hover, hsame]
      exact ⟨h, fun j hj q hq => ⟨q, hq, hother (ne_of_mem_of_not_mem ho hj).symm q⟩⟩
    · obtain ⟨hready, hlisted, htrack, hleft⟩ := advances_command h.ready output (h.onTrack k ho p hk)
      refine ⟨⟨hready, fun j hj => ?_, fun j hj q hq => ?_⟩, fun j hj q hq => ?_⟩
      · obtain ⟨q, hq, hover⟩ := h.ended j hj
        exact ⟨q, update_kept (ne_of_mem_of_not_mem hj ho) _ hq, hover⟩
      · rcases of_update hq with ⟨-, rfl⟩ | hq
        · exact htrack
        · exact (h.onTrack j hj q hq).listed hlisted
      · by_cases hjk : j = k
        · subst hjk
          obtain rfl : p = q := Option.some.inj (hk.symm.trans hq)
          refine ⟨_, Function.update_self _ _ _, hleft.trans ?_⟩
          simp [Event.of]
        · exact ⟨q, update_kept hjk _ hq, hother hjk q⟩

lemma published_step {archive : Str} {old : Set ℕ} {s : State} (h : s.Published c archive old) {e : Event}
    (he : e.Verifying) : (step c s e).Published c archive old ∧ s.Follows (step c s e) old e := by
  cases e with
  | package k => cases he
  | verify k => exact published_start h k
  | run k outcome =>
    cases outcome with
    | none => cases he
    | some output => exact published_run h k output

lemma published_after {archive : Str} {old : Set ℕ} {s : State} (h : s.Published c archive old) {es : List Event}
    (hes : ∀ e ∈ es, e.Verifying) : (after c s es).Published c archive old ∧
      ∀ k ∉ old, ∀ p, s.processes k = some p → ∃ p', (after c s es).processes k = some p' ∧
        p'.left = p.left - es.countP (Event.of k) := by
  induction es generalizing s with
  | nil => exact ⟨h, fun k _ p hp => ⟨p, hp, rfl⟩⟩
  | cons e es ih =>
    obtain ⟨he, hes⟩ := List.forall_mem_cons.mp hes
    obtain ⟨hstep, hleft⟩ := published_step h he
    obtain ⟨hafter, hlast⟩ := ih hstep hes
    refine ⟨hafter, fun k hk p hp => ?_⟩
    obtain ⟨p₁, hp₁, hl₁⟩ := hleft k hk p hp
    obtain ⟨p₂, hp₂, hl₂⟩ := hlast k hk p₁ hp₁
    refine ⟨p₂, hp₂, ?_⟩
    rw [hl₂, hl₁, List.countP_cons]
    omega

def own (c : Setting) (output : Str) (r : World × Process) : World × Process := command c r.1 output r.2

lemma after_own {s : State} {k : ℕ} {p : Process} (hp : s.processes k = some p) (output : Str) (n : ℕ) :
    after c s (List.replicate n (.run k (some output))) =
      ⟨((own c output)^[n] (s.world, p)).1,
        Function.update s.processes k (some ((own c output)^[n] (s.world, p)).2)⟩ := by
  induction n generalizing s p with
  | zero =>
    have hsame : Function.update s.processes k (some p) = s.processes := by
      rw [← hp, Function.update_eq_self]
    simp [after, hsame]
  | succ n ih =>
    have hstep : step c s (.run k (some output)) =
        ⟨(own c output (s.world, p)).1, Function.update s.processes k (some (own c output (s.world, p)).2)⟩ := by
      simp only [step, hp]
      rfl
    rw [List.replicate_succ, after, List.foldl_cons, ← after, hstep, ih (Function.update_self _ _ _),
      Function.iterate_succ_apply, Function.update_idem]

def published (c : Setting) (archive : Str) (out : Out) : Out :=
  Function.update (Function.update out .ipa (some (.file archive))) .ipaChecksum (some (.file (line c archive)))

lemma follow_of_none {out : Out} {n : Name} (h : out n = none) : follow out c.steps n = .missing := by
  obtain ⟨steps, hs⟩ := Nat.exists_eq_add_of_lt c.steps_pos
  rw [hs, follow, h]

lemma own_package {w : World} (hdir : ∀ n, w.out n ≠ some .directory) (archive : Str) :
    (own c archive)^[6] (w, .testApp) =
      (⟨published c archive w.out, archive :: w.zipped, archive :: w.hashed⟩, .created) := by
  let out₁ : Out := Function.update w.out .ipa none
  let out₂ : Out := Function.update out₁ .ipa (some (.file archive))
  let out₃ : Out := Function.update out₂ .ipaChecksum none
  have hremove : own c archive (w, .removeIpa) = ({ w with out := out₁ }, .zip) := by
    rw [own, command, removing, remove_of_ne (hdir .ipa)]
  have hzip : own c archive ({ w with out := out₁ }, .zip) =
      (⟨out₂, archive :: w.zipped, w.hashed⟩, .hashIpa) := by
    rw [own, command, follow_of_none (show out₁ .ipa = none from Function.update_self _ _ _)]
  have hhash : own c archive (⟨out₂, archive :: w.zipped, w.hashed⟩, .hashIpa) =
      (⟨out₂, archive :: w.zipped, archive :: w.hashed⟩, .removeChecksum (line c archive)) := by
    rw [own, command, follow_of_file (show out₂ .ipa = some (.file archive) from Function.update_self _ _ _)]
  have hremove' (text : Str) :
      own c archive (⟨out₂, archive :: w.zipped, archive :: w.hashed⟩, .removeChecksum text) =
      (⟨out₃, archive :: w.zipped, archive :: w.hashed⟩, .moveChecksum text) := by
    have hsum : out₂ .ipaChecksum ≠ some .directory := hdir .ipaChecksum
    rw [own, command, removing, remove_of_ne hsum]
  have hmove (text : Str) : own c archive (⟨out₃, archive :: w.zipped, archive :: w.hashed⟩, .moveChecksum text) =
      (⟨Function.update out₂ .ipaChecksum (some (.file text)), archive :: w.zipped, archive :: w.hashed⟩,
        .created) := by
    rw [own, command, moving, move, follow_of_none (show out₃ .ipaChecksum = none from Function.update_self _ _ _)]
    exact congrArg (fun out => (World.mk out _ _, Process.created)) (Function.update_idem _ _ _)
  change own c archive (own c archive (own c archive (own c archive (own c archive (w, .removeIpa))))) = _
  rw [hremove, hzip, hhash, hremove', hmove]
  exact congrArg (fun out => (World.mk (Function.update out _ _) _ _, Process.created))
    (Function.update_idem _ _ _)

lemma published_ready (archive : Str) {out : Out} (hdir : ∀ n, out n ≠ some .directory) :
    Ready c archive (published c archive out) := by
  refine ⟨rfl, rfl, fun n => ?_⟩
  simp only [published, Function.update_apply]
  split_ifs
  · simp
  · simp
  · exact hdir n

lemma published_package {s : State} (hover : ∀ k p, s.processes k = some p → p.over = true)
    (hdir : ∀ n, s.world.out n ≠ some .directory) {k : ℕ} (hk : s.processes k = none) (archive : Str) :
    (after c s (packageRun k archive)).Published c archive {j | s.processes j ≠ none ∨ j = k} := by
  have hstart : s.start k .testApp = { s with processes := Function.update s.processes k (some .testApp) } := by
    rw [State.start, hk]
  have hrun : after c s (packageRun k archive) =
      ⟨⟨published c archive s.world.out, archive :: s.world.zipped, archive :: s.world.hashed⟩,
        Function.update s.processes k (some .created)⟩ := by
    rw [packageRun, after, List.foldl_cons, ← after, step, hstart, after_own (Function.update_self _ _ _),
      own_package hdir, Function.update_idem]
  rw [hrun]
  refine ⟨published_ready archive hdir, fun j hj => ?_, fun j hj p hp => ?_⟩
  · by_cases hjk : j = k
    · subst hjk
      exact ⟨.created, Function.update_self _ _ _, rfl⟩
    · obtain ⟨p, hp⟩ := Option.ne_none_iff_exists'.mp (hj.resolve_right hjk)
      exact ⟨p, update_kept hjk _ hp, hover j p hp⟩
  · simp only [Set.mem_ofPred_eq, not_or, not_not] at hj
    rcases of_update hp with ⟨hjk, -⟩ | hp
    · exact absurd hjk hj.2
    · cases hj.1.symm.trans hp

lemma after_append (s : State) (es es' : List Event) : after c s (es ++ es') = after c (after c s es) es' :=
  List.foldl_append

lemma left_le (p : Process) : p.left ≤ 17 := by
  cases p <;> simp [Process.left]

lemma verified_of_left {archive : Str} {out : Out} {p : Process} (hp : p.OnTrack c archive out) (hl : p.left = 0) :
    p = .verified archive ∧ Listed c archive out := by
  cases p with
  | verified snapshot =>
    obtain ⟨rfl, hlist⟩ := hp
    exact ⟨rfl, hlist⟩
  | created | refused | stopped | testApp | removeIpa | zip | hashIpa | removeChecksum | moveChecksum => cases hp
  | _ => cases hl

lemma start_isSome (s : State) (k : ℕ) (p : Process) : ∃ q, (s.start k p).processes k = some q := by
  rw [State.start]
  split
  · exact ⟨p, Function.update_self _ _ _⟩
  · next q hq => exact ⟨q, hq⟩

/-- No archive that a packaging run has completed is turned down: from any directory, whatever runs went before
and however the verifications are interleaved, one whose commands do not fail comes to its end with that
archive, which the verifications leave as it is. -/
theorem packaged_is_verified (c : Setting) (s : State) (hover : ∀ k p, s.processes k = some p → p.over = true)
    (hdir : ∀ n, s.world.out n ≠ some .directory) (k : ℕ) (hk : s.processes k = none) (archive : Str)
    (es es' : List Event) (hes : ∀ e ∈ es, e.Verifying) (hes' : ∀ e ∈ es', e.Verifying)
    (j : ℕ) (hj : s.processes j = none) (hjk : j ≠ k) :
    let t := after c s (packageRun k archive ++ es ++ .verify j :: es')
    t.world.out .ipa = some (.file archive) ∧ t.world.out .ipaChecksum = some (.file (line c archive)) ∧
      (17 ≤ es'.countP (Event.of j) → t.processes j = some (.verified archive) ∧
        Listed c archive t.world.out) := by
  intro t
  have hnew : j ∉ {j | s.processes j ≠ none ∨ j = k} := fun h => h.elim (fun h => h hj) hjk
  have hpackaged := published_package (c := c) hover hdir hk archive
  obtain ⟨hbefore, -⟩ := published_after hpackaged hes
  obtain ⟨hstart, -⟩ := published_start hbefore j
  obtain ⟨p, hp⟩ := start_isSome (after c (after c s (packageRun k archive)) es) j .testIpa
  obtain ⟨hlast, hleft⟩ := published_after hstart hes'
  obtain ⟨q, hq, hl⟩ := hleft j hnew p hp
  have ht : t = after c ((after c (after c s (packageRun k archive)) es).start j .testIpa) es' := by
    have hcons (u : State) : after c u (.verify j :: es') = after c (u.start j .testIpa) es' := rfl
    rw [← hcons, ← after_append s, ← after_append s]
  rw [ht]
  refine ⟨hlast.ready.ipa, hlast.ready.checksum, fun hcount => ?_⟩
  have hzero : q.left = 0 := by
    have := left_le p
    omega
  obtain ⟨rfl, hlist⟩ := verified_of_left (hlast.onTrack j hnew q hq) hzero
  exact ⟨hq, hlist⟩

lemma sampleOut_noDirectory (n : Name) : sampleOut n ≠ some .directory := by
  cases n <;> simp [sampleOut]

lemma verifying_replicate (n k : ℕ) : ∀ e ∈ List.replicate n (Event.run k (some [])), e.Verifying := by
  intro e he
  obtain rfl := List.eq_of_mem_replicate he
  exact trivial

theorem packaged_is_verified_sample :
    let t := after sampleSetting (.initial sampleOut)
      (packageRun 0 [80] ++ [.verify 2] ++ .verify 1 :: List.replicate 17 (.run 1 (some [])))
    t.world.out .ipa = some (.file [80]) ∧ t.world.out .ipaChecksum = some (.file (line sampleSetting [80])) ∧
      (17 ≤ (List.replicate 17 (Event.run 1 (some []))).countP (Event.of 1) →
        t.processes 1 = some (.verified [80]) ∧ Listed sampleSetting [80] t.world.out) :=
  packaged_is_verified sampleSetting (.initial sampleOut) (fun k p hp => by cases hp)
    sampleOut_noDirectory 0 rfl [80]
    [.verify 2] _ (by simp [Event.Verifying]) (verifying_replicate 17 1) 1 rfl (by decide)

end Graft64.Packaging.Release
