import LinkWarden.Proofs.Supervisor.Rounds
import Mathlib.Data.List.Basic
import Mathlib.Data.List.Induction

/-!
# Misses of an earlier session

The prober ends a session after so many unreachable probes in a row. It forgets the misses it has
counted when a round finds the link down. A link that is lost and comes up again between two rounds
is not found down, so the misses of the earlier session are counted against the new one.

* `silence` is the number that matters: the unreachable probes since the link last came up, with no
  reachable one among or after them. It is read off what has been done.
* `CarriesMisses` says that the prober holds misses of an earlier session. `Tallies` compares its
  count with the silence: the count is no larger, except when misses are carried over; then it is
  larger. `tallies_run` says so of every run.
* `enough_silence_iff`: a session is ended after as many silent probes as the threshold asks for,
  all of them its own, just if no misses have been carried over into it.
-/

namespace LinkWarden

/-- The link comes up. -/
def Deed.isArrival : Deed → Bool
  | .moves _ .connected => true
  | _ => false

namespace Supervisor

/-! ### Silent probes in what has been done -/

/-- What the probe of a step finds out, if there is one. -/
def Step.found : Step → Option Probe
  | .check found _ => found
  | _ => none

/-- The unreachable probes since the link last came up, with no reachable one among or after them,
after one more act. A probe, if that is the act, finds out what is given. -/
def silenceAfter (found : Option Probe) (n : Nat) (a : Act) : Nat :=
  match a.deed with
  | .calls .probe =>
    match found with
    | none => n
    | some p => if p.reachable then 0 else n + 1
  | .moves _ .connected => 0
  | _ => n

/-- The same after a run. -/
def silenceFrom : Nat → List Step → Supervisor → Nat
  | n, [], _ => n
  | n, x :: xs, s => silenceFrom ((step x s).2.foldl (silenceAfter x.found) n) xs (step x s).1

/-- The unreachable probes of a run since the link last came up, with no reachable one among or
after them. -/
def silence (xs : List Step) (s : Supervisor) : Nat := silenceFrom 0 xs s

/-- The link comes up in a step. -/
def ComesUp (x : Step) (s : Supervisor) : Prop :=
  (step x s).2.any (fun a => a.deed.isArrival) = true

/-- In the run the link has come up while the prober had counted misses, and it has not forgotten
them since. -/
def CarriesMisses (xs : List Step) (s : Supervisor) : Prop :=
  ∃ before x after, xs = before ++ x :: after ∧ ComesUp x (run before s).1 ∧
    ∀ ys zs, after = ys ++ zs → (run (before ++ x :: ys) s).1.misses ≠ 0

/-- The last step of a run is made from where the others have led. -/
theorem run_concat (xs : List Step) (x : Step) (s : Supervisor) :
    (run (xs ++ [x]) s).1 = (step x (run xs s).1).1 := by
  rw [run_append]
  rfl

/-- The silence of a run goes on from that of the steps before. -/
theorem silenceFrom_append (n : Nat) (xs ys : List Step) (s : Supervisor) :
    silenceFrom n (xs ++ ys) s = silenceFrom (silenceFrom n xs s) ys (run xs s).1 := by
  induction xs generalizing n s with
  | nil => rfl
  | cons x xs ih => exact ih _ _

/-- So one more step adds what is done in it. -/
theorem silence_concat (xs : List Step) (x : Step) (s : Supervisor) :
    silence (xs ++ [x]) s =
      (step x (run xs s).1).2.foldl (silenceAfter x.found) (silence xs s) :=
  silenceFrom_append 0 xs [x] s

/-- Where the prober does nothing, only the arrival of the link bears on the silence. -/
theorem foldl_silenceAfter (found : Option Probe) (n : Nat) {acts : List Act}
    (h : ∀ a ∈ acts, a.deed.isProbers = false) :
    acts.foldl (silenceAfter found) n =
      if acts.any (fun a => a.deed.isArrival) = true then 0 else n := by
  induction acts generalizing n with
  | nil => rfl
  | cons a acts ih =>
    have ha : silenceAfter found n a = if a.deed.isArrival = true then 0 else n := by
      have hp := h a List.mem_cons_self
      unfold silenceAfter
      split
      · next hd => simp [hd, Deed.isProbers] at hp
      · next hd => simp [hd, Deed.isArrival]
      · next hd =>
        rw [if_neg]
        intro hup
        unfold Deed.isArrival at hup
        split at hup
        · next hm => exact hd _ hm
        · cases hup
    rw [List.foldl_cons, ih _ fun b hb => h b (List.mem_cons_of_mem a hb), ha, List.any_cons]
    cases a.deed.isArrival <;> simp

/-- The lines about a probe and about a miss are no acts of the prober, and they bring no link up. -/
theorem logs_of_mem_lines {s : Supervisor} {p : Probe} {d : Deed}
    (hd : d ∈ s.probeDeeds p ++ [s.missLine]) : ∃ line, d = .logs line := by
  rcases List.mem_append.mp hd with hd | hd
  · exact logs_of_mem_probeDeeds hd
  · exact ⟨_, List.mem_singleton.mp hd⟩

/-- No link comes up by a line. -/
theorem not_isArrival_of_mem_lines {lines : List Deed}
    (hlines : ∀ d ∈ lines, ∃ line, d = .logs line) :
    ∀ a ∈ asActs .prober lines, ¬ a.deed.isArrival = true :=
  forall_asActs_of_logs (fun _ _ hup => by cases hup) hlines

/-- What a probe adds to the silence, whatever lines are written about it. -/
theorem foldl_silenceAfter_probed (p : Probe) (n : Nat) {lines : List Deed}
    (hlines : ∀ d ∈ lines, ∃ line, d = .logs line) :
    (asActs .prober (.calls .probe :: lines)).foldl (silenceAfter (some p)) n =
      if p.reachable then 0 else n + 1 := by
  rw [asActs_cons, List.foldl_cons, foldl_silenceAfter, if_neg]
  · rfl
  · rw [List.any_eq_true, not_exists]
    exact fun a ⟨ha, hup⟩ => not_isArrival_of_mem_lines hlines a ha hup
  · exact forall_asActs_of_logs (fun _ _ => rfl) hlines

/-- No link comes up by a probe. -/
theorem not_isArrival_of_probed {lines : List Deed} (hlines : ∀ d ∈ lines, ∃ line, d = .logs line) :
    ¬ (asActs .prober (.calls .probe :: lines)).any (fun a => a.deed.isArrival) = true := by
  rw [asActs_cons, List.any_cons, Bool.or_eq_true, List.any_eq_true]
  rintro (hup | ⟨a, ha, hup⟩)
  · cases hup
  · exact not_isArrival_of_mem_lines hlines a ha hup

/-! ### The count of the prober against the silence -/

/-- After one more step the prober holds misses of an earlier session if it holds any at all and has
held such ones before, or the link has come up in this step. -/
theorem carriesMisses_concat_iff (xs : List Step) (x : Step) (s : Supervisor) :
    CarriesMisses (xs ++ [x]) s ↔
      (run (xs ++ [x]) s).1.misses ≠ 0 ∧ (CarriesMisses xs s ∨ ComesUp x (run xs s).1) := by
  constructor
  · rintro ⟨before, y, after, heq, hup, hheld⟩
    have hend : (run (xs ++ [x]) s).1.misses ≠ 0 := by
      rw [heq]
      exact hheld after [] (List.append_nil after).symm
    refine ⟨hend, ?_⟩
    rcases List.eq_nil_or_concat after with rfl | ⟨after, z, rfl⟩
    · -- the link has come up in the last step
      obtain ⟨rfl, hxy⟩ := List.append_inj' heq rfl
      obtain rfl : x = y := by simpa using hxy
      exact .inr hup
    · rw [List.concat_eq_append, ← List.cons_append, ← List.append_assoc] at heq
      obtain ⟨rfl, hxz⟩ := List.append_inj' heq rfl
      refine .inl ⟨before, y, after, rfl, hup, ?_⟩
      rintro ys zs rfl
      exact hheld ys (zs ++ [z]) (by simp)
  · rintro ⟨hend, ⟨before, y, after, rfl, hup, hheld⟩ | hup⟩
    · refine ⟨before, y, after ++ [x], by simp, hup, ?_⟩
      intro ys zs heq
      rcases List.eq_nil_or_concat zs with rfl | ⟨zs, z, rfl⟩
      · rw [List.append_nil] at heq
        subst heq
        simpa using hend
      · rw [List.concat_eq_append, ← List.append_assoc] at heq
        obtain ⟨rfl, -⟩ := List.append_inj' heq rfl
        exact hheld ys zs rfl
    · refine ⟨xs, x, [], rfl, hup, ?_⟩
      intro ys zs heq
      obtain ⟨rfl, -⟩ := List.append_eq_nil_iff.mp heq.symm
      exact hend

/-- There is room for one more miss. -/
theorem toNat_add_one_of_lt {misses : UInt32} (h : misses.toNat + 1 < UInt32.size) :
    (misses + 1).toNat = misses.toNat + 1 := by
  rw [UInt32.toNat_add]
  exact Nat.mod_eq_of_lt h

/-- What the prober has counted, against the silent probes of this session. The count is below the
threshold, and it is larger than the silence just if misses have been carried over. -/
structure Tallies (threshold silent counted : Nat) (carried : Prop) : Prop where
  below : counted = 0 ∨ counted < threshold
  own : ¬ carried → counted ≤ silent
  foreign : carried → silent < counted

namespace Tallies

variable {t n m : Nat} {carried : Prop}

/-- The prober begins to count anew. -/
theorem anew (t n : Nat) (h : ¬ carried) : Tallies t n 0 carried :=
  ⟨.inl rfl, fun _ => Nat.zero_le n, fun hc => absurd hc h⟩

/-- The prober does nothing; if the link comes up, all it has counted is of an earlier session. -/
theorem pass (h : Tallies t n m carried) (up : Prop) [Decidable up] :
    Tallies t (if up then 0 else n) m (m ≠ 0 ∧ (carried ∨ up)) := by
  have hown := h.own
  have hforeign := h.foreign
  refine ⟨h.below, ?_, ?_⟩
  · intro hc
    by_cases hup : up
    · rw [if_pos hup]
      have : ¬ m ≠ 0 := fun hm => hc ⟨hm, .inr hup⟩
      omega
    · rw [if_neg hup]
      by_cases hm : m = 0
      · omega
      · exact hown fun hcarried => hc ⟨hm, .inl hcarried⟩
  · rintro ⟨hm, hc⟩
    by_cases hup : up
    · rw [if_pos hup]
      omega
    · rw [if_neg hup]
      exact hforeign (hc.resolve_right hup)

/-- One more miss. -/
theorem count (h : Tallies t n m carried) (hlt : m + 1 < t) :
    Tallies t (n + 1) (m + 1) (m + 1 ≠ 0 ∧ (carried ∨ False)) := by
  have hown := h.own
  have hforeign := h.foreign
  refine ⟨.inr hlt, ?_, ?_⟩
  · intro hc
    have := hown fun hcarried => hc ⟨Nat.succ_ne_zero m, .inl hcarried⟩
    omega
  · rintro ⟨-, hc⟩
    have := hforeign (hc.resolve_right not_false)
    omega

/-- When there are enough misses, the silence is as long as the threshold asks for just if none of
them has been carried over. -/
theorem enough_iff (h : Tallies t n m carried) (ht : t ≤ m + 1) : t ≤ n + 1 ↔ ¬ carried := by
  have hbelow := h.below
  constructor
  · intro hn hc
    have := h.foreign hc
    omega
  · intro hc
    have := h.own hc
    omega

/-- Whether misses are carried over may be said in other words. -/
theorem congr {carried' : Prop} (h : Tallies t n m carried) (hiff : carried' ↔ carried) :
    Tallies t n m carried' := by
  rwa [propext hiff]

/-- Below the threshold there is room for one more miss. -/
theorem toNat_add_one {threshold misses : UInt32}
    (h : Tallies threshold.toNat n misses.toNat carried) :
    (misses + 1).toNat = misses.toNat + 1 := by
  have hbelow := h.below
  have hsize := threshold.toNat_lt_size
  have hroom : 1 < UInt32.size := by decide
  exact toNat_add_one_of_lt (by omega)

end Tallies

section Step

variable {s : Supervisor} {t n : Nat} {carried : Prop}

/-- The prober has forgotten all misses. -/
theorem tallies_of_forgotten {x : Supervisor} (h : x.misses = 0) (Q : Prop) :
    Tallies t n x.misses.toNat (x.misses ≠ 0 ∧ Q) := by
  rw [h]
  exact .anew t n fun hc => hc.1 rfl

/-- What leaves the misses alone keeps the tally, whether the link comes up in it or not. -/
theorem tallies_of_leavesMisses (h : Tallies t n s.misses.toNat carried) (found : Option Probe)
    {x : Supervisor × List Act} (hx : LeavesMisses s x) :
    Tallies t (x.2.foldl (silenceAfter found) n) x.1.misses.toNat
      (x.1.misses ≠ 0 ∧ (carried ∨ x.2.any (fun a => a.deed.isArrival) = true)) := by
  rw [foldl_silenceAfter found n hx.2, hx.1]
  exact (h.pass _).congr (and_congr_left' (not_congr UInt32.toNat_inj.symm))

/-- A round of the prober keeps it: it forgets all misses, or counts one, or leaves them. -/
theorem tallies_check
    (h : Tallies s.supervision.health.threshold.toNat n s.misses.toNat carried)
    (found : Option Probe) (reply : Reply) :
    Tallies s.supervision.health.threshold.toNat
      ((s.check found reply).2.foldl (silenceAfter found) n) (s.check found reply).1.misses.toNat
      ((s.check found reply).1.misses ≠ 0 ∧
        (carried ∨ (s.check found reply).2.any (fun a => a.deed.isArrival) = true)) := by
  rcases check_cases found reply with
    hx | hx | ⟨rfl, hx⟩ | ⟨p, rfl, -, hx⟩ | ⟨p, rfl, hr, ⟨hroom, hx⟩ | ⟨-, hx⟩⟩ <;> rw [hx]
  · exact tallies_of_leavesMisses h found (leavesMisses_nil s)
  · exact tallies_of_forgotten rfl _
  · refine (h.pass False).congr (and_congr (not_congr UInt32.toNat_inj.symm) ?_)
    exact or_congr_right (iff_of_false (by simp [Deed.isArrival]) not_false)
  · exact tallies_of_forgotten rfl _
  · have hsucc := h.toNat_add_one
    have hlt : s.misses.toNat + 1 < s.supervision.health.threshold.toNat := by
      rw [← hsucc]
      exact UInt32.lt_iff_toNat_lt.mp (UInt32.not_le.mp hroom)
    dsimp only
    rw [foldl_silenceAfter_probed p n fun _ => logs_of_mem_lines, hsucc, hr, if_neg (by decide)]
    refine (h.count hlt).congr (and_congr (not_congr ?_) (or_congr_right ?_))
    · rw [← hsucc]
      exact UInt32.toNat_inj.symm
    · exact iff_of_false (not_isArrival_of_probed fun _ => logs_of_mem_lines) not_false
  · exact tallies_of_forgotten (ended_misses _ _) _

/-- **A step keeps the count of the prober right against the silence.** -/
theorem tallies_step (h : Tallies s.supervision.health.threshold.toNat n s.misses.toNat carried)
    (x : Step) :
    Tallies s.supervision.health.threshold.toNat ((step x s).2.foldl (silenceAfter x.found) n)
      (step x s).1.misses.toNat ((step x s).1.misses ≠ 0 ∧ (carried ∨ ComesUp x s)) := by
  by_cases hx : ∀ found reply, x ≠ .check found reply
  · exact tallies_of_leavesMisses h x.found (step_of_no_round hx s)
  · push Not at hx
    obtain ⟨found, reply, rfl⟩ := hx
    exact tallies_check h found reply

end Step

/-- **In every run the prober holds more misses than there are silent probes of this session just
if it holds misses of an earlier one.** -/
theorem tallies_run (id : String) (c : Supervision) (xs : List Step) :
    Tallies c.health.threshold.toNat (silence xs (make id c))
      (run xs (make id c)).1.misses.toNat (CarriesMisses xs (make id c)) := by
  induction xs using List.reverseRecOn with
  | nil =>
    refine .anew _ _ ?_
    rintro ⟨before, x, after, heq, -⟩
    simp at heq
  | append_singleton xs x ih =>
    have hsetup : (run xs (make id c)).1.supervision = c := (run_setup xs (make id c)).2
    have hstep := tallies_step (s := (run xs (make id c)).1) (by rw [hsetup]; exact ih) x
    rw [hsetup] at hstep
    rw [silence_concat, run_concat]
    refine hstep.congr ?_
    rw [carriesMisses_concat_iff, run_concat]

/-! ### Forced disconnections -/

/-- A session is ended in one place only: in a round that finds the peer unreachable, when the miss
makes the count reach the threshold. -/
theorem forced_of_disconnect {s : Supervisor} {x : Step} {before after : List Act} {call : Act}
    (hacts : (step x s).2 = before ++ call :: after) (hcall : call.deed = .calls .disconnect) :
    ∃ p, x.found = some p ∧ p.reachable = false ∧
      s.supervision.health.threshold ≤ s.misses + 1 ∧
      before = asActs .prober (.calls .probe :: (s.probeDeeds p ++ [s.missLine])) := by
  have hmem : call ∈ (step x s).2 := by
    rw [hacts]
    exact List.mem_append_right _ List.mem_cons_self
  by_cases hx : ∀ found reply, x ≠ .check found reply
  · have hno := (step_of_no_round hx s).2 call hmem
    rw [hcall] at hno
    cases hno
  push Not at hx
  obtain ⟨found, reply, rfl⟩ := hx
  replace hacts : (s.check found reply).2 = before ++ call :: after := hacts
  replace hmem : call ∈ (s.check found reply).2 := hmem
  -- the lines of a round are no call
  have hlines : ∀ (p : Probe) (lines : List Deed), lines ⊆ s.probeDeeds p ++ [s.missLine] →
      call ∉ asActs .prober (.calls .probe :: lines) := by
    intro p lines hsub hin
    obtain ⟨d, hd, rfl⟩ := List.mem_map.mp hin
    rcases List.mem_cons.mp hd with rfl | hd
    · cases hcall
    · obtain ⟨line, rfl⟩ := logs_of_mem_lines (hsub hd)
      cases hcall
  rcases check_cases found reply with
    hx | hx | ⟨rfl, hx⟩ | ⟨p, rfl, -, hx⟩ | ⟨p, rfl, hr, ⟨-, hx⟩ | ⟨henough, hx⟩⟩ <;>
      rw [hx] at hacts hmem
  · cases hmem
  · cases hmem
  · exact absurd hmem (hlines ⟨none, true⟩ [] (List.nil_subset _))
  · exact absurd hmem (hlines p _ (List.subset_append_left _ _))
  · exact absurd hmem (hlines p _ (List.Subset.refl _))
  · refine ⟨p, rfl, hr, henough, ?_⟩
    refine ((List.append_cons_inj_of_notMem (hlines p _ (List.Subset.refl _)) ?_).mp hacts).1.symm
    -- nor is anything that the call delivers, or the line about its failure
    intro hin
    have hno := isProbers_of_mem_endActs hin
    rw [hcall] at hno
    cases hno

/-- **A session is ended after enough silent probes of its own just if no misses of an earlier one
have been carried over into it.** -/
theorem enough_silence_iff (id : String) (c : Supervision) {xs : List Step} {x : Step}
    {before after : List Act} {call : Act}
    (hacts : (step x (run xs (make id c)).1).2 = before ++ call :: after)
    (hcall : call.deed = .calls .disconnect) :
    c.health.threshold.toNat ≤ before.foldl (silenceAfter x.found) (silence xs (make id c)) ↔
      ¬ CarriesMisses xs (make id c) := by
  obtain ⟨p, hfound, hr, henough, rfl⟩ := forced_of_disconnect hacts hcall
  have htally := tallies_run id c xs
  have hsetup : (run xs (make id c)).1.supervision = c := (run_setup xs (make id c)).2
  rw [hsetup] at henough
  have hreached : c.health.threshold.toNat ≤ (run xs (make id c)).1.misses.toNat + 1 := by
    rw [← htally.toNat_add_one]
    exact UInt32.le_iff_toNat_le.mp henough
  rw [hfound, foldl_silenceAfter_probed p _ fun _ => logs_of_mem_lines, hr, if_neg (by decide)]
  exact htally.enough_iff hreached

/-! ### A session ended early -/

/-- The supervision of a link that is given up after two misses. -/
def twoMisses : Supervision :=
  { retry := .fixed (.ofSeconds 1) none, health := .every (.ofSeconds 1) 2 }

/-- A session is lost after one miss, and the link is up again before the next round. -/
def regained : List Step := [
  .init (.delivers .started (.delivers (.established none) .done .done) .done),
  .check (some ⟨none, false⟩) .done,
  .deliver .caller (.lost none) .done,
  .turn (.delivers (.established none) .done .done)]

/-- A round that finds the peer unreachable, and in which a disconnection takes effect at once. -/
def roundOfMiss : Step := .check (some ⟨none, false⟩) (.delivers (.lost none) .done .done)

/-- What the prober does in the round up to the disconnection, if this is the second miss. -/
def secondMiss : List Act := asActs .prober [
  .calls .probe,
  .logs (.message .debug "wifi: probe ok=false"),
  .logs (.message .warn "wifi: unreachable (2/2)")]

/-- The second session is ended in its first round, since a miss has been carried over. -/
theorem carriesMisses_regained :
    ∃ after,
      (step roundOfMiss (run regained (make "wifi" twoMisses)).1).2 =
        secondMiss ++ ⟨.prober, .calls .disconnect⟩ :: after ∧
      CarriesMisses regained (make "wifi" twoMisses) := by
  have hacts : (step roundOfMiss (run regained (make "wifi" twoMisses)).1).2 =
      secondMiss ++ ⟨.prober, .calls .disconnect⟩ ::
        (step roundOfMiss (run regained (make "wifi" twoMisses)).1).2.drop 4 := by
    decide +kernel
  refine ⟨_, hacts, ?_⟩
  have hiff := enough_silence_iff "wifi" twoMisses hacts rfl
  exact not_not.mp (mt hiff.mpr (by decide +kernel))

/-- **A session is ended although only one probe of it has been silent, and the threshold is two.**
-/
theorem silence_of_regained :
    ∃ after,
      (step roundOfMiss (run regained (make "wifi" twoMisses)).1).2 =
        secondMiss ++ ⟨.prober, .calls .disconnect⟩ :: after ∧
      secondMiss.foldl (silenceAfter roundOfMiss.found)
        (silence regained (make "wifi" twoMisses)) = 1 ∧
      twoMisses.health.threshold = 2 :=
  ⟨(step roundOfMiss (run regained (make "wifi" twoMisses)).1).2.drop 4, by decide +kernel,
    by decide +kernel, by decide +kernel⟩

end Supervisor

end LinkWarden
