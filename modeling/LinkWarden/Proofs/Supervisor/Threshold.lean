import LinkWarden.Proofs.Supervisor.Misses
import LinkWarden.Supervisor.Rig
import Mathlib.Data.List.DropRight

/-!
# The threshold of the prober

A round of the prober finds one of four things. The count of misses is a number kept between
rounds; what it stands for is a number about the rounds that have been made: the unreachable probes
since the last round that made the prober begin anew.

* `Step.finding` is what a round finds, and `upshot_step` says what comes of it: the misses held
  afterwards, and how often the transport is probed and told to disconnect.
* `rounds` is what can be seen of the rounds of a run: what each has found, and whether it has ended
  the session. `missesSinceReset` is read off that, and `Recorded` is the invariant: the count of
  the prober is that number, and it is below the threshold. `recorded_step` is the step,
  `recorded_run` the run.
* `rounds_flatMap_roundTo`: the rounds of a run may find anything, in any order.
* `check_withResult`: how a call for a disconnection ends is of no account for the supervisor.
* `EndsAtThreshold` lists what follows, and `endsAtThreshold` is the main statement.
-/

namespace LinkWarden

/-! ### What a round finds -/

/-- What a round of the prober finds. -/
inductive Finding
  | /-- The link is not up, and it is not probed. -/
    down
  | /-- The probe finds out nothing. -/
    nothing
  | reachable
  | unreachable
  deriving DecidableEq, Repr

namespace Finding

/-- What the probe of a link that is up comes to. -/
def ofProbe : Option Probe → Finding
  | none => .nothing
  | some p => if p.reachable then .reachable else .unreachable

/-- The link has been probed. -/
def isProbed (f : Finding) : Bool := f != .down

/-- A probe that comes to this. -/
def probe : Finding → Option Probe
  | .down => none
  | .nothing => none
  | .reachable => some ⟨none, true⟩
  | .unreachable => some ⟨none, false⟩

/-- There is a probe for everything that a probe can find. -/
theorem ofProbe_probe {f : Finding} (h : f.isProbed = true) : ofProbe f.probe = f := by
  cases f with
  | down => cases h
  | nothing => rfl
  | reachable => rfl
  | unreachable => rfl

end Finding

namespace Rig

variable (call : TransportCall)

/-- An act adds one to the calls if it is such a call. -/
theorem count_cons (a : Act) (acts : List Act) :
    count call (a :: acts) = count call acts + if a.deed = .calls call then 1 else 0 := by
  simp [count, List.countP_cons]

/-- The calls of two runs add up. -/
theorem count_append (xs ys : List Act) :
    count call (xs ++ ys) = count call xs + count call ys :=
  List.countP_append

end Rig

namespace Supervisor

/-- What a step finds, if it is a round of the prober. -/
def Step.finding : Step → Supervisor → Option Finding
  | .check found _, s =>
    if s.probing = true ∧ s.stopping = false then
      some (if s.state = .connected then .ofProbe found else .down)
    else none
  | _, _ => none

/-- Only a round finds something. -/
theorem finding_of_no_round {x : Step} (hx : ∀ found reply, x ≠ .check found reply)
    (s : Supervisor) : x.finding s = none := by
  cases x with
  | check found reply => exact absurd rfl (hx found reply)
  | _ => rfl

/-- A prober that is at rest finds nothing. -/
theorem finding_of_resting {s : Supervisor} (h : ¬ (s.probing = true ∧ s.stopping = false))
    (found : Option Probe) (reply : Reply) : Step.finding (.check found reply) s = none :=
  if_neg h

/-- A link that is not up is found down. -/
theorem finding_of_down {s : Supervisor} (hp : s.probing = true) (hs : s.stopping = false)
    (hd : s.state ≠ .connected) (found : Option Probe) (reply : Reply) :
    Step.finding (.check found reply) s = some .down := by
  simp [Step.finding, hp, hs, hd]

/-- A link that is up is probed. -/
theorem finding_of_probing {s : Supervisor} (h : s.IsProbing) (found : Option Probe)
    (reply : Reply) : Step.finding (.check found reply) s = some (.ofProbe found) := by
  obtain ⟨hp, hs, hc⟩ := h
  simp [Step.finding, hp, hs, hc]

/-! ### What comes of it -/

/-- What a step means for the prober. -/
structure Upshot where
  /-- The misses held afterwards. -/
  misses : UInt32
  /-- How often the transport is probed. -/
  probes : Nat
  /-- How often it is told to disconnect. -/
  disconnects : Nat

/-- What comes of a step that has gone so. -/
def Upshot.ofStep (x : Supervisor × List Act) : Upshot :=
  ⟨x.1.misses, Rig.count .probe x.2, Rig.count .disconnect x.2⟩

/-- What has to come of a finding. -/
def upshot (s : Supervisor) : Option Finding → Upshot
  | none => ⟨s.misses, 0, 0⟩
  | some .down => ⟨0, 0, 0⟩
  | some .nothing => ⟨s.misses, 1, 0⟩
  | some .reachable => ⟨0, 1, 0⟩
  | some .unreachable =>
    if s.supervision.health.threshold ≤ s.misses + 1 then ⟨0, 1, 1⟩ else ⟨s.misses + 1, 1, 0⟩

/-- Deeds that are not the prober's count for nothing. -/
theorem count_eq_zero {call : TransportCall} (hcall : (Deed.calls call).isProbers = true)
    {acts : List Act} (h : ∀ a ∈ acts, a.deed.isProbers = false) : Rig.count call acts = 0 := by
  apply List.countP_eq_zero.mpr
  intro a ha hdeed
  have hno := h a ha
  rw [beq_iff_eq.mp hdeed, hcall] at hno
  cases hno

/-- So neither a probe nor the end of a session is among them. -/
theorem count_of_no_prober {acts : List Act} (h : ∀ a ∈ acts, a.deed.isProbers = false) :
    Rig.count .probe acts = 0 ∧ Rig.count .disconnect acts = 0 :=
  ⟨count_eq_zero rfl h, count_eq_zero rfl h⟩

/-- What leaves the misses alone comes to what no finding comes to. -/
theorem upshot_of_leavesMisses {s : Supervisor} {x : Supervisor × List Act}
    (h : LeavesMisses s x) : Upshot.ofStep x = s.upshot none := by
  obtain ⟨hprobes, hdisconnects⟩ := count_of_no_prober h.2
  unfold Upshot.ofStep
  rw [h.1, hprobes, hdisconnects]
  rfl

/-- A round with a probe, about which some lines are written. -/
theorem ofStep_of_probed (t : Supervisor) {lines : List Deed}
    (hlines : ∀ d ∈ lines, ∃ line, d = .logs line) :
    Upshot.ofStep (t, asActs .prober (.calls .probe :: lines)) = ⟨t.misses, 1, 0⟩ := by
  have hquiet : ∀ a ∈ asActs .prober lines, a.deed.isProbers = false :=
    forall_asActs_of_logs (fun _ _ => rfl) hlines
  obtain ⟨hprobes, hdisconnects⟩ := count_of_no_prober hquiet
  simp [Upshot.ofStep, Rig.count_cons, hprobes, hdisconnects]

/-- A round with a probe after which the session is ended. -/
theorem ofStep_of_ended (t : Supervisor) {lines : List Deed} {rest : List Act}
    (hlines : ∀ d ∈ lines, ∃ line, d = .logs line)
    (hrest : ∀ a ∈ rest, a.deed.isProbers = false) :
    Upshot.ofStep
        (t, asActs .prober (.calls .probe :: lines) ++ ⟨.prober, .calls .disconnect⟩ :: rest) =
      ⟨t.misses, 1, 1⟩ := by
  have hprobed := ofStep_of_probed t hlines
  simp only [Upshot.ofStep, Upshot.mk.injEq, true_and] at hprobed
  obtain ⟨hprobes, hdisconnects⟩ := count_of_no_prober hrest
  simp only [Upshot.ofStep, Rig.count_append, Rig.count_cons, hprobed, hprobes, hdisconnects]
  simp

/-- What the prober makes of a probe that finds something. -/
theorem upshot_judge {s : Supervisor} (h : s.IsProbing) (p : Probe) (reply : Reply) :
    Upshot.ofStep (s.check (some p) reply) = s.upshot (some (.ofProbe (some p))) := by
  have hlines : ∀ d ∈ s.probeDeeds p ++ [s.missLine], ∃ line, d = .logs line :=
    fun d hd => logs_of_mem_lines hd
  cases hr : p.reachable with
  | true =>
    rw [check_of_reachable _ h hr, ofStep_of_probed _ fun _ => logs_of_mem_probeDeeds]
    simp [upshot, Finding.ofProbe, hr]
  | false =>
    by_cases ht : s.supervision.health.threshold ≤ s.misses + 1
    · have hrest : ∀ a ∈ s.endActs reply, a.deed.isProbers = false :=
        fun a ha => isProbers_of_mem_endActs ha
      rw [check_of_enough _ h hr ht, ofStep_of_ended _ hlines hrest, ended_misses]
      simp [upshot, Finding.ofProbe, hr, ht]
    · rw [check_of_counted _ h hr ht, ofStep_of_probed _ hlines]
      simp [upshot, Finding.ofProbe, hr, ht]

/-- **What comes of a step for the prober is decided by what the step finds.** -/
theorem upshot_step (x : Step) (s : Supervisor) :
    Upshot.ofStep (step x s) = s.upshot (x.finding s) := by
  by_cases hx : ∀ found reply, x ≠ .check found reply
  · rw [finding_of_no_round hx]
    exact upshot_of_leavesMisses (step_of_no_round hx s)
  push Not at hx
  obtain ⟨found, reply, rfl⟩ := hx
  change Upshot.ofStep (s.check found reply) = _
  by_cases hrest : s.probing = true ∧ s.stopping = false
  · by_cases hup : s.state = .connected
    · have h : s.IsProbing := ⟨hrest.1, hrest.2, hup⟩
      rw [finding_of_probing h]
      cases found with
      | none =>
        rw [check_of_none _ h]
        rfl
      | some p => exact upshot_judge h p reply
    · rw [finding_of_down hrest.1 hrest.2 hup, check_of_down _ _ hrest.1 hrest.2 hup]
      rfl
  · rw [finding_of_resting hrest, check_of_resting _ _ hrest]
    rfl

/-- **The transport is probed once in a round that finds the link up**, and at no other time. -/
theorem count_probe_step (x : Step) (s : Supervisor) :
    Rig.count .probe (step x s).2 = if (x.finding s).any Finding.isProbed then 1 else 0 := by
  refine (congrArg Upshot.probes (upshot_step x s)).trans ?_
  rcases x.finding s with _ | _ | _ | _ | _ <;> try rfl
  unfold upshot
  dsimp only
  split <;> rfl

/-- **It is told to disconnect once in a round with one miss too many**, and at no other time. -/
theorem count_disconnect_step (x : Step) (s : Supervisor) :
    Rig.count .disconnect (step x s).2 =
      if x.finding s = some .unreachable ∧ s.supervision.health.threshold ≤ s.misses + 1 then 1
      else 0 := by
  refine (congrArg Upshot.disconnects (upshot_step x s)).trans ?_
  rcases x.finding s with _ | _ | _ | _ | _ <;> try rfl
  unfold upshot
  by_cases ht : s.supervision.health.threshold ≤ s.misses + 1 <;> simp [ht]

/-! ### The rounds of a run -/

/-- What can be seen of a round. -/
structure Round where
  finding : Finding
  /-- Whether the transport has been told to disconnect in it. -/
  ended : Bool
  deriving DecidableEq, Repr

/-- After the round the prober begins anew: the link was down, the peer has answered, or the session
has been ended. -/
def Round.isReset (r : Round) : Bool := r.finding == .down || r.finding == .reachable || r.ended

/-- What can be seen of a step, if it is a round. -/
def Step.round (x : Step) (s : Supervisor) : Option Round :=
  (x.finding s).map fun f => ⟨f, decide (0 < Rig.count .disconnect (step x s).2)⟩

/-- What can be seen of the rounds of a run, in order. -/
def rounds : List Step → Supervisor → List Round
  | [], _ => []
  | x :: xs, s => (x.round s).toList ++ rounds xs (step x s).1

/-- The unreachable probes since the last round after which the prober began anew. -/
def missesSinceReset (rs : List Round) : Nat :=
  (rs.rtakeWhile fun r => !r.isReset).countP fun r => r.finding == .unreachable

/-- The rounds of a run follow those of the steps before. -/
theorem rounds_append (xs ys : List Step) (s : Supervisor) :
    rounds (xs ++ ys) s = rounds xs s ++ rounds ys (run xs s).1 := by
  induction xs generalizing s with
  | nil => rfl
  | cons x xs ih => simp [rounds, run, ih]

/-- So one more step is one round more, or none. -/
theorem rounds_concat (xs : List Step) (x : Step) (s : Supervisor) :
    rounds (xs ++ [x]) s = rounds xs s ++ (x.round (run xs s).1).toList := by
  simp [rounds_append, rounds]

/-- One more round adds a miss if it finds the peer silent, unless the prober begins anew. -/
theorem missesSinceReset_concat (rs : List Round) (r : Round) :
    missesSinceReset (rs ++ [r]) =
      if r.isReset then 0
      else missesSinceReset rs + if r.finding = .unreachable then 1 else 0 := by
  unfold missesSinceReset
  cases hr : r.isReset with
  | true => simp [hr]
  | false => simp [hr, List.countP_append, List.countP_singleton]

/-- The prober holds the misses since it last began anew, and they are fewer than the threshold. -/
structure Recorded (rs : List Round) (s : Supervisor) : Prop where
  misses : s.misses.toNat = missesSinceReset rs
  below : s.misses < s.supervision.health.threshold

/-- Below the threshold there is room for one more miss. -/
theorem Recorded.toNat_add_one {rs : List Round} {s : Supervisor} (h : Recorded rs s) :
    (s.misses + 1).toNat = s.misses.toNat + 1 := by
  have hbelow := UInt32.lt_iff_toNat_lt.mp h.below
  have hsize := s.supervision.health.threshold.toNat_lt_size
  exact toNat_add_one_of_lt (by omega)

/-- One more miss is enough just if it is the one that the threshold asks for. -/
theorem Recorded.enough_iff {rs : List Round} {s : Supervisor} (h : Recorded rs s) :
    s.supervision.health.threshold ≤ s.misses + 1 ↔
      missesSinceReset rs + 1 = s.supervision.health.threshold.toNat := by
  have hbelow := UInt32.lt_iff_toNat_lt.mp h.below
  rw [UInt32.le_iff_toNat_le, h.toNat_add_one, ← h.misses]
  omega

/-- What a finding does to the misses is right, if they were right before. -/
theorem Recorded.upshot {rs : List Round} {s : Supervisor} (h : Recorded rs s) (f : Finding) :
    (s.upshot (some f)).misses.toNat = missesSinceReset
        (rs ++ [⟨f, decide (0 < (s.upshot (some f)).disconnects)⟩]) ∧
      (s.upshot (some f)).misses < s.supervision.health.threshold := by
  have hpos : 0 < s.supervision.health.threshold :=
    UInt32.lt_of_le_of_lt (UInt32.zero_le) h.below
  rw [missesSinceReset_concat]
  cases f with
  | down => exact ⟨rfl, hpos⟩
  | nothing => exact ⟨h.misses, h.below⟩
  | reachable => exact ⟨rfl, hpos⟩
  | unreachable =>
    by_cases ht : s.supervision.health.threshold ≤ s.misses + 1
    · have hup : s.upshot (some .unreachable) = ⟨0, 1, 1⟩ := if_pos ht
      rw [hup]
      exact ⟨rfl, hpos⟩
    · have hup : s.upshot (some .unreachable) = ⟨s.misses + 1, 1, 0⟩ := if_neg ht
      rw [hup]
      refine ⟨?_, UInt32.not_le.mp ht⟩
      rw [h.toNat_add_one, h.misses]
      rfl

/-- **A step keeps the count of the prober right.** -/
theorem recorded_step {rs : List Round} {s : Supervisor} (h : Recorded rs s) (x : Step) :
    Recorded (rs ++ (x.round s).toList) (step x s).1 := by
  have hup := upshot_step x s
  have hmisses : (step x s).1.misses = (s.upshot (x.finding s)).misses :=
    congrArg Upshot.misses hup
  have hends : Rig.count .disconnect (step x s).2 = (s.upshot (x.finding s)).disconnects :=
    congrArg Upshot.disconnects hup
  have hsetup : (step x s).1.supervision = s.supervision := (step_setup x s).2
  unfold Step.round
  rw [hends]
  cases hf : x.finding s with
  | none =>
    rw [hf] at hmisses
    constructor
    · rw [hmisses]
      simpa [Supervisor.upshot] using h.misses
    · rw [hmisses, hsetup]
      exact h.below
  | some f =>
    rw [hf] at hmisses
    obtain ⟨hright, hbelow⟩ := h.upshot f
    constructor
    · rw [hmisses]
      exact hright
    · rw [hmisses, hsetup]
      exact hbelow

/-- **In every run the prober holds the misses since it last began anew.** -/
theorem recorded_run (id : String) {c : Supervision} (ht : 0 < c.health.threshold)
    (xs : List Step) :
    Recorded (rounds xs (make id c)) (run xs (make id c)).1 := by
  induction xs using List.reverseRecOn with
  | nil => exact ⟨rfl, ht⟩
  | append_singleton xs x ih =>
    rw [rounds_concat, run_concat]
    exact recorded_step ih x

/-! ### Rounds in any order -/

/-- The prober makes its rounds, and the link is up or lost. -/
structure IsWatched (s : Supervisor) : Prop where
  probing : s.probing = true
  stopping : s.stopping = false
  settled : s.state = .connected ∨ s.state = .disconnected

/-- What a link has to be told before a round finds this. -/
def herald (f : Finding) : Event := if f.isProbed then .established none else .lost none

/-- The steps that lead to a round with this finding. -/
def roundTo (f : Finding) : List Step :=
  [.deliver .caller (herald f) .done, .check f.probe .done]

/-- A round leaves the prober alone, if the call by which it may end a session returns. -/
theorem check_stage (found : Option Probe) (s : Supervisor) :
    (s.check found .done).1.probing = s.probing ∧
      (s.check found .done).1.stopping = s.stopping := by
  rcases check_cases found .done with
    hx | hx | ⟨-, hx⟩ | ⟨p, -, -, hx⟩ | ⟨p, -, -, ⟨-, hx⟩ | ⟨-, hx⟩⟩ <;> rw [hx] <;>
      exact ⟨rfl, rfl⟩

section Watched

variable {s : Supervisor}

/-- An event leaves the prober alone. -/
theorem handle_stage (actor : Actor) (e : Event) (reply : Reply) :
    (s.handle actor e reply).1.probing = s.probing ∧
      (s.handle actor e reply).1.stopping = s.stopping := by
  unfold handle
  rw [play_frame]
  exact ⟨rfl, rfl⟩

/-- A link that is up or lost follows what it is told. -/
theorem IsWatched.state_handle (h : IsWatched s) (f : Finding) :
    (s.handle .caller (herald f) .done).1.state =
      if f.isProbed then .connected else .disconnected := by
  unfold herald
  cases f.isProbed with
  | true =>
    rcases h.settled with hc | hd
    · exact (handle_returns_of_ignored _ s .caller (by rw [hc]; rfl)).trans hc
    · exact (handle_returns_of_next _ s .caller (m := ⟨.connected, some .resetBackoff⟩)
        (by rw [hd]; rfl)).1
  | false =>
    rcases h.settled with hc | hd
    · exact (handle_returns_of_next _ s .caller (m := ⟨.disconnected, none⟩)
        (by rw [hc]; rfl)).1
    · exact (handle_returns_of_ignored _ s .caller (by rw [hd]; rfl)).trans hd

/-- What a link is told leaves it up or lost. -/
theorem IsWatched.handle (h : IsWatched s) (f : Finding) :
    IsWatched (s.handle .caller (herald f) .done).1 := by
  obtain ⟨hprobing, hstopping⟩ := handle_stage (s := s) .caller (herald f) .done
  refine ⟨hprobing.trans h.probing, hstopping.trans h.stopping, ?_⟩
  rw [h.state_handle f]
  cases f.isProbed with
  | true => exact .inl rfl
  | false => exact .inr rfl

/-- A round moves no link. -/
theorem IsWatched.check (h : IsWatched s) (found : Option Probe) :
    IsWatched (s.check found .done).1 := by
  obtain ⟨hprobing, hstopping⟩ := check_stage found s
  refine ⟨hprobing.trans h.probing, hstopping.trans h.stopping, ?_⟩
  rw [show (s.check found .done).1.state = s.state from state_check_returns _ s found]
  exact h.settled

/-- The round finds what it has to. -/
theorem IsWatched.finding (h : IsWatched s) (f : Finding) :
    Step.finding (.check f.probe .done) (s.handle .caller (herald f) .done).1 = some f := by
  have ht := h.handle f
  have hstate := h.state_handle f
  cases hf : f.isProbed with
  | true =>
    rw [hf] at hstate
    rw [finding_of_probing ⟨ht.probing, ht.stopping, hstate⟩, Finding.ofProbe_probe hf]
  | false =>
    rw [hf] at hstate
    have hdown : f = .down := by
      cases f <;> first | rfl | cases hf
    rw [finding_of_down ht.probing ht.stopping (by rw [hstate]; decide), hdown]

/-- Two steps lead to a round with any finding, and to another one after it. -/
theorem IsWatched.rounds_roundTo (h : IsWatched s) (f : Finding) :
    (rounds (roundTo f) s).map Round.finding = [f] ∧ IsWatched (run (roundTo f) s).1 := by
  constructor
  · change List.map Round.finding
      ((Step.round (.check f.probe .done) (s.handle .caller (herald f) .done).1).toList ++ []) = [f]
    unfold Step.round
    rw [h.finding f]
    rfl
  · exact (h.handle f).check f.probe

/-- Rounds may find anything, in any order. -/
theorem IsWatched.rounds_flatMap_roundTo (h : IsWatched s) (fs : List Finding) :
    (rounds (fs.flatMap roundTo) s).map Round.finding = fs := by
  induction fs generalizing s with
  | nil => rfl
  | cons f fs ih =>
    obtain ⟨hround, hnext⟩ := h.rounds_roundTo f
    rw [List.flatMap_cons, rounds_append, List.map_append, hround, ih hnext]
    rfl

end Watched

/-- The steps until the prober makes its rounds: the workers are started, and the link is found
lost. -/
def opening : List Step := [.init .done, .deliver .caller (.lost none) .done]

/-- A supervisor with health checks makes rounds once it is initialised. -/
theorem isWatched_opening (id : String) {c : Supervision} (h : c.health.isEnabled = true) :
    IsWatched (run opening (make id c)).1 := by
  have hprober : (run opening (make id c)).1.prober = .running := if_pos h
  refine ⟨?_, rfl, .inr rfl⟩
  rw [probing, hprober]
  rfl

end Supervisor

/-! ### How the call for a disconnection ends -/

/-- The call delivers the same, and if it returns it has this result. -/
def Reply.withResult (result : Except LinkError Unit) : Reply → Reply
  | .returns _ => .returns result
  | .dies => .dies
  | .delivers e nested rest => .delivers e nested (rest.withResult result)

namespace Supervisor

/-- What a call does to the supervisor, and to whoever makes it, does not depend on its result. -/
theorem play_withResult (actor : Actor) (result : Except LinkError Unit) (r : Reply)
    (s : Supervisor) :
    (play actor (r.withResult result) s).1 = (play actor r s).1 ∧
      ∀ p : Prober, p.after (play actor (r.withResult result) s).2.2 =
        p.after (play actor r s).2.2 := by
  induction r generalizing s with
  | returns _ => exact ⟨rfl, fun _ => rfl⟩
  | dies => exact ⟨rfl, fun _ => rfl⟩
  | delivers e nested rest _ ih =>
    rw [Reply.withResult]
    rcases h : s.state.next e with _ | m
    · rw [play_ignored h, play_ignored h]
      exact ih s
    · by_cases hm : m.action = some .connect
      · rcases hend : (connect actor nested (s.moved m)).2.2 with q | _
        · rw [play_started_of_returned h hm hend, play_started_of_returned h hm hend]
          exact ih _
        · rw [play_started_of_died h hm hend, play_started_of_died h hm hend]
          exact ⟨rfl, fun _ => rfl⟩
      · rw [play_moved h hm, play_moved h hm]
        exact ih _

/-- What a round does to the supervisor does not depend on the result of the call in it. -/
theorem check_withResult (found : Option Probe) (result : Except LinkError Unit) (r : Reply)
    (s : Supervisor) : (s.check found (r.withResult result)).1 = (s.check found r).1 := by
  have hmiss : (s.miss (r.withResult result)).1 = (s.miss r).1 := by
    obtain ⟨hsame, hprober⟩ := play_withResult .prober result r { s with misses := 0 }
    unfold miss
    dsimp only
    split
    · dsimp only
      rw [hsame, hprober]
    · rfl
  have hjudge : ∀ p, (s.judge p (r.withResult result)).1 = (s.judge p r).1 := by
    intro p
    unfold judge
    dsimp only
    split
    · rfl
    · exact hmiss
  unfold check
  split
  · rfl
  split
  · rfl
  cases found with
  | none => rfl
  | some p => exact hjudge p

/-! ### What the prober does in a run -/

/-- The prober of a supervisor with this id and setup ends sessions by its threshold. -/
structure EndsAtThreshold (id : String) (c : Supervision) : Prop where
  /-- If there is a prober, the rounds of a run may find anything in any order. -/
  orders : c.health.isEnabled = true →
    ∀ fs : List Finding, ∃ xs, (rounds xs (make id c)).map Round.finding = fs
  /-- The transport is probed once in every round that finds the link up, and in no other step. -/
  probes : ∀ xs x, Rig.count .probe (step x (run xs (make id c)).1).2 =
    if (x.finding (run xs (make id c)).1).any Finding.isProbed then 1 else 0
  /-- The transport is told to disconnect once in every round that finds the peer unreachable, if
  this is as many misses since the prober began anew as the threshold asks for, and in no other
  step. -/
  disconnects : ∀ xs x, Rig.count .disconnect (step x (run xs (make id c)).1).2 =
    if x.finding (run xs (make id c)).1 = some .unreachable ∧
      missesSinceReset (rounds xs (make id c)) + 1 = c.health.threshold.toNat then 1 else 0
  /-- How that call ends is of no account: the supervisor is the same afterwards. -/
  result : ∀ xs found reply result,
    (step (.check found (reply.withResult result)) (run xs (make id c)).1).1 =
      (step (.check found reply) (run xs (make id c)).1).1
  /-- Between two steps fewer misses are held than the threshold asks for, -/
  below : ∀ xs, (run xs (make id c)).1.misses < c.health.threshold
  /-- So there is always room to count one more. -/
  room : ∀ xs, ((run xs (make id c)).1.misses + 1).toNat = (run xs (make id c)).1.misses.toNat + 1

/-- **A session is ended in every round that makes the misses as many as the threshold asks for,
and in no other.** -/
theorem endsAtThreshold (id : String) (c : Supervision) (ht : 0 < c.health.threshold) :
    EndsAtThreshold id c := by
  have hsetup : ∀ xs, (run xs (make id c)).1.supervision = c :=
    fun xs => (run_setup xs (make id c)).2
  constructor
  · intro h fs
    refine ⟨opening ++ fs.flatMap roundTo, ?_⟩
    rw [rounds_append]
    exact (isWatched_opening id h).rounds_flatMap_roundTo fs
  · intro xs x
    exact count_probe_step x _
  · intro xs x
    have henough := (recorded_run id ht xs).enough_iff
    have hcount := count_disconnect_step x (run xs (make id c)).1
    rw [hsetup] at henough
    simp only [hsetup, henough] at hcount
    exact hcount
  · intro xs found reply result
    exact check_withResult found result reply _
  · intro xs
    have hbelow := (recorded_run id ht xs).below
    rwa [hsetup] at hbelow
  · intro xs
    exact (recorded_run id ht xs).toNat_add_one

/-- A probe that finds out nothing neither counts nor makes the prober begin anew: the second miss
ends the session. -/
theorem endsAtThreshold_twoMisses :
    0 < twoMisses.health.threshold ∧
      Rig.count .disconnect (step (.check Finding.unreachable.probe .done)
        (run (opening ++ [.unreachable, .nothing].flatMap roundTo) (make "wifi" twoMisses)).1).2 =
          1 := by
  have ht : 0 < twoMisses.health.threshold := by decide
  refine ⟨ht, ?_⟩
  rw [(endsAtThreshold "wifi" twoMisses ht).disconnects, if_pos (by decide +kernel)]

end Supervisor

end LinkWarden
