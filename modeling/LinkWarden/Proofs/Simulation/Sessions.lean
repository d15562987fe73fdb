import LinkWarden.Proofs.Simulation.Belief
import Mathlib.Data.List.Induction

/-!
# Timers of an ended session

A session of a simulated link may have timers: one to drop it and one to silence its peer. They are
not cancelled when it ends, and attempts may overlap, so that any number of timers of any sessions
can be pending. What tells them apart is a number, the one that the session had when they were set.

Here anything may happen to a link in any order: the host calls it, or a task is due. Nothing is
assumed about which tasks are pending, or when they are due; the orders that are possible are among
these.

* `meet` is what comes of one incident, and `after` of one after another. `endings` counts the ends
  of sessions, as they are seen: the host hangs up, or a timer takes the link down.
* `session_meet` and `up_meet` say what one incident does to the number of the session and to the
  link. `session_after` and `up_after_iff` are the runs: the number is that of the ends so far, and
  the link is up just if an attempt has succeeded since the last one.
* `mem_tasks_after_iff`: an attempt that succeeds sets the timers that the link is configured with,
  and no others. `fire_expire_after` and `fire_silence_after`: a timer works just if no session has
  ended since it was set. `count_drops_le_one`: of all timers of a session one at most drops it.
* `TellsSessionsApart` lists these, and `tellsSessionsApart` is the main statement. Its other half is
  `drops_when_due` and `silences_when_due`: a timer that is configured is set, and it takes effect
  while its session lasts.
* `exists_traced`: such incidents lead the link of a supervisor to where it is, and its pending
  timers have been set in them. So the ones of an ended session do nothing (`fire_of_ended`).
-/

namespace LinkWarden

namespace SimulatedLink

/-! ### Incidents -/

/-- What happens to a simulated link. -/
inductive Incident
  | /-- The host calls it; the link underneath is up or down. -/
    call (c : TransportCall) (carrierIsDown : Bool)
  | /-- A task is due. -/
    task (t : LinkTask)
  deriving DecidableEq, Repr

/-- What comes of an incident. -/
def meet (l : SimulatedLink) : Incident → LinkResponse
  | .call c carrierIsDown => l.call carrierIsDown c
  | .task t => l.fire t

/-- The link after incidents. -/
def after (l : SimulatedLink) (is : List Incident) : SimulatedLink :=
  is.foldl (fun m i => (m.meet i).link) l

/-- An attempt succeeds. -/
def Incident.completes : Incident → Bool
  | .task (.complete _) => true
  | _ => false

/-- A timer of the session with this number drops it: there is something to report. -/
def drops (session : Nat) (l : SimulatedLink) (i : Incident) : Bool :=
  i == .task (.expire session) && (l.meet i).event.isSome

/-- A session ends: the host hangs up, or it is dropped. -/
def ends (l : SimulatedLink) : Incident → Bool
  | .call c _ => c == .disconnect
  | .task (.expire session) => l.drops session (.task (.expire session))
  | _ => false

/-- How many of the incidents are of this kind. -/
def countIn (kind : SimulatedLink → Incident → Bool) : List Incident → SimulatedLink → Nat
  | [], _ => 0
  | i :: is, l => (if kind l i then 1 else 0) + countIn kind is (l.meet i).link

/-- How many sessions end. -/
def endings (is : List Incident) (l : SimulatedLink) : Nat := countIn ends is l

/-- Later incidents happen to the link that the earlier ones have left. -/
theorem after_append (l : SimulatedLink) (is js : List Incident) :
    l.after (is ++ js) = (l.after is).after js :=
  List.foldl_append

/-- The last incident happens to the link that all others have left. -/
theorem after_concat (l : SimulatedLink) (is : List Incident) (i : Incident) :
    l.after (is ++ [i]) = ((l.after is).meet i).link := by
  rw [after_append]
  rfl

/-- What is counted in a run is the sum of what is counted in its parts. -/
theorem countIn_append (kind : SimulatedLink → Incident → Bool) (is js : List Incident)
    (l : SimulatedLink) :
    countIn kind (is ++ js) l = countIn kind is l + countIn kind js (l.after is) := by
  induction is generalizing l with
  | nil => simp [countIn, after]
  | cons i is ih =>
    rw [List.cons_append, countIn, countIn, ih, Nat.add_assoc]
    rfl

/-! ### One incident -/

/-- A timer drops the session that has its number, and no other one. -/
theorem drops_iff (n : Nat) (l : SimulatedLink) (i : Incident) :
    drops n l i = true ↔ i = .task (.expire n) ∧ l.session = n := by
  unfold drops
  rw [Bool.and_eq_true, beq_iff_eq]
  refine and_congr_right ?_
  rintro rfl
  by_cases hn : n = l.session
  · simp [meet, fire, hn]
  · simp [meet, fire_expire_of_ne hn, Ne.symm hn]

/-- That takes the link down and begins a new number. -/
theorem fire_expire_self (l : SimulatedLink) :
    l.fire (.expire l.session) =
      { link := { l with session := l.session + 1, up := false }
        event := some (.lost (some "link dropped")) } :=
  if_pos rfl

/-- What a call does to the session. -/
theorem stage_call (l : SimulatedLink) (c : TransportCall) (carrierIsDown : Bool) :
    (l.call carrierIsDown c).link.session = l.session + (if c = .disconnect then 1 else 0) ∧
      (l.call carrierIsDown c).link.up = (l.up && c != .disconnect) := by
  by_cases hc : c = .disconnect
  · subst hc
    change l.disconnect.link.session = _ ∧ l.disconnect.link.up = _
    unfold disconnect
    rw [link_later]
    simp
  · rw [call_frame l carrierIsDown hc]
    simp [hc]

/-- **What an incident does to the number of the session.** -/
theorem session_meet (l : SimulatedLink) (i : Incident) :
    (l.meet i).link.session = l.session + (if l.ends i then 1 else 0) := by
  cases i with
  | call c carrierIsDown => simpa [ends, meet] using (stage_call l c carrierIsDown).1
  | task t =>
    cases t with
    | expire n =>
      by_cases hn : l.session = n
      · subst hn
        simp [meet, fire_expire_self, ends, drops_iff]
      · simp [meet, fire_expire_of_ne (Ne.symm hn), ends, drops_iff, hn]
    | silence n =>
      simp only [meet, fire, ends]
      split <;> rfl
    | _ => rfl

/-- **What an incident does to the link.** -/
theorem up_meet (l : SimulatedLink) (i : Incident) :
    (l.meet i).link.up = true ↔ i.completes = true ∨ l.up = true ∧ l.ends i = false := by
  cases i with
  | call c carrierIsDown =>
    simp [meet, (stage_call l c carrierIsDown).2, Incident.completes, ends]
  | task t =>
    cases t with
    | complete detail => simp [meet, fire, Incident.completes]
    | expire n =>
      by_cases hn : l.session = n
      · subst hn
        simp [meet, fire_expire_self, Incident.completes, ends, drops]
      · simp [meet, fire_expire_of_ne (Ne.symm hn), Incident.completes, ends, drops]
    | silence n =>
      simp only [meet, fire, ends]
      split <;> simp [Incident.completes]
    | _ => simp [meet, fire, Incident.completes, ends]

/-! ### Any incidents -/

/-- **The number of the session is that of the ends so far.** -/
theorem session_after (l : SimulatedLink) (is : List Incident) :
    (l.after is).session = l.session + endings is l := by
  unfold endings
  induction is generalizing l with
  | nil => rfl
  | cons i is ih =>
    change ((l.meet i).link.after is).session = _
    rw [ih, session_meet, countIn, Nat.add_assoc]

/-- No session ends in the later incidents. -/
def SameSession (l : SimulatedLink) (before later : List Incident) : Prop :=
  endings later (l.after before) = 0

instance (l : SimulatedLink) (before later : List Incident) :
    Decidable (l.SameSession before later) :=
  inferInstanceAs (Decidable (_ = _))

/-- The number tells whether a session has ended. -/
theorem sameSession_iff (l : SimulatedLink) (before later : List Incident) :
    l.SameSession before later ↔ (l.after (before ++ later)).session = (l.after before).session := by
  rw [after_append, session_after (l.after before) later]
  unfold SameSession
  omega

/-- A number that was that of the session is so still, just if none has ended. -/
theorem eq_session_iff {l : SimulatedLink} {before : List Incident} {n : Nat}
    (hn : n = (l.after before).session) (later : List Incident) :
    n = (l.after (before ++ later)).session ↔ l.SameSession before later := by
  rw [hn, sameSession_iff]
  exact eq_comm

/-- A session goes on for one more incident if that does not end it. -/
theorem sameSession_concat_iff (l : SimulatedLink) (before later : List Incident) (i : Incident) :
    l.SameSession before (later ++ [i]) ↔
      l.SameSession before later ∧ (l.after (before ++ later)).ends i = false := by
  unfold SameSession endings
  rw [countIn_append, ← after_append]
  cases hi : (l.after (before ++ later)).ends i <;> simp [countIn, hi]

/-- An attempt has succeeded, and no session has ended since. -/
def IsOpen (l : SimulatedLink) (is : List Incident) : Prop :=
  ∃ before detail later, is = before ++ .task (.complete detail) :: later ∧
    l.SameSession before (.task (.complete detail) :: later)

/-- After one more incident the link has a session if an attempt has just succeeded, or if it had
one and that has not ended. -/
theorem isOpen_concat_iff (l : SimulatedLink) (is : List Incident) (i : Incident) :
    l.IsOpen (is ++ [i]) ↔ i.completes = true ∨ l.IsOpen is ∧ (l.after is).ends i = false := by
  constructor
  · rintro ⟨before, detail, later, heq, hsame⟩
    rcases List.eq_nil_or_concat later with rfl | ⟨later, j, rfl⟩
    · obtain ⟨rfl, hi⟩ := List.append_inj' heq rfl
      obtain rfl : i = .task (.complete detail) := by simpa using hi
      exact .inl rfl
    · rw [List.concat_eq_append, ← List.cons_append, ← List.append_assoc] at heq
      obtain ⟨rfl, hi⟩ := List.append_inj' heq rfl
      obtain rfl : i = j := by simpa using hi
      rw [List.concat_eq_append, ← List.cons_append, sameSession_concat_iff] at hsame
      exact .inr ⟨⟨before, detail, later, rfl, hsame.1⟩, hsame.2⟩
  · rintro (hi | ⟨⟨before, detail, later, rfl, hsame⟩, hends⟩)
    · unfold Incident.completes at hi
      split at hi
      · next detail => exact ⟨is, detail, [], rfl, rfl⟩
      · cases hi
    · refine ⟨before, detail, later ++ [i], by simp, ?_⟩
      rw [← List.cons_append, sameSession_concat_iff]
      exact ⟨hsame, hends⟩

/-- **A link that has been down is up just if an attempt has succeeded and no session has ended
since.** -/
theorem up_after_iff {l : SimulatedLink} (hl : l.up = false) (is : List Incident) :
    (l.after is).up = true ↔ l.IsOpen is := by
  induction is using List.reverseRecOn with
  | nil =>
    constructor
    · intro hup
      rw [show (l.after []).up = l.up from rfl, hl] at hup
      cases hup
    · rintro ⟨before, detail, later, heq, -⟩
      simp at heq
  | append_singleton is i ih => rw [after_concat, up_meet, ih, isOpen_concat_iff]

/-! ### Timers -/

/-- What a link is configured with does not change. -/
theorem behavior_meet (l : SimulatedLink) (i : Incident) :
    (l.meet i).link.behavior = l.behavior := by
  cases i with
  | call c carrierIsDown =>
    by_cases hc : c = .disconnect
    · subst hc
      change l.disconnect.link.behavior = l.behavior
      rw [disconnect, link_later]
    · change (l.call carrierIsDown c).link.behavior = l.behavior
      rw [call_frame l carrierIsDown hc]
  | task t => cases t <;> simp only [meet, fire] <;> split <;> rfl

/-- Nor does it in the course of incidents. -/
theorem behavior_after (l : SimulatedLink) (is : List Incident) :
    (l.after is).behavior = l.behavior := by
  induction is generalizing l with
  | nil => rfl
  | cons i is ih => exact (ih (l.meet i).link).trans (behavior_meet l i)

/-- A timer is set just if its time is not zero, and for that time. -/
theorem mem_timer_iff {delay : UInt64} {t : LinkTask} {d : Delayed} :
    d ∈ timer delay t ↔ delay ≠ 0 ∧ d = ⟨delay.toNat, t⟩ := by
  unfold timer
  split <;> simp_all

/-- **An attempt that succeeds sets the timers that the link is configured with**, each with its
time and the number of the session, and nothing else. -/
theorem mem_tasks_iff {l : SimulatedLink} {detail : String} {d : Delayed} :
    d ∈ (l.fire (.complete detail)).tasks ↔
      l.behavior.unreachableAfterMs ≠ 0 ∧
          d = ⟨l.behavior.unreachableAfterMs.toNat, .silence l.session⟩ ∨
        l.behavior.dropAfterMs ≠ 0 ∧ d = ⟨l.behavior.dropAfterMs.toNat, .expire l.session⟩ := by
  rw [← mem_timer_iff, ← mem_timer_iff]
  exact List.mem_append

/-- So it does after any incidents, and the configuration is the first one. -/
theorem mem_tasks_after_iff {l : SimulatedLink} {before : List Incident} {detail : String}
    {d : Delayed} :
    d ∈ ((l.after before).fire (.complete detail)).tasks ↔
      l.behavior.unreachableAfterMs ≠ 0 ∧
          d = ⟨l.behavior.unreachableAfterMs.toNat, .silence (l.after before).session⟩ ∨
        l.behavior.dropAfterMs ≠ 0 ∧
          d = ⟨l.behavior.dropAfterMs.toNat, .expire (l.after before).session⟩ := by
  rw [mem_tasks_iff, behavior_after]

/-- The timers that are set when an attempt has succeeded carry the number of the session. -/
theorem eq_of_mem_tasks {l : SimulatedLink} {detail : String} {d : Delayed}
    (h : d ∈ (l.fire (.complete detail)).tasks) :
    d.task = .silence l.session ∨ d.task = .expire l.session := by
  rcases mem_tasks_iff.mp h with ⟨-, rfl⟩ | ⟨-, rfl⟩
  · exact .inl rfl
  · exact .inr rfl

section Timers

variable {l : SimulatedLink} {before : List Incident} {detail : String} {delay n : Nat}

/-- **A timer drops the session just if no session has ended since it was set.** -/
theorem fire_expire_after (h : ⟨delay, .expire n⟩ ∈ ((l.after before).fire (.complete detail)).tasks)
    (later : List Incident) {m : SimulatedLink}
    (hm : m = l.after (before ++ .task (.complete detail) :: later)) :
    m.fire (.expire n) =
      if l.SameSession before (.task (.complete detail) :: later) then
        { link := { m with session := m.session + 1, up := false }
          event := some (.lost (some "link dropped")) }
      else { link := m } := by
  have hn : n = (l.after before).session := by simpa using eq_of_mem_tasks h
  have hiff := eq_session_iff hn (.task (.complete detail) :: later)
  rw [← hm] at hiff
  exact if_congr hiff rfl rfl

/-- **A timer silences the peer just if no session has ended since it was set.** -/
theorem fire_silence_after
    (h : ⟨delay, .silence n⟩ ∈ ((l.after before).fire (.complete detail)).tasks)
    (later : List Incident) {m : SimulatedLink}
    (hm : m = l.after (before ++ .task (.complete detail) :: later)) :
    m.fire (.silence n) =
      if l.SameSession before (.task (.complete detail) :: later) then
        { link := { m with reachable := false }, lines := [note "peer stopped answering probes"] }
      else { link := m } := by
  have hn : n = (l.after before).session := by simpa using eq_of_mem_tasks h
  have hiff := eq_session_iff hn (.task (.complete detail) :: later)
  rw [← hm] at hiff
  exact if_congr hiff rfl rfl

end Timers

/-- A session that has ended is not dropped any more. -/
theorem count_drops_eq_zero (is : List Incident) {l : SimulatedLink} {n : Nat}
    (hn : n < l.session) : countIn (drops n) is l = 0 := by
  induction is generalizing l with
  | nil => rfl
  | cons i is ih =>
    have hno : drops n l i = false := by
      rw [Bool.eq_false_iff, Ne, drops_iff]
      rintro ⟨-, hl⟩
      omega
    rw [countIn, hno, ih]
    · rfl
    · rw [session_meet]
      exact Nat.lt_of_lt_of_le hn (Nat.le_add_right _ _)

/-- **Of all timers of a session one at most drops it.** -/
theorem count_drops_le_one (n : Nat) (is : List Incident) (l : SimulatedLink) :
    countIn (drops n) is l ≤ 1 := by
  induction is generalizing l with
  | nil => exact Nat.zero_le 1
  | cons i is ih =>
    rw [countIn]
    cases hi : drops n l i with
    | false => simpa using ih _
    | true =>
      -- the session has ended by this
      obtain ⟨rfl, hl⟩ := (drops_iff n l i).mp hi
      have hends : l.ends (.task (.expire n)) = true := hi
      rw [count_drops_eq_zero]
      · exact Nat.le_refl 1
      · rw [session_meet, if_pos hends, hl]
        exact Nat.lt_succ_self n

/-! ### Sessions are told apart -/

/-- The sessions of a link have nothing to do with each other, whatever happens to it. -/
structure TellsSessionsApart (l : SimulatedLink) : Prop where
  /-- The number of the session is that of the ends so far, -/
  session : ∀ is, (l.after is).session = endings is l
  /-- So it never decreases. -/
  grows : ∀ is js, (l.after is).session ≤ (l.after (is ++ js)).session
  /-- The link is up just if an attempt has succeeded since the last end. -/
  up : ∀ is, (l.after is).up = true ↔ l.IsOpen is
  /-- A timer that is to drop a session does so just if none has ended since it was set. Otherwise
  it does nothing. -/
  drop : ∀ before detail later delay n,
    ⟨delay, .expire n⟩ ∈ ((l.after before).fire (.complete detail)).tasks →
      ∀ m, m = l.after (before ++ .task (.complete detail) :: later) →
        m.fire (.expire n) =
          if l.SameSession before (.task (.complete detail) :: later) then
            { link := { m with session := m.session + 1, up := false }
              event := some (.lost (some "link dropped")) }
          else { link := m }
  /-- Of all timers that are set in a session, and so carry its number, one at most drops it. -/
  once : ∀ n is, countIn (drops n) is l ≤ 1
  /-- A timer that is to silence the peer does so just if no session has ended since it was set.
  Otherwise it does nothing. -/
  silence : ∀ before detail later delay n,
    ⟨delay, .silence n⟩ ∈ ((l.after before).fire (.complete detail)).tasks →
      ∀ m, m = l.after (before ++ .task (.complete detail) :: later) →
        m.fire (.silence n) =
          if l.SameSession before (.task (.complete detail) :: later) then
            { link := { m with reachable := false }
              lines := [note "peer stopped answering probes"] }
          else { link := m }

/-- **Whatever happens to a link, and in whatever order, a timer of an ended session does nothing to
a later one.** -/
theorem tellsSessionsApart (profile : LinkProfile) (behavior : LinkBehavior) :
    TellsSessionsApart { profile, behavior } := by
  constructor
  · intro is
    rw [session_after]
    exact Nat.zero_add _
  · intro is js
    rw [after_append, session_after (after _ is)]
    exact Nat.le_add_right _ _
  · exact up_after_iff rfl
  · intro before detail later delay n h m hm
    exact fire_expire_after h later hm
  · intro n is
    exact count_drops_le_one n is _
  · intro before detail later delay n h m hm
    exact fire_silence_after h later hm

/-- Two attempts succeed in one session, and the timer of the first one drops it. When a third one
has succeeded, the timer of the second one does nothing. -/
example (profile : LinkProfile) (behavior : LinkBehavior) :
    (after { profile, behavior } [.task (.complete "first"), .task (.complete "second"),
      .task (.expire 0), .task (.complete "third"), .task (.expire 0)]).up = true :=
  rfl

section WhenDue

variable {l : SimulatedLink} {before : List Incident} {detail : String} {later : List Incident}

/-- **A link that is to drop its sessions does so.** When an attempt succeeds, a timer is set with
the configured time. If no session has ended when it is due, the session ends by it, and the loss of
the link is reported. -/
theorem drops_when_due (h : l.behavior.dropAfterMs ≠ 0)
    (hsame : l.SameSession before (.task (.complete detail) :: later)) :
    let n := (l.after before).session
    let m := l.after (before ++ .task (.complete detail) :: later)
    ⟨l.behavior.dropAfterMs.toNat, .expire n⟩ ∈
        ((l.after before).fire (.complete detail)).tasks ∧
      m.fire (.expire n) =
        { link := { m with session := n + 1, up := false }
          event := some (.lost (some "link dropped")) } := by
  intro n m
  have hset : ⟨l.behavior.dropAfterMs.toNat, .expire n⟩ ∈
      ((l.after before).fire (.complete detail)).tasks :=
    mem_tasks_after_iff.mpr (.inr ⟨h, rfl⟩)
  have hn : m.session = n := (sameSession_iff l before _).mp hsame
  refine ⟨hset, ?_⟩
  rw [fire_expire_after hset later rfl, if_pos hsame]
  simp only [m, ← hn]

/-- **A link whose peer is to fall silent has it fall silent**, when the timer is due in the session
in which it was set. -/
theorem silences_when_due (h : l.behavior.unreachableAfterMs ≠ 0)
    (hsame : l.SameSession before (.task (.complete detail) :: later)) :
    let n := (l.after before).session
    let m := l.after (before ++ .task (.complete detail) :: later)
    ⟨l.behavior.unreachableAfterMs.toNat, .silence n⟩ ∈
        ((l.after before).fire (.complete detail)).tasks ∧
      m.fire (.silence n) =
        { link := { m with reachable := false }
          lines := [note "peer stopped answering probes"] } := by
  intro n m
  have hset : ⟨l.behavior.unreachableAfterMs.toNat, .silence n⟩ ∈
      ((l.after before).fire (.complete detail)).tasks :=
    mem_tasks_after_iff.mpr (.inl ⟨h, rfl⟩)
  refine ⟨hset, ?_⟩
  rw [fire_silence_after hset later rfl, if_pos hsame]

end WhenDue

/-- A session that the host has ended is followed by one with a number of its own. The timer of the
second one takes effect, after that of the first one has not. -/
example (profile : LinkProfile) (behavior : LinkBehavior) :
    let l : SimulatedLink := { profile, behavior := { behavior with dropAfterMs := 100 } }
    let second := l.after [.task (.complete "first"), .call .disconnect false]
    let m := second.after [.task (.complete "second"), .task (.expire 0)]
    ⟨100, .expire 1⟩ ∈ (second.fire (.complete "second")).tasks ∧ m.up = true ∧
      (m.fire (.expire 1)).link.up = false ∧
      (m.fire (.expire 1)).event = some (.lost (some "link dropped")) :=
  ⟨mem_tasks_after_iff.mpr (.inr ⟨show (100 : UInt64) ≠ 0 by decide, rfl⟩), rfl, rfl, rfl⟩

/-! ### Supervised links -/

/-- An attempt that has succeeded has set the timer. -/
def HasSet (l : SimulatedLink) (is : List Incident) (timer : LinkTask) : Prop :=
  ∃ before detail later delay, is = before ++ .task (.complete detail) :: later ∧
    ⟨delay, timer⟩ ∈ ((l.after before).fire (.complete detail)).tasks

/-- A timer that has been set is so after further incidents. -/
theorem HasSet.append {l : SimulatedLink} {is : List Incident} {timer : LinkTask}
    (h : l.HasSet is timer) (js : List Incident) : l.HasSet (is ++ js) timer := by
  obtain ⟨before, detail, later, delay, rfl, hset⟩ := h
  exact ⟨before, detail, later ++ js, delay, by simp, hset⟩

end SimulatedLink

/-- The task is one of a session. -/
def LinkTask.isTimer : LinkTask → Bool
  | .silence _ => true
  | .expire _ => true
  | _ => false

namespace SimulatedLink

/-- No call sets a timer. -/
theorem isTimer_of_mem_call {l : SimulatedLink} {c : TransportCall} {carrierIsDown : Bool}
    {d : Delayed} (h : d ∈ (l.call carrierIsDown c).tasks) : d.task.isTimer = false := by
  have hlater : ∀ {m : SimulatedLink} {delay : Nat} {task : LinkTask},
      d ∈ (m.later delay task).tasks → d.task = task := by
    intro m delay task hd
    unfold later at hd
    split at hd
    · rw [List.mem_singleton.mp hd]
    · cases hd
  cases c with
  | bind => cases h
  | start =>
    replace h : d ∈ l.start.tasks := h
    unfold start at h
    split at h
    · cases h
    · rw [hlater h]
      rfl
  | connect =>
    replace h : d ∈ (l.connect carrierIsDown).tasks := h
    unfold connect at h
    dsimp only at h
    split at h
    · split at h <;> (rw [hlater h]; rfl)
    · cases h
  | disconnect =>
    rw [hlater h]
    rfl
  | probe => cases h

end SimulatedLink

namespace SupervisedLink

open SimulatedLink (Incident)

/-- The incidents have led the link to where it is, and each timer that is pending has been set in
them. -/
structure Traced (l : SimulatedLink) (is : List Incident) (s : SupervisedLink) : Prop where
  link : s.link = l.after is
  timers : ∀ p ∈ s.pending, p.task.isTimer = true → l.HasSet is p.task

section Traced

variable {l : SimulatedLink} {is : List Incident} {s t : SupervisedLink}

/-- A call sets no timer, so it is one more incident that has set none. -/
theorem Traced.call (h : Traced l is s) (clock : TaskClock) (c : TransportCall)
    (carrierIsDown : Bool) :
    Traced l (is ++ [.call c carrierIsDown])
      (s.accept clock (s.link.call carrierIsDown c)).1 := by
  constructor
  · rw [SimulatedLink.after_concat, ← h.link]
    rfl
  · intro p hp htimer
    rcases List.mem_append.mp hp with hp | hp
    · exact (h.timers p hp htimer).append _
    · obtain ⟨d, hd, htask⟩ := TaskClock.mem_of_mem_schedule hp
      rw [htask, SimulatedLink.isTimer_of_mem_call hd] at htimer
      cases htimer

/-- The calls among some deeds are incidents, in their order. -/
theorem Traced.does {acts : List Act} (h : Traced l is s) (hdoes : Does s acts t) :
    ∃ js, Traced l (is ++ js) t := by
  induction hdoes generalizing is with
  | nothing s => exact ⟨[], by rwa [List.append_nil]⟩
  | @call s t a acts c ha carrierIsDown clock _ ih =>
    obtain ⟨js, hjs⟩ := ih (h.call clock c carrierIsDown)
    exact ⟨.call c carrierIsDown :: js, by simpa using hjs⟩
  | other ha _ ih => exact ih h

/-- The tasks that are asked for when one has been carried out. -/
theorem hasSet_of_mem_fire {t : LinkTask} {d : Delayed}
    (hd : d ∈ ((l.after is).fire t).tasks) (js : List Incident) :
    l.HasSet (is ++ .task t :: js) d.task := by
  cases t with
  | complete detail => exact ⟨is, detail, js, d.delay, rfl, hd⟩
  | expire n =>
    simp only [SimulatedLink.fire] at hd
    split at hd <;> cases hd
  | silence n =>
    simp only [SimulatedLink.fire] at hd
    split at hd <;> cases hd
  | start => cases hd
  | fail reason => cases hd
  | hangUp => cases hd

/-- So is a task that is carried out. The timers that are left have been set before. -/
theorem Traced.fired (h : Traced l is s) (p : PendingTask) :
    Traced l (is ++ [.task p.task]) (s.fired p) := by
  constructor
  · rw [link_fired, SimulatedLink.after_concat, ← h.link]
    rfl
  · intro q hq htimer
    rw [pending_fired] at hq
    exact (h.timers q (List.mem_of_mem_erase hq) htimer).append _

/-- A step goes on with the incidents. -/
theorem Traced.step (h : Traced l is s) (hst : Step s t) : ∃ js, Traced l (is ++ js) t := by
  cases hst with
  | call c carrierIsDown clock => exact ⟨_, h.call clock c carrierIsDown⟩
  | work w hdoes =>
    have hput : Traced l is { s with supervisor := (s.work w).1 } := ⟨h.link, h.timers⟩
    exact hput.does hdoes
  | @fire u p hp hdoes clock =>
    obtain ⟨js, hjs⟩ := (h.fired p).does hdoes
    rw [List.append_assoc, List.singleton_append] at hjs
    refine ⟨.task p.task :: js, hjs.link, ?_⟩
    intro q hq htimer
    rcases List.mem_append.mp hq with hq | hq
    · exact hjs.timers q hq htimer
    · obtain ⟨d, hd, htask⟩ := TaskClock.mem_of_mem_schedule hq
      rw [h.link] at hd
      rw [htask]
      exact hasSet_of_mem_fire hd js

end Traced

/-- **Whatever a supervised link comes to, incidents have led its link there, and its pending timers
have been set in them.** -/
theorem exists_traced (id : String) (c : Supervision) (profile : LinkProfile)
    (behavior : LinkBehavior) {s : SupervisedLink}
    (hs : Reaches (fresh id c profile behavior) s) :
    ∃ is, Traced { profile, behavior } is s := by
  induction hs with
  | refl => exact ⟨[], rfl, fun _ hp => absurd hp List.not_mem_nil⟩
  | tail _ hstep ih =>
    obtain ⟨is, his⟩ := ih
    obtain ⟨js, hjs⟩ := his.step hstep
    exact ⟨is ++ js, hjs⟩

/-- **A pending timer of an ended session does nothing**: it has been set when an attempt had
succeeded, and where a session has ended since, the link stays as it is and nothing is reported. -/
theorem fire_of_ended (id : String) (c : Supervision) (profile : LinkProfile)
    (behavior : LinkBehavior) {s : SupervisedLink}
    (hs : Reaches (fresh id c profile behavior) s) {p : PendingTask} (hp : p ∈ s.pending)
    (htimer : p.task.isTimer = true) :
    ∃ before detail later,
      s.link = SimulatedLink.after { profile, behavior }
        (before ++ .task (.complete detail) :: later) ∧
      (¬ SimulatedLink.SameSession { profile, behavior } before
        (.task (.complete detail) :: later) → s.link.fire p.task = { link := s.link }) := by
  obtain ⟨is, htraced⟩ := exists_traced id c profile behavior hs
  obtain ⟨before, detail, later, delay, rfl, hset⟩ := htraced.timers p hp htimer
  refine ⟨before, detail, later, htraced.link, ?_⟩
  intro hended
  cases htask : p.task with
  | silence n =>
    rw [htask] at hset
    rw [SimulatedLink.fire_silence_after hset later htraced.link, if_neg hended]
  | expire n =>
    rw [htask] at hset
    rw [SimulatedLink.fire_expire_after hset later htraced.link, if_neg hended]
  | start => simp [htask, LinkTask.isTimer] at htimer
  | fail reason => simp [htask, LinkTask.isTimer] at htimer
  | complete detail => simp [htask, LinkTask.isTimer] at htimer
  | hangUp => simp [htask, LinkTask.isTimer] at htimer

end SupervisedLink

end LinkWarden
