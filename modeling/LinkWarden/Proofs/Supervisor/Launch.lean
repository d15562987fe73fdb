import LinkWarden.Proofs.Supervisor.Rounds
import LinkWarden.Proofs.Supervisor.Phase
import LinkWarden.Supervisor.Surroundings

/-!
# A supervisor is initialised once

An initialisation starts the transport and then the workers. It succeeds at most once, and one in
which the transport refuses to start may be repeated.

* `SameStage` is what no step but an initialisation and a stop touches: whether the workers have
  been started, whether the supervisor counts as initialised, and how many workers it holds.
* `init_of_refused`, `init_of_failed`, `init_of_started` and `init_of_died` say what an
  initialisation comes to.
* `launched_run` counts the ones that succeed, `workers_run` the workers, `pristine_run` says that
  a run without events and without a success leaves nothing behind but a request to stop.
* `initialises_once` puts this together for a run of a new supervisor.
-/

namespace LinkWarden

/-- How many workers such a supervisor has: the reconnector, and the prober if there are health
checks. -/
def Supervision.crew (c : Supervision) : Nat := 1 + if c.health.isEnabled then 1 else 0

namespace Supervisor

/-! ### What other steps leave alone -/

/-- Nothing has happened to the stage of the supervisor: whether its workers have been started,
whether it counts as initialised, and how many workers there are to wait for. -/
structure SameStage (s t : Supervisor) : Prop where
  unstarted : t.reconnector = .unstarted ↔ s.reconnector = .unstarted
  initialized : t.initialized = s.initialized
  workers : t.workers = s.workers

namespace SameStage

variable {s t u : Supervisor}

/-- A supervisor that is left alone is at the same stage. -/
theorem refl (s : Supervisor) : SameStage s s := ⟨Iff.rfl, rfl, rfl⟩

/-- Two steps that leave the stage alone do so together. -/
theorem trans (h : SameStage s t) (h' : SameStage t u) : SameStage s u :=
  ⟨h'.unstarted.trans h.unstarted, h'.initialized.trans h.initialized,
    h'.workers.trans h.workers⟩

end SameStage

/-- What the transport delivers starts no worker. -/
theorem sameStage_play (actor : Actor) (r : Reply) (s : Supervisor) :
    SameStage s (play actor r s).1 := by
  rw [play_frame]
  exact ⟨Iff.rfl, rfl, rfl⟩

/-- An attempt starts no worker. -/
theorem sameStage_attempt (reply : Reply) (s : Supervisor) :
    SameStage s (s.attempt reply).1 := by
  by_cases h : ∃ n wait, s.reconnector = .attempting n wait
  · obtain ⟨n, wait, hr⟩ := h
    have hplay := sameStage_play .reconnector reply s
    rw [attempt_of_attempting reply hr]
    refine ⟨?_, hplay.initialized, hplay.workers⟩
    rw [hr]
    dsimp only
    split <;> simp
  · rw [attempt_of_settled reply fun n wait hr => h ⟨n, wait, hr⟩]
    exact .refl s

/-- Neither does a charge, nor the exit that takes its place. -/
theorem sameStage_charge (s : Supervisor) : SameStage s s.charge.1 := by
  by_cases hd : s.IsDue
  · have hr : s.reconnector ≠ .unstarted := by simp [hd.1]
    cases ha : s.supervision.retry.allows s.backoff.attempt with
    | true =>
      rw [charge_of_allows hd ha]
      exact ⟨by simp [charged, hr], rfl, rfl⟩
    | false =>
      rw [charge_of_not_allows hd ha]
      exact ⟨by simp [hr], rfl, rfl⟩
  · rcases charge_of_not_due hd with hc | hc <;> rw [hc] <;> exact .refl s

/-- A reconnector that leaves has been started before. -/
theorem sameStage_leave {s : Supervisor} (h : s.reconnector ≠ .unstarted) :
    SameStage s s.leave.1 :=
  ⟨by simp [leave, h], rfl, rfl⟩

/-- So has one that wakes. -/
theorem sameStage_wake (timeIsOver : Bool) (s : Supervisor) :
    SameStage s (s.wake timeIsOver).1 := by
  unfold wake
  split
  · next hr =>
    have hne : s.reconnector ≠ .unstarted := by simp [hr]
    split
    · exact sameStage_leave hne
    split
    · exact ⟨by simp [hne], rfl, rfl⟩
    split
    · exact ⟨by simp [hne], rfl, rfl⟩
    · exact .refl s
  · exact .refl s

/-- A round of the prober starts no worker. -/
theorem sameStage_check (found : Option Probe) (reply : Reply) (s : Supervisor) :
    SameStage s (s.check found reply).1 := by
  rcases check_cases (s := s) found reply with h | h | ⟨-, h⟩ | ⟨p, -, -, h⟩ |
    ⟨p, -, -, ⟨-, h⟩ | ⟨-, h⟩⟩ <;> rw [h]
  · exact .refl s
  · exact ⟨Iff.rfl, rfl, rfl⟩
  · exact .refl s
  · exact ⟨Iff.rfl, rfl, rfl⟩
  · exact ⟨Iff.rfl, rfl, rfl⟩
  · have hplay := sameStage_play .prober reply { s with misses := 0 }
    exact ⟨hplay.unstarted, hplay.initialized, hplay.workers⟩

/-- What is left to do when a stop is requested starts none either. -/
theorem sameStage_finish (reply : Reply) (s : Supervisor) :
    SameStage s (s.finish reply).1 := by
  unfold finish
  split
  · exact (sameStage_attempt reply s).trans (sameStage_wake false _)
  · next hr => exact sameStage_leave (by simp [hr])
  · next hr => exact sameStage_leave (by simp [hr])
  · exact .refl s

/-- A stop waits for all workers. -/
theorem stage_stop (reply : Reply) (s : Supervisor) :
    ((s.stop reply).1.reconnector = .unstarted ↔ s.reconnector = .unstarted) ∧
      (s.stop reply).1.initialized = s.initialized ∧ (s.stop reply).1.workers = 0 := by
  have hfinish : SameStage s (s.requestStop.finish reply).1 :=
    SameStage.trans (t := s.requestStop) ⟨Iff.rfl, rfl, rfl⟩ (sameStage_finish reply _)
  unfold stop
  dsimp only
  rw [join_frame]
  exact ⟨hfinish.unstarted, hfinish.initialized, rfl⟩

/-- **A step that neither initialises nor stops leaves the stage of the supervisor alone.** -/
theorem sameStage_step {x : Step} (hinit : ∀ reply, x ≠ .init reply)
    (hstop : ∀ reply, x ≠ .stop reply) (s : Supervisor) : SameStage s (step x s).1 := by
  cases x with
  | deliver actor e reply => exact sameStage_play actor (.delivers e reply .done) s
  | turn reply => exact (sameStage_charge s).trans (sameStage_attempt reply _)
  | wake timeIsOver => exact sameStage_wake timeIsOver s
  | check found reply => exact sameStage_check found reply s
  | init reply => exact absurd rfl (hinit reply)
  | requestStop => exact ⟨Iff.rfl, rfl, rfl⟩
  | stop reply => exact absurd rfl (hstop reply)

/-! ### What an initialisation comes to -/

/-- An initialisation starts the transport. -/
def IsFresh (s : Supervisor) : Prop := s.initialized = false ∧ s.state = .notInitialized

/-- The call by which an initialisation starts the transport. -/
def startCall (reply : Reply) (s : Supervisor) : Supervisor × List Act × Ending :=
  play .caller reply { s with initialized := true }

section Init

variable {s : Supervisor} (reply : Reply)

/-- A supervisor that is not fresh is not initialised. It counts as initialised from then on. -/
theorem init_of_refused (h : ¬ s.IsFresh) :
    s.init reply =
      ({ s with initialized := true }, [], .returned (.error (.alreadyInitialized s.id))) := by
  unfold init
  rw [if_pos]
  by_cases hi : s.initialized = true
  · simp [hi]
  · have hs : s.state ≠ .notInitialized := fun hs => h ⟨by simpa using hi, hs⟩
    simp [hs]

/-- A fresh supervisor counts as initialised while the transport is started. What comes then depends
on how that call ends. -/
theorem init_of_fresh (h : s.IsFresh) :
    s.init reply = match (s.startCall reply).2.2 with
      | .returned (.error e) =>
        ({ (s.startCall reply).1 with initialized := false },
          asActs .caller [.calls .bind, .calls .start] ++ (s.startCall reply).2.1 ++
            asActs .caller [(s.startCall reply).1.note .error
              ("transport start failed: " ++ e.message)],
          .returned (.error e))
      | .returned (.ok ()) =>
        ((s.startCall reply).1.startWorkers.1,
          asActs .caller [.calls .bind, .calls .start] ++ (s.startCall reply).2.1 ++
            (s.startCall reply).1.startWorkers.2, .returned (.ok ()))
      | .died =>
        ((s.startCall reply).1,
          asActs .caller [.calls .bind, .calls .start] ++ (s.startCall reply).2.1, .died) := by
  unfold init
  rw [if_neg (by simp [h.1, h.2])]
  rfl

/-- When the transport refuses to start, the initialisation has the same error. -/
theorem init_of_failed (h : s.IsFresh) {e : LinkError}
    (he : (s.startCall reply).2.2 = .returned (.error e)) :
    s.init reply =
      ({ (s.startCall reply).1 with initialized := false },
        asActs .caller [.calls .bind, .calls .start] ++ (s.startCall reply).2.1 ++
          asActs .caller [(s.startCall reply).1.note .error
            ("transport start failed: " ++ e.message)],
        .returned (.error e)) := by
  rw [init_of_fresh reply h, he]

/-- When it starts, the workers are started. -/
theorem init_of_started (h : s.IsFresh) (hok : (s.startCall reply).2.2 = .returned (.ok ())) :
    s.init reply =
      ((s.startCall reply).1.startWorkers.1,
        asActs .caller [.calls .bind, .calls .start] ++ (s.startCall reply).2.1 ++
          (s.startCall reply).1.startWorkers.2, .returned (.ok ())) := by
  rw [init_of_fresh reply h, hok]

/-- When the caller dies in the start, no worker is started, and nothing more is done. -/
theorem init_of_died (h : s.IsFresh) (hd : (s.startCall reply).2.2 = .died) :
    s.init reply =
      ((s.startCall reply).1,
        asActs .caller [.calls .bind, .calls .start] ++ (s.startCall reply).2.1, .died) := by
  rw [init_of_fresh reply h, hd]

end Init

/-! ### Successes -/

/-- The step is an initialisation, and it succeeds. -/
def succeeds : Step → Supervisor → Bool
  | .init reply, s => (s.init reply).2.2.isOk
  | _, _ => false

/-- How many initialisations of a run succeed. -/
def launches : List Step → Supervisor → Nat
  | [], _ => 0
  | x :: xs, s => (succeeds x s).toNat + launches xs (step x s).1

/-- The successes of two runs add up. -/
theorem launches_append (xs ys : List Step) (s : Supervisor) :
    launches (xs ++ ys) s = launches xs s + launches ys (run xs s).1 := by
  induction xs generalizing s with
  | nil => simp [launches, run]
  | cons x xs ih =>
    rw [List.cons_append, launches, launches, ih, Nat.add_assoc]
    rfl

/-- One if the workers have been started, and zero otherwise. -/
def launched (s : Supervisor) : Nat := if s.reconnector = .unstarted then 0 else 1

/-- The workers have been started once at most. -/
theorem launched_le_one (s : Supervisor) : s.launched ≤ 1 := by
  unfold launched
  split <;> omega

/-- Whether they have been started can be told from the reconnector. -/
theorem launched_congr {s t : Supervisor}
    (h : t.reconnector = .unstarted ↔ s.reconnector = .unstarted) : t.launched = s.launched := by
  simp only [launched, h]

/-- The step waits for the workers. -/
def Step.isStop : Step → Bool
  | .stop _ => true
  | _ => false

/-- A supervisor whose workers have been started is not fresh. -/
theorem Orderly.unstarted_of_isFresh {s : Supervisor} (h : Orderly s) (hf : s.IsFresh) :
    s.reconnector = .unstarted := by
  refine Decidable.byContradiction fun hl => ?_
  have hi := h.launched hl
  rw [hf.1] at hi
  cases hi

/-- **An initialisation that succeeds starts all workers**, and one that fails starts none. -/
theorem stage_init {s : Supervisor} (h : Orderly s) (reply : Reply) :
    (s.init reply).1.launched = s.launched + (s.init reply).2.2.isOk.toNat ∧
      (s.init reply).1.workers =
        s.workers + if (s.init reply).2.2.isOk then s.supervision.crew else 0 := by
  by_cases hf : s.IsFresh
  · have hr := h.unstarted_of_isFresh hf
    have hstage : SameStage { s with initialized := true } (s.startCall reply).1 :=
      sameStage_play .caller reply _
    have hu : (s.startCall reply).1.reconnector = .unstarted := hstage.unstarted.mpr hr
    rcases hend : (s.startCall reply).2.2 with (e | _) | _
    · rw [init_of_failed reply hf hend]
      simp [launched, hr, hu, hstage.workers, Ending.isOk, Except.isOk, Except.toBool]
    · have hsetup : (s.startCall reply).1.supervision = s.supervision := by
        unfold startCall
        rw [play_frame]
      rw [init_of_started reply hf hend]
      refine ⟨by simp [launched, hr, startWorkers, Ending.isOk, Except.isOk, Except.toBool], ?_⟩
      have hcrew : (if s.supervision.health.isEnabled then 2 else 1) = s.supervision.crew := by
        unfold Supervision.crew
        split <;> rfl
      simp [startWorkers, hstage.workers, hsetup, Ending.isOk, Except.isOk, Except.toBool, hcrew]
    · -- the caller has died in the start, and no worker has been started
      rw [init_of_died reply hf hend]
      simp [launched, hr, hu, hstage.workers, Ending.isOk]
  · rw [init_of_refused reply hf]
    simp [launched, Ending.isOk, Except.isOk, Except.toBool]

/-- In a step the workers are started just if it is an initialisation that succeeds. -/
theorem launched_step {s : Supervisor} (h : Orderly s) (x : Step) :
    (step x s).1.launched = s.launched + (succeeds x s).toNat := by
  cases x with
  | init reply => exact (stage_init h reply).1
  | stop reply => exact launched_congr (stage_stop reply s).1
  | _ => exact launched_congr (sameStage_step (by simp) (by simp) s).unstarted

/-- **In a run the workers are started as often as an initialisation succeeds.** -/
theorem launched_run {s : Supervisor} (h : Orderly s) (xs : List Step) :
    (run xs s).1.launched = s.launched + launches xs s := by
  induction xs generalizing s with
  | nil => rfl
  | cons x xs ih =>
    rw [launches, ← Nat.add_assoc, ← launched_step h x]
    exact ih (h.step x)

/-! ### Workers -/

/-- A success adds the workers, a stop takes all of them, and nothing else changes their number. -/
theorem workers_step {s : Supervisor} (h : Orderly s) (x : Step) :
    (step x s).1.workers = if x.isStop then 0
      else s.workers + if succeeds x s then s.supervision.crew else 0 := by
  cases x with
  | init reply => exact (stage_init h reply).2
  | stop reply => exact (stage_stop reply s).2.2
  | _ => exact (sameStage_step (by simp) (by simp) s).workers

/-- While no initialisation succeeds, no worker is added. -/
theorem workers_run {s : Supervisor} (h : Orderly s) {xs : List Step} (hl : launches xs s = 0) :
    (run xs s).1.workers = if xs.any Step.isStop then 0 else s.workers := by
  induction xs generalizing s with
  | nil => rfl
  | cons x xs ih =>
    obtain ⟨hx, hxs⟩ : (succeeds x s).toNat = 0 ∧ launches xs (step x s).1 = 0 :=
      Nat.add_eq_zero_iff.mp hl
    have hfails : succeeds x s = false := by simpa using hx
    rw [run, ih (h.step x) hxs, workers_step h x, hfails, List.any_cons]
    cases x.isStop <;> simp

/-! ### Nothing is left behind -/

/-- No event is delivered in the step: the transport does not deliver one of its own accord, nor
while it is started. The call that starts it returns. -/
def Step.IsSilent : Step → Prop
  | .deliver _ _ _ => False
  | .init (.delivers _ _ _) => False
  | .init .dies => False
  | _ => True

/-- The supervisor is as it was made, apart from a request to stop. -/
def IsPristine (id : String) (c : Supervision) (s : Supervisor) : Prop :=
  s = { make id c with stopping := s.stopping }

/-- So it can be initialised. -/
theorem IsPristine.isFresh {id : String} {c : Supervision} {s : Supervisor}
    (h : s.IsPristine id c) : s.IsFresh := by
  rw [h]
  exact ⟨rfl, rfl⟩

/-- A start without events that fails leaves a fresh supervisor as it was, and all around it. -/
theorem init_of_refusal {s : Supervisor} (h : s.IsFresh) (e : LinkError) :
    s.init (.returns (.error e)) =
      (s, asActs .caller [.calls .bind, .calls .start,
        s.note .error ("transport start failed: " ++ e.message)], .returned (.error e)) := by
  rw [init_of_failed _ h (e := e) rfl]
  obtain ⟨hi, -⟩ := h
  simp [startCall, note, ← hi]

/-- A silent step that is no success changes nothing but the request to stop. -/
theorem pristine_step {id : String} {c : Supervision} {s : Supervisor} (h : s.IsPristine id c)
    {x : Step} (hx : x.IsSilent) (hl : succeeds x s = false) : (step x s).1.IsPristine id c := by
  have hf := h.isFresh
  rw [h] at hl ⊢
  cases x with
  | deliver actor e reply => exact hx.elim
  | init reply =>
    cases reply with
    | delivers e nested rest => exact hx.elim
    | dies => exact hx.elim
    | returns result =>
      cases result with
      | ok u => cases hl
      | error e => rfl
  | _ => rfl

/-- **As long as the transport has delivered no event and no initialisation has succeeded, nothing
is left behind.** -/
theorem pristine_run {id : String} {c : Supervision} {s : Supervisor} (h : s.IsPristine id c)
    {xs : List Step} (hx : ∀ x ∈ xs, x.IsSilent) (hl : launches xs s = 0) :
    (run xs s).1.IsPristine id c := by
  induction xs generalizing s with
  | nil => exact h
  | cons x xs ih =>
    obtain ⟨hhead, htail⟩ : (succeeds x s).toNat = 0 ∧ launches xs (step x s).1 = 0 :=
      Nat.add_eq_zero_iff.mp hl
    exact ih (pristine_step h (hx x List.mem_cons_self) (by simpa using hhead))
      (fun y hy => hx y (List.mem_cons_of_mem x hy)) htail

/-! ### The initialisations of a run -/

/-- A transport that refuses to start has its error passed on, and no worker is started. -/
theorem stage_init_of_failed {s : Supervisor} (h : s.IsFresh) {reply : Reply} {e : LinkError}
    (he : (s.startCall reply).2.2 = .returned (.error e)) :
    (s.init reply).2.2 = .returned (.error e) ∧ SameStage s (s.init reply).1 ∧
      (s.init reply).1.probing = s.probing := by
  have hstage : SameStage { s with initialized := true } (s.startCall reply).1 :=
    sameStage_play .caller reply _
  have hprobing : (s.startCall reply).1.probing = s.probing := by
    unfold startCall
    rw [play_frame]
    rfl
  rw [init_of_failed reply h he]
  exact ⟨rfl, ⟨hstage.unstarted, h.1.symm, hstage.workers⟩, hprobing⟩

/-- **A supervisor is initialised at most once, and a failure leaves nothing behind.** After every
run of a new supervisor:

* at most one initialisation has succeeded;
* after one that has, every other is refused: nothing is called and nothing changes;
* one in which the transport refuses to start has the transport's error, and starts no worker;
* if no event has been delivered and none has succeeded, the supervisor is as it was made, apart
  from a request to stop; a start that fails without an event changes neither that nor what is
  around it, and the next initialisation calls the transport again and succeeds if the start does;
* there are no workers before the one that succeeds, a whole crew after it, and none again after
  the next stop. -/
theorem initialises_once (id : String) (c : Supervision) (xs : List Step) :
    let s := (run xs (make id c)).1
    launches xs (make id c) ≤ 1 ∧
      (launches xs (make id c) = 1 →
        ∀ reply, s.init reply = (s, [], .returned (.error (.alreadyInitialized id)))) ∧
      (∀ reply e, s.IsFresh → (s.startCall reply).2.2 = .returned (.error e) →
        (s.init reply).2.2 = .returned (.error e) ∧ SameStage s (s.init reply).1 ∧
          (s.init reply).1.probing = s.probing) ∧
      ((∀ x ∈ xs, x.IsSilent) → launches xs (make id c) = 0 →
        s.IsPristine id c ∧
          (∀ e, (s.init (.returns (.error e))).1 = s ∧
            (s.init (.returns (.error e))).2.2 = .returned (.error e) ∧
            ∀ w : Surroundings, (w.performAll id (s.init (.returns (.error e))).2.1).1 = w) ∧
          ∀ reply, ⟨.caller, .calls .start⟩ ∈ (s.init reply).2.1 ∧
            ((s.startCall reply).2.2 = .returned (.ok ()) →
              (s.init reply).2.2 = .returned (.ok ()))) ∧
      (launches xs (make id c) = 0 → s.workers = 0) ∧
      ∀ before reply after, xs = before ++ .init reply :: after →
        succeeds (.init reply) (run before (make id c)).1 = true →
        s.workers = if after.any Step.isStop then 0 else c.crew := by
  intro s
  have ho : ∀ ys, Orderly (run ys (make id c)).1 := orderly_run id c
  have hsetup : ∀ ys, (run ys (make id c)).1.id = id ∧ (run ys (make id c)).1.supervision = c :=
    fun ys => run_setup ys (make id c)
  have hlaunched : ∀ ys, (run ys (make id c)).1.launched = launches ys (make id c) := by
    intro ys
    rw [launched_run (orderly_make id c) ys]
    exact Nat.zero_add _
  have honce : ∀ ys, launches ys (make id c) ≤ 1 := fun ys => hlaunched ys ▸ launched_le_one _
  refine ⟨honce xs, ?_, fun reply e hf he => stage_init_of_failed hf he, ?_, ?_, ?_⟩
  · -- after a success
    intro h1 reply
    have hr : s.reconnector ≠ .unstarted := by
      intro hr
      have h0 : s.launched = 0 := by simp [launched, hr]
      rw [hlaunched xs, h1] at h0
      cases h0
    have hi : s.initialized = true := (ho xs).launched hr
    have hrefused := init_of_refused (s := s) reply fun hf => hr ((ho xs).unstarted_of_isFresh hf)
    have hsame : { s with initialized := true } = s := by rw [← hi]
    rw [hrefused, hsame, (hsetup xs).1]
  · -- before any event
    intro hsilent h0
    have hp : s.IsPristine id c := pristine_run (s := make id c) rfl hsilent h0
    refine ⟨hp, fun e => ?_, fun reply => ⟨?_, fun hok => ?_⟩⟩
    · rw [init_of_refusal hp.isFresh e]
      exact ⟨rfl, rfl, fun w => rfl⟩
    · rw [init_of_fresh reply hp.isFresh]
      split <;> simp
    · rw [init_of_started reply hp.isFresh hok]
  · intro h0
    have hw := workers_run (orderly_make id c) h0
    rw [hw]
    split <;> rfl
  · -- the initialisation that succeeds is the only one
    rintro before reply after rfl hok
    have hcount := honce (before ++ .init reply :: after)
    rw [launches_append, launches, hok] at hcount
    have h0 : launches before (make id c) = 0 ∧
        launches after (step (.init reply) (run before (make id c)).1).1 = 0 := by
      simp only [Bool.toNat_true] at hcount
      omega
    have hbefore : (run before (make id c)).1.workers = 0 := by
      rw [workers_run (orderly_make id c) h0.1]
      split <;> rfl
    have hcrew := workers_step (ho before) (.init reply)
    rw [hbefore, hok, (hsetup before).2] at hcrew
    have hafter := workers_run ((ho before).step (.init reply)) h0.2
    rw [hcrew] at hafter
    show (run (before ++ .init reply :: after) (make id c)).1.workers = _
    rw [run_append]
    simpa [run, Step.isStop] using hafter

/-- The transport refuses to start at first. The initialisation is repeated and succeeds, the
supervisor is stopped, and a third one is refused. -/
theorem initialises_once_after_refusal :
    let c : Supervision := { Supervision.persistent with health := .usual }
    let failing : Step := .init (.returns (.error (.config "empty SSID")))
    let starting : Step := .init (.delivers .started .done .done)
    let s := (run [failing, starting, .stop .done] (make "WifiLink" c)).1
    (run [failing, starting] (make "WifiLink" c)).1.workers = 2 ∧ s.workers = 0 ∧
      s.init .done = (s, [], .returned (.error (.alreadyInitialized "WifiLink"))) := by
  intro c failing starting s
  have h := initialises_once "WifiLink" c [failing, starting, .stop .done]
  refine ⟨?_, ?_, h.2.1 rfl .done⟩
  · exact (initialises_once "WifiLink" c [failing, starting]).2.2.2.2.2 [failing] _ [] rfl rfl
  · exact h.2.2.2.2.2 [failing] _ [.stop .done] rfl rfl

end Supervisor

end LinkWarden
