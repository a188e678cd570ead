/-
Module: LeadAssistant.Listener.Lifecycle
Layer: Listener
Purpose: `SessionFileLock` and `run_listener` (`lifecycle.py`) under `asyncio.run`, as the processes of
  one host take them: any number of listeners over one session path, each of which may be started,
  stopped, cancelled or killed at any point, with a lock that the system gives to one open descriptor
  and takes back when its process ends. Only the holder connects; what is left of a connection may
  outlive the lock, and a stopped listener ends.
Trusted boundary: human-reviewed spec
Main exports: Stage, Process, Host, Action, Host.step, Host.Owned, Host.session_exclusive,
  Host.stopped_run
-/
import LeadAssistant.Library.Transition

namespace LeadAssistant

open Transition

namespace Lifecycle

/-- Where a listener process stands. -/
inductive Stage where
  | absent
  /-- `__enter__` has opened the lock file. -/
  | opened
  /-- The head of the loop. -/
  | top
  /-- `await client.connect()`. -/
  | connecting
  /-- `await client.is_user_authorized()`. -/
  | authorizing
  /-- `await asyncio.wait(...)`. -/
  | waiting
  /-- `await disconnected`, behind a background task that has returned. -/
  | awaiting
  /-- `await asyncio.gather(disconnected, stopping, ...)`, before the process leaves or pauses. -/
  | gathering (leave : Bool)
  /-- The pause before the next attempt. -/
  | pausing
  /-- `await client.disconnect()` in the outer `finally`. -/
  | leaving
  /-- `flock(LOCK_UN)` in `__exit__`. -/
  | unlocking
  /-- `os.close` in `__exit__`. -/
  | closing
  /-- `asyncio.run` cancels and awaits the tasks that are left. -/
  | exiting
deriving Repr, DecidableEq

structure Process where
  stage : Stage := .absent
  /-- `connect` was called and no `disconnect` has returned since: the client may be connected. -/
  live : Bool := false
  /-- A `disconnect` has raised or was cancelled. -/
  undone : Bool := false
  /-- Background tasks of earlier connections that have not ended: nobody awaits a cancelled one, and
  what a failed one had gathered runs on. -/
  leftover : Nat := 0
  stopping : Bool := false
  /-- The calls of `connect`, which nothing reads. -/
  attempts : Nat := 0
deriving Repr, DecidableEq

/-- How `asyncio.wait` comes back, by the task that decides what happens next. -/
inductive Completion where
  | stopped
  | backgroundRaised
  | backgroundReturned
  | disconnected
deriving Repr, DecidableEq

inductive Action where
  | start
  | flock
  | signal
  | check
  | connect (answered : Bool)
  /-- The answer of `is_user_authorized`, or that it raised. -/
  | authorize (answer : Option Bool)
  | wait (completion : Completion)
  | disconnected
  | gathered
  | pause
  /-- `CancelledError` at the `await` that the process is at. -/
  | cancel
  | disconnect (returned : Bool)
  | unlock
  | close
  /-- A background task of an earlier connection ends. -/
  | expire
  | exit
  | kill
deriving Repr, DecidableEq

/-- The process that holds the lock, and all processes. -/
structure Host where
  holder : Option Nat := none
  process : Nat → Process := fun _ => {}

/-- A process takes an action. -/
structure HostEvent where
  pid : Nat
  action : Action
deriving Repr, DecidableEq

namespace Process

/-- The process goes on if it stands there. -/
def goes (process : Process) (stage : Stage) (next : Process) : Option Process :=
  if process.stage = stage then some next else none

/-- The `finally` of `_connection_tasks`, with what is left of the background task. -/
def gather (process : Process) (leave : Bool) (left : Nat) : Process :=
  { process with stage := .gathering leave, leftover := process.leftover + left }

end Process

/-- Where the answer of `is_user_authorized` leads. -/
def Stage.afterAuthorization : Option Bool → Stage
  | some true => .waiting
  | some false => .leaving
  | none => .pausing

/-- What an action that leaves the lock alone does to its process. -/
def advance (process : Process) : Action → Option Process
  | .start => process.goes .absent { stage := .opened }
  | .signal => if process.stage = .absent then none else some { process with stopping := true }
  | .check =>
      process.goes .top
        (if process.stopping then { process with stage := .leaving }
        else { process with stage := .connecting, live := true, attempts := process.attempts + 1 })
  | .connect answered =>
      process.goes .connecting
        { process with stage := if answered then .authorizing else .pausing }
  | .authorize answer =>
      process.goes .authorizing { process with stage := .afterAuthorization answer }
  | .wait .stopped => if process.stopping then process.goes .waiting (process.gather true 1) else none
  | .wait .backgroundRaised => process.goes .waiting (process.gather false 1)
  | .wait .backgroundReturned => process.goes .waiting { process with stage := .awaiting }
  | .wait .disconnected => process.goes .waiting (process.gather false 1)
  | .disconnected => process.goes .awaiting (process.gather false 0)
  | .gathered =>
      match process.stage with
      | .gathering leave => some { process with stage := if leave then .leaving else .pausing }
      | _ => none
  | .pause => process.goes .pausing { process with stage := .top }
  | .cancel =>
      match process.stage with
      | .connecting | .authorizing | .gathering _ | .pausing =>
          some { process with stage := .leaving }
      | .waiting => some (process.gather true 1)
      | .awaiting => some (process.gather true 0)
      | .leaving => some { process with stage := .unlocking, undone := true }
      | _ => none
  | .disconnect returned =>
      process.goes .leaving { process with
        stage := .unlocking
        live := process.live && !returned
        undone := process.undone || !returned }
  | .close => process.goes .closing { process with stage := .exiting }
  | .expire =>
      if process.stage = .absent ∨ process.leftover = 0 then none
      else some { process with leftover := process.leftover - 1 }
  | .exit => if process.leftover = 0 then process.goes .exiting {} else none
  | .flock | .unlock | .kill => none

namespace Host

def put (s : Host) (pid : Nat) (process : Process) : Host :=
  { s with process := Function.update s.process pid process }

/-- One action of one process. -/
def step (s : Host) (event : HostEvent) : Option Host :=
  let process := s.process event.pid
  match event.action with
  | .flock =>
      if process.stage ≠ .opened then none
      else
        match s.holder with
        | none =>
            some { s.put event.pid { process with stage := .top } with holder := some event.pid }
        -- `ListenerAlreadyRunning`, with the descriptor closed
        | some _ => some (s.put event.pid {})
  | .unlock =>
      if process.stage ≠ .unlocking then none
      else some { s.put event.pid { process with stage := .closing } with holder := none }
  | .kill =>
      if process.stage = .absent then none
      else
        some { s.put event.pid {} with
          holder := if s.holder = some event.pid then none else s.holder }
  | action => (advance process action).map (s.put event.pid)

end Host

/-! ### What an action does -/

/-- The moves of one process. -/
inductive Move (p : Process) : Action → Process → Prop where
  | started (here : p.stage = .absent) : Move p .start { stage := .opened }
  | signalled (running : p.stage ≠ .absent) : Move p .signal { p with stopping := true }
  | attempted (here : p.stage = .top) (unset : p.stopping = false) :
      Move p .check { p with stage := .connecting, live := true, attempts := p.attempts + 1 }
  | left (here : p.stage = .top) (set : p.stopping = true) :
      Move p .check { p with stage := .leaving }
  | connected (answered : Bool) (here : p.stage = .connecting) :
      Move p (.connect answered) { p with stage := if answered then .authorizing else .pausing }
  | authorized (answer : Option Bool) (here : p.stage = .authorizing) :
      Move p (.authorize answer) { p with stage := .afterAuthorization answer }
  | stopped (here : p.stage = .waiting) (set : p.stopping = true) :
      Move p (.wait .stopped) (p.gather true 1)
  | ended (completion : Completion) (here : p.stage = .waiting) :
      Move p (.wait completion) (p.gather false 1)
  | returned (here : p.stage = .waiting) :
      Move p (.wait .backgroundReturned) { p with stage := .awaiting }
  | lost (here : p.stage = .awaiting) : Move p .disconnected (p.gather false 0)
  | gathered (leave : Bool) (here : p.stage = .gathering leave) :
      Move p .gathered { p with stage := if leave then .leaving else .pausing }
  | paused (here : p.stage = .pausing) : Move p .pause { p with stage := .top }
  | interrupted (here : p.stage = .connecting ∨ p.stage = .authorizing ∨
      (∃ leave, p.stage = .gathering leave) ∨ p.stage = .pausing) :
      Move p .cancel { p with stage := .leaving }
  | cancelled (left : Nat) (here : p.stage = .waiting ∧ left = 1 ∨ p.stage = .awaiting ∧ left = 0) :
      Move p .cancel (p.gather true left)
  | abandoned (here : p.stage = .leaving) :
      Move p .cancel { p with stage := .unlocking, undone := true }
  | disconnected (returned : Bool) (here : p.stage = .leaving) :
      Move p (.disconnect returned) { p with
        stage := .unlocking, live := p.live && !returned, undone := p.undone || !returned }
  | closed (here : p.stage = .closing) : Move p .close { p with stage := .exiting }
  | expired (running : p.stage ≠ .absent) (some_left : p.leftover ≠ 0) :
      Move p .expire { p with leftover := p.leftover - 1 }
  | exited (here : p.stage = .exiting) : Move p .exit {}

variable {process next other : Process} {action : Action} {stage : Stage}

theorem Process.goes_eq_some :
    process.goes stage other = some next ↔ process.stage = stage ∧ other = next := by
  unfold Process.goes
  split <;> simp [*]

theorem check_move (moved : advance process .check = some next) : Move process .check next := by
  obtain ⟨here, rfl⟩ := Process.goes_eq_some.1 moved
  by_cases set : process.stopping = true
  · rw [if_pos set]
    exact .left here set
  · rw [if_neg set]
    exact .attempted here (by simpa using set)

theorem wait_move {completion : Completion} (moved : advance process (.wait completion) = some next) :
    Move process (.wait completion) next := by
  cases completion with
  | stopped =>
      simp only [advance] at moved
      split at moved
      · rename_i set
        obtain ⟨here, rfl⟩ := Process.goes_eq_some.1 moved
        exact .stopped here set
      · simp at moved
  | backgroundRaised | disconnected =>
      obtain ⟨here, rfl⟩ := Process.goes_eq_some.1 moved
      exact .ended _ here
  | backgroundReturned =>
      obtain ⟨here, rfl⟩ := Process.goes_eq_some.1 moved
      exact .returned here

theorem gathered_move (moved : advance process .gathered = some next) :
    Move process .gathered next := by
  simp only [advance] at moved
  split at moved
  · rename_i leave here
    cases moved
    exact .gathered leave here
  · simp at moved

theorem cancel_move (moved : advance process .cancel = some next) : Move process .cancel next := by
  simp only [advance] at moved
  split at moved
  · rename_i here
    cases moved
    exact .interrupted (Or.inl here)
  · rename_i here
    cases moved
    exact .interrupted (Or.inr (Or.inl here))
  · rename_i leave here
    cases moved
    exact .interrupted (Or.inr (Or.inr (Or.inl ⟨leave, here⟩)))
  · rename_i here
    cases moved
    exact .interrupted (Or.inr (Or.inr (Or.inr here)))
  · rename_i here
    cases moved
    exact .cancelled 1 (Or.inl ⟨here, rfl⟩)
  · rename_i here
    cases moved
    exact .cancelled 0 (Or.inr ⟨here, rfl⟩)
  · rename_i here
    cases moved
    exact .abandoned here
  · simp at moved

theorem exit_move (moved : advance process .exit = some next) : Move process .exit next := by
  simp only [advance] at moved
  split at moved
  · obtain ⟨here, rfl⟩ := Process.goes_eq_some.1 moved
    exact .exited here
  · simp at moved

theorem advance_move (moved : advance process action = some next) : Move process action next := by
  cases action with
  | check => exact check_move moved
  | wait completion => exact wait_move moved
  | gathered => exact gathered_move moved
  | cancel => exact cancel_move moved
  | exit => exact exit_move moved
  | signal =>
      simp only [advance] at moved
      split at moved
      · simp at moved
      · cases moved
        exact .signalled ‹_›
  | expire =>
      simp only [advance] at moved
      split at moved
      · simp at moved
      · rename_i going
        cases moved
        rw [not_or] at going
        exact .expired going.1 going.2
  | start =>
      obtain ⟨here, rfl⟩ := Process.goes_eq_some.1 moved
      exact .started here
  | connect answered =>
      obtain ⟨here, rfl⟩ := Process.goes_eq_some.1 moved
      exact .connected answered here
  | authorize answer =>
      obtain ⟨here, rfl⟩ := Process.goes_eq_some.1 moved
      exact .authorized answer here
  | disconnected =>
      obtain ⟨here, rfl⟩ := Process.goes_eq_some.1 moved
      exact .lost here
  | pause =>
      obtain ⟨here, rfl⟩ := Process.goes_eq_some.1 moved
      exact .paused here
  | disconnect returned =>
      obtain ⟨here, rfl⟩ := Process.goes_eq_some.1 moved
      exact .disconnected returned here
  | close =>
      obtain ⟨here, rfl⟩ := Process.goes_eq_some.1 moved
      exact .closed here
  | flock | unlock | kill => simp [advance] at moved

namespace Host

/-- What a step of the host does: a move of its process, or a step of the lock. -/
inductive Change (s : Host) (pid : Nat) : Action → Host → Prop where
  | moved {action : Action} {next : Process} (move : Move (s.process pid) action next) :
      Change s pid action (s.put pid next)
  | locked (opened : (s.process pid).stage = .opened) (free : s.holder = none) :
      Change s pid .flock
        { s.put pid { s.process pid with stage := .top } with holder := some pid }
  | refused (opened : (s.process pid).stage = .opened) : Change s pid .flock (s.put pid {})
  | unlocked (unlocking : (s.process pid).stage = .unlocking) :
      Change s pid .unlock
        { s.put pid { s.process pid with stage := .closing } with holder := none }
  | killed (running : (s.process pid).stage ≠ .absent) : Change s pid .kill
      { s.put pid {} with holder := if s.holder = some pid then none else s.holder }

variable {s t : Host} {event : HostEvent}

theorem step_change (next : step s event = some t) : Change s event.pid event.action t := by
  obtain ⟨pid, action⟩ := event
  cases action with
  | flock =>
      simp only [step, ne_eq] at next
      split at next
      · simp at next
      · rename_i opened
        split at next
        · cases next
          exact .locked (not_not.1 opened) ‹_›
        · cases next
          exact .refused (not_not.1 opened)
  | unlock =>
      simp only [step, ne_eq] at next
      split at next
      · simp at next
      · cases next
        exact .unlocked (not_not.1 ‹_›)
  | kill =>
      simp only [step] at next
      split at next
      · simp at next
      · cases next
        exact .killed ‹_›
  | _ =>
      obtain ⟨process, moved, rfl⟩ := Option.map_eq_some_iff.1 next
      exact .moved (advance_move moved)

end Host

/-! ### One listener at a time -/

/-- The process is behind its `flock` and before its `LOCK_UN`. -/
def Stage.owns : Stage → Bool
  | .absent | .opened | .closing | .exiting => false
  | _ => true

/-- The process has not come to the end of its `disconnect`. -/
def Stage.online : Stage → Bool
  | .absent | .opened | .unlocking | .closing | .exiting => false
  | _ => true

/-- A client that may still be connected behind the `disconnect` was not disconnected. -/
def Process.Sound (process : Process) : Prop :=
  process.live = true → process.stage.online = true ∨ process.undone = true

theorem Process.Sound.still {d u : Bool} {l n : Nat} : Process.Sound ⟨stage, false, u, l, d, n⟩ :=
  fun live => absurd live Bool.false_ne_true

theorem Process.Sound.undone (sound : process.Sound) (offline : process.stage.online = false) :
    process.live = true → process.undone = true :=
  fun live => (sound live).resolve_left fun online => by simp [offline] at online

/-- A move stays on its side of the lock. -/
theorem Move.owns (move : Move process action next) : next.stage.owns = process.stage.owns := by
  cases move with
  | signalled | expired => rfl
  | connected answered here =>
      rw [here]
      cases answered <;> rfl
  | authorized answer here =>
      rw [here]
      rcases answer with _ | _ | _ <;> rfl
  | gathered leave here =>
      rw [here]
      cases leave <;> rfl
  | interrupted here =>
      rcases here with here | here | ⟨leave, here⟩ | here <;> rw [here] <;> rfl
  | cancelled left here =>
      rcases here with ⟨here, -⟩ | ⟨here, -⟩ <;> rw [here] <;> rfl
  | ended completion here | disconnected returned here =>
      rw [here]
      rfl
  | started here | attempted here | left here | stopped here | returned here | lost here
  | paused here | abandoned here | closed here | exited here =>
      rw [here]
      rfl

theorem Move.sound (move : Move process action next) (sound : process.Sound) : next.Sound := by
  cases move with
  | started | exited => exact .still
  | signalled | expired => exact sound
  | attempted | left | stopped | ended | returned | lost | paused | interrupted | cancelled =>
      exact fun _ => Or.inl rfl
  | connected answered => exact fun _ => Or.inl (by cases answered <;> rfl)
  | authorized answer => exact fun _ => Or.inl (by rcases answer with _ | _ | _ <;> rfl)
  | gathered leave => exact fun _ => Or.inl (by cases leave <;> rfl)
  | abandoned => exact fun _ => Or.inr rfl
  | disconnected returned =>
      intro live
      have raised := (Bool.and_eq_true_iff.1 live).2
      exact Or.inr (Bool.or_eq_true_iff.2 (Or.inr raised))
  | closed here => exact fun live => Or.inr (sound.undone (by rw [here]; rfl) live)

namespace Host

variable {s t : Host} {event : HostEvent} {es : List HostEvent} {pid : Nat}

@[simp] theorem process_put (s : Host) (pid other : Nat) (process : Process) :
    (s.put pid process).process other = if other = pid then process else s.process other :=
  Function.update_apply ..

@[simp] theorem holder_put (s : Host) (pid : Nat) (process : Process) :
    (s.put pid process).holder = s.holder := rfl

/-- The lock is held exactly by the process between its `flock` and its `LOCK_UN`. -/
structure Owned (s : Host) : Prop where
  owner : ∀ pid, (s.process pid).stage.owns = true ↔ s.holder = some pid
  sound : ∀ pid, (s.process pid).Sound

theorem Owned.empty : Owned {} where
  owner pid := by simp [Stage.owns]
  sound _ := .still

theorem sound_put (owned : Owned s) {process : Process} (sound : process.Sound) (other : Nat) :
    ((s.put pid process).process other).Sound := by
  rw [process_put]
  split
  · exact sound
  · exact owned.sound other

/-- A process that is replaced on its side of the lock. -/
theorem Owned.put (owned : Owned s) {process : Process} (sound : process.Sound)
    (owns : process.stage.owns = (s.process pid).stage.owns) : Owned (s.put pid process) where
  owner other := by
    rw [process_put, holder_put, ← owned.owner other]
    split
    · rename_i same
      rw [same, owns]
    · exact Iff.rfl
  sound := sound_put owned sound

theorem Owned.locked (owned : Owned s) (free : s.holder = none) :
    Owned { s.put pid { s.process pid with stage := .top } with holder := some pid } where
  owner other := by
    have before := owned.owner other
    rw [free] at before
    change (((s.put pid _).process other).stage.owns = true) ↔ some pid = some other
    rw [process_put]
    split
    · rename_i same
      simp [same, Stage.owns]
    · rename_i apart
      rw [before]
      simp [Ne.symm apart]
  sound := sound_put owned fun _ => Or.inl rfl

theorem Owned.unlocked (owned : Owned s) (unlocking : (s.process pid).stage = .unlocking) :
    Owned { s.put pid { s.process pid with stage := .closing } with holder := none } where
  owner other := by
    have mine := (owned.owner pid).1 (by rw [unlocking]; rfl)
    have before := owned.owner other
    rw [mine] at before
    change (((s.put pid _).process other).stage.owns = true) ↔ none = some other
    rw [process_put]
    split
    · simp [Stage.owns]
    · rename_i apart
      rw [before]
      simp [Ne.symm apart]
  sound := sound_put owned fun live =>
    Or.inr ((owned.sound pid).undone (by rw [unlocking]; rfl) live)

theorem Owned.killed (owned : Owned s) : Owned { s.put pid {} with
    holder := if s.holder = some pid then none else s.holder } where
  owner other := by
    have before := owned.owner other
    change (((s.put pid _).process other).stage.owns = true) ↔
      (if s.holder = some pid then none else s.holder) = some other
    rw [process_put]
    split
    · rename_i same
      subst same
      split <;> simp_all [Stage.owns]
    · rename_i apart
      rw [before]
      split
      · rename_i held
        simp [held, Ne.symm apart]
      · exact Iff.rfl
  sound := sound_put owned .still

theorem Owned.step (owned : Owned s) (next : step s event = some t) : Owned t := by
  obtain ⟨self, action⟩ := event
  cases step_change next with
  | moved move => exact owned.put (move.sound (owned.sound _)) move.owns
  | refused opened => exact owned.put .still (by rw [opened]; rfl)
  | locked _ free => exact owned.locked free
  | unlocked unlocking => exact owned.unlocked unlocking
  | killed => exact owned.killed

end Host

/-! ### Shutdown -/

/-- How many steps of its own a process with the stop event has before it, but for the ends of the
tasks that are left already. -/
def Stage.rank : Stage → Nat
  | .absent => 0
  | .exiting => 1
  | .closing => 2
  | .unlocking => 3
  | .leaving => 4
  | .top | .gathering true => 5
  | .pausing => 6
  | .gathering false => 7
  | .awaiting => 8
  | .waiting => 9
  | .authorizing => 10
  | .connecting => 11
  | .opened => 12

def Process.rank (process : Process) : Nat := process.stage.rank + process.leftover

theorem Stage.rank_le : stage.rank ≤ 12 := by
  cases stage with
  | gathering leave => cases leave <;> simp [Stage.rank]
  | _ => simp [Stage.rank]

theorem Stage.rank_pos (running : stage ≠ .absent) : 0 < stage.rank := by
  cases stage with
  | absent => exact absurd rfl running
  | gathering leave => cases leave <;> exact Nat.succ_pos _
  | _ => exact Nat.succ_pos _

/-- An action of the process itself; a signal comes from outside. -/
def Action.own : Action → Bool
  | .signal => false
  | _ => true

/-- A step that the process takes when the call or the left task it awaits comes back. The end of a
connection or of its background task, a cancellation and a kill are none. -/
def Action.prompted : Action → Bool
  | .flock | .check | .connect _ | .authorize _ | .wait .stopped | .gathered | .pause
  | .disconnect _ | .unlock | .close | .expire | .exit => true
  | _ => false

/-- A process that has ended makes no move but its start. -/
theorem Move.running (move : Move process action next) (other : action ≠ .start) :
    process.stage ≠ .absent := by
  cases move with
  | started => exact absurd rfl other
  | signalled running => exact running
  | expired running => exact running
  | interrupted here =>
      rcases here with here | here | ⟨leave, here⟩ | here <;> rw [here] <;> exact Stage.noConfusion
  | cancelled left here =>
      rcases here with ⟨here, -⟩ | ⟨here, -⟩ <;> rw [here] <;> exact Stage.noConfusion
  | connected _ here | authorized _ here | ended _ here | gathered _ here | disconnected _ here =>
      rw [here]
      exact Stage.noConfusion
  | attempted here | left here | stopped here | returned here | lost here | paused here
  | abandoned here | closed here | exited here =>
      rw [here]
      exact Stage.noConfusion

/-- With the stop event a move leads toward the end and to no attempt, and the event stays. -/
theorem Move.winds (move : Move process action next) (stopping : process.stopping = true)
    (running : action ≠ .start) : (if action.own then 1 else 0) + next.rank ≤ process.rank ∧
      (next.stage = .absent ∨ next.stopping = true ∧ next.attempts = process.attempts) := by
  unfold Process.rank
  cases move with
  | started => exact absurd rfl running
  | attempted here unset => exact absurd (unset.symm.trans stopping) Bool.false_ne_true
  | signalled running => exact ⟨by simp [Action.own], Or.inr ⟨rfl, rfl⟩⟩
  | expired running some_left =>
      refine ⟨?_, Or.inr ⟨stopping, rfl⟩⟩
      simp only [Action.own, if_true]
      omega
  | exited here => exact ⟨by rw [here]; simp [Action.own, Stage.rank], Or.inl rfl⟩
  | connected answered here =>
      refine ⟨?_, Or.inr ⟨stopping, rfl⟩⟩
      rw [here]
      cases answered <;> simp [Action.own, Stage.rank] <;> omega
  | authorized answer here =>
      refine ⟨?_, Or.inr ⟨stopping, rfl⟩⟩
      rw [here]
      rcases answer with _ | _ | _ <;>
        simp [Action.own, Stage.rank, Stage.afterAuthorization] <;> omega
  | gathered leave here =>
      refine ⟨?_, Or.inr ⟨stopping, rfl⟩⟩
      rw [here]
      cases leave <;> simp [Action.own, Stage.rank] <;> omega
  | interrupted here =>
      refine ⟨?_, Or.inr ⟨stopping, rfl⟩⟩
      rcases here with here | here | ⟨leave, here⟩ | here <;> rw [here]
      · simp [Action.own, Stage.rank]; omega
      · simp [Action.own, Stage.rank]; omega
      · cases leave <;> simp [Action.own, Stage.rank] <;> omega
      · simp [Action.own, Stage.rank]; omega
  | cancelled left here =>
      refine ⟨?_, Or.inr ⟨stopping, rfl⟩⟩
      rcases here with ⟨here, rfl⟩ | ⟨here, rfl⟩ <;> rw [here] <;>
        simp [Action.own, Stage.rank, Process.gather] <;> omega
  | stopped here | ended completion here | lost here =>
      refine ⟨?_, Or.inr ⟨stopping, rfl⟩⟩
      rw [here]
      simp [Action.own, Stage.rank, Process.gather]
      omega
  | left here | returned here | paused here | abandoned here | disconnected returned here
  | closed here =>
      refine ⟨?_, Or.inr ⟨stopping, rfl⟩⟩
      rw [here]
      simp [Action.own, Stage.rank]
      omega

namespace Host

variable {s t v : Host} {event : HostEvent} {es : List HostEvent} {pid : Nat}

/-- A step leaves the other processes alone. -/
theorem process_other (next : step s event = some t) (apart : event.pid ≠ pid) :
    t.process pid = s.process pid := by
  obtain ⟨self, action⟩ := event
  cases step_change next with
  | moved move => exact (process_put ..).trans (if_neg (Ne.symm apart))
  | refused => exact (process_put ..).trans (if_neg (Ne.symm apart))
  | locked opened free => exact (process_put ..).trans (if_neg (Ne.symm apart))
  | unlocked unlocking => exact (process_put ..).trans (if_neg (Ne.symm apart))
  | killed running => exact (process_put ..).trans (if_neg (Ne.symm apart))

/-- The process has ended, or it has the stop event and has made no attempt since. -/
def Winding (attempts : Nat) (process : Process) : Prop :=
  process.stage = .absent ∨ process.stopping = true ∧ process.attempts = attempts

theorem Winding.step {attempts : Nat} (winding : Winding attempts (s.process pid))
    (next : step s ⟨pid, action⟩ = some t) (running : action ≠ .start) :
    Winding attempts (t.process pid) ∧
      (if action.own then 1 else 0) + (t.process pid).rank ≤ (s.process pid).rank := by
  have own : ∀ process : Process, (s.put pid process).process pid = process := fun process =>
    (process_put s pid pid process).trans (if_pos rfl)
  cases step_change next with
  | moved move =>
      rw [own]
      rcases winding with absent | ⟨stopping, same⟩
      · exact absurd absent (move.running running)
      · obtain ⟨less, still⟩ := move.winds stopping running
        exact ⟨still.imp_right fun kept => ⟨kept.1, kept.2.trans same⟩, less⟩
  | refused opened =>
      rw [own]
      exact ⟨Or.inl rfl, by simp [Process.rank, opened, Action.own, Stage.rank]; omega⟩
  | locked opened free =>
      change Winding attempts ((s.put pid _).process pid) ∧
        _ + ((s.put pid _).process pid).rank ≤ _
      rw [own]
      rcases winding with absent | kept
      · exact absurd (absent.symm.trans opened) (by decide)
      · exact ⟨Or.inr kept, by simp [Process.rank, opened, Action.own, Stage.rank]; omega⟩
  | unlocked unlocking =>
      change Winding attempts ((s.put pid _).process pid) ∧
        _ + ((s.put pid _).process pid).rank ≤ _
      rw [own]
      rcases winding with absent | kept
      · exact absurd (absent.symm.trans unlocking) (by decide)
      · exact ⟨Or.inr kept, by simp [Process.rank, unlocking, Action.own, Stage.rank]; omega⟩
  | killed alive =>
      change Winding attempts ((s.put pid _).process pid) ∧
        _ + ((s.put pid _).process pid).rank ≤ _
      rw [own]
      have positive : 0 < (s.process pid).stage.rank := Stage.rank_pos alive
      refine ⟨Or.inl rfl, ?_⟩
      change 1 + (0 + 0) ≤ (s.process pid).stage.rank + (s.process pid).leftover
      omega

/-- With the stop event a process can go on by itself wherever it stands, but where it awaits the end
of a connection. -/
theorem prompted_of_stopping (stopping : (s.process pid).stopping = true)
    (running : (s.process pid).stage ≠ .absent) (elsewhere : (s.process pid).stage ≠ .awaiting) :
    ∃ action, action.prompted = true ∧ (step s ⟨pid, action⟩).isSome = true := by
  cases stage : (s.process pid).stage with
  | absent => exact absurd stage running
  | awaiting => exact absurd stage elsewhere
  | opened =>
      refine ⟨.flock, rfl, ?_⟩
      cases free : s.holder <;> simp [step, stage, free]
  | unlocking => exact ⟨.unlock, rfl, by simp [step, stage]⟩
  | top => exact ⟨.check, rfl, by simp [step, advance, Process.goes, stage]⟩
  | connecting => exact ⟨.connect true, rfl, by simp [step, advance, Process.goes, stage]⟩
  | authorizing => exact ⟨.authorize none, rfl, by simp [step, advance, Process.goes, stage]⟩
  | waiting => exact ⟨.wait .stopped, rfl, by simp [step, advance, Process.goes, stage, stopping]⟩
  | gathering leave => exact ⟨.gathered, rfl, by simp [step, advance, stage]⟩
  | pausing => exact ⟨.pause, rfl, by simp [step, advance, Process.goes, stage]⟩
  | leaving => exact ⟨.disconnect true, rfl, by simp [step, advance, Process.goes, stage]⟩
  | closing => exact ⟨.close, rfl, by simp [step, advance, Process.goes, stage]⟩
  | exiting =>
      by_cases none_left : (s.process pid).leftover = 0
      · exact ⟨.exit, rfl, by simp [step, advance, Process.goes, stage, none_left]⟩
      · exact ⟨.expire, rfl, by simp [step, advance, stage, none_left]⟩

theorem winding_of_run (run : Run step anyEvent s es t)
    (stopping : (s.process pid).stopping = true)
    (once : ∀ event ∈ es, event ≠ ⟨pid, .start⟩) :
    es.countP (fun event => event.pid = pid && event.action.own) + (t.process pid).rank ≤
        (s.process pid).rank ∧
      Winding (s.process pid).attempts (t.process pid) := by
  induction run with
  | nil => exact ⟨by simp, Or.inr ⟨stopping, rfl⟩⟩
  | @snoc v t es event before _ next ih =>
      obtain ⟨less, winding⟩ := ih fun event there => once event (List.mem_append_left _ there)
      obtain ⟨self, action⟩ := event
      rw [List.countP_append, List.countP_singleton]
      by_cases same : self = pid
      · subst same
        have running : action ≠ .start := fun start =>
          once ⟨self, action⟩ (List.mem_append_right _ List.mem_cons_self) (by rw [start])
        obtain ⟨still, shorter⟩ := winding.step next running
        refine ⟨?_, still⟩
        simp only [decide_true, Bool.true_and]
        omega
      · rw [process_other next same]
        refine ⟨?_, winding⟩
        simpa [same] using less

/-- Once it has the stop event a listener makes no further attempt to connect, and it takes at most
twelve steps of its own, and one for each task that is left. As long as it has not ended it can take
one more by itself, but where it awaits the end of a connection whose background task has returned. -/
theorem stopped_run (run : Run step anyEvent s es t)
    (stopping : (s.process pid).stopping = true)
    (once : ∀ event ∈ es, event ≠ ⟨pid, .start⟩) :
    es.countP (fun event => event.pid = pid && event.action.own) ≤
        12 + (s.process pid).leftover ∧
      ((t.process pid).stage = .absent ∨ (t.process pid).attempts = (s.process pid).attempts ∧
        ((t.process pid).stage = .awaiting ∨
          ∃ action, action.prompted = true ∧ (step t ⟨pid, action⟩).isSome = true)) := by
  obtain ⟨less, winding⟩ := winding_of_run run stopping once
  constructor
  · have few := @Stage.rank_le (s.process pid).stage
    unfold Process.rank at less
    omega
  · rcases winding with absent | ⟨still, same⟩
    · exact Or.inl absent
    · by_cases running : (t.process pid).stage = .absent
      · exact Or.inl running
      · by_cases awaits : (t.process pid).stage = .awaiting
        · exact Or.inr ⟨same, Or.inl awaits⟩
        · exact Or.inr ⟨same, Or.inr (prompted_of_stopping still running awaits)⟩

/-- A listener that is stopped while it connects, with a task of an earlier connection. -/
def sampleStopped : Host where
  holder := some 0
  process pid :=
    if pid = 0 then
      { stage := .connecting, live := true, leftover := 1, stopping := true, attempts := 2 }
    else {}

/-- The listener comes to its end. -/
def sampleShutdown : List HostEvent :=
  [⟨0, .connect true⟩, ⟨0, .authorize (some true)⟩, ⟨0, .wait .stopped⟩, ⟨0, .gathered⟩,
    ⟨0, .disconnect true⟩, ⟨0, .unlock⟩, ⟨0, .close⟩, ⟨0, .expire⟩, ⟨0, .expire⟩, ⟨0, .exit⟩]

theorem stopped_run_connecting : ∃ t : Host, Run step anyEvent sampleStopped sampleShutdown t ∧
    sampleShutdown.countP (fun event => event.pid = 0 && event.action.own) ≤ 13 ∧
    (t.process 0).stage = .absent := by
  have computed : (exec step anyEvent sampleStopped sampleShutdown).map
      (fun t => (t.process 0).stage) = some .absent := by
    decide +kernel
  obtain ⟨t, run, ended⟩ := Run.exists_of_exec computed
  exact ⟨t, run, (@stopped_run sampleStopped t _ 0 run rfl (by decide)).1, ended⟩

end Host

end Lifecycle

end LeadAssistant
