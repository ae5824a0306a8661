import JarLauncher.Supervision.Core

/-!
A run of the supervisor's core in closed form. What the core has become after any events is told by the first
event about the launch, by the first end of the child after it, and by the signals between these two; the
commands of the run are the forwarded signals.
-/

namespace JarLauncher.Supervision

namespace Event

def isAboutLaunch : Event → Bool
  | launched _ | launchFailed _ _ => true
  | signalReceived _ | childExited _ => false

def signal? : Event → Option ForwardedSignal
  | signalReceived signal => some signal
  | _ => none

def ending? : Event → Option ChildStatus
  | childExited status => some status
  | _ => none

end Event

/-- What a sequence of events amounts to. -/
inductive Course
  /-- Nothing is known about the launch. -/
  | undecided
  | failed (notFound : Bool) (message : String)
  /-- A child was launched; `signals` came before its end, if it ended. -/
  | launched (pid : Option Nat) (signals : List ForwardedSignal) (ending : Option ChildStatus)
  deriving DecidableEq, Repr

namespace Course

/-- The signals that come before the first end of the child. -/
def signalsBeforeEnding (events : List Event) : List ForwardedSignal :=
  (events.takeWhile (·.ending?.isNone)).filterMap Event.signal?

def firstEnding? (events : List Event) : Option ChildStatus :=
  events.findSome? Event.ending?

/-- The course of events: only the first one about the launch counts, and what comes after it. -/
def ofEvents (events : List Event) : Course :=
  match events.dropWhile (!·.isAboutLaunch) with
  | .launched pid :: rest => .launched pid (signalsBeforeEnding rest) (firstEnding? rest)
  | .launchFailed notFound message :: _ => .failed notFound message
  | _ => .undecided

def forwarded : Course → List ForwardedSignal
  | launched _ signals _ => signals
  | undecided | failed _ _ => []

def state : Course → State
  | undecided => .starting
  | failed notFound message => .launchFailed notFound message
  | launched pid _ none => .running pid
  | launched _ _ (some { signal := some signal, .. }) => .exitedWithSignal signal
  | launched _ _ (some { signal := none, code := some code }) => .exitedWithCode code
  | launched _ _ (some { signal := none, code := none }) => .exitedWithCode 0

/-- What is known of the child after a course of events. -/
def process (args : List Bytes) : Course → SupervisedProcess
  | undecided | failed _ _ => { args }
  | launched pid _ none => { args, pid }
  | launched pid _ (some ending) =>
    { args, pid, exitCode := ending.code, terminatingSignal := ending.signal }

/-- How the launcher has to end after a course: only the end of a launched child decides that. -/
def termination? : Course → Option Termination
  | launched _ _ ending => ending.map .ofStatus
  | undecided | failed _ _ => none

def core (args : List Bytes) (course : Course) : Core where
  state := course.state
  process := course.process args
  forwarded := course.forwarded

@[simp] theorem signalsBeforeEnding_signalReceived (signal : ForwardedSignal) (events : List Event) :
    signalsBeforeEnding (.signalReceived signal :: events) = signal :: signalsBeforeEnding events := rfl

@[simp] theorem signalsBeforeEnding_childExited (status : ChildStatus) (events : List Event) :
    signalsBeforeEnding (.childExited status :: events) = [] := rfl

@[simp] theorem firstEnding?_signalReceived (signal : ForwardedSignal) (events : List Event) :
    firstEnding? (.signalReceived signal :: events) = firstEnding? events := rfl

@[simp] theorem firstEnding?_childExited (status : ChildStatus) (events : List Event) :
    firstEnding? (.childExited status :: events) = some status := rfl

/-- Signals, and then the child's end: all of them come before it. -/
theorem signalsBeforeEnding_map_append (signals : List ForwardedSignal) (status : ChildStatus) :
    signalsBeforeEnding (signals.map .signalReceived ++ [.childExited status]) = signals := by
  induction signals with
  | nil => rfl
  | cons signal signals ih => exact congrArg (signal :: ·) ih

theorem firstEnding?_map_append (signals : List ForwardedSignal) (status : ChildStatus) :
    firstEnding? (signals.map .signalReceived ++ [.childExited status]) = some status := by
  induction signals with
  | nil => rfl
  | cons signal signals ih => exact ih

/-- The core after the child's end has the state and the record that the status asks for. -/
theorem core_ended (args : List Bytes) (pid : Option Nat) (signals : List ForwardedSignal)
    (status : ChildStatus) :
    core args (.launched pid signals (some status)) =
      { core args (.launched pid signals none) with
        state := exitState status
        process := { args, pid, exitCode := status.code, terminatingSignal := status.signal } } := by
  obtain ⟨code, signal⟩ := status
  cases signal <;> cases code <;> rfl

end Course

namespace Core

theorem steps_cons (core : Core) (event : Event) (events : List Event) :
    core.steps (event :: events) =
      (((core.step event).1.steps events).1,
        (core.step event).2 ++ ((core.step event).1.steps events).2) := rfl

/-- Events that have no effect one by one have none together. -/
theorem steps_of_ignored {core : Core} (events : List Event)
    (ignored : ∀ event ∈ events, core.step event = (core, [])) : core.steps events = (core, []) := by
  induction events with
  | nil => rfl
  | cons event events ih =>
      have first := ignored event List.mem_cons_self
      have others := ih fun other member => ignored other (List.mem_cons_of_mem _ member)
      rw [steps_cons, first, others]
      rfl

theorem steps_of_isTerminal (core : Core) (ended : core.state.isTerminal = true) (events : List Event) :
    core.steps events = (core, []) :=
  steps_of_ignored events fun event _ => step_of_isTerminal ended event

/-- Before the launch is known of, all else is ignored. -/
theorem step_start_of_not_isAboutLaunch (args : List Bytes) {event : Event}
    (other : event.isAboutLaunch = false) : (start args).step event = (start args, []) := by
  cases event with
  | launched pid => cases other
  | launchFailed notFound message => cases other
  | signalReceived signal => rfl
  | childExited status => rfl

/-- A running core takes no notice of another launch. -/
theorem step_running_of_isAboutLaunch (args : List Bytes) (pid : Option Nat)
    (earlier : List ForwardedSignal) {event : Event} (late : event.isAboutLaunch = true) :
    (Course.core args (.launched pid earlier none)).step event =
      (Course.core args (.launched pid earlier none), []) := by
  cases event with
  | launched other => rfl
  | launchFailed notFound message => rfl
  | signalReceived signal => cases late
  | childExited status => cases late

theorem step_running_signalReceived (args : List Bytes) (pid : Option Nat)
    (earlier : List ForwardedSignal) (signal : ForwardedSignal) :
    (Course.core args (.launched pid earlier none)).step (.signalReceived signal) =
      (Course.core args (.launched pid (earlier ++ [signal]) none), [.forward signal]) := rfl

theorem step_running_childExited (args : List Bytes) (pid : Option Nat)
    (earlier : List ForwardedSignal) (status : ChildStatus) :
    (Course.core args (.launched pid earlier none)).step (.childExited status) =
      (Course.core args (.launched pid earlier (some status)), []) := by
  rw [Course.core_ended]
  rfl

/-- A core whose child has ended never goes on. -/
theorem isTerminal_core_ended (args : List Bytes) (pid : Option Nat) (signals : List ForwardedSignal)
    (status : ChildStatus) :
    (Course.core args (.launched pid signals (some status))).state.isTerminal = true := by
  obtain ⟨code, signal⟩ := status
  cases signal <;> cases code <;> rfl

/-- A running core forwards the signals before the child's end, and then stays as that end leaves it. -/
theorem steps_running (args : List Bytes) (pid : Option Nat) (earlier : List ForwardedSignal)
    (events : List Event) :
    (Course.core args (.launched pid earlier none)).steps events =
      (Course.core args
          (.launched pid (earlier ++ Course.signalsBeforeEnding events) (Course.firstEnding? events)),
        (Course.signalsBeforeEnding events).map .forward) := by
  induction events generalizing earlier with
  | nil =>
      have same : earlier ++ Course.signalsBeforeEnding [] = earlier := List.append_nil earlier
      rw [same]
      rfl
  | cons event events ih =>
      cases event with
      | launched other =>
          rw [steps_cons, step_running_of_isAboutLaunch args pid earlier rfl, ih earlier]
          rfl
      | launchFailed notFound message =>
          rw [steps_cons, step_running_of_isAboutLaunch args pid earlier rfl, ih earlier]
          rfl
      | signalReceived signal =>
          rw [steps_cons, step_running_signalReceived, ih (earlier ++ [signal]), List.append_assoc,
            Course.signalsBeforeEnding_signalReceived, Course.firstEnding?_signalReceived]
          rfl
      | childExited status =>
          -- The end is final, so nothing after it is looked at.
          have same : earlier ++ Course.signalsBeforeEnding (.childExited status :: events) = earlier :=
            List.append_nil earlier
          rw [steps_cons, step_running_childExited, same, Course.firstEnding?_childExited,
            steps_of_isTerminal _ (isTerminal_core_ended args pid earlier status)]
          rfl

theorem termination?_core (args : List Bytes) (course : Course) :
    (course.core args).termination? = course.termination? := by
  cases course with
  | undecided => rfl
  | failed notFound message => rfl
  | launched pid signals ending =>
      cases ending with
      | none => rfl
      | some status =>
          obtain ⟨code, signal⟩ := status
          cases signal <;> cases code <;> rfl

/-- After any events the core is what their course says, and the commands of the run are to forward the
signals of that course, in order. -/
theorem steps_start (args : List Bytes) (events : List Event) :
    (start args).steps events =
        ((Course.ofEvents events).core args, (Course.ofEvents events).forwarded.map .forward) ∧
      ((start args).steps events).1.termination? = (Course.ofEvents events).termination? := by
  have closed : (start args).steps events =
      ((Course.ofEvents events).core args, (Course.ofEvents events).forwarded.map .forward) := by
    induction events with
    | nil => rfl
    | cons event events ih =>
        cases event with
        | signalReceived signal =>
            rw [steps_cons, step_start_of_not_isAboutLaunch args rfl, ih]
            rfl
        | childExited status =>
            rw [steps_cons, step_start_of_not_isAboutLaunch args rfl, ih]
            rfl
        | launched pid =>
            have life := steps_running args pid [] events
            rw [List.nil_append] at life
            exact life
        | launchFailed notFound message =>
            exact steps_of_isTerminal (Course.core args (.failed notFound message)) rfl events
  refine ⟨closed, ?_⟩
  rw [closed]
  exact termination?_core args (Course.ofEvents events)

end Core
end JarLauncher.Supervision
