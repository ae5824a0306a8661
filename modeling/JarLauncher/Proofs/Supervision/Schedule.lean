import JarLauncher.Proofs.Supervision.WholeRun
import JarLauncher.Rehearsal.Script

/-!
The supervisor at work under every schedule. Any surroundings can be recorded, call by call; the record of a
supervision shows one launch, every signal sent on at once, no question to a source that has closed, and the
end of the wait as the last thing that happened. What is returned is the core's own run over these events.
-/

namespace JarLauncher.Supervision

def Occurrence.signal? : Occurrence → Option ForwardedSignal
  | received signal => some signal
  | _ => none

/-- What the core hears of an occurrence. -/
def Occurrence.event? : Occurrence → Option Event
  | received signal => some (.signalReceived signal)
  | exited status => some (.childExited status)
  | sourceClosed | waitFailed _ => none

/-- A call of the supervisor to its surroundings. -/
inductive Call
  | launched (program : Bytes) (args : List Bytes)
  /-- One wait, and what ended it; `listening` says whether the source of signals was asked. -/
  | awaited (listening : Bool) (occurrence : Occurrence)
  | sent (signal : ForwardedSignal) (delivery : Except IoFault Unit)

namespace Call

def launch? : Call → Option (Bytes × List Bytes)
  | launched program args => some (program, args)
  | _ => none

def occurrence? : Call → Option Occurrence
  | awaited _ occurrence => some occurrence
  | _ => none

def sent? : Call → Option ForwardedSignal
  | sent signal _ => some signal
  | _ => none

def launches (calls : List Call) : List (Bytes × List Bytes) :=
  calls.filterMap launch?

def occurrences (calls : List Call) : List Occurrence :=
  calls.filterMap occurrence?

def signalsSent (calls : List Call) : List ForwardedSignal :=
  calls.filterMap sent?

/-- The signals that calls learned of, in order. -/
def signalsHeard (calls : List Call) : List ForwardedSignal :=
  (occurrences calls).filterMap Occurrence.signal?

@[simp] theorem signalsSent_nil : signalsSent [] = [] := rfl

@[simp] theorem signalsSent_launched (program : Bytes) (args : List Bytes) (calls : List Call) :
    signalsSent (.launched program args :: calls) = signalsSent calls := rfl

@[simp] theorem signalsSent_awaited (listening : Bool) (occurrence : Occurrence) (calls : List Call) :
    signalsSent (.awaited listening occurrence :: calls) = signalsSent calls := rfl

@[simp] theorem signalsSent_sent (signal : ForwardedSignal) (delivery : Except IoFault Unit)
    (calls : List Call) :
    signalsSent (.sent signal delivery :: calls) = signal :: signalsSent calls := rfl

@[simp] theorem signalsSent_append (calls others : List Call) :
    signalsSent (calls ++ others) = signalsSent calls ++ signalsSent others :=
  List.filterMap_append

@[simp] theorem occurrences_nil : occurrences [] = [] := rfl

@[simp] theorem occurrences_launched (program : Bytes) (args : List Bytes) (calls : List Call) :
    occurrences (.launched program args :: calls) = occurrences calls := rfl

@[simp] theorem occurrences_awaited (listening : Bool) (occurrence : Occurrence) (calls : List Call) :
    occurrences (.awaited listening occurrence :: calls) = occurrence :: occurrences calls := rfl

@[simp] theorem occurrences_sent (signal : ForwardedSignal) (delivery : Except IoFault Unit)
    (calls : List Call) : occurrences (.sent signal delivery :: calls) = occurrences calls := rfl

@[simp] theorem occurrences_append (calls others : List Call) :
    occurrences (calls ++ others) = occurrences calls ++ occurrences others :=
  List.filterMap_append

@[simp] theorem signalsHeard_nil : signalsHeard [] = [] := rfl

@[simp] theorem signalsHeard_received (listening : Bool) (signal : ForwardedSignal) (calls : List Call) :
    signalsHeard (.awaited listening (.received signal) :: calls) = signal :: signalsHeard calls := rfl

@[simp] theorem signalsHeard_sourceClosed (listening : Bool) (calls : List Call) :
    signalsHeard (.awaited listening .sourceClosed :: calls) = signalsHeard calls := rfl

@[simp] theorem signalsHeard_sent (signal : ForwardedSignal) (delivery : Except IoFault Unit)
    (calls : List Call) : signalsHeard (.sent signal delivery :: calls) = signalsHeard calls := rfl

end Call

variable {World : Type}

namespace Surroundings

/-- Surroundings that also write down every call. -/
def recorded (surroundings : Surroundings World) : Surroundings (World × List Call) where
  launch program args world :=
    let (result, after) := surroundings.launch program args world.1
    (result, after, world.2 ++ [.launched program args])
  next listening world :=
    let (occurrence, after) := surroundings.next listening world.1
    (occurrence, after, world.2 ++ [.awaited listening occurrence])
  send signal world :=
    let (delivery, after) := surroundings.send signal world.1
    (delivery, after, world.2 ++ [.sent signal delivery])
  remaining world := surroundings.remaining world.1
  next_lt listening world := surroundings.next_lt listening world.1
  send_le signal world := surroundings.send_le signal world.1

end Surroundings

section Turns

variable (surroundings : Surroundings World) (core : Core) (listening : Bool) {world after : World}

theorem watch_of_exited {status : ChildStatus}
    (happened : surroundings.next listening world = (.exited status, after)) :
    watch surroundings core listening world =
      (conclude (core.step (.childExited status)).1, after) := by
  rw [watch]
  split <;> simp_all

theorem watch_of_waitFailed {fault : IoFault}
    (happened : surroundings.next listening world = (.waitFailed fault, after)) :
    watch surroundings core listening world = (.error (.io fault), after) := by
  rw [watch]
  split <;> simp_all

theorem watch_of_sourceClosed
    (happened : surroundings.next listening world = (.sourceClosed, after)) :
    watch surroundings core listening world = watch surroundings core false after := by
  rw [watch]
  split <;> simp_all

theorem watch_of_received {signal : ForwardedSignal}
    (happened : surroundings.next listening world = (.received signal, after)) :
    watch surroundings core listening world =
      watch surroundings (core.step (.signalReceived signal)).1 listening
        (perform surroundings (core.step (.signalReceived signal)).2 after) := by
  rw [watch]
  split <;> simp_all

end Turns

/-- The calls of turns that go on: a signal is sent on in the same turn, and once the source has closed it is
no longer asked. The first and the last argument say whether it is asked before and after these turns. -/
inductive Turns : Bool → List Call → Bool → Prop
  | none (listening : Bool) : Turns listening [] listening
  | received {listening last : Bool} {calls : List Call} (signal : ForwardedSignal)
      (delivery : Except IoFault Unit) (later : Turns listening calls last) :
      Turns listening (.awaited listening (.received signal) :: .sent signal delivery :: calls) last
  | closed {listening last : Bool} {calls : List Call} (later : Turns false calls last) :
      Turns listening (.awaited listening .sourceClosed :: calls) last

/-- What is returned when the wait ends, if `signals` were sent before. -/
def resultOf (args : List Bytes) (pid : Option Nat) (signals : List ForwardedSignal) :
    Occurrence → Except LauncherError (Termination × Core)
  | .exited status =>
    .ok (.ofStatus status, Course.core args (.launched pid signals (some status)))
  | .waitFailed fault => .error (.io fault)
  | .received _ | .sourceClosed => conclude (Course.core args (.launched pid signals none))

theorem conclude_core_ended (args : List Bytes) (pid : Option Nat) (signals : List ForwardedSignal)
    (status : ChildStatus) :
    conclude (Course.core args (.launched pid signals (some status))) =
      .ok (.ofStatus status, Course.core args (.launched pid signals (some status))) := by
  have ended := Core.termination?_core args (.launched pid signals (some status))
  simp only [conclude, ended, Course.termination?, Option.map_some]

namespace Turns

theorem signalsSent_eq {listening last : Bool} {turns : List Call} (goesOn : Turns listening turns last) :
    Call.signalsSent turns = Call.signalsHeard turns := by
  induction goesOn with
  | none listening => rfl
  | received signal delivery later ih => simp [ih]
  | closed later ih => simp [ih]

theorem launches_eq_nil {listening last : Bool} {turns : List Call}
    (goesOn : Turns listening turns last) : Call.launches turns = [] := by
  induction goesOn with
  | none listening => rfl
  | received signal delivery later ih => exact ih
  | closed later ih => exact ih

/-- The core hears the signals of turns that go on, and nothing else. -/
theorem events_eq {listening last : Bool} {turns : List Call} (goesOn : Turns listening turns last) :
    (Call.occurrences turns).filterMap Occurrence.event? =
      (Call.signalsSent turns).map .signalReceived := by
  induction goesOn with
  | none listening => rfl
  | received signal delivery later ih =>
      exact congrArg (Event.signalReceived signal :: ·) ih
  | closed later ih => exact ih

/-- Whenever the supervisor waits, it has sent on all it has heard, and it asks the source only if that has
not closed; the wait goes on exactly if it was not the last call. -/
theorem at_each_wait {listening last : Bool} {turns : List Call} {final : Occurrence}
    (goesOn : Turns listening turns last) (ended : final.isPassing = false) :
    ∀ (before : List Call) (asking : Bool) (occurrence : Occurrence) (after : List Call),
      turns ++ [.awaited last final] = before ++ .awaited asking occurrence :: after →
      Call.signalsSent before = Call.signalsHeard before ∧
      (asking = true ↔ listening = true ∧ .sourceClosed ∉ Call.occurrences before) ∧
      (after = [] ↔ occurrence.isPassing = false) := by
  induction goesOn with
  | none listening =>
      intro before asking occurrence after split
      cases before with
      | nil =>
          obtain ⟨same, rfl⟩ := List.cons.inj split
          cases same
          simp [ended]
      | cons first rest =>
          have impossible := (List.cons.inj split).2
          simp at impossible
  | @received listening last calls signal delivery later ih =>
      intro before asking occurrence after split
      cases before with
      | nil =>
          obtain ⟨same, rest⟩ := List.cons.inj split
          cases same
          simp [← rest, Occurrence.isPassing]
      | cons first before =>
          cases before with
          | nil =>
              have second := (List.cons.inj (List.cons.inj split).2).1
              cases second
          | cons second before =>
              simp only [List.cons_append, List.cons.injEq] at split
              obtain ⟨rfl, rfl, others⟩ := split
              obtain ⟨prompt, asked, onward⟩ := ih before asking occurrence after others
              exact ⟨by simp [prompt], by simpa using asked, onward⟩
  | @closed listening last calls later ih =>
      intro before asking occurrence after split
      cases before with
      | nil =>
          obtain ⟨same, rest⟩ := List.cons.inj split
          cases same
          simp [← rest, Occurrence.isPassing]
      | cons first before =>
          obtain ⟨rfl, others⟩ := List.cons.inj split
          obtain ⟨prompt, asked, onward⟩ := ih before asking occurrence after others
          exact ⟨by simp [prompt], by simpa using asked, onward⟩

end Turns

/-- The turns of a watch, from any moment on: recording them changes nothing, and the wait's end decides. -/
structure Watched (surroundings : Surroundings World) (args : List Bytes) (pid : Option Nat)
    (earlier : List ForwardedSignal) (listening : Bool) (world : World) (turns : List Call) (last : Bool)
    (final : Occurrence) (after : World) : Prop where
  goesOn : Turns listening turns last
  ended : final.isPassing = false
  recordedRun : ∀ calls : List Call,
    watch surroundings.recorded (Course.core args (.launched pid earlier none)) listening (world, calls) =
      (resultOf args pid (earlier ++ Call.signalsSent turns) final, after,
        calls ++ (turns ++ [.awaited last final]))
  plainRun :
    watch surroundings (Course.core args (.launched pid earlier none)) listening world =
      (resultOf args pid (earlier ++ Call.signalsSent turns) final, after)

section Watched

variable {surroundings : Surroundings World} {listening last : Bool} {world middle reached after : World}
  {turns : List Call} {final : Occurrence} {signal : ForwardedSignal} {delivery : Except IoFault Unit}

theorem recorded_next {occurrence : Occurrence}
    (happened : surroundings.next listening world = (occurrence, after)) (calls : List Call) :
    surroundings.recorded.next listening (world, calls) =
      (occurrence, after, calls ++ [.awaited listening occurrence]) := by
  simp only [Surroundings.recorded, happened]

theorem recorded_send (delivered : surroundings.send signal world = (delivery, after)) (calls : List Call) :
    surroundings.recorded.send signal (world, calls) =
      (delivery, after, calls ++ [.sent signal delivery]) := by
  simp only [Surroundings.recorded, delivered]

variable (args : List Bytes) (pid : Option Nat) (earlier : List ForwardedSignal)

theorem watched_of_exited {status : ChildStatus}
    (happened : surroundings.next listening world = (.exited status, after)) :
    Watched surroundings args pid earlier listening world [] listening (.exited status) after where
  goesOn := .none listening
  ended := rfl
  recordedRun calls := by
    rw [watch_of_exited _ _ _ (recorded_next happened calls), Core.step_running_childExited,
      conclude_core_ended]
    simp [resultOf]
  plainRun := by
    rw [watch_of_exited _ _ _ happened, Core.step_running_childExited, conclude_core_ended]
    simp [resultOf]

theorem watched_of_waitFailed {fault : IoFault}
    (happened : surroundings.next listening world = (.waitFailed fault, after)) :
    Watched surroundings args pid earlier listening world [] listening (.waitFailed fault) after where
  goesOn := .none listening
  ended := rfl
  recordedRun calls := by
    rw [watch_of_waitFailed _ _ _ (recorded_next happened calls)]
    simp [resultOf]
  plainRun := by
    rw [watch_of_waitFailed _ _ _ happened]
    simp [resultOf]

variable {args pid earlier}

theorem Watched.sourceClosed (happened : surroundings.next listening world = (.sourceClosed, middle))
    (later : Watched surroundings args pid earlier false middle turns last final after) :
    Watched surroundings args pid earlier listening world (.awaited listening .sourceClosed :: turns)
      last final after where
  goesOn := .closed later.goesOn
  ended := later.ended
  recordedRun calls := by
    rw [watch_of_sourceClosed _ _ _ (recorded_next happened calls), later.recordedRun]
    simp
  plainRun := by
    rw [watch_of_sourceClosed _ _ _ happened, later.plainRun]
    simp

theorem Watched.received (happened : surroundings.next listening world = (.received signal, middle))
    (delivered : surroundings.send signal middle = (delivery, reached))
    (later : Watched surroundings args pid (earlier ++ [signal]) listening reached turns last final after) :
    Watched surroundings args pid earlier listening world
      (.awaited listening (.received signal) :: .sent signal delivery :: turns) last final after where
  goesOn := .received signal delivery later.goesOn
  ended := later.ended
  recordedRun calls := by
    have passed := recorded_send delivered (calls ++ [.awaited listening (.received signal)])
    rw [watch_of_received _ _ _ (recorded_next happened calls), Core.step_running_signalReceived]
    simp only [perform, List.foldl_cons, List.foldl_nil, passed]
    rw [later.recordedRun]
    simp
  plainRun := by
    rw [watch_of_received _ _ _ happened, Core.step_running_signalReceived]
    simp only [perform, List.foldl_cons, List.foldl_nil, delivered]
    rw [later.plainRun]
    simp

end Watched

/-- Only finitely many signals come before the wait ends, so that every watch ends. -/
theorem exists_watched (surroundings : Surroundings World) (args : List Bytes) (pid : Option Nat)
    (bound : Nat) :
    ∀ (earlier : List ForwardedSignal) (listening : Bool) (world : World),
      surroundings.remaining world < bound →
      ∃ (turns : List Call) (last : Bool) (final : Occurrence) (after : World),
        Watched surroundings args pid earlier listening world turns last final after := by
  induction bound with
  | zero =>
      intro earlier listening world impossible
      exact absurd impossible (Nat.not_lt_zero _)
  | succ bound ih =>
      intro earlier listening world within
      have lower := surroundings.next_lt listening world
      rcases happened : surroundings.next listening world with ⟨occurrence, middle⟩
      rw [happened] at lower
      cases occurrence with
      | exited status => exact ⟨_, _, _, _, watched_of_exited args pid earlier happened⟩
      | waitFailed fault => exact ⟨_, _, _, _, watched_of_waitFailed args pid earlier happened⟩
      | sourceClosed =>
          have less : surroundings.remaining middle < surroundings.remaining world := lower rfl
          have fewer : surroundings.remaining middle < bound := by omega
          obtain ⟨turns, last, final, after, later⟩ := ih earlier false middle fewer
          exact ⟨_, last, final, after, later.sourceClosed happened⟩
      | received signal =>
          have less : surroundings.remaining middle < surroundings.remaining world := lower rfl
          rcases delivered : surroundings.send signal middle with ⟨delivery, reached⟩
          have notMore := surroundings.send_le signal middle
          rw [delivered] at notMore
          change surroundings.remaining reached ≤ surroundings.remaining middle at notMore
          have fewer : surroundings.remaining reached < bound := by omega
          obtain ⟨turns, last, final, after, later⟩ := ih (earlier ++ [signal]) listening reached fewer
          exact ⟨_, last, final, after, later.received happened delivered⟩

/-- A supervision whose launch succeeds, recorded: recording changes nothing, there is one launch, and after
it turns that go on until the wait ends. -/
theorem superviseWithCore_recorded (surroundings : Surroundings World) (program : Bytes)
    (args : List Bytes) (pid : Option Nat) (world : World)
    (launched : (surroundings.launch program args world).1 = .ok pid) :
    ∃ (turns : List Call) (last : Bool) (final : Occurrence) (after : World),
      Turns true turns last ∧ final.isPassing = false ∧
      superviseWithCore surroundings.recorded program args (world, []) =
        (resultOf args pid (Call.signalsSent turns) final, after,
          .launched program args :: (turns ++ [.awaited last final])) ∧
      superviseWithCore surroundings program args world =
        (resultOf args pid (Call.signalsSent turns) final, after) := by
  rcases started : surroundings.launch program args world with ⟨result, reached⟩
  rw [started] at launched
  change result = .ok pid at launched
  subst launched
  have noted : surroundings.recorded.launch program args (world, []) =
      (.ok pid, reached, [.launched program args]) := by
    simp only [Surroundings.recorded, started, List.nil_append]
  obtain ⟨turns, last, final, after, watched⟩ :=
    exists_watched surroundings args pid (surroundings.remaining reached + 1) [] true reached
      (Nat.lt_succ_self _)
  refine ⟨turns, last, final, after, watched.goesOn, watched.ended, ?_, ?_⟩
  · simp only [superviseWithCore, noted]
    exact watched.recordedRun [.launched program args]
  · simp only [superviseWithCore, started]
    exact watched.plainRun

/-- A launch that fails is the last thing that a supervision does. -/
theorem superviseWithCore_recorded_of_fault {surroundings : Surroundings World} {program : Bytes}
    {args : List Bytes} {world : World} {fault : IoFault}
    (failed : (surroundings.launch program args world).1 = .error fault) :
    superviseWithCore surroundings.recorded program args (world, []) =
      (.error (.launchFailed (Utf8.decodeLossy program) none fault),
        (surroundings.launch program args world).2, [.launched program args]) := by
  rcases started : surroundings.launch program args world with ⟨result, reached⟩
  rw [started] at failed
  change result = .error fault at failed
  subst failed
  have noted : surroundings.recorded.launch program args (world, []) =
      (.error fault, reached, [.launched program args]) := by
    simp only [Surroundings.recorded, started, List.nil_append]
  simp only [superviseWithCore, noted]

/-- What a supervision with a successful launch did and returned, told by the record of its calls. -/
structure Supervised (program : Bytes) (args : List Bytes) (pid : Option Nat)
    (result : Except LauncherError (Termination × Core)) (calls : List Call) : Prop where
  launchedOnce : Call.launches calls = [(program, args)]
  /-- Every signal that came was sent on, in order, whatever became of those before it. -/
  sentInOrder : Call.signalsSent calls = Call.signalsHeard calls
  sentAtOnce : ∀ (before : List Call) (asking : Bool) (occurrence : Occurrence) (rest : List Call),
    calls = before ++ .awaited asking occurrence :: rest →
    Call.signalsSent before = Call.signalsHeard before
  askedUntilClosed : ∀ (before : List Call) (asking : Bool) (occurrence : Occurrence) (rest : List Call),
    calls = before ++ .awaited asking occurrence :: rest →
    (asking = true ↔ .sourceClosed ∉ Call.occurrences before)
  waitedToTheEnd : ∀ (before : List Call) (asking : Bool) (occurrence : Occurrence) (rest : List Call),
    calls = before ++ .awaited asking occurrence :: rest →
    (rest = [] ↔ occurrence.isPassing = false)
  /-- The last call was a wait. The child's end in it decides the result, which holds the core's run over all
  that was heard; a failure of the wait is passed on. -/
  decidedByLastWait : ∃ (earlier : List Call) (asking : Bool) (final : Occurrence),
    calls = earlier ++ [.awaited asking final] ∧
    ((∃ status core,
        final = .exited status ∧ result = .ok (.ofStatus status, core) ∧
        core.forwarded = Call.signalsSent calls ∧
        core = ((Core.start args).steps
          (.launched pid :: (Call.occurrences calls).filterMap Occurrence.event?)).1) ∨
      ∃ fault, final = .waitFailed fault ∧ result = .error (.io fault))

/-- The record of one launch, turns that go on and the end of the wait is that of a proper supervision. -/
theorem supervised_of_turns (program : Bytes) (args : List Bytes) (pid : Option Nat) {turns : List Call}
    {last : Bool} {final : Occurrence} (goesOn : Turns true turns last)
    (ended : final.isPassing = false) :
    Supervised program args pid (resultOf args pid (Call.signalsSent turns) final)
      (.launched program args :: (turns ++ [.awaited last final])) := by
  have sent : Call.signalsSent (.launched program args :: (turns ++ [.awaited last final])) =
      Call.signalsSent turns := by simp
  have unsignalled : final.signal? = none := by
    cases final with
    | received signal => cases ended
    | sourceClosed => rfl
    | exited status => rfl
    | waitFailed fault => rfl
  have wait (before : List Call) (asking : Bool) (occurrence : Occurrence) (rest : List Call)
      (split : .launched program args :: (turns ++ [.awaited last final]) =
        before ++ .awaited asking occurrence :: rest) :
      Call.signalsSent before = Call.signalsHeard before ∧
      (asking = true ↔ .sourceClosed ∉ Call.occurrences before) ∧
      (rest = [] ↔ occurrence.isPassing = false) := by
    cases before with
    | nil => cases (List.cons.inj split).1
    | cons first before =>
        obtain ⟨rfl, others⟩ := List.cons.inj split
        obtain ⟨prompt, asked, onward⟩ := goesOn.at_each_wait ended before asking occurrence rest others
        exact ⟨prompt, by simpa using asked, onward⟩
  constructor
  case launchedOnce =>
    have silent := goesOn.launches_eq_nil
    simp only [Call.launches] at silent ⊢
    change (program, args) :: (turns ++ [Call.awaited last final]).filterMap Call.launch? = _
    rw [List.filterMap_append, silent]
    rfl
  case sentInOrder =>
    rw [sent, goesOn.signalsSent_eq]
    simp [Call.signalsHeard, unsignalled]
  case sentAtOnce =>
    intro before asking occurrence rest split
    exact (wait before asking occurrence rest split).1
  case askedUntilClosed =>
    intro before asking occurrence rest split
    exact (wait before asking occurrence rest split).2.1
  case waitedToTheEnd =>
    intro before asking occurrence rest split
    exact (wait before asking occurrence rest split).2.2
  case decidedByLastWait =>
    refine ⟨.launched program args :: turns, last, final, rfl, ?_⟩
    cases final with
    | received signal => cases ended
    | sourceClosed => cases ended
    | waitFailed fault => exact .inr ⟨fault, rfl, rfl⟩
    | exited status =>
        have life := Core.steps_running args pid []
          ((Call.signalsSent turns).map .signalReceived ++ [.childExited status])
        rw [Course.signalsBeforeEnding_map_append, Course.firstEnding?_map_append, List.nil_append] at life
        refine .inl ⟨status, _, rfl, rfl, sent.symm, ?_⟩
        rw [Call.occurrences_launched, Call.occurrences_append, List.filterMap_append, goesOn.events_eq]
        exact (congrArg Prod.fst life).symm

/-- Under every schedule, a supervision whose launch succeeds launches its program once, sends every signal on
before it waits again, asks the source of signals only until that has closed, and returns when the wait ends,
as that end says; nothing else is ever returned. Recording it changes nothing. -/
theorem superviseWithCore_under_every_schedule (surroundings : Surroundings World) (program : Bytes)
    (args : List Bytes) (pid : Option Nat) (world : World)
    (launched : (surroundings.launch program args world).1 = .ok pid) :
    ∃ (result : Except LauncherError (Termination × Core)) (after : World) (calls : List Call),
      superviseWithCore surroundings program args world = (result, after) ∧
      superviseWithCore surroundings.recorded program args (world, []) = (result, after, calls) ∧
      Supervised program args pid result calls := by
  obtain ⟨turns, last, final, after, goesOn, ended, recordedRun, plainRun⟩ :=
    superviseWithCore_recorded surroundings program args pid world launched
  exact ⟨_, after, _, plainRun, recordedRun, supervised_of_turns program args pid goesOn ended⟩

/-- Two signals come before the source closes; the first cannot be delivered, and the second does not stop the
child, which a later signal kills although it has left a code. -/
def stubbornChild : Rehearsal.Script where
  coming := [.received .interrupt, .received .terminate, .sourceClosed,
    .exited { code := some 3, signal := some 9 }]
  reactions := [.fail (.bare .notFound), .ignore]
  pid := some 7

theorem superviseWithCore_stubbornChild :
    (Rehearsal.Script.surroundings.launch (Utf8.encode "java") [] stubbornChild).1 = .ok (some 7) ∧
    ∃ (result : Except LauncherError (Termination × Core)) (after : Rehearsal.Script) (calls : List Call),
      superviseWithCore Rehearsal.Script.surroundings (Utf8.encode "java") [] stubbornChild =
        (result, after) ∧
      superviseWithCore Rehearsal.Script.surroundings.recorded (Utf8.encode "java") []
        (stubbornChild, []) = (result, after, calls) ∧
      Supervised (Utf8.encode "java") [] (some 7) result calls :=
  ⟨rfl, superviseWithCore_under_every_schedule _ _ _ _ _ rfl⟩

end JarLauncher.Supervision
