import SfuLoad.Client.LoadPeer

/-!
# The steps of a load peer

Every step is one of a few moves of the task or of the owner, with what arrived at the RTC
peer before it.
-/

namespace SfuLoad.Client.LoadPeer

open Identity Model
open Protocol (Message)

/-- The owner is on its way from one operation to the next, with no payload in hand. -/
def Activity.isPassing : Activity → Bool
  | .idle => true
  | .sending => true
  | .popping _ => true
  | .waiting _ => true
  | _ => false

/-- The owner has begun to close the load peer, or has lost it. -/
def Activity.isOver : Activity → Bool
  | .closing => true
  | .closed => true
  | .failed _ => true
  | _ => false

/-- An answer that brings a payload. -/
def Answer.payloads : Answer → List Payload
  | .read (some payload) => [payload]
  | _ => []

/-- What the task can become in one step. -/
inductive SignalingTask.Moves (self : SignalingTask) (holdsShutdown : Bool) :
    SignalingTask → Prop where
  | hears (message : Except Fault (Option Message)) (pong : Except Fault Unit)
      (serving : self.stage = .serving) : Moves self holdsShutdown (self.hear message pong)
  | notices (serving : self.stage = .serving) (told : holdsShutdown = false) :
      Moves self holdsShutdown { self with stage := .closing }
  | closes (io : Except Fault Unit) (closing : self.stage = .closing) :
      Moves self holdsShutdown (self.closeSocket io)
  | aborts (error : Fault) (running : self.finished = false) :
      Moves self holdsShutdown { self with stage := .ended (.error error) }

namespace State

/-- What a load peer can become in one step, after some payloads have arrived. -/
inductive Moves (self : State) : State → Prop where
  | serves (task : SignalingTask) (moved : self.task.Moves self.holdsShutdown task) :
      Moves self { self with task := task }
  | turns (activity : Activity) (passing : activity.isPassing = true)
      (live : self.activity.isOver = false) : Moves self { self with activity := activity }
  | fails (error : Fault) (running : self.activity ≠ .closed) : Moves self (self.fail error)
  | checks (operation : Operation) (answer : Option Answer) (passing : self.activity.isPassing = true)
      (empty : answer.elim [] Answer.payloads = []) :
      Moves self { self with signalingTask := false, activity := .checking operation answer }
  | takes (operation : Operation) (payload : Payload) (rest : List Payload)
      (passing : self.activity.isPassing = true) (pending : self.pendingRtp = payload :: rest)
      (handle : self.signalingTask = true) :
      Moves self { self with
        pendingRtp := rest
        signalingTask := false
        activity := .checking operation (some (.read (some payload))) }
  | gives (payload : Payload) (rest : List Payload) (passing : self.activity.isPassing = true)
      (pending : self.pendingRtp = payload :: rest) :
      Moves self ({ self with pendingRtp := rest }.give (.read (some payload)))
  | closes (idle : self.activity = .idle) (handle : self.signalingTask = true) :
      Moves self { self with
        signalingShutdown := false
        signalingTask := false
        activity := .closing }
  | orphaned (error : Fault) (idle : self.activity = .idle) :
      Moves self ({ self with signalingShutdown := false }.fail error)
  | closed (closing : self.activity = .closing)
      (ended : self.task.stage = .ended (.ok (.ok ()))) :
      Moves self { self with activity := .closed }

variable {self next : State}

/-- Handing the answer over ends the operation, by a last look at the task. -/
theorem moves_finish {operation : Operation} {answer : Answer}
    (passing : self.activity.isPassing = true) (empty : answer.payloads = []) :
    Moves self (self.finish operation answer) := by
  have live : self.activity.isOver = false := by
    cases activity : self.activity <;> first | rfl | (rw [activity] at passing; cases passing)
  unfold finish
  split
  · exact .checks operation (some answer) passing empty
  · unfold give
    split
    case h_1 => cases empty
    case h_2 => exact .turns .idle rfl live

/-- When nothing has arrived, receiving changes nothing. -/
theorem receive_nil : self.receive [] = self := by
  rw [receive, List.append_nil, List.append_nil]

/-- A task that is awaited without error was not stopped and ended well. -/
theorem awaited_eq_ok {outcome : Except Fault (Except Fault Unit)}
    (ended : awaited outcome = .ok ()) : outcome = .ok (.ok ()) := by
  cases outcome with
  | error error => cases ended
  | ok result =>
    cases result with
    | error error => cases ended
    | ok => rfl

/-- A step of the owner, whatever arrived at the RTC peer before. -/
theorem moves_of_step {action : Action} (stepped : self.step action = some next) :
    ∃ payloads, Moves (self.receive payloads) next := by
  cases action with
  | hear message pong =>
    simp only [step, hear] at stepped
    split at stepped
    case h_1 serving =>
      obtain rfl := Option.some.inj stepped
      exact ⟨[], receive_nil ▸ .serves _ (.hears message pong serving)⟩
    case h_2 => cases stepped
  | notice =>
    simp only [step, notice] at stepped
    split at stepped
    case h_2 => cases stepped
    case h_1 serving =>
      split at stepped
      case isTrue => cases stepped
      case isFalse told =>
        obtain rfl := Option.some.inj stepped
        exact ⟨[], receive_nil ▸ .serves _ (.notices serving (eq_false_of_ne_true told))⟩
  | closeSocket io =>
    simp only [step, closeSocket] at stepped
    split at stepped
    case h_1 closing =>
      obtain rfl := Option.some.inj stepped
      exact ⟨[], receive_nil ▸ .serves _ (.closes io closing)⟩
    case h_2 => cases stepped
  | abort error =>
    simp only [step, abort] at stepped
    split at stepped
    case isTrue => cases stepped
    case isFalse running =>
      obtain rfl := Option.some.inj stepped
      exact ⟨[], receive_nil ▸ .serves _ (.aborts error (eq_false_of_ne_true running))⟩
  | begin operation =>
    simp only [step, begin] at stepped
    split at stepped
    case h_2 => cases stepped
    case h_1 idle =>
      obtain rfl := Option.some.inj stepped
      refine ⟨[], receive_nil ▸ ?_⟩
      split
      · exact .checks operation none (by rw [idle]; rfl) rfl
      · cases operation with
        | send => exact .turns .sending rfl (by rw [idle]; rfl)
        | read reader => exact .turns (.popping reader) rfl (by rw [idle]; rfl)
  | sent payloads io =>
    simp only [step, sent] at stepped
    split at stepped
    case h_2 => cases stepped
    case h_1 sending =>
      obtain rfl := Option.some.inj stepped
      refine ⟨payloads, ?_⟩
      cases io with
      | error error => exact .fails error (fun closed => by cases sending.symm.trans closed)
      | ok => exact moves_finish (by rw [receive, sending]; rfl) rfl
  | pop =>
    simp only [step, pop] at stepped
    split at stepped
    case h_2 => cases stepped
    case h_1 reader popping =>
      have passing : self.activity.isPassing = true := by rw [popping]; rfl
      obtain rfl := Option.some.inj stepped
      refine ⟨[], receive_nil ▸ ?_⟩
      split
      case h_2 => exact .turns (.waiting reader) rfl (by rw [popping]; rfl)
      case h_1 payload rest pending =>
        unfold finish
        split
        case isTrue stopped =>
          exact .takes (.read reader) payload rest passing pending
            (Bool.and_eq_true_iff.mp stopped).1
        case isFalse => exact .gives payload rest passing pending
  | input payloads io =>
    simp only [step, input] at stepped
    split at stepped
    case h_2 => cases stepped
    case h_1 reader waiting =>
      obtain rfl := Option.some.inj stepped
      refine ⟨payloads, ?_⟩
      cases io with
      | error error => exact .fails error (fun closed => by cases waiting.symm.trans closed)
      | ok => exact .turns (.popping reader) rfl (by rw [receive, waiting]; rfl)
  | expire payloads =>
    simp only [step, expire] at stepped
    split at stepped
    case h_2 => cases stepped
    case h_1 reader waiting =>
      split at stepped
      case isFalse => cases stepped
      case isTrue =>
        obtain rfl := Option.some.inj stepped
        exact ⟨payloads, moves_finish (by rw [receive, waiting]; rfl) rfl⟩
  | cancel payloads =>
    simp only [step, cancel] at stepped
    split at stepped
    case h_1 waiting =>
      obtain rfl := Option.some.inj stepped
      exact ⟨payloads, .turns .idle rfl (by rw [receive, waiting]; rfl)⟩
    case h_2 operation answer checking =>
      split at stepped
      · obtain rfl := Option.some.inj stepped
        exact ⟨[], receive_nil ▸ .turns .idle rfl (by rw [checking]; rfl)⟩
      · cases stepped
    case h_3 => cases stepped
  | settle =>
    simp only [step, settle] at stepped
    split at stepped
    case h_1 operation answer outcome checking ended =>
      obtain rfl := Option.some.inj stepped
      refine ⟨[], receive_nil ▸ ?_⟩
      split <;> exact .fails _ (fun closed => by cases checking.symm.trans closed)
    case h_2 outcome closing ended =>
      obtain rfl := Option.some.inj stepped
      refine ⟨[], receive_nil ▸ ?_⟩
      split
      case h_1 error _ => exact .fails error (fun closed => by cases closing.symm.trans closed)
      case h_2 succeeded => exact .closed closing (by rw [ended, awaited_eq_ok succeeded])
    case h_3 => cases stepped
  | close =>
    simp only [step, close] at stepped
    split at stepped
    case h_2 => cases stepped
    case h_1 idle =>
      obtain rfl := Option.some.inj stepped
      refine ⟨[], receive_nil ▸ ?_⟩
      split
      case isTrue handle => exact .closes idle handle
      case isFalse => exact .orphaned _ idle
  | leave error =>
    simp only [step, leave] at stepped
    split at stepped
    case h_1 => cases stepped
    case h_2 => cases stepped
    case h_3 notClosed _ =>
      obtain rfl := Option.some.inj stepped
      exact ⟨[], receive_nil ▸ .fails error notClosed⟩

end State

end SfuLoad.Client.LoadPeer
