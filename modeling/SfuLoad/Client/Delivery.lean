import SfuLoad.Client.LoadMoves

/-!
# What a closed load peer has delivered

Payloads get lost only between the RTC peer and the ledger, when a dropped read held one,
and that takes a task that has ended early. So a load peer that closes has given its
ledger all payloads in the order of their arrival, except those that no read has taken.
-/

namespace SfuLoad.Client.LoadPeer

open Identity Kit.Fallible Kit.Runs Ledger Model
open Protocol (Message)

/-- The payload of a ping. -/
def pinged : Message → Option (List UInt8)
  | .ping payload => some payload
  | _ => none

/-- A message that does not end the task. -/
def isCalm : Message → Bool
  | .text _ => true
  | .ping _ => true
  | .pong => true
  | _ => false

namespace SignalingTask

/-- The task has read nothing that ends it, and has answered every ping in order. -/
def Served (self : SignalingTask) : Prop :=
  (∀ message ∈ self.heard, isCalm message = true) ∧ self.ponged = self.heard.filterMap pinged

/-- The task has not failed. -/
def sound (self : SignalingTask) : Bool :=
  match self.stage with
  | .serving => true
  | .closing => true
  | .ended (.ok (.ok ())) => true
  | .ended _ => false

variable {self : SignalingTask}

/-- A task is sound in ending when it ends without an error. -/
@[simp] theorem sound_stop (result : Except Fault Unit) :
    (self.stop result).sound = true ↔ result = .ok () := by
  cases result <;> simp [stop, sound]

/-- A message that leaves the task sound was answered, and the task serves on. -/
theorem Served.hear (served : self.Served) (serving : self.stage = .serving)
    {message : Except Fault (Option Message)} {pong : Except Fault Unit}
    (sound : (self.hear message pong).sound = true) :
    (self.hear message pong).Served ∧ (self.hear message pong).stage = .serving := by
  obtain ⟨calm, answered⟩ := served
  unfold SignalingTask.hear at sound ⊢
  split at sound
  case h_1 | h_2 => simp at sound
  case h_3 message =>
    have appended (same : isCalm message = true) :
        ∀ other ∈ self.heard ++ [message], isCalm other = true := by
      intro other member
      rcases List.mem_append.mp member with before | last
      · exact calm other before
      · exact List.mem_singleton.mp last ▸ same
    cases message with
    | text payload | pong => exact ⟨⟨appended rfl, by simp [answered, pinged]⟩, serving⟩
    | ping payload =>
      cases pong with
      | error error => simp at sound
      | ok => exact ⟨⟨appended rfl, by simp [answered, pinged]⟩, serving⟩
    | binary | close | frame => simp at sound

end SignalingTask

namespace State

variable {self next : State}

/-- The payload that a read has taken and not yet returned. -/
def inHand (self : State) : List Payload :=
  match self.activity with
  | .checking _ (some answer) => answer.payloads
  | _ => []

/-- The payloads that are somewhere, in the order of their arrival. -/
def present (self : State) : List Payload := self.seen ++ self.inHand ++ self.pendingRtp

/-- One payload is missing in a list. -/
def Missing (arrived present : List Payload) : Prop :=
  ∃ before lost after, arrived = before ++ lost :: after ∧ present = before ++ after

/-- No payload is missing, or one is and the handle on the task has been lost with it. A
payload is in hand only while the handle is gone. -/
structure Conserved (streams : List ExpectedStream) (state : State) : Prop where
  ledger : state.ledger = (PacketLedger.new streams).observeAll state.seen
  kept : state.arrived = state.present ∨
    state.signalingTask = false ∧ state.activity ≠ .closing ∧ state.activity ≠ .closed ∧
      Missing state.arrived state.present
  held : state.inHand ≠ [] → state.signalingTask = false ∧ state.arrived = state.present

variable {streams : List ExpectedStream}

/-- At its checks an operation holds no payload. -/
theorem inHand_of_isPassing (passing : self.activity.isPassing = true) : self.inHand = [] := by
  unfold inHand
  split
  case h_1 operation answer checking =>
    rw [checking] at passing
    cases passing
  case h_2 => rfl

/-- And it never holds more than one. -/
theorem inHand_single : self.inHand = [] ∨ ∃ payload, self.inHand = [payload] := by
  unfold inHand
  split
  case h_1 operation answer checking =>
    unfold Answer.payloads
    split
    · exact .inr ⟨_, rfl⟩
    · exact .inl rfl
  case h_2 => exact .inl rfl

/-- Payloads that arrive stand behind those that arrived before. -/
theorem Conserved.receives (conserved : Conserved streams self) (payloads : List Payload) :
    Conserved streams (self.receive payloads) := by
  have grown : (self.receive payloads).present = self.present ++ payloads :=
    (List.append_assoc _ _ _).symm
  refine ⟨conserved.ledger, ?_, fun holds => ?_⟩
  · rw [grown]
    rcases conserved.kept with all | ⟨gone, notClosing, notClosed, before, lost, after, arrived, rest⟩
    · exact .inl (congrArg (· ++ payloads) all)
    · refine .inr ⟨gone, notClosing, notClosed, before, lost, after ++ payloads, ?_, ?_⟩
      · simp [receive, arrived]
      · simp [rest]
  · obtain ⟨gone, all⟩ := conserved.held holds
    exact ⟨gone, grown ▸ congrArg (· ++ payloads) all⟩

/-- An owner that turns to something else drops the payload it had in hand. -/
theorem Conserved.drops (conserved : Conserved streams self) {activity : Activity}
    (empty : { self with activity := activity }.inHand = [])
    (notClosing : activity ≠ .closing) (notClosed : activity ≠ .closed) :
    Conserved streams { self with activity := activity } := by
  refine ⟨conserved.ledger, ?_, fun holds => absurd empty holds⟩
  rw [present, empty]
  have single : self.inHand = [] ∨ ∃ payload, self.inHand = [payload] := inHand_single
  rcases single with nothing | ⟨payload, single⟩
  · rcases conserved.kept with all | ⟨gone, -, -, missing⟩
    · rw [present, nothing] at all
      exact .inl all
    · rw [present, nothing] at missing
      exact .inr ⟨gone, notClosing, notClosed, missing⟩
  · obtain ⟨gone, all⟩ := conserved.held (by simp [single])
    rw [present, single] at all
    refine .inr ⟨gone, notClosing, notClosed, self.seen, payload, self.pendingRtp, ?_, by simp⟩
    simpa using all

/-- No move loses a payload but by dropping a read that held one. -/
theorem moves_conserved (moves : Moves self next) (conserved : Conserved streams self) :
    Conserved streams next := by
  cases moves with
  | serves task moved => exact ⟨conserved.ledger, conserved.kept, conserved.held⟩
  | turns activity passing live =>
    refine conserved.drops (inHand_of_isPassing passing) ?_ ?_ <;>
      (rintro rfl; cases passing)
  | fails error running =>
    exact conserved.drops rfl (fun same => by cases same) (fun same => by cases same)
  | checks operation answer passing empty =>
    have nothing := inHand_of_isPassing passing
    have still : { self with
        signalingTask := false
        activity := .checking operation answer }.inHand = [] := by
      cases answer with
      | none => rfl
      | some answer => exact empty
    refine ⟨conserved.ledger, ?_, fun holds => absurd still holds⟩
    have kept := conserved.kept
    rw [present, nothing] at kept
    rw [present, still]
    refine kept.imp_right (fun missing => ⟨rfl, ?_, ?_, missing.2.2.2⟩) <;> (intro same; cases same)
  | takes operation payload rest passing pending handle =>
    have whole : self.arrived = self.seen ++ [payload] ++ rest := by
      rcases conserved.kept with all | ⟨gone, -⟩
      · simpa [present, inHand_of_isPassing passing, pending] using all
      · rw [handle] at gone
        cases gone
    exact ⟨conserved.ledger, .inl whole, fun _ => ⟨rfl, whole⟩⟩
  | gives payload rest passing pending =>
    have kept := conserved.kept
    rw [present, inHand_of_isPassing passing, pending] at kept
    refine ⟨?_, ?_, fun holds => absurd rfl holds⟩
    · simp [give, conserved.ledger, PacketLedger.observeAll, List.foldl_append]
    · rcases kept with all | ⟨gone, -, -, missing⟩
      · exact .inl (by simpa [give, present, inHand] using all)
      · refine .inr ⟨gone, fun same => (by cases same), fun same => (by cases same), ?_⟩
        simpa [give, present, inHand] using missing
  | closes idle handle =>
    refine ⟨conserved.ledger, .inl ?_, fun holds => absurd rfl holds⟩
    rcases conserved.kept with all | ⟨gone, -⟩
    · simpa [present, inHand, idle] using all
    · rw [handle] at gone
      cases gone
  | orphaned error idle =>
    have failed : Conserved streams { self with activity := .failed error } :=
      conserved.drops rfl (fun same => by cases same) (fun same => by cases same)
    exact ⟨failed.ledger, failed.kept, failed.held⟩
  | closed closing ended =>
    refine ⟨conserved.ledger, .inl ?_, fun holds => absurd rfl holds⟩
    rcases conserved.kept with all | ⟨-, notClosing, -⟩
    · simpa [present, inHand, closing] using all
    · exact absurd closing notClosing

/-- The task stops only once it has been told to, and what it has heard is served. -/
structure Told (state : State) : Prop where
  told : state.signalingShutdown = false → state.activity.isOver = true
  served : state.task.sound = true →
    state.task.Served ∧ (state.task.stage = .serving ∨ state.holdsShutdown = false)
  closed : state.activity = .closed → state.task.stage = .ended (.ok (.ok ()))

/-- Until the owner is over, it holds the shutdown as long as it has not given it up itself. -/
theorem holdsShutdown_of_live (live : self.activity.isOver = false) :
    self.holdsShutdown = self.signalingShutdown := by
  unfold holdsShutdown
  split
  case h_1 failed =>
    rw [failed] at live
    cases live
  case h_2 => rfl

/-- An operation at its checks has not ended. -/
theorem isOver_of_isPassing {activity : Activity} (passing : activity.isPassing = true) :
    activity.isOver = false := by
  cases activity <;> first | rfl | cases passing

/-- A sound task still serves, or was told to stop. -/
theorem Told.served_after (told : Told self) (task : next.task = self.task)
    (kept : self.holdsShutdown = false → next.holdsShutdown = false)
    (sound : next.task.sound = true) :
    next.task.Served ∧ (next.task.stage = .serving ∨ next.holdsShutdown = false) := by
  rw [task] at sound ⊢
  obtain ⟨served, stopped⟩ := told.served sound
  exact ⟨served, stopped.imp_right kept⟩

/-- A step of the task keeps what it was told. -/
theorem told_serves (told : Told self) {task : SignalingTask}
    (moved : self.task.Moves self.holdsShutdown task) : Told { self with task := task } := by
  have running (closed : self.activity = .closed) : False := by
    have ended := told.closed closed
    cases moved with
    | hears message pong serving => cases ended.symm.trans serving
    | notices serving _ => cases ended.symm.trans serving
    | closes io closing => cases ended.symm.trans closing
    | aborts error running => rw [SignalingTask.finished, ended] at running; cases running
  refine ⟨told.told, fun sound => ?_, fun closed => (running closed).elim⟩
  cases moved with
  | hears message pong serving =>
    have before := (told.served (by rw [SignalingTask.sound, serving])).1
    obtain ⟨served, still⟩ := before.hear serving sound
    exact ⟨served, .inl still⟩
  | notices serving given =>
    exact ⟨(told.served (by rw [SignalingTask.sound, serving])).1, .inr given⟩
  | closes io closing =>
    obtain ⟨served, stopped⟩ := told.served (by rw [SignalingTask.sound, closing])
    refine ⟨served, .inr (stopped.resolve_left ?_)⟩
    rw [closing]
    exact fun same => by cases same
  | aborts error => cases sound

/-- So does every move. -/
theorem moves_told (moves : Moves self next) (told : Told self) : Told next := by
  cases moves with
  | serves task moved => exact told_serves told moved
  | turns activity passing live =>
    refine ⟨fun given => ?_, told.served_after rfl fun given => ?_, ?_⟩
    · rw [told.told given] at live
      cases live
    · rw [holdsShutdown_of_live live] at given
      exact (holdsShutdown_of_live (isOver_of_isPassing passing)).trans given
    · rintro rfl
      cases passing
  | fails error running =>
    exact ⟨fun _ => rfl, told.served_after rfl (fun _ => rfl), fun same => by cases same⟩
  | checks operation answer passing empty =>
    have live := isOver_of_isPassing passing
    refine ⟨fun given => ?_, told.served_after rfl fun given => ?_, fun same => by cases same⟩
    · rw [told.told given] at live
      cases live
    · exact holdsShutdown_of_live live ▸ given
  | takes operation payload rest passing pending handle =>
    have live := isOver_of_isPassing passing
    refine ⟨fun given => ?_, told.served_after rfl fun given => ?_, fun same => by cases same⟩
    · rw [told.told given] at live
      cases live
    · exact holdsShutdown_of_live live ▸ given
  | gives payload rest passing pending =>
    have live := isOver_of_isPassing passing
    refine ⟨fun given => ?_, told.served_after rfl fun given => ?_, fun same => by cases same⟩
    · rw [told.told given] at live
      cases live
    · exact holdsShutdown_of_live live ▸ given
  | closes idle handle =>
    exact ⟨fun _ => rfl, told.served_after rfl (fun _ => rfl), fun same => by cases same⟩
  | orphaned error idle =>
    exact ⟨fun _ => rfl, told.served_after rfl (fun _ => rfl), fun same => by cases same⟩
  | closed closing ended =>
    refine ⟨fun _ => rfl, told.served_after rfl fun given => ?_, fun _ => ended⟩
    rwa [holdsShutdown, closing] at given

/-- What every move keeps and every arrival, every run keeps. -/
theorem run_keeps_moves {invariant : State → Prop}
    (received : ∀ (state : State) (payloads : List Payload), invariant state →
      invariant (state.receive payloads))
    (kept : ∀ {state next : State}, Moves state next → invariant state → invariant next)
    {actions : List Action} (ran : run step self actions = some next)
    (initial : invariant self) : invariant next := by
  refine run_keeps (fun state action after stepped holds => ?_) ran initial
  obtain ⟨payloads, moves⟩ := moves_of_step stepped
  exact kept moves (received state payloads holds)

/-- Along every run the payloads that arrived are accounted for. -/
theorem run_conserved {actions : List Action}
    (ran : run step (initial streams) actions = some self) : Conserved streams self := by
  refine run_keeps_moves (fun _ payloads conserved => conserved.receives payloads)
    moves_conserved ran ⟨rfl, .inl rfl, fun holds => absurd rfl holds⟩

/-- And a sound task has served until it was told to stop. -/
theorem run_told {actions : List Action} (ran : run step (initial streams) actions = some self) :
    Told self := by
  refine run_keeps_moves (fun _ _ told => ⟨told.told, told.served, told.closed⟩) moves_told ran ?_
  refine ⟨fun given => (by cases given), fun _ => ⟨⟨?_, rfl⟩, .inl rfl⟩, fun same => by cases same⟩
  exact fun message member => by cases member

/-- The handle on the task is gone, and not because the load peer is being closed. -/
def Gone (self : State) : Prop :=
  self.signalingTask = false ∧ self.activity ≠ .closing ∧ self.activity ≠ .closed

/-- The task has failed. -/
def Broken (self : State) : Prop :=
  self.task.finished = true ∧ self.task.sound = false ∧ self.activity ≠ .closed

/-- A payload that is gone stays gone. -/
theorem moves_gone (moves : Moves self next) (gone : Gone self) : Gone next := by
  obtain ⟨handle, notClosing, notClosed⟩ := gone
  cases moves with
  | serves task moved => exact ⟨handle, notClosing, notClosed⟩
  | turns activity passing live =>
    exact ⟨handle, fun same => (by cases same; cases passing),
      fun same => (by cases same; cases passing)⟩
  | fails | orphaned => exact ⟨handle, fun same => (by cases same), fun same => (by cases same)⟩
  | checks | takes => exact ⟨rfl, fun same => (by cases same), fun same => (by cases same)⟩
  | gives => exact ⟨handle, fun same => (by cases same), fun same => (by cases same)⟩
  | closes idle present => cases handle.symm.trans present
  | closed closing ended => exact absurd closing notClosing

/-- A task that has ended early stays ended. -/
theorem moves_broken (moves : Moves self next) (broken : Broken self) : Broken next := by
  obtain ⟨finished, unsound, notClosed⟩ := broken
  cases moves with
  | serves task moved =>
    cases moved with
    | hears message pong serving => rw [SignalingTask.finished, serving] at finished; cases finished
    | notices serving told => rw [SignalingTask.finished, serving] at finished; cases finished
    | closes io closing => rw [SignalingTask.finished, closing] at finished; cases finished
    | aborts error running => cases running.symm.trans finished
  | turns activity passing live =>
    exact ⟨finished, unsound, fun same => (by cases same; cases passing)⟩
  | fails | orphaned | checks | takes | gives | closes =>
    exact ⟨finished, unsound, fun same => (by cases same)⟩
  | closed closing ended => rw [SignalingTask.sound, ended] at unsound; cases unsound

/-- A failed owner stays failed. -/
theorem moves_failed (moves : Moves self next) (failed : ∃ error, self.activity = .failed error) :
    ∃ error, next.activity = .failed error := by
  obtain ⟨error, failed⟩ := failed
  cases moves with
  | serves task moved => exact ⟨error, failed⟩
  | turns activity passing live => rw [failed] at live; cases live
  | fails error running => exact ⟨error, rfl⟩
  | checks _ _ passing | takes _ _ _ passing | gives _ _ passing =>
    rw [failed] at passing
    cases passing
  | closes idle | orphaned _ idle => cases failed.symm.trans idle
  | closed closing => cases failed.symm.trans closing

/-- An owner that is over is closing, closed or failed. -/
theorem isOver_cases {activity : Activity} (past : activity.isOver = true) :
    activity = .closing ∨ activity = .closed ∨ ∃ error, activity = .failed error := by
  cases activity with
  | closing => exact .inl rfl
  | closed => exact .inr (.inl rfl)
  | failed error => exact .inr (.inr ⟨error, rfl⟩)
  | _ => cases past

/-- Before a load peer is closed its task has not stopped serving. -/
theorem serving_of_closes {actions : List Action} {final : State} (told : Told self)
    (ran : run step self actions = some final) (closed : final.activity = .closed)
    (notClosing : self.activity ≠ .closing) (notClosed : self.activity ≠ .closed) :
    self.task.stage = .serving := by
  have healthy : ¬∃ error, self.activity = .failed error := by
    intro failed
    obtain ⟨error, still⟩ := run_keeps_moves (fun _ _ holds => holds) moves_failed ran failed
    cases still.symm.trans closed
  by_cases sound : self.task.sound = true
  · refine (told.served sound).2.resolve_right (fun given => ?_)
    unfold holdsShutdown at given
    split at given
    case h_1 error failed => exact healthy ⟨error, failed⟩
    case h_2 =>
      rcases isOver_cases (told.told given) with closing | closed | failed
      · exact notClosing closing
      · exact notClosed closed
      · exact healthy failed
  · have finished : self.task.finished = true := by
      unfold SignalingTask.sound at sound
      unfold SignalingTask.finished
      split at sound <;> simp_all
    have broken : Broken self := ⟨finished, eq_false_of_ne_true sound, notClosed⟩
    have still := run_keeps_moves (fun _ _ holds => holds) moves_broken ran broken
    exact absurd closed still.2.2

/-- When a load peer has been closed, its ledger has been given every payload that had
arrived, once and in order, up to those that still wait to be read. Its task has answered
every ping in order, has heard nothing but texts, pings and pongs, and served the socket
for as long as the load peer was in use. -/
theorem closed_delivers {actions : List Action} {final : State}
    (ran : run step (initial streams) actions = some final) (closed : final.activity = .closed) :
    final.arrived = final.seen ++ final.pendingRtp ∧
      final.ledger = (PacketLedger.new streams).observeAll final.seen ∧
      (∀ message ∈ final.task.heard, isCalm message = true) ∧
      final.task.ponged = final.task.heard.filterMap pinged ∧
      ∀ before after middle, actions = before ++ after →
        run step (initial streams) before = some middle → middle.activity ≠ .closing →
          middle.activity ≠ .closed → middle.task.stage = .serving := by
  have conserved := run_conserved ran
  have told := run_told ran
  have sound : final.task.sound = true := by rw [SignalingTask.sound, told.closed closed]
  obtain ⟨calm, answered⟩ := (told.served sound).1
  refine ⟨?_, conserved.ledger, calm, answered, ?_⟩
  · rcases conserved.kept with all | ⟨-, -, notClosed, -⟩
    · simpa [present, inHand, closed] using all
    · exact absurd closed notClosed
  · rintro before after middle rfl reached notClosing notClosed
    obtain ⟨same, reached', rest⟩ := run_append_eq_some.mp ran
    obtain rfl : middle = same := Option.some.inj (reached.symm.trans reached')
    exact serving_of_closes (run_told reached) rest closed notClosing notClosed

/-- A peer receives two payloads, of which it reads one, answers a ping and closes. -/
def exchange : List Action :=
  [.begin (.read .receiveUntilComplete), .pop, .hear (.ok (some (.ping [7]))) (.ok ()),
    .input [[1], [2]] (.ok ()), .pop, .close, .notice, .closeSocket (.ok ()), .settle]

/-- The peer after the exchange. -/
def exchanged : State := (run step (initial []) exchange).getD (initial [])

/-- The exchange above with its pings, its reads and its close. -/
theorem closed_delivers_exchange :
    exchanged.arrived = exchanged.seen ++ exchanged.pendingRtp ∧
      exchanged.ledger = (PacketLedger.new []).observeAll exchanged.seen ∧
      (∀ message ∈ exchanged.task.heard, isCalm message = true) ∧
      exchanged.task.ponged = exchanged.task.heard.filterMap pinged ∧
      ∀ before after middle, exchange = before ++ after →
        run step (initial []) before = some middle → middle.activity ≠ .closing →
          middle.activity ≠ .closed → middle.task.stage = .serving := by
  have ran : run step (initial []) exchange = some exchanged := rfl
  exact closed_delivers ran rfl

/-- In every run, closed or not, the ledger has been given payloads in the order of their
arrival and none twice. At most one payload is missing from what it was given, what a read
has in hand and what waits, and then the load peer cannot be closed any more. -/
theorem payload_lost_fails {actions : List Action} {state : State}
    (ran : run step (initial streams) actions = some state) :
    state.ledger = (PacketLedger.new streams).observeAll state.seen ∧
      (state.arrived = state.present ∨ Missing state.arrived state.present ∧
        ∀ later final, run step state later = some final → final.activity ≠ .closed) := by
  have conserved := run_conserved ran
  refine ⟨conserved.ledger, conserved.kept.imp_right ?_⟩
  rintro ⟨handle, notClosing, notClosed, missing⟩
  refine ⟨missing, fun later final rest => ?_⟩
  have gone : Gone state := ⟨handle, notClosing, notClosed⟩
  exact (run_keeps_moves (fun _ _ holds => holds) moves_gone rest gone).2.2

/-- A read of `drain_for` is dropped with its payload while it waits for the ended task. -/
def dropped : List Action :=
  [.begin (.read .drainFor), .pop, .input [[1], [2]] (.ok ()), .hear (.ok none) (.ok ()), .pop,
    .cancel []]

/-- The run above: one of its payloads went with the dropped read. -/
theorem payload_lost_fails_dropped :
    ∃ state, run step (initial []) dropped = some state ∧
      state.ledger = (PacketLedger.new []).observeAll state.seen ∧
      (state.arrived = state.present ∨ Missing state.arrived state.present ∧
        ∀ later final, run step state later = some final → final.activity ≠ .closed) := by
  have ran : run step (initial []) dropped =
      some ((run step (initial []) dropped).getD (initial [])) := rfl
  exact ⟨_, ran, payload_lost_fails ran⟩

end State

end SfuLoad.Client.LoadPeer
