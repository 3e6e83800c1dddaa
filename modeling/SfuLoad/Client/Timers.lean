import SfuLoad.Client.Commands
import SfuLoad.Kit.Histories

/-!
# The timers of the protocol core

The core arms and disarms its timers through commands. A peer fires one at a time: the
one with the least delay, which is armed when it fires.
-/

namespace SfuLoad.Client.Protocol

open Kit Kit.Runs Kit.Histories

variable {Core Request Kind Slot : Type}

/-- What an event does to a timer: it arms it, or disarms it by firing or cancelling it. -/
def timerEffect (id : Nat) : Event Request Kind Slot → Option (Option Nat)
  | .called (.timer other) _ => if other = id then some none else none
  | .called _ _ => none
  | .executed command =>
    match command.arms, command.disarms with
    | some (other, ms), _ => if other = id then some (some ms) else none
    | none, some other => if other = id then some none else none
    | none, none => none
  | .asked _ _ _ _ => none

/-- The delay with which a timer is armed. -/
def armed (events : List (Event Request Kind Slot)) (id : Nat) : Option Nat :=
  latest (timerEffect id) events

/-- A timer that fires is armed, none that is armed has a lesser delay, and none with the
same delay a lesser id. -/
def FiresLeast (before : List (Event Request Kind Slot)) (event : Event Request Kind Slot) :
    Prop :=
  ∀ id commands, event = .called (.timer id) commands →
    ∃ ms, armed before id = some ms ∧
      ∀ other held, armed before other = some held → ms ≤ held ∧ (held = ms → id ≤ other)

/-- The peer's timers are those that are armed, and each that fired was due. -/
structure Timed (timers : Table Nat Nat) (events : List (Event Request Kind Slot)) : Prop where
  holds : ∀ id ms, timers.Holds id ms ↔ armed events id = some ms
  fired : Lawful FiresLeast events

section Timers

variable {timers : Table Nat Nat} {events : List (Event Request Kind Slot)}

/-- An event that touches no timer. -/
theorem Timed.silent (timed : Timed timers events) {event : Event Request Kind Slot}
    (untouched : ∀ id, timerEffect id event = none) : Timed timers (events ++ [event]) where
  holds id ms := by
    rw [armed, latest_concat, untouched id]
    exact timed.holds id ms
  fired := by
    refine timed.fired.concat (fun id commands same => ?_)
    have fires := untouched id
    rw [same, timerEffect, if_pos rfl] at fires
    cases fires

/-- Arming a timer puts it into the table, as its command says. -/
theorem Timed.arms (timed : Timed timers events) {command : Command Request Kind Slot}
    {id ms : Nat} (arms : command.arms = some (id, ms)) :
    Timed (timers.insert id ms) (events ++ [.executed command]) where
  holds other held := by
    rw [Table.holds_insert, armed, latest_concat, timerEffect, arms]
    by_cases same : id = other
    · simp [same, eq_comm]
    · simp [same, Ne.symm same, timed.holds, armed]
  fired := timed.fired.concat (fun _ _ same => by cases same)

/-- Disarming one takes it out of the table. -/
theorem Timed.disarms (timed : Timed timers events) {event : Event Request Kind Slot} {id : Nat}
    (touched : ∀ other, timerEffect other event = if id = other then some none else none)
    (due : FiresLeast events event) : Timed (timers.erase id) (events ++ [event]) where
  holds other held := by
    rw [Table.holds_erase, armed, latest_concat, touched]
    by_cases same : id = other
    · simp [same]
    · simp [same, Ne.symm same, timed.holds, armed]
  fired := timed.fired.concat due

/-- The least entry of the table is due. -/
theorem Timed.due (timed : Timed timers events) {id ms : Nat}
    (least : timers.least = some (id, ms)) (commands : List (Command Request Kind Slot)) :
    FiresLeast events (.called (.timer id) commands) := by
  intro other issued same
  cases same
  obtain ⟨held, minimal⟩ := Table.least_eq_some least
  refine ⟨ms, (timed.holds id ms).mp held, fun other delay delayed => ?_⟩
  exact minimal other delay ((timed.holds other delay).mpr delayed)

end Timers

/-- The calls an operation starts with touch no timer. -/
theorem timerEffect_of_isEntry {call : Call Request Kind} (entry : call.isEntry = true)
    (commands : List (Command Request Kind Slot)) (id : Nat) :
    timerEffect id (.called call commands) = none := by
  cases call <;> first | rfl | cases entry

/-- A command that the socket alone executes touches none. -/
theorem timerEffect_of_plain {command : Command Request Kind Slot}
    (plain : command.isPlain = true) (id : Nat) :
    timerEffect id (.executed command : Event Request Kind Slot) = none := by
  cases command <;> first | rfl | cases plain

/-- A disarming command touches its own timer and no other. -/
theorem timerEffect_of_disarms {command : Command Request Kind Slot} {id : Nat}
    (disarms : command.disarms = some id) (other : Nat) :
    timerEffect other (.executed command : Event Request Kind Slot) =
      if id = other then some none else none := by
  cases command with
  | cancelTimer same | completePendingRequest same =>
    obtain rfl := Option.some.inj disarms
    rfl
  | _ => cases disarms

namespace Peer

variable {core : ProtocolCore Core Request Kind Slot} {peer next : Peer Core Request Kind Slot}

/-- A sleeping peer waits for the least of its timers. -/
def Sleeps (peer : Peer Core Request Kind Slot) : Prop :=
  ∀ id, peer.activity = .sleeping id → ∃ ms, peer.timers.least = some (id, ms)

/-- Every move keeps the table of timers what the record says of it. -/
theorem moves_timed (moves : Moves core peer next) (sleeps : peer.Sleeps)
    (timed : Timed peer.timers peer.events) : Timed next.timers next.events := by
  cases moves with
  | fails program error => exact timed
  | turns program activity turned => exact timed
  | begins program call entry idle first => exact timed.silent (timerEffect_of_isEntry entry _)
  | hears payload expectedCount reading => exact timed.silent (fun _ => rfl)
  | fires id sleeping =>
    obtain ⟨ms, least⟩ := sleeps id sleeping
    exact timed.disarms (fun other => rfl) (timed.due least _)
  | executes command runs plain => exact timed.silent (timerEffect_of_plain plain)
  | opens command runs plain =>
    exact (timed.silent (timerEffect_of_plain plain)).silent (fun _ => rfl)
  | closes runs => exact timed.silent (fun _ => rfl)
  | schedules command runs id ms arms => exact timed.arms arms
  | cancels command runs id disarms =>
    exact timed.disarms (timerEffect_of_disarms disarms) (fun _ _ same => by cases same)
  | unanswered kind sdp uploadSlots rtc error bound rebound stands =>
    obtain ⟨events, -, timers, -⟩ := rebound_same rebound
    simp only [record, fail, events, timers]
    exact timed.silent (fun _ => rfl)
  | negotiates requestId kind sdp uploadSlots runs rtc bound rebound stands answer =>
    obtain ⟨events, -, timers, -⟩ := rebound_same rebound
    simp only [Peer.call, executed, record, events, timers]
    exact ((timed.silent (fun _ => rfl)).silent (fun _ => rfl)).silent (fun _ => rfl)

/-- And a peer that sleeps does so for a timer of least delay. -/
theorem moves_sleeps (moves : Moves core peer next)
    (settled : peer.activity.waits = true → peer.pending = []) : next.Sleeps := by
  have awake {other : Peer Core Request Kind Slot} (busy : other.activity.waits = false) :
      other.Sleeps := by
    intro id sleeping
    rw [sleeping] at busy
    cases busy
  cases moves with
  | turns program activity turned =>
    rintro id (rfl : activity = .sleeping id)
    cases turned with
    | sleeps program id ms idle first least => exact ⟨ms, least⟩
  | fails | begins | hears | fires | unanswered => exact awake rfl
  | executes command runs | opens command runs | closes runs | schedules command runs
  | cancels command runs => exact awake (runs.busy settled)
  | negotiates requestId kind sdp uploadSlots runs rtc bound rebound =>
    obtain ⟨-, -, -, -, same⟩ := rebound_same rebound
    exact awake (same ▸ runs.busy settled)

/-- In every run a timer fires only while it is armed, so once for each time the core
armed it and never after the core cancelled it; and it is the one with the least delay,
of several such the one with the least id. -/
theorem timers_fire_least [DecidableEq Kind] {url jwt roomId : String} {actions : List Action}
    (ran : run (step core) (new core url jwt roomId) actions = some peer) (id : Nat)
    (before after : List (Event Request Kind Slot)) (commands : List (Command Request Kind Slot))
    (fired : peer.events = before ++ .called (.timer id) commands :: after) :
    ∃ ms, armed before id = some ms ∧
      ∀ other held, armed before other = some held → ms ≤ held ∧ (held = ms → id ≤ other) := by
  have invariant : (peer.activity.waits = true → peer.pending = []) ∧ peer.Sleeps ∧
      Timed peer.timers peer.events := by
    refine run_keeps_moves (fun peer => (peer.activity.waits = true → peer.pending = []) ∧
      peer.Sleeps ∧ Timed peer.timers peer.events) ran ?_ (fun _ _ holds => holds) ?_
    · refine ⟨fun _ => rfl, fun id sleeping => (by cases sleeping), ?_, lawful_nil FiresLeast⟩
      intro id ms
      simp [new, armed]
    · rintro peer next moves ⟨settled, sleeps, timed⟩
      exact ⟨moves_settled moves settled, moves_sleeps moves settled,
        moves_timed moves sleeps timed⟩
  exact invariant.2.2.fired before _ after fired id commands rfl

/-- In the exchange above the first timer to fire is 3, and none armed then has a smaller
delay. -/
theorem timers_fire_least_exchange :
    ∃ ms, armed (exchanged.events.take 14) 3 = some ms ∧
      ∀ other held, armed (exchanged.events.take 14) other = some held →
        ms ≤ held ∧ (held = ms → 3 ≤ other) := by
  have ran : run (step sample) (new sample "url" "jwt" "room") exchange = some exchanged := rfl
  exact timers_fire_least ran 3 (exchanged.events.take 14) (exchanged.events.drop 15)
    [.sendWebSocket "batch"] rfl

end Peer

end SfuLoad.Client.Protocol
