import SfuLoad.Client.Commands
import SfuLoad.Kit.Histories

/-!
# Which RTC peer answers a negotiation

Only initial offers replace the RTC peer, so that the others keep its connection. Which
one stands is read off the history of the run.
-/

namespace SfuLoad.Client.Protocol

open Kit.Runs Kit.Histories

variable {Core Request Kind Slot : Type}

section Rtc

variable [DecidableEq Kind] (core : ProtocolCore Core Request Kind Slot)

/-- What an event does to the RTC peer: an initial offer replaces it, and it is dropped
when its connection is closed. -/
def rtcEffect : Event Request Kind Slot → Option (Option Nat)
  | .asked rtc kind _ _ => if kind = core.offer then some (some rtc) else none
  | .executed .closePeerConnection => some none
  | _ => none

/-- An initial offer is answered by an RTC peer that has not been asked before, every other
negotiation by the standing one. -/
def AsksStanding (before : List (Event Request Kind Slot)) (event : Event Request Kind Slot) :
    Prop :=
  ∀ rtc kind sdp uploadSlots, event = .asked rtc kind sdp uploadSlots →
    if kind = core.offer then
      ∀ earlier kind sdp uploadSlots, .asked earlier kind sdp uploadSlots ∈ before → earlier < rtc
    else latest (rtcEffect core) before = some rtc

/-- The peer's RTC peer is the standing one, and all that were asked have been bound. -/
structure Seated (rtc : Option Nat) (bound : Nat) (events : List (Event Request Kind Slot)) :
    Prop where
  stands : rtc = latest (rtcEffect core) events
  standsBelow : ∀ standing, rtc = some standing → standing < bound
  below : ∀ earlier kind sdp uploadSlots,
    .asked earlier kind sdp uploadSlots ∈ events → earlier < bound
  asked : Lawful (AsksStanding core) events

variable {core} {rtc : Option Nat} {bound : Nat} {events : List (Event Request Kind Slot)}

/-- An event that does not touch the RTC peer. -/
theorem Seated.silent (seated : Seated core rtc bound events) {event : Event Request Kind Slot}
    (untouched : rtcEffect core event = none)
    (other : ∀ rtc kind sdp uploadSlots, event ≠ .asked rtc kind sdp uploadSlots) :
    Seated core rtc bound (events ++ [event]) where
  stands := by rw [latest_concat, untouched, Option.getD_none, seated.stands]
  standsBelow := seated.standsBelow
  below earlier kind sdp uploadSlots member := by
    rcases List.mem_append.mp member with before | last
    · exact seated.below earlier kind sdp uploadSlots before
    · exact absurd (List.mem_singleton.mp last).symm (other earlier kind sdp uploadSlots)
  asked := seated.asked.concat
    (fun rtc kind sdp uploadSlots same => absurd same (other rtc kind sdp uploadSlots))

/-- After the core has the RTC peer closed, none stands. -/
theorem Seated.closes (seated : Seated core rtc bound events) :
    Seated core none bound (events ++ [.executed .closePeerConnection]) where
  stands := by rw [latest_concat, rtcEffect, Option.getD_some]
  standsBelow _ same := by cases same
  below earlier kind sdp uploadSlots member := by
    rcases List.mem_append.mp member with before | last
    · exact seated.below earlier kind sdp uploadSlots before
    · cases List.mem_singleton.mp last
  asked := seated.asked.concat (fun _ _ _ _ same => by cases same)

/-- An initial offer goes to the RTC peer that has just been bound. -/
theorem Seated.offers (seated : Seated core rtc bound events) (sdp : String)
    (uploadSlots : List Slot) : Seated core (some bound) (bound + 1)
      (events ++ [.asked bound core.offer sdp uploadSlots]) where
  stands := by rw [latest_concat, rtcEffect, if_pos rfl, Option.getD_some]
  standsBelow standing same := by
    obtain rfl := Option.some.inj same
    exact Nat.lt_succ_self bound
  below earlier kind sdp uploadSlots member := by
    rcases List.mem_append.mp member with before | last
    · exact Nat.lt_succ_of_lt (seated.below earlier kind sdp uploadSlots before)
    · cases List.mem_singleton.mp last
      exact Nat.lt_succ_self bound
  asked := by
    refine seated.asked.concat (fun other kind sdp uploadSlots same => ?_)
    cases same
    rw [if_pos rfl]
    exact seated.below

/-- A negotiation that is no offer is put to the RTC peer that stands. -/
theorem Seated.renegotiates (seated : Seated core rtc bound events) {kind : Kind}
    (renegotiation : kind ≠ core.offer) {standing : Nat} (stands : rtc = some standing)
    (sdp : String) (uploadSlots : List Slot) :
    Seated core rtc bound (events ++ [.asked standing kind sdp uploadSlots]) where
  stands := by
    rw [latest_concat, rtcEffect, if_neg renegotiation, Option.getD_none, seated.stands]
  standsBelow := seated.standsBelow
  below earlier kind sdp uploadSlots member := by
    rcases List.mem_append.mp member with before | last
    · exact seated.below earlier kind sdp uploadSlots before
    · cases List.mem_singleton.mp last
      exact seated.standsBelow standing stands
  asked := by
    refine seated.asked.concat (fun other kind sdp uploadSlots same => ?_)
    cases same
    rw [if_neg renegotiation, ← seated.stands, stands]

end Rtc

/-- Only offers and the closing of the RTC peer touch which one stands. -/
theorem rtcEffect_of_plain [DecidableEq Kind] {core : ProtocolCore Core Request Kind Slot}
    {command : Command Request Kind Slot} (other : command ≠ .closePeerConnection) :
    rtcEffect core (.executed command) = none := by
  cases command <;> first | rfl | exact absurd rfl other

namespace Peer

variable [DecidableEq Kind] {core : ProtocolCore Core Request Kind Slot}
  {peer next : Peer Core Request Kind Slot}

/-- Binding for a negotiation seats the RTC peer it is put to: a new one for an offer, the
standing one otherwise. -/
theorem rebound_seated {kind : Kind} {bound : Peer Core Request Kind Slot} {rtc : Nat}
    (rebound : peer.Rebound core kind bound) (stands : bound.rtc = some rtc)
    (seated : Seated core peer.rtc peer.bound peer.events) (sdp : String)
    (uploadSlots : List Slot) : Seated core bound.rtc bound.bound
      (bound.events ++ [.asked rtc kind sdp uploadSlots]) := by
  rcases rebound with ⟨rfl, rfl⟩ | ⟨renegotiation, rfl⟩
  · obtain rfl := Option.some.inj stands
    exact seated.offers sdp uploadSlots
  · exact seated.renegotiates renegotiation stands sdp uploadSlots

/-- Every move keeps the account of which RTC peer stands. -/
theorem moves_seated (moves : Moves core peer next)
    (seated : Seated core peer.rtc peer.bound peer.events) :
    Seated core next.rtc next.bound next.events := by
  cases moves with
  | fails program error => exact seated
  | turns program activity turned => exact seated
  | begins | hears => exact seated.silent rfl (fun _ _ _ _ same => by cases same)
  | fires id sleeping => exact seated.silent rfl (fun _ _ _ _ same => by cases same)
  | executes command runs plain =>
    exact seated.silent (rtcEffect_of_plain (fun same => by cases same ▸ plain))
      (fun _ _ _ _ same => by cases same)
  | opens command runs plain =>
    exact (seated.silent (rtcEffect_of_plain (fun same => by cases same ▸ plain))
      (fun _ _ _ _ same => by cases same)).silent rfl (fun _ _ _ _ same => by cases same)
  | closes runs => exact seated.closes
  | schedules command runs id ms arms =>
    exact seated.silent (rtcEffect_of_plain (fun same => by cases same ▸ arms))
      (fun _ _ _ _ same => by cases same)
  | cancels command runs id disarms =>
    exact seated.silent (rtcEffect_of_plain (fun same => by cases same ▸ disarms))
      (fun _ _ _ _ same => by cases same)
  | unanswered kind sdp uploadSlots rtc error bound rebound stands =>
    exact rebound_seated rebound stands seated sdp uploadSlots
  | negotiates requestId kind sdp uploadSlots runs rtc bound rebound stands answer =>
    have asked := rebound_seated rebound stands seated sdp uploadSlots
    exact (asked.silent rfl (fun _ _ _ _ same => by cases same)).silent rfl
      (fun _ _ _ _ same => by cases same)

end Peer

end SfuLoad.Client.Protocol
