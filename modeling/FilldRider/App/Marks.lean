import FilldRider.App.Basic
import FilldRider.Trees.Basic

/-!
# The slot and the ride history

`acceptRideRequest` puts its history mark below the rider's slot, where setting a
leaf and having children exclude each other: the mark turns the slot into an object,
and the next text or removal discards every mark.
-/

set_option autoImplicit false

namespace FilldRider

open Runs Trees

/-! ## The slot as a tree -/

/-- The leaf a slot has at a path below it. -/
def SlotValue.leaf? (slot : Option SlotValue) : List String → Option Scalar
  | [] =>
      match slot with
      | some (.text value) => some (.text value)
      | _ => none
  | [uid, child, rideRequestId] =>
      match slot with
      | some (.marks entries) =>
          if child = "history" ∧ (uid, rideRequestId) ∈ entries then some (.flag true) else none
      | _ => none
  | _ => none

def markPath (uid rideRequestId : String) : List String := [uid, "history", rideRequestId]

/-- A write of the app on the tree whose root is the slot. -/
def RiderWrite.onSlot (tree : Tree String Scalar) : RiderWrite → Tree String Scalar
  | .searching text => tree.set [] (.text text)
  | .accepted _ _ => tree.set [] (.text "accepted")
  | .removeSlot => tree.remove []
  | .history uid rideRequestId => tree.set (markPath uid rideRequestId) (.flag true)
  | .setLocation _ | .removeLocation | .earnings _ => tree

def SlotValue.Represents (slot : Option SlotValue) (tree : Tree String Scalar) : Prop :=
  ∀ path, tree.leaf? path = SlotValue.leaf? slot path

theorem SlotValue.mark_spec (slot : Option SlotValue) (uid rideRequestId : String) :
    ∃ entries, SlotValue.mark slot uid rideRequestId = .marks entries ∧
      ∀ entry, entry ∈ entries ↔
        entry = (uid, rideRequestId) ∨ ∃ old, slot = some (.marks old) ∧ entry ∈ old := by
  unfold SlotValue.mark
  split
  · next old =>
    split
    · next present =>
      refine ⟨old, rfl, ?_⟩
      intro entry
      simp only [Option.some.injEq, marks.injEq, exists_eq_left', iff_or_self]
      rintro rfl
      exact present
    · refine ⟨_, rfl, ?_⟩
      intro entry
      simp [or_comm]
  · exact ⟨_, rfl, by simp⟩
  · exact ⟨_, rfl, by simp⟩

theorem SlotValue.leaf?_mark (slot : Option SlotValue) (uid rideRequestId : String)
    (path : List String) :
    SlotValue.leaf? (some (SlotValue.mark slot uid rideRequestId)) path =
      if path = markPath uid rideRequestId then some (.flag true)
      else if Apart (markPath uid rideRequestId) path then SlotValue.leaf? slot path
      else none := by
  obtain ⟨entries, marked, member⟩ := SlotValue.mark_spec slot uid rideRequestId
  rw [marked]
  match path with
  | [] => simp [leaf?, markPath]
  | [_] => simp [leaf?, markPath]
  | [_, _] => simp [leaf?, markPath]
  | _ :: _ :: _ :: _ :: _ => simp [leaf?, markPath]
  | [rider, child, id] =>
      have apart : Apart (markPath uid rideRequestId) [rider, child, id] ↔
          [rider, child, id] ≠ markPath uid rideRequestId := by
        simp [markPath, eq_comm, imp_iff_not_or]
      by_cases here : [rider, child, id] = markPath uid rideRequestId
      · cases here
        simp [leaf?, markPath, member]
      · rw [if_neg here, if_pos (apart.mpr here)]
        have other : child = "history" → (rider, id) ≠ (uid, rideRequestId) := by
          rintro rfl same
          cases same
          exact here rfl
        have same : (child = "history" ∧ (rider, id) ∈ entries) ↔
            (child = "history" ∧ ∃ old, slot = some (.marks old) ∧ (rider, id) ∈ old) := by
          rw [member]
          constructor
          · intro marked
            exact ⟨marked.1, marked.2.resolve_left (other marked.1)⟩
          · intro marked
            exact ⟨marked.1, .inr marked.2⟩
        rcases slot with _ | text | old
        · have unmarked : ¬ (child = "history" ∧ (rider, id) ∈ entries) := by simpa using same
          exact if_neg unmarked
        · have unmarked : ¬ (child = "history" ∧ (rider, id) ∈ entries) := by simpa using same
          exact if_neg unmarked
        · have kept : (child = "history" ∧ (rider, id) ∈ entries) ↔
              (child = "history" ∧ (rider, id) ∈ old) := by simpa using same
          exact if_congr kept rfl rfl

/-- The slot of `RiderNode` is the tree: every write does the same to both. -/
theorem RiderNode.represents_apply {node : RiderNode} {tree : Tree String Scalar}
    (represents : SlotValue.Represents node.newRider tree) (write : RiderWrite) :
    SlotValue.Represents (node.apply write).newRider (write.onSlot tree) := by
  have root : ∀ (value : String) path, SlotValue.leaf? (some (.text value)) path =
      if path = [] then some (.text value) else none := by
    intro value path
    match path with
    | [] => rfl
    | [_] | [_, _] | [_, _, _] | _ :: _ :: _ :: _ :: _ => rfl
  intro path
  cases write with
  | searching text =>
      rw [RiderWrite.onSlot, Tree.leaf?_set, if_neg (not_apart_nil path)]
      exact (root text path).symm
  | accepted rideRequestId read =>
      rw [RiderWrite.onSlot, Tree.leaf?_set, if_neg (not_apart_nil path)]
      exact (root "accepted" path).symm
  | removeSlot =>
      rw [RiderWrite.onSlot, Tree.leaf?_remove, if_pos List.nil_prefix]
      match path with
      | [] | [_] | [_, _] | [_, _, _] | _ :: _ :: _ :: _ :: _ => rfl
  | history uid rideRequestId =>
      rw [RiderWrite.onSlot, Tree.leaf?_set, represents path]
      exact (SlotValue.leaf?_mark node.newRider uid rideRequestId path).symm
  | setLocation position => exact represents path
  | removeLocation => exact represents path
  | earnings text => exact represents path

/-! ## Slots and marks over a run -/

def SlotValue.Plain (slot : Option SlotValue) : Prop :=
  ∀ value ∈ slot, ∃ text, value = .text text

variable {Rider : Type} [DecidableEq Rider]

/-- Every slot is absent or a text, and every mark stored so far is still there. -/
structure SlotsKept (stored : List (WorldWrite Rider)) (world : World Rider) : Prop where
  plain : ∀ rider, SlotValue.Plain (world.store.riders rider).newRider
  marked : ∀ rider uid rideRequestId,
    .byClient rider (.rider (.history uid rideRequestId)) ∈ stored →
      SlotValue.leaf? (world.store.riders rider).newRider (markPath uid rideRequestId) =
        some (.flag true)

/-- The dispatcher writes texts and clears slots. -/
def Offers : WorldEvent Rider → Prop
  | .outside (.slot _ value) => SlotValue.Plain value
  | _ => True

/-- The history mark this event stores. -/
def World.mark? (world : World Rider) : WorldEvent Rider → Option (String × String)
  | .deliver rider =>
      match world.outbox rider with
      | .rider (.history uid rideRequestId) :: _ => some (uid, rideRequestId)
      | _ => none
  | _ => none

def Unmarked (_ : List (WorldWrite Rider)) (world : World Rider) (event : WorldEvent Rider) :
    Prop :=
  world.mark? event = none

instance (history : List (WorldWrite Rider)) (world : World Rider)
    (event : WorldEvent Rider) : Decidable (Unmarked history world event) :=
  inferInstanceAs (Decidable (_ = _))

structure MarkLaw (stored : List (WorldWrite Rider)) (world : World Rider) : Prop where
  plain : ∀ rider, SlotValue.Plain (world.store.riders rider).newRider
  unmarked : ∀ rider uid rideRequestId,
    .byClient rider (.rider (.history uid rideRequestId)) ∉ stored

omit [DecidableEq Rider] in
theorem MarkLaw.slotsKept {stored : List (WorldWrite Rider)} {world : World Rider}
    (law : MarkLaw stored world) : SlotsKept stored world where
  plain := law.plain
  marked := by
    intro rider uid rideRequestId member
    exact (law.unmarked rider uid rideRequestId member).elim

theorem RiderNode.apply_plain {node : RiderNode} {write : RiderWrite}
    (plain : SlotValue.Plain node.newRider)
    (other : ∀ uid rideRequestId, write ≠ .history uid rideRequestId) :
    SlotValue.Plain (node.apply write).newRider := by
  cases write with
  | history uid rideRequestId => exact (other uid rideRequestId rfl).elim
  | searching text =>
      intro value present
      cases present
      exact ⟨text, rfl⟩
  | accepted rideRequestId read =>
      intro value present
      cases present
      exact ⟨"accepted", rfl⟩
  | removeSlot =>
      intro value present
      cases present
  | setLocation position => exact plain
  | removeLocation => exact plain
  | earnings text => exact plain

theorem SlotValue.not_plain_mark (slot : Option SlotValue) (uid rideRequestId : String) :
    ¬ SlotValue.Plain (some (SlotValue.mark slot uid rideRequestId)) := by
  intro plain
  obtain ⟨entries, marked, _⟩ := SlotValue.mark_spec slot uid rideRequestId
  obtain ⟨text, same⟩ := plain _ rfl
  rw [marked] at same
  cases same

section Steps

variable {stored emitted : List (WorldWrite Rider)} {world next : World Rider}
  {event : WorldEvent Rider}

theorem MarkLaw.step (law : MarkLaw stored world) (offers : Offers event)
    (unmarked : Unmarked stored world event)
    (stepped : World.step world event = some (next, emitted)) :
    MarkLaw (stored ++ emitted) next := by
  cases Shared.moves_of_step stepped with
  | act answered reacts => exact ⟨law.plain, by simpa using law.unmarked⟩
  | @deliver rider write rest queued =>
      have other : ∀ uid rideRequestId, write ≠ .rider (.history uid rideRequestId) := by
        rintro uid rideRequestId rfl
        simp [Unmarked, World.mark?, queued] at unmarked
      constructor
      · intro client
        cases write with
        | request rideRequestId write => exact law.plain client
        | rider write =>
            by_cases same : client = rider
            · subst same
              simp only [Database.apply, Function.update_self]
              exact RiderNode.apply_plain (law.plain client)
                fun uid rideRequestId equal => other uid rideRequestId (equal ▸ rfl)
            · simp only [Database.apply, Function.update_of_ne same]
              exact law.plain client
      · intro client uid rideRequestId member
        rcases List.mem_append.mp member with old | new
        · exact law.unmarked client uid rideRequestId old
        · cases List.mem_singleton.mp new
          exact other uid rideRequestId rfl
  | @outside write =>
      constructor
      · intro client
        cases write with
        | cancel rideRequestId => exact law.plain client
        | slot rider value =>
            by_cases same : client = rider
            · subst same
              simp only [Database.intrude, Function.update_self]
              exact offers
            · simp only [Database.intrude, Function.update_of_ne same]
              exact law.plain client
      · intro client uid rideRequestId member
        rcases List.mem_append.mp member with old | new
        · exact law.unmarked client uid rideRequestId old
        · cases List.mem_singleton.mp new

theorem Unmarked.of_slotsKept (stepped : World.step world event = some (next, emitted))
    (kept : SlotsKept (stored ++ emitted) next) : Unmarked stored world event := by
  unfold Unmarked
  cases marks : world.mark? event with
  | none => rfl
  | some mark =>
      unfold World.mark? at marks
      split at marks
      · next rider =>
        split at marks
        · next uid rideRequestId rest queued =>
          cases Shared.moves_of_step stepped with
          | deliver first =>
              rw [queued, List.cons.injEq] at first
              obtain ⟨rfl, rfl⟩ := first
              have plain := kept.plain rider
              simp only [Database.apply, Function.update_self] at plain
              exact (SlotValue.not_plain_mark _ uid rideRequestId plain).elim
        · cases marks
      · cases marks

end Steps

/-- From slots that are absent or texts, in every run of all apps and a dispatcher who
writes texts: slots stay so and marks stay stored throughout exactly as long as no mark
is stored at all. -/
theorem slotsKept_iff_unmarked {start after : World Rider}
    (plain : ∀ rider, SlotValue.Plain (start.store.riders rider).newRider)
    {events : List (WorldEvent Rider)} {stored : List (WorldWrite Rider)}
    (offers : ∀ event ∈ events, Offers event)
    (run : exec World.step start events = some (after, stored)) :
    Always World.step SlotsKept [] start events ↔ Meets World.step Unmarked [] start events := by
  have begins : MarkLaw [] start := ⟨plain, by simp⟩
  refine always_iff_meets MarkLaw SlotsKept MarkLaw.slotsKept ?_ ?_ begins offers run
  · intro history before event next emitted law offered unmarked stepped
    exact law.step offered unmarked stepped
  · intro history before event next emitted _ _ stepped kept
    exact Unmarked.of_slotsKept stepped kept

theorem slotsKept_sampleAccept :
    (exec World.step sampleWorld (sampleOffer ++ sampleAccept ++ [.deliver ()])).isSome ∧
      Always World.step SlotsKept [] sampleWorld
        (sampleOffer ++ sampleAccept ++ [.deliver ()]) := by
  have runs : (exec World.step sampleWorld
      (sampleOffer ++ sampleAccept ++ [.deliver ()])).isSome := by
    decide +kernel
  refine ⟨runs, ?_⟩
  obtain ⟨⟨after, stored⟩, run⟩ := Option.isSome_iff_exists.mp runs
  apply (slotsKept_iff_unmarked _ _ run).mpr
  · decide +kernel
  · intro rider value present
    cases present
  · simp [sampleOffer, sampleAccept, Offers, SlotValue.Plain]

theorem not_slotsKept_of_ride :
    ¬ ∀ (start after : World Unit) (events : List (WorldEvent Unit))
        (stored : List (WorldWrite Unit)),
      (∀ rider, SlotValue.Plain (start.store.riders rider).newRider) →
      (∀ event ∈ events, Offers event) →
      exec World.step start events = some (after, stored) →
      Always World.step SlotsKept [] start events := by
  intro always
  have ends : ((exec World.step sampleWorld
      (sampleOffer ++ sampleAccept ++ List.replicate 10 (.deliver ()))).map fun result =>
        (result.1.store.riders ()).newRider) =
      some (some (.marks [("rider", "request-1")])) := by
    decide +kernel
  obtain ⟨⟨after, stored⟩, run, slot⟩ := Option.map_eq_some_iff.mp ends
  have kept := always sampleWorld after _ stored (by simp [sampleWorld, SlotValue.Plain])
    (by simp [sampleOffer, sampleAccept, Offers, SlotValue.Plain]) run
  obtain ⟨text, same⟩ := (kept.last run).plain () _ slot
  cases same

end FilldRider
