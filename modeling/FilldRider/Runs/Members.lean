import FilldRider.Runs.Component

/-!
# Members that join and run

A component may hold members that are components themselves: they join it one after the
other and each reacts to events of its own. Whatever the others do in between, a member
runs as it would alone, and what it tells comes in the same order out of the whole.
-/

set_option autoImplicit false

namespace FilldRider.Runs

variable {Member Event Action Told : Type}

/-- Every member ran from a state it may join in, and the whole has told, in this order,
what it said when it joined and what it said in that run. -/
def Accounted (step : Component Member Event Action) (Joins : Member → List Told → Prop)
    (tells : Member → Action → Option Told) (history : List Told) (members : List Member) :
    Prop :=
  ∀ member ∈ members, ∃ first opening events actions, Joins first opening ∧
    exec step first events = some (member, actions) ∧
    (opening ++ actions.filterMap (tells member)).Sublist history

namespace Accounted

variable {step : Component Member Event Action} {Joins : Member → List Told → Prop}
  {tells : Member → Action → Option Told} {history more : List Told} {members : List Member}
  {member next : Member} {event : Event} {actions : List Action}

theorem nil (history : List Told) : Accounted step Joins tells history [] :=
  fun _ member => nomatch member

/-- The whole may tell more. -/
theorem later (accounted : Accounted step Joins tells history members) (more : List Told) :
    Accounted step Joins tells (history ++ more) members := by
  intro member present
  obtain ⟨first, opening, events, actions, joins, run, told⟩ := accounted member present
  exact ⟨first, opening, events, actions, joins, run, told.trans (List.sublist_append_left ..)⟩

theorem join (accounted : Accounted step Joins tells history members) {opening : List Told}
    (joins : Joins member opening) (told : opening.Sublist more) :
    Accounted step Joins tells (history ++ more) (members ++ [member]) := by
  intro other present
  rcases List.mem_append.mp present with old | new
  · exact accounted.later more other old
  · cases List.mem_singleton.mp new
    refine ⟨member, opening, [], [], joins, rfl, ?_⟩
    rw [List.filterMap_nil, List.append_nil]
    exact told.trans (List.sublist_append_right ..)

/-- A member reacts, under the name it told everything before. -/
theorem react (accounted : Accounted step Joins tells history members) {index : Nat}
    (found : members[index]? = some member) (stepped : step member event = some (next, actions))
    (same : tells next = tells member) (told : actions.filterMap (tells member) = more) :
    Accounted step Joins tells (history ++ more) (members.set index next) := by
  intro other present
  rcases List.mem_or_eq_of_mem_set present with old | rfl
  · exact accounted.later more other old
  · obtain ⟨first, opening, events, earlier, joins, run, before⟩ :=
      accounted member (List.mem_of_getElem? found)
    refine ⟨first, opening, events ++ [event], earlier ++ actions, joins, ?_, ?_⟩
    · exact exec_append_eq_some.mpr
        ⟨member, earlier, actions, run, exec_singleton_eq_some.mpr stepped, rfl⟩
    · rw [same, List.filterMap_append, told, ← List.append_assoc]
      exact before.append_right more

end Accounted

/-! ## What comes before -/

/-- Before every such entry of a history the entries it needs are there. -/
def Preceded (needs : Told → List Told → Prop) (history : List Told) : Prop :=
  ∀ before entry after, history = before ++ entry :: after → needs entry before

namespace Preceded

variable {needs : Told → List Told → Prop} {history : List Told}

theorem nil (needs : Told → List Told → Prop) : Preceded needs [] := by
  intro before entry after split
  simp at split

theorem concat (old : Preceded needs history) {entry : Told} (met : needs entry history) :
    Preceded needs (history ++ [entry]) := by
  intro before other after split
  rcases List.eq_nil_or_concat after with rfl | ⟨rest, last, rfl⟩
  · obtain ⟨rfl, same⟩ := List.append_inj' split rfl
    cases same
    exact met
  · have longer : history ++ [entry] = (before ++ other :: rest) ++ [last] := by
      rw [split, List.concat_eq_append, List.append_assoc, List.cons_append]
    exact old before other rest (List.append_inj' longer rfl).1

end Preceded

end FilldRider.Runs
