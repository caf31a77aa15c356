import Mathlib.Data.List.Nodup

/-!
# Aligned lists

Keys next to values: two lists that change together, read by position. With distinct
keys each key has one value.
-/

set_option autoImplicit false

namespace FilldRider.Records

variable {Key α : Type}

/-- The key and the value stand at the same position. -/
def At (keys : List Key) (values : List α) (key : Key) (value : α) : Prop :=
  ∃ index : Nat, keys[index]? = some key ∧ values[index]? = some value

variable {keys : List Key} {values : List α} {key other : Key} {value written : α}
  {position : Nat}

theorem index_unique (distinct : keys.Nodup) {first second : Nat}
    (left : keys[first]? = some key) (right : keys[second]? = some key) : first = second := by
  obtain ⟨inside, _⟩ := List.getElem?_eq_some_iff.mp left
  exact (List.getElem?_inj inside distinct).mp (left.trans right.symm)

theorem At.unique (distinct : keys.Nodup) {first second : α}
    (left : At keys values key first) (right : At keys values key second) : first = second := by
  obtain ⟨index, here, stored⟩ := left
  obtain ⟨index', here', stored'⟩ := right
  cases index_unique distinct here here'
  rw [stored] at stored'
  exact Option.some.inj stored'

theorem At.append (present : At keys values key value) (newKey : Key) (newValue : α) :
    At (keys ++ [newKey]) (values ++ [newValue]) key value := by
  obtain ⟨index, here, stored⟩ := present
  obtain ⟨numbered, _⟩ := List.getElem?_eq_some_iff.mp here
  obtain ⟨inside, _⟩ := List.getElem?_eq_some_iff.mp stored
  refine ⟨index, ?_, ?_⟩
  · rwa [List.getElem?_append_left numbered]
  · rwa [List.getElem?_append_left inside]

theorem at_set (distinct : keys.Nodup) (here : keys[position]? = some key)
    (inside : position < values.length) :
    At keys (values.set position written) other value ↔
      other = key ∧ written = value ∨ other ≠ key ∧ At keys values other value := by
  constructor
  · rintro ⟨index, present, stored⟩
    by_cases same : position = index
    · subst same
      rw [List.getElem?_set_self inside] at stored
      rw [here] at present
      exact .inl ⟨(Option.some.inj present).symm, Option.some.inj stored⟩
    · rw [List.getElem?_set_ne same] at stored
      refine .inr ⟨?_, index, present, stored⟩
      rintro rfl
      exact same (index_unique distinct here present)
  · rintro (⟨rfl, rfl⟩ | ⟨apart, index, present, stored⟩)
    · exact ⟨position, here, List.getElem?_set_self inside⟩
    · refine ⟨index, present, ?_⟩
      rw [List.getElem?_set_ne]
      · exact stored
      · rintro rfl
        rw [here] at present
        exact apart (Option.some.inj present).symm

theorem at_eraseIdx (distinct : keys.Nodup) (here : keys[position]? = some key) :
    At (keys.eraseIdx position) (values.eraseIdx position) other value ↔
      other ≠ key ∧ At keys values other value := by
  constructor
  · rintro ⟨index, present, stored⟩
    rw [List.getElem?_eraseIdx] at present stored
    split at present
    · next before =>
      rw [if_pos before] at stored
      refine ⟨?_, index, present, stored⟩
      rintro rfl
      exact Nat.ne_of_lt before (index_unique distinct present here)
    · next after =>
      rw [if_neg after] at stored
      refine ⟨?_, index + 1, present, stored⟩
      rintro rfl
      have same := index_unique distinct present here
      omega
  · rintro ⟨apart, index, present, stored⟩
    have elsewhere : index ≠ position := by
      rintro rfl
      rw [here] at present
      exact apart (Option.some.inj present).symm
    rcases Nat.lt_or_gt_of_ne elsewhere with before | after
    · exact ⟨index, by rwa [List.getElem?_eraseIdx, if_pos before],
        by rwa [List.getElem?_eraseIdx, if_pos before]⟩
    · have beyond : ¬ index - 1 < position := by omega
      have back : index - 1 + 1 = index := by omega
      exact ⟨index - 1, by rwa [List.getElem?_eraseIdx, if_neg beyond, back],
        by rwa [List.getElem?_eraseIdx, if_neg beyond, back]⟩

/-! ## Pairs -/

theorem zip_set (keys : List Key) (values : List α) (position : Nat) (key : Key) (value : α) :
    (keys.set position key).zip (values.set position value) =
      (keys.zip values).set position (key, value) := by
  induction keys generalizing values position with
  | nil => simp
  | cons first rest ih =>
      cases values with
      | nil => simp
      | cons head tail =>
          cases position with
          | zero => rfl
          | succ position => simp [ih]

theorem zip_eraseIdx (keys : List Key) (values : List α) (position : Nat) :
    (keys.eraseIdx position).zip (values.eraseIdx position) =
      (keys.zip values).eraseIdx position := by
  induction keys generalizing values position with
  | nil => simp
  | cons first rest ih =>
      cases values with
      | nil => simp
      | cons head tail =>
          cases position with
          | zero => rfl
          | succ position => simp [ih]

end FilldRider.Records
