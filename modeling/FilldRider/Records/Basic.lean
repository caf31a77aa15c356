import Mathlib.Data.List.Nodup

/-!
# Records by key

Lists of records with distinct keys, where storing a record updates the one with its
key in place or adds it at the end.
-/

set_option autoImplicit false

namespace FilldRider.Records

variable {Key α : Type} [DecidableEq Key]

def lookup (records : List (Key × α)) (key : Key) : Option α :=
  (records.find? fun record => record.1 = key).map Prod.snd

/-- Update the record of a key, or add one made from `initial`. -/
def upsert (initial : α) (key : Key) (update : α → α) :
    List (Key × α) → List (Key × α)
  | [] => [(key, update initial)]
  | (other, record) :: rest =>
      if other = key then (other, update record) :: rest
      else (other, record) :: upsert initial key update rest

variable {initial : α} {key : Key} {update : α → α} {records : List (Key × α)}

theorem mem_keys_upsert {other : Key} :
    other ∈ (upsert initial key update records).map Prod.fst ↔
      other = key ∨ other ∈ records.map Prod.fst := by
  induction records with
  | nil => simp [upsert]
  | cons record rest ih =>
      obtain ⟨first, value⟩ := record
      rw [upsert]
      split
      · next same =>
        subst same
        simp
      · rw [List.map_cons, List.mem_cons, ih, List.map_cons, List.mem_cons]
        exact or_left_comm

theorem nodup_keys_upsert (distinct : (records.map Prod.fst).Nodup) :
    ((upsert initial key update records).map Prod.fst).Nodup := by
  induction records with
  | nil => simp [upsert]
  | cons record rest ih =>
      obtain ⟨first, value⟩ := record
      obtain ⟨fresh, others⟩ := List.nodup_cons.mp distinct
      rw [upsert]
      split
      · exact distinct
      · next different =>
        refine List.nodup_cons.mpr ⟨?_, ih others⟩
        rw [mem_keys_upsert]
        rintro (same | member)
        · exact different same
        · exact fresh member

theorem lookup_cons_of_ne {first : Key} {value : α} (different : first ≠ key) :
    lookup ((first, value) :: records) key = lookup records key := by
  simp [lookup, different]

theorem lookup_upsert (other : Key) :
    lookup (upsert initial key update records) other =
      if other = key then some (update ((lookup records key).getD initial))
      else lookup records other := by
  induction records with
  | nil =>
      by_cases same : other = key
      · simp [upsert, lookup, same]
      · simp [upsert, lookup, same, Ne.symm same]
  | cons record rest ih =>
      obtain ⟨first, value⟩ := record
      rw [upsert]
      split
      · next here =>
        subst here
        by_cases same : other = first
        · simp [lookup, same]
        · simp [lookup, same, Ne.symm same]
      · next elsewhere =>
        by_cases here : first = other
        · subst here
          simp [lookup, elsewhere]
        · rw [lookup_cons_of_ne here, lookup_cons_of_ne here, lookup_cons_of_ne elsewhere, ih]

theorem mem_iff_lookup (distinct : (records.map Prod.fst).Nodup) {value : α} :
    (key, value) ∈ records ↔ lookup records key = some value := by
  induction records with
  | nil => simp [lookup]
  | cons record rest ih =>
      obtain ⟨first, head⟩ := record
      obtain ⟨fresh, others⟩ := List.nodup_cons.mp distinct
      by_cases here : first = key
      · subst here
        have absent : (first, value) ∉ rest := by
          intro member
          exact fresh (List.mem_map.mpr ⟨_, member, rfl⟩)
        simp [lookup, absent, eq_comm]
      · have elsewhere := ih others
        simp only [lookup] at elsewhere
        simp [lookup, here, Ne.symm here, elsewhere]

end FilldRider.Records
