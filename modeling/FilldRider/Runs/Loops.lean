import Mathlib.Data.List.Basic

/-!
# Loops that await

A loop over a list that awaits a read for an item, skips others and is left by whatever
throws. Anything may happen between two reads. What the loop has gathered at its end is
still what a traversal without awaits makes of the items and of the answers.
-/

set_option autoImplicit false

namespace FilldRider.Runs

section Collect

variable {Item Result Error : Type}

/-- The results of a traversal that may skip an item, or throw. -/
def collect (visit : Item → Except Error (Option Result)) :
    List Item → Except Error (List Result)
  | [] => .ok []
  | item :: rest =>
      match visit item with
      | .error thrown => .error thrown
      | .ok none => collect visit rest
      | .ok (some result) => (collect visit rest).map (result :: ·)

variable {visit : Item → Except Error (Option Result)} {before after : List Item}
  {item : Item} {first results : List Result} {result : Result} {thrown : Error}

@[simp] theorem collect_nil : collect visit [] = .ok [] := rfl

theorem collect_append (gathered : collect visit before = .ok first) :
    collect visit (before ++ after) = (collect visit after).map (first ++ ·) := by
  induction before generalizing first with
  | nil =>
      cases gathered
      cases later : collect visit after <;> simp [later, Except.map]
  | cons item rest ih =>
      simp only [List.cons_append, collect] at gathered ⊢
      cases visited : visit item with
      | error thrown => simp [visited] at gathered
      | ok taken =>
          cases taken with
          | none =>
              simp only [visited] at gathered ⊢
              exact ih gathered
          | some result =>
              simp only [visited] at gathered ⊢
              cases tail : collect visit rest with
              | error thrown => simp [tail, Except.map] at gathered
              | ok others =>
                  simp only [tail, Except.map, Except.ok.injEq] at gathered
                  subst gathered
                  rw [ih tail]
                  cases collect visit after <;> simp [Except.map]

theorem collect_skip (gathered : collect visit before = .ok first)
    (skipped : visit item = .ok none) : collect visit (before ++ [item]) = .ok first := by
  rw [collect_append gathered]
  simp [collect, skipped, Except.map]

theorem collect_take (gathered : collect visit before = .ok first)
    (taken : visit item = .ok (some result)) :
    collect visit (before ++ [item]) = .ok (first ++ [result]) := by
  rw [collect_append gathered]
  simp [collect, taken, Except.map]

/-- One item that throws spoils the traversal. -/
theorem collect_throw (gathered : collect visit before = .ok first)
    (failed : visit item = .error thrown) :
    collect visit (before ++ item :: after) = .error thrown := by
  rw [collect_append gathered]
  simp [collect, failed, Except.map]

theorem collect_append_throw (failed : collect visit before = .error thrown) :
    collect visit (before ++ after) = .error thrown := by
  induction before with
  | nil => cases failed
  | cons item rest ih =>
      simp only [List.cons_append, collect] at failed ⊢
      cases visited : visit item with
      | error other =>
          simp only [visited] at failed ⊢
          exact failed
      | ok taken =>
          cases taken with
          | none =>
              simp only [visited] at failed ⊢
              exact ih failed
          | some result =>
              simp only [visited] at failed ⊢
              cases tail : collect visit rest with
              | ok others => simp [tail, Except.map] at failed
              | error other =>
                  simp only [tail, Except.map, Except.error.injEq] at failed
                  subst failed
                  rw [ih tail]
                  rfl

theorem collect_of_skipped (skipped : ∀ item ∈ before, visit item = .ok none) :
    collect visit before = .ok [] := by
  induction before with
  | nil => rfl
  | cons item rest ih =>
      simp only [collect, skipped item (List.mem_cons_self ..)]
      exact ih fun item member => skipped item (List.mem_cons_of_mem _ member)

end Collect

variable {Item Key Answer Value Error : Type}

/-- What one round does: the key an item asks to be read, and the value of an answer. -/
structure Body (Item Key Answer Value Error : Type) where
  key : Item → Except Error (Option Key)
  value : Answer → Except Error (Option Value)

inductive Loop (Item Key Value Error : Type) where
  | awaiting (key : Key) (rest : List Item) (gathered : List Value)
  | finished (result : Except Error (List Value))

namespace Body

/-- The rounds up to the next await, or to the end. -/
def enter (body : Body Item Key Answer Value Error) :
    List Item → List Value → Loop Item Key Value Error
  | [], gathered => .finished (.ok gathered)
  | item :: rest, gathered =>
      match body.key item with
      | .error thrown => .finished (.error thrown)
      | .ok none => body.enter rest gathered
      | .ok (some key) => .awaiting key rest gathered

/-- The rest of a round, and the rounds after it. -/
def resume (body : Body Item Key Answer Value Error) (rest : List Item)
    (gathered : List Value) (answer : Answer) : Loop Item Key Value Error :=
  match body.value answer with
  | .error thrown => .finished (.error thrown)
  | .ok none => body.enter rest gathered
  | .ok (some value) => body.enter rest (gathered ++ [value])

/-- A loop over these items has come here by these reads. -/
def Explains (body : Body Item Key Answer Value Error) (items : List Item)
    (reads : List (Key × Answer)) : Loop Item Key Value Error → Prop
  | .awaiting key rest gathered =>
      ∃ before item, items = before ++ item :: rest ∧ body.key item = .ok (some key) ∧
        collect body.key before = .ok (reads.map Prod.fst) ∧
        collect body.value (reads.map Prod.snd) = .ok gathered
  | .finished (.ok gathered) =>
      collect body.key items = .ok (reads.map Prod.fst) ∧
        collect body.value (reads.map Prod.snd) = .ok gathered
  | .finished (.error thrown) =>
      collect body.key items = .error thrown ∨
        ∃ before after, items = before ++ after ∧
          collect body.key before = .ok (reads.map Prod.fst) ∧
          collect body.value (reads.map Prod.snd) = .error thrown

variable {body : Body Item Key Answer Value Error} {items before rest : List Item}
  {reads : List (Key × Answer)} {key : Key} {gathered : List Value}

theorem explains_enter (asked : collect body.key before = .ok (reads.map Prod.fst))
    (answered : collect body.value (reads.map Prod.snd) = .ok gathered) :
    body.Explains (before ++ rest) reads (body.enter rest gathered) := by
  induction rest generalizing before with
  | nil =>
      rw [List.append_nil]
      exact ⟨asked, answered⟩
  | cons item rest ih =>
      rw [enter]
      cases visited : body.key item with
      | error thrown => exact .inl (collect_throw asked visited)
      | ok taken =>
          cases taken with
          | none =>
              have skipped := ih (collect_skip asked visited)
              rwa [List.append_assoc] at skipped
          | some key => exact ⟨before, item, rfl, visited, asked, answered⟩

/-- An answer leads to where the reads with it lead. -/
theorem Explains.resume (explains : body.Explains items reads (.awaiting key rest gathered))
    (answer : Answer) :
    body.Explains items (reads ++ [(key, answer)]) (body.resume rest gathered answer) := by
  obtain ⟨before, item, rfl, visited, asked, answered⟩ := explains
  have asking : collect body.key (before ++ [item]) =
      .ok ((reads ++ [(key, answer)]).map Prod.fst) := by
    rw [List.map_append]
    exact collect_take asked visited
  rw [Body.resume]
  cases taken : body.value answer with
  | error thrown =>
      refine .inr ⟨before ++ [item], rest, by simp, asking, ?_⟩
      rw [List.map_append]
      exact collect_throw answered taken
  | ok value =>
      cases value with
      | none =>
          have next : body.Explains (before ++ [item] ++ rest) (reads ++ [(key, answer)])
              (body.enter rest gathered) := by
            apply explains_enter asking
            rw [List.map_append]
            exact collect_skip answered taken
          rwa [List.append_assoc] at next
      | some value =>
          have next : body.Explains (before ++ [item] ++ rest) (reads ++ [(key, answer)])
              (body.enter rest (gathered ++ [value])) := by
            apply explains_enter asking
            rw [List.map_append]
            exact collect_take answered taken
          rwa [List.append_assoc] at next

/-- Where each read answers as a table does, a loop that has finished has the result of
the traversal of the table. -/
theorem Explains.of_table {result : Except Error (List Value)}
    (explains : body.Explains items reads (.finished result)) (table : Key → Answer)
    (same : ∀ read ∈ reads, read.2 = table read.1) (gathered : List Value) :
    result = .ok gathered ↔
      ∃ keys, collect body.key items = .ok keys ∧
        collect body.value (keys.map table) = .ok gathered := by
  have answers : reads.map Prod.snd = (reads.map Prod.fst).map table := by
    rw [List.map_map]
    exact List.map_congr_left same
  cases result with
  | ok found =>
      obtain ⟨asked, answered⟩ := explains
      rw [answers] at answered
      constructor
      · intro equal
        cases equal
        exact ⟨_, asked, answered⟩
      · rintro ⟨keys, all, values⟩
        rw [asked] at all
        cases all
        rw [answered] at values
        exact values
  | error thrown =>
      constructor
      · intro equal
        cases equal
      · rintro ⟨keys, all, values⟩
        rcases explains with failed | ⟨before, after, rfl, asked, failed⟩
        · rw [failed] at all
          cases all
        · rw [collect_append asked] at all
          cases others : collect body.key after with
          | error other => simp [others, Except.map] at all
          | ok more =>
              simp only [others, Except.map, Except.ok.injEq] at all
              rw [← all, List.map_append, ← answers, collect_append_throw failed] at values
              cases values

end Body

end FilldRider.Runs
