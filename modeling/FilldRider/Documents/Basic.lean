import Mathlib.Data.Rat.Defs

/-!
# Dynamic JSON documents

Decoded JSON as dynamically typed code reads it: every selection and every implicit
downcast may throw. Next to it the safe reading, which only finds what is there.
-/

set_option autoImplicit false

namespace FilldRider.Documents

inductive Json where
  | null
  | bool (value : Bool)
  | int (value : Int)
  | double (value : ℚ)
  | string (text : String)
  | list (items : List Json)
  | object (fields : List (String × Json))

inductive Thrown where
  | clientException
  | noSuchMethod
  | typeError
  | rangeError
  deriving DecidableEq, Repr

inductive Selector where
  | key (name : String)
  | index (position : Nat)
  deriving DecidableEq, Repr

namespace Json

/-- The index operator on a dynamic value. A map answers null for an absent key, of
any type; a text has characters at its indices. -/
def select : Json → Selector → Except Thrown Json
  | .object fields, .key name => .ok ((fields.lookup name).getD .null)
  | .object _, .index _ => .ok .null
  | .list items, .index position =>
      match items[position]? with
      | some item => .ok item
      | none => .error .rangeError
  | .string text, .index position =>
      match text.toList[position]? with
      | some character => .ok (.string character.toString)
      | none => .error .rangeError
  | .list _, .key _ | .string _, .key _ => .error .typeError
  | .null, _ | .bool _, _ | .int _, _ | .double _, _ => .error .noSuchMethod

def follow (value : Json) : List Selector → Except Thrown Json
  | [] => .ok value
  | selector :: rest =>
      match value.select selector with
      | .error thrown => .error thrown
      | .ok selected => selected.follow rest

/-- The downcast to a nullable text. -/
def asText : Json → Except Thrown (Option String)
  | .null => .ok none
  | .string text => .ok (some text)
  | _ => .error .typeError

/-- The downcast to a text. -/
def asString : Json → Except Thrown String
  | .string text => .ok text
  | _ => .error .typeError

/-- The cast to a map; null is not one. -/
def asMap : Json → Except Thrown Json
  | .object fields => .ok (.object fields)
  | _ => .error .typeError

/-- The downcast to a nullable integer. A double is not one. -/
def asInt : Json → Except Thrown (Option Int)
  | .null => .ok none
  | .int value => .ok (some value)
  | _ => .error .typeError

mutual

/-- `toString` of a value; how doubles are printed is left open. -/
def printed (printDouble : ℚ → String) : Json → String
  | .null => "null"
  | .bool value => toString value
  | .int value => toString value
  | .double value => printDouble value
  | .string text => text
  | .list items => "[" ++ ", ".intercalate (printedItems printDouble items) ++ "]"
  | .object fields => "\x7b" ++ ", ".intercalate (printedFields printDouble fields) ++ "\x7d"

def printedItems (printDouble : ℚ → String) : List Json → List String
  | [] => []
  | item :: rest => item.printed printDouble :: printedItems printDouble rest

def printedFields (printDouble : ℚ → String) : List (String × Json) → List String
  | [] => []
  | (name, field) :: rest =>
      (name ++ ": " ++ field.printed printDouble) :: printedFields printDouble rest

end

def item? : Json → Selector → Option Json
  | .object fields, .key name => fields.lookup name
  | .list items, .index position => items[position]?
  | _, _ => none

def find? (value : Json) : List Selector → Option Json
  | [] => some value
  | selector :: rest =>
      match value.item? selector with
      | none => none
      | some item => item.find? rest

def text? : Json → Option String
  | .string text => some text
  | _ => none

def int? : Json → Option Int
  | .int value => some value
  | _ => none

def readText (value : Json) (path : List Selector) : Except Thrown (Option String) :=
  (value.follow path).bind asText

def readInt (value : Json) (path : List Selector) : Except Thrown (Option Int) :=
  (value.follow path).bind asInt

def findText (value : Json) (path : List Selector) : Option String :=
  (value.find? path).bind text?

def findInt (value : Json) (path : List Selector) : Option Int :=
  (value.find? path).bind int?

variable {value found : Json}

theorem bind_eq_ok {Error α β : Type} {first : Except Error α} {next : α → Except Error β}
    {result : β} :
    (first >>= next) = .ok result ↔ ∃ value, first = .ok value ∧ next value = .ok result := by
  cases first <;> simp [bind, Except.bind]

theorem asString_eq_ok {text : String} : value.asString = .ok text ↔ value = .string text := by
  cases value <;> simp [asString]

theorem select_of_item {selector : Selector} (present : value.item? selector = some found) :
    value.select selector = .ok found := by
  cases value with
  | object fields =>
      cases selector with
      | key name =>
          simp only [item?] at present
          simp only [select, present, Option.getD_some]
      | index position => cases present
  | list items =>
      cases selector with
      | key name => cases present
      | index position =>
          simp only [item?] at present
          simp only [select, present]
  | null | bool _ | int _ | double _ | string _ => cases selector <;> cases present

theorem follow_of_find {path : List Selector} (present : value.find? path = some found) :
    value.follow path = .ok found := by
  induction path generalizing value with
  | nil => simpa [find?, follow] using present
  | cons selector rest ih =>
      simp only [find?] at present
      split at present
      · cases present
      · next item selected =>
        simp only [follow, select_of_item selected]
        exact ih present

/-- A text leads nowhere by a path that ends with a key. -/
theorem follow_string_key (text : String) (path : List Selector) (name : String) :
    ∃ thrown, (Json.string text).follow (path ++ [.key name]) = .error thrown := by
  induction path generalizing text with
  | nil => exact ⟨.typeError, rfl⟩
  | cons selector rest ih =>
      cases selector with
      | key other => exact ⟨.typeError, rfl⟩
      | index position =>
          simp only [List.cons_append, follow, select]
          cases text.toList[position]? with
          | none => exact ⟨.rangeError, rfl⟩
          | some character => exact ih character.toString

theorem follow_null_key (path : List Selector) (name : String) :
    Json.null.follow (path ++ [.key name]) = .error .noSuchMethod := by
  cases path <;> rfl

theorem item_of_select_key {name : String} (selected : value.select (.key name) = .ok found)
    (proper : found ≠ .null) : value.item? (.key name) = some found := by
  cases value with
  | object fields =>
      simp only [select, Except.ok.injEq] at selected
      simp only [item?]
      cases present : fields.lookup name with
      | none =>
          rw [present] at selected
          exact absurd selected.symm proper
      | some field =>
          rw [present] at selected
          simpa using selected
  | null | bool _ | int _ | double _ | string _ | list _ => cases selected

theorem item_of_select_index {position : Nat}
    (selected : value.select (.index position) = .ok found) :
    value.item? (.index position) = some found ∨ found = .null ∨ ∃ text, found = .string text := by
  cases value with
  | list items =>
      simp only [select] at selected
      split at selected
      · next item present =>
        cases selected
        exact .inl present
      · cases selected
  | string text =>
      simp only [select] at selected
      split at selected
      · next character present =>
        cases selected
        exact .inr (.inr ⟨_, rfl⟩)
      · cases selected
  | object fields =>
      cases selected
      exact .inr (.inl rfl)
  | null | bool _ | int _ | double _ => cases selected

/-- Following a path to a key without an error, past null, finds what is there. -/
theorem find_of_follow {path : List Selector} {name : String}
    (followed : value.follow (path ++ [.key name]) = .ok found) (proper : found ≠ .null) :
    value.find? (path ++ [.key name]) = some found := by
  induction path generalizing value with
  | nil =>
      simp only [List.nil_append, follow] at followed
      split at followed
      · cases followed
      · next selected reached =>
        cases followed
        simp only [List.nil_append, find?, item_of_select_key reached proper]
  | cons selector rest ih =>
      simp only [List.cons_append, follow] at followed
      split at followed
      · cases followed
      · next selected reached =>
        have present : value.item? selector = some selected := by
          have some : selected ≠ .null := by
            rintro rfl
            rw [follow_null_key] at followed
            cases followed
          cases selector with
          | key other => exact item_of_select_key reached some
          | index position =>
              rcases item_of_select_index reached with here | null | ⟨text, same⟩
              · exact here
              · exact absurd null some
              · obtain ⟨thrown, failed⟩ := follow_string_key text rest name
                rw [same, failed] at followed
                cases followed
        simp only [List.cons_append, find?, present]
        exact ih followed

/-! ## Typed reading -/

theorem readText_of_findText {path : List Selector} {text : String}
    (present : value.findText path = some text) : value.readText path = .ok (some text) := by
  obtain ⟨reached, here, isText⟩ := Option.bind_eq_some_iff.mp present
  rw [readText, follow_of_find here]
  cases reached <;> cases isText
  rfl

theorem readInt_of_findInt {path : List Selector} {number : Int}
    (present : value.findInt path = some number) : value.readInt path = .ok (some number) := by
  obtain ⟨reached, here, isInt⟩ := Option.bind_eq_some_iff.mp present
  rw [readInt, follow_of_find here]
  cases reached <;> cases isInt
  rfl

theorem findText_of_readText {path : List Selector} {name text : String}
    (read : value.readText (path ++ [.key name]) = .ok (some text)) :
    value.findText (path ++ [.key name]) = some text := by
  cases followed : value.follow (path ++ [.key name]) with
  | error thrown =>
      rw [readText, followed] at read
      cases read
  | ok reached =>
      rw [readText, followed] at read
      cases reached with
      | string content =>
          cases read
          rw [findText, find_of_follow followed (by simp)]
          rfl
      | null | bool _ | int _ | double _ | list _ | object _ => cases read

theorem findInt_of_readInt {path : List Selector} {name : String} {number : Int}
    (read : value.readInt (path ++ [.key name]) = .ok (some number)) :
    value.findInt (path ++ [.key name]) = some number := by
  cases followed : value.follow (path ++ [.key name]) with
  | error thrown =>
      rw [readInt, followed] at read
      cases read
  | ok reached =>
      rw [readInt, followed] at read
      cases reached with
      | int content =>
          cases read
          rw [findInt, find_of_follow followed (by simp)]
          rfl
      | null | bool _ | string _ | double _ | list _ | object _ => cases read

end Json

end FilldRider.Documents
