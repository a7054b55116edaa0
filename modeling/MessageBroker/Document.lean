/-
# Documents

Settings, messages and management reports are exchanged as documents: trees of
scalars, lists and tables. A table keeps its members in ascending order of their
names and holds each name once, so that two tables with the same members are the same
value, whatever the order in which they were written.
-/

import MessageBroker.Decimal.Binary64

namespace MessageBroker

/-- A tree of scalars, lists and tables. -/
inductive Document where
  | null
  | bool (value : Bool)
  | int (value : Int)
  | float (value : Binary64)
  | text (value : String)
  | list (items : List Document)
  | table (members : List (String × Document))
  deriving Inhabited

namespace Document

/-- The members of a table, in ascending order of their names. -/
abbrev Members := List (String × Document)

namespace Members

/-- Sets a member, replacing one of the same name and keeping the order. -/
def put (key : String) (value : Document) : Members → Members
  | [] => [(key, value)]
  | (k, v) :: rest =>
    if key = k then (key, value) :: rest
    else if key < k then (key, value) :: (k, v) :: rest
    else (k, v) :: put key value rest

/-- Members in any order as a table; of two with one name the later one counts. -/
def ofList (members : List (String × Document)) : Members :=
  members.foldl (fun table (k, v) => put k v table) []

/-- The value of a member. -/
def get? (members : Members) (key : String) : Option Document := members.lookup key

theorem get?_put_self (key : String) (value : Document) (members : Members) :
    get? (put key value members) key = some value := by
  induction members with
  | nil => simp [put, get?]
  | cons m rest ih =>
    obtain ⟨k, v⟩ := m
    simp only [put]
    split
    · simp [get?]
    · split
      · simp [get?]
      · rename_i hne _
        have hbeq : (key == k) = false := by simpa using hne
        simp only [get?, List.lookup_cons, hbeq]
        exact ih

theorem get?_put_of_ne {key other : String} (h : other ≠ key) (value : Document)
    (members : Members) : get? (put key value members) other = get? members other := by
  have hbeq : (other == key) = false := by simpa using h
  induction members with
  | nil => simp [put, get?, List.lookup_cons, hbeq]
  | cons m rest ih =>
    obtain ⟨k, v⟩ := m
    simp only [put]
    split
    · rename_i hk
      subst hk
      simp [get?, List.lookup_cons, hbeq]
    · split
      · simp [get?, List.lookup_cons, hbeq]
      · simp only [get?, List.lookup_cons]
        split
        · rfl
        · exact ih

end Members

/-- A table of members given in any order. -/
def ofMembers (members : List (String × Document)) : Document :=
  .table (Members.ofList members)

/-- A table member, `none` also for a document that is no table. -/
def member? (d : Document) (key : String) : Option Document :=
  match d with
  | .table members => Members.get? members key
  | _ => none

/-- A text, or null when there is none. -/
def ofText? : Option String → Document
  | none => .null
  | some s => .text s

/-- A whole number, or null when there is none. -/
def ofInt? : Option Int → Document
  | none => .null
  | some i => .int i

/-- A natural number. -/
def ofNat (n : Nat) : Document := .int n

end Document

end MessageBroker
