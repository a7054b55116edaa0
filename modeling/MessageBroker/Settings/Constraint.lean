/-
# Security constraints

A constraint names the roles of which a principal must carry at least one. An empty
list of roles admits every authenticated principal.
-/

import MessageBroker.Document.Reading

namespace MessageBroker

/-- How principals are authenticated for a constraint. -/
inductive AuthMethod where
  | custom
  | basic
  deriving DecidableEq, Repr, Inhabited

namespace AuthMethod

/-- The name of a method. -/
def toText : AuthMethod → String
  | custom => "custom"
  | basic => "basic"

/-- Reads a method from a document. -/
def ofDocument : Manner → Document → Read.Result AuthMethod :=
  Read.choice [("custom", custom), ("basic", basic)]

end AuthMethod

/-- A named requirement on the roles of a principal. -/
structure Constraint where
  id : String
  method : AuthMethod
  roles : List String
  deriving DecidableEq, Repr, Inhabited

namespace Constraint

/-- The fields of a constraint in documents; its name is the key it stands under. -/
def fields (manner : Manner) : List (Read.Field Constraint) :=
  [⟨"method", fun d c => do return { c with method := ← AuthMethod.ofDocument manner d }⟩,
   ⟨"roles", fun d c => do return { c with roles := ← Read.list (Read.text manner) d }⟩]

/-- Reads a constraint from a document. -/
def ofDocument (manner : Manner) : Document → Read.Result Constraint :=
  Read.record manner (fields manner) ⟨"", .custom, []⟩

/-- A constraint as a table, without its name. -/
def toDocument (c : Constraint) : Document :=
  .ofMembers
    [("method", .text c.method.toText), ("roles", .list (c.roles.map .text))]

end Constraint

end MessageBroker
