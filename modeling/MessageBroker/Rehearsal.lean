/-
# Rehearsals

A rehearsal runs a broker with collaborators that do nothing but answer as a script says,
so that its behaviour can be studied without a network. Each call that may fail has a
switch; while the script refuses a switch, its calls fail and name the switch. Selectors
are equations between a header and a text, and the authorizer denies subtopics by how
they begin.

What was done is read off the journal. Not everything in it is a call of a scripted
collaborator: a notice is kept only for the handlers that it reaches, an adapter whose
name says that it is plain has no start and no stop of its own, the usual authorizer is
part of the broker, and log lines are kept only from some level on.
-/

import Std.Data.ExtTreeSet
import MessageBroker.Journal
import MessageBroker.Text.Blank

open Std

namespace MessageBroker

/-- How a scripted authorizer finds a principal. -/
inductive ScriptedCheck where
  | answer (satisfied : Bool)
  | failure
  /-- It looks at the roles. -/
  | byRole
  deriving DecidableEq, Repr, Inhabited

/-- An authorizer as a script describes it. -/
structure ScriptedAuthorizer where
  check : ScriptedCheck
  /-- How subtopics begin that may not be sent to. -/
  deniedSends : List String
  /-- How subtopics begin that may not be subscribed to. -/
  deniedSubscriptions : List String
  deriving DecidableEq, Repr, Inhabited

/-- What a handler does after it has been told. -/
inductive HandlerAction where
  /-- It disconnects the client that the notice is about. -/
  | disconnect
  /-- It ends the subscription that the notice is about. -/
  | unsubscribe
  deriving DecidableEq, Repr

/-- How the collaborators of a rehearsal behave. -/
structure Script where
  /-- The switches whose calls fail. -/
  refused : ExtTreeSet String
  cluster : Bool
  /-- The client that the cluster disconnects whenever it is told of a new key. -/
  disconnectedOnChange : Option ClientId
  /-- Whether selectors can be evaluated. -/
  selectors : Bool
  /-- The scripted authorizer, if it is not the usual one. -/
  authorizer : Option ScriptedAuthorizer
  /-- The level from which on log lines are kept, if any are. -/
  logLevel : Option LogLevel

namespace ScriptedAuthorizer

/-- The principal to whom no subtopic is denied. -/
def exempt : String := "root"

/-- The beginnings that are denied for an access. -/
def denied (a : ScriptedAuthorizer) : Access → List String
  | .send => a.deniedSends
  | .subscribe => a.deniedSubscriptions

/-- Whether a principal satisfies a requirement of one of several roles. -/
def satisfies (a : ScriptedAuthorizer) (p : Principal) (roles : List String) :
    Except Fault Bool :=
  match a.check with
  | .answer satisfied => .ok satisfied
  | .failure => .error "login backend down"
  | .byRole => Authorizer.byRole.satisfies p roles

/-- Whether an access to a subtopic is permitted. -/
def permits (a : ScriptedAuthorizer) (access : Access) (t : Subtopic)
    (principal : Option Principal) : Bool :=
  principal.any (·.name == exempt) ||
    !(a.denied access).any fun start => start.toList.isPrefixOf t.value.toList

/-- The authorizer that a script describes. -/
def authorizer (a : ScriptedAuthorizer) : Authorizer where
  satisfies := a.satisfies
  permits access _ t principal := a.permits access t principal

end ScriptedAuthorizer

namespace Script

/-- The answer of a call with a switch. -/
def answer (s : Script) (switch : String) : Answer :=
  if s.refused.contains switch then .error (switch ++ " refused") else .ok ()

/-- Sets or clears a switch; tells whether that changed anything. -/
def setRefused (s : Script) (switch : String) (refuse : Bool) : Script × Bool :=
  if refuse then ({ s with refused := s.refused.insert switch }, !s.refused.contains switch)
  else ({ s with refused := s.refused.erase switch }, s.refused.contains switch)

/-- Whether an adapter of a name has no start and no stop of its own. -/
def isPlain (name : String) : Bool := "plain".toList.isPrefixOf name.toList

/-- The answer of an adapter that is asked to start or to stop. -/
def lifecycleAnswer (s : Script) (call name : String) : Answer :=
  if isPlain name then .ok () else s.answer (call ++ ":" ++ name)

/-- Whether the body of a message begins with a text. -/
def bodyStarts (start : String) (m : Message) : Bool := start.toUTF8.toList.isPrefixOf m.body

/-- Evaluates an equation between a header, or the body, and a text. -/
def evaluate : Evaluator := fun selector headers body =>
  let cs := selector.toList
  let name := Text.trim (String.ofList (cs.takeWhile (· ≠ '=')))
  match cs.dropWhile (· ≠ '=') with
  | [] => .error s!"bad selector `{selector}`"
  | _ :: rest =>
    let value := Text.trim (String.ofList rest)
    if name = "body" then .ok (body == value.toUTF8.toList)
    else
      match headers.get? name with
      | some (.text s) => .ok (s == value)
      | _ => .ok false

/-- The scripted cluster. -/
def otherNodes (s : Script) : Cluster where
  tellChange _ _ := s.answer "change"
  callback _ change :=
    match change.kind with
    | .added => s.disconnectedOnChange.map .disconnect
    | .removed => none
  forward _ _ := s.answer "forward"

/-- The scripted bridge of a name. -/
def bridge (s : Script) (name : String) : Bridge where
  start _ := s.lifecycleAnswer "start" name
  stop _ := s.lifecycleAnswer "stop" name
  send _ _ := s.answer ("send:" ++ name)

/-- The scripted adapter of a name. The body of a message says what becomes of it. -/
def custom (s : Script) (name : String) : CustomAdapter where
  start _ := s.lifecycleAnswer "start" name
  stop _ := s.lifecycleAnswer "stop" name
  invoke m :=
    if bodyStarts "fail" m then .error (name ++ " backend unavailable")
    else if bodyStarts "drop" m then .ok .consumed
    else .ok .fanout

/-- The environment of an operation at a time. -/
def environment (s : Script) (now : Timestamp) : Environment where
  now := now
  deliver c _ := s.answer ("deliver:" ++ c)
  cluster := if s.cluster then some s.otherNodes else none
  authorizer := (s.authorizer.map (·.authorizer)).getD .byRole
  evaluator := if s.selectors then some evaluate else none
  bridge := s.bridge
  custom := s.custom

/-- A handler of a rehearsal. -/
def handler (name : String) (proceeds : Bool) (action : Option HandlerAction) : Handler where
  name := name
  proceeds _ := proceeds
  callback notice :=
    match action with
    | none => none
    | some .disconnect => notice.client?.map .disconnect
    | some .unsubscribe => notice.subscription?.map .unsubscribe

/-- Whether a call of an adapter reaches it. -/
def reaches (name : String) : AdapterCall → Bool
  | .send .. => true
  | _ => !isPlain name

/-- Whether an entry of the journal is kept. -/
def keeps (s : Script) (evaluations : Bool) : Event → Bool
  | .evaluation _ => evaluations
  | .roleCheck .. => s.authorizer.isSome
  | .bridge name call => reaches name call
  | .custom name call => reaches name call
  | .notice _ => false
  | .log level _ => s.logLevel.any level.isAtLeast
  | _ => true

/-- The lines of a journal that are kept, in its order. -/
def transcript (s : Script) (evaluations : Bool) (journal : List Event) : List String :=
  (journal.filter (s.keeps evaluations)).map (·.toText)

end Script

end MessageBroker
