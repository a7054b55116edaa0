/-
# Matching subscriptions

Which subscriptions of a destination a message is for: those whose subtopic filter admits
one of its subtopics and whose selector, if there is one, holds for its headers and body.
Each selector is evaluated once per message, however many subscriptions share it. The
same question is asked about the keys that other nodes have announced.
-/

import MessageBroker.Broker.Build

namespace MessageBroker

namespace Broker

/-- What selectors are evaluated on. -/
structure Content where
  headers : Headers
  body : List UInt8

/-- Evaluates a selector. Without an evaluator no selector holds, and neither does one
whose evaluation fails. -/
def evaluate (env : Environment) (content : Content) (selector : Selector) (b : Broker) :
    Broker × Bool :=
  match env.evaluator with
  | none =>
    (b.log .warning s!"no selector evaluator configured, selector `{selector}` does not match",
      false)
  | some evaluator =>
    let b := b.record (.evaluation selector)
    match evaluator selector content.headers content.body with
    | .ok holds => (b, holds)
    | .error fault =>
      (b.log .warning s!"selector `{selector}` evaluation failed, {fault}", false)

/-- The answers to selectors that were evaluated for a message. -/
abbrev Verdicts := List (Selector × Bool)

/-- Evaluates a selector unless its answer is known. -/
def consult (env : Environment) (content : Content) (selector : Selector) (known : Verdicts)
    (b : Broker) : Broker × Verdicts × Bool :=
  match known.lookup selector with
  | some holds => (b, known, holds)
  | none =>
    let (b, holds) := evaluate env content selector b
    (b, (selector, holds) :: known, holds)

/-- The candidates whose selectors hold, in their order. -/
def select (env : Environment) (content : Content) : List Subscription → Verdicts → Broker →
    Broker × List Subscription
  | [], _, b => (b, [])
  | s :: rest, known, b =>
    match s.selector with
    | none =>
      let (b, matched) := select env content rest known b
      (b, s :: matched)
    | some selector =>
      let (b, known, holds) := consult env content selector known b
      let (b, matched) := select env content rest known b
      (b, if holds then s :: matched else matched)

/-- The subscriptions of a destination that a message is for, in the order of their
numbers. -/
def matchingSubscriptions (env : Environment) (d : Destination) (ts : List Subtopic)
    (content : Content) (b : Broker) : Broker × List Subscription :=
  select env content (d.registry.candidates ts) [] b

/-- Whether a key that another node announced admits one of the subtopics. A key whose
subtopic cannot be read admits nothing, which is logged. -/
def keyAdmits (d : Destination) (ts : List Subtopic) (peer : PeerId) (key : SubscriptionKey)
    (b : Broker) : Broker × Bool :=
  match key.subtopic with
  | none => (b, true)
  | some text =>
    match Subtopic.parse text d.settings.separator with
    | .ok pattern => (b, ts.any (·.matchedBy pattern))
    | .error e =>
      let message := (BrokerError.subtopic e).message
      (b.log .warning s!"{d.id} peer {peer} sent an unusable subtopic, {message}", false)

/-- Whether one of the keys of another node matches; the first that does ends the
search. -/
def anyKeyMatches (env : Environment) (d : Destination) (ts : List Subtopic) (content : Content)
    (peer : PeerId) : List SubscriptionKey → Broker → Broker × Bool
  | [], b => (b, false)
  | key :: rest, b =>
    let (b, admitted) := keyAdmits d ts peer key b
    let (b, holds) := match admitted, key.selector with
      | false, _ => (b, false)
      | true, none => (b, true)
      | true, some selector => evaluate env content selector b
    if holds then (b, true) else anyKeyMatches env d ts content peer rest b

/-- The other nodes of a list that have a matching key. -/
def selectPeers (env : Environment) (d : Destination) (ts : List Subtopic) (content : Content) :
    List (PeerId × List SubscriptionKey) → Broker → Broker × List PeerId
  | [], b => (b, [])
  | (peer, keys) :: rest, b =>
    let (b, isMatch) := anyKeyMatches env d ts content peer keys b
    let (b, peers) := selectPeers env d ts content rest b
    (b, if isMatch then peer :: peers else peers)

/-- The other nodes with a key that matches a message, in ascending order. -/
def matchingPeers (env : Environment) (d : Destination) (ts : List Subtopic) (content : Content)
    (b : Broker) : Broker × List PeerId :=
  selectPeers env d (Registry.subtopicsOrEmpty d.settings.separator ts) content d.remote.toList b

/-- The clients of a list of subscriptions, each once and in ascending order. -/
def clientsOf (subs : List Subscription) : List ClientId :=
  (Std.ExtTreeSet.ofList (subs.map (·.client))).toList

/-- The clients with subscriptions that match a message with the given parts. -/
def findMatching (env : Environment) (id : DestinationId) (subtopics : List String)
    (content : Content) (b : Broker) : Broker × Except BrokerError (List ClientId) :=
  match (do
    let d ← b.requireDestination id
    let ts ← d.parseMessageSubtopics subtopics
    return (d, ts) : Except BrokerError _) with
  | .error e => (b, .error e)
  | .ok (d, ts) =>
    let (b, subs) := matchingSubscriptions env d ts content b
    (b, .ok (clientsOf subs))

end Broker

end MessageBroker
