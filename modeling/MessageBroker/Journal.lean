/-
# The journal as text

One line for each thing that a broker did to the world around it, for reading and for
comparing runs with each other. A dash stands for what is not there.
-/

import MessageBroker.Environment

namespace MessageBroker

/-- The body of a message as text; empty when its bytes are not UTF-8. -/
def Message.bodyText (m : Message) : String :=
  (String.fromUTF8? ⟨m.body.toArray⟩).getD ""

/-- A subscription as a line of text. -/
def Subscription.toText (s : Subscription) : String :=
  let frequency := match s.maxFrequency with
    | none => "-"
    | some n => toString n
  "#" ++ toString s.id ++ " " ++ s.destination ++ " " ++ s.client ++ " " ++ s.key.toText ++
    " max=" ++ frequency

/-- What a notice says, without its kind. -/
def Notice.toText : Notice → String
  | sessionCreated c => c
  | sessionTerminated c => c
  | subscribed s => s.toText
  | unsubscribed s reason => s.toText ++ " " ++ reason.toText
  | messageDelivered c m => c ++ " " ++ m.bodyText
  | messageDropped c m reason => c.getD "-" ++ " " ++ m.bodyText ++ " " ++ reason.toText
  | messageExpired c m => c ++ " " ++ m.bodyText

/-- The nodes that a message goes to, separated by commas. -/
def Targets.names : Targets → String
  | all => "all"
  | peers ids => ",".intercalate (ids.map toString)

/-- A message with its destination. -/
def Message.headline (m : Message) : String := m.destination ++ " " ++ m.bodyText

namespace Event

/-- A call of a bridge as text. -/
def bridgeCall : AdapterCall → String
  | .start id => "start " ++ id
  | .stop id => "stop " ++ id
  | .send id m => "send " ++ id ++ " " ++ m.bodyText

/-- A call of an adapter of the application as text; it is not told of a destination
beside the message. -/
def customCall : AdapterCall → String
  | .start id => "start " ++ id
  | .stop id => "stop " ++ id
  | .send _ m => "invoke " ++ m.bodyText

/-- An entry of the journal as a line of text. -/
def toText : Event → String
  | delivery c m => "deliver " ++ c ++ " " ++ m.headline
  | change id c => "change " ++ id ++ " " ++ c.kind.name ++ " " ++ c.key.toText
  | forward targets m => "forward " ++ targets.names ++ " " ++ m.headline
  | evaluation selector => "select " ++ selector
  | roleCheck p roles => "check " ++ p.name ++ " " ++ ",".intercalate roles
  | bridge name call => "bridge " ++ name ++ " " ++ bridgeCall call
  | custom name call => "custom " ++ name ++ " " ++ customCall call
  | notice n => "notice " ++ n.kind.name ++ " " ++ n.toText
  | hook name n => "hook " ++ name ++ " " ++ n.kind.name ++ " " ++ n.toText
  | hookUnsubscribed name removed =>
    "hook " ++ name ++ " unsubscribe -> " ++ (if removed then "true" else "false")
  | log level text => "log " ++ level.toText ++ " " ++ text

end Event

end MessageBroker
