/-
# Links to other nodes

Whether a message goes on to other nodes, and to which, depends on the routing mode of its
destination and on the keys that the other nodes have announced there; and when the cluster has
taken it, it is counted. These are the links of a destination. Nothing but forwarding looks at
them or changes them, and forwarding looks at nothing that changes while a message is on its way.

So two brokers that differ in their links alone route every message alike, whatever the cluster
makes of it: up to the end, where forwarding may leave a few entries in the journals, the two
write the same ones.
-/

import MessageBroker.Proofs.Broker.Entries
import MessageBroker.Proofs.Broker.Likeness

open Std

namespace MessageBroker

/-- Two destinations differ at most in their routing modes, in what other nodes have announced
there, and in how many messages the cluster took. -/
def Destination.SameButLinks (d d' : Destination) : Prop :=
  ∃ routingMode remote forwarded, d' =
    { d with
      settings := { d.settings with routingMode }
      remote
      totals := { d.totals with forwarded } }

namespace Destination.SameButLinks

variable {d d' d'' : Destination}

theorem refl (d : Destination) : d.SameButLinks d := ⟨_, _, _, rfl⟩

theorem symm (h : d.SameButLinks d') : d'.SameButLinks d := by
  obtain ⟨_, _, _, rfl⟩ := h
  exact ⟨d.settings.routingMode, d.remote, d.totals.forwarded, rfl⟩

theorem trans (h : d.SameButLinks d') (h' : d'.SameButLinks d'') : d.SameButLinks d'' := by
  obtain ⟨_, _, _, rfl⟩ := h
  obtain ⟨_, _, _, rfl⟩ := h'
  exact ⟨_, _, _, rfl⟩

theorem id_eq (h : d.SameButLinks d') : d'.id = d.id := by
  obtain ⟨_, _, _, rfl⟩ := h
  rfl

theorem limiter_eq (h : d.SameButLinks d') : d'.limiter = d.limiter := by
  obtain ⟨_, _, _, rfl⟩ := h
  rfl

theorem adapter_eq (h : d.SameButLinks d') : d'.adapter = d.adapter := by
  obtain ⟨_, _, _, rfl⟩ := h
  rfl

theorem started_eq (h : d.SameButLinks d') : d'.started = d.started := by
  obtain ⟨_, _, _, rfl⟩ := h
  rfl

theorem constraintOn_eq (h : d.SameButLinks d') (access : Access) :
    d'.constraintOn access = d.constraintOn access := by
  obtain ⟨_, _, _, rfl⟩ := h
  rfl

theorem parseMessageSubtopics_eq (h : d.SameButLinks d') (texts : List String) :
    d'.parseMessageSubtopics texts = d.parseMessageSubtopics texts := by
  obtain ⟨_, _, _, rfl⟩ := h
  rfl

end Destination.SameButLinks

theorem Totals.IsLocal.setForwarded {change : Totals → Totals} (h : IsLocal change) (t : Totals)
    (forwarded : Nat) : change { t with forwarded } = { change t with forwarded } := by
  have hsame : change t = { change t with
      received := t.received, fromPeers := t.fromPeers, fromAdapter := t.fromAdapter,
      forwarded := t.forwarded } := h t t.received t.fromPeers t.fromAdapter t.forwarded
  have hset := h t t.received t.fromPeers t.fromAdapter forwarded
  generalize change t = t' at hsame hset
  rw [hsame]
  exact hset

/-- Brokers whose destinations differ in their links alone, with equal limiters and sessions. -/
def Likeness.links : Likeness where
  __ := exact
  destination := Destination.SameButLinks
  id_eq := by rintro _ _ ⟨_, _, _, rfl⟩; rfl
  messageTtl_eq := by rintro _ _ ⟨_, _, _, rfl⟩; rfl
  registry_eq := by rintro _ _ ⟨_, _, _, rfl⟩; rfl
  announcing_eq := by rintro _ _ ⟨_, _, _, rfl⟩; rfl
  limiters := by rintro _ _ ⟨_, _, _, rfl⟩; rfl
  setRegistry := by rintro _ _ ⟨_, _, _, rfl⟩ _; exact ⟨_, _, _, rfl⟩
  setAnnouncing := by rintro _ _ ⟨_, _, _, rfl⟩ _; exact ⟨_, _, _, rfl⟩
  setLimiter := by rintro _ _ _ _ ⟨_, _, _, rfl⟩ rfl; exact ⟨_, _, _, rfl⟩
  onTotals := by
    rintro d _ change ⟨mode, remote, forwarded, rfl⟩ hlocal
    exact ⟨mode, remote, forwarded, by rw [hlocal.setForwarded]⟩

/-- Environments that differ at most in what the cluster makes of messages. -/
structure Environment.SameButForward (env env' : Environment) : Prop extends env.Alike env' where
  authorizer : env'.authorizer = env.authorizer
  bridge : env'.bridge = env.bridge
  custom : env'.custom = env.custom

/-- Two answers are the same error, or values in a relation. -/
inductive SameAnswer {ε α β : Type} (R : α → β → Prop) : Except ε α → Except ε β → Prop
  | error (e : ε) : SameAnswer R (.error e) (.error e)
  | ok {a : α} {a' : β} (h : R a a') : SameAnswer R (.ok a) (.ok a')

/-- Whether an entry of the journal is one that forwarding leaves. -/
def Event.IsForwarding : Event → Prop
  | .forward .. | .evaluation _ | .log .. => True
  | _ => False

namespace Broker

variable {env env' : Environment} {j j' : List Event} {b b' b₁ b₁' : Broker} {ctx ctx' : Context}
  {id : DestinationId} {d d' : Destination} {m : Message} {ts : List Subtopic}

/-! ## Fan-outs as the last step -/

/-- A fan-out that may not go on to other nodes is a local delivery. -/
theorem fanout_eq_deliverLocal (ctx : Context) (d : Destination) (m : Message)
    (ts : List Subtopic) (only : Option ClientId) (b : Broker) :
    fanout ctx d m ts only false b = deliverLocal ctx d m ts only b := by
  rw [fanout]
  generalize deliverLocal ctx d m ts only b = delivered
  rfl

theorem routeFromPeer_of_ok (env : Environment) (hlocated : locate m b = .ok (d, ts)) :
    routeFromPeer env m b =
      let fannedOut := fanout (b.context env) d m ts none false
        (b.onTotals d.id fun t => { t with fromPeers := t.fromPeers + 1 })
      (fannedOut.1, .ok fannedOut.2) := by
  rw [routeFromPeer, hlocated]

theorem routeFromAdapter_of_ok (env : Environment) (toAll : Bool)
    (hlocated : locate m b = .ok (d, ts)) :
    routeFromAdapter env m toAll b =
      let fannedOut := fanout (b.context env) d m ts (Entry.only m (.adapter toAll)) toAll
        (b.onTotals d.id fun t => { t with fromAdapter := t.fromAdapter + 1 })
      (fannedOut.1, .ok fannedOut.2) := by
  rw [routeFromAdapter, hlocated]
  cases toAll with
  | true =>
    dsimp only
    rw [if_pos rfl]
    rfl
  | false =>
    dsimp only
    rw [if_neg Bool.false_ne_true]
    rfl

theorem passOn_of_fanout (h : invoke ctx.env d.adapter m b = (b₁, .ok .fanout)) :
    passOn ctx d m ts b =
      ((fanout ctx d m ts none true b₁).1, .ok (fanout ctx d m ts none true b₁).2) := by
  rw [passOn, h]

/-! ## What forwarding leaves behind -/

/-- Counts a message that was forwarded, if the cluster took it. -/
def countForwarded (id : DestinationId) (taken : Bool) (b : Broker) : Broker :=
  if taken then b.onTotals id fun t => { t with forwarded := t.forwarded + 1 } else b

theorem exists_journals_tellMessage (env : Environment) (id : DestinationId) (targets : Targets)
    (m : Message) (b : Broker) :
    ∃ b₁, Journals Event.IsForwarding b b₁ ∧ (tellMessage env id targets m b).1 =
      countForwarded id (tellMessage env id targets m b).2 b₁ := by
  rw [tellMessage]
  cases env.cluster with
  | none => exact ⟨b, .refl _ b, rfl⟩
  | some cluster =>
    have htold : Journals Event.IsForwarding b (b.record (.forward targets m)) :=
      journals_record trivial b
    dsimp only
    cases cluster.forward targets m with
    | ok _ => exact ⟨_, htold, rfl⟩
    | error fault => exact ⟨_, htold.trans (journals_record trivial _), rfl⟩

/-- Forwarding at most writes entries of its own and counts a message that was taken. -/
theorem exists_journals_forward (env : Environment) (id : DestinationId) (m : Message)
    (ts : List Subtopic) (b : Broker) :
    ∃ b₁, Journals Event.IsForwarding b b₁ ∧ (forward env id m ts b).1 =
      countForwarded id (forward env id m ts b).2 b₁ := by
  rw [forward]
  cases b.destination? id with
  | none => exact ⟨b, .refl _ b, rfl⟩
  | some d =>
    dsimp only
    cases d.settings.routingMode with
    | none => exact ⟨b, .refl _ b, rfl⟩
    | broadcast => exact exists_journals_tellMessage env id .all m b
    | serverToServer =>
      have hlooked : Journals Event.IsForwarding b (matchingPeers env d ts (contentOf m) b).1 :=
        (lookups_matchingPeers env d ts (contentOf m) b).mono fun e he => by cases e <;> trivial
      dsimp only
      split
      · exact ⟨_, hlooked, rfl⟩
      · obtain ⟨b₁, htold, hcounted⟩ := exists_journals_tellMessage env id
          (.peers (matchingPeers env d ts (contentOf m) b).2) m
          (matchingPeers env d ts (contentOf m) b).1
        exact ⟨b₁, hlooked.trans htold, hcounted⟩

/-- A fan-out is a local delivery, after which a message may have been forwarded. -/
theorem exists_journals_fanout (ctx : Context) (d : Destination) (m : Message)
    (ts : List Subtopic) (only : Option ClientId) (propagate : Bool) (b : Broker) :
    ∃ b₁ taken, Journals Event.IsForwarding (deliverLocal ctx d m ts only b).1 b₁ ∧
      fanout ctx d m ts only propagate b = (countForwarded d.id taken b₁,
        { (deliverLocal ctx d m ts only b).2 with forwarded := taken }) := by
  cases propagate with
  | false =>
    have hnot : (deliverLocal ctx d m ts only b).2.forwarded = false := rfl
    refine ⟨_, false, .refl _ _, ?_⟩
    rw [fanout_eq_deliverLocal]
    generalize deliverLocal ctx d m ts only b = delivered at hnot ⊢
    obtain ⟨b₁, result⟩ := delivered
    cases result
    cases hnot
    rfl
  | true =>
    obtain ⟨b₁, hjournals, hcounted⟩ :=
      exists_journals_forward ctx.env d.id m ts (deliverLocal ctx d m ts only b).1
    refine ⟨b₁, (forward ctx.env d.id m ts (deliverLocal ctx d m ts only b).1).2, hjournals, ?_⟩
    rw [fanout_of_deliverLocal Prod.mk.eta.symm, hcounted]

/-- Two brokers differ in their links alone; and since their journals were as given, both have
written the same entries, but for what forwarding left at the end. -/
structure Trails (j j' : List Event) (b b' : Broker) : Prop extends Like .links b b' where
  journal : ∃ entries tail tail', (∀ e ∈ tail ++ tail', e.IsForwarding) ∧
    b.journal = j ++ entries ++ tail ∧ b'.journal = j' ++ entries ++ tail'

theorem Akin.trails (h : Akin .links j j' b b') : Trails j j' b b' := by
  obtain ⟨entries, hb, hb'⟩ := h.journal
  exact ⟨h.toLike, entries, [], [], List.forall_mem_nil _,
    hb.trans (List.append_nil _).symm, hb'.trans (List.append_nil _).symm⟩

theorem Trails.journals (h : Trails j j' b b') (hb : Journals Event.IsForwarding b b₁)
    (hb' : Journals Event.IsForwarding b' b₁') : Trails j j' b₁ b₁' := by
  obtain ⟨entries, tail, tail', hkind, hj, hj'⟩ := h.journal
  obtain ⟨more, hmore, rfl⟩ := hb
  obtain ⟨more', hmore', rfl⟩ := hb'
  refine ⟨⟨h.destinations, h.sessions, h.bare⟩, entries, tail ++ more, tail' ++ more', ?_, ?_, ?_⟩
  · simp only [List.forall_mem_append] at hkind ⊢
    exact ⟨⟨hkind.1, hmore⟩, hkind.2, hmore'⟩
  · rw [hj, List.append_assoc]
  · rw [hj', List.append_assoc]

theorem exists_map_countForwarded (id : DestinationId) (taken : Bool) (b : Broker) :
    ∃ change : Destination → Destination, (∀ d : Destination, d.SameButLinks (change d)) ∧
      countForwarded id taken b = { b with destinations := b.destinations.map change } := by
  cases taken with
  | false => exact ⟨fun d => d, .refl, by rw [List.map_id']; rfl⟩
  | true =>
    refine ⟨_, fun d => ?_, rfl⟩
    split
    · exact ⟨_, _, _, rfl⟩
    · exact .refl d

theorem Trails.countForwarded (h : Trails j j' b b') (id id' : DestinationId)
    (taken taken' : Bool) :
    Trails j j' (countForwarded id taken b) (countForwarded id' taken' b') := by
  obtain ⟨change, hchange, hb⟩ := exists_map_countForwarded id taken b
  obtain ⟨change', hchange', hb'⟩ := exists_map_countForwarded id' taken' b'
  rw [hb, hb']
  refine ⟨⟨?_, h.sessions, h.bare⟩, h.journal⟩
  rw [List.forall₂_map_left_iff, List.forall₂_map_right_iff]
  exact h.destinations.imp fun d d' hd => ((hchange d).symm.trans hd).trans (hchange' d')

/-! ## Two runs -/

/-- Two results are the same but for whether the message was forwarded. -/
def SameButForwarded (result result' : RouteResult) : Prop :=
  { result' with forwarded := result.forwarded } = result

theorem Akin.fanout (hctx : ctx.Akin .links ctx') (h : Akin .links j j' b b')
    (hd : d.SameButLinks d') (m : Message) (ts : List Subtopic) (only : Option ClientId)
    (propagate propagate' : Bool) :
    Trails j j' (fanout ctx d m ts only propagate b).1 (fanout ctx' d' m ts only propagate' b').1 ∧
      SameButForwarded (fanout ctx d m ts only propagate b).2
        (fanout ctx' d' m ts only propagate' b').2 := by
  obtain ⟨hdelivered, hresult⟩ := h.deliverLocal hctx hd m ts only
  obtain ⟨b₁, taken, hjournals, hfanout⟩ := exists_journals_fanout ctx d m ts only propagate b
  obtain ⟨b₁', taken', hjournals', hfanout'⟩ :=
    exists_journals_fanout ctx' d' m ts only propagate' b'
  rw [hfanout, hfanout', hresult]
  refine ⟨(hdelivered.trails.journals hjournals hjournals').countForwarded .., ?_⟩
  generalize (Broker.deliverLocal ctx d m ts only b).2 = result
  rfl

theorem Akin.requireStarted (h : Akin .links j j' b b') (id : DestinationId) :
    SameAnswer Destination.SameButLinks (b.requireStarted id) (b'.requireStarted id) := by
  obtain ⟨hd, hd'⟩ | ⟨d, d', hd, hd', hrel⟩ := cases_of_rel (h.destination? id)
  · rw [requireStarted_of_none hd, requireStarted_of_none hd']
    exact .error _
  · rw [requireStarted_of_some hd, requireStarted_of_some hd', hrel.started_eq]
    split
    · exact .ok hrel
    · exact .error _

/-- Both brokers lead a message to the same place. -/
def SamePlace (place place' : Destination × List Subtopic) : Prop :=
  place.1.SameButLinks place'.1 ∧ place'.2 = place.2

theorem Akin.locate (h : Akin .links j j' b b') (m : Message) :
    SameAnswer SamePlace (locate m b) (locate m b') := by
  have hstarted := h.requireStarted m.destination
  rw [Broker.locate, Broker.locate]
  generalize b.requireStarted m.destination = answer, b'.requireStarted m.destination = answer'
    at hstarted
  cases hstarted with
  | error e => exact .error e
  | @ok d d' hd =>
    show SameAnswer SamePlace (d.parseMessageSubtopics m.subtopics >>= fun ts => pure (d, ts))
      (d'.parseMessageSubtopics m.subtopics >>= fun ts => pure (d', ts))
    rw [hd.parseMessageSubtopics_eq]
    cases d.parseMessageSubtopics m.subtopics with
    | error e => exact .error e
    | ok ts => exact .ok ⟨hd, rfl⟩

theorem Akin.principal?_eq (h : Akin .links j j' b b') (c : ClientId) :
    b'.principal? c = b.principal? c := by
  obtain ⟨hs, hs'⟩ | ⟨s, _, hs, hs', rfl⟩ := cases_of_rel (h.sessions c)
  · rw [principal?, principal?, hs, hs']
  · rw [principal?, principal?, hs, hs']

theorem Akin.authorize (henv : env.SameButForward env') (h : Akin .links j j' b b')
    (hd : d.SameButLinks d') (access : Access) (principal : Option Principal) :
    Alike₂ .links j j' (authorize env access d principal b)
      (authorize env' access d' principal b') := by
  rw [Broker.authorize, Broker.authorize, hd.constraintOn_eq, hd.id_eq, henv.authorizer]
  cases d.constraintOn access with
  | none => exact ⟨h, rfl⟩
  | some constraint =>
    cases principal with
    | none => exact ⟨h, rfl⟩
    | some p =>
      dsimp only
      split
      · exact ⟨h, rfl⟩
      · have hasked := h.record (.roleCheck p constraint.roles)
        split
        · exact ⟨hasked, rfl⟩
        · exact ⟨hasked, rfl⟩
        · exact ⟨hasked, rfl⟩

theorem checkSubtopics_eq (henv : env.SameButForward env') (hd : d.SameButLinks d')
    (principal : Option Principal) (ts : List Subtopic) :
    checkSubtopics env' d' principal ts = checkSubtopics env d principal ts := by
  have hcheck : authorizeSubtopic env' .send d' principal =
      authorizeSubtopic env .send d principal := by
    funext t
    rw [authorizeSubtopic, authorizeSubtopic, henv.authorizer, hd.id_eq]
  rw [checkSubtopics, checkSubtopics, hcheck]

theorem Akin.passGate (henv : env.SameButForward env') (h : Akin .links j j' b b') (m : Message) :
    Akin .links j j' (passGate env m b).1 (passGate env' m b').1 ∧
      SameAnswer SamePlace (passGate env m b).2 (passGate env' m b').2 := by
  have hstarted := h.requireStarted m.destination
  rw [Broker.passGate, Broker.passGate]
  generalize b.requireStarted m.destination = answer, b'.requireStarted m.destination = answer'
    at hstarted
  cases hstarted with
  | error e => exact ⟨h, .error e⟩
  | @ok d d' hd =>
    have hauthorized := h.authorize henv hd .send (b.principal? m.client)
    dsimp only
    rw [h.principal?_eq, authorizeSend, authorizeSend]
    generalize Broker.authorize env .send d (b.principal? m.client) b = answer,
      Broker.authorize env' .send d' (b.principal? m.client) b' = answer' at hauthorized
    obtain ⟨b₁, answer⟩ := answer
    obtain ⟨b₁', answer'⟩ := answer'
    obtain ⟨hasked, hsame⟩ := hauthorized
    cases hsame
    cases answer with
    | error e => exact ⟨hasked, .error e⟩
    | ok _ =>
      refine ⟨hasked, ?_⟩
      dsimp only
      rw [hd.parseMessageSubtopics_eq]
      cases d.parseMessageSubtopics m.subtopics with
      | error e => exact .error e
      | ok ts =>
        show SameAnswer SamePlace
          (checkSubtopics env d (b.principal? m.client) ts >>= fun _ => pure (d, ts))
          (checkSubtopics env' d' (b.principal? m.client) ts >>= fun _ => pure (d', ts))
        rw [checkSubtopics_eq henv hd]
        cases checkSubtopics env d (b.principal? m.client) ts with
        | error e => exact .error e
        | ok _ => exact .ok ⟨hd, rfl⟩

/-- A change of totals makes no difference unless it looks at the messages that were forwarded. -/
theorem Akin.count (h : Akin .links j j' b b') (id : DestinationId) (change : Totals → Totals)
    (hchange : ∀ t forwarded, change { t with forwarded } = { change t with forwarded }) :
    Akin .links j j' (b.onTotals id change) (b'.onTotals id change) := by
  apply h.onDestination
  rintro d _ ⟨mode, remote, forwarded, rfl⟩
  exact ⟨mode, remote, forwarded, by rw [hchange]⟩

theorem Akin.receive (henv : env.SameButForward env') (h : Akin .links j j' b b')
    (hd : d.SameButLinks d') (m : Message) :
    Akin .links j j' (receive env d m b) (receive env' d' m b') := by
  rw [Broker.receive, Broker.receive, hd.id_eq, henv.now]
  have hcounted := h.count d.id (fun t => { t with received := t.received + 1 }) fun _ _ => rfl
  exact hcounted.touch m.client env.now

theorem Akin.checkInbound (henv : env.SameButForward env') (h : Akin .links j j' b b')
    (hd : d.SameButLinks d') (m : Message) :
    Alike₂ .links j j' (checkInbound env d m b) (checkInbound env' d' m b') := by
  rw [Broker.checkInbound, Broker.checkInbound, hd.id_eq, hd.limiter_eq, henv.now]
  have hchecked := h.onDestination d.id fun _ _ hd =>
    Likeness.links.setLimiter hd (rfl : (d.limiter.check .inbound m.client none env.now).1 = _)
  dsimp only
  split
  · exact ⟨hchecked, rfl⟩
  · exact ⟨hchecked.count d.id (fun t => { t with inboundThrottled := t.inboundThrottled + 1 })
      fun _ _ => rfl, rfl⟩

theorem Akin.invoke (henv : env.SameButForward env') (h : Akin .links j j' b b')
    (adapter : Adapter) (m : Message) :
    Alike₂ .links j j' (invoke env adapter m b) (invoke env' adapter m b') := by
  cases adapter with
  | plain => exact ⟨h, rfl⟩
  | bridge name =>
    rw [Broker.invoke, Broker.invoke, henv.bridge]
    exact ⟨h.record _, rfl⟩
  | custom name =>
    rw [Broker.invoke, Broker.invoke, henv.custom]
    exact ⟨h.record _, rfl⟩

/-- Two runs have routed a message alike, but for whether and where it was forwarded. -/
def RoutedAlike (j j' : List Event) (x x' : Broker × Except BrokerError RouteResult) : Prop :=
  Trails j j' x.1 x'.1 ∧ SameAnswer SameButForwarded x.2 x'.2

theorem Akin.routedAlike (h : Akin .links j j' b b') (answer : Except BrokerError RouteResult) :
    RoutedAlike j j' (b, answer) (b', answer) := by
  refine ⟨h.trails, ?_⟩
  cases answer with
  | error e => exact .error e
  | ok result => exact .ok rfl

theorem Akin.routedAlike_fanout (hctx : ctx.Akin .links ctx') (h : Akin .links j j' b b')
    (hd : d.SameButLinks d') (m : Message) (ts : List Subtopic) (only : Option ClientId)
    (propagate : Bool) :
    RoutedAlike j j'
      ((Broker.fanout ctx d m ts only propagate b).1,
        .ok (Broker.fanout ctx d m ts only propagate b).2)
      ((Broker.fanout ctx' d' m ts only propagate b').1,
        .ok (Broker.fanout ctx' d' m ts only propagate b').2) := by
  obtain ⟨htrails, hresult⟩ := h.fanout hctx hd m ts only propagate propagate
  exact ⟨htrails, .ok hresult⟩

theorem Akin.passOn (hctx : ctx.Akin .links ctx') (henv : ctx.env.SameButForward ctx'.env)
    (h : Akin .links j j' b b') (hd : d.SameButLinks d') (m : Message) (ts : List Subtopic) :
    RoutedAlike j j' (passOn ctx d m ts b) (passOn ctx' d' m ts b') := by
  have hinvoked := h.invoke henv d.adapter m
  rw [← hd.adapter_eq] at hinvoked
  generalize hanswer : Broker.invoke ctx.env d'.adapter m b = answer,
    hanswer' : Broker.invoke ctx'.env d'.adapter m b' = answer' at hinvoked
  rw [hd.adapter_eq] at hanswer
  obtain ⟨b₁, answer⟩ := answer
  obtain ⟨b₁', answer'⟩ := answer'
  obtain ⟨hasked, hsame⟩ := hinvoked
  cases hsame
  cases answer with
  | error e =>
    have hreturned : Akin .links j j'
        (b₁.onDestination d.id fun d => { d with limiter := d.limiter.releaseInbound m.client })
        (b₁'.onDestination d.id fun d =>
          { d with limiter := d.limiter.releaseInbound m.client }) := by
      apply hasked.onDestination
      rintro d _ ⟨mode, remote, forwarded, rfl⟩
      exact ⟨mode, remote, forwarded, rfl⟩
    rw [Broker.passOn, Broker.passOn, hanswer, hanswer', hd.id_eq]
    exact hreturned.routedAlike (.error e)
  | ok invocation =>
    cases invocation with
    | consumed =>
      rw [Broker.passOn, Broker.passOn, hanswer, hanswer']
      exact hasked.routedAlike _
    | fanout =>
      rw [passOn_of_fanout hanswer, passOn_of_fanout hanswer']
      exact hasked.routedAlike_fanout hctx hd m ts none true

theorem Akin.routeMessage (henv : env.SameButForward env') (h : Akin .links j j' b b')
    (m : Message) : RoutedAlike j j' (routeMessage env m b) (routeMessage env' m b') := by
  have hgate := h.passGate henv m
  rw [Broker.routeMessage, Broker.routeMessage]
  generalize Broker.passGate env m b = answer, Broker.passGate env' m b' = answer' at hgate
  obtain ⟨b₁, answer⟩ := answer
  obtain ⟨b₁', answer'⟩ := answer'
  obtain ⟨hgated, hplace⟩ := hgate
  dsimp only at hgated hplace
  cases hplace with
  | error e => exact hgated.routedAlike (.error e)
  | @ok place place' hplace =>
    obtain ⟨d, ts⟩ := place
    obtain ⟨d', ts'⟩ := place'
    obtain ⟨hd, hts⟩ := hplace
    dsimp only at hd hts
    subst hts
    have hctx := hgated.context henv.toAlike
    have hchecked := (hgated.receive henv hd m).checkInbound henv hd m
    rw [Broker.receive, Broker.receive] at hchecked
    dsimp only
    rw [hd.id_eq] at hchecked ⊢
    generalize Broker.checkInbound env d m _ = answer,
      Broker.checkInbound env' d' m _ = answer' at hchecked ⊢
    obtain ⟨b₂, verdict⟩ := answer
    obtain ⟨b₂', verdict'⟩ := answer'
    obtain ⟨hasked, hsame⟩ := hchecked
    dsimp only at hasked hsame
    subst hsame
    cases verdict' with
    | denyError => exact hasked.routedAlike _
    | denyIgnore => exact (hasked.notify hctx _).routedAlike _
    | allow => exact hasked.passOn hctx henv hd m ts'

/-- What comes before a message from elsewhere fans out is only that it is counted. -/
theorem Akin.routedAlike_counted (henv : env.SameButForward env') (h : Akin .links j j' b b')
    (hd : d.SameButLinks d') (m : Message) (ts : List Subtopic) (only : Option ClientId)
    (propagate : Bool) (change : Totals → Totals)
    (hchange : ∀ t forwarded, change { t with forwarded } = { change t with forwarded }) :
    let fannedOut := Broker.fanout (b.context env) d m ts only propagate (b.onTotals d.id change)
    let fannedOut' :=
      Broker.fanout (b'.context env') d' m ts only propagate (b'.onTotals d'.id change)
    RoutedAlike j j' (fannedOut.1, .ok fannedOut.2) (fannedOut'.1, .ok fannedOut'.2) := by
  have hcounted := h.count d.id change hchange
  rw [hd.id_eq]
  exact hcounted.routedAlike_fanout (h.context henv.toAlike) hd m ts only propagate

theorem Akin.routeFromPeer (henv : env.SameButForward env') (h : Akin .links j j' b b')
    (m : Message) : RoutedAlike j j' (routeFromPeer env m b) (routeFromPeer env' m b') := by
  have hplace := h.locate m
  generalize hlocated : Broker.locate m b = answer,
    hlocated' : Broker.locate m b' = answer' at hplace
  cases hplace with
  | error e =>
    rw [Broker.routeFromPeer, Broker.routeFromPeer, hlocated, hlocated']
    exact h.routedAlike (.error e)
  | @ok place place' hplace =>
    obtain ⟨d, ts⟩ := place
    obtain ⟨d', ts'⟩ := place'
    obtain ⟨hd, hts⟩ := hplace
    dsimp only at hd hts
    subst hts
    rw [routeFromPeer_of_ok env hlocated, routeFromPeer_of_ok env' hlocated']
    exact h.routedAlike_counted henv hd m ts' none false _ fun _ _ => rfl

theorem Akin.routeFromAdapter (henv : env.SameButForward env') (h : Akin .links j j' b b')
    (m : Message) (toAll : Bool) :
    RoutedAlike j j' (routeFromAdapter env m toAll b) (routeFromAdapter env' m toAll b') := by
  have hplace := h.locate m
  generalize hlocated : Broker.locate m b = answer,
    hlocated' : Broker.locate m b' = answer' at hplace
  cases hplace with
  | error e =>
    rw [Broker.routeFromAdapter, Broker.routeFromAdapter, hlocated, hlocated']
    exact h.routedAlike (.error e)
  | @ok place place' hplace =>
    obtain ⟨d, ts⟩ := place
    obtain ⟨d', ts'⟩ := place'
    obtain ⟨hd, hts⟩ := hplace
    dsimp only at hd hts
    subst hts
    rw [routeFromAdapter_of_ok env toAll hlocated, routeFromAdapter_of_ok env' toAll hlocated']
    exact h.routedAlike_counted henv hd m ts' _ toAll _ fun _ _ => rfl

/-- Whatever way a message comes in, brokers that differ in their links alone route it alike. -/
theorem Akin.route (henv : env.SameButForward env') (h : Akin .links j j' b b') (m : Message)
    (entry : Entry) : RoutedAlike j j' (entry.route env m b) (entry.route env' m b') := by
  cases entry with
  | client => exact h.routeMessage henv m
  | peer => exact h.routeFromPeer henv m
  | adapter toAll => exact h.routeFromAdapter henv m toAll

end Broker

end MessageBroker
