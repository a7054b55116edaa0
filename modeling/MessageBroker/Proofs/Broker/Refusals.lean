/-
# Messages that get nowhere

A message of a client that fails a check is refused before anything has changed. One that
passes all checks may still be refused by the inbound limiter, or be lost to an adapter that
fails. That leaves some numbers in the totals, but nothing is delivered or forwarded, no
subscription and no key of another node is touched, and from then on the limiter counts as if
the message had never been there.

Handlers are told when the limiter drops a message without an error. What they call back for is
another matter; apart from that, nothing happens then either.
-/

import MessageBroker.Proofs.Broker.Asides
import MessageBroker.Proofs.Broker.Checks
import MessageBroker.Proofs.Broker.Silence

open Std

namespace MessageBroker

/-- What a destination holds on behalf of subscribers, here and on other nodes. -/
def Destination.holdings (d : Destination) : DestinationId × Registry × RemoteKeys :=
  (d.id, d.registry, d.remote)

/-- A session but for its activity. -/
def Session.settled (s : Session) :
    Timestamp × Option Principal × ExtTreeMap SubscriptionId DestinationId :=
  (s.connectedAt, s.principal, s.subscriptions)

namespace Broker

variable {env : Environment} {b b' b'' : Broker} {m : Message} {d : Destination}
  {ts : List Subtopic} {now : Timestamp} {id id' : DestinationId}
  {reports reports' : List Notice}

/-- Nothing was done about messages but that some reports were made, and no subscription, no
key of another node and no hook was touched. -/
structure Spares (reports : List Notice) (b b' : Broker) : Prop where
  holdings : b'.destinations.map Destination.holdings = b.destinations.map Destination.holdings
  owners : b'.owners = b.owners
  sessions : ∀ c : ClientId,
    (b'.sessions[c]?).map Session.settled = (b.sessions[c]?).map Session.settled
  hooks : b'.hooks = b.hooks
  traffic : b'.traffic = b.traffic ++ reports.map .report

theorem Spares.refl (b : Broker) : Spares [] b b :=
  ⟨rfl, rfl, fun _ => rfl, rfl, (List.append_nil _).symm⟩

theorem Spares.trans (h : Spares reports b b') (h' : Spares reports' b' b'') :
    Spares (reports ++ reports') b b'' := by
  refine ⟨h'.holdings.trans h.holdings, h'.owners.trans h.owners,
    fun c => (h'.sessions c).trans (h.sessions c), h'.hooks.trans h.hooks, ?_⟩
  rw [h'.traffic, h.traffic, List.append_assoc, List.map_append]

theorem spares_onDestination (change : Destination → Destination)
    (h : ∀ d, (change d).holdings = d.holdings) (b : Broker) (id : DestinationId) :
    Spares [] b (b.onDestination id change) := by
  refine ⟨?_, rfl, fun _ => rfl, rfl, (List.append_nil _).symm⟩
  rw [onDestination, List.map_map]
  apply List.map_congr_left
  intro d _
  dsimp only [Function.comp]
  split
  · exact h d
  · rfl

theorem spares_touch (b : Broker) (c : ClientId) (now : Timestamp) :
    Spares [] b (b.touch c now) := by
  rw [touch, onSession]
  split
  · exact .refl b
  next session hsession =>
    refine ⟨rfl, rfl, fun c' => ?_, rfl, (List.append_nil _).symm⟩
    rw [Maps.getElem?_insert_ite]
    split
    next heq =>
      subst heq
      rw [hsession]
      rfl
    next => rfl

/-! ## The limiters -/

/-- The limiter of a destination. -/
def limiter? (b : Broker) (id : DestinationId) : Option Limiter :=
  (b.destination? id).map (·.limiter)

theorem limiter?_onDestination_of_eq (change : Destination → Destination)
    (hid : ∀ d, (change d).id = d.id) (hlimiter : ∀ d, (change d).limiter = d.limiter)
    (b : Broker) (id id' : DestinationId) :
    (b.onDestination id change).limiter? id' = b.limiter? id' := by
  rw [limiter?, limiter?, destination?_onDestination change hid, Option.map_map]
  congr 1
  funext d
  dsimp only [Function.comp]
  split
  · exact hlimiter d
  · rfl

/-- Changes the limiter of a destination. -/
def onLimiter (b : Broker) (id : DestinationId) (change : Limiter → Limiter) : Broker :=
  b.onDestination id fun d => { d with limiter := change d.limiter }

theorem limiter?_onLimiter (change : Limiter → Limiter) (b : Broker) (id id' : DestinationId) :
    (b.onLimiter id change).limiter? id' =
      if id' = id then (b.limiter? id').map change else b.limiter? id' := by
  let replace : Destination → Destination := fun d => { d with limiter := change d.limiter }
  show Option.map _ ((b.onDestination id replace).destination? id') = _
  by_cases hid : id' = id
  · subst hid
    rw [if_pos rfl, limiter?]
    cases hd : b.destination? id' with
    | none =>
      rw [destination?_onDestination replace fun _ => rfl, hd]
      rfl
    | some d =>
      rw [destination?_onDestination_self replace (fun _ => rfl) hd]
      rfl
  · rw [if_neg hid, limiter?, destination?_onDestination_of_ne replace (fun _ => rfl) hid]

theorem onLimiter_onLimiter (change change' : Limiter → Limiter) (b : Broker)
    (id : DestinationId) :
    (b.onLimiter id change).onLimiter id change' = b.onLimiter id fun l => change' (change l) := by
  rw [onLimiter, onLimiter, onDestination, onDestination, List.map_map]
  show ({ b with destinations := _ } : Broker) = { b with destinations := _ }
  congr 1
  apply List.map_congr_left
  intro d _
  dsimp only [Function.comp]
  by_cases hd : d.id = id
  · simp only [hd, if_true]
  · simp only [hd, if_false]

theorem limiter?_touch (b : Broker) (c : ClientId) (now : Timestamp) :
    (b.touch c now).limiter? id = b.limiter? id := by
  rw [touch, onSession]
  split <;> rfl

/-- Nothing is done about a message but to report on it, and it is not counted against any
limit. -/
structure Refrains (reports : List Notice) (now : Timestamp) (b b' : Broker) : Prop
    extends Spares reports b b' where
  counts : ∀ id l, b.limiter? id = some l →
    ∃ l', b'.limiter? id = some l' ∧ l.CountsAlike now l'

theorem refrains_of_limiter?_eq (h : Spares reports b b')
    (hlimiter : ∀ id, b'.limiter? id = b.limiter? id) : Refrains reports now b b' :=
  ⟨h, fun id l hl => ⟨l, (hlimiter id).trans hl, .refl now l⟩⟩

theorem Refrains.trans (h : Refrains reports now b b') (h' : Refrains reports' now b' b'') :
    Refrains (reports ++ reports') now b b'' := by
  refine ⟨h.toSpares.trans h'.toSpares, fun id l hl => ?_⟩
  obtain ⟨l', hl', halike⟩ := h.counts id l hl
  obtain ⟨l'', hl'', halike'⟩ := h'.counts id l' hl'
  exact ⟨l'', hl'', halike.trans halike'⟩

/-- Entries of the journal make no difference but by what they report. -/
theorem refrains_journal {journal : List Event}
    (h : ({ b with journal } : Broker).traffic = b.traffic ++ reports.map .report) :
    Refrains reports now b { b with journal } :=
  refrains_of_limiter?_eq ⟨rfl, rfl, fun _ => rfl, rfl, h⟩ fun _ => rfl

theorem refrains_of_onlyNoted (h : OnlyNoted b b') : Refrains [] now b b' := by
  have htraffic := h.traffic
  obtain ⟨entries, -, rfl⟩ := h
  exact refrains_journal (htraffic.trans (List.append_nil _).symm)

theorem limiter?_onTotals (change : Totals → Totals) (b : Broker) (id id' : DestinationId) :
    (b.onTotals id change).limiter? id' = b.limiter? id' :=
  limiter?_onDestination_of_eq (fun d => { d with totals := change d.totals }) (fun _ => rfl)
    (fun _ => rfl) b id id'

theorem refrains_onTotals (change : Totals → Totals) (b : Broker) (id : DestinationId) :
    Refrains [] now b (b.onTotals id change) :=
  refrains_of_limiter?_eq
    (spares_onDestination (fun d => { d with totals := change d.totals }) (fun _ => rfl) b id)
    (limiter?_onTotals change b id)

theorem refrains_touch (b : Broker) (c : ClientId) (time : Timestamp) :
    Refrains [] now b (b.touch c time) :=
  refrains_of_limiter?_eq (spares_touch b c time) fun _ => limiter?_touch b c time

theorem onlyNoted_of_onlyAsked (h : OnlyAsked b b') : OnlyNoted b b' :=
  Journals.mono h fun _ ⟨_, _, he⟩ => he ▸ rfl

/-- What is done to a limiter may be undone in its counts. -/
theorem refrains_onLimiter (change : Limiter → Limiter)
    (h : ∀ l, b.limiter? id = some l → l.CountsAlike now (change l)) :
    Refrains [] now b (b.onLimiter id change) := by
  have hspares : Spares [] b (b.onLimiter id change) :=
    spares_onDestination (fun d => { d with limiter := change d.limiter }) (fun _ => rfl) b id
  refine ⟨hspares, fun id' l hl => ?_⟩
  rw [limiter?_onLimiter, hl]
  split
  next heq =>
    subst heq
    exact ⟨change l, rfl, h l hl⟩
  next => exact ⟨l, rfl, .refl now l⟩

/-! ## The way to the fan-out -/

/-- A message of a client is counted as received, and as activity of the client. -/
def receive (env : Environment) (d : Destination) (m : Message) (b : Broker) : Broker :=
  (b.onTotals d.id fun t => { t with received := t.received + 1 }).touch m.client env.now

theorem refrains_receive (d : Destination) (m : Message) (b : Broker) :
    Refrains [] now b (receive env d m b) :=
  (refrains_onTotals _ b d.id).trans (refrains_touch _ m.client env.now)

theorem limiter?_receive (d : Destination) (m : Message) (b : Broker) (id : DestinationId) :
    (receive env d m b).limiter? id = b.limiter? id :=
  (limiter?_touch _ _ _).trans (limiter?_onTotals _ b d.id id)

/-- What the inbound limiter of a destination makes of a message. -/
def inbound (env : Environment) (d : Destination) (m : Message) : Limiter × Verdict :=
  d.limiter.check .inbound m.client none env.now

/-- The broker once the inbound limiter of a destination has made up its mind. -/
def limited (env : Environment) (d : Destination) (m : Message) (b : Broker) : Broker :=
  b.onLimiter d.id fun _ => (inbound env d m).1

theorem checkInbound_of_allowed (h : (inbound env d m).2.isAllowed = true) :
    checkInbound env d m b = (limited env d m b, (inbound env d m).2) :=
  if_pos h

/-- A message that the inbound limiter refuses is counted nowhere but in the totals. -/
theorem checkInbound_of_refused (hd : b.limiter? d.id = some d.limiter)
    (h : (inbound env d m).2.isAllowed = false) :
    ∃ b', checkInbound env d m b = (b', (inbound env d m).2) ∧ Refrains [] env.now b b' := by
  have hlimited : Refrains [] env.now b (limited env d m b) := by
    refine refrains_onLimiter _ fun l hl => ?_
    obtain rfl := Option.some.inj (hd.symm.trans hl)
    exact Limiter.countsAlike_check h
  exact ⟨_, if_neg (Bool.eq_false_iff.mp h), hlimited.trans (refrains_onTotals _ _ _)⟩

/-- How an adapter fails with a message. -/
inductive AdapterFails (env : Environment) (m : Message) : Adapter → Fault → Prop
  | bridge {name : String} {fault : Fault}
      (h : (env.bridge name).send m.destination m = .error fault) :
      AdapterFails env m (.bridge name) fault
  | custom {name : String} {fault : Fault} (h : (env.custom name).invoke m = .error fault) :
      AdapterFails env m (.custom name) fault

theorem invoke_of_fails {adapter : Adapter} {fault : Fault} (h : AdapterFails env m adapter fault) :
    ∃ e : Event, e.traffic? = none ∧
      invoke env adapter m b = (b.record e, .error (.collaborator fault)) := by
  cases h with
  | bridge h => exact ⟨_, rfl, by rw [invoke, h]; rfl⟩
  | custom h => exact ⟨_, rfl, by rw [invoke, h]; rfl⟩

/-- A message whose adapter fails gives back what it took of the limits. -/
theorem passOn_of_fails (ctx : Context) (ts : List Subtopic) {fault : Fault}
    (hd : b.limiter? d.id = some d.limiter) (hallowed : (inbound ctx.env d m).2.isAllowed = true)
    (h : AdapterFails ctx.env m d.adapter fault) :
    (passOn ctx d m ts (limited ctx.env d m b)).2 = .error (.collaborator fault) ∧
      Refrains [] ctx.env.now b (passOn ctx d m ts (limited ctx.env d m b)).1 := by
  obtain ⟨e, he, hinvoke⟩ := invoke_of_fails (b := limited ctx.env d m b) h
  rw [passOn, hinvoke]
  refine ⟨rfl, ?_⟩
  have hreturned : Refrains [] ctx.env.now b
      ((limited ctx.env d m b).onLimiter d.id (·.releaseInbound m.client)) := by
    rw [limited, onLimiter_onLimiter]
    refine refrains_onLimiter _ fun l hl => ?_
    obtain rfl := Option.some.inj (hd.symm.trans hl)
    exact Limiter.countsAlike_release hallowed
  -- Recording the call does not come between taking the slots and giving them back.
  exact hreturned.trans (refrains_of_onlyNoted (onlyNoted_record he _))

/-! ## Refused, dropped and lost messages -/

/-- The notice of a message that the inbound limiter drops. -/
def dropNotice (m : Message) : Notice := .messageDropped none m .inboundThrottled

theorem refrains_notify_of_silent {ctx : Context} {n : Notice} (hn : n.isReport = true)
    (hsilent : ∀ h ∈ b.hooks.round n, h.callback n = none) :
    Refrains [n] now b (notify ctx n b) := by
  rw [notify_of_silent hsilent]
  refine refrains_journal ?_
  have hcalls (handlers : List Handler) :
      (handlers.map fun h => Event.hook h.name n).filterMap Event.traffic? = [] := by
    rw [List.filterMap_map]
    exact List.filterMap_eq_nil_iff.mpr fun _ _ => rfl
  have hreport : (Event.notice n).traffic? = some (.report n) := if_pos hn
  rw [traffic, List.filterMap_append, told, List.filterMap_cons_some hreport, hcalls]
  rfl

/-- How a message is dropped without an error: the handlers are told, and but for what they
call back for nothing is done about it. -/
structure Dropped (env : Environment) (m : Message) (b b' : Broker) : Prop where
  traffic : b'.traffic = b.traffic ++ [.report (dropNotice m)]
  told : ∃ b₁, Refrains [] env.now b b₁ ∧ b' = notify (b.context env) (dropNotice m) b₁
  silent : (∀ h ∈ b.hooks.round (dropNotice m), h.callback (dropNotice m) = none) →
    Refrains [dropNotice m] env.now b b'

theorem dropped_notify (h : Refrains [] env.now b b') :
    Dropped env m b (notify (b.context env) (dropNotice m) b') := by
  refine ⟨?_, ⟨b', h, rfl⟩, fun hsilent => ?_⟩
  · rw [(aside_notify_of_record (aside_context env b) (dropNotice m) b').traffic, traffic_record,
      h.traffic]
    exact congrArg (· ++ _) (List.append_nil _)
  · exact h.trans (refrains_notify_of_silent rfl (h.hooks ▸ hsilent))

theorem routeMessage_of_error {e : BrokerError} (h : (passGate env m b).2 = .error e) :
    routeMessage env m b = ((passGate env m b).1, .error e) := by
  rw [routeMessage, ← Prod.eta (passGate env m b), h]

/-- Asking the authorizer makes no difference to what calls back do. -/
theorem context_of_onlyAsked (env : Environment) (h : OnlyAsked b b') :
    b'.context env = b.context env := by
  obtain ⟨asked, -, rfl⟩ := h
  rfl

/-- What the inbound limiter decides about a message that has passed the gate. -/
theorem routeMessage_of_ok (h : (passGate env m b).2 = .ok (d, ts)) :
    routeMessage env m b =
      match checkInbound env d m (receive env d m (passGate env m b).1) with
      | (b', .denyError) => (b', .error (.throttled m.client d.id))
      | (b', .denyIgnore) =>
        (notify ((passGate env m b).1.context env) (dropNotice m) b',
          .ok (.ofOutcome (.dropped .inboundThrottled)))
      | (b', .allow) => passOn ((passGate env m b).1.context env) d m ts b' := by
  rw [routeMessage, ← Prod.eta (passGate env m b), h]
  rfl

/-- A message of a client that fails checks is refused with the error of the first of them,
and all that has happened is that the authorizer was asked. When none fails, it may yet be
refused or dropped by the inbound limiter or lost to its adapter; then nothing is done about
it either, and it is not counted against any limit. -/
theorem routeMessage_refused (env : Environment) (m : Message) (b : Broker) :
    (∀ check e, Fails env m b check e → PassesBefore env m b check.rank →
      (routeMessage env m b).2 = .error e ∧ e.category = check.category ∧
        OnlyAsked b (routeMessage env m b).1) ∧
    ((∀ check e, ¬Fails env m b check e) →
      ∃ d, b.destination? m.destination = some d ∧
        ((inbound env d m).2 = .denyError →
          (routeMessage env m b).2 = .error (.throttled m.client m.destination) ∧
            Refrains [] env.now b (routeMessage env m b).1) ∧
        ((inbound env d m).2 = .denyIgnore →
          (routeMessage env m b).2 = .ok (.ofOutcome (.dropped .inboundThrottled)) ∧
            Dropped env m b (routeMessage env m b).1) ∧
        ∀ fault, (inbound env d m).2 = .allow → AdapterFails env m d.adapter fault →
          (routeMessage env m b).2 = .error (.collaborator fault) ∧
            Refrains [] env.now b (routeMessage env m b).1) := by
  have hasked := onlyAsked_passGate env m b
  constructor
  · intro check e hfails hfirst
    rw [routeMessage_of_error (snd_passGate_of_fails hfails hfirst)]
    exact ⟨rfl, category_of_fails hfails, hasked⟩
  · intro hpasses
    obtain ⟨d, ts, hd, -, -, hgate⟩ := exists_passGate_of_passes fun check e _ => hpasses check e
    refine ⟨d, hd, ?_⟩
    have hid : d.id = m.destination := (mem_of_destination? hd).2
    rw [routeMessage_of_ok hgate]
    obtain ⟨asked, -, hgated⟩ := id hasked
    have hreceived : Refrains [] env.now b (receive env d m (passGate env m b).1) :=
      (refrains_of_onlyNoted (onlyNoted_of_onlyAsked hasked)).trans (refrains_receive d m _)
    have hlimiter : (receive env d m (passGate env m b).1).limiter? d.id = some d.limiter := by
      rw [limiter?_receive, hgated, hid]
      exact congrArg (Option.map _) hd
    rw [context_of_onlyAsked env hasked]
    refine ⟨fun hverdict => ?_, fun hverdict => ?_, fun fault hverdict hfault => ?_⟩
    · obtain ⟨b', hcheck, hrefrains⟩ := checkInbound_of_refused hlimiter (by rw [hverdict]; rfl)
      rw [hcheck, hverdict, hid]
      exact ⟨rfl, hreceived.trans hrefrains⟩
    · obtain ⟨b', hcheck, hrefrains⟩ := checkInbound_of_refused hlimiter (by rw [hverdict]; rfl)
      rw [hcheck, hverdict]
      exact ⟨rfl, dropped_notify (hreceived.trans hrefrains)⟩
    · have hallowed : (inbound env d m).2.isAllowed = true := by rw [hverdict]; rfl
      rw [checkInbound_of_allowed hallowed, hverdict]
      obtain ⟨herror, hrefrains⟩ :=
        passOn_of_fails (b.context env) ts hlimiter hallowed hfault
      exact ⟨herror, hreceived.trans hrefrains⟩

/-- A message without subtopics fails no check where everybody may send. -/
theorem not_fails_of_unconstrained (hd : b.destination? m.destination = some d)
    (hstarted : d.started = true) (hsend : d.sendConstraint = none) (htexts : m.texts = [])
    (check : GateCheck) (e : BrokerError) : ¬Fails env m b check e := by
  have hsame {d' : Destination} (hd' : b.destination? m.destination = some d') : d' = d :=
    Option.some.inj (hd'.symm.trans hd)
  have hnone {before after : List String} {text : String} : m.texts ≠ before ++ text :: after := by
    rw [htexts]
    exact (List.append_ne_nil_of_right_ne_nil before (List.cons_ne_nil text after)).symm
  intro h
  cases h with
  | unknown h => exact nomatch hd.symm.trans h
  | idle hd' h => exact nomatch (hsame hd' ▸ h).symm.trans hstarted
  | anonymous hd' h => exact h (hsame hd' ▸ hsend)
  | unanswered hd' hc => exact nomatch (hsame hd' ▸ hc).symm.trans hsend
  | unqualified hd' hc => exact nomatch (hsame hd' ▸ hc).symm.trans hsend
  | disallowed _ h => exact h htexts
  | malformed _ h => exact hnone h
  | wildcard _ h => exact hnone h
  | vetoed _ h => exact hnone h

/-- A message without subtopics. -/
def note : Message := ⟨default, "news", "ann", [], [], [], 0⟩

/-- The settings of a node that takes one message a second. -/
def slowSettings : Settings := Settings.standard.addDestination
  { DestinationSettings.standard "news" with throttle := ⟨⟨.error, 0, 1⟩, ⟨.none, 0, 0⟩⟩ }

theorem routeMessage_refused_news :
    ∃ b : Broker, b.IsReachable ∧
      ((routeMessage quiet { note with destination := "sports" } b).2 =
          .error (.unknownDestination "sports") ∧
        OnlyAsked b (routeMessage quiet { note with destination := "sports" } b).1) ∧
      (routeMessage quiet note b).2 = .error (.throttled "ann" "news") ∧
        Refrains [] quiet.now b (routeMessage quiet note b).1 := by
  obtain ⟨b, d, hreachable, hunknown, hd, hstarted, hsend, hverdict⟩ :
      ∃ (b : Broker) (d : Destination), b.IsReachable ∧ b.destination? "sports" = none ∧
        b.destination? "news" = some d ∧ d.started = true ∧ d.sendConstraint = none ∧
        (inbound quiet d note).2 = .denyError := by
    have hbuilt : IsBuilt _ := ⟨slowSettings, _, ⟨true, false, [], []⟩, rfl, rfl⟩
    exact ⟨_, _, ⟨_, hbuilt, quietly [.start, .route note], rfl⟩, rfl, rfl, rfl, rfl, rfl⟩
  obtain ⟨herror, -, hasked⟩ :=
    (routeMessage_refused quiet { note with destination := "sports" } b).1
      .destination _ (.unknown hunknown) nofun
  obtain ⟨d', hd', hthrottled, -⟩ := (routeMessage_refused quiet note b).2
    (not_fails_of_unconstrained hd hstarted hsend rfl)
  obtain rfl := Option.some.inj (hd.symm.trans hd')
  exact ⟨b, hreachable, ⟨herror, hasked⟩, hthrottled hverdict⟩

end Broker

end MessageBroker
