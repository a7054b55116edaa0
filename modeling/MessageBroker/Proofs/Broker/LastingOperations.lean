/-
# Operations and what lasts

A relation that lasts through the end of sessions and subscriptions lasts through routing when
it allows for copies to those who have subscriptions, through the rest of the operations when
it allows for sessions to begin and for principals to be set, and through a request to
subscribe when it allows for the entry.
-/

import MessageBroker.Proofs.Broker.Lasting

open Std

namespace MessageBroker

namespace Broker

variable {R : Broker → Broker → Prop} {ctx : Context} {env : Environment} {b b' : Broker}
  {id : DestinationId} {d : Destination} {c : ClientId} {m : Message} {ts : List Subtopic}

namespace Steady

/-! ## Looking for recipients and fanning out -/

theorem findMatching (h : Steady R) (env : Environment) (id : DestinationId)
    (subtopics : List String) (content : Content) (b : Broker) :
    R b (findMatching env id subtopics content b).1 := by
  rw [Broker.findMatching]
  split
  · exact h.refl b
  · exact h.lookups (lookups_matchingSubscriptions env _ _ content b)

theorem screen (h : Steady R) (hctx : ctx.Within R) (id : DestinationId) (m : Message)
    (w : Screening) (recipient : ClientId × Option Nat) :
    R w.broker (screen ctx id m w recipient).broker := by
  rw [Broker.screen]
  split
  · exact h.refl _
  next d _ =>
    dsimp only
    split
    · exact h.trans (h.alike (alike_onTotals _ _ _)) (h.notify hctx trivial)
    · have hchecked := h.alike (alike_limiter
        (fun _ => (d.limiter.check .outbound recipient.1 recipient.2 ctx.env.now).1) w.broker id)
      split
      · exact hchecked
      · exact h.trans (h.trans hchecked (h.alike (alike_onTotals _ _ _)))
          (h.notify hctx trivial)

/-- Only those who are screened get copies. -/
theorem mem_targets_foldl_screen {recipients : List (ClientId × Option Nat)} {w : Screening}
    (hc : c ∈ (recipients.foldl (Broker.screen ctx id m) w).targets) :
    c ∈ w.targets ∨ ∃ requested, (c, requested) ∈ recipients := by
  have hone (w : Screening) (recipient : ClientId × Option Nat)
      (hc : c ∈ (Broker.screen ctx id m w recipient).targets) :
      c ∈ w.targets ∨ c = recipient.1 := by
    rw [Broker.screen] at hc
    split at hc
    · exact .inl hc
    · dsimp only at hc
      split at hc
      · exact .inl hc
      · split at hc
        · simpa using hc
        · exact .inl hc
  induction recipients generalizing w with
  | nil => exact .inl hc
  | cons recipient recipients ih =>
    rcases ih hc with hfirst | ⟨requested, hlater⟩
    · rcases hone w recipient hfirst with hc | rfl
      · exact .inl hc
      · exact .inr ⟨recipient.2, List.mem_cons_self⟩
    · exact .inr ⟨requested, List.mem_cons_of_mem _ hlater⟩

/-- A relation allows for copies to be taken at some time, each with activity of its client and a
report. -/
def Delivering (R : Broker → Broker → Prop) (now : Timestamp) : Prop :=
  ∀ (b : Broker) (c : ClientId) (m : Message),
    R b ((b.touch c now).record (.notice (.messageDelivered c m)))

theorem settle (h : Steady R) (hdeliver : Delivering R ctx.env.now) (hctx : ctx.Within R)
    (id : DestinationId) (m : Message) (w : Handover) (c : ClientId) :
    R w.broker (settle ctx id m w c).broker := by
  rw [Broker.settle]
  dsimp only
  split
  · have hcounted := h.alike
      (alike_onTotals (fun t => { t with delivered := t.delivered + 1 }) w.broker id)
    exact h.trans (h.trans hcounted (hdeliver _ c m)) (h.notify_of_record hctx _ _)
  · have hcounted := h.alike
      (alike_onTotals (fun t => { t with deliveryFailures := t.deliveryFailures + 1 }) w.broker id)
    exact h.trans (h.trans hcounted h.log) (h.notify hctx trivial)

/-- A relation that allows for the copies to the clients with subscriptions at a destination
allows for delivering a message there. -/
theorem deliverLocal (h : Steady R) (hdeliver : Delivering R ctx.env.now) (hctx : ctx.Within R)
    (d : Destination) (m : Message) (ts : List Subtopic) (only : Option ClientId)
    (hcopy : ∀ n s, d.registry.get? n = some s → ∀ b : Broker,
      R b (b.record (.delivery s.client m))) (b : Broker) :
    R b (deliverLocal ctx d m ts only b).1 := by
  have hmatching := h.lookups (lookups_matchingSubscriptions ctx.env d ts (contentOf m) b)
  have hheld : ∀ s ∈ (matchingSubscriptions ctx.env d ts (contentOf m) b).2,
      ∃ n, d.registry.get? n = some s := by
    intro s hs
    rw [matchingSubscriptions_eq_filter] at hs
    obtain ⟨n, -, hn⟩ := List.mem_filterMap.mp (List.mem_filter.mp hs).1
    exact ⟨n, hn⟩
  rw [Broker.deliverLocal]
  dsimp only
  generalize matchingSubscriptions ctx.env d ts (contentOf m) b = found at hmatching hheld ⊢
  have hrecipients : ∀ c requested, (c, requested) ∈ (recipientsOf
      (found.2.filter fun s => only.all (· == s.client))).toList →
      ∀ b : Broker, R b (b.record (.delivery c m)) := by
    intro c requested hc
    obtain ⟨s, hs, rfl⟩ := mem_recipientsOf_iff.mp ⟨requested, hc⟩
    obtain ⟨n, hn⟩ := hheld s (List.mem_filter.mp hs).1
    exact hcopy n s hn
  generalize recipientsOf (found.2.filter fun s => only.all (· == s.client)) = recipients
    at hrecipients ⊢
  have hscreened := h.foldl Screening.broker (h.screen hctx d.id m) recipients.toList
    ⟨found.1, [], 0, 0⟩
  have htargets : ∀ c ∈ (recipients.toList.foldl (Broker.screen ctx d.id m)
      ⟨found.1, [], 0, 0⟩).targets, ∀ b : Broker, R b (b.record (.delivery c m)) := by
    intro c hc
    obtain ⟨requested, hmem⟩ := (mem_targets_foldl_screen hc).resolve_left List.not_mem_nil
    exact hrecipients c requested hmem
  generalize recipients.toList.foldl (Broker.screen ctx d.id m) ⟨found.1, [], 0, 0⟩ = screened
    at hscreened htargets ⊢
  have hhanded : ∀ (targets : List ClientId),
      (∀ c ∈ targets, ∀ b : Broker, R b (b.record (.delivery c m))) → ∀ b : Broker,
      R b (targets.foldl (fun b c => b.record (.delivery c m)) b) := by
    intro targets
    induction targets with
    | nil => exact fun _ b => h.refl b
    | cons c targets ih =>
      intro htargets b
      have hrest := ih fun c' hc' => htargets c' (List.mem_cons_of_mem _ hc')
      exact h.trans (htargets c List.mem_cons_self b) (hrest _)
  have hsettled := h.foldl Handover.broker (h.settle hdeliver hctx d.id m) screened.targets
    ⟨screened.targets.foldl (fun b c => b.record (.delivery c m)) screened.broker, 0, 0⟩
  have hcopied := hhanded screened.targets htargets screened.broker
  exact h.trans (h.trans (h.trans hmatching hscreened) hcopied) hsettled

theorem tellMessage (h : Steady R) (env : Environment) (id : DestinationId) (targets : Targets)
    (m : Message) (b : Broker) : R b (tellMessage env id targets m b).1 := by
  rw [Broker.tellMessage]
  split
  · exact h.refl b
  · have htold : R b (b.record (.forward targets m)) := h.record trivial
    dsimp only
    split
    · exact h.trans htold
        (h.alike (alike_onTotals (fun t => { t with forwarded := t.forwarded + 1 }) _ id))
    · exact h.trans htold (h.record trivial)

theorem forward (h : Steady R) (env : Environment) (id : DestinationId) (m : Message)
    (ts : List Subtopic) (b : Broker) : R b (forward env id m ts b).1 := by
  rw [Broker.forward]
  split
  · exact h.refl b
  next d _ =>
    split
    · exact h.refl b
    · exact h.tellMessage env id .all m b
    · have hpeers := h.lookups (lookups_matchingPeers env d ts (contentOf m) b)
      dsimp only
      split
      · exact hpeers
      · exact h.trans hpeers (h.tellMessage env id _ m _)

theorem fanout (h : Steady R) (d : Destination) (m : Message) (ts : List Subtopic)
    (only : Option ClientId) (propagate : Bool) (b : Broker)
    (hlocal : R b (Broker.deliverLocal ctx d m ts only b).1) :
    R b (fanout ctx d m ts only propagate b).1 := by
  rw [Broker.fanout]
  generalize Broker.deliverLocal ctx d m ts only b = delivered at hlocal ⊢
  dsimp only
  split
  · exact h.trans hlocal (h.forward ctx.env d.id m ts delivered.1)
  · exact hlocal

/-! ## Routing -/

theorem checkInbound (h : Steady R) (env : Environment) (d : Destination) (m : Message)
    (b : Broker) : R b (checkInbound env d m b).1 := by
  have hchecked := h.alike (alike_limiter
    (fun _ => (d.limiter.check .inbound m.client none env.now).1) b d.id)
  rw [Broker.checkInbound]
  dsimp only
  split
  · exact hchecked
  · exact h.trans hchecked
      (h.alike (alike_onTotals (fun t => { t with inboundThrottled := t.inboundThrottled + 1 }) _ _))

theorem invoke (h : Steady R) (env : Environment) (adapter : Adapter) (m : Message)
    (b : Broker) : R b (invoke env adapter m b).1 := by
  cases adapter with
  | plain => exact h.refl b
  | bridge name => exact h.record trivial
  | custom name => exact h.record trivial

theorem passOn (h : Steady R) (d : Destination) (m : Message) (ts : List Subtopic)
    (hlocal : ∀ b, R b (Broker.deliverLocal ctx d m ts none b).1) (b : Broker) :
    R b (passOn ctx d m ts b).1 := by
  have hinvoked := h.invoke ctx.env d.adapter m b
  rw [Broker.passOn]
  generalize Broker.invoke ctx.env d.adapter m b = invoked at hinvoked ⊢
  obtain ⟨b₁, answer⟩ := invoked
  cases answer with
  | error e =>
    exact h.trans hinvoked
      (h.alike (alike_limiter (fun d => d.limiter.releaseInbound m.client) b₁ d.id))
  | ok invocation =>
    cases invocation with
    | consumed => exact hinvoked
    | fanout =>
      have hfanned := h.trans hinvoked (h.fanout d m ts none true b₁ (hlocal b₁))
      dsimp only
      generalize Broker.fanout ctx d m ts none true b₁ = fannedOut at hfanned ⊢
      exact hfanned

end Steady

namespace Lasting

/-- A relation allows for copies to those who have subscriptions. -/
def Copying (R : Broker → Broker → Prop) (b : Broker) : Prop :=
  ∀ {id n s}, b.registered? id n = some s → ∀ (m : Message) (b' : Broker),
    R b' (b'.record (.delivery s.client m))

/-- A relation allows for messages to be delivered at the destinations that there are. -/
def Handing (R : Broker → Broker → Prop) (env : Environment) (b : Broker) : Prop :=
  ∀ {id d}, b.destination? id = some d → ∀ (b₀ : Broker) m ts only b',
    R b' (deliverLocal (b₀.context env) d m ts only b').1

theorem handing (h : Lasting R) (hdeliver : Steady.Delivering R env.now) (hcopy : Copying R b) :
    Handing R env b := by
  intro id d hd b₀ m ts only b'
  exact h.deliverLocal hdeliver (h.context env b₀) d m ts only
    (fun n s hs => hcopy (Option.bind_eq_some_iff.mpr ⟨d, hd, hs⟩) m) b'

/-- A relation allows for activity of a client at some time. -/
def Touching (R : Broker → Broker → Prop) (c : ClientId) (now : Timestamp) : Prop :=
  ∀ b : Broker, R b (b.touch c now)

/-- What is done about a message that was received. -/
theorem routeReceived (h : Lasting R) (hpass : (passGate env m b).2 = .ok (d, ts))
    (hhand : Handing R env b) :
    R (receive env d m (passGate env m b).1) (routeMessage env m b).1 := by
  have hctx := h.context env (passGate env m b).1
  have hchecked := h.checkInbound env d m (receive env d m (passGate env m b).1)
  have hlocal := hhand (locate_eq_ok (locate_of_passGate hpass)).1 (passGate env m b).1 m ts none
  rw [routeMessage_of_ok hpass]
  generalize Broker.checkInbound env d m _ = checked at hchecked ⊢
  obtain ⟨b₁, verdict⟩ := checked
  cases verdict with
  | denyError => exact hchecked
  | denyIgnore => exact h.trans hchecked (h.notify hctx trivial)
  | allow => exact h.trans hchecked (h.passOn d m ts hlocal b₁)

theorem routeMessage (h : Lasting R) (m : Message) (htouch : Touching R m.client env.now)
    (hhand : Handing R env b) :
    R b (routeMessage env m b).1 := by
  have hgate := h.onlyAsked (onlyAsked_passGate env m b)
  cases hpass : (passGate env m b).2 with
  | error e =>
    rw [routeMessage_of_error hpass]
    exact hgate
  | ok located =>
    have hreceived := h.trans hgate (h.alike (alike_onTotals
      (fun t => { t with received := t.received + 1 }) (passGate env m b).1 located.1.id))
    exact h.trans (h.trans hreceived (htouch _)) (h.routeReceived hpass hhand)

theorem routeFromPeer (h : Lasting R) (m : Message) (hhand : Handing R env b) :
    R b (routeFromPeer env m b).1 := by
  rw [Broker.routeFromPeer]
  split
  · exact h.refl b
  next d ts hlocated =>
    have hcounted := h.alike
      (alike_onTotals (fun t => { t with fromPeers := t.fromPeers + 1 }) b d.id)
    have hlocal := hhand (locate_eq_ok hlocated).1 b m ts none
    dsimp only
    exact h.trans hcounted (h.fanout d m ts none false _ (hlocal _))

theorem routeFromAdapter (h : Lasting R) (m : Message) (toAll : Bool) (hhand : Handing R env b) :
    R b (routeFromAdapter env m toAll b).1 := by
  rw [Broker.routeFromAdapter]
  split
  · exact h.refl b
  next d ts hlocated =>
    have hcounted := h.alike
      (alike_onTotals (fun t => { t with fromAdapter := t.fromAdapter + 1 }) b d.id)
    have hlocal := hhand (locate_eq_ok hlocated).1 b m ts
    dsimp only
    split
    · exact h.trans hcounted (h.fanout d m ts none true _ (hlocal none _))
    · exact h.trans hcounted (h.fanout d m ts (some m.client) false _ (hlocal (some m.client) _))

/-! ## Beginning sessions and entering subscriptions -/

/-- A relation allows for a client's session to begin. -/
def Beginning (R : Broker → Broker → Prop) (c : ClientId) : Prop :=
  ∀ {b : Broker}, b.sessions[c]? = none → ∀ now : Timestamp,
    R b { b with
      sessions := b.sessions.insert c (Session.begin now), sessionGauge := b.sessionGauge.inc }

theorem connectIn (h : Lasting R) (hbegin : Beginning R c) (hctx : ctx.Within R) (b : Broker) :
    R b (connectIn ctx c b).1 := by
  rw [Broker.connectIn]
  split
  · exact h.refl b
  next hnone => exact h.trans (hbegin hnone ctx.env.now) (h.notify hctx trivial)

theorem dropOrphan (h : Lasting R) (hctx : ctx.Within R) (s : Subscription) (b : Broker) :
    R b (dropOrphan ctx s b) := by
  rw [Broker.dropOrphan]
  split
  · exact h.refl b
  · exact h.remove hctx (Registry.isRemoval_takeOne s.id) s.destination .disconnect b

theorem introduce (h : Lasting R) (hctx : ctx.Within R) (s : Subscription) (b : Broker) :
    R b (introduce ctx s b).1 := by
  have hannounced := h.trans (h.dropOrphan hctx s b) (h.announce hctx s.destination _)
  have htold := h.trans hannounced (h.notify (n := .subscribed s) hctx trivial)
  rw [Broker.introduce]
  dsimp only
  split
  · exact hannounced
  · split
    · exact htold
    · exact htold

/-- A relation allows for any change of the session of a client. -/
def Setting (R : Broker → Broker → Prop) (c : ClientId) : Prop :=
  ∀ (b : Broker) (change : Session → Session), R b (b.onSession c change)

theorem login (h : Lasting R) (hbegin : Beginning R c) (hset : Setting R c) (env : Environment)
    (p : Principal) (b : Broker) : R b (login env c p b).1 := by
  have hconnected := h.connectIn hbegin (h.context env b) b
  have hlogged := h.trans hconnected
    (hset _ fun s => { s with principal := some p }.touch env.now)
  rw [Broker.login]
  dsimp only
  split
  · exact hconnected
  · split
    · split
      · exact hconnected
      · exact hlogged
    · exact hlogged

/-- A relation allows for the subscriptions of a client to be entered. -/
def Entering (R : Broker → Broker → Prop) (c : ClientId) : Prop :=
  ∀ (s : Subscription) (b : Broker), s.client = c → R b (enter s b).1

theorem enterAndTell (h : Lasting R) (hctx : ctx.Within R) {s : Subscription}
    (henter : Entering R s.client) (b : Broker) : R b (enterAndTell ctx s b).1 := by
  have hentered := henter s b rfl
  rw [Broker.enterAndTell]
  dsimp only
  split
  · exact hentered
  · exact h.trans hentered (h.introduce hctx _ _)

theorem subscribe (h : Lasting R) {r : SubscribeRequest} (hbegin : Beginning R r.client)
    (htouch : Touching R r.client env.now) (henter : Entering R r.client) (b : Broker) :
    R b (subscribe env r b).1 := by
  have hasked := (checkRequest_cases env r b).1
  cases hcheck : (checkRequest env r b).2 with
  | error e =>
    rw [subscribe_of_error (Prod.ext rfl hcheck)]
    exact h.onlyAsked hasked
  | ok filter =>
    rw [subscribe_of_ok (Prod.ext rfl hcheck)]
    have hctx := h.context env (checkRequest env r b).1
    have hconnected := h.trans (h.onlyAsked hasked) (h.connectIn hbegin hctx _)
    have htouched := h.trans hconnected (htouch _)
    dsimp only
    generalize (Broker.connectIn _ r.client _).1.touch r.client env.now = b₁ at htouched ⊢
    have hnumbered : R b { b₁ with nextSubscription := b₁.nextSubscription + 1 } :=
      h.trans htouched (h.alike (alike_of_eq rfl rfl rfl))
    exact h.trans hnumbered (h.enterAndTell hctx henter _)

end Lasting

end Broker

/-- Whether an operation sets or clears the principal of a client. -/
def Operation.SetsPrincipal (c : ClientId) : Operation → Prop
  | .login c' _ => c' = c
  | .logout c' => c' = c
  | _ => False

/-- Whether an operation makes contact with a client. -/
def Operation.Contacts (c : ClientId) : Operation → Prop
  | .connect c' | .login c' _ => c' = c
  | .subscribe r => r.client = c
  | _ => False

/-- Whether an operation is a sign of life of a client at some time. -/
def Operation.Touches (env : Environment) (c : ClientId) (now : Timestamp) : Operation → Prop
  | .subscribe r => r.client = c ∧ env.now = now
  | .route m => m.client = c ∧ env.now = now
  | .touch c' time => c' = c ∧ time = now
  | _ => False

/-- Whether an operation is a request of a client to subscribe. -/
def Operation.Subscribes (c : ClientId) : Operation → Prop
  | .subscribe r => r.client = c
  | _ => False

namespace Broker

variable {R : Broker → Broker → Prop} {b : Broker}

/-- A lasting relation holds of a broker and what an operation makes of it, when it allows for
what sets the operation apart. -/
theorem Lasting.perform (h : Lasting R) {env : Environment} {op : Operation}
    (hbegin : ∀ c, op.Contacts c → Beginning R c)
    (htouch : ∀ c now, op.Touches env c now → Touching R c now)
    (hhand : Handing R env b)
    (hset : ∀ c, op.SetsPrincipal c → Setting R c) (henter : ∀ c, op.Subscribes c → Entering R c) :
    R b (perform env b op).1 := by
  cases op with
  | start => exact h.start env b
  | stop => exact h.stop env b
  | startDestination d => exact h.startDestination env d b
  | stopDestination d => exact h.stopNamed env d b
  | connect c => exact h.connectIn (hbegin c rfl) (h.context env b) b
  | disconnect c => exact h.disconnectIn (h.context env b) c b
  | touch c time => exact htouch c time ⟨rfl, rfl⟩ b
  | login c p => exact h.login (hbegin c rfl) (hset c rfl) env p b
  | logout c => exact hset c rfl b _
  | subscribe r =>
    exact h.subscribe (hbegin r.client rfl) (htouch r.client env.now ⟨rfl, rfl⟩)
      (henter r.client rfl) b
  | unsubscribe n => exact h.unsubscribeIn (h.context env b) n b
  | unsubscribeAll c => exact h.unsubscribeAllIn (h.context env b) c b
  | find d subtopics content => exact h.findMatching env d subtopics content b
  | route m => exact h.routeMessage m (htouch m.client env.now ⟨rfl, rfl⟩) hhand
  | routeFromPeer m => exact h.routeFromPeer m hhand
  | routeFromAdapter m toAll => exact h.routeFromAdapter m toAll hhand
  | receiveChange peer d change => exact h.receiveChange peer d change b
  | receiveState peer d keys => exact h.receiveState peer d keys b
  | removePeer peer => exact h.removePeer peer b
  | sweep time => exact h.sweepAt env time b
  | tick ms => exact h.tick env ms b
  | configureThrottle d s => exact h.configureThrottle d s b
  | resetThrottle d => exact h.resetThrottle d b
  | addHook kind priority handler => exact h.alike (alike_of_eq rfl rfl rfl)
  | removeHook kind n => exact h.alike (alike_of_eq rfl rfl rfl)

/-! ## The journal -/

/-- The entries that the journal of a later broker has in addition. -/
def entriesSince (b b' : Broker) : List Event := b'.journal.drop b.journal.length

variable {b' b'' : Broker} {entries : List Event}

theorem entriesSince_of_eq_append (h : b'.journal = b.journal ++ entries) :
    entriesSince b b' = entries := by
  rw [entriesSince, h, List.drop_left]

theorem journal_eq_append_entriesSince (h : b.journal <+: b'.journal) :
    b'.journal = b.journal ++ entriesSince b b' := by
  obtain ⟨entries, hentries⟩ := h
  rw [entriesSince_of_eq_append hentries.symm, hentries]

/-- What was added in two stretches is what was added in each of them. -/
theorem entriesSince_trans (h : b.journal <+: b'.journal) (h' : b'.journal <+: b''.journal) :
    entriesSince b b'' = entriesSince b b' ++ entriesSince b' b'' := by
  apply entriesSince_of_eq_append
  rw [← List.append_assoc, ← journal_eq_append_entriesSince h, ← journal_eq_append_entriesSince h']

/-- Nothing is ever taken out of the journal. -/
theorem lasting_prefix : Lasting fun b b' => b.journal <+: b'.journal := by
  have hsteady : Steady fun b b' => b.journal <+: b'.journal :=
    ⟨List.IsPrefix.trans, fun h => h.journal ▸ List.prefix_rfl,
      fun _ => List.prefix_append _ _⟩
  apply hsteady.lasting
  · exact fun _ _ _ _ => List.prefix_rfl
  · exact fun _ => List.prefix_append _ _

theorem journal_onSession (b : Broker) (c : ClientId) (change : Session → Session) :
    (b.onSession c change).journal = b.journal := by
  rw [onSession]
  split <;> rfl

theorem journal_enter (s : Subscription) (b : Broker) : (enter s b).1.journal = b.journal := by
  rw [enter]
  split
  · rfl
  · dsimp only
    split
    · rfl
    · exact journal_onSession _ _ _

theorem unlisted_enter (s : Subscription) (b : Broker) (c : ClientId) :
    ((enter s b).1.sessions[c]?).map (·.unlisted) = (b.sessions[c]?).map (·.unlisted) := by
  rw [enter]
  split
  · rfl
  next d _ =>
    dsimp only
    split
    · rfl
    · let listed (session : Session) : Session :=
        { session with subscriptions := session.subscriptions.insert s.id d.id }
      have hsame (session : Session) : (listed session).unlisted = session.unlisted := rfl
      exact map_sessions_onSession (·.unlisted) hsame _ s.client c

theorem prefix_perform (env : Environment) (op : Operation) (b : Broker) :
    b.journal <+: (perform env b op).1.journal := by
  have hset (b : Broker) (c : ClientId) (change : Session → Session) :
      b.journal <+: (b.onSession c change).journal :=
    journal_onSession b c change ▸ List.prefix_rfl
  apply lasting_prefix.perform
  · exact fun _ _ _ _ _ => List.prefix_rfl
  · exact fun c now _ b => hset b c _
  · exact lasting_prefix.handing
      (fun b c m => (hset b c _).trans (List.prefix_append _ _)) fun _ _ _ => List.prefix_append _ _
  · exact fun c _ b change => hset b c change
  · intro c _ s b _
    have hsame := journal_enter s b
    exact hsame ▸ List.prefix_rfl

theorem prefix_run (steps : List (Environment × Operation)) (b : Broker) :
    b.journal <+: (b.run steps).journal := by
  induction steps generalizing b with
  | nil => exact List.prefix_rfl
  | cons step steps ih => exact (prefix_perform step.1 step.2 b).trans (ih _)

end Broker

end MessageBroker
