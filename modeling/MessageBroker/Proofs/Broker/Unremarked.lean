/-
# What goes unremarked

The chronicle of a broker is what its journal says of notices about sessions and subscriptions.
Most of what a broker does has no place in it: messages are routed and reported on, adapters
are called, other nodes announce their keys, limiters count. As long as handlers do not call
back, none of this touches the books either.

Whether handlers call back is asked of all that are registered. Asking those that a notice
reaches would not do for a whole run, since a handler that ends the round hides the ones after
it until it is removed.
-/

import MessageBroker.Proofs.Broker.Correspondence
import MessageBroker.Proofs.Broker.Leaving
import MessageBroker.Proofs.Hooks

open Std

namespace MessageBroker

/-- What an entry of the journal tells of sessions and subscriptions. -/
def Event.remark? : Event → Option Notice
  | .notice n => if n.isReport then none else some n
  | _ => none

/-- A handler never calls back. -/
def Handler.IsSilent (h : Handler) : Prop := ∀ n, h.callback n = none

/-- The other nodes do not call back when they are told something. -/
def Environment.IsSilent (env : Environment) : Prop :=
  ∀ cluster ∈ env.cluster, ∀ id change, cluster.callback id change = none

/-- No handler that calls back is registered. -/
def HookTable.AllSilent (t : HookTable) : Prop := ∀ r ∈ t.registrations, r.handler.IsSilent

namespace HookTable

variable {t : HookTable} {kind : NoticeKind} {priority : Nat} {handler : Handler}
  {id : HandlerId} {n : Notice} {h : Handler}

theorem mem_upToLast {handlers : List Handler} (hh : h ∈ upToLast n handlers) : h ∈ handlers := by
  induction handlers with
  | nil => exact hh
  | cons first rest ih =>
    rw [upToLast] at hh
    split at hh
    · rcases List.mem_cons.mp hh with heq | hrest
      · exact List.mem_cons.mpr (.inl heq)
      · exact List.mem_cons_of_mem _ (ih hrest)
    · exact List.mem_cons.mpr (.inl (List.mem_singleton.mp hh))

theorem AllSilent.round (ht : t.AllSilent) (hh : h ∈ t.round n) : h.IsSilent := by
  obtain ⟨r, hr, rfl⟩ := List.mem_map.mp (mem_upToLast hh)
  exact ht r (List.mem_filter.mp hr).1

theorem AllSilent.add (ht : t.AllSilent) (hh : handler.IsSilent) :
    (t.add kind priority handler).1.AllSilent := by
  intro r hr
  rcases mem_place.mp hr with rfl | hr
  · exact hh
  · exact ht r hr

theorem AllSilent.remove (ht : t.AllSilent) : (t.remove kind id).1.AllSilent :=
  fun r hr => ht r (List.mem_filter.mp hr).1

end HookTable

namespace Broker

variable {b b' b'' : Broker} {ctx : Context} {env : Environment} {id : DestinationId}
  {d : Destination} {c : ClientId} {m : Message} {ts : List Subtopic} {n : Notice}
  {w : Screening}

/-- What handlers were told of sessions and subscriptions, oldest first. -/
def chronicle (b : Broker) : Chronicle := b.journal.filterMap Event.remark?

/-- Nothing in the books has changed, and nothing was told of sessions and subscriptions. -/
structure Unremarked (b b' : Broker) : Prop where
  books : b'.books = b.books
  hooks : b'.hooks = b.hooks
  chronicle : b'.chronicle = b.chronicle

theorem Unremarked.refl (b : Broker) : Unremarked b b := ⟨rfl, rfl, rfl⟩

theorem Unremarked.trans (h : Unremarked b b') (h' : Unremarked b' b'') : Unremarked b b'' :=
  ⟨h'.books.trans h.books, h'.hooks.trans h.hooks, h'.chronicle.trans h.chronicle⟩

theorem Unremarked.silent (h : Unremarked b b') (hsilent : Silent env b) : Silent env b' :=
  hsilent.of_hooks_eq h.hooks

/-- Going through a list is unremarked when each step is, nobody calling back. -/
theorem unremarked_foldl {σ α : Type} (broker : σ → Broker) {step : σ → α → σ}
    (hstep : ∀ w a, Silent env (broker w) → Unremarked (broker w) (broker (step w a)))
    (l : List α) (w : σ) (hsilent : Silent env (broker w)) :
    Unremarked (broker w) (broker (l.foldl step w)) := by
  induction l generalizing w with
  | nil => exact .refl _
  | cons a l ih =>
    have hfirst := hstep w a hsilent
    exact hfirst.trans (ih (step w a) (hfirst.silent hsilent))

/-! ## Entries of the journal -/

theorem chronicle_record (b : Broker) (e : Event) :
    (b.record e).chronicle = b.chronicle ++ e.remark?.toList := by
  rw [chronicle, record, List.filterMap_append]
  cases h : e.remark? with
  | none => rw [List.filterMap_cons_none h]; rfl
  | some remark => rw [List.filterMap_cons_some h]; rfl

theorem unremarked_record {e : Event} (he : e.remark? = none) (b : Broker) :
    Unremarked b (b.record e) := by
  refine ⟨rfl, rfl, ?_⟩
  rw [chronicle_record, he]
  exact List.append_nil _

theorem unremarked_log (level : LogLevel) (text : String) (b : Broker) :
    Unremarked b (b.log level text) :=
  unremarked_record rfl b

theorem unremarked_journals {kind : Event → Prop} (hkind : ∀ e, kind e → e.remark? = none)
    (h : Journals kind b b') : Unremarked b b' := by
  obtain ⟨entries, hentries, rfl⟩ := h
  refine ⟨rfl, rfl, ?_⟩
  rw [chronicle, List.filterMap_append,
    List.filterMap_eq_nil_iff.mpr fun e he => hkind e (hentries e he)]
  exact List.append_nil _

theorem unremarked_lookups (h : Journals IsLookup b b') : Unremarked b b' :=
  unremarked_journals (fun e he => by cases e <;> first | rfl | exact he.elim) h

theorem unremarked_onlyAsked (h : OnlyAsked b b') : Unremarked b b' :=
  unremarked_journals (fun _ ⟨_, _, he⟩ => he ▸ rfl) h

/-- Handlers that do not call back are told a notice once. -/
theorem chronicle_notify (ctx : Context) (hsilent : Silent env b) (n : Notice) :
    (notify ctx n b).chronicle = b.chronicle ++ (Event.notice n).remark?.toList := by
  have hcalls : ((b.hooks.round n).map fun h => Event.hook h.name n).filterMap Event.remark? =
      [] := by
    rw [List.filterMap_map]
    exact List.filterMap_eq_nil_iff.mpr fun _ _ => rfl
  rw [notify_of_silent (hsilent.handlers n), ← chronicle_record]
  show (b.journal ++ told b.hooks n).filterMap Event.remark? = (b.journal ++ [_]).filterMap _
  rw [told, ← List.singleton_append, ← List.append_assoc, List.filterMap_append, hcalls,
    List.append_nil]

theorem books_notify (ctx : Context) (hsilent : Silent env b) (n : Notice) :
    (notify ctx n b).books = b.books := by
  rw [notify_of_silent (hsilent.handlers n)]
  rfl

theorem hooks_notify (ctx : Context) (hsilent : Silent env b) (n : Notice) :
    (notify ctx n b).hooks = b.hooks := by
  rw [notify_of_silent (hsilent.handlers n)]

/-- Reporting on a message goes unremarked. -/
theorem Unremarked.notify (h : Unremarked b b') (hsilent : Silent env b) (ctx : Context)
    (hn : n.isReport = true) : Unremarked b (notify ctx n b') := by
  have hsilent' := h.silent hsilent
  refine h.trans ⟨books_notify ctx hsilent' n, hooks_notify ctx hsilent' n, ?_⟩
  rw [chronicle_notify ctx hsilent', show (Event.notice n).remark? = none from if_pos hn]
  exact List.append_nil _

/-! ## Numbers, limiters and sessions -/

theorem unremarked_onDestination (change : Destination → Destination)
    (hshelf : ∀ d, (change d).shelf = d.shelf) (hcount : ∀ d, (change d).counter = d.counter)
    (b : Broker) (id : DestinationId) : Unremarked b (b.onDestination id change) :=
  ⟨books_onDestination_of_shelf hshelf hcount, rfl, rfl⟩

theorem unremarked_onTotals (change : Totals → Totals)
    (h : ∀ t, (change t).subscriptions = t.subscriptions) (b : Broker) (id : DestinationId) :
    Unremarked b (b.onTotals id change) :=
  ⟨books_onTotals_of_subscriptions h, rfl, rfl⟩

theorem unremarked_limiter (limiter : Destination → Limiter) (b : Broker) (id : DestinationId) :
    Unremarked b (b.onDestination id fun d => { d with limiter := limiter d }) :=
  ⟨books_limiter id limiter b, rfl, rfl⟩

theorem chronicle_onSession (b : Broker) (c : ClientId) (change : Session → Session) :
    (b.onSession c change).chronicle = b.chronicle :=
  congrArg (List.filterMap Event.remark?) (journal_onSession b c change)

theorem unremarked_onSession (change : Session → Session)
    (h : ∀ s, (change s).subscriptions = s.subscriptions) (b : Broker) (c : ClientId) :
    Unremarked b (b.onSession c change) :=
  ⟨books_onSession_of_subscriptions h, hooks_onSession, chronicle_onSession b c change⟩

theorem unremarked_touch (b : Broker) (c : ClientId) (now : Timestamp) :
    Unremarked b (b.touch c now) :=
  unremarked_onSession (·.touch now) (fun _ => rfl) b c

theorem unremarked_logout (c : ClientId) (b : Broker) : Unremarked b (logout c b) :=
  unremarked_onSession (fun s => { s with principal := none }) (fun _ => rfl) b c

theorem unremarked_dropCounters (c : ClientId) (b : Broker) : Unremarked b (dropCounters c b) :=
  ⟨books_dropCounters c b, rfl, rfl⟩

/-! ## Routing -/

theorem unremarked_screen (hsilent : Silent ctx.env w.broker) (id : DestinationId) (m : Message)
    (recipient : ClientId × Option Nat) :
    Unremarked w.broker (screen ctx id m w recipient).broker := by
  rw [screen]
  split
  · exact .refl _
  next d _ =>
    dsimp only
    split
    · have hcounted := unremarked_onTotals
        (fun t => { t with expired := t.expired + 1, lastExpired := ⟨ctx.env.now⟩ })
        (fun _ => rfl) w.broker id
      exact hcounted.notify hsilent ctx rfl
    · have hchecked := unremarked_limiter
        (fun _ => (d.limiter.check .outbound recipient.1 recipient.2 ctx.env.now).1) w.broker id
      split
      · exact hchecked
      · have hcounted := hchecked.trans (unremarked_onTotals
          (fun t => { t with outboundThrottled := t.outboundThrottled + 1 }) (fun _ => rfl) _ id)
        exact hcounted.notify hsilent ctx rfl

theorem unremarked_settle {w : Handover} (hsilent : Silent ctx.env w.broker) (id : DestinationId)
    (m : Message) (c : ClientId) : Unremarked w.broker (settle ctx id m w c).broker := by
  rw [settle]
  dsimp only
  split
  · have hcounted := unremarked_onTotals (fun t => { t with delivered := t.delivered + 1 })
      (fun _ => rfl) w.broker id
    have htouched := hcounted.trans (unremarked_touch _ c ctx.env.now)
    exact htouched.notify hsilent ctx rfl
  · have hcounted := unremarked_onTotals
      (fun t => { t with deliveryFailures := t.deliveryFailures + 1 }) (fun _ => rfl) w.broker id
    exact (hcounted.trans (unremarked_log _ _ _)).notify hsilent ctx rfl

theorem unremarked_deliverLocal (hsilent : Silent ctx.env b) (d : Destination) (m : Message)
    (ts : List Subtopic) (only : Option ClientId) :
    Unremarked b (deliverLocal ctx d m ts only b).1 := by
  have hmatching := unremarked_lookups
    (lookups_matchingSubscriptions ctx.env d ts (contentOf m) b)
  rw [deliverLocal]
  dsimp only
  generalize matchingSubscriptions ctx.env d ts (contentOf m) b = found at hmatching ⊢
  generalize recipientsOf (found.2.filter fun s => only.all (· == s.client)) = recipients
  have hscreened := hmatching.trans (unremarked_foldl Screening.broker
    (fun _ recipient hsilent => unremarked_screen hsilent d.id m recipient) recipients.toList
    ⟨found.1, [], 0, 0⟩ (hmatching.silent hsilent))
  generalize recipients.toList.foldl (screen ctx d.id m) ⟨found.1, [], 0, 0⟩ = screened
    at hscreened ⊢
  have hhanded := hscreened.trans (unremarked_foldl (fun b => b)
    (fun b c _ => unremarked_record (e := .delivery c m) rfl b) screened.targets screened.broker
    (hscreened.silent hsilent))
  exact hhanded.trans (unremarked_foldl Handover.broker
    (fun _ c hsilent => unremarked_settle hsilent d.id m c) screened.targets
    ⟨screened.targets.foldl (fun b c => b.record (.delivery c m)) screened.broker, 0, 0⟩
    (hhanded.silent hsilent))

theorem unremarked_tellMessage (env : Environment) (id : DestinationId) (targets : Targets)
    (m : Message) (b : Broker) : Unremarked b (tellMessage env id targets m b).1 := by
  have htold : Unremarked b (b.record (.forward targets m)) := unremarked_record rfl b
  rw [tellMessage]
  split
  · exact .refl b
  · dsimp only
    split
    · exact htold.trans (unremarked_onTotals
        (fun t => { t with forwarded := t.forwarded + 1 }) (fun _ => rfl) _ id)
    · exact htold.trans (unremarked_log _ _ _)

theorem unremarked_forward (env : Environment) (id : DestinationId) (m : Message)
    (ts : List Subtopic) (b : Broker) : Unremarked b (forward env id m ts b).1 := by
  rw [forward]
  split
  · exact .refl b
  next d _ =>
    split
    · exact .refl b
    · exact unremarked_tellMessage env id .all m b
    · have hpeers := unremarked_lookups (lookups_matchingPeers env d ts (contentOf m) b)
      dsimp only
      split
      · exact hpeers
      · exact hpeers.trans (unremarked_tellMessage env id _ m _)

theorem unremarked_fanout (hsilent : Silent ctx.env b) (d : Destination) (m : Message)
    (ts : List Subtopic) (only : Option ClientId) (propagate : Bool) :
    Unremarked b (fanout ctx d m ts only propagate b).1 := by
  have hlocal := unremarked_deliverLocal hsilent d m ts only
  rw [fanout]
  generalize deliverLocal ctx d m ts only b = delivered at hlocal ⊢
  dsimp only
  split
  · exact hlocal.trans (unremarked_forward ctx.env d.id m ts delivered.1)
  · exact hlocal

theorem unremarked_checkInbound (env : Environment) (d : Destination) (m : Message)
    (b : Broker) : Unremarked b (checkInbound env d m b).1 := by
  have hchecked := unremarked_limiter
    (fun _ => (d.limiter.check .inbound m.client none env.now).1) b d.id
  rw [checkInbound]
  dsimp only
  split
  · exact hchecked
  · exact hchecked.trans (unremarked_onTotals
      (fun t => { t with inboundThrottled := t.inboundThrottled + 1 }) (fun _ => rfl) _ d.id)

theorem unremarked_invoke (env : Environment) (adapter : Adapter) (m : Message) (b : Broker) :
    Unremarked b (invoke env adapter m b).1 := by
  cases adapter with
  | plain => exact .refl b
  | bridge name => exact unremarked_record rfl b
  | custom name => exact unremarked_record rfl b

theorem unremarked_passOn (hsilent : Silent ctx.env b) (d : Destination) (m : Message)
    (ts : List Subtopic) : Unremarked b (passOn ctx d m ts b).1 := by
  have hinvoked := unremarked_invoke ctx.env d.adapter m b
  rw [passOn]
  generalize invoke ctx.env d.adapter m b = invoked at hinvoked ⊢
  obtain ⟨b₁, answer⟩ := invoked
  cases answer with
  | error e =>
    exact hinvoked.trans
      (unremarked_limiter (fun d => d.limiter.releaseInbound m.client) b₁ d.id)
  | ok invocation =>
    cases invocation with
    | consumed => exact hinvoked
    | fanout =>
      have hfanned := unremarked_fanout (hinvoked.silent hsilent) d m ts none true
      dsimp only at hfanned ⊢
      generalize fanout ctx d m ts none true b₁ = fannedOut at hfanned ⊢
      exact hinvoked.trans hfanned

theorem unremarked_routeMessage (hsilent : Silent env b) (m : Message) :
    Unremarked b (routeMessage env m b).1 := by
  have hgate := unremarked_onlyAsked (onlyAsked_passGate env m b)
  cases hpass : (passGate env m b).2 with
  | error e =>
    rw [routeMessage_of_error hpass]
    exact hgate
  | ok located =>
    obtain ⟨d, ts⟩ := located
    have hreceived := hgate.trans (unremarked_onTotals
      (fun t => { t with received := t.received + 1 }) (fun _ => rfl) _ d.id)
    have htouched := hreceived.trans (unremarked_touch _ m.client env.now)
    have hchecked := htouched.trans (unremarked_checkInbound env d m _)
    rw [routeMessage_of_ok hpass, receive]
    generalize checkInbound env d m _ = checked at hchecked ⊢
    obtain ⟨b₁, verdict⟩ := checked
    cases verdict with
    | denyError => exact hchecked
    | denyIgnore => exact hchecked.notify hsilent _ rfl
    | allow => exact hchecked.trans (unremarked_passOn (hchecked.silent hsilent) d m ts)

theorem unremarked_routeFromPeer (hsilent : Silent env b) (m : Message) :
    Unremarked b (routeFromPeer env m b).1 := by
  rw [routeFromPeer]
  split
  · exact .refl b
  next d ts _ =>
    have hctx : Silent (b.context env).env b := hsilent
    have hcounted := unremarked_onTotals (fun t => { t with fromPeers := t.fromPeers + 1 })
      (fun _ => rfl) b d.id
    have hfanned := hcounted.trans
      (unremarked_fanout (hcounted.silent hctx) d m ts none false)
    dsimp only
    exact hfanned

theorem unremarked_routeFromAdapter (hsilent : Silent env b) (m : Message) (toAll : Bool) :
    Unremarked b (routeFromAdapter env m toAll b).1 := by
  rw [routeFromAdapter]
  split
  · exact .refl b
  next d ts _ =>
    have hctx : Silent (b.context env).env b := hsilent
    have hcounted := unremarked_onTotals (fun t => { t with fromAdapter := t.fromAdapter + 1 })
      (fun _ => rfl) b d.id
    have hfanned (only : Option ClientId) (propagate : Bool) := hcounted.trans
      (unremarked_fanout (hcounted.silent hctx) d m ts only propagate)
    dsimp only
    split
    · exact hfanned none true
    · exact hfanned (some m.client) false

theorem unremarked_findMatching (env : Environment) (id : DestinationId)
    (subtopics : List String) (content : Content) (b : Broker) :
    Unremarked b (findMatching env id subtopics content b).1 := by
  rw [findMatching]
  split
  · exact .refl b
  · exact unremarked_lookups (lookups_matchingSubscriptions env _ _ content b)

/-! ## Adapters, other nodes and throttles -/

theorem unremarked_callAdapter (env : Environment) (adapter : Adapter) (isStart : Bool)
    (id : DestinationId) (b : Broker) :
    Unremarked b (callAdapter env adapter isStart id b).1 := by
  cases adapter with
  | plain => exact .refl b
  | bridge name => exact unremarked_record rfl b
  | custom name => exact unremarked_record rfl b

theorem unremarked_onRemote (id : DestinationId) (change : RemoteKeys → RemoteKeys)
    (b : Broker) : Unremarked b (b.onRemote id change).1 := by
  rw [onRemote]
  split
  · exact .refl b
  · exact unremarked_onDestination (fun d => { d with remote := change d.remote })
      (fun _ => rfl) (fun _ => rfl) b id

theorem unremarked_receiveChange (peer : PeerId) (id : DestinationId) (change : KeyChange)
    (b : Broker) : Unremarked b (receiveChange peer id change b).1 :=
  unremarked_onRemote id _ b

theorem unremarked_receiveState (peer : PeerId) (id : DestinationId)
    (keys : List SubscriptionKey) (b : Broker) :
    Unremarked b (receiveState peer id keys b).1 :=
  unremarked_onRemote id _ b

theorem unremarked_removePeer (peer : PeerId) (b : Broker) : Unremarked b (removePeer peer b) :=
  ⟨books_removePeer peer b, rfl, rfl⟩

theorem unremarked_configureThrottle (id : DestinationId) (s : ThrottleSettings) (b : Broker) :
    Unremarked b (b.configureThrottle id s).1 := by
  rw [configureThrottle]
  split
  · exact .refl b
  · split
    · exact .refl b
    next limiter _ => exact unremarked_limiter (fun _ => limiter) b id

theorem unremarked_resetThrottle (id : DestinationId) (b : Broker) :
    Unremarked b (b.resetThrottle id).1 := by
  rw [resetThrottle]
  split
  · exact .refl b
  · exact unremarked_limiter (fun d => d.limiter.reset) b id

end Broker

end MessageBroker
