/-
# Two runs alike

What does a delivery depend on, and what makes no difference to it? To answer this, two brokers
are run side by side. They are alike as far as a likeness says, which may leave out what only
others look at: the counters of the other direction, who is logged in, what other nodes announced.
Whatever is left out has to be beyond the reach of local delivery, of the handlers that are told
of it and of everything that they and the other nodes call back for. Then both runs write the same
entries into their journals, come to the same results, and end alike.

Each step of the one run is matched by the same step of the other. The journals are compared from
a point on, so that the runs may begin with different ones.
-/

import Mathlib.Data.List.Forall2
import MessageBroker.Proofs.Broker.Keeping
import MessageBroker.Proofs.Broker.Traffic

open Std

namespace MessageBroker

/-- A change of totals that neither looks at the messages that came in or went on to other nodes
nor touches their numbers. -/
def Totals.IsLocal (change : Totals → Totals) : Prop :=
  ∀ t received fromPeers fromAdapter forwarded,
    change { t with received, fromPeers, fromAdapter, forwarded } =
      { change t with received, fromPeers, fromAdapter, forwarded }

/-- How far two brokers are alike: relations between their destinations, the limiters of these
and the sessions of one client, with the changes under which they last. -/
structure Likeness where
  destination : Destination → Destination → Prop
  limiter : Limiter → Limiter → Prop
  session : Session → Session → Prop
  id_eq : ∀ {d d'}, destination d d' → d'.id = d.id
  messageTtl_eq : ∀ {d d'}, destination d d' → d'.settings.messageTtl? = d.settings.messageTtl?
  registry_eq : ∀ {d d'}, destination d d' → d'.registry = d.registry
  announcing_eq : ∀ {d d'}, destination d d' → d'.announcing = d.announcing
  limiters : ∀ {d d'}, destination d d' → limiter d.limiter d'.limiter
  setRegistry : ∀ {d d'}, destination d d' → ∀ registry,
    destination { d with registry } { d' with registry }
  setAnnouncing : ∀ {d d'}, destination d d' → ∀ announcing,
    destination { d with announcing } { d' with announcing }
  setLimiter : ∀ {d d' l l'}, destination d d' → limiter l l' →
    destination { d with limiter := l } { d' with limiter := l' }
  onTotals : ∀ {d d' change}, destination d d' → Totals.IsLocal change →
    destination { d with totals := change d.totals } { d' with totals := change d'.totals }
  verdict_eq : ∀ {l l'}, limiter l l' → ∀ c requested now,
    (l'.check .outbound c requested now).2 = (l.check .outbound c requested now).2
  check : ∀ {l l'}, limiter l l' → ∀ c requested now,
    limiter (l.check .outbound c requested now).1 (l'.check .outbound c requested now).1
  removeClient : ∀ {l l'}, limiter l l' → ∀ c, limiter (l.removeClient c) (l'.removeClient c)
  touch : ∀ {s s'}, session s s' → ∀ now, session (s.touch now) (s'.touch now)
  unlist : ∀ {s s'}, session s s' → ∀ i,
    session { s with subscriptions := s.subscriptions.erase i }
      { s' with subscriptions := s'.subscriptions.erase i }

/-- Equal brokers. -/
def Likeness.exact : Likeness where
  destination := Eq
  limiter := Eq
  session := Eq
  id_eq := by rintro _ _ rfl; rfl
  messageTtl_eq := by rintro _ _ rfl; rfl
  registry_eq := by rintro _ _ rfl; rfl
  announcing_eq := by rintro _ _ rfl; rfl
  limiters := by rintro _ _ rfl; rfl
  setRegistry := by rintro _ _ rfl _; rfl
  setAnnouncing := by rintro _ _ rfl _; rfl
  setLimiter := by rintro _ _ _ _ rfl rfl; rfl
  onTotals := by rintro _ _ _ rfl _; rfl
  verdict_eq := by rintro _ _ rfl _ _ _; rfl
  check := by rintro _ _ rfl _ _ _; rfl
  removeClient := by rintro _ _ rfl _; rfl
  touch := by rintro _ _ rfl _; rfl
  unlist := by rintro _ _ rfl _; rfl

/-- Other nodes that answer changes of keys and call back alike. -/
structure Cluster.Alike (n n' : Cluster) : Prop where
  tellChange : n'.tellChange = n.tellChange
  callback : n'.callback = n.callback

/-- Environments that are the same to local delivery. -/
structure Environment.Alike (env env' : Environment) : Prop where
  now : env'.now = env.now
  deliver : env'.deliver = env.deliver
  evaluator : env'.evaluator = env.evaluator
  cluster : Option.Rel Cluster.Alike env.cluster env'.cluster

theorem Environment.Alike.refl (env : Environment) : env.Alike env :=
  ⟨rfl, rfl, rfl, by cases env.cluster <;> constructor; exact ⟨rfl, rfl⟩⟩

/-- Of two things that may be missing and are in a relation, either both are or neither. -/
theorem cases_of_rel {α β : Type} {R : α → β → Prop} {x : Option α} {y : Option β}
    (h : Option.Rel R x y) :
    (x = none ∧ y = none) ∨ ∃ a a', x = some a ∧ y = some a' ∧ R a a' := by
  cases h with
  | some hrel => exact .inr ⟨_, _, rfl, rfl, hrel⟩
  | none => exact .inl ⟨rfl, rfl⟩

namespace Broker

/-- What brokers have besides destinations, sessions and journals. -/
def bare (b : Broker) : Broker := { b with destinations := [], sessions := ∅, journal := [] }

/-- Two brokers are alike, whatever stands in their journals. -/
structure Like (k : Likeness) (b b' : Broker) : Prop where
  destinations : List.Forall₂ k.destination b.destinations b'.destinations
  sessions : ∀ c : ClientId, Option.Rel k.session b.sessions[c]? b'.sessions[c]?
  bare : b'.bare = b.bare

/-- Two brokers are alike, and since their journals were as given, both have written the same
entries. -/
structure Akin (k : Likeness) (j j' : List Event) (b b' : Broker) : Prop extends Like k b b' where
  journal : ∃ entries, b.journal = j ++ entries ∧ b'.journal = j' ++ entries

/-- Two operations have left brokers alike, with the same answer. -/
def Alike₂ {α : Type} (k : Likeness) (j j' : List Event) (x x' : Broker × α) : Prop :=
  Akin k j j' x.1 x'.1 ∧ x'.2 = x.2

end Broker

/-- What is called back for in two contexts leaves alike brokers alike, and both are the same to
local delivery. -/
structure Context.Akin (k : Likeness) (ctx ctx' : Context) : Prop where
  env : ctx.env.Alike ctx'.env
  reenter : ∀ {j j' b b'}, Broker.Akin k j j' b b' → ∀ callback,
    Broker.Alike₂ k j j' (ctx.reenter callback b) (ctx'.reenter callback b')

namespace Broker

variable {k : Likeness} {j j' : List Event} {b b' : Broker} {ctx ctx' : Context}
  {env env' : Environment} {id : DestinationId} {c : ClientId} {d d' : Destination}

/-- A broker is like itself as far as its destinations and all sessions are. -/
theorem like_self (hdestination : ∀ d ∈ b.destinations, k.destination d d)
    (hsession : ∀ s, k.session s s) : Like k b b where
  destinations := List.forall₂_same.mpr hdestination
  sessions c := by
    cases b.sessions[c]? with
    | none => exact .none
    | some s => exact .some (hsession s)
  bare := rfl

namespace Akin

theorem of_like (h : Like k b b') : Akin k b.journal b'.journal b b' :=
  ⟨h, [], (List.append_nil _).symm, (List.append_nil _).symm⟩

theorem hooks_eq (h : Akin k j j' b b') : b'.hooks = b.hooks := by
  show b'.bare.hooks = b.bare.hooks
  rw [h.bare]

theorem owners_eq (h : Akin k j j' b b') : b'.owners = b.owners := by
  show b'.bare.owners = b.bare.owners
  rw [h.bare]

theorem destination? (h : Akin k j j' b b') (id : DestinationId) :
    Option.Rel k.destination (b.destination? id) (b'.destination? id) := by
  have hdestinations := h.destinations
  rw [Broker.destination?, Broker.destination?]
  generalize b.destinations = ds, b'.destinations = ds' at hdestinations
  induction hdestinations with
  | nil => exact .none
  | @cons d d' ds ds' hd _ ih =>
    rw [List.find?_cons, List.find?_cons, k.id_eq hd]
    cases d.id == id with
    | true => exact .some hd
    | false => exact ih

theorem destinationIds_eq (h : Akin k j j' b b') : b'.destinationIds = b.destinationIds := by
  have hdestinations := h.destinations
  rw [destinationIds, destinationIds]
  generalize b.destinations = ds, b'.destinations = ds' at hdestinations
  induction hdestinations with
  | nil => rfl
  | cons hd _ ih => rw [List.map_cons, List.map_cons, k.id_eq hd, ih]

/-! ## Changes of the state -/

theorem record (h : Akin k j j' b b') (e : Event) : Akin k j j' (b.record e) (b'.record e) := by
  obtain ⟨entries, hb, hb'⟩ := h.journal
  refine ⟨⟨h.destinations, h.sessions, h.bare⟩, entries ++ [e], ?_, ?_⟩
  · rw [Broker.record, hb, List.append_assoc]
  · rw [Broker.record, hb', List.append_assoc]

theorem onBare (h : Akin k j j' b b') (change : Broker → Broker)
    (hdestinations : ∀ b, (change b).destinations = b.destinations)
    (hsessions : ∀ b, (change b).sessions = b.sessions)
    (hjournal : ∀ b, (change b).journal = b.journal)
    (hbare : ∀ b, (change b).bare = change b.bare) : Akin k j j' (change b) (change b') := by
  refine ⟨⟨?_, ?_, ?_⟩, ?_⟩
  · rw [hdestinations, hdestinations]
    exact h.destinations
  · rw [hsessions, hsessions]
    exact h.sessions
  · rw [hbare, hbare, h.bare]
  · rw [hjournal, hjournal]
    exact h.journal

theorem mapDestinations (h : Akin k j j' b b') {change change' : Destination → Destination}
    (hchange : ∀ d d', k.destination d d' → k.destination (change d) (change' d')) :
    Akin k j j' { b with destinations := b.destinations.map change }
      { b' with destinations := b'.destinations.map change' } := by
  refine ⟨⟨?_, h.sessions, h.bare⟩, h.journal⟩
  rw [List.forall₂_map_left_iff, List.forall₂_map_right_iff]
  exact h.destinations.imp hchange

theorem onDestination (h : Akin k j j' b b') (id : DestinationId)
    {change change' : Destination → Destination}
    (hchange : ∀ d d', k.destination d d' → k.destination (change d) (change' d')) :
    Akin k j j' (b.onDestination id change) (b'.onDestination id change') := by
  apply h.mapDestinations
  intro d d' hd
  rw [k.id_eq hd]
  split
  · exact hchange d d' hd
  · exact hd

theorem onTotals (h : Akin k j j' b b') (id : DestinationId) {change : Totals → Totals}
    (hchange : Totals.IsLocal change) : Akin k j j' (b.onTotals id change) (b'.onTotals id change) :=
  h.onDestination id fun _ _ hd => k.onTotals hd hchange

theorem onSession (h : Akin k j j' b b') (c : ClientId) {change change' : Session → Session}
    (hchange : ∀ s s', k.session s s' → k.session (change s) (change' s')) :
    Akin k j j' (b.onSession c change) (b'.onSession c change') := by
  rw [Broker.onSession, Broker.onSession]
  obtain ⟨hs, hs'⟩ | ⟨s, s', hs, hs', hrel⟩ := cases_of_rel (h.sessions c)
  · rw [hs, hs']
    exact h
  · rw [hs, hs']
    refine ⟨⟨h.destinations, fun x => ?_, h.bare⟩, h.journal⟩
    dsimp only
    rw [Maps.getElem?_insert_ite, Maps.getElem?_insert_ite]
    split
    · exact .some (hchange s s' hrel)
    · exact h.sessions x

theorem touch (h : Akin k j j' b b') (c : ClientId) (now : Timestamp) :
    Akin k j j' (b.touch c now) (b'.touch c now) :=
  h.onSession c fun _ _ hs => k.touch hs now

end Akin

/-! ## Telling handlers and other nodes -/

variable {n : Notice} {s : Subscription} {reason : UnsubscribeReason}

theorem Akin.callHandler (hctx : ctx.Akin k ctx') (h : Akin k j j' b b') (n : Notice)
    (handler : Handler) : Akin k j j' (callHandler ctx n b handler) (callHandler ctx' n b' handler) := by
  have hrecord := h.record (.hook handler.name n)
  rw [Broker.callHandler, Broker.callHandler]
  cases handler.callback n with
  | none => exact hrecord
  | some callback =>
    obtain ⟨hcalled, hanswer⟩ := hctx.reenter hrecord callback
    cases callback with
    | disconnect c => exact hcalled
    | unsubscribe id =>
      dsimp only
      rw [hanswer]
      exact hcalled.record _

theorem Akin.notify (hctx : ctx.Akin k ctx') (h : Akin k j j' b b') (n : Notice) :
    Akin k j j' (notify ctx n b) (notify ctx' n b') := by
  rw [Broker.notify, Broker.notify, h.hooks_eq]
  have hrecord := h.record (.notice n)
  generalize b.hooks.round n = handlers
  generalize b.record (.notice n) = b₁, b'.record (.notice n) = b₁' at hrecord
  induction handlers generalizing b₁ b₁' with
  | nil => exact hrecord
  | cons handler handlers ih => exact ih _ _ (hrecord.callHandler hctx n handler)

theorem Akin.tellChange (hctx : ctx.Akin k ctx') (h : Akin k j j' b b') (id : DestinationId)
    (change : KeyChange) :
    Akin k j j' (tellChange ctx id change b) (tellChange ctx' id change b') := by
  rw [Broker.tellChange, Broker.tellChange]
  obtain ⟨hn, hn'⟩ | ⟨n, n', hn, hn', halike⟩ := cases_of_rel hctx.env.cluster
  · rw [hn, hn']
    exact h
  · rw [hn, hn']
    dsimp only
    rw [halike.callback, halike.tellChange]
    have htold := h.record (.change id change)
    cases n.callback id change with
    | none =>
      cases n.tellChange id change with
      | ok _ => exact htold
      | error fault => exact htold.record _
    | some callback =>
      have hcalled := (hctx.reenter htold callback).1
      cases n.tellChange id change with
      | ok _ => exact hcalled
      | error fault => exact hcalled.record _

theorem Akin.setAnnouncing (h : Akin k j j' b b') (id : DestinationId) (announcing : Bool) :
    Akin k j j' (b.onDestination id fun d => { d with announcing })
      (b'.onDestination id fun d => { d with announcing }) :=
  h.onDestination id fun _ _ hd => k.setAnnouncing hd announcing

theorem Akin.pop (h : Akin k j j' b b') (id : DestinationId) :
    Akin k j j' (b.onDestination id fun d => { d with registry := d.registry.pop.1 })
      (b'.onDestination id fun d => { d with registry := d.registry.pop.1 }) := by
  apply h.onDestination
  intro d d' hd
  rw [k.registry_eq hd]
  exact k.setRegistry hd d.registry.pop.1

theorem Akin.tellChanges (hctx : ctx.Akin k ctx') (h : Akin k j j' b b') (id : DestinationId)
    (fuel : Nat) : Akin k j j' (tellChanges ctx id fuel b) (tellChanges ctx' id fuel b') := by
  induction fuel generalizing b b' with
  | zero => exact h
  | succ fuel ih =>
    have hhead : ((b'.destination? id).bind fun d => d.registry.pending.head?) =
        (b.destination? id).bind fun d => d.registry.pending.head? := by
      obtain ⟨hd, hd'⟩ | ⟨d, d', hd, hd', hrel⟩ := cases_of_rel (h.destination? id)
      · rw [hd, hd']
      · rw [hd, hd', Option.bind_some, Option.bind_some, k.registry_eq hrel]
    rw [Broker.tellChanges, Broker.tellChanges, hhead]
    split
    · exact h
    next change _ => exact ih ((h.pop id).tellChange hctx id change)

theorem Akin.announce (hctx : ctx.Akin k ctx') (h : Akin k j j' b b') (id : DestinationId) :
    Akin k j j' (announce ctx id b) (announce ctx' id b') := by
  rw [Broker.announce, Broker.announce]
  obtain ⟨hd, hd'⟩ | ⟨d, d', hd, hd', hrel⟩ := cases_of_rel (h.destination? id)
  · rw [hd, hd']
    exact h
  · rw [hd, hd']
    dsimp only
    rw [k.announcing_eq hrel, k.registry_eq hrel]
    cases d.announcing with
    | true => exact h
    | false => exact (((h.setAnnouncing id true).tellChanges hctx id _).setAnnouncing id false)

/-! ## Ending subscriptions and sessions -/

theorem Akin.strike (h : Akin k j j' b b') (id : DestinationId) (s : Subscription) :
    Akin k j j' (b.strike id s) (b'.strike id s) := by
  let unlist : Session → Session := fun session =>
    { session with subscriptions := session.subscriptions.erase s.id }
  let count : Totals → Totals := fun t => { t with subscriptions := t.subscriptions.dec }
  have hunlist : ∀ x x', k.session x x' → k.session (unlist x) (unlist x') :=
    fun _ _ hsession => k.unlist hsession s.id
  have hcount : Totals.IsLocal count := fun _ _ _ _ _ => rfl
  have howners := h.onBare (fun b => { b with owners := b.owners.erase s.id })
    (fun _ => rfl) (fun _ => rfl) (fun _ => rfl) fun _ => rfl
  have hcounted := (howners.onSession s.client hunlist).onTotals id hcount
  exact hcounted.onBare (fun b => { b with subscriptionGauge := b.subscriptionGauge.dec })
    (fun _ => rfl) (fun _ => rfl) (fun _ => rfl) fun _ => rfl

theorem Akin.foldl_detach (hctx : ctx.Akin k ctx') (h : Akin k j j' b b') (id : DestinationId)
    (reason : UnsubscribeReason) (subs : List Subscription) :
    Akin k j j' (subs.foldl (detach ctx id reason) b) (subs.foldl (detach ctx' id reason) b') := by
  induction subs generalizing b b' with
  | nil => exact h
  | cons s subs ih =>
    exact ih (((h.strike id s).notify hctx (.unsubscribed s reason)).announce hctx id)

theorem Akin.takeOut (h : Akin k j j' b b') (id : DestinationId)
    (take : Registry → Registry × List Removed) :
    Alike₂ k j j' (takeOut id take b) (takeOut id take b') := by
  rw [Broker.takeOut, Broker.takeOut]
  obtain ⟨hd, hd'⟩ | ⟨d, d', hd, hd', hrel⟩ := cases_of_rel (h.destination? id)
  · rw [hd, hd']
    exact ⟨h, rfl⟩
  · rw [hd, hd']
    dsimp only
    rw [k.registry_eq hrel]
    exact ⟨h.onDestination id fun _ _ hd => k.setRegistry hd _, rfl⟩

theorem Akin.unsubscribeAt (hctx : ctx.Akin k ctx') (h : Akin k j j' b b') (c : ClientId)
    (reason : UnsubscribeReason) (id : DestinationId) :
    Alike₂ k j j' (unsubscribeAt ctx c reason id b) (unsubscribeAt ctx' c reason id b') := by
  obtain ⟨htaken, hremoved⟩ := h.takeOut id (·.removeClient c)
  rw [Broker.unsubscribeAt, Broker.unsubscribeAt]
  dsimp only
  rw [hremoved]
  exact ⟨htaken.foldl_detach hctx id reason _, rfl⟩

theorem Akin.unsubscribeClient (hctx : ctx.Akin k ctx') (h : Akin k j j' b b') (c : ClientId)
    (reason : UnsubscribeReason) :
    Alike₂ k j j' (unsubscribeClient ctx c reason b) (unsubscribeClient ctx' c reason b') := by
  rw [Broker.unsubscribeClient, Broker.unsubscribeClient, h.destinationIds_eq]
  generalize b.destinationIds = ids, 0 = total
  induction ids generalizing b b' total with
  | nil => exact ⟨h, rfl⟩
  | cons id ids ih =>
    obtain ⟨hended, hcount⟩ := h.unsubscribeAt hctx c reason id
    rw [List.foldl_cons, List.foldl_cons]
    dsimp only
    rw [hcount]
    exact ih hended _

theorem Akin.dropCounters (h : Akin k j j' b b') (c : ClientId) :
    Akin k j j' (dropCounters c b) (dropCounters c b') :=
  h.mapDestinations fun _ _ hd => k.setLimiter hd (k.removeClient (k.limiters hd) c)

theorem Akin.terminate (hctx : ctx.Akin k ctx') (h : Akin k j j' b b') (c : ClientId) :
    Akin k j j' (terminate ctx c false b) (terminate ctx' c false b') := by
  rw [Broker.terminate, Broker.terminate]
  obtain ⟨hs, hs'⟩ | ⟨s, s', hs, hs', -⟩ := cases_of_rel (h.sessions c)
  · rw [hs, hs']
    exact h.dropCounters c
  · rw [hs, hs']
    have hgauge := h.onBare (fun b => { b with sessionGauge := b.sessionGauge.dec })
      (fun _ => rfl) (fun _ => rfl) (fun _ => rfl) fun _ => rfl
    have hended : Akin k j j'
        { b with sessions := b.sessions.erase c, sessionGauge := b.sessionGauge.dec }
        { b' with sessions := b'.sessions.erase c, sessionGauge := b'.sessionGauge.dec } := by
      refine ⟨⟨hgauge.destinations, fun x => ?_, hgauge.bare⟩, hgauge.journal⟩
      dsimp only
      rw [Maps.getElem?_erase_ite, Maps.getElem?_erase_ite]
      split
      · exact .none
      · exact h.sessions x
    exact (hended.dropCounters c).notify hctx _

theorem Akin.disconnectIn (hctx : ctx.Akin k ctx') (h : Akin k j j' b b') (c : ClientId) :
    Alike₂ k j j' (disconnectIn ctx c b) (disconnectIn ctx' c b') := by
  obtain ⟨hended, hcount⟩ := h.unsubscribeClient hctx c .disconnect
  exact ⟨hended.terminate hctx c, hcount⟩

theorem Akin.unsubscribeIn (hctx : ctx.Akin k ctx') (h : Akin k j j' b b') (i : SubscriptionId) :
    Alike₂ k j j' (unsubscribeIn ctx i b) (unsubscribeIn ctx' i b') := by
  cases howner : b.owners[i]? with
  | none =>
    rw [Broker.unsubscribeIn, Broker.unsubscribeIn, h.owners_eq, howner]
    exact ⟨h, rfl⟩
  | some owner =>
    have howner' : b'.owners[i]? = some owner := h.owners_eq ▸ howner
    let b₁ : Broker := { b with owners := b.owners.erase i }
    let b₁' : Broker := { b' with owners := b'.owners.erase i }
    have howners : Akin k j j' b₁ b₁' :=
      h.onBare (fun b => { b with owners := b.owners.erase i })
        (fun _ => rfl) (fun _ => rfl) (fun _ => rfl) fun _ => rfl
    obtain ⟨htaken, hremoved⟩ := howners.takeOut owner (takeOne i)
    rw [Broker.unsubscribeIn, Broker.unsubscribeIn, howner, howner']
    refine ⟨?_, congrArg (fun removed => !removed.isEmpty) hremoved⟩
    show Akin k j j'
      (((Broker.takeOut owner (takeOne i) b₁).2.map (·.subscription)).foldl
        (detach ctx owner .client) (Broker.takeOut owner (takeOne i) b₁).1)
      (((Broker.takeOut owner (takeOne i) b₁').2.map (·.subscription)).foldl
        (detach ctx' owner .client) (Broker.takeOut owner (takeOne i) b₁').1)
    rw [hremoved]
    exact htaken.foldl_detach hctx owner .client _

/-- Calls back leave alike brokers alike, however deep they nest. -/
theorem akin_reenter (henv : env.Alike env') (h : Akin k j j' b b') (depth : Nat)
    (callback : Callback) :
    Alike₂ k j j' (reenter env depth callback b) (reenter env' depth callback b') := by
  induction depth generalizing callback b b' j j' with
  | zero => exact ⟨h, rfl⟩
  | succ depth ih =>
    -- What is called back for meets handlers that may call back once less deep.
    have hctx : Context.Akin k ⟨env, reenter env depth⟩ ⟨env', reenter env' depth⟩ :=
      ⟨henv, fun h callback => ih h callback⟩
    cases callback with
    | disconnect c =>
      obtain ⟨hended, hcount⟩ := h.disconnectIn hctx c
      refine ⟨hended, ?_⟩
      rw [reenter, reenter]
      dsimp only
      rw [hcount]
    | unsubscribe i => exact h.unsubscribeIn hctx i

theorem Akin.depth_eq (h : Akin k j j' b b') : b'.depth = b.depth := by
  have hsessions : b'.sessions.map (fun _ _ => ()) = b.sessions.map fun _ _ => () := by
    ext1 c
    rw [ExtTreeMap.getElem?_map, ExtTreeMap.getElem?_map]
    obtain ⟨hs, hs'⟩ | ⟨s, s', hs, hs', -⟩ := cases_of_rel (h.sessions c) <;> rw [hs, hs']
    rfl
  have hsize : b'.sessions.size = b.sessions.size := by
    have hsizes := congrArg ExtTreeMap.size hsessions
    rwa [ExtTreeMap.size_map, ExtTreeMap.size_map] at hsizes
  rw [depth, depth, hsize, h.owners_eq]

/-- Operations that begin with alike brokers run in contexts that keep brokers alike. -/
theorem Akin.context (h : Akin k j j' b b') (henv : env.Alike env') :
    (b.context env).Akin k (b'.context env') := by
  rw [Broker.context, Broker.context, h.depth_eq]
  exact ⟨henv, fun hakin callback => akin_reenter henv hakin b.depth callback⟩

/-! ## Matching -/

theorem Akin.evaluate (henv : env.Alike env') (h : Akin k j j' b b') (content : Content)
    (selector : Selector) :
    Alike₂ k j j' (evaluate env content selector b) (evaluate env' content selector b') := by
  rw [Broker.evaluate, Broker.evaluate, henv.evaluator]
  cases env.evaluator with
  | none => exact ⟨h.record _, rfl⟩
  | some evaluator =>
    dsimp only
    cases evaluator selector content.headers content.body with
    | ok holds => exact ⟨h.record _, rfl⟩
    | error fault => exact ⟨(h.record _).record _, rfl⟩

theorem Akin.consult (henv : env.Alike env') (h : Akin k j j' b b') (content : Content)
    (selector : Selector) (known : Verdicts) :
    Alike₂ k j j' (consult env content selector known b)
      (consult env' content selector known b') := by
  rw [Broker.consult, Broker.consult]
  cases known.lookup selector with
  | some holds => exact ⟨h, rfl⟩
  | none =>
    obtain ⟨hasked, hanswer⟩ := h.evaluate henv content selector
    refine ⟨hasked, ?_⟩
    dsimp only
    rw [hanswer]

theorem Akin.select (henv : env.Alike env') (h : Akin k j j' b b') (content : Content)
    (subs : List Subscription) (known : Verdicts) :
    Alike₂ k j j' (select env content subs known b) (select env' content subs known b') := by
  induction subs generalizing b b' known with
  | nil => exact ⟨h, rfl⟩
  | cons s subs ih =>
    rw [Broker.select, Broker.select]
    cases s.selector with
    | none =>
      obtain ⟨hselected, hmatched⟩ := ih h known
      refine ⟨hselected, ?_⟩
      dsimp only
      rw [hmatched]
    | some selector =>
      have hconsulted := h.consult henv content selector known
      dsimp only
      generalize Broker.consult env content selector known b = asked,
        Broker.consult env' content selector known b' = asked' at hconsulted
      obtain ⟨b₁, known, holds⟩ := asked
      obtain ⟨b₁', known', holds'⟩ := asked'
      obtain ⟨hasked, hanswer⟩ := hconsulted
      cases hanswer
      obtain ⟨hselected, hmatched⟩ := ih hasked known
      refine ⟨hselected, ?_⟩
      dsimp only at hmatched ⊢
      rw [hmatched]

theorem Akin.matchingSubscriptions (henv : env.Alike env') (h : Akin k j j' b b')
    (hd : k.destination d d') (ts : List Subtopic) (content : Content) :
    Alike₂ k j j' (matchingSubscriptions env d ts content b)
      (matchingSubscriptions env' d' ts content b') := by
  rw [Broker.matchingSubscriptions, Broker.matchingSubscriptions, k.registry_eq hd]
  exact h.select henv content _ []

/-! ## Local delivery -/

variable {m : Message} {ts : List Subtopic} {only : Option ClientId}

/-- As far as recipients are screened, brokers are alike and the same is known. -/
structure AkinScreening (k : Likeness) (j j' : List Event) (w w' : Screening) : Prop where
  broker : Akin k j j' w.broker w'.broker
  known : { w' with broker := w.broker } = w

/-- As far as copies are settled, brokers are alike and the same is told. -/
structure AkinHandover (k : Likeness) (j j' : List Event) (w w' : Handover) : Prop where
  broker : Akin k j j' w.broker w'.broker
  known : { w' with broker := w.broker } = w

theorem isExpired_eq (hd : k.destination d d') (m : Message) (now : Timestamp) :
    isExpired d' m now = isExpired d m now := by
  rw [isExpired, isExpired, k.messageTtl_eq hd]

theorem AkinScreening.screen (hctx : ctx.Akin k ctx') {w w' : Screening}
    (h : AkinScreening k j j' w w') (id : DestinationId) (m : Message)
    (recipient : ClientId × Option Nat) :
    AkinScreening k j j' (screen ctx id m w recipient) (screen ctx' id m w' recipient) := by
  obtain ⟨c, requested⟩ := recipient
  obtain ⟨b, targets, expired, throttled⟩ := w
  obtain ⟨b', targets', expired', throttled'⟩ := w'
  obtain ⟨hb, hknown⟩ := h
  cases hknown
  dsimp only at hb
  obtain ⟨hd, hd'⟩ | ⟨d, d', hd, hd', hrel⟩ := cases_of_rel (hb.destination? id)
  · rw [Broker.screen, Broker.screen]
    dsimp only
    rw [hd, hd']
    exact ⟨hb, rfl⟩
  · rw [Broker.screen, Broker.screen]
    dsimp only
    rw [hd, hd']
    dsimp only
    rw [isExpired_eq hrel, hctx.env.now, k.verdict_eq (k.limiters hrel)]
    have hchecked := hb.onDestination id fun _ _ hd =>
      k.setLimiter hd (k.check (k.limiters hrel) c requested ctx.env.now)
    split
    · exact ⟨(hb.onTotals id fun _ _ _ _ _ => rfl).notify hctx _, rfl⟩
    · split
      · exact ⟨hchecked, rfl⟩
      · exact ⟨(hchecked.onTotals id fun _ _ _ _ _ => rfl).notify hctx _, rfl⟩

theorem AkinHandover.settle (hctx : ctx.Akin k ctx') {w w' : Handover}
    (h : AkinHandover k j j' w w') (id : DestinationId) (m : Message) (c : ClientId) :
    AkinHandover k j j' (settle ctx id m w c) (settle ctx' id m w' c) := by
  obtain ⟨b, delivered, failed⟩ := w
  obtain ⟨b', delivered', failed'⟩ := w'
  obtain ⟨hb, hknown⟩ := h
  cases hknown
  dsimp only at hb
  rw [Broker.settle, Broker.settle]
  dsimp only
  rw [hctx.env.deliver, hctx.env.now]
  cases ctx.env.deliver c m with
  | ok _ =>
    exact ⟨((hb.onTotals id fun _ _ _ _ _ => rfl).touch c ctx.env.now).notify hctx _, rfl⟩
  | error fault =>
    exact ⟨((hb.onTotals id fun _ _ _ _ _ => rfl).record _).notify hctx _, rfl⟩

theorem AkinScreening.foldl_screen (hctx : ctx.Akin k ctx') {w w' : Screening}
    (h : AkinScreening k j j' w w') (id : DestinationId) (m : Message)
    (recipients : List (ClientId × Option Nat)) :
    AkinScreening k j j' (recipients.foldl (Broker.screen ctx id m) w)
      (recipients.foldl (Broker.screen ctx' id m) w') := by
  induction recipients generalizing w w' with
  | nil => exact h
  | cons recipient recipients ih => exact ih (h.screen hctx id m recipient)

theorem AkinHandover.foldl_settle (hctx : ctx.Akin k ctx') {w w' : Handover}
    (h : AkinHandover k j j' w w') (id : DestinationId) (m : Message) (targets : List ClientId) :
    AkinHandover k j j' (targets.foldl (Broker.settle ctx id m) w)
      (targets.foldl (Broker.settle ctx' id m) w') := by
  induction targets generalizing w w' with
  | nil => exact h
  | cons c targets ih => exact ih (h.settle hctx id m c)

theorem Akin.foldl_record (h : Akin k j j' b b') (m : Message) (targets : List ClientId) :
    Akin k j j' (targets.foldl (fun b c => b.record (.delivery c m)) b)
      (targets.foldl (fun b c => b.record (.delivery c m)) b') := by
  induction targets generalizing b b' with
  | nil => exact h
  | cons c targets ih => exact ih (h.record _)

/-- Local delivery comes to the same result, and leaves alike brokers alike. -/
theorem Akin.deliverLocal (hctx : ctx.Akin k ctx') (h : Akin k j j' b b')
    (hd : k.destination d d') (m : Message) (ts : List Subtopic) (only : Option ClientId) :
    Alike₂ k j j' (deliverLocal ctx d m ts only b) (deliverLocal ctx' d' m ts only b') := by
  have hmatched := h.matchingSubscriptions hctx.env hd ts (contentOf m)
  rw [Broker.deliverLocal, Broker.deliverLocal, k.id_eq hd]
  generalize Broker.matchingSubscriptions ctx.env d ts (contentOf m) b = matched,
    Broker.matchingSubscriptions ctx'.env d' ts (contentOf m) b' = matched' at hmatched
  obtain ⟨b₁, subs⟩ := matched
  obtain ⟨b₁', subs'⟩ := matched'
  obtain ⟨hb₁, hsubs⟩ := hmatched
  cases hsubs
  dsimp only
  generalize recipientsOf (subs.filter fun s => only.all (· == s.client)) = recipients
  have hscreened : AkinScreening k j j'
      (recipients.toList.foldl (screen ctx d.id m) ⟨b₁, [], 0, 0⟩)
      (recipients.toList.foldl (screen ctx' d.id m) ⟨b₁', [], 0, 0⟩) :=
    AkinScreening.foldl_screen hctx ⟨hb₁, rfl⟩ d.id m recipients.toList
  generalize recipients.toList.foldl (screen ctx d.id m) ⟨b₁, [], 0, 0⟩ = w,
    recipients.toList.foldl (screen ctx' d.id m) ⟨b₁', [], 0, 0⟩ = w' at hscreened
  obtain ⟨b₂, targets, expired, throttled⟩ := w
  obtain ⟨b₂', targets', expired', throttled'⟩ := w'
  obtain ⟨hb₂, hknown⟩ := hscreened
  cases hknown
  dsimp only at hb₂ ⊢
  have hhanded : AkinHandover k j j' ⟨_, 0, 0⟩ ⟨_, 0, 0⟩ := ⟨hb₂.foldl_record m targets', rfl⟩
  obtain ⟨hb₃, hknown⟩ := hhanded.foldl_settle hctx d.id m targets'
  obtain ⟨-, hdelivered, hfailed⟩ := Handover.mk.inj hknown
  exact ⟨hb₃, by rw [hdelivered, hfailed]⟩

end Broker

end MessageBroker
