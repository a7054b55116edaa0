/-
# Calls back that stay with their client

Handlers and other nodes may call back about anyone: a handler that is told about one client
may disconnect another one. Mostly they do not. A handler that calls back does so for the
client or the subscription that it was told about, and other nodes that hear that a key has
disappeared have no reason to call back at all.

Among such handlers and nodes, what is called back for on account of a client stays with it.
The limiters forget that client at most, the subscriptions of the others remain, and the other
nodes are only told of keys that disappear, however deep calls back nest. A disconnected client
is forgotten by all limiters, and nobody else is.
-/

import MessageBroker.Proofs.Broker.Unremarked
import MessageBroker.Proofs.Broker.WaysOut

open Std

namespace MessageBroker

theorem Limiter.removeClient_removeClient (l : Limiter) (c : ClientId) :
    (l.removeClient c).removeClient c = l.removeClient c := by
  have hclients : (l.clients.erase c).erase c = l.clients.erase c := by
    ext1 x
    simp only [Maps.getElem?_erase_ite]
    split <;> rfl
  rw [Limiter.removeClient, Limiter.removeClient, hclients]

/-- Removing subscriptions queues nothing but disappearances of keys. -/
theorem Registry.Sound.pending_removeAll {r : Registry} (h : r.Sound) (ids : List SubscriptionId) :
    ∀ change ∈ (removeAll ids r).1.pending, change ∈ r.pending ∨ change.kind = .removed := by
  intro change hchange
  cases htracking : r.tracking with
  | false =>
    rw [pending_removeAll_of_not_tracking ids htracking] at hchange
    exact .inl hchange
  | true =>
    obtain ⟨changes, hpending, -, hchanges⟩ := Tracks.pending_removeAll ids ⟨h, htracking⟩
    rw [hpending, List.mem_append] at hchange
    exact hchange.imp_right fun hnew => ((hchanges change).mp hnew).1

/-- What is called back for is the client or the subscription that a notice is about. -/
def Callback.Concerns (n : Notice) : Callback → Prop
  | .disconnect c => n.client? = some c
  | .unsubscribe id => n.subscription? = some id

/-- Handlers only call back for what they are told about. -/
def HookTable.IsLocal (t : HookTable) : Prop :=
  ∀ n, ∀ h ∈ t.round n, ∀ callback, h.callback n = some callback → callback.Concerns n

/-- Other nodes that are told that a key has disappeared do not call back. -/
def Environment.AcceptsRemovals (env : Environment) : Prop :=
  ∀ cluster ∈ env.cluster, ∀ id change, change.kind = .removed →
    cluster.callback id change = none

theorem HookTable.isLocal_of_registrations {t : HookTable} (h : ∀ r ∈ t.registrations,
    ∀ n callback, r.handler.callback n = some callback → callback.Concerns n) : t.IsLocal := by
  intro n handler hhandler callback hcallback
  obtain ⟨r, hr, rfl⟩ := List.mem_map.mp (mem_upToLast hhandler)
  exact h r (List.mem_filter.mp hr).1 n callback hcallback

/-- The handlers of a rehearsal call back for what they are told about. -/
theorem Script.concerns_of_callback {name : String} {proceeds : Bool}
    {action : Option HandlerAction} {n : Notice} {callback : Callback}
    (h : (handler name proceeds action).callback n = some callback) : callback.Concerns n := by
  rcases action with _ | _ | _
  · cases h
  · obtain ⟨c, hclient, rfl⟩ := Option.map_eq_some_iff.mp h
    exact hclient
  · obtain ⟨id, hnumber, rfl⟩ := Option.map_eq_some_iff.mp h
    exact hnumber

/-- The other nodes of a rehearsal only call back for keys that are new. -/
theorem Script.acceptsRemovals_environment (s : Script) (now : Timestamp) :
    (s.environment now).AcceptsRemovals := by
  intro cluster hcluster id change hchange
  have hnodes : cluster = s.otherNodes := by
    rw [environment] at hcluster
    split at hcluster
    · exact (Option.some.inj hcluster).symm
    · cases hcluster
  rw [hnodes, otherNodes]
  dsimp only
  rw [hchange]

/-- A destination has changed for one client at most. -/
structure Destination.Confined (c : ClientId) (d d' : Destination) : Prop where
  settings : d'.settings = d.settings
  limiter : d'.limiter = d.limiter ∨ d'.limiter = d.limiter.removeClient c
  others : ∀ n s, s.client ≠ c → (d'.registry.get? n = some s ↔ d.registry.get? n = some s)
  pending : ∀ change ∈ d'.registry.pending, change ∈ d.registry.pending ∨ change.kind = .removed

namespace Destination.Confined

variable {c : ClientId} {d d' d'' : Destination}

theorem of_registry_eq (hsettings : d'.settings = d.settings) (hregistry : d'.registry = d.registry)
    (hlimiter : d'.limiter = d.limiter ∨ d'.limiter = d.limiter.removeClient c) :
    d.Confined c d' where
  settings := hsettings
  limiter := hlimiter
  others n s _ := by rw [hregistry]
  pending change hchange := .inl (hregistry ▸ hchange)

theorem refl (d : Destination) : d.Confined c d := of_registry_eq rfl rfl (.inl rfl)

theorem trans (h : d.Confined c d') (h' : d'.Confined c d'') : d.Confined c d'' where
  settings := h'.settings.trans h.settings
  limiter := by
    rcases h.limiter with hsame | hforgot <;> rcases h'.limiter with hsame' | hforgot'
    · exact .inl (hsame'.trans hsame)
    · exact .inr (hsame ▸ hforgot')
    · exact .inr (hsame'.trans hforgot)
    · right
      rw [hforgot', hforgot, Limiter.removeClient_removeClient]
  others n s hs := (h'.others n s hs).trans (h.others n s hs)
  pending change hchange := (h'.pending change hchange).elim (h.pending change) .inr

end Destination.Confined

namespace Broker

variable {b b' b'' : Broker} {ctx : Context} {env : Environment} {id : DestinationId}
  {d : Destination} {c : ClientId} {n : Notice} {number : SubscriptionId} {s : Subscription}
  {strays strays' : Strays} {hooks : HookTable} {settings : DestinationSettings} {l : Limiter}

/-- Every destination has changed for one client at most. -/
structure Confined (c : ClientId) (b b' : Broker) : Prop where
  destinations : Lookups (Destination.Confined c) b b'
  hooks : b'.hooks = b.hooks

theorem Confined.trans (h : Confined c b b') (h' : Confined c b' b'') : Confined c b b'' :=
  ⟨h.destinations.trans (fun hd hd' => hd.trans hd') h'.destinations, h'.hooks.trans h.hooks⟩

theorem confined_of_destinations_eq (h : b'.destinations = b.destinations)
    (hhooks : b'.hooks = b.hooks) : Confined c b b' :=
  ⟨lookups_of_destinations_eq .refl h, hhooks⟩

theorem Confined.refl (b : Broker) : Confined c b b := confined_of_destinations_eq rfl rfl

theorem confined_onDestination {change : Destination → Destination}
    (hid : ∀ d, (change d).id = d.id)
    (h : ∀ d, b.destination? id = some d → d.Confined c (change d)) :
    Confined c b (b.onDestination id change) :=
  ⟨lookups_onDestination .refl hid h, rfl⟩

theorem confined_onTotals (change : Totals → Totals) (b : Broker) (id : DestinationId) :
    Confined c b (b.onTotals id change) :=
  confined_onDestination (fun _ => rfl) fun _ _ => .of_registry_eq rfl rfl (.inl rfl)

theorem confined_strike (id : DestinationId) (s : Subscription) (b : Broker) :
    Confined c b (b.strike id s) :=
  (confined_onTotals _ b id).trans
    (confined_of_destinations_eq (destinations_strike id s b) (hooks_strike id s b))

theorem confined_dropCounters (c : ClientId) (b : Broker) : Confined c b (dropCounters c b) :=
  ⟨lookups_of_destination?_map
    (destination?_map (f := fun d => { d with limiter := d.limiter.removeClient c })
      (fun _ => rfl) rfl) fun _ _ _ => .of_registry_eq rfl rfl (.inr rfl), rfl⟩

theorem confined_takeOut (hb : b.books.Accounted strays) (c : ClientId) (id : DestinationId) :
    Confined c b (takeOut id (·.removeClient c) b).1 := by
  rw [takeOut]
  split
  · exact .refl b
  next d hd =>
    apply confined_onDestination (by exact fun _ => rfl)
    intro d' hd'
    obtain rfl := Option.some.inj (hd.symm.trans hd')
    have hsound := hb.sound d.shelf (List.mem_map_of_mem (mem_of_destination? hd).1)
    refine ⟨rfl, .inl rfl, fun n s hother => ?_, hsound.pending_removeAll _⟩
    exact hsound.get?_removeClient.trans (and_iff_left hother)

theorem confined_pop (b : Broker) (id : DestinationId) :
    Confined c b (b.onDestination id fun d => { d with registry := d.registry.pop.1 }) := by
  apply confined_onDestination (by exact fun _ => rfl)
  intro d _
  refine ⟨rfl, .inl rfl, fun n s _ => by rw [get?_pop], fun change hchange => .inl ?_⟩
  dsimp only [Registry.pop] at hchange
  split at hchange
  · exact hchange
  next hpending =>
    rw [hpending]
    exact List.mem_cons_of_mem _ hchange

/-! ## Handlers and nodes that keep to the matter -/

/-- No subscription has a number. -/
def Lacks (number : SubscriptionId) (b : Broker) : Prop :=
  ∀ {id s}, b.books.Holds id s → s.id ≠ number

/-- All that waits to be told to other nodes is that keys have disappeared. -/
def Withdraws (b : Broker) : Prop :=
  ∀ id d, b.destination? id = some d → ∀ change ∈ d.registry.pending, change.kind = .removed

theorem Withdraws.confined (hb : b.Withdraws) (h : Confined c b b') : b'.Withdraws := by
  intro id d' hd' change hchange
  obtain ⟨d, hd, hconfined⟩ := h.destinations.exists_of_destination? hd'
  exact (hconfined.pending change hchange).elim (hb id d hd change) fun hkind => hkind

/-- The books are in order up to strays, handlers keep to what they are told about, and only
disappearances wait to be told. -/
structure Reserved (strays : Strays) (b : Broker) : Prop where
  accounted : b.books.Accounted strays
  hooks : b.hooks.IsLocal
  withdraws : b.Withdraws

theorem Reserved.confined (hb : b.Reserved strays) (h : Confined c b b')
    (hb' : b'.books.Accounted strays') : b'.Reserved strays' :=
  ⟨hb', h.hooks ▸ hb.hooks, hb.withdraws.confined h⟩

theorem Reserved.record (hb : b.Reserved strays) (e : Event) : (b.record e).Reserved strays :=
  ⟨hb.accounted, hb.hooks, hb.withdraws⟩

end Broker

/-- Calls back in a context stay with the client that they are for. To end a subscription that
is not there is for nobody. -/
structure Context.IsLocal (ctx : Context) : Prop where
  keeps : ctx.Keeps
  peers : ctx.env.AcceptsRemovals
  disconnect : ∀ {b : Broker} {strays}, b.Reserved strays → ∀ c,
    Broker.Confined c b (ctx.reenter (.disconnect c) b).1
  unsubscribe : ∀ {b : Broker} {strays number}, b.Reserved strays → b.Lacks number → ∀ c,
    Broker.Confined c b (ctx.reenter (.unsubscribe number) b).1

namespace Broker

variable {b b' b'' : Broker} {ctx : Context} {env : Environment} {id : DestinationId}
  {d : Destination} {c : ClientId} {n : Notice} {number : SubscriptionId} {s : Subscription}
  {strays strays' : Strays} {hooks : HookTable} {settings : DestinationSettings} {l : Limiter}

theorem confined_callHandler (hctx : ctx.IsLocal) (hb : b.Reserved strays)
    (hclient : n.client? = some c)
    (hnumber : ∀ number, n.subscription? = some number → b.Lacks number)
    {h : Handler} (hlocal : ∀ callback, h.callback n = some callback → callback.Concerns n) :
    Confined c b (callHandler ctx n b h) := by
  have hcalled : Confined c b (b.record (.hook h.name n)) := confined_of_destinations_eq rfl rfl
  rw [callHandler]
  cases hcallback : h.callback n with
  | none => exact hcalled
  | some callback =>
    have hconcerns := hlocal callback hcallback
    cases callback with
    | disconnect c' =>
      obtain rfl := Option.some.inj (hconcerns.symm.trans hclient)
      exact hcalled.trans (hctx.disconnect (hb.record _) c')
    | unsubscribe number =>
      have hended := hctx.unsubscribe (hb.record (.hook h.name n)) (hnumber number hconcerns) c
      exact (hcalled.trans hended).trans (confined_of_destinations_eq rfl rfl)

theorem confined_foldl_callHandler (hctx : ctx.IsLocal) (hb : b.Reserved strays)
    (hclient : n.client? = some c)
    (hnumber : ∀ number, n.subscription? = some number → b.Lacks number)
    {handlers : List Handler} (hlocal : ∀ h ∈ handlers, ∀ callback,
      h.callback n = some callback → callback.Concerns n) :
    Confined c b (handlers.foldl (callHandler ctx n) b) := by
  induction handlers generalizing b with
  | nil => exact .refl b
  | cons h handlers ih =>
    have hfirst := confined_callHandler hctx hb hclient hnumber (hlocal h List.mem_cons_self)
    obtain ⟨hkept, hshrinks⟩ := keeps_callHandler hctx.keeps n b h strays hb.accounted
    refine hfirst.trans (ih (hb.confined hfirst hkept) ?_ ?_)
    · exact fun number hn _ _ hs => hnumber number hn (hshrinks.held hs)
    · exact fun h' hh' => hlocal h' (List.mem_cons_of_mem _ hh')

/-- What handlers call back for when they are told about a client stays with it. A
subscription that they are told about is gone. -/
theorem confined_notify (hctx : ctx.IsLocal) (hb : b.Reserved strays)
    (hclient : n.client? = some c)
    (hnumber : ∀ number, n.subscription? = some number → b.Lacks number) :
    Confined c b (notify ctx n b) := by
  have hnoted : Confined c b (b.record (.notice n)) := confined_of_destinations_eq rfl rfl
  exact hnoted.trans
    (confined_foldl_callHandler hctx (hb.record (.notice n)) hclient hnumber (hb.hooks n))

theorem confined_tellChange (hpeers : ctx.env.AcceptsRemovals) {change : KeyChange}
    (hchange : change.kind = .removed) (id : DestinationId) (b : Broker) :
    Confined c b (tellChange ctx id change b) := by
  rw [tellChange]
  cases hcluster : ctx.env.cluster with
  | none => exact .refl b
  | some cluster =>
    dsimp only
    rw [hpeers cluster hcluster id change hchange]
    cases cluster.tellChange id change with
    | ok _ => exact confined_of_destinations_eq rfl rfl
    | error fault => exact confined_of_destinations_eq rfl rfl

theorem confined_tellChanges (hpeers : ctx.env.AcceptsRemovals) (id : DestinationId) (fuel : Nat)
    (hb : b.Withdraws) : Confined c b (tellChanges ctx id fuel b) := by
  induction fuel generalizing b with
  | zero => exact .refl b
  | succ fuel ih =>
    rw [tellChanges]
    split
    · exact .refl b
    next change hnext =>
      obtain ⟨d, hd, hhead⟩ := Option.bind_eq_some_iff.mp hnext
      have hchange := hb id d hd change (List.mem_of_mem_head? hhead)
      have htold : Confined c b _ :=
        (confined_pop b id).trans (confined_tellChange hpeers hchange id _)
      exact htold.trans (ih (hb.confined htold))

theorem confined_announce (hpeers : ctx.env.AcceptsRemovals) (id : DestinationId)
    (hb : b.Withdraws) : Confined c b (announce ctx id b) := by
  have hflag (flag : Bool) (b : Broker) :
      Confined c b (b.onDestination id fun d => { d with announcing := flag }) :=
    confined_onDestination (fun _ => rfl) fun _ _ => .of_registry_eq rfl rfl (.inl rfl)
  rw [announce]
  split
  · exact .refl b
  · split
    · exact .refl b
    · have hbegun := hflag true b
      exact (hbegun.trans (confined_tellChanges hpeers id _ (hb.confined hbegun))).trans
        (hflag false _)

/-! ## Ending subscriptions and sessions -/

theorem confined_detach (hctx : ctx.IsLocal) (hb : b.Reserved ((id, s) :: strays))
    (hclient : s.client = c) (reason : UnsubscribeReason) :
    Confined c b (detach ctx id reason b s) := by
  have hstruck : Confined c b (b.strike id s) := confined_strike id s b
  have hb₁ : (b.strike id s).Reserved strays :=
    hb.confined hstruck (books_strike id s b ▸ hb.accounted.strike)
  have hgone : (b.strike id s).Lacks s.id := by
    intro j t ht
    rw [books_strike] at ht
    exact (hb.accounted.stray List.mem_cons_self).2.2 ht
  have htold : Confined c (b.strike id s)
      (notify ctx (.unsubscribed s reason) (b.strike id s)) := by
    refine confined_notify hctx hb₁ (congrArg some hclient) fun number hnumber => ?_
    obtain rfl := Option.some.inj hnumber
    exact hgone
  have hdone := hstruck.trans htold
  rw [detach_eq]
  exact hdone.trans (confined_announce hctx.peers id (hb.withdraws.confined hdone))

theorem confined_foldl_detach (hctx : ctx.IsLocal) {subs : List Subscription}
    (hb : b.Reserved (subs.map (fun s => (id, s)) ++ strays)) (hsubs : ∀ s ∈ subs, s.client = c)
    (reason : UnsubscribeReason) : Confined c b (subs.foldl (detach ctx id reason) b) := by
  -- What is still to be detached are strays, and one fewer after each step.
  induction subs generalizing b with
  | nil => exact .refl b
  | cons s subs ih =>
    have hfirst := confined_detach hctx hb (hsubs s List.mem_cons_self) reason
    have hkept := (carries_detach hctx.keeps id reason b s _ hb.accounted).1
    exact hfirst.trans
      (ih (hb.confined hfirst hkept) fun s' hs' => hsubs s' (List.mem_cons_of_mem _ hs'))

theorem client_eq_of_mem_takeOut (hb : b.books.Accounted strays) (id : DestinationId)
    (c : ClientId) :
    ∀ s ∈ (takeOut id (·.removeClient c) b).2.map (·.subscription), s.client = c := by
  rw [takeOut]
  split
  · exact List.forall_mem_nil _
  next d hd =>
    exact (hb.sound d.shelf
      (List.mem_map_of_mem (mem_of_destination? hd).1)).client_eq_of_mem_removeClient

theorem confined_unsubscribeAt (hctx : ctx.IsLocal) (hb : b.Reserved strays) (c : ClientId)
    (reason : UnsubscribeReason) (id : DestinationId) :
    Confined c b (unsubscribeAt ctx c reason id b).1 := by
  have htaken := confined_takeOut hb.accounted c id
  have hkept := (carries_takeOut (fun _ h => h.thins_removeClient c) id b strays hb.accounted).1
  exact htaken.trans (confined_foldl_detach hctx (hb.confined htaken hkept)
    (client_eq_of_mem_takeOut hb.accounted id c) reason)

theorem confined_unsubscribeClient (hctx : ctx.IsLocal) (hb : b.Reserved strays) (c : ClientId)
    (reason : UnsubscribeReason) : Confined c b (unsubscribeClient ctx c reason b).1 := by
  have hfold : ∀ (ids : List DestinationId) (w : Broker × Nat), w.1.Reserved strays →
      Confined c w.1 (ids.foldl (fun w id =>
        ((unsubscribeAt ctx c reason id w.1).1, w.2 + (unsubscribeAt ctx c reason id w.1).2))
          w).1 := by
    intro ids
    induction ids with
    | nil => exact fun w _ => .refl w.1
    | cons id ids ih =>
      intro w hw
      have hfirst := confined_unsubscribeAt hctx hw c reason id
      have hkept := (keeps_unsubscribeAt hctx.keeps c reason id w.1 strays hw.accounted).1
      exact hfirst.trans (ih ((unsubscribeAt ctx c reason id w.1).1,
        w.2 + (unsubscribeAt ctx c reason id w.1).2) (hw.confined hfirst hkept))
  exact hfold b.destinationIds (b, 0) hb

/-- At the end of a session the limiters forget its client, and what is called back for when
that is told stays with the client. -/
theorem confined_terminate (hctx : ctx.IsLocal) (hb : b.Reserved strays)
    (hnone : ∀ {id s}, b.books.Holds id s → s.client ≠ c) :
    Confined c (dropCounters c b) (terminate ctx c false b) := by
  cases hsession : b.sessions[c]? with
  | none =>
    have hdropped : terminate ctx c false b = dropCounters c b :=
      terminate_of_no_session hsession ctx false
    rw [hdropped]
    exact .refl _
  | some session =>
    have hended : terminate ctx c false b = notify ctx (.sessionTerminated c) (b.close c) := by
      rw [terminate]
      rw [hsession]
      rfl
    have hclosed : Confined c (dropCounters c b) (b.close c) := confined_of_destinations_eq rfl rfl
    have hlive : c ∈ b.sessions :=
      ExtTreeMap.mem_iff_isSome_getElem?.mpr (Option.isSome_of_eq_some hsession)
    have hmem : c ∈ b.books.sessions := mem_books_sessions.mpr hlive
    have hkept : (b.close c).books.Accounted strays := by
      rw [close, books_endSession]
      exact hb.accounted.closeSession hmem hnone
    have hreserved := hb.confined ((confined_dropCounters c b).trans hclosed) hkept
    rw [hended]
    refine hclosed.trans (confined_notify hctx hreserved rfl fun _ hsome => ?_)
    cases hsome

theorem confined_disconnectIn (hctx : ctx.IsLocal) (hb : b.Reserved strays) (c : ClientId) :
    Confined c b (unsubscribeClient ctx c .disconnect b).1 ∧
      Confined c (dropCounters c (unsubscribeClient ctx c .disconnect b).1)
        (disconnectIn ctx c b).1 := by
  have hended := confined_unsubscribeClient hctx hb c .disconnect
  have hkept := (keeps_unsubscribeClient hctx.keeps c .disconnect b strays hb.accounted).1
  exact ⟨hended, confined_terminate hctx (hb.confined hended hkept)
    (client_ne_of_unsubscribeClient hctx.keeps c .disconnect hb.accounted)⟩

/-- To end a subscription that is not there changes nothing at the destinations. -/
theorem confined_unsubscribeIn (hb : b.Reserved strays) (hlacks : b.Lacks number)
    (c : ClientId) : Confined c b (unsubscribeIn ctx number b).1 := by
  cases howner : b.owners[number]? with
  | none =>
    rw [unsubscribeIn]
    rw [howner]
    exact .refl b
  | some owner =>
    rw [unsubscribeIn_of_some howner, takeOut]
    cases hd : b.destination? owner with
    | none => exact confined_of_destinations_eq rfl rfl
    | some d =>
      have hnothing : d.registry.get? number = none := by
        cases hget : d.registry.get? number with
        | none => rfl
        | some s =>
          have hs : b.registered? owner number = some s :=
            Option.bind_eq_some_iff.mpr ⟨d, hd, hget⟩
          exact absurd (id_eq_of_registered? hb.accounted hs)
            (hlacks (holds_of_registered? hb.accounted hs))
      have htaken : Confined c b
          (b.onDestination owner fun d' => { d' with registry := d.registry }) := by
        apply confined_onDestination (by exact fun _ => rfl)
        intro d' hd'
        obtain rfl := Option.some.inj (hd.symm.trans hd')
        exact .refl d
      dsimp only [takeOne]
      rw [Registry.remove_of_none hnothing]
      exact htaken.trans (confined_of_destinations_eq rfl rfl)

/-- Calls back stay with the client that they are for, however deep they nest. -/
theorem isLocal_reenter (hpeers : env.AcceptsRemovals) (depth : Nat) :
    Context.IsLocal ⟨env, reenter env depth⟩ := by
  -- What is called back for runs in the context of the depth below.
  induction depth with
  | zero => exact ⟨keeps_reenter env 0, hpeers, fun _ _ => .refl _, fun _ _ _ => .refl _⟩
  | succ depth ih =>
    refine ⟨keeps_reenter env (depth + 1), hpeers, fun hb c => ?_, fun hb hlacks c => ?_⟩
    · obtain ⟨hended, hclosed⟩ := confined_disconnectIn ih hb c
      exact hended.trans ((confined_dropCounters c _).trans hclosed)
    · exact confined_unsubscribeIn hb hlacks c

theorem isLocal_context (hpeers : env.AcceptsRemovals) (b : Broker) : (b.context env).IsLocal :=
  isLocal_reenter hpeers b.depth

/-! ## What limiters forget -/

theorem Scene.confined (h : Scene id settings hooks l b) (hconfined : Confined c b b') :
    Scene id settings hooks l b' ∨ Scene id settings hooks (l.removeClient c) b' := by
  obtain ⟨⟨d, hd, rfl, rfl⟩, rfl⟩ := h
  obtain ⟨d', hd', hd''⟩ := hconfined.destinations.exists_destination? hd
  exact hd''.limiter.imp (fun hsame => ⟨⟨d', hd', hd''.settings, hsame⟩, hconfined.hooks⟩)
    fun hforgot => ⟨⟨d', hd', hd''.settings, hforgot⟩, hconfined.hooks⟩

theorem Scene.dropCounters (h : Scene id settings hooks l b) (c : ClientId) :
    Scene id settings hooks (l.removeClient c) (dropCounters c b) := by
  obtain ⟨⟨d, hd, rfl, rfl⟩, rfl⟩ := h
  refine ⟨⟨{ d with limiter := d.limiter.removeClient c }, ?_, rfl, rfl⟩, rfl⟩
  rw [destination?_map (f := fun d => { d with limiter := d.limiter.removeClient c })
    (by exact fun _ => rfl) (by rfl), hd]
  rfl

/-- A limiter that has forgotten a client stays as it is when more is called back for on
account of the client. -/
theorem Scene.confined_of_forgotten (h : Scene id settings hooks (l.removeClient c) b)
    (hconfined : Confined c b b') : Scene id settings hooks (l.removeClient c) b' := by
  have hscene := h.confined hconfined
  rw [Limiter.removeClient_removeClient, or_self] at hscene
  exact hscene

/-- A client that a handler disconnects is forgotten, and nobody else is. -/
theorem Scene.disconnect (h : Scene id settings hooks l b) (hpeers : env.AcceptsRemovals)
    (hb : b.Reserved strays) (b₀ : Broker) (c : ClientId) :
    Scene id settings hooks (l.removeClient c)
      ((b₀.context env).reenter (.disconnect c) b).1 := by
  obtain ⟨hended, hclosed⟩ :=
    confined_disconnectIn (isLocal_reenter hpeers (b₀.sessions.size + b₀.owners.size + 3)) hb c
  refine Scene.confined_of_forgotten ?_ hclosed
  -- Handlers that hear of the unsubscriptions may have disconnected the client already.
  rcases h.confined hended with hscene | hscene
  · exact hscene.dropCounters c
  · rw [← Limiter.removeClient_removeClient]
    exact hscene.dropCounters c

end Broker

/-- Whether one of the handlers that a notice reaches calls back. -/
def HookTable.callsBack (t : HookTable) (n : Notice) : Bool :=
  (t.round n).any fun h => (h.callback n).isSome

/-- What is left of a limiter when handlers were told a notice about a client: they may have
disconnected it. -/
def HookTable.leaves (t : HookTable) (n : Notice) (c : ClientId) (l : Limiter) : Limiter :=
  if t.callsBack n then l.removeClient c else l

theorem HookTable.IsSilent.callsBack {t : HookTable} (h : t.IsSilent) (n : Notice) :
    t.callsBack n = false := by
  apply List.any_eq_false.mpr
  intro handler hhandler
  rw [h n handler hhandler]
  exact Bool.false_ne_true

/-- Handlers do not call back, or they and the other nodes keep to what they are told about. -/
def Discreet (env : Environment) (t : HookTable) : Prop :=
  t.IsSilent ∨ t.IsLocal ∧ env.AcceptsRemovals

namespace Broker

variable {b b' b'' : Broker} {ctx : Context} {env : Environment} {id : DestinationId}
  {d : Destination} {c : ClientId} {n : Notice} {number : SubscriptionId} {s : Subscription}
  {strays strays' : Strays} {hooks : HookTable} {settings : DestinationSettings} {l : Limiter}

/-- A broker in which calls back do no more than they are for. -/
structure HasDiscreetCallers (env : Environment) (b : Broker) : Prop where
  accounted : ∃ strays, b.books.Accounted strays
  withdraws : b.Withdraws
  discreet : Discreet env b.hooks

theorem Scene.callHandler (h : Scene id settings hooks l b) (hpeers : env.AcceptsRemovals)
    (hb : b.Reserved strays) (b₀ : Broker) (hclient : n.client? = some c)
    (hnumber : n.subscription? = none) {handler : Handler}
    (hlocal : ∀ callback, handler.callback n = some callback → callback.Concerns n) :
    Scene id settings hooks (if (handler.callback n).isSome then l.removeClient c else l)
      (callHandler (b₀.context env) n b handler) := by
  have hcalled : Scene id settings hooks l (b.record (.hook handler.name n)) :=
    ⟨h.located, h.hooks⟩
  rw [Broker.callHandler]
  cases hcallback : handler.callback n with
  | none => exact hcalled
  | some callback =>
    have hconcerns := hlocal callback hcallback
    cases callback with
    | disconnect c' =>
      obtain rfl := Option.some.inj (hconcerns.symm.trans hclient)
      exact hcalled.disconnect hpeers (hb.record _) b₀ c'
    | unsubscribe number => cases hconcerns.symm.trans hnumber

theorem Scene.foldl_callHandler (h : Scene id settings hooks l b) (hpeers : env.AcceptsRemovals)
    (hb : b.Reserved strays) (b₀ : Broker) (hclient : n.client? = some c)
    (hnumber : n.subscription? = none) {handlers : List Handler} (hlocal : ∀ h ∈ handlers,
      ∀ callback, h.callback n = some callback → callback.Concerns n) :
    Scene id settings hooks
      (if handlers.any fun h => (h.callback n).isSome then l.removeClient c else l)
      (handlers.foldl (Broker.callHandler (b₀.context env) n) b) := by
  induction handlers generalizing b l with
  | nil => exact h
  | cons handler handlers ih =>
    have hctx := isLocal_context hpeers b₀
    have hfirst := hlocal handler List.mem_cons_self
    have hconfined : Confined c b _ := confined_callHandler hctx hb hclient
      (fun _ hsome => absurd (hsome.symm.trans hnumber) (Option.some_ne_none _)) hfirst
    have hkept := (keeps_callHandler hctx.keeps n b handler strays hb.accounted).1
    have hrest := ih (h.callHandler hpeers hb b₀ hclient hnumber hfirst)
      (hb.confined hconfined hkept) fun h' hh' => hlocal h' (List.mem_cons_of_mem _ hh')
    rw [List.any_cons, List.foldl_cons]
    -- After a first call back, the others forget a client that is forgotten.
    generalize (handler.callback n).isSome = calls at hrest ⊢
    cases calls with
    | false => exact hrest
    | true =>
      rw [if_pos rfl, Limiter.removeClient_removeClient, ite_self] at hrest
      exact hrest

/-- Handlers that are told about a client make the limiters forget it exactly if one of them
calls back. -/
theorem Scene.notify_of_hasDiscreetCallers (h : Scene id settings hooks l b)
    (hb : HasDiscreetCallers env b) (b₀ : Broker) (hclient : n.client? = some c)
    (hnumber : n.subscription? = none) :
    Scene id settings hooks (hooks.leaves n c l) (Broker.notify (b₀.context env) n b) := by
  obtain ⟨strays, haccounted⟩ := hb.accounted
  have hhooks := h.hooks
  rcases hb.discreet with hsilent | ⟨hlocal, hpeers⟩
  · have hcalls : hooks.callsBack n = false := hhooks ▸ hsilent.callsBack n
    rw [HookTable.leaves, hcalls, if_neg Bool.false_ne_true, notify_of_silent (hsilent n)]
    exact ⟨h.located, h.hooks⟩
  · have hnoted : Scene id settings hooks l (b.record (.notice n)) := ⟨h.located, h.hooks⟩
    have hreserved : b.Reserved strays := ⟨haccounted, hlocal, hb.withdraws⟩
    have htold := hnoted.foldl_callHandler hpeers (hreserved.record (.notice n)) b₀ hclient hnumber
      (hlocal n)
    rw [HookTable.leaves, HookTable.callsBack, ← hhooks]
    rw [← hhooks] at htold
    exact htold

/-- The queues are in the books. -/
theorem HasDiscreetCallers.of_books_eq (hb : HasDiscreetCallers env b) (hbooks : b'.books = b.books)
    (hhooks : b'.hooks = b.hooks) : HasDiscreetCallers env b' where
  accounted := hbooks ▸ hb.accounted
  withdraws id d' hd' := by
    obtain ⟨strays, haccounted⟩ := hb.accounted
    have hshelf : d'.shelf ∈ b'.books.shelves :=
      List.mem_map_of_mem (mem_of_destination? hd').1
    rw [hbooks] at hshelf
    obtain ⟨d, hd, hsame⟩ := List.mem_map.mp hshelf
    have hregistry : d'.registry = d.registry := congrArg (·.registry) hsame.symm
    rw [hregistry]
    exact hb.withdraws d.id d (destination?_of_mem (nodup_destinationIds haccounted) hd)
  discreet := hhooks ▸ hb.discreet

theorem HasDiscreetCallers.notify (hb : HasDiscreetCallers env b) (b₀ : Broker)
    (hclient : n.client? = some c) (hnumber : n.subscription? = none) :
    HasDiscreetCallers env (Broker.notify (b₀.context env) n b) := by
  obtain ⟨strays, haccounted⟩ := hb.accounted
  have hkept := (keeps_notify (keeps_context env b₀) n b strays haccounted).1
  rcases hb.discreet with hsilent | ⟨hlocal, hpeers⟩
  · rw [notify_of_silent (hsilent n)]
    exact ⟨⟨strays, haccounted⟩, hb.withdraws, hb.discreet⟩
  · have hreserved : b.Reserved strays := ⟨haccounted, hlocal, hb.withdraws⟩
    have hconfined := confined_notify (isLocal_context hpeers b₀) hreserved hclient
      fun _ hsome => absurd (hsome.symm.trans hnumber) (Option.some_ne_none _)
    exact ⟨⟨strays, hkept⟩, hb.withdraws.confined hconfined, hconfined.hooks ▸ hb.discreet⟩

theorem IsReachable.withdraws (hb : b.IsReachable) : b.Withdraws := by
  intro id d hd change hchange
  rw [(hb.atRest id d hd).2 not_false] at hchange
  cases hchange

end Broker

end MessageBroker
