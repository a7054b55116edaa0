/-
# What is left when a node stops

When a node stops, its destinations stop one after the other, and the subscriptions of each are
taken out of its registry all at once and cleaned up after one by one. At the end nothing is
registered, the end of every subscription was told once, and nothing is on record of any. That
holds after orderly operations, for where a destination was stopped on its own, cleaning up was
left to whoever stopped it. As long as nobody calls back, sessions and limiters stay, and the other
nodes are told of nothing.

What was before leaves no trace in what follows. Until a destination is started it turns everything
away, and afterwards everybody has to subscribe again, and the other nodes are told of the keys
as if for the first time.
-/

import Mathlib.Algebra.BigOperators.Group.List.Basic
import MessageBroker.Proofs.Broker.Dormancy
import MessageBroker.Proofs.Broker.Shutdown
import MessageBroker.Proofs.Registry.RemovalOrder

open Std

namespace MessageBroker

/-- A registry with neither subscriptions nor anything to tell is as good as new. -/
theorem Registry.Sound.eq_empty {r : Registry} (h : r.Sound) (hr : r.Readable)
    (hsize : r.size = 0) (hpending : r.pending = []) : r = empty r.separator r.tracking := by
  have hnone : r.subscriptions = ∅ := ExtTreeMap.eq_empty_iff_size_eq_zero.mpr hsize
  have hsame := (sound_empty r.separator r.tracking).eq_of_subscriptions
    (readable_empty r.separator r.tracking) h hr rfl rfl hnone
  calc
    r = { r with pending := [] } := by rw [← hpending]
    _ = empty r.separator r.tracking := hsame

/-- A destination was stopped. Nothing is registered there nor waits to be told, and apart from that
its limiter has at most forgotten some clients, and fewer subscriptions were counted. -/
structure Destination.StoppedAs (d d' : Destination) : Prop extends d.Beside d' where
  started : d'.started = false
  registry : d'.registry =
    .empty d.settings.separator (decide (d.settings.routingMode = .serverToServer))
  remote : d'.remote = d.remote

namespace Broker

variable {b b' b₀ : Broker} {env : Environment} {id : DestinationId} {d : Destination}
  {n : SubscriptionId} {s : Subscription} {strays : Strays} {c : ClientId}

/-- A node was stopped. -/
structure Stops (b b' : Broker) : Prop where
  destinations : Lookups Destination.StoppedAs b b'
  sweeper : b'.sweeper = none
  /-- The end of every subscription was told once. -/
  told : ∀ {id n s}, b.registered? id n = some s →
    (entriesSince b b').countP (·.isFarewell s) = 1
  /-- It was told of no other. -/
  only : ∀ {s reason}, .notice (.unsubscribed s reason) ∈ entriesSince b b' →
    ∃ id n, b.registered? id n = some s

/-- Nothing is on record of any subscription. -/
structure HasNone (b : Broker) : Prop where
  owners : b.owners = ∅
  listings : ∀ (c : ClientId) (session : Session), b.sessions[c]? = some session →
    session.subscriptions = ∅
  count : b.subscriptionGauge.count = 0
  counts : ∀ d ∈ b.destinations, d.totals.subscriptions.count = 0

/-- How it goes on at a node where no destination is started. -/
structure StartsAfresh (b : Broker) : Prop where
  /-- Stopping it again is only logged. -/
  again : ∀ env, stop env b = b.log .info s!"node {b.settings.node} stopped"
  /-- Destinations turn everything away until they are started. -/
  refuses : ∀ {id d} later, b.destination? id = some d → (∀ step ∈ later, ¬step.2.Starts id) →
    ∃ e : BrokerError, e.category = .serviceUnavailable ∧ (b.run later).TurnsAway id e
  /-- Until somebody subscribes to a destination, messages to it have no recipients. -/
  recipients : ∀ {m : Message} {env b' result} (entry : Entry) later,
    GrantsNone (fun r => r.destination = m.destination) b later →
      entry.route env m (b.run later) = (b', .ok result) → result.outcome = .delivered →
        result.recipients = 0
  /-- When somebody is the first to subscribe with a key, the other nodes are told of the key. -/
  announces : ∀ {r : SubscribeRequest} {env : Environment} {d n} later,
    GrantsNone (fun r' => r'.destination = r.destination ∧ r'.key = r.key) b later →
      (b.run later).destination? r.destination = some d →
        d.settings.routingMode = .serverToServer → env.cluster.isSome = true →
          (subscribe env r (b.run later)).2 = .ok n →
            .change r.destination ⟨r.key, .added⟩ ∈
              entriesSince (b.run later) (subscribe env r (b.run later)).1

/-! ## What is left -/

theorem size_of_idle (hb : b.books.Accounted strays) (hd : b.destination? id = some d)
    (hidle : b.Idle id) : d.registry.size = 0 := by
  obtain ⟨d', hd', hstarted⟩ := hidle.exists_destination?
  obtain rfl := Option.some.inj (hd.symm.trans hd')
  exact hb.idle d.shelf (List.mem_map_of_mem (mem_of_destination? hd).1) hstarted

/-- Every destination of a node is stopped when the node is. -/
theorem idle_of_stop (hd : (stop env b).destination? id = some d) : (stop env b).Idle id := by
  obtain ⟨d₀, hd₀, -⟩ := (balances_stop env b).destinations.exists_of_destination? hd
  exact idle_stop env hd₀

/-- All registries are empty when a node was stopped. -/
theorem size_stop (hb : b.books.Accounted strays)
    (hd : (stop env b).destination? id = some d) : d.registry.size = 0 :=
  size_of_idle (staysAccounted_stop env b strays hb).1 hd (idle_of_stop hd)

theorem registered?_of_sizes (h : ∀ id d, b.destination? id = some d → d.registry.size = 0)
    (id : DestinationId) (n : SubscriptionId) : b.registered? id n = none := by
  cases hd : b.destination? id with
  | none => rw [registered?, hd]; rfl
  | some d =>
    have hnone : d.registry.subscriptions = ∅ :=
      ExtTreeMap.eq_empty_iff_size_eq_zero.mpr (h id d hd)
    rw [registered?, hd]
    show d.registry.subscriptions[n]? = none
    rw [hnone, ExtTreeMap.getElem?_empty]

/-- After a node was stopped nothing is registered. -/
theorem registered?_stop (hb : b.books.Accounted strays) (env : Environment)
    (id : DestinationId) (n : SubscriptionId) : (stop env b).registered? id n = none :=
  registered?_of_sizes (fun _ _ hd => size_stop hb hd) id n

theorem stoppedAs_stop (hb : b.IsReachable) (env : Environment) :
    Lookups Destination.StoppedAs b (stop env b) := by
  have hstopped : (stop env b).IsReachable := hb.run [(env, .stop)]
  obtain ⟨strays, haccounted⟩ := hstopped.accounted
  have hbalances := balances_stop env b
  have haside := aside_stop env b
  intro id
  cases hd : b.destination? id with
  | none =>
    cases hd' : (stop env b).destination? id with
    | none => exact .none
    | some d' =>
      obtain ⟨d, hd₀, -⟩ := hbalances.destinations.exists_of_destination? hd'
      rw [show b.destination? id = some d from hd₀] at hd
      cases hd
  | some d =>
    obtain ⟨d', hd', hbeside⟩ := haside.exists_destination? hd
    obtain ⟨d₁, hd₁, hundisturbed⟩ := hbalances.destinations.exists_destination? hd
    obtain rfl := Option.some.inj (hd'.symm.trans hd₁)
    have hidle := idle_stop env hd
    obtain ⟨d₁, hd₁, hstarted⟩ := hidle.exists_destination?
    obtain rfl := Option.some.inj (hd'.symm.trans hd₁)
    obtain ⟨hreadable, hseparator⟩ := hstopped.readable hd'
    obtain ⟨hrests, hpending⟩ := hstopped.atRest id d' hd'
    have hempty := (hstopped.sound hd').eq_empty hreadable
      (size_of_idle haccounted hd' hidle) (hpending not_false)
    rw [hd']
    refine .some ⟨hbeside, hstarted, ?_, hundisturbed.remote⟩
    calc
      d'.registry = .empty d'.registry.separator d'.registry.tracking := hempty
      _ = .empty d.settings.separator (decide (d.settings.routingMode = .serverToServer)) := by
        rw [hrests.tracking, hseparator, hbeside.settings]

/-! ## What was told -/

theorem farewells_eq_add (h : b.journal <+: b'.journal) (s : Subscription) :
    b'.farewells s = b.farewells s + (entriesSince b b').countP (·.isFarewell s) := by
  rw [farewells, journal_eq_append_entriesSince h, List.countP_append, farewells]

/-- When a node stops, the end of a subscription is told as often as it is registered. -/
theorem countP_isFarewell_stop (hb : b.IsReachable) (env : Environment) (s : Subscription) :
    (entriesSince b (stop env b)).countP (·.isFarewell s) = b.holding s := by
  obtain ⟨strays, haccounted⟩ := hb.accounted
  have hbalance := (balances_stop env b).balance hb.sorted s
  have hadds := lasting_prefix.stop env b
  have hnone : (stop env b).holding s = 0 := by
    apply holding_of_not_registered?
    intro id n
    rw [registered?_stop haccounted]
    exact nofun
  rw [farewells_eq_add hadds, hnone] at hbalance
  have hbefore : b.farewells s + (entriesSince b (stop env b)).countP (·.isFarewell s) =
      b.farewells s + b.holding s := hbalance
  exact Nat.add_left_cancel hbefore

/-! ## What is on record -/

section Strays

variable (hb : b.books.Accounted strays)
  (hempty : ∀ id d, b.destination? id = some d → d.registry.size = 0)

include hb hempty

theorem mem_strays_of_record (h : b.books.Holds id s ∨ (id, s) ∈ strays) : (id, s) ∈ strays := by
  refine h.resolve_left fun hholds => ?_
  have hthere := (holds_iff_registered? hb).mp hholds
  rw [registered?_of_sizes hempty] at hthere
  cases hthere

/-- Where all registries are empty, only strays have owners. -/
theorem exists_stray_of_owner (howner : b.owners[n]? = some id) :
    ∃ s, s.id = n ∧ (id, s) ∈ strays := by
  obtain ⟨s, hs, hrecord⟩ := hb.owners howner
  exact ⟨s, hs, mem_strays_of_record hb hempty hrecord⟩

/-- Where all registries are empty, sessions list only strays. -/
theorem exists_stray_of_listing {session : Session} (hsession : b.sessions[c]? = some session)
    (hlisted : session.subscriptions[n]? = some id) : ∃ s, s.id = n ∧ (id, s) ∈ strays := by
  have hlisting : b.books.listed c n = some id := by
    rw [Books.listed, getElem?_books_sessions, hsession]
    exact hlisted
  obtain ⟨s, hs, -, hrecord⟩ := hb.listings hlisting
  exact ⟨s, hs, mem_strays_of_record hb hempty hrecord⟩

end Strays

/-- Where all registries are empty and there are no strays, nothing is on record. -/
theorem hasNone_of_accounted (hb : b.books.Accounted [])
    (hempty : ∀ id d, b.destination? id = some d → d.registry.size = 0) : HasNone b := by
  have hcounts : ∀ d ∈ b.destinations, d.totals.subscriptions.count = 0 := by
    intro d hd
    have hcount := hb.counts d.shelf (List.mem_map_of_mem hd) d.totals.subscriptions.count
      (List.mem_map_of_mem (f := Destination.counter) hd)
    have hsize : d.shelf.registry.size = 0 :=
      hempty d.id d (destination?_of_mem (nodup_destinationIds hb) hd)
    rw [hcount, hsize]
    rfl
  constructor
  case owners =>
    apply ExtTreeMap.ext_getElem?
    intro n
    rw [ExtTreeMap.getElem?_empty]
    refine Option.eq_none_iff_forall_ne_some.mpr fun id howner => ?_
    obtain ⟨s, -, hstray⟩ := exists_stray_of_owner hb hempty howner
    exact List.not_mem_nil hstray
  case listings =>
    intro c session hsession
    apply ExtTreeMap.ext_getElem?
    intro n
    rw [ExtTreeMap.getElem?_empty]
    refine Option.eq_none_iff_forall_ne_some.mpr fun id hlisted => ?_
    obtain ⟨s, -, hstray⟩ := exists_stray_of_listing hb hempty hsession hlisted
    exact List.not_mem_nil hstray
  case count =>
    refine hb.total.trans (List.sum_eq_zero fun count hcount => ?_)
    obtain ⟨named, hnamed, rfl⟩ := List.mem_map.mp hcount
    obtain ⟨d, hd, rfl⟩ := List.mem_map.mp hnamed
    exact hcounts d hd
  case counts => exact hcounts

/-! ## Stopping a node -/

theorem stops_stop (hb : b.IsReachable) (env : Environment) : Stops b (stop env b) := by
  obtain ⟨strays, haccounted⟩ := hb.accounted
  have hcount := countP_isFarewell_stop hb env
  constructor
  case destinations => exact stoppedAs_stop hb env
  case sweeper => exact (balances_stop env b).sweeper
  case told =>
    intro id n s hs
    rw [hcount, hb.sorted.holding_of_registered? hs]
  case only =>
    intro s reason hmem
    by_contra hnone
    have hzero : b.holding s = 0 :=
      holding_of_not_registered? fun id n hs => hnone ⟨id, n, hs⟩
    rw [← hcount, List.countP_eq_zero] at hzero
    exact hzero _ hmem (decide_eq_true rfl)

/-- Where no destination is started and nobody watches for idle clients, everything starts
afresh. -/
theorem startsAfresh_of_idle (hb : b.IsReachable) (hsweeper : b.sweeper = none)
    (hidle : ∀ id d, b.destination? id = some d → b.Idle id) : StartsAfresh b := by
  obtain ⟨strays, haccounted⟩ := hb.accounted
  have hvacant (wanted : SubscriptionKey → Prop) (id : DestinationId) : b.Vacant wanted id := by
    intro n s hs
    rw [registered?_of_sizes fun id d hd => size_of_idle haccounted hd (hidle id d hd)] at hs
    cases hs
  constructor
  case again =>
    intro env
    have hunwatched : { b with sweeper := none } = b := by rw [← hsweeper]
    rw [stop_of_idle ?_ env, hunwatched]
    intro id d hd
    obtain ⟨d', hd', hstarted⟩ := (hidle id d hd).exists_destination?
    obtain rfl := Option.some.inj (hd.symm.trans hd')
    exact hstarted
  case refuses =>
    intro id d later hd hlater
    exact ⟨.notStarted id, rfl, ((hidle id d hd).run haccounted later hlater).turnsAway⟩
  case recipients =>
    intro m env b' result entry later hnone hroute houtcome
    refine recipients_of_vacant (hb.run later) ?_ hroute houtcome
    refine (hvacant (fun _ => True) m.destination).run hb later ?_
    simpa only [and_true] using hnone
  case announces =>
    intro r env d n later hnone hd hmode hcluster hok
    exact change_mem_of_subscribe (hb.run later) hd hmode hcluster
      ((hvacant (· = r.key) r.destination).run hb later hnone) hok

/-- After orderly operations, and as long as nobody calls back, stopping a node ends every
subscription and leaves nothing on record of any. Nothing else happens: sessions and limiters stay,
and the other nodes are told of nothing. Then everything starts afresh. -/
theorem stop_exact {steps : List (Environment × Operation)} (hbuilt : b₀.IsBuilt)
    (horderly : ∀ step ∈ steps, step.2.IsOrderly) (hb : b = b₀.run steps)
    (hsilent : Silent env b) :
    Stops b (stop env b) ∧ HasNone (stop env b) ∧ OnlyUnsubscribes b (stop env b) ∧
      announcements b (stop env b) = [] ∧ StartsAfresh (stop env b) := by
  have hreachable : b.IsReachable := ⟨b₀, hbuilt, steps, hb⟩
  have haccounted : b.books.Accounted [] :=
    hb ▸ (staysAccounted_run steps b₀ horderly [] hbuilt.accounted).1
  have hstops := stops_stop hreachable env
  have honly := onlyUnsubscribes_stop hreachable.atRest hsilent
  refine ⟨hstops, ?_, honly, honly.announcements, ?_⟩
  · exact hasNone_of_accounted (staysAccounted_stop env b [] haccounted).1 fun _ _ hd =>
      size_stop haccounted hd
  · exact startsAfresh_of_idle (hreachable.run [(env, .stop)]) hstops.sweeper
      fun _ _ hd => idle_of_stop hd

/-- A node is started again. -/
def restarting : List (Environment × Operation) := quietly [.start]

/-- A client asks for a key that it had before. -/
def renewal : SubscribeRequest := ⟨"news", "ann", some "arts", none, none⟩

theorem stop_exact_shared :
    ∃ (b₀ b : Broker) (result : RouteResult), b₀.IsBuilt ∧
      (∀ step ∈ sharing, step.2.IsOrderly) ∧ b = b₀.run sharing ∧ Silent linked b ∧
      b.owners.size = 3 ∧ Stops b (stop linked b) ∧ HasNone (stop linked b) ∧
      OnlyUnsubscribes b (stop linked b) ∧ announcements b (stop linked b) = [] ∧
      (∃ e : BrokerError, e.category = .serviceUnavailable ∧
        (stop linked b).TurnsAway "news" e) ∧
      (routeMessage quiet note ((stop linked b).run restarting)).2 = .ok result ∧
      result.outcome = .delivered ∧ result.recipients = 0 ∧
      Event.change "news" ⟨⟨none, some "arts"⟩, .added⟩ ∈
        entriesSince ((stop linked b).run restarting)
          (subscribe linked renewal ((stop linked b).run restarting)).1 := by
  obtain ⟨b₀, b, d, d', result, hbuilt, hb, hsize, hhooks, hd, hroute, houtcome, hd', hmode, hok⟩ :
      ∃ (b₀ b : Broker) (d d' : Destination) (result : RouteResult), b₀.IsBuilt ∧
        b = b₀.run sharing ∧ b.owners.size = 3 ∧ b.hooks.registrations = [] ∧
        (stop linked b).destination? "news" = some d ∧
        (routeMessage quiet note ((stop linked b).run restarting)).2 = .ok result ∧
        result.outcome = .delivered ∧
        ((stop linked b).run restarting).destination? "news" = some d' ∧
        d'.settings.routingMode = .serverToServer ∧
        (subscribe linked renewal ((stop linked b).run restarting)).2 = .ok 4 := by
    have hbuilt : IsBuilt _ := ⟨sharedSettings, _, ⟨true, true, [], []⟩, rfl, rfl⟩
    exact ⟨_, _, _, _, _, hbuilt, rfl, rfl, rfl, rfl, rfl, rfl, rfl, rfl, rfl⟩
  have horderly : ∀ step ∈ sharing, step.2.IsOrderly := by
    simp [sharing, quietly, Operation.IsOrderly]
  have hsilent : Silent linked b := silent_linked hhooks
  have hnone (kind : SubscribeRequest → Prop) : GrantsNone kind (stop linked b) restarting := by
    refine ⟨fun _ _ hrequest => ?_, trivial⟩
    cases hrequest
  obtain ⟨hstops, hhas, honly, hquiet, hafresh⟩ := stop_exact hbuilt horderly hb hsilent
  refine ⟨b₀, b, result, hbuilt, horderly, hb, hsilent, hsize, hstops, hhas, honly, hquiet,
    hafresh.refuses [] hd (List.forall_mem_nil _), hroute, houtcome, ?_, ?_⟩
  · exact hafresh.recipients .client restarting (hnone _) (Prod.ext rfl hroute) houtcome
  · exact hafresh.announces (r := renewal) restarting (hnone _) hd' hmode rfl hok

end Broker

end MessageBroker
