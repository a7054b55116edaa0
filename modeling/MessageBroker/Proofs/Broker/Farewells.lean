/-
# Farewells

The end of a subscription is told to the handlers after the subscription has left its registry,
and many may leave at once before the first of them is told of. Whoever is told may call back and
have further subscriptions end, those among them that are still waiting to be told of.

What does not change is a sum. For each subscription it counts how often its end was told,
whether it is registered, and how often it is waiting. Taking a subscription out of a registry
moves it from the second number to the third, and cleaning up after it moves it on to the first.
So when nothing waits any more, the end of every subscription that went was told once, and that
of no other.
-/

import MessageBroker.Proofs.Broker.Absence
import MessageBroker.Proofs.Broker.Correspondence
import MessageBroker.Proofs.Broker.Leaving

open Std

namespace MessageBroker

/-- Whether an entry of the journal tells of the end of a subscription. -/
def Event.isFarewell (s : Subscription) : Event → Bool
  | .notice (.unsubscribed t _) => t = s
  | _ => false

/-- Whether an entry of the journal tells neither handlers nor other nodes of anything. -/
def Event.IsPrivate : Event → Prop
  | .notice _ | .change .. => False
  | _ => True

theorem Event.IsPrivate.isFarewell {e : Event} (h : e.IsPrivate) (s : Subscription) :
    e.isFarewell s = false := by
  cases e with
  | notice n => exact h.elim
  | _ => rfl

namespace Registry

variable {r r' : Registry} {removed : List Subscription}

/-- Whether a registry holds a subscription, as a number. -/
def holding (s : Subscription) (r : Registry) : Nat := if r.get? s.id = some s then 1 else 0

/-- A thinning takes out once what is not held afterwards, and nothing else. -/
theorem Thins.holding (h : r.Thins removed r') (s : Subscription) :
    r'.holding s + removed.count s = r.holding s := by
  by_cases hmem : s ∈ removed
  · have honce : removed.count s = 1 := List.count_eq_one_of_mem (.of_map _ h.distinct) hmem
    rw [Registry.holding, Registry.holding, h.get?_of_mem hmem, h.held s hmem, honce]
    simp
  · have hsame : r'.get? s.id = some s ↔ r.get? s.id = some s :=
      ⟨h.get?_of_get?, fun hget => (h.get?_or_mem hget).resolve_right hmem⟩
    simp only [Registry.holding, hsame, List.count_eq_zero_of_not_mem hmem, Nat.add_zero]

end Registry

/-- A destination was not started, and what other nodes announced for it stays. -/
structure Destination.Undisturbed (d d' : Destination) : Prop where
  idle : d.started = false → d'.started = false
  remote : d'.remote = d.remote

theorem Destination.Undisturbed.refl (d : Destination) : d.Undisturbed d := ⟨fun h => h, rfl⟩

/-- A destination was not disturbed, and it holds the same subscriptions as before. -/
structure Destination.Retains (d d' : Destination) : Prop extends d.Undisturbed d' where
  id : d'.id = d.id
  sound : d.registry.Sound → d'.registry.Sound
  get? : ∀ n, d'.registry.get? n = d.registry.get? n

theorem Destination.Retains.refl (d : Destination) : d.Retains d :=
  ⟨.refl d, rfl, fun h => h, fun _ => rfl⟩

namespace Broker

variable {b b' b'' : Broker} {ctx : Context} {id : DestinationId} {d : Destination}
  {c : ClientId} {before after later : List Subscription}

/-- How often handlers were told of the end of a subscription. -/
def farewells (s : Subscription) (b : Broker) : Nat := b.journal.countP (·.isFarewell s)

/-- Whether a subscription is registered at its destination, as a number. -/
def holding (s : Subscription) (b : Broker) : Nat :=
  ((b.destination? s.destination).map (·.registry.holding s)).getD 0

/-- Registries are sound, and what they hold is at its own destination. -/
def Sorted (b : Broker) : Prop :=
  ∀ id d, b.destination? id = some d →
    d.registry.Sound ∧ ∀ n s, d.registry.get? n = some s → s.destination = id

theorem IsReachable.sorted (hb : b.IsReachable) : b.Sorted := by
  obtain ⟨strays, haccounted⟩ := hb.accounted
  intro id d hd
  refine ⟨hb.sound hd, fun n s hget => ?_⟩
  have hs : b.registered? id n = some s := Option.bind_eq_some_iff.mpr ⟨d, hd, hget⟩
  exact (haccounted.home (holds_of_registered? haccounted hs)).1

/-- Of a sorted broker, what is registered at all is registered where it belongs. -/
theorem Sorted.holding_of_registered? (h : b.Sorted) {n : SubscriptionId} {s : Subscription}
    (hs : b.registered? id n = some s) : b.holding s = 1 := by
  obtain ⟨d, hd, hget⟩ := Option.bind_eq_some_iff.mp hs
  obtain ⟨hsound, hhome⟩ := h id d hd
  rw [holding, hhome n s hget, hd, Option.map_some, Option.getD_some, Registry.holding,
    hsound.id_eq hget, if_pos hget]

theorem holding_of_not_registered? {s : Subscription}
    (h : ∀ id n, b.registered? id n ≠ some s) : b.holding s = 0 := by
  cases hd : b.destination? s.destination with
  | none => rw [holding, hd]; rfl
  | some d =>
    have hnot : d.registry.get? s.id ≠ some s :=
      fun hget => h s.destination s.id (Option.bind_eq_some_iff.mpr ⟨d, hd, hget⟩)
    rw [holding, hd, Option.map_some, Option.getD_some, Registry.holding, if_neg hnot]

/-- Subscriptions went, and their ends were told, so that those that were waiting to be told of
before are balanced against those that are waiting after. -/
structure Balances (before after : List Subscription) (b b' : Broker) : Prop where
  destinations : Lookups Destination.Undisturbed b b'
  sweeper : b'.sweeper = b.sweeper
  sorted : b.Sorted → b'.Sorted
  balance : b.Sorted → ∀ s, b'.farewells s + b'.holding s + after.count s =
    b.farewells s + b.holding s + before.count s

namespace Balances

theorem trans (h : Balances before after b b') (h' : Balances after later b' b'') :
    Balances before later b b'' where
  destinations := h.destinations.trans
    (fun hd hd' => ⟨fun hidle => hd'.idle (hd.idle hidle), hd'.remote.trans hd.remote⟩)
    h'.destinations
  sweeper := h'.sweeper.trans h.sweeper
  sorted hb := h'.sorted (h.sorted hb)
  balance hb s := (h'.balance (h.sorted hb) s).trans (h.balance hb s)

/-- What is waiting for something else goes on waiting. -/
theorem frame (h : Balances before after b b') (rest : List Subscription) :
    Balances (before ++ rest) (after ++ rest) b b' where
  destinations := h.destinations
  sweeper := h.sweeper
  sorted := h.sorted
  balance hb s := by
    have hbalance := h.balance hb s
    rw [List.count_append, List.count_append]
    omega

end Balances

theorem balances_of_eq (hdestinations : b'.destinations = b.destinations)
    (hsweeper : b'.sweeper = b.sweeper)
    (hbalance : ∀ s, b'.farewells s + after.count s = b.farewells s + before.count s) :
    Balances before after b b' := by
  have hsame (id : DestinationId) : b'.destination? id = b.destination? id := by
    rw [destination?, hdestinations, destination?]
  refine ⟨lookups_of_destinations_eq .refl hdestinations, hsweeper,
    fun hb id d hd => hb id d (hsame id ▸ hd), fun _ s => ?_⟩
  have hholding : b'.holding s = b.holding s := by rw [holding, hsame, holding]
  have hs := hbalance s
  omega

theorem Balances.refl (b : Broker) : Balances before before b b :=
  balances_of_eq rfl rfl fun _ => rfl

theorem farewells_record (s : Subscription) (b : Broker) (e : Event) :
    (b.record e).farewells s = b.farewells s + if e.isFarewell s then 1 else 0 := by
  rw [farewells, record, List.countP_append, List.countP_singleton, farewells]

theorem balances_record {e : Event} (he : ∀ s, e.isFarewell s = false) (b : Broker) :
    Balances [] [] b (b.record e) :=
  balances_of_eq rfl rfl fun s => by rw [farewells_record, he s]; rfl

theorem balances_foldl {σ α : Type} (broker : σ → Broker) {step : σ → α → σ}
    (hstep : ∀ w a, Balances [] [] (broker w) (broker (step w a))) (l : List α) (w : σ) :
    Balances [] [] (broker w) (broker (l.foldl step w)) := by
  induction l generalizing w with
  | nil => exact .refl _
  | cons a l ih => exact (hstep w a).trans (ih (step w a))

/-- Changes of destinations that leave what is held there as it is. -/
theorem balances_of_map {f : Destination → Destination} (hf : ∀ d : Destination, d.Retains (f d))
    (hdestinations : b'.destinations = b.destinations.map f) (hsweeper : b'.sweeper = b.sweeper)
    (hjournal : b'.journal = b.journal) : Balances [] [] b b' := by
  have hfound := destination?_map (fun d => (hf d).id) hdestinations
  constructor
  case destinations =>
    exact lookups_of_destination?_map hfound fun _ d _ => (hf d).toUndisturbed
  case sweeper => exact hsweeper
  case sorted =>
    intro hb id d' hd'
    rw [hfound] at hd'
    obtain ⟨d, hd, rfl⟩ := Option.map_eq_some_iff.mp hd'
    obtain ⟨hd₀, hhome⟩ := hb id d hd
    exact ⟨(hf d).sound hd₀, fun n s hs => hhome n s (((hf d).get? n).symm.trans hs)⟩
  case balance =>
    intro _ s
    have hholding : b'.holding s = b.holding s := by
      have hall : (fun d : Destination => d.registry.holding s) ∘ f =
          fun d => d.registry.holding s := by
        funext d
        rw [Function.comp_apply, Registry.holding, (hf d).get?, Registry.holding]
      rw [holding, hfound, Option.map_map, hall, holding]
    rw [farewells, hjournal, hholding, farewells]

theorem balances_onDestination (change : Destination → Destination)
    (h : ∀ d : Destination, d.Retains (change d)) (b : Broker) (id : DestinationId) :
    Balances [] [] b (b.onDestination id change) := by
  refine balances_of_map (f := fun d => if d.id = id then change d else d) (fun d => ?_) rfl rfl rfl
  split
  · exact h d
  · exact .refl d

/-- What is taken out of a registry waits to be told of. -/
theorem balances_thin (hd : b.destination? id = some d) {change : Destination → Destination}
    {r : Registry} {removed : List Subscription} (hid : ∀ d, (change d).id = d.id)
    (hundisturbed : ∀ d : Destination, d.Undisturbed (change d))
    (hregistry : ∀ d, (change d).registry = r)
    (hthins : d.registry.Sound → d.registry.Thins removed r) :
    Balances [] removed b (b.onDestination id change) := by
  have hself : (b.onDestination id change).destination? id = some (change d) :=
    destination?_onDestination_self change hid hd
  have hother {id' : DestinationId} (hne : id' ≠ id) :
      (b.onDestination id change).destination? id' = b.destination? id' :=
    destination?_onDestination_of_ne change hid hne b
  constructor
  case destinations => exact lookups_onDestination .refl hid fun d _ => hundisturbed d
  case sweeper => rfl
  case sorted =>
    intro hb id' d' hd'
    by_cases heq : id' = id
    · subst heq
      obtain ⟨hsound, hhome⟩ := hb id' d hd
      cases Option.some.inj (hself.symm.trans hd')
      rw [hregistry]
      exact ⟨(hthins hsound).sound,
        fun n s hget => hhome n s ((hthins hsound).get?_of_get? hget)⟩
    · exact hb id' d' ((hother heq).symm.trans hd')
  case balance =>
    intro hb s
    obtain ⟨hsound, hhome⟩ := hb id d hd
    have hmoved : (b.onDestination id change).holding s + removed.count s = b.holding s := by
      by_cases heq : s.destination = id
      · rw [holding, holding, heq, hself, hd, Option.map_some, Option.map_some, hregistry]
        exact (hthins hsound).holding s
      · have hnot : s ∉ removed := fun hs => heq (hhome s.id s ((hthins hsound).held s hs))
        rw [holding, hother heq, List.count_eq_zero_of_not_mem hnot]
        rfl
    show b.farewells s + _ + _ = _
    rw [List.count_nil]
    omega

end Broker

/-- Calls back in a context leave nothing waiting to be told of. -/
def Context.Balances (ctx : Context) : Prop :=
  ∀ callback b, Broker.Balances [] [] b (ctx.reenter callback b).1

namespace Broker

variable {b b' b'' : Broker} {ctx : Context} {id : DestinationId} {d : Destination}
  {c : ClientId}

/-! ## Telling handlers and other nodes -/

theorem balances_callHandler (hctx : ctx.Balances) (n : Notice) (b : Broker) (h : Handler) :
    Balances [] [] b (callHandler ctx n b h) := by
  have hrecord : Balances [] [] b (b.record (.hook h.name n)) := balances_record (fun _ => rfl) b
  rw [callHandler]
  cases h.callback n with
  | none => exact hrecord
  | some callback =>
    cases callback with
    | disconnect c => exact hrecord.trans (hctx _ _)
    | unsubscribe id =>
      exact (hrecord.trans (hctx (.unsubscribe id) _)).trans (balances_record (fun _ => rfl) _)

/-- Telling of something else than the end of a subscription. -/
theorem balances_notify (hctx : ctx.Balances) {n : Notice}
    (hn : ∀ s, (Event.notice n).isFarewell s = false) (b : Broker) :
    Balances [] [] b (notify ctx n b) :=
  (balances_record hn b).trans (balances_foldl (fun b => b) (balances_callHandler hctx n) _ _)

/-- A subscription is told of. -/
theorem balances_notify_unsubscribed (hctx : ctx.Balances) (s : Subscription)
    (reason : UnsubscribeReason) (b : Broker) :
    Balances [s] [] b (notify ctx (.unsubscribed s reason) b) := by
  have hrecord : Balances [s] [] b (b.record (.notice (.unsubscribed s reason))) := by
    refine balances_of_eq rfl rfl fun t => ?_
    rw [farewells_record, List.count_singleton, List.count_nil, Nat.add_zero]
    simp [Event.isFarewell]
  exact hrecord.trans (balances_foldl (fun b => b) (balances_callHandler hctx _) _ _)

theorem balances_tellChange (hctx : ctx.Balances) (id : DestinationId) (change : KeyChange)
    (b : Broker) : Balances [] [] b (tellChange ctx id change b) := by
  rw [tellChange]
  cases ctx.env.cluster with
  | none => exact .refl b
  | some cluster =>
    have hrecord : Balances [] [] b (b.record (.change id change)) :=
      balances_record (fun _ => rfl) b
    dsimp only
    cases cluster.callback id change with
    | none =>
      cases cluster.tellChange id change with
      | ok _ => exact hrecord
      | error fault => exact hrecord.trans (balances_record (fun _ => rfl) _)
    | some callback =>
      have hcalled := hrecord.trans (hctx callback _)
      cases cluster.tellChange id change with
      | ok _ => exact hcalled
      | error fault => exact hcalled.trans (balances_record (fun _ => rfl) _)

theorem balances_tellChanges (hctx : ctx.Balances) (id : DestinationId) (fuel : Nat) (b : Broker) :
    Balances [] [] b (tellChanges ctx id fuel b) := by
  induction fuel generalizing b with
  | zero => exact .refl b
  | succ fuel ih =>
    rw [tellChanges]
    split
    · exact .refl b
    next change _ =>
      have hpop : Balances [] [] b
          (b.onDestination id fun d => { d with registry := d.registry.pop.1 }) :=
        balances_onDestination (fun d => { d with registry := d.registry.pop.1 })
          (fun d => ⟨⟨fun h => h, rfl⟩, rfl, fun h => h.thins_pop.sound, get?_pop d.registry⟩) b id
      exact (hpop.trans (balances_tellChange hctx id change _)).trans (ih _)

theorem balances_announce (hctx : ctx.Balances) (id : DestinationId) (b : Broker) :
    Balances [] [] b (announce ctx id b) := by
  have hflag (flag : Bool) (b : Broker) :
      Balances [] [] b (b.onDestination id fun d => { d with announcing := flag }) :=
    balances_onDestination (fun d => { d with announcing := flag })
      (fun _ => ⟨⟨fun h => h, rfl⟩, rfl, fun h => h, fun _ => rfl⟩) b id
  rw [announce]
  split
  · exact .refl b
  · split
    · exact .refl b
    · exact ((hflag true b).trans (balances_tellChanges hctx id _ _)).trans (hflag false _)

/-! ## Ending subscriptions -/

theorem balances_takeOut {take : Registry → Registry × List Removed}
    (htake : ∀ r : Registry, r.Sound → r.Thins ((take r).2.map (·.subscription)) (take r).1)
    (id : DestinationId) (b : Broker) :
    Balances [] ((takeOut id take b).2.map (·.subscription)) b (takeOut id take b).1 := by
  cases hd : b.destination? id with
  | none =>
    rw [takeOut, hd]
    exact .refl b
  | some d =>
    rw [takeOut_of_destination? hd]
    exact balances_thin hd (fun _ => rfl) (fun _ => ⟨fun h => h, rfl⟩) (fun _ => rfl)
      (htake d.registry)

theorem balances_strike (id : DestinationId) (s : Subscription) (b : Broker) :
    Balances [] [] b (b.strike id s) := by
  let counted (d : Destination) : Destination :=
    { d with totals := { d.totals with subscriptions := d.totals.subscriptions.dec } }
  have hcounted : Balances [] [] b (b.onDestination id counted) :=
    balances_onDestination counted
      (fun _ => ⟨⟨fun h => h, rfl⟩, rfl, fun h => h, fun _ => rfl⟩) b id
  refine hcounted.trans (balances_of_eq (destinations_strike id s b) ?_ fun t => ?_)
  · show (onSession _ _ _).sweeper = b.sweeper
    rw [onSession]
    split <;> rfl
  · rw [farewells, (alike_strike id s b).journal]
    rfl

theorem balances_detach (hctx : ctx.Balances) (id : DestinationId) (reason : UnsubscribeReason)
    (b : Broker) (s : Subscription) : Balances [s] [] b (detach ctx id reason b s) := by
  have hstrike : Balances [s] [s] b (b.strike id s) := (balances_strike id s b).frame [s]
  rw [detach_eq]
  exact (hstrike.trans (balances_notify_unsubscribed hctx s reason _)).trans
    (balances_announce hctx id _)

theorem balances_foldl_detach (hctx : ctx.Balances) (id : DestinationId)
    (reason : UnsubscribeReason) (subs : List Subscription) (b : Broker) :
    Balances subs [] b (subs.foldl (detach ctx id reason) b) := by
  induction subs generalizing b with
  | nil => exact .refl b
  | cons s subs ih => exact ((balances_detach hctx id reason b s).frame subs).trans (ih _)

theorem balances_takeOut_detach (hctx : ctx.Balances) {take : Registry → Registry × List Removed}
    (htake : ∀ r : Registry, r.Sound → r.Thins ((take r).2.map (·.subscription)) (take r).1)
    (id : DestinationId) (reason : UnsubscribeReason) (b : Broker) :
    Balances [] [] b (((takeOut id take b).2.map (·.subscription)).foldl (detach ctx id reason)
      (takeOut id take b).1) :=
  (balances_takeOut htake id b).trans (balances_foldl_detach hctx id reason _ _)

theorem balances_unsubscribeClient (hctx : ctx.Balances) (c : ClientId)
    (reason : UnsubscribeReason) (b : Broker) :
    Balances [] [] b (unsubscribeClient ctx c reason b).1 := by
  rw [unsubscribeClient]
  refine balances_foldl Prod.fst ?_ b.destinationIds (b, 0)
  intro w id
  exact balances_takeOut_detach hctx (fun _ h => h.thins_removeClient c) id reason w.1

/-! ## Calls back -/

theorem balances_dropCounters (c : ClientId) (b : Broker) : Balances [] [] b (dropCounters c b) :=
  balances_of_map (f := fun d => { d with limiter := d.limiter.removeClient c })
    (fun _ => ⟨⟨fun h => h, rfl⟩, rfl, fun h => h, fun _ => rfl⟩) rfl rfl rfl

theorem balances_terminate (hctx : ctx.Balances) (c : ClientId) (onlyIfEmpty : Bool) (b : Broker) :
    Balances [] [] b (terminate ctx c onlyIfEmpty b) := by
  rw [terminate]
  split
  · split
    · exact .refl b
    · exact balances_dropCounters c b
  · split
    · exact .refl b
    · let ended : Broker :=
        { b with sessions := b.sessions.erase c, sessionGauge := b.sessionGauge.dec }
      have hended : Balances [] [] b ended := balances_of_eq rfl rfl fun _ => rfl
      exact (hended.trans (balances_dropCounters c ended)).trans
        (balances_notify hctx (fun _ => rfl) _)

theorem balances_unsubscribeIn (hctx : ctx.Balances) (i : SubscriptionId) (b : Broker) :
    Balances [] [] b (unsubscribeIn ctx i b).1 := by
  rw [unsubscribeIn]
  split
  · exact .refl b
  next owner _ =>
    have hdisowned : Balances [] [] b { b with owners := b.owners.erase i } :=
      balances_of_eq rfl rfl fun _ => rfl
    exact hdisowned.trans (balances_takeOut_detach hctx (thins_takeOne i) owner .client _)

/-- Calls back leave nothing waiting to be told of, however deep they nest. -/
theorem balances_reenter (env : Environment) (depth : Nat) (callback : Callback) (b : Broker) :
    Balances [] [] b (reenter env depth callback b).1 := by
  induction depth generalizing callback b with
  | zero => exact .refl b
  | succ depth ih =>
    have hctx : Context.Balances ⟨env, reenter env depth⟩ := ih
    cases callback with
    | disconnect c =>
      exact (balances_unsubscribeClient hctx c .disconnect b).trans
        (balances_terminate hctx c false _)
    | unsubscribe i => exact balances_unsubscribeIn hctx i b

theorem balances_context (env : Environment) (b : Broker) : (b.context env).Balances :=
  balances_reenter env b.depth

/-! ## Stopping -/

theorem journals_callAdapter (env : Environment) (adapter : Adapter) (isStart : Bool)
    (id : DestinationId) (b : Broker) :
    Journals Event.IsPrivate b (callAdapter env adapter isStart id b).1 := by
  cases adapter with
  | plain => exact .refl _ b
  | bridge name => exact journals_record trivial b
  | custom name => exact journals_record trivial b

/-- Stopping a destination that is started takes out all of its subscriptions. Apart from that
at most its adapter is asked to stop, and it is written to the journal how that went. -/
theorem stopDestination_eq (env : Environment) (hd : b.destination? id = some d)
    (hstarted : d.started = true) :
    Journals Event.IsPrivate
        (b.onDestination id fun d' => { d' with started := false, registry := d.registry.clear.1 })
        (stopDestination env id b).1 ∧
      (stopDestination env id b).2 = d.registry.toList := by
  rw [stopDestination, hd]
  dsimp only
  rw [hstarted, if_neg (by simp)]
  refine ⟨?_, rfl⟩
  have hcalled := journals_callAdapter env d.adapter false id
    (b.onDestination id fun d' => { d' with started := false, registry := d.registry.clear.1 })
  generalize callAdapter env d.adapter false id _ = called at hcalled ⊢
  have hlog {b' : Broker} (level : LogLevel) (text : String) :
      Journals Event.IsPrivate b' (b'.log level text) :=
    journals_record trivial b'
  dsimp only
  split
  · exact hcalled.trans (hlog _ _)
  · exact (hcalled.trans (hlog _ _)).trans (hlog _ _)

theorem balances_of_journals (h : Journals Event.IsPrivate b b') : Balances [] [] b b' := by
  obtain ⟨entries, hentries, rfl⟩ := h
  refine balances_of_eq rfl rfl fun s => ?_
  have hnone : entries.countP (·.isFarewell s) = 0 :=
    List.countP_eq_zero.mpr fun e he => by simp [(hentries e he).isFarewell s]
  rw [farewells, List.countP_append, hnone]
  rfl

/-- A destination that stops leaves its subscriptions waiting to be told of. -/
theorem balances_stopDestination (env : Environment) (id : DestinationId) (b : Broker) :
    Balances [] (stopDestination env id b).2 b (stopDestination env id b).1 := by
  rcases stopDestination_cases env id b with hsame | ⟨d, hd, hstarted⟩
  · rw [hsame]
    exact .refl b
  · obtain ⟨hjournals, hdetached⟩ := stopDestination_eq env hd hstarted
    have hcleared : Balances [] d.registry.toList b (b.onDestination id fun d' =>
        { d' with started := false, registry := d.registry.clear.1 }) :=
      balances_thin hd (by exact fun _ => rfl) (by exact fun _ => ⟨fun _ => rfl, rfl⟩)
        (fun _ => rfl) fun h => h.thins_clear
    rw [hdetached]
    exact hcleared.trans ((balances_of_journals hjournals).frame d.registry.toList)

/-- Stopping a destination and cleaning up leaves nothing waiting. -/
theorem balances_stopAndDetach (hctx : ctx.Balances) (b : Broker) (id : DestinationId) :
    Balances [] [] b (stopAndDetach ctx b id) :=
  (balances_stopDestination ctx.env id b).trans
    (balances_foldl_detach hctx id .destinationStopped _ _)

/-- Stopping a node stops its sweeper and leaves nothing waiting. -/
theorem balances_stop (env : Environment) (b : Broker) :
    Balances [] [] { b with sweeper := none } (stop env b) := by
  have hctx := balances_context env b
  exact (balances_foldl (fun b => b) (balances_stopAndDetach hctx) b.destinationIds
    { b with sweeper := none }).trans (balances_record (fun _ => rfl) _)

end Broker

end MessageBroker
