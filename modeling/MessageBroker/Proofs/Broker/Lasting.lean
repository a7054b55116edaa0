/-
# What lasts

Much of what can be said of a broker before and after is touched by few of the things that
operations are made of. Who is logged in as a client changes when a session ends, what waits
to be told to other nodes changes when a subscription goes, and nothing else that happens on
the way makes a difference to either.

Here such a relation between a broker and what becomes of it is followed through all
operations, once. It is asked for the parts: that an entry of the journal, a change of
numbers, the end of a session, a removal of subscriptions with what follows from it, and a
round of telling other nodes keep it. Then every operation keeps it that neither begins a
session nor enters a subscription nor logs anyone in or out, and that nobody is active by, with
calls back of any depth. The remaining ones keep it when the relation allows for what sets them
apart.
-/

import MessageBroker.Proofs.Broker.Entries
import MessageBroker.Proofs.Broker.Requests

open Std

namespace MessageBroker

/-- Whether an entry of the journal neither hands a copy of a message to the transport nor
tells that one was taken, nor of the end of a session. -/
def Event.IsRoutine : Event → Prop
  | .delivery .. => False
  | .notice (.messageDelivered ..) => False
  | .notice (.sessionTerminated _) => False
  | _ => True

/-- A session without its listing. -/
def Session.unlisted (s : Session) : Session := { s with subscriptions := ∅ }

/-- Nothing about a destination has changed but numbers, its adapter's state, and what other
nodes announced. -/
structure Destination.Alike (d d' : Destination) : Prop where
  id : d'.id = d.id
  settings : d'.settings = d.settings
  registry : d'.registry = d.registry
  announcing : d'.announcing = d.announcing

theorem Destination.Alike.refl (d : Destination) : d.Alike d := ⟨rfl, rfl, rfl, rfl⟩

theorem Destination.Alike.trans {d d' d'' : Destination} (h : d.Alike d') (h' : d'.Alike d'') :
    d.Alike d'' :=
  ⟨h'.id.trans h.id, h'.settings.trans h.settings, h'.registry.trans h.registry,
    h'.announcing.trans h.announcing⟩

/-- Whether a way of taking subscriptions out of a registry removes some of them one after
the other. -/
def Registry.IsRemoval (take : Registry → Registry × List Removed) : Prop :=
  ∀ r, ∃ ids, take r = Registry.removeAll ids r

theorem Registry.isRemoval_removeClient (c : ClientId) : IsRemoval (·.removeClient c) :=
  fun r => ⟨(r.byClient.under c).toList, rfl⟩

theorem Registry.isRemoval_takeOne (i : SubscriptionId) : IsRemoval (Broker.takeOne i) :=
  fun r => ⟨[i], by simp [Broker.takeOne, removeAll]⟩

theorem Registry.get?_of_get?_removeAll {ids : List SubscriptionId} {r : Registry}
    {n : SubscriptionId} {s : Subscription} (h : (removeAll ids r).1.get? n = some s) :
    r.get? n = some s := by
  induction ids generalizing r with
  | nil => exact h
  | cons id ids ih =>
    have hfirst : (r.remove id).1.get? n = some s := ih h
    rw [get?_remove] at hfirst
    split at hfirst
    · cases hfirst
    · exact hfirst

namespace Broker

/-- Nobody has subscribed, left or been active, and nobody was told anything: at most numbers and
listings differ. -/
structure Alike (b b' : Broker) : Prop where
  destinations : ∃ f : Destination → Destination, (∀ d : Destination, d.Alike (f d)) ∧
    b'.destinations = b.destinations.map f
  sessions : ∀ c : ClientId,
    (b'.sessions[c]?).map (·.unlisted) = (b.sessions[c]?).map (·.unlisted)
  journal : b'.journal = b.journal

variable {b b' : Broker} {id : DestinationId} {d : Destination} {c : ClientId}

theorem Alike.trans {b'' : Broker} (h : Alike b b') (h' : Alike b' b'') : Alike b b'' := by
  obtain ⟨f, hf, hdestinations⟩ := h.destinations
  obtain ⟨g, hg, hdestinations'⟩ := h'.destinations
  refine ⟨⟨g ∘ f, fun d => (hf d).trans (hg (f d)), ?_⟩,
    fun c => (h'.sessions c).trans (h.sessions c), h'.journal.trans h.journal⟩
  rw [hdestinations', hdestinations, List.map_map]

theorem Alike.principals (h : Alike b b') (c : ClientId) :
    (b'.sessions[c]?).map (·.principal) = (b.sessions[c]?).map (·.principal) := by
  have hprincipals := congrArg (Option.map (·.principal)) (h.sessions c)
  rw [Option.map_map, Option.map_map] at hprincipals
  exact hprincipals

theorem alike_of_eq (hdestinations : b'.destinations = b.destinations)
    (hsessions : b'.sessions = b.sessions) (hjournal : b'.journal = b.journal) : Alike b b' :=
  ⟨⟨_, .refl, hdestinations.trans (List.map_id' _).symm⟩, fun _ => hsessions ▸ rfl, hjournal⟩

theorem alike_onDestination (change : Destination → Destination)
    (h : ∀ d : Destination, d.Alike (change d)) (b : Broker) (id : DestinationId) :
    Alike b (b.onDestination id change) := by
  refine ⟨⟨_, fun d => ?_, rfl⟩, fun _ => rfl, rfl⟩
  split
  · exact h d
  · exact .refl d

theorem alike_onTotals (change : Totals → Totals) (b : Broker) (id : DestinationId) :
    Alike b (b.onTotals id change) :=
  alike_onDestination (fun d => { d with totals := change d.totals })
    (fun _ => ⟨rfl, rfl, rfl, rfl⟩) b id

theorem alike_limiter (limiter : Destination → Limiter) (b : Broker) (id : DestinationId) :
    Alike b (b.onDestination id fun d => { d with limiter := limiter d }) :=
  alike_onDestination (fun d => { d with limiter := limiter d })
    (fun _ => ⟨rfl, rfl, rfl, rfl⟩) b id

theorem getElem?_sessions_onSession (b : Broker) (c : ClientId) (change : Session → Session)
    (c' : ClientId) : (b.onSession c change).sessions[c']? =
      if c = c' then (b.sessions[c]?).map change else b.sessions[c']? := by
  rw [onSession]
  split
  next hnone =>
    split
    next heq => rw [← heq, hnone, Option.map_none]
    next => rfl
  next session hsession => rw [Maps.getElem?_insert_ite, hsession, Option.map_some]

/-- What a change leaves as it is about a session stays with all sessions. -/
theorem map_sessions_onSession {α : Type} (f : Session → α) {change : Session → Session}
    (h : ∀ s, f (change s) = f s) (b : Broker) (c c' : ClientId) :
    ((b.onSession c change).sessions[c']?).map f = (b.sessions[c']?).map f := by
  rw [getElem?_sessions_onSession]
  split
  next heq =>
    rw [heq, Option.map_map]
    exact congrArg (Option.map · _) (funext h)
  next => rfl

theorem alike_onSession (change : Session → Session)
    (h : ∀ s, (change s).unlisted = s.unlisted) (b : Broker) (c : ClientId) :
    Alike b (b.onSession c change) := by
  refine ⟨⟨_, .refl, ?_⟩, map_sessions_onSession (·.unlisted) h b c, ?_⟩
  · rw [List.map_id', destinations_onSession]
  · rw [onSession]
    split <;> rfl

theorem alike_dropCounters (c : ClientId) (b : Broker) : Alike b (dropCounters c b) :=
  ⟨⟨fun d => { d with limiter := d.limiter.removeClient c }, fun _ => ⟨rfl, rfl, rfl, rfl⟩, rfl⟩,
    fun _ => rfl, rfl⟩

/-- A relation that holds of a broker and what routine makes of it. -/
structure Steady (R : Broker → Broker → Prop) : Prop where
  trans : ∀ {b b' b''}, R b b' → R b' b'' → R b b''
  alike : ∀ {b b'}, Alike b b' → R b b'
  record : ∀ {b : Broker} {e : Event}, e.IsRoutine → R b (b.record e)

end Broker

/-- What is called back for in a context keeps a relation. -/
def Context.Within (R : Broker → Broker → Prop) (ctx : Context) : Prop :=
  ∀ callback b, R b (ctx.reenter callback b).1

namespace Broker

/-- A relation that holds of a broker and what becomes of it when subscriptions and sessions
end, too. -/
structure Lasting (R : Broker → Broker → Prop) : Prop extends Steady R where
  /-- A session ends, and it is told. -/
  close : ∀ {b : Broker} {c : ClientId} {session}, b.sessions[c]? = some session →
    R b ((dropCounters c
      { b with sessions := b.sessions.erase c, sessionGauge := b.sessionGauge.dec }).record
        (.notice (.sessionTerminated c)))
  /-- A destination stops and gives its subscriptions away. -/
  clear : ∀ {b : Broker} {id : DestinationId} {d}, b.destination? id = some d →
    R b (b.onDestination id fun d' =>
      { d' with started := false, registry := d.registry.clear.1 })
  announce : ∀ {ctx : Context}, ctx.Within R → ∀ id b, R b (announce ctx id b)
  /-- Subscriptions are taken out of a registry, and then it is cleaned up after them. -/
  remove : ∀ {ctx : Context}, ctx.Within R → ∀ {take}, Registry.IsRemoval take →
    ∀ id reason b, R b (((takeOut id take b).2.map (·.subscription)).foldl
      (detach ctx id reason) (takeOut id take b).1)

variable {R : Broker → Broker → Prop} {ctx : Context} {env : Environment} {b b' : Broker}
  {id : DestinationId} {d : Destination} {c : ClientId} {m : Message} {ts : List Subtopic}

namespace Steady

theorem refl (h : Steady R) (b : Broker) : R b b := h.alike (alike_of_eq rfl rfl rfl)

theorem log (h : Steady R) {b : Broker} {level : LogLevel} {text : String} :
    R b (b.log level text) :=
  h.record trivial

theorem foldl (h : Steady R) {σ α : Type} (broker : σ → Broker) {step : σ → α → σ}
    (hstep : ∀ w a, R (broker w) (broker (step w a))) (l : List α) (w : σ) :
    R (broker w) (broker (l.foldl step w)) := by
  induction l generalizing w with
  | nil => exact h.refl _
  | cons a l ih => exact h.trans (hstep w a) (ih (step w a))

/-! ## Entries of the journal -/

theorem journal (h : Steady R) {entries : List Event} (hentries : ∀ e ∈ entries, e.IsRoutine)
    (b : Broker) : R b { b with journal := b.journal ++ entries } := by
  induction entries generalizing b with
  | nil =>
    rw [List.append_nil]
    exact h.refl b
  | cons e entries ih =>
    have hfirst : R b (b.record e) := h.record (hentries e List.mem_cons_self)
    have hrest := ih (fun e' he' => hentries e' (List.mem_cons_of_mem _ he')) (b.record e)
    rw [Broker.record, List.append_assoc] at hrest
    exact h.trans hfirst hrest

theorem journals (h : Steady R) {kind : Event → Prop} (hkind : ∀ e, kind e → e.IsRoutine)
    (hb : Journals kind b b') : R b b' := by
  obtain ⟨entries, hentries, rfl⟩ := hb
  exact h.journal (fun e he => hkind e (hentries e he)) b

theorem lookups (h : Steady R) (hb : Journals IsLookup b b') : R b b' :=
  h.journals (fun e he => by cases e <;> trivial) hb

theorem onlyAsked (h : Steady R) (hb : OnlyAsked b b') : R b b' :=
  h.journals (fun _ ⟨_, _, he⟩ => he ▸ trivial) hb

/-! ## Telling handlers and other nodes -/

theorem callHandler (h : Steady R) (hctx : ctx.Within R) (n : Notice) (b : Broker)
    (handler : Handler) : R b (callHandler ctx n b handler) := by
  have hrecord : R b (b.record (.hook handler.name n)) := h.record trivial
  rw [Broker.callHandler]
  cases handler.callback n with
  | none => exact hrecord
  | some callback =>
    cases callback with
    | disconnect c => exact h.trans hrecord (hctx _ _)
    | unsubscribe id =>
      have hcalled := h.trans hrecord (hctx (.unsubscribe id) _)
      exact h.trans hcalled (h.record trivial)

/-- Apart from the notice itself, telling handlers is routine. -/
theorem notify_of_record (h : Steady R) (hctx : ctx.Within R) (n : Notice) (b : Broker) :
    R (b.record (.notice n)) (notify ctx n b) :=
  h.foldl (fun b => b) (h.callHandler hctx n) _ _

theorem notify (h : Steady R) (hctx : ctx.Within R) {n : Notice}
    (hn : (Event.notice n).IsRoutine) : R b (notify ctx n b) :=
  h.trans (h.record hn) (h.notify_of_record hctx n b)

theorem tellChange (h : Steady R) (hctx : ctx.Within R) (id : DestinationId) (change : KeyChange)
    (b : Broker) : R b (tellChange ctx id change b) := by
  rw [Broker.tellChange]
  cases ctx.env.cluster with
  | none => exact h.refl b
  | some cluster =>
    have hrecord : R b (b.record (.change id change)) := h.record trivial
    dsimp only
    cases cluster.callback id change with
    | none =>
      cases cluster.tellChange id change with
      | ok _ => exact hrecord
      | error fault => exact h.trans hrecord (h.record trivial)
    | some callback =>
      have hcalled := h.trans hrecord (hctx callback _)
      cases cluster.tellChange id change with
      | ok _ => exact hcalled
      | error fault => exact h.trans hcalled (h.record trivial)

/-! ## Calling adapters -/

theorem callAdapter (h : Steady R) (env : Environment) (adapter : Adapter) (isStart : Bool)
    (id : DestinationId) (b : Broker) : R b (callAdapter env adapter isStart id b).1 := by
  cases adapter with
  | plain => exact h.refl b
  | bridge name => exact h.record trivial
  | custom name => exact h.record trivial

/-! ## Relations that thinning a registry keeps -/

section Thinning

/-- A relation allows for a change of a registry when it says no more about registries than
that they hold nothing new. -/
def Thinning (R : Broker → Broker → Prop) : Prop :=
  ∀ {b : Broker} {id : DestinationId} {d}, b.destination? id = some d →
    ∀ change : Destination → Destination, (∀ d, (change d).id = d.id) →
      (∀ n s, (change d).registry.get? n = some s → d.registry.get? n = some s) →
      R b (b.onDestination id change)

theorem tellChanges (h : Steady R) (hthin : Thinning R) (hctx : ctx.Within R)
    (id : DestinationId) (fuel : Nat) (b : Broker) : R b (tellChanges ctx id fuel b) := by
  induction fuel generalizing b with
  | zero => exact h.refl b
  | succ fuel ih =>
    rw [Broker.tellChanges]
    split
    · exact h.refl b
    next change hnext =>
      obtain ⟨d, hd, -⟩ := Option.bind_eq_some_iff.mp hnext
      have hpop := hthin hd (fun d => { d with registry := d.registry.pop.1 }) (fun _ => rfl)
        (fun n s hs => get?_pop d.registry n ▸ hs)
      exact h.trans (h.trans hpop (h.tellChange hctx id change _)) (ih _)

theorem announce_of_thinning (h : Steady R) (hthin : Thinning R) (hctx : ctx.Within R)
    (id : DestinationId) (b : Broker) : R b (Broker.announce ctx id b) := by
  have hflag (flag : Bool) (b : Broker) :
      R b (b.onDestination id fun d => { d with announcing := flag }) := by
    cases hd : b.destination? id with
    | some d =>
      exact hthin hd (fun d => { d with announcing := flag }) (fun _ => rfl) (fun _ _ hs => hs)
    | none =>
      have hsame : b.onDestination id (fun d => { d with announcing := flag }) = b := by
        have hnone : ∀ d ∈ b.destinations, d.id ≠ id := by
          simpa [destination?] using hd
        rw [onDestination, List.map_congr_left fun d hmem => if_neg (hnone d hmem), List.map_id']
      rw [hsame]
      exact h.refl b
  rw [Broker.announce]
  split
  · exact h.refl b
  · split
    · exact h.refl b
    · exact h.trans (h.trans (hflag true b) (h.tellChanges hthin hctx id _ _)) (hflag false _)

theorem takeOut_of_thinning (h : Steady R) (hthin : Thinning R)
    {take : Registry → Registry × List Removed} (htake : Registry.IsRemoval take)
    (id : DestinationId) (b : Broker) : R b (takeOut id take b).1 := by
  rw [takeOut]
  split
  · exact h.refl b
  next d hd =>
    obtain ⟨ids, hids⟩ := htake d.registry
    apply hthin hd (fun d' => { d' with registry := (take d.registry).1 }) (fun _ => rfl)
    intro n s hs
    rw [hids] at hs
    exact Registry.get?_of_get?_removeAll hs

end Thinning

end Steady

/-! ## Ending subscriptions and sessions -/

/-- Striking the records of a subscription changes numbers and a listing. -/
theorem alike_strike (id : DestinationId) (s : Subscription) (b : Broker) :
    Alike b (b.strike id s) := by
  let disowned : Broker := { b with owners := b.owners.erase s.id }
  let unlist (session : Session) : Session :=
    { session with subscriptions := session.subscriptions.erase s.id }
  have hdisowned : Alike b disowned := alike_of_eq rfl rfl rfl
  have hunlisted : Alike disowned (disowned.onSession s.client unlist) :=
    alike_onSession unlist (fun _ => rfl) disowned s.client
  have hcounted := alike_onTotals (fun t => { t with subscriptions := t.subscriptions.dec })
    (disowned.onSession s.client unlist) id
  have hgauged : Alike ((disowned.onSession s.client unlist).onTotals id fun t =>
      { t with subscriptions := t.subscriptions.dec }) (b.strike id s) := alike_of_eq rfl rfl rfl
  exact ((hdisowned.trans hunlisted).trans hcounted).trans hgauged

theorem Steady.detach (h : Steady R)
    (hannounce : ∀ id b, R b (announce ctx id b)) (hctx : ctx.Within R) (id : DestinationId)
    (reason : UnsubscribeReason) (b : Broker) (s : Subscription) :
    R b (detach ctx id reason b s) := by
  have hstrike : R b (b.strike id s) := h.alike (alike_strike id s b)
  have htold : R (b.strike id s) (Broker.notify ctx (.unsubscribed s reason) (b.strike id s)) :=
    h.notify hctx trivial
  rw [detach_eq]
  exact h.trans (h.trans hstrike htold) (hannounce id _)

/-- A relation that allows for any thinning of a registry lasts when it allows for the end of
a session. -/
theorem Steady.lasting (h : Steady R) (hthin : Steady.Thinning R)
    (hclose : ∀ {b : Broker} {c : ClientId} {session}, b.sessions[c]? = some session →
      R b ((dropCounters c
        { b with sessions := b.sessions.erase c, sessionGauge := b.sessionGauge.dec }).record
          (.notice (.sessionTerminated c)))) : Lasting R where
  toSteady := h
  close := hclose
  clear {b id d} hd :=
    hthin hd (fun d' => { d' with started := false, registry := d.registry.clear.1 })
      (fun _ => rfl) (fun n s hs => by simp [Registry.clear, Registry.empty, Registry.get?] at hs)
  announce hctx := h.announce_of_thinning hthin hctx
  remove {ctx} hctx {take} htake id reason b := by
    have hdetach := h.detach (h.announce_of_thinning hthin hctx) hctx id reason
    exact h.trans (h.takeOut_of_thinning hthin htake id b)
      (h.foldl (fun b => b) hdetach _ _)

namespace Lasting

theorem detach (h : Lasting R) (hctx : ctx.Within R) (id : DestinationId)
    (reason : UnsubscribeReason) (b : Broker) (s : Subscription) :
    R b (detach ctx id reason b s) :=
  h.toSteady.detach (h.announce hctx) hctx id reason b s

theorem unsubscribeAt (h : Lasting R) (hctx : ctx.Within R) (c : ClientId)
    (reason : UnsubscribeReason) (id : DestinationId) (b : Broker) :
    R b (unsubscribeAt ctx c reason id b).1 :=
  h.remove hctx (Registry.isRemoval_removeClient c) id reason b

theorem unsubscribeClient (h : Lasting R) (hctx : ctx.Within R) (c : ClientId)
    (reason : UnsubscribeReason) (b : Broker) : R b (unsubscribeClient ctx c reason b).1 := by
  apply h.foldl Prod.fst ?_ b.destinationIds (b, 0)
  intro w id
  exact h.unsubscribeAt hctx c reason id w.1

theorem terminate (h : Lasting R) (hctx : ctx.Within R) (c : ClientId) (onlyIfEmpty : Bool)
    (b : Broker) : R b (terminate ctx c onlyIfEmpty b) := by
  rw [Broker.terminate]
  split
  · split
    · exact h.refl b
    · exact h.alike (alike_dropCounters c b)
  next session hsession =>
    split
    · exact h.refl b
    · exact h.trans (h.close hsession) (h.notify_of_record hctx _ _)

theorem disconnectIn (h : Lasting R) (hctx : ctx.Within R) (c : ClientId) (b : Broker) :
    R b (disconnectIn ctx c b).1 :=
  h.trans (h.unsubscribeClient hctx c .disconnect b) (h.terminate hctx c false _)

theorem unsubscribeAllIn (h : Lasting R) (hctx : ctx.Within R) (c : ClientId) (b : Broker) :
    R b (unsubscribeAllIn ctx c b).1 :=
  h.trans (h.unsubscribeClient hctx c .client b) (h.terminate hctx c true _)

theorem unsubscribeIn (h : Lasting R) (hctx : ctx.Within R) (i : SubscriptionId) (b : Broker) :
    R b (unsubscribeIn ctx i b).1 := by
  rw [Broker.unsubscribeIn]
  split
  · exact h.refl b
  next owner howner =>
    have hdisowned : R b { b with owners := b.owners.erase i } := h.alike (alike_of_eq rfl rfl rfl)
    exact h.trans hdisowned (h.remove hctx (Registry.isRemoval_takeOne i) owner .client _)

/-- Calls back keep a lasting relation, however deep they nest. -/
theorem reenter (h : Lasting R) (env : Environment) (depth : Nat) (callback : Callback)
    (b : Broker) : R b (reenter env depth callback b).1 := by
  induction depth generalizing callback b with
  | zero => exact h.refl b
  | succ depth ih =>
    have hctx : Context.Within R ⟨env, Broker.reenter env depth⟩ := ih
    cases callback with
    | disconnect c => exact h.disconnectIn hctx c b
    | unsubscribe i => exact h.unsubscribeIn hctx i b

theorem context (h : Lasting R) (env : Environment) (b : Broker) : (b.context env).Within R :=
  h.reenter env b.depth

/-! ## Sweeping and stopping -/

theorem sweepOne (h : Lasting R) (hctx : ctx.Within R) (id : DestinationId) (timeout : Int)
    (now : Timestamp) (w : Sweeping) (s : Subscription) :
    R w.broker (sweepOne ctx id timeout now w s).broker := by
  have hswept := h.remove hctx (Registry.isRemoval_takeOne s.id) id .idleTimeout w.broker
  rw [Broker.sweepOne]
  split
  · exact h.refl _
  · split
    · exact h.refl _
    next b removed _ heq =>
      have htaken : takeOut id (takeOne s.id) w.broker = (b, removed) := heq
      rw [htaken] at hswept
      exact hswept

theorem sweepDestination (h : Lasting R) (hctx : ctx.Within R) (now : Timestamp) (w : Sweeping)
    (id : DestinationId) : R w.broker (sweepDestination ctx now w id).broker := by
  rw [Broker.sweepDestination]
  split
  · exact h.refl _
  · split
    · exact h.refl _
    · exact h.foldl Sweeping.broker (h.sweepOne hctx id _ now) _ w

theorem sweepAt (h : Lasting R) (env : Environment) (now : Timestamp) (b : Broker) :
    R b (sweepAt env now b).1 := by
  have hctx := h.context env b
  rw [Broker.sweepAt]
  generalize b.context env = ctx at hctx ⊢
  have hswept := h.foldl Sweeping.broker (h.sweepDestination hctx now) b.destinationIds ⟨b, 0, ∅⟩
  generalize b.destinationIds.foldl (Broker.sweepDestination ctx now) ⟨b, 0, ∅⟩ = w at hswept ⊢
  have hended := h.trans hswept
    (h.foldl (fun b => b) (fun b c => h.terminate hctx c true b) w.clients.toList w.broker)
  split
  · exact h.trans hended h.log
  · exact hended

theorem tick (h : Lasting R) (env : Environment) (ms : Nat) (b : Broker) :
    R b (tick env ms b) := by
  rw [Broker.tick]
  split
  · exact h.refl b
  · split
    · exact h.trans (h.sweepAt env env.now b) (h.alike (alike_of_eq rfl rfl rfl))
    · exact h.alike (alike_of_eq rfl rfl rfl)

theorem stopDestination (h : Lasting R) (env : Environment) (id : DestinationId) (b : Broker) :
    R b (stopDestination env id b).1 := by
  rw [Broker.stopDestination]
  split
  · exact h.refl b
  next d hd =>
    split
    · exact h.refl b
    · have hstopped := h.trans (h.clear hd) (h.callAdapter env d.adapter false id _)
      dsimp only
      generalize Broker.callAdapter env d.adapter false id _ = called at hstopped ⊢
      split
      · exact h.trans hstopped h.log
      next fault _ => exact h.trans (h.trans hstopped h.log) h.log

theorem stopNamed (h : Lasting R) (env : Environment) (id : DestinationId) (b : Broker) :
    R b (stopNamed env id b).1 := by
  rw [Broker.stopNamed]
  split
  · exact h.refl b
  · exact h.stopDestination env id b

theorem stopAndDetach (h : Lasting R) (hctx : ctx.Within R) (b : Broker) (id : DestinationId) :
    R b (stopAndDetach ctx b id) :=
  h.trans (h.stopDestination ctx.env id b)
    (h.foldl (fun b => b) (h.detach hctx id .destinationStopped) _ _)

theorem stop (h : Lasting R) (env : Environment) (b : Broker) : R b (stop env b) := by
  have hidle : R b { b with sweeper := none } := h.alike (alike_of_eq rfl rfl rfl)
  have hall := h.trans hidle (h.foldl (fun b => b) (h.stopAndDetach (h.context env b))
    b.destinationIds { b with sweeper := none })
  exact h.trans hall h.log

end Lasting

namespace Steady

/-! ## Starting, other nodes and limiters -/

theorem startDestination (h : Steady R) (env : Environment) (id : DestinationId) (b : Broker) :
    R b (startDestination env id b).1 := by
  rw [Broker.startDestination]
  split
  · exact h.refl b
  next d _ =>
    have hstarted := h.callAdapter env d.adapter true id b
    split
    · exact h.refl b
    · generalize Broker.callAdapter env d.adapter true id b = called at hstarted ⊢
      obtain ⟨b₁, answer⟩ := called
      cases answer with
      | error fault => exact hstarted
      | ok _ =>
        have hon := h.alike (alike_onDestination (fun d => { d with started := true })
          (fun _ => ⟨rfl, rfl, rfl, rfl⟩) b₁ id)
        exact h.trans (h.trans hstarted hon) h.log

theorem startAll (h : Steady R) (env : Environment) (ids : List DestinationId) (b : Broker) :
    R b (startAll env ids b).1 := by
  induction ids generalizing b with
  | nil => exact h.refl b
  | cons id ids ih =>
    have hstarted := h.startDestination env id b
    rw [Broker.startAll]
    generalize Broker.startDestination env id b = started at hstarted ⊢
    obtain ⟨b₁, answer⟩ := started
    cases answer with
    | error e => exact hstarted
    | ok _ => exact h.trans hstarted (ih b₁)

theorem start (h : Steady R) (env : Environment) (b : Broker) : R b (start env b).1 := by
  have hall := h.startAll env b.destinationIds b
  rw [Broker.start]
  generalize Broker.startAll env b.destinationIds b = started at hall ⊢
  obtain ⟨b₁, answer⟩ := started
  cases answer with
  | error e => exact hall
  | ok _ =>
    have htimed : R b { b₁ with sweeper := some (b₁.sweeper.getD 0) } :=
      h.trans hall (h.alike (alike_of_eq rfl rfl rfl))
    exact h.trans htimed h.log

theorem onRemote (h : Steady R) (id : DestinationId) (change : RemoteKeys → RemoteKeys)
    (b : Broker) : R b (b.onRemote id change).1 := by
  rw [Broker.onRemote]
  split
  · exact h.refl b
  · exact h.alike (alike_onDestination (fun d => { d with remote := change d.remote })
      (fun _ => ⟨rfl, rfl, rfl, rfl⟩) b id)

theorem receiveChange (h : Steady R) (peer : PeerId) (id : DestinationId) (change : KeyChange)
    (b : Broker) : R b (receiveChange peer id change b).1 :=
  h.onRemote id _ b

theorem receiveState (h : Steady R) (peer : PeerId) (id : DestinationId)
    (keys : List SubscriptionKey) (b : Broker) : R b (receiveState peer id keys b).1 :=
  h.onRemote id _ b

theorem removePeer (h : Steady R) (peer : PeerId) (b : Broker) : R b (removePeer peer b) :=
  h.alike ⟨⟨fun d => { d with remote := d.remote.removePeer peer },
    fun _ => ⟨rfl, rfl, rfl, rfl⟩, rfl⟩, fun _ => rfl, rfl⟩

theorem configureThrottle (h : Steady R) (id : DestinationId) (s : ThrottleSettings)
    (b : Broker) : R b (b.configureThrottle id s).1 := by
  rw [Broker.configureThrottle]
  split
  · exact h.refl b
  · split
    · exact h.refl b
    next limiter _ => exact h.alike (alike_limiter (fun _ => limiter) b id)

theorem resetThrottle (h : Steady R) (id : DestinationId) (b : Broker) :
    R b (b.resetThrottle id).1 := by
  rw [Broker.resetThrottle]
  split
  · exact h.refl b
  · exact h.alike (alike_limiter (fun d => d.limiter.reset) b id)

end Steady

end Broker

end MessageBroker
