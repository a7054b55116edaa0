/-
# What happens on the side

Those who are told something may call back and have subscriptions and sessions ended while
a message is on its way. Whatever they have ended, no copy of a message is handed out for
it and nothing is reported about one, the settings of the destinations stay, and of the
throttle counters a destination at most forgets those of some clients.

As with the books, this is assumed of the calls back of a context and proved of the contexts
that operations run in, by induction on the depth of the nesting.

Looking for the subscriptions and the nodes that match a message does even less: it only adds
to the journal, and nothing about messages.
-/

import MessageBroker.Proofs.Broker.Runs
import MessageBroker.Proofs.Throttle.Checking

open Std

namespace MessageBroker

/-- Whether a notice reports what became of a message. -/
def Notice.isReport : Notice → Bool
  | messageDelivered .. | messageDropped .. | messageExpired .. => true
  | _ => false

/-- What is done about a message. -/
inductive Traffic where
  /-- The transport was given a copy for a client. -/
  | copy (client : ClientId) (message : Message)
  /-- The cluster was given the message. -/
  | forward (targets : Targets) (message : Message)
  /-- It was reported what became of the message. -/
  | report (notice : Notice)

/-- What an entry of the journal has to do with messages. -/
def Event.traffic? : Event → Option Traffic
  | .delivery c m => some (.copy c m)
  | .forward targets m => some (.forward targets m)
  | .notice n => if n.isReport then some (.report n) else none
  | _ => none

/-- A destination goes by the same settings as before, its limiter has at most forgotten some
clients, and nothing but subscriptions was counted. -/
structure Destination.Beside (d d' : Destination) : Prop where
  id : d'.id = d.id
  settings : d'.settings = d.settings
  limiter : ∃ gone : List ClientId, d'.limiter = gone.foldl Limiter.removeClient d.limiter
  totals : d'.totals = { d.totals with subscriptions := d'.totals.subscriptions }

namespace Destination.Beside

variable {d d' d'' : Destination}

theorem of_limiter_eq (hid : d'.id = d.id) (hsettings : d'.settings = d.settings)
    (hlimiter : d'.limiter = d.limiter)
    (htotals : d'.totals = { d.totals with subscriptions := d'.totals.subscriptions }) :
    d.Beside d' :=
  ⟨hid, hsettings, ⟨[], hlimiter⟩, htotals⟩

theorem refl (d : Destination) : d.Beside d := of_limiter_eq rfl rfl rfl rfl

theorem trans (h : d.Beside d') (h' : d'.Beside d'') : d.Beside d'' := by
  obtain ⟨gone, hgone⟩ := h.limiter
  obtain ⟨gone', hgone'⟩ := h'.limiter
  refine ⟨h'.id.trans h.id, h'.settings.trans h.settings, ⟨gone ++ gone', ?_⟩, ?_⟩
  · rw [List.foldl_append, ← hgone, hgone']
  · rw [h'.totals, h.totals]

end Destination.Beside

namespace Broker

/-- What was done about messages, oldest first. -/
def traffic (b : Broker) : List Traffic := b.journal.filterMap Event.traffic?

/-- Nothing was done about messages, the hooks are the same, and every destination is as it
was as far as it matters to messages. -/
structure Aside (b b' : Broker) : Prop where
  destinations : ∃ f : Destination → Destination, (∀ d : Destination, d.Beside (f d)) ∧
    b'.destinations = b.destinations.map f
  hooks : b'.hooks = b.hooks
  traffic : b'.traffic = b.traffic

variable {b b' b'' : Broker} {id : DestinationId} {d : Destination}

theorem traffic_record (b : Broker) (e : Event) :
    (b.record e).traffic = b.traffic ++ (e.traffic?).toList := by
  rw [Broker.traffic, record, List.filterMap_append]
  cases h : e.traffic? with
  | none => rw [List.filterMap_cons_none h]; rfl
  | some t => rw [List.filterMap_cons_some h]; rfl

theorem aside_of_eq (hdestinations : b'.destinations = b.destinations)
    (hhooks : b'.hooks = b.hooks) (htraffic : b'.traffic = b.traffic) : Aside b b' :=
  ⟨⟨_, .refl, hdestinations.trans (List.map_id' _).symm⟩, hhooks, htraffic⟩

theorem Aside.refl (b : Broker) : Aside b b := aside_of_eq rfl rfl rfl

theorem Aside.trans (h : Aside b b') (h' : Aside b' b'') : Aside b b'' := by
  obtain ⟨f, hf, hdestinations⟩ := h.destinations
  obtain ⟨g, hg, hdestinations'⟩ := h'.destinations
  refine ⟨⟨g ∘ f, fun d => (hf d).trans (hg (f d)), ?_⟩, h'.hooks.trans h.hooks,
    h'.traffic.trans h.traffic⟩
  rw [hdestinations', hdestinations, List.map_map]

theorem aside_record {e : Event} (he : e.traffic? = none) (b : Broker) : Aside b (b.record e) := by
  refine aside_of_eq rfl rfl ?_
  rw [traffic_record, he]
  exact List.append_nil _

theorem aside_onDestination (change : Destination → Destination)
    (h : ∀ d : Destination, d.Beside (change d)) (b : Broker) (id : DestinationId) :
    Aside b (b.onDestination id change) := by
  refine ⟨⟨_, fun d => ?_, rfl⟩, rfl, rfl⟩
  split
  · exact h d
  · exact .refl d

theorem aside_onSession (change : Session → Session) (b : Broker) (c : ClientId) :
    Aside b (b.onSession c change) := by
  rw [onSession]
  split
  · exact .refl b
  · exact aside_of_eq rfl rfl rfl

/-- A destination is still there after something happened on the side. -/
theorem Aside.exists_destination? (h : Aside b b') (hd : b.destination? id = some d) :
    ∃ d', b'.destination? id = some d' ∧ d.Beside d' := by
  obtain ⟨f, hf, hdestinations⟩ := h.destinations
  have hname : (fun d : Destination => d.id == id) ∘ f = fun d => d.id == id := by
    funext d
    rw [Function.comp_apply, (hf d).id]
  refine ⟨f d, ?_, hf d⟩
  rw [destination?, hdestinations, List.find?_map, hname]
  exact congrArg (Option.map f) hd

theorem aside_foldl {σ α : Type} (broker : σ → Broker) {step : σ → α → σ}
    (hstep : ∀ w a, Aside (broker w) (broker (step w a))) (l : List α) (w : σ) :
    Aside (broker w) (broker (l.foldl step w)) := by
  induction l generalizing w with
  | nil => exact .refl _
  | cons a l ih => exact (hstep w a).trans (ih (step w a))

end Broker

/-- What is called back for in a context happens on the side. -/
def Context.Aside (ctx : Context) : Prop :=
  ∀ callback b, Broker.Aside b (ctx.reenter callback b).1

namespace Broker

variable {b b' b'' : Broker} {ctx : Context} {id : DestinationId} {c : ClientId}

/-! ## Telling handlers and other nodes -/

theorem aside_callHandler (hctx : ctx.Aside) (n : Notice) (b : Broker) (h : Handler) :
    Aside b (callHandler ctx n b h) := by
  have hrecord : Aside b (b.record (.hook h.name n)) := aside_record rfl b
  rw [callHandler]
  cases h.callback n with
  | none => exact hrecord
  | some callback =>
    cases callback with
    | disconnect c => exact hrecord.trans (hctx _ _)
    | unsubscribe id =>
      exact (hrecord.trans (hctx (.unsubscribe id) _)).trans (aside_record rfl _)

/-- Apart from what it reports, telling handlers of a notice happens on the side. -/
theorem aside_notify_of_record (hctx : ctx.Aside) (n : Notice) (b : Broker) :
    Aside (b.record (.notice n)) (notify ctx n b) :=
  aside_foldl (fun b => b) (aside_callHandler hctx n) _ _

theorem aside_notify (hctx : ctx.Aside) {n : Notice} (hn : n.isReport = false) (b : Broker) :
    Aside b (notify ctx n b) := by
  refine (aside_record ?_ b).trans (aside_notify_of_record hctx n b)
  show (if n.isReport then _ else _) = _
  rw [hn]
  rfl

theorem aside_tellChange (hctx : ctx.Aside) (id : DestinationId) (change : KeyChange)
    (b : Broker) : Aside b (tellChange ctx id change b) := by
  rw [tellChange]
  cases ctx.env.cluster with
  | none => exact .refl b
  | some cluster =>
    have hrecord : Aside b (b.record (.change id change)) := aside_record rfl b
    dsimp only
    cases cluster.callback id change with
    | none =>
      cases cluster.tellChange id change with
      | ok _ => exact hrecord
      | error fault => exact hrecord.trans (aside_record rfl _)
    | some callback =>
      have hcalled := hrecord.trans (hctx callback _)
      cases cluster.tellChange id change with
      | ok _ => exact hcalled
      | error fault => exact hcalled.trans (aside_record rfl _)

theorem aside_tellChanges (hctx : ctx.Aside) (id : DestinationId) (fuel : Nat) (b : Broker) :
    Aside b (tellChanges ctx id fuel b) := by
  induction fuel generalizing b with
  | zero => exact .refl b
  | succ fuel ih =>
    rw [tellChanges]
    split
    · exact .refl b
    next change _ =>
      have hpop := aside_onDestination (fun d => { d with registry := d.registry.pop.1 })
        (fun d => .of_limiter_eq rfl rfl rfl rfl) b id
      exact (hpop.trans (aside_tellChange hctx id change _)).trans (ih _)

theorem aside_announce (hctx : ctx.Aside) (id : DestinationId) (b : Broker) :
    Aside b (announce ctx id b) := by
  have hflag (flag : Bool) (b : Broker) :
      Aside b (b.onDestination id fun d => { d with announcing := flag }) :=
    aside_onDestination (fun d => { d with announcing := flag })
      (fun d => .of_limiter_eq rfl rfl rfl rfl) b id
  rw [announce]
  split
  · exact .refl b
  · split
    · exact .refl b
    · exact ((hflag true b).trans (aside_tellChanges hctx id _ _)).trans (hflag false _)

/-! ## Ending subscriptions and sessions -/

theorem aside_strike (id : DestinationId) (s : Subscription) (b : Broker) :
    Aside b (b.strike id s) := by
  let b₁ : Broker := { b with owners := b.owners.erase s.id }
  have h₁ : Aside b b₁ := aside_of_eq rfl rfl rfl
  have h₂ := h₁.trans (aside_onSession (fun session =>
    { session with subscriptions := session.subscriptions.erase s.id }) b₁ s.client)
  have h₃ := h₂.trans (aside_onDestination (fun d =>
    { d with totals := { d.totals with subscriptions := d.totals.subscriptions.dec } })
    (fun d => .of_limiter_eq rfl rfl rfl rfl) _ id)
  exact h₃.trans (aside_of_eq rfl rfl rfl)

theorem aside_detach (hctx : ctx.Aside) (id : DestinationId) (reason : UnsubscribeReason)
    (b : Broker) (s : Subscription) : Aside b (detach ctx id reason b s) := by
  rw [detach_eq]
  exact ((aside_strike id s b).trans (aside_notify hctx rfl _)).trans (aside_announce hctx id _)

theorem aside_takeOut (id : DestinationId) (take : Registry → Registry × List Removed)
    (b : Broker) : Aside b (takeOut id take b).1 := by
  rw [takeOut]
  split
  · exact .refl b
  next d _ =>
    exact aside_onDestination (fun d' => { d' with registry := (take d.registry).1 })
      (fun d' => .of_limiter_eq rfl rfl rfl rfl) b id

theorem aside_unsubscribeAt (hctx : ctx.Aside) (c : ClientId) (reason : UnsubscribeReason)
    (id : DestinationId) (b : Broker) : Aside b (unsubscribeAt ctx c reason id b).1 :=
  (aside_takeOut id (·.removeClient c) b).trans
    (aside_foldl (fun b => b) (aside_detach hctx id reason) _ _)

theorem aside_unsubscribeClient (hctx : ctx.Aside) (c : ClientId) (reason : UnsubscribeReason)
    (b : Broker) : Aside b (unsubscribeClient ctx c reason b).1 := by
  refine aside_foldl Prod.fst ?_ b.destinationIds (b, 0)
  intro w id
  exact aside_unsubscribeAt hctx c reason id w.1

theorem aside_dropCounters (c : ClientId) (b : Broker) : Aside b (dropCounters c b) :=
  ⟨⟨fun d => { d with limiter := d.limiter.removeClient c }, fun _ => ⟨rfl, rfl, ⟨[c], rfl⟩, rfl⟩, rfl⟩,
    rfl, rfl⟩

theorem aside_terminate (hctx : ctx.Aside) (c : ClientId) (onlyIfEmpty : Bool) (b : Broker) :
    Aside b (terminate ctx c onlyIfEmpty b) := by
  rw [terminate]
  split
  · split
    · exact .refl b
    · exact aside_dropCounters c b
  · split
    · exact .refl b
    · let b₁ : Broker :=
        { b with sessions := b.sessions.erase c, sessionGauge := b.sessionGauge.dec }
      have hended : Aside b b₁ := aside_of_eq rfl rfl rfl
      exact (hended.trans (aside_dropCounters c b₁)).trans (aside_notify hctx rfl _)

theorem aside_disconnectIn (hctx : ctx.Aside) (c : ClientId) (b : Broker) :
    Aside b (disconnectIn ctx c b).1 :=
  (aside_unsubscribeClient hctx c .disconnect b).trans (aside_terminate hctx c false _)

theorem aside_unsubscribeIn (hctx : ctx.Aside) (i : SubscriptionId) (b : Broker) :
    Aside b (unsubscribeIn ctx i b).1 := by
  cases howner : b.owners[i]? with
  | none =>
    rw [unsubscribeIn]
    rw [howner]
    exact .refl b
  | some owner =>
    rw [unsubscribeIn_of_some howner]
    have htaken : Aside b { (takeOut owner (takeOne i) b).1 with owners := b.owners.erase i } :=
      (aside_takeOut owner (takeOne i) b).trans (aside_of_eq rfl rfl rfl)
    exact htaken.trans (aside_foldl (fun b => b) (aside_detach hctx owner .client) _ _)

/-- Calls back happen on the side, however deep they nest. -/
theorem aside_reenter (env : Environment) (depth : Nat) (callback : Callback) (b : Broker) :
    Aside b (reenter env depth callback b).1 := by
  induction depth generalizing callback b with
  | zero => exact .refl b
  | succ depth ih =>
    have hctx : Context.Aside ⟨env, reenter env depth⟩ := ih
    cases callback with
    | disconnect c => exact aside_disconnectIn hctx c b
    | unsubscribe i => exact aside_unsubscribeIn hctx i b

theorem aside_context (env : Environment) (b : Broker) : (b.context env).Aside :=
  aside_reenter env b.depth

/-! ## Entries of the journal -/

/-- At most the journal has grown, by entries that are not about messages. -/
def OnlyNoted (b b' : Broker) : Prop := Journals (fun e => e.traffic? = none) b b'

theorem OnlyNoted.traffic (h : OnlyNoted b b') : b'.traffic = b.traffic := by
  obtain ⟨entries, hentries, rfl⟩ := h
  rw [Broker.traffic, List.filterMap_append, List.filterMap_eq_nil_iff.mpr hentries]
  exact List.append_nil _

theorem onlyNoted_record {e : Event} (he : e.traffic? = none) (b : Broker) :
    OnlyNoted b (b.record e) :=
  journals_record he b

theorem onlyNoted_of_lookups (h : Journals IsLookup b b') : OnlyNoted b b' :=
  h.mono fun e he => by cases e <;> first | rfl | exact he.elim

end Broker

end MessageBroker
