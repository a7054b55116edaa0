/-
# What a node does by itself

While a message is delivered locally, handlers are told what became of each copy, and may call
back before they return. A call back may end subscriptions, which is told to the other nodes, and
drops the counters of a client in both directions. So to say what a local delivery leaves alone,
the steps that the node takes by itself have to be told from what handlers ask it to do.

A local delivery runs as a chain of both. By itself, the node neither changes an inbound counter
nor counts a message as received, and it asks neither the other nodes nor the authorizer. If no
handler calls back, that is all there is to say.
-/

import Mathlib.Logic.Relation
import MessageBroker.Proofs.Broker.Fanout
import MessageBroker.Proofs.Broker.Lookups
import MessageBroker.Proofs.Throttle.Directions

open Std

namespace MessageBroker

/-- Whether an entry of the journal is about this node: neither the other nodes nor the authorizer
nor the adapter of a destination was asked for anything. -/
def Event.StaysHere : Event → Prop
  | .delivery .. | .evaluation _ | .notice _ | .hook .. | .hookUnsubscribed .. | .log .. => True
  | .change .. | .forward .. | .roleCheck .. | .bridge .. | .custom .. => False

/-- A destination has the same inbound counters as before, and as many messages received. -/
structure Destination.SparesInbound (d d' : Destination) : Prop where
  limiter : d.limiter.AgreeOn .inbound d'.limiter
  received : d'.totals.received = d.totals.received

namespace Destination.SparesInbound

variable {d d' d'' : Destination}

theorem refl (d : Destination) : d.SparesInbound d := ⟨.refl _ _, rfl⟩

theorem trans (h : d.SparesInbound d') (h' : d'.SparesInbound d'') : d.SparesInbound d'' :=
  ⟨h.limiter.trans h'.limiter, h'.received.trans h.received⟩

end Destination.SparesInbound

namespace Broker

variable {b b' b'' : Broker} {ctx : Context} {m : Message} {d : Destination} {n : Notice}
  {id : DestinationId} {ts : List Subtopic} {hooks : HookTable}

/-- The node has done something by itself: no inbound counter and no number of received messages
has changed, and nobody beyond this node was asked for anything. -/
structure StaysLocal (b b' : Broker) : Prop where
  destinations : Lookups Destination.SparesInbound b b'
  hooks : b'.hooks = b.hooks
  journal : ∃ entries, (∀ e ∈ entries, e.StaysHere) ∧ b'.journal = b.journal ++ entries

namespace StaysLocal

theorem of_destinations_eq (hdestinations : b'.destinations = b.destinations)
    (hhooks : b'.hooks = b.hooks) (hjournal : b'.journal = b.journal) : StaysLocal b b' :=
  ⟨lookups_of_destinations_eq .refl hdestinations, hhooks, [], List.forall_mem_nil _,
    hjournal.trans (List.append_nil _).symm⟩

theorem refl (b : Broker) : StaysLocal b b := of_destinations_eq rfl rfl rfl

theorem trans (h : StaysLocal b b') (h' : StaysLocal b' b'') : StaysLocal b b'' := by
  obtain ⟨entries, hentries, hjournal⟩ := h.journal
  obtain ⟨entries', hentries', hjournal'⟩ := h'.journal
  refine ⟨h.destinations.trans (fun hd hd' => hd.trans hd') h'.destinations,
    h'.hooks.trans h.hooks, entries ++ entries', ?_, ?_⟩
  · exact fun e he => (List.mem_append.mp he).elim (hentries e) (hentries' e)
  · rw [hjournal', hjournal, List.append_assoc]

end StaysLocal

theorem staysLocal_record {e : Event} (he : e.StaysHere) (b : Broker) :
    StaysLocal b (b.record e) :=
  ⟨lookups_of_destinations_eq .refl rfl, rfl, [e], List.forall_mem_singleton.mpr he, rfl⟩

theorem staysLocal_of_lookups (h : Journals IsLookup b b') : StaysLocal b b' := by
  obtain ⟨entries, hentries, rfl⟩ := h
  refine ⟨lookups_of_destinations_eq .refl rfl, rfl, entries, fun e he => ?_, rfl⟩
  have hlookup := hentries e he
  cases e <;> trivial

theorem staysLocal_onDestination {change : Destination → Destination}
    (hid : ∀ d, (change d).id = d.id)
    (h : ∀ d, b.destination? id = some d → d.SparesInbound (change d)) :
    StaysLocal b (b.onDestination id change) :=
  ⟨lookups_onDestination .refl hid h, rfl, [], List.forall_mem_nil _, (List.append_nil _).symm⟩

theorem staysLocal_onTotals (change : Totals → Totals)
    (h : ∀ t, (change t).received = t.received) (b : Broker) (id : DestinationId) :
    StaysLocal b (b.onTotals id change) :=
  staysLocal_onDestination (fun _ => rfl) fun d _ => ⟨.refl _ _, h d.totals⟩

theorem staysLocal_touch (b : Broker) (c : ClientId) (now : Timestamp) :
    StaysLocal b (b.touch c now) := by
  rw [touch, onSession]
  split
  · exact .refl b
  · exact .of_destinations_eq rfl rfl rfl

/-! ## Chains of steps -/

/-- One step of a local delivery: the node does something by itself, or a handler that is told
what became of a copy calls back. -/
inductive LocalStep (ctx : Context) (hooks : HookTable) (b : Broker) : Broker → Prop
  | own {b' : Broker} (h : StaysLocal b b') : LocalStep ctx hooks b b'
  | callback {n : Notice} {h : Handler} {callback : Callback} (hn : n.isReport = true)
      (hh : h ∈ hooks.round n) (hcallback : h.callback n = some callback) :
      LocalStep ctx hooks b (ctx.reenter callback b).1

/-- A chain of steps, in which the hooks stay as they are. -/
structure LocalRun (ctx : Context) (b b' : Broker) : Prop where
  steps : Relation.ReflTransGen (LocalStep ctx b.hooks) b b'
  hooks : b'.hooks = b.hooks

namespace LocalRun

theorem of_staysLocal (ctx : Context) (h : StaysLocal b b') : LocalRun ctx b b' :=
  ⟨.single (.own h), h.hooks⟩

theorem refl (ctx : Context) (b : Broker) : LocalRun ctx b b := ⟨.refl, rfl⟩

theorem trans (h : LocalRun ctx b b') (h' : LocalRun ctx b' b'') : LocalRun ctx b b'' := by
  have hsteps := h'.steps
  rw [h.hooks] at hsteps
  exact ⟨h.steps.trans hsteps, h'.hooks.trans h.hooks⟩

theorem record {e : Event} (ctx : Context) (b : Broker) (he : e.StaysHere) :
    LocalRun ctx b (b.record e) := of_staysLocal ctx (staysLocal_record he b)

theorem log (ctx : Context) (b : Broker) (level : LogLevel) (text : String) :
    LocalRun ctx b (b.log level text) := record ctx b trivial

theorem onTotals (ctx : Context) (b : Broker) (id : DestinationId) (change : Totals → Totals)
    (hchange : ∀ t, (change t).received = t.received) : LocalRun ctx b (b.onTotals id change) :=
  of_staysLocal ctx (staysLocal_onTotals change hchange b id)

/-- Where no handler calls back, a node has done everything by itself. -/
theorem staysLocal (h : LocalRun ctx b b') (hsilent : b.hooks.IsSilent) : StaysLocal b b' := by
  have hsteps := h.steps
  clear h
  induction hsteps with
  | refl => exact .refl b
  | tail _ hstep ih =>
    cases hstep with
    | own h => exact ih.trans h
    | callback _ hh hcallback => exact nomatch (hsilent _ _ hh).symm.trans hcallback

end LocalRun

/-- Whatever handlers have ended by calling back, of the inbound counters at most those of some
clients are dropped, and no message is counted as received. -/
theorem LocalRun.exists_sparesInbound (h : LocalRun ctx b b') (hctx : ctx.Aside)
    (hd : b.destination? id = some d) :
    ∃ (gone : List ClientId) (d' : Destination), b'.destination? id = some d' ∧
      Destination.SparesInbound { d with limiter := gone.foldl Limiter.removeClient d.limiter } d' := by
  have hsteps := h.steps
  clear h
  induction hsteps with
  | refl => exact ⟨[], d, hd, .refl d⟩
  | @tail b₁ b₂ _ hstep ih =>
    obtain ⟨gone, d₁, hd₁, hspared⟩ := ih
    cases hstep with
    | own h =>
      obtain ⟨d₂, hd₂, hspared'⟩ := h.destinations.exists_destination? hd₁
      exact ⟨gone, d₂, hd₂, hspared.trans hspared'⟩
    | @callback _ _ callback _ _ _ =>
      obtain ⟨d₂, hd₂, hbeside⟩ := (hctx callback b₁).exists_destination? hd₁
      obtain ⟨gone', hgone⟩ := hbeside.limiter
      -- The counters that are dropped now come on top of those that were dropped before.
      refine ⟨gone ++ gone', d₂, hd₂, ?_, ?_⟩
      · rw [List.foldl_append, hgone]
        exact hspared.limiter.foldl_removeClient gone'
      · rw [hbeside.totals]
        exact hspared.received

/-! ## Local delivery -/

theorem localRun_callHandler (hctx : ctx.Aside) (hn : n.isReport = true) {h : Handler}
    (hh : h ∈ b.hooks.round n) : LocalRun ctx b (callHandler ctx n b h) := by
  have hrecord : LocalRun ctx b (b.record (.hook h.name n)) :=
    .record ctx b (by trivial)
  rw [callHandler]
  cases hcallback : h.callback n with
  | none => exact hrecord
  | some callback =>
    have hcalled : LocalRun ctx (b.record (.hook h.name n))
        (ctx.reenter callback (b.record (.hook h.name n))).1 :=
      ⟨.single (.callback hn hh hcallback), (hctx _ _).hooks⟩
    cases callback with
    | disconnect c => exact hrecord.trans hcalled
    | unsubscribe i =>
      exact (hrecord.trans hcalled).trans (.record ctx _ (by trivial))

theorem localRun_notify (hctx : ctx.Aside) (hn : n.isReport = true) (b : Broker) :
    LocalRun ctx b (notify ctx n b) := by
  have hcalls (handlers : List Handler) (b : Broker)
      (hhandlers : ∀ h ∈ handlers, h ∈ b.hooks.round n) :
      LocalRun ctx b (handlers.foldl (callHandler ctx n) b) := by
    induction handlers generalizing b with
    | nil => exact .refl ctx b
    | cons h handlers ih =>
      have hcalled := localRun_callHandler hctx hn (hhandlers h List.mem_cons_self)
      refine hcalled.trans (ih _ fun h' hh' => ?_)
      rw [hcalled.hooks]
      exact hhandlers h' (List.mem_cons_of_mem _ hh')
  have hrecord : LocalRun ctx b (b.record (.notice n)) :=
    .record ctx b (by trivial)
  exact hrecord.trans (hcalls _ _ fun _ hh => hh)

theorem localRun_screen (hctx : ctx.Aside) (id : DestinationId) (m : Message) (w : Screening)
    (recipient : ClientId × Option Nat) :
    LocalRun ctx w.broker (screen ctx id m w recipient).broker := by
  obtain ⟨c, requested⟩ := recipient
  rw [screen]
  dsimp only
  cases hd : w.broker.destination? id with
  | none => exact .refl ctx _
  | some d =>
    have hchecked : LocalRun ctx w.broker (w.broker.onDestination id fun d' =>
        { d' with limiter := (d.limiter.check .outbound c requested ctx.env.now).1 }) := by
      refine .of_staysLocal ctx (staysLocal_onDestination (fun _ => rfl) fun d' hd' => ?_)
      obtain rfl := Option.some.inj (hd.symm.trans hd')
      have hne : Direction.inbound ≠ .outbound := by decide
      exact ⟨Limiter.agreeOn_check_of_ne hne d.limiter c requested ctx.env.now, rfl⟩
    dsimp only
    split
    · have hcounted := LocalRun.onTotals ctx w.broker id
        (fun t => { t with expired := t.expired + 1, lastExpired := ⟨ctx.env.now⟩ }) fun _ => rfl
      exact hcounted.trans (localRun_notify hctx rfl _)
    · split
      · exact hchecked
      · have hcounted := hchecked.trans (.onTotals ctx _ id
          (fun t => { t with outboundThrottled := t.outboundThrottled + 1 }) fun _ => rfl)
        exact hcounted.trans (localRun_notify hctx rfl _)

theorem localRun_settle (hctx : ctx.Aside) (id : DestinationId) (m : Message) (w : Handover)
    (c : ClientId) : LocalRun ctx w.broker (settle ctx id m w c).broker := by
  rw [settle]
  cases ctx.env.deliver c m with
  | ok _ =>
    have hcounted := LocalRun.onTotals ctx w.broker id
      (fun t => { t with delivered := t.delivered + 1 }) fun _ => rfl
    have htouched := hcounted.trans (.of_staysLocal ctx (staysLocal_touch _ c ctx.env.now))
    exact htouched.trans (localRun_notify hctx rfl _)
  | error fault =>
    have hcounted := LocalRun.onTotals ctx w.broker id
      (fun t => { t with deliveryFailures := t.deliveryFailures + 1 }) fun _ => rfl
    exact (hcounted.trans (.log ctx _ .warning _)).trans (localRun_notify hctx rfl _)

theorem localRun_foldl {σ α : Type} (broker : σ → Broker) {step : σ → α → σ}
    (hstep : ∀ w a, LocalRun ctx (broker w) (broker (step w a))) (l : List α) (w : σ) :
    LocalRun ctx (broker w) (broker (l.foldl step w)) := by
  induction l generalizing w with
  | nil => exact .refl ctx _
  | cons a l ih => exact (hstep w a).trans (ih (step w a))

/-- A message is delivered locally in a chain of steps that the node takes by itself and of calls
back by handlers that are told what became of the copies. -/
theorem localRun_deliverLocal (hctx : ctx.Aside) (d : Destination) (m : Message)
    (ts : List Subtopic) (only : Option ClientId) (b : Broker) :
    LocalRun ctx b (deliverLocal ctx d m ts only b).1 := by
  have hmatched : LocalRun ctx b (matchingSubscriptions ctx.env d ts (contentOf m) b).1 :=
    .of_staysLocal ctx
      (staysLocal_of_lookups (lookups_matchingSubscriptions ctx.env d ts (contentOf m) b))
  rw [deliverLocal_eq]
  have hscreened : LocalRun ctx b (screenAll ctx d m ts only b).broker :=
    hmatched.trans (localRun_foldl Screening.broker (localRun_screen hctx d.id m)
      (recipientsFor ctx.env d m ts only b).toList ⟨_, [], 0, 0⟩)
  generalize screenAll ctx d m ts only b = w at hscreened
  have hcopied : LocalRun ctx w.broker
      (w.targets.foldl (fun b c => b.record (.delivery c m)) w.broker) :=
    localRun_foldl (fun b => b)
      (fun b _ => .record ctx b (by trivial)) _ _
  have hsettled := localRun_foldl Handover.broker (localRun_settle hctx d.id m) w.targets
    ⟨w.targets.foldl (fun b c => b.record (.delivery c m)) w.broker, 0, 0⟩
  exact (hscreened.trans hcopied).trans hsettled

end Broker

end MessageBroker
