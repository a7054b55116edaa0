/-
# What destinations are set up with

A destination gets its name, its settings and its two constraints when a broker is built. A
request to subscribe leaves them as they are, and so does all that handlers and other nodes call
back for on the way, however deep that nests. So whoever satisfied the constraint on subscribing
before a request satisfies it afterwards, as long as the same principal is logged in and the
authorizer gives the same answers.
-/

import MessageBroker.Proofs.Broker.Lasting
import MessageBroker.Proofs.Broker.Lookups

open Std

namespace MessageBroker

/-- What a destination is set up with. -/
structure Fixture where
  id : DestinationId
  settings : DestinationSettings
  sendConstraint : Option Constraint
  subscribeConstraint : Option Constraint

/-- What a destination is set up with. -/
def Destination.fixture (d : Destination) : Fixture :=
  ⟨d.id, d.settings, d.sendConstraint, d.subscribeConstraint⟩

namespace Broker

variable {b b' b'' : Broker} {ctx : Context} {env : Environment} {id : DestinationId}
  {d d' : Destination} {access : Access} {principal : Option Principal}

/-- The destinations are set up as before. -/
abbrev Fixed (b b' : Broker) : Prop := Lookups (fun d d' => d'.fixture = d.fixture) b b'

theorem Fixed.trans (h : Fixed b b') (h' : Fixed b' b'') : Fixed b b'' :=
  Lookups.trans (fun hd hd' => hd'.trans hd) h h'

theorem fixed_of_destinations_eq (h : b'.destinations = b.destinations) : Fixed b b' :=
  lookups_of_destinations_eq (fun _ => rfl) h

theorem Fixed.refl (b : Broker) : Fixed b b := fixed_of_destinations_eq rfl

theorem fixed_onDestination (change : Destination → Destination)
    (h : ∀ d : Destination, (change d).fixture = d.fixture) (b : Broker) (id : DestinationId) :
    Fixed b (b.onDestination id change) :=
  lookups_onDestination (R := fun d d' => d'.fixture = d.fixture) (fun _ => rfl)
    (fun d => congrArg Fixture.id (h d)) fun d _ => h d

theorem fixed_onSession (b : Broker) (c : ClientId) (change : Session → Session) :
    Fixed b (b.onSession c change) :=
  fixed_of_destinations_eq destinations_onSession

theorem fixed_foldl {σ α : Type} (broker : σ → Broker) {step : σ → α → σ}
    (hstep : ∀ w a, Fixed (broker w) (broker (step w a))) (l : List α) (w : σ) :
    Fixed (broker w) (broker (l.foldl step w)) := by
  induction l generalizing w with
  | nil => exact .refl _
  | cons a l ih => exact (hstep w a).trans (ih (step w a))

/-- Whether the constraint on an access is satisfied depends on what a destination is set up
with, and on what the authorizer answers. -/
theorem Satisfied.of_fixture {env' : Environment} (h : Satisfied env access d principal)
    (hd : d'.fixture = d.fixture) (henv : env'.authorizer = env.authorizer) :
    Satisfied env' access d' principal := by
  have hconstraint : d'.constraintOn access = d.constraintOn access := by
    cases access with
    | send => exact congrArg Fixture.sendConstraint hd
    | subscribe => exact congrArg Fixture.subscribeConstraint hd
  intro constraint hon
  rw [henv]
  exact h constraint (hconstraint ▸ hon)

/-! ## Telling handlers and other nodes -/

section Telling

variable (hctx : ctx.Within Fixed)

include hctx

theorem fixed_callHandler (n : Notice) (b : Broker) (h : Handler) :
    Fixed b (callHandler ctx n b h) := by
  have hrecord : Fixed b (b.record (.hook h.name n)) := .refl b
  rw [callHandler]
  cases h.callback n with
  | none => exact hrecord
  | some callback =>
    cases callback with
    | disconnect c => exact hrecord.trans (hctx _ _)
    | unsubscribe id =>
      exact (hrecord.trans (hctx (.unsubscribe id) _)).trans (fixed_of_destinations_eq rfl)

theorem fixed_notify (n : Notice) (b : Broker) : Fixed b (notify ctx n b) := by
  have hrecord : Fixed b (b.record (.notice n)) := .refl b
  exact hrecord.trans (fixed_foldl (fun b => b) (fixed_callHandler hctx n) _ _)

theorem fixed_tellChange (id : DestinationId) (change : KeyChange) (b : Broker) :
    Fixed b (tellChange ctx id change b) := by
  have hlog {b : Broker} {level : LogLevel} {text : String} : Fixed b (b.log level text) :=
    fixed_of_destinations_eq rfl
  rw [tellChange]
  cases ctx.env.cluster with
  | none => exact .refl b
  | some cluster =>
    have hrecord : Fixed b (b.record (.change id change)) := .refl b
    dsimp only
    cases cluster.callback id change with
    | none =>
      cases cluster.tellChange id change with
      | ok _ => exact hrecord
      | error fault => exact hrecord.trans hlog
    | some callback =>
      have hcalled := hrecord.trans (hctx callback _)
      cases cluster.tellChange id change with
      | ok _ => exact hcalled
      | error fault => exact hcalled.trans hlog

theorem fixed_tellChanges (id : DestinationId) (fuel : Nat) (b : Broker) :
    Fixed b (tellChanges ctx id fuel b) := by
  induction fuel generalizing b with
  | zero => exact .refl b
  | succ fuel ih =>
    rw [tellChanges]
    split
    · exact .refl b
    next change _ =>
      have hpopped : Fixed b
          (b.onDestination id fun d => { d with registry := d.registry.pop.1 }) :=
        fixed_onDestination (fun d => { d with registry := d.registry.pop.1 }) (fun _ => rfl) b id
      exact (hpopped.trans (fixed_tellChange hctx id change _)).trans (ih _)

theorem fixed_announce (id : DestinationId) (b : Broker) : Fixed b (announce ctx id b) := by
  have hflag (flag : Bool) (b : Broker) :
      Fixed b (b.onDestination id fun d => { d with announcing := flag }) :=
    fixed_onDestination (fun d => { d with announcing := flag }) (fun _ => rfl) b id
  rw [announce]
  split
  · exact .refl b
  · split
    · exact .refl b
    · exact ((hflag true b).trans (fixed_tellChanges hctx id _ _)).trans (hflag false _)

/-! ## Ending subscriptions and sessions -/

theorem fixed_detach (id : DestinationId) (reason : UnsubscribeReason) (b : Broker)
    (s : Subscription) : Fixed b (detach ctx id reason b s) := by
  have hstruck : Fixed b (b.strike id s) := by
    have hunlisted := fixed_onSession { b with owners := b.owners.erase s.id } s.client
      fun session => { session with subscriptions := session.subscriptions.erase s.id }
    exact hunlisted.trans (fixed_onDestination
      (fun d => { d with totals := { d.totals with subscriptions := d.totals.subscriptions.dec } })
      (fun _ => rfl) _ id)
  rw [detach_eq]
  exact (hstruck.trans (fixed_notify hctx _ _)).trans (fixed_announce hctx id _)

theorem fixed_remove (take : Registry → Registry × List Removed) (id : DestinationId)
    (reason : UnsubscribeReason) (b : Broker) :
    Fixed b (((takeOut id take b).2.map (·.subscription)).foldl (detach ctx id reason)
      (takeOut id take b).1) := by
  have htaken : Fixed b (takeOut id take b).1 := by
    rw [takeOut]
    split
    · exact .refl b
    next d _ =>
      exact fixed_onDestination (fun d' => { d' with registry := (take d.registry).1 })
        (fun _ => rfl) b id
  exact htaken.trans (fixed_foldl (fun b => b) (fixed_detach hctx id reason) _ _)

theorem fixed_unsubscribeClient (c : ClientId) (reason : UnsubscribeReason) (b : Broker) :
    Fixed b (unsubscribeClient ctx c reason b).1 := by
  apply fixed_foldl Prod.fst ?_ b.destinationIds (b, 0)
  intro w id
  exact fixed_remove hctx (·.removeClient c) id reason w.1

theorem fixed_terminate (c : ClientId) (onlyIfEmpty : Bool) (b : Broker) :
    Fixed b (terminate ctx c onlyIfEmpty b) := by
  have hdropped (b : Broker) : Fixed b (dropCounters c b) :=
    lookups_of_destination?_map (destination?_map (by exact fun _ => rfl) rfl) fun _ _ _ => rfl
  rw [terminate]
  split
  · split
    · exact .refl b
    · exact hdropped b
  · split
    · exact .refl b
    · exact (hdropped { b with
        sessions := b.sessions.erase c, sessionGauge := b.sessionGauge.dec }).trans
          (fixed_notify hctx _ _)

theorem fixed_disconnectIn (c : ClientId) (b : Broker) : Fixed b (disconnectIn ctx c b).1 :=
  (fixed_unsubscribeClient hctx c .disconnect b).trans (fixed_terminate hctx c false _)

theorem fixed_unsubscribeIn (n : SubscriptionId) (b : Broker) :
    Fixed b (unsubscribeIn ctx n b).1 := by
  rw [unsubscribeIn]
  split
  · exact .refl b
  next owner _ =>
    exact fixed_remove hctx (takeOne n) owner .client { b with owners := b.owners.erase n }

end Telling

/-- Calls back leave what destinations are set up with as it is, however deep they nest. -/
theorem fixed_reenter (env : Environment) (depth : Nat) (callback : Callback) (b : Broker) :
    Fixed b (reenter env depth callback b).1 := by
  induction depth generalizing callback b with
  | zero => exact .refl b
  | succ depth ih =>
    have hctx : Context.Within Fixed ⟨env, reenter env depth⟩ := ih
    cases callback with
    | disconnect c => exact fixed_disconnectIn hctx c b
    | unsubscribe n => exact fixed_unsubscribeIn hctx n b

theorem fixed_context (env : Environment) (b : Broker) : (b.context env).Within Fixed :=
  fixed_reenter env b.depth

/-! ## Requests -/

theorem fixed_connectIn (hctx : ctx.Within Fixed) (c : ClientId) (b : Broker) :
    Fixed b (connectIn ctx c b).1 := by
  rw [connectIn]
  split
  · exact .refl b
  · exact fixed_notify hctx (.sessionCreated c) { b with
      sessions := b.sessions.insert c (Session.begin ctx.env.now)
      sessionGauge := b.sessionGauge.inc }

theorem fixed_enter (s : Subscription) (b : Broker) : Fixed b (enter s b).1 := by
  rw [enter]
  split
  · exact .refl b
  next d _ =>
    dsimp only
    split
    · exact .refl b
    · let put := b.onDestination d.id fun d' => { d' with registry := (d.registry.insert s).1 }
      have hput : Fixed b put := fixed_onDestination
        (fun d' => { d' with registry := (d.registry.insert s).1 }) (fun _ => rfl) b d.id
      have hlisted := fixed_onSession { put with owners := put.owners.insert s.id d.id } s.client
        fun session => { session with subscriptions := session.subscriptions.insert s.id d.id }
      exact (hput.trans hlisted).trans (fixed_onDestination
        (fun d =>
          { d with totals := { d.totals with subscriptions := d.totals.subscriptions.inc } })
        (fun _ => rfl) _ d.id)

theorem fixed_introduce (hctx : ctx.Within Fixed) (s : Subscription) (b : Broker) :
    Fixed b (introduce ctx s b).1 := by
  have hdropped : Fixed b (dropOrphan ctx s b) := by
    rw [dropOrphan]
    split
    · exact .refl b
    · exact fixed_remove hctx (takeOne s.id) s.destination .disconnect b
  have hannounced := hdropped.trans (fixed_announce hctx s.destination _)
  have htold := hannounced.trans (fixed_notify hctx (.subscribed s) _)
  rw [introduce]
  dsimp only
  split
  · exact hannounced
  · split
    · exact htold
    · exact htold

theorem fixed_enterAndTell (hctx : ctx.Within Fixed) (s : Subscription) (b : Broker) :
    Fixed b (enterAndTell ctx s b).1 := by
  rw [enterAndTell]
  dsimp only
  split
  · exact fixed_enter s b
  · exact (fixed_enter s b).trans (fixed_introduce hctx _ _)

/-- A request to subscribe leaves what destinations are set up with as it is. -/
theorem fixed_subscribe (env : Environment) (r : SubscribeRequest) (b : Broker) :
    Fixed b (subscribe env r b).1 := by
  have hasked : Fixed b (checkRequest env r b).1 := by
    obtain ⟨asked, -, heq⟩ := (checkRequest_cases env r b).1
    rw [heq]
    exact fixed_of_destinations_eq rfl
  cases hcheck : (checkRequest env r b).2 with
  | error e =>
    rw [subscribe_of_error (Prod.ext rfl hcheck)]
    exact hasked
  | ok filter =>
    have hctx := fixed_context env (checkRequest env r b).1
    have hconnected := hasked.trans (fixed_connectIn hctx r.client _)
    have htouched := hconnected.trans (fixed_onSession _ r.client (·.touch env.now))
    rw [← touch] at htouched
    rw [subscribe_of_ok (Prod.ext rfl hcheck)]
    dsimp only
    generalize (connectIn _ r.client _).1.touch r.client env.now = b₁ at htouched ⊢
    have hnumbered : Fixed b { b₁ with nextSubscription := b₁.nextSubscription + 1 } := htouched
    exact hnumbered.trans (fixed_enterAndTell hctx _ _)

end Broker

end MessageBroker
