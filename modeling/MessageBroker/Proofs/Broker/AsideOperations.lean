/-
# Operations that pass no message on

Most of what a broker is asked to do is not about messages: clients come and go, subscribe and
unsubscribe, destinations start and stop, idle subscriptions are swept, other nodes tell of
their keys. All of this happens on the side, as calls back do. It leaves every number about
messages as it was, forgets some clients in the limiters at most, and changes neither settings
nor hooks.
-/

import MessageBroker.Proofs.Broker.Asides
import MessageBroker.Proofs.Broker.Requests

open Std

namespace MessageBroker

namespace Broker

variable {b b' : Broker} {ctx : Context} {id : DestinationId} {c : ClientId}

theorem aside_log (level : LogLevel) (text : String) (b : Broker) : Aside b (b.log level text) :=
  aside_record rfl b

theorem aside_of_onlyNoted (h : OnlyNoted b b') : Aside b b' := by
  have htraffic := h.traffic
  obtain ⟨entries, -, rfl⟩ := h
  exact aside_of_eq rfl rfl htraffic

theorem aside_of_onlyAsked (h : OnlyAsked b b') : Aside b b' :=
  aside_of_onlyNoted (Journals.mono h fun _ ⟨_, _, he⟩ => he ▸ rfl)

/-! ## Sweeping -/

theorem aside_sweepOne (hctx : ctx.Aside) (id : DestinationId) (timeout : Int) (now : Timestamp)
    (w : Sweeping) (s : Subscription) :
    Aside w.broker (sweepOne ctx id timeout now w s).broker := by
  have htaken := aside_takeOut id (takeOne s.id) w.broker
  rw [sweepOne]
  split
  · exact .refl _
  · split
    · exact .refl _
    next b removed _ heq =>
      have hsame : takeOut id (takeOne s.id) w.broker = (b, removed) := heq
      rw [hsame] at htaken
      exact htaken.trans (aside_foldl (fun b => b) (aside_detach hctx id .idleTimeout) _ b)

theorem aside_sweepDestination (hctx : ctx.Aside) (now : Timestamp) (w : Sweeping)
    (id : DestinationId) : Aside w.broker (sweepDestination ctx now w id).broker := by
  rw [sweepDestination]
  split
  · exact .refl _
  · split
    · exact .refl _
    · exact aside_foldl Sweeping.broker (aside_sweepOne hctx id _ now) _ w

theorem aside_sweepAt (env : Environment) (now : Timestamp) (b : Broker) :
    Aside b (sweepAt env now b).1 := by
  have hctx := aside_context env b
  have hswept := aside_foldl Sweeping.broker (aside_sweepDestination hctx now) b.destinationIds
    ⟨b, 0, ∅⟩
  have hended := hswept.trans (aside_foldl (fun b => b)
    (fun b c => aside_terminate hctx c true b)
    (b.destinationIds.foldl (sweepDestination (b.context env) now) ⟨b, 0, ∅⟩).clients.toList _)
  rw [sweepAt]
  split
  · exact hended.trans (aside_log _ _ _)
  · exact hended

theorem aside_tick (env : Environment) (ms : Nat) (b : Broker) : Aside b (tick env ms b) := by
  rw [tick]
  split
  · exact .refl b
  · split
    · exact (aside_sweepAt env env.now b).trans (aside_of_eq rfl rfl rfl)
    · exact aside_of_eq rfl rfl rfl

/-! ## Starting and stopping -/

theorem aside_callAdapter (env : Environment) (adapter : Adapter) (isStart : Bool)
    (id : DestinationId) (b : Broker) : Aside b (callAdapter env adapter isStart id b).1 := by
  cases adapter with
  | plain => exact .refl b
  | bridge name => exact aside_record rfl b
  | custom name => exact aside_record rfl b

theorem aside_startDestination (env : Environment) (id : DestinationId) (b : Broker) :
    Aside b (startDestination env id b).1 := by
  rw [startDestination]
  split
  · exact .refl b
  next d _ =>
    have hcalled := aside_callAdapter env d.adapter true id b
    split
    · exact .refl b
    · generalize callAdapter env d.adapter true id b = called at hcalled ⊢
      obtain ⟨b₁, answer⟩ := called
      cases answer with
      | error fault => exact hcalled
      | ok _ =>
        have hon := aside_onDestination (fun d => { d with started := true })
          (fun _ => .of_limiter_eq rfl rfl rfl rfl) b₁ id
        exact (hcalled.trans hon).trans (aside_log _ _ _)

theorem aside_startAll (env : Environment) (ids : List DestinationId) (b : Broker) :
    Aside b (startAll env ids b).1 := by
  induction ids generalizing b with
  | nil => exact .refl b
  | cons id ids ih =>
    have hstarted := aside_startDestination env id b
    rw [startAll]
    generalize startDestination env id b = started at hstarted ⊢
    obtain ⟨b₁, answer⟩ := started
    cases answer with
    | error e => exact hstarted
    | ok _ => exact hstarted.trans (ih b₁)

theorem aside_start (env : Environment) (b : Broker) : Aside b (start env b).1 := by
  have hall := aside_startAll env b.destinationIds b
  rw [start]
  generalize startAll env b.destinationIds b = started at hall ⊢
  obtain ⟨b₁, answer⟩ := started
  cases answer with
  | error e => exact hall
  | ok _ =>
    have htimed : Aside b { b₁ with sweeper := some (b₁.sweeper.getD 0) } :=
      hall.trans (aside_of_eq rfl rfl rfl)
    exact htimed.trans (aside_log _ _ _)

theorem aside_stopDestination (env : Environment) (id : DestinationId) (b : Broker) :
    Aside b (stopDestination env id b).1 := by
  rw [stopDestination]
  split
  · exact .refl b
  next d _ =>
    split
    · exact .refl b
    · have hcleared := aside_onDestination
        (fun d' => { d' with started := false, registry := d.registry.clear.1 })
        (fun _ => .of_limiter_eq rfl rfl rfl rfl) b id
      have hstopped := hcleared.trans (aside_callAdapter env d.adapter false id _)
      dsimp only
      generalize callAdapter env d.adapter false id _ = called at hstopped ⊢
      split
      · exact hstopped.trans (aside_log _ _ _)
      · exact (hstopped.trans (aside_log _ _ _)).trans (aside_log _ _ _)

theorem aside_stopNamed (env : Environment) (id : DestinationId) (b : Broker) :
    Aside b (stopNamed env id b).1 := by
  rw [stopNamed]
  split
  · exact .refl b
  · exact aside_stopDestination env id b

theorem aside_stopAndDetach (hctx : ctx.Aside) (b : Broker) (id : DestinationId) :
    Aside b (stopAndDetach ctx b id) :=
  (aside_stopDestination ctx.env id b).trans
    (aside_foldl (fun b => b) (aside_detach hctx id .destinationStopped) _ _)

theorem aside_stop (env : Environment) (b : Broker) : Aside b (stop env b) := by
  have hidle : Aside b { b with sweeper := none } := aside_of_eq rfl rfl rfl
  have hall := hidle.trans (aside_foldl (fun b => b) (aside_stopAndDetach (aside_context env b))
    b.destinationIds { b with sweeper := none })
  exact hall.trans (aside_log _ _ _)

/-! ## Other nodes -/

theorem aside_onRemote (id : DestinationId) (change : RemoteKeys → RemoteKeys) (b : Broker) :
    Aside b (b.onRemote id change).1 := by
  rw [onRemote]
  split
  · exact .refl b
  · exact aside_onDestination (fun d => { d with remote := change d.remote })
      (fun _ => .of_limiter_eq rfl rfl rfl rfl) b id

theorem aside_receiveChange (peer : PeerId) (id : DestinationId) (change : KeyChange)
    (b : Broker) : Aside b (receiveChange peer id change b).1 :=
  aside_onRemote id _ b

theorem aside_receiveState (peer : PeerId) (id : DestinationId) (keys : List SubscriptionKey)
    (b : Broker) : Aside b (receiveState peer id keys b).1 :=
  aside_onRemote id _ b

theorem aside_removePeer (peer : PeerId) (b : Broker) : Aside b (removePeer peer b) :=
  ⟨⟨fun d => { d with remote := d.remote.removePeer peer },
    fun _ => .of_limiter_eq rfl rfl rfl rfl, rfl⟩, rfl, rfl⟩

/-! ## Sessions and requests to subscribe -/

theorem aside_connectIn (hctx : ctx.Aside) (c : ClientId) (b : Broker) :
    Aside b (connectIn ctx c b).1 := by
  rw [connectIn]
  split
  · exact .refl b
  · have hbegun : Aside b
        { b with
          sessions := b.sessions.insert c (Session.begin ctx.env.now)
          sessionGauge := b.sessionGauge.inc } := aside_of_eq rfl rfl rfl
    exact hbegun.trans (aside_notify hctx rfl _)

theorem aside_login (env : Environment) (c : ClientId) (p : Principal) (b : Broker) :
    Aside b (login env c p b).1 := by
  have hconnected := aside_connectIn (aside_context env b) c b
  have hlogged := hconnected.trans
    (aside_onSession (fun s => { s with principal := some p }.touch env.now) _ c)
  rw [login]
  dsimp only
  split
  · exact hconnected
  · split
    · split
      · exact hconnected
      · exact hlogged
    · exact hlogged

theorem aside_enter (s : Subscription) (b : Broker) : Aside b (enter s b).1 := by
  rw [enter]
  split
  · exact .refl b
  next d _ =>
    dsimp only
    split
    · exact .refl b
    · let entered : Broker := b.onDestination d.id fun d' =>
        { d' with registry := (d.registry.insert s).1 }
      let owned : Broker := { entered with owners := entered.owners.insert s.id d.id }
      have hentered : Aside b owned := (aside_onDestination
        (fun d' => { d' with registry := (d.registry.insert s).1 })
        (fun _ => .of_limiter_eq rfl rfl rfl rfl) b d.id).trans (aside_of_eq rfl rfl rfl)
      have hlisted := hentered.trans (aside_onSession (fun session =>
        { session with subscriptions := session.subscriptions.insert s.id d.id }) owned s.client)
      have hcounted := hlisted.trans (aside_onDestination (fun d =>
        { d with totals := { d.totals with subscriptions := d.totals.subscriptions.inc } })
        (fun _ => .of_limiter_eq rfl rfl rfl rfl) _ d.id)
      exact hcounted.trans (aside_of_eq rfl rfl rfl)

theorem aside_dropOrphan (hctx : ctx.Aside) (s : Subscription) (b : Broker) :
    Aside b (dropOrphan ctx s b) := by
  rw [dropOrphan]
  split
  · exact .refl b
  · exact (aside_takeOut s.destination (takeOne s.id) b).trans
      (aside_foldl (fun b => b) (aside_detach hctx s.destination .disconnect) _ _)

theorem aside_introduce (hctx : ctx.Aside) (s : Subscription) (b : Broker) :
    Aside b (introduce ctx s b).1 := by
  have hannounced := (aside_dropOrphan hctx s b).trans (aside_announce hctx s.destination _)
  have htold := hannounced.trans (aside_notify (n := .subscribed s) hctx rfl _)
  rw [introduce]
  dsimp only
  split
  · exact hannounced
  · split
    · exact htold
    · exact htold

theorem aside_subscribe (env : Environment) (r : SubscribeRequest) (b : Broker) :
    Aside b (subscribe env r b).1 := by
  have hasked := aside_of_onlyAsked (checkRequest_cases env r b).1
  cases hcheck : (checkRequest env r b).2 with
  | error e =>
    rw [subscribe_of_error (Prod.ext rfl hcheck)]
    exact hasked
  | ok filter =>
    rw [subscribe_of_ok (Prod.ext rfl hcheck)]
    have hctx := aside_context env (checkRequest env r b).1
    have hconnected := hasked.trans (aside_connectIn hctx r.client _)
    generalize (checkRequest env r b).1.context env = ctx at hctx hconnected ⊢
    have htouched := hconnected.trans (aside_onSession (·.touch env.now) _ r.client)
    rw [touch]
    generalize (connectIn ctx r.client _).1.onSession r.client (·.touch env.now) = b₁
      at htouched ⊢
    have hnumbered : Aside b { b₁ with nextSubscription := b₁.nextSubscription + 1 } :=
      htouched.trans (aside_of_eq rfl rfl rfl)
    have hentered := hnumbered.trans
      (aside_enter (requested env r filter b₁.nextSubscription) _)
    dsimp only
    rw [enterAndTell]
    dsimp only
    split
    · exact hentered
    · exact hentered.trans (aside_introduce hctx _ _)

theorem aside_findMatching (env : Environment) (id : DestinationId) (subtopics : List String)
    (content : Content) (b : Broker) : Aside b (findMatching env id subtopics content b).1 := by
  rw [findMatching]
  split
  · exact .refl b
  · exact aside_of_onlyNoted
      (onlyNoted_of_lookups (lookups_matchingSubscriptions env _ _ content b))

end Broker

/-- Whether an operation is neither about a message nor a change of throttles or hooks. -/
def Operation.IsAside : Operation → Prop
  | .route _ | .routeFromPeer _ | .routeFromAdapter .. => False
  | .configureThrottle .. | .resetThrottle _ | .addHook .. | .removeHook .. => False
  | _ => True

namespace Broker

/-- What is not about messages happens on the side, whatever handlers have ended. -/
theorem aside_perform {op : Operation} (hop : op.IsAside) (env : Environment) (b : Broker) :
    Aside b (perform env b op).1 := by
  cases op with
  | start => exact aside_start env b
  | stop => exact aside_stop env b
  | startDestination d => exact aside_startDestination env d b
  | stopDestination d => exact aside_stopNamed env d b
  | connect c => exact aside_connectIn (aside_context env b) c b
  | disconnect c => exact aside_disconnectIn (aside_context env b) c b
  | touch c time => exact aside_onSession _ b c
  | login c p => exact aside_login env c p b
  | logout c => exact aside_onSession _ b c
  | subscribe r => exact aside_subscribe env r b
  | unsubscribe n => exact aside_unsubscribeIn (aside_context env b) n b
  | unsubscribeAll c =>
    exact (aside_unsubscribeClient (aside_context env b) c .client b).trans
      (aside_terminate (aside_context env b) c true _)
  | find d subtopics content => exact aside_findMatching env d subtopics content b
  | receiveChange peer d change => exact aside_receiveChange peer d change b
  | receiveState peer d keys => exact aside_receiveState peer d keys b
  | removePeer peer => exact aside_removePeer peer b
  | sweep time => exact aside_sweepAt env time b
  | tick ms => exact aside_tick env ms b
  | route _ | routeFromPeer _ | routeFromAdapter _ _ => exact hop.elim
  | configureThrottle _ _ | resetThrottle _ => exact hop.elim
  | addHook _ _ _ | removeHook _ _ => exact hop.elim

end Broker

end MessageBroker
