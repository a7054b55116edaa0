/-
# What is stopped stays stopped

A destination that is not started refuses messages, whichever way they come, and requests to
subscribe, and nothing is done about them. It is so until the destination is started, or all of
them are, whatever happens otherwise. Calls back end subscriptions and sessions, and start nothing.

A node that stops stops all its destinations. Stopping it again finds nothing to stop.
-/

import MessageBroker.Proofs.Broker.Entries
import MessageBroker.Proofs.Broker.Farewells
import MessageBroker.Proofs.Broker.Leftovers

open Std

namespace MessageBroker

/-- Whether an operation may start a destination. -/
def Operation.Starts (id : DestinationId) : Operation → Prop
  | .start => True
  | .startDestination started => started = id
  | _ => False

namespace Broker

variable {env : Environment} {b b' : Broker} {ctx : Context} {id : DestinationId}
  {d : Destination} {s : Subscription} {r : SubscribeRequest} {strays : Strays}

/-- Whether there is a destination of a name, and it is not started. -/
def Idle (id : DestinationId) (b : Broker) : Prop :=
  (b.destination? id).map (·.started) = some false

theorem Idle.exists_destination? (h : b.Idle id) :
    ∃ d, b.destination? id = some d ∧ d.started = false :=
  Option.map_eq_some_iff.mp h

theorem idle_of_destination? (hd : b.destination? id = some d) (hstarted : d.started = false) :
    b.Idle id := by
  rw [Idle, hd, Option.map_some, hstarted]

/-! ## Refusals -/

theorem Idle.requireStarted (h : b.Idle id) : b.requireStarted id = .error (.notStarted id) := by
  obtain ⟨d, hd, hstarted⟩ := h.exists_destination?
  rw [requireStarted_of_some hd, hstarted, if_neg Bool.false_ne_true]

/-- A destination that is not started refuses a message, whichever way it came. -/
theorem Idle.route {m : Message} (h : b.Idle m.destination) (env : Environment) (entry : Entry) :
    entry.route env m b = (b, .error (.notStarted m.destination)) := by
  have hlocate : locate m b = .error (.notStarted m.destination) := by
    rw [locate, h.requireStarted]
    rfl
  cases entry with
  | client =>
    have hgate : passGate env m b = (b, .error (.notStarted m.destination)) := by
      rw [passGate, h.requireStarted]
    rw [Entry.route, routeMessage, hgate]
  | peer => rw [Entry.route, routeFromPeer, hlocate]
  | adapter toAll => rw [Entry.route, routeFromAdapter, hlocate]

/-- A destination that is not started refuses to have anyone subscribe. -/
theorem Idle.subscribe (h : b.Idle r.destination) (env : Environment) :
    subscribe env r b = (b, .error (.notStarted r.destination)) := by
  apply subscribe_of_error
  rw [checkRequest, h.requireStarted]

/-- A destination refuses messages and requests to subscribe for one reason, and nothing is done
about them. -/
structure TurnsAway (id : DestinationId) (e : BrokerError) (b : Broker) : Prop where
  route : ∀ env (entry : Entry) (m : Message), m.destination = id →
    entry.route env m b = (b, .error e)
  subscribe : ∀ env (r : SubscribeRequest), r.destination = id →
    subscribe env r b = (b, .error e)

theorem Idle.turnsAway (h : b.Idle id) : b.TurnsAway id (.notStarted id) where
  route env entry m hm := by
    subst hm
    exact h.route env entry
  subscribe env r hr := by
    subst hr
    exact h.subscribe env

/-! ## Until it is started -/

theorem Idle.balances {before after : List Subscription} (h : b.Idle id)
    (hbalances : Balances before after b b') : b'.Idle id := by
  obtain ⟨d, hd, hstarted⟩ := h.exists_destination?
  obtain ⟨d', hd', hundisturbed⟩ := hbalances.destinations.exists_destination? hd
  exact idle_of_destination? hd' (hundisturbed.idle hstarted)

theorem Idle.of_frames (h : b.Idle id)
    (hframes : b'.books.shelves.map Shelf.frame = b.books.shelves.map Shelf.frame) :
    b'.Idle id := by
  -- The frame of a shelf is looked up as the destination is.
  have hfound (b : Broker) : (b.destination? id).map (·.started) =
      ((b.books.shelves.map Shelf.frame).find? fun frame => frame.1 == id).map (·.2.2) := by
    rw [books, List.map_map, List.find?_map, Option.map_map]
    rfl
  rw [Idle, hfound] at h ⊢
  rw [hframes]
  exact h

theorem Idle.keeps (h : b.Idle id) (hb : b.books.Accounted strays) (hkeeps : Keeps b b') :
    b'.Idle id :=
  h.of_frames (hkeeps strays hb).2.frames

theorem Idle.books_eq (h : b.Idle id) (hbooks : b'.books = b.books) : b'.Idle id :=
  h.of_frames (by rw [hbooks])

theorem Idle.enter (h : b.Idle id) (s : Subscription) : (enter s b).1.Idle id := by
  cases hd : b.destination? s.destination with
  | none =>
    rw [Broker.enter]
    rw [hd]
    exact h
  | some d =>
    cases hfind : (d.registry.ofClient s.client).find? s.sameFilter with
    | some old =>
      rw [enter_of_existing hd hfind]
      exact h
    | none =>
      apply h.of_frames
      rw [(enter_of_new hd hfind).2]
      exact Books.map_onShelf _ fun _ => rfl

theorem Idle.dropOrphan (h : b.Idle id) (hctx : ctx.Balances) (s : Subscription) :
    (dropOrphan ctx s b).Idle id := by
  cases hlive : b.sessions.contains s.client with
  | true =>
    rw [dropOrphan_of_contains hlive]
    exact h
  | false =>
    rw [dropOrphan_of_not_contains hlive]
    exact h.balances
      (balances_takeOut_detach hctx (thins_takeOne s.id) s.destination .disconnect b)

theorem Idle.introduce (h : b.Idle id) (hctx : ctx.Balances) (s : Subscription) :
    (introduce ctx s b).1.Idle id := by
  have hannounced := (h.dropOrphan hctx s).balances (balances_announce hctx s.destination _)
  have htold := hannounced.balances (balances_notify hctx (n := .subscribed s) (fun _ => rfl) _)
  rw [Broker.introduce]
  dsimp only
  split
  · exact hannounced
  · split
    · exact htold
    · exact htold

theorem Idle.subscribed (h : b.Idle id) (hb : b.books.Accounted strays) (env : Environment)
    (r : SubscribeRequest) : (Broker.subscribe env r b).1.Idle id := by
  have hbooks := (checkRequest_spec env r b).1
  have hasked : (checkRequest env r b).1.Idle id := h.books_eq hbooks
  cases hcheck : (checkRequest env r b).2 with
  | error e =>
    rw [subscribe_of_error (Prod.ext rfl hcheck)]
    exact hasked
  | ok filter =>
    rw [subscribe_of_ok (Prod.ext rfl hcheck)]
    have hconnected := hasked.keeps (hbooks.symm ▸ hb)
      (keeps_connectIn (keeps_context env (checkRequest env r b).1) r.client _)
    have hctx := balances_context env (checkRequest env r b).1
    generalize (checkRequest env r b).1.context env = ctx at hctx hconnected ⊢
    have htouched := hconnected.books_eq (books_touch r.client env.now _)
    generalize (connectIn ctx r.client _).1.touch r.client env.now = b₁ at htouched ⊢
    have hnumbered : Idle id { b₁ with nextSubscription := b₁.nextSubscription + 1 } := htouched
    have hentered := hnumbered.enter (requested env r filter b₁.nextSubscription)
    dsimp only
    rw [enterAndTell]
    dsimp only
    split
    · exact hentered
    · exact hentered.introduce hctx _

theorem Idle.startDestination {started : DestinationId} (h : b.Idle id) (env : Environment)
    (hne : started ≠ id) : (startDestination env started b).1.Idle id := by
  have hcalled (adapter : Adapter) : (callAdapter env adapter true started b).1.Idle id :=
    h.books_eq (books_callAdapter env adapter true started b)
  rw [Broker.startDestination]
  split
  · exact h
  next d _ =>
    have hidle := hcalled d.adapter
    generalize callAdapter env d.adapter true started b = called at hidle ⊢
    obtain ⟨b₁, answer⟩ := called
    split
    · exact h
    · cases answer with
      | error fault => exact hidle
      | ok _ =>
        let woken (d : Destination) : Destination := { d with started := true }
        have hsame : (b₁.onDestination started woken).destination? id = b₁.destination? id :=
          destination?_onDestination_of_ne woken (fun _ => rfl) hne.symm b₁
        show ((b₁.onDestination started woken).destination? id).map (·.started) = some false
        rw [hsame]
        exact hidle

/-- Only a start starts a destination. -/
theorem Idle.perform (h : b.Idle id) (hb : b.books.Accounted strays) (env : Environment)
    {op : Operation} (hop : ¬op.Starts id) : (perform env b op).1.Idle id := by
  have hctx := keeps_context env b
  cases op with
  | start => exact absurd trivial hop
  | stop =>
    have hunwatched : Idle id { b with sweeper := none } := h
    exact hunwatched.balances (balances_stop env b)
  | startDestination started => exact h.startDestination env hop
  | stopDestination stopped =>
    show (stopNamed env stopped b).1.Idle id
    rw [stopNamed]
    split
    · exact h
    · exact h.balances (balances_stopDestination env stopped b)
  | connect c => exact h.keeps hb (keeps_connectIn hctx c b)
  | disconnect c => exact h.keeps hb (keeps_disconnectIn hctx c b)
  | touch c time => exact h.books_eq (books_touch c time b)
  | login c p => exact h.keeps hb (keeps_login env c p b)
  | logout c => exact h.books_eq (books_logout c b)
  | subscribe r => exact h.subscribed hb env r
  | unsubscribe n => exact h.keeps hb (keeps_unsubscribeIn hctx n b)
  | unsubscribeAll c => exact h.keeps hb (keeps_unsubscribeAllIn hctx c b)
  | find d subtopics content => exact h.books_eq (books_findMatching env d subtopics content b)
  | route m => exact h.keeps hb (keeps_routeMessage env m b)
  | routeFromPeer m => exact h.keeps hb (keeps_routeFromPeer env m b)
  | routeFromAdapter m toAll => exact h.keeps hb (keeps_routeFromAdapter env m toAll b)
  | receiveChange peer d change => exact h.books_eq (books_receiveChange peer d change b)
  | receiveState peer d keys => exact h.books_eq (books_receiveState peer d keys b)
  | removePeer peer => exact h.books_eq (books_removePeer peer b)
  | sweep time => exact h.keeps hb (keeps_sweepAt env time b)
  | tick ms => exact h.keeps hb (keeps_tick env ms b)
  | configureThrottle d s => exact h.books_eq (books_configureThrottle d s b)
  | resetThrottle d => exact h.books_eq (books_resetThrottle d b)
  | addHook kind priority handler => exact h
  | removeHook kind n => exact h

/-- A destination that is not started stays so throughout a run in which it is not started. -/
theorem Idle.run (h : b.Idle id) (hb : b.books.Accounted strays)
    (steps : List (Environment × Operation)) (hsteps : ∀ step ∈ steps, ¬step.2.Starts id) :
    (b.run steps).Idle id := by
  induction steps generalizing b strays with
  | nil => exact h
  | cons step steps ih =>
    obtain ⟨more, hmore⟩ := accounted_perform step.1 step.2 hb
    exact ih (h.perform hb step.1 (hsteps step List.mem_cons_self)) hmore
      fun later hlater => hsteps later (List.mem_cons_of_mem _ hlater)

/-! ## Stopping a node -/

/-- A destination is stopped when its turn comes. -/
theorem idle_stopAndDetach_self (hctx : ctx.Balances) (hd : b.destination? id = some d) :
    (stopAndDetach ctx b id).Idle id := by
  have hcleaned := balances_foldl_detach hctx id .destinationStopped
    (stopDestination ctx.env id b).2 (stopDestination ctx.env id b).1
  refine Idle.balances ?_ hcleaned
  cases hstarted : d.started with
  | false =>
    exact (idle_of_destination? hd hstarted).balances (balances_stopDestination ctx.env id b)
  | true =>
    let cleared (d' : Destination) : Destination :=
      { d' with started := false, registry := d.registry.clear.1 }
    have hcleared : (b.onDestination id cleared).Idle id :=
      idle_of_destination? (destination?_onDestination_self cleared (fun _ => rfl) hd) rfl
    exact hcleared.balances (balances_of_journals (stopDestination_eq ctx.env hd hstarted).1)

/-- A node that stops stops every destination. -/
theorem idle_stop (env : Environment) (hd : b.destination? id = some d) : (stop env b).Idle id := by
  have hctx := balances_context env b
  let unwatched : Broker := { b with sweeper := none }
  have hall (ids : List DestinationId) (b' : Broker) :
      Balances [] [] b' (ids.foldl (stopAndDetach (b.context env)) b') :=
    balances_foldl (fun b => b) (balances_stopAndDetach hctx) ids b'
  have hturn : id ∈ b.destinationIds := List.mem_map.mpr ⟨d, mem_of_destination? hd⟩
  obtain ⟨done, left, hsplit⟩ := List.append_of_mem hturn
  obtain ⟨d', hd', -⟩ := (hall done unwatched).destinations.exists_destination? hd
  have hidle := (idle_stopAndDetach_self hctx hd').balances (hall left _)
  show (unwatched.destinationIds.foldl (stopAndDetach (b.context env)) unwatched).Idle id
  rw [show unwatched.destinationIds = done ++ id :: left from hsplit, List.foldl_append]
  exact hidle

/-- Where no destination is started, stopping the node stops its sweeper at most. -/
theorem stop_of_idle (h : ∀ id d, b.destination? id = some d → d.started = false)
    (env : Environment) :
    stop env b = { b with sweeper := none }.log .info s!"node {b.settings.node} stopped" := by
  let unwatched : Broker := { b with sweeper := none }
  have hone (id : DestinationId) : stopAndDetach (b.context env) unwatched id = unwatched := by
    have hnothing : stopDestination env id unwatched = (unwatched, []) := by
      refine (stopDestination_cases env id unwatched).resolve_right ?_
      rintro ⟨d, hd, hstarted⟩
      rw [h id d hd] at hstarted
      cases hstarted
    rw [stopAndDetach]
    rw [show stopDestination (b.context env).env id unwatched = _ from hnothing]
    rfl
  have hall : unwatched.destinationIds.foldl (stopAndDetach (b.context env)) unwatched =
      unwatched := foldl_eq_self fun id _ => hone id
  rw [stop]
  rw [show { b with sweeper := none } = unwatched from rfl, hall]

end Broker

end MessageBroker
