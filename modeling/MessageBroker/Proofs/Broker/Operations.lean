/-
# Operations and the books

Each operation of a broker leaves its books in order, whatever the handlers and the other
nodes have ended meanwhile, and it gives out no number twice. One operation is an exception:
stopping a single destination empties its registry and hands the subscriptions to the
caller, so they remain on the other records as strays. Stopping the whole node cleans up
after each of them.
-/

import MessageBroker.Operation
import MessageBroker.Proofs.Broker.Traffic

open Std

namespace MessageBroker

namespace Broker

/-- Books in order stay so, with the strays they have, and what is newly held has a new
number. -/
def StaysAccounted (b b' : Broker) : Prop :=
  ∀ strays, b.books.Accounted strays →
    b'.books.Accounted strays ∧ b.books.Succeeds b'.books

variable {b b' b'' : Broker} {id : DestinationId} {ctx : Context}

theorem Keeps.staysAccounted (h : Keeps b b') : StaysAccounted b b' := by
  intro strays hb
  obtain ⟨hb', hshrinks⟩ := h strays hb
  exact ⟨hb', hshrinks.succeeds⟩

theorem StaysAccounted.trans (h : StaysAccounted b b') (h' : StaysAccounted b' b'') :
    StaysAccounted b b'' := by
  intro strays hb
  obtain ⟨hb', hsucceeds⟩ := h strays hb
  obtain ⟨hb'', hsucceeds'⟩ := h' strays hb'
  exact ⟨hb'', hsucceeds.trans hsucceeds'⟩

theorem staysAccounted_of_books_eq (h : b'.books = b.books) : StaysAccounted b b' :=
  (keeps_of_books_eq h).staysAccounted

theorem StaysAccounted.refl (b : Broker) : StaysAccounted b b := staysAccounted_of_books_eq rfl

theorem staysAccounted_foldl {α : Type} {step : Broker → α → Broker}
    (hstep : ∀ b a, StaysAccounted b (step b a)) (l : List α) (b : Broker) :
    StaysAccounted b (l.foldl step b) := by
  induction l generalizing b with
  | nil => exact .refl b
  | cons a l ih => exact (hstep b a).trans (ih (step b a))

/-! ## Sessions and subscriptions -/

theorem keeps_login (env : Environment) (c : ClientId) (p : Principal) (b : Broker) :
    Keeps b (login env c p b).1 := by
  have hconnect := keeps_connectIn (keeps_context env b) c b
  have hlogged : Keeps b ((connectIn (b.context env) c b).1.onSession c
      fun s => { s with principal := some p }.touch env.now) :=
    hconnect.trans (keeps_of_books_eq (books_onSession_of_subscriptions fun _ => rfl))
  unfold login
  dsimp only
  split
  · exact hconnect
  · split
    · split
      · exact hconnect
      · exact hlogged
    · exact hlogged

theorem books_logout (c : ClientId) (b : Broker) : (logout c b).books = b.books :=
  books_onSession_of_subscriptions fun _ => rfl

/-- Subscribing keeps the books in order, and a new subscription has a new number. -/
theorem staysAccounted_subscribe (env : Environment) (r : SubscribeRequest) (b : Broker) :
    StaysAccounted b (subscribe env r b).1 := by
  obtain ⟨hbooks, hrequest⟩ := checkRequest_spec env r b
  unfold subscribe
  split
  next b₁ e heq =>
    rw [heq] at hbooks
    exact staysAccounted_of_books_eq hbooks
  next b₁ filter heq =>
    rw [heq] at hbooks hrequest
    obtain ⟨sh, hsh, hid, hstarted, hfilter⟩ := hrequest filter rfl
    intro strays hb
    have hctx := keeps_context env b₁
    dsimp only
    generalize b₁.context env = ctx at hctx ⊢
    have hconnect := keeps_connectIn hctx r.client b₁ strays (hbooks.symm ▸ hb)
    have htouch := books_touch r.client env.now (connectIn ctx r.client b₁).1
    generalize (connectIn ctx r.client b₁).1.touch r.client env.now = b₂ at htouch ⊢
    rw [← htouch, hbooks] at hconnect
    obtain ⟨hb₂, hshrinks⟩ := hconnect
    -- Calls back during the connection have not moved the shelf of the request.
    have hchecked : ∃ sh ∈ b₂.books.shelves, sh.id = r.destination ∧ sh.started = true ∧
        ∀ t, filter = some t → t.ParsedWith sh.separator := by
      have hframe : sh.frame ∈ b₂.books.shelves.map Shelf.frame := by
        rw [hshrinks.frames]
        exact List.mem_map_of_mem hsh
      obtain ⟨sh₂, hsh₂, hsame⟩ := List.mem_map.mp hframe
      obtain ⟨hid₂, hseparator, hstarted₂⟩ :
          sh₂.id = sh.id ∧ sh₂.separator = sh.separator ∧ sh₂.started = sh.started := by
        simpa [Shelf.frame] using hsame
      refine ⟨sh₂, hsh₂, hid₂.trans hid, hstarted₂.trans hstarted, ?_⟩
      rw [hseparator]
      exact hfilter
    obtain ⟨hentered, hsucceeds⟩ := accounted_enterAndTell (s :=
      { id := b₂.nextSubscription
        destination := r.destination
        client := r.client
        subtopic := filter
        selector := r.givenSelector
        maxFrequency := r.givenFrequency
        createdAt := env.now }) hctx hb₂ rfl hchecked
    exact ⟨hentered, hshrinks.succeeds.trans hsucceeds⟩

/-! ## Sweeping -/

theorem keeps_sweepOne (hctx : ctx.Keeps) (id : DestinationId) (timeout : Int) (now : Timestamp)
    (w : Sweeping) (s : Subscription) :
    Keeps w.broker (sweepOne ctx id timeout now w s).broker := by
  have hswept := keeps_takeOut_detach hctx (thins_takeOne s.id) id .idleTimeout w.broker
  unfold sweepOne
  split
  · exact .refl _
  · split
    · exact .refl _
    next b removed _ heq =>
      have htaken : takeOut id (takeOne s.id) w.broker = (b, removed) := heq
      rw [htaken] at hswept
      exact hswept

theorem keeps_sweepDestination (hctx : ctx.Keeps) (now : Timestamp) (w : Sweeping)
    (id : DestinationId) : Keeps w.broker (sweepDestination ctx now w id).broker := by
  unfold sweepDestination
  split
  · exact .refl _
  · split
    · exact .refl _
    · exact keeps_foldl Sweeping.broker (keeps_sweepOne hctx id _ now) _ w

/-- A sweep keeps the books in order; a session that it ends has nothing left to lose. -/
theorem keeps_sweepAt (env : Environment) (now : Timestamp) (b : Broker) :
    Keeps b (sweepAt env now b).1 := by
  have hctx := keeps_context env b
  unfold sweepAt
  dsimp only
  generalize b.context env = ctx at hctx ⊢
  have hswept := keeps_foldl Sweeping.broker (keeps_sweepDestination hctx now) b.destinationIds
    ⟨b, 0, ∅⟩
  generalize b.destinationIds.foldl (sweepDestination ctx now) ⟨b, 0, ∅⟩ = w at hswept ⊢
  have hended : Keeps w.broker
      (w.clients.toList.foldl (fun b c => terminate ctx c true b) w.broker) := by
    refine keeps_foldl (fun b => b) ?_ _ _
    intro b c strays hb
    exact keeps_terminate hctx c true hb nofun
  split
  · exact (hswept.trans hended).trans (keeps_of_books_eq rfl)
  · exact hswept.trans hended

theorem keeps_tick (env : Environment) (ms : Nat) (b : Broker) : Keeps b (tick env ms b) := by
  unfold tick
  split
  · exact .refl b
  · split
    · exact (keeps_sweepAt env env.now b).trans (keeps_of_books_eq rfl)
    · exact keeps_of_books_eq rfl

/-! ## Other nodes and limiters -/

theorem books_onRemote (id : DestinationId) (change : RemoteKeys → RemoteKeys) (b : Broker) :
    (b.onRemote id change).1.books = b.books := by
  unfold onRemote
  split
  · rfl
  · exact books_onDestination_of_shelf (by intro _; rfl) (by intro _; rfl)

theorem books_receiveChange (peer : PeerId) (id : DestinationId) (change : KeyChange)
    (b : Broker) : (receiveChange peer id change b).1.books = b.books :=
  books_onRemote id _ b

theorem books_receiveState (peer : PeerId) (id : DestinationId) (keys : List SubscriptionKey)
    (b : Broker) : (receiveState peer id keys b).1.books = b.books :=
  books_onRemote id _ b

theorem books_removePeer (peer : PeerId) (b : Broker) : (removePeer peer b).books = b.books := by
  simp only [removePeer, books, List.map_map]
  rfl

theorem books_configureThrottle (id : DestinationId) (s : ThrottleSettings) (b : Broker) :
    (b.configureThrottle id s).1.books = b.books := by
  unfold configureThrottle
  split
  · rfl
  · split
    · rfl
    next limiter _ => exact books_limiter id (fun _ => limiter) b

theorem books_resetThrottle (id : DestinationId) (b : Broker) :
    (b.resetThrottle id).1.books = b.books := by
  unfold resetThrottle
  split
  · rfl
  · exact books_limiter id (fun d => d.limiter.reset) b

/-! ## Starting -/

theorem books_callAdapter (env : Environment) (adapter : Adapter) (isStart : Bool)
    (id : DestinationId) (b : Broker) :
    (callAdapter env adapter isStart id b).1.books = b.books := by
  cases adapter <;> rfl

theorem books_onDestination_started (id : DestinationId) (flag : Bool) (b : Broker) :
    (b.onDestination id fun d => { d with started := flag }).books =
      b.books.setStarted id flag := by
  refine (books_onDestination (fun d => { d with started := flag })
    (f := fun sh => { sh with started := flag }) (g := fun n => n)
    (fun _ => rfl) (fun _ => rfl)).trans ?_
  simp [Books.onCount, Books.setStarted]

theorem staysAccounted_startDestination (env : Environment) (id : DestinationId) (b : Broker) :
    StaysAccounted b (startDestination env id b).1 := by
  unfold startDestination
  split
  · exact .refl b
  next d _ =>
    have hcalled := books_callAdapter env d.adapter true id b
    split
    · exact .refl b
    · split
      next b₁ fault heq =>
        rw [heq] at hcalled
        exact staysAccounted_of_books_eq hcalled
      next b₁ heq =>
        rw [heq] at hcalled
        intro strays hb
        have hbooks : (b₁.onDestination id fun d => { d with started := true }).books =
            b.books.setStarted id true := by
          rw [books_onDestination_started, hcalled]
        show (b₁.onDestination id fun d => { d with started := true }).books.Accounted strays ∧
          b.books.Succeeds (b₁.onDestination id fun d => { d with started := true }).books
        rw [hbooks]
        exact ⟨hb.setStarted nofun, ⟨Nat.le_refl _, fun hs => .inl (Books.holds_setStarted.mp hs)⟩⟩

theorem staysAccounted_startAll (env : Environment) (ids : List DestinationId) (b : Broker) :
    StaysAccounted b (startAll env ids b).1 := by
  induction ids generalizing b with
  | nil => exact .refl b
  | cons id ids ih =>
    have hstarted := staysAccounted_startDestination env id b
    unfold startAll
    split
    next b₁ e heq =>
      rw [heq] at hstarted
      exact hstarted
    next b₁ heq =>
      rw [heq] at hstarted
      exact hstarted.trans (ih b₁)

theorem staysAccounted_start (env : Environment) (b : Broker) :
    StaysAccounted b (start env b).1 := by
  have hall := staysAccounted_startAll env b.destinationIds b
  unfold start
  split
  next b₁ e heq =>
    rw [heq] at hall
    exact hall
  next b₁ heq =>
    rw [heq] at hall
    exact hall.trans (staysAccounted_of_books_eq rfl)

/-! ## Stopping -/

/-- A registry that was emptied is empty. -/
theorem size_reshelve_clear {k : Books} {r : Registry} :
    ∀ sh ∈ (k.reshelve id fun _ => r.clear.1).shelves, sh.id = id → sh.registry.size = 0 := by
  intro sh hsh hid
  obtain ⟨old, -, rfl⟩ := Books.mem_onShelf.mp hsh
  split at hid
  next hold =>
    rw [if_pos hold]
    rfl
  next hold => exact absurd hid hold

/-- Emptying a registry and marking its destination as not started leaves strays. -/
theorem accounted_clear {k : Books} {strays : Strays} (h : k.Accounted strays) {sh : Shelf}
    (hsh : sh ∈ k.shelves) (hid : sh.id = id) :
    ((k.reshelve id fun _ => sh.registry.clear.1).setStarted id false).Accounted
        (sh.registry.toList.map (fun s => (id, s)) ++ strays) ∧
      k.Succeeds ((k.reshelve id fun _ => sh.registry.clear.1).setStarted id false) := by
  have hthins : ∀ sh' ∈ k.shelves, sh'.id = id →
      sh'.registry.Thins sh.registry.toList sh.registry.clear.1 :=
    h.of_shelf hsh hid (h.sound sh hsh).thins_clear
  constructor
  · exact (h.reshelve (fun _ => sh.registry.clear.1) ⟨sh, hsh, hid⟩ hthins).setStarted
      (fun _ => size_reshelve_clear)
  · refine ⟨Nat.le_refl _, fun hs => .inl ?_⟩
    exact Books.holds_of_holds_reshelve _ hthins (Books.holds_setStarted.mp hs)

theorem books_cleared (id : DestinationId) (registry : Registry) (b : Broker) :
    (b.onDestination id fun d => { d with started := false, registry }).books =
      (b.books.reshelve id fun _ => registry).setStarted id false := by
  refine (books_onDestination (fun d => { d with started := false, registry })
    (f := fun sh => { sh with started := false, registry }) (g := fun n => n)
    (fun _ => rfl) (fun _ => rfl)).trans ?_
  simp only [Books.onCount, Books.setStarted, Books.reshelve, Books.onShelf, List.map_map]
  congr 1
  · apply List.map_congr_left
    intro sh _
    by_cases hid : sh.id = id <;> simp [hid]
  · simp

/-- Stopping a destination does nothing unless there is one and it is started. -/
theorem stopDestination_cases (env : Environment) (id : DestinationId) (b : Broker) :
    stopDestination env id b = (b, []) ∨
      ∃ d, b.destination? id = some d ∧ d.started = true := by
  cases hd : b.destination? id with
  | none =>
    rw [stopDestination]
    rw [hd]
    exact .inl rfl
  | some d =>
    cases hstarted : d.started with
    | true => exact .inr ⟨d, rfl, hstarted⟩
    | false =>
      rw [stopDestination]
      rw [hd]
      dsimp only
      rw [hstarted]
      exact .inl rfl

theorem stopDestination_of_started (env : Environment) {d : Destination}
    (hd : b.destination? id = some d) (hstarted : d.started = true) :
    (stopDestination env id b).2 = d.registry.toList ∧
      (stopDestination env id b).1.books =
        (b.books.reshelve id fun _ => d.registry.clear.1).setStarted id false := by
  unfold stopDestination
  rw [hd]
  dsimp only
  rw [hstarted, if_neg (by simp)]
  have hcalled := books_callAdapter env d.adapter false id
    (b.onDestination id fun d' => { d' with started := false, registry := d.registry.clear.1 })
  refine ⟨rfl, ?_⟩
  rw [← books_cleared, ← hcalled]
  generalize callAdapter env d.adapter false id _ = called
  obtain ⟨b₁, answer⟩ := called
  cases answer <;> rfl

/-- Stopping a destination leaves what it held as strays. -/
theorem accounted_stopDestination (env : Environment) (id : DestinationId) {strays : Strays}
    (hb : b.books.Accounted strays) :
    (stopDestination env id b).1.books.Accounted
        ((stopDestination env id b).2.map (fun s => (id, s)) ++ strays) ∧
      b.books.Succeeds (stopDestination env id b).1.books := by
  rcases stopDestination_cases env id b with hsame | ⟨d, hd, hstarted⟩
  · rw [hsame]
    exact StaysAccounted.refl b strays hb
  · obtain ⟨hmem, hid⟩ := mem_of_destination? hd
    obtain ⟨hdetached, hbooks⟩ := stopDestination_of_started env hd hstarted
    have hshelf : d.shelf ∈ b.books.shelves := List.mem_map_of_mem hmem
    rw [hdetached, hbooks]
    exact accounted_clear hb hshelf hid

/-- Stopping a destination and cleaning up after its subscriptions leaves nothing. -/
theorem staysAccounted_stopAndDetach (hctx : ctx.Keeps) (b : Broker) (id : DestinationId) :
    StaysAccounted b (stopAndDetach ctx b id) := by
  intro strays hb
  obtain ⟨hstopped, hsucceeds⟩ := accounted_stopDestination ctx.env id hb
  obtain ⟨hclean, hshrinks⟩ := carries_foldl_detach hctx id .destinationStopped
    (stopDestination ctx.env id b).2 (stopDestination ctx.env id b).1 strays hstopped
  exact ⟨hclean, hsucceeds.trans hshrinks.succeeds⟩

theorem staysAccounted_stop (env : Environment) (b : Broker) : StaysAccounted b (stop env b) := by
  have hctx := keeps_context env b
  have hidle : StaysAccounted b { b with sweeper := none } := staysAccounted_of_books_eq rfl
  have hall := hidle.trans
    (staysAccounted_foldl (staysAccounted_stopAndDetach hctx) b.destinationIds
      { b with sweeper := none })
  exact hall.trans (staysAccounted_of_books_eq rfl)

end Broker

/-! ## Any operation -/

/-- Whether an operation cleans up after all subscriptions that it ends. -/
def Operation.IsOrderly : Operation → Prop
  | .stopDestination _ => False
  | _ => True

namespace Broker

variable {b : Broker} {strays : Strays}

theorem staysAccounted_perform (env : Environment) (b : Broker) {op : Operation}
    (hop : op.IsOrderly) :
    StaysAccounted b (perform env b op).1 := by
  cases op with
  | start => exact staysAccounted_start env b
  | stop => exact staysAccounted_stop env b
  | startDestination d => exact staysAccounted_startDestination env d b
  | stopDestination d => exact hop.elim
  | connect c => exact (keeps_connectIn (keeps_context env b) c b).staysAccounted
  | disconnect c => exact (keeps_disconnectIn (keeps_context env b) c b).staysAccounted
  | touch c time => exact staysAccounted_of_books_eq (books_touch c time b)
  | login c p => exact (keeps_login env c p b).staysAccounted
  | logout c => exact staysAccounted_of_books_eq (books_logout c b)
  | subscribe r => exact staysAccounted_subscribe env r b
  | unsubscribe n => exact (keeps_unsubscribeIn (keeps_context env b) n b).staysAccounted
  | unsubscribeAll c => exact (keeps_unsubscribeAllIn (keeps_context env b) c b).staysAccounted
  | find d subtopics content =>
    exact staysAccounted_of_books_eq (books_findMatching env d subtopics content b)
  | route m => exact (keeps_routeMessage env m b).staysAccounted
  | routeFromPeer m => exact (keeps_routeFromPeer env m b).staysAccounted
  | routeFromAdapter m toAll => exact (keeps_routeFromAdapter env m toAll b).staysAccounted
  | receiveChange peer d change =>
    exact staysAccounted_of_books_eq (books_receiveChange peer d change b)
  | receiveState peer d keys => exact staysAccounted_of_books_eq (books_receiveState peer d keys b)
  | removePeer peer => exact staysAccounted_of_books_eq (books_removePeer peer b)
  | sweep time => exact (keeps_sweepAt env time b).staysAccounted
  | tick ms => exact (keeps_tick env ms b).staysAccounted
  | configureThrottle d s => exact staysAccounted_of_books_eq (books_configureThrottle d s b)
  | resetThrottle d => exact staysAccounted_of_books_eq (books_resetThrottle d b)
  | addHook kind priority handler => exact staysAccounted_of_books_eq rfl
  | removeHook kind n => exact staysAccounted_of_books_eq rfl

/-- After any operation the books are in order up to strays, and only stopping a single
destination makes new ones. -/
theorem accounted_perform (env : Environment) (op : Operation) (hb : b.books.Accounted strays) :
    ∃ more, (perform env b op).1.books.Accounted (more ++ strays) := by
  by_cases hop : op.IsOrderly
  · exact ⟨[], (staysAccounted_perform env b hop strays hb).1⟩
  · cases op with
    | stopDestination d =>
      show ∃ more, (stopNamed env d b).1.books.Accounted (more ++ strays)
      unfold stopNamed
      split
      · exact ⟨[], hb⟩
      · exact ⟨_, (accounted_stopDestination env d hb).1⟩
    | _ => exact absurd trivial hop

end Broker

end MessageBroker
