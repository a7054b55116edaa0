/-
# Gone, and nothing else

When nobody calls back, disconnecting a client does exactly what it is meant to do. The number
that is answered is the number of subscriptions the client had. Whatever is somebody else's
stays as it was: subscriptions, sessions, throttle counters. And where subscriptions are
shared between nodes, the other nodes are told of the keys that disappear with the client,
which are those that nobody else has, of each of them once.

Even where somebody calls back, nothing is left of the client, and it gets no message until
it subscribes again.
-/

import MessageBroker.Proofs.Broker.WaysOut

open Std

namespace MessageBroker

/-- The change of a key that an entry of the journal announces. -/
def Event.change? : Event → Option (DestinationId × KeyChange)
  | .change id what => some (id, what)
  | _ => none

/-- A destination that a client has left: at most what was the client's has changed, and the
number of subscriptions. -/
structure Destination.LeftBy (c : ClientId) (d d' : Destination) : Prop where
  id : d'.id = d.id
  settings : d'.settings = d.settings
  adapter : d'.adapter = d.adapter
  remote : d'.remote = d.remote
  sendConstraint : d'.sendConstraint = d.sendConstraint
  subscribeConstraint : d'.subscribeConstraint = d.subscribeConstraint
  started : d'.started = d.started
  totals : d'.totals = { d.totals with subscriptions := d'.totals.subscriptions }
  limiter : d'.limiter = { d.limiter with clients := d'.limiter.clients }
  counters : ∀ c' ≠ c, d'.limiter.clients[c']? = d.limiter.clients[c']?
  registered : ∀ n s, s.client ≠ c → (d'.registry.get? n = some s ↔ d.registry.get? n = some s)

namespace Destination.LeftBy

variable {c : ClientId} {d d' d'' : Destination}

theorem refl (d : Destination) : d.LeftBy c d :=
  ⟨rfl, rfl, rfl, rfl, rfl, rfl, rfl, rfl, rfl, fun _ _ => rfl, fun _ _ _ => Iff.rfl⟩

theorem trans (h : d.LeftBy c d') (h' : d'.LeftBy c d'') : d.LeftBy c d'' where
  id := h'.id.trans h.id
  settings := h'.settings.trans h.settings
  adapter := h'.adapter.trans h.adapter
  remote := h'.remote.trans h.remote
  sendConstraint := h'.sendConstraint.trans h.sendConstraint
  subscribeConstraint := h'.subscribeConstraint.trans h.subscribeConstraint
  started := h'.started.trans h.started
  totals := by rw [h'.totals, h.totals]
  limiter := by rw [h'.limiter, h.limiter]
  counters c' hc' := (h'.counters c' hc').trans (h.counters c' hc')
  registered n s hs := (h'.registered n s hs).trans (h.registered n s hs)

end Destination.LeftBy

namespace Broker

variable {b b' b'' b₀ : Broker} {env : Environment} {c c' : ClientId} {d : Destination}
  {id : DestinationId} {s : Subscription}

/-- A broker that a client has left: at most what was the client's has changed, and how much
there is of everything. -/
structure LeftBy (c : ClientId) (b b' : Broker) : Prop where
  settings : b'.settings = b.settings
  hooks : b'.hooks = b.hooks
  nextSubscription : b'.nextSubscription = b.nextSubscription
  sweeper : b'.sweeper = b.sweeper
  destinations : Lookups (Destination.LeftBy c) b b'
  sessions : ∀ c' ≠ c, b'.sessions[c']? = b.sessions[c']?

theorem LeftBy.trans (h : LeftBy c b b') (h' : LeftBy c b' b'') : LeftBy c b b'' where
  settings := h'.settings.trans h.settings
  hooks := h'.hooks.trans h.hooks
  nextSubscription := h'.nextSubscription.trans h.nextSubscription
  sweeper := h'.sweeper.trans h.sweeper
  destinations := .trans (fun hd hd' => hd.trans hd') h.destinations h'.destinations
  sessions c' hc' := (h'.sessions c' hc').trans (h.sessions c' hc')

theorem LeftBy.refl (b : Broker) : LeftBy c b b :=
  ⟨rfl, rfl, rfl, rfl, lookups_of_destinations_eq .refl rfl, fun _ _ => rfl⟩

/-- The subscriptions of others stay. -/
theorem LeftBy.registered? (h : LeftBy c b b') {n : SubscriptionId} (hother : s.client ≠ c) :
    b'.registered? id n = some s ↔ b.registered? id n = some s := by
  constructor
  · intro hs
    obtain ⟨d', hd', hget⟩ := Option.bind_eq_some_iff.mp hs
    obtain ⟨d, hd, hleft⟩ := h.destinations.exists_of_destination? hd'
    exact Option.bind_eq_some_iff.mpr ⟨d, hd, (hleft.registered n s hother).mp hget⟩
  · intro hs
    obtain ⟨d, hd, hget⟩ := Option.bind_eq_some_iff.mp hs
    obtain ⟨d', hd', hleft⟩ := h.destinations.exists_destination? hd
    exact Option.bind_eq_some_iff.mpr ⟨d', hd', (hleft.registered n s hother).mpr hget⟩

theorem leftBy_onDestination {change : Destination → Destination}
    (hid : ∀ d, (change d).id = d.id)
    (h : ∀ d, b.destination? id = some d → d.LeftBy c (change d)) :
    LeftBy c b (b.onDestination id change) :=
  ⟨rfl, rfl, rfl, rfl, lookups_onDestination .refl hid h, fun _ _ => rfl⟩

theorem leftBy_onSession (change : Session → Session) (b : Broker) (c : ClientId) :
    LeftBy c b (b.onSession c change) := by
  rw [onSession]
  split
  · exact .refl b
  · refine ⟨rfl, rfl, rfl, rfl, lookups_of_destinations_eq .refl rfl, fun c' hc' => ?_⟩
    show (b.sessions.insert c _)[c']? = _
    rw [Maps.getElem?_insert_ite, if_neg (Ne.symm hc')]

theorem leftBy_shed (b : Broker) (id : DestinationId) (s : Subscription) :
    LeftBy s.client b (b.shed id s) := by
  let disowned : Broker := { b with owners := b.owners.erase s.id }
  let unlisted := disowned.onSession s.client fun session =>
    { session with subscriptions := session.subscriptions.erase s.id }
  let counted (d : Destination) : Destination :=
    { d with totals := { d.totals with subscriptions := d.totals.subscriptions.dec } }
  have hdisowned : LeftBy s.client b disowned :=
    ⟨rfl, rfl, rfl, rfl, lookups_of_destinations_eq .refl rfl, fun _ _ => rfl⟩
  have hunlisted : LeftBy s.client disowned unlisted := leftBy_onSession _ disowned s.client
  have hcounted : LeftBy s.client unlisted (unlisted.onDestination id counted) :=
    leftBy_onDestination (fun _ => rfl) fun d _ => { Destination.LeftBy.refl d with totals := rfl }
  have hstruck : LeftBy s.client (unlisted.onDestination id counted) (b.strike id s) :=
    ⟨rfl, rfl, rfl, rfl, lookups_of_destinations_eq .refl rfl, fun _ _ => rfl⟩
  have hsettled : LeftBy s.client (b.strike id s) (b.shed id s) :=
    leftBy_onDestination (fun _ => rfl) fun d _ =>
      { Destination.LeftBy.refl d with registered := fun _ _ _ => Iff.rfl }
  exact (((hdisowned.trans hunlisted).trans hcounted).trans hstruck).trans hsettled

theorem leftBy_foldl_shed {subs : List Subscription} (hsubs : ∀ s ∈ subs, s.client = c)
    (b : Broker) (id : DestinationId) : LeftBy c b (subs.foldl (shed id) b) := by
  induction subs generalizing b with
  | nil => exact .refl b
  | cons s subs ih =>
    have hfirst : LeftBy c b (b.shed id s) := hsubs s List.mem_cons_self ▸ leftBy_shed b id s
    exact hfirst.trans (ih (fun t ht => hsubs t (List.mem_cons_of_mem _ ht)) _)

theorem leftBy_quit (hd : b.destination? id = some d) (hsound : d.registry.Sound) :
    LeftBy c b (b.quit c id) := by
  rw [quit_of_destination? hd]
  apply LeftBy.trans _ (leftBy_foldl_shed _ _ id)
  · apply leftBy_onDestination (by exact fun _ => rfl)
    intro d₀ hd₀
    obtain rfl := Option.some.inj (hd.symm.trans hd₀)
    refine { Destination.LeftBy.refl d with registered := fun n s hother => ?_ }
    exact hsound.get?_removeClient.trans (and_iff_left hother)
  · exact hsound.client_eq_of_mem_removeClient

theorem leftBy_foldl_quit {ds : List Destination} (hnodup : (ds.map (·.id)).Nodup)
    (hds : ∀ d ∈ ds, b.destination? d.id = some d) (hsound : ∀ d ∈ ds, d.registry.Sound) :
    LeftBy c b ((ds.map (·.id)).foldl (quit c) b) := by
  induction ds generalizing b with
  | nil => exact .refl b
  | cons d ds ih =>
    have hfirst : LeftBy c b (b.quit c d.id) :=
      leftBy_quit (hds d List.mem_cons_self) (hsound d List.mem_cons_self)
    exact hfirst.trans (ih (List.nodup_cons.mp hnodup).2 (destination?_quit_of_cons hnodup hds c)
      fun d' hd' => hsound d' (List.mem_cons_of_mem _ hd'))

theorem leftBy_dropCounters (c : ClientId) (b : Broker) : LeftBy c b (dropCounters c b) := by
  refine ⟨rfl, rfl, rfl, rfl, ?_, fun _ _ => rfl⟩
  let dropped (d : Destination) : Destination := { d with limiter := d.limiter.removeClient c }
  apply lookups_of_destination?_map (destination?_map (f := dropped) (fun _ => rfl) rfl)
  intro id d _
  refine { Destination.LeftBy.refl d with limiter := rfl, counters := fun c' hc' => ?_ }
  exact (getElem?_clients_removeClient d.limiter c c').trans (if_neg (Ne.symm hc'))

theorem leftBy_close (c : ClientId) (b : Broker) : LeftBy c b (b.close c) := by
  apply LeftBy.trans _ (leftBy_dropCounters c _)
  refine ⟨rfl, rfl, rfl, rfl, lookups_of_destinations_eq .refl rfl, fun c' hc' => ?_⟩
  exact (Maps.getElem?_erase_ite b.sessions c c').trans (if_neg (Ne.symm hc'))

/-! ## Changes that other nodes are told of -/

/-- The changes of keys that were announced between two brokers. -/
def announcements (b b' : Broker) : List (DestinationId × KeyChange) :=
  (entriesSince b b').filterMap Event.change?

theorem changes_told (hooks : HookTable) (n : Notice) :
    (told hooks n).filterMap Event.change? = [] := by
  rw [told, List.filterMap_cons_none rfl, List.filterMap_map]
  exact List.filterMap_eq_nil_iff.mpr fun _ _ => rfl

theorem changes_announcement (env : Environment) (id : DestinationId) (change : KeyChange) :
    (announcement env id change).filterMap Event.change? =
      if env.cluster.isSome then [(id, change)] else [] := by
  rw [announcement]
  cases env.cluster with
  | none => rfl
  | some cluster =>
    dsimp only
    cases cluster.tellChange id change with
    | ok _ => rfl
    | error fault => rfl

theorem changes_flatMap_announcement (env : Environment) (id : DestinationId)
    (queued : List KeyChange) :
    (queued.flatMap (announcement env id)).filterMap Event.change? =
      if env.cluster.isSome then queued.map (Prod.mk id) else [] := by
  induction queued with
  | nil => split <;> rfl
  | cons change queued ih =>
    rw [List.flatMap_cons, List.filterMap_append, changes_announcement, ih]
    split
    · rfl
    · rfl

theorem changes_farewell (env : Environment) (hooks : HookTable) (id : DestinationId)
    (reason : UnsubscribeReason) (queued : List KeyChange) (subs : List Subscription)
    (hsubs : subs = [] → queued = []) :
    (farewell env hooks id reason queued subs).filterMap Event.change? =
      if env.cluster.isSome then queued.map (Prod.mk id) else [] := by
  induction subs generalizing queued with
  | nil =>
    rw [hsubs rfl]
    split <;> rfl
  | cons s subs ih =>
    rw [farewell, List.filterMap_append, List.filterMap_append, changes_told,
      changes_flatMap_announcement, ih [] fun _ => rfl]
    split
    · simp
    · simp

theorem changes_departure (hnone : d.registry.pending = []) (env : Environment)
    (hooks : HookTable) (reason : UnsubscribeReason) :
    (departure env hooks c reason d).filterMap Event.change? =
      if env.cluster.isSome then (d.registry.removeClient c).1.pending.map (Prod.mk d.id)
      else [] := by
  apply changes_farewell
  intro hremoved
  have hsame := (Registry.load_removeAll_le (d.registry.byClient.under c).toList d.registry).2.2
    (List.map_eq_nil_iff.mp hremoved)
  exact (congrArg (·.pending) hsame).trans hnone

theorem changes_goodbye (hnone : ∀ d ∈ b.destinations, d.registry.pending = [])
    (env : Environment) (c : ClientId) (reason : UnsubscribeReason) :
    (goodbye env c reason b).filterMap Event.change? =
      if env.cluster.isSome then
        b.destinations.flatMap fun d => (d.registry.removeClient c).1.pending.map (Prod.mk d.id)
      else [] := by
  rw [goodbye, List.filterMap_append, changes_told, List.append_nil]
  generalize b.destinations = ds at hnone ⊢
  induction ds with
  | nil => split <;> rfl
  | cons d ds ih =>
    rw [List.flatMap_cons, List.filterMap_append, changes_departure (hnone d List.mem_cons_self),
      ih fun d' hd' => hnone d' (List.mem_cons_of_mem _ hd')]
    split <;> rfl

/-! ## Disconnecting -/

/-- The changes of keys that a client leaves behind, destination by destination. -/
def parting (c : ClientId) (b : Broker) : List (DestinationId × KeyChange) :=
  b.destinations.flatMap fun d => (d.registry.removeClient c).1.pending.map (Prod.mk d.id)

variable {strays : Strays}

/-- What disconnecting does when nobody calls back. -/
theorem disconnect_of_silent (hb : b.books.Accounted strays) (hrest : AtRest b)
    (hsilent : Silent env b) (c : ClientId) :
    ∃ (after : Broker) (entries : List Event),
      disconnect env c b = (after.recordAll entries,
        (b.destinations.map fun d => (d.registry.removeClient c).2.length).sum) ∧
      after.journal = b.journal ∧ LeftBy c b after ∧
      entries.filterMap Event.change? = if env.cluster.isSome then parting c b else [] := by
  have hnames := nodup_destinationIds hb
  cases hlive : b.sessions.contains c with
  | true =>
    have hleft : LeftBy c b (b.leave c) := by
      apply LeftBy.trans _ (leftBy_close c _)
      exact leftBy_foldl_quit hnames (fun d hd => destination?_of_mem hnames hd)
        fun d hd => sound_registry hb hd
    exact ⟨b.leave c, goodbye env c .disconnect b,
      disconnect_of_session hnames hrest hsilent hlive, journal_leave c b, hleft,
      changes_goodbye (hrest.pending hnames) env c .disconnect⟩
  | false =>
    have hnone := getElem?_sessions_of_contains hlive
    have habsent : Absent c b := absent_of_no_session hb hnone
    have hnothing {d : Destination} (hd : d ∈ b.destinations) :
        d.registry.removeClient c = (d.registry, []) := removeClient_of_absent hb habsent hd
    have hcount : (b.destinations.map fun d => (d.registry.removeClient c).2.length).sum = 0 := by
      have hall := unsubscribeClient_of_silent (b.context env) c .disconnect hsilent hnames
        (hrest.idle hnames)
      have hended := unsubscribeClient_of_absent hb (b.context env) habsent .disconnect
      exact congrArg Prod.snd (hall.symm.trans hended)
    have hparting : parting c b = [] := by
      apply List.flatMap_eq_nil_iff.mpr
      intro d hd
      rw [hnothing hd, hrest.pending hnames d hd]
      rfl
    refine ⟨dropCounters c b, [], ?_, rfl, leftBy_dropCounters c b, ?_⟩
    · rw [disconnect_of_no_session hb env hnone, hcount, recordAll_nil]
    · rw [hparting, ite_self]
      rfl

/-- Whether a client is the only one with subscriptions of a key at a destination. -/
def SoleHolder (c : ClientId) (b : Broker) (id : DestinationId) (key : SubscriptionKey) : Prop :=
  (∃ n s, b.registered? id n = some s ∧ s.client = c ∧ s.key = key) ∧
    ¬∃ n s, b.registered? id n = some s ∧ s.client ≠ c ∧ s.key = key

theorem mem_parting (hb : b.books.Accounted strays) (hrest : AtRest b) (c : ClientId)
    (id : DestinationId) (change : KeyChange) :
    (id, change) ∈ parting c b ↔
      (∃ d, b.destination? id = some d ∧ d.settings.routingMode = .serverToServer) ∧
        change.kind = .removed ∧ SoleHolder c b id change.key := by
  have hnames := nodup_destinationIds hb
  have hfound : (id, change) ∈ parting c b ↔
      ∃ d, b.destination? id = some d ∧ change ∈ (d.registry.removeClient c).1.pending := by
    rw [parting, List.mem_flatMap]
    constructor
    · rintro ⟨d, hd, hchange⟩
      obtain ⟨change', hmem, heq⟩ := List.mem_map.mp hchange
      obtain ⟨rfl, rfl⟩ := Prod.mk.inj heq
      exact ⟨d, destination?_of_mem hnames hd, hmem⟩
    · rintro ⟨d, hd, hmem⟩
      obtain ⟨hmember, rfl⟩ := mem_of_destination? hd
      exact ⟨d, hmember, List.mem_map_of_mem hmem⟩
  rw [hfound]
  cases hd : b.destination? id with
  | none => simp
  | some d =>
    obtain ⟨hrests, hnone⟩ := hrest id d hd
    have hsound : d.registry.Sound := sound_registry hb (mem_of_destination? hd).1
    have hget (n : SubscriptionId) : b.registered? id n = d.registry.get? n := by
      rw [registered?, hd]
      rfl
    have hpending : d.registry.pending = [] := hnone not_false
    simp only [Option.some.injEq, exists_eq_left', hsound.mem_pending_removeClient hpending,
      hrests.tracking, decide_eq_true_eq, SoleHolder, hget]

theorem nodup_parting (hb : b.books.Accounted strays) (hrest : AtRest b) (c : ClientId) :
    (parting c b).Nodup := by
  have hnames := nodup_destinationIds hb
  apply List.nodup_flatMap.mpr
  constructor
  · intro d hd
    have hsound : d.registry.Sound := sound_registry hb hd
    apply (hsound.nodup_pending_removeClient (hrest.pending hnames d hd) c).map
    intro change change' heq
    exact (Prod.mk.inj heq).2
  · apply (List.pairwise_map.mp hnames).imp
    intro d d' hne x hx hx'
    obtain ⟨_, -, rfl⟩ := List.mem_map.mp hx
    obtain ⟨_, -, heq⟩ := List.mem_map.mp hx'
    exact hne (Prod.mk.inj heq).1.symm

/-- Disconnecting a client answered a number and led to a broker, and nothing happened but what
had to. -/
structure DepartsExactly (env : Environment) (c : ClientId) (b b' : Broker) (n : Nat) : Prop where
  count : n = (b.destinations.map fun d => d.registry.toList.countP fun s => s.client = c).sum
  others : LeftBy c b b'
  /-- The numbers of other subscriptions belong where they belonged. -/
  owners : ∀ {id n s}, b.registered? id n = some s → s.client ≠ c → b'.owners[n]? = some id
  /-- Each change is announced once. -/
  nodup : (announcements b b').Nodup
  announced : ∀ id change, (id, change) ∈ announcements b b' ↔ env.cluster.isSome = true ∧
    (∃ d, b.destination? id = some d ∧ d.settings.routingMode = .serverToServer) ∧
    change.kind = .removed ∧ SoleHolder c b id change.key

theorem departsExactly_disconnect (hb : b.books.Accounted strays) (hrest : AtRest b)
    (hsilent : Silent env b) (c : ClientId) :
    DepartsExactly env c b (disconnect env c b).1 (disconnect env c b).2 := by
  obtain ⟨after, entries, hdisconnect, hjournal, hleft, hchanges⟩ :=
    disconnect_of_silent hb hrest hsilent c
  have hentries : entriesSince b (after.recordAll entries) = entries :=
    entriesSince_of_eq_append (congrArg (· ++ entries) hjournal)
  have hended := (keeps_disconnectIn (keeps_context env b) c b strays hb).1
  have hothers : LeftBy c b (after.recordAll entries) :=
    hleft.trans ⟨rfl, rfl, rfl, rfl, lookups_of_destinations_eq .refl rfl, fun _ _ => rfl⟩
  have hannounced : announcements b (after.recordAll entries) =
      if env.cluster.isSome then parting c b else [] := by
    rw [announcements, hentries, hchanges]
  rw [← disconnect, hdisconnect] at hended
  rw [hdisconnect]
  constructor
  case count =>
    apply congrArg List.sum
    apply List.map_congr_left
    intro d hd
    exact (sound_registry hb hd).length_removeClient c
  case others => exact hothers
  case owners =>
    intro id n s hs hother
    have hstays := hothers.registered? hother |>.mpr hs
    rw [← id_eq_of_registered? hended hstays]
    exact (hended.owned (holds_of_registered? hended hstays)).1
  case nodup =>
    rw [hannounced]
    split
    · exact nodup_parting hb hrest c
    · exact List.nodup_nil
  case announced =>
    intro id change
    rw [hannounced]
    cases env.cluster.isSome with
    | true => exact (mem_parting hb hrest c id change).trans (and_iff_right rfl).symm
    | false => simp

/-- After a client was disconnected, in whatever state the broker was, nothing is left of it,
and it gets no copy of a message as long as it does not subscribe again. When nobody calls back
meanwhile, everything that is not the client's is as it was, the answer is the number of its
subscriptions, and the other nodes are told of the keys that only this client had. -/
theorem disconnect_exact {steps : List (Environment × Operation)} (hbuilt : b₀.IsBuilt)
    (hb : b = b₀.run steps) (env : Environment) (c : ClientId) :
    Forgotten c b (disconnect env c b).1 ∧
      ((∀ step ∈ steps, step.2.IsOrderly) → ∀ n id,
        (disconnect env c b).1.owners[n]? = some id →
          ∃ s, (disconnect env c b).1.registered? id n = some s ∧ s.client ≠ c) ∧
      (∀ later : List (Environment × Operation), (∀ step ∈ later, ¬step.2.Subscribes c) →
        ∀ m, Event.delivery c m ∉
          entriesSince (disconnect env c b).1 ((disconnect env c b).1.run later)) ∧
      (Silent env b → DepartsExactly env c b (disconnect env c b).1 (disconnect env c b).2) := by
  obtain ⟨strays, haccounted⟩ : ∃ strays, b.books.Accounted strays :=
    hb ▸ accounted_run steps hbuilt.accounted
  have hforgotten := forgotten_disconnect haccounted env c
  refine ⟨hforgotten, fun horderly n id howner => ?_, fun later hlater => ?_, fun hsilent => ?_⟩
  · have hnone : b.books.Accounted [] :=
      hb ▸ (staysAccounted_run steps b₀ horderly [] hbuilt.accounted).1
    cases owner_disconnect hnone env howner with
    | inl hother =>
      obtain ⟨s, hs, -, hne⟩ := hother
      exact ⟨s, hs, hne⟩
    | inr hstray =>
      obtain ⟨s, -, hs⟩ := hstray
      exact absurd hs List.not_mem_nil
  · exact (shuns_run later hlater _).nothing hforgotten.absent
  · exact departsExactly_disconnect haccounted (hb ▸ atRest_run hbuilt.atRest steps) hsilent c

/-- An environment in which nothing fails and other nodes listen. -/
def linked : Environment :=
  { quiet with cluster := some ⟨fun _ _ => .ok (), fun _ _ => none, fun _ _ => .ok ()⟩ }

theorem silent_linked (hhooks : b.hooks.registrations = []) : Silent linked b := by
  have halone : Silent quiet b := silent_of_alone hhooks rfl
  refine ⟨halone.handlers, fun cluster hcluster id change => ?_⟩
  obtain rfl := Option.some.inj hcluster
  rfl

/-- One client has a key of its own, and one that another client has as well. -/
def sharing : List (Environment × Operation) :=
  quietly
    [.start, .subscribe ⟨"news", "ann", some "sports.*", none, none⟩,
      .subscribe ⟨"news", "ann", some "arts", none, none⟩,
      .subscribe ⟨"news", "bob", some "sports.*", none, none⟩]

theorem disconnect_exact_shared :
    ∃ b₀ b : Broker, b₀.IsBuilt ∧ b = b₀.run sharing ∧
      Forgotten "ann" b (disconnect linked "ann" b).1 ∧
      (∃ s, (disconnect linked "ann" b).1.registered? "news" 3 = some s ∧ s.client ≠ "ann") ∧
      (∀ m, Event.delivery "ann" m ∉ entriesSince (disconnect linked "ann" b).1
        ((disconnect linked "ann" b).1.run (quietly [.route note]))) ∧
      DepartsExactly linked "ann" b (disconnect linked "ann" b).1 2 ∧
      announcements b (disconnect linked "ann" b).1 =
        [("news", ⟨⟨none, some "arts"⟩, .removed⟩)] := by
  obtain ⟨b₀, b, hbuilt, hb, hhooks, hcount, howner, hannounced⟩ :
      ∃ b₀ b : Broker, b₀.IsBuilt ∧ b = b₀.run sharing ∧ b.hooks.registrations = [] ∧
        (disconnect linked "ann" b).2 = 2 ∧
        (disconnect linked "ann" b).1.owners[3]? = some "news" ∧
        announcements b (disconnect linked "ann" b).1 =
          [("news", ⟨⟨none, some "arts"⟩, .removed⟩)] := by
    have hbuilt : IsBuilt _ := ⟨sharedSettings, _, ⟨true, true, [], []⟩, rfl, rfl⟩
    exact ⟨_, _, hbuilt, rfl, rfl, rfl, rfl, rfl⟩
  have horderly : ∀ step ∈ sharing, step.2.IsOrderly := by
    simp [sharing, quietly, Operation.IsOrderly]
  obtain ⟨hforgotten, howners, hlater, hexact⟩ := disconnect_exact hbuilt hb linked "ann"
  refine ⟨b₀, b, hbuilt, hb, hforgotten, howners horderly 3 "news" howner, ?_, ?_, hannounced⟩
  · apply hlater
    simp [quietly, Operation.Subscribes]
  · rw [← hcount]
    exact hexact (silent_linked hhooks)

end Broker

end MessageBroker
