/-
# A sweep, exactly

As long as nobody calls back, what a sweep does can be read off the broker that it starts from.
It takes the overdue subscriptions out, destination by destination, and answers how many they
were. A session ends if it lost one of them and lists nothing else, and with it go the throttle
counters of its client. That is all: other subscriptions, other sessions and the rest of those
that lost some, other counters, settings and what other nodes announced stay as they are.

A step of the sweep changes what later steps read, so the steps are put together as a relation
between the broker before and after that names what is gone and who has left. Two such changes
in a row are one, with both lists joined.

What is overdue is told by words of 64 bits. A sweep at a time so long before the last activity of
a client that the difference wraps around takes the client to be idle.
-/

import MessageBroker.Proofs.Broker.Departing
import MessageBroker.Proofs.Broker.Durations
import MessageBroker.Proofs.Broker.Leftovers

open Std

namespace MessageBroker

/-- A destination and a subscription that is registered there. -/
abbrev Placed := DestinationId × Subscription

/-- The numbers of those subscriptions that are a client's. -/
def numbersOf (gone : List Placed) (c : ClientId) : List SubscriptionId :=
  (gone.filter (·.2.client = c)).map (·.2.id)

/-- A session that no longer lists some numbers. -/
def Session.without (s : Session) (numbers : List SubscriptionId) : Session :=
  { s with subscriptions := numbers.foldl (·.erase ·) s.subscriptions }

theorem numbersOf_append (gone gone' : List Placed) (c : ClientId) :
    numbersOf (gone ++ gone') c = numbersOf gone c ++ numbersOf gone' c := by
  rw [numbersOf, List.filter_append, List.map_append, numbersOf, numbersOf]

/-- What is gone in two steps is gone altogether. -/
theorem ite_mem_append {α β : Type} [DecidableEq α] (a : α) (l l' : List α) (x : Option β) :
    (if a ∈ l ++ l' then none else x) =
      if a ∈ l' then none else if a ∈ l then none else x := by
  simp only [List.mem_append]
  by_cases ha : a ∈ l
  · simp only [ha, true_or, if_true, ite_self]
  · simp only [ha, false_or, if_false]

/-- Subscriptions are gone from a destination, and throttle counters of clients that have left;
nothing else about it has changed but the number of subscriptions and what it has to tell. -/
structure Destination.Cleared (left : List ClientId) (d d' : Destination) : Prop where
  id : d'.id = d.id
  settings : d'.settings = d.settings
  adapter : d'.adapter = d.adapter
  remote : d'.remote = d.remote
  sendConstraint : d'.sendConstraint = d.sendConstraint
  subscribeConstraint : d'.subscribeConstraint = d.subscribeConstraint
  started : d'.started = d.started
  totals : d'.totals = { d.totals with subscriptions := d'.totals.subscriptions }
  limiter : d'.limiter = { d.limiter with clients := d'.limiter.clients }
  counters : ∀ c : ClientId,
    d'.limiter.clients[c]? = if c ∈ left then none else d.limiter.clients[c]?

namespace Destination.Cleared

variable {left left' : List ClientId} {d d' d'' : Destination}

theorem refl (d : Destination) : d.Cleared [] d :=
  ⟨rfl, rfl, rfl, rfl, rfl, rfl, rfl, rfl, rfl, fun _ => rfl⟩

theorem trans (h : d.Cleared left d') (h' : d'.Cleared left' d'') :
    d.Cleared (left ++ left') d'' where
  id := h'.id.trans h.id
  settings := h'.settings.trans h.settings
  adapter := h'.adapter.trans h.adapter
  remote := h'.remote.trans h.remote
  sendConstraint := h'.sendConstraint.trans h.sendConstraint
  subscribeConstraint := h'.subscribeConstraint.trans h.subscribeConstraint
  started := h'.started.trans h.started
  totals := by rw [h'.totals, h.totals]
  limiter := by rw [h'.limiter, h.limiter]
  counters c := by
    rw [h'.counters, h.counters, ite_mem_append]

end Destination.Cleared

namespace Broker

variable {b b' b'' b₀ : Broker} {ctx : Context} {env : Environment} {id : DestinationId}
  {d : Destination} {n : SubscriptionId} {s : Subscription} {now : Timestamp} {c : ClientId}
  {gone gone' : List Placed} {left left' : List ClientId} {strays : Strays}

/-- Some subscriptions are gone and some clients have left, with their sessions and throttle
counters. Apart from the numbers of what is gone, nothing else has changed. -/
structure Clears (gone : List Placed) (left : List ClientId) (b b' : Broker) : Prop where
  settings : b'.settings = b.settings
  hooks : b'.hooks = b.hooks
  nextSubscription : b'.nextSubscription = b.nextSubscription
  sweeper : b'.sweeper = b.sweeper
  destinations : Lookups (Destination.Cleared left) b b'
  registered : ∀ id n s,
    b'.registered? id n = some s ↔ b.registered? id n = some s ∧ (id, s) ∉ gone
  owners : ∀ n : SubscriptionId,
    b'.owners[n]? = if n ∈ gone.map (·.2.id) then none else b.owners[n]?
  sessions : ∀ c : ClientId, b'.sessions[c]? =
    if c ∈ left then none else (b.sessions[c]?).map (·.without (numbersOf gone c))

theorem Clears.refl (b : Broker) : Clears [] [] b b where
  settings := rfl
  hooks := rfl
  nextSubscription := rfl
  sweeper := rfl
  destinations := lookups_of_destinations_eq .refl rfl
  registered _ _ _ := (and_iff_left List.not_mem_nil).symm
  owners _ := rfl
  sessions _ := by
    rw [if_neg List.not_mem_nil]
    exact Option.map_id'.symm

theorem Clears.trans (h : Clears gone left b b') (h' : Clears gone' left' b' b'') :
    Clears (gone ++ gone') (left ++ left') b b'' where
  settings := h'.settings.trans h.settings
  hooks := h'.hooks.trans h.hooks
  nextSubscription := h'.nextSubscription.trans h.nextSubscription
  sweeper := h'.sweeper.trans h.sweeper
  destinations := .trans (fun hd hd' => hd.trans hd') h.destinations h'.destinations
  registered id n s := by
    rw [h'.registered, h.registered, List.mem_append, not_or, and_assoc]
  owners n := by
    rw [h'.owners, h.owners, List.map_append, ite_mem_append]
  sessions c := by
    rw [h'.sessions, h.sessions, ite_mem_append, numbersOf_append, apply_ite (Option.map _),
      Option.map_none, Option.map_map]
    congr 3
    funext session
    exact congrArg (fun subscriptions => { session with subscriptions }) List.foldl_append.symm

/-- That subscriptions are gone makes nobody more or less active. -/
theorem Clears.lastActivity (h : Clears gone [] b b') (s : Subscription) :
    Broker.lastActivity s b' = Broker.lastActivity s b := by
  rw [lastActivity_eq, lastActivity_eq, h.sessions, if_neg List.not_mem_nil, Option.map_map]
  rfl

theorem clears_recordAll (b : Broker) (entries : List Event) :
    Clears [] [] b (b.recordAll entries) :=
  { Clears.refl b with settings := rfl }

/-! ## One subscription -/

theorem lookups_cleared_strike (id : DestinationId) (s : Subscription) (b : Broker) :
    Lookups (Destination.Cleared []) b (b.strike id s) := by
  let counted (d : Destination) : Destination :=
    { d with totals := { d.totals with subscriptions := d.totals.subscriptions.dec } }
  have hcounted : Lookups (Destination.Cleared []) b (b.onDestination id counted) :=
    lookups_onDestination .refl (by exact fun _ => rfl) fun d _ =>
      { Destination.Cleared.refl d with totals := rfl }
  intro id'
  show Option.Rel _ _ ((b.strike id s).destinations.find? _)
  rw [destinations_strike]
  exact hcounted id'

theorem lookups_cleared_shed (id : DestinationId) (s : Subscription) (b : Broker) :
    Lookups (Destination.Cleared []) b (b.shed id s) := by
  have hsettled : Lookups (Destination.Cleared []) (b.strike id s) (b.shed id s) :=
    lookups_onDestination .refl (by exact fun _ => rfl) fun d _ =>
      { Destination.Cleared.refl d with id := rfl }
  exact Lookups.trans (fun hd hd' => hd.trans hd') (lookups_cleared_strike id s b) hsettled

theorem owners_strike (id : DestinationId) (s : Subscription) (b : Broker) :
    (b.strike id s).owners = b.owners.erase s.id :=
  congrArg Books.owners (books_strike id s b)

theorem sessions_strike (id : DestinationId) (s : Subscription) (b : Broker) (c : ClientId) :
    (b.strike id s).sessions[c]? =
      (b.sessions[c]?).map (·.without (numbersOf [(id, s)] c)) := by
  let disowned : Broker := { b with owners := b.owners.erase s.id }
  have hlisting := getElem?_sessions_onSession disowned s.client
    (fun session => { session with subscriptions := session.subscriptions.erase s.id }) c
  refine hlisting.trans ?_
  split
  next heq =>
    have hnumbers : numbersOf [(id, s)] c = [s.id] := by simp [numbersOf, heq]
    rw [hnumbers, ← heq]
    rfl
  next hne =>
    have hnumbers : numbersOf [(id, s)] c = [] := by simp [numbersOf, hne]
    rw [hnumbers]
    exact Option.map_id'.symm

/-- The books agree, nothing waits to be told, and nobody who is told anything calls back. -/
structure Untroubled (env : Environment) (strays : Strays) (b : Broker) : Prop where
  accounted : b.books.Accounted strays
  rests : AtRest b
  silent : Silent env b

theorem Untroubled.of_keeps (hb : Untroubled env strays b) (hkeeps : Keeps b b')
    (hcalms : Calms b b') (hhooks : b'.hooks = b.hooks) : Untroubled env strays b' :=
  ⟨(hkeeps strays hb.accounted).1, hb.rests.calms hcalms, hb.silent.of_hooks_eq hhooks⟩

/-- As long as nobody calls back, evicting a subscription removes it and nothing else. -/
theorem clears_evict (hctx : ctx.Aside) (hb : Untroubled ctx.env strays b)
    (hs : b.registered? id s.id = some s) (reason : UnsubscribeReason) :
    Clears [(id, s)] [] b (detach ctx id reason (takeOut id (takeOne s.id) b).1 s) := by
  obtain ⟨d, hd, hget⟩ := Option.bind_eq_some_iff.mp hs
  have htaken := evicts_takeOut_one id s.id fun _ _ _ => id_eq_of_registered? hb.accounted
  have hevicts := htaken.then_nothing
    (evicts_detach hctx (htaken.silent hb.silent) id reason s)
  let thinned (d' : Destination) : Destination :=
    { d' with registry := (takeOne s.id d.registry).1 }
  let taken : Broker := b.onDestination id thinned
  have hfound : taken.destination? id = some (thinned d) :=
    destination?_onDestination_self thinned (fun _ => rfl) hd
  have hnames : taken.destinationIds.Nodup :=
    destinationIds_onDestination thinned (fun _ => rfl) b id ▸ nodup_destinationIds hb.accounted
  have hdetached := detach_of_silent (b := taken) (hb.silent.of_hooks_eq rfl) hnames hfound
    (hb.rests id d hd).1.idle reason s
  have hthinned : Lookups (Destination.Cleared []) b taken :=
    lookups_onDestination .refl (fun _ => rfl) fun d _ =>
      { Destination.Cleared.refl d with id := rfl }
  have hleft := leftBy_shed taken id s
  rw [takeOut_of_destination? hd] at hevicts ⊢
  constructor
  case registered =>
    intro id' n t
    rw [hevicts.registered, List.mem_singleton, Prod.mk.injEq]
    refine and_congr_right fun ht => not_congr (and_congr_right ?_)
    rintro rfl
    refine ⟨fun hid => ?_, fun heq => congrArg _ heq⟩
    rw [← id_eq_of_registered? hb.accounted ht, hid, hs] at ht
    exact (Option.some.inj ht).symm
  all_goals dsimp only; rw [hdetached]
  case settings => exact hleft.settings
  case hooks => exact hleft.hooks
  case nextSubscription => exact hleft.nextSubscription
  case sweeper => exact hleft.sweeper
  case destinations =>
    exact Lookups.trans (fun hd hd' => hd.trans hd') hthinned (lookups_cleared_shed id s taken)
  case owners =>
    intro n
    show ((taken.strike id s).owners)[n]? = _
    rw [owners_strike, Maps.getElem?_erase_ite]
    simp only [List.map_cons, List.map_nil, List.mem_singleton, eq_comm]
    rfl
  case sessions => exact fun c => sessions_strike id s taken c

/-! ## The subscriptions that are overdue -/

/-- A sweep went on, and what it took meanwhile is counted and remembered by client. -/
structure Sweeping.Takes (gone : List Placed) (w w' : Sweeping) : Prop where
  clears : Clears gone [] w.broker w'.broker
  evicted : w'.evicted = w.evicted + gone.length
  clients : ∀ c, c ∈ w'.clients ↔ c ∈ w.clients ∨ ∃ p ∈ gone, p.2.client = c

theorem Sweeping.Takes.refl (w : Sweeping) : Takes [] w w :=
  ⟨.refl w.broker, rfl, fun _ => (or_iff_left nofun).symm⟩

theorem Sweeping.Takes.trans {w w' w'' : Sweeping} (h : Takes gone w w')
    (h' : Takes gone' w' w'') : Takes (gone ++ gone') w w'' where
  clears := h.clears.trans h'.clears
  evicted := by rw [h'.evicted, h.evicted, List.length_append, Nat.add_assoc]
  clients c := by
    rw [h'.clients, h.clients, or_assoc]
    simp only [List.mem_append, or_and_right, exists_or]

theorem Untroubled.sweepStep {w : Sweeping} (hb : Untroubled env strays w.broker)
    (d : Destination) (s : Subscription) :
    Untroubled env strays (sweepStep (b₀.context env) d now w s).broker := by
  rw [Broker.sweepStep]
  split
  · exact hb
  next timeout _ =>
    exact hb.of_keeps (keeps_sweepOne (keeps_context env b₀) d.id timeout.clampedMs now w s)
      (lasting_calms.sweepOne (lasting_calms.context env b₀) d.id timeout.clampedMs now w s)
      (aside_sweepOne (aside_context env b₀) d.id timeout.clampedMs now w s).hooks

theorem takes_sweepStep (b₀ : Broker) (now : Timestamp) {w : Sweeping}
    (hb : Untroubled env strays w.broker) (hs : w.broker.registered? d.id s.id = some s) :
    Sweeping.Takes
      (if d.settings.Lapsed (Timestamp.since now (lastActivity s w.broker)) then [(d.id, s)]
        else []) w
      (sweepStep (b₀.context env) d now w s) := by
  split
  next hlapsed =>
    rw [sweepStep_of_lapsed hs hlapsed]
    refine ⟨clears_evict (aside_context env b₀) hb hs .idleTimeout, rfl, fun c => ?_⟩
    simp only [List.mem_singleton, exists_eq_left, ExtTreeSet.mem_insert, Std.compare_eq_iff_eq]
    exact or_comm
  next hactive =>
    rw [sweepStep_of_not_lapsed hactive]
    exact .refl w

theorem takes_foldl_sweepStep (b₀ : Broker) (now : Timestamp) {l : List Subscription} {w : Sweeping}
    (hb : Untroubled env strays w.broker) (hnodup : l.Nodup)
    (hl : ∀ s ∈ l, w.broker.registered? d.id s.id = some s) :
    Sweeping.Takes
      ((l.filter fun s =>
        d.settings.Lapsed (Timestamp.since now (lastActivity s w.broker))).map (d.id, ·)) w
      (l.foldl (sweepStep (b₀.context env) d now) w) := by
  induction l generalizing w with
  | nil => exact .refl w
  | cons s l ih =>
    have hfirst := takes_sweepStep b₀ now hb (hl s List.mem_cons_self)
    obtain ⟨hs, hnodup⟩ := List.nodup_cons.mp hnodup
    have hrest := ih (hb.sweepStep d s) hnodup fun t ht => by
      refine (hfirst.clears.registered _ _ _).mpr ⟨hl t (List.mem_cons_of_mem _ ht), ?_⟩
      intro hgone
      split at hgone
      · cases List.mem_singleton.mp hgone
        exact hs ht
      · cases hgone
    rw [List.foldl_cons]
    convert hfirst.trans hrest using 1
    simp only [hfirst.clears.lastActivity, List.filter_cons, decide_eq_true_eq]
    split
    · rfl
    · rfl

/-- The overdue subscriptions at some destinations, each listed once. -/
structure ListsOverdue (b : Broker) (now : Timestamp) (ids : List DestinationId)
    (gone : List Placed) : Prop where
  nodup : gone.Nodup
  mem : ∀ id s, (id, s) ∈ gone ↔
    id ∈ ids ∧ (∃ n, b.registered? id n = some s) ∧ HasLapsed b now id s

theorem hasLapsed_congr (haside : Aside b b') (hclears : Clears gone [] b b')
    (id : DestinationId) (s : Subscription) : HasLapsed b' now id s ↔ HasLapsed b now id s :=
  haside.hasLapsed_iff (hclears.lastActivity s)

/-- What is overdue at more destinations is what was overdue at the first ones, and what is left
to be overdue at the others. -/
theorem ListsOverdue.append {ids ids' : List DestinationId} (h : ListsOverdue b now ids gone)
    (hclears : Clears gone [] b b') (haside : Aside b b') (h' : ListsOverdue b' now ids' gone') :
    ListsOverdue b now (ids ++ ids') (gone ++ gone') where
  nodup := by
    refine List.nodup_append.mpr ⟨h.nodup, h'.nodup, ?_⟩
    rintro p hp ⟨id, s⟩ hp' rfl
    obtain ⟨-, ⟨n, hs⟩, -⟩ := (h'.mem id s).mp hp'
    exact ((hclears.registered id n s).mp hs).2 hp
  mem id s := by
    rw [List.mem_append, h'.mem, hasLapsed_congr haside hclears]
    simp only [hclears.registered, exists_and_right, List.mem_append, h.mem]
    tauto

theorem exists_takes_sweepDestination (b₀ : Broker) (now : Timestamp) {w : Sweeping}
    (hb : Untroubled env strays w.broker) (id : DestinationId) :
    ∃ gone, ListsOverdue w.broker now [id] gone ∧
      Sweeping.Takes gone w (sweepDestination (b₀.context env) now w id) := by
  cases hd : w.broker.destination? id with
  | none =>
    have hsame : sweepDestination (b₀.context env) now w id = w := by rw [sweepDestination, hd]
    rw [hsame]
    refine ⟨[], ⟨List.nodup_nil, fun id' s => iff_of_false List.not_mem_nil ?_⟩, .refl w⟩
    rintro ⟨hid, -, settings, hsettings, -⟩
    rw [List.mem_singleton.mp hid, hd] at hsettings
    cases hsettings
  | some d =>
    obtain ⟨hmem, rfl⟩ := mem_of_destination? hd
    have hlisted {s : Subscription} := mem_toList_iff (s := s) hd
    rw [sweepDestination_eq hd]
    refine ⟨_, ⟨?_, fun id s => ?_⟩, takes_foldl_sweepStep b₀ now hb ?_ ?_⟩
    · exact ((sound_registry hb.accounted hmem).nodup_toList.filter _).map
        fun _ _ heq => congrArg Prod.snd heq
    · simp only [List.mem_map, List.mem_filter, decide_eq_true_eq, Prod.mk.injEq,
        exists_eq_right_right, List.mem_singleton, eq_comm (a := d.id), and_comm (b := id = d.id)]
      refine and_congr_right ?_
      rintro rfl
      rw [hlisted, hasLapsed_iff hd]
    · exact (sound_registry hb.accounted hmem).nodup_toList
    · intro s hs
      obtain ⟨n, hn⟩ := hlisted.mp hs
      rwa [← id_eq_of_registered? hb.accounted hn] at hn

theorem Untroubled.sweepDestination {w : Sweeping} (hb : Untroubled env strays w.broker)
    (id : DestinationId) :
    Untroubled env strays (sweepDestination (b₀.context env) now w id).broker :=
  hb.of_keeps (keeps_sweepDestination (keeps_context env b₀) now w id)
    (lasting_calms.sweepDestination (lasting_calms.context env b₀) now w id)
    (aside_sweepDestination (aside_context env b₀) now w id).hooks

theorem exists_takes_foldl_sweepDestination (b₀ : Broker) (now : Timestamp) {w : Sweeping}
    (hb : Untroubled env strays w.broker) (ids : List DestinationId) :
    ∃ gone, ListsOverdue w.broker now ids gone ∧
      Sweeping.Takes gone w (ids.foldl (sweepDestination (b₀.context env) now) w) := by
  induction ids generalizing w with
  | nil => exact ⟨[], ⟨List.nodup_nil, fun _ _ => iff_of_false nofun nofun⟩, .refl w⟩
  | cons id ids ih =>
    obtain ⟨gone, hgone, hfirst⟩ := exists_takes_sweepDestination b₀ now hb id
    obtain ⟨gone', hgone', hrest⟩ := ih (hb.sweepDestination id)
    exact ⟨gone ++ gone', hgone.append hfirst.clears
      (aside_sweepDestination (aside_context env b₀) now w id) hgone', hfirst.trans hrest⟩

/-! ## The sessions without subscriptions -/

theorem clears_close (c : ClientId) (b : Broker) : Clears [] [c] b (b.close c) where
  settings := rfl
  hooks := rfl
  nextSubscription := rfl
  sweeper := rfl
  destinations := by
    let dropped (d : Destination) : Destination := { d with limiter := d.limiter.removeClient c }
    apply lookups_of_destination?_map (destination?_map (f := dropped) (fun _ => rfl) rfl)
    intro id d _
    refine { Destination.Cleared.refl d with limiter := rfl, counters := fun c' => ?_ }
    refine (getElem?_clients_removeClient d.limiter c c').trans ?_
    simp only [List.mem_singleton, eq_comm]
  registered id n s := by
    rw [and_iff_left List.not_mem_nil]
    exact ((alike_dropCounters c _).registered? id n).symm ▸ Iff.rfl
  owners _ := rfl
  sessions c' := by
    refine (Maps.getElem?_erase_ite b.sessions c c').trans ?_
    simp only [List.mem_singleton, eq_comm]
    congr 1
    exact Option.map_id'.symm

/-- Ending a session that lists nothing. -/
theorem exists_clears_terminate (hsilent : Silent ctx.env b) (c : ClientId) :
    ∃ left, Clears [] left b (terminate ctx c true b) ∧
      ∀ c', c' ∈ left ↔ c' = c ∧ ∃ session : Session, b.sessions[c']? = some session ∧
        session.subscriptions.isEmpty = true := by
  cases hsession : b.sessions[c]? with
  | none =>
    rw [terminate_of_no_session hsession, if_pos rfl]
    refine ⟨[], .refl b, fun c' => iff_of_false List.not_mem_nil ?_⟩
    rintro ⟨rfl, session, hfound, -⟩
    cases hsession.symm.trans hfound
  | some session =>
    by_cases hempty : session.subscriptions.isEmpty = true
    · rw [terminate_of_silent hsilent hsession fun _ => hempty]
      refine ⟨[c] ++ [], (clears_close c b).trans (clears_recordAll _ _), fun c' => ?_⟩
      rw [List.append_nil, List.mem_singleton]
      refine (and_iff_left_of_imp ?_).symm
      rintro rfl
      exact ⟨session, hsession, hempty⟩
    · have hkept : terminate ctx c true b = b := by
        rw [terminate, hsession]
        simp [hempty]
      rw [hkept]
      refine ⟨[], .refl b, fun c' => iff_of_false List.not_mem_nil ?_⟩
      rintro ⟨rfl, session', hfound, hempty'⟩
      cases hsession.symm.trans hfound
      exact hempty hempty'

theorem exists_clears_foldl_terminate (ctx : Context) (cs : List ClientId)
    (hsilent : Silent ctx.env b) :
    ∃ left, Clears [] left b (cs.foldl (fun b c => terminate ctx c true b) b) ∧
      ∀ c, c ∈ left ↔ c ∈ cs ∧ ∃ session : Session, b.sessions[c]? = some session ∧
        session.subscriptions.isEmpty = true := by
  induction cs generalizing b with
  | nil => exact ⟨[], .refl b, fun _ => iff_of_false nofun nofun⟩
  | cons c cs ih =>
    obtain ⟨left, hfirst, hleft⟩ := exists_clears_terminate hsilent c
    obtain ⟨left', hrest, hleft'⟩ := ih (hsilent.of_hooks_eq hfirst.hooks)
    refine ⟨left ++ left', hfirst.trans hrest, fun c' => ?_⟩
    have hsame : Option.map (·.without (numbersOf [] c')) b.sessions[c']? = b.sessions[c']? :=
      Option.map_id'
    rw [List.mem_append, hleft', hfirst.sessions, hsame, List.mem_cons, or_and_right]
    by_cases hc' : c' ∈ left
    · exact iff_of_true (.inl hc') (.inl ((hleft c').mp hc'))
    · rw [if_neg hc', ← hleft]

/-! ## The whole sweep -/

theorem getElem?_without (numbers : List SubscriptionId) (session : Session) (n : SubscriptionId) :
    (session.without numbers).subscriptions[n]? =
      if n ∈ numbers then none else session.subscriptions[n]? := by
  have hfold (listing : ExtTreeMap SubscriptionId DestinationId) :
      (numbers.foldl (·.erase ·) listing)[n]? = if n ∈ numbers then none else listing[n]? := by
    induction numbers generalizing listing with
    | nil => rfl
    | cons m numbers ih =>
      rw [List.foldl_cons, ih, Maps.getElem?_erase_ite]
      by_cases hm : m = n
      · simp [hm]
      · simp [hm, Ne.symm hm]
  exact hfold session.subscriptions

theorem isEmpty_without_iff (numbers : List SubscriptionId) (session : Session) :
    (session.without numbers).subscriptions.isEmpty = true ↔
      ∀ n id, session.subscriptions[n]? = some id → n ∈ numbers := by
  rw [ExtTreeMap.isEmpty_iff, ExtTreeMap.eq_empty_iff_forall_not_mem]
  refine forall_congr' fun n => ?_
  rw [ExtTreeMap.mem_iff_isSome_getElem?, getElem?_without]
  by_cases hn : n ∈ numbers
  · simp [hn]
  · cases session.subscriptions[n]? <;> simp [hn]

theorem mem_numbersOf {n : SubscriptionId} :
    n ∈ numbersOf gone c ↔ ∃ p ∈ gone, p.2.client = c ∧ p.2.id = n := by
  simp only [numbersOf, List.mem_map, List.mem_filter, decide_eq_true_eq, and_assoc]

/-- A sweep answered a number and led to a broker, and nothing happened but what had to. -/
structure SweepsExactly (now : Timestamp) (b b' : Broker) (count : Nat) (gone : List Placed)
    (left : List ClientId) : Prop where
  overdue : ListsOverdue b now b.destinationIds gone
  count : count = gone.length
  clears : Clears gone left b b'
  /-- Who leaves has lost something, and its session lists nothing else. -/
  ended : ∀ c, c ∈ left ↔ (∃ p ∈ gone, p.2.client = c) ∧
    ∃ session : Session, b.sessions[c]? = some session ∧
      (session.without (numbersOf gone c)).subscriptions.isEmpty = true

theorem exists_sweepsExactly (hb : Untroubled env strays b) (now : Timestamp) :
    ∃ gone left, SweepsExactly now b (sweepAt env now b).1 (sweepAt env now b).2 gone left := by
  obtain ⟨gone, hgone, htakes⟩ :=
    exists_takes_foldl_sweepDestination b now (w := ⟨b, 0, ∅⟩) hb b.destinationIds
  have hswept : Sweeping.Takes gone ⟨b, 0, ∅⟩ (swept env now b) := htakes
  obtain ⟨left, hleft, hclients⟩ := exists_clears_foldl_terminate (b.context env)
    (swept env now b).clients.toList (hb.silent.of_hooks_eq hswept.clears.hooks)
  have hdeserted : Clears [] left (swept env now b).broker (deserted env now b) := hleft
  obtain ⟨entries, -, heq⟩ := sweepAt_eq env now b
  have hclears := (hswept.clears.trans hdeserted).trans (clears_recordAll _ entries)
  rw [List.append_nil, List.append_nil, List.append_nil, List.nil_append] at hclears
  have hcount := hswept.evicted
  rw [Nat.zero_add] at hcount
  rw [heq]
  refine ⟨gone, left, hgone, hcount, hclears, fun c => ?_⟩
  rw [hclients, ExtTreeSet.mem_toList, hswept.clients, hswept.clears.sessions,
    if_neg List.not_mem_nil]
  simp

/-- Where sessions list what is registered and nothing else, who leaves has nothing left. -/
theorem SweepsExactly.mem_left_iff {count : Nat} (h : SweepsExactly now b b' count gone left)
    (hb : b.Consistent) (c : ClientId) :
    c ∈ left ↔ (∃ p ∈ gone, p.2.client = c) ∧
      ∀ id n s, b'.registered? id n = some s → s.client ≠ c := by
  rw [h.ended]
  refine and_congr_right ?_
  rintro ⟨⟨id₀, s₀⟩, hp₀, rfl⟩
  obtain ⟨-, ⟨n₀, hs₀⟩, -⟩ := (h.overdue.mem id₀ s₀).mp hp₀
  obtain ⟨session, hsession⟩ := Option.isSome_iff_exists.mp
    (ExtTreeMap.mem_iff_isSome_getElem?.mp (hb.clients hs₀))
  simp only [hsession, Option.some.injEq, exists_eq_left', isEmpty_without_iff, mem_numbersOf]
  constructor
  · rintro hall id n s hs hclient
    obtain ⟨hbefore, hkept⟩ := (h.clears.registered id n s).mp hs
    obtain ⟨⟨id', s'⟩, hp', -, hn'⟩ := hall n id
      ((hb.listings hsession n id).mpr ⟨s, hbefore, hclient⟩)
    obtain ⟨-, ⟨n', hs'⟩, -⟩ := (h.overdue.mem id' s').mp hp'
    -- A number belongs to one destination, so nothing else has it.
    have hplace := (hb.places hs').1.symm.trans hn'
    subst hplace
    have hid := ((hb.owners n' id').mpr (by rw [hs']; rfl)).symm.trans
      ((hb.owners n' id).mpr (by rw [hbefore]; rfl))
    cases hid
    cases hs'.symm.trans hbefore
    exact hkept hp'
  · intro hnone n id hn
    obtain ⟨s, hs, hclient⟩ := (hb.listings hsession n id).mp hn
    refine ⟨(id, s), ?_, hclient, (hb.places hs).1⟩
    by_contra hkept
    exact hnone id n s ((h.clears.registered id n s).mpr ⟨hs, hkept⟩) hclient

/-- One client was active a minute later than another one. -/
def dozing : List (Environment × Operation) :=
  opening ++ [({ quiet with now := 60000 }, .subscribe ⟨"news", "bob", none, none, none⟩)]

theorem orderly_dozing : ∀ step ∈ dozing, step.2.IsOrderly := by
  simp [dozing, opening, quietly, Operation.IsOrderly]

end Broker

end MessageBroker
