/-
# Two ways out

A client gets rid of its session by disconnecting, and also by giving up all its
subscriptions, which ends a session that is left without any. As long as the client has a
session both come to the same: the same state is left behind, the other nodes are told the
same, and the handlers are told the same but for the reason of each subscription's end.

A client that never had a session, but sent messages, has counters in the limiters all the
same. They go when it disconnects. They stay when it gives up all its subscriptions, since
nothing is done where there is no session to end.
-/

import MessageBroker.Proofs.Broker.Absence
import MessageBroker.Proofs.Broker.Entries
import MessageBroker.Proofs.Broker.Leaving
import MessageBroker.Proofs.Registry.Withdrawal

open Std

namespace MessageBroker

namespace Broker

variable {b b₀ : Broker} {env : Environment} {c : ClientId} {d : Destination} {hooks : HookTable}
  {strays : Strays}

/-! ## The same but for the reason -/

/-- The same is told, except that subscriptions end by the will of the client in one case and
because it disconnects in the other. -/
inductive SameButReason (hooks : HookTable) : List Event → List Event → Prop
  | nil : SameButReason hooks [] []
  | same (e : Event) {entries entries' : List Event} (h : SameButReason hooks entries entries') :
      SameButReason hooks (e :: entries) (e :: entries')
  | ended (s : Subscription) {entries entries' : List Event}
      (h : SameButReason hooks entries entries') :
      SameButReason hooks (told hooks (.unsubscribed s .client) ++ entries)
        (told hooks (.unsubscribed s .disconnect) ++ entries')

namespace SameButReason

variable {entries entries' more more' : List Event}

theorem append (h : SameButReason hooks entries entries') (h' : SameButReason hooks more more') :
    SameButReason hooks (entries ++ more) (entries' ++ more') := by
  induction h with
  | nil => exact h'
  | same e _ ih => exact .same e ih
  | ended s _ ih =>
    rw [List.append_assoc, List.append_assoc]
    exact .ended s ih

theorem refl (entries : List Event) : SameButReason hooks entries entries := by
  induction entries with
  | nil => exact .nil
  | cons e entries ih => exact .same e ih

theorem flatMap {α : Type} {f g : α → List Event} (h : ∀ a, SameButReason hooks (f a) (g a))
    (l : List α) : SameButReason hooks (l.flatMap f) (l.flatMap g) := by
  induction l with
  | nil => exact .nil
  | cons a l ih => exact (h a).append ih

end SameButReason

theorem sameButReason_farewell (env : Environment) (hooks : HookTable) (id : DestinationId)
    (queued : List KeyChange) (subs : List Subscription) :
    SameButReason hooks (farewell env hooks id .client queued subs)
      (farewell env hooks id .disconnect queued subs) := by
  induction subs generalizing queued with
  | nil => exact .nil
  | cons s subs ih =>
    rw [farewell, farewell, List.append_assoc, List.append_assoc]
    apply SameButReason.ended
    exact (SameButReason.refl _).append (ih [])

theorem sameButReason_departure (env : Environment) (hooks : HookTable) (c : ClientId)
    (d : Destination) :
    SameButReason hooks (departure env hooks c .client d) (departure env hooks c .disconnect d) :=
  sameButReason_farewell env hooks d.id _ _

/-! ## With a session -/

theorem AtRest.idle (h : AtRest b) (hnames : b.destinationIds.Nodup) :
    ∀ d ∈ b.destinations, d.announcing = false :=
  fun d hd => (h d.id d (destination?_of_mem hnames hd)).1.idle

theorem AtRest.pending (h : AtRest b) (hnames : b.destinationIds.Nodup) :
    ∀ d ∈ b.destinations, d.registry.pending = [] :=
  fun d hd => (h d.id d (destination?_of_mem hnames hd)).2 not_false

theorem sound_registry (hb : b.books.Accounted strays) (hd : d ∈ b.destinations) :
    d.registry.Sound :=
  hb.sound d.shelf (List.mem_map_of_mem hd)

theorem nodup_destinationIds (hb : b.books.Accounted strays) : b.destinationIds.Nodup := by
  have hids := hb.ids
  rw [books, List.map_map] at hids
  exact hids

/-- The session of a client whose subscriptions were all ended is still there. -/
theorem exists_session_foldl_quit (hlive : b.sessions.contains c = true) :
    ∃ session, (b.destinationIds.foldl (quit c) b).sessions[c]? = some session := by
  apply Option.isSome_iff_exists.mp
  rw [← ExtTreeMap.contains_eq_isSome_getElem?,
    foldl_quit_unchanged (f := (·.sessions.contains c)) (contains_quit c), hlive]

/-- It is left empty. -/
theorem isEmpty_of_foldl_quit (hb : b.books.Accounted []) (hrest : AtRest b)
    (hsilent : Silent env b) {session : Session}
    (hsession : (b.destinationIds.foldl (quit c) b).sessions[c]? = some session) :
    session.subscriptions.isEmpty = true := by
  have hnames := nodup_destinationIds hb
  have hctx := keeps_context env b
  obtain ⟨hended, -⟩ := keeps_unsubscribeClient hctx c .client b [] hb
  have hnone {id : DestinationId} {s : Subscription}
      (hs : (unsubscribeClient (b.context env) c .client b).1.books.Holds id s) : s.client ≠ c :=
    client_ne_of_unsubscribeClient hctx c .client hb hs
  rw [unsubscribeClient_of_silent (b.context env) c .client hsilent hnames
    (hrest.idle hnames)] at hended hnone
  have hlisting := (consistent_of_accounted hended).listings hsession
  rw [ExtTreeMap.isEmpty_iff]
  ext1 n
  rw [ExtTreeMap.getElem?_empty]
  cases hn : session.subscriptions[n]? with
  | none => rfl
  | some id =>
    obtain ⟨s, hs, hclient⟩ := (hlisting n id).mp hn
    exact absurd hclient (hnone (holds_of_registered? hended hs))

/-- All that is told of a client with a session that leaves. -/
def goodbye (env : Environment) (c : ClientId) (reason : UnsubscribeReason) (b : Broker) :
    List Event :=
  b.destinations.flatMap (departure env b.hooks c reason) ++ told b.hooks (.sessionTerminated c)

/-- The state that a client with a session leaves behind, apart from the journal. -/
def leave (c : ClientId) (b : Broker) : Broker := (b.destinationIds.foldl (quit c) b).close c

/-- Ending the subscriptions of a client with a session, and then the session. -/
theorem terminate_unsubscribeClient (onlyIfEmpty : Bool) (hnames : b.destinationIds.Nodup)
    (hrest : AtRest b) (hsilent : Silent env b) (hlive : b.sessions.contains c = true)
    (hends : onlyIfEmpty = true → ∀ session,
      (b.destinationIds.foldl (quit c) b).sessions[c]? = some session →
        session.subscriptions.isEmpty = true) (reason : UnsubscribeReason) :
    (terminate (b.context env) c onlyIfEmpty (unsubscribeClient (b.context env) c reason b).1,
        (unsubscribeClient (b.context env) c reason b).2) =
      ((b.leave c).recordAll (goodbye env c reason b),
        (b.destinations.map fun d => (d.registry.removeClient c).2.length).sum) := by
  obtain ⟨session, hsession⟩ := exists_session_foldl_quit hlive
  have hhooks := foldl_quit_unchanged (hooks_quit c) b.destinationIds b
  let words := b.destinations.flatMap (departure env b.hooks c reason)
  have hsilent' : Silent (b.context env).env
      ((b.destinationIds.foldl (quit c) b).recordAll words) := hsilent.of_hooks_eq hhooks
  have hended := terminate_of_silent hsilent' hsession fun honly => hends honly session hsession
  rw [unsubscribeClient_of_silent (b.context env) c reason hsilent hnames
    (hrest.idle hnames)]
  dsimp only
  refine Prod.ext (hended.trans ?_) rfl
  show ((b.leave c).recordAll words).recordAll
    (told (b.destinationIds.foldl (quit c) b).hooks _) = _
  rw [recordAll_recordAll, hhooks]
  rfl

theorem disconnect_of_session (hnames : b.destinationIds.Nodup) (hrest : AtRest b)
    (hsilent : Silent env b) (hlive : b.sessions.contains c = true) :
    disconnect env c b = ((b.leave c).recordAll (goodbye env c .disconnect b),
      (b.destinations.map fun d => (d.registry.removeClient c).2.length).sum) := by
  apply terminate_unsubscribeClient false hnames hrest hsilent hlive
  intro hnever
  cases hnever

theorem unsubscribeAll_of_session (hb : b.books.Accounted []) (hrest : AtRest b)
    (hsilent : Silent env b) (hlive : b.sessions.contains c = true) :
    unsubscribeAll env c b = ((b.leave c).recordAll (goodbye env c .client b),
      (b.destinations.map fun d => (d.registry.removeClient c).2.length).sum) := by
  apply terminate_unsubscribeClient true (nodup_destinationIds hb) hrest hsilent hlive
  exact fun _ _ => isEmpty_of_foldl_quit hb hrest hsilent

theorem journal_leave (c : ClientId) (b : Broker) : (b.leave c).journal = b.journal :=
  foldl_quit_unchanged (journal_quit c) b.destinationIds b

/-! ## Without a session -/

theorem removeClient_of_absent (hb : b.books.Accounted strays) (habsent : Absent c b)
    (hd : d ∈ b.destinations) : d.registry.removeClient c = (d.registry, []) := by
  apply Registry.removeClient_of_absent
  · exact sound_registry hb hd
  · intro n s hs
    exact habsent (Option.bind_eq_some_iff.mpr
      ⟨d, destination?_of_mem (nodup_destinationIds hb) hd, hs⟩)

/-- A client that has no subscriptions leaves nothing to clean up after. -/
theorem unsubscribeClient_of_absent (hb : b.books.Accounted strays) (ctx : Context)
    (habsent : Absent c b) (reason : UnsubscribeReason) :
    unsubscribeClient ctx c reason b = (b, 0) := by
  have hnames := nodup_destinationIds hb
  have hat (id : DestinationId) : unsubscribeAt ctx c reason id b = (b, 0) := by
    rw [unsubscribeAt]
    cases hd : b.destination? id with
    | none =>
      rw [takeOut, hd]
      rfl
    | some d =>
      have hsame :=
        onDestination_eq_self hnames (fun d' => { d' with registry := d.registry }) hd rfl
      rw [takeOut_of_destination? hd, removeClient_of_absent hb habsent (mem_of_destination? hd).1,
        hsame]
      rfl
  have hall (ids : List DestinationId) :
      ids.foldl (fun w id =>
        ((unsubscribeAt ctx c reason id w.1).1, w.2 + (unsubscribeAt ctx c reason id w.1).2))
        (b, 0) = (b, 0) := by
    induction ids with
    | nil => rfl
    | cons id ids ih =>
      rw [List.foldl_cons, hat]
      exact ih
  exact hall b.destinationIds

theorem absent_of_no_session (hb : b.books.Accounted strays) (hnone : b.sessions[c]? = none) :
    Absent c b := by
  intro id n s hs hclient
  have hlisted := (hb.owned (holds_of_registered? hb hs)).2
  rw [Books.listed, getElem?_books_sessions, hclient, hnone] at hlisted
  cases hlisted

theorem disconnect_of_no_session (hb : b.books.Accounted strays) (env : Environment)
    (hnone : b.sessions[c]? = none) : disconnect env c b = (dropCounters c b, 0) := by
  have habsent : Absent c b := absent_of_no_session hb hnone
  rw [disconnect, disconnectIn, unsubscribeClient_of_absent hb _ habsent]
  dsimp only
  rw [terminate_of_no_session hnone]
  rfl

theorem unsubscribeAll_of_no_session (hb : b.books.Accounted strays) (env : Environment)
    (hnone : b.sessions[c]? = none) : unsubscribeAll env c b = (b, 0) := by
  have habsent : Absent c b := absent_of_no_session hb hnone
  rw [unsubscribeAll, unsubscribeAllIn, unsubscribeClient_of_absent hb _ habsent]
  dsimp only
  rw [terminate_of_no_session hnone]
  rfl

theorem getElem?_sessions_of_contains (h : b.sessions.contains c = false) :
    b.sessions[c]? = none := by
  rw [ExtTreeMap.contains_eq_isSome_getElem?] at h
  exact Option.not_isSome_iff_eq_none.mp (Bool.eq_false_iff.mp h)

/-- Throughout a run of a broker in which nobody calls back, both ways out do the same for a
client with a session: they answer the same number, leave the same state behind, and differ in
what they tell only by the reason for which subscriptions end. For a client without a session
giving up all subscriptions does nothing at all, while disconnecting drops the counters of the
client from the limiters. -/
theorem unsubscribeAll_disconnect (hbuilt : b₀.IsBuilt) (steps : List (Environment × Operation))
    (horderly : ∀ step ∈ steps, step.2.IsOrderly) (env : Environment)
    (hsilent : Silent env (b₀.run steps)) (c : ClientId) :
    ((b₀.run steps).sessions.contains c = true →
      ∃ (after : Broker) (n : Nat) (entries entries' : List Event),
        after.journal = (b₀.run steps).journal ∧
        unsubscribeAll env c (b₀.run steps) = (after.recordAll entries, n) ∧
        disconnect env c (b₀.run steps) = (after.recordAll entries', n) ∧
        SameButReason (b₀.run steps).hooks entries entries') ∧
      ((b₀.run steps).sessions.contains c = false →
        unsubscribeAll env c (b₀.run steps) = (b₀.run steps, 0) ∧
        disconnect env c (b₀.run steps) = (dropCounters c (b₀.run steps), 0)) := by
  have hb := (staysAccounted_run steps b₀ horderly [] hbuilt.accounted).1
  have hrest := atRest_run hbuilt.atRest steps
  generalize b₀.run steps = b at hsilent hb hrest ⊢
  constructor
  · intro hlive
    have hsame : SameButReason b.hooks (goodbye env c .client b) (goodbye env c .disconnect b) := by
      apply SameButReason.append _ (.refl _)
      exact .flatMap (sameButReason_departure env b.hooks c) b.destinations
    exact ⟨b.leave c, _, _, _, journal_leave c b, unsubscribeAll_of_session hb hrest hsilent hlive,
      disconnect_of_session (nodup_destinationIds hb) hrest hsilent hlive, hsame⟩
  · intro hends
    have hnone := getElem?_sessions_of_contains hends
    exact ⟨unsubscribeAll_of_no_session hb env hnone, disconnect_of_no_session hb env hnone⟩

theorem unsubscribeAll_disconnect_news :
    ∃ b₀ : Broker, b₀.IsBuilt ∧ (∀ step ∈ crowding, step.2.IsOrderly) ∧
      Silent quiet (b₀.run crowding) ∧ (b₀.run crowding).sessions.contains "ann" = true ∧
      ∃ (after : Broker) (entries entries' : List Event),
        unsubscribeAll quiet "ann" (b₀.run crowding) = (after.recordAll entries, 1) ∧
        disconnect quiet "ann" (b₀.run crowding) = (after.recordAll entries', 1) ∧
        SameButReason (b₀.run crowding).hooks entries entries' := by
  obtain ⟨b₀, hbuilt, hsilent, hlive, hcount⟩ :
      ∃ b₀ : Broker, b₀.IsBuilt ∧ Silent quiet (b₀.run crowding) ∧
        (b₀.run crowding).sessions.contains "ann" = true ∧
        (unsubscribeAll quiet "ann" (b₀.run crowding)).2 = 1 := by
    have hbuilt : IsBuilt _ := ⟨newsSettings, _, ⟨true, false, [], []⟩, rfl, rfl⟩
    exact ⟨_, hbuilt, silent_of_alone rfl rfl, rfl, rfl⟩
  have horderly : ∀ step ∈ crowding, step.2.IsOrderly := by
    simp [crowding, opening, quietly, Operation.IsOrderly]
  obtain ⟨after, n, entries, entries', -, hall, hleft, hsame⟩ :=
    (unsubscribeAll_disconnect hbuilt crowding horderly quiet hsilent "ann").1 hlive
  obtain rfl : n = 1 := by
    rw [hall] at hcount
    exact hcount
  exact ⟨b₀, hbuilt, horderly, hsilent, hlive, after, entries, entries', hall, hleft, hsame⟩

/-- The settings of a node that takes one message a second from each client. -/
def countingSettings : Settings := Settings.standard.addDestination
  { DestinationSettings.standard "news" with throttle := ⟨⟨.error, 1, 0⟩, ⟨.none, 0, 0⟩⟩ }

/-- A client sends a message without ever connecting. -/
def sending : List (Environment × Operation) := quietly [.start, .route note]

/-- The two ways out do not leave the same counters behind for every client. -/
theorem not_forall_unsubscribeAll_disconnect :
    ¬∀ (b₀ : Broker) (steps : List (Environment × Operation)) (env : Environment) (c : ClientId),
      b₀.IsBuilt → (∀ step ∈ steps, step.2.IsOrderly) → Silent env (b₀.run steps) →
        ∀ id, (unsubscribeAll env c (b₀.run steps)).1.limiter? id =
          (disconnect env c (b₀.run steps)).1.limiter? id := by
  intro hall
  obtain ⟨b₀, hbuilt, hsilent, hkept, hgone⟩ :
      ∃ b₀ : Broker, b₀.IsBuilt ∧ Silent quiet (b₀.run sending) ∧
        ((unsubscribeAll quiet "ann" (b₀.run sending)).1.limiter? "news").map
          (·.clients.contains "ann") = some true ∧
        ((disconnect quiet "ann" (b₀.run sending)).1.limiter? "news").map
          (·.clients.contains "ann") = some false := by
    have hbuilt : IsBuilt _ := ⟨countingSettings, _, ⟨true, false, [], []⟩, rfl, rfl⟩
    exact ⟨_, hbuilt, silent_of_alone rfl rfl, rfl, rfl⟩
  have horderly : ∀ step ∈ sending, step.2.IsOrderly := by
    simp [sending, quietly, Operation.IsOrderly]
  rw [hall b₀ sending quiet "ann" hbuilt horderly hsilent "news", hgone] at hkept
  cases hkept

end Broker

end MessageBroker
