/-
# A client that is gone

Disconnecting a client takes everything about it out of a broker, whatever handlers and other
nodes have ended by calling back: they may end more than was asked for, but nobody comes back
in this way. Afterwards there is no subscription of the client in a registry, no number of one
in the table of owners, no session, and no counter of the client in a limiter.

Copies of messages go to those who have subscriptions. So whatever is done to a broker in
which a client has none, no copy is handed out for the client until it subscribes again.
-/

import MessageBroker.Proofs.Broker.Credentials
import MessageBroker.Proofs.Broker.Lookups

open Std

namespace MessageBroker

namespace Broker

variable {env : Environment} {b b' b'' : Broker} {c c' : ClientId} {id : DestinationId}
  {n : SubscriptionId} {s t : Subscription} {d : Destination} {strays : Strays}

/-! ## Nobody comes back -/

/-- A client has no subscriptions. -/
def Absent (c : ClientId) (b : Broker) : Prop :=
  ∀ {id n s}, b.registered? id n = some s → s.client ≠ c

theorem Alike.registered? (h : Alike b b') (id : DestinationId) (n : SubscriptionId) :
    b'.registered? id n = b.registered? id n := by
  obtain ⟨f, hf, hdestinations⟩ := h.destinations
  rw [Broker.registered?, destination?_map (fun d => (hf d).id) hdestinations, Broker.registered?]
  cases b.destination? id with
  | none => rfl
  | some d => exact congrArg (·.get? n) (hf d).registry

theorem registered?_of_onDestination (hd : b.destination? id = some d)
    {change : Destination → Destination} (hid : ∀ d, (change d).id = d.id)
    (hthin : ∀ n s, (change d).registry.get? n = some s → d.registry.get? n = some s)
    {id' : DestinationId} (hs : (b.onDestination id change).registered? id' n = some s) :
    b.registered? id' n = some s := by
  rw [registered?, destination?_onDestination _ hid] at hs
  obtain ⟨d', hd', hget⟩ := Option.bind_eq_some_iff.mp hs
  obtain ⟨d₀, hd₀, rfl⟩ := Option.map_eq_some_iff.mp hd'
  refine Option.bind_eq_some_iff.mpr ⟨d₀, hd₀, ?_⟩
  split at hget
  next heq =>
    have hsame : id' = id := (mem_of_destination? hd₀).2.symm.trans heq
    obtain rfl := Option.some.inj ((hsame ▸ hd).symm.trans hd₀)
    exact hthin n s hget
  next => exact hget

/-- Entering a subscription changes one registry, apart from numbers and listings. -/
theorem alike_enter (hd : b.destination? s.destination = some d)
    (hfind : (d.registry.ofClient s.client).find? s.sameFilter = none) :
    Alike (b.onDestination s.destination fun d' => { d' with registry := (d.registry.insert s).1 })
      (enter s b).1 := by
  have hnew : (d.registry.insert s).2.existing = false := by rw [Registry.insert_of_new hfind]
  have hid := (mem_of_destination? hd).2
  rw [enter]
  rw [hd]
  dsimp only
  rw [hnew, if_neg Bool.false_ne_true, hid]
  let b₁ := b.onDestination s.destination fun d' => { d' with registry := (d.registry.insert s).1 }
  let b₂ : Broker := { b₁ with owners := b₁.owners.insert s.id s.destination }
  let listing (session : Session) : Session :=
    { session with subscriptions := session.subscriptions.insert s.id s.destination }
  have howned : Alike b₁ b₂ := alike_of_eq rfl rfl rfl
  have hlisted : Alike b₁ (b₂.onSession s.client listing) :=
    howned.trans (alike_onSession listing (fun _ => rfl) b₂ s.client)
  have hcounted := hlisted.trans (alike_onTotals
    (fun t => { t with subscriptions := t.subscriptions.inc }) _ s.destination)
  exact hcounted.trans (alike_of_eq rfl rfl rfl)

/-- What is registered after a subscription was entered is that one or was there before. -/
theorem registered?_of_enter (ht : (enter s b).1.registered? id n = some t) :
    t = s ∨ b.registered? id n = some t := by
  cases hd : b.destination? s.destination with
  | none =>
    rw [enter] at ht
    rw [hd] at ht
    exact .inr ht
  | some d =>
    cases hfind : (d.registry.ofClient s.client).find? s.sameFilter with
    | some old =>
      rw [enter_of_existing hd hfind] at ht
      exact .inr ht
    | none =>
      rw [(alike_enter hd hfind).registered?, registered?,
        destination?_onDestination _ (by exact fun _ => rfl)] at ht
      obtain ⟨d', hd', hget⟩ := Option.bind_eq_some_iff.mp ht
      obtain ⟨d₀, hd₀, rfl⟩ := Option.map_eq_some_iff.mp hd'
      have hheld (hget : d₀.registry.get? n = some t) : b.registered? id n = some t :=
        Option.bind_eq_some_iff.mpr ⟨d₀, hd₀, hget⟩
      split at hget
      next heq =>
        obtain rfl : d₀ = d := by
          rw [← (mem_of_destination? hd₀).2, heq] at hd₀
          exact Option.some.inj (hd₀.symm.trans hd)
        dsimp only at hget
        rw [Registry.get?_insert_of_new hfind] at hget
        split at hget
        · exact .inl (Option.some.inj hget).symm
        · exact .inr (hheld hget)
      next => exact .inr (hheld hget)

/-- A client without subscriptions gets none, and no copy of a message. -/
structure Shuns (c : ClientId) (b b' : Broker) : Prop where
  adds : b.journal <+: b'.journal
  absent : Absent c b → Absent c b'
  nothing : Absent c b → ∀ m, Event.delivery c m ∉ entriesSince b b'

theorem Shuns.trans (h : Shuns c b b') (h' : Shuns c b' b'') : Shuns c b b'' := by
  refine ⟨h.adds.trans h'.adds, fun hb => h'.absent (h.absent hb), fun hb m => ?_⟩
  rw [entriesSince_trans h.adds h'.adds, List.mem_append, not_or]
  exact ⟨h.nothing hb m, h'.nothing (h.absent hb) m⟩

theorem shuns_of_journal_eq (hjournal : b'.journal = b.journal)
    (habsent : Absent c b → Absent c b') : Shuns c b b' := by
  refine ⟨hjournal ▸ List.prefix_rfl, habsent, fun _ m => ?_⟩
  rw [entriesSince, hjournal, List.drop_length]
  exact List.not_mem_nil

theorem shuns_of_registered? (hjournal : b'.journal = b.journal)
    (h : ∀ {id n s}, b'.registered? id n = some s → b.registered? id n = some s) :
    Shuns c b b' :=
  shuns_of_journal_eq hjournal fun hb _ _ _ hs => hb (h hs)

theorem shuns_record {e : Event} (he : ∀ m, e ≠ .delivery c m) (b : Broker) :
    Shuns c b (b.record e) := by
  refine ⟨List.prefix_append _ _, fun hb => hb, fun _ m => ?_⟩
  rw [entriesSince_of_eq_append (show _ = b.journal ++ [e] from rfl), List.mem_singleton]
  exact (he m).symm

theorem lasting_shuns (c : ClientId) : Lasting (Shuns c) := by
  have hsteady : Steady (Shuns c) := by
    constructor
    case trans => exact Shuns.trans
    case alike =>
      exact fun h => shuns_of_registered? h.journal fun hs => (h.registered? _ _).symm.trans hs
    case record =>
      intro b e he
      apply shuns_record
      rintro m rfl
      exact he
  apply hsteady.lasting
  · intro b id d hd change hid hthin
    exact shuns_of_registered? rfl (registered?_of_onDestination hd hid hthin)
  · intro b c' session _
    let ended : Broker :=
      { b with sessions := b.sessions.erase c', sessionGauge := b.sessionGauge.dec }
    have hended : Shuns c b ended := shuns_of_registered? rfl id
    have hdropped := hended.trans (hsteady.alike (alike_dropCounters c' ended))
    exact hdropped.trans (shuns_record (e := .notice (.sessionTerminated c')) nofun _)

theorem shuns_perform (env : Environment) {op : Operation} (hop : ¬op.Subscribes c) (b : Broker) :
    Shuns c b (perform env b op).1 := by
  have hperform (hb : Absent c b) : Shuns c b (perform env b op).1 := by
    have hset (c' : ClientId) (b : Broker) (change : Session → Session) :
        Shuns c b (b.onSession c' change) :=
      shuns_of_registered? (journal_onSession b c' change)
        fun hs => (registered?_onSession _ _).symm.trans hs
    apply (lasting_shuns c).perform
    · exact fun _ _ _ _ _ => shuns_of_registered? rfl id
    · exact fun c' now _ b => hset c' b _
    · apply (lasting_shuns c).handing
      · exact fun b c' m => (hset c' b _).trans
          (shuns_record (e := .notice (.messageDelivered c' m)) nofun _)
      · intro id n s hs m b'
        refine shuns_record (fun m' heq => hb hs ?_) b'
        injection heq
    · exact fun c' _ => hset c'
    · intro c' hc' s b hs
      apply shuns_of_journal_eq (journal_enter s b)
      intro hb id n t ht
      rcases registered?_of_enter ht with rfl | ht
      · rintro rfl
        exact hop (hs ▸ hc')
      · exact hb ht
  exact ⟨prefix_perform env op b, fun hb => (hperform hb).absent hb,
    fun hb => (hperform hb).nothing hb⟩

/-- Whatever is done, a client without subscriptions gets no copy of a message as long as it
does not subscribe. -/
theorem shuns_run (steps : List (Environment × Operation))
    (hsteps : ∀ step ∈ steps, ¬step.2.Subscribes c) (b : Broker) : Shuns c b (b.run steps) := by
  induction steps generalizing b with
  | nil => exact (lasting_shuns c).refl b
  | cons step steps ih =>
    have hfirst := shuns_perform step.1 (hsteps step List.mem_cons_self) b
    exact hfirst.trans (ih (fun other hother => hsteps other (List.mem_cons_of_mem _ hother)) _)

/-! ## Nothing is left -/

/-- Nothing that was on record about a client is on record any more. -/
structure Forgotten (c : ClientId) (b b' : Broker) : Prop where
  absent : Absent c b'
  /-- The numbers of its subscriptions belong to no destination. -/
  numbers : ∀ {id n s}, b.registered? id n = some s → s.client = c → b'.owners[n]? = none
  session : b'.sessions[c]? = none
  counters : ∀ d ∈ b'.destinations, d.limiter.clients[c]? = none

theorem getElem?_clients_removeClient (l : Limiter) (c c' : ClientId) :
    (l.removeClient c).clients[c']? = if c = c' then none else l.clients[c']? :=
  Maps.getElem?_erase_ite l.clients c c'

theorem getElem?_clients_foldl_removeClient {l : Limiter} (h : l.clients[c]? = none)
    (gone : List ClientId) : (gone.foldl Limiter.removeClient l).clients[c]? = none := by
  induction gone generalizing l with
  | nil => exact h
  | cons c' gone ih =>
    apply ih
    rw [getElem?_clients_removeClient, h, ite_self]

/-- What is called back for does not bring counters of a client. -/
theorem Aside.counters (h : Aside b b') (hb : ∀ d ∈ b.destinations, d.limiter.clients[c]? = none) :
    ∀ d ∈ b'.destinations, d.limiter.clients[c]? = none := by
  obtain ⟨f, hf, hdestinations⟩ := h.destinations
  intro d' hd'
  rw [hdestinations] at hd'
  obtain ⟨d, hd, rfl⟩ := List.mem_map.mp hd'
  obtain ⟨gone, hgone⟩ := (hf d).limiter
  rw [hgone]
  exact getElem?_clients_foldl_removeClient (hb d hd) gone

theorem counters_dropCounters (c : ClientId) (b : Broker) :
    ∀ d ∈ (dropCounters c b).destinations, d.limiter.clients[c]? = none := by
  intro d' hd'
  obtain ⟨d, -, rfl⟩ := List.mem_map.mp hd'
  exact (getElem?_clients_removeClient d.limiter c c).trans (if_pos rfl)

theorem terminate_of_no_session (h : b.sessions[c]? = none) (ctx : Context)
    (onlyIfEmpty : Bool) :
    terminate ctx c onlyIfEmpty b = if onlyIfEmpty then b else dropCounters c b := by
  rw [terminate]
  rw [h]

theorem terminate_forgets (env : Environment) (c : ClientId) (b b' : Broker) :
    (terminate (b.context env) c false b').sessions[c]? = none ∧
      ∀ d ∈ (terminate (b.context env) c false b').destinations,
        d.limiter.clients[c]? = none := by
  cases hsession : b'.sessions[c]? with
  | none =>
    have hdropped : terminate (b.context env) c false b' = dropCounters c b' :=
      terminate_of_no_session hsession (b.context env) false
    rw [hdropped]
    exact ⟨hsession, counters_dropCounters c b'⟩
  | some session =>
    let ended : Broker :=
      { b' with sessions := b'.sessions.erase c, sessionGauge := b'.sessionGauge.dec }
    have hgone : (dropCounters c ended).sessions[c]? = none :=
      (Maps.getElem?_erase_ite b'.sessions c c).trans (if_pos rfl)
    have hended : terminate (b.context env) c false b' =
        notify (b.context env) (.sessionTerminated c) (dropCounters c ended) := by
      rw [terminate]
      rw [hsession]
      rfl
    have hremains := (lasting_remains c).notify_of_record ((lasting_remains c).context env b)
      (.sessionTerminated c) (dropCounters c ended)
    have haside := aside_notify (aside_context env b) (n := .sessionTerminated c) rfl
      (dropCounters c ended)
    rw [hended]
    refine ⟨?_, haside.counters (counters_dropCounters c ended)⟩
    generalize notify (b.context env) (.sessionTerminated c) (dropCounters c ended) = b₁
      at hremains ⊢
    cases hlive : b₁.sessions[c]? with
    | none => rfl
    | some session' =>
      have hpresent : b₁.sessions.contains c = true := by
        rw [ExtTreeMap.contains_eq_isSome_getElem?, hlive]
        rfl
      have hthere : ((dropCounters c ended).sessions[c]?).isSome = true := by
        rw [← ExtTreeMap.contains_eq_isSome_getElem?]
        exact (hremains.2 hpresent).1
      rw [hgone] at hthere
      cases hthere

theorem client_ne_of_disconnect (hb : b.books.Accounted strays) (env : Environment)
    (hs : (disconnect env c b).1.books.Holds id s) : s.client ≠ c := by
  have hctx := keeps_context env b
  have hended := (keeps_unsubscribeClient hctx c .disconnect b strays hb).1
  have hnone {id : DestinationId} {s : Subscription}
      (hs : (unsubscribeClient (b.context env) c .disconnect b).1.books.Holds id s) :
      s.client ≠ c :=
    client_ne_of_unsubscribeClient hctx c .disconnect hb hs
  exact hnone ((keeps_terminate hctx c false hended fun _ _ _ => hnone).2.held hs)

/-- After a client was disconnected, a number that belongs to a destination is that of somebody
else's subscription, or a stray. -/
theorem owner_disconnect (hb : b.books.Accounted strays) (env : Environment)
    (howner : (disconnect env c b).1.owners[n]? = some id) :
    (∃ s, (disconnect env c b).1.registered? id n = some s ∧ b.registered? id n = some s ∧
      s.client ≠ c) ∨ ∃ s, s.id = n ∧ (id, s) ∈ strays := by
  have hctx := keeps_context env b
  obtain ⟨hended, hshrinks⟩ := keeps_disconnectIn hctx c b strays hb
  obtain ⟨s, rfl, hheld | hstray⟩ := hended.owners howner
  · left
    exact ⟨s, (holds_iff_registered? hended).mp hheld,
      (holds_iff_registered? hb).mp (hshrinks.held hheld), client_ne_of_disconnect hb env hheld⟩
  · exact .inr ⟨s, rfl, hstray⟩

/-- Nothing is on record about a client after it was disconnected. -/
theorem forgotten_disconnect (hb : b.books.Accounted strays) (env : Environment) (c : ClientId) :
    Forgotten c b (disconnect env c b).1 := by
  have hctx := keeps_context env b
  have hended := (keeps_disconnectIn hctx c b strays hb).1
  obtain ⟨hsession, hcounters⟩ :=
    terminate_forgets env c b (unsubscribeClient (b.context env) c .disconnect b).1
  refine ⟨fun hs => client_ne_of_disconnect hb env (holds_of_registered? hended hs), ?_, hsession,
    hcounters⟩
  intro id n s hs hclient
  cases howner : (disconnect env c b).1.owners[n]? with
  | none => rfl
  | some id' =>
    have hheld := holds_of_registered? hb hs
    have hnumber := id_eq_of_registered? hb hs
    cases owner_disconnect hb env howner with
    | inl hother =>
      obtain ⟨t, -, ht, hne⟩ := hother
      have hnumber' := id_eq_of_registered? hb ht
      obtain ⟨-, rfl⟩ := hb.single hheld (holds_of_registered? hb ht) (hnumber.trans hnumber'.symm)
      exact absurd hclient hne
    | inr hstray =>
      obtain ⟨t, hsame, ht⟩ := hstray
      exact absurd (hnumber.trans hsame.symm) ((hb.stray ht).2.2 hheld)

end Broker

end MessageBroker
