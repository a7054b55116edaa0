/-
# Messages from other nodes

A message that another node passed on was checked there, counted there and given to the cluster
there. What is left to do for it here is what is left to do for a message of a client once that
fans out, and it is done alike: the same copies are handed over in the same order, and the
outbound limiters count them the same.

Nothing else is done. The node leaves alone what belongs to messages that come in from its own
clients, it does not turn to the other nodes, and it does not ask who is logged in.
-/

import MessageBroker.Proofs.Broker.Forwarding
import MessageBroker.Proofs.Broker.LocalRuns

open Std

namespace MessageBroker

/-! ## Two likenesses -/

/-- Two destinations differ at most in the inbound counters and in the numbers of messages that
came in or went on to other nodes. -/
def Destination.SameOutbound (d d' : Destination) : Prop :=
  ∃ limiter received fromPeers fromAdapter forwarded, d.limiter.AgreeOn .outbound limiter ∧ d' =
    { d with
      limiter
      totals := { d.totals with received, fromPeers, fromAdapter, forwarded } }

theorem Destination.SameOutbound.refl (d : Destination) : d.SameOutbound d :=
  ⟨d.limiter, _, _, _, _, .refl _ _, rfl⟩

theorem Destination.SameOutbound.limiter {d d' : Destination} (h : d.SameOutbound d') :
    d.limiter.AgreeOn .outbound d'.limiter := by
  obtain ⟨_, _, _, _, _, hagree, rfl⟩ := h
  exact hagree

/-- Brokers that differ at most in what belongs to messages that come in or go on to other nodes,
and in when clients were last active. -/
def Likeness.outbound : Likeness where
  destination := Destination.SameOutbound
  limiter := Limiter.AgreeOn .outbound
  session s s' := ∃ lastActivity, s' = { s with lastActivity }
  id_eq := by rintro _ _ ⟨_, _, _, _, _, _, rfl⟩; rfl
  messageTtl_eq := by rintro _ _ ⟨_, _, _, _, _, _, rfl⟩; rfl
  registry_eq := by rintro _ _ ⟨_, _, _, _, _, _, rfl⟩; rfl
  announcing_eq := by rintro _ _ ⟨_, _, _, _, _, _, rfl⟩; rfl
  limiters := Destination.SameOutbound.limiter
  setRegistry := by rintro _ _ ⟨_, _, _, _, _, h, rfl⟩ _; exact ⟨_, _, _, _, _, h, rfl⟩
  setAnnouncing := by rintro _ _ ⟨_, _, _, _, _, h, rfl⟩ _; exact ⟨_, _, _, _, _, h, rfl⟩
  setLimiter := by rintro _ _ _ _ ⟨_, _, _, _, _, -, rfl⟩ h; exact ⟨_, _, _, _, _, h, rfl⟩
  onTotals := by
    rintro d _ change ⟨_, received, fromPeers, fromAdapter, forwarded, h, rfl⟩ hlocal
    exact ⟨_, received, fromPeers, fromAdapter, forwarded, h, by rw [hlocal]⟩
  verdict_eq h c requested now := (h.check c requested now).1
  check h c requested now := (h.check c requested now).2
  removeClient h c := h.removeClient c
  touch := by rintro _ _ ⟨_, rfl⟩ _; exact ⟨_, rfl⟩
  unlist := by rintro _ _ ⟨_, rfl⟩ _; exact ⟨_, rfl⟩

/-- Equal brokers but for who is logged in. -/
def Likeness.logins : Likeness where
  __ := exact
  session s s' := ∃ principal, s' = { s with principal }
  touch := by rintro _ _ ⟨_, rfl⟩ _; exact ⟨_, rfl⟩
  unlist := by rintro _ _ ⟨_, rfl⟩ _; exact ⟨_, rfl⟩

/-- Whether an entry of the journal is one that a message of a client leaves before it fans out. -/
def Event.IsAdmission : Event → Prop
  | .roleCheck .. | .bridge .. | .custom .. => True
  | _ => False

namespace Broker

variable {env env' : Environment} {b b' b₁ b₂ : Broker} {d : Destination} {m : Message}
  {ts : List Subtopic} {result : RouteResult} {id : DestinationId}

/-! ## Where messages of clients meet those of other nodes -/

theorem Like.of_journals {k : Likeness} {kind : Event → Prop} (h : Like k b b')
    (hjournals : Journals kind b b₁) : Like k b₁ b' := by
  obtain ⟨entries, -, rfl⟩ := hjournals
  exact ⟨h.destinations, h.sessions, h.bare⟩

/-- Counts a message of another node. -/
def countFromPeer (id : DestinationId) (b : Broker) : Broker :=
  b.onTotals id fun t => { t with fromPeers := t.fromPeers + 1 }

/-- A message of another node is counted and delivered locally. -/
theorem routeFromPeer_of_deliverLocal {delivered : Broker × RouteResult}
    (hlocated : locate m b = .ok (d, ts))
    (hdelivered : deliverLocal (b.context env) d m ts none (countFromPeer d.id b) = delivered) :
    routeFromPeer env m b = (delivered.1, .ok delivered.2) := by
  rw [routeFromPeer_of_ok env hlocated, fanout_eq_deliverLocal]
  exact congrArg (fun x : Broker × RouteResult => (x.1, Except.ok x.2)) hdelivered

theorem like_outbound_self (b : Broker) : Like .outbound b b :=
  like_self (fun d _ => .refl d) fun s => ⟨s.lastActivity, rfl⟩

/-- When a client was last active is of no account. -/
theorem Like.touch_left (h : Like .outbound b b') (c : ClientId) (now : Timestamp) :
    Like .outbound (b.touch c now) b' := by
  rw [touch, onSession]
  obtain ⟨hs, hs'⟩ | ⟨s, _, hs, hs', lastActivity, rfl⟩ := cases_of_rel (h.sessions c)
  · rw [hs]
    exact h
  · rw [hs]
    refine ⟨h.destinations, fun x => ?_, h.bare⟩
    dsimp only
    rw [Maps.getElem?_insert_ite]
    split
    next heq =>
      subst heq
      rw [hs']
      exact .some ⟨lastActivity, rfl⟩
    next => exact h.sessions x

/-- Nor is a limiter, as long as its outbound counters stay. -/
theorem Like.onLimiter_left (h : Like .outbound b b') {l : Limiter}
    (hl : ∀ d ∈ b.destinations, d.id = id → l.AgreeOn .outbound d.limiter) :
    Like .outbound (b.onLimiter id fun _ => l) b' := by
  refine ⟨?_, h.sessions, h.bare⟩
  rw [onLimiter, onDestination, List.forall₂_map_left_iff]
  refine ((List.forall₂_and_left _ _).mpr ⟨hl, h.destinations⟩).imp ?_
  rintro d _ ⟨hl, _, _, _, _, _, hagree, rfl⟩
  split
  next hid => exact ⟨_, _, _, _, _, (hl hid).trans hagree, rfl⟩
  next => exact ⟨_, _, _, _, _, hagree, rfl⟩

/-- Nor is it by which way a message came in. -/
theorem Like.count_ways (h : Like .outbound b b') (id : DestinationId) :
    Like .outbound (b.onTotals id fun t => { t with received := t.received + 1 })
      (countFromPeer id b') := by
  refine ((Akin.of_like h).onDestination id ?_).toLike
  rintro d _ ⟨_, _, _, _, _, hagree, rfl⟩
  exact ⟨_, _, _, _, _, hagree, rfl⟩

/-- A message that was admitted is where one from another node begins, as far as local delivery
is concerned. -/
theorem like_admitted (hnames : b.destinationIds.Nodup) (hd : b.destination? d.id = some d)
    (hasked : OnlyAsked b b₁) (env : Environment) (m : Message) :
    Like .outbound (limited env d m (receive env d m b₁)) (countFromPeer d.id b) := by
  have hasked' : Journals (fun e => ∃ p roles, e = .roleCheck p roles) b b₁ := hasked
  have hreceived : Like .outbound (receive env d m b₁) (countFromPeer d.id b) :=
    (((like_outbound_self b).of_journals hasked').count_ways d.id).touch_left m.client env.now
  have hnames' : (receive env d m b₁).destinationIds.Nodup := by
    rw [← (Akin.of_like hreceived).destinationIds_eq, countFromPeer, onTotals,
      destinationIds_onDestination _ (by exact fun _ => rfl)]
    exact hnames
  have hlimiter : (receive env d m b₁).limiter? d.id = some d.limiter := by
    obtain ⟨_, -, rfl⟩ := hasked
    rw [limiter?_receive]
    exact congrArg (Option.map _) hd
  refine hreceived.onLimiter_left fun d' hd' hid => ?_
  -- No other destination goes by this name, so the limiter is the one that was asked.
  rw [Broker.limiter?, ← hid, destination?_of_mem hnames' hd', Option.map_some] at hlimiter
  rw [Option.some.inj hlimiter]
  have hother : Direction.outbound ≠ .inbound := by decide
  exact (Limiter.agreeOn_check_of_ne hother d.limiter m.client none env.now).symm

/-- The adapter of a destination is called at most. -/
theorem admissions_invoke (env : Environment) (adapter : Adapter) (m : Message) (b : Broker) :
    Journals Event.IsAdmission b (invoke env adapter m b).1 := by
  cases adapter with
  | plain => exact .refl _ b
  | bridge name => exact journals_record trivial b
  | custom name => exact journals_record trivial b

/-- Until a message of a client fans out, the authorizer and the adapter are asked at most. -/
theorem exists_admissions (env : Environment) (adapter : Adapter) (d : Destination) (m : Message)
    (hasked : OnlyAsked b b₁) :
    ∃ before, (∀ e ∈ before, Event.IsAdmission e) ∧
      (invoke env adapter m (limited env d m (receive env d m b₁))).1.journal =
        b.journal ++ before := by
  obtain ⟨called, hcalled, hinvoked⟩ :=
    admissions_invoke env adapter m (limited env d m (receive env d m b₁))
  obtain ⟨asked, hasked, hgated⟩ := hasked
  have hlimited : (limited env d m (receive env d m b₁)).journal = b.journal ++ asked := by
    show (receive env d m b₁).journal = _
    rw [receive, touch, journal_onSession, hgated]
    rfl
  refine ⟨asked ++ called, fun e he => ?_, ?_⟩
  · obtain he | he := List.mem_append.mp he
    · obtain ⟨p, roles, rfl⟩ := hasked e he
      trivial
    · exact hcalled e he
  · rw [hinvoked, hlimited, List.append_assoc]

theorem limiter?_countForwarded (id : DestinationId) (taken : Bool) (b : Broker)
    (id' : DestinationId) : (countForwarded id taken b).limiter? id' = b.limiter? id' := by
  cases taken with
  | false => rfl
  | true => exact limiter?_onTotals (fun t => { t with forwarded := t.forwarded + 1 }) b id id'

theorem journal_countForwarded (id : DestinationId) (taken : Bool) (b : Broker) :
    (countForwarded id taken b).journal = b.journal := by
  cases taken with
  | false => rfl
  | true => rfl

theorem Like.limiter? (h : Like .outbound b b') (id : DestinationId) :
    Option.Rel (Limiter.AgreeOn .outbound) (b.limiter? id) (b'.limiter? id) := by
  rw [Broker.limiter?, Broker.limiter?]
  obtain ⟨hd, hd'⟩ | ⟨d, d', hd, hd', hrel⟩ := cases_of_rel ((Akin.of_like h).destination? id)
  · rw [hd, hd']
    exact .none
  · rw [hd, hd']
    exact .some (Destination.SameOutbound.limiter hrel)

/-- A message was delivered the same in two runs, of which the first may have forwarded it in the
end: the same entries were written, the result is the same but for that, and the outbound
counters are the same. -/
structure DeliveredAlike (j j' : List Event) (x x' : Broker × RouteResult) : Prop where
  result : x'.2 = { x.2 with forwarded := false }
  journal : ∃ entries after, (∀ e ∈ after, e.IsForwarding) ∧
    x.1.journal = j ++ entries ++ after ∧ x'.1.journal = j' ++ entries
  limiters : ∀ id, Option.Rel (Limiter.AgreeOn .outbound) (x.1.limiter? id) (x'.1.limiter? id)

/-- What fans out from brokers with the same outbound counters is delivered alike, whether it may
go on to other nodes or not. -/
theorem Like.fanout_deliverLocal {ctx : Context} (h : Like .outbound b b')
    (hctx : ctx.Akin .outbound ctx) (d : Destination) (m : Message) (ts : List Subtopic)
    (only : Option ClientId) :
    DeliveredAlike b.journal b'.journal (fanout ctx d m ts only true b)
      (deliverLocal ctx d m ts only b') := by
  have hnot : (deliverLocal ctx d m ts only b').2.forwarded = false := rfl
  obtain ⟨hdelivered, hresult⟩ :=
    (Akin.of_like h).deliverLocal hctx (Destination.SameOutbound.refl d) m ts only
  obtain ⟨b₁, taken, hjournals, hfanout⟩ := exists_journals_fanout ctx d m ts only true b
  -- Both deliver the same first; what the first run does after that is forwarding.
  generalize fanout ctx d m ts only true b = fannedOut at hfanout ⊢
  generalize deliverLocal ctx d m ts only b = delivered,
    deliverLocal ctx d m ts only b' = delivered' at hnot hdelivered hresult hjournals hfanout ⊢
  obtain ⟨b₂, result⟩ := delivered
  obtain ⟨b₂', result'⟩ := delivered'
  obtain ⟨after, hafter, rfl⟩ := hjournals
  obtain ⟨entries, hentries, hentries'⟩ := hdelivered.journal
  dsimp only at hnot hresult hentries hentries'
  subst hfanout hresult
  constructor
  case result =>
    cases result'
    cases hnot
    rfl
  case journal =>
    refine ⟨entries, after, hafter, ?_, hentries'⟩
    rw [journal_countForwarded, hentries]
  case limiters =>
    intro id
    rw [limiter?_countForwarded]
    exact hdelivered.toLike.limiter? id

/-- A message of another node is dealt with like a message of a client that fans out. -/
theorem routeFromPeer_of_routeMessage (hb : b.IsReachable)
    (hroute : routeMessage env m b = (b₁, .ok result)) (houtcome : result.outcome = .delivered) :
    ∃ b₂ result' before, (∀ e ∈ before, Event.IsAdmission e) ∧
      routeFromPeer env m b = (b₂, .ok result') ∧
      DeliveredAlike (b.journal ++ before) b.journal (b₁, result) (b₂, result') := by
  obtain ⟨strays, haccounted⟩ := hb.accounted
  obtain ⟨d, ts, hlocated, hpassed⟩ := exists_passOn_of_routeMessage hroute houtcome
  have hd := (locate_eq_ok hlocated).1
  have hid := (mem_of_destination? hd).2
  have hasked := onlyAsked_passGate env m b
  obtain ⟨before, hbefore, hjournal⟩ := exists_admissions env d.adapter d m hasked
  have hadmitted := (like_admitted (nodup_destinationIds haccounted) (hid.symm ▸ hd) hasked
    env m).of_journals (admissions_invoke env d.adapter m _)
  have hctx := (Akin.of_like (like_outbound_self b)).context (.refl env)
  have hdelivered := hadmitted.fanout_deliverLocal hctx d m ts none
  have hfanned : fanout (b.context env) d m ts none true (invoke env d.adapter m
      (limited env d m (receive env d m (passGate env m b).1))).1 = (b₁, result) :=
    passOn_eq_delivered hpassed houtcome
  rw [hfanned, hjournal] at hdelivered
  generalize hpeer : deliverLocal (b.context env) d m ts none (countFromPeer d.id b) = delivered
    at hdelivered
  exact ⟨delivered.1, delivered.2, before, hbefore, routeFromPeer_of_deliverLocal hlocated hpeer,
    hdelivered⟩

/-! ## What is left to other nodes -/

/-- A message of another node has been dealt with here. Apart from calls back by handlers that are
told what became of it, everything was done by the node itself. -/
structure DealtWithHere (env : Environment) (b b' : Broker) : Prop where
  run : LocalRun (b.context env) b b'
  forwardings : b'.forwardings = b.forwardings
  /-- The counters of clients may be gone that handlers disconnected. -/
  destinations : ∀ id d, b.destination? id = some d →
    ∃ (gone : List ClientId) (d' : Destination), b'.destination? id = some d' ∧
      Destination.SparesInbound { d with limiter := gone.foldl Limiter.removeClient d.limiter } d'
  silent : b.hooks.IsSilent → StaysLocal b b'

theorem dealtWithHere_of_localRun (hrun : LocalRun (b.context env) b b')
    (hforwardings : b'.forwardings = b.forwardings) : DealtWithHere env b b' where
  run := hrun
  forwardings := hforwardings
  destinations _ _ hd := hrun.exists_sparesInbound (aside_context env b) hd
  silent := hrun.staysLocal

theorem dealtWithHere_routeFromPeer (env : Environment) (m : Message) (b : Broker) :
    DealtWithHere env b (routeFromPeer env m b).1 := by
  cases hlocated : locate m b with
  | error e =>
    rw [routeFromPeer, hlocated]
    exact dealtWithHere_of_localRun (.refl _ b) rfl
  | ok place =>
    obtain ⟨d, ts⟩ := place
    have hscene := (scene_of_destination? (locate_eq_ok hlocated).1).onTotals
      (fun t => { t with fromPeers := t.fromPeers + 1 }) d.id
    have hforwardings := forwardings_deliverLocal ⟨_, hscene⟩ env m ts none
    have hcounted : LocalRun (b.context env) b (countFromPeer d.id b) :=
      .onTotals _ b d.id (fun t => { t with fromPeers := t.fromPeers + 1 }) fun _ => rfl
    have hrun := hcounted.trans (localRun_deliverLocal (aside_context env b) d m ts none _)
    rw [← countFromPeer] at hforwardings
    generalize hpeer : deliverLocal (b.context env) d m ts none (countFromPeer d.id b) = delivered
      at hforwardings hrun
    rw [routeFromPeer_of_deliverLocal hlocated hpeer]
    exact dealtWithHere_of_localRun hrun hforwardings

/-- Who is logged in makes no difference to a message of another node, nor does the authorizer. -/
theorem Like.routeFromPeer (henv : env.Alike env') (h : Like .logins b b') (m : Message) :
    Alike₂ .logins b.journal b'.journal (routeFromPeer env m b) (routeFromPeer env' m b') := by
  have hsame : b'.destinations = b.destinations := (List.forall₂_eq_eq_eq ▸ h.destinations).symm
  have hplace : locate m b' = locate m b := by
    rw [locate, locate, requireStarted, requireStarted, requireDestination, requireDestination,
      Broker.destination?, Broker.destination?, hsame]
  cases hlocated : locate m b with
  | error e =>
    rw [Broker.routeFromPeer, Broker.routeFromPeer, hplace, hlocated]
    exact ⟨.of_like h, rfl⟩
  | ok place =>
    obtain ⟨d, ts⟩ := place
    have hctx := (Akin.of_like h).context henv
    have hcounted : Akin .logins b.journal b'.journal (countFromPeer d.id b)
        (countFromPeer d.id b') :=
      (Akin.of_like h).onDestination d.id fun d' _ (hd : d' = _) => hd ▸ rfl
    have hdelivered := hcounted.deliverLocal hctx (rfl : d = d) m ts none
    generalize hpeer : deliverLocal (b.context env) d m ts none (countFromPeer d.id b) = delivered,
      hpeer' : deliverLocal (b'.context env') d m ts none (countFromPeer d.id b') = delivered'
      at hdelivered
    rw [routeFromPeer_of_deliverLocal hlocated hpeer,
      routeFromPeer_of_deliverLocal (hplace.trans hlocated) hpeer']
    exact ⟨hdelivered.1, congrArg Except.ok hdelivered.2⟩

/-- Wherever a message of a client fans out, the same message of another node is delivered to the
same clients in the same order, with the same outbound counters afterwards and with the same
result, but for not having been forwarded. Whatever the state is, a message of another node goes
on to no other nodes and is not counted as received, and by itself the node neither changes an
inbound counter nor asks the cluster or the authorizer for anything. Nor does it matter who is
logged in. -/
theorem routeFromPeer_exact (env : Environment) (m : Message) (b : Broker) :
    (b.IsReachable → ∀ b₁ result, routeMessage env m b = (b₁, .ok result) →
      result.outcome = .delivered → ∃ b₂ result' before, (∀ e ∈ before, Event.IsAdmission e) ∧
        routeFromPeer env m b = (b₂, .ok result') ∧
        DeliveredAlike (b.journal ++ before) b.journal (b₁, result) (b₂, result')) ∧
    DealtWithHere env b (routeFromPeer env m b).1 ∧
    ∀ env' b', env.Alike env' → Like .logins b b' →
      Alike₂ .logins b.journal b'.journal (routeFromPeer env m b) (routeFromPeer env' m b') := by
  refine ⟨fun hb b₁ result hroute houtcome => ?_, ?_, fun env' b' henv h => ?_⟩
  · exact routeFromPeer_of_routeMessage hb hroute houtcome
  · exact dealtWithHere_routeFromPeer env m b
  · exact h.routeFromPeer henv m

/-- An environment with other nodes whose authorizer permits nothing. -/
def forbidding : Environment :=
  { networked with authorizer := ⟨fun _ _ => .ok false, fun _ _ _ _ => false⟩ }

/-- The same broker with nobody logged in. -/
def anonymous (b : Broker) : Broker :=
  { b with sessions := b.sessions.map fun _ s => { s with principal := none } }

theorem like_anonymous (b : Broker) : Like .logins b b.anonymous where
  destinations := List.forall₂_same.mpr fun _ _ => rfl
  sessions c := by
    show Option.Rel _ _ (b.sessions.map _)[c]?
    rw [ExtTreeMap.getElem?_map]
    cases b.sessions[c]? with
    | none => exact .none
    | some s => exact .some ⟨none, rfl⟩
  bare := rfl

theorem routeFromPeer_exact_sports :
    ∃ b b₁ b₂ : Broker, b.IsReachable ∧
      routeMessage networked score b = (b₁, .ok ⟨.delivered, 1, 1, 0, 0, 0, true⟩) ∧
      routeFromPeer networked score b = (b₂, .ok ⟨.delivered, 1, 1, 0, 0, 0, false⟩) ∧
      b₁.forwardings = [(.peers [2], score)] ∧ b₂.forwardings = [] ∧ StaysLocal b b₂ ∧
      networked.Alike forbidding ∧ (routeMessage forbidding score b.anonymous).2.isOk = false ∧
      (routeFromPeer forbidding score b.anonymous).2 =
        .ok ⟨.delivered, 1, 1, 0, 0, 0, false⟩ := by
  obtain ⟨b, hb, hbefore, hforwardings, hresult, hsilent, hforbidden⟩ : ∃ b : Broker,
      b.IsReachable ∧ b.forwardings = [] ∧
      (routeMessage networked score b).1.forwardings = [(.peers [2], score)] ∧
      (routeMessage networked score b).2 = .ok ⟨.delivered, 1, 1, 0, 0, 0, true⟩ ∧
      b.hooks.IsSilent ∧ (routeMessage forbidding score b.anonymous).2.isOk = false := by
    have hrun : IsReachableWith ⟨true, true, [], []⟩ _ := ⟨sharedSettings, _, _,
      hearing ++ quietly [.subscribe ⟨"news", "ann", none, none, none⟩], rfl, rfl, rfl⟩
    exact ⟨_, hrun.isReachable, rfl, rfl, rfl, nofun, rfl⟩
  obtain ⟨halike, hdealt, hlogins⟩ := routeFromPeer_exact networked score b
  obtain ⟨b₂, result', before, -, hpeer, hdelivered⟩ := halike hb _ _ (Prod.ext rfl hresult) rfl
  have hsame : networked.Alike forbidding := ⟨rfl, rfl, rfl, .some ⟨rfl, rfl⟩⟩
  obtain ⟨-, hanswer⟩ := hlogins forbidding b.anonymous hsame (like_anonymous b)
  have hnot := hdelivered.result
  dsimp only at hnot
  rw [hpeer] at hdealt hanswer
  rw [hnot] at hpeer hanswer
  exact ⟨b, _, b₂, hb, Prod.ext rfl hresult, hpeer, hforwardings,
    hdealt.forwardings.trans hbefore, hdealt.silent hsilent, hsame, hforbidden, hanswer⟩

end Broker

end MessageBroker
