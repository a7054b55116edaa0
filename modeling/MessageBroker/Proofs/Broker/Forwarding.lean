/-
# Forwarding

A message goes on to other nodes at most once, when it fans out from the node that it entered the
cluster by: to all of them where messages are broadcast, and where they are shared, to those that
have announced a matching key, if there are any. It does not go on from a node that another one
passed it to, nor if it was for one client only, so no message goes round in circles.

What the cluster answers is told with the result and counted, and is of no account otherwise:
local delivery neither looks at it nor changes what forwarding looks at.
-/

import MessageBroker.Proofs.Broker.Acceptance
import MessageBroker.Proofs.Broker.Durations
import MessageBroker.Proofs.Broker.Links
import MessageBroker.Proofs.Broker.PeerMatching
import MessageBroker.Proofs.Broker.WaysOut

open Std

namespace MessageBroker

/-- The nodes that a message to some subtopics goes on to from a destination. -/
inductive Destination.ForwardsTo (env : Environment) (d : Destination) (m : Message)
    (ts : List Subtopic) : Targets → Prop
  | all (hmode : d.settings.routingMode = .broadcast) : ForwardsTo env d m ts .all
  | peers {ids : List PeerId} (hmode : d.settings.routingMode = .serverToServer)
      (hsome : ids ≠ []) (hascending : ids.Pairwise (· < ·))
      (hmatching : ∀ peer, peer ∈ ids ↔ ∃ key ∈ d.remote.keys peer,
        Broker.MatchingKey env d.settings.separator
          (Registry.subtopicsOrEmpty d.settings.separator ts) (Broker.contentOf m) key) :
      ForwardsTo env d m ts (.peers ids)

/-- Whether there is a cluster and it takes a message for some nodes. -/
def Environment.takes (env : Environment) (m : Message) (targets : Targets) : Bool :=
  env.cluster.any fun cluster => (cluster.forward targets m).isOk

/-- What the cluster was given. -/
def Traffic.forward? : Traffic → Option (Targets × Message)
  | .forward targets m => some (targets, m)
  | _ => none

/-- A destination goes by the settings and the announced keys that a broker has for its name. -/
def Destination.LinkedAs (b₀ : Broker) (d : Destination) : Prop :=
  ∃ d₀, b₀.destination? d.id = some d₀ ∧ d.settings = d₀.settings ∧ d.remote = d₀.remote

/-- Equal brokers whose destinations all go by the settings and the announced keys of a given
one. -/
def Likeness.linked (b₀ : Broker) : Likeness where
  __ := exact
  destination d d' := d' = d ∧ d.LinkedAs b₀
  id_eq := by rintro _ _ ⟨rfl, -⟩; rfl
  messageTtl_eq := by rintro _ _ ⟨rfl, -⟩; rfl
  registry_eq := by rintro _ _ ⟨rfl, -⟩; rfl
  announcing_eq := by rintro _ _ ⟨rfl, -⟩; rfl
  limiters := by rintro _ _ ⟨rfl, -⟩; rfl
  setRegistry := by rintro _ _ ⟨rfl, h⟩ _; exact ⟨rfl, h⟩
  setAnnouncing := by rintro _ _ ⟨rfl, h⟩ _; exact ⟨rfl, h⟩
  setLimiter := by rintro _ _ _ _ ⟨rfl, h⟩ rfl; exact ⟨rfl, h⟩
  onTotals := by rintro _ _ _ ⟨rfl, h⟩ _; exact ⟨rfl, h⟩

namespace Broker

variable {env : Environment} {b b' b₀ b₁ : Broker} {ctx : Context} {id : DestinationId}
  {d d' : Destination} {m : Message} {ts : List Subtopic} {entry : Entry} {e : Equipment}

/-- The messages that the cluster was given, oldest first, each with the nodes it was for. -/
def forwardings (b : Broker) : List (Targets × Message) := b.traffic.filterMap Traffic.forward?

theorem forwardings_of_traffic_eq (h : b'.traffic = b.traffic) : b'.forwardings = b.forwardings := by
  rw [forwardings, h, forwardings]

theorem forwardings_record (b : Broker) (e : Event) :
    (b.record e).forwardings = b.forwardings ++ (e.traffic?.bind Traffic.forward?).toList := by
  rw [forwardings, traffic_record, List.filterMap_append, ← forwardings]
  cases e.traffic? with
  | none => rfl
  | some t => cases h : t.forward? <;> simp [h]

/-- No part of a local delivery gives the cluster anything. -/
theorem filterMap_forward?_deliveries (m : Message) (rs : List Recipient) :
    (deliveries m rs).filterMap Traffic.forward? = [] := by
  have hreports (rs : List Recipient) : (Recipient.reports m rs).filterMap Traffic.forward? = [] := by
    rw [Recipient.reports, List.filterMap_map]
    exact List.filterMap_eq_nil_iff.mpr fun _ _ => rfl
  have hcopies (rs : List Recipient) : (Recipient.copies m rs).filterMap Traffic.forward? = [] := by
    rw [Recipient.copies, List.filterMap_map]
    exact List.filterMap_eq_nil_iff.mpr fun _ _ => rfl
  rw [deliveries, List.filterMap_append, List.filterMap_append, hreports, hcopies, hreports]
  rfl

/-! ## Where a message goes on to -/

/-- The nodes that a message goes on to from a destination, as the broker finds them out. -/
def targets? (env : Environment) (d : Destination) (m : Message) (ts : List Subtopic)
    (b : Broker) : Option Targets :=
  match d.settings.routingMode with
  | .none => none
  | .broadcast => some .all
  | .serverToServer =>
    let peers := (matchingPeers env d ts (contentOf m) b).2
    if peers.isEmpty then none else some (.peers peers)

/-- A broker finds out about the nodes that a message goes on to, and about no others. -/
theorem targets?_eq_some_iff {targets : Targets} :
    targets? env d m ts b = some targets ↔ d.ForwardsTo env m ts targets := by
  have hascending := pairwise_matchingPeers env d ts (contentOf m) b
  have hmatching := mem_matchingPeers env d ts (contentOf m) b
  rw [targets?]
  generalize (matchingPeers env d ts (contentOf m) b).2 = found at hascending hmatching ⊢
  cases hmode : d.settings.routingMode with
  | none =>
    refine ⟨nofun, fun h => ?_⟩
    cases h with
    | all h => exact nomatch hmode.symm.trans h
    | peers h => exact nomatch hmode.symm.trans h
  | broadcast =>
    constructor
    · rintro ⟨⟩
      exact .all hmode
    · intro h
      cases h with
      | all => rfl
      | peers h => exact nomatch hmode.symm.trans h
  | serverToServer =>
    dsimp only
    constructor
    · intro h
      split at h
      · cases h
      next hsome =>
        cases h
        exact .peers hmode (fun hnone => hsome (hnone ▸ rfl)) hascending hmatching
    · intro h
      cases h with
      | all h => exact nomatch hmode.symm.trans h
      | @peers ids _ hsome hascending' hmatching' =>
        have hsame : found = ids := by
          refine hascending.eq_of_mem_iff hascending' fun peer => ?_
          rw [hmatching, hmatching']
        rw [hsame, if_neg]
        rwa [List.isEmpty_iff]

theorem tellMessage_spec (hcluster : env.cluster.isSome = true) (id : DestinationId)
    (targets : Targets) (m : Message) (b : Broker) :
    (tellMessage env id targets m b).1.forwardings = b.forwardings ++ [(targets, m)] ∧
      (tellMessage env id targets m b).2 = env.takes m targets := by
  obtain ⟨cluster, hcluster⟩ := Option.isSome_iff_exists.mp hcluster
  have htold : (b.record (.forward targets m)).forwardings = b.forwardings ++ [(targets, m)] :=
    forwardings_record b _
  rw [tellMessage, Environment.takes, hcluster, Option.any_some]
  dsimp only
  cases cluster.forward targets m with
  | ok _ => exact ⟨htold, rfl⟩
  | error fault =>
    refine ⟨(forwardings_record _ _).trans ?_, rfl⟩
    rw [htold]
    exact List.append_nil _

/-- Forwarding gives the cluster a message for the nodes that it goes on to, if there are any,
and tells whether the cluster took it. -/
theorem forward_spec (hd : b.destination? id = some d)
    (hcluster : d.settings.routingMode ≠ .none → env.cluster.isSome = true) (m : Message)
    (ts : List Subtopic) :
    (forward env id m ts b).1.forwardings =
        b.forwardings ++ (targets? env d m ts b).toList.map (·, m) ∧
      (forward env id m ts b).2 = (targets? env d m ts b).any (env.takes m) := by
  have hnone : b.forwardings = b.forwardings ++ [] := (List.append_nil _).symm
  rw [forward, hd, targets?]
  dsimp only
  cases hmode : d.settings.routingMode with
  | none => exact ⟨hnone, rfl⟩
  | broadcast => exact tellMessage_spec (hcluster (by rw [hmode]; decide)) id .all m b
  | serverToServer =>
    have hlooked : (matchingPeers env d ts (contentOf m) b).1.forwardings = b.forwardings :=
      forwardings_of_traffic_eq
        (onlyNoted_of_lookups (lookups_matchingPeers env d ts (contentOf m) b)).traffic
    dsimp only
    split
    · exact ⟨hlooked.trans hnone, rfl⟩
    · rw [← hlooked]
      exact tellMessage_spec (hcluster (by rw [hmode]; decide)) id _ m _

/-! ## On the way to the fan-out -/

/-- All destinations go by settings and announced keys that another broker has for their names. -/
def Linked (b₀ b : Broker) : Prop := ∀ d ∈ b.destinations, d.LinkedAs b₀

theorem linked_self (hnames : b.destinationIds.Nodup) : Linked b b :=
  fun d hd => ⟨d, destination?_of_mem hnames hd, rfl, rfl⟩

theorem Linked.of_destinations_eq (h : Linked b₀ b) (hsame : b'.destinations = b.destinations) :
    Linked b₀ b' := by
  rw [Linked, hsame]
  exact h

theorem Linked.touch (h : Linked b₀ b) (c : ClientId) (now : Timestamp) :
    Linked b₀ (b.touch c now) := by
  rw [Broker.touch, onSession]
  split
  · exact h
  · exact h

theorem Linked.onDestination (h : Linked b₀ b) (id : DestinationId)
    (change : Destination → Destination)
    (hchange : ∀ d : Destination, d.LinkedAs b₀ → (change d).LinkedAs b₀) :
    Linked b₀ (b.onDestination id change) := by
  intro d' hd'
  obtain ⟨d, hd, rfl⟩ := List.mem_map.mp hd'
  split
  · exact hchange d (h d hd)
  · exact h d hd

theorem Linked.like (h : Linked b₀ b) : Like (.linked b₀) b b :=
  like_self (fun d hd => ⟨rfl, h d hd⟩) fun _ => rfl

/-- Local delivery leaves settings and announced keys as they are. -/
theorem Linked.deliverLocal (h : Linked b b₁) (hnames : b.destinationIds.Nodup)
    (hd : b.destination? id = some d) (env : Environment) (m : Message) (ts : List Subtopic)
    (only : Option ClientId) : Linked b (deliverLocal (b.context env) d m ts only b₁).1 := by
  have hctx := (Akin.of_like (linked_self hnames).like).context (.refl env)
  have hself : d.LinkedAs b := linked_self hnames d (mem_of_destination? hd).1
  obtain ⟨hdelivered, -⟩ := (Akin.of_like h.like).deliverLocal hctx ⟨rfl, hself⟩ m ts only
  exact fun d hd => (List.forall₂_same.mp hdelivered.destinations d hd).2

/-- Whether messages that come in a way may go on to other nodes. -/
def Entry.propagates : Entry → Bool
  | client => true
  | peer => false
  | adapter toAll => toAll

/-- A message stops on its way, and the cluster is not given anything; or it is located and fans
out, and until then nothing has happened that matters to forwarding. -/
inductive Proceeds (env : Environment) (m : Message) (entry : Entry) (b : Broker) :
    Broker × Except BrokerError RouteResult → Prop
  | stops {b' : Broker} {answer : Except BrokerError RouteResult}
      (hforwardings : b'.forwardings = b.forwardings) (hstopped : fannedOut? answer = none)
      (hkept : ∀ result, answer = .ok result → result.forwarded = false) :
      Proceeds env m entry b (b', answer)
  | fansOut {d : Destination} {ts : List Subtopic} {b₁ : Broker}
      (hlocated : locate m b = .ok (d, ts)) (hlinked : Linked b b₁)
      (hscene : ∃ l, Scene d.id d.settings b.hooks l b₁)
      (hforwardings : b₁.forwardings = b.forwardings) :
      Proceeds env m entry b
        ((fanout (b.context env) d m ts (entry.only m) entry.propagates b₁).1,
          .ok (fanout (b.context env) d m ts (entry.only m) entry.propagates b₁).2)

/-- A message that ends with an error stops. -/
theorem Proceeds.failed (h : b'.forwardings = b.forwardings) (e : BrokerError) :
    Proceeds env m entry b (b', .error e) := by
  refine .stops h rfl ?_
  rintro _ ⟨⟩

/-- What a destination has counted so far is of no account to a message that is located there. -/
theorem proceeds_of_located (env : Environment) (entry : Entry) (hnames : b.destinationIds.Nodup)
    (hlocated : locate m b = .ok (d, ts)) (change : Totals → Totals) :
    let fannedOut := fanout (b.context env) d m ts (entry.only m) entry.propagates
      (b.onTotals d.id change)
    Proceeds env m entry b (fannedOut.1, .ok fannedOut.2) := by
  refine .fansOut hlocated ((linked_self hnames).onDestination d.id _ fun _ h => h) ?_ rfl
  exact ⟨_, (scene_of_destination? (locate_eq_ok hlocated).1).onTotals change d.id⟩

theorem proceeds_routeFromPeer (env : Environment) (m : Message)
    (hnames : b.destinationIds.Nodup) : Proceeds env m .peer b (routeFromPeer env m b) := by
  cases hlocated : locate m b with
  | error e =>
    rw [routeFromPeer, hlocated]
    exact .failed rfl e
  | ok place =>
    rw [routeFromPeer_of_ok env hlocated]
    exact proceeds_of_located env .peer hnames hlocated _

theorem proceeds_routeFromAdapter (env : Environment) (m : Message) (toAll : Bool)
    (hnames : b.destinationIds.Nodup) :
    Proceeds env m (.adapter toAll) b (routeFromAdapter env m toAll b) := by
  cases hlocated : locate m b with
  | error e =>
    rw [routeFromAdapter, hlocated]
    exact .failed rfl e
  | ok place =>
    rw [routeFromAdapter_of_ok env toAll hlocated]
    exact proceeds_of_located env (.adapter toAll) hnames hlocated _

theorem proceeds_passOn (hlocated : locate m b = .ok (d, ts)) (hlinked : Linked b b₁)
    (hscene : ∃ l, Scene d.id d.settings b.hooks l b₁)
    (hforwardings : b₁.forwardings = b.forwardings) :
    Proceeds env m .client b (passOn (b.context env) d m ts b₁) := by
  have hinvoked : OnlyNoted b₁ (invoke (b.context env).env d.adapter m b₁).1 :=
    onlyNoted_invoke env d.adapter m b₁
  have hasked : (invoke (b.context env).env d.adapter m b₁).1.forwardings = b.forwardings :=
    (forwardings_of_traffic_eq hinvoked.traffic).trans hforwardings
  cases hanswer : invoke (b.context env).env d.adapter m b₁ with
  | mk b₂ answer =>
    rw [hanswer] at hinvoked hasked
    cases answer with
    | error e =>
      rw [passOn, hanswer]
      refine .failed ?_ e
      exact hasked
    | ok invocation =>
      cases invocation with
      | consumed =>
        rw [passOn, hanswer]
        refine .stops hasked rfl fun result hresult => ?_
        cases hresult
        rfl
      | fanout =>
        rw [passOn_of_fanout hanswer]
        obtain ⟨l, hscene⟩ := hscene
        obtain ⟨entries, hentries, hnoted⟩ := id hinvoked
        have hsame : b₂.destinations = b₁.destinations := congrArg (·.destinations) hnoted
        exact .fansOut hlocated (hlinked.of_destinations_eq hsame) ⟨l, hscene.onlyNoted hinvoked⟩
          hasked

theorem traffic_checkInbound (env : Environment) (d : Destination) (m : Message) (b : Broker) :
    (checkInbound env d m b).1.traffic = b.traffic := by
  rw [checkInbound]
  dsimp only
  split
  · rfl
  · rfl

theorem forwardings_notify_drop (hctx : ctx.Aside) (m : Message) (b : Broker) :
    (notify ctx (dropNotice m) b).forwardings = b.forwardings := by
  rw [forwardings, traffic_notify hctx rfl, List.filterMap_append]
  exact List.append_nil _

theorem proceeds_routeMessage (env : Environment) (m : Message) (hnames : b.destinationIds.Nodup) :
    Proceeds env m .client b (routeMessage env m b) := by
  have hasked := onlyAsked_passGate env m b
  have hnoted := onlyNoted_of_onlyAsked hasked
  have hgated := forwardings_of_traffic_eq hnoted.traffic
  cases hgate : (passGate env m b).2 with
  | error e =>
    rw [routeMessage_of_error hgate]
    exact .failed hgated e
  | ok place =>
    obtain ⟨d, ts⟩ := place
    have hlocated := locate_of_passGate hgate
    have hreceived : (receive env d m (passGate env m b).1).forwardings = b.forwardings :=
      (forwardings_of_traffic_eq (aside_onSession _ _ _).traffic).trans hgated
    have hlinked : Linked b (receive env d m (passGate env m b).1) := by
      obtain ⟨entries, -, hpassed⟩ := hasked
      have hsame : (passGate env m b).1.destinations = b.destinations :=
        congrArg (·.destinations) hpassed
      have hcounted := ((linked_self hnames).of_destinations_eq hsame).onDestination d.id
        (fun d => { d with totals := { d.totals with received := d.totals.received + 1 } })
        fun _ h => h
      exact hcounted.touch m.client env.now
    have hscene : Scene d.id d.settings b.hooks d.limiter
        (receive env d m (passGate env m b).1) :=
      (((scene_of_destination? (locate_eq_ok hlocated).1).onlyNoted hnoted).onTotals _ d.id).touch
        m.client env.now
    have hchecked : (checkInbound env d m (receive env d m (passGate env m b).1)).1.forwardings =
        b.forwardings := (forwardings_of_traffic_eq (traffic_checkInbound ..)).trans hreceived
    rw [routeMessage_of_ok hgate, ← Prod.eta (checkInbound _ _ _ _), snd_checkInbound,
      context_of_onlyAsked env hasked]
    cases hverdict : (inbound env d m).2 with
    | denyError => exact .failed hchecked _
    | denyIgnore =>
      refine .stops ((forwardings_notify_drop (aside_context env b) m _).trans hchecked) rfl ?_
      intro result hresult
      cases hresult
      rfl
    | allow =>
      rw [checkInbound_of_allowed (by rw [hverdict]; rfl)]
      exact proceeds_passOn hlocated (hlinked.onDestination d.id _ fun _ h => h)
        ⟨_, hscene.onLimiter fun _ => (inbound env d m).1⟩ hreceived

theorem proceeds_route (env : Environment) (m : Message) (entry : Entry)
    (hnames : b.destinationIds.Nodup) : Proceeds env m entry b (entry.route env m b) := by
  cases entry with
  | client => exact proceeds_routeMessage env m hnames
  | peer => exact proceeds_routeFromPeer env m hnames
  | adapter toAll => exact proceeds_routeFromAdapter env m toAll hnames

/-! ## What the cluster is given -/

theorem forwardsTo_congr (hsettings : d'.settings = d.settings) (hremote : d'.remote = d.remote)
    (env : Environment) (m : Message) (ts : List Subtopic) (targets : Targets) :
    d'.ForwardsTo env m ts targets ↔ d.ForwardsTo env m ts targets := by
  have himp {d d' : Destination} (hsettings : d'.settings = d.settings)
      (hremote : d'.remote = d.remote) (h : d'.ForwardsTo env m ts targets) :
      d.ForwardsTo env m ts targets := by
    cases h with
    | all hmode => exact .all (hsettings ▸ hmode)
    | peers hmode hsome hascending hmatching =>
      rw [hsettings] at hmode hmatching
      rw [hremote] at hmatching
      exact .peers hmode hsome hascending hmatching
  exact ⟨himp hsettings hremote, himp hsettings.symm hremote.symm⟩

/-- Where a message goes on to is the same before and after it has been delivered locally. -/
theorem exists_linked_deliverLocal (hnames : b.destinationIds.Nodup)
    (hlocated : locate m b = .ok (d, ts)) (hlinked : Linked b b₁)
    (hscene : ∃ l, Scene d.id d.settings b.hooks l b₁) (env : Environment)
    (only : Option ClientId) :
    ∃ d₂, (deliverLocal (b.context env) d m ts only b₁).1.destination? d.id = some d₂ ∧
      d₂.settings = d.settings ∧ d₂.remote = d.remote := by
  have hd := (locate_eq_ok hlocated).1
  obtain ⟨l, ⟨d₁, hd₁, -⟩, -⟩ := hscene
  -- The name is still taken afterwards, and whoever goes by it was linked all along.
  have hsheet := (charges_deliverLocal (aside_context env b) d m ts only b₁).sheet d.id
  rw [sheet?, sheet?, hd₁, Option.map_some, Option.map_some] at hsheet
  obtain ⟨d₂, hd₂, -⟩ := Option.map_eq_some_iff.mp hsheet
  obtain ⟨hmem, hid⟩ := mem_of_destination? hd₂
  obtain ⟨d₀, hd₀, hsettings, hremote⟩ := hlinked.deliverLocal hnames hd env m ts only d₂ hmem
  have hsame : d₀ = d := by
    rw [hid, (mem_of_destination? hd).2, hd] at hd₀
    exact (Option.some.inj hd₀).symm
  subst hsame
  exact ⟨d₂, hd₂, hsettings, hremote⟩

theorem forwardings_deliverLocal (hscene : ∃ l, Scene d.id d.settings b.hooks l b₁)
    (env : Environment) (m : Message) (ts : List Subtopic) (only : Option ClientId) :
    (deliverLocal (b.context env) d m ts only b₁).1.forwardings = b₁.forwardings := by
  obtain ⟨l, hlocal⟩ := hscene
  obtain ⟨-, rs, -, -, -, htraffic, -⟩ := deliverLocal_spec (aside_context env b) hlocal m ts only
  rw [forwardings, htraffic, List.filterMap_append, filterMap_forward?_deliveries]
  exact List.append_nil _

/-- A fan-out that may go on to other nodes gives the cluster the message for those that it goes
on to. -/
theorem fanout_forwards (hnames : b.destinationIds.Nodup) (hlocated : locate m b = .ok (d, ts))
    (hlinked : Linked b b₁) (hscene : ∃ l, Scene d.id d.settings b.hooks l b₁)
    (hcluster : d.settings.routingMode ≠ .none → env.cluster.isSome = true)
    (only : Option ClientId) :
    (fanout (b.context env) d m ts only true b₁).1.forwardings =
        b₁.forwardings ++ (targets? env d m ts b).toList.map (·, m) ∧
      (fanout (b.context env) d m ts only true b₁).2.forwarded =
        (targets? env d m ts b).any (env.takes m) := by
  obtain ⟨d₂, hd₂, hsettings, hremote⟩ :=
    exists_linked_deliverLocal hnames hlocated hlinked hscene env only
  have hlocal := forwardings_deliverLocal hscene env m ts only
  generalize hdelivered : deliverLocal (b.context env) d m ts only b₁ = delivered at hd₂ hlocal
  obtain ⟨b₂, result⟩ := delivered
  dsimp only at hd₂ hlocal
  have htargets : targets? env d₂ m ts b₂ = targets? env d m ts b := by
    ext targets
    rw [targets?_eq_some_iff, targets?_eq_some_iff, forwardsTo_congr hsettings hremote]
  obtain ⟨hforwardings, htaken⟩ := forward_spec hd₂ (hsettings ▸ hcluster) m ts
  rw [fanout_of_deliverLocal hdelivered]
  rw [htargets, hlocal] at hforwardings
  rw [htargets] at htaken
  exact ⟨hforwardings, htaken⟩

/-! ## Runs -/

/-- A run has led to a broker since it was built from accepted settings to work with given
things. -/
def IsReachableWith (e : Equipment) (b : Broker) : Prop :=
  ∃ (raw settings : Settings) (b₀ : Broker) (steps : List (Environment × Operation)),
    raw.accept = .ok settings ∧ build settings e = .ok b₀ ∧ b = b₀.run steps

theorem IsReachableWith.isReachable (h : b.IsReachableWith e) : b.IsReachable := by
  obtain ⟨raw, settings, b₀, steps, haccept, hbuild, hrun⟩ := h
  exact ⟨b₀, ⟨raw, settings, e, haccept, hbuild⟩, steps, hrun⟩

/-- A broker whose messages go on to other nodes was built to work with a cluster. -/
theorem IsReachableWith.cluster (h : b.IsReachableWith e) (hd : b.destination? id = some d)
    (hmode : d.settings.routingMode ≠ .none) : e.cluster = true := by
  obtain ⟨raw, settings, b₀, steps, haccept, hbuild, rfl⟩ := h
  have hbuilt : b₀.IsBuilt := ⟨raw, settings, e, haccept, hbuild⟩
  obtain ⟨hconfigured, -⟩ := goesBy_run hbuilt steps id d.sheet (congrArg (Option.map _) hd)
  have hsettings : b₀.settings = settings := by
    obtain ⟨_, -, rfl⟩ := destinations_of_build hbuild
    rfl
  rw [hsettings] at hconfigured
  have hsuits := (exists_build_eq_ok_iff (Settings.sound_of_accept haccept)
    fun _ _ hs => Settings.id_eq_of_accept haccept hs).mp ⟨b₀, hbuild⟩
  exact (hsuits.serves id d.settings hconfigured).cluster hmode

/-! ## The number of forwarded messages -/

/-- How many messages of a destination the cluster has taken. -/
def forwardedAt? (b : Broker) (id : DestinationId) : Option Nat :=
  (b.destination? id).map (·.totals.forwarded)

/-- Routing a message counts it as forwarded, at its destination, if its answer says so. -/
theorem exists_charges_route (env : Environment) (m : Message) (entry : Entry) (b : Broker) :
    ∃ f, Charges (Pi.single m.destination f) b (entry.route env m b).1 ∧
      f.forwarded = (fannedOut? (entry.route env m b).2).elim 0 (·.forwarded.toNat) := by
  have hfanout (answer : Except BrokerError RouteResult) :
      (fanoutFigures answer).forwarded = (fannedOut? answer).elim 0 (·.forwarded.toNat) := by
    rw [fanoutFigures]
    cases fannedOut? answer with
    | none => rfl
    | some result => rfl
  have hanswer (answer : Except BrokerError RouteResult) :
      (answerFigures answer).forwarded = (fannedOut? answer).elim 0 (·.forwarded.toNat) := by
    cases answer with
    | error e => cases e <;> rfl
    | ok result =>
      rw [answerFigures, fannedOut?]
      cases result.outcome with
      | delivered => rfl
      | dropped reason => rfl
      | handedOff => rfl
  cases entry with
  | client =>
    cases hgate : (passGate env m b).2 with
    | error e =>
      have hcharges := charges_routeMessage_of_error hgate
      refine ⟨0, hcharges.single_zero m.destination, ?_⟩
      rw [Entry.route, routeMessage_of_error hgate]
      rfl
    | ok place =>
      refine ⟨_, charges_routeMessage_of_ok hgate, ?_⟩
      exact (Nat.zero_add _).trans (hanswer _)
  | peer => exact ⟨_, charges_routeFromPeer env m b, hfanout _⟩
  | adapter toAll => exact ⟨_, charges_routeFromAdapter env m toAll b, hfanout _⟩

theorem forwardedAt?_route (env : Environment) (m : Message) (entry : Entry) (b : Broker)
    (id : DestinationId) :
    (entry.route env m b).1.forwardedAt? id = (b.forwardedAt? id).map fun n =>
      n + if id = m.destination then
        (fannedOut? (entry.route env m b).2).elim 0 (·.forwarded.toNat) else 0 := by
  obtain ⟨f, hcharges, hforwarded⟩ := exists_charges_route env m entry b
  have hsheet := congrArg (Option.map (·.figures.forwarded)) (hcharges.sheet id)
  rw [sheet?, sheet?, Option.map_map, Option.map_map, Option.map_map] at hsheet
  rw [forwardedAt?, forwardedAt?, Option.map_map]
  refine hsheet.trans (congrArg (fun f => Option.map f (b.destination? id)) ?_)
  funext d
  rw [← hforwarded]
  by_cases hid : id = m.destination
  · rw [hid, if_pos rfl, Function.comp_apply, Function.comp_apply, Pi.single_eq_same]
    rfl
  · rw [if_neg hid, Function.comp_apply, Function.comp_apply, Pi.single_eq_of_ne hid]
    rfl

/-! ## All ways -/

/-- A message that comes in a way fans out and goes on to nodes, if there are any that it may go
on to and that it goes on to from its destination. -/
def GoesOnTo (env : Environment) (m : Message) (entry : Entry) (b : Broker) (targets : Targets) :
    Prop :=
  entry.propagates = true ∧ (fannedOut? (entry.route env m b).2).isSome = true ∧
    ∃ d ts, locate m b = .ok (d, ts) ∧ d.ForwardsTo env m ts targets

/-- What the cluster is given when a message is routed, and what its answer makes of it. -/
structure Asks (env : Environment) (m : Message) (b : Broker) (asked : Option Targets)
    (x : Broker × Except BrokerError RouteResult) : Prop where
  forwardings : x.1.forwardings = b.forwardings ++ asked.toList.map (·, m)
  forwarded : ∀ result, x.2 = .ok result → result.forwarded = asked.any (env.takes m)
  counted : ∀ id, x.1.forwardedAt? id = (b.forwardedAt? id).map fun n =>
    n + if id = m.destination then (asked.any (env.takes m)).toNat else 0

theorem exists_asks_route (hnames : b.destinationIds.Nodup)
    (hcluster : ∀ d, b.destination? m.destination = some d → d.settings.routingMode ≠ .none →
      env.cluster.isSome = true) (entry : Entry) :
    ∃ asked, Asks env m b asked (entry.route env m b) ∧
      ∀ targets, asked = some targets ↔ GoesOnTo env m entry b targets := by
  have hcounted := forwardedAt?_route env m entry b
  have hproceeds := proceeds_route env m entry hnames
  unfold GoesOnTo
  generalize entry.route env m b = x at hcounted hproceeds
  cases hproceeds with
  | @stops b' answer hforwardings hstopped hkept =>
    rw [hstopped] at hcounted
    refine ⟨none, ⟨?_, hkept, hcounted⟩, fun targets => ?_⟩
    · exact hforwardings.trans (List.append_nil _).symm
    · simp [hstopped]
  | @fansOut d ts b₁ hlocated hlinked hscene hforwardings =>
    have hout : (fannedOut? (.ok (fanout (b.context env) d m ts (entry.only m)
        entry.propagates b₁).2)) = some _ := if_pos (outcome_fanout ..)
    rw [hout] at hcounted ⊢
    cases hpropagates : entry.propagates with
    | false =>
      have hlocal := forwardings_deliverLocal hscene env m ts (entry.only m)
      have hnot : (deliverLocal (b.context env) d m ts (entry.only m) b₁).2.forwarded = false := rfl
      rw [hpropagates] at hcounted
      rw [fanout_eq_deliverLocal] at hcounted ⊢
      generalize deliverLocal (b.context env) d m ts (entry.only m) b₁ = delivered
        at hlocal hnot hcounted ⊢
      rw [Option.elim_some, hnot] at hcounted
      refine ⟨none, ⟨?_, ?_, hcounted⟩, fun targets => by simp⟩
      · exact (hlocal.trans hforwardings).trans (List.append_nil _).symm
      · rintro result ⟨⟩
        exact hnot
    | true =>
      rw [hpropagates] at hcounted
      obtain ⟨hasked, htaken⟩ := fanout_forwards hnames hlocated hlinked hscene
        (hcluster d (locate_eq_ok hlocated).1) (entry.only m)
      generalize fanout (b.context env) d m ts (entry.only m) true b₁ = fannedOut
        at hasked htaken hcounted ⊢
      rw [Option.elim_some, htaken] at hcounted
      refine ⟨targets? env d m ts b, ⟨?_, ?_, hcounted⟩, fun targets => ?_⟩
      · rw [hasked, hforwardings]
      · rintro result ⟨⟩
        exact htaken
      · rw [targets?_eq_some_iff]
        constructor
        · exact fun h => ⟨rfl, rfl, d, ts, hlocated, h⟩
        · rintro ⟨-, -, d', ts', hlocated', h⟩
          cases hlocated.symm.trans hlocated'
          exact h

/-- Whatever way a message comes in, the cluster is given it once if it goes on to other nodes,
for exactly those nodes, and otherwise not at all. The result says that it was forwarded, and its
destination counts it as forwarded, exactly if the cluster was given it and took it. And whether
the cluster is given it, takes it or refuses it makes no difference to anything else: the same
copies are handed over, in the same order, the same handlers are called, the rest of the result is
the same, and so are all limiters and sessions in the end. -/
theorem forwarding_exact (hb : b.IsReachableWith e)
    (hcluster : e.cluster = true → env.cluster.isSome = true) (m : Message) (entry : Entry) :
    (∃ asked, Asks env m b asked (entry.route env m b) ∧
      ∀ targets, asked = some targets ↔ GoesOnTo env m entry b targets) ∧
    ∀ env' b', env.SameButForward env' → Like .links b b' →
      RoutedAlike b.journal b'.journal (entry.route env m b) (entry.route env' m b') := by
  obtain ⟨strays, haccounted⟩ := hb.isReachable.accounted
  refine ⟨exists_asks_route (nodup_destinationIds haccounted) ?_ entry, ?_⟩
  · exact fun d hd hmode => hcluster (hb.cluster hd hmode)
  · exact fun env' b' henv h => (Akin.of_like h).route henv m entry

/-- An environment with other nodes. -/
def networked : Environment := Script.environment ⟨∅, true, none, false, none, none⟩ 0

/-- The same, but for a cluster that takes no messages. -/
def severed : Environment :=
  { networked with
    cluster := networked.cluster.map fun nodes => { nodes with forward := fun _ _ => .error "down" } }

/-- A message about hockey. -/
def score : Message := { note with subtopics := ["sports.hockey"] }

theorem forwarding_exact_sports :
    ∃ (e : Equipment) (b : Broker), b.IsReachableWith e ∧ e.cluster = true ∧
      networked.cluster.isSome = true ∧
      Asks networked score b (some (.peers [2])) (Entry.client.route networked score b) ∧
      GoesOnTo networked score .client b (.peers [2]) ∧
      networked.SameButForward severed ∧
      RoutedAlike b.journal b.journal (Entry.client.route networked score b)
        (Entry.client.route severed score b) ∧
      (Entry.client.route networked score b).2 = .ok ⟨.delivered, 1, 1, 0, 0, 0, true⟩ ∧
      (Entry.client.route severed score b).2 = .ok ⟨.delivered, 1, 1, 0, 0, 0, false⟩ := by
  obtain ⟨b, hb, hbefore, hafter, hresult, hresult'⟩ : ∃ b : Broker,
      b.IsReachableWith ⟨true, true, [], []⟩ ∧ b.forwardings = [] ∧
      (Entry.client.route networked score b).1.forwardings = [(.peers [2], score)] ∧
      (Entry.client.route networked score b).2 = .ok ⟨.delivered, 1, 1, 0, 0, 0, true⟩ ∧
      (Entry.client.route severed score b).2 = .ok ⟨.delivered, 1, 1, 0, 0, 0, false⟩ := by
    have hrun : IsReachableWith ⟨true, true, [], []⟩ _ := ⟨sharedSettings, _, _,
      hearing ++ quietly [.subscribe ⟨"news", "ann", none, none, none⟩], rfl, rfl, rfl⟩
    exact ⟨_, hrun, rfl, rfl, rfl, rfl⟩
  have hsame : networked.SameButForward severed :=
    ⟨⟨rfl, rfl, rfl, .some ⟨rfl, rfl⟩⟩, rfl, rfl, rfl⟩
  have hcluster : (⟨true, true, [], []⟩ : Equipment).cluster = true →
      networked.cluster.isSome = true := fun _ => rfl
  obtain ⟨⟨asked, hasks, hasked⟩, halike⟩ := forwarding_exact hb hcluster score .client
  have hpeers : asked = some (.peers [2]) := by
    have hforwardings := hasks.forwardings
    rw [hafter, hbefore] at hforwardings
    cases asked with
    | none => cases hforwardings
    | some targets =>
      cases hforwardings
      rfl
  subst hpeers
  exact ⟨_, b, hb, rfl, rfl, hasks, (hasked _).mp rfl, hsame, halike severed b hsame
    (like_self (fun d _ => .refl d) fun _ => rfl), hresult, hresult'⟩

end Broker

end MessageBroker
