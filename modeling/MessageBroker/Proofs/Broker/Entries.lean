/-
# The ways to the fan-out

A message fans out when a client sent it and neither the gate nor the inbound limiter nor the
adapter of its destination kept it, when another node passed it on, or when an adapter produced
it. Whichever way it came, nothing was done about it before but that it was counted, and from
there on its recipients and their fates are told alike.
-/

import MessageBroker.Proofs.Broker.Fanout

open Std

namespace MessageBroker

namespace Broker

variable {env : Environment} {b b' : Broker} {ctx : Context} {m : Message} {d : Destination}
  {ts : List Subtopic} {id : DestinationId} {settings : DestinationSettings} {hooks : HookTable}
  {l : Limiter}

/-- The ways on which a message can reach the fan-out. -/
inductive Entry where
  /-- A client of this node sent it. -/
  | client
  /-- Another node passed it on. -/
  | peer
  /-- The adapter of its destination produced it, for all or for the client that it names. -/
  | adapter (toAll : Bool)

namespace Entry

/-- Routes a message that comes in a way. -/
def route (env : Environment) (m : Message) (b : Broker) :
    Entry → Broker × Except BrokerError RouteResult
  | client => routeMessage env m b
  | peer => routeFromPeer env m b
  | adapter toAll => routeFromAdapter env m toAll b

/-- The only client that a message may be for, if it may not be for all. -/
def only (m : Message) : Entry → Option ClientId
  | adapter false => some m.client
  | _ => none

/-- The limiter of a destination when the fan-out begins. A message of a client was counted
on its way. -/
def limiter (env : Environment) (m : Message) (d : Destination) : Entry → Limiter
  | client => (inbound env d m).1
  | _ => d.limiter

end Entry

theorem locate_eq_ok (h : locate m b = .ok (d, ts)) :
    b.destination? m.destination = some d ∧ d.started = true ∧
      d.parseMessageSubtopics m.subtopics = .ok ts := by
  unfold locate at h
  cases hd : b.destination? m.destination with
  | none =>
    rw [requireStarted_of_none hd] at h
    cases h
  | some d' =>
    rw [requireStarted_of_some hd] at h
    cases hstarted : d'.started with
    | false =>
      rw [hstarted] at h
      cases h
    | true =>
      rw [hstarted, if_pos rfl] at h
      obtain ⟨_, hsame, hrest⟩ := Except.exists_of_bind_eq_ok h
      cases hsame
      obtain ⟨_, hts, hsame⟩ := Except.exists_of_bind_eq_ok hrest
      cases hsame
      exact ⟨rfl, hstarted, hts⟩

/-- The gate leads to where a message that needs no authorization goes. -/
theorem locate_of_passGate (h : (passGate env m b).2 = .ok (d, ts)) : locate m b = .ok (d, ts) := by
  rw [passGate] at h
  rw [locate]
  split at h
  · cases h
  next d' hd' =>
    rw [hd']
    dsimp only at h
    split at h
    · cases h
    · obtain ⟨ts', hts, hrest⟩ := Except.exists_of_bind_eq_ok h
      obtain ⟨_, -, hsame⟩ := Except.exists_of_bind_eq_ok hrest
      cases hsame
      show (d.parseMessageSubtopics m.subtopics >>= fun ts => pure (d, ts)) = _
      rw [hts]
      rfl

theorem scene_of_destination? (hd : b.destination? id = some d) :
    Scene d.id d.settings b.hooks d.limiter b :=
  ⟨⟨d, (mem_of_destination? hd).2 ▸ hd, rfl, rfl⟩, rfl⟩

theorem Scene.touch (h : Scene id settings hooks l b) (c : ClientId) (now : Timestamp) :
    Scene id settings hooks l (b.touch c now) := by
  rw [Broker.touch, onSession]
  split <;> exact ⟨h.located, h.hooks⟩

theorem onlyNoted_invoke (env : Environment) (adapter : Adapter) (m : Message) (b : Broker) :
    OnlyNoted b (invoke env adapter m b).1 := by
  cases adapter with
  | plain => exact .refl _ b
  | bridge name => exact onlyNoted_record rfl b
  | custom name => exact onlyNoted_record rfl b

theorem snd_checkInbound (env : Environment) (d : Destination) (m : Message) (b : Broker) :
    (checkInbound env d m b).2 = (inbound env d m).2 := by
  rw [checkInbound]
  dsimp only
  split <;> rfl

/-- A message that a client sent fans out when its adapter lets it pass. -/
theorem passOn_eq_delivered {result : RouteResult}
    (h : passOn ctx d m ts b = (b', .ok result)) (houtcome : result.outcome = .delivered) :
    fanout ctx d m ts none true (invoke ctx.env d.adapter m b).1 = (b', result) := by
  rw [passOn] at h
  split at h
  · cases h
  · cases h
    cases houtcome
  next heq =>
    rw [heq]
    dsimp only at h
    generalize fanout ctx d m ts none true _ = fannedOut at h
    cases h
    rfl

/-- A message of a client that fans out passed the gate and the inbound limiter. -/
theorem exists_passOn_of_routeMessage {result : RouteResult}
    (hroute : routeMessage env m b = (b', .ok result)) (houtcome : result.outcome = .delivered) :
    ∃ d ts, locate m b = .ok (d, ts) ∧
      passOn (b.context env) d m ts (limited env d m (receive env d m (passGate env m b).1)) =
        (b', .ok result) := by
  cases hgate : (passGate env m b).2 with
  | error e =>
    rw [routeMessage_of_error hgate] at hroute
    cases hroute
  | ok located =>
    obtain ⟨d, ts⟩ := located
    rw [routeMessage_of_ok hgate, ← Prod.eta (checkInbound _ _ _ _), snd_checkInbound] at hroute
    cases hverdict : (inbound env d m).2 with
    | denyError =>
      rw [hverdict] at hroute
      cases hroute
    | denyIgnore =>
      rw [hverdict] at hroute
      cases hroute
      cases houtcome
    | allow =>
      have hallowed : (inbound env d m).2.isAllowed = true := by rw [hverdict]; rfl
      rw [hverdict, checkInbound_of_allowed hallowed,
        context_of_onlyAsked env (onlyAsked_passGate env m b)] at hroute
      exact ⟨d, ts, locate_of_passGate hgate, hroute⟩

/-- A message that came in a way was located and fanned out, and nothing was done about it
before but to count it at the inbound limiter. -/
def ReachesFanout (env : Environment) (m : Message) (entry : Entry) (b b' : Broker)
    (result : RouteResult) : Prop :=
  ∃ d ts b₁ propagate, locate m b = .ok (d, ts) ∧
    Scene d.id d.settings b.hooks (entry.limiter env m d) b₁ ∧ b₁.traffic = b.traffic ∧
    fanout (b.context env) d m ts (entry.only m) propagate b₁ = (b', result)

theorem reachesFanout_routeMessage {result : RouteResult}
    (hroute : routeMessage env m b = (b', .ok result)) (houtcome : result.outcome = .delivered) :
    ReachesFanout env m .client b b' result := by
  obtain ⟨d, ts, hlocated, hpassed⟩ := exists_passOn_of_routeMessage hroute houtcome
  have hgated := onlyNoted_of_onlyAsked (onlyAsked_passGate env m b)
  have hinvoked := onlyNoted_invoke env d.adapter m
    (limited env d m (receive env d m (passGate env m b).1))
  have hreceived : (receive env d m (passGate env m b).1).traffic =
      (passGate env m b).1.traffic := (aside_onSession _ _ _).traffic
  have hscene := (scene_of_destination? (locate_eq_ok hlocated).1).onlyNoted hgated
  exact ⟨d, ts, _, true, hlocated,
    (((hscene.onTotals _ d.id).touch m.client env.now).onLimiter _).onlyNoted hinvoked,
    hinvoked.traffic.trans (hreceived.trans hgated.traffic), passOn_eq_delivered hpassed houtcome⟩

theorem reachesFanout_routeFromPeer {result : RouteResult}
    (hroute : routeFromPeer env m b = (b', .ok result)) :
    ReachesFanout env m .peer b b' result := by
  rw [routeFromPeer] at hroute
  split at hroute
  · cases hroute
  next d ts hlocated =>
    dsimp only at hroute
    generalize hfanout : fanout _ _ _ _ _ _ _ = fannedOut at hroute
    cases hroute
    exact ⟨d, ts, _, false, hlocated,
      (scene_of_destination? (locate_eq_ok hlocated).1).onTotals _ d.id, rfl, hfanout⟩

theorem reachesFanout_routeFromAdapter {toAll : Bool} {result : RouteResult}
    (hroute : routeFromAdapter env m toAll b = (b', .ok result)) :
    ReachesFanout env m (.adapter toAll) b b' result := by
  rw [routeFromAdapter] at hroute
  split at hroute
  · cases hroute
  next d ts hlocated =>
    have hscene := (scene_of_destination? (locate_eq_ok hlocated).1).onTotals
      (fun t => { t with fromAdapter := t.fromAdapter + 1 }) d.id
    dsimp only at hroute
    cases toAll with
    | true =>
      rw [if_pos rfl] at hroute
      generalize hfanout : fanout _ _ _ _ _ _ _ = fannedOut at hroute
      cases hroute
      exact ⟨d, ts, _, true, hlocated, hscene, rfl, hfanout⟩
    | false =>
      rw [if_neg Bool.false_ne_true] at hroute
      generalize hfanout : fanout _ _ _ _ _ _ _ = fannedOut at hroute
      cases hroute
      exact ⟨d, ts, _, false, hlocated, hscene, rfl, hfanout⟩

theorem reachesFanout_of_route {entry : Entry} {result : RouteResult}
    (hroute : entry.route env m b = (b', .ok result)) (houtcome : result.outcome = .delivered) :
    ReachesFanout env m entry b b' result := by
  cases entry with
  | client => exact reachesFanout_routeMessage hroute houtcome
  | peer => exact reachesFanout_routeFromPeer hroute
  | adapter toAll => exact reachesFanout_routeFromAdapter hroute

/-- Every message that reaches the fan-out goes to the clients with subscriptions that it is
for, each of them once; each meets with one fate, at the limit that its subscriptions ask for,
a copy is handed over for each that is neither too late nor over its limit, in ascending order
and for nobody else, and the numbers of the result are those of the fates. When the message
may be for all, the recipients are the clients that are found for it. -/
theorem fanout_exact (hb : b.IsReachable) {entry : Entry} {result : RouteResult}
    (hroute : entry.route env m b = (b', .ok result)) (houtcome : result.outcome = .delivered) :
    ∃ d rs, b.destination? m.destination = some d ∧ d.started = true ∧
      FansOut env d m (entry.only m) b.hooks (entry.limiter env m d) b b' result rs ∧
      result.recipients =
        result.delivered + result.throttled + result.expired + result.failed ∧
      (entry.only m = none →
        (findMatching env m.destination m.subtopics (contentOf m) b).2 =
          .ok (rs.map (·.client))) := by
  obtain ⟨d, ts, b₁, propagate, hlocated, hscene, htraffic, hfanout⟩ :=
    reachesFanout_of_route hroute houtcome
  obtain ⟨hd, hstarted, hts⟩ := locate_eq_ok hlocated
  obtain ⟨rs, hclients, hfans⟩ :=
    fanout_spec hb (aside_context env b) hd hts hscene (entry.only m) propagate
  rw [hfanout] at hfans
  refine ⟨d, rs, hd, hstarted, ?_, ?_, ?_⟩
  · exact { hfans with traffic := htraffic ▸ hfans.traffic }
  · rw [hfans.tallies.recipients, hfans.tallies.delivered, hfans.tallies.throttled,
      hfans.tallies.expired, hfans.tallies.failed]
    exact Recipient.length_eq_sum_count rs
  · intro hall
    rw [hclients, hall]
    exact findMatching_eq hd hts b₁

/-- A client subscribes once more, with a limit of its own, and so does another one. -/
def crowding : List (Environment × Operation) :=
  opening ++ quietly
    [.subscribe ⟨"news", "ann", none, none, some 3⟩, .subscribe ⟨"news", "bob", none, none, none⟩]

theorem fanout_exact_news :
    ∃ (b b' : Broker) (result : RouteResult), b.IsReachable ∧
      Entry.peer.route quiet note b = (b', .ok result) ∧ result.outcome = .delivered ∧
      result.recipients = 2 ∧
      ∃ d rs, FansOut quiet d note none b.hooks d.limiter b b' result rs ∧
        (findMatching quiet "news" [] (contentOf note) b).2 = .ok (rs.map (·.client)) := by
  obtain ⟨b, hreachable, hroute⟩ : ∃ b : Broker, b.IsReachable ∧
      (Entry.peer.route quiet note b).2 = .ok ⟨.delivered, 2, 2, 0, 0, 0, false⟩ := by
    have hbuilt : IsBuilt _ := ⟨newsSettings, _, ⟨true, false, [], []⟩, rfl, rfl⟩
    exact ⟨_, ⟨_, hbuilt, crowding, rfl⟩, rfl⟩
  have hrouted : Entry.peer.route quiet note b = (_, .ok _) := Prod.ext rfl hroute
  obtain ⟨d, rs, -, -, hfans, -, hfound⟩ := fanout_exact hreachable hrouted rfl
  exact ⟨b, _, _, hreachable, hrouted, rfl, rfl, d, rs, hfans, hfound rfl⟩

end Broker

end MessageBroker
