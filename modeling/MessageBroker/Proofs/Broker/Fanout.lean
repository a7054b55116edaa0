/-
# What becomes of a message for its recipients

For each of its recipients a message meets with one of four fates. Two are settled while the
recipients are screened, in ascending order: the message is too old, or the outbound limiter
refuses it. All others are given a copy, in the same order, and then it is settled whether the
transport took it.

The fates are told as a course of the limiter: each check finds it as the checks before have
left it. Handlers that are told of a fate may call back; to the checks that come later this
makes no difference but that the limiter may have forgotten some clients.
-/

import MessageBroker.Proofs.Broker.Recipients
import MessageBroker.Proofs.Broker.Refusals

open Std

namespace MessageBroker

/-- None of the handlers calls back. -/
def HookTable.IsSilent (t : HookTable) : Prop := ∀ n, ∀ h ∈ t.round n, h.callback n = none

/-- What becomes of a message for one recipient. -/
inductive Fate where
  /-- The transport took the copy. -/
  | delivered
  /-- The transport was given the copy and failed. -/
  | failed
  /-- The outbound limiter refused the message. -/
  | throttled
  /-- The message was too old. -/
  | expired
  deriving DecidableEq, Repr

namespace Fate

/-- Whether the transport is given a copy. -/
def isHanded : Fate → Bool
  | delivered | failed => true
  | throttled | expired => false

/-- What handlers are told of a fate. -/
def notice (m : Message) (c : ClientId) : Fate → Notice
  | delivered => .messageDelivered c m
  | failed => .messageDropped (some c) m .deliveryFailed
  | throttled => .messageDropped (some c) m .outboundThrottled
  | expired => .messageExpired c m

end Fate

/-- A recipient of a message, with the limit that its subscriptions ask for and the fate of
the message. -/
structure Recipient where
  client : ClientId
  requested : Option Nat
  fate : Fate

namespace Recipient

variable {rs rs' : List Recipient} {m : Message}

/-- The recipients that are given a copy. -/
def handed (rs : List Recipient) : List Recipient := rs.filter (·.fate.isHanded)

/-- The recipients that are not given a copy. -/
def kept (rs : List Recipient) : List Recipient := rs.filter (!·.fate.isHanded)

/-- The number of recipients for whom a message meets with a fate. -/
def count (fate : Fate) (rs : List Recipient) : Nat := rs.countP (·.fate = fate)

/-- What is reported about recipients. -/
def reports (m : Message) (rs : List Recipient) : List Traffic :=
  rs.map fun r => .report (r.fate.notice m r.client)

/-- The copies for recipients. -/
def copies (m : Message) (rs : List Recipient) : List Traffic :=
  rs.map fun r => .copy r.client m

theorem handed_append : handed (rs ++ rs') = handed rs ++ handed rs' :=
  List.filter_append ..

theorem kept_append : kept (rs ++ rs') = kept rs ++ kept rs' := List.filter_append ..

theorem reports_append : reports m (rs ++ rs') = reports m rs ++ reports m rs' :=
  List.map_append

theorem count_append (fate : Fate) :
    count fate (rs ++ rs') = count fate rs + count fate rs' :=
  List.countP_append

theorem count_handed {fate : Fate} (h : fate.isHanded = true) (rs : List Recipient) :
    count fate (handed rs) = count fate rs := by
  rw [count, handed, List.countP_filter]
  refine List.countP_congr fun r _ => ?_
  simp only [Bool.and_eq_true, decide_eq_true_eq]
  exact and_iff_left_of_imp fun hfate => hfate ▸ h

/-- Every recipient meets with exactly one of the fates. -/
theorem length_eq_sum_count (rs : List Recipient) :
    rs.length =
      count .delivered rs + count .throttled rs + count .expired rs +
        count .failed rs := by
  induction rs with
  | nil => rfl
  | cons r rs ih =>
    simp only [count, List.countP_cons, List.length_cons] at ih ⊢
    cases r.fate <;> simp <;> omega

end Recipient

namespace Broker

variable {env : Environment} {b b' : Broker} {ctx : Context} {m : Message} {d : Destination}
  {ts : List Subtopic} {id : DestinationId} {c : ClientId} {n : Notice}
  {settings : DestinationSettings} {hooks : HookTable} {l : Limiter} {strays : Strays}

/-! ## The scene of a fan-out -/

/-- A destination is there with some settings and a limiter, and the hooks are given ones. -/
structure Scene (id : DestinationId) (settings : DestinationSettings) (hooks : HookTable)
    (l : Limiter) (b : Broker) : Prop where
  located : ∃ d, b.destination? id = some d ∧ d.settings = settings ∧ d.limiter = l
  hooks : b.hooks = hooks

theorem Scene.onlyNoted (h : Scene id settings hooks l b) (hnoted : OnlyNoted b b') :
    Scene id settings hooks l b' := by
  obtain ⟨entries, -, rfl⟩ := hnoted
  exact ⟨h.located, h.hooks⟩

theorem Scene.aside (h : Scene id settings hooks l b) (hside : Aside b b') :
    ∃ gone : List ClientId, Scene id settings hooks (gone.foldl Limiter.removeClient l) b' := by
  obtain ⟨⟨d, hd, rfl, rfl⟩, rfl⟩ := h
  obtain ⟨d', hd', hbeside⟩ := hside.exists_destination? hd
  obtain ⟨gone, hgone⟩ := hbeside.limiter
  exact ⟨gone, ⟨d', hd', hbeside.settings, hgone⟩, hside.hooks⟩

theorem Scene.onTotals (h : Scene id settings hooks l b) (change : Totals → Totals)
    (id' : DestinationId) : Scene id settings hooks l (b.onTotals id' change) := by
  obtain ⟨⟨d, hd, rfl, rfl⟩, rfl⟩ := h
  have hd' := destination?_onDestination (fun d => { d with totals := change d.totals })
    (fun _ => rfl) b id' id
  rw [hd] at hd'
  refine ⟨⟨_, hd', ?_, ?_⟩, rfl⟩
  all_goals
    dsimp only
    split <;> rfl

theorem Scene.onLimiter (h : Scene id settings hooks l b) (change : Limiter → Limiter) :
    Scene id settings hooks (change l) (b.onLimiter id change) := by
  obtain ⟨⟨d, hd, rfl, rfl⟩, rfl⟩ := h
  exact ⟨⟨_, destination?_onDestination_self (fun d => { d with limiter := change d.limiter })
    (fun _ => rfl) hd, rfl, rfl⟩, rfl⟩

/-- Handlers that are told something make the limiter forget clients at most, and nothing
when they do not call back. -/
theorem Scene.notify (h : Scene id settings hooks l b) (hctx : ctx.Aside) (n : Notice) :
    ∃ gone : List ClientId, (hooks.IsSilent → gone = []) ∧
      Scene id settings hooks (gone.foldl Limiter.removeClient l) (notify ctx n b) := by
  by_cases hsilent : hooks.IsSilent
  · refine ⟨[], fun _ => rfl, ?_⟩
    rw [notify_of_silent (h.hooks ▸ hsilent n)]
    exact ⟨h.located, h.hooks⟩
  · have hrecord : Scene id settings hooks l (b.record (.notice n)) := ⟨h.located, h.hooks⟩
    obtain ⟨gone, hscene⟩ := hrecord.aside (aside_notify_of_record hctx n b)
    exact ⟨gone, fun hcontra => absurd hcontra hsilent, hscene⟩

theorem traffic_notify (hctx : ctx.Aside) (hn : n.isReport = true) (b : Broker) :
    (notify ctx n b).traffic = b.traffic ++ [.report n] := by
  have hreport : (Event.notice n).traffic? = some (.report n) := if_pos hn
  rw [(aside_notify_of_record hctx n b).traffic, traffic_record, hreport]
  rfl

/-! ## Screening -/

/-- How one recipient is screened, with the fate of the message and the limiter that is left.
The clients that the limiter has forgotten are those for whom handlers call back. -/
inductive Meets (env : Environment) (d : Destination) (m : Message) (gone : List ClientId)
    (l : Limiter) (c : ClientId) (requested : Option Nat) : Fate → Limiter → Prop
  | expired (h : isExpired d m env.now = true) :
      Meets env d m gone l c requested .expired (gone.foldl Limiter.removeClient l)
  | throttled (hfresh : isExpired d m env.now = false)
      (h : (l.check .outbound c requested env.now).2.isAllowed = false) :
      Meets env d m gone l c requested .throttled
        (gone.foldl Limiter.removeClient (l.check .outbound c requested env.now).1)
  | delivered (hfresh : isExpired d m env.now = false)
      (h : (l.check .outbound c requested env.now).2.isAllowed = true) (hgone : gone = [])
      (hanswer : env.deliver c m = .ok ()) :
      Meets env d m gone l c requested .delivered (l.check .outbound c requested env.now).1
  | failed {fault : Fault} (hfresh : isExpired d m env.now = false)
      (h : (l.check .outbound c requested env.now).2.isAllowed = true) (hgone : gone = [])
      (hanswer : env.deliver c m = .error fault) :
      Meets env d m gone l c requested .failed (l.check .outbound c requested env.now).1

/-- The fates of a message for its recipients, as the limiter of the destination goes from
one check to the next. -/
inductive Fates (env : Environment) (d : Destination) (m : Message) :
    List ClientId → Limiter → List Recipient → Prop
  | nil {l : Limiter} : Fates env d m [] l []
  | cons {gone gone' : List ClientId} {l l' : Limiter} {r : Recipient} {rs : List Recipient}
      (hmeets : Meets env d m gone l r.client r.requested r.fate l')
      (hrest : Fates env d m gone' l' rs) : Fates env d m (gone ++ gone') l (r :: rs)

/-- What screening recipients adds to what is known of a message. -/
structure Screened (m : Message) (rs : List Recipient) (w w' : Screening) : Prop where
  targets : w'.targets = w.targets ++ (Recipient.handed rs).map (·.client)
  traffic : w'.broker.traffic = w.broker.traffic ++ Recipient.reports m (Recipient.kept rs)
  expired : w'.expired = w.expired + Recipient.count .expired rs
  throttled : w'.throttled = w.throttled + Recipient.count .throttled rs

theorem Screened.trans {rs rs' : List Recipient} {w w' w'' : Screening} (h : Screened m rs w w')
    (h' : Screened m rs' w' w'') : Screened m (rs ++ rs') w w'' where
  targets := by
    rw [h'.targets, h.targets, Recipient.handed_append, List.map_append, List.append_assoc]
  traffic := by
    rw [h'.traffic, h.traffic, Recipient.kept_append, Recipient.reports_append, List.append_assoc]
  expired := by rw [h'.expired, h.expired, Recipient.count_append, Nat.add_assoc]
  throttled := by rw [h'.throttled, h.throttled, Recipient.count_append, Nat.add_assoc]

theorem isExpired_congr {d' : Destination} (h : d'.settings = d.settings) (m : Message)
    (now : Timestamp) : isExpired d' m now = isExpired d m now := by
  rw [isExpired, isExpired, h]

theorem screen_of_expired {w : Screening} {requested : Option Nat}
    (hd : w.broker.destination? id = some d) (h : isExpired d m ctx.env.now = true) :
    screen ctx id m w (c, requested) =
      { w with
        broker := notify ctx (Fate.expired.notice m c) (w.broker.onTotals id fun t =>
          { t with expired := t.expired + 1, lastExpired := ⟨ctx.env.now⟩ })
        expired := w.expired + 1 } := by
  rw [screen]
  dsimp only
  rw [hd]
  exact if_pos h

theorem screen_of_allowed {w : Screening} {requested : Option Nat}
    (hd : w.broker.destination? id = some d) (hfresh : isExpired d m ctx.env.now = false)
    (h : (d.limiter.check .outbound c requested ctx.env.now).2.isAllowed = true) :
    screen ctx id m w (c, requested) =
      { w with
        broker := w.broker.onLimiter id fun _ =>
          (d.limiter.check .outbound c requested ctx.env.now).1
        targets := w.targets ++ [c] } := by
  rw [screen]
  dsimp only
  rw [hd]
  exact (if_neg (Bool.eq_false_iff.mp hfresh)).trans (if_pos h)

theorem screen_of_refused {w : Screening} {requested : Option Nat}
    (hd : w.broker.destination? id = some d) (hfresh : isExpired d m ctx.env.now = false)
    (h : (d.limiter.check .outbound c requested ctx.env.now).2.isAllowed = false) :
    screen ctx id m w (c, requested) =
      { w with
        broker := notify ctx (Fate.throttled.notice m c) ((w.broker.onLimiter id fun _ =>
          (d.limiter.check .outbound c requested ctx.env.now).1).onTotals id fun t =>
            { t with outboundThrottled := t.outboundThrottled + 1 })
        throttled := w.throttled + 1 } := by
  rw [screen]
  dsimp only
  rw [hd]
  exact (if_neg (Bool.eq_false_iff.mp hfresh)).trans (if_neg (Bool.eq_false_iff.mp h))

/-- Screening one recipient. -/
theorem screen_spec (hctx : ctx.Aside) {w : Screening}
    (hscene : Scene id d.settings hooks l w.broker) (m : Message) (c : ClientId)
    (requested : Option Nat) :
    ∃ gone fate l', (hooks.IsSilent → gone = []) ∧ Meets ctx.env d m gone l c requested fate l' ∧
      Scene id d.settings hooks l' (screen ctx id m w (c, requested)).broker ∧
      Screened m [⟨c, requested, fate⟩] w (screen ctx id m w (c, requested)) := by
  obtain ⟨d', hd', hsettings, rfl⟩ := hscene.located
  have hage := isExpired_congr hsettings m ctx.env.now
  cases hexpired : isExpired d m ctx.env.now with
  | true =>
    rw [screen_of_expired hd' (hage.trans hexpired)]
    obtain ⟨gone, hgone, hnotified⟩ :=
      (hscene.onTotals _ id).notify hctx (Fate.expired.notice m c)
    exact ⟨gone, _, _, hgone, .expired hexpired, hnotified,
      ⟨(List.append_nil _).symm, traffic_notify hctx rfl _, rfl, rfl⟩⟩
  | false =>
    have hchecked := hscene.onLimiter fun _ =>
      (d'.limiter.check .outbound c requested ctx.env.now).1
    cases hverdict : (d'.limiter.check .outbound c requested ctx.env.now).2.isAllowed with
    | true =>
      rw [screen_of_allowed hd' (hage.trans hexpired) hverdict]
      cases hanswer : ctx.env.deliver c m with
      | ok _ =>
        exact ⟨[], _, _, fun _ => rfl, .delivered hexpired hverdict rfl hanswer, hchecked,
          ⟨rfl, (List.append_nil _).symm, rfl, rfl⟩⟩
      | error fault =>
        exact ⟨[], _, _, fun _ => rfl, .failed hexpired hverdict rfl hanswer, hchecked,
          ⟨rfl, (List.append_nil _).symm, rfl, rfl⟩⟩
    | false =>
      rw [screen_of_refused hd' (hage.trans hexpired) hverdict]
      obtain ⟨gone, hgone, hnotified⟩ :=
        (hchecked.onTotals _ id).notify hctx (Fate.throttled.notice m c)
      exact ⟨gone, _, _, hgone, .throttled hexpired hverdict, hnotified,
        ⟨(List.append_nil _).symm, traffic_notify hctx rfl _, rfl, rfl⟩⟩

/-- Screening all recipients. -/
theorem foldl_screen_spec (hctx : ctx.Aside) (m : Message)
    (recipients : List (ClientId × Option Nat)) {w : Screening}
    (hscene : Scene id d.settings hooks l w.broker) :
    ∃ gone rs, (hooks.IsSilent → gone = []) ∧ Fates ctx.env d m gone l rs ∧
      rs.map (fun r => (r.client, r.requested)) = recipients ∧
      Screened m rs w (recipients.foldl (screen ctx id m) w) := by
  induction recipients generalizing w l with
  | nil =>
    exact ⟨[], [], fun _ => rfl, .nil, rfl,
      ⟨(List.append_nil _).symm, (List.append_nil _).symm, rfl, rfl⟩⟩
  | cons recipient recipients ih =>
    obtain ⟨c, requested⟩ := recipient
    obtain ⟨gone, fate, l', hgone, hmeets, hscene', hscreened⟩ :=
      screen_spec hctx hscene m c requested
    obtain ⟨gone', rs, hgone', hfates, hrecipients, hscreened'⟩ := ih hscene'
    refine ⟨gone ++ gone', ⟨c, requested, fate⟩ :: rs, fun hsilent => ?_,
      .cons hmeets hfates, congrArg _ hrecipients, hscreened.trans hscreened'⟩
    rw [hgone hsilent, hgone' hsilent, List.append_nil]

/-! ## Handing over -/

/-- The fate of a message for a recipient that is given a copy is what the transport
answers. -/
def Answered (env : Environment) (m : Message) (r : Recipient) : Prop :=
  r.fate = .delivered ∧ env.deliver r.client m = .ok () ∨
    r.fate = .failed ∧ ∃ fault, env.deliver r.client m = .error fault

theorem Fates.answered {gone : List ClientId} {rs : List Recipient}
    (h : Fates env d m gone l rs) : ∀ r ∈ Recipient.handed rs, Answered env m r := by
  induction h with
  | nil => exact nofun
  | cons hmeets _ ih =>
    intro r hr
    obtain ⟨hmem, hhanded⟩ := List.mem_filter.mp hr
    rcases List.mem_cons.mp hmem with rfl | hmem
    · generalize hfate : r.fate = fate at hmeets hhanded
      cases hmeets with
      | expired => cases hhanded
      | throttled => cases hhanded
      | delivered _ _ _ hanswer => exact .inl ⟨hfate, hanswer⟩
      | failed _ _ _ hanswer => exact .inr ⟨hfate, _, hanswer⟩
    · exact ih r (List.mem_filter.mpr ⟨hmem, hhanded⟩)

/-- What settling copies adds to what is known of a message. -/
structure Settled (m : Message) (rs : List Recipient) (w w' : Handover) : Prop where
  traffic : w'.broker.traffic = w.broker.traffic ++ Recipient.reports m rs
  delivered : w'.delivered = w.delivered + Recipient.count .delivered rs
  failed : w'.failed = w.failed + Recipient.count .failed rs

theorem Settled.trans {rs rs' : List Recipient} {w w' w'' : Handover} (h : Settled m rs w w')
    (h' : Settled m rs' w' w'') : Settled m (rs ++ rs') w w'' where
  traffic := by rw [h'.traffic, h.traffic, Recipient.reports_append, List.append_assoc]
  delivered := by rw [h'.delivered, h.delivered, Recipient.count_append, Nat.add_assoc]
  failed := by rw [h'.failed, h.failed, Recipient.count_append, Nat.add_assoc]

/-- Settling one copy. -/
theorem settle_spec (hctx : ctx.Aside) {r : Recipient} (hanswered : Answered ctx.env m r)
    (id : DestinationId) (w : Handover) : Settled m [r] w (settle ctx id m w r.client) := by
  obtain ⟨c, requested, fate⟩ := r
  rcases hanswered with ⟨rfl, hanswer⟩ | ⟨rfl, fault, hanswer⟩
  · rw [settle]
    rw [hanswer]
    refine ⟨?_, rfl, rfl⟩
    have htouched := aside_onSession (·.touch ctx.env.now)
      (w.broker.onTotals id fun t => { t with delivered := t.delivered + 1 }) c
    exact (traffic_notify hctx rfl _).trans (congrArg (· ++ _) htouched.traffic)
  · rw [settle]
    rw [hanswer]
    refine ⟨?_, rfl, rfl⟩
    exact (traffic_notify hctx rfl _).trans (congrArg (· ++ _) (aside_record rfl _).traffic)

/-- Settling all copies. -/
theorem foldl_settle_spec (hctx : ctx.Aside) (id : DestinationId) {rs : List Recipient}
    (hanswered : ∀ r ∈ rs, Answered ctx.env m r) (w : Handover) :
    Settled m rs w ((rs.map (·.client)).foldl (settle ctx id m) w) := by
  induction rs generalizing w with
  | nil => exact ⟨(List.append_nil _).symm, rfl, rfl⟩
  | cons r rs ih =>
    have hfirst := settle_spec hctx (hanswered r List.mem_cons_self) id w
    exact hfirst.trans (ih (fun other hother => hanswered other (List.mem_cons_of_mem _ hother)) _)

theorem traffic_foldl_delivery (rs : List Recipient) (b : Broker) :
    ((rs.map (·.client)).foldl (fun b c => b.record (.delivery c m)) b).traffic =
      b.traffic ++ Recipient.copies m rs := by
  induction rs generalizing b with
  | nil => exact (List.append_nil _).symm
  | cons r rs ih =>
    rw [List.map_cons, List.foldl_cons, ih, traffic_record, List.append_assoc]
    rfl

/-! ## The fan-out as a whole -/

/-- The numbers of a result are those of the fates. -/
structure Tallies (rs : List Recipient) (result : RouteResult) : Prop where
  recipients : result.recipients = rs.length
  delivered : result.delivered = Recipient.count .delivered rs
  failed : result.failed = Recipient.count .failed rs
  throttled : result.throttled = Recipient.count .throttled rs
  expired : result.expired = Recipient.count .expired rs

theorem Tallies.forwarded {rs : List Recipient} {result : RouteResult} (h : Tallies rs result)
    (forwarded : Bool) : Tallies rs { result with forwarded } :=
  ⟨h.recipients, h.delivered, h.failed, h.throttled, h.expired⟩

/-- What is done about a message for its recipients: the fates that are settled early are
reported first, then the copies are handed over, and then it is reported what became of
them. -/
def deliveries (m : Message) (rs : List Recipient) : List Traffic :=
  Recipient.reports m (Recipient.kept rs) ++ Recipient.copies m (Recipient.handed rs) ++
    Recipient.reports m (Recipient.handed rs)

/-- Screens all recipients of a message, in ascending order. -/
def screenAll (ctx : Context) (d : Destination) (m : Message) (ts : List Subtopic)
    (only : Option ClientId) (b : Broker) : Screening :=
  (recipientsFor ctx.env d m ts only b).toList.foldl (screen ctx d.id m)
    ⟨(matchingSubscriptions ctx.env d ts (contentOf m) b).1, [], 0, 0⟩

/-- Hands the copies over to those who passed the screening, and settles them. -/
def settleAll (ctx : Context) (d : Destination) (m : Message) (w : Screening) : Handover :=
  w.targets.foldl (settle ctx d.id m)
    ⟨w.targets.foldl (fun b c => b.record (.delivery c m)) w.broker, 0, 0⟩

theorem deliverLocal_eq (ctx : Context) (d : Destination) (m : Message) (ts : List Subtopic)
    (only : Option ClientId) (b : Broker) :
    deliverLocal ctx d m ts only b =
      ((settleAll ctx d m (screenAll ctx d m ts only b)).broker,
        ⟨.delivered, (recipientsFor ctx.env d m ts only b).size,
          (settleAll ctx d m (screenAll ctx d m ts only b)).delivered,
          (screenAll ctx d m ts only b).throttled, (screenAll ctx d m ts only b).expired,
          (settleAll ctx d m (screenAll ctx d m ts only b)).failed, false⟩) :=
  rfl

/-- What is done about a message for its recipients is told by how they are screened. -/
theorem deliverLocal_of_screened (hctx : ctx.Aside) {rs : List Recipient}
    {only : Option ClientId}
    (hrecipients : rs.map (fun r => (r.client, r.requested)) =
      (recipientsFor ctx.env d m ts only b).toList)
    (hanswered : ∀ r ∈ Recipient.handed rs, Answered ctx.env m r)
    (hscreened : Screened m rs
      ⟨(matchingSubscriptions ctx.env d ts (contentOf m) b).1, [], 0, 0⟩
      (screenAll ctx d m ts only b)) :
    (deliverLocal ctx d m ts only b).1.traffic = b.traffic ++ deliveries m rs ∧
      Tallies rs (deliverLocal ctx d m ts only b).2 := by
  have hnoted : OnlyNoted b (matchingSubscriptions ctx.env d ts (contentOf m) b).1 :=
    onlyNoted_of_lookups (lookups_matchingSubscriptions ctx.env d ts (contentOf m) b)
  have hsize : (recipientsFor ctx.env d m ts only b).size = rs.length := by
    rw [← ExtTreeMap.length_toList, ← hrecipients, List.length_map]
  rw [deliverLocal_eq]
  generalize screenAll ctx d m ts only b = w at hscreened ⊢
  let b₁ := w.targets.foldl (fun b c => b.record (.delivery c m)) w.broker
  have htargets : w.targets = (Recipient.handed rs).map (·.client) := hscreened.targets
  have hhanded : b₁.traffic = w.broker.traffic ++ Recipient.copies m (Recipient.handed rs) := by
    rw [← traffic_foldl_delivery, ← htargets]
  have hsettled : Settled m (Recipient.handed rs) ⟨b₁, 0, 0⟩ (settleAll ctx d m w) := by
    have hsettled := foldl_settle_spec hctx d.id hanswered ⟨b₁, 0, 0⟩
    rw [← htargets] at hsettled
    exact hsettled
  constructor
  · rw [hsettled.traffic, hhanded, hscreened.traffic, hnoted.traffic, deliveries]
    simp only [List.append_assoc]
  · constructor
    case recipients => exact hsize
    case delivered =>
      rw [← Recipient.count_handed rfl]
      exact hsettled.delivered.trans (Nat.zero_add _)
    case failed =>
      rw [← Recipient.count_handed rfl]
      exact hsettled.failed.trans (Nat.zero_add _)
    case throttled => exact hscreened.throttled.trans (Nat.zero_add _)
    case expired => exact hscreened.expired.trans (Nat.zero_add _)

theorem Scene.matchingSubscriptions (h : Scene id settings hooks l b) (env : Environment)
    (d : Destination) (ts : List Subtopic) (m : Message) :
    Scene id settings hooks l (matchingSubscriptions env d ts (contentOf m) b).1 :=
  h.onlyNoted (onlyNoted_of_lookups (lookups_matchingSubscriptions env d ts (contentOf m) b))

theorem deliverLocal_spec (hctx : ctx.Aside) (hscene : Scene d.id d.settings hooks l b)
    (m : Message) (ts : List Subtopic) (only : Option ClientId) :
    ∃ gone rs, (hooks.IsSilent → gone = []) ∧ Fates ctx.env d m gone l rs ∧
      rs.map (fun r => (r.client, r.requested)) =
        (recipientsFor ctx.env d m ts only b).toList ∧
      (deliverLocal ctx d m ts only b).1.traffic = b.traffic ++ deliveries m rs ∧
      Tallies rs (deliverLocal ctx d m ts only b).2 := by
  obtain ⟨gone, rs, hgone, hfates, hrecipients, hscreened⟩ := foldl_screen_spec hctx m
    (recipientsFor ctx.env d m ts only b).toList
    (w := ⟨(Broker.matchingSubscriptions ctx.env d ts (contentOf m) b).1, [], 0, 0⟩)
    (hscene.matchingSubscriptions ctx.env d ts m)
  exact ⟨gone, rs, hgone, hfates, hrecipients,
    deliverLocal_of_screened hctx hrecipients hfates.answered hscreened⟩

/-- The cluster was given a message once, or not at all. -/
def Forwarding (m : Message) (forwarded : List Traffic) : Prop :=
  forwarded = [] ∨ ∃ targets, forwarded = [.forward targets m]

theorem traffic_tellMessage (env : Environment) (id : DestinationId) (targets : Targets)
    (m : Message) (b : Broker) :
    ∃ forwarded, Forwarding m forwarded ∧
      (tellMessage env id targets m b).1.traffic = b.traffic ++ forwarded := by
  rw [tellMessage]
  split
  · exact ⟨[], .inl rfl, (List.append_nil _).symm⟩
  · refine ⟨[.forward targets m], .inr ⟨targets, rfl⟩, ?_⟩
    have hrecord := traffic_record b (.forward targets m)
    dsimp only
    split
    · exact hrecord
    · exact ((aside_record rfl _).traffic).trans hrecord

theorem traffic_forward (env : Environment) (id : DestinationId) (m : Message)
    (ts : List Subtopic) (b : Broker) :
    ∃ forwarded, Forwarding m forwarded ∧
      (forward env id m ts b).1.traffic = b.traffic ++ forwarded := by
  have hnot : ∃ forwarded, Forwarding m forwarded ∧ b.traffic = b.traffic ++ forwarded :=
    ⟨[], .inl rfl, (List.append_nil _).symm⟩
  rw [forward]
  split
  · exact hnot
  next d _ =>
    split
    · exact hnot
    · exact traffic_tellMessage env id .all m b
    · have hnoted : OnlyNoted b (matchingPeers env d ts (contentOf m) b).1 :=
        onlyNoted_of_lookups (lookups_matchingPeers env d ts (contentOf m) b)
      dsimp only
      rw [← hnoted.traffic]
      split
      · exact ⟨[], .inl rfl, (List.append_nil _).symm⟩
      · exact traffic_tellMessage env id _ m _

/-- How a message fans out at a destination whose limiter is as given, to all clients or to
one only. -/
structure FansOut (env : Environment) (d : Destination) (m : Message) (only : Option ClientId)
    (hooks : HookTable) (l : Limiter) (b b' : Broker) (result : RouteResult)
    (rs : List Recipient) : Prop where
  /-- The recipients are the clients with subscriptions that the message is for. -/
  recipients : ∀ c, (∃ r ∈ rs, r.client = c) ↔
    (∀ c' ∈ only, c' = c) ∧ ∃ s, d.Matches env m s ∧ s.client = c
  ascending : (rs.map (·.client)).Pairwise (· < ·)
  requested : ∀ r ∈ rs,
    LowestLimit (fun s => d.Matches env m s ∧ s.client = r.client) r.requested
  fates : ∃ gone, (hooks.IsSilent → gone = []) ∧ Fates env d m gone l rs
  traffic : ∃ forwarded, Forwarding m forwarded ∧
    b'.traffic = b.traffic ++ deliveries m rs ++ forwarded
  tallies : Tallies rs result

theorem fanout_of_deliverLocal {only : Option ClientId} {result : RouteResult}
    (h : deliverLocal ctx d m ts only b = (b', result)) :
    fanout ctx d m ts only true b = ((forward ctx.env d.id m ts b').1,
      { result with forwarded := (forward ctx.env d.id m ts b').2 }) := by
  rw [fanout, h]
  rfl

theorem map_client_eq {rs : List Recipient} {recipients : List (ClientId × Option Nat)}
    (h : rs.map (fun r => (r.client, r.requested)) = recipients) :
    rs.map (·.client) = recipients.map Prod.fst := by
  rw [← h, List.map_map]
  rfl

/-- A message fans out as it was dealt with locally. -/
theorem fansOut_of_deliverLocal (ctx : Context) (hb : b.books.Accounted strays)
    (hd : b.destination? id = some d) (hts : d.parseMessageSubtopics m.subtopics = .ok ts)
    {only : Option ClientId} {rs : List Recipient}
    (hfates : ∃ gone, (hooks.IsSilent → gone = []) ∧ Fates ctx.env d m gone l rs)
    (hrecipients : rs.map (fun r => (r.client, r.requested)) =
      (recipientsFor ctx.env d m ts only b').toList)
    (hdelivered : (deliverLocal ctx d m ts only b').1.traffic = b'.traffic ++ deliveries m rs ∧
      Tallies rs (deliverLocal ctx d m ts only b').2) (propagate : Bool) :
    FansOut ctx.env d m only hooks l b' (fanout ctx d m ts only propagate b').1
      (fanout ctx d m ts only propagate b').2 rs := by
  obtain ⟨htraffic, htallies⟩ := hdelivered
  have hpropagated : (∃ forwarded, Forwarding m forwarded ∧
      (fanout ctx d m ts only propagate b').1.traffic =
        b'.traffic ++ deliveries m rs ++ forwarded) ∧
      Tallies rs (fanout ctx d m ts only propagate b').2 := by
    cases propagate with
    | false =>
      refine ⟨⟨[], .inl rfl, ?_⟩, htallies⟩
      rw [List.append_nil]
      exact htraffic
    | true =>
      rw [fanout_of_deliverLocal Prod.mk.eta.symm, ← htraffic]
      exact ⟨traffic_forward _ _ _ _ _, htallies.forwarded _⟩
  constructor
  case recipients =>
    intro c
    rw [← mem_recipientsFor_iff hb hd hts only b', ← hrecipients]
    simp only [List.mem_map, Prod.mk.injEq]
    exact ⟨fun ⟨r, hr, hc⟩ => ⟨_, r, hr, hc, rfl⟩,
      fun ⟨_, r, hr, hc, _⟩ => ⟨r, hr, hc⟩⟩
  case ascending =>
    rw [map_client_eq hrecipients]
    exact pairwise_recipientsOf _
  case requested =>
    intro r hr
    refine lowestLimit_of_mem_recipientsFor hb hd hts only b' ?_
    rw [← hrecipients]
    exact List.mem_map_of_mem hr
  case fates => exact hfates
  case traffic => exact hpropagated.1
  case tallies => exact hpropagated.2

theorem fanout_spec (hb : b.IsReachable) (hctx : ctx.Aside) (hd : b.destination? id = some d)
    (hts : d.parseMessageSubtopics m.subtopics = .ok ts)
    (hscene : Scene d.id d.settings hooks l b') (only : Option ClientId) (propagate : Bool) :
    ∃ rs, rs.map (·.client) = (recipientsFor ctx.env d m ts only b').toList.map Prod.fst ∧
      FansOut ctx.env d m only hooks l b' (fanout ctx d m ts only propagate b').1
        (fanout ctx d m ts only propagate b').2 rs := by
  obtain ⟨strays, haccounted⟩ := hb.accounted
  obtain ⟨gone, rs, hgone, hfates, hrecipients, hdelivered⟩ :=
    deliverLocal_spec hctx hscene m ts only
  exact ⟨rs, map_client_eq hrecipients, fansOut_of_deliverLocal ctx haccounted hd hts
    ⟨gone, hgone, hfates⟩ hrecipients hdelivered propagate⟩

end Broker

end MessageBroker
