/-
# What messages are charged with

Two parts of a destination count the same things apart from each other: its totals, and the
refusals on record with its limiter. Both together are the sheet of the destination, and
routing a message adds some figures to the sheet of the destination it is sent to. Which
figures these are can be read from the answer. Nothing else is added on the way, to no sheet,
since what handlers call back for happens on the side.
-/

import Mathlib.Algebra.BigOperators.Group.List.Basic
import Mathlib.Algebra.Group.Pi.Lemmas
import MessageBroker.Proofs.Broker.AsideOperations
import MessageBroker.Proofs.Broker.Entries
import MessageBroker.Proofs.Broker.Lookups

open Std

namespace MessageBroker

/-! ## Refusals on record -/

namespace Limiter

variable {l : Limiter} {d : Direction} {c : ClientId} {requested : Option Nat} {now : Timestamp}

/-- How many messages a limiter has refused in a direction, at either level. -/
def refused (l : Limiter) (d : Direction) : Nat :=
  (l.refusals.get d).client.count + (l.refusals.get d).destination.count

theorem refused_of_refusals_eq {l' : Limiter} (h : l'.refusals = l.refusals) (d : Direction) :
    l'.refused d = l.refused d := by
  rw [refused, refused, h]

/-- A check that refuses puts one refusal on record, in its direction; one that admits puts
none. -/
inductive Records (l : Limiter) (d : Direction) (now : Timestamp) : Limiter × Verdict → Prop
  | allowed {l' : Limiter} {verdict : Verdict} (h : l'.refusals = l.refusals)
      (hverdict : verdict.isAllowed = true) : Records l d now (l', verdict)
  | refused {l' : Limiter} {verdict : Verdict} {level : Level}
      (h : l'.refusals = l.refusals.set d ((l.refusals.get d).record now level))
      (hverdict : verdict.isAllowed = false) : Records l d now (l', verdict)

theorem records_refuse {l' : Limiter} (hpolicy : (l.settings.get d).policy ≠ .none)
    (hsettings : l'.settings = l.settings) (hrefusals : l'.refusals = l.refusals) (level : Level)
    (now : Timestamp) : Records l d now (l'.refuse d level now) := by
  have hrecorded : (l'.refuse d level now).1.refusals =
      l.refusals.set d ((l.refusals.get d).record now level) := by
    rw [refuse, hrefusals]
  refine .refused hrecorded ?_
  rw [hsettings]
  exact isAllowed_refusal hpolicy

theorem records_check (l : Limiter) (d : Direction) (c : ClientId) (requested : Option Nat)
    (now : Timestamp) : Records l d now (l.check d c requested now) := by
  by_cases hpolicy : (l.settings.get d).policy = .none
  · have hcheck : l.check d c requested now = (l, .allow) := if_pos hpolicy
    rw [hcheck]
    exact .allowed rfl rfl
  by_cases hzero : (l.settings.get d).destination = 0 ∧ l.frequencyFor d requested = 0
  · have hcheck : l.check d c requested now = (l, .allow) := (if_neg hpolicy).trans (if_pos hzero)
    rw [hcheck]
    exact .allowed rfl rfl
  rw [check_of_limited hpolicy hzero]
  obtain ⟨w, hl₁, -, -⟩ := l.askDestination_spec d now
  generalize l.askDestination d now = asked at hl₁ ⊢
  obtain ⟨l₁, admitted⟩ := asked
  dsimp only at hl₁ ⊢
  subst hl₁
  cases admitted with
  | false =>
    rw [Bool.not_false, if_pos rfl]
    exact records_refuse hpolicy (by rfl) (by rfl) .destination now
  | true =>
    obtain ⟨clients, v, hl₂, -, -, -⟩ := askClient_spec
      { l with destination := l.destination.set d w } d c (l.frequencyFor d requested) now
    rw [Bool.not_true, if_neg Bool.false_ne_true]
    generalize askClient _ d c (l.frequencyFor d requested) now = asked at hl₂ ⊢
    obtain ⟨l₂, admitted⟩ := asked
    dsimp only at hl₂ ⊢
    subst hl₂
    cases admitted with
    | true => exact .allowed rfl rfl
    | false =>
      rw [if_neg Bool.false_ne_true, releaseDestination_of_limited]
      exact records_refuse hpolicy (by rfl) (by rfl) .client now

theorem Records.refused_of_allowed {answer : Limiter × Verdict} (h : Records l d now answer)
    (hallowed : answer.2.isAllowed = true) (e : Direction) : answer.1.refused e = l.refused e := by
  cases h with
  | allowed h => exact refused_of_refusals_eq h e
  | refused _ hverdict => exact nomatch hallowed.symm.trans hverdict

theorem Records.refused_of_refused {answer : Limiter × Verdict} (h : Records l d now answer)
    (hrefused : answer.2.isAllowed = false) (e : Direction) :
    answer.1.refused e = l.refused e + if d = e then 1 else 0 := by
  cases h with
  | allowed _ hverdict => exact nomatch hrefused.symm.trans hverdict
  | @refused l' _ level h =>
    rw [Limiter.refused, h]
    by_cases hd : d = e
    · subst hd
      rw [PerDirection.get_set_self, if_pos rfl]
      cases level with
      | client => exact Nat.add_right_comm ..
      | destination => exact (Nat.add_assoc ..).symm
    · rw [PerDirection.get_set_of_ne _ (Ne.symm hd), if_neg hd]
      rfl

/-- Giving slots back leaves the record of refusals alone. -/
theorem refusals_releaseInbound (l : Limiter) (c : ClientId) :
    (l.releaseInbound c).refusals = l.refusals := by
  rw [releaseInbound_eq]
  split
  · rfl
  · dsimp only
    obtain ⟨clients, hclients⟩ := releaseClient_eq
      (if (l.settings.get .inbound).destination = 0 then l else l.releaseDestination .inbound) c
    rw [hclients, releaseDestination_of_limited]
    split <;> rfl

theorem window_foldl_removeClient (gone : List ClientId) (l : Limiter) :
    (gone.foldl removeClient l).window = l.window ∧
      (gone.foldl removeClient l).refusals = l.refusals := by
  induction gone generalizing l with
  | nil => exact ⟨rfl, rfl⟩
  | cons c gone ih => exact ih (l.removeClient c)

end Limiter

/-! ## Figures and sheets -/

/-- What is counted about the messages of a destination. -/
@[ext]
structure Figures where
  received : Nat
  delivered : Nat
  failed : Nat
  expired : Nat
  forwarded : Nat
  inboundThrottled : Nat
  outboundThrottled : Nat
  /-- Refusals on record with the limiter, at both levels together. -/
  inboundRefused : Nat
  outboundRefused : Nat
  deriving DecidableEq

namespace Figures

instance : Zero Figures := ⟨⟨0, 0, 0, 0, 0, 0, 0, 0, 0⟩⟩

instance : Add Figures where
  add f g :=
    { received := f.received + g.received
      delivered := f.delivered + g.delivered
      failed := f.failed + g.failed
      expired := f.expired + g.expired
      forwarded := f.forwarded + g.forwarded
      inboundThrottled := f.inboundThrottled + g.inboundThrottled
      outboundThrottled := f.outboundThrottled + g.outboundThrottled
      inboundRefused := f.inboundRefused + g.inboundRefused
      outboundRefused := f.outboundRefused + g.outboundRefused }

instance : AddCommMonoid Figures where
  add_assoc f g h := Figures.ext (Nat.add_assoc ..) (Nat.add_assoc ..) (Nat.add_assoc ..)
    (Nat.add_assoc ..) (Nat.add_assoc ..) (Nat.add_assoc ..) (Nat.add_assoc ..)
    (Nat.add_assoc ..) (Nat.add_assoc ..)
  zero_add f := Figures.ext (Nat.zero_add _) (Nat.zero_add _) (Nat.zero_add _) (Nat.zero_add _)
    (Nat.zero_add _) (Nat.zero_add _) (Nat.zero_add _) (Nat.zero_add _) (Nat.zero_add _)
  add_zero _ := rfl
  add_comm f g := Figures.ext (Nat.add_comm ..) (Nat.add_comm ..) (Nat.add_comm ..)
    (Nat.add_comm ..) (Nat.add_comm ..) (Nat.add_comm ..) (Nat.add_comm ..) (Nat.add_comm ..)
    (Nat.add_comm ..)
  nsmul := nsmulRec

end Figures

/-- What has been counted about the messages of a destination so far. -/
def Destination.figures (d : Destination) : Figures where
  received := d.totals.received
  delivered := d.totals.delivered
  failed := d.totals.deliveryFailures
  expired := d.totals.expired
  forwarded := d.totals.forwarded
  inboundThrottled := d.totals.inboundThrottled
  outboundThrottled := d.totals.outboundThrottled
  inboundRefused := d.limiter.refused .inbound
  outboundRefused := d.limiter.refused .outbound

/-- What a destination goes by as long as it exists, and its figures. -/
structure Sheet where
  settings : DestinationSettings
  window : Span
  figures : Figures

/-- The sheet of a destination. -/
def Destination.sheet (d : Destination) : Sheet := ⟨d.settings, d.limiter.window, d.figures⟩

/-- Adds figures to a sheet. -/
def Sheet.charge (s : Sheet) (f : Figures) : Sheet := { s with figures := s.figures + f }

theorem Sheet.charge_charge (s : Sheet) (f g : Figures) :
    (s.charge f).charge g = s.charge (f + g) := by
  rw [charge, charge, charge, add_assoc]

theorem Destination.Beside.sheet {d d' : Destination} (h : d.Beside d') : d'.sheet = d.sheet := by
  obtain ⟨gone, hgone⟩ := h.limiter
  obtain ⟨hwindow, hrefusals⟩ := Limiter.window_foldl_removeClient gone d.limiter
  rw [← hgone] at hwindow hrefusals
  rw [Destination.sheet, Destination.sheet, h.settings, hwindow, figures, figures, h.totals,
    Limiter.refused_of_refusals_eq hrefusals, Limiter.refused_of_refusals_eq hrefusals]

namespace Broker

variable {env : Environment} {ctx : Context} {b b' b'' : Broker} {id : DestinationId}
  {d : Destination} {m : Message} {ts : List Subtopic} {f g : DestinationId → Figures}

/-- The sheet of the destination of a name. -/
def sheet? (b : Broker) (id : DestinationId) : Option Sheet := (b.destination? id).map (·.sheet)

/-- The sheets are charged with figures, and the hooks are the same. -/
structure Charges (f : DestinationId → Figures) (b b' : Broker) : Prop where
  sheet : ∀ id, b'.sheet? id = (b.sheet? id).map (·.charge (f id))
  hooks : b'.hooks = b.hooks

theorem Charges.trans (h : Charges f b b') (h' : Charges g b' b'') : Charges (f + g) b b'' := by
  refine ⟨fun id => ?_, h'.hooks.trans h.hooks⟩
  rw [h'.sheet, h.sheet, Option.map_map]
  congr 1
  funext s
  exact s.charge_charge (f id) (g id)

theorem charges_of_destinations_eq (hdestinations : b'.destinations = b.destinations)
    (hhooks : b'.hooks = b.hooks) : Charges 0 b b' := by
  refine ⟨fun id => ?_, hhooks⟩
  rw [sheet?, destination?, hdestinations]
  exact (Option.map_id' ..).symm

/-- What happens on the side costs nothing. -/
theorem Aside.charges (h : Aside b b') : Charges 0 b b' := by
  obtain ⟨change, hchange, hdestinations⟩ := h.destinations
  refine ⟨fun id => ?_, h.hooks⟩
  rw [sheet?, destination?_map (fun d => (hchange d).id) hdestinations, sheet?, Option.map_map,
    Option.map_map]
  congr 1
  funext d
  exact (hchange d).sheet

theorem charges_record (e : Event) (b : Broker) : Charges 0 b (b.record e) :=
  charges_of_destinations_eq rfl rfl

theorem Charges.trans_zero (h : Charges f b b') (h' : Charges 0 b' b'') : Charges f b b'' :=
  add_zero f ▸ h.trans h'

theorem Charges.zero_trans (h : Charges 0 b b') (h' : Charges f b' b'') : Charges f b b'' :=
  zero_add f ▸ h.trans h'

theorem Charges.single_zero (h : Charges 0 b b') (id : DestinationId) :
    Charges (Pi.single id 0) b b' := by
  rw [Pi.single_zero]
  exact h

theorem charges_onDestination {change : Destination → Destination} {f : Figures}
    (hid : ∀ d, (change d).id = d.id)
    (h : ∀ d, b.destination? id = some d → (change d).sheet = d.sheet.charge f) :
    Charges (Pi.single id f) b (b.onDestination id change) := by
  refine ⟨fun id' => ?_, rfl⟩
  rw [sheet?, sheet?, destination?_onDestination change hid, Option.map_map, Option.map_map]
  cases hd : b.destination? id' with
  | none => rfl
  | some d =>
    have hplace := (mem_of_destination? hd).2
    refine congrArg some ?_
    dsimp only [Function.comp]
    by_cases heq : d.id = id
    · have hname : id' = id := hplace.symm.trans heq
      subst hname
      rw [if_pos heq, h d hd, Pi.single_eq_same]
    · rw [if_neg heq, Pi.single_eq_of_ne fun hname => heq (hplace.trans hname)]
      rfl

/-- The message counters of some totals are raised. -/
theorem charges_onTotals (change : Totals → Totals) (f : Figures)
    (h : ∀ d : Destination, { d with totals := change d.totals }.figures = d.figures + f)
    (b : Broker) (id : DestinationId) :
    Charges (Pi.single id f) b (b.onTotals id change) := by
  refine charges_onDestination (fun _ => rfl) fun d _ => ?_
  rw [Destination.sheet, Destination.sheet, h d]
  rfl

/-- The figures of a check: a refusal goes on record. -/
def checkFigures (refused : Bool) : Direction → Figures
  | .inbound => { (0 : Figures) with inboundRefused := refused.toNat }
  | .outbound => { (0 : Figures) with outboundRefused := refused.toNat }

theorem charges_check {l : Limiter} (hl : b.limiter? id = some l) (direction : Direction)
    (c : ClientId) (requested : Option Nat) (now : Timestamp) :
    Charges (Pi.single id
        (checkFigures (!(l.check direction c requested now).2.isAllowed) direction))
      b (b.onLimiter id fun _ => (l.check direction c requested now).1) := by
  have hrecords := l.records_check direction c requested now
  have hwindow := (l.checked_check direction c requested now).window
  refine charges_onDestination (fun _ => rfl) fun d hd => ?_
  have hlimiter : d.limiter = l := by
    rw [limiter?, hd] at hl
    exact Option.some.inj hl
  subst hlimiter
  generalize d.limiter.check direction c requested now = answer at hrecords hwindow ⊢
  rw [Destination.sheet, Destination.sheet, hwindow, Sheet.charge, Destination.figures,
    Destination.figures]
  cases hallowed : answer.2.isAllowed with
  | true =>
    rw [hrecords.refused_of_allowed hallowed, hrecords.refused_of_allowed hallowed]
    cases direction <;> rfl
  | false =>
    rw [hrecords.refused_of_refused hallowed, hrecords.refused_of_refused hallowed]
    cases direction <;> rfl

theorem Charges.trans_single {f g : Figures} (h : Charges (Pi.single id f) b b')
    (h' : Charges (Pi.single id g) b' b'') : Charges (Pi.single id (f + g)) b b'' := by
  rw [Pi.single_add]
  exact h.trans h'

/-- A record of a notice costs nothing, nor what handlers call back for. -/
theorem Charges.notify (h : Charges f b b') (hctx : ctx.Aside) (n : Notice) :
    Charges f b (notify ctx n b') :=
  (h.trans_zero (charges_record _ b')).trans_zero (aside_notify_of_record hctx n b').charges

/-! ## Fanning out -/

/-- The figures of recipients that got no copy. -/
def keptFigures (expired throttled : Nat) : Figures :=
  { (0 : Figures) with
    expired := expired
    outboundThrottled := throttled
    outboundRefused := throttled }

/-- The figures of recipients that were handed a copy. -/
def handedFigures (delivered failed : Nat) : Figures :=
  { (0 : Figures) with delivered := delivered, failed := failed }

/-- Screening charges a destination with what it adds to its own counts. -/
def Screens (id : DestinationId) (w w' : Screening) : Prop :=
  ∃ expired throttled, w'.expired = w.expired + expired ∧
    w'.throttled = w.throttled + throttled ∧
    Charges (Pi.single id (keptFigures expired throttled)) w.broker w'.broker

theorem Screens.refl (id : DestinationId) (w : Screening) : Screens id w w := by
  have hsame : Charges 0 w.broker w.broker := charges_of_destinations_eq rfl rfl
  exact ⟨0, 0, rfl, rfl, hsame.single_zero id⟩

theorem Screens.trans {w w' w'' : Screening} (h : Screens id w w') (h' : Screens id w' w'') :
    Screens id w w'' := by
  obtain ⟨expired, throttled, hexpired, hthrottled, hcharges⟩ := h
  obtain ⟨expired', throttled', hexpired', hthrottled', hcharges'⟩ := h'
  refine ⟨expired + expired', throttled + throttled', ?_, ?_, ?_⟩
  · rw [hexpired', hexpired, Nat.add_assoc]
  · rw [hthrottled', hthrottled, Nat.add_assoc]
  · exact hcharges.trans_single hcharges'

theorem screens_screen (hctx : ctx.Aside) (id : DestinationId) (m : Message) (w : Screening)
    (recipient : ClientId × Option Nat) : Screens id w (screen ctx id m w recipient) := by
  obtain ⟨c, requested⟩ := recipient
  cases hd : w.broker.destination? id with
  | none =>
    rw [screen]
    dsimp only
    rw [hd]
    exact .refl id w
  | some d =>
    cases hexpired : isExpired d m ctx.env.now with
    | true =>
      rw [screen_of_expired hd hexpired]
      have hcounted := charges_onTotals
        (fun t => { t with expired := t.expired + 1, lastExpired := ⟨ctx.env.now⟩ })
        (keptFigures 1 0) (fun _ => rfl) w.broker id
      exact ⟨1, 0, rfl, rfl, hcounted.notify hctx (Fate.expired.notice m c)⟩
    | false =>
      have hlimiter : w.broker.limiter? id = some d.limiter := by rw [limiter?, hd]; rfl
      have hchecked := charges_check hlimiter .outbound c requested ctx.env.now
      cases hverdict : (d.limiter.check .outbound c requested ctx.env.now).2.isAllowed with
      | true =>
        rw [screen_of_allowed hd hexpired hverdict]
        rw [hverdict] at hchecked
        exact ⟨0, 0, rfl, rfl, hchecked⟩
      | false =>
        rw [screen_of_refused hd hexpired hverdict]
        rw [hverdict] at hchecked
        have hcounted := hchecked.trans_single (charges_onTotals
          (fun t => { t with outboundThrottled := t.outboundThrottled + 1 })
          { (0 : Figures) with outboundThrottled := 1 } (fun _ => rfl) _ id)
        exact ⟨0, 1, rfl, rfl, hcounted.notify hctx (Fate.throttled.notice m c)⟩

theorem screens_foldl (hctx : ctx.Aside) (id : DestinationId) (m : Message)
    (recipients : List (ClientId × Option Nat)) (w : Screening) :
    Screens id w (recipients.foldl (screen ctx id m) w) := by
  induction recipients generalizing w with
  | nil => exact .refl id w
  | cons recipient recipients ih => exact (screens_screen hctx id m w recipient).trans (ih _)

/-- Settling charges a destination with what it adds to its own counts. -/
def Settles (id : DestinationId) (w w' : Handover) : Prop :=
  ∃ delivered failed, w'.delivered = w.delivered + delivered ∧ w'.failed = w.failed + failed ∧
    Charges (Pi.single id (handedFigures delivered failed)) w.broker w'.broker

theorem settles_settle (hctx : ctx.Aside) (id : DestinationId) (m : Message) (w : Handover)
    (c : ClientId) : Settles id w (settle ctx id m w c) := by
  rw [settle]
  dsimp only
  split
  · refine ⟨1, 0, rfl, rfl, ?_⟩
    have hcounted := charges_onTotals (fun t => { t with delivered := t.delivered + 1 })
      (handedFigures 1 0) (fun _ => rfl) w.broker id
    have htouched := hcounted.trans_zero (aside_onSession (·.touch ctx.env.now) _ c).charges
    exact htouched.notify hctx (.messageDelivered c m)
  · refine ⟨0, 1, rfl, rfl, ?_⟩
    have hcounted := charges_onTotals
      (fun t => { t with deliveryFailures := t.deliveryFailures + 1 }) (handedFigures 0 1)
      (fun _ => rfl) w.broker id
    exact (hcounted.trans_zero (charges_record _ _)).notify hctx
      (.messageDropped (some c) m .deliveryFailed)

theorem settles_foldl (hctx : ctx.Aside) (id : DestinationId) (m : Message)
    (targets : List ClientId) (w : Handover) :
    Settles id w (targets.foldl (settle ctx id m) w) := by
  induction targets generalizing w with
  | nil =>
    have hsame : Charges 0 w.broker w.broker := charges_of_destinations_eq rfl rfl
    exact ⟨0, 0, rfl, rfl, hsame.single_zero id⟩
  | cons c targets ih =>
    obtain ⟨delivered, failed, hdelivered, hfailed, hcharges⟩ := settles_settle hctx id m w c
    obtain ⟨delivered', failed', hdelivered', hfailed', hcharges'⟩ := ih (settle ctx id m w c)
    refine ⟨delivered + delivered', failed + failed', ?_, ?_, ?_⟩
    · rw [List.foldl_cons, hdelivered', hdelivered, Nat.add_assoc]
    · rw [List.foldl_cons, hfailed', hfailed, Nat.add_assoc]
    · exact hcharges.trans_single hcharges'

end Broker

/-- The figures that a fan-out is told in. -/
def RouteResult.figures (r : RouteResult) : Figures :=
  { (0 : Figures) with
    delivered := r.delivered
    failed := r.failed
    expired := r.expired
    forwarded := r.forwarded.toNat
    outboundThrottled := r.throttled
    outboundRefused := r.throttled }

namespace Broker

variable {env : Environment} {ctx : Context} {b b' b'' : Broker} {id : DestinationId}
  {d : Destination} {m : Message} {ts : List Subtopic} {f g : DestinationId → Figures}

theorem charges_foldl_delivery (targets : List ClientId) (m : Message) (b : Broker) :
    Charges 0 b (targets.foldl (fun b c => b.record (.delivery c m)) b) := by
  induction targets generalizing b with
  | nil => exact charges_of_destinations_eq rfl rfl
  | cons c targets ih => exact (charges_record (.delivery c m) b).zero_trans (ih _)

theorem charges_deliverLocal (hctx : ctx.Aside) (d : Destination) (m : Message)
    (ts : List Subtopic) (only : Option ClientId) (b : Broker) :
    Charges (Pi.single d.id (deliverLocal ctx d m ts only b).2.figures) b
      (deliverLocal ctx d m ts only b).1 := by
  have hnoted : OnlyNoted b (matchingSubscriptions ctx.env d ts (contentOf m) b).1 :=
    onlyNoted_of_lookups (lookups_matchingSubscriptions ctx.env d ts (contentOf m) b)
  let w₀ : Screening := ⟨(matchingSubscriptions ctx.env d ts (contentOf m) b).1, [], 0, 0⟩
  let w := (recipientsFor ctx.env d m ts only b).toList.foldl (screen ctx d.id m) w₀
  let b₁ := w.targets.foldl (fun b c => b.record (.delivery c m)) w.broker
  let h := w.targets.foldl (settle ctx d.id m) ⟨b₁, 0, 0⟩
  have hdelivered : deliverLocal ctx d m ts only b =
      (h.broker, ⟨.delivered, (recipientsFor ctx.env d m ts only b).size, h.delivered, w.throttled,
        w.expired, h.failed, false⟩) := rfl
  obtain ⟨expired, throttled, hexpired, hthrottled, hkept⟩ :=
    screens_foldl hctx d.id m (recipientsFor ctx.env d m ts only b).toList w₀
  obtain ⟨delivered, failed, hdelivered', hfailed, hhanded⟩ :=
    settles_foldl hctx d.id m w.targets ⟨b₁, 0, 0⟩
  have hfigures : (deliverLocal ctx d m ts only b).2.figures =
      keptFigures expired throttled + handedFigures delivered failed := by
    have hscreened : w.expired = expired ∧ w.throttled = throttled :=
      ⟨hexpired.trans (Nat.zero_add _), hthrottled.trans (Nat.zero_add _)⟩
    have hsettled : h.delivered = 0 + delivered ∧ h.failed = 0 + failed := ⟨hdelivered', hfailed⟩
    rw [hdelivered, hscreened.1, hscreened.2, hsettled.1, hsettled.2]
    rfl
  rw [hfigures, hdelivered]
  have hscreened := (aside_of_onlyNoted hnoted).charges.zero_trans hkept
  have hcopied := hscreened.trans_zero (charges_foldl_delivery w.targets m w.broker)
  exact hcopied.trans_single hhanded

/-- The figures of a message that was forwarded, or of one that was not. -/
def forwardedFigures (forwarded : Bool) : Figures :=
  { (0 : Figures) with forwarded := forwarded.toNat }

theorem charges_tellMessage (env : Environment) (id : DestinationId) (targets : Targets)
    (m : Message) (b : Broker) :
    Charges (Pi.single id (forwardedFigures (tellMessage env id targets m b).2)) b
      (tellMessage env id targets m b).1 := by
  rw [tellMessage]
  split
  · have hsame : Charges 0 b b := charges_of_destinations_eq rfl rfl
    exact hsame.single_zero id
  · have htold := charges_record (.forward targets m) b
    dsimp only
    split
    · have hcounted := charges_onTotals (fun t => { t with forwarded := t.forwarded + 1 })
        (forwardedFigures true) (fun _ => rfl) (b.record (.forward targets m)) id
      exact htold.zero_trans hcounted
    · exact (htold.trans_zero (charges_record _ _)).single_zero id

theorem charges_forward (env : Environment) (id : DestinationId) (m : Message)
    (ts : List Subtopic) (b : Broker) :
    Charges (Pi.single id (forwardedFigures (forward env id m ts b).2)) b
      (forward env id m ts b).1 := by
  have hsame : Charges 0 b b := charges_of_destinations_eq rfl rfl
  rw [forward]
  split
  · exact hsame.single_zero id
  next d _ =>
    split
    · exact hsame.single_zero id
    · exact charges_tellMessage env id .all m b
    · have hnoted : OnlyNoted b (matchingPeers env d ts (contentOf m) b).1 :=
        onlyNoted_of_lookups (lookups_matchingPeers env d ts (contentOf m) b)
      have hasked := (aside_of_onlyNoted hnoted).charges
      dsimp only
      split
      · exact hasked.single_zero id
      · exact hasked.zero_trans (charges_tellMessage env id _ m _)

/-- A fan-out charges its destination with the figures that it is told in. -/
theorem charges_fanout (hctx : ctx.Aside) (d : Destination) (m : Message) (ts : List Subtopic)
    (only : Option ClientId) (propagate : Bool) (b : Broker) :
    Charges (Pi.single d.id (fanout ctx d m ts only propagate b).2.figures) b
      (fanout ctx d m ts only propagate b).1 := by
  have hlocal := charges_deliverLocal hctx d m ts only b
  cases propagate with
  | false => exact hlocal
  | true =>
    have hnot : (deliverLocal ctx d m ts only b).2.forwarded = false := rfl
    generalize hdelivered : deliverLocal ctx d m ts only b = delivered at hlocal hnot
    obtain ⟨b₁, result⟩ := delivered
    rw [fanout_of_deliverLocal hdelivered]
    have hforwarded := charges_forward ctx.env d.id m ts b₁
    generalize forward ctx.env d.id m ts b₁ = forwarded at hforwarded ⊢
    have hboth : { result with forwarded := forwarded.2 }.figures =
        result.figures + forwardedFigures forwarded.2 := by
      rw [RouteResult.figures, RouteResult.figures, hnot]
      exact Figures.ext rfl rfl rfl rfl (Nat.zero_add _).symm rfl rfl rfl rfl
    rw [hboth]
    exact hlocal.trans_single hforwarded

/-! ## Routing -/

/-- The figures of a message that the inbound limiter refused. -/
def refusalFigures : Figures :=
  { (0 : Figures) with inboundThrottled := 1, inboundRefused := 1 }

/-- The figures of a message that has passed the gate, as far as its answer tells. -/
def answerFigures : Except BrokerError RouteResult → Figures
  | .ok result =>
    match result.outcome with
    | .delivered => result.figures
    | .dropped _ => refusalFigures
    | .handedOff => 0
  | .error (.throttled ..) => refusalFigures
  | .error _ => 0

theorem outcome_fanout (ctx : Context) (d : Destination) (m : Message) (ts : List Subtopic)
    (only : Option ClientId) (propagate : Bool) (b : Broker) :
    (fanout ctx d m ts only propagate b).2.outcome = .delivered := by
  have hlocal : (deliverLocal ctx d m ts only b).2.outcome = .delivered := by
    rw [deliverLocal]
  rw [fanout]
  generalize deliverLocal ctx d m ts only b = delivered at hlocal ⊢
  dsimp only
  split
  · exact hlocal
  · exact hlocal

theorem answerFigures_fanout (ctx : Context) (d : Destination) (m : Message) (ts : List Subtopic)
    (only : Option ClientId) (propagate : Bool) (b : Broker) :
    answerFigures (.ok (fanout ctx d m ts only propagate b).2) =
      (fanout ctx d m ts only propagate b).2.figures := by
  rw [answerFigures, outcome_fanout]

theorem charges_checkInbound (env : Environment) (m : Message)
    (hl : b.limiter? d.id = some d.limiter) :
    Charges (Pi.single d.id (if (checkInbound env d m b).2.isAllowed then 0 else refusalFigures)) b
      (checkInbound env d m b).1 := by
  have hchecked := charges_check hl .inbound m.client none env.now
  cases hallowed : (inbound env d m).2.isAllowed with
  | true =>
    have hverdict : (d.limiter.check .inbound m.client none env.now).2.isAllowed = true := hallowed
    rw [hverdict] at hchecked
    rw [checkInbound_of_allowed hallowed, hallowed, if_pos rfl]
    exact hchecked
  | false =>
    have hverdict : (d.limiter.check .inbound m.client none env.now).2.isAllowed = false := hallowed
    rw [hverdict] at hchecked
    have hcheck : checkInbound env d m b = ((limited env d m b).onTotals d.id fun t =>
        { t with inboundThrottled := t.inboundThrottled + 1 }, (inbound env d m).2) :=
      if_neg (Bool.eq_false_iff.mp hallowed)
    rw [hcheck, hallowed, if_neg Bool.false_ne_true]
    exact hchecked.trans_single (charges_onTotals
      (fun t => { t with inboundThrottled := t.inboundThrottled + 1 })
      { (0 : Figures) with inboundThrottled := 1 } (fun _ => rfl) _ d.id)

/-- An adapter only fails with the fault of a collaborator. -/
theorem exists_fault_of_invoke (env : Environment) (adapter : Adapter) (m : Message) (b : Broker)
    {e : BrokerError} (h : (invoke env adapter m b).2 = .error e) :
    ∃ fault, e = .collaborator fault := by
  have hfault {α : Type} (answer : Except Fault α)
      (h : answer.mapError BrokerError.collaborator = .error e) :
      ∃ fault, e = .collaborator fault := by
    cases answer with
    | ok a => cases h
    | error fault => exact ⟨fault, (Except.error.inj h).symm⟩
  cases adapter with
  | plain => cases h
  | bridge name =>
    apply hfault ((env.bridge name).send m.destination m)
    rw [invoke] at h
    generalize Except.mapError BrokerError.collaborator _ = answer at h ⊢
    cases answer with
    | ok a => cases h
    | error e' =>
      cases h
      rfl
  | custom name => exact hfault ((env.custom name).invoke m) h

theorem charges_passOn (hctx : ctx.Aside) (d : Destination) (m : Message) (ts : List Subtopic)
    (b : Broker) :
    Charges (Pi.single d.id (answerFigures (passOn ctx d m ts b).2)) b
      (passOn ctx d m ts b).1 := by
  have hinvoked := (aside_of_onlyNoted (onlyNoted_invoke ctx.env d.adapter m b)).charges
  have hfault {e : BrokerError} := exists_fault_of_invoke ctx.env d.adapter m b (e := e)
  rw [passOn]
  generalize invoke ctx.env d.adapter m b = invoked at hinvoked hfault ⊢
  obtain ⟨b₁, answer⟩ := invoked
  cases answer with
  | error e =>
    obtain ⟨fault, rfl⟩ := hfault rfl
    have hreturned : Charges (Pi.single d.id 0) b₁ (b₁.onDestination d.id fun d' =>
        { d' with limiter := d'.limiter.releaseInbound m.client }) := by
      refine charges_onDestination (fun _ => rfl) fun d' _ => ?_
      have hrefusals := d'.limiter.refusals_releaseInbound m.client
      rw [Destination.sheet, (d'.limiter.returned_releaseInbound m.client).window,
        Destination.figures, Limiter.refused_of_refusals_eq hrefusals,
        Limiter.refused_of_refusals_eq hrefusals]
      rfl
    exact hinvoked.zero_trans hreturned
  | ok invocation =>
    cases invocation with
    | consumed => exact hinvoked.single_zero d.id
    | fanout =>
      have hfanned := charges_fanout hctx d m ts none true b₁
      rw [← answerFigures_fanout] at hfanned
      dsimp only
      generalize fanout ctx d m ts none true b₁ = fannedOut at hfanned ⊢
      exact hinvoked.zero_trans hfanned

/-- A message that does not pass the gate costs nothing. -/
theorem charges_routeMessage_of_error {e : BrokerError} (h : (passGate env m b).2 = .error e) :
    Charges 0 b (routeMessage env m b).1 := by
  rw [routeMessage_of_error h]
  exact (aside_of_onlyAsked (onlyAsked_passGate env m b)).charges

/-- The figures of a message that has passed the gate. -/
def receiptFigures : Figures := { (0 : Figures) with received := 1 }

/-- A message that has passed the gate is received, and costs what its answer tells. -/
theorem charges_routeMessage_of_ok (h : (passGate env m b).2 = .ok (d, ts)) :
    Charges (Pi.single m.destination (receiptFigures + answerFigures (routeMessage env m b).2)) b
      (routeMessage env m b).1 := by
  have hd := (locate_eq_ok (locate_of_passGate h)).1
  have hid : d.id = m.destination := (mem_of_destination? hd).2
  have hasked := onlyAsked_passGate env m b
  have hctx := aside_context env (passGate env m b).1
  have hreceived : Charges (Pi.single d.id receiptFigures) b
      (receive env d m (passGate env m b).1) := by
    have hcounted := charges_onTotals (fun t => { t with received := t.received + 1 })
      receiptFigures (fun _ => rfl) (passGate env m b).1 d.id
    exact ((aside_of_onlyAsked hasked).charges.zero_trans hcounted).trans_zero
      (aside_onSession (·.touch env.now) _ m.client).charges
  have hlimiter : (receive env d m (passGate env m b).1).limiter? d.id = some d.limiter := by
    obtain ⟨asked, -, hgated⟩ := hasked
    rw [limiter?_receive, hgated, hid]
    exact congrArg (Option.map _) hd
  have hchecked := charges_checkInbound env m hlimiter
  rw [routeMessage_of_ok h, ← hid]
  generalize checkInbound env d m (receive env d m (passGate env m b).1) = checked at hchecked ⊢
  obtain ⟨b₁, verdict⟩ := checked
  cases verdict with
  | denyError => exact hreceived.trans_single hchecked
  | denyIgnore => exact (hreceived.trans_single hchecked).notify hctx (dropNotice m)
  | allow =>
    have hpassed := charges_passOn hctx d m ts b₁
    dsimp only at hchecked ⊢
    generalize passOn ((passGate env m b).1.context env) d m ts b₁ = passed at hpassed ⊢
    have hallowed : Charges 0 (receive env d m (passGate env m b).1) b₁ := by
      rw [← Pi.single_zero d.id]
      exact hchecked
    exact (hreceived.trans_zero hallowed).trans_single hpassed

/-- The fan-out that an answer tells of, if it came to one. -/
def fannedOut? : Except BrokerError RouteResult → Option RouteResult
  | .ok result => if result.outcome = .delivered then some result else none
  | .error _ => none

/-- The figures of the fan-out that an answer tells of. -/
def fanoutFigures (answer : Except BrokerError RouteResult) : Figures :=
  (fannedOut? answer).elim 0 RouteResult.figures

theorem fanoutFigures_fanout (ctx : Context) (d : Destination) (m : Message) (ts : List Subtopic)
    (only : Option ClientId) (propagate : Bool) (b : Broker) :
    fanoutFigures (.ok (fanout ctx d m ts only propagate b).2) =
      (fanout ctx d m ts only propagate b).2.figures := by
  rw [fanoutFigures, fannedOut?, if_pos (outcome_fanout ctx d m ts only propagate b)]
  rfl

/-- A message that was located is counted by its way, which is no figure, and fans out. -/
theorem charges_fanout_of_locate (env : Environment) (hlocated : locate m b = .ok (d, ts))
    (change : Totals → Totals)
    (hchange : ∀ d : Destination, { d with totals := change d.totals }.figures = d.figures)
    (only : Option ClientId) (propagate : Bool) :
    let fannedOut := fanout (b.context env) d m ts only propagate (b.onTotals d.id change)
    Charges (Pi.single m.destination (fanoutFigures (.ok fannedOut.2))) b fannedOut.1 := by
  have hid : d.id = m.destination := (mem_of_destination? (locate_eq_ok hlocated).1).2
  have hcounted : Charges 0 b (b.onTotals d.id change) := by
    rw [← Pi.single_zero d.id]
    exact charges_onTotals change 0 hchange b d.id
  dsimp only
  rw [fanoutFigures_fanout, ← hid]
  exact hcounted.zero_trans (charges_fanout (aside_context env b) d m ts only propagate _)

theorem charges_routeFromPeer (env : Environment) (m : Message) (b : Broker) :
    Charges (Pi.single m.destination (fanoutFigures (routeFromPeer env m b).2)) b
      (routeFromPeer env m b).1 := by
  cases hlocated : locate m b with
  | error e =>
    have hsame : Charges 0 b b := charges_of_destinations_eq rfl rfl
    rw [routeFromPeer, hlocated]
    exact hsame.single_zero m.destination
  | ok located =>
    obtain ⟨d, ts⟩ := located
    have hfanned := charges_fanout_of_locate env hlocated
      (fun t => { t with fromPeers := t.fromPeers + 1 }) (fun _ => rfl) none false
    rw [routeFromPeer, hlocated]
    dsimp only at hfanned ⊢
    generalize fanout _ d m ts none false _ = fannedOut at hfanned ⊢
    exact hfanned

theorem charges_routeFromAdapter (env : Environment) (m : Message) (toAll : Bool) (b : Broker) :
    Charges (Pi.single m.destination (fanoutFigures (routeFromAdapter env m toAll b).2)) b
      (routeFromAdapter env m toAll b).1 := by
  cases hlocated : locate m b with
  | error e =>
    have hsame : Charges 0 b b := charges_of_destinations_eq rfl rfl
    rw [routeFromAdapter, hlocated]
    exact hsame.single_zero m.destination
  | ok located =>
    obtain ⟨d, ts⟩ := located
    have hfanned := charges_fanout_of_locate env hlocated
      (fun t => { t with fromAdapter := t.fromAdapter + 1 }) (fun _ => rfl)
      (if toAll then none else some m.client) toAll
    rw [routeFromAdapter, hlocated]
    dsimp only at hfanned ⊢
    cases toAll with
    | true =>
      simp only [if_true] at hfanned ⊢
      generalize fanout _ d m ts none true _ = fannedOut at hfanned ⊢
      exact hfanned
    | false =>
      simp only [Bool.false_eq_true, if_false] at hfanned ⊢
      generalize fanout _ d m ts (some m.client) false _ = fannedOut at hfanned ⊢
      exact hfanned

end Broker

end MessageBroker
