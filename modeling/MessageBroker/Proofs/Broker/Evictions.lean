/-
# What a sweep evicts

A sweep goes through the listings of all destinations that have a timeout and ends the
subscriptions whose clients were not active for longer. As long as nobody calls back, ending one
subscription neither ends another one nor makes a client more or less active, so what a whole
sweep evicts can be told beforehand. Sessions that are left without subscriptions end only after
all destinations were swept.

How long a client was inactive is a signed word of 64 bits. The number of minutes that is
configured reaches the comparison through two conversions, both of which cut it at the largest
word that they can hold, which makes no difference to any age. So what is evicted is what is
overdue by whole numbers, as long as the time since the last activity fits a word itself.
-/

import MessageBroker.Proofs.Broker.Absence
import MessageBroker.Proofs.Broker.Leaving

open Std

namespace MessageBroker

namespace DestinationSettings

/-- Whether a client was inactive for longer than a destination allows. -/
def IsOverdue (s : DestinationSettings) (age : Int) : Prop :=
  s.timeoutMinutes ≠ 0 ∧ (s.timeoutMinutes * 60000 : Int) < age

/-- Whether a client was inactive for longer than a destination allows, up to the longest timeout
that a signed word holds. -/
def Lapsed (s : DestinationSettings) (age : Int) : Prop :=
  s.timeoutMinutes ≠ 0 ∧ min (s.timeoutMinutes * 60000 : Int) (2 ^ 63 - 1) < age

instance (s : DestinationSettings) (age : Int) : Decidable (s.Lapsed age) :=
  inferInstanceAs (Decidable (_ ∧ _))

variable {s : DestinationSettings} {age age' : Int}

/-- Cutting the timeout makes no difference to ages that fit a signed word. -/
theorem lapsed_iff_isOverdue (s : DestinationSettings) (hage : age < 2 ^ 63) :
    s.Lapsed age ↔ s.IsOverdue age := by
  rw [Lapsed, IsOverdue]
  omega

theorem lapsed_iff (s : DestinationSettings) (age : Int) :
    s.Lapsed age ↔ ∃ timeout, s.subscriptionTimeout? = some timeout ∧ timeout.clampedMs < age := by
  rw [Lapsed, subscriptionTimeout?]
  by_cases hzero : s.timeoutMinutes = 0
  · simp [hzero]
  · simp only [hzero, if_false, Option.some.injEq, exists_eq_left', Span.clampedMs, Span.ofSeconds]
    omega

/-- What is overdue at some age is so at every higher one. -/
theorem Lapsed.mono (h : s.Lapsed age) (hage : age ≤ age') : s.Lapsed age' :=
  ⟨h.1, Int.lt_of_lt_of_le h.2 hage⟩

end DestinationSettings

namespace Broker

variable {b b' b'' : Broker} {ctx : Context} {env : Environment} {id : DestinationId}
  {d : Destination} {n : SubscriptionId} {s : Subscription} {now : Timestamp}
  {gone gone' : DestinationId → Subscription → Prop}

/-- What was registered still is, apart from what is gone; nobody was active, and the rest
happened on the side. -/
structure Evicts (gone : DestinationId → Subscription → Prop) (b b' : Broker) : Prop where
  registered : ∀ id n s,
    b'.registered? id n = some s ↔ b.registered? id n = some s ∧ ¬gone id s
  activity : ∀ s, lastActivity s b' = lastActivity s b
  aside : Aside b b'

theorem Evicts.congr (h : Evicts gone b b')
    (hgone : ∀ id n s, b.registered? id n = some s → (gone id s ↔ gone' id s)) :
    Evicts gone' b b' := by
  refine ⟨fun id n s => ?_, h.activity, h.aside⟩
  rw [h.registered]
  exact and_congr_right fun hs => not_congr (hgone id n s hs)

theorem Evicts.trans (h : Evicts gone b b') (h' : Evicts gone' b' b'') :
    Evicts (fun id s => gone id s ∨ gone' id s) b b'' := by
  refine ⟨fun id n s => ?_, fun s => (h'.activity s).trans (h.activity s), h.aside.trans h'.aside⟩
  rw [h'.registered, h.registered, not_or, and_assoc]

theorem evicts_nothing (hregistered : ∀ id n, b'.registered? id n = b.registered? id n)
    (hactivity : ∀ s, lastActivity s b' = lastActivity s b) (haside : Aside b b') :
    Evicts (fun _ _ => False) b b' := by
  refine ⟨fun id n s => ?_, hactivity, haside⟩
  rw [hregistered, not_false_iff, and_true]

theorem Evicts.refl (b : Broker) : Evicts (fun _ _ => False) b b :=
  evicts_nothing (fun _ _ => rfl) (fun _ => rfl) (.refl b)

theorem Evicts.then_nothing (h : Evicts gone b b') (h' : Evicts (fun _ _ => False) b' b'') :
    Evicts gone b b'' :=
  (h.trans h').congr fun _ _ _ _ => or_iff_left not_false

theorem lastActivity_eq (s : Subscription) (b : Broker) :
    lastActivity s b = ((b.sessions[s.client]?).map (·.lastActivity)).getD s.createdAt := by
  rw [lastActivity]
  cases b.sessions[s.client]? <;> rfl

theorem Still.evicts (h : Still b b') (haside : Aside b b') : Evicts (fun _ _ => False) b b' := by
  refine evicts_nothing h.registered (fun s => ?_) haside
  rw [lastActivity, lastActivity, h.sessions]

theorem Evicts.silent (h : Evicts gone b b') (hsilent : Silent env b) : Silent env b' :=
  hsilent.of_hooks_eq h.aside.hooks

theorem lastActivity_onSession (change : Session → Session)
    (hactivity : ∀ session, (change session).lastActivity = session.lastActivity) (b : Broker)
    (c : ClientId) (s : Subscription) :
    lastActivity s (b.onSession c change) = lastActivity s b := by
  rw [onSession]
  split
  · rfl
  next session hsession =>
    rw [lastActivity_eq, lastActivity_eq]
    dsimp only
    rw [Maps.getElem?_insert_ite]
    split
    next heq => rw [← heq, hsession, Option.map_some, hactivity, Option.map_some]
    next => rfl

/-- Cleaning up after a subscription evicts no other one. -/
theorem evicts_detach (hctx : ctx.Aside) (hsilent : Silent ctx.env b) (id : DestinationId)
    (reason : UnsubscribeReason) (s : Subscription) :
    Evicts (fun _ _ => False) b (detach ctx id reason b s) := by
  have hstruck : Evicts (fun _ _ => False) b (b.strike id s) :=
    evicts_nothing (alike_strike id s b).registered?
      (lastActivity_onSession
        (fun session => { session with subscriptions := session.subscriptions.erase s.id })
        (fun _ => rfl) { b with owners := b.owners.erase s.id } s.client)
      (aside_strike id s b)
  have hsilent := hstruck.silent hsilent
  have htold := hstruck.then_nothing ((still_notify ctx hsilent (.unsubscribed s reason)).evicts
    (aside_notify hctx rfl _))
  rw [detach_eq]
  exact htold.then_nothing
    ((still_announce (htold.silent ‹_›) id).evicts (aside_announce hctx id _))

/-! ## One subscription -/

theorem registered?_takeOut_one (i : SubscriptionId) (b : Broker) (id' : DestinationId)
    (n : SubscriptionId) :
    (takeOut id (takeOne i) b).1.registered? id' n =
      if id' = id ∧ n = i then none else b.registered? id' n := by
  cases hd : b.destination? id with
  | none =>
    have htaken : (takeOut id (takeOne i) b).1 = b := by rw [takeOut, hd]
    rw [htaken]
    split
    next hplace => rw [hplace.1, registered?, hd]; rfl
    next => rfl
  | some d =>
    rw [takeOut_of_destination? hd, registered?,
      destination?_onDestination _ (by exact fun _ => rfl), registered?]
    by_cases hid : id' = id
    · subst hid
      rw [hd, Option.map_some, if_pos (mem_of_destination? hd).2, Option.bind_some, takeOne,
        Registry.get?_remove]
      simp only [true_and, eq_comm (a := i), Option.bind_some]
    · rw [if_neg fun h => hid h.1]
      cases hd' : b.destination? id' with
      | none => rfl
      | some d' =>
        rw [Option.map_some, if_neg fun heq => hid ((mem_of_destination? hd').2.symm.trans heq)]

theorem snd_takeOut_one (id : DestinationId) (i : SubscriptionId) (b : Broker) :
    (takeOut id (takeOne i) b).2.map (·.subscription) = (b.registered? id i).toList := by
  rw [registered?]
  cases hd : b.destination? id with
  | none =>
    rw [takeOut, hd]
    rfl
  | some d =>
    rw [takeOut_of_destination? hd, Option.bind_some, takeOne]
    cases hs : d.registry.get? i with
    | none =>
      rw [Registry.remove_of_none hs]
      rfl
    | some s =>
      rw [Registry.remove_of_some hs]
      rfl

theorem evicts_takeOut_one (id : DestinationId) (i : SubscriptionId)
    (hplaces : ∀ id n s, b.registered? id n = some s → s.id = n) :
    Evicts (fun id' t => id' = id ∧ t.id = i) b (takeOut id (takeOne i) b).1 := by
  have hsessions : (takeOut id (takeOne i) b).1.sessions = b.sessions := by
    rw [takeOut]
    split <;> rfl
  refine ⟨fun id' n t => ?_, fun t => ?_, aside_takeOut id (takeOne i) b⟩
  · rw [registered?_takeOut_one]
    constructor
    · intro ht
      split at ht
      · cases ht
      next hplace => exact ⟨ht, fun h => hplace ⟨h.1, (hplaces id' n t ht).symm.trans h.2⟩⟩
    · rintro ⟨ht, hkept⟩
      rw [if_neg fun h => hkept ⟨h.1, (hplaces id' n t ht).trans h.2⟩, ht]
  · rw [lastActivity, lastActivity, hsessions]

theorem sweepOne_of_active {w : Sweeping} {timeout : Int}
    (hactive : Timestamp.since now (lastActivity s w.broker) ≤ timeout) :
    sweepOne ctx id timeout now w s = w :=
  if_pos hactive

/-- A sweep leaves a subscription alone that has ended already. -/
theorem sweepOne_of_none {w : Sweeping} (timeout : Int)
    (hnone : w.broker.registered? id s.id = none) : sweepOne ctx id timeout now w s = w := by
  have htaken := snd_takeOut_one id s.id w.broker
  rw [hnone] at htaken
  rw [sweepOne]
  split
  · rfl
  · split
    · rfl
    next removed hremoved heq =>
      have hsame : (takeOut id (takeOne s.id) w.broker).2 = removed := congrArg Prod.snd heq
      rw [hsame] at htaken
      exact absurd (List.map_eq_nil_iff.mp htaken) hremoved

/-- A sweep evicts a subscription whose client is idle. -/
theorem sweepOne_of_idle {w : Sweeping} {t : Subscription} {timeout : Int}
    (ht : w.broker.registered? id s.id = some t)
    (hidle : timeout < Timestamp.since now (lastActivity s w.broker)) :
    sweepOne ctx id timeout now w s =
      { broker := detach ctx id .idleTimeout (takeOut id (takeOne s.id) w.broker).1 t
        evicted := w.evicted + 1
        clients := w.clients.insert s.client } := by
  have htaken := snd_takeOut_one id s.id w.broker
  rw [ht] at htaken
  have hone : (fun r : Registry => ((r.remove s.id).1, (r.remove s.id).2.toList)) =
      takeOne s.id := rfl
  rw [sweepOne, if_neg (Int.not_le.mpr hidle), hone]
  generalize takeOut id (takeOne s.id) w.broker = taken at htaken ⊢
  rcases taken with ⟨b, _ | ⟨r, rest⟩⟩
  · cases htaken
  · obtain ⟨hr, hrest⟩ := List.cons.inj htaken
    cases hr
    cases List.map_eq_nil_iff.mp hrest
    rfl

/-- What a sweep does about one subscription of a destination. -/
def sweepStep (ctx : Context) (d : Destination) (now : Timestamp) (w : Sweeping)
    (s : Subscription) : Sweeping :=
  match d.settings.subscriptionTimeout? with
  | none => w
  | some timeout => sweepOne ctx d.id timeout.clampedMs now w s

theorem sweepDestination_eq {w : Sweeping} (hd : w.broker.destination? id = some d) :
    sweepDestination ctx now w id = d.registry.toList.foldl (sweepStep ctx d now) w := by
  rw [sweepDestination]
  rw [hd]
  dsimp only
  cases htimeout : d.settings.subscriptionTimeout? with
  | none =>
    have hidle : sweepStep ctx d now = fun w _ => w := by
      funext w s
      rw [sweepStep, htimeout]
    rw [hidle, List.foldl_fixed]
  | some timeout =>
    have hstep : sweepStep ctx d now = sweepOne ctx d.id timeout.clampedMs now := by
      funext w s
      rw [sweepStep, htimeout]
    rw [hstep, (mem_of_destination? hd).2]

/-- A sweep leaves a subscription alone in its turn if it is not overdue. -/
theorem sweepStep_of_not_lapsed {w : Sweeping}
    (h : ¬d.settings.Lapsed (Timestamp.since now (lastActivity s w.broker))) :
    sweepStep ctx d now w s = w := by
  rw [d.settings.lapsed_iff] at h
  rw [sweepStep]
  split
  · rfl
  next timeout htimeout =>
    exact sweepOne_of_active (Int.not_lt.mp fun hlt => h ⟨timeout, htimeout, hlt⟩)

/-- A sweep evicts a subscription in its turn if it is overdue. -/
theorem sweepStep_of_lapsed {w : Sweeping} {t : Subscription}
    (ht : w.broker.registered? d.id s.id = some t)
    (h : d.settings.Lapsed (Timestamp.since now (lastActivity s w.broker))) :
    sweepStep ctx d now w s =
      { broker := detach ctx d.id .idleTimeout (takeOut d.id (takeOne s.id) w.broker).1 t
        evicted := w.evicted + 1
        clients := w.clients.insert s.client } := by
  obtain ⟨timeout, htimeout, hlt⟩ := (d.settings.lapsed_iff _).mp h
  rw [sweepStep, htimeout]
  exact sweepOne_of_idle ht hlt

/-- A subscription that has not ended yet is evicted in its turn exactly if its client is idle,
by whole numbers if the time since the last activity fits a word. -/
theorem evicted_sweepStep {w : Sweeping} (hs : (w.broker.registered? d.id s.id).isSome)
    (hfits : Timestamp.Fits now (lastActivity s w.broker)) :
    (sweepStep ctx d now w s).evicted = w.evicted + 1 ↔
      d.settings.IsOverdue (now - lastActivity s w.broker) := by
  rw [← d.settings.lapsed_iff_isOverdue hfits.2, ← Timestamp.since_of_fits hfits]
  by_cases hlapsed : d.settings.Lapsed (Timestamp.since now (lastActivity s w.broker))
  · obtain ⟨t, ht⟩ := Option.isSome_iff_exists.mp hs
    rw [sweepStep_of_lapsed ht hlapsed]
    exact iff_of_true rfl hlapsed
  · rw [sweepStep_of_not_lapsed hlapsed]
    exact iff_of_false (Nat.ne_of_lt (Nat.lt_succ_self _)) hlapsed

/-- Evicting takes out the subscription that has the number, if its client is idle. -/
theorem evicts_sweepStep (hctx : ctx.Aside) (d : Destination) (now : Timestamp) {w : Sweeping}
    (hsilent : Silent ctx.env w.broker)
    (hplaces : ∀ id n s, w.broker.registered? id n = some s → s.id = n) (s : Subscription) :
    Evicts (fun id t => id = d.id ∧ t.id = s.id ∧
        d.settings.Lapsed (Timestamp.since now (lastActivity s w.broker))) w.broker
      (sweepStep ctx d now w s).broker := by
  by_cases hlapsed : d.settings.Lapsed (Timestamp.since now (lastActivity s w.broker))
  · cases ht : w.broker.registered? d.id s.id with
    | none =>
      have hsame : sweepStep ctx d now w s = w := by
        rw [sweepStep]
        split
        · rfl
        next timeout _ => exact sweepOne_of_none timeout.clampedMs ht
      rw [hsame]
      refine (Evicts.refl w.broker).congr fun id' n t hn => iff_of_false not_false ?_
      rintro ⟨rfl, hid, -⟩
      rw [← hid, hplaces _ _ _ hn, hn] at ht
      cases ht
    | some t =>
      rw [sweepStep_of_lapsed ht hlapsed]
      have htaken := evicts_takeOut_one d.id s.id hplaces
      have hcleaned := htaken.then_nothing
        (evicts_detach hctx (htaken.silent hsilent) d.id .idleTimeout t)
      exact hcleaned.congr fun _ _ _ _ => by rw [and_iff_left hlapsed]
  · rw [sweepStep_of_not_lapsed hlapsed]
    exact (Evicts.refl w.broker).congr fun _ _ _ _ => iff_of_false not_false fun h => hlapsed h.2.2

/-! ## The whole sweep -/

theorem evicts_foldl_sweepStep (hctx : ctx.Aside) (d : Destination) (now : Timestamp)
    (l : List Subscription) {w : Sweeping} (hsilent : Silent ctx.env w.broker)
    (hplaces : ∀ id n s, w.broker.registered? id n = some s → s.id = n) :
    Evicts (fun id t => id = d.id ∧ ∃ s ∈ l, t.id = s.id ∧
        d.settings.Lapsed (Timestamp.since now (lastActivity s w.broker))) w.broker
      (l.foldl (sweepStep ctx d now) w).broker := by
  induction l generalizing w with
  | nil => exact (Evicts.refl w.broker).congr fun _ _ _ _ => iff_of_false not_false nofun
  | cons s l ih =>
    have hfirst := evicts_sweepStep hctx d now hsilent hplaces s
    have hrest := ih (hfirst.silent hsilent)
      fun id n t ht => hplaces id n t ((hfirst.registered id n t).mp ht).1
    refine (hfirst.trans hrest).congr fun id n t _ => ?_
    simp only [hfirst.activity, List.exists_mem_cons_iff, and_or_left]

/-- Whether the client of a subscription at a destination was inactive for longer than the
destination allows. -/
def IsIdle (b : Broker) (now : Timestamp) (id : DestinationId) (s : Subscription) : Prop :=
  ∃ settings, (b.destination? id).map (·.settings) = some settings ∧
    settings.IsOverdue (now - lastActivity s b)

/-- Whether a sweep finds the client of a subscription at a destination inactive for longer than
the destination allows, up to the longest timeout that a signed word holds. -/
def HasLapsed (b : Broker) (now : Timestamp) (id : DestinationId) (s : Subscription) : Prop :=
  ∃ settings, (b.destination? id).map (·.settings) = some settings ∧
    settings.Lapsed (Timestamp.since now (lastActivity s b))

theorem hasLapsed_iff (hd : b.destination? id = some d) (now : Timestamp) (s : Subscription) :
    HasLapsed b now id s ↔ d.settings.Lapsed (Timestamp.since now (lastActivity s b)) := by
  rw [HasLapsed, hd]
  simp only [Option.map_some, Option.some.injEq, exists_eq_left']

theorem hasLapsed_iff_isIdle (hfits : Timestamp.Fits now (lastActivity s b)) :
    HasLapsed b now id s ↔ IsIdle b now id s := by
  rw [HasLapsed, IsIdle, Timestamp.since_of_fits hfits]
  exact exists_congr fun settings =>
    and_congr_right fun _ => settings.lapsed_iff_isOverdue hfits.2

theorem Aside.settings (h : Aside b b') (id : DestinationId) :
    (b'.destination? id).map (·.settings) = (b.destination? id).map (·.settings) := by
  obtain ⟨f, hf, hdestinations⟩ := h.destinations
  rw [destination?_map (fun d => (hf d).id) hdestinations, Option.map_map]
  congr 1
  funext d
  exact (hf d).settings

theorem Aside.hasLapsed_iff (h : Aside b b') (hactivity : lastActivity s b' = lastActivity s b) :
    HasLapsed b' now id s ↔ HasLapsed b now id s := by
  rw [HasLapsed, HasLapsed, h.settings, hactivity]

theorem mem_toList_iff (hd : b.destination? id = some d) :
    s ∈ d.registry.toList ↔ ∃ n, b.registered? id n = some s := by
  rw [Registry.toList, Maps.mem_values_iff]
  refine exists_congr fun n => ?_
  rw [registered?, hd]
  rfl

theorem evicts_sweepDestination (hctx : ctx.Aside) (now : Timestamp) (id : DestinationId)
    {w : Sweeping}
    (hsilent : Silent ctx.env w.broker)
    (hplaces : ∀ id n s, w.broker.registered? id n = some s → s.id = n) :
    Evicts (fun id' s => id' = id ∧ HasLapsed w.broker now id s) w.broker
      (sweepDestination ctx now w id).broker := by
  cases hd : w.broker.destination? id with
  | none =>
    have hsame : sweepDestination ctx now w id = w := by rw [sweepDestination, hd]
    rw [hsame]
    refine (Evicts.refl w.broker).congr fun _ _ _ _ => iff_of_false not_false ?_
    rintro ⟨-, settings, hsettings, -⟩
    rw [hd] at hsettings
    cases hsettings
  | some d =>
    obtain rfl : d.id = id := (mem_of_destination? hd).2
    rw [sweepDestination_eq hd]
    refine (evicts_foldl_sweepStep hctx d now _ hsilent hplaces).congr fun id' n t ht =>
      and_congr_right ?_
    rintro rfl
    rw [hasLapsed_iff hd]
    constructor
    · rintro ⟨s, hs, hid, hlapsed⟩
      obtain ⟨m, hm⟩ := (mem_toList_iff hd).mp hs
      -- Both have the same number, so they are the same subscription.
      have hplace : n = m := (hplaces _ _ _ ht).symm.trans (hid.trans (hplaces _ _ _ hm))
      subst hplace
      cases ht.symm.trans hm
      exact hlapsed
    · exact fun hlapsed => ⟨t, (mem_toList_iff hd).mpr ⟨n, ht⟩, rfl, hlapsed⟩

theorem evicts_foldl_sweepDestination (hctx : ctx.Aside) (now : Timestamp)
    (ids : List DestinationId) {w : Sweeping}
    (hsilent : Silent ctx.env w.broker)
    (hplaces : ∀ id n s, w.broker.registered? id n = some s → s.id = n) :
    Evicts (fun id s => id ∈ ids ∧ HasLapsed w.broker now id s) w.broker
      (ids.foldl (sweepDestination ctx now) w).broker := by
  induction ids generalizing w with
  | nil =>
    exact (Evicts.refl w.broker).congr fun _ _ _ _ => iff_of_false not_false nofun
  | cons id ids ih =>
    have hfirst := evicts_sweepDestination hctx now id hsilent hplaces
    have hrest := ih (hfirst.silent hsilent)
      fun id' n t ht => hplaces id' n t ((hfirst.registered id' n t).mp ht).1
    refine (hfirst.trans hrest).congr fun id' n t _ => ?_
    rw [hfirst.aside.hasLapsed_iff (hfirst.activity t), List.mem_cons, or_and_right]
    exact or_congr_left (and_congr_right fun hid => hid ▸ Iff.rfl)

theorem registered?_terminate (hsilent : Silent ctx.env b) (c : ClientId) (onlyIfEmpty : Bool) :
    ∀ id n, (terminate ctx c onlyIfEmpty b).registered? id n = b.registered? id n := by
  rw [terminate]
  split
  · split
    · exact fun _ _ => rfl
    · exact (alike_dropCounters c b).registered?
  · split
    · exact fun _ _ => rfl
    · let b₁ : Broker :=
        { b with sessions := b.sessions.erase c, sessionGauge := b.sessionGauge.dec }
      have hdropped : ∀ id n, (dropCounters c b₁).registered? id n = b.registered? id n :=
        (alike_dropCounters c b₁).registered?
      have hsilent₁ : Silent ctx.env (dropCounters c b₁) := hsilent.of_hooks_eq rfl
      exact fun id n => ((still_notify ctx hsilent₁ _).registered id n).trans (hdropped id n)

theorem registered?_foldl_terminate (hctx : ctx.Aside) (cs : List ClientId)
    (hsilent : Silent ctx.env b) (id : DestinationId) (n : SubscriptionId) :
    (cs.foldl (fun b c => terminate ctx c true b) b).registered? id n = b.registered? id n := by
  induction cs generalizing b with
  | nil => rfl
  | cons c cs ih =>
    exact (ih (hsilent.of_hooks_eq (aside_terminate hctx c true b).hooks)).trans
      (registered?_terminate hsilent c true id n)

/-- As long as nobody calls back, a sweep evicts exactly the subscriptions of idle clients. -/
theorem registered?_sweepAt (hsilent : Silent env b)
    (hplaces : ∀ id n s, b.registered? id n = some s → s.id = n) :
    (sweepAt env now b).1.registered? id n = some s ↔
      b.registered? id n = some s ∧ ¬HasLapsed b now id s := by
  have hsilent' : Silent (b.context env).env b := hsilent
  have hctx := aside_context env b
  have hswept := evicts_foldl_sweepDestination (w := ⟨b, 0, ∅⟩) hctx now b.destinationIds hsilent'
    hplaces
  have hended := registered?_foldl_terminate hctx
    (b.destinationIds.foldl (sweepDestination (b.context env) now) ⟨b, 0, ∅⟩).clients.toList
    (hswept.silent hsilent') id n
  have hresult : (sweepAt env now b).1.registered? id n =
      (b.destinationIds.foldl (sweepDestination (b.context env) now)
        ⟨b, 0, ∅⟩).broker.registered? id n := by
    rw [sweepAt]
    split
    · exact hended
    · exact hended
  rw [hresult, hswept.registered]
  refine and_congr_right fun hs => not_congr (and_iff_right ?_)
  obtain ⟨d, hd, -⟩ := Option.bind_eq_some_iff.mp hs
  obtain ⟨hmem, rfl⟩ := mem_of_destination? hd
  exact List.mem_map_of_mem hmem

end Broker

end MessageBroker
