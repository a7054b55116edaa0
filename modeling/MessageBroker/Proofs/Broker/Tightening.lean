/-
# Asking for less

A client that lowers the limits of its subscriptions, or asks for limits where it asked for none,
gets no message that it would not have got otherwise, and nobody else loses one.

A message takes the same way up to its fan-out, since limits matter to nothing before, and it has
the same recipients there. Up to the turn of the client that asks for less the two courses are
one. The client may be refused then where it would have been given a copy, never the other way
round, and from there on the second limiter eases the first: each recipient still to come finds
its own counter as it would be and the counter of the destination no fuller, so that it passes
where it would have passed.
-/

import MessageBroker.Proofs.Broker.Forwarding
import MessageBroker.Proofs.Broker.Independence
import MessageBroker.Proofs.Broker.Retuning
import MessageBroker.Proofs.Throttle.Tightening

open Std

namespace MessageBroker

namespace Limiter.Eases

variable {l l' : Limiter} {now : Timestamp} {ahead : ClientId → Prop} {c : ClientId}

/-- What is called back for on account of a client that had its turn makes no difference. -/
theorem leaves_left (h : l.Eases .outbound now ahead l') (hc : ¬ahead c) (hooks : HookTable)
    (n : Notice) : (hooks.leaves n c l).Eases .outbound now ahead l' := by
  rw [HookTable.leaves]
  split
  · exact h.removeClient_left hc
  · exact h

theorem leaves_right (h : l.Eases .outbound now ahead l') (hc : ¬ahead c) (hooks : HookTable)
    (n : Notice) : l.Eases .outbound now ahead (hooks.leaves n c l') := by
  rw [HookTable.leaves]
  split
  · exact h.removeClient_right hc
  · exact h

end Limiter.Eases

namespace Broker

variable {env : Environment} {b b' : Broker} {d : Destination} {m : Message} {hooks : HookTable}
  {l l' : Limiter} {c apart : ClientId} {old new requested : Option Nat} {ts : List Subtopic}
  {f : Subscription → Option Nat} {entry : Entry} {rs rs' : List Recipient}

/-! ## Two courses -/

/-- What becomes of the fate of a recipient when one client asks for less. That client may be
refused where it was given a copy, and the others may be given a copy where they were refused. -/
structure FateWithLessFor (apart : ClientId) (r r' : Recipient) : Prop where
  client : r'.client = r.client
  held : r.client = apart → r'.fate = r.fate ∨ r.fate.isHanded = true ∧ r'.fate = .throttled
  spared : r.client ≠ apart → r'.fate = r.fate ∨ r.fate = .throttled ∧ r'.fate.isHanded = true

theorem FateWithLessFor.refl (apart : ClientId) (r : Recipient) : FateWithLessFor apart r r :=
  ⟨rfl, fun _ => .inl rfl, fun _ => .inl rfl⟩

theorem isHanded_ofAnswer (answer : Answer) : (Fate.ofAnswer answer).isHanded = true := by
  cases answer <;> rfl

/-- The client that asks for less has its turn, on the same limiter. -/
theorem meet_of_restrains (env : Environment) (d : Destination) (m : Message)
    (hooks : HookTable) (l : Limiter) (c : ClientId) (h : Restrains old new) :
    FateWithLessFor c (meet env d m hooks l (c, old)).1 (meet env d m hooks l (c, new)).1 ∧
      (meet env d m hooks l (c, old)).2.Eases .outbound env.now (· ≠ c)
        (meet env d m hooks l (c, new)).2 := by
  have hturn : ¬(fun x => x ≠ c) c := fun hne => hne rfl
  have hchecked := l.eases_check_of_restrains .outbound c env.now h
  rcases meet_cases env d m l c old with hage | ⟨hfresh, hpass | hrefused⟩
  · rw [meet_of_expired hage, meet_of_expired hage]
    exact ⟨⟨rfl, fun _ => .inl rfl, fun _ => .inl rfl⟩, .refl _⟩
  · rw [meet_of_allowed hfresh hpass]
    cases hnow : (l.check .outbound c new env.now).2.isAllowed with
    | true =>
      rw [meet_of_allowed hfresh hnow]
      exact ⟨⟨rfl, fun _ => .inl rfl, fun _ => .inl rfl⟩, hchecked⟩
    | false =>
      rw [meet_of_refused hfresh hnow]
      refine ⟨⟨rfl, fun _ => .inr ⟨isHanded_ofAnswer _, rfl⟩, fun hne => absurd rfl hne⟩, ?_⟩
      exact hchecked.leaves_right hturn hooks _
  · have hnow : (l.check .outbound c new env.now).2.isAllowed = false := by
      refine Bool.eq_false_iff.mpr fun hallowed => ?_
      exact Bool.false_ne_true
        (hrefused.symm.trans (Limiter.isAllowed_check_of_restrains h hallowed))
    rw [meet_of_refused hfresh hrefused, meet_of_refused hfresh hnow]
    refine ⟨⟨rfl, fun _ => .inl rfl, fun _ => .inl rfl⟩, ?_⟩
    exact (hchecked.leaves_left hturn hooks _).leaves_right hturn hooks _

/-- A recipient that is still ahead has its turn, on a limiter that is no worse for it. -/
theorem meet_of_eases {ahead : ClientId → Prop} (d : Destination) (m : Message)
    (hooks : HookTable) (h : l.Eases .outbound env.now ahead l') (hc : ahead c) (hne : c ≠ apart)
    (requested : Option Nat) :
    FateWithLessFor apart (meet env d m hooks l (c, requested)).1
        (meet env d m hooks l' (c, requested)).1 ∧
      (meet env d m hooks l (c, requested)).2.Eases .outbound env.now (fun x => ahead x ∧ x ≠ c)
        (meet env d m hooks l' (c, requested)).2 := by
  have hturn : ¬(ahead c ∧ c ≠ c) := fun hboth => hboth.2 rfl
  have hchecked := h.check_ahead hc requested
  rcases meet_cases env d m l c requested with hage | ⟨hfresh, hpass | hrefused⟩
  · rw [meet_of_expired hage, meet_of_expired hage]
    refine ⟨⟨rfl, fun _ => .inl rfl, fun _ => .inl rfl⟩, ?_⟩
    have hrest : l.Eases .outbound env.now (fun x => ahead x ∧ x ≠ c) l' := h.mono fun _ hx => hx.1
    exact (hrest.leaves_left hturn hooks _).leaves_right hturn hooks _
  · rw [meet_of_allowed hfresh hpass, meet_of_allowed hfresh (h.isAllowed hc hpass)]
    exact ⟨⟨rfl, fun _ => .inl rfl, fun _ => .inl rfl⟩, hchecked⟩
  · rw [meet_of_refused hfresh hrefused]
    cases hnow : (l'.check .outbound c requested env.now).2.isAllowed with
    | true =>
      rw [meet_of_allowed hfresh hnow]
      refine ⟨⟨rfl, fun heq => absurd heq hne, fun _ => .inr ⟨rfl, isHanded_ofAnswer _⟩⟩, ?_⟩
      exact hchecked.leaves_left hturn hooks _
    | false =>
      rw [meet_of_refused hfresh hnow]
      refine ⟨⟨rfl, fun _ => .inl rfl, fun _ => .inl rfl⟩, ?_⟩
      exact (hchecked.leaves_left hturn hooks _).leaves_right hturn hooks _

/-- All recipients still ahead fare as well on a limiter that is no worse for them. -/
theorem course_of_eases {ahead : ClientId → Prop} (d : Destination) (m : Message)
    (hooks : HookTable) {recipients : List (ClientId × Option Nat)}
    (h : l.Eases .outbound env.now ahead l') (hahead : ∀ p ∈ recipients, ahead p.1)
    (hnodup : (recipients.map Prod.fst).Nodup) (hothers : ∀ p ∈ recipients, p.1 ≠ apart) :
    List.Forall₂ (FateWithLessFor apart) (course env d m hooks l recipients).1
      (course env d m hooks l' recipients).1 := by
  induction recipients generalizing l l' ahead with
  | nil => exact .nil
  | cons recipient recipients ih =>
    obtain ⟨c, requested⟩ := recipient
    obtain ⟨hnotmem, hnodup⟩ := List.nodup_cons.mp hnodup
    obtain ⟨hc, hahead⟩ := List.forall_mem_cons.mp hahead
    obtain ⟨hne, hothers⟩ := List.forall_mem_cons.mp hothers
    obtain ⟨hfates, heases⟩ := meet_of_eases d m hooks h hc hne requested
    refine .cons hfates (ih heases (fun p hp => ⟨hahead p hp, ?_⟩) hnodup hothers)
    exact fun heq => hnotmem (heq ▸ List.mem_map_of_mem hp)

/-- A recipient when one client asks for another limit. -/
def ask (apart : ClientId) (limit : Option Nat) (p : ClientId × Option Nat) :
    ClientId × Option Nat :=
  if p.1 = apart then (apart, limit) else p

/-- What becomes of a message for recipients one of which asks for less. -/
theorem course_of_restrains (env : Environment) (d : Destination) (m : Message)
    (hooks : HookTable) (l : Limiter) {recipients : List (ClientId × Option Nat)}
    (hless : ∀ p ∈ recipients, p.1 = apart → Restrains p.2 new)
    (hnodup : (recipients.map Prod.fst).Nodup) :
    List.Forall₂ (FateWithLessFor apart) (course env d m hooks l recipients).1
      (course env d m hooks l (recipients.map (ask apart new))).1 := by
  induction recipients generalizing l with
  | nil => exact .nil
  | cons recipient recipients ih =>
    obtain ⟨c, requested⟩ := recipient
    obtain ⟨hnotmem, hnodup⟩ := List.nodup_cons.mp hnodup
    obtain ⟨hfirst, hless⟩ := List.forall_mem_cons.mp hless
    by_cases hc : c = apart
    -- The others come later and ask for the same as before.
    · subst hc
      have hothers : ∀ p ∈ recipients, p.1 ≠ c :=
        fun p hp heq => hnotmem (List.mem_map.mpr ⟨p, hp, heq⟩)
      have hsame : recipients.map (ask c new) = recipients :=
        (List.map_congr_left fun p hp => if_neg (hothers p hp)).trans (List.map_id' recipients)
      obtain ⟨hfates, heases⟩ := meet_of_restrains env d m hooks l c (hfirst rfl)
      rw [List.map_cons, hsame, ask, if_pos rfl]
      exact .cons hfates (course_of_eases d m hooks heases hothers hnodup hothers)
    · rw [List.map_cons, ask, if_neg hc]
      exact .cons (.refl apart _) (ih _ hless hnodup)

/-! ## The recipients -/

/-- The lowest limit of subscriptions that ask for less. -/
theorem restrains_of_lowestLimit {p q : Subscription → Prop} (hold : LowestLimit p old)
    (hnew : LowestLimit q new) (hq : ∀ t, q t ↔ ∃ s, p s ∧ s.retune f = t)
    (hlowers : ∀ s, p s → Lowers s.maxFrequency (f s)) : Restrains old new := by
  rintro n rfl hpos
  obtain ⟨⟨s, hs, hasked⟩, hlowest⟩ := hold
  have hpositive {s : Subscription} {k : Nat} (hs : p s) (hk : f s = some k) : 0 < k := by
    rcases hlowers s hs with hsame | ⟨k', hk', hpos', -⟩
    · exact hpos.trans_le (hlowest s k hs (hsame ▸ hk))
    · obtain rfl := Option.some.inj (hk.symm.trans hk')
      exact hpos'
  obtain ⟨k, hk, -, hkn⟩ := (hlowers s hs).restrains n hasked hpos
  have hlower : q (s.retune f) := (hq _).mpr ⟨s, hs, rfl⟩
  cases new with
  | none => cases (hnew _ hlower).symm.trans hk
  | some k' =>
    obtain ⟨⟨t, ht, hlimit⟩, hleast⟩ := hnew
    obtain ⟨s', hs', rfl⟩ := (hq t).mp ht
    exact ⟨k', rfl, hpositive hs' hlimit, (hleast _ k hlower hk).trans hkn⟩

theorem matches_retune {t : Subscription} :
    (d.retune f).Matches env m t ↔ ∃ s, d.Matches env m s ∧ s.retune f = t := by
  constructor
  · rintro ⟨hget, htakes⟩
    obtain ⟨s, hs, rfl⟩ := Registry.get?_retune_eq_some_iff.mp hget
    exact ⟨s, ⟨hs, htakes.subtopic, htakes.selector⟩, rfl⟩
  · rintro ⟨s, ⟨hget, htakes⟩, rfl⟩
    exact ⟨Registry.get?_retune_eq_some_iff.mpr ⟨s, hget, rfl⟩, htakes.subtopic, htakes.selector⟩

/-- The subscriptions of a client that a message is for are the same ones with other limits. -/
theorem matches_client_retune (t : Subscription) :
    (d.retune f).Matches env m t ∧ t.client = c ↔
      ∃ s, (d.Matches env m s ∧ s.client = c) ∧ s.retune f = t := by
  rw [matches_retune]
  constructor
  · rintro ⟨⟨s, hs, rfl⟩, hclient⟩
    exact ⟨s, ⟨hs, hclient⟩, rfl⟩
  · rintro ⟨s, ⟨hs, hclient⟩, rfl⟩
    exact ⟨⟨s, hs, rfl⟩, hclient⟩

/-- The limits of the subscriptions of one client, and of no others, are lowered or added. -/
structure LowersOnly (apart : ClientId) (f : Subscription → Option Nat) : Prop where
  held : ∀ s, s.client = apart → Lowers s.maxFrequency (f s)
  others : ∀ s, s.client ≠ apart → f s = s.maxFrequency

theorem LowersOnly.retune_of_ne (h : LowersOnly apart f) {s : Subscription}
    (hs : s.client ≠ apart) : s.retune f = s := by
  rw [Subscription.retune, h.others s hs]

theorem fst_ask (p : ClientId × Option Nat) : (ask apart new p).1 = p.1 := by
  rw [ask]
  split
  next h => exact h.symm
  next => rfl

theorem mem_map_ask_iff {recipients : List (ClientId × Option Nat)} {p : ClientId × Option Nat} :
    p ∈ recipients.map (ask apart new) ↔
      if p.1 = apart then p.2 = new ∧ ∃ old, (apart, old) ∈ recipients else p ∈ recipients := by
  obtain ⟨c, requested⟩ := p
  rw [List.mem_map]
  split
  next hc =>
    obtain rfl : c = apart := hc
    constructor
    · rintro ⟨⟨c', old⟩, hmem, heq⟩
      obtain rfl : c' = c := (fst_ask _).symm.trans (congrArg Prod.fst heq)
      rw [ask, if_pos rfl] at heq
      exact ⟨(congrArg Prod.snd heq).symm, old, hmem⟩
    · rintro ⟨rfl, old, hmem⟩
      exact ⟨_, hmem, if_pos rfl⟩
  next hc =>
    constructor
    · rintro ⟨⟨c', old⟩, hmem, heq⟩
      obtain rfl : c' = c := (fst_ask _).symm.trans (congrArg Prod.fst heq)
      rw [ask, if_neg hc] at heq
      exact heq ▸ hmem
    · exact fun hmem => ⟨_, hmem, if_neg hc⟩

theorem accounted_retune {strays : Strays} (hb : b.books.Accounted strays)
    (f : Subscription → Option Nat) : (b.retune f).books.Accounted strays := by
  rw [books_retune]
  exact hb.retune f

theorem destination?_retune_of_some {id : DestinationId} (hd : b.destination? id = some d)
    (f : Subscription → Option Nat) : (b.retune f).destination? id = some (d.retune f) := by
  rw [destination?_retune, hd]
  rfl

section Recipients

variable {strays : Strays} {id : DestinationId} (hb : b.books.Accounted strays)
  (hd : b.destination? id = some d) (hts : d.parseMessageSubtopics m.subtopics = .ok ts)
  (only : Option ClientId) (b₀ b₁ : Broker)
include hb hd hts

theorem exists_mem_recipientsFor_retune (f : Subscription → Option Nat) (c : ClientId) :
    (∃ limit, (c, limit) ∈ (recipientsFor env (d.retune f) m ts only b₁).toList) ↔
      ∃ limit, (c, limit) ∈ (recipientsFor env d m ts only b₀).toList := by
  rw [mem_recipientsFor_iff (accounted_retune hb f) (destination?_retune_of_some hd f) hts,
    mem_recipientsFor_iff hb hd hts]
  refine and_congr_right fun _ => ?_
  simp only [matches_client_retune]
  exact ⟨fun ⟨_, s, hs, _⟩ => ⟨s, hs⟩, fun ⟨s, hs⟩ => ⟨_, s, hs, rfl⟩⟩

theorem mem_recipientsFor_retune_of_ne (hless : LowersOnly apart f) (hc : c ≠ apart) :
    (c, requested) ∈ (recipientsFor env (d.retune f) m ts only b₁).toList ↔
      (c, requested) ∈ (recipientsFor env d m ts only b₀).toList := by
  have hunchanged (t : Subscription) : (d.retune f).Matches env m t ∧ t.client = c ↔
      d.Matches env m t ∧ t.client = c := by
    rw [matches_client_retune]
    constructor
    · rintro ⟨s, hs, rfl⟩
      rw [hless.retune_of_ne (hs.2 ▸ hc)]
      exact hs
    · exact fun ht => ⟨t, ht, hless.retune_of_ne (ht.2 ▸ hc)⟩
  rw [mem_toList_recipientsFor_iff (accounted_retune hb f) (destination?_retune_of_some hd f) hts,
    mem_toList_recipientsFor_iff hb hd hts]
  simp only [hunchanged]

theorem restrains_of_mem_recipientsFor (hless : LowersOnly apart f)
    (hold : (c, old) ∈ (recipientsFor env d m ts only b₀).toList)
    (hnew : (c, new) ∈ (recipientsFor env (d.retune f) m ts only b₁).toList) :
    Restrains old new := by
  refine restrains_of_lowestLimit (lowestLimit_of_mem_recipientsFor hb hd hts only b₀ hold)
    (lowestLimit_of_mem_recipientsFor (accounted_retune hb f) (destination?_retune_of_some hd f)
      hts only b₁ hnew) matches_client_retune fun s _ => ?_
  by_cases hs : s.client = apart
  · exact hless.held s hs
  · exact .inl (hless.others s hs)

/-- The recipients are the same, and only the client that asks for less is held to a lower
limit. -/
theorem exists_recipientsFor_retune (hless : LowersOnly apart f) :
    ∃ new, (∀ p ∈ (recipientsFor env d m ts only b₀).toList, p.1 = apart → Restrains p.2 new) ∧
      (recipientsFor env (d.retune f) m ts only b₁).toList =
        (recipientsFor env d m ts only b₀).toList.map (ask apart new) := by
  have hsame : (∃ limit, (apart, limit) ∈ (recipientsFor env (d.retune f) m ts only b₁).toList) ↔
      ∃ limit, (apart, limit) ∈ (recipientsFor env d m ts only b₀).toList :=
    exists_mem_recipientsFor_retune hb hd hts only b₀ b₁ f apart
  obtain ⟨new, hnew⟩ : ∃ new, ∀ limit,
      (apart, limit) ∈ (recipientsFor env (d.retune f) m ts only b₁).toList → limit = new := by
    refine ⟨(recipientsFor env (d.retune f) m ts only b₁)[apart]?.getD none, fun limit hmem => ?_⟩
    rw [ExtTreeMap.mem_toList_iff_getElem?_eq_some.mp hmem]
    rfl
  refine ⟨new, ?_, ?_⟩
  · rintro ⟨c, old⟩ hmem hc
    obtain rfl : c = apart := hc
    obtain ⟨limit, hmem'⟩ := hsame.mpr ⟨old, hmem⟩
    obtain rfl := hnew limit hmem'
    exact restrains_of_mem_recipientsFor hb hd hts only b₀ b₁ hless hmem hmem'
  · have hascends (d : Destination) (b : Broker) :
        (recipientsFor env d m ts only b).toList.Pairwise fun p q => p.1 < q.1 :=
      List.pairwise_map.mp (pairwise_recipientsOf _)
    refine eq_of_ascending Prod.fst (hascends (d.retune f) b₁)
      (List.pairwise_map.mpr ((hascends d b₀).imp fun h => ?_)) ?_
    · rw [fst_ask, fst_ask]
      exact h
    · rintro ⟨c, requested⟩
      rw [mem_map_ask_iff]
      split
      next hc =>
        obtain rfl : c = apart := hc
        rw [← hsame]
        constructor
        · exact fun hmem => ⟨hnew requested hmem, requested, hmem⟩
        · rintro ⟨hrequested, limit, hmem⟩
          obtain rfl : requested = limit := hrequested.trans (hnew limit hmem).symm
          exact hmem
      next hc => exact mem_recipientsFor_retune_of_ne hb hd hts only b₀ b₁ hless hc

end Recipients

/-! ## The way to the fan-out -/

theorem Underway.retune {id : DestinationId} {settings : DestinationSettings}
    (h : Underway env id settings hooks l b) (f : Subscription → Option Nat) :
    Underway env id settings hooks l (b.retune f) :=
  ⟨h.scene.retune f, h.callers.retune f⟩

/-- From one broker to another no copy of a message was handed to the transport. -/
def CopiesNone (b b' : Broker) : Prop :=
  ∃ told, b'.traffic = b.traffic ++ told ∧ ∀ c m, .copy c m ∉ told

theorem copiesNone_of_traffic_eq (h : b'.traffic = b.traffic) : CopiesNone b b' :=
  ⟨[], h.trans (List.append_nil _).symm, fun _ _ => List.not_mem_nil⟩

/-- A message fans out at a destination. -/
def fanOutAt (env : Environment) (m : Message) (entry : Entry) (b : Broker) (d : Destination)
    (ts : List Subtopic) (b₀ : Broker) : Broker × Except BrokerError RouteResult :=
  let fannedOut := fanout (b.context env) d m ts (entry.only m) entry.propagates b₀
  (fannedOut.1, .ok fannedOut.2)

/-- A message takes the same way with other limits. It is kept on the way and the answer is the
same, or it fans out in the same state but for the limits. -/
inductive SameWay (env : Environment) (m : Message) (entry : Entry) (f : Subscription → Option Nat)
    (b : Broker) :
    Broker × Except BrokerError RouteResult → Broker × Except BrokerError RouteResult → Prop
  | kept {b' b₁ : Broker} {answer : Except BrokerError RouteResult}
      (hstopped : fannedOut? answer = none) (hcopies : CopiesNone b b')
      (hcopies₁ : CopiesNone b b₁) : SameWay env m entry f b (b', answer) (b₁, answer)
  | fansOut {d : Destination} {ts : List Subtopic} {b₀ : Broker}
      (hlocated : locate m b = .ok (d, ts))
      (hunderway : Underway env d.id d.settings b.hooks (entry.limiter env m d) b₀)
      (htraffic : b₀.traffic = b.traffic) :
      SameWay env m entry f b (fanOutAt env m entry b d ts b₀)
        (fanOutAt env m entry b (d.retune f) ts (b₀.retune f))

/-- A message is kept, and the same is done about it but for the limits. -/
theorem SameWay.of_traffic_eq {answer : Except BrokerError RouteResult}
    (h : b'.traffic = b.traffic) (hstopped : fannedOut? answer = none) :
    SameWay env m entry f b (b', answer) (b'.retune f, answer) :=
  .kept hstopped (copiesNone_of_traffic_eq h) (copiesNone_of_traffic_eq h)

theorem underway_of_located (hb : HasDiscreetCallers env b) (hlocated : locate m b = .ok (d, ts)) :
    Underway env d.id d.settings b.hooks d.limiter b :=
  ⟨scene_of_destination? (locate_eq_ok hlocated).1, hb⟩

theorem locate_retune_of_ok (hlocated : locate m b = .ok (d, ts)) (f : Subscription → Option Nat) :
    locate m (b.retune f) = .ok (d.retune f, ts) := by
  rw [locate_retune, hlocated]
  rfl

theorem locate_retune_of_error {e : BrokerError} (h : locate m b = .error e)
    (f : Subscription → Option Nat) : locate m (b.retune f) = .error e := by
  rw [locate_retune, h]
  rfl

theorem sameWay_routeFromPeer (hb : HasDiscreetCallers env b) (m : Message)
    (f : Subscription → Option Nat) :
    SameWay env m .peer f b (routeFromPeer env m b) (routeFromPeer env m (b.retune f)) := by
  cases hlocated : locate m b with
  | error e =>
    rw [routeFromPeer, routeFromPeer, hlocated, locate_retune_of_error hlocated]
    exact .of_traffic_eq rfl rfl
  | ok place =>
    obtain ⟨d, ts⟩ := place
    rw [routeFromPeer_of_ok env hlocated, routeFromPeer_of_ok env (locate_retune_of_ok hlocated f),
      onTotals_retune]
    exact .fansOut hlocated
      ((underway_of_located hb hlocated).onTotals d.id (by exact fun _ => rfl)) rfl

theorem sameWay_routeFromAdapter (hb : HasDiscreetCallers env b) (m : Message) (toAll : Bool)
    (f : Subscription → Option Nat) :
    SameWay env m (.adapter toAll) f b (routeFromAdapter env m toAll b)
      (routeFromAdapter env m toAll (b.retune f)) := by
  cases hlocated : locate m b with
  | error e =>
    rw [routeFromAdapter, routeFromAdapter, hlocated, locate_retune_of_error hlocated]
    exact .of_traffic_eq rfl rfl
  | ok place =>
    obtain ⟨d, ts⟩ := place
    rw [routeFromAdapter_of_ok env toAll hlocated,
      routeFromAdapter_of_ok env toAll (locate_retune_of_ok hlocated f), onTotals_retune]
    exact .fansOut hlocated
      ((underway_of_located hb hlocated).onTotals d.id (by exact fun _ => rfl)) rfl

theorem sameWay_passOn {b₀ : Broker} (hlocated : locate m b = .ok (d, ts))
    (hunderway : Underway env d.id d.settings b.hooks (inbound env d m).1 b₀)
    (htraffic : b₀.traffic = b.traffic) (f : Subscription → Option Nat) :
    SameWay env m .client f b (passOn (b.context env) d m ts b₀)
      (passOn (b.context env) (d.retune f) m ts (b₀.retune f)) := by
  have hinvoked : OnlyNoted b₀ (invoke (b.context env).env d.adapter m b₀).1 :=
    onlyNoted_invoke env d.adapter m b₀
  have hasked := hinvoked.traffic.trans htraffic
  have hagain := invoke_retune f (b.context env).env d.adapter m b₀
  cases hanswer : invoke (b.context env).env d.adapter m b₀ with
  | mk b₁ answer =>
    rw [hanswer] at hinvoked hasked hagain
    have hagain : invoke (b.context env).env (d.retune f).adapter m (b₀.retune f) =
      (b₁.retune f, answer) := hagain
    cases answer with
    | error e =>
      rw [passOn, passOn, hanswer, hagain]
      dsimp only
      refine .kept rfl (copiesNone_of_traffic_eq ?_) (copiesNone_of_traffic_eq ?_)
      · exact hasked
      · exact hasked
    | ok invocation =>
      cases invocation with
      | consumed =>
        rw [passOn, passOn, hanswer, hagain]
        exact .of_traffic_eq hasked rfl
      | fanout =>
        rw [passOn_of_fanout hanswer, passOn_of_fanout hagain]
        exact .fansOut hlocated (hunderway.journals hinvoked) hasked

theorem sameWay_routeMessage (hb : HasDiscreetCallers env b) (m : Message)
    (f : Subscription → Option Nat) :
    SameWay env m .client f b (routeMessage env m b) (routeMessage env m (b.retune f)) := by
  have hasked := onlyAsked_passGate env m b
  have hnoted := onlyNoted_of_onlyAsked hasked
  have hagain := passGate_retune f env m b
  cases hgate : (passGate env m b).2 with
  | error e =>
    have hgate' : (passGate env m (b.retune f)).2 = .error e := by
      rw [hagain, hgate]
      rfl
    rw [routeMessage_of_error hgate, routeMessage_of_error hgate', hagain]
    exact .of_traffic_eq hnoted.traffic rfl
  | ok place =>
    obtain ⟨d, ts⟩ := place
    have hgate' : (passGate env m (b.retune f)).2 = .ok (d.retune f, ts) := by
      rw [hagain, hgate]
      rfl
    have hlocated := locate_of_passGate hgate
    have hreceived : (receive env d m (passGate env m b).1).traffic = b.traffic :=
      (aside_onSession _ _ _).traffic.trans hnoted.traffic
    have hchecked : (checkInbound env d m (receive env d m (passGate env m b).1)).1.traffic =
        b.traffic := (traffic_checkInbound ..).trans hreceived
    have hunderway : Underway env d.id d.settings b.hooks d.limiter
        (receive env d m (passGate env m b).1) :=
      (((underway_of_located hb hlocated).journals hnoted).onTotals d.id
        (by exact fun _ => rfl)).touch m.client env.now
    have hcontext : ((passGate env m b).1.retune f).context env = b.context env :=
      Eq.trans (b := (passGate env m b).1.context env) rfl (context_of_onlyAsked env hasked)
    rw [routeMessage_of_ok hgate, routeMessage_of_ok hgate', hagain, hcontext, receive_retune,
      checkInbound_retune, context_of_onlyAsked env hasked,
      ← Prod.eta (checkInbound env d m (receive env d m (passGate env m b).1)), snd_checkInbound]
    cases hverdict : (inbound env d m).2 with
    | denyError => exact .of_traffic_eq hchecked rfl
    | denyIgnore =>
      have hdropped {b' : Broker} (h : b'.traffic = b.traffic) :
          CopiesNone b (notify (b.context env) (dropNotice m) b') := by
        refine ⟨[.report (dropNotice m)], ?_, ?_⟩
        · rw [traffic_notify (aside_context env b) rfl, h]
        · intro c m' hmem
          cases List.mem_singleton.mp hmem
      exact .kept rfl (hdropped hchecked) (hdropped hchecked)
    | allow =>
      rw [checkInbound_of_allowed (by rw [hverdict]; rfl)]
      exact sameWay_passOn hlocated (hunderway.onLimiter fun _ => (inbound env d m).1) hreceived f

theorem sameWay_route (hb : HasDiscreetCallers env b) (m : Message) (entry : Entry)
    (f : Subscription → Option Nat) :
    SameWay env m entry f b (entry.route env m b) (entry.route env m (b.retune f)) := by
  cases entry with
  | client => exact sameWay_routeMessage hb m f
  | peer => exact sameWay_routeFromPeer hb m f
  | adapter toAll => exact sameWay_routeFromAdapter hb m toAll f

/-! ## What a message comes to -/

/-- What became of a message for its recipients, in their order. It is for nobody if it is kept
on its way. -/
inductive ComesTo (env : Environment) (m : Message) (entry : Entry) (b : Broker) :
    List Recipient → Prop
  | kept (hstopped : fannedOut? (entry.route env m b).2 = none)
      (hcopies : CopiesNone b (entry.route env m b).1) : ComesTo env m entry b []
  | fannedOut {d : Destination} {result : RouteResult} {rs : List Recipient}
      (hd : b.destination? m.destination = some d)
      (hanswer : (entry.route env m b).2 = .ok result) (houtcome : result.outcome = .delivered)
      (hfans : FansOut env d m (entry.only m) b.hooks (entry.limiter env m d) b
        (entry.route env m b).1 result rs) : ComesTo env m entry b rs

/-- A message comes to one thing. -/
theorem ComesTo.unique (h : ComesTo env m entry b rs) (h' : ComesTo env m entry b rs') :
    rs = rs' := by
  have hfanned {result : RouteResult} (hanswer : (entry.route env m b).2 = .ok result)
      (houtcome : result.outcome = .delivered) :
      fannedOut? (entry.route env m b).2 = some result := by
    rw [hanswer]
    exact if_pos houtcome
  cases h with
  | kept hstopped =>
    cases h' with
    | kept => rfl
    | fannedOut _ hanswer houtcome => cases hstopped.symm.trans (hfanned hanswer houtcome)
  | fannedOut hd hanswer houtcome hfans =>
    cases h' with
    | kept hstopped => cases hstopped.symm.trans (hfanned hanswer houtcome)
    | fannedOut hd' hanswer' _ hfans' =>
      obtain rfl := Option.some.inj (hd.symm.trans hd')
      obtain rfl := Except.ok.inj (hanswer.symm.trans hanswer')
      exact hfans.unique hfans'

/-- A message that fans out comes to its course. -/
theorem comesTo_of_fanOutAt {b₀ : Broker} {strays : Strays} (hb : b.books.Accounted strays)
    (hlocated : locate m b = .ok (d, ts))
    (hunderway : Underway env d.id d.settings b.hooks (entry.limiter env m d) b₀)
    (htraffic : b₀.traffic = b.traffic)
    (hroute : entry.route env m b = fanOutAt env m entry b d ts b₀) :
    ComesTo env m entry b (course env d m b.hooks (entry.limiter env m d)
      (recipientsFor env d m ts (entry.only m) b₀).toList).1 := by
  obtain ⟨hd, -, hts⟩ := locate_eq_ok hlocated
  obtain ⟨hfans, -⟩ := fanout_runs_of_underway hb ((mem_of_destination? hd).2.symm ▸ hd) hts
    hunderway (entry.only m) entry.propagates
  refine .fannedOut hd (congrArg Prod.snd hroute) (outcome_fanout ..) ?_
  rw [hroute]
  exact { hfans with traffic := htraffic ▸ hfans.traffic }

/-- What a message comes to, with and without one client asking for less. -/
theorem exists_comesTo (hb : HasDiscreetCallers env b) (m : Message) (entry : Entry)
    (hless : LowersOnly apart f) :
    ∃ rs rs', ComesTo env m entry b rs ∧ ComesTo env m entry (b.retune f) rs' ∧
      List.Forall₂ (FateWithLessFor apart) rs rs' := by
  obtain ⟨strays, haccounted⟩ := hb.accounted
  have hway := sameWay_route hb m entry f
  cases hroute : entry.route env m b with
  | mk b' answer =>
    cases hroute' : entry.route env m (b.retune f) with
    | mk b₁ answer' =>
      rw [hroute, hroute'] at hway
      cases hway with
      | kept hstopped hcopies hcopies₁ =>
        refine ⟨[], [], .kept ?_ ?_, .kept ?_ ?_, .nil⟩ <;> simp only [hroute, hroute']
        · exact hstopped
        · exact hcopies
        · exact hstopped
        · exact hcopies₁
      | @fansOut d ts b₀ hlocated hunderway htraffic =>
        obtain ⟨hd, -, hts⟩ := locate_eq_ok hlocated
        have hcomes := comesTo_of_fanOutAt haccounted hlocated hunderway htraffic hroute
        have hcomes' := comesTo_of_fanOutAt (accounted_retune haccounted f)
          (locate_retune_of_ok hlocated f) (hunderway.retune f) htraffic hroute'
        have hcourse : course env (d.retune f) m (b.retune f).hooks = course env d m b.hooks :=
          course_congr rfl
        obtain ⟨new, hrestrains, hrecipients⟩ : ∃ new,
            (∀ p ∈ (recipientsFor env d m ts (entry.only m) b₀).toList,
              p.1 = apart → Restrains p.2 new) ∧
            (recipientsFor env (d.retune f) m ts (entry.only m) (b₀.retune f)).toList =
              (recipientsFor env d m ts (entry.only m) b₀).toList.map (ask apart new) :=
          exists_recipientsFor_retune haccounted hd hts (entry.only m) b₀ (b₀.retune f) hless
        refine ⟨_, _, hcomes, hcomes', ?_⟩
        rw [hrecipients, hcourse]
        exact course_of_restrains env d m b.hooks _ hrestrains
          ((pairwise_recipientsOf _).imp Std.ne_of_lt)

/-- A limit that a client asks for can only hold it back. Where the limiter lets a message pass
with a limit, it does so with a higher one and without any. And where a client lowers limits of
its subscriptions or adds some, no message reaches it that would not have reached it anyway, and
nobody else is refused a message that it would have been given. Handlers that call back have to
keep to the client that they are told about. -/
theorem lower_limits_only_restrain :
    (∀ (l : Limiter) (direction : Direction) (c : ClientId) (now : Timestamp) (m₁ m₂ : Nat),
      0 < m₁ → m₁ ≤ m₂ → (l.check direction c (some m₁) now).2 = .allow →
        (l.check direction c (some m₂) now).2 = .allow ∧
          (l.check direction c none now).2 = .allow) ∧
    ∀ (env : Environment) (b : Broker) (m : Message) (entry : Entry) (c : ClientId)
      (f : Subscription → Option Nat), b.IsReachable → Discreet env b.hooks → LowersOnly c f →
        (∃ rs, ComesTo env m entry b rs) ∧ (∃ rs', ComesTo env m entry (b.retune f) rs') ∧
          ∀ rs rs', ComesTo env m entry b rs → ComesTo env m entry (b.retune f) rs' →
            List.Forall₂ (FateWithLessFor c) rs rs' := by
  constructor
  · intro l direction c now m₁ m₂ hpos hle hallow
    exact ⟨Limiter.check_eq_allow_of_restrains (restrains_some hpos hle) hallow,
      Limiter.check_eq_allow_of_restrains (restrains_none _) hallow⟩
  · intro env b m entry c f hb hdiscreet hless
    obtain ⟨rs, rs', hcomes, hcomes', hfates⟩ :=
      exists_comesTo ⟨hb.accounted, hb.withdraws, hdiscreet⟩ m entry hless
    refine ⟨⟨rs, hcomes⟩, ⟨rs', hcomes'⟩, fun other other' hother hother' => ?_⟩
    obtain rfl := hcomes.unique hother
    obtain rfl := hcomes'.unique hother'
    exact hfates

/-- A limiter that nobody was checked by yet. -/
def unusedLimiter : Limiter :=
  ⟨⟨1000⟩, ⟨⟨.none, 0, 0⟩, ⟨.ignore, 2, 3⟩⟩, .fresh, ∅, ⟨.none, .none⟩⟩

/-- Two clients subscribe, and there is a message for both. -/
def audience : List (Environment × Operation) := quietly
  [.start, .subscribe ⟨"news", "ann", none, none, none⟩,
    .subscribe ⟨"news", "bob", none, none, none⟩, .route note]

/-- The first client asks for one message a second. -/
def modest (s : Subscription) : Option Nat := if s.client = "ann" then some 1 else s.maxFrequency

theorem lower_limits_only_restrain_sharing :
    (unusedLimiter.check .outbound "ann" (some 1) 0).2 = .allow ∧
      (unusedLimiter.check .outbound "ann" (some 2) 0).2 = .allow ∧
    ∃ b : Broker, b.IsReachable ∧ Discreet quiet b.hooks ∧ LowersOnly "ann" modest ∧
      (Entry.peer.route quiet note b).1.traffic.getLast? =
        some (.report (.messageDelivered "ann" note)) ∧
      (Entry.peer.route quiet note (b.retune modest)).1.traffic.getLast? =
        some (.report (.messageDelivered "bob" note)) ∧
      ∃ rs rs', ComesTo quiet note .peer b rs ∧ ComesTo quiet note .peer (b.retune modest) rs' ∧
        List.Forall₂ (FateWithLessFor "ann") rs rs' := by
  obtain ⟨b, hreachable, hsilent, hfirst, hsecond⟩ : ∃ b : Broker, b.IsReachable ∧
      b.hooks.registrations = [] ∧
      (Entry.peer.route quiet note b).1.traffic.getLast? =
        some (.report (.messageDelivered "ann" note)) ∧
      (Entry.peer.route quiet note (b.retune modest)).1.traffic.getLast? =
        some (.report (.messageDelivered "bob" note)) := by
    have hbuilt : IsBuilt _ := ⟨tightSettings, _, ⟨true, false, [], []⟩, rfl, rfl⟩
    exact ⟨_, ⟨_, hbuilt, audience, rfl⟩, rfl, rfl, rfl⟩
  have hdiscreet : Discreet quiet b.hooks := by
    refine .inl fun n h hmem => ?_
    rw [HookTable.round, HookTable.handlersFor, hsilent] at hmem
    cases hmem
  have hless : LowersOnly "ann" modest := by
    constructor
    · intro s hs
      exact .inr ⟨1, if_pos hs, Nat.one_pos, fun n _ => by omega⟩
    · exact fun s hs => if_neg hs
  obtain ⟨hlimiter, hbroker⟩ := lower_limits_only_restrain
  obtain ⟨⟨rs, hcomes⟩, ⟨rs', hcomes'⟩, hfates⟩ :=
    hbroker quiet b note .peer "ann" modest hreachable hdiscreet hless
  have hallow : (unusedLimiter.check .outbound "ann" (some 1) 0).2 = .allow := rfl
  exact ⟨hallow, (hlimiter _ .outbound "ann" 0 1 2 Nat.one_pos (by decide) hallow).1, b,
    hreachable, hdiscreet, hless, hfirst, hsecond, rs, rs', hcomes, hcomes',
    hfates rs rs' hcomes hcomes'⟩

end Broker

end MessageBroker
