/-
# Who a message is for

A message is for a subscription that takes its subtopics and its content. The recipients of a
message are the clients with such subscriptions, each of them once, and with the lowest limit
that one of these subscriptions asks for; a limit that none asks for is none.

That is said of the texts that a message carries and of what the registry holds, not of the
indexes that subscriptions are looked up in and not of the order in which they are gathered.
-/

import Mathlib.Data.List.Sort
import MessageBroker.Proofs.Broker.Checks
import MessageBroker.Proofs.Broker.PeerMatching

open Std

namespace MessageBroker

namespace Except

variable {ε α β : Type} {f : α → Except ε β} {l : List α} {l' : List β}

/-- Each element has an answer among those that were given. -/
theorem exists_answer_of_mapM_eq_ok (hall : l.mapM f = .ok l') {a : α} (ha : a ∈ l) :
    ∃ b ∈ l', f a = .ok b := by
  induction l generalizing l' with
  | nil => cases ha
  | cons first l ih =>
    obtain ⟨b, bs, hb, hrest, rfl⟩ := exists_of_mapM_cons_eq_ok hall
    rcases List.mem_cons.mp ha with rfl | ha
    · exact ⟨b, List.mem_cons_self, hb⟩
    · obtain ⟨b', hb', hanswer⟩ := ih hrest ha
      exact ⟨b', List.mem_cons_of_mem _ hb', hanswer⟩

end Except

/-- The texts of the subtopics that a message counts as sent to. -/
def Message.textsOrEmpty (m : Message) : List String := if m.texts = [] then [""] else m.texts

/-- A message is for a subscription: the subtopic of the subscription, if it has one, matches
one of the message, and its selector, if it has one, is evaluated and holds. -/
structure Subscription.Takes (env : Environment) (separator : Char) (m : Message)
    (s : Subscription) : Prop where
  subtopic : ∀ p, s.subtopic = some p → ∃ text ∈ m.textsOrEmpty, ∃ t,
    Subtopic.parse text separator = .ok t ∧ t.matches p = .ok true
  selector : ∀ text, s.selector = some text → ∃ evaluator, env.evaluator = some evaluator ∧
    evaluator text m.headers m.body = .ok true

/-- A subscription of a destination that a message is for. -/
def Destination.Matches (env : Environment) (d : Destination) (m : Message) (s : Subscription) :
    Prop :=
  d.registry.get? s.id = some s ∧ s.Takes env d.settings.separator m

namespace Broker

variable {env : Environment} {b : Broker} {m : Message} {d : Destination} {ts : List Subtopic}
  {id : DestinationId} {c : ClientId} {s : Subscription} {subs : List Subscription}
  {recipients : ExtTreeMap ClientId (Option Nat)} {strays : Strays}

/-! ## Subscriptions -/

theorem mapM_readText_of_parse (h : d.parseMessageSubtopics m.subtopics = .ok ts) :
    m.texts.mapM (readText d) = .ok ts := by
  rw [← h]
  refine (parseMessageSubtopics_of_allowed fun hnot => ?_).symm
  rw [parseMessageSubtopics_of_disallowed hnot.1 hnot.2] at h
  cases h

/-- The subtopics of a message are those that its texts are read as. -/
theorem exists_subtopic_iff (hts : d.parseMessageSubtopics m.subtopics = .ok ts)
    (p : Subtopic → Prop) :
    (∃ t ∈ Registry.subtopicsOrEmpty d.settings.separator ts, p t) ↔
      ∃ text ∈ m.textsOrEmpty, ∃ t, Subtopic.parse text d.settings.separator = .ok t ∧ p t := by
  have hread := mapM_readText_of_parse hts
  rw [Registry.subtopicsOrEmpty, Message.textsOrEmpty]
  by_cases hnone : m.texts = []
  · rw [hnone] at hread
    cases hread
    simp [hnone, Subtopic.parse]
  · have hsome : ts ≠ [] := by
      rintro rfl
      obtain ⟨text, htext⟩ := List.exists_mem_of_ne_nil _ hnone
      obtain ⟨t, ht, -⟩ := Except.exists_answer_of_mapM_eq_ok hread htext
      cases ht
    rw [if_neg (by simpa using hsome), if_neg hnone]
    constructor
    · rintro ⟨t, ht, hp⟩
      obtain ⟨text, htext, hanswer⟩ := Except.exists_of_mem_of_mapM_eq_ok hread ht
      exact ⟨text, htext, t, (readText_eq_ok_iff.mp hanswer).1, hp⟩
    · rintro ⟨text, htext, t, hparse, hp⟩
      obtain ⟨t', ht', hanswer⟩ := Except.exists_answer_of_mapM_eq_ok hread htext
      have hsame : t' = t := Except.ok.inj ((readText_eq_ok_iff.mp hanswer).1.symm.trans hparse)
      exact ⟨t', ht', hsame ▸ hp⟩

theorem takes_iff (hts : d.parseMessageSubtopics m.subtopics = .ok ts) :
    s.Takes env d.settings.separator m ↔
      s.admitsAny (Registry.subtopicsOrEmpty d.settings.separator ts) = true ∧
        s.selector.all (verdict env (contentOf m)) = true := by
  have hsubtopic : s.admitsAny (Registry.subtopicsOrEmpty d.settings.separator ts) = true ↔
      ∀ p, s.subtopic = some p → ∃ text ∈ m.textsOrEmpty, ∃ t,
        Subtopic.parse text d.settings.separator = .ok t ∧ t.matches p = .ok true := by
    rw [Subscription.admitsAny_iff]
    cases s.subtopic with
    | none => simp
    | some p =>
      simp only [reduceCtorEq, false_or, Option.some.injEq, exists_eq_left', forall_eq']
      exact exists_subtopic_iff hts fun t => t.matches p = .ok true
  have hselector : s.selector.all (verdict env (contentOf m)) = true ↔
      ∀ text, s.selector = some text → ∃ evaluator, env.evaluator = some evaluator ∧
        evaluator text m.headers m.body = .ok true := by
    cases s.selector with
    | none => simp
    | some text =>
      simp only [Option.all_some, Option.some.injEq, forall_eq']
      exact verdict_eq_true_iff
  rw [hsubtopic, hselector]
  exact ⟨fun h => ⟨h.subtopic, h.selector⟩, fun h => ⟨h.1, h.2⟩⟩

theorem inOrder_of_destination? (hb : b.books.Accounted strays)
    (hd : b.destination? id = some d) :
    d.registry.Sound ∧ d.registry.Readable ∧ d.registry.separator = d.settings.separator := by
  have hshelf : d.shelf ∈ b.books.shelves := List.mem_map_of_mem (mem_of_destination? hd).1
  exact ⟨hb.sound d.shelf hshelf, hb.readable d.shelf hshelf⟩

/-- The subscriptions that are looked up for a message are those that it is for. -/
theorem mem_matchingSubscriptions (hb : b.books.Accounted strays) (hd : b.destination? id = some d)
    (hts : d.parseMessageSubtopics m.subtopics = .ok ts) (b' : Broker) :
    s ∈ (matchingSubscriptions env d ts (contentOf m) b').2 ↔ d.Matches env m s := by
  obtain ⟨hsound, hreadable, hseparator⟩ := inOrder_of_destination? hb hd
  have hparsed : ∀ t ∈ ts, t.ParsedWith d.registry.separator := by
    rw [hseparator]
    exact parsedWith_of_parseMessageSubtopics hts
  rw [matchingSubscriptions_eq_filter, List.mem_filter,
    Registry.mem_candidates hsound hreadable hparsed, hseparator, and_assoc,
    ← takes_iff hts]
  rfl

/-! ## Clients -/

/-- The lowest limit that some subscriptions ask for, if one of them asks for any. -/
def LowestLimit (p : Subscription → Prop) : Option Nat → Prop
  | none => ∀ s, p s → s.maxFrequency = none
  | some f => (∃ s, p s ∧ s.maxFrequency = some f) ∧
      ∀ s f', p s → s.maxFrequency = some f' → f ≤ f'

theorem LowestLimit.congr {p q : Subscription → Prop} {f : Option Nat} (hf : LowestLimit p f)
    (h : ∀ s, p s ↔ q s) : LowestLimit q f :=
  (funext fun s => propext (h s) : p = q) ▸ hf

/-- There is one lowest limit. -/
theorem LowestLimit.eq {p : Subscription → Prop} {f f' : Option Nat} (hf : LowestLimit p f)
    (hf' : LowestLimit p f') : f = f' := by
  cases f <;> cases f' <;> grind [LowestLimit]

/-- One more subscription may ask for a lower limit. -/
theorem LowestLimit.add {p q : Subscription → Prop} {f : Option Nat} (hf : LowestLimit p f)
    (h : ∀ s', q s' ↔ p s' ∨ s' = s) : LowestLimit q (minFrequency f s.maxFrequency) := by
  cases f <;> cases hs : s.maxFrequency <;> grind [LowestLimit, minFrequency]

/-- A table has the clients of some subscriptions, with the lowest limits that they ask
for. -/
structure Gathers (subs : List Subscription) (recipients : ExtTreeMap ClientId (Option Nat)) :
    Prop where
  absent : ∀ c : ClientId, recipients[c]? = none → ∀ s ∈ subs, s.client ≠ c
  owner : ∀ (c : ClientId) f, recipients[c]? = some f → ∃ s ∈ subs, s.client = c
  limit : ∀ (c : ClientId) f, recipients[c]? = some f →
    LowestLimit (fun s => s ∈ subs ∧ s.client = c) f

/-- Gathers one more subscription. -/
def gather (recipients : ExtTreeMap ClientId (Option Nat)) (s : Subscription) :
    ExtTreeMap ClientId (Option Nat) :=
  recipients.insert s.client
    (match recipients[s.client]? with
      | none => s.maxFrequency
      | some f => minFrequency f s.maxFrequency)

theorem Gathers.add (h : Gathers subs recipients) (s : Subscription) :
    Gathers (subs ++ [s]) (gather recipients s) := by
  have hothers {c : ClientId} (hc : s.client ≠ c) (s' : Subscription) :
      (s' ∈ subs ++ [s] ∧ s'.client = c) ↔ s' ∈ subs ∧ s'.client = c := by
    rw [List.mem_append, List.mem_singleton]
    exact and_congr_left fun hs' => or_iff_left fun heq => hc (heq ▸ hs')
  constructor
  case absent =>
    intro c habsent s' hs'
    rw [gather, Maps.getElem?_insert_ite] at habsent
    split at habsent
    · cases habsent
    next hc =>
      exact fun hclient => h.absent c habsent s' ((hothers hc s').mp ⟨hs', hclient⟩).1 hclient
  case owner =>
    intro c f hf
    rw [gather, Maps.getElem?_insert_ite] at hf
    split at hf
    next hc => exact ⟨s, List.mem_append_right _ List.mem_cons_self, hc⟩
    next =>
      obtain ⟨s', hs', hclient⟩ := h.owner c f hf
      exact ⟨s', List.mem_append_left _ hs', hclient⟩
  case limit =>
    intro c f hf
    rw [gather, Maps.getElem?_insert_ite] at hf
    split at hf
    next hc =>
      subst hc
      cases hf
      have hmore (s' : Subscription) : (s' ∈ subs ++ [s] ∧ s'.client = s.client) ↔
          (s' ∈ subs ∧ s'.client = s.client) ∨ s' = s := by
        rw [List.mem_append, List.mem_singleton, or_and_right]
        exact or_congr_right (and_iff_left_of_imp fun heq => heq ▸ rfl)
      split
      next habsent =>
        -- The first subscription of a client asks alone.
        have hnobody : LowestLimit (fun s' => s' ∈ subs ∧ s'.client = s.client) none :=
          fun s' hs' => absurd hs'.2 (h.absent s.client habsent s' hs'.1)
        have hfirst : minFrequency none s.maxFrequency = s.maxFrequency := by
          cases s.maxFrequency <;> rfl
        exact hfirst ▸ hnobody.add hmore
      next f hfound => exact (h.limit s.client f hfound).add hmore
    next hc => exact (h.limit c f hf).congr fun s' => (hothers hc s').symm

theorem Gathers.foldl (h : Gathers subs recipients) (more : List Subscription) :
    Gathers (subs ++ more) (more.foldl gather recipients) := by
  induction more generalizing subs recipients with
  | nil => rwa [List.append_nil]
  | cons s more ih =>
    rw [List.append_cons]
    exact ih (h.add s)

theorem gathers_recipientsOf (subs : List Subscription) : Gathers subs (recipientsOf subs) := by
  have hnobody : Gathers [] ∅ := by
    constructor
    case absent => exact fun _ _ _ hs => nomatch hs
    case owner =>
      intro c f hf
      rw [ExtTreeMap.getElem?_empty] at hf
      cases hf
    case limit =>
      intro c f hf
      rw [ExtTreeMap.getElem?_empty] at hf
      cases hf
  exact hnobody.foldl subs

theorem mem_recipientsOf_iff : (∃ f, (c, f) ∈ (recipientsOf subs).toList) ↔
    ∃ s ∈ subs, s.client = c := by
  have hgathers := gathers_recipientsOf subs
  simp only [ExtTreeMap.mem_toList_iff_getElem?_eq_some]
  constructor
  · exact fun ⟨f, hf⟩ => hgathers.owner c f hf
  · rintro ⟨s, hs, hclient⟩
    cases hf : (recipientsOf subs)[c]? with
    | none => exact absurd hclient (hgathers.absent c hf s hs)
    | some f => exact ⟨f, rfl⟩

theorem lt_of_compare_eq_lt {c c' : ClientId} (h : compare c c' = .lt) : c < c' :=
  compareOfLessAndEq_eq_lt.mp h

theorem pairwise_recipientsOf (subs : List Subscription) :
    ((recipientsOf subs).toList.map Prod.fst).Pairwise (· < ·) := by
  rw [List.pairwise_map]
  exact ExtTreeMap.ordered_keys_toList.imp lt_of_compare_eq_lt

/-- Lists in ascending order of clients are the same when they have the same members. -/
theorem eq_of_ascending {α : Type} (client : α → ClientId) {xs ys : List α}
    (hxs : xs.Pairwise fun x y => client x < client y)
    (hys : ys.Pairwise fun x y => client x < client y) (h : ∀ x, x ∈ xs ↔ x ∈ ys) : xs = ys := by
  have hirrefl : Std.Irrefl fun x y => client x < client y := ⟨fun _ => Std.lt_irrefl⟩
  have hantisymm : Std.Antisymm fun x y => client x < client y :=
    ⟨fun _ _ hlt hgt => absurd hgt (Std.not_gt_of_lt hlt)⟩
  exact hxs.eq_of_mem_iff hys h

/-- The clients of subscriptions are those that they are gathered under. -/
theorem clientsOf_eq (subs : List Subscription) :
    clientsOf subs = (recipientsOf subs).toList.map Prod.fst := by
  have hordered : (clientsOf subs).Pairwise (· < ·) :=
    ExtTreeSet.ordered_toList.imp lt_of_compare_eq_lt
  apply eq_of_ascending (fun c => c) hordered (pairwise_recipientsOf subs)
  intro c
  rw [clientsOf, ExtTreeSet.mem_toList, ExtTreeSet.mem_ofList, List.contains_iff_mem,
    List.mem_map, List.mem_map, ← mem_recipientsOf_iff]
  simp

/-! ## Recipients -/

/-- The recipients of a message, with the limits that their subscriptions ask for. -/
def recipientsFor (env : Environment) (d : Destination) (m : Message) (ts : List Subtopic)
    (only : Option ClientId) (b : Broker) : ExtTreeMap ClientId (Option Nat) :=
  recipientsOf ((matchingSubscriptions env d ts (contentOf m) b).2.filter
    fun s => only.all (· == s.client))

theorem mem_filter_matchingSubscriptions (hb : b.books.Accounted strays)
    (hd : b.destination? id = some d) (hts : d.parseMessageSubtopics m.subtopics = .ok ts)
    (only : Option ClientId) (b' : Broker) :
    s ∈ (matchingSubscriptions env d ts (contentOf m) b').2.filter
        (fun s => only.all (· == s.client)) ↔
      d.Matches env m s ∧ ∀ c' ∈ only, c' = s.client := by
  rw [List.mem_filter, mem_matchingSubscriptions hb hd hts, Option.all_eq_true]
  simp only [beq_iff_eq, Option.mem_def]

theorem mem_recipientsFor_iff (hb : b.books.Accounted strays) (hd : b.destination? id = some d)
    (hts : d.parseMessageSubtopics m.subtopics = .ok ts) (only : Option ClientId) (b' : Broker) :
    (∃ f, (c, f) ∈ (recipientsFor env d m ts only b').toList) ↔
      (∀ c' ∈ only, c' = c) ∧ ∃ s, d.Matches env m s ∧ s.client = c := by
  rw [recipientsFor, mem_recipientsOf_iff]
  simp only [mem_filter_matchingSubscriptions hb hd hts]
  constructor
  · rintro ⟨s, ⟨hmatches, honly⟩, rfl⟩
    exact ⟨honly, s, hmatches, rfl⟩
  · rintro ⟨honly, s, hmatches, rfl⟩
    exact ⟨s, ⟨hmatches, honly⟩, rfl⟩

theorem lowestLimit_of_mem_recipientsFor (hb : b.books.Accounted strays)
    (hd : b.destination? id = some d) (hts : d.parseMessageSubtopics m.subtopics = .ok ts)
    (only : Option ClientId) (b' : Broker)
    {f : Option Nat} (hf : (c, f) ∈ (recipientsFor env d m ts only b').toList) :
    LowestLimit (fun s => d.Matches env m s ∧ s.client = c) f := by
  have honly := ((mem_recipientsFor_iff hb hd hts only b').mp ⟨f, hf⟩).1
  have hlimit := (gathers_recipientsOf _).limit c f
    (ExtTreeMap.mem_toList_iff_getElem?_eq_some.mp hf)
  refine hlimit.congr fun s => ?_
  rw [mem_filter_matchingSubscriptions hb hd hts]
  constructor
  · exact fun ⟨⟨hmatches, _⟩, hclient⟩ => ⟨hmatches, hclient⟩
  · rintro ⟨hmatches, rfl⟩
    exact ⟨⟨hmatches, honly⟩, rfl⟩

/-- Who the recipients are, and with which limits, does not depend on how they are gathered. -/
theorem mem_toList_recipientsFor_iff (hb : b.books.Accounted strays)
    (hd : b.destination? id = some d) (hts : d.parseMessageSubtopics m.subtopics = .ok ts)
    (only : Option ClientId) (b' : Broker) (f : Option Nat) :
    (c, f) ∈ (recipientsFor env d m ts only b').toList ↔
      ((∀ c' ∈ only, c' = c) ∧ ∃ s, d.Matches env m s ∧ s.client = c) ∧
        LowestLimit (fun s => d.Matches env m s ∧ s.client = c) f := by
  rw [← mem_recipientsFor_iff hb hd hts only b']
  constructor
  · exact fun hf => ⟨⟨f, hf⟩, lowestLimit_of_mem_recipientsFor hb hd hts only b' hf⟩
  · rintro ⟨⟨f', hf'⟩, hlimit⟩
    rw [hlimit.eq (lowestLimit_of_mem_recipientsFor hb hd hts only b' hf')]
    exact hf'

/-- The clients that are found for a message are its recipients, when it may be for all. -/
theorem findMatching_eq (hd : b.destination? id = some d)
    (hts : d.parseMessageSubtopics m.subtopics = .ok ts) (b' : Broker) :
    (findMatching env id m.subtopics (contentOf m) b).2 =
      .ok ((recipientsFor env d m ts none b').toList.map Prod.fst) := by
  have hfound : (findMatching env id m.subtopics (contentOf m) b).2 =
      .ok (clientsOf (matchingSubscriptions env d ts (contentOf m) b).2) := by
    have hlocated : (do
        let d ← b.requireDestination id
        let ts ← d.parseMessageSubtopics m.subtopics
        return (d, ts) : Except BrokerError (Destination × List Subtopic)) = .ok (d, ts) := by
      rw [requireDestination]
      rw [hd]
      show (d.parseMessageSubtopics m.subtopics >>= fun ts => pure (d, ts)) = _
      rw [hts]
      rfl
    rw [findMatching, hlocated]
  have hall : (matchingSubscriptions env d ts (contentOf m) b').2.filter
      (fun s => (none : Option ClientId).all (· == s.client)) =
        (matchingSubscriptions env d ts (contentOf m) b).2 := by
    rw [matchingSubscriptions_eq_filter, matchingSubscriptions_eq_filter]
    exact List.filter_eq_self.mpr fun _ _ => rfl
  rw [hfound, clientsOf_eq, recipientsFor, hall]

end Broker

end MessageBroker
