/-
# Matching across nodes

A node forwards a message to those other nodes that have announced a matching key. It
knows the keys as texts only: it reads the subtopic of each key anew and goes through the
keys one after the other. The node that the message reaches looks its subscriptions up in
indexes and has each selector evaluated once. Both answer the same question, so while keys
are up to date no message is forwarded in vain and none is missed.

On both sides the answer is first brought to a plain condition, on keys there and on
subscriptions here. The conditions agree because a subscription holds a subtopic that was
read with the separator of its destination, and such a subtopic is read again from its own
text.
-/

import MessageBroker.Proofs.Broker.Runs
import MessageBroker.Proofs.Registry.Candidates
import MessageBroker.Proofs.RemoteKeys

open Std

namespace MessageBroker

namespace Broker

variable {env env' : Environment} {content : Content} {b : Broker} {d d' : Destination}
  {ts : List Subtopic} {peer : PeerId} {key : SubscriptionKey}

/-! ## Selectors -/

/-- Whether a selector holds for a message. Without an evaluator none does, and neither
does one whose evaluation fails. -/
def verdict (env : Environment) (content : Content) (selector : Selector) : Bool :=
  match env.evaluator with
  | none => false
  | some evaluator =>
    match evaluator selector content.headers content.body with
    | .ok holds => holds
    | .error _ => false

theorem verdict_eq_true_iff {selector : Selector} :
    verdict env content selector = true ↔
      ∃ evaluator, env.evaluator = some evaluator ∧
        evaluator selector content.headers content.body = .ok true := by
  unfold verdict
  cases env.evaluator with
  | none => simp
  | some evaluator =>
    cases h : evaluator selector content.headers content.body with
    | ok holds => simp [h]
    | error fault => simp [h]

theorem verdict_congr (hevaluator : env'.evaluator = env.evaluator) :
    verdict env' content = verdict env content := by
  funext selector
  rw [verdict, verdict, hevaluator]

theorem snd_evaluate (env : Environment) (content : Content) (selector : Selector) (b : Broker) :
    (evaluate env content selector b).2 = verdict env content selector := by
  unfold evaluate verdict
  cases env.evaluator with
  | none => rfl
  | some evaluator =>
    dsimp only
    cases evaluator selector content.headers content.body with
    | ok holds => rfl
    | error fault => rfl

/-- Answers that are known are those that the evaluator gives. -/
def Verdicts.Right (env : Environment) (content : Content) (known : Verdicts) : Prop :=
  ∀ selector holds, known.lookup selector = some holds → holds = verdict env content selector

theorem consult_spec {known : Verdicts} (hknown : known.Right env content) (selector : Selector)
    (b : Broker) :
    (consult env content selector known b).2.1.Right env content ∧
      (consult env content selector known b).2.2 = verdict env content selector := by
  have hanswer := snd_evaluate env content selector b
  unfold consult
  split
  next holds hlookup => exact ⟨hknown, hknown selector holds hlookup⟩
  next =>
    refine ⟨?_, hanswer⟩
    intro other holds hlookup
    rw [List.lookup_cons] at hlookup
    split at hlookup
    next hsame =>
      rw [beq_iff_eq.mp hsame, ← hanswer]
      exact (Option.some.inj hlookup).symm
    next => exact hknown other holds hlookup

/-- Evaluating each selector once selects what evaluating all of them would. -/
theorem select_eq_filter (subs : List Subscription) {known : Verdicts}
    (hknown : known.Right env content) (b : Broker) :
    (select env content subs known b).2 =
      subs.filter fun s => s.selector.all (verdict env content) := by
  induction subs generalizing known b with
  | nil => rfl
  | cons s subs ih =>
    unfold select
    rw [List.filter_cons]
    cases hselector : s.selector with
    | none =>
      simp only [Option.all_none, if_true]
      rw [ih hknown]
    | some selector =>
      obtain ⟨hknown', hholds⟩ := consult_spec hknown selector b
      simp only [Option.all_some]
      rw [ih hknown', hholds]

theorem matchingSubscriptions_eq_filter (env : Environment) (d : Destination)
    (ts : List Subtopic) (content : Content) (b : Broker) :
    (matchingSubscriptions env d ts content b).2 =
      (d.registry.candidates ts).filter fun s => s.selector.all (verdict env content) :=
  select_eq_filter _ (by intro _ _ h; cases h) b

/-! ## Keys of other nodes -/

/-- A key that another node announced matches a message: its subtopic, if it has one, can be
read and admits one of the subtopics of the message, and its selector, if it has one, is
evaluated and holds. -/
structure MatchingKey (env : Environment) (separator : Char) (ts : List Subtopic)
    (content : Content) (key : SubscriptionKey) : Prop where
  subtopic : ∀ text, key.subtopic = some text →
    ∃ p, Subtopic.parse text separator = .ok p ∧ ∃ t ∈ ts, t.matchedBy p = true
  selector : ∀ text, key.selector = some text →
    ∃ evaluator, env.evaluator = some evaluator ∧
      evaluator text content.headers content.body = .ok true

theorem snd_keyAdmits_iff (d : Destination) (ts : List Subtopic) (peer : PeerId)
    (key : SubscriptionKey) (b : Broker) :
    (keyAdmits d ts peer key b).2 = true ↔
      ∀ text, key.subtopic = some text →
        ∃ p, Subtopic.parse text d.settings.separator = .ok p ∧ ∃ t ∈ ts, t.matchedBy p = true := by
  unfold keyAdmits
  cases key.subtopic with
  | none => simp
  | some text =>
    cases hparse : Subtopic.parse text d.settings.separator with
    | ok pattern => simp [hparse]
    | error e => simp [hparse]

theorem snd_keyMatches_iff (env : Environment) (d : Destination) (ts : List Subtopic)
    (content : Content) (peer : PeerId) (key : SubscriptionKey) (b : Broker) :
    (keyMatches env d ts content peer key b).2 = true ↔
      MatchingKey env d.settings.separator ts content key := by
  have hsubtopic := snd_keyAdmits_iff d ts peer key b
  have hselector : (∀ text, key.selector = some text → verdict env content text = true) ↔
      ∀ text, key.selector = some text → ∃ evaluator, env.evaluator = some evaluator ∧
        evaluator text content.headers content.body = .ok true := by
    simp only [verdict_eq_true_iff]
  have hboth : (keyMatches env d ts content peer key b).2 = true ↔
      (keyAdmits d ts peer key b).2 = true ∧
        ∀ text, key.selector = some text → verdict env content text = true := by
    unfold keyMatches
    dsimp only
    split
    next hno => simp [hno]
    next hyes hnone => simp [hyes, hnone]
    next hyes hsome =>
      rw [snd_evaluate]
      simp [hyes, hsome]
  rw [hboth, hsubtopic, hselector]
  exact ⟨fun h => ⟨h.1, h.2⟩, fun h => ⟨h.subtopic, h.selector⟩⟩

theorem snd_anyKeyMatches_iff (keys : List SubscriptionKey) (b : Broker) :
    (anyKeyMatches env d ts content peer keys b).2 = true ↔
      ∃ key ∈ keys, MatchingKey env d.settings.separator ts content key := by
  induction keys generalizing b with
  | nil => simp [anyKeyMatches]
  | cons key keys ih =>
    have hkey := snd_keyMatches_iff env d ts content peer key b
    rw [anyKeyMatches_cons]
    split
    next hyes =>
      have hmatching := hkey.mp hyes
      simp [hmatching]
    next hno =>
      rw [hkey] at hno
      rw [ih]
      simp [hno]

theorem sublist_selectPeers (peers : List (PeerId × List SubscriptionKey)) (b : Broker) :
    ((selectPeers env d ts content peers b).2).Sublist (peers.map Prod.fst) := by
  induction peers generalizing b with
  | nil => exact .slnil
  | cons first peers ih =>
    obtain ⟨peer, keys⟩ := first
    unfold selectPeers
    dsimp only
    split
    · exact (ih _).cons_cons peer
    · exact (ih _).cons peer

theorem mem_selectPeers (peers : List (PeerId × List SubscriptionKey)) (b : Broker) :
    peer ∈ (selectPeers env d ts content peers b).2 ↔
      ∃ keys, (peer, keys) ∈ peers ∧
        ∃ key ∈ keys, MatchingKey env d.settings.separator ts content key := by
  induction peers generalizing b with
  | nil => simp [selectPeers]
  | cons first peers ih =>
    obtain ⟨other, keys⟩ := first
    have hfirst : (anyKeyMatches env d ts content other keys b).2 = true ↔
        ∃ key ∈ keys, MatchingKey env d.settings.separator ts content key :=
      snd_anyKeyMatches_iff keys b
    have hcons : (∃ keys', (peer, keys') ∈ (other, keys) :: peers ∧
          ∃ key ∈ keys', MatchingKey env d.settings.separator ts content key) ↔
        (peer = other ∧ ∃ key ∈ keys, MatchingKey env d.settings.separator ts content key) ∨
          ∃ keys', (peer, keys') ∈ peers ∧
            ∃ key ∈ keys', MatchingKey env d.settings.separator ts content key := by
      simp only [List.mem_cons, Prod.mk.injEq, or_and_right, exists_or, and_assoc,
        exists_and_left, exists_eq_left]
    rw [hcons, ← hfirst]
    unfold selectPeers
    dsimp only
    split
    next hyes =>
      rw [List.mem_cons, ih]
      simp [hyes]
    next hno =>
      rw [ih]
      simp [hno]

/-- The nodes a message is forwarded to, in the terms of their keys. -/
theorem mem_matchingPeers (env : Environment) (d : Destination) (ts : List Subtopic)
    (content : Content) (b : Broker) (peer : PeerId) :
    peer ∈ (matchingPeers env d ts content b).2 ↔
      ∃ key ∈ d.remote.keys peer, MatchingKey env d.settings.separator
        (Registry.subtopicsOrEmpty d.settings.separator ts) content key := by
  unfold matchingPeers
  rw [mem_selectPeers]
  constructor
  · rintro ⟨keys, hkeys, key, hkey, hmatching⟩
    obtain ⟨held, hheld, rfl⟩ := RemoteKeys.mem_toList.mp hkeys
    refine ⟨key, ?_, hmatching⟩
    rw [RemoteKeys.keys, hheld]
    exact ExtTreeSet.mem_toList.mp hkey
  · rintro ⟨key, hkey, hmatching⟩
    unfold RemoteKeys.keys at hkey
    cases hheld : d.remote.peers[peer]? with
    | none => simp [hheld] at hkey
    | some held =>
      rw [hheld] at hkey
      exact ⟨held.toList, RemoteKeys.mem_toList.mpr ⟨held, hheld, rfl⟩, key,
        ExtTreeSet.mem_toList.mpr hkey, hmatching⟩

theorem pairwise_matchingPeers (env : Environment) (d : Destination) (ts : List Subtopic)
    (content : Content) (b : Broker) :
    (matchingPeers env d ts content b).2.Pairwise (· < ·) := by
  have hordered : (d.remote.toList.map Prod.fst).Pairwise (· < ·) := by
    rw [List.pairwise_map]
    exact RemoteKeys.pairwise_toList d.remote
  exact hordered.sublist (sublist_selectPeers d.remote.toList b)

/-! ## Two nodes -/

/-- What is held for another node is what that node would tell of a destination now, and
the destination is configured there as it is here. -/
structure UpToDate (d : Destination) (peer : PeerId) (there : Broker) (d' : Destination) :
    Prop where
  located : there.destination? d.id = some d'
  settings : d'.settings = d.settings
  keys : ∃ told, there.subscriptionState d.id = .ok told ∧
    ∀ key, key ∈ d.remote.keys peer ↔ key ∈ told

theorem parsedWith_of_parseMessageSubtopics {texts : List String}
    (h : d.parseMessageSubtopics texts = .ok ts) :
    ∀ t ∈ ts, t.ParsedWith d.settings.separator := by
  intro t ht
  unfold Destination.parseMessageSubtopics at h
  dsimp only at h
  split at h
  · cases h
  · obtain ⟨text, -, hread⟩ := Except.exists_of_mem_of_mapM_eq_ok h ht
    obtain ⟨t', hparse, hrest⟩ :=
      Except.exists_of_bind_eq_ok (Except.ok_of_mapError_eq_ok hread)
    split at hrest
    · cases hrest
    · cases hrest
      exact ⟨text, hparse⟩

/-- The key of a subscription matches a message when the subscription does. -/
theorem matchingKey_key_iff {separator : Char} {s : Subscription} (hs : s.ReadWith separator)
    (hts : ∀ t ∈ ts, t.ParsedWith separator) :
    MatchingKey env separator ts content s.key ↔
      s.admitsAny ts = true ∧ s.selector.all (verdict env content) = true := by
  have hsubtopic : s.admitsAny ts = true ↔ ∀ text, s.key.subtopic = some text →
      ∃ p, Subtopic.parse text separator = .ok p ∧ ∃ t ∈ ts, t.matchedBy p = true := by
    cases hsub : s.subtopic with
    | none => simp [Subscription.admitsAny_iff, Subscription.key, hsub]
    | some p =>
      have hp := hs p hsub
      have hmatches : (∃ t ∈ ts, t.matches p = .ok true) ↔ ∃ t ∈ ts, t.matchedBy p = true := by
        refine exists_congr fun t => and_congr_right fun ht => ?_
        rw [(hts t ht).matches_eq hp, Except.ok.injEq]
      simp [Subscription.admitsAny_iff, Subscription.key, hsub, hp.parse_value, hmatches]
  have hselector : s.selector.all (verdict env content) = true ↔
      ∀ text, s.key.selector = some text → ∃ evaluator, env.evaluator = some evaluator ∧
        evaluator text content.headers content.body = .ok true := by
    cases hsel : s.selector with
    | none => simp [Subscription.key, hsel]
    | some text => simp [Subscription.key, hsel, verdict_eq_true_iff]
  rw [hsubtopic, hselector]
  exact ⟨fun h => ⟨h.subtopic, h.selector⟩, fun h => ⟨h.1, h.2⟩⟩

/-- A message is forwarded to the nodes with a matching key, in ascending order. A node that
is reachable in any way, with keys that are up to date and an evaluator that judges alike, is
among them exactly when a subscription there matches the message. -/
theorem matchingPeers_exact (env : Environment) (d : Destination) (ts : List Subtopic)
    (content : Content) (here : Broker) :
    (matchingPeers env d ts content here).2.Pairwise (· < ·) ∧
      (∀ peer, peer ∈ (matchingPeers env d ts content here).2 ↔
        ∃ key ∈ d.remote.keys peer, MatchingKey env d.settings.separator
          (Registry.subtopicsOrEmpty d.settings.separator ts) content key) ∧
      ∀ {there : Broker} {d' : Destination} {peer : PeerId} {env' : Environment}
        {texts : List String}, there.IsReachable → UpToDate d peer there d' →
        env'.evaluator = env.evaluator → d'.parseMessageSubtopics texts = .ok ts →
        (peer ∈ (matchingPeers env d ts content here).2 ↔
          (matchingSubscriptions env' d' ts content there).2 ≠ []) := by
  refine ⟨pairwise_matchingPeers env d ts content here, mem_matchingPeers env d ts content here, ?_⟩
  intro there d' peer env' texts hthere hupToDate hevaluator htexts
  obtain ⟨strays, hbooks⟩ := hthere.accounted
  obtain ⟨hlocated, hsettings, told, htold, hheld⟩ := hupToDate
  have hmem : d'.shelf ∈ there.books.shelves :=
    List.mem_map_of_mem (mem_of_destination? hlocated).1
  have hsound : d'.registry.Sound := hbooks.sound d'.shelf hmem
  obtain ⟨hreadable, hseparator⟩ :
      d'.registry.Readable ∧ d'.registry.separator = d.settings.separator := by
    have hread := hbooks.readable d'.shelf hmem
    exact ⟨hread.1, hread.2.trans (congrArg (·.separator) hsettings)⟩
  have hts : ∀ t ∈ ts, t.ParsedWith d'.registry.separator := by
    rw [hseparator, ← hsettings]
    exact parsedWith_of_parseMessageSubtopics htexts
  have hkeys : told = d'.registry.keys := by
    unfold subscriptionState requireDestination at htold
    rw [hlocated] at htold
    exact (Except.ok.inj htold).symm
  have hboth (s : Subscription) (hs : d'.registry.get? s.id = some s) :
      MatchingKey env d'.registry.separator (Registry.subtopicsOrEmpty d'.registry.separator ts)
          content s.key ↔
        s.admitsAny (Registry.subtopicsOrEmpty d'.registry.separator ts) = true ∧
          s.selector.all (verdict env content) = true :=
    matchingKey_key_iff (hreadable.subtopics hs) (Registry.parsedWith_of_mem_subtopicsOrEmpty hts)
  rw [mem_matchingPeers, matchingSubscriptions_eq_filter, verdict_congr hevaluator, ← hseparator]
  constructor
  · rintro ⟨key, hkey, hmatching⟩ hnone
    rw [hheld, hkeys, hsound.mem_keys] at hkey
    obtain ⟨s, hs, rfl⟩ := List.mem_map.mp hkey
    have hget := hsound.mem_toList.mp hs
    obtain ⟨hadmits, hholds⟩ := (hboth s hget).mp hmatching
    have hcandidate := (Registry.mem_candidates hsound hreadable hts).mpr ⟨hget, hadmits⟩
    have hmatched : s ∈ (d'.registry.candidates ts).filter
        fun s => s.selector.all (verdict env content) :=
      List.mem_filter.mpr ⟨hcandidate, hholds⟩
    rw [hnone] at hmatched
    cases hmatched
  · intro hsome
    obtain ⟨s, hs⟩ := List.exists_mem_of_ne_nil _ hsome
    obtain ⟨hcandidate, hholds⟩ := List.mem_filter.mp hs
    obtain ⟨hget, hadmits⟩ := (Registry.mem_candidates hsound hreadable hts).mp hcandidate
    refine ⟨s.key, ?_, (hboth s hget).mpr ⟨hadmits, hholds⟩⟩
    rw [hheld, hkeys, hsound.mem_keys]
    exact List.mem_map_of_mem (hsound.mem_toList.mpr hget)

/-- The settings of nodes that share the subscriptions of a destination. -/
def sharedSettings : Settings :=
  Settings.standard.addDestination
    { DestinationSettings.standard "news" with
      allowSubtopics := true
      routingMode := .serverToServer }

/-- A client subscribes there. -/
def subscribing : List (Environment × Operation) :=
  quietly [.start, .subscribe ⟨"news", "ann", some "sports.*", none, none⟩]

/-- The keys of that node arrive here. -/
def hearing : List (Environment × Operation) :=
  quietly [.start, .receiveState 2 "news" [⟨none, some "sports.*"⟩]]

theorem matchingPeers_exact_sports :
    ∃ (b₀ : Broker) (d d' : Destination), b₀.IsBuilt ∧
      (b₀.run hearing).destination? "news" = some d ∧
      UpToDate d 2 (b₀.run subscribing) d' ∧
      d'.parseMessageSubtopics ["sports.hockey"] = .ok [Registry.hockey] ∧
      (matchingPeers quiet d [Registry.hockey] ⟨[], []⟩ (b₀.run hearing)).2 = [2] ∧
      (matchingSubscriptions quiet d' [Registry.hockey] ⟨[], []⟩
        (b₀.run subscribing)).2 ≠ [] := by
  obtain ⟨b₀, d, d', hbuilt, hd, hupToDate, htexts, hpeers⟩ :
      ∃ (b₀ : Broker) (d d' : Destination), b₀.IsBuilt ∧
        (b₀.run hearing).destination? "news" = some d ∧
        UpToDate d 2 (b₀.run subscribing) d' ∧
        d'.parseMessageSubtopics ["sports.hockey"] = .ok [Registry.hockey] ∧
        (matchingPeers quiet d [Registry.hockey] ⟨[], []⟩ (b₀.run hearing)).2 = [2] := by
    have hbuilt : IsBuilt _ := ⟨sharedSettings, _, ⟨true, true, [], []⟩, rfl, rfl⟩
    refine ⟨_, _, _, hbuilt, rfl, ⟨rfl, rfl, [⟨none, some "sports.*"⟩], rfl, ?_⟩, rfl, rfl⟩
    intro key
    exact RemoteKeys.mem_keys_replace
  have hagree := (matchingPeers_exact quiet d [Registry.hockey] ⟨[], []⟩ (b₀.run hearing)).2.2
    ⟨b₀, hbuilt, subscribing, rfl⟩ hupToDate rfl htexts
  refine ⟨b₀, d, d', hbuilt, hd, hupToDate, htexts, hpeers, hagree.mp ?_⟩
  rw [hpeers]
  exact List.mem_singleton_self 2

end Broker

end MessageBroker
