/-
# Traffic

Routing a message enters no subscription and ends none by itself: it counts, logs, asks
the collaborators, and tells the handlers what became of each copy. So it keeps the books
in order as far as calls back do. Looking for matching subscriptions and for matching nodes only
adds to the journal.
-/

import MessageBroker.Broker.Routing
import MessageBroker.Proofs.Broker.Subscribing

open Std

namespace MessageBroker

namespace Broker

variable {b b' b'' : Broker} {ctx : Context} {kind : Event → Prop}

/-! ## Matching -/

/-- At most the journal has grown, by entries of a kind. -/
def Journals (kind : Event → Prop) (b b' : Broker) : Prop :=
  ∃ entries : List Event, (∀ e ∈ entries, kind e) ∧ b' = { b with journal := b.journal ++ entries }

theorem Journals.refl (kind : Event → Prop) (b : Broker) : Journals kind b b :=
  ⟨[], List.forall_mem_nil _, by rw [List.append_nil]⟩

theorem Journals.trans (h : Journals kind b b') (h' : Journals kind b' b'') :
    Journals kind b b'' := by
  obtain ⟨entries, hkind, rfl⟩ := h
  obtain ⟨entries', hkind', rfl⟩ := h'
  refine ⟨entries ++ entries', fun e he => ?_, by rw [List.append_assoc]⟩
  rcases List.mem_append.mp he with he | he
  · exact hkind e he
  · exact hkind' e he

theorem Journals.mono {kind' : Event → Prop} (h : Journals kind b b')
    (hkind : ∀ e, kind e → kind' e) : Journals kind' b b' := by
  obtain ⟨entries, hentries, hb⟩ := h
  exact ⟨entries, fun e he => hkind e (hentries e he), hb⟩

theorem journals_record {e : Event} (he : kind e) (b : Broker) : Journals kind b (b.record e) :=
  ⟨[e], fun _ hmem => List.mem_singleton.mp hmem ▸ he, rfl⟩

theorem Journals.books (h : Journals kind b b') : b'.books = b.books := by
  obtain ⟨entries, -, rfl⟩ := h
  rfl

/-- Whether an entry of the journal is one that looking for matches leaves. -/
def IsLookup : Event → Prop
  | .evaluation _ => True
  | .log .. => True
  | _ => False

theorem lookups_evaluate (env : Environment) (content : Content) (selector : Selector)
    (b : Broker) : Journals IsLookup b (evaluate env content selector b).1 := by
  rw [evaluate]
  split
  · exact journals_record trivial b
  · dsimp only
    split
    · exact journals_record trivial b
    · exact (journals_record trivial b).trans (journals_record trivial _)

theorem lookups_consult (env : Environment) (content : Content) (selector : Selector)
    (known : Verdicts) (b : Broker) :
    Journals IsLookup b (consult env content selector known b).1 := by
  rw [consult]
  split
  · exact .refl _ b
  · exact lookups_evaluate env content selector b

theorem lookups_select (env : Environment) (content : Content) (subs : List Subscription)
    (known : Verdicts) (b : Broker) : Journals IsLookup b (select env content subs known b).1 := by
  induction subs generalizing known b with
  | nil => exact .refl _ b
  | cons s subs ih =>
    rw [select]
    cases s.selector with
    | none => exact ih known b
    | some selector => exact (lookups_consult env content selector known b).trans (ih _ _)

theorem lookups_matchingSubscriptions (env : Environment) (d : Destination) (ts : List Subtopic)
    (content : Content) (b : Broker) :
    Journals IsLookup b (matchingSubscriptions env d ts content b).1 :=
  lookups_select env content _ [] b

/-- Whether one key of another node matches. -/
def keyMatches (env : Environment) (d : Destination) (ts : List Subtopic) (content : Content)
    (peer : PeerId) (key : SubscriptionKey) (b : Broker) : Broker × Bool :=
  let (b, admitted) := keyAdmits d ts peer key b
  match admitted, key.selector with
  | false, _ => (b, false)
  | true, none => (b, true)
  | true, some selector => evaluate env content selector b

theorem anyKeyMatches_cons (env : Environment) (d : Destination) (ts : List Subtopic)
    (content : Content) (peer : PeerId) (key : SubscriptionKey) (keys : List SubscriptionKey)
    (b : Broker) :
    anyKeyMatches env d ts content peer (key :: keys) b =
      if (keyMatches env d ts content peer key b).2 then
        ((keyMatches env d ts content peer key b).1, true)
      else anyKeyMatches env d ts content peer keys (keyMatches env d ts content peer key b).1 :=
  rfl

theorem lookups_keyMatches (env : Environment) (d : Destination) (ts : List Subtopic)
    (content : Content) (peer : PeerId) (key : SubscriptionKey) (b : Broker) :
    Journals IsLookup b (keyMatches env d ts content peer key b).1 := by
  have hadmits : Journals IsLookup b (keyAdmits d ts peer key b).1 := by
    rw [keyAdmits]
    split
    · exact .refl _ b
    · split
      · exact .refl _ b
      · exact journals_record trivial b
  rw [keyMatches]
  dsimp only
  split
  · exact hadmits
  · exact hadmits
  · exact hadmits.trans (lookups_evaluate env content _ _)

theorem lookups_anyKeyMatches (env : Environment) (d : Destination) (ts : List Subtopic)
    (content : Content) (peer : PeerId) (keys : List SubscriptionKey) (b : Broker) :
    Journals IsLookup b (anyKeyMatches env d ts content peer keys b).1 := by
  induction keys generalizing b with
  | nil => exact .refl _ b
  | cons key keys ih =>
    have hkey := lookups_keyMatches env d ts content peer key b
    rw [anyKeyMatches_cons]
    split
    · exact hkey
    · exact hkey.trans (ih _)

theorem lookups_selectPeers (env : Environment) (d : Destination) (ts : List Subtopic)
    (content : Content) (peers : List (PeerId × List SubscriptionKey)) (b : Broker) :
    Journals IsLookup b (selectPeers env d ts content peers b).1 := by
  induction peers generalizing b with
  | nil => exact .refl _ b
  | cons peer peers ih => exact (lookups_anyKeyMatches env d ts content _ _ b).trans (ih _)

theorem lookups_matchingPeers (env : Environment) (d : Destination) (ts : List Subtopic)
    (content : Content) (b : Broker) :
    Journals IsLookup b (matchingPeers env d ts content b).1 :=
  lookups_selectPeers env d _ content _ b

theorem books_findMatching (env : Environment) (id : DestinationId) (subtopics : List String)
    (content : Content) (b : Broker) :
    (findMatching env id subtopics content b).1.books = b.books := by
  rw [findMatching]
  split
  · rfl
  · exact (lookups_matchingSubscriptions env _ _ content b).books

/-! ## Delivering -/

theorem books_limiter (id : DestinationId) (limiter : Destination → Limiter) (b : Broker) :
    (b.onDestination id fun d => { d with limiter := limiter d }).books = b.books :=
  books_onDestination_of_shelf (fun _ => rfl) (fun _ => rfl)

theorem books_touch (c : ClientId) (now : Timestamp) (b : Broker) :
    (b.touch c now).books = b.books :=
  books_onSession_of_subscriptions fun _ => rfl

theorem keeps_screen (hctx : ctx.Keeps) (id : DestinationId) (m : Message) (w : Screening)
    (recipient : ClientId × Option Nat) :
    Keeps w.broker (screen ctx id m w recipient).broker := by
  unfold screen
  dsimp only
  split
  · exact .refl _
  · split
    · refine .trans (keeps_of_books_eq ?_) (keeps_notify hctx _ _)
      exact books_onTotals_of_subscriptions (by intro _; rfl)
    · split
      · exact keeps_of_books_eq (books_limiter id _ _)
      · refine .trans (keeps_of_books_eq ?_) (keeps_notify hctx _ _)
        exact (books_onTotals_of_subscriptions (by intro _; rfl)).trans (books_limiter id _ _)

theorem keeps_settle (hctx : ctx.Keeps) (id : DestinationId) (m : Message) (w : Handover)
    (c : ClientId) : Keeps w.broker (settle ctx id m w c).broker := by
  unfold settle
  dsimp only
  split
  · refine .trans (keeps_of_books_eq ?_) (keeps_notify hctx _ _)
    exact (books_touch c _ _).trans (books_onTotals_of_subscriptions (by intro _; rfl))
  · refine .trans (keeps_of_books_eq ?_) (keeps_notify hctx _ _)
    show (w.broker.onTotals id
      fun t => { t with deliveryFailures := t.deliveryFailures + 1 }).books = _
    exact books_onTotals_of_subscriptions (by intro _; rfl)

theorem keeps_deliverLocal (hctx : ctx.Keeps) (d : Destination) (m : Message)
    (ts : List Subtopic) (only : Option ClientId) (b : Broker) :
    Keeps b (deliverLocal ctx d m ts only b).1 := by
  have hmatching := keeps_of_books_eq
    (lookups_matchingSubscriptions ctx.env d ts (contentOf m) b).books
  unfold deliverLocal
  dsimp only
  generalize matchingSubscriptions ctx.env d ts (contentOf m) b = found at hmatching ⊢
  generalize recipientsOf (found.2.filter fun s => only.all (· == s.client)) = recipients
  have hscreened := keeps_foldl Screening.broker (keeps_screen hctx d.id m) recipients.toList
    ⟨found.1, [], 0, 0⟩
  generalize recipients.toList.foldl (screen ctx d.id m) ⟨found.1, [], 0, 0⟩ = screened
    at hscreened ⊢
  have hhanded : Keeps screened.broker
      (screened.targets.foldl (fun b c => b.record (.delivery c m)) screened.broker) := by
    refine keeps_foldl (fun b => b) ?_ _ _
    intro b c
    exact keeps_of_books_eq rfl
  have hsettled := keeps_foldl Handover.broker (keeps_settle hctx d.id m) screened.targets
    ⟨screened.targets.foldl (fun b c => b.record (.delivery c m)) screened.broker, 0, 0⟩
  exact ((hmatching.trans hscreened).trans hhanded).trans hsettled

theorem books_tellMessage (env : Environment) (id : DestinationId) (targets : Targets)
    (m : Message) (b : Broker) : (tellMessage env id targets m b).1.books = b.books := by
  unfold tellMessage
  split
  · rfl
  · dsimp only
    split
    · exact books_onTotals_of_subscriptions (by intro _; rfl)
    · rfl

theorem books_forward (env : Environment) (id : DestinationId) (m : Message) (ts : List Subtopic)
    (b : Broker) : (forward env id m ts b).1.books = b.books := by
  unfold forward
  split
  · rfl
  next d _ =>
    split
    · rfl
    · exact books_tellMessage env id .all m b
    · dsimp only
      have hpeers := (lookups_matchingPeers env d ts (contentOf m) b).books
      split
      · exact hpeers
      · exact (books_tellMessage env id _ m _).trans hpeers

theorem keeps_fanout (hctx : ctx.Keeps) (d : Destination) (m : Message) (ts : List Subtopic)
    (only : Option ClientId) (propagate : Bool) (b : Broker) :
    Keeps b (fanout ctx d m ts only propagate b).1 := by
  have hlocal := keeps_deliverLocal hctx d m ts only b
  unfold fanout
  dsimp only
  split
  · exact hlocal.trans (keeps_of_books_eq (books_forward ctx.env d.id m ts _))
  · exact hlocal

/-! ## Routing -/

theorem books_passGate (env : Environment) (m : Message) (b : Broker) :
    (passGate env m b).1.books = b.books := by
  unfold passGate
  split
  · rfl
  next d _ =>
    have hauthorize := books_authorize env .send d (b.principal? m.client) b
    unfold authorizeSend
    dsimp only
    split <;> simp_all

theorem books_checkInbound (env : Environment) (d : Destination) (m : Message) (b : Broker) :
    (checkInbound env d m b).1.books = b.books := by
  unfold checkInbound
  dsimp only
  split
  · exact books_limiter d.id _ b
  · exact (books_onTotals_of_subscriptions (by intro _; rfl)).trans (books_limiter d.id _ b)

theorem books_invoke (env : Environment) (adapter : Adapter) (m : Message) (b : Broker) :
    (invoke env adapter m b).1.books = b.books := by
  unfold invoke
  split <;> rfl

theorem keeps_passOn (hctx : ctx.Keeps) (d : Destination) (m : Message) (ts : List Subtopic)
    (b : Broker) : Keeps b (passOn ctx d m ts b).1 := by
  have hinvoke := books_invoke ctx.env d.adapter m b
  unfold passOn
  split
  next b' e heq =>
    rw [heq] at hinvoke
    apply keeps_of_books_eq
    show (b'.onDestination d.id fun d' =>
      { d' with limiter := d'.limiter.releaseInbound m.client }).books = b.books
    rw [books_limiter d.id fun d' => d'.limiter.releaseInbound m.client]
    exact hinvoke
  next b' heq =>
    rw [heq] at hinvoke
    exact keeps_of_books_eq hinvoke
  next b' heq =>
    rw [heq] at hinvoke
    dsimp only
    exact (keeps_of_books_eq hinvoke).trans (keeps_fanout hctx d m ts none true b')

theorem keeps_routeMessage (env : Environment) (m : Message) (b : Broker) :
    Keeps b (routeMessage env m b).1 := by
  have hgate := books_passGate env m b
  unfold routeMessage
  split
  next b₁ e heq =>
    rw [heq] at hgate
    exact keeps_of_books_eq hgate
  next b₁ d ts heq =>
    rw [heq] at hgate
    dsimp only
    have hctx := keeps_context env b₁
    generalize b₁.context env = ctx at hctx ⊢
    have hinbound := books_checkInbound env d m
      ((b₁.onTotals d.id fun t => { t with received := t.received + 1 }).touch m.client env.now)
    rw [books_touch, books_onTotals_of_subscriptions (by intro _; rfl), hgate] at hinbound
    split
    next b₂ heq =>
      rw [heq] at hinbound
      exact keeps_of_books_eq hinbound
    next b₂ heq =>
      rw [heq] at hinbound
      exact (keeps_of_books_eq hinbound).trans (keeps_notify hctx _ b₂)
    next b₂ heq =>
      rw [heq] at hinbound
      exact (keeps_of_books_eq hinbound).trans (keeps_passOn hctx d m ts b₂)

theorem keeps_routeFromPeer (env : Environment) (m : Message) (b : Broker) :
    Keeps b (routeFromPeer env m b).1 := by
  unfold routeFromPeer
  split
  · exact .refl b
  next d ts _ =>
    refine .trans (keeps_of_books_eq ?_) (keeps_fanout (keeps_context env b) d m ts none false _)
    exact books_onTotals_of_subscriptions (by intro _; rfl)

theorem keeps_routeFromAdapter (env : Environment) (m : Message) (toAll : Bool) (b : Broker) :
    Keeps b (routeFromAdapter env m toAll b).1 := by
  have hctx := keeps_context env b
  unfold routeFromAdapter
  split
  · exact .refl b
  next d ts _ =>
    have hcounted : Keeps b
        (b.onTotals d.id fun t => { t with fromAdapter := t.fromAdapter + 1 }) :=
      keeps_of_books_eq (books_onTotals_of_subscriptions (by intro _; rfl))
    dsimp only
    generalize b.onTotals d.id (fun t => { t with fromAdapter := t.fromAdapter + 1 }) = b₁
      at hcounted ⊢
    split
    · exact hcounted.trans (keeps_fanout hctx d m ts none true b₁)
    · exact hcounted.trans (keeps_fanout hctx d m ts (some m.client) false b₁)

end Broker

end MessageBroker
