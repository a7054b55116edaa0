/-
# The live state by the chronicle

A run tells which sessions and subscriptions it leaves. A broker that was just built has told
nothing and has nothing on record, every operation leaves it in tune, and so at the end the
client of a live session is one whose last beginning had no end, and a subscription is
registered when it was told to have come and not to have gone.

A caller that stops a single destination is handed its subscriptions and has to remember them,
since nobody is told that they have gone. What is said here of subscriptions leaves out the
ones that were handed over. Runs that stop destinations only together with the node hand over
none.
-/

import MessageBroker.Proofs.Broker.Remarks
import MessageBroker.Proofs.Broker.Statistics

open Std

namespace MessageBroker

/-- An operation registers no handler that calls back. -/
def Operation.IsSilent : Operation → Prop
  | .addHook _ _ handler => handler.IsSilent
  | _ => True

/-- The subscriptions that an operation hands to its caller. -/
def Outcome.handed : Outcome → List Subscription
  | .detached (.ok subs) => subs
  | _ => []

namespace Broker

variable {b b₀ : Broker} {env : Environment} {handed : List Subscription} {strays : Strays}
  {op : Operation} {steps : List (Environment × Operation)}

/-- The subscriptions that callers were handed during a run. -/
def handedOver (b : Broker) (steps : List (Environment × Operation)) : List Subscription :=
  (b.turns steps).flatMap (·.outcome.handed)

/-- Only stopping a single destination hands subscriptions over. -/
theorem handed_perform (env : Environment) (b : Broker) (hop : op.IsOrderly) :
    (perform env b op).2.handed = [] := by
  cases op with
  | stopDestination d => exact hop.elim
  | _ => rfl

theorem handedOver_of_orderly (horderly : ∀ step ∈ steps, step.2.IsOrderly) :
    b.handedOver steps = [] := by
  induction steps generalizing b with
  | nil => rfl
  | cons step steps ih =>
    have hfirst := handed_perform step.1 b (horderly step List.mem_cons_self)
    have hrest := ih (b := (perform step.1 b step.2).1)
      fun other hother => horderly other (List.mem_cons_of_mem _ hother)
    exact List.append_eq_nil_iff.mpr ⟨hfirst, hrest⟩

/-- A broker has told everything apart from the subscriptions that it handed over. -/
def Tells (handed : List Subscription) (b : Broker) : Prop :=
  ∃ strays : Strays, (∀ s, s ∈ handed ↔ ∃ id, (id, s) ∈ strays) ∧ InTune handed strays b

/-- A broker that was just built has nothing to tell. -/
theorem IsBuilt.tells (h : b.IsBuilt) : b.Tells [] := by
  have hquiet : b.chronicle = [] ∧ b.hooks = .empty := by
    obtain ⟨raw, settings, equipment, -, hbuild⟩ := h
    obtain ⟨destinations, -, rfl⟩ := destinations_of_build hbuild
    exact ⟨rfl, rfl⟩
  have hsessions (c : ClientId) : b.books.sessions[c]? = none := by
    rw [getElem?_books_sessions, h.sessions, ExtTreeMap.getElem?_empty, Option.map_none]
  refine ⟨[], fun s => ?_, ?_, ?_⟩
  · simp
  · rw [hquiet.1]
    constructor
    case accounted => exact h.accounted
    case lawful => exact Chronicle.lawful_nil []
    case live =>
      intro c
      rw [ExtTreeMap.mem_iff_isSome_getElem?, hsessions]
      exact iff_of_false nofun nofun
    case isOpen =>
      intro s
      refine iff_of_false ?_ fun hs => List.not_mem_nil hs.1
      rintro (⟨id, hs⟩ | ⟨id, hs⟩)
      · have hlisted := (h.accounted.owned hs).2
        rw [Books.listed, hsessions] at hlisted
        cases hlisted
      · exact List.not_mem_nil hs
    case numbers => exact fun hs => absurd hs List.not_mem_nil
    case distinct => exact .nil
  · rw [hquiet.2]
    exact fun r hr => absurd hr List.not_mem_nil

/-- What a caller is handed are strays from then on. -/
theorem tells_stopNamed (hsame : ∀ s, s ∈ handed ↔ ∃ id, (id, s) ∈ strays)
    (hb : InTune handed strays b) (env : Environment) (id : DestinationId) :
    (stopNamed env id b).1.Tells (handed ++ (Outcome.detached (stopNamed env id b).2).handed) := by
  rw [stopNamed]
  split
  next e _ =>
    show b.Tells (handed ++ [])
    rw [List.append_nil]
    exact ⟨strays, hsame, hb⟩
  · have hstopped := hb.stopDestination env id
    dsimp only [Outcome.handed]
    generalize stopDestination env id b = stopped at hstopped ⊢
    obtain ⟨b', subs⟩ := stopped
    refine ⟨_, fun s => ?_, hstopped.mono fun s hs => List.mem_append_left _ hs⟩
    simp [hsame, or_comm, exists_or]

theorem Tells.perform (h : b.Tells handed) (henv : env.IsSilent) (hop : op.IsSilent) :
    (perform env b op).1.Tells (handed ++ (perform env b op).2.handed) := by
  obtain ⟨strays, hsame, hb⟩ := h
  have hstrays : ∀ stray ∈ strays, stray.2 ∈ handed :=
    fun stray hstray => (hsame stray.2).mpr ⟨stray.1, hstray⟩
  have hctx := discreet_context henv b
  have hsilent := hb.silent henv
  have hkept {b' : Broker} {outcome : Outcome} (hnone : outcome.handed = [])
      (hb' : InTune handed strays b') : b'.Tells (handed ++ outcome.handed) := by
    rw [hnone, List.append_nil]
    exact ⟨strays, hsame, hb'⟩
  cases op with
  | start => exact hkept rfl (hb.start env)
  | stop => exact hkept rfl (hb.stop henv)
  | startDestination d => exact hkept rfl (hb.startDestination env d)
  | stopDestination d => exact tells_stopNamed hsame hb env d
  | connect c => exact hkept rfl (hb.connectIn hctx c)
  | disconnect c => exact hkept rfl (hb.disconnectIn hctx hstrays c)
  | touch c time => exact hkept rfl (hb.unremarked (unremarked_touch b c time))
  | login c p => exact hkept rfl (hb.login henv c p)
  | logout c => exact hkept rfl (hb.unremarked (unremarked_logout c b))
  | subscribe r => exact hkept rfl (hb.subscribe henv r)
  | unsubscribe n => exact hkept rfl (hb.unsubscribeIn hctx n)
  | unsubscribeAll c => exact hkept rfl (hb.unsubscribeAllIn hctx hstrays c)
  | find d subtopics content =>
    exact hkept rfl (hb.unremarked (unremarked_findMatching env d subtopics content b))
  | route m => exact hkept rfl (hb.unremarked (unremarked_routeMessage hsilent m))
  | routeFromPeer m => exact hkept rfl (hb.unremarked (unremarked_routeFromPeer hsilent m))
  | routeFromAdapter m toAll =>
    exact hkept rfl (hb.unremarked (unremarked_routeFromAdapter hsilent m toAll))
  | receiveChange peer d change =>
    exact hkept rfl (hb.unremarked (unremarked_receiveChange peer d change b))
  | receiveState peer d keys =>
    exact hkept rfl (hb.unremarked (unremarked_receiveState peer d keys b))
  | removePeer peer => exact hkept rfl (hb.unremarked (unremarked_removePeer peer b))
  | sweep time => exact hkept rfl (hb.sweepAt henv hstrays time)
  | tick ms => exact hkept rfl (hb.tick henv hstrays ms)
  | configureThrottle d s => exact hkept rfl (hb.unremarked (unremarked_configureThrottle d s b))
  | resetThrottle d => exact hkept rfl (hb.unremarked (unremarked_resetThrottle d b))
  | addHook kind priority handler => exact hkept rfl ⟨hb.corresponds, hb.hooks.add hop⟩
  | removeHook kind n => exact hkept rfl ⟨hb.corresponds, hb.hooks.remove⟩

theorem Tells.run (h : b.Tells handed)
    (hsilent : ∀ step ∈ steps, step.1.IsSilent ∧ step.2.IsSilent) :
    (b.run steps).Tells (handed ++ b.handedOver steps) := by
  induction steps generalizing b handed with
  | nil =>
    rw [handedOver, turns, List.flatMap_nil, List.append_nil]
    exact h
  | cons step steps ih =>
    obtain ⟨henv, hop⟩ := hsilent step List.mem_cons_self
    have hrest := ih (h.perform henv hop)
      fun other hother => hsilent other (List.mem_cons_of_mem _ hother)
    rw [List.append_assoc] at hrest
    exact hrest

theorem Tells.silent (h : b.Tells handed) (henv : env.IsSilent) : Silent env b := by
  obtain ⟨strays, -, hb⟩ := h
  exact hb.silent henv

/-! ## What the chronicle of a run says -/

/-- A chronicle determines which sessions and subscriptions a broker has, apart from
subscriptions that were handed over. -/
structure Determines (handed : List Subscription) (l : Chronicle) (b : Broker) : Prop where
  /-- Sessions of a client begin and end by turns, and first one begins. -/
  alternate : ∀ c, (false :: l.sessionMarks c).IsChain (· ≠ ·)
  live : ∀ c, c ∈ b.sessions ↔ l.IsLive c
  comesOnce : ∀ n, l.countP (Notice.tellsComing n) ≤ 1
  goesOnce : ∀ n, l.countP (Notice.tellsGoing n) ≤ 1
  /-- What goes has come before. -/
  after : ∀ {before s reason rest}, l = before ++ .unsubscribed s reason :: rest →
    .subscribed s ∈ before
  registered : ∀ n, (∃ id, (b.registered? id n).isSome) ↔
    (∃ s, s.id = n ∧ .subscribed s ∈ l ∧ s ∉ handed) ∧
      ∀ s reason, .unsubscribed s reason ∈ l → s.id ≠ n
  /-- A client subscribes during a session. -/
  during : ∀ {before s rest}, l = before ++ .subscribed s :: rest →
    ∃ earlier between, before = earlier ++ .sessionCreated s.client :: between ∧
      .sessionTerminated s.client ∉ between
  /-- A session ends when the subscriptions of its client have gone. -/
  cleared : ∀ {before c rest s}, l = before ++ .sessionTerminated c :: rest →
    .subscribed s ∈ before → s.client = c → s ∉ handed → ∃ reason, .unsubscribed s reason ∈ before

theorem Tells.registered (h : b.Tells handed) (n : SubscriptionId) :
    (∃ id, (b.registered? id n).isSome) ↔
      (∃ s, s.id = n ∧ .subscribed s ∈ b.chronicle ∧ s ∉ handed) ∧
        ∀ s reason, .unsubscribed s reason ∈ b.chronicle → s.id ≠ n := by
  obtain ⟨strays, hsame, hb⟩ := h
  have hlawful := hb.corresponds.lawful
  constructor
  · rintro ⟨id, hsome⟩
    obtain ⟨s, hs⟩ := Option.isSome_iff_exists.mp hsome
    have hheld := holds_of_registered? hb.accounted hs
    have hopen := (hb.corresponds.isOpen s).mp (.inl ⟨id, hheld⟩)
    have hnumber := id_eq_of_registered? hb.accounted hs
    refine ⟨⟨s, hnumber, hopen.1, fun hhanded => ?_⟩, fun t reason ht hid => ?_⟩
    · obtain ⟨id', hstray⟩ := (hsame s).mp hhanded
      exact (hb.accounted.stray hstray).2.2 hheld rfl
    · obtain rfl := hlawful.eq_of_subscribed hopen.1 (hlawful.subscribed_of_unsubscribed ht)
        (hnumber.trans hid.symm)
      exact hopen.2 reason ht
  · rintro ⟨⟨s, rfl, hcome, hnot⟩, hgone⟩
    have hopen : b.chronicle.IsOpen s := ⟨hcome, fun reason hs => hgone s reason hs rfl⟩
    rcases (hb.corresponds.isOpen s).mpr hopen with ⟨id, hheld⟩ | hstray
    · exact ⟨id, Option.isSome_iff_exists.mpr ⟨s, (holds_iff_registered? hb.accounted).mp hheld⟩⟩
    · exact absurd ((hsame s).mpr hstray) hnot

theorem Tells.determines (h : b.Tells handed) : Determines handed b.chronicle b := by
  have hregistered := h.registered
  obtain ⟨strays, -, hb⟩ := h
  have hlawful := hb.corresponds.lawful
  constructor
  case alternate => exact hlawful.alternate
  case live =>
    intro c
    rw [← hb.corresponds.live, mem_books_sessions]
  case comesOnce => exact hlawful.countP_tellsComing
  case goesOnce => exact hlawful.countP_tellsGoing
  case after => exact fun hsplit => (hlawful.isOpen_of_unsubscribed hsplit).1
  case registered => exact hregistered
  case during => exact fun hsplit => (hlawful _ _ _ hsplit).1.exists_created
  case cleared =>
    intro before c rest s hsplit hcome hclient hnot
    by_contra hgone
    have hopen : Chronicle.IsOpen before s := ⟨hcome, fun reason hs => hgone ⟨reason, hs⟩⟩
    exact hnot ((hlawful _ _ _ hsplit).2 s hopen hclient)

/-- Throughout a run in which nobody calls back, what handlers are told determines which
clients have a session and which numbers are registered. Nothing is handed over unless a
single destination is stopped. -/
theorem determines_run (hbuilt : b₀.IsBuilt)
    (hsilent : ∀ step ∈ steps, step.1.IsSilent ∧ step.2.IsSilent) :
    Determines (b₀.handedOver steps) (b₀.run steps).chronicle (b₀.run steps) ∧
      ((∀ step ∈ steps, step.2.IsOrderly) → b₀.handedOver steps = []) :=
  ⟨(hbuilt.tells.run hsilent).determines, handedOver_of_orderly⟩

theorem determines_run_news :
    ∃ b₀ : Broker, b₀.IsBuilt ∧
      (∀ step ∈ opening ++ closing, step.1.IsSilent ∧ step.2.IsSilent) ∧
      (b₀.run (opening ++ closing)).chronicle.sessionMarks "ann" = [true, false] ∧
      (b₀.run (opening ++ closing)).chronicle.sessionMarks "bob" = [true] ∧
      Determines (b₀.handedOver (opening ++ closing)) (b₀.run (opening ++ closing)).chronicle
        (b₀.run (opening ++ closing)) := by
  have hquiet : quiet.IsSilent := by
    intro cluster hcluster
    cases hcluster
  have hsilent : ∀ step ∈ opening ++ closing, step.1.IsSilent ∧ step.2.IsSilent := by
    simp [opening, closing, quietly, Operation.IsSilent, hquiet]
  have hbuilt : IsBuilt _ := ⟨newsSettings, _, ⟨true, false, [], []⟩, rfl, rfl⟩
  exact ⟨_, hbuilt, hsilent, rfl, rfl, (determines_run hbuilt hsilent).1⟩

end Broker

end MessageBroker
