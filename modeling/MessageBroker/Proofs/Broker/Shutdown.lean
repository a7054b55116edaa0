/-
# Shutting down

When a node stops, handlers are told of every subscription that its destination has stopped. As
long as none of them calls back, nothing else happens. The registries are emptied while nothing
waits there to be told to other nodes, so no round of telling follows. Sessions lose what they
list, and handlers are told of nothing but the subscriptions.
-/

import MessageBroker.Proofs.Broker.Granting

open Std

namespace MessageBroker

/-- Whether an entry of the journal tells handlers of nothing but the end of a subscription whose
destination stopped, and other nodes of nothing at all. -/
def Event.IsOfStop : Event → Prop
  | .notice n => ∃ s, n = .unsubscribed s .destinationStopped
  | .change .. => False
  | _ => True

theorem Event.IsPrivate.isOfStop {e : Event} (h : e.IsPrivate) : e.IsOfStop := by
  cases e with
  | notice n => exact h.elim
  | change id change => exact h.elim
  | _ => trivial

namespace Broker

variable {b b' b'' : Broker} {ctx : Context} {env : Environment} {id : DestinationId}
  {d : Destination} {s : Subscription}

/-- Subscriptions went since their destinations stopped, and nothing else was told. Sessions stay
but for what they list, and so do hooks and limiters. -/
structure OnlyUnsubscribes (b b' : Broker) : Prop where
  hooks : b'.hooks = b.hooks
  limiters : ∀ id, b'.limiter? id = b.limiter? id
  sessions : ∀ c : ClientId,
    (b'.sessions[c]?).map (·.unlisted) = (b.sessions[c]?).map (·.unlisted)
  sheds : Sheds b b'
  journal : ∃ entries, b'.journal = b.journal ++ entries ∧ ∀ e ∈ entries, e.IsOfStop

/-- Where the journal stays, nothing was told. -/
theorem exists_isOfStop_of_journal_eq (h : b'.journal = b.journal) :
    ∃ entries, b'.journal = b.journal ++ entries ∧ ∀ e ∈ entries, e.IsOfStop :=
  ⟨[], h.trans (List.append_nil _).symm, List.forall_mem_nil _⟩

namespace OnlyUnsubscribes

theorem refl (b : Broker) : OnlyUnsubscribes b b :=
  ⟨rfl, fun _ => rfl, fun _ => rfl, fun _ _ _ hs => hs, exists_isOfStop_of_journal_eq rfl⟩

theorem trans (h : OnlyUnsubscribes b b') (h' : OnlyUnsubscribes b' b'') :
    OnlyUnsubscribes b b'' where
  hooks := h'.hooks.trans h.hooks
  limiters id := (h'.limiters id).trans (h.limiters id)
  sessions c := (h'.sessions c).trans (h.sessions c)
  sheds id n s hs := h.sheds id n s (h'.sheds id n s hs)
  journal := by
    obtain ⟨entries, hentries, hall⟩ := h.journal
    obtain ⟨more, hmore, hall'⟩ := h'.journal
    refine ⟨entries ++ more, by rw [hmore, hentries, List.append_assoc], fun e he => ?_⟩
    exact (List.mem_append.mp he).elim (hall e) (hall' e)

theorem announcements (h : OnlyUnsubscribes b b') : announcements b b' = [] := by
  obtain ⟨entries, hentries, hall⟩ := h.journal
  rw [Broker.announcements, entriesSince_of_eq_append hentries]
  refine List.filterMap_eq_nil_iff.mpr fun e he => ?_
  cases e with
  | change id change => exact (hall _ he).elim
  | _ => rfl

end OnlyUnsubscribes

theorem onlyUnsubscribes_of_journals (h : Journals Event.IsPrivate b b') :
    OnlyUnsubscribes b b' := by
  obtain ⟨entries, hentries, rfl⟩ := h
  exact ⟨rfl, fun _ => rfl, fun _ => rfl, fun _ _ _ hs => hs, entries, rfl,
    fun e he => (hentries e he).isOfStop⟩

theorem onlyUnsubscribes_onDestination (hd : b.destination? id = some d)
    {change : Destination → Destination} (hid : ∀ d, (change d).id = d.id)
    (hlimiter : ∀ d, (change d).limiter = d.limiter)
    (hthin : ∀ n s, (change d).registry.get? n = some s → d.registry.get? n = some s) :
    OnlyUnsubscribes b (b.onDestination id change) where
  hooks := rfl
  limiters := limiter?_onDestination_of_eq change hid hlimiter b id
  sessions _ := rfl
  sheds _ _ _ := registered?_of_onDestination hd hid hthin
  journal := exists_isOfStop_of_journal_eq rfl

theorem onlyUnsubscribes_strike (id : DestinationId) (s : Subscription) (b : Broker) :
    OnlyUnsubscribes b (b.strike id s) := by
  have halike := alike_strike id s b
  constructor
  case hooks => exact hooks_strike id s b
  case limiters =>
    intro id'
    rw [limiter?, destination?, destinations_strike]
    exact limiter?_onTotals _ b id id'
  case sessions => exact halike.sessions
  case sheds => exact fun id n s hs => halike.registered? id n ▸ hs
  case journal => exact exists_isOfStop_of_journal_eq halike.journal

theorem onlyUnsubscribes_notify (hsilent : Silent env b) (ctx : Context) (s : Subscription) :
    OnlyUnsubscribes b (notify ctx (.unsubscribed s .destinationStopped) b) := by
  rw [notify_of_silent (hsilent.handlers _)]
  refine ⟨rfl, fun _ => rfl, fun _ => rfl, fun _ _ _ hs => hs, _, rfl, fun e he => ?_⟩
  rcases List.mem_cons.mp he with rfl | hhook
  · exact ⟨s, rfl⟩
  · obtain ⟨h, -, rfl⟩ := List.mem_map.mp hhook
    trivial

/-- Where nothing waits to be told, a round of telling tells nothing. -/
theorem onlyUnsubscribes_announce (hrest : AtRest b) (ctx : Context) (id : DestinationId) :
    OnlyUnsubscribes b (announce ctx id b) := by
  cases hd : b.destination? id with
  | none =>
    rw [announce, hd]
    exact .refl b
  | some d =>
    obtain ⟨hrests, hnone⟩ := hrest id d hd
    let flag (on : Bool) (d : Destination) : Destination := { d with announcing := on }
    have hbegun : (b.onDestination id (flag true)).destination? id = some (flag true d) :=
      destination?_onDestination_self (flag true) (fun _ => rfl) hd
    have hflag (on : Bool) {b : Broker} {d : Destination} (hd : b.destination? id = some d) :
        OnlyUnsubscribes b (b.onDestination id (flag on)) :=
      onlyUnsubscribes_onDestination hd (fun _ => rfl) (fun _ => rfl) fun _ _ hs => hs
    rw [announce_of_idle hd hrests.idle,
      show (fun d => { d with announcing := true }) = flag true from rfl,
      tellChanges_of_pending_eq_nil hbegun (hnone not_false)]
    exact (hflag true hd).trans (hflag false hbegun)

theorem onlyUnsubscribes_detach (hctx : ctx.Within Calms) (hrest : AtRest b)
    (hsilent : Silent env b) (id : DestinationId) (s : Subscription) :
    OnlyUnsubscribes b (detach ctx id .destinationStopped b s) := by
  have hstrike := onlyUnsubscribes_strike id s b
  have hstruck : Silent env (b.strike id s) := hsilent.of_hooks_eq hstrike.hooks
  have htold : AtRest (notify ctx (.unsubscribed s .destinationStopped) (b.strike id s)) :=
    (hrest.calms (calms_of_alike (alike_strike id s b))).calms (lasting_calms.notify hctx trivial)
  rw [detach_eq]
  exact (hstrike.trans (onlyUnsubscribes_notify hstruck ctx s)).trans
    (onlyUnsubscribes_announce htold ctx id)

theorem onlyUnsubscribes_foldl_detach (hctx : ctx.Within Calms) (hrest : AtRest b)
    (hsilent : Silent env b) (id : DestinationId) (subs : List Subscription) :
    OnlyUnsubscribes b (subs.foldl (detach ctx id .destinationStopped) b) := by
  induction subs generalizing b with
  | nil => exact .refl b
  | cons s subs ih =>
    have hfirst := onlyUnsubscribes_detach hctx hrest hsilent id s
    exact hfirst.trans (ih (hrest.calms (lasting_calms.detach hctx id _ b s))
      (hsilent.of_hooks_eq hfirst.hooks))

theorem onlyUnsubscribes_stopDestination (env : Environment) (id : DestinationId) (b : Broker) :
    OnlyUnsubscribes b (stopDestination env id b).1 := by
  rcases stopDestination_cases env id b with hsame | ⟨d, hd, hstarted⟩
  · rw [hsame]
    exact .refl b
  · have hcleared : OnlyUnsubscribes b (b.onDestination id fun d' =>
        { d' with started := false, registry := d.registry.clear.1 }) := by
      apply onlyUnsubscribes_onDestination hd (by exact fun _ => rfl) (by exact fun _ => rfl)
      intro n s hs
      simp [Registry.clear, Registry.empty, Registry.get?] at hs
    exact hcleared.trans (onlyUnsubscribes_of_journals (stopDestination_eq env hd hstarted).1)

theorem onlyUnsubscribes_stopAndDetach (hctx : ctx.Within Calms) (hrest : AtRest b)
    (hsilent : Silent env b) (id : DestinationId) :
    OnlyUnsubscribes b (stopAndDetach ctx b id) := by
  have hstopped := onlyUnsubscribes_stopDestination ctx.env id b
  exact hstopped.trans (onlyUnsubscribes_foldl_detach hctx
    (hrest.calms (lasting_calms.stopDestination ctx.env id b))
    (hsilent.of_hooks_eq hstopped.hooks) id _)

/-- A node that stops does nothing else as long as nobody calls back. -/
theorem onlyUnsubscribes_stop (hrest : AtRest b) (hsilent : Silent env b) :
    OnlyUnsubscribes b (stop env b) := by
  have hctx := lasting_calms.context env b
  have hall (ids : List DestinationId) {b' : Broker} (hrest : AtRest b')
      (hsilent : Silent env b') :
      OnlyUnsubscribes b' (ids.foldl (stopAndDetach (b.context env)) b') := by
    induction ids generalizing b' with
    | nil => exact .refl b'
    | cons id ids ih =>
      have hfirst := onlyUnsubscribes_stopAndDetach hctx hrest hsilent id
      exact hfirst.trans (ih (hrest.calms (lasting_calms.stopAndDetach hctx b' id))
        (hsilent.of_hooks_eq hfirst.hooks))
  let unwatched : Broker := { b with sweeper := none }
  have hunwatched : OnlyUnsubscribes b unwatched :=
    ⟨rfl, fun _ => rfl, fun _ => rfl, fun _ _ _ hs => hs, exists_isOfStop_of_journal_eq rfl⟩
  have hlogged (b' : Broker) (level : LogLevel) (text : String) :
      OnlyUnsubscribes b' (b'.log level text) :=
    onlyUnsubscribes_of_journals (journals_record trivial b')
  have hstopped := hunwatched.trans
    (hall b.destinationIds hrest (hsilent.of_hooks_eq rfl : Silent env unwatched))
  exact hstopped.trans (hlogged _ _ _)

end Broker

end MessageBroker
