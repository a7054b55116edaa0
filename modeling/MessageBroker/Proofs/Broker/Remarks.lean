/-
# What is remarked

A broker is in tune when its books correspond to its chronicle and none of its handlers calls
back. Whatever it is asked to do leaves it in tune: each operation tells of the sessions that
begin and end and of the subscriptions that come and go, of all of them, once and in an order
that the rules of a chronicle allow.

The order is what needs care. A session may not end before the last notice about its
subscriptions, so it matters that they are cleaned up after one by one before it is erased. A
new subscription is told to the other nodes first and to the handlers second, and the books
have it all the while; so they correspond to a chronicle that is one notice ahead.

Stopping a single destination is the exception. It hands its subscriptions to the caller and
tells nobody, so they stay behind as strays.
-/

import MessageBroker.Proofs.Broker.AsideOperations
import MessageBroker.Proofs.Broker.Unremarked

open Std

namespace MessageBroker

/-- Calls back in a context keep the books in order, and the other nodes make none. -/
structure Context.IsDiscreet (ctx : Context) : Prop where
  keeps : ctx.Keeps
  silent : ctx.env.IsSilent

namespace Broker

/-- The books correspond to the chronicle, up to strays, and no handler calls back. -/
structure InTune (handed : List Subscription) (strays : Strays) (b : Broker) : Prop where
  corresponds : b.books.Corresponds handed b.chronicle strays
  hooks : b.hooks.AllSilent

theorem discreet_context {env : Environment} (henv : env.IsSilent) (b : Broker) :
    (b.context env).IsDiscreet :=
  ⟨keeps_context env b, henv⟩

namespace InTune

variable {handed handed' : List Subscription} {strays : Strays} {b b' : Broker} {ctx : Context}
  {env : Environment} {id : DestinationId} {s : Subscription} {c : ClientId} {n : Notice}

theorem accounted (h : InTune handed strays b) : b.books.Accounted strays := h.corresponds.accounted

theorem silent (h : InTune handed strays b) (henv : env.IsSilent) : Silent env b :=
  ⟨fun _ _ hh => h.hooks.round hh _, henv⟩

theorem mono (h : InTune handed strays b) (hsub : ∀ s ∈ handed, s ∈ handed') :
    InTune handed' strays b :=
  ⟨{ h.corresponds with lawful := h.corresponds.lawful.mono hsub }, h.hooks⟩

theorem unremarked (h : InTune handed strays b) (hb : Unremarked b b') :
    InTune handed strays b' := by
  refine ⟨?_, hb.hooks ▸ h.hooks⟩
  rw [hb.books, hb.chronicle]
  exact h.corresponds

/-- Going through a list keeps a broker in tune when each step does. -/
theorem foldl {σ α : Type} (broker : σ → Broker) {step : σ → α → σ}
    (hstep : ∀ w a, InTune handed strays (broker w) → InTune handed strays (broker (step w a)))
    (l : List α) (w : σ) (h : InTune handed strays (broker w)) :
    InTune handed strays (broker (l.foldl step w)) := by
  induction l generalizing w with
  | nil => exact h
  | cons a l ih => exact ih (step w a) (hstep w a h)

/-! ## Telling handlers and other nodes -/

/-- A broker whose books are one notice ahead of its chronicle is in tune once it has told. -/
theorem notify (h : b.books.Corresponds handed (b.chronicle ++ [n]) strays)
    (hhooks : b.hooks.AllSilent) (hctx : ctx.IsDiscreet) (hn : n.isReport = false) :
    InTune handed strays (notify ctx n b) := by
  have hsilent : Silent ctx.env b := ⟨fun _ _ hh => hhooks.round hh _, hctx.silent⟩
  have hremark : (Event.notice n).remark? = some n := if_neg (by rw [hn]; exact Bool.false_ne_true)
  refine ⟨?_, hooks_notify ctx hsilent n ▸ hhooks⟩
  rw [books_notify ctx hsilent, chronicle_notify ctx hsilent, hremark]
  exact h

end InTune

section Announcing

variable {handed : List Subscription} {l : Chronicle} {strays : Strays} {b : Broker}
  {ctx : Context} {id : DestinationId}

theorem chronicle_tellChange (hsilent : Silent ctx.env b) (id : DestinationId)
    (change : KeyChange) : (tellChange ctx id change b).chronicle = b.chronicle := by
  rw [tellChange]
  split
  · rfl
  next cluster hcluster =>
    have htold := (unremarked_record (e := .change id change) rfl b).chronicle
    rw [hsilent.cluster cluster hcluster]
    dsimp only
    split
    · exact htold
    · exact (unremarked_log _ _ _).chronicle.trans htold

theorem chronicle_tellChanges (hsilent : Silent ctx.env b) (id : DestinationId) (fuel : Nat) :
    (tellChanges ctx id fuel b).chronicle = b.chronicle := by
  induction fuel generalizing b with
  | zero => rfl
  | succ fuel ih =>
    rw [tellChanges]
    split
    · rfl
    next change _ =>
      have hpopped : Silent ctx.env
          (b.onDestination id fun d => { d with registry := d.registry.pop.1 }) :=
        hsilent.of_hooks_eq rfl
      have htold := (still_tellChange hpopped id change).silent hpopped
      exact (ih htold).trans (chronicle_tellChange hpopped id change)

/-- Telling the other nodes of keys has no place in the chronicle. -/
theorem chronicle_announce (hsilent : Silent ctx.env b) (id : DestinationId) :
    (announce ctx id b).chronicle = b.chronicle := by
  rw [announce]
  split
  · rfl
  · split
    · rfl
    · exact chronicle_tellChanges
        (b := b.onDestination id fun d => { d with announcing := true })
        (hsilent.of_hooks_eq rfl) id _

/-- Telling the other nodes of keys changes nothing that a chronicle tells of. -/
theorem corresponds_announce (h : b.books.Corresponds handed l strays) (hctx : ctx.IsDiscreet)
    (hsilent : Silent ctx.env b) (id : DestinationId) :
    (announce ctx id b).books.Corresponds handed l strays := by
  obtain ⟨haccounted, hshrinks⟩ := keeps_announce hctx.keeps id b strays h.accounted
  have hstill := still_announce hsilent id
  apply h.change haccounted
  case hsessions =>
    intro c
    rw [mem_books_sessions, mem_books_sessions, hstill.sessions]
  case hrecord =>
    refine fun s => or_congr_left (exists_congr fun id' => ?_)
    rw [holds_iff_registered? haccounted, holds_iff_registered? h.accounted, hstill.registered]
  case hnext => exact hshrinks.next
  case hdistinct => exact h.distinct

theorem InTune.announce (h : InTune handed strays b) (hctx : ctx.IsDiscreet)
    (id : DestinationId) : InTune handed strays (announce ctx id b) := by
  have hsilent := h.silent hctx.silent
  refine ⟨?_, (still_announce hsilent id).hooks ▸ h.hooks⟩
  rw [chronicle_announce hsilent]
  exact corresponds_announce h.corresponds hctx hsilent id

end Announcing

namespace InTune

variable {handed : List Subscription} {strays : Strays} {b b' : Broker} {ctx : Context}
  {env : Environment} {id : DestinationId} {s : Subscription} {c : ClientId}
  {take : Registry → Registry × List Removed}

/-! ## Ending subscriptions -/

/-- Taking subscriptions out of a registry leaves them as strays. -/
theorem takeOut (h : InTune handed strays b)
    (htake : ∀ r : Registry, r.Sound →
      r.Thins ((take r).2.map (·.subscription)) (take r).1) (id : DestinationId) :
    InTune handed (((takeOut id take b).2.map (·.subscription)).map (fun s => (id, s)) ++ strays)
      (takeOut id take b).1 := by
  rw [Broker.takeOut]
  cases hd : b.destination? id with
  | none => exact h
  | some d =>
    obtain ⟨hmem, hid⟩ := mem_of_destination? hd
    have hshelf : d.shelf ∈ b.books.shelves := List.mem_map_of_mem hmem
    have hthins : ∀ sh ∈ b.books.shelves, sh.id = id →
        sh.registry.Thins ((take d.registry).2.map (·.subscription)) (take d.registry).1 :=
      h.accounted.of_shelf hshelf hid (htake d.registry (h.accounted.sound d.shelf hshelf))
    refine ⟨?_, h.hooks⟩
    dsimp only
    rw [books_onDestination_registry fun _ => (take d.registry).1]
    exact h.corresponds.reshelve _ ⟨d.shelf, hshelf, hid⟩ hthins

/-- Cleaning up after a stray tells that it has gone. -/
theorem detach (h : InTune handed ((id, s) :: strays) b) (hctx : ctx.IsDiscreet)
    (reason : UnsubscribeReason) : InTune handed strays (detach ctx id reason b s) := by
  have hstruck : (b.strike id s).books.Corresponds handed
      ((b.strike id s).chronicle ++ [.unsubscribed s reason]) strays := by
    rw [books_strike, chronicle, (alike_strike id s b).journal]
    exact h.corresponds.strike reason
  have hhooks : (b.strike id s).hooks.AllSilent := (aside_strike id s b).hooks ▸ h.hooks
  rw [detach_eq]
  exact (InTune.notify hstruck hhooks hctx rfl).announce hctx id

theorem foldl_detach (hctx : ctx.IsDiscreet) (reason : UnsubscribeReason)
    (subs : List Subscription) {b : Broker}
    (h : InTune handed (subs.map (fun s => (id, s)) ++ strays) b) :
    InTune handed strays (subs.foldl (Broker.detach ctx id reason) b) := by
  induction subs generalizing b with
  | nil => exact h
  | cons s subs ih => exact ih (h.detach hctx reason)

/-- Subscriptions that are taken out and cleaned up after are told of. -/
theorem remove (h : InTune handed strays b) (hctx : ctx.IsDiscreet)
    (htake : ∀ r : Registry, r.Sound →
      r.Thins ((take r).2.map (·.subscription)) (take r).1)
    (id : DestinationId) (reason : UnsubscribeReason) :
    InTune handed strays (((Broker.takeOut id take b).2.map (·.subscription)).foldl
      (Broker.detach ctx id reason) (Broker.takeOut id take b).1) :=
  foldl_detach hctx reason _ (h.takeOut htake id)

theorem unsubscribeClient (h : InTune handed strays b) (hctx : ctx.IsDiscreet) (c : ClientId)
    (reason : UnsubscribeReason) : InTune handed strays (unsubscribeClient ctx c reason b).1 :=
  foldl Prod.fst
    (fun _ id hw => hw.remove hctx (fun _ h => h.thins_removeClient c) id reason)
    b.destinationIds (b, 0) h

theorem unsubscribeIn (h : InTune handed strays b) (hctx : ctx.IsDiscreet) (i : SubscriptionId) :
    InTune handed strays (unsubscribeIn ctx i b).1 := by
  cases howner : b.owners[i]? with
  | none =>
    rw [Broker.unsubscribeIn]
    rw [howner]
    exact h
  | some owner =>
    rw [unsubscribeIn_of_some howner]
    have htaken := h.takeOut (thins_takeOne i) owner
    have hdisowned := (carries_disown howner strays h.accounted).1
    refine foldl_detach hctx .client _ ⟨?_, htaken.hooks⟩
    exact htaken.corresponds.change hdisowned (fun _ => Iff.rfl) (fun _ => Iff.rfl) rfl
      htaken.corresponds.distinct

/-! ## Beginning and ending sessions -/

theorem connectIn (h : InTune handed strays b) (hctx : ctx.IsDiscreet) (c : ClientId) :
    InTune handed strays (connectIn ctx c b).1 := by
  rw [Broker.connectIn]
  split
  · exact h
  next hnone =>
    let b₁ : Broker :=
      { b with
        sessions := b.sessions.insert c (Session.begin ctx.env.now)
        sessionGauge := b.sessionGauge.inc }
    have hnone' : b.books.sessions[c]? = none := by rw [getElem?_books_sessions, hnone]; rfl
    have hbegun : b₁.books.Corresponds handed (b₁.chronicle ++ [.sessionCreated c]) strays := by
      rw [books_beginSession c (Session.begin ctx.env.now) rfl]
      exact h.corresponds.openSession hnone'
    exact InTune.notify (b := b₁) hbegun h.hooks hctx rfl

theorem terminate (h : InTune handed strays b) (hctx : ctx.IsDiscreet)
    (hstrays : ∀ stray ∈ strays, stray.2 ∈ handed) (c : ClientId) (onlyIfEmpty : Bool)
    (hnone : onlyIfEmpty = false → ∀ {id s}, b.books.Holds id s → s.client ≠ c) :
    InTune handed strays (terminate ctx c onlyIfEmpty b) := by
  rw [Broker.terminate]
  split
  · split
    · exact h
    · exact h.unremarked (unremarked_dropCounters c b)
  next session hsession =>
    split
    · exact h
    next hends =>
      have hnot {id : DestinationId} {s : Subscription} (hs : b.books.Holds id s) :
          s.client ≠ c :=
        holds_none_of_ends h.accounted hsession hends hnone hs
      have hlive : c ∈ b.sessions :=
        ExtTreeMap.mem_iff_isSome_getElem?.mpr (Option.isSome_of_eq_some hsession)
      have hmem : c ∈ b.books.sessions := mem_books_sessions.mpr hlive
      let b₁ : Broker :=
        { b with sessions := b.sessions.erase c, sessionGauge := b.sessionGauge.dec }
      have hended : (dropCounters c b₁).books.Corresponds handed
          ((dropCounters c b₁).chronicle ++ [.sessionTerminated c]) strays := by
        rw [books_endSession]
        exact h.corresponds.closeSession hmem hnot hstrays
      exact InTune.notify (b := dropCounters c b₁) hended h.hooks hctx rfl

/-- Ending a session only if it is empty needs nothing to be known of its subscriptions. -/
theorem terminate_onlyIfEmpty (h : InTune handed strays b) (hctx : ctx.IsDiscreet)
    (hstrays : ∀ stray ∈ strays, stray.2 ∈ handed) (c : ClientId) :
    InTune handed strays (Broker.terminate ctx c true b) :=
  h.terminate hctx hstrays c true fun hsame => Bool.noConfusion hsame

theorem disconnectIn (h : InTune handed strays b) (hctx : ctx.IsDiscreet)
    (hstrays : ∀ stray ∈ strays, stray.2 ∈ handed) (c : ClientId) :
    InTune handed strays (disconnectIn ctx c b).1 :=
  (h.unsubscribeClient hctx c .disconnect).terminate hctx hstrays c false fun _ _ _ hs =>
    client_ne_of_unsubscribeClient hctx.keeps c .disconnect h.accounted hs

theorem unsubscribeAllIn (h : InTune handed strays b) (hctx : ctx.IsDiscreet)
    (hstrays : ∀ stray ∈ strays, stray.2 ∈ handed) (c : ClientId) :
    InTune handed strays (unsubscribeAllIn ctx c b).1 :=
  (h.unsubscribeClient hctx c .client).terminate_onlyIfEmpty hctx hstrays c

theorem login (h : InTune handed strays b) (henv : env.IsSilent) (c : ClientId)
    (p : Principal) : InTune handed strays (login env c p b).1 := by
  have hconnected := h.connectIn (discreet_context henv b) c
  have hlogged := hconnected.unremarked
    (unremarked_onSession (fun s => { s with principal := some p }.touch env.now)
      (fun _ => rfl) _ c)
  rw [Broker.login]
  dsimp only
  split
  · exact hconnected
  · split
    · split
      · exact hconnected
      · exact hlogged
    · exact hlogged

/-! ## Subscribing -/

theorem enterAndTell (h : InTune handed strays b) (hctx : ctx.IsDiscreet)
    (hnumber : s.id = b.nextSubscription) (hlive : b.sessions.contains s.client = true)
    (hchecked : ∃ sh ∈ b.books.shelves, sh.id = s.destination ∧ sh.started = true ∧
      s.ReadWith sh.separator) :
    InTune handed strays
      (enterAndTell ctx s { b with nextSubscription := b.nextSubscription + 1 }).1 := by
  obtain ⟨sh, hsh, hid, hstarted, hread⟩ := hchecked
  obtain ⟨d, hd, rfl⟩ := exists_destination?_of_shelf h.accounted hsh
  rw [hid] at hd
  let b₀ : Broker := { b with nextSubscription := b.nextSubscription + 1 }
  have hd₀ : b₀.destination? s.destination = some d := hd
  show InTune handed strays (Broker.enterAndTell ctx s b₀).1
  rw [Broker.enterAndTell]
  cases hfind : (d.registry.ofClient s.client).find? s.sameFilter with
  | some old =>
    rw [enter_of_existing hd₀ hfind]
    exact ⟨h.corresponds.takeNumber, h.hooks⟩
  | none =>
    obtain ⟨hnew, hregistered, hhooks, hsessions⟩ := registered?_enter hd₀ hfind
    have hbooks : (enter s b₀).1.books = _ := books_enter h.accounted hd hfind
    have hchronicle : (enter s b₀).1.chronicle = b.chronicle :=
      congrArg (List.filterMap Event.remark?) (journal_enter s b₀)
    dsimp only
    rw [hnew, if_neg Bool.false_ne_true]
    generalize (enter s b₀).1 = b₁ at hregistered hhooks hsessions hbooks hchronicle ⊢
    have hhooks₁ : b₁.hooks.AllSilent := hhooks ▸ h.hooks
    have hsilent : Silent ctx.env b₁ := ⟨fun _ _ hh => hhooks₁.round hh _, hctx.silent⟩
    have hlive₀ : s.client ∈ b.books.sessions :=
      mem_books_sessions.mpr (ExtTreeMap.mem_iff_contains.mpr hlive)
    -- The books are one notice ahead until the other nodes were told.
    have hentered : b₁.books.Corresponds handed (b.chronicle ++ [.subscribed s]) strays := by
      rw [hbooks]
      exact h.corresponds.enter hsh hid hstarted rfl hnumber hread hfind hlive₀
    have hannounced := corresponds_announce hentered hctx hsilent s.destination
    have hstill := still_announce hsilent s.destination
    rw [(introduce_of_silent hsilent (hsessions.trans hlive) hregistered).1]
    refine InTune.notify ?_ (hstill.hooks ▸ hhooks₁) hctx rfl
    rw [chronicle_announce hsilent, hchronicle]
    exact hannounced

theorem subscribe (h : InTune handed strays b) (henv : env.IsSilent) (r : SubscribeRequest) :
    InTune handed strays (subscribe env r b).1 := by
  have hasked := h.unremarked (unremarked_onlyAsked (checkRequest_cases env r b).1)
  obtain ⟨hbooks, hrequest⟩ := checkRequest_spec env r b
  generalize hcheck : checkRequest env r b = checked at hasked hbooks hrequest
  obtain ⟨b₁, answer⟩ := checked
  cases answer with
  | error e =>
    rw [subscribe_of_error hcheck]
    exact hasked
  | ok filter =>
    obtain ⟨sh, hsh, hid, hstarted, hfilter⟩ := hrequest filter rfl
    rw [subscribe_of_ok hcheck]
    rw [← hbooks] at hsh
    dsimp only at hasked hsh
    have hctx := discreet_context henv b₁
    obtain ⟨hdestinations, -, hlive⟩ :=
      connectIn_of_silent (b₁.context env) r.client (hasked.silent henv)
    have hconnected := (hasked.connectIn hctx r.client).unremarked
      (unremarked_touch _ r.client env.now)
    have htouched : ((Broker.connectIn (b₁.context env) r.client b₁).1.touch r.client
        env.now).sessions.contains r.client = true := (contains_onSession r.client).trans hlive
    have hshelves : ((Broker.connectIn (b₁.context env) r.client b₁).1.touch r.client
        env.now).books.shelves = b₁.books.shelves := by
      rw [books_touch, books, books, hdestinations]
    dsimp only
    generalize (Broker.connectIn (b₁.context env) r.client b₁).1.touch r.client env.now = b₂
      at hconnected htouched hshelves ⊢
    rw [← hshelves] at hsh
    exact hconnected.enterAndTell (s := requested env r filter b₂.nextSubscription) hctx rfl
      htouched ⟨sh, hsh, hid, hstarted, hfilter⟩

/-! ## Sweeping -/

theorem sweepOne {w : Sweeping} (h : InTune handed strays w.broker) (hctx : ctx.IsDiscreet)
    (id : DestinationId) (timeout : Int) (now : Timestamp) (s : Subscription) :
    InTune handed strays (sweepOne ctx id timeout now w s).broker := by
  have hswept := h.remove hctx (thins_takeOne s.id) id .idleTimeout
  rw [Broker.sweepOne]
  split
  · exact h
  · split
    · exact h
    next b removed _ heq =>
      have htaken : Broker.takeOut id (takeOne s.id) w.broker = (b, removed) := heq
      rw [htaken] at hswept
      exact hswept

theorem sweepDestination {w : Sweeping} (h : InTune handed strays w.broker)
    (hctx : ctx.IsDiscreet) (now : Timestamp) (id : DestinationId) :
    InTune handed strays (sweepDestination ctx now w id).broker := by
  rw [Broker.sweepDestination]
  split
  · exact h
  · split
    · exact h
    · exact foldl Sweeping.broker (fun _ s hw => hw.sweepOne hctx id _ now s) _ w h

theorem sweepAt (h : InTune handed strays b) (henv : env.IsSilent)
    (hstrays : ∀ stray ∈ strays, stray.2 ∈ handed) (now : Timestamp) :
    InTune handed strays (sweepAt env now b).1 := by
  have hctx := discreet_context henv b
  rw [Broker.sweepAt]
  generalize b.context env = ctx at hctx ⊢
  have hswept := foldl Sweeping.broker (fun _ id hw => hw.sweepDestination hctx now id)
    b.destinationIds ⟨b, 0, ∅⟩ h
  generalize b.destinationIds.foldl (Broker.sweepDestination ctx now) ⟨b, 0, ∅⟩ = w at hswept ⊢
  have hended := foldl (fun b => b) (fun _ c hb => hb.terminate_onlyIfEmpty hctx hstrays c)
    w.clients.toList w.broker hswept
  split
  · exact hended.unremarked (unremarked_log _ _ _)
  · exact hended

theorem tick (h : InTune handed strays b) (henv : env.IsSilent)
    (hstrays : ∀ stray ∈ strays, stray.2 ∈ handed) (ms : Nat) :
    InTune handed strays (tick env ms b) := by
  rw [Broker.tick]
  split
  · exact h
  · split
    · exact (h.sweepAt henv hstrays env.now).unremarked ⟨rfl, rfl, rfl⟩
    · exact h.unremarked ⟨rfl, rfl, rfl⟩

/-! ## Starting and stopping -/

theorem startDestination (h : InTune handed strays b) (env : Environment) (id : DestinationId) :
    InTune handed strays (startDestination env id b).1 := by
  rw [Broker.startDestination]
  split
  · exact h
  next d _ =>
    have hcalled := h.unremarked (unremarked_callAdapter env d.adapter true id b)
    split
    · exact h
    · generalize callAdapter env d.adapter true id b = called at hcalled ⊢
      obtain ⟨b₁, answer⟩ := called
      cases answer with
      | error fault => exact hcalled
      | ok _ =>
        have hstarted : InTune handed strays
            (b₁.onDestination id fun d => { d with started := true }) := by
          refine ⟨?_, hcalled.hooks⟩
          rw [books_onDestination_started]
          exact hcalled.corresponds.setStarted fun hsame => Bool.noConfusion hsame
        exact hstarted.unremarked (unremarked_log _ _ _)

theorem startAll (h : InTune handed strays b) (env : Environment) (ids : List DestinationId) :
    InTune handed strays (startAll env ids b).1 := by
  induction ids generalizing b with
  | nil => exact h
  | cons id ids ih =>
    have hstarted := h.startDestination env id
    rw [Broker.startAll]
    generalize Broker.startDestination env id b = started at hstarted ⊢
    obtain ⟨b₁, answer⟩ := started
    cases answer with
    | error e => exact hstarted
    | ok _ => exact ih hstarted

theorem start (h : InTune handed strays b) (env : Environment) :
    InTune handed strays (start env b).1 := by
  have hall := h.startAll env b.destinationIds
  rw [Broker.start]
  generalize Broker.startAll env b.destinationIds b = started at hall ⊢
  obtain ⟨b₁, answer⟩ := started
  cases answer with
  | error e => exact hall
  | ok _ =>
    have htimed : InTune handed strays { b₁ with sweeper := some (b₁.sweeper.getD 0) } :=
      hall.unremarked ⟨rfl, rfl, rfl⟩
    exact htimed.unremarked (unremarked_log _ _ _)

end InTune

section Stopping

variable {handed : List Subscription} {strays : Strays} {b : Broker} {ctx : Context}
  {env : Environment}

/-- Stopping a single destination tells nobody. -/
theorem chronicle_stopDestination (env : Environment) (id : DestinationId) (b : Broker) :
    (stopDestination env id b).1.chronicle = b.chronicle := by
  rw [stopDestination]
  split
  · rfl
  next d _ =>
    split
    · rfl
    · have hcalled := (unremarked_callAdapter env d.adapter false id (b.onDestination id fun d' =>
        { d' with started := false, registry := d.registry.clear.1 })).chronicle
      dsimp only
      generalize callAdapter env d.adapter false id _ = called at hcalled ⊢
      split
      · exact (unremarked_log _ _ _).chronicle.trans hcalled
      · exact ((unremarked_log _ _ _).trans (unremarked_log _ _ _)).chronicle.trans hcalled

/-- Stopping a destination leaves what it held as strays. -/
theorem InTune.stopDestination (h : InTune handed strays b) (env : Environment)
    (id : DestinationId) :
    InTune handed ((stopDestination env id b).2.map (fun s => (id, s)) ++ strays)
      (stopDestination env id b).1 := by
  rcases stopDestination_cases env id b with hsame | ⟨d, hd, hstarted⟩
  · rw [hsame]
    exact h
  · obtain ⟨hmem, hid⟩ := mem_of_destination? hd
    obtain ⟨hdetached, hbooks⟩ := stopDestination_of_started env hd hstarted
    have hsh : d.shelf ∈ b.books.shelves := List.mem_map_of_mem hmem
    refine ⟨?_, (aside_stopDestination env id b).hooks ▸ h.hooks⟩
    rw [hdetached, hbooks, chronicle_stopDestination]
    have hthins : ∀ sh ∈ b.books.shelves, sh.id = id →
        sh.registry.Thins d.registry.toList d.registry.clear.1 :=
      h.accounted.of_shelf hsh hid (h.accounted.sound d.shelf hsh).thins_clear
    exact (h.corresponds.reshelve _ ⟨d.shelf, hsh, hid⟩ hthins).setStarted
      fun _ => size_reshelve_clear

/-- Stopping a destination and cleaning up after its subscriptions tells of them all. -/
theorem InTune.stopAndDetach (h : InTune handed strays b) (hctx : ctx.IsDiscreet)
    (id : DestinationId) : InTune handed strays (stopAndDetach ctx b id) :=
  InTune.foldl_detach hctx .destinationStopped _ (h.stopDestination ctx.env id)

theorem InTune.stop (h : InTune handed strays b) (henv : env.IsSilent) :
    InTune handed strays (stop env b) := by
  have hctx := discreet_context henv b
  have hidle : InTune handed strays { b with sweeper := none } := h.unremarked ⟨rfl, rfl, rfl⟩
  have hall := InTune.foldl (fun b => b) (fun _ id hb => hb.stopAndDetach hctx id)
    b.destinationIds { b with sweeper := none } hidle
  exact hall.unremarked (unremarked_log _ _ _)

end Stopping

end Broker

end MessageBroker
