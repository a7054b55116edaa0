/-
# Requests to subscribe

A request to subscribe is refused for reasons that can be told from the request, the
destination and the client's session, and a refusal leaves nothing behind. When nobody who is
told of the new subscription calls back, these are the only reasons: a request that passes
its checks ends with a subscription that does what was asked for.
-/

import MessageBroker.Proofs.Broker.Gate
import MessageBroker.Proofs.Broker.Silence

open Std

namespace MessageBroker

namespace Broker

variable {env : Environment} {b b' : Broker} {r : SubscribeRequest} {d : Destination}
  {principal : Option Principal} {filter : Option Subtopic} {ctx : Context} {s : Subscription}
  {c : ClientId} {change : Session → Session}

/-- Why a request to subscribe is refused. -/
inductive Refusal (env : Environment) (b : Broker) (r : SubscribeRequest) : Prop
  | unknown (h : b.destination? r.destination = none)
  | idle {d : Destination} (hd : b.destination? r.destination = some d) (h : d.started = false)
  | unsatisfied {d : Destination} (hd : b.destination? r.destination = some d)
      (h : ¬Satisfied env .subscribe d (b.principal? r.client))
  | disallowed {d : Destination} {text : String} (hd : b.destination? r.destination = some d)
      (htext : r.subtopic = some text) (hgiven : text ≠ "")
      (h : d.settings.allowSubtopics = false)
  | malformed {d : Destination} {text : String} {error : Subtopic.Error}
      (hd : b.destination? r.destination = some d) (htext : r.subtopic = some text)
      (hgiven : text ≠ "") (h : Subtopic.parse text d.settings.separator = .error error)
  | wildcard {d : Destination} {text : String} {t : Subtopic}
      (hd : b.destination? r.destination = some d) (htext : r.subtopic = some text)
      (hgiven : text ≠ "") (hread : Subtopic.parse text d.settings.separator = .ok t)
      (h : t.hasWildcard = true) (hforbidden : d.settings.disallowWildcards = true)
  | vetoed {d : Destination} {text : String} {t : Subtopic}
      (hd : b.destination? r.destination = some d) (htext : r.subtopic = some text)
      (hgiven : text ≠ "") (hread : Subtopic.parse text d.settings.separator = .ok t)
      (h : env.authorizer.permits .subscribe d.id t (b.principal? r.client) = false)
  | unevaluated {text : String} (htext : r.selector = some text)
      (hgiven : Text.isBlankText text = false) (h : env.evaluator = none)

/-! ## Checking a request -/

/-- A text can be asked for as a filter: it may be used as one and is not vetoed. -/
structure Usable (env : Environment) (d : Destination) (principal : Option Principal)
    (text : String) (t : Subtopic) : Prop where
  allowed : d.settings.allowSubtopics = true
  read : Subtopic.parse text d.settings.separator = .ok t
  admitted : ¬(t.hasWildcard = true ∧ d.settings.disallowWildcards = true)
  permitted : env.authorizer.permits .subscribe d.id t principal = true

theorem parseFilter_of_allowed {text : String} (h : d.settings.allowSubtopics = true) :
    d.parseFilter text =
      match Subtopic.parse text d.settings.separator with
      | .error e => .error (.subtopic e)
      | .ok t =>
        if t.hasWildcard && d.settings.disallowWildcards then
          .error (.wildcardDisallowed d.id t.value)
        else .ok t := by
  rw [Destination.parseFilter]
  rw [h]
  cases Subtopic.parse text d.settings.separator with
  | error e => rfl
  | ok t => cases t.hasWildcard && d.settings.disallowWildcards <;> rfl

theorem parseFilter_of_not_allowed {text : String} (h : d.settings.allowSubtopics = false) :
    d.parseFilter text = .error (.filterDisallowed d.id text) := by
  rw [Destination.parseFilter]
  rw [h]
  rfl

/-- The filter of a request is read, or there is a reason to refuse it. -/
theorem checkFilter_some_cases (env : Environment) (d : Destination)
    (principal : Option Principal) (text : String) :
    (∃ t, checkFilter env d principal (some text) = .ok (some t) ∧
        Usable env d principal text t) ∨
      ∃ e, checkFilter env d principal (some text) = .error e ∧
        ∀ t, ¬Usable env d principal text t := by
  have hcheck : checkFilter env d principal (some text) = do
      let t ← d.parseFilter text
      authorizeSubtopic env .subscribe d principal t
      return some t := rfl
  rw [hcheck]
  cases hallowed : d.settings.allowSubtopics with
  | false =>
    rw [parseFilter_of_not_allowed hallowed]
    exact .inr ⟨_, rfl, fun t h => Bool.false_ne_true (hallowed.symm.trans h.allowed)⟩
  | true =>
    rw [parseFilter_of_allowed hallowed]
    cases hread : Subtopic.parse text d.settings.separator with
    | error e => exact .inr ⟨_, rfl, fun t h => nomatch hread.symm.trans h.read⟩
    | ok t =>
      have hsame {t' : Subtopic} (h : Usable env d principal text t') : t' = t :=
        Except.ok.inj (h.read.symm.trans hread)
      dsimp only
      split
      next hwild =>
        refine .inr ⟨_, rfl, fun t' h => h.admitted ?_⟩
        rw [hsame h]
        simpa using hwild
      next hplain =>
        show (∃ t', (authorizeSubtopic env .subscribe d principal t >>= fun _ => .ok (some t)) = _ ∧
          _) ∨ ∃ e, (authorizeSubtopic env .subscribe d principal t >>= fun _ => _) = _ ∧ _
        rw [authorizeSubtopic]
        split
        next hpermitted =>
          exact .inl ⟨t, rfl, hallowed, hread, by simpa using hplain, hpermitted⟩
        next hvetoed => exact .inr ⟨_, rfl, fun t' h => hvetoed (hsame h ▸ h.permitted)⟩

theorem filter_eq_some_of_givenSubtopic {text : String} (h : r.givenSubtopic = some text) :
    r.subtopic = some text ∧ text ≠ "" := by
  obtain ⟨htext, hgiven⟩ := Option.filter_eq_some_iff.mp h
  exact ⟨htext, of_decide_eq_true hgiven⟩

/-- A text that cannot be used as a filter is a reason to refuse the request. -/
theorem refusal_of_not_usable {text : String} (hd : b.destination? r.destination = some d)
    (hgiven : r.givenSubtopic = some text)
    (h : ∀ t, ¬Usable env d (b.principal? r.client) text t) : Refusal env b r := by
  obtain ⟨htext, hne⟩ := filter_eq_some_of_givenSubtopic hgiven
  cases hallowed : d.settings.allowSubtopics with
  | false => exact .disallowed hd htext hne hallowed
  | true =>
    cases hread : Subtopic.parse text d.settings.separator with
    | error e => exact .malformed hd htext hne hread
    | ok t =>
      by_cases hwild : t.hasWildcard = true ∧ d.settings.disallowWildcards = true
      · exact .wildcard hd htext hne hread hwild.1 hwild.2
      · cases hpermitted : env.authorizer.permits .subscribe d.id t (b.principal? r.client) with
        | false => exact .vetoed hd htext hne hread hpermitted
        | true => exact absurd ⟨hallowed, hread, hwild, hpermitted⟩ (h t)

/-- The filter of a request whose subtopic, if it gives one, is usable. -/
theorem checkFilter_cases (env : Environment) (hd : b.destination? r.destination = some d) :
    (∃ e, checkFilter env d (b.principal? r.client) r.givenSubtopic = .error e ∧
        Refusal env b r) ∨
      ∃ filter, checkFilter env d (b.principal? r.client) r.givenSubtopic = .ok filter ∧
        filter.map (·.value) = r.givenSubtopic ∧
        ∀ text, r.givenSubtopic = some text →
          ∃ t, Usable env d (b.principal? r.client) text t := by
  cases hgiven : r.givenSubtopic with
  | none => exact .inr ⟨none, rfl, rfl, nofun⟩
  | some text =>
    rcases checkFilter_some_cases env d (b.principal? r.client) text with
      ⟨t, hcheck, husable⟩ | ⟨e, hcheck, hnot⟩
    · refine .inr ⟨some t, hcheck, ?_, ?_⟩
      · rw [Option.map_some, (Subtopic.value_separator_of_parse husable.read).1]
      · intro text' h
        cases h
        exact ⟨t, husable⟩
    · exact .inl ⟨e, hcheck, refusal_of_not_usable hd hgiven hnot⟩

/-- Where all conditions hold, there is no reason to refuse a request. -/
theorem not_refusal (hd : b.destination? r.destination = some d) (hstarted : d.started = true)
    (hsatisfied : Satisfied env .subscribe d (b.principal? r.client))
    (husable : ∀ text, r.givenSubtopic = some text →
      ∃ t, Usable env d (b.principal? r.client) text t)
    (hevaluator : r.givenSelector.isSome = true → env.evaluator ≠ none) : ¬Refusal env b r := by
  have hsame {d' : Destination} (hd' : b.destination? r.destination = some d') : d' = d :=
    Option.some.inj (hd'.symm.trans hd)
  have hgiven {text : String} (htext : r.subtopic = some text) (hne : text ≠ "") :
      ∃ t, Usable env d (b.principal? r.client) text t :=
    husable text (Option.filter_eq_some_iff.mpr ⟨htext, decide_eq_true hne⟩)
  intro h
  cases h with
  | unknown h => exact nomatch hd.symm.trans h
  | idle hd' h =>
    rw [hsame hd', hstarted] at h
    cases h
  | unsatisfied hd' h => exact h (hsame hd' ▸ hsatisfied)
  | disallowed hd' htext hne h =>
    obtain ⟨t, ht⟩ := hgiven htext hne
    rw [hsame hd', ht.allowed] at h
    cases h
  | malformed hd' htext hne h =>
    obtain ⟨t, ht⟩ := hgiven htext hne
    rw [hsame hd', ht.read] at h
    cases h
  | wildcard hd' htext hne hread h hforbidden =>
    obtain ⟨t, ht⟩ := hgiven htext hne
    rw [hsame hd'] at hread hforbidden
    have htt := Except.ok.inj (ht.read.symm.trans hread)
    exact ht.admitted ⟨htt ▸ h, hforbidden⟩
  | vetoed hd' htext hne hread h =>
    obtain ⟨t, ht⟩ := hgiven htext hne
    rw [hsame hd'] at hread h
    rw [← Except.ok.inj (ht.read.symm.trans hread), ht.permitted] at h
    cases h
  | unevaluated htext hblank h =>
    refine hevaluator ?_ h
    rw [SubscribeRequest.givenSelector, htext, Option.filter_some_pos (by rw [hblank]; rfl)]
    rfl

/-- A request is refused, for one of the reasons, or none of them holds and its filter is the
one that it asks for. -/
theorem checkRequest_cases (env : Environment) (r : SubscribeRequest) (b : Broker) :
    OnlyAsked b (checkRequest env r b).1 ∧
      ((∃ e, (checkRequest env r b).2 = .error e ∧ Refusal env b r) ∨
        ∃ filter, (checkRequest env r b).2 = .ok filter ∧ ¬Refusal env b r ∧
          filter.map (·.value) = r.givenSubtopic) := by
  rw [checkRequest]
  cases hd : b.destination? r.destination with
  | none =>
    rw [requireStarted_of_none hd]
    exact ⟨.refl b, .inl ⟨_, rfl, .unknown hd⟩⟩
  | some d =>
    rw [requireStarted_of_some hd]
    cases hstarted : d.started with
    | false =>
      rw [if_neg Bool.false_ne_true]
      exact ⟨.refl b, .inl ⟨_, rfl, .idle hd hstarted⟩⟩
    | true =>
      rw [if_pos rfl]
      dsimp only
      obtain ⟨hasked, hauthorized⟩ :=
        authorize_spec env .subscribe d (b.principal? r.client) b
      split
      next b₁ e heq =>
        rw [heq] at hasked hauthorized
        exact ⟨hasked, .inl ⟨e, rfl, .unsatisfied hd fun h => nomatch hauthorized.mpr h⟩⟩
      next b₁ heq =>
        rw [heq] at hasked hauthorized
        have hsatisfied := hauthorized.mp rfl
        rcases checkFilter_cases env hd with
          ⟨e, hcheck, hrefusal⟩ | ⟨filter, hcheck, hvalue, husable⟩
        · rw [hcheck]
          exact ⟨hasked, .inl ⟨e, rfl, hrefusal⟩⟩
        · rw [hcheck]
          dsimp only
          split
          next hmissing =>
            rw [Bool.and_eq_true, Option.isNone_iff_eq_none] at hmissing
            obtain ⟨text, htext⟩ := Option.isSome_iff_exists.mp hmissing.1
            obtain ⟨hselector, hblank⟩ := Option.filter_eq_some_iff.mp htext
            rw [Bool.not_eq_true'] at hblank
            exact ⟨hasked, .inl ⟨_, rfl, .unevaluated hselector hblank hmissing.2⟩⟩
          next hpresent =>
            refine ⟨hasked, .inr ⟨filter, rfl, ?_, hvalue⟩⟩
            refine not_refusal hd hstarted hsatisfied husable fun hgiven hnone => hpresent ?_
            rw [hgiven, hnone]
            rfl

/-! ## Entering and introducing a subscription -/

theorem registered?_onSession (id : DestinationId) (n : SubscriptionId) :
    (b.onSession c change).registered? id n = b.registered? id n := by
  rw [onSession]
  split <;> rfl

@[simp] theorem destinations_onSession : (b.onSession c change).destinations = b.destinations := by
  rw [onSession]
  split <;> rfl

@[simp] theorem hooks_onSession : (b.onSession c change).hooks = b.hooks := by
  rw [onSession]
  split <;> rfl

theorem contains_onSession (c' : ClientId) :
    (b.onSession c change).sessions.contains c' = b.sessions.contains c' := by
  rw [onSession]
  split
  · rfl
  next session hsession =>
    show (b.sessions.insert c (change session)).contains c' = _
    rw [ExtTreeMap.contains_eq_isSome_getElem?, ExtTreeMap.contains_eq_isSome_getElem?,
      Maps.getElem?_insert_ite]
    split
    next heq => rw [← heq, hsession]; rfl
    next => rfl

/-- A client has a session once it has connected, and its destinations stay as they are. -/
theorem connectIn_of_silent (ctx : Context) (c : ClientId) (hsilent : Silent env b) :
    (connectIn ctx c b).1.destinations = b.destinations ∧
      (connectIn ctx c b).1.hooks = b.hooks ∧
      (connectIn ctx c b).1.sessions.contains c = true := by
  rw [connectIn]
  split
  next session hsession =>
    refine ⟨rfl, rfl, ?_⟩
    rw [ExtTreeMap.contains_eq_isSome_getElem?, hsession]
    rfl
  next hnone =>
    let b₁ : Broker :=
      { b with
        sessions := b.sessions.insert c (Session.begin ctx.env.now)
        sessionGauge := b.sessionGauge.inc }
    have hstill : notify ctx (.sessionCreated c) b₁ =
        { b₁ with journal := b₁.journal ++ told b₁.hooks (.sessionCreated c) } :=
      notify_of_silent (hsilent.handlers _)
    dsimp only
    rw [hstill]
    exact ⟨rfl, rfl, ExtTreeMap.contains_insert_self⟩

/-- A new subscription is registered. -/
theorem registered?_enter (hd : b.destination? s.destination = some d)
    (hfind : (d.registry.ofClient s.client).find? s.sameFilter = none) :
    (enter s b).2.existing = false ∧
      (enter s b).1.registered? s.destination s.id = some s ∧
      (enter s b).1.hooks = b.hooks ∧
      (enter s b).1.sessions.contains s.client = b.sessions.contains s.client := by
  have hnew : (d.registry.insert s).2.existing = false := by rw [Registry.insert_of_new hfind]
  have hid := (mem_of_destination? hd).2
  rw [enter]
  rw [hd]
  dsimp only
  rw [hnew, if_neg Bool.false_ne_true, hid]
  let b₁ := b.onDestination s.destination fun d' => { d' with registry := (d.registry.insert s).1 }
  let b₂ : Broker := { b₁ with owners := b₁.owners.insert s.id s.destination }
  let b₃ := b₂.onSession s.client fun session =>
    { session with subscriptions := session.subscriptions.insert s.id s.destination }
  have hregistered : b₁.registered? s.destination s.id = some s := by
    rw [registered?, destination?_onDestination_self
      (fun d' => { d' with registry := (d.registry.insert s).1 }) (fun _ => rfl) hd]
    show (d.registry.insert s).1.get? s.id = some s
    rw [Registry.get?_insert_of_new hfind, if_pos rfl]
  have htotals := still_onDestination
    (fun d => { d with totals := { d.totals with subscriptions := d.totals.subscriptions.inc } })
    (fun _ => rfl) (fun _ _ => rfl) b₃ s.destination
  refine ⟨hnew, ?_, ?_, ?_⟩
  · exact (htotals.registered _ _).trans ((registered?_onSession _ _).trans hregistered)
  · exact htotals.hooks.trans hooks_onSession
  · exact (congrArg (·.contains s.client) htotals.sessions).trans (contains_onSession s.client)

/-- A subscription of a client with a session is introduced without fail when nobody calls
back: the other nodes are told, and then the handlers. -/
theorem introduce_of_silent (hsilent : Silent ctx.env b)
    (hlive : b.sessions.contains s.client = true)
    (hregistered : b.registered? s.destination s.id = some s) :
    introduce ctx s b =
        (notify ctx (.subscribed s) (announce ctx s.destination b), .ok s.id) ∧
      (introduce ctx s b).1.registered? s.destination s.id = some s := by
  have hthere {b' : Broker} (h : Still b b') : (!isRegistered s b') = false := by
    show (!(b'.registered? s.destination s.id).isSome) = false
    rw [h.registered, hregistered]
    rfl
  have hannounced := still_announce hsilent s.destination
  have htold := hannounced.trans (still_notify ctx (hannounced.silent hsilent) (.subscribed s))
  have hintroduced : introduce ctx s b =
      (notify ctx (.subscribed s) (announce ctx s.destination b), .ok s.id) := by
    rw [introduce]
    rw [dropOrphan_of_contains hlive]
    dsimp only
    rw [hthere hannounced, if_neg Bool.false_ne_true, hthere htold, if_neg Bool.false_ne_true]
  rw [hintroduced]
  exact ⟨rfl, (htold.registered _ _).trans hregistered⟩

/-- The subscription that a request asks for, under a number. -/
def requested (env : Environment) (r : SubscribeRequest) (filter : Option Subtopic)
    (n : SubscriptionId) : Subscription :=
  { id := n
    destination := r.destination
    client := r.client
    subtopic := filter
    selector := r.givenSelector
    maxFrequency := r.givenFrequency
    createdAt := env.now }

theorem subscribe_of_error {e : BrokerError} (h : checkRequest env r b = (b', .error e)) :
    subscribe env r b = (b', .error e) := by
  rw [subscribe, h]

theorem subscribe_of_ok (h : checkRequest env r b = (b', .ok filter)) :
    subscribe env r b =
      let connected := (connectIn (b'.context env) r.client b').1.touch r.client env.now
      enterAndTell (b'.context env) (requested env r filter connected.nextSubscription)
        { connected with nextSubscription := connected.nextSubscription + 1 } := by
  rw [subscribe, h]
  rfl

/-- Entering a subscription and telling of it succeeds when nobody calls back, and what is
registered then is the subscription or one that stands for it. -/
theorem enterAndTell_of_silent (ctx : Context) (hsilent : Silent ctx.env b)
    (hlive : b.sessions.contains s.client = true) (hd : b.destination? s.destination = some d)
    (hsound : d.registry.Sound) :
    ∃ s', (enterAndTell ctx s b).2 = .ok s'.id ∧
      (enterAndTell ctx s b).1.registered? s.destination s'.id = some s' ∧
      s'.client = s.client ∧ s'.subtopic = s.subtopic ∧ s'.selector = s.selector := by
  rw [enterAndTell]
  cases hfind : (d.registry.ofClient s.client).find? s.sameFilter with
  | some old =>
    rw [enter_of_existing hd hfind]
    have hold := (hsound.mem_ofClient s.client).mp (List.mem_of_find?_eq_some hfind)
    obtain ⟨hsubtopic, hselector⟩ := Subscription.sameFilter_iff.mp (List.find?_some hfind)
    refine ⟨old, rfl, ?_, hold.2, hsubtopic.symm, hselector.symm⟩
    show b.registered? s.destination old.id = some old
    rw [registered?, hd]
    exact hold.1
  | none =>
    obtain ⟨hnew, hregistered, hhooks, hsessions⟩ := registered?_enter hd hfind
    have hentered : Silent ctx.env (enter s b).1 := ⟨hhooks ▸ hsilent.handlers, hsilent.cluster⟩
    obtain ⟨hok, hstays⟩ := introduce_of_silent hentered (hsessions.trans hlive) hregistered
    dsimp only
    rw [hnew, if_neg Bool.false_ne_true]
    exact ⟨s, congrArg Prod.snd hok, hstays, rfl, rfl, rfl⟩

/-- A request that passes its checks is granted when nobody calls back. -/
theorem subscribe_of_silent (hb : b.IsReachable) (hsilent : Silent env b)
    (hcheck : checkRequest env r b = (b', .ok filter)) (hasked : OnlyAsked b b')
    (hnone : ¬Refusal env b r) :
    ∃ s, (subscribe env r b).2 = .ok s.id ∧
      (subscribe env r b).1.registered? r.destination s.id = some s ∧ s.client = r.client ∧
      s.subtopic = filter ∧ s.selector = r.givenSelector := by
  obtain ⟨d, hd⟩ : ∃ d, b.destination? r.destination = some d :=
    Option.ne_none_iff_exists'.mp fun h => hnone (.unknown h)
  obtain ⟨asked, -, rfl⟩ := hasked
  let b₁ : Broker := { b with journal := b.journal ++ asked }
  have hsilent₁ : Silent env b₁ := ⟨hsilent.handlers, hsilent.cluster⟩
  obtain ⟨hdestinations, hhooks, hlive⟩ :=
    connectIn_of_silent (b₁.context env) r.client hsilent₁
  let b₂ := (connectIn (b₁.context env) r.client b₁).1.touch r.client env.now
  have hsilent₂ : Silent env b₂ := by
    refine ⟨?_, hsilent.cluster⟩
    rw [show b₂.hooks = b.hooks from hooks_onSession.trans hhooks]
    exact hsilent.handlers
  have hlive₂ : b₂.sessions.contains r.client = true := (contains_onSession r.client).trans hlive
  have hd₂ : b₂.destination? r.destination = some d := by
    rw [destination?, show b₂.destinations = b.destinations from
      destinations_onSession.trans hdestinations]
    exact hd
  rw [subscribe_of_ok hcheck]
  exact enterAndTell_of_silent (b := { b₂ with nextSubscription := b₂.nextSubscription + 1 })
    (s := requested env r filter b₂.nextSubscription) (b₁.context env)
    ⟨hsilent₂.handlers, hsilent₂.cluster⟩ hlive₂ hd₂ (hb.sound hd)

/-- When nobody who is told anything calls back, a request to subscribe is refused exactly for
the reasons given, a refusal does nothing but ask the authorizer about roles, and a request
that is granted has its subscription registered. -/
theorem subscribe_exact (hb : b.IsReachable) (hsilent : Silent env b) (r : SubscribeRequest) :
    ((∃ e, (subscribe env r b).2 = .error e) ↔ Refusal env b r) ∧
      (∀ e, (subscribe env r b).2 = .error e → OnlyAsked b (subscribe env r b).1) ∧
      ∀ n, (subscribe env r b).2 = .ok n →
        ∃ s, (subscribe env r b).1.registered? r.destination n = some s ∧ s.id = n ∧
          s.client = r.client ∧
          s.subtopic.map (·.value) = r.subtopic.filter (· ≠ "") ∧
          s.selector = r.selector.filter fun text => !Text.isBlankText text := by
  obtain ⟨hasked, ⟨e, herror, hrefusal⟩ | ⟨filter, hok, hnone, hvalue⟩⟩ :=
    checkRequest_cases env r b
  · rw [subscribe_of_error (Prod.ext rfl herror)]
    exact ⟨⟨fun _ => hrefusal, fun _ => ⟨e, rfl⟩⟩, fun _ _ => hasked, nofun⟩
  · obtain ⟨s, hgranted, hregistered, hclient, hsubtopic, hselector⟩ :=
      subscribe_of_silent hb hsilent (Prod.ext rfl hok) hasked hnone
    have hnot (e : BrokerError) : (subscribe env r b).2 ≠ .error e := by
      rw [hgranted]
      exact nofun
    refine ⟨⟨fun ⟨e, he⟩ => absurd he (hnot e), fun h => absurd h hnone⟩,
      fun e he => absurd he (hnot e), fun n hn => ?_⟩
    obtain rfl := Except.ok.inj (hgranted.symm.trans hn)
    exact ⟨s, hregistered, rfl, hclient, hsubtopic ▸ hvalue, hselector⟩

/-- A request with a selector, which nobody there can evaluate. -/
def selective : SubscribeRequest := ⟨"news", "bob", none, some "a=b", none⟩

/-- A request whose subtopic and selector ask for nothing. -/
def plain : SubscribeRequest := ⟨"news", "bob", some "", some " ", none⟩

theorem subscribe_exact_news :
    ∃ b : Broker, b.IsReachable ∧ Silent quiet b ∧
      (∃ e, (subscribe quiet selective b).2 = .error e ∧
        OnlyAsked b (subscribe quiet selective b).1) ∧
      (subscribe quiet plain b).2 = .ok 2 ∧
      ∃ s, (subscribe quiet plain b).1.registered? "news" 2 = some s ∧ s.client = "bob" ∧
        s.subtopic.map (·.value) = none ∧ s.selector = none := by
  have hbuilt : IsBuilt _ := ⟨newsSettings, _, ⟨true, false, [], []⟩, rfl, rfl⟩
  have hreachable : IsReachable _ := ⟨_, hbuilt, opening, rfl⟩
  have hexact := subscribe_exact hreachable (show Silent quiet _ from silent_of_alone rfl rfl)
  obtain ⟨e, he⟩ := (hexact selective).1.mpr (.unevaluated rfl rfl rfl)
  obtain ⟨s, hs, -, hclient, hsubtopic, hselector⟩ := (hexact plain).2.2 2 rfl
  exact ⟨_, hreachable, silent_of_alone rfl rfl, ⟨e, he, (hexact selective).2.1 e he⟩, rfl,
    s, hs, hclient, hsubtopic, hselector⟩

end Broker

end MessageBroker
