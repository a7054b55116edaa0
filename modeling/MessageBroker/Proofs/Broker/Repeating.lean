/-
# Asking again

A client that asks for what it has been granted is given the same number again, as long as the
subscription is there and the client may still have it. It need not ask in the same words: an
empty subtopic and a blank selector ask for nothing, and how often messages may come makes no
difference. The subscription stays as it was first requested. Nothing is entered anywhere, no
handler and no other node is told anything; only the authorizer is asked about roles, the client
counts as active, and a number is used up that nobody gets.

In between anything may happen, with calls back of any depth, since a number never comes to mean
another subscription.
-/

import MessageBroker.Proofs.Broker.Durations
import MessageBroker.Proofs.Broker.Fixtures
import MessageBroker.Proofs.Broker.Granting
import MessageBroker.Proofs.Broker.Leftovers
import MessageBroker.Proofs.Broker.PeerMatching

open Std

namespace MessageBroker

/-- Another request asks for the same as a request, except for how often messages may come. -/
structure SubscribeRequest.Repeats (r r' : SubscribeRequest) : Prop where
  destination : r'.destination = r.destination
  client : r'.client = r.client
  subtopic : r'.givenSubtopic = r.givenSubtopic
  selector : r'.givenSelector = r.givenSelector

/-- A client has at most one subscription with a filter, so that one is found. -/
theorem Registry.Sound.find?_sameFilter {registry : Registry} {s t : Subscription}
    (h : registry.Sound) (hs : registry.get? s.id = some s) (hclient : s.client = t.client)
    (hsame : t.sameFilter s = true) :
    (registry.ofClient t.client).find? t.sameFilter = some s := by
  have hcandidate : s ∈ registry.ofClient t.client := (h.mem_ofClient _).mpr ⟨hs, hclient⟩
  cases hfind : (registry.ofClient t.client).find? t.sameFilter with
  | none => exact absurd hsame (List.find?_eq_none.mp hfind s hcandidate)
  | some old =>
    obtain ⟨hold, hclient', hsubtopic, hselector⟩ := h.exists_of_find?_eq_some hfind
    have hget := h.mem_toList.mp hold
    obtain ⟨hsubtopic', hselector'⟩ := Subscription.sameFilter_iff.mp hsame
    have hnumber := h.single hget hs (hclient'.trans hclient.symm)
      (Subscription.sameFilter_iff.mpr ⟨hsubtopic.trans hsubtopic', hselector.trans hselector'⟩)
    rw [hnumber, hs] at hget
    exact hget.symm

namespace Broker

variable {env env' : Environment} {b b' : Broker} {ctx : Context} {id id' : DestinationId}
  {d : Destination} {n : SubscriptionId} {s t : Subscription} {r r' : SubscribeRequest}
  {filter : Option Subtopic} {strays : Strays}

/-- The client of a subscription may have it: it satisfies the constraint on subscribing, and the
authorizer does not veto the subtopic. -/
structure Entitled (env : Environment) (s : Subscription) (b : Broker) : Prop where
  satisfied : ∀ d, b.destination? s.destination = some d →
    Satisfied env .subscribe d (b.principal? s.client)
  permitted : ∀ t, s.subtopic = some t →
    env.authorizer.permits .subscribe s.destination t (b.principal? s.client) = true

/-- A request is answered with a subscription that is there already. Otherwise all that happens
is that the authorizer is asked about roles, the client is active, and a number is used up. -/
structure AnsweredWith (s : Subscription) (env : Environment) (r : SubscribeRequest)
    (b : Broker) : Prop where
  answer : (subscribe env r b).2 = .ok s.id
  registered : b.registered? s.destination s.id = some s
  kept : (subscribe env r b).1.registered? s.destination s.id = some s
  /-- Registries, counters, limiters and what other nodes have announced are as they were. -/
  destinations : (subscribe env r b).1.destinations = b.destinations
  owners : (subscribe env r b).1.owners = b.owners
  listings : ∀ c : ClientId, ((subscribe env r b).1.sessions[c]?).map (·.subscriptions) =
    (b.sessions[c]?).map (·.subscriptions)
  /-- The sessions of others are as they were. -/
  sessions : ∀ c : ClientId, c ≠ r.client → (subscribe env r b).1.sessions[c]? = b.sessions[c]?
  sessionGauge : (subscribe env r b).1.sessionGauge = b.sessionGauge
  subscriptionGauge : (subscribe env r b).1.subscriptionGauge = b.subscriptionGauge
  settings : (subscribe env r b).1.settings = b.settings
  sweeper : (subscribe env r b).1.sweeper = b.sweeper
  hooks : (subscribe env r b).1.hooks = b.hooks
  number : (subscribe env r b).1.nextSubscription = b.nextSubscription + 1
  journal : ∃ asked : List Event, (∀ e ∈ asked, ∃ p roles, e = .roleCheck p roles) ∧
    (subscribe env r b).1.journal = b.journal ++ asked

/-! ## Checks -/

/-- A text is accepted as a filter if and only if it is usable, and then it is what was read. -/
theorem checkFilter_some_eq_ok_iff {principal : Option Principal} {text : String} :
    checkFilter env d principal (some text) = .ok filter ↔
      ∃ t, filter = some t ∧ Usable env d principal text t := by
  rcases checkFilter_some_cases env d principal text with
    ⟨t, hcheck, husable⟩ | ⟨e, hcheck, hnot⟩
  · rw [hcheck]
    constructor
    · intro heq
      exact ⟨t, (Except.ok.inj heq).symm, husable⟩
    · rintro ⟨t', rfl, husable'⟩
      rw [Except.ok.inj (husable.read.symm.trans husable'.read)]
  · rw [hcheck]
    exact iff_of_false nofun fun ⟨t, _, husable⟩ => hnot t husable

/-- A request passes its checks if and only if its destination is started, its client satisfies
the constraint on subscribing, its filter is accepted, and its selector can be evaluated. -/
theorem checkRequest_eq_ok_iff : (checkRequest env r b).2 = .ok filter ↔
    ∃ d, b.destination? r.destination = some d ∧ d.started = true ∧
      Satisfied env .subscribe d (b.principal? r.client) ∧
      checkFilter env d (b.principal? r.client) r.givenSubtopic = .ok filter ∧
      (r.givenSelector.isSome = true → env.evaluator.isSome = true) := by
  rw [checkRequest]
  cases hd : b.destination? r.destination with
  | none =>
    rw [requireStarted_of_none hd]
    simp
  | some d =>
    rw [requireStarted_of_some hd]
    simp only [Option.some.injEq, exists_eq_left']
    cases hstarted : d.started with
    | false =>
      rw [if_neg Bool.false_ne_true]
      simp
    | true =>
      rw [if_pos rfl]
      have hauthorized := (authorize_spec env .subscribe d (b.principal? r.client) b).2
      dsimp only
      split
      next b₁ e heq =>
        rw [heq] at hauthorized
        have hrefused : ¬Satisfied env .subscribe d (b.principal? r.client) := by
          intro hsatisfied
          cases hauthorized.mpr hsatisfied
        simp [hrefused]
      next b₁ heq =>
        rw [heq] at hauthorized
        have hsatisfied := hauthorized.mp rfl
        cases hfilter : checkFilter env d (b.principal? r.client) r.givenSubtopic with
        | error e => simp
        | ok filter' =>
          dsimp only
          cases hgiven : r.givenSelector.isSome <;> cases hevaluator : env.evaluator <;>
            simp [hsatisfied]

/-- A filter that was accepted is accepted again by a destination with the same settings, unless
it is vetoed. -/
theorem checkFilter_again {principal principal' : Option Principal} {text : Option String}
    {d' : Destination} (h : checkFilter env d principal text = .ok filter)
    (hsettings : d'.settings = d.settings)
    (hpermitted : ∀ t, filter = some t →
      env'.authorizer.permits .subscribe d'.id t principal' = true) :
    checkFilter env' d' principal' text = .ok filter := by
  cases text with
  | none => exact h
  | some text =>
    obtain ⟨t, rfl, husable⟩ := checkFilter_some_eq_ok_iff.mp h
    refine checkFilter_some_eq_ok_iff.mpr ⟨t, rfl, ?_⟩
    constructor
    case allowed => rw [hsettings, husable.allowed]
    case read => rw [hsettings, husable.read]
    case admitted => rw [hsettings]; exact husable.admitted
    case permitted => exact hpermitted t rfl

/-! ## Numbers and their subscriptions -/

/-- Whatever operation is performed, what is newly held has a new number. -/
theorem succeeds_perform (env : Environment) (op : Operation) (hb : b.books.Accounted strays) :
    b.books.Succeeds (perform env b op).1.books := by
  by_cases hop : op.IsOrderly
  · exact (staysAccounted_perform env b hop strays hb).2
  · cases op with
    | stopDestination d =>
      show b.books.Succeeds (stopNamed env d b).1.books
      unfold stopNamed
      split
      · exact (StaysAccounted.refl b strays hb).2
      · exact (accounted_stopDestination env d hb).2
    | _ => exact absurd trivial hop

theorem succeeds_run (steps : List (Environment × Operation)) (hb : b.books.Accounted strays) :
    b.books.Succeeds (b.run steps).books := by
  induction steps generalizing b strays with
  | nil => exact (StaysAccounted.refl b strays hb).2
  | cons step steps ih =>
    obtain ⟨more, hstep⟩ := accounted_perform step.1 step.2 hb
    exact (succeeds_perform step.1 step.2 hb).trans (ih hstep)

/-- A number that is a subscription's at some time is no other subscription's later. -/
theorem eq_of_registered?_run (hb : b.IsReachable) (hs : b.registered? id n = some s)
    {steps : List (Environment × Operation)} (ht : (b.run steps).registered? id' n = some t) :
    id' = id ∧ t = s := by
  obtain ⟨strays, haccounted⟩ := hb.accounted
  obtain ⟨more, hlater⟩ := accounted_run steps haccounted
  have hsame : t.id = s.id :=
    (id_eq_of_registered? hlater ht).trans (id_eq_of_registered? haccounted hs).symm
  rcases (succeeds_run steps haccounted).held (holds_of_registered? hlater ht) with hheld | hnew
  · exact haccounted.single hheld (holds_of_registered? haccounted hs) hsame
  · rw [hsame] at hnew
    exact absurd hnew (Nat.not_le.mpr (haccounted.home (holds_of_registered? haccounted hs)).2)

/-- A destination has the same settings throughout a run. -/
theorem settings_run (hb : b.IsReachable) (hd : b.destination? id = some d)
    (steps : List (Environment × Operation)) {d' : Destination}
    (hd' : (b.run steps).destination? id = some d') : d'.settings = d.settings := by
  obtain ⟨b₀, hbuilt, earlier, rfl⟩ := hb
  rw [← run_append] at hd'
  have hbefore := (goesBy_run hbuilt earlier id d.sheet (congrArg (Option.map _) hd)).1
  have hafter := (goesBy_run hbuilt (earlier ++ steps) id d'.sheet (congrArg (Option.map _) hd')).1
  exact Option.some.inj (hafter.symm.trans hbefore)

/-- A destination where something is registered is started. -/
theorem started_of_registered? (hb : b.books.Accounted strays) (hd : b.destination? id = some d)
    (hs : b.registered? id n = some s) : d.started = true := by
  rw [registered?, hd, Option.bind_some] at hs
  cases hstarted : d.started with
  | true => rfl
  | false =>
    have hsize := hb.idle d.shelf (List.mem_map_of_mem (mem_of_destination? hd).1) hstarted
    have hnone : d.registry.subscriptions = ∅ := ExtTreeMap.eq_empty_iff_size_eq_zero.mpr hsize
    rw [Registry.get?, hnone, ExtTreeMap.getElem?_empty] at hs
    cases hs

/-! ## What was granted -/

/-- A subscription is registered when its request is granted. -/
theorem registered?_of_introduce (h : (introduce ctx s b).2 = .ok n) :
    n = s.id ∧ ((introduce ctx s b).1.registered? s.destination s.id).isSome = true := by
  rw [introduce] at h ⊢
  dsimp only at h ⊢
  split at h
  · cases h
  next hbefore =>
    split at h
    · cases h
    next hafter =>
      rw [if_neg hbefore, if_neg hafter]
      refine ⟨(Except.ok.inj h).symm, ?_⟩
      rwa [Bool.not_eq_true, Bool.not_eq_false'] at hafter

/-- The number that a request is answered with when it comes to entering a subscription belongs
to one that was there and has the same filter, or to the subscription itself. -/
theorem registered?_of_granted (hctx : ctx.Within Sheds)
    (hd : b.destination? s.destination = some d) (hsound : d.registry.Sound)
    (hok : (enterAndTell ctx s b).2 = .ok n) :
    ∃ t, (enterAndTell ctx s b).1.registered? s.destination n = some t ∧ t.client = s.client ∧
      t.subtopic = s.subtopic ∧ t.selector = s.selector ∧
      (b.registered? s.destination n = some t ∨ t = s ∧ n = s.id) := by
  cases hfind : (d.registry.ofClient s.client).find? s.sameFilter with
  | some old =>
    rw [enterAndTell, enter_of_existing hd hfind] at hok ⊢
    obtain rfl := Except.ok.inj hok
    obtain ⟨hold, hclient, hsubtopic, hselector⟩ := hsound.exists_of_find?_eq_some hfind
    have hregistered : b.registered? s.destination old.id = some old :=
      Option.bind_eq_some_iff.mpr ⟨d, hd, hsound.mem_toList.mp hold⟩
    exact ⟨old, hregistered, hclient, hsubtopic, hselector, .inl hregistered⟩
  | none =>
    obtain ⟨hnew, hentered, -, -⟩ := registered?_enter hd hfind
    rw [enterAndTell_of_new hnew] at hok ⊢
    obtain ⟨rfl, hsome⟩ := registered?_of_introduce hok
    obtain ⟨t, ht⟩ := Option.isSome_iff_exists.mp hsome
    have hsame := lasting_sheds.introduce hctx s _ _ _ _ ht
    obtain rfl := Option.some.inj (hentered.symm.trans hsame)
    exact ⟨s, ht, rfl, rfl, rfl, .inr ⟨rfl, rfl⟩⟩

/-- A subscription that a request is granted with: it is registered, it has the filter that was
asked for, and it is as it was before or as it was asked for. -/
structure GrantedWith (s : Subscription) (env : Environment) (r : SubscribeRequest)
    (b : Broker) : Prop where
  registered : (subscribe env r b).1.registered? r.destination s.id = some s
  destination : s.destination = r.destination
  client : s.client = r.client
  checked : (checkRequest env r b).2 = .ok s.subtopic
  selector : s.selector = r.givenSelector
  source : b.registered? r.destination s.id = some s ∨ s = requested env r s.subtopic s.id

/-- Whenever a request is granted, there is a subscription that it is granted with. -/
theorem grantedWith_of_subscribe (hb : b.IsReachable) (hok : (subscribe env r b).2 = .ok n) :
    ∃ s, s.id = n ∧ GrantedWith s env r b := by
  have hasked := (checkRequest_cases env r b).1
  obtain ⟨strays, haccounted⟩ := hb.accounted
  obtain ⟨more, hafter⟩ := accounted_run [(env, .subscribe r)] haccounted
  cases hcheck : (checkRequest env r b).2 with
  | error e =>
    rw [subscribe_of_error (Prod.ext rfl hcheck)] at hok
    cases hok
  | ok filter =>
    obtain ⟨d, hd, -⟩ := checkRequest_eq_ok_iff.mp hcheck
    have hcalms : Calms b (contacted env r (checkRequest env r b).1) := calms_contacted hasked
    obtain ⟨d', hd', -⟩ := hcalms.exists_destination? hd
    have hsound : d'.registry.Sound :=
      sound_registry (keeps_contacted env r b strays haccounted).1 (mem_of_destination? hd').1
    have hsubscribe := subscribe_of_checked (Prod.ext rfl hcheck)
    rw [hsubscribe] at hok
    obtain ⟨s, hs, hclient, hsubtopic, hselector, hsource⟩ :=
      registered?_of_granted (lasting_sheds.context env _) hd' hsound hok
    rw [← hsubscribe] at hs
    have hplace : s.destination = r.destination :=
      (hafter.home (holds_of_registered? hafter hs)).1
    obtain rfl := id_eq_of_registered? hafter hs
    refine ⟨s, rfl, hs, hplace, hclient, hsubtopic ▸ hcheck, hselector, ?_⟩
    rcases hsource with hbefore | ⟨hsame, -⟩
    · exact .inl (sheds_contacted hasked _ _ _ hbefore)
    · refine .inr ?_
      rw [hsubtopic, hsame]
      rfl

/-! ## Who is logged in -/

/-- A client that has a session is only marked as active. -/
theorem contacted_of_contains (hlive : b.sessions.contains r.client = true) :
    contacted env r b = b.touch r.client env.now := by
  rw [contacted, connectIn]
  cases hsession : b.sessions[r.client]? with
  | some session => rfl
  | none =>
    rw [ExtTreeMap.contains_eq_isSome_getElem?, hsession] at hlive
    cases hlive

theorem remains_touch (c : ClientId) (now : Timestamp) (b : Broker) :
    Remains c b (b.touch c now) :=
  remains_of_journal_eq (journal_onSession b c _) fun h => (contains_onSession c).symm.trans h

theorem entering_remains (c c' : ClientId) : Lasting.Entering (Remains c) c' := by
  intro s b _
  apply remains_of_journal_eq (journal_enter s b)
  have hsame := congrArg Option.isSome (unlisted_enter s b c)
  rw [Option.isSome_map, Option.isSome_map] at hsame
  rw [ExtTreeMap.contains_eq_isSome_getElem?, ExtTreeMap.contains_eq_isSome_getElem?, hsame]
  exact id

/-- A session that there is after a request was there all the time if it was there before. -/
theorem remains_subscribe (hlive : b.sessions.contains r.client = true) :
    Remains r.client b (subscribe env r b).1 := by
  have hasked := (checkRequest_cases env r b).1
  have hchecked : Remains r.client b (checkRequest env r b).1 :=
    (lasting_remains r.client).onlyAsked hasked
  cases hcheck : (checkRequest env r b).2 with
  | error e =>
    rw [subscribe_of_error (Prod.ext rfl hcheck)]
    exact hchecked
  | ok filter =>
    have hsame : (checkRequest env r b).1.sessions.contains r.client = true := by
      obtain ⟨asked, -, heq⟩ := hasked
      rw [heq]
      exact hlive
    have htouched := hchecked.trans (remains_touch r.client env.now (checkRequest env r b).1)
    have hctx := (lasting_remains r.client).context env (checkRequest env r b).1
    rw [subscribe_of_checked (Prod.ext rfl hcheck), contacted_of_contains hsame]
    generalize (checkRequest env r b).1.touch r.client env.now = b₁ at htouched ⊢
    have hnumbered : Remains r.client b { b₁ with nextSubscription := b₁.nextSubscription + 1 } :=
      htouched
    exact hnumbered.trans
      ((lasting_remains r.client).enterAndTell hctx (entering_remains r.client r.client) _)

/-- If a client has a session after its request, the same principal is logged in as before. -/
theorem principal?_subscribe (hafter : (subscribe env r b).1.sessions.contains r.client = true) :
    (subscribe env r b).1.principal? r.client = b.principal? r.client := by
  have hother : ¬(Operation.subscribe r).SetsPrincipal r.client := fun h => h
  have hcredits : Credits r.client b (subscribe env r b).1 := credits_perform env hother b
  by_cases hstays : SessionStays r.client b (subscribe env r b).1
  · exact hcredits.kept hstays
  · -- A session that was there before did not end, or there would be none afterwards.
    cases hlive : b.sessions.contains r.client with
    | true => exact absurd ((remains_subscribe hlive).2 hafter).2 hstays
    | false =>
      have hnone : b.sessions[r.client]? = none := by
        rwa [ExtTreeMap.contains_eq_isSome_getElem?, Option.isSome_eq_false_iff,
          Option.isNone_iff_eq_none] at hlive
      rw [hcredits.lost hstays, principal?, hnone, Option.bind_none]

/-- The client of a request that was granted may still have the subscription, if the authorizer
gives the same answers. -/
theorem GrantedWith.entitled (h : GrantedWith s env r b) (hb : b.IsReachable)
    (henv : env'.authorizer = env.authorizer) : Entitled env' s (subscribe env r b).1 := by
  obtain ⟨strays, haccounted⟩ := hb.accounted
  obtain ⟨more, hafter⟩ := accounted_run [(env, .subscribe r)] haccounted
  have hlive : (subscribe env r b).1.sessions.contains r.client = true :=
    h.client ▸ ExtTreeMap.mem_iff_contains.mp (mem_sessions_of_registered? hafter h.registered)
  have hprincipal := principal?_subscribe hlive
  obtain ⟨d, hd, -, hsatisfied, hfilter, -⟩ := checkRequest_eq_ok_iff.mp h.checked
  constructor
  case satisfied =>
    intro d' hd'
    rw [h.destination] at hd'
    obtain ⟨d₀, hd₀, hfixture⟩ := (fixed_subscribe env r b).exists_of_destination? hd'
    obtain rfl := Option.some.inj (hd.symm.trans hd₀)
    rw [h.client, hprincipal]
    exact hsatisfied.of_fixture hfixture henv
  case permitted =>
    intro t ht
    rw [h.destination, h.client, hprincipal, henv]
    cases hgiven : r.givenSubtopic with
    | none =>
      rw [hgiven, ht] at hfilter
      cases hfilter
    | some text =>
      rw [hgiven, ht] at hfilter
      obtain ⟨t', hsame, husable⟩ := checkFilter_some_eq_ok_iff.mp hfilter
      obtain rfl := Option.some.inj hsame
      rw [← (mem_of_destination? hd).2]
      exact husable.permitted

/-! ## Asking for what is there -/

theorem exists_sessions_onSession (b : Broker) (c : ClientId) (change : Session → Session) :
    ∃ sessions, b.onSession c change = { b with sessions } := by
  rw [onSession]
  split
  · exact ⟨b.sessions, rfl⟩
  · exact ⟨_, rfl⟩

/-- A request that passes its checks and asks for a subscription that is there leaves nothing
behind but a number that is used up. -/
theorem subscribe_of_registered (hb : b.IsReachable)
    (hs : b.registered? r.destination n = some s) (hclient : s.client = r.client)
    (hselector : s.selector = r.givenSelector)
    (hcheck : (checkRequest env r b).2 = .ok s.subtopic) :
    subscribe env r b =
      ({ (checkRequest env r b).1.touch r.client env.now with
        nextSubscription := b.nextSubscription + 1 }, .ok s.id) := by
  obtain ⟨strays, haccounted⟩ := hb.accounted
  obtain rfl := id_eq_of_registered? haccounted hs
  have hlive : b.sessions.contains r.client = true :=
    hclient ▸ ExtTreeMap.mem_iff_contains.mp (mem_sessions_of_registered? haccounted hs)
  obtain ⟨d, hd, hget⟩ := Option.bind_eq_some_iff.mp hs
  obtain ⟨asked, -, heq⟩ := (checkRequest_cases env r b).1
  have hlive' : (checkRequest env r b).1.sessions.contains r.client = true := by
    rw [heq]
    exact hlive
  -- Since the client has a session, none begins, and nobody is told anything before the entry.
  have htouched : ((checkRequest env r b).1.touch r.client env.now).destination? r.destination =
      some d := by
    rw [destination?, touch, destinations_onSession, heq]
    exact hd
  have hnumber : ((checkRequest env r b).1.touch r.client env.now).nextSubscription =
      b.nextSubscription := by
    rw [touch, onSession, heq]
    split <;> rfl
  have hfind := (hb.sound hd).find?_sameFilter
    (t := requested env r s.subtopic b.nextSubscription) hget hclient
    (Subscription.sameFilter_iff.mpr ⟨rfl, hselector.symm⟩)
  rw [subscribe_of_checked (Prod.ext rfl hcheck), contacted_of_contains hlive', hnumber]
  generalize (checkRequest env r b).1.touch r.client env.now = b₁ at htouched ⊢
  have hexisting := enter_of_existing (s := requested env r s.subtopic b.nextSubscription)
    (b := { b₁ with nextSubscription := b.nextSubscription + 1 }) htouched hfind
  rw [enterAndTell, hexisting]
  rfl

theorem answeredWith_of_registered (hb : b.IsReachable)
    (hs : b.registered? r.destination n = some s) (hclient : s.client = r.client)
    (hselector : s.selector = r.givenSelector)
    (hcheck : (checkRequest env r b).2 = .ok s.subtopic) :
    AnsweredWith s env r b := by
  have hsubscribe := subscribe_of_registered hb hs hclient hselector hcheck
  obtain ⟨strays, haccounted⟩ := hb.accounted
  have hplace : s.destination = r.destination :=
    (haccounted.home (holds_of_registered? haccounted hs)).1
  obtain rfl := id_eq_of_registered? haccounted hs
  obtain ⟨asked, hroles, heq⟩ := (checkRequest_cases env r b).1
  obtain ⟨sessions, htouch⟩ :=
    exists_sessions_onSession (checkRequest env r b).1 r.client (·.touch env.now)
  have hsame (session : Session) : (session.touch env.now).subscriptions = session.subscriptions :=
    rfl
  have hlistings (c : ClientId) :=
    map_sessions_onSession (·.subscriptions) hsame (checkRequest env r b).1 r.client c
  have hsessions (c : ClientId) :=
    getElem?_sessions_onSession (checkRequest env r b).1 r.client (·.touch env.now) c
  rw [touch, htouch] at hsubscribe
  rw [htouch] at hlistings hsessions
  rw [heq] at hsubscribe hlistings hsessions
  constructor
  case answer => rw [hsubscribe]
  case registered => rw [hplace, hs]
  case kept =>
    rw [hsubscribe, hplace]
    exact hs
  case destinations => rw [hsubscribe]
  case owners => rw [hsubscribe]
  case listings => rw [hsubscribe]; exact hlistings
  case sessions =>
    intro c hc
    rw [hsubscribe]
    exact (hsessions c).trans (if_neg hc.symm)
  case sessionGauge => rw [hsubscribe]
  case subscriptionGauge => rw [hsubscribe]
  case settings => rw [hsubscribe]
  case sweeper => rw [hsubscribe]
  case hooks => rw [hsubscribe]
  case number => rw [hsubscribe]
  case journal => exact ⟨asked, hroles, by rw [hsubscribe]⟩

/-- As long as a subscription is there and its client may have it, it is what other requests for
the same are answered with. -/
theorem GrantedWith.answeredWith (h : GrantedWith s env r b) (hb : b.IsReachable)
    (hrepeats : r.Repeats r')
    (hevaluator : env.evaluator.isSome = true → env'.evaluator.isSome = true)
    (later : List (Environment × Operation))
    (hstays : (((subscribe env r b).1.run later).registered? r.destination s.id).isSome = true)
    (hentitled : Entitled env' s ((subscribe env r b).1.run later)) :
    AnsweredWith s env' r' ((subscribe env r b).1.run later) := by
  have hgranted : (subscribe env r b).1.IsReachable := hb.run [(env, .subscribe r)]
  have hlater := hgranted.run later
  obtain ⟨strays, haccounted⟩ := hlater.accounted
  obtain ⟨t, ht⟩ := Option.isSome_iff_exists.mp hstays
  obtain ⟨-, rfl⟩ := eq_of_registered?_run hgranted h.registered ht
  obtain ⟨d, hd, -, -, hfilter, hselector⟩ := checkRequest_eq_ok_iff.mp h.checked
  obtain ⟨d', hd', -⟩ := Option.bind_eq_some_iff.mp ht
  have hsettings : d'.settings = d.settings :=
    settings_run hb hd ((env, .subscribe r) :: later) hd'
  refine answeredWith_of_registered hlater (hrepeats.destination ▸ ht)
    (h.client.trans hrepeats.client.symm) (h.selector.trans hrepeats.selector.symm) ?_
  rw [checkRequest_eq_ok_iff, hrepeats.destination, hrepeats.client, hrepeats.subtopic,
    hrepeats.selector, ← h.client]
  refine ⟨d', hd', started_of_registered? haccounted hd' ht,
    hentitled.satisfied d' (h.destination ▸ hd'), ?_, fun hgiven => hevaluator (hselector hgiven)⟩
  apply checkFilter_again hfilter hsettings
  rw [(mem_of_destination? hd').2, ← h.destination]
  exact hentitled.permitted

/-- When a request was granted, there is a subscription of its client with the filter that was
asked for, as it was before or as it was asked for. All other requests for the same are answered
with that one: at once, if the authorizer gives the same answers, and after any operations that
leave the subscription registered, if its client may still have it. -/
theorem subscribe_again (hb : b.IsReachable) (hok : (subscribe env r b).2 = .ok n) :
    ∃ s, s.id = n ∧ s.client = r.client ∧ s.key = r.key ∧
      (b.registered? r.destination n = some s ∨ s = requested env r s.subtopic n) ∧
      ∀ env' r', r.Repeats r' → (env.evaluator.isSome = true → env'.evaluator.isSome = true) →
        (env'.authorizer = env.authorizer → AnsweredWith s env' r' (subscribe env r b).1) ∧
        ∀ later : List (Environment × Operation),
          (((subscribe env r b).1.run later).registered? r.destination n).isSome = true →
          Entitled env' s ((subscribe env r b).1.run later) →
            AnsweredWith s env' r' ((subscribe env r b).1.run later) := by
  obtain ⟨s, rfl, hgranted⟩ := grantedWith_of_subscribe hb hok
  have hkey : s.key = r.key := by
    rw [← key_requested hgranted.checked s.id, Subscription.key, hgranted.selector]
    rfl
  refine ⟨s, rfl, hgranted.client, hkey, hgranted.source, fun env' r' hrepeats hevaluator => ?_⟩
  constructor
  · intro henv
    refine hgranted.answeredWith hb hrepeats hevaluator [] ?_ (hgranted.entitled hb henv)
    exact Option.isSome_iff_exists.mpr ⟨s, hgranted.registered⟩
  · exact hgranted.answeredWith hb hrepeats hevaluator

/-- A client asks for some news, and for three messages in a window at most. -/
def wish : SubscribeRequest := ⟨"news", "ann", some "sports.*", none, some 3⟩

/-- It asks for the same news, and for more messages. -/
def wishForMore : SubscribeRequest := ⟨"news", "ann", some "sports.*", some " ", some 7⟩

/-- Another client comes and goes, and other nodes are heard of. -/
def meanwhile : List (Environment × Operation) := quietly
  [.subscribe ⟨"news", "bob", some "sports.*", none, none⟩,
    .receiveState 2 "news" [⟨none, some "sports.*"⟩], .disconnect "bob"]

theorem subscribe_again_sports :
    ∃ (b : Broker) (s : Subscription), b.IsReachable ∧ (subscribe quiet wish b).2 = .ok 1 ∧
      s.maxFrequency = some 3 ∧ AnsweredWith s quiet wishForMore (subscribe quiet wish b).1 ∧
      AnsweredWith s quiet wishForMore ((subscribe quiet wish b).1.run meanwhile) := by
  obtain ⟨b, d, hb, hok, hfresh, hstays, hd, hfree⟩ : ∃ (b : Broker) (d : Destination),
      b.IsReachable ∧ (subscribe quiet wish b).2 = .ok 1 ∧ b.registered? "news" 1 = none ∧
      (((subscribe quiet wish b).1.run meanwhile).registered? "news" 1).isSome = true ∧
      ((subscribe quiet wish b).1.run meanwhile).destination? "news" = some d ∧
      d.subscribeConstraint = none := by
    have hbuilt : IsBuilt _ := ⟨sharedSettings, _, ⟨true, true, [], []⟩, rfl, rfl⟩
    exact ⟨_, _, ⟨_, hbuilt, quietly [.start], rfl⟩, rfl, rfl, rfl, rfl, rfl⟩
  obtain ⟨s, -, -, -, hsource, hagain⟩ := subscribe_again hb hok
  have hs : s = requested quiet wish s.subtopic 1 := by
    rcases hsource with hbefore | hs
    · cases hfresh.symm.trans hbefore
    · exact hs
  have hplace : s.destination = "news" := by rw [hs]; rfl
  obtain ⟨hatOnce, hlater⟩ := hagain quiet wishForMore ⟨rfl, rfl, rfl, rfl⟩ id
  refine ⟨b, s, hb, hok, by rw [hs]; rfl, hatOnce rfl, hlater meanwhile hstays ?_⟩
  constructor
  case satisfied =>
    intro d' hd' constraint hconstraint
    rw [hplace] at hd'
    obtain rfl := Option.some.inj (hd.symm.trans hd')
    cases hfree.symm.trans hconstraint
  case permitted => exact fun _ _ => rfl

end Broker

end MessageBroker
