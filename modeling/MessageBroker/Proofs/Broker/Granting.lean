/-
# Only what is granted is there

Nothing is registered that was not asked for and granted. So as long as no request for certain
keys of a destination is granted, there is no subscription with such a key, whatever else is
done: subscriptions and sessions end, destinations start and stop, handlers and other nodes call
back. Where there are no subscriptions at all, a message that fans out has no recipients.

The other nodes are not told of keys that nobody has. When the first request for a key is
granted they are told that it has appeared, even if a session began for the request and handlers
called back on that.
-/

import MessageBroker.Proofs.Broker.Departing
import MessageBroker.Proofs.Broker.Evictions
import MessageBroker.Proofs.Broker.Farewells
import MessageBroker.Proofs.Registry.Answers

open Std

namespace MessageBroker

/-- The filter that a request asks for, as other nodes know it. -/
def SubscribeRequest.key (r : SubscribeRequest) : SubscriptionKey :=
  ⟨r.givenSelector, r.givenSubtopic⟩

namespace Broker

variable {env : Environment} {b b' b'' : Broker} {ctx : Context} {id : DestinationId}
  {d : Destination} {n : SubscriptionId} {s t : Subscription} {r : SubscribeRequest}
  {filter : Option Subtopic} {wanted : SubscriptionKey → Prop}

/-! ## Nothing new -/

/-- Whatever is registered was registered before. -/
def Sheds (b b' : Broker) : Prop :=
  ∀ id n s, b'.registered? id n = some s → b.registered? id n = some s

theorem sheds_of_destinations_eq (h : b'.destinations = b.destinations) : Sheds b b' := by
  intro id n s hs
  rwa [registered?, destination?, h] at hs

theorem lasting_sheds : Lasting Sheds := by
  have hsteady : Steady Sheds :=
    ⟨fun h h' id n s hs => h id n s (h' id n s hs), fun h _ _ _ hs => h.registered? _ _ ▸ hs,
      fun _ => sheds_of_destinations_eq rfl⟩
  apply hsteady.lasting
  · intro b id d hd change hid hthin id' n s
    exact registered?_of_onDestination hd hid hthin
  · intro b c session _
    have hdropped : Sheds b (dropCounters c b) := hsteady.alike (alike_dropCounters c b)
    exact hdropped

theorem sheds_onSession (b : Broker) (c : ClientId) (change : Session → Session) :
    Sheds b (b.onSession c change) :=
  sheds_of_destinations_eq destinations_onSession

/-- Only a request to subscribe can register anything. -/
theorem sheds_perform (env : Environment) {op : Operation} (hop : ∀ c, ¬op.Subscribes c)
    (b : Broker) : Sheds b (perform env b op).1 := by
  apply lasting_sheds.perform
  · exact fun _ _ _ _ _ => sheds_of_destinations_eq rfl
  · exact fun c now _ b => sheds_onSession b c _
  · apply lasting_sheds.handing
    · exact fun b c m => lasting_sheds.trans (sheds_onSession b c _) (sheds_of_destinations_eq rfl)
    · exact fun _ _ _ => sheds_of_destinations_eq rfl
  · exact fun c _ b change => sheds_onSession b c change
  · exact fun c hc => absurd hc (hop c)

/-! ## Requests -/

/-- A broker that has made contact with the client of a request. -/
def contacted (env : Environment) (r : SubscribeRequest) (b : Broker) : Broker :=
  (connectIn (b.context env) r.client b).1.touch r.client env.now

theorem subscribe_of_checked (h : checkRequest env r b = (b', .ok filter)) :
    subscribe env r b =
      enterAndTell (b'.context env)
        (requested env r filter (contacted env r b').nextSubscription)
        { contacted env r b' with
          nextSubscription := (contacted env r b').nextSubscription + 1 } :=
  subscribe_of_ok h

/-- What is done before a subscription is entered. -/
theorem lasting_contacted {R : Broker → Broker → Prop} (h : Lasting R)
    (hbegin : Lasting.Beginning R r.client) (htouch : Lasting.Touching R r.client env.now)
    (hasked : OnlyAsked b b') : R b (contacted env r b') :=
  h.trans (h.trans (h.onlyAsked hasked) (h.connectIn hbegin (h.context env b') b')) (htouch _)

theorem sheds_contacted (hasked : OnlyAsked b b') : Sheds b (contacted env r b') :=
  lasting_contacted lasting_sheds (fun _ _ => sheds_of_destinations_eq rfl)
    (fun b => sheds_onSession b r.client _) hasked

theorem calms_contacted (hasked : OnlyAsked b b') : Calms b (contacted env r b') :=
  lasting_contacted lasting_calms (beginning_calms r.client) (fun b => setting_calms r.client b _)
    hasked

theorem keeps_contacted (env : Environment) (r : SubscribeRequest) (b : Broker) :
    Keeps b (contacted env r (checkRequest env r b).1) := by
  have hchecked := keeps_of_books_eq (checkRequest_spec env r b).1
  have hctx := keeps_context env (checkRequest env r b).1
  have hconnected := hchecked.trans (keeps_connectIn hctx r.client (checkRequest env r b).1)
  exact hconnected.trans (keeps_of_books_eq (books_touch r.client env.now _))

/-- The subscription that is made of a request has the filter that was asked for. -/
theorem key_requested (h : (checkRequest env r b).2 = .ok filter) (n : SubscriptionId) :
    (requested env r filter n).key = r.key := by
  obtain ⟨-, ⟨e, he, -⟩ | ⟨filter', hfilter, -, hvalue⟩⟩ := checkRequest_cases env r b
  · cases he.symm.trans h
  · obtain rfl := Except.ok.inj (hfilter.symm.trans h)
    rw [SubscribeRequest.key, ← hvalue]
    rfl

/-- A request is granted unless its subscription is gone when it comes to the answer. -/
theorem introduce_cases (ctx : Context) (s : Subscription) (b : Broker) :
    (introduce ctx s b).2 = .ok s.id ∨
      (introduce ctx s b).1.registered? s.destination s.id = none := by
  have hgone {b : Broker} (h : (!isRegistered s b) = true) :
      b.registered? s.destination s.id = none := by
    rw [Bool.not_eq_true'] at h
    exact Option.not_isSome_iff_eq_none.mp (Bool.eq_false_iff.mp h)
  rw [introduce]
  dsimp only
  split
  next h => exact .inr (hgone h)
  next =>
    split
    next h => exact .inr (hgone h)
    next => exact .inl rfl

/-- A request for what is there already changes nothing. -/
theorem fst_enter_of_existing (h : (enter s b).2.existing = true) : (enter s b).1 = b := by
  cases hd : b.destination? s.destination with
  | none => rw [enter, hd]
  | some d =>
    cases hfind : (d.registry.ofClient s.client).find? s.sameFilter with
    | some old => rw [enter_of_existing hd hfind]
    | none =>
      rw [(enter_of_new hd hfind).1] at h
      cases h

/-- A subscription that is new is introduced. -/
theorem enterAndTell_of_new (h : (enter s b).2.existing = false) :
    enterAndTell ctx s b = introduce ctx s (enter s b).1 := by
  rw [enterAndTell]
  dsimp only
  rw [h, if_neg Bool.false_ne_true]

/-- What is registered after a subscription was entered and told of was registered before, or
it is that subscription, and then it was granted. -/
theorem registered?_of_enterAndTell (hctx : ctx.Within Sheds)
    (hsorted : (enterAndTell ctx s b).1.Sorted)
    (ht : (enterAndTell ctx s b).1.registered? id n = some t) :
    b.registered? id n = some t ∨
      t = s ∧ id = s.destination ∧ (enterAndTell ctx s b).2 = .ok n := by
  obtain ⟨d, hd, hget⟩ := Option.bind_eq_some_iff.mp ht
  obtain ⟨hsound, hhome⟩ := hsorted id d hd
  have hplace : t.destination = id := hhome n t hget
  have hnumber : t.id = n := hsound.id_eq hget
  cases hexisting : (enter s b).2.existing with
  | true =>
    have hsame : (enterAndTell ctx s b).1 = b := by
      rw [enterAndTell]
      dsimp only
      rw [hexisting, if_pos rfl]
      exact fst_enter_of_existing hexisting
    exact .inl (hsame ▸ ht)
  | false =>
    rw [enterAndTell_of_new hexisting] at ht ⊢
    rcases registered?_of_enter (lasting_sheds.introduce hctx s _ _ _ _ ht) with rfl | hbefore
    · rcases introduce_cases ctx t (enter t b).1 with hok | hgone
      · exact .inr ⟨rfl, hplace.symm, hnumber ▸ hok⟩
      · rw [hplace, hnumber, ht] at hgone
        cases hgone
    · exact .inl hbefore

/-- What is registered after a request was registered before, or it has the filter that was
asked for, and the request was granted. -/
theorem registered?_of_subscribe (hb : b.IsReachable)
    (ht : (subscribe env r b).1.registered? id n = some t) :
    b.registered? id n = some t ∨
      id = r.destination ∧ t.key = r.key ∧ (subscribe env r b).2 = .ok n := by
  have hasked := (checkRequest_cases env r b).1
  cases hcheck : (checkRequest env r b).2 with
  | error e =>
    rw [subscribe_of_error (Prod.ext rfl hcheck)] at ht
    exact .inl (lasting_sheds.onlyAsked hasked _ _ _ ht)
  | ok filter =>
    have hsorted : (subscribe env r b).1.Sorted := (hb.run [(env, .subscribe r)]).sorted
    rw [subscribe_of_checked (Prod.ext rfl hcheck)] at ht hsorted ⊢
    rcases registered?_of_enterAndTell (lasting_sheds.context env _) hsorted ht with
      hbefore | ⟨rfl, hplace, hok⟩
    · exact .inl (sheds_contacted hasked _ _ _ hbefore)
    · exact .inr ⟨hplace, key_requested hcheck _, hok⟩

/-! ## Until something is granted -/

/-- No subscription with a wanted key is registered at a destination. -/
def Vacant (wanted : SubscriptionKey → Prop) (id : DestinationId) (b : Broker) : Prop :=
  ∀ n s, b.registered? id n = some s → ¬wanted s.key

/-- No step of a run grants a request of a kind. -/
def GrantsNone (kind : SubscribeRequest → Prop) :
    Broker → List (Environment × Operation) → Prop
  | _, [] => True
  | b, step :: steps =>
    (∀ r n, step.2 = .subscribe r → kind r →
      (perform step.1 b step.2).2 ≠ .subscribed (.ok n)) ∧
    GrantsNone kind (perform step.1 b step.2).1 steps

theorem Vacant.perform (h : b.Vacant wanted id) (hb : b.IsReachable) (env : Environment)
    (op : Operation) (hnone : ∀ r n, op = .subscribe r → r.destination = id ∧ wanted r.key →
      (perform env b op).2 ≠ .subscribed (.ok n)) : (perform env b op).1.Vacant wanted id := by
  intro n s hs
  cases op with
  | subscribe r =>
    rcases registered?_of_subscribe hb hs with hbefore | ⟨rfl, hkey, hok⟩
    · exact h n s hbefore
    · intro hwanted
      exact hnone r n rfl ⟨rfl, hkey ▸ hwanted⟩ (congrArg Outcome.subscribed hok)
  | _ => exact h n s (sheds_perform env (by exact fun _ hc => hc) b id n s hs)

/-- As long as no request for wanted keys of a destination is granted, nobody has them. -/
theorem Vacant.run (h : b.Vacant wanted id) (hb : b.IsReachable)
    (steps : List (Environment × Operation))
    (hnone : GrantsNone (fun r => r.destination = id ∧ wanted r.key) b steps) :
    (b.run steps).Vacant wanted id := by
  induction steps generalizing b with
  | nil => exact h
  | cons step steps ih =>
    exact ih (h.perform hb step.1 step.2 hnone.1) (hb.run [step]) hnone.2

/-! ## Messages -/

/-- Where there are no subscriptions, a message that fans out has no recipients. -/
theorem recipients_of_vacant {m : Message} {entry : Entry} {result : RouteResult}
    (hb : b.IsReachable) (hvacant : b.Vacant (fun _ => True) m.destination)
    (hroute : entry.route env m b = (b', .ok result)) (houtcome : result.outcome = .delivered) :
    result.recipients = 0 := by
  obtain ⟨d, ts, b₁, propagate, hlocated, hscene, -, hfanout⟩ :=
    reachesFanout_of_route hroute houtcome
  obtain ⟨hd, -, hts⟩ := locate_eq_ok hlocated
  obtain ⟨rs, -, hfans⟩ :=
    fanout_spec hb (aside_context env b) hd hts hscene (entry.only m) propagate
  rw [hfanout] at hfans
  have hnone : rs = [] := by
    apply List.eq_nil_iff_forall_not_mem.mpr
    intro recipient hrecipient
    obtain ⟨-, s, hmatches, -⟩ :=
      (hfans.recipients recipient.client).mp ⟨recipient, hrecipient, rfl⟩
    exact hvacant s.id s (Option.bind_eq_some_iff.mpr ⟨d, hd, hmatches.1⟩) trivial
  rw [hfans.tallies.recipients, hnone]
  rfl

/-! ## First subscriptions -/

end Broker

/-- The first subscription of a key leaves the appearance of the key to be told of. -/
theorem Registry.Sound.pending_insert {r : Registry} {s : Subscription} (h : r.Sound)
    (htracking : r.tracking = true) (hfind : (r.ofClient s.client).find? s.sameFilter = none)
    (hfirst : ∀ t ∈ r.toList, t.key ≠ s.key) :
    (r.insert s).1.pending = r.pending ++ [⟨s.key, .added⟩] := by
  rw [insert_of_new hfind]
  exact if_pos ⟨htracking, (h.getD_keyCounts_eq_zero_iff s.key).mpr hfirst⟩

namespace Broker

variable {env : Environment} {b b' b'' : Broker} {ctx : Context} {id : DestinationId}
  {d : Destination} {n : SubscriptionId} {s t : Subscription} {r : SubscribeRequest}
  {change : KeyChange} {rest : List KeyChange}

theorem mem_entriesSince {e : Event} (h : b.journal <+: b'.journal)
    (h' : (b'.record e).journal <+: b''.journal) : e ∈ entriesSince b b'' := by
  have hrecord : b'.journal <+: (b'.record e).journal := List.prefix_append _ _
  rw [entriesSince_trans (h.trans hrecord) h', entriesSince_trans h hrecord,
    entriesSince_of_eq_append (show (b'.record e).journal = b'.journal ++ [e] from rfl)]
  simp

theorem prefix_tellChange (hctx : ctx.Within fun b b' => b.journal <+: b'.journal)
    (hcluster : ctx.env.cluster.isSome = true) (id : DestinationId) (change : KeyChange)
    (b : Broker) :
    (b.record (.change id change)).journal <+: (tellChange ctx id change b).journal := by
  have hlog (b : Broker) (level : LogLevel) (text : String) :
      b.journal <+: (b.log level text).journal := List.prefix_append _ _
  obtain ⟨cluster, hcluster⟩ := Option.isSome_iff_exists.mp hcluster
  rw [tellChange, hcluster]
  dsimp only
  cases cluster.callback id change with
  | none =>
    cases cluster.tellChange id change with
    | ok _ => exact List.prefix_rfl
    | error fault => exact hlog _ _ _
  | some callback =>
    have hcalled := hctx callback (b.record (.change id change))
    cases cluster.tellChange id change with
    | ok _ => exact hcalled
    | error fault => exact hcalled.trans (hlog _ _ _)

/-- A round of telling begins with the oldest change. -/
theorem prefix_announce (hctx : ctx.Within fun b b' => b.journal <+: b'.journal)
    (hcluster : ctx.env.cluster.isSome = true) (hd : b.destination? id = some d)
    (hidle : d.announcing = false) (hpending : d.registry.pending = change :: rest) :
    (b.record (.change id change)).journal <+: (announce ctx id b).journal := by
  obtain ⟨fuel, hfuel⟩ : ∃ fuel, d.registry.load = fuel + 1 :=
    ⟨rest.length + d.registry.size, by rw [Registry.load, hpending, List.length_cons]; omega⟩
  let flagged (d : Destination) : Destination := { d with announcing := true }
  let popped := (b.onDestination id flagged).onDestination id fun d =>
    { d with registry := d.registry.pop.1 }
  have hbegun : (b.onDestination id flagged).destination? id = some (flagged d) :=
    destination?_onDestination_self flagged (fun _ => rfl) hd
  have htold : (b.record (.change id change)).journal <+:
      (tellChange ctx id change popped).journal := prefix_tellChange hctx hcluster id change popped
  have hall := lasting_prefix.tellChanges (fun _ _ _ _ => List.prefix_rfl) hctx id fuel
    (tellChange ctx id change popped)
  rw [announce_of_idle hd hidle, hfuel, tellChanges_of_pending_eq_cons hbegun hpending]
  exact htold.trans hall

/-- A request is granted only if its client still has a session when it is entered. -/
theorem contains_of_introduce (hctx : ctx.Within Sheds) (h : (introduce ctx s b).2 = .ok n) :
    b.sessions.contains s.client = true := by
  cases hlive : b.sessions.contains s.client with
  | true => rfl
  | false =>
    let taken := (takeOut s.destination (takeOne s.id) b).1
    have hdropped : Sheds taken (dropOrphan ctx s b) := by
      rw [dropOrphan_of_not_contains hlive]
      exact lasting_sheds.foldl (fun b => b)
        (lasting_sheds.detach hctx s.destination .disconnect) _ taken
    have hannounced : Sheds taken (announce ctx s.destination (dropOrphan ctx s b)) :=
      lasting_sheds.trans hdropped (lasting_sheds.announce hctx _ _)
    have hgone : (!isRegistered s (announce ctx s.destination (dropOrphan ctx s b))) = true := by
      rw [Bool.not_eq_true', Bool.eq_false_iff]
      intro hthere
      obtain ⟨t, ht⟩ := Option.isSome_iff_exists.mp hthere
      have htaken := hannounced s.destination s.id t ht
      rw [registered?_takeOut_one, if_pos ⟨rfl, rfl⟩] at htaken
      cases htaken
    rw [introduce] at h
    dsimp only at h
    rw [if_pos hgone] at h
    cases h

theorem prefix_introduce (hctx : ctx.Within fun b b' => b.journal <+: b'.journal)
    (hlive : b.sessions.contains s.client = true) :
    (announce ctx s.destination b).journal <+: (introduce ctx s b).1.journal := by
  rw [introduce, dropOrphan_of_contains hlive]
  dsimp only
  split
  · exact List.prefix_rfl
  · have htold := lasting_prefix.notify (n := .subscribed s) hctx trivial
      (b := announce ctx s.destination b)
    split
    · exact htold
    · exact htold

/-- A subscription with a key that nobody has is new when it is entered, and leaves the
appearance of its key to be told of. -/
theorem enter_of_vacant (hd : b.destination? s.destination = some d) (hsound : d.registry.Sound)
    (htracking : d.registry.tracking = true) (hnone : d.registry.pending = [])
    (hvacant : b.Vacant (· = s.key) s.destination) :
    (enter s b).2.existing = false ∧
      ∃ d', (enter s b).1.destination? s.destination = some d' ∧
        d'.registry.pending = [⟨s.key, .added⟩] ∧ d'.announcing = d.announcing := by
  have hother {t : Subscription} (ht : d.registry.get? t.id = some t) : t.key ≠ s.key :=
    hvacant t.id t (Option.bind_eq_some_iff.mpr ⟨d, hd, ht⟩)
  have hfind : (d.registry.ofClient s.client).find? s.sameFilter = none := by
    cases hold : (d.registry.ofClient s.client).find? s.sameFilter with
    | none => rfl
    | some old =>
      obtain ⟨hget, -⟩ := (hsound.mem_ofClient s.client).mp (List.mem_of_find?_eq_some hold)
      obtain ⟨hsubtopic, hselector⟩ := Subscription.sameFilter_iff.mp (List.find?_some hold)
      refine absurd ?_ (hother hget)
      rw [Subscription.key, Subscription.key, hsubtopic, hselector]
  let put (d' : Destination) : Destination := { d' with registry := (d.registry.insert s).1 }
  obtain ⟨f, hf, hdestinations⟩ := (alike_enter hd hfind).destinations
  have hput : (b.onDestination s.destination put).destination? s.destination = some (put d) :=
    destination?_onDestination_self put (fun _ => rfl) hd
  refine ⟨(enter_of_new hd hfind).1, f (put d), ?_, ?_, (hf (put d)).announcing⟩
  · rw [destination?_map (fun d => (hf d).id) hdestinations, hput]
    rfl
  · rw [(hf (put d)).registry]
    show (d.registry.insert s).1.pending = _
    rw [hsound.pending_insert htracking hfind fun t ht => hother (hsound.mem_toList.mp ht), hnone]
    rfl

/-- When a subscription is entered and granted with a key that nobody has, the other nodes are
told that the key has appeared. -/
theorem prefix_enterAndTell (hctx : ctx.Within fun b b' => b.journal <+: b'.journal)
    (hctx' : ctx.Within Sheds) (hcluster : ctx.env.cluster.isSome = true)
    (hd : b.destination? s.destination = some d) (hsound : d.registry.Sound)
    (hrests : d.Rests) (hmode : d.settings.routingMode = .serverToServer)
    (hnone : d.registry.pending = []) (hvacant : b.Vacant (· = s.key) s.destination)
    (hok : (enterAndTell ctx s b).2 = .ok n) :
    (b.record (.change s.destination ⟨s.key, .added⟩)).journal <+:
      (enterAndTell ctx s b).1.journal := by
  have htracking : d.registry.tracking = true := by rw [hrests.tracking, hmode]; rfl
  obtain ⟨hnew, d', hd', hpending, hidle⟩ := enter_of_vacant hd hsound htracking hnone hvacant
  rw [enterAndTell_of_new hnew] at hok ⊢
  have hannounced :=
    prefix_announce hctx hcluster hd' (hidle.trans hrests.idle) hpending
  have hentered : (enter s b).1.journal = b.journal := journal_enter s b
  rw [record, hentered] at hannounced
  exact hannounced.trans (prefix_introduce hctx (contains_of_introduce hctx' hok))

/-- When a request for a key that nobody has is granted, the other nodes are told that the key
has appeared. -/
theorem change_mem_of_subscribe (hb : b.IsReachable) (hd : b.destination? r.destination = some d)
    (hmode : d.settings.routingMode = .serverToServer) (hcluster : env.cluster.isSome = true)
    (hvacant : b.Vacant (· = r.key) r.destination) (hok : (subscribe env r b).2 = .ok n) :
    Event.change r.destination ⟨r.key, .added⟩ ∈ entriesSince b (subscribe env r b).1 := by
  have hasked := (checkRequest_cases env r b).1
  cases hcheck : (checkRequest env r b).2 with
  | error e =>
    rw [subscribe_of_error (Prod.ext rfl hcheck)] at hok
    cases hok
  | ok filter =>
    rw [subscribe_of_checked (Prod.ext rfl hcheck)] at hok ⊢
    have hsheds : Sheds b (contacted env r (checkRequest env r b).1) := sheds_contacted hasked
    have hcalms : Calms b (contacted env r (checkRequest env r b).1) := calms_contacted hasked
    have hprefix : b.journal <+: (contacted env r (checkRequest env r b).1).journal :=
      lasting_contacted lasting_prefix (fun _ _ => List.prefix_rfl)
        (fun b => (congrArg (b.journal <+: ·) (journal_onSession b r.client _)).mpr
          List.prefix_rfl) hasked
    obtain ⟨strays, haccounted⟩ := hb.accounted
    obtain ⟨d', hd', hsame⟩ := hcalms.exists_destination? hd
    obtain ⟨hrests, hnone⟩ := hb.atRest.calms hcalms r.destination d' hd'
    have hsound : d'.registry.Sound :=
      sound_registry (keeps_contacted env r b strays haccounted).1 (mem_of_destination? hd').1
    have hkey := key_requested hcheck
      (contacted env r (checkRequest env r b).1).nextSubscription
    have hadds := lasting_prefix.context env (checkRequest env r b).1
    have htold := prefix_enterAndTell hadds (lasting_sheds.context env _) hcluster hd' hsound
      hrests (hsame.settings ▸ hmode) (hnone not_false)
      (fun n s hs => hkey ▸ hvacant n s (hsheds _ n s hs)) hok
    rw [hkey] at htold
    exact mem_entriesSince hprefix htold

end Broker

end MessageBroker
