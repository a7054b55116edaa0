/-
# Queues between operations

Changes of keys wait in a queue to be told to the other nodes. They are told in rounds, and a
round takes as many turns as there were changes and subscriptions at its start. That is
enough: whoever is called back in the course of a round can only take subscriptions out, and
each of them that goes leaves at most one change behind. So the changes that are queued and
the subscriptions together never grow in number, and every turn takes a change away.

Whatever takes subscriptions out of a registry cleans up after them, and that ends with a
round. Therefore nothing waits between two operations, and no round is under way.
-/

import MessageBroker.Proofs.Broker.Absence

open Std

namespace MessageBroker

namespace Registry

/-- The turns that telling all changes can take at most. -/
def load (r : Registry) : Nat := r.pending.length + r.size

variable {r : Registry}

/-- Removing a subscription adds one change at most, and nothing happens without a
subscription. -/
theorem load_remove_le (r : Registry) (id : SubscriptionId) :
    (r.remove id).1.load ≤ r.load ∧ (r.remove id).1.tracking = r.tracking ∧
      ((r.remove id).2 = none → (r.remove id).1 = r) := by
  cases hget : r.get? id with
  | none =>
    rw [remove_of_none hget]
    exact ⟨Nat.le_refl _, rfl, fun _ => rfl⟩
  | some s =>
    have hsize := Maps.size_erase_of_some (m := r.subscriptions) hget
    rw [remove_of_some hget]
    refine ⟨?_, rfl, nofun⟩
    simp only [load, size]
    split
    · rw [List.length_append, List.length_singleton]
      omega
    · omega

theorem load_removeAll_le (ids : List SubscriptionId) (r : Registry) :
    (removeAll ids r).1.load ≤ r.load ∧ (removeAll ids r).1.tracking = r.tracking ∧
      ((removeAll ids r).2 = [] → (removeAll ids r).1 = r) := by
  induction ids generalizing r with
  | nil => exact ⟨Nat.le_refl _, rfl, fun _ => rfl⟩
  | cons id ids ih =>
    obtain ⟨hload, htracking, hsame⟩ := load_remove_le r id
    obtain ⟨hload', htracking', hsame'⟩ := ih (r.remove id).1
    refine ⟨Nat.le_trans hload' hload, htracking'.trans htracking, fun hnone => ?_⟩
    obtain ⟨hfirst, hrest⟩ := List.append_eq_nil_iff.mp
      (show (r.remove id).2.toList ++ (removeAll ids (r.remove id).1).2 = [] from hnone)
    exact (hsame' hrest).trans (hsame (Option.toList_eq_nil_iff.mp hfirst))

end Registry

/-- A destination has at most as much to tell as before, and unless a round of telling is
under way, it has nothing to tell if it had nothing before. -/
structure Destination.Calms (d d' : Destination) : Prop where
  id : d'.id = d.id
  settings : d'.settings = d.settings
  tracking : d'.registry.tracking = d.registry.tracking
  announcing : d'.announcing = d.announcing
  load : d'.registry.load ≤ d.registry.load
  settled : d.announcing = false → d.registry.pending = [] → d'.registry.pending = []

namespace Destination.Calms

variable {d d' d'' : Destination}

theorem of_alike (h : d.Alike d') : d.Calms d' where
  id := h.id
  settings := h.settings
  tracking := by rw [h.registry]
  announcing := h.announcing
  load := by rw [h.registry]
  settled _ hnone := by rw [h.registry, hnone]

theorem refl (d : Destination) : d.Calms d := of_alike (.refl d)

theorem trans (h : d.Calms d') (h' : d'.Calms d'') : d.Calms d'' where
  id := h'.id.trans h.id
  settings := h'.settings.trans h.settings
  tracking := h'.tracking.trans h.tracking
  announcing := h'.announcing.trans h.announcing
  load := Nat.le_trans h'.load h.load
  settled hidle hnone := h'.settled (h.announcing.trans hidle) (h.settled hidle hnone)

end Destination.Calms

namespace Broker

variable {b b' b'' : Broker} {id id' : DestinationId} {d d' : Destination} {ctx : Context}
  {env : Environment}

/-- No destination has more to tell than before. -/
abbrev Calms (b b' : Broker) : Prop := Lookups Destination.Calms b b'

theorem calms_of_destinations_eq (h : b'.destinations = b.destinations) : Calms b b' :=
  lookups_of_destinations_eq .refl h

theorem calms_of_alike (h : Alike b b') : Calms b b' := by
  obtain ⟨f, hf, hdestinations⟩ := h.destinations
  exact lookups_of_destination?_map (destination?_map (fun d => (hf d).id) hdestinations)
    fun _ d _ => .of_alike (hf d)

theorem steady_calms : Steady Calms :=
  ⟨Lookups.trans .trans, calms_of_alike, fun _ => calms_of_destinations_eq rfl⟩

/-! ## Rounds of telling -/

theorem calms_pop (b : Broker) (id : DestinationId) :
    Calms b (b.onDestination id fun d => { d with registry := d.registry.pop.1 }) := by
  refine lookups_onDestination .refl (fun _ => rfl) fun d _ => ?_
  have hpop : d.registry.pop.1.tracking = d.registry.tracking ∧
      d.registry.pop.1.load ≤ d.registry.load ∧
      (d.registry.pending = [] → d.registry.pop.1.pending = []) := by
    rw [Registry.pop]
    cases hpending : d.registry.pending with
    | nil => exact ⟨rfl, Nat.le_refl _, fun _ => hpending⟩
    | cons change rest =>
      refine ⟨rfl, ?_, fun hnone => absurd hnone (List.cons_ne_nil _ _)⟩
      simp only [Registry.load, Registry.size, hpending, List.length_cons]
      omega
  exact ⟨rfl, rfl, hpop.1, rfl, hpop.2.1, fun _ => hpop.2.2⟩

theorem calms_tellChanges (hctx : ctx.Within Calms) (id : DestinationId) (fuel : Nat)
    (b : Broker) : Calms b (tellChanges ctx id fuel b) := by
  induction fuel generalizing b with
  | zero => exact steady_calms.refl b
  | succ fuel ih =>
    rw [tellChanges]
    split
    · exact steady_calms.refl b
    next change _ =>
      exact steady_calms.trans
        (steady_calms.trans (calms_pop b id) (steady_calms.tellChange hctx id change _)) (ih _)

/-- Enough turns tell all changes. -/
theorem pending_tellChanges (hctx : ctx.Within Calms) {fuel : Nat}
    (hd : b.destination? id = some d) (hfuel : d.registry.load ≤ fuel)
    (hd' : (tellChanges ctx id fuel b).destination? id = some d') : d'.registry.pending = [] := by
  induction fuel generalizing b d with
  | zero =>
    obtain rfl := Option.some.inj (hd.symm.trans hd')
    exact List.eq_nil_of_length_eq_zero
      (Nat.add_eq_zero_iff.mp (Nat.le_zero.mp hfuel)).1
  | succ fuel ih =>
    rw [tellChanges] at hd'
    rw [hd] at hd'
    dsimp only [Option.bind] at hd'
    cases hpending : d.registry.pending with
    | nil =>
      rw [hpending] at hd'
      obtain rfl := Option.some.inj (hd.symm.trans hd')
      exact hpending
    | cons change rest =>
      rw [hpending] at hd'
      let popped := b.onDestination id fun d => { d with registry := d.registry.pop.1 }
      have hpopped : popped.destination? id =
          some { d with registry := d.registry.pop.1 } :=
        destination?_onDestination_self (fun d => { d with registry := d.registry.pop.1 })
          (fun _ => rfl) hd
      obtain ⟨d₁, hd₁, hcalms⟩ :=
        (steady_calms.tellChange hctx id change popped).exists_destination? hpopped
      have hone : d.registry.pop.1.load + 1 = d.registry.load := by
        simp only [Registry.pop, hpending, Registry.load, Registry.size, List.length_cons]
        omega
      have hload := hcalms.load
      exact ih hd₁ (by dsimp only at hload; omega) hd'

theorem announce_of_idle (hd : b.destination? id = some d) (hidle : d.announcing = false) :
    announce ctx id b =
      (tellChanges ctx id d.registry.load
        (b.onDestination id fun d => { d with announcing := true })).onDestination id
          fun d => { d with announcing := false } := by
  rw [announce, hd]
  dsimp only
  rw [hidle]
  rfl

theorem announce_of_announcing (hd : b.destination? id = some d) (hbusy : d.announcing = true) :
    announce ctx id b = b := by
  rw [announce, hd]
  dsimp only
  rw [hbusy, if_pos rfl]

/-- What a whole round of telling leaves of a destination. -/
theorem announce_of_idle_spec (hctx : ctx.Within Calms) (hd : b.destination? id = some d)
    (hidle : d.announcing = false) :
    ∃ d', (announce ctx id b).destination? id = some d' ∧ d.Calms d' ∧
      d'.registry.pending = [] ∧
      ∀ id' ≠ id, Option.Rel Destination.Calms (b.destination? id')
        ((announce ctx id b).destination? id') := by
  have hbegun : (b.onDestination id fun d => { d with announcing := true }).destination? id =
      some { d with announcing := true } :=
    destination?_onDestination_self (fun d => { d with announcing := true }) (fun _ => rfl) hd
  have htold := calms_tellChanges hctx id d.registry.load
    (b.onDestination id fun d => { d with announcing := true })
  obtain ⟨d₁, hd₁, hcalms⟩ := htold.exists_destination? hbegun
  have hempty : d₁.registry.pending = [] := by
    apply pending_tellChanges hctx hbegun _ hd₁
    exact Nat.le_refl d.registry.load
  rw [announce_of_idle hd hidle]
  generalize tellChanges ctx id d.registry.load
    (b.onDestination id fun d => { d with announcing := true }) = told at htold hd₁
  refine ⟨{ d₁ with announcing := false },
    destination?_onDestination_self (fun d => { d with announcing := false }) (fun _ => rfl) hd₁,
    ⟨hcalms.id, hcalms.settings, hcalms.tracking, hidle.symm, hcalms.load, fun _ _ => hempty⟩,
    hempty, fun id' hid => ?_⟩
  have hother := htold id'
  rw [destination?_onDestination_of_ne (fun d => { d with announcing := true }) (fun _ => rfl)
    hid] at hother
  rw [destination?_onDestination_of_ne (fun d => { d with announcing := false }) (fun _ => rfl)
    hid]
  exact hother

/-- A round of telling leaves nothing to be told, unless another round is under way. -/
theorem announce_spec (hctx : ctx.Within Calms) (id : DestinationId) (b : Broker) :
    Calms b (announce ctx id b) ∧
      ∀ d d', b.destination? id = some d → d.announcing = false →
        (announce ctx id b).destination? id = some d' → d'.registry.pending = [] := by
  cases hd : b.destination? id with
  | none =>
    have hsame : announce ctx id b = b := by rw [announce, hd]
    rw [hsame]
    refine ⟨steady_calms.refl b, fun d _ hd₀ => ?_⟩
    cases hd₀
  | some d =>
    cases hround : d.announcing with
    | true =>
      rw [announce_of_announcing hd hround]
      refine ⟨steady_calms.refl b, fun d₀ _ hd₀ hidle => ?_⟩
      obtain rfl := Option.some.inj hd₀
      cases hround.symm.trans hidle
    | false =>
      obtain ⟨d', hd', hcalms, hempty, hothers⟩ := announce_of_idle_spec hctx hd hround
      constructor
      · intro id'
        by_cases hid : id' = id
        · rw [hid, hd, hd']
          exact .some hcalms
        · exact hothers id' hid
      · intro _ d'' _ _ hd''
        obtain rfl := Option.some.inj (hd'.symm.trans hd'')
        exact hempty

theorem calms_detach (hctx : ctx.Within Calms) (id : DestinationId) (reason : UnsubscribeReason)
    (b : Broker) (s : Subscription) : Calms b (detach ctx id reason b s) :=
  steady_calms.detach (fun id b => (announce_spec hctx id b).1) hctx id reason b s

/-- Cleaning up after a subscription leaves nothing to be told, unless a round is under
way. -/
theorem pending_detach (hctx : ctx.Within Calms) (reason : UnsubscribeReason) (s : Subscription)
    (hd : b.destination? id = some d) (hidle : d.announcing = false)
    (hd' : (detach ctx id reason b s).destination? id = some d') : d'.registry.pending = [] := by
  have hstruck := calms_of_alike (alike_strike id s b)
  have htold : Calms (b.strike id s) (notify ctx (.unsubscribed s reason) (b.strike id s)) :=
    steady_calms.notify hctx trivial
  obtain ⟨d₁, hd₁, hcalms⟩ := (steady_calms.trans hstruck htold).exists_destination? hd
  rw [detach_eq] at hd'
  exact (announce_spec hctx id _).2 d₁ d' hd₁ (hcalms.announcing.trans hidle) hd'

/-- Taking subscriptions out of a registry and cleaning up after them leaves nothing to be
told that was not to be told before. -/
theorem calms_remove (hctx : ctx.Within Calms) {take : Registry → Registry × List Removed}
    (htake : Registry.IsRemoval take) (id : DestinationId) (reason : UnsubscribeReason)
    (b : Broker) :
    Calms b (((takeOut id take b).2.map (·.subscription)).foldl (detach ctx id reason)
      (takeOut id take b).1) := by
  have hfold (subs : List Subscription) (b : Broker) :
      Calms b (subs.foldl (detach ctx id reason) b) :=
    steady_calms.foldl (fun b => b) (calms_detach hctx id reason) subs b
  rw [takeOut]
  cases hd : b.destination? id with
  | none => exact steady_calms.refl b
  | some d =>
    obtain ⟨ids, hids⟩ := htake d.registry
    obtain ⟨hload, htracking, hsame⟩ := Registry.load_removeAll_le ids d.registry
    dsimp only
    rw [hids]
    let replace : Destination → Destination :=
      fun d' => { d' with registry := (Registry.removeAll ids d.registry).1 }
    let taken := b.onDestination id replace
    have htaken : taken.destination? id = some (replace d) :=
      destination?_onDestination_self replace (fun _ => rfl) hd
    show Calms b (((Registry.removeAll ids d.registry).2.map (·.subscription)).foldl
      (detach ctx id reason) taken)
    cases hremoved : (Registry.removeAll ids d.registry).2 with
    | nil =>
      refine lookups_onDestination .refl (fun _ => rfl) fun d₀ hd₀ => .of_alike ⟨rfl, rfl, ?_, rfl⟩
      obtain rfl := Option.some.inj (hd.symm.trans hd₀)
      exact hsame hremoved
    | cons first rest =>
      -- The first round that follows takes the place of an empty queue at the start.
      rw [List.map_cons, List.foldl_cons]
      have hfirst := calms_detach hctx id reason taken first.subscription
      have hrest := hfold (rest.map (·.subscription))
        (detach ctx id reason taken first.subscription)
      apply steady_calms.trans _ hrest
      intro id'
      by_cases hid : id' = id
      · subst hid
        obtain ⟨d₁, hd₁, hcalms⟩ := hfirst.exists_destination? htaken
        rw [hd, hd₁]
        refine .some ⟨hcalms.id, hcalms.settings, hcalms.tracking.trans htracking,
          hcalms.announcing, Nat.le_trans hcalms.load hload, fun hidle _ => ?_⟩
        exact pending_detach hctx reason first.subscription htaken hidle hd₁
      · have hother := hfirst id'
        rw [destination?_onDestination_of_ne replace (fun _ => rfl) hid] at hother
        exact hother

theorem lasting_calms : Lasting Calms where
  toSteady := steady_calms
  close {b c _} _ :=
    lookups_of_destination?_map (f := fun d => { d with limiter := d.limiter.removeClient c })
      (destination?_map (fun _ => rfl) rfl) fun _ _ _ => .of_alike ⟨rfl, rfl, rfl, rfl⟩
  clear {b id d} hd := by
    refine lookups_onDestination .refl (fun _ => rfl) fun d₀ hd₀ => ?_
    obtain rfl := Option.some.inj (hd.symm.trans hd₀)
    refine ⟨rfl, rfl, rfl, rfl, ?_, fun _ hnone => hnone⟩
    simp [Registry.load, Registry.clear, Registry.empty, Registry.size]
  announce hctx id b := (announce_spec hctx id b).1
  remove hctx := calms_remove hctx

/-! ## Between operations -/

end Broker

/-- No round of telling is under way at a destination, and its registry tracks the changes of
its keys exactly when its subscriptions are shared between nodes. -/
structure Destination.Rests (d : Destination) : Prop where
  idle : d.announcing = false
  tracking : d.registry.tracking = decide (d.settings.routingMode = .serverToServer)

namespace Broker

/-- Nothing waits to be told, except perhaps at some destinations. -/
def Rests (busy : DestinationId → Prop) (b : Broker) : Prop :=
  ∀ id d, b.destination? id = some d → d.Rests ∧ (¬busy id → d.registry.pending = [])

theorem Rests.calms {busy : DestinationId → Prop} (hb : Rests busy b) (h : Calms b b') :
    Rests busy b' := by
  intro id d' hd'
  obtain ⟨d, hd, hcalms⟩ := h.exists_of_destination? hd'
  obtain ⟨hrests, hnone⟩ := hb _ _ hd
  refine ⟨⟨hcalms.announcing.trans hrests.idle, ?_⟩,
    fun hid => hcalms.settled hrests.idle (hnone hid)⟩
  rw [hcalms.tracking, hcalms.settings, hrests.tracking]

/-- Nothing waits to be told at any destination. -/
abbrev AtRest (b : Broker) : Prop := Rests (fun _ => False) b

/-- A subscription that is entered may leave something to be told at its destination. -/
theorem rests_enter (hb : AtRest b) (s : Subscription) :
    Rests (· = s.destination) (enter s b).1 := by
  have hsame : Rests (· = s.destination) b :=
    fun _ _ hd => ⟨(hb _ _ hd).1, fun _ => (hb _ _ hd).2 not_false⟩
  cases hd : b.destination? s.destination with
  | none =>
    have hunchanged : (enter s b).1 = b := by
      rw [enter]
      rw [hd]
    rw [hunchanged]
    exact hsame
  | some d =>
    cases hfind : (d.registry.ofClient s.client).find? s.sameFilter with
    | some old =>
      rw [enter_of_existing hd hfind]
      exact hsame
    | none =>
      apply Rests.calms _ (calms_of_alike (alike_enter hd hfind))
      let put (d' : Destination) : Destination :=
        { d' with registry := (d.registry.insert s).1 }
      intro id' d' hd'
      by_cases hid : id' = s.destination
      · subst hid
        have hinserted := destination?_onDestination_self put (fun _ => rfl) hd
        obtain rfl := Option.some.inj (hinserted.symm.trans hd')
        have hrests := (hb _ _ hd).1
        exact ⟨⟨hrests.idle, (d.registry.tracking_insert s).trans hrests.tracking⟩,
          fun hother => absurd rfl hother⟩
      · have hother := destination?_onDestination_of_ne put (fun _ => rfl) hid b
        exact hsame _ _ (hother.symm.trans hd')

theorem Rests.announce {id : DestinationId} (hb : b.Rests (· = id)) (hctx : ctx.Within Calms) :
    AtRest (announce ctx id b) := by
  obtain ⟨hcalms, hempty⟩ := announce_spec hctx id b
  intro id' d' hd'
  obtain ⟨d, hd, -⟩ := hcalms.exists_of_destination? hd'
  apply And.intro (hb.calms hcalms _ _ hd').1
  intro _
  by_cases hid : id' = id
  · subst hid
    exact hempty d d' hd (hb _ _ hd).1.idle hd'
  · exact (hb.calms hcalms _ _ hd').2 hid

theorem atRest_enterAndTell (hb : AtRest b) (hctx : ctx.Within Calms) (s : Subscription) :
    AtRest (enterAndTell ctx s b).1 := by
  cases hexisting : (enter s b).2.existing with
  | true =>
    have hunchanged : enter s b = (b, (enter s b).2) := by
      cases hd : b.destination? s.destination with
      | none =>
        rw [enter]
        rw [hd]
      | some d =>
        cases hfind : (d.registry.ofClient s.client).find? s.sameFilter with
        | some old => rw [enter_of_existing hd hfind]
        | none =>
          rw [(enter_of_new hd hfind).1] at hexisting
          cases hexisting
    rw [enterAndTell, hunchanged]
    dsimp only
    rw [hexisting, if_pos rfl]
    exact hb
  | false =>
    have hentered := rests_enter hb s
    have hannounced := (hentered.calms (lasting_calms.dropOrphan hctx s _)).announce hctx
    have htold := hannounced.calms (lasting_calms.notify (n := .subscribed s) hctx trivial)
    rw [enterAndTell]
    dsimp only
    rw [hexisting, if_neg Bool.false_ne_true, introduce]
    dsimp only
    split
    · exact hannounced
    · split
      · exact htold
      · exact htold

theorem beginning_calms (c : ClientId) : Lasting.Beginning Calms c :=
  fun _ _ => calms_of_destinations_eq rfl

theorem setting_calms (c : ClientId) : Lasting.Setting Calms c :=
  fun _ _ => calms_of_destinations_eq destinations_onSession

theorem atRest_subscribe (hb : AtRest b) (env : Environment) (r : SubscribeRequest) :
    AtRest (subscribe env r b).1 := by
  have hasked := hb.calms (lasting_calms.onlyAsked (checkRequest_cases env r b).1)
  cases hcheck : (checkRequest env r b).2 with
  | error e =>
    rw [subscribe_of_error (Prod.ext rfl hcheck)]
    exact hasked
  | ok filter =>
    have hctx := lasting_calms.context env (checkRequest env r b).1
    have hconnected := hasked.calms (lasting_calms.connectIn (beginning_calms r.client) hctx _)
    have htouched := hconnected.calms (setting_calms r.client _ (·.touch env.now))
    rw [subscribe_of_ok (Prod.ext rfl hcheck)]
    apply atRest_enterAndTell _ hctx
    exact htouched.calms (calms_of_destinations_eq rfl)

theorem atRest_perform (hb : AtRest b) (env : Environment) (op : Operation) :
    AtRest (perform env b op).1 := by
  cases op with
  | subscribe r => exact atRest_subscribe hb env r
  | _ =>
    apply hb.calms
    apply lasting_calms.perform fun c _ => beginning_calms c
    · exact fun c now _ b => setting_calms c b _
    · apply lasting_calms.handing
      · exact fun b c m => steady_calms.trans (setting_calms c b _) (calms_of_destinations_eq rfl)
      · exact fun _ _ _ => calms_of_destinations_eq rfl
    · exact fun c _ => setting_calms c
    · exact nofun

theorem atRest_run (hb : AtRest b) (steps : List (Environment × Operation)) :
    AtRest (b.run steps) := by
  induction steps generalizing b with
  | nil => exact hb
  | cons step steps ih => exact ih (atRest_perform hb step.1 step.2)

theorem IsBuilt.atRest (h : b.IsBuilt) : AtRest b := by
  obtain ⟨raw, settings, equipment, -, hbuild⟩ := h
  obtain ⟨destinations, hall, rfl⟩ := destinations_of_build hbuild
  intro id d hd
  obtain ⟨s, -, hs⟩ := Except.exists_of_mem_of_mapM_eq_ok hall (mem_of_destination? hd).1
  unfold buildDestination at hs
  split at hs
  · cases hs
  · obtain ⟨_, -, hadapter⟩ := Except.exists_of_bind_eq_ok hs
    obtain ⟨adapter, -, hlimiter⟩ := Except.exists_of_bind_eq_ok hadapter
    obtain ⟨limiter, -, hsame⟩ := Except.exists_of_bind_eq_ok hlimiter
    cases hsame
    exact ⟨⟨rfl, rfl⟩, fun _ => rfl⟩

/-- Nothing waits to be told between operations. -/
theorem IsReachable.atRest (h : b.IsReachable) : AtRest b := by
  obtain ⟨b₀, hbuilt, steps, rfl⟩ := h
  exact atRest_run hbuilt.atRest steps

end Broker

end MessageBroker
