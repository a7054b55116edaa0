/-
# A broker with other limits

The limits that subscriptions ask for are not in the books and not in any answer. With other
limits the books are in as good an order, and a message takes the same way up to its fan-out: it
is refused for the same reason, kept by the same limiter or adapter, or located at the same
destination, and what is done on the way is the same.
-/

import MessageBroker.Proofs.Broker.Discretion
import MessageBroker.Proofs.Broker.Entries
import MessageBroker.Proofs.Registry.Retuning

open Std

namespace MessageBroker

variable {f : Subscription → Option Nat}

/-- A destination with other limits. -/
def Destination.retune (f : Subscription → Option Nat) (d : Destination) : Destination :=
  { d with registry := d.registry.retune f }

/-- Books with other limits. -/
def Books.retune (f : Subscription → Option Nat) (k : Books) : Books :=
  { k with shelves := k.shelves.map fun sh => { sh with registry := sh.registry.retune f } }

/-- A broker whose subscriptions ask for other limits. -/
def Broker.retune (f : Subscription → Option Nat) (b : Broker) : Broker :=
  { b with destinations := b.destinations.map (·.retune f) }

namespace Books

variable {k : Books} {strays : Strays} {id : DestinationId} {t : Subscription}

theorem holds_retune :
    (k.retune f).Holds id t ↔ ∃ s, k.Holds id s ∧ s.retune f = t := by
  constructor
  · rintro ⟨_, hmem, hid, hget⟩
    obtain ⟨sh, hsh, rfl⟩ := List.mem_map.mp hmem
    obtain ⟨s, hs, rfl⟩ := Registry.get?_retune_eq_some_iff.mp hget
    exact ⟨s, ⟨sh, hsh, hid, hs⟩, rfl⟩
  · rintro ⟨s, ⟨sh, hsh, hid, hget⟩, rfl⟩
    exact ⟨_, List.mem_map_of_mem hsh, hid, Registry.get?_retune_eq_some_iff.mpr ⟨s, hget, rfl⟩⟩

theorem Accounted.retune (h : k.Accounted strays) (f : Subscription → Option Nat) :
    (k.retune f).Accounted strays := by
  have hids : (k.retune f).shelves.map (·.id) = k.shelves.map (·.id) := by
    rw [Books.retune, List.map_map]
    rfl
  have hstray {i : SubscriptionId} {id : DestinationId} {p : Subscription → Prop}
      (hp : ∀ s, p s → p (s.retune f)) :
      (∃ s, p s ∧ (k.Holds id s ∨ (id, s) ∈ strays)) →
        ∃ s, p s ∧ ((k.retune f).Holds id s ∨ (id, s) ∈ strays) := by
    rintro ⟨s, hs, hheld | hmem⟩
    · exact ⟨s.retune f, hp s hs, .inl (holds_retune.mpr ⟨s, hheld, rfl⟩)⟩
    · exact ⟨s, hs, .inr hmem⟩
  constructor
  case ids => rw [hids]; exact h.ids
  case sound => exact List.forall_mem_map.mpr fun sh hsh => (h.sound sh hsh).retune f
  case readable =>
    exact List.forall_mem_map.mpr fun sh hsh => (h.readable sh hsh).imp_left (·.retune f)
  case home =>
    intro id t ht
    obtain ⟨s, hs, rfl⟩ := holds_retune.mp ht
    exact (h.home hs : s.destination = id ∧ s.id < k.next)
  case owned =>
    intro id t ht
    obtain ⟨s, hs, rfl⟩ := holds_retune.mp ht
    exact (h.owned hs : k.owners[s.id]? = _ ∧ k.listed s.client s.id = _)
  case stray =>
    intro id s hs
    obtain ⟨hlt, ⟨sh, hsh, hid⟩, hother⟩ := h.stray hs
    refine ⟨hlt, ⟨_, List.mem_map_of_mem hsh, hid⟩, fun hheld => ?_⟩
    obtain ⟨t, ht, rfl⟩ := holds_retune.mp hheld
    exact (hother ht : t.id ≠ s.id)
  case owners =>
    intro i id hi
    obtain ⟨s, hs, hheld⟩ := h.owners hi
    exact hstray (i := i) (p := fun s => s.id = i) (fun _ hs => hs) ⟨s, hs, hheld⟩
  case listings =>
    intro c i id hi
    obtain ⟨s, hs, hclient, hheld⟩ := h.listings hi
    obtain ⟨t, ⟨ht, hclient'⟩, hheld'⟩ := hstray (i := i)
      (p := fun s => s.id = i ∧ s.client = c) (fun _ hs => hs) ⟨s, ⟨hs, hclient⟩, hheld⟩
    exact ⟨t, ht, hclient', hheld'⟩
  case counters => rw [hids]; exact h.counters
  case counts =>
    refine List.forall_mem_map.mpr fun sh hsh n hn => ?_
    rw [Registry.size_retune]
    exact h.counts sh hsh n hn
  case total => exact h.total
  case sessions => exact h.sessions
  case idle =>
    refine List.forall_mem_map.mpr fun sh hsh hidle => ?_
    rw [Registry.size_retune]
    exact h.idle sh hsh hidle

end Books

namespace Broker

variable {env : Environment} {b b' : Broker} {m : Message} {d : Destination}
  {ts : List Subtopic} {id : DestinationId} {settings : DestinationSettings}
  {hooks : HookTable} {l : Limiter}

theorem books_retune (f : Subscription → Option Nat) (b : Broker) :
    (b.retune f).books = b.books.retune f := by
  simp only [books, retune, Books.retune, List.map_map]
  rfl

theorem destination?_retune (f : Subscription → Option Nat) (b : Broker) (id : DestinationId) :
    (b.retune f).destination? id = (b.destination? id).map (·.retune f) :=
  List.find?_map ..

/-! ## States in order -/

theorem Scene.retune (h : Scene id settings hooks l b) (f : Subscription → Option Nat) :
    Scene id settings hooks l (b.retune f) := by
  obtain ⟨d, hd, hsettings, hlimiter⟩ := h.located
  refine ⟨⟨d.retune f, ?_, hsettings, hlimiter⟩, h.hooks⟩
  rw [destination?_retune, hd]
  rfl

theorem Withdraws.retune (h : b.Withdraws) (f : Subscription → Option Nat) :
    (b.retune f).Withdraws := by
  intro id d hd
  rw [destination?_retune] at hd
  obtain ⟨d₀, hd₀, rfl⟩ := Option.map_eq_some_iff.mp hd
  exact h id d₀ hd₀

theorem HasDiscreetCallers.retune (h : HasDiscreetCallers env b) (f : Subscription → Option Nat) :
    HasDiscreetCallers env (b.retune f) := by
  obtain ⟨strays, haccounted⟩ := h.accounted
  refine ⟨⟨strays, ?_⟩, h.withdraws.retune f, h.discreet⟩
  rw [books_retune]
  exact haccounted.retune f

/-! ## The way to the fan-out -/

theorem onDestination_retune (b : Broker) (id : DestinationId)
    {change : Destination → Destination}
    (hchange : ∀ d, change (d.retune f) = (change d).retune f) :
    (b.retune f).onDestination id change = (b.onDestination id change).retune f := by
  have hsame : ((b.retune f).destinations.map fun d => if d.id = id then change d else d) =
      ((b.onDestination id change).retune f).destinations := by
    rw [retune, retune, onDestination, List.map_map, List.map_map]
    apply List.map_congr_left
    intro d _
    show (if d.id = id then change (d.retune f) else d.retune f) =
      (if d.id = id then change d else d).retune f
    rw [hchange, apply_ite (Destination.retune f)]
  rw [onDestination, hsame]
  rfl

theorem onTotals_retune (f : Subscription → Option Nat) (b : Broker) (id : DestinationId)
    (change : Totals → Totals) :
    (b.retune f).onTotals id change = (b.onTotals id change).retune f :=
  onDestination_retune b id fun _ => rfl

theorem onLimiter_retune (f : Subscription → Option Nat) (b : Broker) (id : DestinationId)
    (change : Limiter → Limiter) :
    (b.retune f).onLimiter id change = (b.onLimiter id change).retune f :=
  onDestination_retune b id fun _ => rfl

theorem touch_retune (f : Subscription → Option Nat) (b : Broker) (c : ClientId)
    (now : Timestamp) : (b.retune f).touch c now = (b.touch c now).retune f := by
  have hsame : (b.retune f).sessions[c]? = b.sessions[c]? := rfl
  rw [touch, touch, onSession, onSession, hsame]
  cases b.sessions[c]? <;> rfl

theorem receive_retune (f : Subscription → Option Nat) (env : Environment) (d : Destination)
    (m : Message) (b : Broker) :
    receive env (d.retune f) m (b.retune f) = (receive env d m b).retune f := by
  rw [receive, onTotals_retune, touch_retune]
  rfl

theorem requireStarted_retune (f : Subscription → Option Nat) (b : Broker)
    (id : DestinationId) :
    (b.retune f).requireStarted id = (b.requireStarted id).map (·.retune f) := by
  have hfound := destination?_retune f b id
  cases hd : b.destination? id with
  | none =>
    rw [hd] at hfound
    rw [requireStarted_of_none hd, requireStarted_of_none hfound]
    rfl
  | some d =>
    rw [hd] at hfound
    rw [requireStarted_of_some hd, requireStarted_of_some hfound, apply_ite (Except.map _)]
    rfl

theorem locate_retune (f : Subscription → Option Nat) (m : Message) (b : Broker) :
    locate m (b.retune f) = (locate m b).map fun place => (place.1.retune f, place.2) := by
  rw [locate, locate, requireStarted_retune]
  cases b.requireStarted m.destination with
  | error e => rfl
  | ok d =>
    show (d.parseMessageSubtopics m.subtopics >>= fun ts => pure (d.retune f, ts)) =
      Except.map _ (d.parseMessageSubtopics m.subtopics >>= fun ts => pure (d, ts))
    cases d.parseMessageSubtopics m.subtopics <;> rfl

theorem authorize_retune (f : Subscription → Option Nat) (env : Environment) (access : Access)
    (d : Destination) (principal : Option Principal) (b : Broker) :
    authorize env access (d.retune f) principal (b.retune f) =
      ((authorize env access d principal b).1.retune f, (authorize env access d principal b).2) := by
  have hconstraint : (d.retune f).constraintOn access = d.constraintOn access := by
    cases access <;> rfl
  rw [authorize, authorize, hconstraint]
  cases d.constraintOn access with
  | none => rfl
  | some constraint =>
    cases principal with
    | none => rfl
    | some p =>
      dsimp only
      split
      · rfl
      · split <;> rfl

theorem passGate_retune (f : Subscription → Option Nat) (env : Environment) (m : Message)
    (b : Broker) :
    passGate env m (b.retune f) = ((passGate env m b).1.retune f,
      (passGate env m b).2.map fun place => (place.1.retune f, place.2)) := by
  rw [passGate, passGate, requireStarted_retune]
  cases b.requireStarted m.destination with
  | error e => rfl
  | ok d =>
    have hprincipal : (b.retune f).principal? m.client = b.principal? m.client := rfl
    dsimp only [Except.map]
    rw [authorizeSend, authorizeSend, hprincipal, authorize_retune]
    cases authorize env .send d (b.principal? m.client) b with
    | mk b' answer =>
      cases answer with
      | error e => rfl
      | ok _ =>
        dsimp only
        congr 1
        show (d.parseMessageSubtopics m.subtopics >>= fun ts =>
            checkSubtopics env d (b.principal? m.client) ts >>= fun _ => pure (d.retune f, ts)) = _
        cases d.parseMessageSubtopics m.subtopics with
        | error e => rfl
        | ok ts =>
          show (checkSubtopics env d (b.principal? m.client) ts >>= fun _ =>
            pure (d.retune f, ts)) = Except.map _
              (checkSubtopics env d (b.principal? m.client) ts >>= fun _ => pure (d, ts))
          cases checkSubtopics env d (b.principal? m.client) ts <;> rfl

theorem limited_retune (f : Subscription → Option Nat) (env : Environment) (d : Destination)
    (m : Message) (b : Broker) :
    limited env (d.retune f) m (b.retune f) = (limited env d m b).retune f :=
  onLimiter_retune f b d.id _

theorem checkInbound_retune (f : Subscription → Option Nat) (env : Environment)
    (d : Destination) (m : Message) (b : Broker) :
    checkInbound env (d.retune f) m (b.retune f) =
      ((checkInbound env d m b).1.retune f, (checkInbound env d m b).2) := by
  cases hverdict : (inbound env d m).2.isAllowed with
  | true =>
    rw [checkInbound_of_allowed hverdict, checkInbound_of_allowed (d := d.retune f) hverdict,
      limited_retune]
    rfl
  | false =>
    have hrefused (d : Destination) (b : Broker) (h : (inbound env d m).2.isAllowed = false) :
        checkInbound env d m b = ((limited env d m b).onTotals d.id fun t =>
          { t with inboundThrottled := t.inboundThrottled + 1 }, (inbound env d m).2) :=
      if_neg (Bool.eq_false_iff.mp h)
    rw [hrefused d b hverdict, hrefused (d.retune f) _ hverdict, limited_retune, onTotals_retune]
    rfl

theorem invoke_retune (f : Subscription → Option Nat) (env : Environment) (adapter : Adapter)
    (m : Message) (b : Broker) :
    invoke env adapter m (b.retune f) =
      ((invoke env adapter m b).1.retune f, (invoke env adapter m b).2) := by
  cases adapter <;> rfl

end Broker

end MessageBroker
