/-
# Telling those who do not call back

When no handler calls back on a notice, telling them of it does nothing but write the
journal. The same holds of other nodes, except that changes they are told of leave the
queue. So what is registered and whose sessions there are does not depend on who is told,
as long as nobody calls back.
-/

import MessageBroker.Proofs.Broker.Runs

open Std

namespace MessageBroker

namespace Broker

variable {b b' b'' : Broker} {ctx : Context} {env : Environment} {n : Notice}
  {id id' : DestinationId}

/-! ## Looking up a destination that was changed -/

theorem destination?_onDestination (change : Destination → Destination)
    (hid : ∀ d, (change d).id = d.id) (b : Broker) (id id' : DestinationId) :
    (b.onDestination id change).destination? id' =
      (b.destination? id').map fun d => if d.id = id then change d else d := by
  have hname : ((fun d : Destination => d.id == id') ∘ fun d => if d.id = id then change d else d) =
      fun d => d.id == id' := by
    funext d
    dsimp only [Function.comp]
    split
    · rw [hid]
    · rfl
  rw [destination?, onDestination, List.find?_map, hname]
  rfl

theorem destination?_onDestination_self (change : Destination → Destination)
    (hid : ∀ d, (change d).id = d.id) {d : Destination} (hd : b.destination? id = some d) :
    (b.onDestination id change).destination? id = some (change d) := by
  rw [destination?_onDestination _ hid, hd, Option.map_some, if_pos (mem_of_destination? hd).2]

theorem destination?_onDestination_of_ne (change : Destination → Destination)
    (hid : ∀ d, (change d).id = d.id) (hne : id' ≠ id) (b : Broker) :
    (b.onDestination id change).destination? id' = b.destination? id' := by
  rw [destination?_onDestination _ hid]
  cases hd : b.destination? id' with
  | none => rfl
  | some d => rw [Option.map_some, if_neg ((mem_of_destination? hd).2 ▸ hne)]

/-! ## Notices -/

/-- What telling handlers of a notice writes to the journal when none of them calls back. -/
def told (hooks : HookTable) (n : Notice) : List Event :=
  .notice n :: (hooks.round n).map fun h => .hook h.name n

theorem callHandler_of_silent {h : Handler} (hsilent : h.callback n = none) :
    callHandler ctx n b h = b.record (.hook h.name n) := by
  rw [callHandler, hsilent]

theorem foldl_callHandler_of_silent {handlers : List Handler}
    (hsilent : ∀ h ∈ handlers, h.callback n = none) :
    handlers.foldl (callHandler ctx n) b =
      { b with journal := b.journal ++ handlers.map fun h => .hook h.name n } := by
  induction handlers generalizing b with
  | nil => rw [List.map_nil, List.append_nil, List.foldl_nil]
  | cons h handlers ih =>
    rw [List.foldl_cons, callHandler_of_silent (hsilent h List.mem_cons_self),
      ih fun h' hh' => hsilent h' (List.mem_cons_of_mem _ hh'), List.map_cons]
    show ({ b with journal := (b.journal ++ [_]) ++ _ } : Broker) = _
    rw [List.append_assoc]
    rfl

theorem notify_of_silent (hsilent : ∀ h ∈ b.hooks.round n, h.callback n = none) :
    notify ctx n b = { b with journal := b.journal ++ told b.hooks n } := by
  rw [notify, foldl_callHandler_of_silent hsilent, told]
  show ({ b with journal := (b.journal ++ [_]) ++ _ } : Broker) = _
  rw [List.append_assoc]
  rfl

/-- Nobody who is told anything calls back. -/
structure Silent (env : Environment) (b : Broker) : Prop where
  handlers : ∀ n, ∀ h ∈ b.hooks.round n, h.callback n = none
  cluster : ∀ cluster ∈ env.cluster, ∀ id change, cluster.callback id change = none

/-- Nobody calls back where nobody is told. -/
theorem silent_of_alone (hhooks : b.hooks.registrations = []) (hcluster : env.cluster = none) :
    Silent env b := by
  refine ⟨fun n h hh => ?_, fun cluster hc => by rw [hcluster] at hc; cases hc⟩
  rw [HookTable.round, HookTable.handlersFor, hhooks] at hh
  cases hh

/-- The sessions, the hooks and what is registered stay. -/
structure Still (b b' : Broker) : Prop where
  sessions : b'.sessions = b.sessions
  hooks : b'.hooks = b.hooks
  registered : ∀ id n, b'.registered? id n = b.registered? id n

theorem Still.refl (b : Broker) : Still b b := ⟨rfl, rfl, fun _ _ => rfl⟩

theorem Still.trans (h : Still b b') (h' : Still b' b'') : Still b b'' :=
  ⟨h'.sessions.trans h.sessions, h'.hooks.trans h.hooks,
    fun id n => (h'.registered id n).trans (h.registered id n)⟩

theorem Still.silent (h : Still b b') (hsilent : Silent env b) : Silent env b' :=
  ⟨h.hooks ▸ hsilent.handlers, hsilent.cluster⟩

theorem still_record (b : Broker) (e : Event) : Still b (b.record e) :=
  ⟨rfl, rfl, fun _ _ => rfl⟩

theorem still_onDestination (change : Destination → Destination)
    (hid : ∀ d, (change d).id = d.id)
    (hget : ∀ d n, (change d).registry.get? n = d.registry.get? n) (b : Broker)
    (id : DestinationId) : Still b (b.onDestination id change) := by
  refine ⟨rfl, rfl, fun id' n => ?_⟩
  rw [registered?, registered?, destination?_onDestination _ hid]
  cases b.destination? id' with
  | none => rfl
  | some d =>
    show (if d.id = id then change d else d).registry.get? n = d.registry.get? n
    split
    · exact hget d n
    · rfl

theorem still_notify (ctx : Context) (hsilent : Silent env b) (n : Notice) :
    Still b (notify ctx n b) := by
  rw [notify_of_silent (hsilent.handlers n)]
  exact ⟨rfl, rfl, fun _ _ => rfl⟩

theorem get?_pop (r : Registry) (n : SubscriptionId) : r.pop.1.get? n = r.get? n := by
  rw [Registry.pop]
  split <;> rfl

theorem still_tellChange (hsilent : Silent ctx.env b) (id : DestinationId) (change : KeyChange) :
    Still b (tellChange ctx id change b) := by
  rw [tellChange]
  split
  · exact .refl b
  next cluster hcluster =>
    rw [hsilent.cluster cluster hcluster]
    dsimp only
    split
    · exact still_record b _
    · exact (still_record b _).trans (still_record _ _)

theorem still_tellChanges (id : DestinationId) (fuel : Nat) (hsilent : Silent ctx.env b) :
    Still b (tellChanges ctx id fuel b) := by
  induction fuel generalizing b with
  | zero => exact .refl b
  | succ fuel ih =>
    rw [tellChanges]
    split
    · exact .refl b
    next change _ =>
      have hpop := still_onDestination (fun d => { d with registry := d.registry.pop.1 })
        (fun _ => rfl) (fun d n => get?_pop d.registry n) b id
      have htell := hpop.trans (still_tellChange (hpop.silent hsilent) id change)
      exact htell.trans (ih (htell.silent hsilent))

theorem still_announcing (flag : Bool) (b : Broker) (id : DestinationId) :
    Still b (b.onDestination id fun d => { d with announcing := flag }) :=
  still_onDestination (fun d => { d with announcing := flag }) (fun _ => rfl) (fun _ _ => rfl) b id

theorem still_announce (hsilent : Silent ctx.env b) (id : DestinationId) :
    Still b (announce ctx id b) := by
  rw [announce]
  split
  · exact .refl b
  next d _ =>
    split
    · exact .refl b
    · have hbegin := still_announcing true b id
      have htold := hbegin.trans (still_tellChanges id
        (d.registry.pending.length + d.registry.size) (hbegin.silent hsilent))
      exact htold.trans (still_announcing false _ id)

end Broker

end MessageBroker
