/-
# Leaving, step by step

When nobody calls back, ending the subscriptions of a client takes them out of one registry
after the other, strikes their records, and tells of it. Everything that is told is known
beforehand: the notice of each subscription that ended, after the first of a destination the
changes of keys that all of them made there, and at last the end of the session.

The state that is left behind does not depend on the reason for which the subscriptions
ended; the reason is only told. That is why the steps without the journal are defined here
without a reason.
-/

import Mathlib.Algebra.GroupWithZero.Nat
import MessageBroker.Proofs.Broker.Queues

open Std

namespace MessageBroker

namespace Destination

/-- A destination that has nothing to tell. -/
def flush (d : Destination) : Destination :=
  { d with registry := { d.registry with pending := [] } }

/-- A destination after a round of telling. -/
def settle (d : Destination) : Destination := { d.flush with announcing := false }

variable {d : Destination}

theorem flush_of_pending_eq_nil (h : d.registry.pending = []) : d.flush = d := by
  rw [flush, ← h]

theorem flush_pop (d : Destination) :
    ({ d with registry := d.registry.pop.1 }).flush = d.flush := by
  rw [flush, Registry.pop]
  split <;> rfl

end Destination

namespace Broker

variable {b b' : Broker} {ctx : Context} {env : Environment} {id : DestinationId}
  {d : Destination} {c : ClientId} {s : Subscription} {entries more : List Event}

/-! ## Entries of the journal -/

/-- Adds entries to the journal. -/
def recordAll (b : Broker) (entries : List Event) : Broker :=
  { b with journal := b.journal ++ entries }

@[simp] theorem recordAll_nil (b : Broker) : b.recordAll [] = b := by
  rw [recordAll, List.append_nil]

@[simp] theorem recordAll_recordAll (b : Broker) (entries more : List Event) :
    (b.recordAll entries).recordAll more = b.recordAll (entries ++ more) := by
  rw [recordAll, recordAll, recordAll, List.append_assoc]

theorem onDestination_recordAll (change : Destination → Destination) :
    (b.recordAll entries).onDestination id change =
      (b.onDestination id change).recordAll entries :=
  rfl

theorem onDestination_onDestination (change : Destination → Destination)
    {after : Destination → Destination} (hid : ∀ d, (change d).id = d.id) (b : Broker)
    (id : DestinationId) :
    (b.onDestination id change).onDestination id after =
      b.onDestination id fun d => after (change d) := by
  rw [onDestination, onDestination, onDestination, List.map_map]
  congr 1
  apply List.map_congr_left
  intro d _
  rw [Function.comp_apply]
  by_cases hplace : d.id = id
  · rw [if_pos hplace, if_pos hplace, if_pos ((hid d).trans hplace)]
  · rw [if_neg hplace, if_neg hplace, if_neg hplace]

theorem destinationIds_onDestination (change : Destination → Destination)
    (hid : ∀ d, (change d).id = d.id) (b : Broker) (id : DestinationId) :
    (b.onDestination id change).destinationIds = b.destinationIds := by
  rw [destinationIds, onDestination, List.map_map, destinationIds]
  apply List.map_congr_left
  intro d _
  rw [Function.comp_apply]
  split
  · exact hid d
  · rfl

theorem Alike.destinationIds (h : Alike b b') : b'.destinationIds = b.destinationIds := by
  obtain ⟨f, hf, hdestinations⟩ := h.destinations
  rw [Broker.destinationIds, hdestinations, List.map_map, Broker.destinationIds]
  apply List.map_congr_left
  intro d _
  exact (hf d).id

/-! ## Telling the other nodes -/

theorem Silent.of_hooks_eq (hsilent : Silent env b) (h : b'.hooks = b.hooks) : Silent env b' :=
  ⟨h ▸ hsilent.handlers, hsilent.cluster⟩

/-- What telling the other nodes of a change writes to the journal when none of them calls
back. -/
def announcement (env : Environment) (id : DestinationId) (change : KeyChange) : List Event :=
  match env.cluster with
  | none => []
  | some cluster =>
    match cluster.tellChange id change with
    | .ok () => [.change id change]
    | .error fault =>
      let kind := change.kind.name
      [.change id change,
        .log .warning s!"{id} propagate subscription change {kind} failed, {fault}"]

theorem tellChange_of_silent (hsilent : Silent ctx.env b) (id : DestinationId)
    (change : KeyChange) :
    tellChange ctx id change b = b.recordAll (announcement ctx.env id change) := by
  rw [tellChange, announcement]
  cases hcluster : ctx.env.cluster with
  | none => exact (recordAll_nil b).symm
  | some cluster =>
    dsimp only
    rw [hsilent.cluster cluster hcluster]
    cases cluster.tellChange id change with
    | ok _ => rfl
    | error fault =>
      dsimp only
      rw [log, record, record, recordAll, List.append_assoc]
      rfl

theorem tellChanges_of_pending_eq_nil {fuel : Nat} (hd : b.destination? id = some d)
    (hnone : d.registry.pending = []) : tellChanges ctx id fuel b = b := by
  cases fuel with
  | zero => rfl
  | succ fuel =>
    rw [tellChanges, hd]
    dsimp only [Option.bind]
    rw [hnone]
    rfl

theorem tellChanges_of_pending_eq_cons {fuel : Nat} {change : KeyChange} {rest : List KeyChange}
    (hd : b.destination? id = some d) (hpending : d.registry.pending = change :: rest) :
    tellChanges ctx id (fuel + 1) b =
      tellChanges ctx id fuel (tellChange ctx id change
        (b.onDestination id fun d => { d with registry := d.registry.pop.1 })) := by
  rw [tellChanges, hd]
  dsimp only [Option.bind]
  rw [hpending]
  rfl

theorem tellChanges_of_silent {fuel : Nat} (hsilent : Silent ctx.env b)
    (hnames : b.destinationIds.Nodup) (hd : b.destination? id = some d)
    (hfuel : d.registry.pending.length ≤ fuel) :
    tellChanges ctx id fuel b =
      (b.onDestination id (·.flush)).recordAll
        (d.registry.pending.flatMap (announcement ctx.env id)) := by
  induction fuel generalizing b d with
  | zero =>
    have hnone := List.eq_nil_of_length_eq_zero (Nat.le_zero.mp hfuel)
    rw [tellChanges_of_pending_eq_nil hd hnone, hnone, List.flatMap_nil, recordAll_nil,
      onDestination_eq_self hnames _ hd (Destination.flush_of_pending_eq_nil hnone)]
  | succ fuel ih =>
    cases hpending : d.registry.pending with
    | nil =>
      rw [tellChanges_of_pending_eq_nil hd hpending, List.flatMap_nil, recordAll_nil,
        onDestination_eq_self hnames _ hd (Destination.flush_of_pending_eq_nil hpending)]
    | cons change rest =>
      let popped (d : Destination) : Destination := { d with registry := d.registry.pop.1 }
      have hfound : (b.onDestination id popped).destination? id = some (popped d) :=
        destination?_onDestination_self popped (fun _ => rfl) hd
      have hnames' : (b.onDestination id popped).destinationIds.Nodup :=
        destinationIds_onDestination popped (fun _ => rfl) b id ▸ hnames
      have hrest : (popped d).registry.pending = rest := by
        show d.registry.pop.1.pending = rest
        rw [Registry.pop, hpending]
      have hlength : (popped d).registry.pending.length ≤ fuel := by
        rw [hpending, List.length_cons] at hfuel
        rw [hrest]
        omega
      have hflushed : (fun d => (popped d).flush) = (·.flush) :=
        funext Destination.flush_pop
      have hpopped : Silent ctx.env (b.onDestination id popped) := hsilent.of_hooks_eq rfl
      have htold : Silent ctx.env ((b.onDestination id popped).recordAll
          (announcement ctx.env id change)) := hsilent.of_hooks_eq rfl
      rw [tellChanges_of_pending_eq_cons hd hpending, tellChange_of_silent hpopped,
        ih htold hnames' hfound hlength, hrest,
        onDestination_recordAll, recordAll_recordAll, List.flatMap_cons,
        onDestination_onDestination popped (by exact fun _ => rfl), hflushed]

theorem announce_of_silent (hsilent : Silent ctx.env b) (hnames : b.destinationIds.Nodup)
    (hd : b.destination? id = some d) (hidle : d.announcing = false) :
    announce ctx id b =
      (b.onDestination id (·.settle)).recordAll
        (d.registry.pending.flatMap (announcement ctx.env id)) := by
  let flag (on : Bool) (d : Destination) : Destination := { d with announcing := on }
  have hbegun : (b.onDestination id (flag true)).destination? id = some (flag true d) :=
    destination?_onDestination_self (flag true) (fun _ => rfl) hd
  have hnames' : (b.onDestination id (flag true)).destinationIds.Nodup :=
    destinationIds_onDestination (flag true) (fun _ => rfl) b id ▸ hnames
  have hsilent' : Silent ctx.env (b.onDestination id (flag true)) := hsilent.of_hooks_eq rfl
  have hfuel : (flag true d).registry.pending.length ≤ d.registry.load := Nat.le_add_right _ _
  rw [announce_of_idle hd hidle]
  rw [tellChanges_of_silent hsilent' hnames' hbegun hfuel]
  rw [onDestination_recordAll, onDestination_onDestination _ (by exact fun _ => rfl),
    onDestination_onDestination _ (by exact fun _ => rfl)]
  rfl

/-! ## Cleaning up after subscriptions -/

/-- What cleaning up after a subscription does apart from writing the journal. -/
def shed (id : DestinationId) (b : Broker) (s : Subscription) : Broker :=
  (b.strike id s).onDestination id (·.settle)

theorem hooks_strike (id : DestinationId) (s : Subscription) (b : Broker) :
    (b.strike id s).hooks = b.hooks := by
  rw [strike]
  exact hooks_onSession

theorem onSession_recordAll (b : Broker) (entries : List Event) (c : ClientId)
    (change : Session → Session) :
    (b.recordAll entries).onSession c change = (b.onSession c change).recordAll entries := by
  have hsessions : (b.recordAll entries).sessions = b.sessions := rfl
  rw [onSession, onSession, hsessions]
  cases b.sessions[c]? with
  | none => rfl
  | some session => rfl

theorem shed_recordAll (b : Broker) (entries : List Event) (id : DestinationId)
    (s : Subscription) :
    (b.recordAll entries).shed id s = (b.shed id s).recordAll entries := by
  let disowned : Broker := { b with owners := b.owners.erase s.id }
  have hlisting := onSession_recordAll disowned entries s.client fun session =>
    { session with subscriptions := session.subscriptions.erase s.id }
  exact congrArg (fun b =>
    { b.onTotals id fun t => { t with subscriptions := t.subscriptions.dec } with
      subscriptionGauge := b.subscriptionGauge.dec }.onDestination id (·.settle)) hlisting

theorem foldl_shed_recordAll (subs : List Subscription) (b : Broker) (entries : List Event)
    (id : DestinationId) :
    subs.foldl (shed id) (b.recordAll entries) = (subs.foldl (shed id) b).recordAll entries := by
  induction subs generalizing b with
  | nil => rfl
  | cons s subs ih => rw [List.foldl_cons, shed_recordAll, ih, List.foldl_cons]

/-- What is told, in this order, when subscriptions have left a destination while changes of
keys were queued there. -/
def farewell (env : Environment) (hooks : HookTable) (id : DestinationId)
    (reason : UnsubscribeReason) (queued : List KeyChange) : List Subscription → List Event
  | [] => []
  | s :: rest =>
    told hooks (.unsubscribed s reason) ++ queued.flatMap (announcement env id) ++
      farewell env hooks id reason [] rest

theorem detach_of_silent (hsilent : Silent ctx.env b) (hnames : b.destinationIds.Nodup)
    (hd : b.destination? id = some d) (hidle : d.announcing = false)
    (reason : UnsubscribeReason) (s : Subscription) :
    detach ctx id reason b s =
      (b.shed id s).recordAll (told b.hooks (.unsubscribed s reason) ++
        d.registry.pending.flatMap (announcement ctx.env id)) := by
  have halike := alike_strike id s b
  have hhooks := hooks_strike id s b
  have hstruck : Silent ctx.env (b.strike id s) := hsilent.of_hooks_eq hhooks
  have htold : notify ctx (.unsubscribed s reason) (b.strike id s) =
      (b.strike id s).recordAll (told (b.strike id s).hooks (.unsubscribed s reason)) :=
    notify_of_silent (hstruck.handlers _)
  rw [hhooks] at htold
  obtain ⟨f, hf, hdestinations⟩ := halike.destinations
  have hd' : (b.strike id s).destination? id = some (f d) := by
    rw [destination?_map (fun d => (hf d).id) hdestinations, hd]
    rfl
  have hnames' : (b.strike id s).destinationIds.Nodup := halike.destinationIds ▸ hnames
  have hannounced := announce_of_silent (b := (b.strike id s).recordAll
    (told b.hooks (.unsubscribed s reason))) (hstruck.of_hooks_eq rfl) hnames' hd'
      ((hf d).announcing.trans hidle)
  rw [detach_eq, htold, hannounced, (hf d).registry, onDestination_recordAll, recordAll_recordAll]
  rfl

theorem hooks_shed (b : Broker) (id : DestinationId) (s : Subscription) :
    (b.shed id s).hooks = b.hooks :=
  hooks_strike id s b

theorem destinationIds_shed (b : Broker) (id : DestinationId) (s : Subscription) :
    (b.shed id s).destinationIds = b.destinationIds := by
  rw [shed, destinationIds_onDestination _ (by exact fun _ => rfl),
    (alike_strike id s b).destinationIds]

/-- What is found at a destination after cleaning up. -/
theorem destination?_shed (hd : b.destination? id = some d) (s : Subscription) :
    ∃ d', (b.shed id s).destination? id = some d' ∧ d'.registry.pending = [] ∧
      d'.announcing = false := by
  obtain ⟨f, hf, hdestinations⟩ := (alike_strike id s b).destinations
  have hd' : (b.strike id s).destination? id = some (f d) := by
    rw [destination?_map (fun d => (hf d).id) hdestinations, hd]
    rfl
  exact ⟨(f d).settle, destination?_onDestination_self Destination.settle (fun _ => rfl) hd', rfl,
    rfl⟩

theorem foldl_detach_of_silent (reason : UnsubscribeReason) (subs : List Subscription)
    (hsilent : Silent ctx.env b) (hnames : b.destinationIds.Nodup)
    (hd : b.destination? id = some d) (hidle : d.announcing = false) :
    subs.foldl (detach ctx id reason) b =
      (subs.foldl (shed id) b).recordAll
        (farewell ctx.env b.hooks id reason d.registry.pending subs) := by
  induction subs generalizing b d with
  | nil => exact (recordAll_nil b).symm
  | cons s subs ih =>
    obtain ⟨d', hd', hnone, hidle'⟩ := destination?_shed hd s
    let words := told b.hooks (.unsubscribed s reason) ++
      d.registry.pending.flatMap (announcement ctx.env id)
    have hhooks : ((b.shed id s).recordAll words).hooks = b.hooks := hooks_shed b id s
    have hrest := ih (b := (b.shed id s).recordAll words) (hsilent.of_hooks_eq hhooks)
      (destinationIds_shed b id s ▸ hnames) hd' hidle'
    rw [hhooks, hnone, foldl_shed_recordAll, recordAll_recordAll] at hrest
    rw [List.foldl_cons, List.foldl_cons, detach_of_silent hsilent hnames hd hidle, hrest,
      farewell]

/-! ## All subscriptions of a client -/

/-- What ending the subscriptions of a client at a destination does apart from writing the
journal. -/
def quit (c : ClientId) (b : Broker) (id : DestinationId) : Broker :=
  ((takeOut id (·.removeClient c) b).2.map (·.subscription)).foldl (shed id)
    (takeOut id (·.removeClient c) b).1

/-- What is told when the subscriptions of a client have left a destination that had nothing to
tell before. -/
def departure (env : Environment) (hooks : HookTable) (c : ClientId) (reason : UnsubscribeReason)
    (d : Destination) : List Event :=
  farewell env hooks d.id reason (d.registry.removeClient c).1.pending
    ((d.registry.removeClient c).2.map (·.subscription))

theorem takeOut_of_destination? {take : Registry → Registry × List Removed}
    (hd : b.destination? id = some d) :
    takeOut id take b =
      (b.onDestination id fun d' => { d' with registry := (take d.registry).1 },
        (take d.registry).2) := by
  rw [takeOut, hd]

theorem quit_of_destination? (hd : b.destination? id = some d) (c : ClientId) :
    b.quit c id =
      ((d.registry.removeClient c).2.map (·.subscription)).foldl (shed id)
        (b.onDestination id fun d' => { d' with registry := (d.registry.removeClient c).1 }) := by
  rw [quit, takeOut_of_destination? hd]

theorem quit_recordAll (hd : b.destination? id = some d) (c : ClientId)
    (entries : List Event) : (b.recordAll entries).quit c id = (b.quit c id).recordAll entries := by
  rw [quit_of_destination? hd, quit_of_destination? (b := b.recordAll entries) hd,
    onDestination_recordAll, foldl_shed_recordAll]

theorem destinations_strike (id : DestinationId) (s : Subscription) (b : Broker) :
    (b.strike id s).destinations =
      (b.onTotals id fun t => { t with subscriptions := t.subscriptions.dec }).destinations := by
  let counted (t : Totals) : Totals := { t with subscriptions := t.subscriptions.dec }
  let disowned : Broker := { b with owners := b.owners.erase s.id }
  let unlisted := disowned.onSession s.client fun session =>
    { session with subscriptions := session.subscriptions.erase s.id }
  have hsame : unlisted.destinations = b.destinations := destinations_onSession
  show (unlisted.onTotals id counted).destinations = (b.onTotals id counted).destinations
  rw [onTotals, onTotals, onDestination, onDestination, hsame]

theorem destination?_strike_of_ne {id' : DestinationId} (hne : id' ≠ id) (s : Subscription)
    (b : Broker) : (b.strike id s).destination? id' = b.destination? id' := by
  let counted (d : Destination) : Destination :=
    { d with totals := { d.totals with subscriptions := d.totals.subscriptions.dec } }
  rw [destination?, destinations_strike]
  exact destination?_onDestination_of_ne counted (fun _ => rfl) hne b

theorem unsubscribeAt_of_silent (hsilent : Silent ctx.env b) (hnames : b.destinationIds.Nodup)
    (hd : b.destination? id = some d) (hidle : d.announcing = false) (c : ClientId)
    (reason : UnsubscribeReason) :
    unsubscribeAt ctx c reason id b =
      ((b.quit c id).recordAll (departure ctx.env b.hooks c reason d),
        (d.registry.removeClient c).2.length) := by
  let taken (d' : Destination) : Destination :=
    { d' with registry := (d.registry.removeClient c).1 }
  have hfound : (b.onDestination id taken).destination? id = some (taken d) :=
    destination?_onDestination_self taken (fun _ => rfl) hd
  have hnames' : (b.onDestination id taken).destinationIds.Nodup :=
    destinationIds_onDestination taken (fun _ => rfl) b id ▸ hnames
  have hsilent' : Silent ctx.env (b.onDestination id taken) := hsilent.of_hooks_eq rfl
  rw [unsubscribeAt, takeOut_of_destination? hd, quit_of_destination? hd]
  dsimp only
  rw [foldl_detach_of_silent reason _ hsilent' hnames' hfound hidle]
  rw [departure, (mem_of_destination? hd).2]
  rfl

/-- What cleaning up after a subscription leaves as it is, and what a new registry leaves as it
is, stays when the subscriptions of a client at a destination end. -/
theorem quit_unchanged {α : Type} {f : Broker → α} (hshed : ∀ b s, f (shed id b s) = f b)
    (hregistry : ∀ b (r : Registry), f (b.onDestination id fun d => { d with registry := r }) = f b)
    (c : ClientId) (b : Broker) : f (b.quit c id) = f b := by
  have hfold (subs : List Subscription) (b : Broker) : f (subs.foldl (shed id) b) = f b := by
    induction subs generalizing b with
    | nil => rfl
    | cons s subs ih => rw [List.foldl_cons, ih, hshed]
  rw [quit, hfold, takeOut]
  split
  · rfl
  · exact hregistry b _

theorem foldl_quit_unchanged {α : Type} {f : Broker → α} (h : ∀ b id, f (b.quit c id) = f b)
    (ids : List DestinationId) (b : Broker) : f (ids.foldl (quit c) b) = f b := by
  induction ids generalizing b with
  | nil => rfl
  | cons id ids ih => rw [List.foldl_cons, ih, h]

theorem hooks_quit (c : ClientId) (b : Broker) (id : DestinationId) :
    (b.quit c id).hooks = b.hooks :=
  quit_unchanged (f := (·.hooks)) (fun b => hooks_shed b id) (fun _ _ => rfl) c b

theorem journal_quit (c : ClientId) (b : Broker) (id : DestinationId) :
    (b.quit c id).journal = b.journal :=
  quit_unchanged (f := (·.journal)) (fun b s => (alike_strike id s b).journal) (fun _ _ => rfl) c b

theorem contains_quit {c' : ClientId} (c : ClientId) (b : Broker) (id : DestinationId) :
    (b.quit c id).sessions.contains c' = b.sessions.contains c' :=
  quit_unchanged (f := (·.sessions.contains c'))
    (fun b s => contains_onSession (b := { b with owners := b.owners.erase s.id }) c')
    (fun _ _ => rfl) c b

theorem destinationIds_quit (c : ClientId) (b : Broker) (id : DestinationId) :
    (b.quit c id).destinationIds = b.destinationIds := by
  apply quit_unchanged (fun b => destinationIds_shed b id)
  intro b r
  exact destinationIds_onDestination (fun d => { d with registry := r }) (fun _ => rfl) b id

theorem destination?_quit_of_ne {id' : DestinationId} (hne : id' ≠ id) (c : ClientId)
    (b : Broker) : (b.quit c id).destination? id' = b.destination? id' := by
  apply quit_unchanged (f := (·.destination? id'))
  · intro b s
    rw [shed, destination?_onDestination_of_ne _ (by exact fun _ => rfl) hne,
      destination?_strike_of_ne hne]
  · intro b r
    exact destination?_onDestination_of_ne (fun d => { d with registry := r }) (fun _ => rfl) hne b

/-- Destinations of other names are found as before. -/
theorem destination?_quit_of_cons {ds : List Destination}
    (hnodup : ((d :: ds).map (·.id)).Nodup) (hds : ∀ d' ∈ d :: ds, b.destination? d'.id = some d')
    (c : ClientId) : ∀ d' ∈ ds, (b.quit c d.id).destination? d'.id = some d' := by
  intro d' hd'
  have hne : d'.id ≠ d.id := fun heq =>
    (List.nodup_cons.mp hnodup).1 (List.mem_map.mpr ⟨d', hd', heq⟩)
  rw [destination?_quit_of_ne hne]
  exact hds d' (List.mem_cons_of_mem _ hd')

theorem foldl_quit_recordAll {ds : List Destination} (hnodup : (ds.map (·.id)).Nodup)
    (hds : ∀ d ∈ ds, b.destination? d.id = some d) (c : ClientId) (entries : List Event) :
    (ds.map (·.id)).foldl (quit c) (b.recordAll entries) =
      ((ds.map (·.id)).foldl (quit c) b).recordAll entries := by
  induction ds generalizing b with
  | nil => rfl
  | cons d ds ih =>
    rw [List.map_cons, List.foldl_cons, List.foldl_cons, quit_recordAll (hds d List.mem_cons_self)]
    exact ih (List.nodup_cons.mp hnodup).2 (destination?_quit_of_cons hnodup hds c)

theorem foldl_unsubscribeAt_of_silent (c : ClientId) (reason : UnsubscribeReason)
    {ds : List Destination} (hnodup : (ds.map (·.id)).Nodup)
    (hds : ∀ d ∈ ds, b.destination? d.id = some d) (hidle : ∀ d ∈ ds, d.announcing = false)
    (hsilent : Silent ctx.env b) (hnames : b.destinationIds.Nodup) (n : Nat) :
    (ds.map (·.id)).foldl (fun w id =>
        ((unsubscribeAt ctx c reason id w.1).1, w.2 + (unsubscribeAt ctx c reason id w.1).2))
        (b, n) =
      (((ds.map (·.id)).foldl (quit c) b).recordAll
          (ds.flatMap (departure ctx.env b.hooks c reason)),
        n + (ds.map fun d => (d.registry.removeClient c).2.length).sum) := by
  induction ds generalizing b n with
  | nil =>
    rw [List.flatMap_nil, recordAll_nil]
    rfl
  | cons d ds ih =>
    have hd := hds d List.mem_cons_self
    have hrest := (List.nodup_cons.mp hnodup).2
    have hothers := destination?_quit_of_cons hnodup hds c
    let words := departure ctx.env b.hooks c reason d
    have hhooks : ((b.quit c d.id).recordAll words).hooks = b.hooks := hooks_quit c b d.id
    have hlater := ih (b := (b.quit c d.id).recordAll words) hrest hothers
      (fun d' hd' => hidle d' (List.mem_cons_of_mem _ hd')) (hsilent.of_hooks_eq hhooks)
      (destinationIds_quit c b d.id ▸ hnames) (n + (d.registry.removeClient c).2.length)
    rw [foldl_quit_recordAll hrest hothers, recordAll_recordAll, hhooks] at hlater
    rw [List.map_cons, List.foldl_cons, List.foldl_cons,
      unsubscribeAt_of_silent hsilent hnames hd (hidle d List.mem_cons_self)]
    rw [hlater, List.flatMap_cons, List.map_cons, List.sum_cons, Nat.add_assoc]

/-- Ending the subscriptions of a client, destination by destination. -/
theorem unsubscribeClient_of_silent (ctx : Context) (c : ClientId) (reason : UnsubscribeReason)
    (hsilent : Silent ctx.env b) (hnames : b.destinationIds.Nodup)
    (hidle : ∀ d ∈ b.destinations, d.announcing = false) :
    unsubscribeClient ctx c reason b =
      ((b.destinationIds.foldl (quit c) b).recordAll
          (b.destinations.flatMap (departure ctx.env b.hooks c reason)),
        (b.destinations.map fun d => (d.registry.removeClient c).2.length).sum) := by
  have hall := foldl_unsubscribeAt_of_silent c reason hnames
    (fun d hd => destination?_of_mem hnames hd) hidle hsilent hnames 0
  rw [Nat.zero_add] at hall
  exact hall

/-- What the end of a session does apart from writing the journal. -/
def close (c : ClientId) (b : Broker) : Broker :=
  dropCounters c { b with sessions := b.sessions.erase c, sessionGauge := b.sessionGauge.dec }

theorem terminate_of_silent {onlyIfEmpty : Bool} {session : Session} (hsilent : Silent ctx.env b)
    (hsession : b.sessions[c]? = some session)
    (hends : onlyIfEmpty = true → session.subscriptions.isEmpty = true) :
    terminate ctx c onlyIfEmpty b =
      (b.close c).recordAll (told b.hooks (.sessionTerminated c)) := by
  have htold : notify ctx (.sessionTerminated c) (b.close c) =
      (b.close c).recordAll (told b.hooks (.sessionTerminated c)) :=
    notify_of_silent (hsilent.handlers _)
  have hkept : (onlyIfEmpty && !session.subscriptions.isEmpty) = false := by
    cases onlyIfEmpty with
    | false => rfl
    | true => simp [hends rfl]
  rw [terminate]
  rw [hsession]
  dsimp only
  rw [hkept, if_neg Bool.false_ne_true]
  exact htold

end Broker

end MessageBroker
