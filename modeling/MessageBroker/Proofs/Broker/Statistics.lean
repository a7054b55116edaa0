/-
# The statistics of a run

What a destination has counted by the end of a run is what the answers of the run add up to.
A run is taken apart into its turns, one for each operation, and every turn charges the sheet
of a destination with figures that its answer tells. So the totals are sums over the fan-outs
of the destination, and a message of a client that has passed the gate is refused, lost by the
adapter, handed off or fanned out, and counted as received in each case.

The totals and the refusals on record with the limiter are raised in different places and are
still charged together, so they agree, until somebody clears the limiter alone. Runs here may
contain every operation but that one.
-/

import Mathlib.Algebra.GroupWithZero.Nat
import MessageBroker.Proofs.Broker.Ledger

open Std

namespace MessageBroker

/-- The message that an operation is about, if it is about one. -/
def Operation.message? : Operation → Option Message
  | .route m | .routeFromPeer m | .routeFromAdapter m _ => some m
  | _ => none

/-- The answer about a message, if there is one. -/
def Outcome.routed? : Outcome → Option (Except BrokerError RouteResult)
  | .routed answer => some answer
  | _ => none

/-- One operation of a run, with the broker that is asked to perform it. -/
structure Turn where
  env : Environment
  before : Broker
  operation : Operation

namespace Broker

/-! ## Answers -/

/-- Whether an answer says that the inbound limiter refused the message. -/
def isRefusal : Except BrokerError RouteResult → Bool
  | .ok result => result.isDropped
  | .error (.throttled ..) => true
  | .error _ => false

/-- Whether an answer reports the fault of a collaborator. -/
def isFailure : Except BrokerError RouteResult → Bool
  | .ok _ => false
  | .error (.collaborator _) => true
  | .error _ => false

/-- Whether an answer says that the adapter took the message over. -/
def isHandOff : Except BrokerError RouteResult → Bool
  | .ok result => result.outcome == .handedOff
  | .error _ => false

/-- What can become of a message that has passed the gate. -/
inductive Concludes : Except BrokerError RouteResult → Prop
  | throttled (c : ClientId) (id : DestinationId) : Concludes (.error (.throttled c id))
  | dropped (reason : DropReason) : Concludes (.ok (.ofOutcome (.dropped reason)))
  | failed (fault : Fault) : Concludes (.error (.collaborator fault))
  | handedOff : Concludes (.ok (.ofOutcome .handedOff))
  | fannedOut {result : RouteResult} (h : result.outcome = .delivered) : Concludes (.ok result)

variable {env : Environment} {ctx : Context} {b : Broker} {d : Destination} {m : Message}
  {ts : List Subtopic} {answer : Except BrokerError RouteResult}

theorem concludes_passOn (ctx : Context) (d : Destination) (m : Message) (ts : List Subtopic)
    (b : Broker) : Concludes (passOn ctx d m ts b).2 := by
  have hfault {e : BrokerError} := exists_fault_of_invoke ctx.env d.adapter m b (e := e)
  rw [passOn]
  generalize invoke ctx.env d.adapter m b = invoked at hfault ⊢
  obtain ⟨b₁, answer⟩ := invoked
  cases answer with
  | error e =>
    obtain ⟨fault, rfl⟩ := hfault rfl
    exact .failed fault
  | ok invocation =>
    cases invocation with
    | consumed => exact .handedOff
    | fanout => exact .fannedOut (outcome_fanout ctx d m ts none true b₁)

theorem concludes_routeMessage (h : (passGate env m b).2 = .ok (d, ts)) :
    Concludes (routeMessage env m b).2 := by
  rw [routeMessage_of_ok h]
  split
  · exact .throttled m.client d.id
  · exact .dropped .inboundThrottled
  · exact concludes_passOn _ d m ts _

/-- Exactly one of four things becomes of a message that has passed the gate. -/
theorem Concludes.single (h : Concludes answer) :
    (isRefusal answer).toNat + (isFailure answer).toNat + (isHandOff answer).toNat +
      (fannedOut? answer).isSome.toNat = 1 := by
  cases h with
  | throttled | dropped | failed | handedOff => rfl
  | fannedOut h => rw [isRefusal, isFailure, isHandOff, fannedOut?, RouteResult.isDropped, h]; rfl

theorem answerFigures_eq (answer : Except BrokerError RouteResult) :
    answerFigures answer =
      fanoutFigures answer + if isRefusal answer then refusalFigures else 0 := by
  rcases answer with e | result
  · cases e <;> rfl
  · rw [answerFigures, fanoutFigures, fannedOut?, isRefusal, RouteResult.isDropped]
    cases result.outcome <;> rfl

end Broker

/-! ## Turns -/

namespace Turn

open Broker

variable {env : Environment} {b : Broker} {op : Operation} {m : Message} {id : DestinationId}

/-- What the operation answers. -/
def outcome (t : Turn) : Outcome := (perform t.env t.before t.operation).2

/-- The answer about a message to a destination, if the operation is about one. -/
def answer? (t : Turn) (id : DestinationId) : Option (Except BrokerError RouteResult) :=
  (t.operation.message?.filter (·.destination == id)).bind fun _ => t.outcome.routed?

/-- The fan-out of a destination that the operation leads to, if it leads to one. -/
def fanout? (t : Turn) (id : DestinationId) : Option RouteResult := (t.answer? id).bind fannedOut?

/-- The answer about a message that a client sends to a destination. -/
def sent? (t : Turn) (id : DestinationId) : Option (Except BrokerError RouteResult) :=
  match t.operation with
  | .route _ => t.answer? id
  | _ => none

/-- Whether a client sends a message to a destination and it passes the gate. -/
def passes (t : Turn) (id : DestinationId) : Bool :=
  match t.operation with
  | .route m => m.destination == id && (passGate t.env m t.before).2.isOk
  | _ => false

/-- Whether the inbound limiter refuses the message. -/
def isRefused (t : Turn) (id : DestinationId) : Bool := t.passes id && (t.sent? id).any isRefusal

/-- Whether the message passes the gate and the adapter fails. -/
def isLost (t : Turn) (id : DestinationId) : Bool := t.passes id && (t.sent? id).any isFailure

/-- Whether the adapter takes the message over. -/
def isHandedOff (t : Turn) (id : DestinationId) : Bool := (t.sent? id).any isHandOff

/-- Whether the message is fanned out. -/
def isFannedOut (t : Turn) (id : DestinationId) : Bool :=
  (t.sent? id).any fun answer => (fannedOut? answer).isSome

/-- What a turn charges a destination with. -/
def figures (t : Turn) (id : DestinationId) : Figures :=
  (t.fanout? id).elim 0 RouteResult.figures +
    ((if t.passes id then receiptFigures else 0) + if t.isRefused id then refusalFigures else 0)

theorem answer?_of_message? (hm : op.message? = some m) :
    answer? ⟨env, b, op⟩ m.destination = (outcome ⟨env, b, op⟩).routed? := by
  rw [answer?, hm, Option.filter_some, if_pos (beq_self_eq_true _)]
  rfl

theorem answer?_of_ne (hm : op.message? = some m) (hid : m.destination ≠ id) :
    answer? ⟨env, b, op⟩ id = none := by
  rw [answer?, hm, Option.filter_some, if_neg fun h => hid (beq_iff_eq.mp h)]
  rfl

theorem passes_route : passes ⟨env, b, .route m⟩ id =
    (m.destination == id && (passGate env m b).2.isOk) := rfl

theorem sent?_route : sent? ⟨env, b, .route m⟩ m.destination = some (routeMessage env m b).2 :=
  answer?_of_message? rfl

theorem figures_of_not_passes {t : Turn} (h : t.passes id = false) :
    t.figures id = (t.fanout? id).elim 0 RouteResult.figures := by
  rw [figures, isRefused, h]
  rfl

theorem passes_of_ne (hm : op.message? = some m) (hid : m.destination ≠ id) :
    passes ⟨env, b, op⟩ id = false := by
  cases op with
  | route m' =>
    cases hm
    rw [passes_route, beq_eq_false_iff_ne.mpr hid, Bool.false_and]
  | _ => rfl

theorem sent?_of_ne (hm : op.message? = some m) (hid : m.destination ≠ id) :
    sent? ⟨env, b, op⟩ id = none := by
  cases op with
  | route m' => exact answer?_of_ne hm hid
  | _ => rfl

/-- A turn is about one destination at most. -/
theorem figures_eq_single (hm : op.message? = some m) :
    figures ⟨env, b, op⟩ = Pi.single m.destination (figures ⟨env, b, op⟩ m.destination) := by
  funext id
  by_cases hid : m.destination = id
  · subst hid
    rw [Pi.single_eq_same]
  · rw [Pi.single_eq_of_ne (Ne.symm hid), figures_of_not_passes (passes_of_ne hm hid), fanout?,
      answer?_of_ne hm hid]
    rfl

theorem figures_of_no_message (hm : op.message? = none) : figures ⟨env, b, op⟩ = 0 := by
  funext id
  have hpasses : passes ⟨env, b, op⟩ id = false := by
    cases op with
    | route m => cases hm
    | _ => rfl
  rw [figures_of_not_passes hpasses, fanout?, answer?, hm]
  rfl

theorem figures_route_of_error {e : BrokerError} (h : (passGate env m b).2 = .error e) :
    figures ⟨env, b, .route m⟩ m.destination = 0 := by
  have hpasses : passes ⟨env, b, .route m⟩ m.destination = false := by
    rw [passes_route, h]
    exact Bool.and_false _
  have hanswer : outcome ⟨env, b, .route m⟩ = .routed (.error e) := by
    rw [outcome, perform, routeMessage_of_error h]
    rfl
  rw [figures_of_not_passes hpasses, fanout?, answer?_of_message? rfl, hanswer]
  rfl

theorem figures_route_of_ok {d : Destination} {ts : List Subtopic}
    (h : (passGate env m b).2 = .ok (d, ts)) :
    figures ⟨env, b, .route m⟩ m.destination =
      receiptFigures + answerFigures (routeMessage env m b).2 := by
  have hpasses : passes ⟨env, b, .route m⟩ m.destination = true := by
    rw [passes_route, h, beq_self_eq_true]
    rfl
  rw [figures, isRefused, hpasses, sent?_route, fanout?, answer?_of_message? rfl, answerFigures_eq,
    if_pos rfl, Bool.true_and]
  exact add_left_comm ..

theorem figures_routeFromPeer : figures ⟨env, b, .routeFromPeer m⟩ m.destination =
    fanoutFigures (routeFromPeer env m b).2 := by
  rw [figures_of_not_passes rfl, fanout?, answer?_of_message? rfl]
  rfl

theorem figures_routeFromAdapter {toAll : Bool} :
    figures ⟨env, b, .routeFromAdapter m toAll⟩ m.destination =
      fanoutFigures (routeFromAdapter env m toAll b).2 := by
  rw [figures_of_not_passes rfl, fanout?, answer?_of_message? rfl]
  rfl

theorem passes_eq_add (t : Turn) (id : DestinationId) :
    (t.passes id).toNat = (t.isRefused id).toNat + (t.isLost id).toNat +
      (t.isHandedOff id).toNat + (t.isFannedOut id).toNat := by
  obtain ⟨env, b, op⟩ := t
  cases hm : op.message? with
  | none => cases op <;> first | rfl | cases hm
  | some m =>
    by_cases hid : m.destination = id
    · subst hid
      cases op with
      | route m' =>
        cases hm
        rw [isRefused, isLost, isHandedOff, isFannedOut, passes_route, beq_self_eq_true,
          Bool.true_and, sent?_route]
        cases hgate : (passGate env m b).2 with
        | error e =>
          rw [routeMessage_of_error hgate]
          rfl
        | ok passed => exact (concludes_routeMessage hgate).single.symm
      | _ => rfl
    · rw [isRefused, isLost, isHandedOff, isFannedOut, passes_of_ne hm hid, sent?_of_ne hm hid]
      rfl

theorem figures_eq (t : Turn) (id : DestinationId) :
    t.figures id =
      { received := (t.passes id).toNat
        delivered := (t.fanout? id).elim 0 (·.delivered)
        failed := (t.fanout? id).elim 0 (·.failed)
        expired := (t.fanout? id).elim 0 (·.expired)
        forwarded := (t.fanout? id).elim 0 (·.forwarded.toNat)
        inboundThrottled := (t.isRefused id).toNat
        outboundThrottled := (t.fanout? id).elim 0 (·.throttled)
        inboundRefused := (t.isRefused id).toNat
        outboundRefused := (t.fanout? id).elim 0 (·.throttled) } := by
  rw [figures]
  cases t.passes id <;> cases t.isRefused id <;> cases t.fanout? id <;>
    exact Figures.ext (by rfl) (by rfl) (by rfl) (by rfl) (by rfl) (by rfl) (by rfl) (by rfl)
      (by rfl)

end Turn

/-! ## Runs -/

namespace Broker

variable {b b₀ : Broker} {id : DestinationId} {d : Destination}

/-- The turns of a run. -/
def turns (b : Broker) : List (Environment × Operation) → List Turn
  | [] => []
  | (env, op) :: steps => ⟨env, b, op⟩ :: (perform env b op).1.turns steps

/-- New throttle settings are taken as they are, or not at all. -/
theorem configureThrottle_spec (id : DestinationId) (s : ThrottleSettings) (b : Broker) :
    (b.configureThrottle id s).1 = b ∨
      ∃ d, b.destination? id = some d ∧
        (b.configureThrottle id s).1 = b.onDestination id fun d' =>
          { d' with limiter := { d.limiter with settings := s } } := by
  rw [configureThrottle, requireDestination]
  cases hd : b.destination? id with
  | none => exact .inl rfl
  | some d =>
    dsimp only
    rw [Limiter.configure]
    cases s.validate with
    | error e => exact .inl rfl
    | ok => exact .inr ⟨d, rfl, rfl⟩

/-- New throttle settings cost nothing. -/
theorem charges_configureThrottle (id : DestinationId) (s : ThrottleSettings) (b : Broker) :
    Charges 0 b (b.configureThrottle id s).1 := by
  rcases configureThrottle_spec id s b with hsame | ⟨d, hd, hchanged⟩
  · rw [hsame]
    exact charges_of_destinations_eq rfl rfl
  · rw [hchanged, ← Pi.single_zero id]
    refine charges_onDestination (fun _ => rfl) fun d' hd' => ?_
    cases hd.symm.trans hd'
    rfl

/-- A turn charges the sheet of a destination with its figures, unless it clears the limiter. -/
theorem sheet_perform {op : Operation} (hop : ∀ id, op ≠ .resetThrottle id) (env : Environment)
    (b : Broker) (id : DestinationId) :
    (perform env b op).1.sheet? id =
      (b.sheet? id).map (·.charge (Turn.figures ⟨env, b, op⟩ id)) := by
  have hcharges {f : DestinationId → Figures} (h : Charges f b (perform env b op).1)
      (hf : Turn.figures ⟨env, b, op⟩ = f) : (perform env b op).1.sheet? id =
        (b.sheet? id).map (·.charge (Turn.figures ⟨env, b, op⟩ id)) := by
    rw [hf]
    exact h.sheet id
  have hmessage {m : Message} {f : Figures} (hm : op.message? = some m)
      (h : Charges (Pi.single m.destination f) b (perform env b op).1)
      (hf : Turn.figures ⟨env, b, op⟩ m.destination = f) : (perform env b op).1.sheet? id =
        (b.sheet? id).map (·.charge (Turn.figures ⟨env, b, op⟩ id)) :=
    hcharges h (hf ▸ Turn.figures_eq_single hm)
  by_cases haside : op.IsAside
  · refine hcharges (aside_perform haside env b).charges (Turn.figures_of_no_message ?_)
    cases op <;> first | rfl | exact haside.elim
  cases op with
  | route m =>
    cases hgate : (passGate env m b).2 with
    | error e =>
      exact hmessage rfl ((charges_routeMessage_of_error hgate).single_zero m.destination)
        (Turn.figures_route_of_error hgate)
    | ok passed =>
      exact hmessage rfl (charges_routeMessage_of_ok hgate) (Turn.figures_route_of_ok hgate)
  | routeFromPeer m => exact hmessage rfl (charges_routeFromPeer env m b) Turn.figures_routeFromPeer
  | routeFromAdapter m toAll =>
    exact hmessage rfl (charges_routeFromAdapter env m toAll b) Turn.figures_routeFromAdapter
  | configureThrottle d s =>
    exact hcharges (charges_configureThrottle d s b) (Turn.figures_of_no_message rfl)
  | resetThrottle d => exact absurd rfl (hop d)
  | addHook | removeHook =>
    rw [Turn.figures_of_no_message rfl]
    exact (Option.map_id' ..).symm
  | _ => exact absurd trivial haside

theorem sheet_run (steps : List (Environment × Operation)) (b : Broker)
    (hsteps : ∀ step ∈ steps, ∀ id, step.2 ≠ .resetThrottle id) (id : DestinationId) :
    (b.run steps).sheet? id =
      (b.sheet? id).map (·.charge ((b.turns steps).map (·.figures id)).sum) := by
  induction steps generalizing b with
  | nil => exact (Option.map_id' ..).symm
  | cons step steps ih =>
    obtain ⟨env, op⟩ := step
    have hfirst := sheet_perform (hsteps _ List.mem_cons_self) env b id
    have hrest := ih (perform env b op).1 fun step hstep =>
      hsteps step (List.mem_cons_of_mem _ hstep)
    rw [turns, List.map_cons, List.sum_cons]
    refine hrest.trans ?_
    rw [hfirst, Option.map_map]
    congr 1
    funext s
    exact s.charge_charge _ _

theorem sheet_of_buildDestination {settings : Settings} {equipment : Equipment}
    {s : DestinationSettings} (h : buildDestination settings equipment s = .ok d) :
    d.sheet = ⟨s, settings.window, 0⟩ := by
  unfold buildDestination at h
  split at h
  · cases h
  · obtain ⟨_, -, hadapter⟩ := Except.exists_of_bind_eq_ok h
    obtain ⟨adapter, -, hlimiter⟩ := Except.exists_of_bind_eq_ok hadapter
    obtain ⟨limiter, hcreated, hsame⟩ := Except.exists_of_bind_eq_ok hlimiter
    rw [Limiter.create] at hcreated
    cases hvalid : s.throttle.validate with
    | error e =>
      rw [hvalid] at hcreated
      cases hcreated
    | ok =>
      rw [hvalid] at hcreated
      cases hcreated
      cases hsame
      rfl

/-- A destination of a broker that was just built has its settings from the broker's, and has
counted nothing. -/
theorem IsBuilt.sheet (h : b₀.IsBuilt) {s : Sheet} (hs : b₀.sheet? id = some s) :
    b₀.settings.destinations[id]? = some s.settings ∧ s.window = b₀.settings.window ∧
      s.figures = 0 := by
  obtain ⟨raw, settings, equipment, haccept, hbuild⟩ := h
  obtain ⟨destinations, hall, rfl⟩ := destinations_of_build hbuild
  obtain ⟨d, hd, rfl⟩ := Option.map_eq_some_iff.mp hs
  obtain ⟨hmem, rfl⟩ := mem_of_destination? hd
  obtain ⟨configured, hconfigured, hbuilt⟩ := Except.exists_of_mem_of_mapM_eq_ok hall hmem
  obtain ⟨key, hkey⟩ := Maps.mem_values_iff.mp hconfigured
  have hid : d.id = key :=
    (congrArg Shelf.id (shelf_of_buildDestination hbuilt).1).trans
      (Settings.id_eq_of_accept haccept hkey)
  rw [sheet_of_buildDestination hbuilt, hid]
  exact ⟨hkey, rfl, rfl⟩

/-- The statistics of a destination are an exact account of the turns of a run. -/
structure Accounts (d : Destination) (turns : List Turn) : Prop where
  delivered : d.totals.delivered = ((turns.filterMap (·.fanout? d.id)).map (·.delivered)).sum
  failed : d.totals.deliveryFailures = ((turns.filterMap (·.fanout? d.id)).map (·.failed)).sum
  throttled : d.totals.outboundThrottled =
    ((turns.filterMap (·.fanout? d.id)).map (·.throttled)).sum
  expired : d.totals.expired = ((turns.filterMap (·.fanout? d.id)).map (·.expired)).sum
  forwarded : d.totals.forwarded = (turns.filterMap (·.fanout? d.id)).countP (·.forwarded)
  received : d.totals.received = turns.countP (·.passes d.id)
  /-- Every message that has passed the gate was refused, lost, handed off or fanned out. -/
  balance : d.totals.received = d.totals.inboundThrottled + turns.countP (·.isLost d.id) +
    turns.countP (·.isHandedOff d.id) + turns.countP (·.isFannedOut d.id)
  inboundRefusals : d.totals.inboundThrottled =
    (d.limiter.refusals.get .inbound).client.count +
      (d.limiter.refusals.get .inbound).destination.count
  outboundRefusals : d.totals.outboundThrottled =
    (d.limiter.refusals.get .outbound).client.count +
      (d.limiter.refusals.get .outbound).destination.count

/-- What a turn counts for is added up over a run. -/
theorem figure_sum {figure : Figures → Nat} {share : Turn → Nat} (hzero : figure 0 = 0)
    (hadd : ∀ f g, figure (f + g) = figure f + figure g)
    (hshare : ∀ t : Turn, figure (t.figures id) = share t) (turns : List Turn) :
    figure (turns.map (·.figures id)).sum = (turns.map share).sum := by
  induction turns with
  | nil => exact hzero
  | cons t turns ih =>
    rw [List.map_cons, List.sum_cons, hadd, hshare, ih, List.map_cons, List.sum_cons]

/-- What the answers to some turns count for is a sum over all turns. -/
theorem sum_map_filterMap {α β : Type} (f : α → Option β) (g : β → Nat) (l : List α) :
    ((l.filterMap f).map g).sum = (l.map fun a => (f a).elim 0 g).sum := by
  induction l with
  | nil => rfl
  | cons a l ih =>
    rw [List.map_cons, List.sum_cons, ← ih]
    cases h : f a with
    | none =>
      rw [List.filterMap_cons_none h]
      exact (Nat.zero_add _).symm
    | some c => rw [List.filterMap_cons_some h, List.map_cons, List.sum_cons, Option.elim_some]

theorem countP_eq_sum {α : Type} (p : α → Bool) (l : List α) :
    l.countP p = (l.map fun a => (p a).toNat).sum := by
  induction l with
  | nil => rfl
  | cons a l ih =>
    rw [List.countP_cons, List.map_cons, List.sum_cons, ih, Nat.add_comm]
    cases p a <;> rfl

theorem countP_passes (turns : List Turn) (id : DestinationId) :
    turns.countP (·.passes id) = turns.countP (·.isRefused id) + turns.countP (·.isLost id) +
      turns.countP (·.isHandedOff id) + turns.countP (·.isFannedOut id) := by
  simp only [countP_eq_sum, Turn.passes_eq_add, List.sum_map_add]

/-- By the end of a run of a broker that was built from accepted settings, the statistics of a
destination are an exact account of the run, as long as nobody clears a limiter. -/
theorem accounts_run (hbuilt : b₀.IsBuilt) {steps : List (Environment × Operation)}
    (hsteps : ∀ step ∈ steps, ∀ id, step.2 ≠ .resetThrottle id)
    (hd : (b₀.run steps).destination? id = some d) : Accounts d (b₀.turns steps) := by
  obtain rfl : d.id = id := (mem_of_destination? hd).2
  have hfigures : d.figures = ((b₀.turns steps).map (·.figures d.id)).sum := by
    have hsheet := sheet_run steps b₀ hsteps d.id
    rw [sheet?, hd] at hsheet
    obtain ⟨s, hs, hcharged⟩ := Option.map_eq_some_iff.mp hsheet.symm
    have hsum := congrArg Sheet.figures hcharged
    rw [Sheet.charge, (hbuilt.sheet hs).2.2, zero_add] at hsum
    exact hsum.symm
  have hsum (figure : Figures → Nat) {share : Turn → Nat} (hzero : figure 0 = 0)
      (hadd : ∀ f g, figure (f + g) = figure f + figure g)
      (hshare : ∀ t : Turn, figure (t.figures d.id) = share t) :
      figure d.figures = ((b₀.turns steps).map share).sum :=
    (congrArg figure hfigures).trans (figure_sum hzero hadd hshare _)
  have hinbound : d.totals.inboundThrottled = (b₀.turns steps).countP (·.isRefused d.id) := by
    rw [countP_eq_sum]
    exact hsum (·.inboundThrottled) rfl (fun _ _ => rfl) fun t => by rw [t.figures_eq]
  have hreceived : d.totals.received = (b₀.turns steps).countP (·.passes d.id) := by
    rw [countP_eq_sum]
    exact hsum (·.received) rfl (fun _ _ => rfl) fun t => by rw [t.figures_eq]
  constructor
  case delivered =>
    rw [sum_map_filterMap]
    exact hsum (·.delivered) rfl (fun _ _ => rfl) fun t => by rw [t.figures_eq]
  case failed =>
    rw [sum_map_filterMap]
    exact hsum (·.failed) rfl (fun _ _ => rfl) fun t => by rw [t.figures_eq]
  case throttled =>
    rw [sum_map_filterMap]
    exact hsum (·.outboundThrottled) rfl (fun _ _ => rfl) fun t => by
      rw [t.figures_eq]
  case expired =>
    rw [sum_map_filterMap]
    exact hsum (·.expired) rfl (fun _ _ => rfl) fun t => by rw [t.figures_eq]
  case forwarded =>
    rw [countP_eq_sum, sum_map_filterMap]
    exact hsum (·.forwarded) rfl (fun _ _ => rfl) fun t => by rw [t.figures_eq]
  case received => exact hreceived
  case balance => rw [hreceived, hinbound, countP_passes]
  case inboundRefusals =>
    have hrefused := hsum (·.inboundRefused) rfl (fun _ _ => rfl) fun t => by
      rw [t.figures_eq]
    rw [hinbound, countP_eq_sum]
    exact hrefused.symm
  case outboundRefusals =>
    have hthrottled := hsum (·.outboundThrottled) rfl (fun _ _ => rfl) fun t => by
      rw [t.figures_eq]
    have hrefused := hsum (·.outboundRefused) rfl (fun _ _ => rfl) fun t => by
      rw [t.figures_eq]
    exact hthrottled.trans hrefused.symm

/-- A client subscribes and sends two messages. -/
def insisting : List (Environment × Operation) := opening ++ quietly [.route note, .route note]

/-- A node that takes one message a second delivers the first of them and refuses the other. -/
theorem accounts_run_slow :
    ∃ (b₀ : Broker) (d : Destination), b₀.IsBuilt ∧
      (∀ step ∈ insisting, ∀ id, step.2 ≠ .resetThrottle id) ∧
      (b₀.run insisting).destination? "news" = some d ∧
      (d.totals.received, d.totals.delivered, d.totals.inboundThrottled) = (2, 1, 1) ∧
      Accounts d (b₀.turns insisting) := by
  have hsteps : ∀ step ∈ insisting, ∀ id, step.2 ≠ .resetThrottle id := by
    simp [insisting, opening, quietly]
  obtain ⟨b₀, d, hbuilt, hd, htotals⟩ : ∃ (b₀ : Broker) (d : Destination), b₀.IsBuilt ∧
      (b₀.run insisting).destination? "news" = some d ∧
      (d.totals.received, d.totals.delivered, d.totals.inboundThrottled) = (2, 1, 1) := by
    have hbuilt : IsBuilt _ := ⟨slowSettings, _, ⟨true, false, [], []⟩, rfl, rfl⟩
    exact ⟨_, _, hbuilt, rfl, rfl⟩
  exact ⟨b₀, d, hbuilt, hsteps, hd, htotals, accounts_run hbuilt hsteps hd⟩

end Broker

end MessageBroker
