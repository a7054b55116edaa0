/-
# Destinations before and after

Operations never add or remove destinations. So a relation between a destination before an
operation and after it says something about every name: either no destination goes by it,
before and after, or one does, and it is in the relation.
-/

import Mathlib.Data.List.Nodup
import MessageBroker.Proofs.Broker.Silence

open Std

namespace MessageBroker

namespace Broker

variable {R : Destination → Destination → Prop} {b b' b'' : Broker} {id : DestinationId}
  {d d' : Destination}

/-- What is found under a name before and after is in a relation, if anything is found. -/
def Lookups (R : Destination → Destination → Prop) (b b' : Broker) : Prop :=
  ∀ id, Option.Rel R (b.destination? id) (b'.destination? id)

theorem Lookups.exists_destination? (h : Lookups R b b') (hd : b.destination? id = some d) :
    ∃ d', b'.destination? id = some d' ∧ R d d' := by
  have hid := h id
  rw [hd] at hid
  cases hd' : b'.destination? id with
  | none =>
    rw [hd'] at hid
    cases hid
  | some d' =>
    rw [hd'] at hid
    cases hid with
    | some hrel => exact ⟨d', rfl, hrel⟩

theorem Lookups.exists_of_destination? (h : Lookups R b b') (hd' : b'.destination? id = some d') :
    ∃ d, b.destination? id = some d ∧ R d d' := by
  have hid := h id
  rw [hd'] at hid
  cases hd : b.destination? id with
  | none =>
    rw [hd] at hid
    cases hid
  | some d =>
    rw [hd] at hid
    cases hid with
    | some hrel => exact ⟨d, rfl, hrel⟩

theorem Lookups.trans {R' R'' : Destination → Destination → Prop}
    (hR : ∀ {d d' d''}, R d d' → R' d' d'' → R'' d d'') (h : Lookups R b b')
    (h' : Lookups R' b' b'') : Lookups R'' b b'' := by
  intro id
  cases hd : b.destination? id with
  | none =>
    have hid := h id
    rw [hd] at hid
    cases hd' : b'.destination? id with
    | some d' =>
      rw [hd'] at hid
      cases hid
    | none =>
      have hid' := h' id
      rw [hd'] at hid'
      cases hd'' : b''.destination? id with
      | some d'' =>
        rw [hd''] at hid'
        cases hid'
      | none => exact .none
  | some d =>
    obtain ⟨d', hd', hrel⟩ := h.exists_destination? hd
    obtain ⟨d'', hd'', hrel'⟩ := h'.exists_destination? hd'
    rw [hd'']
    exact .some (hR hrel hrel')

theorem lookups_of_destination?_map {f : Destination → Destination}
    (h : ∀ id, b'.destination? id = (b.destination? id).map f)
    (hf : ∀ id d, b.destination? id = some d → R d (f d)) : Lookups R b b' := by
  intro id
  rw [h]
  cases hd : b.destination? id with
  | none => exact .none
  | some d => exact .some (hf id d hd)

theorem lookups_of_destinations_eq (hR : ∀ d, R d d) (h : b'.destinations = b.destinations) :
    Lookups R b b' :=
  lookups_of_destination?_map (f := fun d => d)
    (fun id => by rw [destination?, h, Option.map_id']; rfl) fun _ d _ => hR d

/-- A change of one destination matters as far as it changes what is found there. -/
theorem lookups_onDestination (hR : ∀ d, R d d) {change : Destination → Destination}
    (hid : ∀ d, (change d).id = d.id) (h : ∀ d, b.destination? id = some d → R d (change d)) :
    Lookups R b (b.onDestination id change) := by
  apply lookups_of_destination?_map (destination?_onDestination change hid b id)
  intro id' d hd
  split
  next heq =>
    have hplace : id' = id := (mem_of_destination? hd).2.symm.trans heq
    exact h d (hplace ▸ hd)
  next => exact hR d

theorem destination?_map {f : Destination → Destination} (hid : ∀ d, (f d).id = d.id)
    (h : b'.destinations = b.destinations.map f) (id : DestinationId) :
    b'.destination? id = (b.destination? id).map f := by
  have hname : (fun d : Destination => d.id == id) ∘ f = fun d => d.id == id := by
    funext d
    rw [Function.comp_apply, hid]
  rw [destination?, h, List.find?_map, hname, destination?]

/-! ## Names that are told apart -/

/-- Where no two destinations have one name, each is found under its own. -/
theorem destination?_of_mem (hnames : b.destinationIds.Nodup)
    (hd : d ∈ b.destinations) : b.destination? d.id = some d := by
  cases hfound : b.destination? d.id with
  | none =>
    have hother := List.find?_eq_none.mp hfound d hd
    exact absurd (beq_self_eq_true d.id) hother
  | some d' =>
    obtain ⟨hd', hid⟩ := mem_of_destination? hfound
    exact congrArg some (List.inj_on_of_nodup_map hnames hd' hd hid)

/-- A change that leaves a destination as it is leaves everything as it is. -/
theorem onDestination_eq_self (hnames : b.destinationIds.Nodup)
    (change : Destination → Destination) (hd : b.destination? id = some d)
    (hsame : change d = d) : b.onDestination id change = b := by
  have hmap : b.destinations.map (fun d => if d.id = id then change d else d) =
      b.destinations.map fun d => d := by
    apply List.map_congr_left
    intro d' hd'
    split
    next hid =>
      have hfound := destination?_of_mem hnames hd'
      rw [hid, hd] at hfound
      rw [← Option.some.inj hfound, hsame]
    next => rfl
  rw [onDestination, hmap, List.map_id']

end Broker

end MessageBroker
