/-
# The two directions of a limiter

The counters of the two directions have nothing to do with each other. A check in one direction
looks at the counters of that direction alone, so limiters that agree on it come to the same
verdict and still agree; and it leaves the counters of the other direction as they are.
-/

import MessageBroker.Proofs.Broker.Ledger

open Std

namespace MessageBroker

namespace Limiter

variable {l l' l'' : Limiter} {d e : Direction} {c : ClientId} {requested : Option Nat}
  {now : Timestamp}

theorem check_of_unlimited (h : (l.settings.get d).policy = .none) :
    l.check d c requested now = (l, .allow) := if_pos h

theorem check_of_unbounded (hpolicy : (l.settings.get d).policy ≠ .none)
    (hzero : (l.settings.get d).destination = 0 ∧ l.frequencyFor d requested = 0) :
    l.check d c requested now = (l, .allow) := (if_neg hpolicy).trans (if_pos hzero)

/-- Two limiters have the same counters and refusals in a direction, and the same settings. -/
structure AgreeOn (d : Direction) (l l' : Limiter) : Prop where
  window : l'.window = l.window
  settings : l'.settings = l.settings
  destination : l'.destination.get d = l.destination.get d
  windowOf : ∀ c, l'.windowOf c d = l.windowOf c d
  refusals : l'.refusals.get d = l.refusals.get d

namespace AgreeOn

theorem refl (d : Direction) (l : Limiter) : AgreeOn d l l := ⟨rfl, rfl, rfl, fun _ => rfl, rfl⟩

theorem symm (h : AgreeOn d l l') : AgreeOn d l' l :=
  ⟨h.window.symm, h.settings.symm, h.destination.symm, fun c => (h.windowOf c).symm,
    h.refusals.symm⟩

theorem trans (h : AgreeOn d l l') (h' : AgreeOn d l' l'') : AgreeOn d l l'' :=
  ⟨h'.window.trans h.window, h'.settings.trans h.settings, h'.destination.trans h.destination,
    fun c => (h'.windowOf c).trans (h.windowOf c), h'.refusals.trans h.refusals⟩

theorem removeClient (h : AgreeOn d l l') (c : ClientId) :
    AgreeOn d (l.removeClient c) (l'.removeClient c) := by
  refine ⟨h.window, h.settings, h.destination, fun x => ?_, h.refusals⟩
  rw [windowOf_removeClient, windowOf_removeClient, h.windowOf]

theorem foldl_removeClient (h : AgreeOn d l l') (gone : List ClientId) :
    AgreeOn d (gone.foldl Limiter.removeClient l) (gone.foldl Limiter.removeClient l') := by
  induction gone generalizing l l' with
  | nil => exact h
  | cons c gone ih => exact ih (h.removeClient c)

theorem setDestination (h : AgreeOn d l l') (w : Window) :
    AgreeOn d { l with destination := l.destination.set d w }
      { l' with destination := l'.destination.set d w } := by
  refine ⟨h.window, h.settings, ?_, h.windowOf, h.refusals⟩
  rw [PerDirection.get_set_self, PerDirection.get_set_self]

theorem setClient (h : AgreeOn d l l') (c : ClientId) (w : Window) :
    AgreeOn d { l with clients := l.clients.insert c ((l.windowsOf c).set d w) }
      { l' with clients := l'.clients.insert c ((l'.windowsOf c).set d w) } := by
  refine ⟨h.window, h.settings, h.destination, fun x => ?_, h.refusals⟩
  rw [windowOf_insert_set, windowOf_insert_set, h.windowOf]

/-! ## Limiters that agree on the direction of a check -/

theorem windowLength_eq (h : AgreeOn d l l') : l'.windowLength = l.windowLength := by
  rw [windowLength, windowLength, h.window]

theorem ceiling_eq (h : AgreeOn d l l') (frequency : Nat) :
    l'.ceiling frequency = l.ceiling frequency := by
  rw [ceiling, ceiling, h.window]

theorem frequencyFor_eq (h : AgreeOn d l l') (requested : Option Nat) :
    l'.frequencyFor d requested = l.frequencyFor d requested := by
  rw [frequencyFor, frequencyFor, h.settings]

theorem refuse (h : AgreeOn d l l') (level : Level) (now : Timestamp) :
    (l'.refuse d level now).2 = (l.refuse d level now).2 ∧
      AgreeOn d (l.refuse d level now).1 (l'.refuse d level now).1 := by
  constructor
  · show Verdict.refusal (l'.settings.get d).policy = .refusal (l.settings.get d).policy
    rw [h.settings]
  · refine ⟨h.window, h.settings, h.destination, h.windowOf, ?_⟩
    rw [Limiter.refuse, Limiter.refuse, PerDirection.get_set_self, PerDirection.get_set_self,
      h.refusals]

theorem askDestination (h : AgreeOn d l l') (now : Timestamp) :
    (l'.askDestination d now).2 = (l.askDestination d now).2 ∧
      AgreeOn d (l.askDestination d now).1 (l'.askDestination d now).1 := by
  rw [Limiter.askDestination, Limiter.askDestination, h.settings]
  split
  · exact ⟨rfl, h⟩
  · rw [acquireDestination, acquireDestination, h.windowLength_eq, h.ceiling_eq, h.destination]
    exact ⟨rfl, h.setDestination _⟩

theorem askClient (h : AgreeOn d l l') (c : ClientId) (frequency : Nat) (now : Timestamp) :
    (l'.askClient d c frequency now).2 = (l.askClient d c frequency now).2 ∧
      AgreeOn d (l.askClient d c frequency now).1 (l'.askClient d c frequency now).1 := by
  have hclient : (l'.windowsOf c).get d = (l.windowsOf c).get d := h.windowOf c
  rw [Limiter.askClient, Limiter.askClient]
  split
  · exact ⟨rfl, h⟩
  · rw [acquireClient, acquireClient, h.windowLength_eq, h.ceiling_eq]
    dsimp only
    rw [hclient]
    exact ⟨rfl, h.setClient c _⟩

theorem releaseDestination (h : AgreeOn d l l') :
    AgreeOn d (l.releaseDestination d) (l'.releaseDestination d) := by
  rw [Limiter.releaseDestination, Limiter.releaseDestination, h.destination]
  exact h.setDestination _

/-- A check comes to the same verdict, and the limiters still agree. -/
theorem check (h : AgreeOn d l l') (c : ClientId) (requested : Option Nat) (now : Timestamp) :
    (l'.check d c requested now).2 = (l.check d c requested now).2 ∧
      AgreeOn d (l.check d c requested now).1 (l'.check d c requested now).1 := by
  by_cases hpolicy : (l.settings.get d).policy = .none
  · have hpolicy' : (l'.settings.get d).policy = .none := h.settings ▸ hpolicy
    rw [check_of_unlimited hpolicy, check_of_unlimited hpolicy']
    exact ⟨rfl, h⟩
  have hpolicy' : (l'.settings.get d).policy ≠ .none := h.settings ▸ hpolicy
  by_cases hzero : (l.settings.get d).destination = 0 ∧ l.frequencyFor d requested = 0
  · have hzero' : (l'.settings.get d).destination = 0 ∧ l'.frequencyFor d requested = 0 := by
      rw [h.settings, h.frequencyFor_eq]
      exact hzero
    rw [check_of_unbounded hpolicy hzero, check_of_unbounded hpolicy' hzero']
    exact ⟨rfl, h⟩
  have hzero' : ¬((l'.settings.get d).destination = 0 ∧ l'.frequencyFor d requested = 0) := by
    rw [h.settings, h.frequencyFor_eq]
    exact hzero
  rw [check_of_limited hpolicy hzero, check_of_limited hpolicy' hzero', h.settings,
    h.frequencyFor_eq]
  obtain ⟨hadmitted, hasked⟩ := h.askDestination now
  generalize l.askDestination d now = asked, l'.askDestination d now = asked'
    at hadmitted hasked ⊢
  obtain ⟨l₁, admitted⟩ := asked
  obtain ⟨l₁', admitted'⟩ := asked'
  dsimp only at hadmitted hasked ⊢
  subst hadmitted
  split
  · exact hasked.refuse .destination now
  · obtain ⟨hadmitted, hasked⟩ := hasked.askClient c (l.frequencyFor d requested) now
    generalize l₁.askClient d c (l.frequencyFor d requested) now = asked,
      l₁'.askClient d c (l.frequencyFor d requested) now = asked' at hadmitted hasked ⊢
    obtain ⟨l₂, admitted⟩ := asked
    obtain ⟨l₂', admitted'⟩ := asked'
    dsimp only at hadmitted hasked ⊢
    subst hadmitted
    split
    · exact ⟨rfl, hasked⟩
    · split
      · exact hasked.refuse .client now
      · exact hasked.releaseDestination.refuse .client now

end AgreeOn

/-! ## The other direction -/

/-- A check in a direction leaves the other direction as it is. -/
theorem agreeOn_check_of_ne (h : e ≠ d) (l : Limiter) (c : ClientId) (requested : Option Nat)
    (now : Timestamp) : AgreeOn e l (l.check d c requested now).1 := by
  have hchecked := checked_check l d c requested now
  refine ⟨hchecked.window, hchecked.settings, hchecked.destination_of_ne e h,
    fun x => hchecked.windowOf_of_ne x e fun hsame => h hsame.2.symm, ?_⟩
  have hrecords := records_check l d c requested now
  generalize l.check d c requested now = answer at hrecords
  cases hrecords with
  | allowed hsame => rw [hsame]
  | refused hrecorded => rw [hrecorded, PerDirection.get_set_of_ne _ h]

end Limiter

end MessageBroker
