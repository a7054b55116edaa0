/-
# Limiters that agree from a time on

A check brings the counters that it asks up to its time before it reads them. So two counters
are as good as equal from a time on if they are equal once they are brought up to it, even if
only one of them has begun a new window so far. That they count the same at every later time
would not do: a window that has ended and an empty one that still lasts both count nothing, and
yet what is counted next is forgotten at different times.

A check that refuses leaves a limiter that agrees with the one before. Two limiters that agree
give the same answer to the same check and agree afterwards. Both hold for all counters, and
also for all but those of one client whom the check is not about.
-/

import MessageBroker.Proofs.Throttle.Verdicts

open Std

namespace MessageBroker

namespace Window

variable {w w' w'' v v' : Window} {length : Int} {ceiling ceiling' : Nat} {now t : Int}
  {admitted : Bool}

/-- Two counters are equal once they are brought up to a time, apart from their records of
refusals. -/
structure SameFrom (length : Int) (now : Timestamp) (w w' : Window) : Prop where
  start : (w'.roll length now).start = (w.roll length now).start
  count : (w'.roll length now).count = (w.roll length now).count

namespace SameFrom

theorem refl (w : Window) : SameFrom length now w w := ⟨rfl, rfl⟩

theorem symm (h : SameFrom length now w w') : SameFrom length now w' w :=
  ⟨h.start.symm, h.count.symm⟩

theorem trans (h : SameFrom length now w w') (h' : SameFrom length now w' w'') :
    SameFrom length now w w'' :=
  ⟨h'.start.trans h.start, h'.count.trans h.count⟩

theorem of_eq (hstart : w'.start = w.start) (hcount : w'.count = w.count) :
    SameFrom length now w w' := by
  constructor
  · unfold roll
    grind
  · unfold roll
    grind

end SameFrom

/-- To bring a counter up to a time is to ask it for nothing. -/
theorem asked_roll (w : Window) (length : Int) (ceiling : Nat) (now : Timestamp) :
    Asked length ceiling now false w (w.roll length now) :=
  ⟨rfl, rfl, nofun⟩

theorem countAt_roll (w : Window) (length : Int) (ht : w.InReach now t) :
    (w.roll length now).countAt length t = w.countAt length t :=
  (asked_roll w length 0 now).countsAlike.countAt t ht

theorem SameFrom.countAt_eq (h : SameFrom length now w w') (ht : w.InReach now t)
    (ht' : w'.InReach now t) : w'.countAt length t = w.countAt length t := by
  rw [← countAt_roll w length ht, ← countAt_roll w' length ht', countAt, countAt, h.start, h.count]

/-- A counter that is asked is brought up to the time, and stays as it is then if the message is
not counted. -/
theorem Asked.sameFrom (h : Asked length ceiling now false w w') : SameFrom length now w w' := by
  have hstart := h.start
  have hcount := h.count
  have hself := Timestamp.since_self now
  constructor
  · unfold roll at hstart ⊢
    grind
  · unfold roll at hstart hcount ⊢
    grind

/-- Counters that agree do so after the same message is asked for at both. -/
theorem SameFrom.asked (hw : SameFrom length now w w')
    (h : Asked length ceiling now admitted w v) (h' : Asked length ceiling' now admitted w' v') :
    SameFrom length now v v' := by
  refine .of_eq ?_ ?_
  · rw [h'.start, h.start, hw.start]
  · rw [h'.count, h.count, hw.count]

end Window

namespace Limiter

variable {l l' l'' : Limiter} {d : Direction} {c apart : ClientId} {requested : Option Nat}
  {now t : Timestamp}

/-- Two limiters agree on the counters of a direction from a time on, but for those of one
client. -/
structure SameFrom (d : Direction) (now : Timestamp) (apart : ClientId) (l l' : Limiter) :
    Prop where
  window : l'.window = l.window
  settings : l'.settings = l.settings
  destination : Window.SameFrom l.windowLength now (l.destination.get d) (l'.destination.get d)
  client : ∀ c, c ≠ apart →
    Window.SameFrom l.windowLength now (l.windowOf c d) (l'.windowOf c d)

namespace SameFrom

theorem refl (l : Limiter) : SameFrom d now apart l l :=
  ⟨rfl, rfl, .refl _, fun _ _ => .refl _⟩

theorem length_eq (h : SameFrom d now apart l l') : l'.windowLength = l.windowLength := by
  rw [windowLength, windowLength, h.window]

theorem symm (h : SameFrom d now apart l l') : SameFrom d now apart l' l where
  window := h.window.symm
  settings := h.settings.symm
  destination := by
    rw [h.length_eq]
    exact h.destination.symm
  client c hc := by
    rw [h.length_eq]
    exact (h.client c hc).symm

theorem trans (h : SameFrom d now apart l l') (h' : SameFrom d now apart l' l'') :
    SameFrom d now apart l l'' where
  window := h'.window.trans h.window
  settings := h'.settings.trans h.settings
  destination := h.destination.trans (h.length_eq ▸ h'.destination)
  client c hc := (h.client c hc).trans (h.length_eq ▸ h'.client c hc)

/-- The counters count the same at the time. -/
theorem countAt_destination (h : SameFrom d now apart l l') :
    (l'.destination.get d).countAt l.windowLength now =
      (l.destination.get d).countAt l.windowLength now :=
  h.destination.countAt_eq (.inl rfl) (.inl rfl)

theorem countAt_client (h : SameFrom d now apart l l') (hc : c ≠ apart) :
    (l'.windowOf c d).countAt l.windowLength now = (l.windowOf c d).countAt l.windowLength now :=
  (h.client c hc).countAt_eq (.inl rfl) (.inl rfl)

/-! ## Forgetting clients -/

theorem removeClient (h : SameFrom d now apart l l') (c : ClientId) :
    SameFrom d now apart (l.removeClient c) (l'.removeClient c) where
  window := h.window
  settings := h.settings
  destination := h.destination
  client x hx := by
    rw [windowOf_removeClient, windowOf_removeClient]
    split
    · exact .refl _
    · exact h.client x hx

/-- To forget the client apart makes no difference. -/
theorem removeClient_apart (h : SameFrom d now apart l l') :
    SameFrom d now apart (l.removeClient apart) l' where
  window := h.window
  settings := h.settings
  destination := h.destination
  client x hx := by
    rw [windowOf_removeClient, if_neg (Ne.symm hx)]
    exact h.client x hx

end SameFrom

/-! ## Checks -/

theorem snd_askDestination_iff (l : Limiter) (d : Direction) (now : Timestamp) :
    (l.askDestination d now).2 = true ↔ (l.settings.get d).destination = 0 ∨
      (l.destination.get d).countAt l.windowLength now <
        l.ceiling (l.settings.get d).destination := by
  unfold askDestination
  split
  next hzero => exact iff_of_true rfl (.inl hzero)
  next hlimit => exact (Window.snd_acquire _ _ _ _).trans (or_iff_right hlimit).symm

theorem snd_askClient_iff (l : Limiter) (d : Direction) (c : ClientId) (frequency : Nat)
    (now : Timestamp) :
    (l.askClient d c frequency now).2 = true ↔ frequency = 0 ∨
      (l.windowOf c d).countAt l.windowLength now < l.ceiling frequency := by
  unfold askClient
  split
  next hzero => exact iff_of_true rfl (.inl hzero)
  next hlimit => exact (Window.snd_acquire _ _ _ _).trans (or_iff_right hlimit).symm

/-- A check lets a message pass if nothing is limited or both counters have room. -/
theorem isAllowed_check_iff (l : Limiter) (d : Direction) (c : ClientId)
    (requested : Option Nat) (now : Timestamp) :
    (l.check d c requested now).2.isAllowed = true ↔
      (l.settings.get d).policy = .none ∨
        ((l.settings.get d).destination = 0 ∨ (l.destination.get d).countAt l.windowLength now <
          l.ceiling (l.settings.get d).destination) ∧
        (l.frequencyFor d requested = 0 ∨ (l.windowOf c d).countAt l.windowLength now <
          l.ceiling (l.frequencyFor d requested)) := by
  by_cases hpolicy : (l.settings.get d).policy = .none
  · have hcheck : l.check d c requested now = (l, .allow) := if_pos hpolicy
    rw [hcheck]
    exact iff_of_true rfl (.inl hpolicy)
  rw [or_iff_right hpolicy]
  by_cases hzero : (l.settings.get d).destination = 0 ∧ l.frequencyFor d requested = 0
  · have hcheck : l.check d c requested now = (l, .allow) := (if_neg hpolicy).trans (if_pos hzero)
    rw [hcheck]
    exact iff_of_true rfl ⟨.inl hzero.1, .inl hzero.2⟩
  have hrefused := isAllowed_refusal hpolicy
  rw [check_of_limited hpolicy hzero]
  have hroom := l.snd_askDestination_iff d now
  obtain ⟨w, hl₁, -, -⟩ := l.askDestination_spec d now
  generalize l.askDestination d now = asked at hl₁ hroom
  obtain ⟨l₁, admitted⟩ := asked
  dsimp only at hl₁ hroom ⊢
  subst hl₁
  cases admitted with
  | false =>
    refine iff_of_false (fun h => Bool.false_ne_true (hrefused.symm.trans h)) fun h => ?_
    exact Bool.false_ne_true (hroom.mpr h.1)
  | true =>
    have hown := snd_askClient_iff { l with destination := l.destination.set d w } d c
      (l.frequencyFor d requested) now
    obtain ⟨clients, -, hl₂, -, -, -⟩ := askClient_spec
      { l with destination := l.destination.set d w } d c (l.frequencyFor d requested) now
    generalize askClient _ d c (l.frequencyFor d requested) now = asked at hl₂ hown ⊢
    obtain ⟨l₂, admitted⟩ := asked
    dsimp only at hl₂ hown ⊢
    subst hl₂
    cases admitted with
    | true => exact iff_of_true rfl ⟨hroom.mp rfl, hown.mp rfl⟩
    | false =>
      rw [Bool.not_true, if_neg Bool.false_ne_true, if_neg Bool.false_ne_true,
        releaseDestination_of_limited]
      refine iff_of_false (fun h => Bool.false_ne_true (hrefused.symm.trans h)) fun h => ?_
      exact Bool.false_ne_true (hown.mpr h.2)

/-- A check that refuses only brings counters up to its time. -/
theorem sameFrom_of_refused (h : (l.check d c requested now).2.isAllowed = false) :
    SameFrom d now apart l (l.check d c requested now).1 := by
  have hchecked := checked_check l d c requested now
  constructor
  case window => exact hchecked.window
  case settings => exact hchecked.settings
  case destination =>
    by_cases hall : l.CountsAll d
    · exact (h ▸ hchecked.destination hall).sameFrom
    · rw [hchecked.destination_of_not hall]
      exact .refl _
  case client =>
    intro x _
    by_cases hsame : c = x
    · subst hsame
      by_cases heach : l.CountsEach d requested
      · rcases hchecked.windowOf heach with hasked | ⟨-, heq⟩
        · exact (h ▸ hasked).sameFrom
        · rw [heq]
          exact .refl _
      · rw [hchecked.windowOf_of_not heach]
        exact .refl _
    · rw [hchecked.windowOf_of_ne x d fun hboth => hsame hboth.1]
      exact .refl _

/-- A check answers the same on limiters that agree. -/
theorem SameFrom.isAllowed_eq (h : SameFrom d now apart l l') (hc : c ≠ apart)
    (requested : Option Nat) :
    (l'.check d c requested now).2.isAllowed = (l.check d c requested now).2.isAllowed := by
  have hceiling (frequency : Nat) : l'.ceiling frequency = l.ceiling frequency := by
    rw [ceiling, ceiling, h.window]
  have hfrequency : l'.frequencyFor d requested = l.frequencyFor d requested := by
    rw [frequencyFor, frequencyFor, h.settings]
  rw [Bool.eq_iff_iff, isAllowed_check_iff, isAllowed_check_iff, h.length_eq, h.settings,
    hfrequency, hceiling, hceiling, h.countAt_destination, h.countAt_client hc]

/-- Limiters that agree do so after a check. -/
theorem SameFrom.check (h : SameFrom d now apart l l') (hc : c ≠ apart)
    (requested : Option Nat) :
    SameFrom d now apart (l.check d c requested now).1 (l'.check d c requested now).1 := by
  have hsame := h.isAllowed_eq hc requested
  cases hallowed : (l.check d c requested now).2.isAllowed with
  | false =>
    exact ((sameFrom_of_refused hallowed).symm.trans h).trans
      (sameFrom_of_refused (hsame.trans hallowed))
  | true =>
    have hchecked := checked_check l d c requested now
    have hchecked' := checked_check l' d c requested now
    have hlength : (l.check d c requested now).1.windowLength = l.windowLength := by
      rw [windowLength, windowLength, hchecked.window]
    have hfrequency : l'.frequencyFor d requested = l.frequencyFor d requested := by
      rw [frequencyFor, frequencyFor, h.settings]
    rw [hallowed] at hsame
    constructor
    case window => rw [hchecked.window, hchecked'.window, h.window]
    case settings => rw [hchecked.settings, hchecked'.settings, h.settings]
    case destination =>
      rw [hlength]
      by_cases hall : l.CountsAll d
      · have hasked := hchecked.destination hall
        have hasked' := hchecked'.destination (by rwa [CountsAll, h.settings])
        rw [hallowed] at hasked
        rw [hsame, h.length_eq] at hasked'
        exact h.destination.asked hasked hasked'
      · rw [hchecked.destination_of_not hall,
          hchecked'.destination_of_not (by rwa [CountsAll, h.settings])]
        exact h.destination
    case client =>
      intro x hx
      rw [hlength]
      by_cases hself : c = x
      · subst hself
        by_cases heach : l.CountsEach d requested
        · -- A message that passes was asked for at the counter of its client.
          have hasked := (hchecked.windowOf heach).resolve_right fun hnot => by
            rw [hallowed] at hnot
            cases hnot.1
          have heach' : l'.CountsEach d requested := by rwa [CountsEach, h.settings, hfrequency]
          have hasked' := (hchecked'.windowOf heach').resolve_right fun hnot => by
            rw [hsame] at hnot
            cases hnot.1
          rw [hallowed] at hasked
          rw [hsame, h.length_eq] at hasked'
          exact (h.client c hx).asked hasked hasked'
        · rw [hchecked.windowOf_of_not heach,
            hchecked'.windowOf_of_not (by rwa [CountsEach, h.settings, hfrequency])]
          exact h.client c hx
      · rw [hchecked.windowOf_of_ne x d fun hboth => hself hboth.1,
          hchecked'.windowOf_of_ne x d fun hboth => hself hboth.1]
        exact h.client x hx

end Limiter

end MessageBroker
