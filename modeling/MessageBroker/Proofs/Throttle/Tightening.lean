/-
# Lower limits

A limit that a client asks for itself can only hold it back: where a check with a lower limit
lets a message pass, so does the check with a higher one, and so does the check without any.

For the clients that are checked after it, the lower limit can only help. A message that is
refused takes no slot, so the counter of the destination stays behind what it would be, and the
counters of the clients still to come are untouched. Once a later client passes only because of
that, the counter of the destination catches up, but no further: the check that it passed
asked for room below the ceiling that the other counter had reached.
-/

import MessageBroker.Proofs.Throttle.Rates
import MessageBroker.Proofs.Throttle.Rolling

open Std

namespace MessageBroker

/-- A limit that a client asks for was added or lowered, if it was changed at all. Zero asks for
no limit, and no limit may become zero. -/
def Lowers (old new : Option Nat) : Prop :=
  new = old ∨ ∃ k, new = some k ∧ 0 < k ∧ ∀ n, old = some n → n = 0 ∨ k ≤ n

/-- A limit holds a client back as much as another one does. -/
def Restrains (old new : Option Nat) : Prop :=
  ∀ n, old = some n → 0 < n → ∃ k, new = some k ∧ 0 < k ∧ k ≤ n

theorem Restrains.refl (requested : Option Nat) : Restrains requested requested :=
  fun n hn hpos => ⟨n, hn, hpos, le_rfl⟩

theorem Lowers.restrains {old new : Option Nat} (h : Lowers old new) : Restrains old new := by
  rcases h with rfl | ⟨k, rfl, hk, hle⟩
  · exact .refl new
  · intro n hn hpos
    exact ⟨k, rfl, hk, (hle n hn).resolve_left hpos.ne'⟩

theorem restrains_some {m₁ m₂ : Nat} (hpos : 0 < m₁) (hle : m₁ ≤ m₂) :
    Restrains (some m₂) (some m₁) := by
  intro n hn _
  obtain rfl := Option.some.inj hn
  exact ⟨m₁, rfl, hpos, hle⟩

theorem restrains_none (requested : Option Nat) : Restrains none requested :=
  fun _ hn _ => nomatch hn

namespace Window

variable {w w' v v' : Window} {length : Int} {ceiling ceiling' : Nat} {now : Int}
  {admitted admitted' : Bool}

/-- Brought up to a time, one counter counts no more than the other and in the same window. -/
structure Lags (length : Int) (now : Timestamp) (w w' : Window) : Prop where
  start : (w'.roll length now).start = (w.roll length now).start
  count : (w'.roll length now).count ≤ (w.roll length now).count

theorem Lags.refl (w : Window) : Lags length now w w := ⟨rfl, le_rfl⟩

theorem Lags.of_eq (hstart : w'.start = w.start) (hcount : w'.count ≤ w.count) :
    Lags length now w w' := by
  constructor <;>
  · unfold roll
    grind

theorem Lags.countAt_le (h : Lags length now w w') :
    w'.countAt length now ≤ w.countAt length now := by
  rw [← count_roll, ← count_roll]
  exact h.count

/-- A counter stays behind when it is asked along with the other one, unless it alone counts the
message; even then if it was further behind before. -/
theorem Lags.asked (hw : Lags length now w w') (h : Asked length ceiling now admitted w v)
    (h' : Asked length ceiling' now admitted' w' v')
    (hbehind : admitted' = true → admitted = true ∨
      w'.countAt length now < w.countAt length now) : Lags length now v v' := by
  rw [← count_roll, ← count_roll] at hbehind
  have hcount := hw.count
  refine .of_eq ?_ ?_
  · rw [h'.start, h.start, hw.start]
  · rw [h'.count, h.count]
    cases admitted' <;> cases admitted <;> grind

end Window

namespace Limiter

variable {l l' : Limiter} {d : Direction} {c : ClientId} {old new requested requested' : Option Nat}
  {now : Timestamp} {ahead ahead' : ClientId → Prop}

/-- A limit that is asked for applies where none is configured. -/
theorem frequencyFor_some (l : Limiter) (d : Direction) {r : Nat} (hr : 0 < r) :
    l.frequencyFor d (some r) =
      if (l.settings.get d).client = 0 then r else min (l.settings.get d).client r := by
  have hasked : (some r).filter (0 < ·) = some r := if_pos (decide_eq_true hr)
  unfold frequencyFor clientFrequency
  rw [hasked]
  cases (l.settings.get d).client <;> rfl

/-- Where none is asked for, the configured limit applies. -/
theorem frequencyFor_of_unasked (l : Limiter) (d : Direction)
    (h : ∀ n, requested = some n → n = 0) :
    l.frequencyFor d requested = (l.settings.get d).client := by
  have hasked : requested.filter (0 < ·) = none := by
    rw [Option.filter_eq_none_iff]
    intro n hn
    simp [h n hn]
  unfold frequencyFor clientFrequency
  rw [hasked]
  cases (l.settings.get d).client <;> rfl

/-- With a limit that holds a client back as much, the one that applies is as low. -/
theorem frequencyFor_of_restrains (l : Limiter) (d : Direction) (h : Restrains old new) :
    l.frequencyFor d old = 0 ∨
      0 < l.frequencyFor d new ∧ l.frequencyFor d new ≤ l.frequencyFor d old := by
  by_cases hasked : ∀ n, old = some n → n = 0
  · rw [l.frequencyFor_of_unasked d hasked]
    by_cases hlimit : (l.settings.get d).client = 0
    · exact .inl hlimit
    · obtain ⟨hne, hle⟩ := frequencyFor_le hlimit new
      exact .inr ⟨Nat.pos_of_ne_zero hne, hle⟩
  · push Not at hasked
    obtain ⟨n, rfl, hn⟩ := hasked
    obtain ⟨k, rfl, hk, hle⟩ := h n rfl (Nat.pos_of_ne_zero hn)
    rw [l.frequencyFor_some d hk, l.frequencyFor_some d (Nat.pos_of_ne_zero hn)]
    right
    split <;> omega

/-- Where a check lets a message pass, a check with a limit that holds back less does. -/
theorem isAllowed_check_of_restrains (h : Restrains old new)
    (hallowed : (l.check d c new now).2.isAllowed = true) :
    (l.check d c old now).2.isAllowed = true := by
  rw [isAllowed_check_iff] at hallowed ⊢
  refine hallowed.imp_right fun ⟨hroom, hown⟩ => ⟨hroom, ?_⟩
  rcases l.frequencyFor_of_restrains d h with hzero | ⟨hpos, hle⟩
  · exact .inl hzero
  · right
    exact (hown.resolve_left hpos.ne').trans_le (l.ceiling_mono hle)

theorem check_eq_allow_of_restrains (h : Restrains old new)
    (hallow : (l.check d c new now).2 = .allow) : (l.check d c old now).2 = .allow := by
  have hallowed := isAllowed_check_of_restrains h (congrArg Verdict.isAllowed hallow)
  cases hverdict : (l.check d c old now).2 with
  | allow => rfl
  | denyError =>
    rw [hverdict] at hallowed
    cases hallowed
  | denyIgnore =>
    rw [hverdict] at hallowed
    cases hallowed

/-- A limiter that is no worse for the clients still ahead: the counter of the destination is
behind that of the other limiter, and the counters of these clients are the same. -/
structure Eases (d : Direction) (now : Timestamp) (ahead : ClientId → Prop) (l l' : Limiter) :
    Prop where
  window : l'.window = l.window
  settings : l'.settings = l.settings
  destination : Window.Lags l.windowLength now (l.destination.get d) (l'.destination.get d)
  client : ∀ c, ahead c → l'.windowOf c d = l.windowOf c d

namespace Eases

theorem refl (l : Limiter) : Eases d now ahead l l := ⟨rfl, rfl, .refl _, fun _ _ => rfl⟩

theorem mono (h : Eases d now ahead l l') (hfewer : ∀ c, ahead' c → ahead c) :
    Eases d now ahead' l l' :=
  ⟨h.window, h.settings, h.destination, fun c hc => h.client c (hfewer c hc)⟩

theorem length_eq (h : Eases d now ahead l l') : l'.windowLength = l.windowLength := by
  rw [windowLength, windowLength, h.window]

theorem ceiling_eq (h : Eases d now ahead l l') (frequency : Nat) :
    l'.ceiling frequency = l.ceiling frequency := by
  rw [ceiling, ceiling, h.window]

theorem frequencyFor_eq (h : Eases d now ahead l l') (requested : Option Nat) :
    l'.frequencyFor d requested = l.frequencyFor d requested := by
  rw [frequencyFor, frequencyFor, h.settings]

/-- To forget a client that is not ahead any more makes no difference. -/
theorem removeClient_left (h : Eases d now ahead l l') (hc : ¬ahead c) :
    Eases d now ahead (l.removeClient c) l' where
  window := h.window
  settings := h.settings
  destination := h.destination
  client x hx := by
    rw [windowOf_removeClient, if_neg fun heq : c = x => hc (heq ▸ hx)]
    exact h.client x hx

theorem removeClient_right (h : Eases d now ahead l l') (hc : ¬ahead c) :
    Eases d now ahead l (l'.removeClient c) where
  window := h.window
  settings := h.settings
  destination := h.destination
  client x hx := by
    rw [windowOf_removeClient, if_neg fun heq : c = x => hc (heq ▸ hx)]
    exact h.client x hx

/-- The next client passes where it passed before. -/
theorem isAllowed (h : Eases d now ahead l l') (hc : ahead c)
    (hallowed : (l.check d c requested now).2.isAllowed = true) :
    (l'.check d c requested now).2.isAllowed = true := by
  rw [isAllowed_check_iff] at hallowed ⊢
  rw [h.settings, h.length_eq, h.ceiling_eq, h.ceiling_eq, h.frequencyFor_eq, h.client c hc]
  refine hallowed.imp_right fun ⟨hroom, hown⟩ => ⟨?_, hown⟩
  exact hroom.imp_right fun hlt => h.destination.countAt_le.trans_lt hlt

/-- If the next client passes only now, the counter of the destination was further behind. -/
theorem countAt_lt (h : Eases d now ahead l l') (hc : ahead c)
    (hrefused : (l.check d c requested now).2.isAllowed = false)
    (hallowed : (l'.check d c requested now).2.isAllowed = true) :
    (l'.destination.get d).countAt l.windowLength now <
      (l.destination.get d).countAt l.windowLength now := by
  have hnot := mt (isAllowed_check_iff l d c requested now).mpr
    (Bool.eq_false_iff.mp hrefused)
  rw [isAllowed_check_iff, h.settings, h.length_eq, h.ceiling_eq, h.ceiling_eq,
    h.frequencyFor_eq, h.client c hc] at hallowed
  rw [not_or] at hnot
  obtain ⟨hroom', hown⟩ := hallowed.resolve_left hnot.1
  have hfull := not_or.mp fun hroom => hnot.2 ⟨hroom, hown⟩
  exact (hroom'.resolve_left hfull.1).trans_le (Nat.not_lt.mp hfull.2)

/-- A check leaves no worse for the others a limiter that was no worse before, if the message
that it lets pass would have passed otherwise or the counter of the destination was further
behind. -/
theorem check (h : Eases d now ahead l l')
    (hbehind : (l'.check d c requested' now).2.isAllowed = true →
      (l.check d c requested now).2.isAllowed = true ∨
        (l'.destination.get d).countAt l.windowLength now <
          (l.destination.get d).countAt l.windowLength now) :
    Eases d now (fun x => ahead x ∧ x ≠ c) (l.check d c requested now).1
      (l'.check d c requested' now).1 := by
  have hchecked := checked_check l d c requested now
  have hchecked' := checked_check l' d c requested' now
  have hlength : (l.check d c requested now).1.windowLength = l.windowLength := by
    rw [windowLength, windowLength, hchecked.window]
  constructor
  case window => rw [hchecked.window, hchecked'.window, h.window]
  case settings => rw [hchecked.settings, hchecked'.settings, h.settings]
  case destination =>
    rw [hlength]
    by_cases hall : l.CountsAll d
    · have hasked' := hchecked'.destination (by rwa [CountsAll, h.settings])
      rw [h.length_eq] at hasked'
      exact h.destination.asked (hchecked.destination hall) hasked' hbehind
    · rw [hchecked.destination_of_not hall,
        hchecked'.destination_of_not (by rwa [CountsAll, h.settings])]
      exact h.destination
  case client =>
    rintro x ⟨hx, hne⟩
    rw [hchecked.windowOf_of_ne x d fun hboth => hne hboth.1.symm,
      hchecked'.windowOf_of_ne x d fun hboth => hne hboth.1.symm]
    exact h.client x hx

/-- The next client leaves the limiter no worse for those after it. -/
theorem check_ahead (h : Eases d now ahead l l') (hc : ahead c) (requested : Option Nat) :
    Eases d now (fun x => ahead x ∧ x ≠ c) (l.check d c requested now).1
      (l'.check d c requested now).1 := by
  refine h.check fun hallowed => ?_
  cases hbefore : (l.check d c requested now).2.isAllowed with
  | true => exact .inl rfl
  | false => exact .inr (h.countAt_lt hc hbefore hallowed)

end Eases

/-- A client that is held back more leaves the limiter no worse for all others. -/
theorem eases_check_of_restrains (l : Limiter) (d : Direction) (c : ClientId) (now : Timestamp)
    (h : Restrains old new) :
    Eases d now (· ≠ c) (l.check d c old now).1 (l.check d c new now).1 := by
  have heases : Eases d now (fun _ => True) l l := .refl l
  exact (heases.check fun hallowed => .inl (isAllowed_check_of_restrains h hallowed)).mono
    fun _ hne => ⟨trivial, hne⟩

end Limiter

end MessageBroker
