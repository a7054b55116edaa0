/-
# Verdicts

What a check answers, and what it leaves behind, told from nothing but the counts at its time.
A counter is read as empty once its window has lasted its length, whether or not a new window
has begun. A message passes where every counter with a limit has room for it, and then each of
these counts it. A message that is refused is counted nowhere, although the destination may
have counted it for a moment: it is put on record once, with the counter that refused it.

The counts are what such a statement has to speak of. A refusal does leave a trace in the
counters, for it begins new windows, but no check in reach of its time can tell.

How long a window has lasted is a difference of words, which wraps around. It is the true one
wherever that fits a word, and beyond that a counter may forget a window which, by the true
difference, still lasts.
-/

import MessageBroker.Proofs.Throttle.Rates

open Std

namespace MessageBroker

namespace Window

variable {w w' : Window} {length : Int} {window : Span} {ceiling frequency : Nat} {now : Timestamp}

/-- Whether a counter with a limit has room for one more message at a time. Zero is no
limit. -/
def HasRoom (w : Window) (window : Span) (frequency : Nat) (now : Timestamp) : Prop :=
  frequency = 0 ∨ w.countAt window.ms now < Limiter.quota frequency window

/-- Whether a counter with a limit has counted one more message at a time. A counter without
one stays as it is. -/
def CountsOneMore (window : Span) (frequency : Nat) (now : Timestamp) (w w' : Window) : Prop :=
  if frequency = 0 then w' = w else w'.count = w.countAt window.ms now + 1

/-- The messages that a window counts at a time by the true difference of the two, however
large that is. -/
def exactCountAt (w : Window) (length now : Int) : Nat :=
  if length ≤ now - w.start then 0 else w.count

theorem countAt_eq_exactCountAt (h : Timestamp.Fits now w.start) :
    w.countAt length now = w.exactCountAt length now :=
  countAt_of_fits h length

theorem count_roll (w : Window) (length : Int) (now : Timestamp) :
    (w.roll length now).count = w.countAt length now := by
  unfold roll countAt
  split <;> rfl

theorem snd_acquire (w : Window) (length : Int) (ceiling : Nat) (now : Timestamp) :
    (w.acquire length ceiling now).2 = true ↔ w.countAt length now < ceiling := by
  unfold acquire
  dsimp only
  rw [count_roll]
  split
  next hfull => exact ⟨nofun, fun hroom => absurd hroom (Nat.not_lt.mpr hfull)⟩
  next hroom => exact ⟨fun _ => Nat.lt_of_not_le hroom, fun _ => rfl⟩

end Window

namespace Limiter

variable {l l' : Limiter} {d : Direction} {c : ClientId} {requested : Option Nat}
  {now : Timestamp} {verdict : Verdict} {level : Level}

/-- The limit that a check holds against a client: the lowest of the one that is configured and
the one that is asked for. Zero is no limit. -/
def ownLimit (l : Limiter) (d : Direction) (requested : Option Nat) : Nat :=
  (((l.settings.get d).client :: requested.toList).filter (· ≠ 0)).min?.getD 0

theorem frequencyFor_eq_ownLimit (l : Limiter) (d : Direction) (requested : Option Nat) :
    l.frequencyFor d requested = l.ownLimit d requested := by
  unfold frequencyFor clientFrequency ownLimit
  generalize (l.settings.get d).client = configured
  cases requested with
  | none => cases configured <;> rfl
  | some r => cases configured <;> cases r <;> simp [Option.filter, List.min?]

/-! ## One answer for two counters -/

section Asking

variable (hlt : l.window.ms < 2 ^ 63)
include hlt

theorem snd_acquire_iff (w : Window) {frequency : Nat} (hlimit : frequency ≠ 0)
    (now : Timestamp) :
    (w.acquire l.windowLength (l.ceiling frequency) now).2 = true ↔
      w.HasRoom l.window frequency now := by
  rw [Window.snd_acquire, windowLength_eq hlt, ceiling_eq_quota, Window.HasRoom,
    or_iff_right hlimit]

theorem snd_askDestination (d : Direction) (now : Timestamp) :
    (l.askDestination d now).2 = true ↔
      (l.destination.get d).HasRoom l.window (l.settings.get d).destination now := by
  unfold askDestination
  split
  next hzero => exact ⟨fun _ => .inl hzero, fun _ => rfl⟩
  next hlimit => exact snd_acquire_iff hlt _ hlimit now

theorem snd_askClient (d : Direction) (c : ClientId) (frequency : Nat) (now : Timestamp) :
    (l.askClient d c frequency now).2 = true ↔
      (l.windowOf c d).HasRoom l.window frequency now := by
  unfold askClient
  split
  next hzero => exact ⟨fun _ => .inl hzero, fun _ => rfl⟩
  next hlimit => exact snd_acquire_iff hlt _ hlimit now

end Asking

/-- The refusals on record of a limiter, after one more at a level. -/
def Recorded (l : Limiter) (d : Direction) (now : Timestamp) (level : Level) (l' : Limiter) :
    Prop :=
  ∀ e k, (l'.refusals.get e).get k =
    if e = d ∧ k = level then ((l.refusals.get e).get k).record now else (l.refusals.get e).get k

theorem recorded_of_set (h : l'.refusals = l.refusals.set d ((l.refusals.get d).record now level)) :
    Recorded l d now level l' := by
  intro e k
  rw [h]
  cases d <;> cases e <;> cases level <;> cases k <;> rfl

/-- How a check ends where something may be limited: the counter that has no room refuses, the
destination's before the client's, and otherwise the message passes. -/
inductive Ends (l : Limiter) (d : Direction) (c : ClientId) (requested : Option Nat)
    (now : Timestamp) (l' : Limiter) : Verdict → Prop
  | allowed
      (room : (l.destination.get d).HasRoom l.window (l.settings.get d).destination now)
      (own : (l.windowOf c d).HasRoom l.window (l.ownLimit d requested) now)
      (refusals : l'.refusals = l.refusals) : Ends l d c requested now l' .allow
  | full
      (room : ¬(l.destination.get d).HasRoom l.window (l.settings.get d).destination now)
      (recorded : Recorded l d now .destination l') :
      Ends l d c requested now l' (.refusal (l.settings.get d).policy)
  | ownFull
      (room : (l.destination.get d).HasRoom l.window (l.settings.get d).destination now)
      (own : ¬(l.windowOf c d).HasRoom l.window (l.ownLimit d requested) now)
      (recorded : Recorded l d now .client l') :
      Ends l d c requested now l' (.refusal (l.settings.get d).policy)

theorem ends_check (hlt : l.window.ms < 2 ^ 63) (hpolicy : (l.settings.get d).policy ≠ .none)
    (c : ClientId) (requested : Option Nat) (now : Timestamp) :
    Ends l d c requested now (l.check d c requested now).1 (l.check d c requested now).2 := by
  by_cases hzero : (l.settings.get d).destination = 0 ∧ l.frequencyFor d requested = 0
  · have hcheck : l.check d c requested now = (l, .allow) := (if_neg hpolicy).trans (if_pos hzero)
    rw [hcheck]
    exact .allowed (.inl hzero.1) (.inl (l.frequencyFor_eq_ownLimit d requested ▸ hzero.2)) rfl
  rw [check_of_limited hpolicy hzero, frequencyFor_eq_ownLimit]
  have hroom := snd_askDestination hlt d now
  obtain ⟨w, hl₁, -, -⟩ := l.askDestination_spec d now
  generalize l.askDestination d now = asked at hl₁ hroom
  obtain ⟨l₁, admitted⟩ := asked
  dsimp only at hl₁ hroom ⊢
  subst hl₁
  cases admitted with
  | false => exact .full (fun h => Bool.false_ne_true (hroom.mpr h)) (recorded_of_set rfl)
  | true =>
    -- The counter of the client is the same as before the destination was asked.
    have hown := snd_askClient (l := { l with destination := l.destination.set d w }) hlt
      d c (l.ownLimit d requested) now
    obtain ⟨clients, v, hl₂, -, -, -⟩ := askClient_spec
      { l with destination := l.destination.set d w } d c (l.ownLimit d requested) now
    generalize askClient _ d c (l.ownLimit d requested) now = asked at hl₂ hown ⊢
    obtain ⟨l₂, admitted⟩ := asked
    dsimp only at hl₂ hown ⊢
    subst hl₂
    cases admitted with
    | true => exact .allowed (hroom.mp rfl) (hown.mp rfl) rfl
    | false =>
      rw [Bool.not_true, if_neg Bool.false_ne_true, if_neg Bool.false_ne_true,
        releaseDestination_of_limited]
      exact .ownFull (hroom.mp rfl) (fun h => Bool.false_ne_true (hown.mpr h))
        (recorded_of_set rfl)

theorem refusal_ne_allow {policy : Policy} (h : policy ≠ .none) :
    Verdict.refusal policy ≠ .allow := by
  intro heq
  have hnot := isAllowed_refusal h
  rw [heq] at hnot
  cases hnot

namespace Ends

variable (h : Ends l d c requested now l' verdict)
include h

theorem allow_iff (hpolicy : (l.settings.get d).policy ≠ .none) :
    verdict = .allow ↔
      (l.destination.get d).HasRoom l.window (l.settings.get d).destination now ∧
        (l.windowOf c d).HasRoom l.window (l.ownLimit d requested) now := by
  cases h with
  | allowed room own _ => exact iff_of_true rfl ⟨room, own⟩
  | full room _ => exact iff_of_false (refusal_ne_allow hpolicy) fun h => room h.1
  | ownFull _ own _ => exact iff_of_false (refusal_ne_allow hpolicy) fun h => own h.2

theorem refusals_eq (hpolicy : (l.settings.get d).policy ≠ .none) (hallow : verdict = .allow) :
    l'.refusals = l.refusals := by
  cases h with
  | allowed _ _ refusals => exact refusals
  | full => exact absurd hallow (refusal_ne_allow hpolicy)
  | ownFull => exact absurd hallow (refusal_ne_allow hpolicy)

theorem answer_eq (hdeny : verdict ≠ .allow) : verdict = .refusal (l.settings.get d).policy := by
  cases h with
  | allowed => exact absurd rfl hdeny
  | full => rfl
  | ownFull => rfl

theorem recorded (hdeny : verdict ≠ .allow) :
    ∃ level, Recorded l d now level l' ∧ (level = .destination ↔
      ¬(l.destination.get d).HasRoom l.window (l.settings.get d).destination now) := by
  cases h with
  | allowed => exact absurd rfl hdeny
  | full room recorded => exact ⟨_, recorded, iff_of_true rfl room⟩
  | ownFull room _ recorded => exact ⟨_, recorded, iff_of_false nofun (not_not_intro room)⟩

end Ends

/-! ## The verdict and its consequences -/

/-- What a message that passes leaves behind where something may be limited. -/
structure Passed (l : Limiter) (d : Direction) (c : ClientId) (requested : Option Nat)
    (now : Timestamp) (l' : Limiter) : Prop where
  destination : Window.CountsOneMore l.window (l.settings.get d).destination now
    (l.destination.get d) (l'.destination.get d)
  client : Window.CountsOneMore l.window (l.ownLimit d requested) now (l.windowOf c d)
    (l'.windowOf c d)
  refusals : l'.refusals = l.refusals

/-- The answer to a message that is refused, and what the message leaves behind. -/
structure Repelled (l : Limiter) (d : Direction) (now : Timestamp) (l' : Limiter)
    (verdict : Verdict) : Prop where
  error : (l.settings.get d).policy = .error → verdict = .denyError
  ignore : (l.settings.get d).policy = .ignore → verdict = .denyIgnore
  destination : ∀ e t, (l.destination.get e).InReach now t →
    (l'.destination.get e).countAt l.window.ms t = (l.destination.get e).countAt l.window.ms t
  client : ∀ x e t, (l.windowOf x e).InReach now t →
    (l'.windowOf x e).countAt l.window.ms t = (l.windowOf x e).countAt l.window.ms t
  recorded : ∃ level, Recorded l d now level l' ∧ (level = .destination ↔
    ¬(l.destination.get d).HasRoom l.window (l.settings.get d).destination now)

/-- What a check answers and leaves behind. -/
structure Decides (l : Limiter) (d : Direction) (c : ClientId) (requested : Option Nat)
    (now : Timestamp) (l' : Limiter) (verdict : Verdict) : Prop where
  allow_iff : verdict = .allow ↔
    (l.settings.get d).policy = .none ∨
      (l.destination.get d).HasRoom l.window (l.settings.get d).destination now ∧
      (l.windowOf c d).HasRoom l.window (l.ownLimit d requested) now
  passed : verdict = .allow → (l.settings.get d).policy ≠ .none →
    Passed l d c requested now l'
  repelled : verdict ≠ .allow → Repelled l d now l' verdict
  destination_of_ne : ∀ e, e ≠ d → l'.destination.get e = l.destination.get e
  windowOf_of_ne : ∀ x e, ¬(c = x ∧ d = e) → l'.windowOf x e = l.windowOf x e
  untouched : (l.settings.get d).policy = .none ∨
    (l.settings.get d).destination = 0 ∧ l.ownLimit d requested = 0 → l' = l

theorem Asked.countsOneMore {w w' : Window} {frequency : Nat} (hlt : l.window.ms < 2 ^ 63)
    (hlimit : frequency ≠ 0)
    (h : Window.Asked l.windowLength (l.ceiling frequency) now true w w') :
    Window.CountsOneMore l.window frequency now w w' := by
  rw [Window.CountsOneMore, if_neg hlimit, h.count, Window.count_roll, windowLength_eq hlt]
  rfl

theorem passed_check (hlt : l.window.ms < 2 ^ 63) (hpolicy : (l.settings.get d).policy ≠ .none)
    (h : (l.check d c requested now).2 = .allow) :
    Passed l d c requested now (l.check d c requested now).1 := by
  have hchecked := checked_check l d c requested now
  rw [h] at hchecked
  constructor
  case destination =>
    by_cases hzero : (l.settings.get d).destination = 0
    · rw [Window.CountsOneMore, if_pos hzero,
        hchecked.destination_of_not fun hall => hall.2 hzero]
    · exact Asked.countsOneMore hlt hzero (hchecked.destination ⟨hpolicy, hzero⟩)
  case client =>
    rw [← frequencyFor_eq_ownLimit]
    by_cases hzero : l.frequencyFor d requested = 0
    · rw [Window.CountsOneMore, if_pos hzero, hchecked.windowOf_of_not fun heach => heach.2 hzero]
    · rcases hchecked.windowOf ⟨hpolicy, hzero⟩ with hasked | ⟨hrefused, -⟩
      · exact Asked.countsOneMore hlt hzero hasked
      · cases hrefused
  case refusals => exact (ends_check hlt hpolicy c requested now).refusals_eq hpolicy h

theorem repelled_check (hlt : l.window.ms < 2 ^ 63) (hpolicy : (l.settings.get d).policy ≠ .none)
    (h : (l.check d c requested now).2 ≠ .allow) :
    Repelled l d now (l.check d c requested now).1 (l.check d c requested now).2 := by
  have hends := ends_check hlt hpolicy c requested now
  have hanswer := hends.answer_eq h
  have halike := countsAlike_check (hanswer ▸ isAllowed_refusal hpolicy)
  have hlength := windowLength_eq hlt
  constructor
  case error => exact fun herror => by rw [hanswer, herror]; rfl
  case ignore => exact fun hignore => by rw [hanswer, hignore]; rfl
  case destination => exact fun e => hlength ▸ (halike.destination e).countAt
  case client => exact fun x e => hlength ▸ (halike.client x e).countAt
  case recorded => exact hends.recorded h

theorem decides (l : Limiter) (d : Direction) (c : ClientId) (requested : Option Nat)
    (now : Timestamp) (hlt : l.window.ms < 2 ^ 63) :
    Decides l d c requested now (l.check d c requested now).1 (l.check d c requested now).2 := by
  have hchecked := checked_check l d c requested now
  by_cases hpolicy : (l.settings.get d).policy = .none
  · have hcheck : l.check d c requested now = (l, .allow) := if_pos hpolicy
    rw [hcheck]
    exact ⟨iff_of_true rfl (.inl hpolicy), fun _ hlimited => absurd hpolicy hlimited,
      fun hdeny => absurd rfl hdeny, fun _ _ => rfl, fun _ _ _ => rfl, fun _ => rfl⟩
  constructor
  case allow_iff =>
    rw [(ends_check hlt hpolicy c requested now).allow_iff hpolicy, or_iff_right hpolicy]
  case passed => exact fun hallow _ => passed_check hlt hpolicy hallow
  case repelled => exact fun hdeny => repelled_check hlt hpolicy hdeny
  case destination_of_ne => exact hchecked.destination_of_ne
  case windowOf_of_ne => exact hchecked.windowOf_of_ne
  case untouched =>
    intro hnothing
    have hzero := hnothing.resolve_left hpolicy
    rw [← frequencyFor_eq_ownLimit] at hzero
    exact congrArg Prod.fst ((if_neg hpolicy).trans (if_pos hzero))

end Limiter

end MessageBroker
