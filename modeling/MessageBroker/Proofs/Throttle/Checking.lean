/-
# Checks and counters

What one check of a limiter does to each of its counters. A counter that is asked may
begin a new window, and it counts the message only if the check as a whole admits it: a slot
that was taken at the destination and given back again leaves no mark but the new window. A
counter that is not asked stays as it is.

So a check that refuses, and a check whose slots are given back, change no count, provided
that a window which has lasted its length is read as empty. That is so at the time of the
check, and later as long as differences of times fit a word: a time so far off that it
seems to lie before the start of the window would not find the new window empty.
-/

import MessageBroker.Proofs.Maps
import MessageBroker.Throttle.Limiter

open Std

namespace MessageBroker

namespace Window

variable {w w' w'' : Window} {length : Int} {ceiling : Nat} {now t : Int} {admitted : Bool}

/-- The messages that a window counts at a time: none any more once it has lasted its
length. -/
def countAt (w : Window) (length : Int) (t : Timestamp) : Nat :=
  if length ≤ Timestamp.since t w.start then 0 else w.count

theorem countAt_of_fits (h : Timestamp.Fits t w.start) (length : Int) :
    w.countAt length t = if length ≤ t - w.start then 0 else w.count := by
  rw [countAt, Timestamp.since_of_fits h]

/-- Whether a time is that of a check, or comes so soon after it that no difference between the
two and the start of the window wraps around. -/
def InReach (w : Window) (now t : Int) : Prop :=
  t = now ∨ now ≤ t ∧ Timestamp.Fits now w.start ∧ Timestamp.Fits t w.start ∧ Timestamp.Fits t now

/-- A counter counts the same at the time of a check as another one, and later on at every time
in reach. -/
structure CountsAlike (length : Int) (now : Timestamp) (w w' : Window) : Prop where
  start : w'.start = w.start ∨ w'.start = now
  countAt : ∀ t, w.InReach now t → w'.countAt length t = w.countAt length t

theorem CountsAlike.refl (length : Int) (now : Timestamp) (w : Window) :
    CountsAlike length now w w :=
  ⟨.inl rfl, fun _ _ => rfl⟩

theorem CountsAlike.trans (h : CountsAlike length now w w') (h' : CountsAlike length now w' w'') :
    CountsAlike length now w w'' := by
  refine ⟨?_, fun t ht => ?_⟩
  · rcases h'.start with hsame | hnow
    · rw [hsame]
      exact h.start
    · exact .inr hnow
  · rw [h'.countAt t ?_, h.countAt t ht]
    refine ht.imp_right fun ⟨hle, hnow, hlater, hfits⟩ => ⟨hle, ?_⟩
    rcases h.start with hsame | hnew
    · rw [hsame]
      exact ⟨hnow, hlater, hfits⟩
    · rw [hnew]
      exact ⟨Timestamp.fits_self now, hfits, hfits⟩

/-- What becomes of a counter that a check asks: its window begins anew if it has lasted its
length, and the message is counted, while there is room, if the check admits it. -/
structure Asked (length : Int) (ceiling : Nat) (now : Timestamp) (admitted : Bool)
    (w w' : Window) : Prop where
  start : w'.start = (w.roll length now).start
  count : w'.count = (w.roll length now).count + if admitted then 1 else 0
  room : admitted = true → (w.roll length now).count < ceiling

theorem asked_acquire (w : Window) (length : Int) (ceiling : Nat) (now : Timestamp) :
    Asked length ceiling now (w.acquire length ceiling now).2 w
      (w.acquire length ceiling now).1 := by
  unfold acquire
  dsimp only
  split
  · exact ⟨rfl, rfl, nofun⟩
  next hroom => exact ⟨rfl, rfl, fun _ => Nat.lt_of_not_le hroom⟩

/-- A counter that gives its slot back has counted nothing. -/
theorem Asked.release (h : Asked length ceiling now true w w') :
    Asked length ceiling now false w w'.release := by
  refine ⟨h.start, ?_, nofun⟩
  show w'.count - 1 = _
  rw [h.count]
  rfl

/-- A check that counts nothing changes no count. -/
theorem Asked.countsAlike (h : Asked length ceiling now false w w') :
    CountsAlike length now w w' := by
  obtain ⟨hstart, hcount, -⟩ := h
  unfold roll at hstart hcount
  by_cases hlasted : length ≤ Timestamp.since now w.start
  · -- The new window is empty, and the old one is read as empty.
    rw [if_pos hlasted] at hstart hcount
    refine ⟨.inr hstart, fun t ht => ?_⟩
    have hover : length ≤ Timestamp.since t w.start := by
      rcases ht with rfl | ⟨hle, hnow, hlater, -⟩
      · exact hlasted
      · rw [Timestamp.since_of_fits hnow] at hlasted
        rw [Timestamp.since_of_fits hlater]
        omega
    rw [countAt, countAt, if_pos hover, hcount]
    exact ite_self 0
  · rw [if_neg hlasted] at hstart hcount
    refine ⟨.inl hstart, fun t _ => ?_⟩
    rw [countAt, countAt, hstart, hcount]
    rfl

end Window

namespace Limiter

variable {l l' l'' : Limiter} {d e : Direction} {c x : ClientId} {requested : Option Nat}
  {now t : Timestamp}

/-- The counter of a client in a direction. -/
def windowOf (l : Limiter) (c : ClientId) (d : Direction) : Window := (l.windowsOf c).get d

/-- The limit that a check holds against a client. -/
def frequencyFor (l : Limiter) (d : Direction) (requested : Option Nat) : Nat :=
  clientFrequency (l.settings.get d).client requested

/-- Whether a direction counts the messages of all clients together. -/
def CountsAll (l : Limiter) (d : Direction) : Prop :=
  (l.settings.get d).policy ≠ .none ∧ (l.settings.get d).destination ≠ 0

/-- Whether a check counts the messages of its client. -/
def CountsEach (l : Limiter) (d : Direction) (requested : Option Nat) : Prop :=
  (l.settings.get d).policy ≠ .none ∧ l.frequencyFor d requested ≠ 0

instance (l : Limiter) (d : Direction) : Decidable (l.CountsAll d) :=
  inferInstanceAs (Decidable (_ ∧ _))

instance (l : Limiter) (d : Direction) (requested : Option Nat) :
    Decidable (l.CountsEach d requested) :=
  inferInstanceAs (Decidable (_ ∧ _))

theorem windowsOf_insert (l : Limiter) (c x : ClientId) (ws : Windows) :
    ({ l with clients := l.clients.insert c ws } : Limiter).windowsOf x =
      if c = x then ws else l.windowsOf x := by
  rw [windowsOf, Maps.getElem?_insert_ite]
  split <;> rfl

/-- Changing one counter of a client changes no other counter. -/
theorem windowOf_insert_set (l : Limiter) (c x : ClientId) (d e : Direction) (w : Window) :
    ({ l with clients := l.clients.insert c ((l.windowsOf c).set d w) } : Limiter).windowOf x e =
      if c = x ∧ d = e then w else l.windowOf x e := by
  rw [windowOf, windowsOf_insert]
  by_cases hc : c = x
  · subst hc
    rw [if_pos rfl]
    by_cases hd : d = e
    · subst hd
      rw [if_pos ⟨rfl, rfl⟩, PerDirection.get_set_self]
    · rw [if_neg fun h => hd h.2, PerDirection.get_set_of_ne _ (Ne.symm hd)]
      rfl
  · rw [if_neg hc, if_neg fun h => hc h.1]
    rfl

theorem windowOf_removeClient (l : Limiter) (c x : ClientId) (d : Direction) :
    (l.removeClient c).windowOf x d = if c = x then .fresh else l.windowOf x d := by
  rw [windowOf, windowsOf, removeClient, Maps.getElem?_erase_ite]
  split
  · cases d <;> rfl
  · rfl

/-! ## What a check does -/

/-- What a check leaves of a limiter, with its verdict. The counter of the client is not
asked when that of the destination refuses. -/
structure Checked (l : Limiter) (d : Direction) (c : ClientId) (requested : Option Nat)
    (now : Timestamp) (l' : Limiter) (verdict : Verdict) : Prop where
  window : l'.window = l.window
  settings : l'.settings = l.settings
  destination_of_ne : ∀ e, e ≠ d → l'.destination.get e = l.destination.get e
  windowOf_of_ne : ∀ x e, ¬(c = x ∧ d = e) → l'.windowOf x e = l.windowOf x e
  destination : l.CountsAll d →
    Window.Asked l.windowLength (l.ceiling (l.settings.get d).destination) now verdict.isAllowed
      (l.destination.get d) (l'.destination.get d)
  destination_of_not : ¬l.CountsAll d → l'.destination.get d = l.destination.get d
  windowOf : l.CountsEach d requested →
    Window.Asked l.windowLength (l.ceiling (l.frequencyFor d requested)) now verdict.isAllowed
        (l.windowOf c d) (l'.windowOf c d) ∨
      verdict.isAllowed = false ∧ l'.windowOf c d = l.windowOf c d
  windowOf_of_not : ¬l.CountsEach d requested → l'.windowOf c d = l.windowOf c d

/-- A refusal is no admission, unless the policy limits nothing. -/
theorem isAllowed_refusal {policy : Policy} (h : policy ≠ .none) :
    (Verdict.refusal policy).isAllowed = false := by
  cases policy with
  | none => exact absurd rfl h
  | error => rfl
  | ignore => rfl

/-- A check leaves a limiter alone where nothing is limited. -/
theorem checked_unlimited (hall : ¬l.CountsAll d) (heach : ¬l.CountsEach d requested) :
    Checked l d c requested now l .allow where
  window := rfl
  settings := rfl
  destination_of_ne _ _ := rfl
  windowOf_of_ne _ _ _ := rfl
  destination h := absurd h hall
  destination_of_not _ := rfl
  windowOf h := absurd h heach
  windowOf_of_not _ := rfl

/-- Asks the counter of the destination, if it has a limit. -/
def askDestination (l : Limiter) (d : Direction) (now : Timestamp) : Limiter × Bool :=
  if (l.settings.get d).destination = 0 then (l, true)
  else l.acquireDestination d (l.settings.get d).destination now

/-- Asks the counter of a client, if there is a limit for it. -/
def askClient (l : Limiter) (d : Direction) (c : ClientId) (frequency : Nat) (now : Timestamp) :
    Limiter × Bool :=
  if frequency = 0 then (l, true) else l.acquireClient d c frequency now

/-- A check where something is limited asks the destination first and the client second. -/
theorem check_of_limited (hpolicy : (l.settings.get d).policy ≠ .none)
    (hlimited : ¬((l.settings.get d).destination = 0 ∧ l.frequencyFor d requested = 0)) :
    l.check d c requested now =
      let (l₁, admitted) := l.askDestination d now
      if !admitted then l₁.refuse d .destination now
      else
        let (l₂, admitted) := l₁.askClient d c (l.frequencyFor d requested) now
        if admitted then (l₂, .allow)
        else
          (if (l.settings.get d).destination = 0 then l₂ else l₂.releaseDestination d).refuse d
            .client now := by
  unfold check
  dsimp only
  rw [if_neg hpolicy, askClient]
  refine (if_neg hlimited).trans ?_
  by_cases hzero : l.frequencyFor d requested = 0
  · rw [if_pos hzero, if_pos (show clientFrequency _ requested = 0 from hzero)]
    rfl
  · rw [if_neg hzero, if_neg (show ¬clientFrequency _ requested = 0 from hzero)]
    rfl

/-- The counters of a destination and of a client with which a check that limits something
leaves a limiter. -/
structure Settled (l : Limiter) (d : Direction) (c : ClientId) (requested : Option Nat)
    (now : Timestamp) (admitted : Bool) (w v : Window) : Prop where
  destination : (l.settings.get d).destination ≠ 0 →
    Window.Asked l.windowLength (l.ceiling (l.settings.get d).destination) now admitted
      (l.destination.get d) w
  destination_of_zero : (l.settings.get d).destination = 0 → w = l.destination.get d
  client : l.frequencyFor d requested ≠ 0 →
    Window.Asked l.windowLength (l.ceiling (l.frequencyFor d requested)) now admitted
        (l.windowOf c d) v ∨ admitted = false ∧ v = l.windowOf c d
  client_of_zero : l.frequencyFor d requested = 0 → v = l.windowOf c d

theorem Settled.checked {verdict : Verdict} {w v : Window}
    (h : Settled l d c requested now verdict.isAllowed w v)
    (hpolicy : (l.settings.get d).policy ≠ .none) (hwindow : l'.window = l.window)
    (hsettings : l'.settings = l.settings) (hdestination : l'.destination = l.destination.set d w)
    (hclients : ∀ x e, l'.windowOf x e = if c = x ∧ d = e then v else l.windowOf x e) :
    Checked l d c requested now l' verdict := by
  have hw : l'.destination.get d = w := by rw [hdestination, PerDirection.get_set_self]
  have hv : l'.windowOf c d = v := (hclients c d).trans (if_pos ⟨rfl, rfl⟩)
  constructor
  case window => exact hwindow
  case settings => exact hsettings
  case destination_of_ne =>
    intro e he
    rw [hdestination, PerDirection.get_set_of_ne _ he]
  case windowOf_of_ne =>
    intro x e hne
    rw [hclients, if_neg hne]
  case destination =>
    intro hall
    rw [hw]
    exact h.destination hall.2
  case destination_of_not =>
    intro hall
    rw [hw]
    exact h.destination_of_zero (Decidable.byContradiction fun hne => hall ⟨hpolicy, hne⟩)
  case windowOf =>
    intro heach
    rw [hv]
    exact h.client heach.2
  case windowOf_of_not =>
    intro heach
    rw [hv]
    exact h.client_of_zero (Decidable.byContradiction fun hne => heach ⟨hpolicy, hne⟩)

theorem askDestination_spec (l : Limiter) (d : Direction) (now : Timestamp) :
    ∃ w, (l.askDestination d now).1 = { l with destination := l.destination.set d w } ∧
      ((l.settings.get d).destination ≠ 0 →
        Window.Asked l.windowLength (l.ceiling (l.settings.get d).destination) now
          (l.askDestination d now).2 (l.destination.get d) w) ∧
      ((l.settings.get d).destination = 0 →
        (l.askDestination d now).2 = true ∧ w = l.destination.get d) := by
  unfold askDestination
  split
  next hzero =>
    refine ⟨l.destination.get d, ?_, fun hlimit => absurd hzero hlimit, fun _ => ⟨rfl, rfl⟩⟩
    rw [PerDirection.set_get_self]
  next hlimit =>
    exact ⟨_, rfl, fun _ => Window.asked_acquire _ _ _ _, fun hzero => absurd hzero hlimit⟩

theorem askClient_spec (l : Limiter) (d : Direction) (c : ClientId) (frequency : Nat)
    (now : Timestamp) :
    ∃ clients v, (l.askClient d c frequency now).1 = { l with clients } ∧
      (∀ x e, ({ l with clients } : Limiter).windowOf x e =
        if c = x ∧ d = e then v else l.windowOf x e) ∧
      (frequency ≠ 0 → Window.Asked l.windowLength (l.ceiling frequency) now
        (l.askClient d c frequency now).2 (l.windowOf c d) v) ∧
      (frequency = 0 → (l.askClient d c frequency now).2 = true ∧ v = l.windowOf c d) := by
  unfold askClient
  split
  next hzero =>
    refine ⟨l.clients, l.windowOf c d, rfl, fun x e => ?_, fun hlimit => absurd hzero hlimit,
      fun _ => ⟨rfl, rfl⟩⟩
    split
    next h => rw [h.1, h.2]
    next => rfl
  next hlimit =>
    exact ⟨_, _, rfl, fun x e => l.windowOf_insert_set c x d e _,
      fun _ => Window.asked_acquire _ _ _ _, fun hzero => absurd hzero hlimit⟩

theorem releaseDestination_of_limited (l : Limiter) (d : Direction) (limit : Nat) :
    (if limit = 0 then l else l.releaseDestination d) =
      { l with
        destination := l.destination.set d
          (if limit = 0 then l.destination.get d else (l.destination.get d).release) } := by
  split
  · rw [PerDirection.set_get_self]
  · rfl

/-- What a check does once the destination has admitted the message: it gives the slot of
the destination back if the client's counter refuses. -/
theorem checked_of_admitted {w : Window} (hpolicy : (l.settings.get d).policy ≠ .none)
    (hcounted : (l.settings.get d).destination ≠ 0 →
      Window.Asked l.windowLength (l.ceiling (l.settings.get d).destination) now true
        (l.destination.get d) w)
    (hfree : (l.settings.get d).destination = 0 → w = l.destination.get d) :
    let (l₂, admitted) := askClient { l with destination := l.destination.set d w } d c
      (l.frequencyFor d requested) now
    let (l', verdict) := if admitted then (l₂, .allow)
      else
        (if (l.settings.get d).destination = 0 then l₂ else l₂.releaseDestination d).refuse d
          .client now
    Checked l d c requested now l' verdict := by
  obtain ⟨clients, v, hl₂, hclients, hclient, hunlimited⟩ := askClient_spec
    { l with destination := l.destination.set d w } d c (l.frequencyFor d requested) now
  generalize askClient _ d c (l.frequencyFor d requested) now = asked
    at hl₂ hclient hunlimited ⊢
  obtain ⟨l₂, admitted⟩ := asked
  dsimp only at hl₂ hclient hunlimited ⊢
  subst hl₂
  cases admitted with
  | true =>
    refine Settled.checked (w := w) (v := v) ?_ hpolicy rfl rfl rfl hclients
    exact ⟨hcounted, hfree, fun h => .inl (hclient h), fun h => (hunlimited h).2⟩
  | false =>
    have hlimit : l.frequencyFor d requested ≠ 0 := fun h => Bool.false_ne_true (hunlimited h).1
    rw [if_neg Bool.false_ne_true, releaseDestination_of_limited]
    refine Settled.checked (w := if (l.settings.get d).destination = 0 then w else w.release)
      (v := v) ?_ hpolicy rfl rfl ?_ hclients
    · show Settled _ _ _ _ _ (Verdict.refusal (l.settings.get d).policy).isAllowed _ _
      rw [isAllowed_refusal hpolicy]
      refine ⟨fun h => ?_, fun h => ?_, fun h => .inl (hclient h), fun h => absurd h hlimit⟩
      · rw [if_neg h]
        exact (hcounted h).release
      · rw [if_pos h]
        exact hfree h
    · show (l.destination.set d w).set d (if _ then (l.destination.set d w).get d else
        ((l.destination.set d w).get d).release) = _
      rw [PerDirection.get_set_self, PerDirection.set_set]

theorem checked_check (l : Limiter) (d : Direction) (c : ClientId) (requested : Option Nat)
    (now : Timestamp) :
    Checked l d c requested now (l.check d c requested now).1 (l.check d c requested now).2 := by
  by_cases hpolicy : (l.settings.get d).policy = .none
  · have hcheck : l.check d c requested now = (l, .allow) := if_pos hpolicy
    rw [hcheck]
    exact checked_unlimited (fun h => h.1 hpolicy) fun h => h.1 hpolicy
  by_cases hzero : (l.settings.get d).destination = 0 ∧ l.frequencyFor d requested = 0
  · have hcheck : l.check d c requested now = (l, .allow) := (if_neg hpolicy).trans (if_pos hzero)
    rw [hcheck]
    exact checked_unlimited (fun h => h.2 hzero.1) fun h => h.2 hzero.2
  rw [check_of_limited hpolicy hzero]
  obtain ⟨w, hl₁, hcounted, hfree⟩ := l.askDestination_spec d now
  generalize l.askDestination d now = asked at hl₁ hcounted hfree
  obtain ⟨l₁, admitted⟩ := asked
  dsimp only at hl₁ hcounted hfree ⊢
  subst hl₁
  cases admitted with
  | false =>
    have hlimit : (l.settings.get d).destination ≠ 0 := fun h => Bool.false_ne_true (hfree h).1
    rw [Bool.not_false, if_pos rfl]
    refine Settled.checked (w := w) (v := l.windowOf c d) ?_ hpolicy rfl rfl rfl fun x e => ?_
    · show Settled _ _ _ _ _ (Verdict.refusal (l.settings.get d).policy).isAllowed _ _
      rw [isAllowed_refusal hpolicy]
      exact ⟨hcounted, fun h => absurd h hlimit, fun _ => .inr ⟨rfl, rfl⟩, fun _ => rfl⟩
    · refine (ite_eq_right_iff.mpr fun h => ?_).symm
      rw [h.1, h.2]
      rfl
  | true => exact checked_of_admitted hpolicy hcounted fun h => (hfree h).2

/-! ## Slots that are given back -/

@[simp] theorem frequencyFor_none (l : Limiter) (d : Direction) :
    l.frequencyFor d none = (l.settings.get d).client := by
  unfold frequencyFor clientFrequency
  split <;> simp_all

/-- What is left of a limiter whose inbound slots for a client are given back. -/
structure Returned (l : Limiter) (c : ClientId) (l' : Limiter) : Prop where
  window : l'.window = l.window
  settings : l'.settings = l.settings
  destination : ∀ e, l'.destination.get e =
    if e = .inbound ∧ l.CountsAll .inbound then (l.destination.get e).release
    else l.destination.get e
  windowOf : ∀ x e, l'.windowOf x e =
    if (c = x ∧ .inbound = e) ∧ l.CountsEach .inbound none then (l.windowOf x e).release
    else l.windowOf x e

/-- Gives back a client's slot, if it has counters. -/
def releaseClient (l : Limiter) (c : ClientId) : Limiter :=
  match l.clients[c]? with
  | none => l
  | some ws => { l with clients := l.clients.insert c (ws.set .inbound ws.inbound.release) }

/-- A counter that was never used has no slot to give back. -/
theorem windowOf_releaseClient (l : Limiter) (c x : ClientId) (e : Direction) :
    (l.releaseClient c).windowOf x e =
      if c = x ∧ .inbound = e then (l.windowOf x e).release else l.windowOf x e := by
  unfold releaseClient
  split
  next hnone =>
    split
    next hsame =>
      obtain ⟨rfl, rfl⟩ := hsame
      rw [windowOf, windowsOf, hnone]
      rfl
    next => rfl
  next ws hsome =>
    have hws : l.windowsOf c = ws := by rw [windowsOf, hsome, Option.getD_some]
    rw [← hws, l.windowOf_insert_set c x .inbound e]
    split
    next hsame =>
      obtain ⟨rfl, rfl⟩ := hsame
      rfl
    next => rfl

theorem releaseInbound_eq (l : Limiter) (c : ClientId) :
    l.releaseInbound c =
      if (l.settings.get .inbound).policy = .none then l
      else
        let l' := if (l.settings.get .inbound).destination = 0 then l
          else l.releaseDestination .inbound
        if (l.settings.get .inbound).client = 0 then l' else l'.releaseClient c := rfl

theorem releaseClient_eq (l : Limiter) (c : ClientId) :
    ∃ clients, l.releaseClient c = { l with clients } := by
  unfold releaseClient
  split <;> exact ⟨_, rfl⟩

theorem returned_releaseInbound (l : Limiter) (c : ClientId) :
    Returned l c (l.releaseInbound c) := by
  rw [releaseInbound_eq]
  by_cases hpolicy : (l.settings.get .inbound).policy = .none
  · rw [if_pos hpolicy]
    exact ⟨rfl, rfl, fun e => (if_neg fun h => h.2.1 hpolicy).symm,
      fun x e => (if_neg fun h => h.2.1 hpolicy).symm⟩
  have hdestination (e : Direction) : (l.destination.set .inbound
      (if (l.settings.get .inbound).destination = 0 then l.destination.get .inbound
        else (l.destination.get .inbound).release)).get e =
      if e = .inbound ∧ l.CountsAll .inbound then (l.destination.get e).release
        else l.destination.get e := by
    cases e with
    | outbound => rfl
    | inbound =>
      rw [PerDirection.get_set_self]
      simp only [CountsAll, hpolicy, ne_eq, not_false_eq_true, true_and, ite_not]
  rw [if_neg hpolicy, releaseDestination_of_limited]
  dsimp only
  split
  next hzero =>
    exact ⟨rfl, rfl, hdestination, fun x e =>
      (if_neg fun h => h.2.2 (l.frequencyFor_none _ ▸ hzero)).symm⟩
  next hlimit =>
    have heach : l.CountsEach .inbound none := ⟨hpolicy, l.frequencyFor_none _ ▸ hlimit⟩
    obtain ⟨clients, hreleased⟩ := releaseClient_eq { l with
      destination := l.destination.set .inbound
        (if (l.settings.get .inbound).destination = 0 then l.destination.get .inbound
          else (l.destination.get .inbound).release) } c
    constructor
    case window => rw [hreleased]
    case settings => rw [hreleased]
    case destination =>
      rw [hreleased]
      exact hdestination
    case windowOf =>
      intro x e
      rw [windowOf_releaseClient]
      simp only [heach, and_true]
      rfl

/-- Two limiters whose counters count the same. -/
structure CountsAlike (now : Timestamp) (l l' : Limiter) : Prop where
  window : l'.window = l.window
  settings : l'.settings = l.settings
  destination : ∀ d,
    Window.CountsAlike l.windowLength now (l.destination.get d) (l'.destination.get d)
  client : ∀ c d, Window.CountsAlike l.windowLength now (l.windowOf c d) (l'.windowOf c d)

theorem CountsAlike.refl (now : Timestamp) (l : Limiter) : CountsAlike now l l :=
  ⟨rfl, rfl, fun _ => .refl _ _ _, fun _ _ => .refl _ _ _⟩

theorem CountsAlike.trans (h : CountsAlike now l l') (h' : CountsAlike now l' l'') :
    CountsAlike now l l'' := by
  have hlength : l'.windowLength = l.windowLength := by rw [windowLength, windowLength, h.window]
  constructor
  case window => exact h'.window.trans h.window
  case settings => exact h'.settings.trans h.settings
  case destination => exact fun d => (h.destination d).trans (hlength ▸ h'.destination d)
  case client => exact fun c d => (h.client c d).trans (hlength ▸ h'.client c d)

/-- A message that is refused is not counted. -/
theorem countsAlike_check (h : (l.check d c requested now).2.isAllowed = false) :
    CountsAlike now l (l.check d c requested now).1 := by
  have hchecked := checked_check l d c requested now
  constructor
  case window => exact hchecked.window
  case settings => exact hchecked.settings
  case destination =>
    intro e
    by_cases he : e = d
    · subst he
      by_cases hall : l.CountsAll e
      · exact (h ▸ hchecked.destination hall).countsAlike
      · rw [hchecked.destination_of_not hall]
        exact .refl _ _ _
    · rw [hchecked.destination_of_ne e he]
      exact .refl _ _ _
  case client =>
    intro x e
    by_cases hsame : c = x ∧ d = e
    · obtain ⟨rfl, rfl⟩ := hsame
      by_cases heach : l.CountsEach d requested
      · rcases hchecked.windowOf heach with hasked | ⟨-, heq⟩
        · exact (h ▸ hasked).countsAlike
        · rw [heq]
          exact .refl _ _ _
      · rw [hchecked.windowOf_of_not heach]
        exact .refl _ _ _
    · rw [hchecked.windowOf_of_ne x e hsame]
      exact .refl _ _ _

/-- A message that gives its slots back is not counted. -/
theorem countsAlike_release (h : (l.check .inbound c none now).2.isAllowed = true) :
    CountsAlike now l ((l.check .inbound c none now).1.releaseInbound c) := by
  have hchecked := checked_check l .inbound c none now
  have hreturned := returned_releaseInbound (l.check .inbound c none now).1 c
  have hall : (l.check .inbound c none now).1.CountsAll .inbound ↔ l.CountsAll .inbound := by
    rw [CountsAll, hchecked.settings]
    rfl
  have heach : (l.check .inbound c none now).1.CountsEach .inbound none ↔
      l.CountsEach .inbound none := by
    rw [CountsEach, frequencyFor, hchecked.settings]
    rfl
  constructor
  case window => exact hreturned.window.trans hchecked.window
  case settings => exact hreturned.settings.trans hchecked.settings
  case destination =>
    intro e
    rw [hreturned.destination]
    cases e with
    | outbound =>
      rw [if_neg (fun h => nomatch h.1), hchecked.destination_of_ne .outbound nofun]
      exact .refl _ _ _
    | inbound =>
      split
      next hcounted => exact (h ▸ hchecked.destination (hall.mp hcounted.2)).release.countsAlike
      next hnot =>
        rw [hchecked.destination_of_not fun hcounted => hnot ⟨rfl, hall.mpr hcounted⟩]
        exact .refl _ _ _
  case client =>
    intro x e
    rw [hreturned.windowOf]
    split
    next hcounted =>
      obtain ⟨⟨rfl, rfl⟩, hcounted⟩ := hcounted
      rcases hchecked.windowOf (heach.mp hcounted) with hasked | ⟨hrefused, -⟩
      · exact (h ▸ hasked).release.countsAlike
      · exact absurd (h.symm.trans hrefused) nofun
    next hnot =>
      by_cases hsame : c = x ∧ .inbound = e
      · obtain ⟨rfl, rfl⟩ := hsame
        rw [hchecked.windowOf_of_not fun hcounted => hnot ⟨⟨rfl, rfl⟩, heach.mpr hcounted⟩]
        exact .refl _ _ _
      · rw [hchecked.windowOf_of_ne x e hsame]
        exact .refl _ _ _

end Limiter

end MessageBroker
