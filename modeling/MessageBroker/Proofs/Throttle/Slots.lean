/-
# Slots given back

A message that was let pass takes a slot in the window of the destination and in that of its
client. When the message fails later on it gives its slots back. But a slot bears no date: what
is given back is a slot of the window that is current by then, whichever one counted the
message. If the window of the message is over, another message loses its slot, and the current
window has room for one more than it should.

So the count of a window need not be the number of its messages that are under way. It falls
short of it by no more than the slots that strays gave back, messages of earlier windows, and
it is exact in a window to which no stray came. The same measure bounds what can be under way
beyond the ceiling.

Windows are told apart by their starts, so no window may start again when another one did before.
A clock that is set back does no harm, unless it is set back so far that differences of times
wrap around and an earlier time looks later.
-/

import MessageBroker.Proofs.Throttle.Rates

open Std

namespace MessageBroker

/-- Whether a time is seen to be later than a start only if it is: it is no earlier, or the
difference fits a word. -/
def Timestamp.SeenInOrder (start now : Int) : Prop := start ≤ now ∨ Fits now start

instance (start now : Int) : Decidable (Timestamp.SeenInOrder start now) :=
  inferInstanceAs (Decidable (_ ∨ _))

theorem Timestamp.SeenInOrder.lt_of_since_pos {start now : Int} (h : SeenInOrder start now)
    (hpos : 0 < since now start) : start < now := by
  rcases h with hle | hfits
  · have hle' := since_le hle
    omega
  · rw [since_of_fits hfits] at hpos
    omega

namespace Window

variable {w w' : Window} {length : Int} {ceiling : Nat} {now t : Timestamp}
  {held held' strays strays' : Timestamp → Nat}

/-- How a counter stands to the messages that are under way, where `held` tells how many of them
a window counted, and `strays` how many messages of other windows gave back their slots in it.
Windows are told apart by their starts. -/
structure Keeps (ceiling : Nat) (held strays : Timestamp → Nat) (w : Window) : Prop where
  unbegun : ∀ s, w.start < s → held s = 0 ∧ strays s = 0
  count_le : w.count ≤ held w.start
  held_le : held w.start ≤ w.count + strays w.start
  within : ∀ s, held s ≤ ceiling + strays s

/-- A window that begins has counted nothing so far, and nothing was given back in it. -/
theorem Keeps.roll (h : Keeps ceiling held strays w) (hlength : 0 < length)
    (horder : Timestamp.SeenInOrder w.start now) :
    Keeps ceiling held strays (w.roll length now) := by
  unfold Window.roll
  split
  next hlasted =>
    have hlater : w.start < now := horder.lt_of_since_pos (Int.lt_of_lt_of_le hlength hlasted)
    have hempty := h.unbegun now hlater
    refine ⟨fun s hs => h.unbegun s (Int.lt_trans hlater hs), Nat.zero_le _, ?_, h.within⟩
    show held now ≤ _
    rw [hempty.1]
    exact Nat.zero_le _
  next => exact h

theorem Keeps.refused (h : Keeps ceiling held strays w) (hlength : 0 < length)
    (horder : Timestamp.SeenInOrder w.start now)
    (hasked : Asked length ceiling now false w w') : Keeps ceiling held strays w' := by
  obtain ⟨hunbegun, hcount_le, hheld_le, hwithin⟩ := h.roll hlength horder
  have hcount : w'.count = (w.roll length now).count := hasked.count
  rw [← hasked.start] at hunbegun hcount_le hheld_le
  rw [← hcount] at hcount_le hheld_le
  exact ⟨hunbegun, hcount_le, hheld_le, hwithin⟩

/-- A message that is let pass joins those under way in the window that counts it. -/
theorem Keeps.admitted (h : Keeps ceiling held strays w) (hlength : 0 < length)
    (horder : Timestamp.SeenInOrder w.start now)
    (hasked : Asked length ceiling now true w w')
    (hheld : ∀ s, held' s = held s + if w'.start = s then 1 else 0) :
    Keeps ceiling held' strays w' := by
  obtain ⟨hunbegun, hcount_le, hheld_le, hwithin⟩ := h.roll hlength horder
  have hcount : w'.count = (w.roll length now).count + 1 := hasked.count
  have hroom := hasked.room rfl
  have hown : held' w'.start = held w'.start + 1 := by rw [hheld, if_pos rfl]
  have hothers {s : Timestamp} (hs : w'.start ≠ s) : held' s = held s := by
    rw [hheld, if_neg hs, Nat.add_zero]
  rw [← hasked.start] at hunbegun hcount_le hheld_le
  constructor
  case unbegun =>
    intro s hs
    rw [hothers (Int.ne_of_lt hs)]
    exact hunbegun s hs
  case count_le => omega
  case held_le => omega
  case within =>
    intro s
    by_cases hs : w'.start = s
    · subst hs
      omega
    · rw [hothers hs]
      exact hwithin s

/-- A message that gives its slot back leaves those under way in its own window, but it is the
current window that takes the slot. -/
theorem Keeps.released (h : Keeps ceiling held strays w)
    (hheld : ∀ s, held s = held' s + if t = s then 1 else 0)
    (hstrays : ∀ s, strays' s = strays s + if w.start = s ∧ t ≠ s then 1 else 0) :
    Keeps ceiling held' strays' w.release := by
  have hcount : w.release.count = w.count - 1 := rfl
  have hcount_le := h.count_le
  have hheld_le := h.held_le
  have hown := hheld w.start
  have hhere := hstrays w.start
  constructor
  case unbegun =>
    intro s hs
    have hempty := h.unbegun s hs
    have hsame := hheld s
    rw [hstrays, if_neg fun hstray => Int.ne_of_lt hs hstray.1]
    omega
  case count_le =>
    show w.count - 1 ≤ held' w.start
    split at hown <;> omega
  case held_le =>
    show held' w.start ≤ w.count - 1 + strays' w.start
    -- Unless it counted the message, the window loses a slot and still holds as many messages.
    by_cases hstray : t = w.start
    · rw [if_pos hstray] at hown
      rw [if_neg fun h => h.2 hstray] at hhere
      omega
    · rw [if_neg hstray] at hown
      rw [if_pos ⟨rfl, hstray⟩] at hhere
      omega
  case within =>
    intro s
    have hsame := hheld s
    have hmore := hstrays s
    have hwithin := h.within s
    omega

end Window

namespace Limiter

/-! ## Messages under way -/

/-- The inbound counters of a limiter: the one that counts all messages, and those that count
the messages of one client each. -/
inductive Counter where
  | all
  | each (c : ClientId)
  deriving DecidableEq

/-- When the windows of a destination and of a client began. -/
structure Starts where
  destination : Timestamp
  client : Timestamp
  deriving DecidableEq

/-- The starts of the windows that count the next message of a client. -/
def starts (l : Limiter) (c : ClientId) : Starts :=
  ⟨l.destination.inbound.start, (l.windowOf c .inbound).start⟩

namespace Counter

/-- The window of a counter. -/
def window (l : Limiter) : Counter → Window
  | all => l.destination.inbound
  | each c => l.windowOf c .inbound

/-- The limit that a counter holds messages to. -/
def limit (limits : Limits) : Counter → Nat
  | all => limits.destination
  | each _ => limits.client

/-- Whether a counter counts the messages of a client. -/
def Counts : Counter → ClientId → Prop
  | all, _ => True
  | each x, c => x = c

instance : ∀ (n : Counter) (c : ClientId), Decidable (n.Counts c)
  | all, _ => inferInstanceAs (Decidable True)
  | each x, c => inferInstanceAs (Decidable (x = c))

/-- The start that a counter goes by. -/
def start (starts : Starts) : Counter → Timestamp
  | all => starts.destination
  | each _ => starts.client

end Counter

/-- A message that was let pass: its client and the windows that count it. -/
structure Slot where
  client : ClientId
  counted : Starts
  deriving DecidableEq

/-- A message that gave its slots back: the windows that were current then. -/
structure Return where
  slot : Slot
  found : Starts
  deriving DecidableEq

/-- A limiter with what became of the messages that it let pass. -/
structure Desk where
  limiter : Limiter
  /-- The messages that are under way. -/
  held : List Slot
  /-- The messages that failed. -/
  returned : List Return

/-- What happens to messages: one is checked, or one that was let pass fails. -/
inductive Turn where
  | check (c : ClientId) (now : Timestamp)
  | giveBack (slot : Slot)
  deriving DecidableEq

/-- The time of a check. -/
def Turn.time? : Turn → Option Timestamp
  | check _ now => some now
  | giveBack _ => none

namespace Desk

/-- A limiter that has let nothing pass. -/
def opened (l : Limiter) : Desk := ⟨l, [], []⟩

/-- What a turn makes of a desk. -/
def perform (k : Desk) : Turn → Desk
  | .check c now =>
    let (l, verdict) := k.limiter.check .inbound c none now
    { k with
      limiter := l
      held := if verdict.isAllowed then ⟨c, l.starts c⟩ :: k.held else k.held }
  | .giveBack slot =>
    { limiter := k.limiter.releaseInbound slot.client
      held := k.held.erase slot
      returned := ⟨slot, k.limiter.starts slot.client⟩ :: k.returned }

/-- Performs turns one after the other. -/
def run (k : Desk) (turns : List Turn) : Desk := turns.foldl perform k

/-- Whether a turn is possible: only a message that is under way can fail. -/
def Fits (k : Desk) : Turn → Prop
  | .check .. => True
  | .giveBack slot => slot ∈ k.held

/-- Whether turns are possible one after the other. -/
def Pairs : Desk → List Turn → Prop
  | _, [] => True
  | k, turn :: turns => k.Fits turn ∧ Pairs (k.perform turn) turns

instance (k : Desk) : ∀ turn : Turn, Decidable (k.Fits turn)
  | .check .. => isTrue trivial
  | .giveBack slot => inferInstanceAs (Decidable (slot ∈ k.held))

instance decidablePairs : ∀ (k : Desk) (turns : List Turn), Decidable (k.Pairs turns)
  | _, [] => isTrue trivial
  | k, turn :: turns =>
    have := decidablePairs (k.perform turn) turns
    inferInstanceAs (Decidable (k.Fits turn ∧ Pairs (k.perform turn) turns))

/-- How many messages are under way that a window of a counter counted. -/
def heldIn (k : Desk) (n : Counter) (s : Timestamp) : Nat :=
  k.held.countP fun m => n.Counts m.client ∧ n.start m.counted = s

/-- How many messages gave back their slots in a window of a counter that had not counted
them. -/
def strays (k : Desk) (n : Counter) (s : Timestamp) : Nat :=
  k.returned.countP fun r =>
    n.Counts r.slot.client ∧ n.start r.found = s ∧ n.start r.slot.counted ≠ s

end Desk

variable {l : Limiter} {c : ClientId} {now s : Timestamp} {n : Counter} {k : Desk} {turn : Turn}
  {turns : List Turn} {slot : Slot} {settings : ThrottleSettings} {window : Span}

theorem start_starts (h : n.Counts c) : n.start (l.starts c) = (n.window l).start := by
  cases n with
  | all => rfl
  | each x =>
    cases h
    rfl

/-! ## What a turn does to a counter -/

section Turn

variable (hpolicy : (l.settings.get .inbound).policy ≠ .none)
  (hlimit : n.limit (l.settings.get .inbound) ≠ 0)
include hpolicy hlimit

/-- A check asks a counter, or leaves it as it is and lets nothing pass that it counts. -/
theorem asked_or_same (c : ClientId) (now : Timestamp) :
    let answer := l.check .inbound c none now
    (n.Counts c ∧ Window.Asked l.windowLength
        (l.ceiling (n.limit (l.settings.get .inbound))) now answer.2.isAllowed (n.window l)
        (n.window answer.1)) ∨
      (n.window answer.1 = n.window l ∧ (answer.2.isAllowed = true → ¬n.Counts c)) := by
  have hchecked := checked_check l .inbound c none now
  cases n with
  | all => exact .inl ⟨trivial, hchecked.destination ⟨hpolicy, hlimit⟩⟩
  | each x =>
    by_cases hx : x = c
    · subst hx
      have heach : l.CountsEach .inbound none := ⟨hpolicy, l.frequencyFor_none _ ▸ hlimit⟩
      rcases hchecked.windowOf heach with hasked | ⟨hrefused, hsame⟩
      · rw [frequencyFor_none] at hasked
        exact .inl ⟨rfl, hasked⟩
      · exact .inr ⟨hsame, fun hallowed => nomatch hallowed.symm.trans hrefused⟩
    · exact .inr ⟨hchecked.windowOf_of_ne x .inbound fun h => hx h.1.symm, fun _ => hx⟩

/-- A message that fails takes a slot from each counter that counts messages of its client. -/
theorem window_releaseInbound (c : ClientId) :
    n.window (l.releaseInbound c) =
      if n.Counts c then (n.window l).release else n.window l := by
  have hreturned := returned_releaseInbound l c
  cases n with
  | all => exact (hreturned.destination .inbound).trans (if_pos ⟨rfl, hpolicy, hlimit⟩)
  | each x =>
    have heach : l.CountsEach .inbound none := ⟨hpolicy, l.frequencyFor_none _ ▸ hlimit⟩
    refine (hreturned.windowOf x .inbound).trans ?_
    by_cases hx : x = c
    · rw [if_pos ⟨⟨hx.symm, rfl⟩, heach⟩]
      exact (if_pos hx).symm
    · rw [if_neg fun h => hx h.1.1.symm]
      exact (if_neg hx).symm

end Turn

namespace Desk

theorem heldIn_eq_of_mem (hslot : slot ∈ k.held) (s : Timestamp) :
    k.heldIn n s = (k.perform (.giveBack slot)).heldIn n s +
      if n.Counts slot.client ∧ n.start slot.counted = s then 1 else 0 := by
  rw [heldIn, (List.perm_cons_erase hslot).countP_eq, List.countP_cons]
  simp only [decide_eq_true_eq]
  rfl

theorem strays_giveBack (k : Desk) (slot : Slot) (s : Timestamp) :
    (k.perform (.giveBack slot)).strays n s = k.strays n s +
      if n.Counts slot.client ∧ n.start (k.limiter.starts slot.client) = s ∧
        n.start slot.counted ≠ s then 1 else 0 := by
  rw [strays, perform, List.countP_cons]
  simp only [decide_eq_true_eq]
  rfl

theorem heldIn_check_of_allowed
    (h : (k.limiter.check .inbound c none now).2.isAllowed = true) (s : Timestamp) :
    (k.perform (.check c now)).heldIn n s = k.heldIn n s +
      if n.Counts c ∧ n.start ((k.limiter.check .inbound c none now).1.starts c) = s
        then 1 else 0 := by
  rw [heldIn, perform]
  dsimp only
  rw [if_pos h, List.countP_cons]
  simp only [decide_eq_true_eq]
  rfl

theorem heldIn_check_of_refused
    (h : (k.limiter.check .inbound c none now).2.isAllowed = false) (s : Timestamp) :
    (k.perform (.check c now)).heldIn n s = k.heldIn n s := by
  rw [heldIn, perform]
  dsimp only
  rw [if_neg (ne_true_of_eq_false h)]
  rfl

/-- What every turn keeps: the settings, and how a counter stands to the messages under way. -/
structure Sound (settings : ThrottleSettings) (window : Span) (n : Counter) (k : Desk) :
    Prop where
  same : k.limiter.settings = settings ∧ k.limiter.window = window
  keeps : (n.window k.limiter).Keeps (quota (n.limit settings.inbound) window) (k.heldIn n)
    (k.strays n)

section Run

variable (hpos : 1 ≤ window.ms) (hlt : window.ms < 2 ^ 63)
  (hpolicy : settings.inbound.policy ≠ .none) (hlimit : n.limit settings.inbound ≠ 0)
include hpolicy hlimit

theorem Sound.giveBack (h : Sound settings window n k) (hslot : slot ∈ k.held) :
    Sound settings window n (k.perform (.giveBack slot)) := by
  obtain ⟨⟨rfl, rfl⟩, hkeeps⟩ := h
  have hreturned := returned_releaseInbound k.limiter slot.client
  refine ⟨⟨hreturned.settings, hreturned.window⟩, ?_⟩
  show (n.window (k.limiter.releaseInbound slot.client)).Keeps _ _ _
  rw [window_releaseInbound hpolicy hlimit]
  by_cases hcounts : n.Counts slot.client
  · rw [if_pos hcounts]
    refine hkeeps.released (t := n.start slot.counted) (fun s => ?_) fun s => ?_
    · simpa only [hcounts, true_and] using heldIn_eq_of_mem (n := n) hslot s
    · simpa only [hcounts, true_and, start_starts hcounts] using strays_giveBack (n := n) k slot s
  · rw [if_neg hcounts]
    have hheld : (k.perform (.giveBack slot)).heldIn n = k.heldIn n := funext fun s => by
      rw [heldIn_eq_of_mem hslot, if_neg fun h => hcounts h.1, Nat.add_zero]
    have hstrays : (k.perform (.giveBack slot)).strays n = k.strays n := funext fun s => by
      rw [strays_giveBack, if_neg fun h => hcounts h.1, Nat.add_zero]
    rw [hheld, hstrays]
    exact hkeeps

include hpos hlt in
theorem Sound.check (h : Sound settings window n k) (c : ClientId)
    (horder : Timestamp.SeenInOrder (n.window k.limiter).start now) :
    Sound settings window n (k.perform (.check c now)) := by
  obtain ⟨⟨rfl, rfl⟩, hkeeps⟩ := h
  have hchecked := checked_check k.limiter .inbound c none now
  have hlength : 0 < k.limiter.windowLength := by
    rw [windowLength_eq hlt]
    omega
  refine ⟨⟨hchecked.settings, hchecked.window⟩, ?_⟩
  show (n.window (k.limiter.check .inbound c none now).1).Keeps _ _ (k.strays n)
  have hmeters := asked_or_same hpolicy hlimit c now
  rw [ceiling_eq_quota] at hmeters
  cases hverdict : (k.limiter.check .inbound c none now).2.isAllowed with
  | false =>
    rw [funext (heldIn_check_of_refused (n := n) hverdict)]
    rcases hmeters with ⟨-, hasked⟩ | ⟨hsame, -⟩
    · exact hkeeps.refused hlength horder (hverdict ▸ hasked)
    · rw [hsame]
      exact hkeeps
  | true =>
    have hheld := heldIn_check_of_allowed (n := n) hverdict
    rcases hmeters with ⟨hcounts, hasked⟩ | ⟨hsame, hnot⟩
    · refine hkeeps.admitted hlength horder (hverdict ▸ hasked) fun s => ?_
      simpa only [hcounts, true_and, start_starts hcounts] using hheld s
    · have hidle : (k.perform (.check c now)).heldIn n = k.heldIn n := funext fun s => by
        rw [hheld, if_neg fun h => hnot hverdict h.1, Nat.add_zero]
      rw [hsame, hidle]
      exact hkeeps

/-- A turn leaves the window of a counter as it is, or begins a new one at its time. -/
theorem Sound.start_perform (h : Sound settings window n k) (turn : Turn) :
    (n.window (k.perform turn).limiter).start = (n.window k.limiter).start ∨
      turn.time? = some (n.window (k.perform turn).limiter).start := by
  obtain ⟨⟨rfl, rfl⟩, -⟩ := h
  cases turn with
  | check c now =>
    rcases asked_or_same hpolicy hlimit c now with ⟨-, hasked⟩ | ⟨hsame, -⟩
    · exact hasked.cases.imp (fun hcases => hcases.2.1) fun hcases => congrArg some hcases.2.1.symm
    · exact .inl (congrArg Window.start hsame)
  | giveBack slot =>
    left
    show (n.window (k.limiter.releaseInbound slot.client)).start = _
    rw [window_releaseInbound hpolicy hlimit]
    split
    · rfl
    · rfl

include hpos hlt in
theorem Sound.run (h : Sound settings window n k) (hpairs : k.Pairs turns)
    (horder : ((n.window k.limiter).start :: turns.filterMap Turn.time?).Pairwise
      Timestamp.SeenInOrder) :
    Sound settings window n (k.run turns) := by
  induction turns generalizing k with
  | nil => exact h
  | cons turn turns ih =>
    have hstart := h.start_perform hpolicy hlimit turn
    cases turn with
    | check c now =>
      have htimes : (.check c now :: turns).filterMap Turn.time? =
          now :: turns.filterMap Turn.time? := rfl
      rw [htimes] at horder
      obtain ⟨hfirst, hrest⟩ := List.pairwise_cons.mp horder
      refine ih (h.check hpos hlt hpolicy hlimit c (hfirst now List.mem_cons_self)) hpairs.2 ?_
      rcases hstart with hsame | hnew
      · rw [hsame]
        exact List.pairwise_cons.mpr
          ⟨fun t ht => hfirst t (List.mem_cons_of_mem _ ht), (List.pairwise_cons.mp hrest).2⟩
      · rw [← Option.some.inj hnew]
        exact hrest
    | giveBack slot =>
      refine ih (h.giveBack hpolicy hlimit hpairs.1) hpairs.2 ?_
      rw [hstart.resolve_right nofun]
      exact horder

end Run

theorem sound_opened (hl : create settings window = .ok l) (n : Counter) :
    Sound settings window n (opened l) := by
  rw [create_eq_ok hl]
  refine ⟨⟨rfl, rfl⟩, fun _ _ => ⟨rfl, rfl⟩, ?_, Nat.zero_le _, fun _ => Nat.zero_le _⟩
  cases n <;> exact Nat.le_refl 0

theorem start_opened (hl : create settings window = .ok l) (n : Counter) :
    (n.window (opened l).limiter).start = 0 := by
  rw [create_eq_ok hl]
  cases n <;> rfl

end Desk

/-- Whatever a limiter that was just made is asked, and whichever of the messages that it let
pass fail at which time, where messages are limited: the count of a window is the number of
messages under way that the window counted, as long as no message of another window has given
back a slot in it. Each stray that has makes the count fall short by one at most. Under way in
any window there are no more than its ceiling and the strays. The clock may be set back, by less
than makes differences wrap around. -/
theorem count_eq_heldIn_of_run (hl : create settings window = .ok l) (hpos : 1 ≤ window.ms)
    (hlt : window.ms < 2 ^ 63) (hpolicy : settings.inbound.policy ≠ .none)
    (hlimit : n.limit settings.inbound ≠ 0) (hpairs : (Desk.opened l).Pairs turns)
    (horder : (0 :: turns.filterMap Turn.time?).Pairwise Timestamp.SeenInOrder) :
    let k := (Desk.opened l).run turns
    let w := n.window k.limiter
    (k.strays n w.start = 0 → w.count = k.heldIn n w.start) ∧
      w.count ≤ k.heldIn n w.start ∧ k.heldIn n w.start ≤ w.count + k.strays n w.start ∧
      ∀ s, k.heldIn n s ≤ quota (n.limit settings.inbound) window + k.strays n s := by
  intro k w
  have hkeeps := ((Desk.sound_opened hl n).run hpos hlt hpolicy hlimit hpairs
    (by rwa [Desk.start_opened hl n])).keeps
  refine ⟨fun hnone => Nat.le_antisymm hkeeps.count_le ?_, hkeeps.count_le, hkeeps.held_le,
    hkeeps.within⟩
  have hheld_le := hkeeps.held_le
  rwa [show k.strays n w.start = 0 from hnone] at hheld_le

/-- One message of all clients together in a second. -/
def oneOfAll : ThrottleSettings := ⟨⟨.error, 0, 1⟩, ⟨.none, 0, 0⟩⟩

/-- Nothing has passed so far. -/
def idle : Limiter := ⟨⟨1000⟩, oneOfAll, .fresh, ∅, ⟨.none, .none⟩⟩

/-- A message fails in the window that counted it, and there is room for another one. -/
def promptReturn : List Turn :=
  [.check "ann" 10, .giveBack ⟨"ann", ⟨0, 0⟩⟩, .check "bob" 20]

theorem count_eq_heldIn_of_run_prompt :
    create oneOfAll ⟨1000⟩ = .ok idle ∧ (Desk.opened idle).Pairs promptReturn ∧
      ((Desk.opened idle).run promptReturn).strays .all 0 = 0 ∧
      ((Desk.opened idle).run promptReturn).limiter.destination.inbound.count = 1 ∧
      ((Desk.opened idle).run promptReturn).heldIn .all 0 = 1 := by
  have hpairs : (Desk.opened idle).Pairs promptReturn := by decide
  have hstrays : ((Desk.opened idle).run promptReturn).strays .all 0 = 0 := by decide
  have hcount : ((Desk.opened idle).run promptReturn).limiter.destination.inbound.count = 1 := by
    decide
  have hcreated : create oneOfAll ⟨1000⟩ = .ok idle := rfl
  have hcounts := count_eq_heldIn_of_run (n := .all) hcreated (by decide) (by decide) (by decide)
    (by decide) hpairs (by decide)
  exact ⟨hcreated, hpairs, hstrays, hcount, (hcounts.1 hstrays).symm.trans hcount⟩

/-- A message fails when its window is over and another message is under way in the next. -/
def lateReturn : List Turn :=
  [.check "ann" 0, .check "bob" 1000, .giveBack ⟨"ann", ⟨0, 0⟩⟩]

theorem not_forall_count_eq_heldIn :
    ¬∀ (settings : ThrottleSettings) (window : Span) (l : Limiter) (turns : List Turn)
        (n : Counter), create settings window = .ok l → 1 ≤ window.ms → window.ms < 2 ^ 63 →
      settings.inbound.policy ≠ .none → n.limit settings.inbound ≠ 0 →
      (Desk.opened l).Pairs turns → (0 :: turns.filterMap Turn.time?).Pairwise (· ≤ ·) →
      let k := (Desk.opened l).run turns
      (n.window k.limiter).count = k.heldIn n (n.window k.limiter).start ∧
        ∀ s, k.heldIn n s ≤ quota (n.limit settings.inbound) window := by
  intro h
  have hpairs : (Desk.opened idle).Pairs lateReturn := by decide
  have hcount := (h oneOfAll ⟨1000⟩ idle lateReturn .all rfl (by decide) (by decide) (by decide)
    (by decide) hpairs (by decide)).1
  -- Nothing is counted any more, but the message of the current window is under way.
  exact absurd hcount (by decide)

end Limiter

end MessageBroker
