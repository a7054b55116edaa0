/-
# Chronicles

Handlers are told when the session of a client begins and ends, and when a subscription comes
and goes. What they were told of that, oldest first, is a chronicle. Each notice has to be
allowed by what was told before it: a session begins when there is none, it ends when nothing
of its client is left, a client subscribes during a session and under a new number, and only
what has come can go.

These rules look at one notice at a time. What follows from them is about a chronicle as a
whole: beginnings and ends take turns, no number comes or goes twice, and nobody subscribes
outside a session.

Subscriptions that a caller was handed are an exception. The caller sees to them, so a session
may end before anybody is told that they have gone.
-/

import Mathlib.Data.List.Chain
import MessageBroker.Proofs.Broker.Asides

namespace MessageBroker

/-- What handlers were told about sessions and subscriptions, oldest first. -/
abbrev Chronicle := List Notice

namespace Notice

/-- What a notice says of the session of a client: whether it begins. -/
def sessionMark? (c : ClientId) : Notice → Option Bool
  | sessionCreated c' => if c' = c then some true else none
  | sessionTerminated c' => if c' = c then some false else none
  | _ => none

theorem sessionMark?_eq_some_true {c : ClientId} {n : Notice} :
    n.sessionMark? c = some true ↔ n = .sessionCreated c := by
  cases n <;> simp [sessionMark?]

theorem sessionMark?_eq_some_false {c : ClientId} {n : Notice} :
    n.sessionMark? c = some false ↔ n = .sessionTerminated c := by
  cases n <;> simp [sessionMark?]

/-- Whether a notice tells that a subscription with a number has come. -/
def tellsComing (n : SubscriptionId) : Notice → Bool
  | subscribed s => s.id = n
  | _ => false

/-- Whether a notice tells that a subscription with a number has gone. -/
def tellsGoing (n : SubscriptionId) : Notice → Bool
  | unsubscribed s _ => s.id = n
  | _ => false

end Notice

namespace Chronicle

variable {handed handed' : List Subscription} {l before after : Chronicle} {n : Notice}
  {c c' : ClientId} {s t : Subscription} {reason : UnsubscribeReason}

/-- The beginnings and ends of the sessions of a client, in their order. -/
def sessionMarks (l : Chronicle) (c : ClientId) : List Bool := l.filterMap (Notice.sessionMark? c)

/-- Whether the last that was told of the sessions of a client is that one begins. -/
def IsLive (l : Chronicle) (c : ClientId) : Prop := (l.sessionMarks c).getLast? = some true

/-- Whether it was told that a subscription has come and not that it has gone. -/
def IsOpen (l : Chronicle) (s : Subscription) : Prop :=
  .subscribed s ∈ l ∧ ∀ reason, .unsubscribed s reason ∉ l

/-- Whether a notice is allowed by what was told before, when a caller was handed some
subscriptions. -/
def MayFollow (handed : List Subscription) (l : Chronicle) : Notice → Prop
  | .sessionCreated c => ¬l.IsLive c
  | .sessionTerminated c => l.IsLive c ∧ ∀ s, l.IsOpen s → s.client = c → s ∈ handed
  | .subscribed s => l.IsLive s.client ∧ ∀ t, .subscribed t ∈ l → t.id ≠ s.id
  | .unsubscribed s _ => l.IsOpen s
  | _ => False

/-- Each notice was allowed when it was told. -/
def Lawful (handed : List Subscription) (l : Chronicle) : Prop :=
  ∀ before n after, l = before ++ n :: after → MayFollow handed before n

/-! ## One notice more -/

theorem sessionMarks_concat (l : Chronicle) (n : Notice) (c : ClientId) :
    sessionMarks (l ++ [n]) c = l.sessionMarks c ++ (n.sessionMark? c).toList := by
  rw [sessionMarks, List.filterMap_append]
  cases h : n.sessionMark? c with
  | none => rw [List.filterMap_cons_none h]; rfl
  | some mark => rw [List.filterMap_cons_some h]; rfl

/-- Before a first session begins, it is as if one had ended. -/
theorem isLive_iff_of_mem_getLast? {mark : Bool}
    (h : mark ∈ (false :: l.sessionMarks c).getLast?) : l.IsLive c ↔ mark = true := by
  rw [List.getLast?_cons, Option.mem_some_iff] at h
  rw [IsLive, ← h]
  cases (l.sessionMarks c).getLast? <;> simp

theorem isLive_concat_of_none (h : n.sessionMark? c = none) :
    IsLive (l ++ [n]) c ↔ l.IsLive c := by
  rw [IsLive, sessionMarks_concat, h, Option.toList_none, List.append_nil, IsLive]

theorem isLive_concat_of_some {mark : Bool} (h : n.sessionMark? c = some mark) :
    IsLive (l ++ [n]) c ↔ mark = true := by
  rw [IsLive, sessionMarks_concat, h, Option.toList_some, List.getLast?_concat, Option.some_inj]

theorem isLive_concat_created : IsLive (l ++ [.sessionCreated c]) c' ↔ c = c' ∨ l.IsLive c' := by
  by_cases hc : c = c'
  · have hmark := Notice.sessionMark?_eq_some_true.mpr (congrArg Notice.sessionCreated hc)
    rw [isLive_concat_of_some hmark]
    simp [hc]
  · have hmark : (Notice.sessionCreated c).sessionMark? c' = none := if_neg hc
    rw [isLive_concat_of_none hmark]
    simp [hc]

theorem isLive_concat_terminated :
    IsLive (l ++ [.sessionTerminated c]) c' ↔ c ≠ c' ∧ l.IsLive c' := by
  by_cases hc : c = c'
  · have hmark := Notice.sessionMark?_eq_some_false.mpr (congrArg Notice.sessionTerminated hc)
    rw [isLive_concat_of_some hmark]
    simp [hc]
  · have hmark : (Notice.sessionTerminated c).sessionMark? c' = none := if_neg hc
    rw [isLive_concat_of_none hmark]
    simp [hc]

theorem isOpen_concat_of_none (h : n.subscription? = none) :
    IsOpen (l ++ [n]) s ↔ l.IsOpen s := by
  have hcome : .subscribed s ≠ n := by rintro rfl; cases h
  have hgone (reason : UnsubscribeReason) : .unsubscribed s reason ≠ n := by rintro rfl; cases h
  simp [IsOpen, hcome, hgone]

theorem isOpen_concat_subscribed (hnew : ∀ reason, .unsubscribed s reason ∉ l) :
    IsOpen (l ++ [.subscribed s]) t ↔ t = s ∨ l.IsOpen t := by
  by_cases ht : t = s
  · subst ht
    simp [IsOpen, hnew]
  · simp [IsOpen, ht]

theorem isOpen_concat_unsubscribed :
    IsOpen (l ++ [.unsubscribed s reason]) t ↔ t ≠ s ∧ l.IsOpen t := by
  by_cases ht : t = s
  · subst ht
    have hgone : ¬IsOpen (l ++ [.unsubscribed t reason]) t :=
      fun h => h.2 reason (List.mem_append_right _ List.mem_cons_self)
    simp [hgone]
  · simp [IsOpen, ht]

theorem lawful_nil (handed : List Subscription) : Lawful handed [] := by
  intro before n after h
  cases before <;> cases h

theorem lawful_concat_iff :
    Lawful handed (l ++ [n]) ↔ Lawful handed l ∧ MayFollow handed l n := by
  constructor
  · intro h
    refine ⟨fun before m after hsplit => h before m (after ++ [n]) ?_, h l n [] rfl⟩
    rw [hsplit, List.append_assoc, List.cons_append]
  · rintro ⟨h, hn⟩ before m after hsplit
    rcases List.eq_nil_or_concat after with rfl | ⟨after', last, rfl⟩
    · obtain ⟨rfl, hlast⟩ := List.append_inj' hsplit rfl
      cases hlast
      exact hn
    · rw [List.concat_eq_append, ← List.cons_append, ← List.append_assoc] at hsplit
      exact h before m after' (List.append_inj' hsplit rfl).1

/-- Being handed more subscriptions forbids nothing. -/
theorem MayFollow.mono (hsub : ∀ s ∈ handed, s ∈ handed') (h : MayFollow handed l n) :
    MayFollow handed' l n := by
  cases n with
  | sessionTerminated c => exact ⟨h.1, fun s hs hclient => hsub s (h.2 s hs hclient)⟩
  | sessionCreated | subscribed | unsubscribed => exact h
  | messageDelivered | messageDropped | messageExpired => exact h

theorem Lawful.mono (hsub : ∀ s ∈ handed, s ∈ handed') (h : Lawful handed l) :
    Lawful handed' l :=
  fun before n after hsplit => (h before n after hsplit).mono hsub

/-! ## What follows for a chronicle as a whole -/

/-- A session that is live has begun, and has not ended since. -/
theorem IsLive.exists_created (h : l.IsLive c) :
    ∃ before after, l = before ++ .sessionCreated c :: after ∧ .sessionTerminated c ∉ after := by
  induction l using List.reverseRecOn with
  | nil => cases h
  | append_singleton l n ih =>
    cases hmark : n.sessionMark? c with
    | none =>
      obtain ⟨before, after, rfl, hafter⟩ := ih ((isLive_concat_of_none hmark).mp h)
      refine ⟨before, after ++ [n], by rw [List.append_assoc, List.cons_append], ?_⟩
      have hn : .sessionTerminated c ≠ n := by
        rintro rfl
        rw [Notice.sessionMark?, if_pos rfl] at hmark
        cases hmark
      simp [hafter, hn]
    | some mark =>
      obtain rfl := (isLive_concat_of_some hmark).mp h
      obtain rfl := Notice.sessionMark?_eq_some_true.mp hmark
      exact ⟨l, [], rfl, List.not_mem_nil⟩

namespace Lawful

/-- Sessions of a client begin and end by turns, and first one begins. -/
theorem alternate (h : Lawful handed l) (c : ClientId) :
    (false :: l.sessionMarks c).IsChain (· ≠ ·) := by
  induction l using List.reverseRecOn with
  | nil => exact .singleton _
  | append_singleton l n ih =>
    obtain ⟨hl, hn⟩ := lawful_concat_iff.mp h
    rw [sessionMarks_concat, ← List.cons_append]
    cases hmark : n.sessionMark? c with
    | none =>
      rw [Option.toList_none, List.append_nil]
      exact ih hl
    | some mark =>
      refine (ih hl).append (.singleton _) fun last hlast mark' hmark' => ?_
      have hlive := isLive_iff_of_mem_getLast? hlast
      obtain rfl := Option.some.inj hmark'
      cases mark with
      | true =>
        obtain rfl := Notice.sessionMark?_eq_some_true.mp hmark
        exact fun heq => hn (hlive.mpr heq)
      | false =>
        obtain rfl := Notice.sessionMark?_eq_some_false.mp hmark
        exact fun heq => Bool.noConfusion (heq.symm.trans (hlive.mp hn.1))

/-- What is told to go has come before. -/
theorem isOpen_of_unsubscribed (h : Lawful handed l)
    (hsplit : l = before ++ .unsubscribed s reason :: after) : before.IsOpen s :=
  h before _ after hsplit

theorem subscribed_of_unsubscribed (h : Lawful handed l) (hs : .unsubscribed s reason ∈ l) :
    .subscribed s ∈ l := by
  obtain ⟨before, after, rfl⟩ := List.append_of_mem hs
  exact List.mem_append_left _ (h.isOpen_of_unsubscribed rfl).1

/-- Two subscriptions that have come with one number are the same. -/
theorem eq_of_subscribed (h : Lawful handed l) (hs : .subscribed s ∈ l) (ht : .subscribed t ∈ l)
    (hid : s.id = t.id) : s = t := by
  induction l using List.reverseRecOn with
  | nil => cases hs
  | append_singleton l n ih =>
    obtain ⟨hl, hn⟩ := lawful_concat_iff.mp h
    rcases List.mem_append.mp hs with hearlier | hlast <;>
      rcases List.mem_append.mp ht with hearlier' | hlast'
    · exact ih hl hearlier hearlier'
    · obtain rfl := List.mem_singleton.mp hlast'
      exact absurd hid (hn.2 s hearlier)
    · obtain rfl := List.mem_singleton.mp hlast
      exact absurd hid.symm (hn.2 t hearlier')
    · obtain rfl := List.mem_singleton.mp hlast
      exact (Notice.subscribed.inj (List.mem_singleton.mp hlast')).symm

/-- A rule against what was told before keeps notices of a kind from being told twice. -/
theorem countP_le_one {p : Notice → Bool} (h : Lawful handed l)
    (hrule : ∀ l n m, Lawful handed l → MayFollow handed l n → p n → m ∈ l → ¬p m) :
    l.countP p ≤ 1 := by
  induction l using List.reverseRecOn with
  | nil => exact Nat.zero_le 1
  | append_singleton l n ih =>
    obtain ⟨hl, hn⟩ := lawful_concat_iff.mp h
    rw [List.countP_append, List.countP_singleton]
    split
    next hp =>
      rw [List.countP_eq_zero.mpr fun m hm => hrule l n m hl hn hp hm]
    next => exact ih hl

/-- No number comes twice. -/
theorem countP_tellsComing (h : Lawful handed l) (i : SubscriptionId) :
    l.countP (Notice.tellsComing i) ≤ 1 := by
  refine h.countP_le_one fun l n m _ hn hp hm hpm => ?_
  cases n with
  | subscribed s =>
    cases m with
    | subscribed t => exact hn.2 t hm ((of_decide_eq_true hpm).trans (of_decide_eq_true hp).symm)
    | _ => cases hpm
  | _ => cases hp

/-- No number goes twice. -/
theorem countP_tellsGoing (h : Lawful handed l) (i : SubscriptionId) :
    l.countP (Notice.tellsGoing i) ≤ 1 := by
  refine h.countP_le_one fun l n m hl hn hp hm hpm => ?_
  cases n with
  | unsubscribed s reason =>
    cases m with
    | unsubscribed t reason' =>
      have hid : s.id = t.id := (of_decide_eq_true hp).trans (of_decide_eq_true hpm).symm
      obtain rfl := hl.eq_of_subscribed hn.1 (hl.subscribed_of_unsubscribed hm) hid
      exact hn.2 reason' hm
    | _ => cases hpm
  | _ => cases hp

end Lawful

end Chronicle

end MessageBroker
