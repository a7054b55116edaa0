/-
# Rounds of handlers

Handlers come and go, each for one kind of notice, and a notice is told to those that are
registered for its kind at that moment. What is registered can be told from what was asked of
the table so far: whatever was added and has not been removed since.

A table keeps its registrations in the order of calling, so a new one has to be put in its
place. It has a greater number than all others, which makes it the first of its priority. Since
no number is given out twice, removing one registration leaves all others where they are.
-/

import Mathlib.Data.List.Induction
import MessageBroker.Broker.Notify

namespace MessageBroker

/-- Something that is asked of a table of hooks. -/
inductive HookRequest where
  | add (kind : NoticeKind) (priority : Nat) (handler : Handler)
  | remove (kind : NoticeKind) (id : HandlerId)

/-- A registration is called before another one: it has a higher priority, or the same priority
and a later number. -/
def Registration.Precedes (r s : Registration) : Prop :=
  s.priority < r.priority ∨ s.priority = r.priority ∧ s.id < r.id

theorem Registration.Precedes.priority_le {r s : Registration} (h : r.Precedes s) :
    s.priority ≤ r.priority :=
  h.elim Nat.le_of_lt fun h => Nat.le_of_eq h.1

theorem Registration.precedes_of_le {r s : Registration} (hle : s.priority ≤ r.priority)
    (hlt : s.id < r.id) : r.Precedes s :=
  (Nat.lt_or_eq_of_le hle).imp_right fun heq => ⟨heq, hlt⟩

namespace HookTable

variable {t : HookTable} {kind : NoticeKind} {id : HandlerId} {r s : Registration}
  {requests : List HookRequest}

/-- Does what is asked. -/
def act (t : HookTable) : HookRequest → HookTable
  | .add kind priority handler => (t.add kind priority handler).1
  | .remove kind id => (t.remove kind id).1

/-- Does what is asked, one thing after the other. -/
def run (t : HookTable) (requests : List HookRequest) : HookTable := requests.foldl act t

/-- The numbers that are given out on the way. -/
def numbers (t : HookTable) : List HookRequest → List HandlerId
  | [] => []
  | .add kind priority handler :: rest =>
    (t.add kind priority handler).2 :: numbers (t.add kind priority handler).1 rest
  | .remove kind id :: rest => numbers (t.remove kind id).1 rest

/-- A registration stands: it was added under its number, and it has not been removed since. -/
def Standing (requests : List HookRequest) (r : Registration) : Prop :=
  ∃ earlier later, requests = earlier ++ .add r.kind r.priority r.handler :: later ∧
    ((empty.run earlier).add r.kind r.priority r.handler).2 = r.id ∧
    HookRequest.remove r.kind r.id ∉ later

/-! ## What stands after one more request -/

theorem not_standing_nil : ¬Standing [] r := by
  rintro ⟨earlier, later, h, -⟩
  cases earlier <;> cases h

/-- What stands after one more request was added just now, or it stood before and was not
removed. -/
theorem standing_concat {request : HookRequest} :
    Standing (requests ++ [request]) r ↔
      Standing requests r ∧ request ≠ .remove r.kind r.id ∨
        request = .add r.kind r.priority r.handler ∧ (empty.run requests).nextId = r.id := by
  constructor
  · rintro ⟨earlier, later, h, hid, hlater⟩
    rcases List.eq_nil_or_concat later with rfl | ⟨later, last, rfl⟩
    · obtain ⟨rfl, hrequest⟩ := List.append_inj' h rfl
      exact .inr ⟨List.singleton_inj.mp hrequest, hid⟩
    · rw [List.concat_eq_append] at h hlater
      rw [← List.cons_append, ← List.append_assoc] at h
      obtain ⟨rfl, hrequest⟩ := List.append_inj' h rfl
      obtain rfl := List.singleton_inj.mp hrequest
      rw [List.mem_append, not_or, List.mem_singleton] at hlater
      exact .inl ⟨⟨earlier, later, rfl, hid, hlater.1⟩, Ne.symm hlater.2⟩
  · rintro (⟨⟨earlier, later, rfl, hid, hlater⟩, hne⟩ | ⟨rfl, hid⟩)
    · refine ⟨earlier, later ++ [request], by simp, hid, ?_⟩
      rw [List.mem_append, not_or, List.mem_singleton]
      exact ⟨hlater, Ne.symm hne⟩
    · exact ⟨requests, [], rfl, hid, List.not_mem_nil⟩

/-! ## Places -/

theorem mem_place {registrations : List Registration} :
    s ∈ place r registrations ↔ s = r ∨ s ∈ registrations := by
  induction registrations with
  | nil => exact List.mem_cons
  | cons first rest ih =>
    rw [place]
    split
    · exact List.mem_cons
    · rw [List.mem_cons, ih, List.mem_cons]
      exact or_left_comm

theorem mem_remove : s ∈ (t.remove kind id).1.registrations ↔
    s ∈ t.registrations ∧ ¬(s.kind = kind ∧ s.id = id) := by
  simp [remove, imp_iff_not_or]

/-- The newest registration is put before all others of its priority. -/
theorem pairwise_place {registrations : List Registration}
    (hsorted : registrations.Pairwise Registration.Precedes)
    (hnewest : ∀ s ∈ registrations, s.id < r.id) :
    (place r registrations).Pairwise Registration.Precedes := by
  induction registrations with
  | nil => exact List.pairwise_singleton _ _
  | cons first rest ih =>
    obtain ⟨hfirst, hrest⟩ := List.pairwise_cons.mp hsorted
    rw [place]
    split
    next hle =>
      refine List.pairwise_cons.mpr ⟨fun s hs => ?_, hsorted⟩
      have hpriority : s.priority ≤ first.priority := by
        rcases List.mem_cons.mp hs with rfl | hs
        · exact Nat.le_refl _
        · exact (hfirst s hs).priority_le
      exact Registration.precedes_of_le (Nat.le_trans hpriority hle) (hnewest s hs)
    next hlt =>
      refine List.pairwise_cons.mpr ⟨fun s hs => ?_,
        ih hrest fun s hs => hnewest s (List.mem_cons_of_mem _ hs)⟩
      rcases mem_place.mp hs with rfl | hs
      · exact .inl (Nat.lt_of_not_le hlt)
      · exact hfirst s hs

/-! ## A table after any requests -/

/-- A table has what stands, each under a number of its own and in the order of calling. -/
structure Follows (requests : List HookRequest) (t : HookTable) : Prop where
  registered : ∀ r, r ∈ t.registrations ↔ Standing requests r
  fresh : ∀ r ∈ t.registrations, r.id < t.nextId
  distinct : ∀ {r s}, r ∈ t.registrations → s ∈ t.registrations → r.id = s.id → r = s
  sorted : t.registrations.Pairwise Registration.Precedes

theorem Follows.add (h : Follows requests (empty.run requests)) (kind : NoticeKind)
    (priority : Nat) (handler : Handler) :
    Follows (requests ++ [.add kind priority handler])
      ((empty.run requests).add kind priority handler).1 := by
  let new : Registration := ⟨kind, priority, (empty.run requests).nextId, handler⟩
  have hmem (r : Registration) :
      r ∈ ((empty.run requests).add kind priority handler).1.registrations ↔
        r = new ∨ r ∈ (empty.run requests).registrations := mem_place
  have hless {r : Registration} (hr : r ∈ (empty.run requests).registrations) : r.id < new.id :=
    h.fresh r hr
  constructor
  case registered =>
    intro r
    rw [hmem, h.registered, standing_concat, or_comm]
    refine or_congr (and_iff_left nofun).symm ⟨?_, ?_⟩
    · rintro rfl
      exact ⟨rfl, rfl⟩
    · rintro ⟨hrequest, hid⟩
      obtain ⟨rkind, rpriority, rid, rhandler⟩ := r
      obtain ⟨rfl, rfl, rfl⟩ := HookRequest.add.inj hrequest
      exact congrArg (Registration.mk kind priority · handler) hid.symm
  case fresh =>
    intro r hr
    rcases (hmem r).mp hr with rfl | hr
    · exact Nat.lt_succ_self _
    · exact Nat.lt_succ_of_lt (hless hr)
  case distinct =>
    intro r s hr hs heq
    rcases (hmem r).mp hr with rfl | hr
    · rcases (hmem s).mp hs with rfl | hs
      · rfl
      · exact absurd heq.symm (Nat.ne_of_lt (hless hs))
    · rcases (hmem s).mp hs with rfl | hs
      · exact absurd heq (Nat.ne_of_lt (hless hr))
      · exact h.distinct hr hs heq
  case sorted => exact pairwise_place h.sorted h.fresh

theorem Follows.remove (h : Follows requests t) (kind : NoticeKind) (id : HandlerId) :
    Follows (requests ++ [.remove kind id]) (t.remove kind id).1 where
  registered r := by
    rw [mem_remove, h.registered, standing_concat, or_iff_left (fun h => nomatch h.1)]
    simp [eq_comm]
  fresh r hr := h.fresh r (mem_remove.mp hr).1
  distinct hr hs := h.distinct (mem_remove.mp hr).1 (mem_remove.mp hs).1
  sorted := h.sorted.sublist List.filter_sublist

theorem follows_run (requests : List HookRequest) : Follows requests (empty.run requests) := by
  induction requests using List.reverseRecOn with
  | nil => exact ⟨fun r => by simp [run, empty, not_standing_nil], nofun, nofun, .nil⟩
  | append_singleton requests request ih =>
    rw [run, List.foldl_append]
    cases request with
    | add kind priority handler => exact ih.add kind priority handler
    | remove kind id => exact ih.remove kind id

/-- Numbers are given out in ascending order, whatever is removed meanwhile. -/
theorem pairwise_numbers (requests : List HookRequest) (t : HookTable) :
    (t.numbers requests).Pairwise (· < ·) ∧ ∀ id ∈ t.numbers requests, t.nextId ≤ id := by
  induction requests generalizing t with
  | nil => exact ⟨.nil, nofun⟩
  | cons request requests ih =>
    cases request with
    | add kind priority handler =>
      obtain ⟨hpairwise, hle⟩ := ih (t.add kind priority handler).1
      refine ⟨List.pairwise_cons.mpr ⟨hle, hpairwise⟩, fun id hid => ?_⟩
      rcases List.mem_cons.mp hid with rfl | hid
      · exact Nat.le_refl _
      · exact Nat.le_of_succ_le (hle id hid)
    | remove kind id => exact ih (t.remove kind id).1

/-! ## Removing -/

theorem snd_remove_iff :
    (t.remove kind id).2 = true ↔ ∃ r ∈ t.registrations, r.kind = kind ∧ r.id = id := by
  simp [remove]

/-- Where there is nothing to remove, nothing changes. -/
theorem remove_of_false (h : (t.remove kind id).2 = false) : (t.remove kind id).1 = t := by
  have hnone : ∀ r ∈ t.registrations, ¬(r.kind = kind ∧ r.id = id) := fun r hr hsame =>
    Bool.false_ne_true (h.symm.trans (snd_remove_iff.mpr ⟨r, hr, hsame⟩))
  have hkept : (t.remove kind id).1.registrations = t.registrations :=
    List.filter_eq_self.mpr fun r hr => by simpa [imp_iff_not_or] using hnone r hr
  exact congrArg (HookTable.mk · t.nextId) hkept

/-- Removing a registration removes no other. -/
theorem Follows.mem_remove_iff (h : Follows requests t) (hr : r ∈ t.registrations) :
    s ∈ (t.remove r.kind r.id).1.registrations ↔ s ∈ t.registrations ∧ s ≠ r := by
  rw [mem_remove]
  refine and_congr_right fun hs => not_congr ⟨fun hsame => h.distinct hs hr hsame.2, ?_⟩
  rintro rfl
  exact ⟨rfl, rfl⟩

/-! ## Calling -/

/-- Those that are called are the registrations in their order up to the first whose handler does
not let the round go on, with it. -/
structure Calls (n : Notice) (order called : List Registration) : Prop where
  beginning : called <+: order
  proceeds : ∀ r ∈ called.dropLast, r.handler.proceeds n = true
  stopped : called ≠ order → ∃ last, called.getLast? = some last ∧ last.handler.proceeds n = false

theorem exists_calls (n : Notice) (order : List Registration) :
    ∃ called, Calls n order called ∧
      upToLast n (order.map (·.handler)) = called.map (·.handler) := by
  induction order with
  | nil => exact ⟨[], ⟨List.prefix_rfl, nofun, fun h => absurd rfl h⟩, rfl⟩
  | cons r order ih =>
    cases hproceeds : r.handler.proceeds n with
    | false =>
      refine ⟨[r], ⟨⟨order, rfl⟩, nofun, fun _ => ⟨r, rfl, hproceeds⟩⟩, ?_⟩
      rw [List.map_cons, upToLast, hproceeds, if_neg Bool.false_ne_true]
      rfl
    | true =>
      obtain ⟨called, hcalls, hcalled⟩ := ih
      refine ⟨r :: called, ⟨(List.prefix_cons_inj r).mpr hcalls.beginning, ?_, ?_⟩, ?_⟩
      · intro s hs
        cases called with
        | nil => exact absurd hs List.not_mem_nil
        | cons first rest =>
          rw [List.dropLast_cons_cons, List.mem_cons] at hs
          rcases hs with rfl | hs
          · exact hproceeds
          · exact hcalls.proceeds s hs
      · intro hne
        obtain ⟨last, hlast, hstops⟩ := hcalls.stopped fun h => hne (congrArg (r :: ·) h)
        refine ⟨last, ?_, hstops⟩
        rw [List.getLast?_cons, hlast]
        rfl
      · rw [List.map_cons, upToLast, hproceeds, if_pos rfl, hcalled, List.map_cons]

/-- A notice is told to what is registered for its kind, in the order of calling. -/
theorem Follows.exists_order (h : Follows requests t) (n : Notice) :
    ∃ order called, (∀ r, r ∈ order ↔ Standing requests r ∧ r.kind = n.kind) ∧
      order.Pairwise Registration.Precedes ∧ Calls n order called ∧
      t.round n = called.map (·.handler) := by
  let order := t.registrations.filter fun r => r.kind = n.kind
  obtain ⟨called, hcalls, hcalled⟩ := exists_calls n order
  refine ⟨order, called, fun r => ?_, h.sorted.sublist List.filter_sublist, hcalls, hcalled⟩
  rw [List.mem_filter, h.registered, decide_eq_true_iff]

/-- A table does what was asked of it: a number is found for removal as long as its registration
stands, and that registration is all that goes; and when something happens, those registered for
its kind of notice are called, the highest priorities first and the later of equal ones first,
until one does not let the round go on. -/
structure Serves (requests : List HookRequest) (t : HookTable) : Prop where
  registered : ∀ r, r ∈ t.registrations ↔ Standing requests r
  removes : ∀ kind id, (t.remove kind id).2 = true ↔
    ∃ r, Standing requests r ∧ r.kind = kind ∧ r.id = id
  removed : ∀ r, Standing requests r → ∀ s,
    s ∈ (t.remove r.kind r.id).1.registrations ↔ s ∈ t.registrations ∧ s ≠ r
  refused : ∀ kind id, (t.remove kind id).2 = false → (t.remove kind id).1 = t
  rounds : ∀ n, ∃ order called, (∀ r, r ∈ order ↔ Standing requests r ∧ r.kind = n.kind) ∧
    order.Pairwise Registration.Precedes ∧ Calls n order called ∧
    ∀ (ctx : Context) (b : Broker), b.hooks = t → Broker.notify ctx n b =
      called.foldl (fun b r => Broker.callHandler ctx n b r.handler) (b.record (.notice n))

/-- Whatever was asked of a table, the numbers that it gave out ascend, and it serves. -/
theorem serves_run (requests : List HookRequest) :
    (empty.numbers requests).Pairwise (· < ·) ∧ Serves requests (empty.run requests) := by
  have hfollows := follows_run requests
  refine ⟨(pairwise_numbers requests empty).1, ?_⟩
  constructor
  case registered => exact hfollows.registered
  case removes => simp only [snd_remove_iff, hfollows.registered, implies_true]
  case removed => exact fun r hr s => hfollows.mem_remove_iff ((hfollows.registered r).mpr hr)
  case refused => exact fun _ _ => remove_of_false
  case rounds =>
    intro n
    obtain ⟨order, called, horder, hsorted, hcalls, hround⟩ := hfollows.exists_order n
    refine ⟨order, called, horder, hsorted, hcalls, fun ctx b hhooks => ?_⟩
    rw [Broker.notify, hhooks, hround, List.foldl_map]

end HookTable

end MessageBroker
