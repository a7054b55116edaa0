/-
# Recipients that make no difference to the others

All recipients of a message go through the same limiter, one after the other, and each check
finds it as the checks before have left it. Still, a recipient that is not given a copy makes
no difference to the others: had it not subscribed at all, each of them would have met with the
same fate, in the same order, and the outbound counters of the destination and of each of them
would count the same.

That is said of two fan-outs of one message at one time, one from a broker as it is and one
without the subscriptions of the recipient. A fan-out runs its course on the limiter alone, as
long as calls back stay with the client that they are for; without that a handler that hears of
a refusal could disconnect anybody. The two courses go side by side on limiters that agree but
for the recipient, by what a refused check leaves behind.
-/

import MessageBroker.Proofs.Broker.Discretion
import MessageBroker.Proofs.Throttle.Rolling

open Std

namespace MessageBroker

theorem Fate.notice_eq_iff {m : Message} {c c' : ClientId} {fate fate' : Fate} :
    fate'.notice m c' = fate.notice m c ↔ c' = c ∧ fate' = fate := by
  cases fate <;> cases fate' <;> simp [notice]

/-- The fate of a message for a recipient that is given a copy. -/
def Fate.ofAnswer : Answer → Fate
  | .ok _ => .delivered
  | .error _ => .failed

section Leaves

variable {l l' : Limiter} {now : Timestamp} {apart : ClientId}

theorem HookTable.exists_leaves_eq (hooks : HookTable) (n : Notice) (c : ClientId)
    (l : Limiter) : ∃ gone : List ClientId, (hooks.IsSilent → gone = []) ∧
      hooks.leaves n c l = gone.foldl Limiter.removeClient l := by
  cases hcalls : hooks.callsBack n with
  | false => exact ⟨[], fun _ => rfl, if_neg (Bool.eq_false_iff.mp hcalls)⟩
  | true =>
    refine ⟨[c], fun hsilent => ?_, if_pos hcalls⟩
    rw [hsilent.callsBack n] at hcalls
    cases hcalls

/-- Limiters that agree do so after the same is called back for. -/
theorem Limiter.SameFrom.leaves (h : l.SameFrom .outbound now apart l')
    (hooks : HookTable) (n : Notice) (c : ClientId) :
    (hooks.leaves n c l).SameFrom .outbound now apart (hooks.leaves n c l') := by
  rw [HookTable.leaves, HookTable.leaves]
  split
  · exact h.removeClient c
  · exact h

/-- What is called back for on account of the client apart makes no difference. -/
theorem Limiter.SameFrom.leaves_apart (h : l.SameFrom .outbound now apart l')
    (hooks : HookTable) (n : Notice) :
    l.SameFrom .outbound now apart (hooks.leaves n apart l') := by
  rw [HookTable.leaves]
  split
  · exact h.symm.removeClient_apart.symm
  · exact h

end Leaves

namespace Broker

variable {env : Environment} {d d' : Destination} {m : Message} {hooks : HookTable}
  {l l' : Limiter} {n : Notice} {c apart : ClientId} {fate : Fate} {gone : List ClientId}
  {recipient : ClientId × Option Nat} {requested : Option Nat}

/-- What becomes of a message for one recipient, and of the limiter when handlers were told of
a copy that is not handed over. -/
def meet (env : Environment) (d : Destination) (m : Message) (hooks : HookTable) (l : Limiter)
    (recipient : ClientId × Option Nat) : Recipient × Limiter :=
  let (c, requested) := recipient
  let now := env.now
  if isExpired d m now then
    (⟨c, requested, .expired⟩, hooks.leaves (Fate.expired.notice m c) c l)
  else
    let (l, verdict) := l.check .outbound c requested now
    if verdict.isAllowed then (⟨c, requested, .ofAnswer (env.deliver c m)⟩, l)
    else (⟨c, requested, .throttled⟩, hooks.leaves (Fate.throttled.notice m c) c l)

/-- What becomes of a message for its recipients, one after the other, and of the limiter. -/
def course (env : Environment) (d : Destination) (m : Message) (hooks : HookTable) :
    Limiter → List (ClientId × Option Nat) → List Recipient × Limiter
  | l, [] => ([], l)
  | l, recipient :: rest =>
    let met := meet env d m hooks l recipient
    let others := course env d m hooks met.2 rest
    (met.1 :: others.1, others.2)

/-- What is left of a limiter when handlers were told what became of copies. -/
def afterwards (hooks : HookTable) (m : Message) (rs : List Recipient) (l : Limiter) : Limiter :=
  rs.foldl (fun l r => hooks.leaves (r.fate.notice m r.client) r.client l) l

theorem meet_of_expired (h : isExpired d m env.now = true) :
    meet env d m hooks l (c, requested) =
      (⟨c, requested, .expired⟩, hooks.leaves (Fate.expired.notice m c) c l) :=
  if_pos h

theorem meet_of_allowed (hfresh : isExpired d m env.now = false)
    (h : (l.check .outbound c requested env.now).2.isAllowed = true) :
    meet env d m hooks l (c, requested) =
      (⟨c, requested, .ofAnswer (env.deliver c m)⟩,
        (l.check .outbound c requested env.now).1) :=
  (if_neg (Bool.eq_false_iff.mp hfresh)).trans (if_pos h)

theorem meet_of_refused (hfresh : isExpired d m env.now = false)
    (h : (l.check .outbound c requested env.now).2.isAllowed = false) :
    meet env d m hooks l (c, requested) =
      (⟨c, requested, .throttled⟩, hooks.leaves (Fate.throttled.notice m c) c
        (l.check .outbound c requested env.now).1) :=
  (if_neg (Bool.eq_false_iff.mp hfresh)).trans (if_neg (Bool.eq_false_iff.mp h))

/-- The ways in which a recipient is met. -/
theorem meet_cases (env : Environment) (d : Destination) (m : Message) (l : Limiter)
    (c : ClientId) (requested : Option Nat) :
    isExpired d m env.now = true ∨ isExpired d m env.now = false ∧
      ((l.check .outbound c requested env.now).2.isAllowed = true ∨
        (l.check .outbound c requested env.now).2.isAllowed = false) := by
  cases isExpired d m env.now <;> cases (l.check .outbound c requested env.now).2.isAllowed <;> simp

theorem meet_congr (h : d'.settings = d.settings) : meet env d' m hooks = meet env d m hooks := by
  funext l recipient
  rw [meet, meet, isExpired_congr h]

theorem course_congr (h : d'.settings = d.settings) :
    course env d' m hooks = course env d m hooks := by
  funext l recipients
  induction recipients generalizing l with
  | nil => rfl
  | cons recipient recipients ih => rw [course, course, meet_congr h, ih]

theorem client_meet (recipient : ClientId × Option Nat) :
    ((meet env d m hooks l recipient).1.client, (meet env d m hooks l recipient).1.requested) =
      recipient := by
  obtain ⟨c, requested⟩ := recipient
  rcases meet_cases env d m l c requested with h | ⟨hfresh, h | h⟩
  · rw [meet_of_expired h]
  · rw [meet_of_allowed hfresh h]
  · rw [meet_of_refused hfresh h]

theorem map_course (l : Limiter) (recipients : List (ClientId × Option Nat)) :
    (course env d m hooks l recipients).1.map (fun r => (r.client, r.requested)) = recipients := by
  induction recipients generalizing l with
  | nil => rfl
  | cons recipient recipients ih =>
    exact congr (congrArg List.cons (client_meet recipient)) (ih _)

/-! ## The course is one of the fates -/

theorem exists_meets (env : Environment) (d : Destination) (m : Message) (hooks : HookTable)
    (l : Limiter) (recipient : ClientId × Option Nat) :
    ∃ gone, (hooks.IsSilent → gone = []) ∧
      Meets env d m gone l (meet env d m hooks l recipient).1.client
        (meet env d m hooks l recipient).1.requested (meet env d m hooks l recipient).1.fate
        (meet env d m hooks l recipient).2 := by
  obtain ⟨c, requested⟩ := recipient
  rcases meet_cases env d m l c requested with h | ⟨hfresh, h | h⟩
  · rw [meet_of_expired h]
    obtain ⟨gone, hgone, hleaves⟩ := hooks.exists_leaves_eq (Fate.expired.notice m c) c l
    rw [hleaves]
    exact ⟨gone, hgone, .expired h⟩
  · rw [meet_of_allowed hfresh h]
    refine ⟨[], fun _ => rfl, ?_⟩
    cases hanswer : env.deliver c m with
    | ok _ => exact .delivered hfresh h rfl hanswer
    | error fault => exact .failed hfresh h rfl hanswer
  · rw [meet_of_refused hfresh h]
    obtain ⟨gone, hgone, hleaves⟩ := hooks.exists_leaves_eq (Fate.throttled.notice m c) c
      (l.check .outbound c requested env.now).1
    rw [hleaves]
    exact ⟨gone, hgone, .throttled hfresh h⟩

theorem exists_fates (env : Environment) (d : Destination) (m : Message) (hooks : HookTable)
    (l : Limiter) (recipients : List (ClientId × Option Nat)) :
    ∃ gone, (hooks.IsSilent → gone = []) ∧
      Fates env d m gone l (course env d m hooks l recipients).1 := by
  induction recipients generalizing l with
  | nil => exact ⟨[], fun _ => rfl, .nil⟩
  | cons recipient recipients ih =>
    obtain ⟨gone, hgone, hmeets⟩ := exists_meets env d m hooks l recipient
    obtain ⟨gone', hgone', hfates⟩ := ih (meet env d m hooks l recipient).2
    refine ⟨gone ++ gone', fun hsilent => ?_, .cons hmeets hfates⟩
    rw [hgone hsilent, hgone' hsilent, List.append_nil]

/-- The fate of a message for a recipient is that of the course, whatever the limiter
forgets. -/
theorem fate_meet (h : Meets env d m gone l c requested fate l') (hooks : HookTable) :
    (meet env d m hooks l (c, requested)).1 = ⟨c, requested, fate⟩ := by
  cases h with
  | expired h => rw [meet_of_expired h]
  | throttled hfresh h => rw [meet_of_refused hfresh h]
  | delivered hfresh h _ hanswer =>
    rw [meet_of_allowed hfresh h, hanswer]
    rfl
  | failed hfresh h _ hanswer =>
    rw [meet_of_allowed hfresh h, hanswer]
    rfl

/-! ## Two courses side by side -/

/-- A recipient that is not given a copy leaves a limiter that agrees with the one before. -/
theorem sameFrom_meet_of_kept
    (h : (meet env d m hooks l (apart, requested)).1.fate.isHanded = false) :
    l.SameFrom .outbound env.now apart (meet env d m hooks l (apart, requested)).2 := by
  rcases meet_cases env d m l apart requested with hage | ⟨hfresh, hpass | hrefused⟩
  · rw [meet_of_expired hage]
    exact (Limiter.SameFrom.refl l).leaves_apart hooks _
  · rw [meet_of_allowed hfresh hpass] at h
    cases hanswer : env.deliver apart m <;> rw [hanswer] at h <;> cases h
  · rw [meet_of_refused hfresh hrefused]
    exact (Limiter.sameFrom_of_refused hrefused).leaves_apart hooks _

/-- Any other recipient is met in the same way where limiters agree, and they agree
afterwards. -/
theorem meet_of_sameFrom (d : Destination) (m : Message) (hooks : HookTable)
    (h : l.SameFrom .outbound env.now apart l') (hc : recipient.1 ≠ apart) :
    (meet env d m hooks l' recipient).1 = (meet env d m hooks l recipient).1 ∧
      (meet env d m hooks l recipient).2.SameFrom .outbound env.now apart
        (meet env d m hooks l' recipient).2 := by
  obtain ⟨c, requested⟩ := recipient
  have hanswer := h.isAllowed_eq hc requested
  rcases meet_cases env d m l c requested with hage | ⟨hfresh, hpass | hrefused⟩
  · rw [meet_of_expired hage, meet_of_expired hage]
    exact ⟨rfl, h.leaves hooks _ c⟩
  · rw [meet_of_allowed hfresh hpass, meet_of_allowed hfresh (hanswer.trans hpass)]
    exact ⟨rfl, h.check hc requested⟩
  · rw [meet_of_refused hfresh hrefused, meet_of_refused hfresh (hanswer.trans hrefused)]
    exact ⟨rfl, (h.check hc requested).leaves hooks _ c⟩

/-- Without a client that is not given a copy, the course goes the same for the others. -/
theorem course_filter (h : l.SameFrom .outbound env.now apart l')
    (recipients : List (ClientId × Option Nat))
    (hkept : ∀ r ∈ (course env d m hooks l recipients).1, r.client = apart →
      r.fate.isHanded = false) :
    (course env d m hooks l' (recipients.filter (·.1 ≠ apart))).1 =
        (course env d m hooks l recipients).1.filter (·.client ≠ apart) ∧
      (course env d m hooks l recipients).2.SameFrom .outbound env.now apart
        (course env d m hooks l' (recipients.filter (·.1 ≠ apart))).2 := by
  induction recipients generalizing l l' with
  | nil => exact ⟨rfl, h⟩
  | cons recipient recipients ih =>
    have hclient : (meet env d m hooks l recipient).1.client = recipient.1 :=
      congrArg Prod.fst (client_meet recipient)
    have hrest : ∀ r ∈ (course env d m hooks (meet env d m hooks l recipient).2 recipients).1,
        r.client = apart → r.fate.isHanded = false :=
      fun r hr => hkept r (List.mem_cons_of_mem _ hr)
    by_cases hc : recipient.1 = apart
    -- Only the first course meets the client apart, and its limiter stays as good as it was.
    · have hfirst := hkept (meet env d m hooks l recipient).1 List.mem_cons_self
        (hclient.trans hc)
      obtain ⟨c, requested⟩ := recipient
      obtain rfl : c = apart := hc
      have hsame := (sameFrom_meet_of_kept hfirst).symm.trans h
      obtain ⟨hfates, hagree⟩ := ih hsame hrest
      rw [List.filter_cons_of_neg (by simp), course,
        List.filter_cons_of_neg (by simpa using hclient)]
      exact ⟨hfates, hagree⟩
    · obtain ⟨hfate, hsame⟩ := meet_of_sameFrom d m hooks h hc
      obtain ⟨hfates, hagree⟩ := ih hsame hrest
      rw [List.filter_cons_of_pos (by simpa using hc), course, course,
        List.filter_cons_of_pos (by simpa [hclient] using hc)]
      exact ⟨congr (congrArg List.cons hfate) hfates, hagree⟩

theorem sameFrom_afterwards {now : Timestamp} (h : l.SameFrom .outbound now apart l')
    (hooks : HookTable) (m : Message) (rs : List Recipient) :
    (afterwards hooks m rs l).SameFrom .outbound now apart (afterwards hooks m rs l') := by
  induction rs generalizing l l' with
  | nil => exact h
  | cons r rs ih => exact ih (h.leaves hooks _ r.client)

/-! ## A fan-out runs the course -/

section Running

variable {b b' b₀ : Broker} {id : DestinationId} {settings : DestinationSettings}
  {strays : Strays} {ts : List Subtopic} {only : Option ClientId}

/-- A fan-out is under way: its scene is set, and calls back do no more than they are for. -/
structure Underway (env : Environment) (id : DestinationId) (settings : DestinationSettings)
    (hooks : HookTable) (l : Limiter) (b : Broker) : Prop where
  scene : Scene id settings hooks l b
  callers : HasDiscreetCallers env b

namespace Underway

theorem onTotals (h : Underway env id settings hooks l b) (id' : DestinationId)
    {change : Totals → Totals} (hchange : ∀ t, (change t).subscriptions = t.subscriptions) :
    Underway env id settings hooks l (b.onTotals id' change) :=
  ⟨h.scene.onTotals change id', h.callers.of_books_eq (books_onTotals_of_subscriptions hchange) rfl⟩

theorem onLimiter (h : Underway env id settings hooks l b) (change : Limiter → Limiter) :
    Underway env id settings hooks (change l) (b.onLimiter id change) :=
  ⟨h.scene.onLimiter change,
    h.callers.of_books_eq (books_limiter id (fun d => change d.limiter) b) rfl⟩

theorem touch (h : Underway env id settings hooks l b) (c : ClientId) (now : Timestamp) :
    Underway env id settings hooks l (b.touch c now) :=
  ⟨h.scene.touch c now, h.callers.of_books_eq (books_touch c now b) hooks_onSession⟩

theorem record (h : Underway env id settings hooks l b) (e : Event) :
    Underway env id settings hooks l (b.record e) :=
  ⟨⟨h.scene.located, h.scene.hooks⟩, h.callers.of_books_eq rfl rfl⟩

/-- Handlers are told of a fate. -/
theorem report (h : Underway env id settings hooks l b) (b₀ : Broker) (fate : Fate)
    (m : Message) (c : ClientId) :
    Underway env id settings hooks (hooks.leaves (fate.notice m c) c l)
      (notify (b₀.context env) (fate.notice m c) b) := by
  have hclient : (fate.notice m c).client? = some c := by cases fate <;> rfl
  have hnumber : (fate.notice m c).subscription? = none := by cases fate <;> rfl
  exact ⟨h.scene.notify_of_hasDiscreetCallers h.callers b₀ hclient hnumber,
    h.callers.notify b₀ hclient hnumber⟩

theorem journals {kind : Event → Prop} (h : Underway env id settings hooks l b)
    (hjournals : Journals kind b b') : Underway env id settings hooks l b' := by
  obtain ⟨entries, -, rfl⟩ := hjournals
  exact ⟨⟨h.scene.located, h.scene.hooks⟩, h.callers.of_books_eq rfl rfl⟩

end Underway

/-- Screening one recipient runs one step of the course. -/
theorem screen_runs {w : Screening} (h : Underway env id d.settings hooks l w.broker)
    (b₀ : Broker) (m : Message) (recipient : ClientId × Option Nat) :
    Screened m [(meet env d m hooks l recipient).1] w (screen (b₀.context env) id m w recipient) ∧
      Underway env id d.settings hooks (meet env d m hooks l recipient).2
        (screen (b₀.context env) id m w recipient).broker := by
  obtain ⟨c, requested⟩ := recipient
  obtain ⟨gone, fate, l', -, hmeets, -, hscreened⟩ :=
    screen_spec (aside_context env b₀) h.scene m c requested
  rw [← fate_meet hmeets hooks] at hscreened
  refine ⟨hscreened, ?_⟩
  obtain ⟨d', hd', hsettings, rfl⟩ := h.scene.located
  have hage : isExpired d' m (b₀.context env).env.now = isExpired d m env.now :=
    isExpired_congr hsettings m env.now
  have hchecked := h.onLimiter fun _ => (d'.limiter.check .outbound c requested env.now).1
  rcases meet_cases env d m d'.limiter c requested with hlate | ⟨hfresh, hpass | hrefused⟩
  · rw [meet_of_expired hlate, screen_of_expired hd' (hage.trans hlate)]
    exact (h.onTotals id (by exact fun _ => rfl)).report b₀ .expired m c
  · rw [meet_of_allowed hfresh hpass, screen_of_allowed hd' (hage.trans hfresh) hpass]
    exact hchecked
  · rw [meet_of_refused hfresh hrefused, screen_of_refused hd' (hage.trans hfresh) hrefused]
    exact (hchecked.onTotals id (by exact fun _ => rfl)).report b₀ .throttled m c

/-- Screening all recipients runs the course. -/
theorem foldl_screen_runs {w : Screening} (h : Underway env id d.settings hooks l w.broker)
    (b₀ : Broker) (m : Message) (recipients : List (ClientId × Option Nat)) :
    Screened m (course env d m hooks l recipients).1 w
        (recipients.foldl (screen (b₀.context env) id m) w) ∧
      Underway env id d.settings hooks (course env d m hooks l recipients).2
        (recipients.foldl (screen (b₀.context env) id m) w).broker := by
  induction recipients generalizing w l with
  | nil => exact ⟨⟨(List.append_nil _).symm, (List.append_nil _).symm, rfl, rfl⟩, h⟩
  | cons recipient recipients ih =>
    obtain ⟨hscreened, hnext⟩ := screen_runs h b₀ m recipient
    obtain ⟨hscreened', hlast⟩ := ih hnext
    exact ⟨hscreened.trans hscreened', hlast⟩

theorem settle_runs {w : Handover} (h : Underway env id settings hooks l w.broker) (b₀ : Broker)
    {r : Recipient} (hanswered : Answered env m r) :
    Underway env id settings hooks (hooks.leaves (r.fate.notice m r.client) r.client l)
      (settle (b₀.context env) id m w r.client).broker := by
  obtain ⟨c, requested, fate⟩ := r
  rcases hanswered with ⟨rfl, hanswer⟩ | ⟨rfl, fault, hanswer⟩
  · have hanswer' : (b₀.context env).env.deliver c m = .ok () := hanswer
    rw [settle]
    rw [hanswer']
    exact ((h.onTotals id (by exact fun _ => rfl)).touch c env.now).report b₀ .delivered m c
  · have hanswer' : (b₀.context env).env.deliver c m = .error fault := hanswer
    rw [settle]
    rw [hanswer']
    exact ((h.onTotals id (by exact fun _ => rfl)).record _).report b₀ .failed m c

theorem foldl_settle_runs {w : Handover} (h : Underway env id settings hooks l w.broker)
    (b₀ : Broker) {rs : List Recipient} (hanswered : ∀ r ∈ rs, Answered env m r) :
    Underway env id settings hooks (afterwards hooks m rs l)
      ((rs.map (·.client)).foldl (settle (b₀.context env) id m) w).broker := by
  induction rs generalizing w l with
  | nil => exact h
  | cons r rs ih =>
    exact ih (settle_runs h b₀ (hanswered r List.mem_cons_self)) fun other hother =>
      hanswered other (List.mem_cons_of_mem _ hother)

theorem foldl_delivery_runs (h : Underway env id settings hooks l b) (targets : List ClientId)
    (m : Message) :
    Underway env id settings hooks l
      (targets.foldl (fun b c => b.record (.delivery c m)) b) := by
  induction targets generalizing b with
  | nil => exact h
  | cons c targets ih => exact ih (h.record (.delivery c m))

theorem tellMessage_runs (h : Underway env id settings hooks l b) (id' : DestinationId)
    (targets : Targets) (m : Message) :
    Underway env id settings hooks l (tellMessage env id' targets m b).1 := by
  rw [tellMessage]
  split
  · exact h
  · have htold := h.record (.forward targets m)
    dsimp only
    split
    · dsimp only
      exact htold.onTotals id' (by exact fun _ => rfl)
    · exact htold.record _

/-- Handing a message to the cluster leaves the limiter alone. -/
theorem forward_runs (h : Underway env id settings hooks l b) (id' : DestinationId) (m : Message)
    (ts : List Subtopic) : Underway env id settings hooks l (forward env id' m ts b).1 := by
  rw [forward]
  split
  · exact h
  next d _ =>
    split
    · exact h
    · exact tellMessage_runs h id' .all m
    · have hpeers := h.journals (lookups_matchingPeers env d ts (contentOf m) b)
      dsimp only
      split
      · exact hpeers
      · exact tellMessage_runs hpeers id' _ m

/-- A fan-out that is under way gives every recipient the fate of the course, and leaves the
limiter of the course as handlers have left it in the end. The destination may have been located
before, as long as its limiter is the only thing that has changed since. -/
theorem fanout_runs_of_underway (haccounted : b₀.books.Accounted strays)
    (hd : b₀.destination? d.id = some d) (hts : d.parseMessageSubtopics m.subtopics = .ok ts)
    (hbegun : Underway env d.id d.settings hooks l b) (only : Option ClientId) (propagate : Bool) :
    let out := course env d m hooks l (recipientsFor env d m ts only b).toList
    FansOut env d m only hooks l b (fanout (b₀.context env) d m ts only propagate b).1
        (fanout (b₀.context env) d m ts only propagate b).2 out.1 ∧
      Underway env d.id d.settings hooks (afterwards hooks m (Recipient.handed out.1) out.2)
        (fanout (b₀.context env) d m ts only propagate b).1 := by
  intro out
  have hctx := aside_context env b₀
  have hmatched := hbegun.journals (lookups_matchingSubscriptions env d ts (contentOf m) b)
  obtain ⟨hscreened, hunderway⟩ : Screened m out.1
        ⟨(matchingSubscriptions env d ts (contentOf m) b).1, [], 0, 0⟩
        (screenAll (b₀.context env) d m ts only b) ∧
      Underway env d.id d.settings hooks out.2
        (screenAll (b₀.context env) d m ts only b).broker :=
    foldl_screen_runs hmatched b₀ m (recipientsFor env d m ts only b).toList
  obtain ⟨gone, hgone, hfates⟩ : ∃ gone, (hooks.IsSilent → gone = []) ∧
      Fates env d m gone l out.1 :=
    exists_fates env d m hooks l _
  have hrecipients : out.1.map (fun r => (r.client, r.requested)) =
      (recipientsFor env d m ts only b).toList := map_course l _
  generalize out = out at hscreened hunderway hfates hrecipients ⊢
  have hdelivered := deliverLocal_of_screened hctx hrecipients hfates.answered hscreened
  have hsettled : Underway env d.id d.settings hooks
      (afterwards hooks m (Recipient.handed out.1) out.2)
      (deliverLocal (b₀.context env) d m ts only b).1 := by
    rw [deliverLocal_eq, settleAll, hscreened.targets]
    generalize screenAll (b₀.context env) d m ts only b = w at hunderway ⊢
    exact foldl_settle_runs (foldl_delivery_runs hunderway _ m) b₀ hfates.answered
  refine ⟨fansOut_of_deliverLocal (b₀.context env) haccounted hd hts ⟨gone, hgone, hfates⟩
    hrecipients hdelivered propagate, ?_⟩
  cases propagate with
  | false => exact hsettled
  | true =>
    rw [fanout_of_deliverLocal Prod.mk.eta.symm]
    generalize (deliverLocal (b₀.context env) d m ts only b).1 = b' at hsettled ⊢
    exact forward_runs hsettled d.id m ts

/-- What becomes of a message for the recipients that are found for it. -/
def fortunes (env : Environment) (d : Destination) (m : Message) (ts : List Subtopic)
    (only : Option ClientId) (b : Broker) : List Recipient × Limiter :=
  course env d m b.hooks d.limiter (recipientsFor env d m ts only b).toList

/-- A fan-out gives every recipient the fate of the course, and leaves the limiter of the
course as handlers have left it in the end. -/
theorem fanout_runs (hb : HasDiscreetCallers env b) (hd : b.destination? d.id = some d)
    (hts : d.parseMessageSubtopics m.subtopics = .ok ts) (only : Option ClientId)
    (propagate : Bool) :
    FansOut env d m only b.hooks d.limiter b
        (fanout (b.context env) d m ts only propagate b).1
        (fanout (b.context env) d m ts only propagate b).2 (fortunes env d m ts only b).1 ∧
      Underway env d.id d.settings b.hooks
        (afterwards b.hooks m (Recipient.handed (fortunes env d m ts only b).1)
          (fortunes env d m ts only b).2)
        (fanout (b.context env) d m ts only propagate b).1 := by
  obtain ⟨strays, haccounted⟩ := hb.accounted
  exact fanout_runs_of_underway haccounted hd hts ⟨scene_of_destination? hd, hb⟩ only propagate

end Running

/-! ## One account of a fan-out -/

section Account

variable {b b' : Broker} {ts : List Subtopic} {only : Option ClientId} {result : RouteResult}
  {rs rs' : List Recipient} {r : Recipient}

theorem mem_deliveries_iff : .report (r.fate.notice m r.client) ∈ deliveries m rs ↔
    ∃ r' ∈ rs, r'.client = r.client ∧ r'.fate = r.fate := by
  have hreports {rs : List Recipient} :
      .report (r.fate.notice m r.client) ∈ Recipient.reports m rs ↔
        ∃ r' ∈ rs, r'.client = r.client ∧ r'.fate = r.fate := by
    simp only [Recipient.reports, List.mem_map, Traffic.report.injEq, Fate.notice_eq_iff]
  have hcopies : Traffic.report (r.fate.notice m r.client) ∉
      Recipient.copies m (Recipient.handed rs) := by
    intro hmem
    obtain ⟨r', -, heq⟩ := List.mem_map.mp hmem
    cases heq
  rw [deliveries, List.mem_append, List.mem_append, or_iff_left hcopies, hreports, hreports]
  constructor
  · rintro (⟨r', hr', heq⟩ | ⟨r', hr', heq⟩)
    · exact ⟨r', (List.mem_filter.mp hr').1, heq⟩
    · exact ⟨r', (List.mem_filter.mp hr').1, heq⟩
  · rintro ⟨r', hr', heq⟩
    cases hhanded : r'.fate.isHanded with
    | false => exact .inl ⟨r', List.mem_filter.mpr ⟨hr', by rw [hhanded]; rfl⟩, heq⟩
    | true => exact .inr ⟨r', List.mem_filter.mpr ⟨hr', hhanded⟩, heq⟩

/-- What was done about a message tells who its recipients were and what became of it for
them. -/
theorem FansOut.unique (h : FansOut env d m only hooks l b b' result rs)
    (h' : FansOut env d m only hooks l b b' result rs') : rs = rs' := by
  have hmem {rs rs' : List Recipient} (h : FansOut env d m only hooks l b b' result rs)
      (h' : FansOut env d m only hooks l b b' result rs') : ∀ r ∈ rs, r ∈ rs' := by
    intro r hr
    obtain ⟨forwarded, -, htraffic⟩ := h.traffic
    obtain ⟨forwarded', hforwarding, htraffic'⟩ := h'.traffic
    have hsame : deliveries m rs ++ forwarded = deliveries m rs' ++ forwarded' := by
      rw [htraffic, List.append_assoc, List.append_assoc] at htraffic'
      exact List.append_cancel_left htraffic'
    have hreport : Traffic.report (r.fate.notice m r.client) ∈ deliveries m rs' ++ forwarded' :=
      hsame ▸ List.mem_append_left _ (mem_deliveries_iff.mpr ⟨r, hr, rfl, rfl⟩)
    -- What is forwarded are no reports, so the two accounts share these.
    have hnot : Traffic.report (r.fate.notice m r.client) ∉ forwarded' := by
      rcases hforwarding with rfl | ⟨targets, rfl⟩ <;> simp
    obtain ⟨r', hr', hclient, hfate⟩ :=
      mem_deliveries_iff.mp ((List.mem_append.mp hreport).resolve_right hnot)
    have hlimit := h'.requested r' hr'
    rw [hclient] at hlimit
    have hrequested : r'.requested = r.requested := hlimit.eq (h.requested r hr)
    obtain rfl : r' = r := by
      cases r
      cases r'
      cases hclient
      cases hfate
      cases hrequested
      rfl
    exact hr'
  have hascends {rs : List Recipient} (h : FansOut env d m only hooks l b b' result rs) :
      rs.Pairwise fun r r' => r.client < r'.client := List.pairwise_map.mp h.ascending
  exact eq_of_ascending Recipient.client (hascends h) (hascends h') fun r =>
    ⟨hmem h h' r, hmem h' h r⟩

end Account

/-! ## Without the subscriptions of a recipient -/

section Without

variable {b b' b₁ : Broker} {id : DestinationId} {d₁ : Destination} {strays : Strays}
  {ts : List Subtopic} {only : Option ClientId} {result : RouteResult} {rs : List Recipient}
  {r : Recipient} {s : Subscription}

/-- A broker without the subscriptions that a client had at a destination. For the others
nothing has changed. -/
structure Relieved (id : DestinationId) (c : ClientId) (b b' : Broker) : Prop where
  confined : Confined c b b'
  gone : ∀ n s, b'.registered? id n = some s → s.client ≠ c
  accounted : ∃ strays, b'.books.Accounted strays

theorem relieved_takeOut (hb : b.books.Accounted strays) (c : ClientId) (id : DestinationId) :
    Relieved id c b (takeOut id (·.removeClient c) b).1 where
  confined := confined_takeOut hb c id
  gone n s hs := by
    have hkept := (carries_takeOut (fun _ h => h.thins_removeClient c) id b strays hb).1
    have hheld := holds_of_registered? hkept hs
    obtain ⟨d, hd, hget⟩ := destination?_of_holds_takeOut hheld
    exact Registry.client_ne_of_get?_removeClient (inOrder_of_destination? hb hd).1 hget
  accounted := ⟨_, (carries_takeOut (fun _ h => h.thins_removeClient c) id b strays hb).1⟩

/-- It is the same when the client unsubscribes there, and everybody is told. -/
theorem relieved_unsubscribeAt (hb : b.books.Accounted strays) (hwithdraws : b.Withdraws)
    (hlocal : b.hooks.IsLocal) (hpeers : env.AcceptsRemovals) (c : ClientId)
    (reason : UnsubscribeReason) (id : DestinationId) :
    Relieved id c b (unsubscribeAt (b.context env) c reason id b).1 where
  confined := confined_unsubscribeAt (isLocal_context hpeers b) ⟨hb, hlocal, hwithdraws⟩ c reason id
  gone n s hs := by
    have hkept := (keeps_unsubscribeAt (keeps_context env b) c reason id b strays hb).1
    exact client_ne_of_unsubscribeAt (keeps_context env b) c reason id hb
      (holds_of_registered? hkept hs)
  accounted := ⟨_, (keeps_unsubscribeAt (keeps_context env b) c reason id b strays hb).1⟩

theorem Relieved.hasDiscreetCallers (h : Relieved id c b b₁) (hb : HasDiscreetCallers env b) :
    HasDiscreetCallers env b₁ :=
  ⟨h.accounted, hb.withdraws.confined h.confined, h.confined.hooks ▸ hb.discreet⟩

theorem Relieved.confined_destination (h : Relieved id c b b₁) (hd : b.destination? id = some d)
    (hd₁ : b₁.destination? id = some d₁) : d.Confined c d₁ := by
  obtain ⟨d', hd', hconfined⟩ := h.confined.destinations.exists_destination? hd
  exact Option.some.inj (hd'.symm.trans hd₁) ▸ hconfined

theorem Relieved.parseMessageSubtopics_eq (h : Relieved id c b b₁)
    (hd : b.destination? id = some d) (hd₁ : b₁.destination? id = some d₁)
    (subtopics : List String) :
    d₁.parseMessageSubtopics subtopics = d.parseMessageSubtopics subtopics := by
  rw [Destination.parseMessageSubtopics, Destination.parseMessageSubtopics,
    (h.confined_destination hd hd₁).settings, (mem_of_destination? hd).2,
    (mem_of_destination? hd₁).2]

/-- The limiter is as it was, or without the counters of the client. -/
theorem Relieved.sameFrom (h : Relieved id c b b₁) (hd : b.destination? id = some d)
    (hd₁ : b₁.destination? id = some d₁) (now : Timestamp) :
    d.limiter.SameFrom .outbound now c d₁.limiter := by
  rcases (h.confined_destination hd hd₁).limiter with hsame | hforgot
  · rw [hsame]
    exact .refl _
  · rw [hforgot]
    exact (Limiter.SameFrom.refl d.limiter).removeClient_apart.symm

/-- The message is for the subscriptions of the others that it was for. -/
theorem Relieved.matches_iff (h : Relieved id c b b₁) (hd : b.destination? id = some d)
    (hd₁ : b₁.destination? id = some d₁) :
    d₁.Matches env m s ↔ d.Matches env m s ∧ s.client ≠ c := by
  have hconfined := h.confined_destination hd hd₁
  rw [Destination.Matches, Destination.Matches, hconfined.settings]
  constructor
  · rintro ⟨hget, htakes⟩
    have hother : s.client ≠ c := h.gone s.id s (Option.bind_eq_some_iff.mpr ⟨d₁, hd₁, hget⟩)
    exact ⟨⟨(hconfined.others s.id s hother).mp hget, htakes⟩, hother⟩
  · rintro ⟨⟨hget, htakes⟩, hother⟩
    exact ⟨(hconfined.others s.id s hother).mpr hget, htakes⟩

/-- The recipients are the others, with the limits that they asked for. -/
theorem Relieved.recipientsFor_eq (h : Relieved id c b b₁) (hb : b.books.Accounted strays)
    (hd : b.destination? id = some d) (hd₁ : b₁.destination? id = some d₁)
    (hts : d.parseMessageSubtopics m.subtopics = .ok ts)
    (hts₁ : d₁.parseMessageSubtopics m.subtopics = .ok ts) (only : Option ClientId) :
    (recipientsFor env d₁ m ts only b₁).toList =
      (recipientsFor env d m ts only b).toList.filter (·.1 ≠ c) := by
  obtain ⟨strays₁, hb₁⟩ := h.accounted
  have hascends (d : Destination) (b : Broker) :
      (recipientsFor env d m ts only b).toList.Pairwise fun p q => p.1 < q.1 :=
    List.pairwise_map.mp (pairwise_recipientsOf _)
  apply eq_of_ascending Prod.fst (hascends d₁ b₁) ((hascends d b).filter _)
  rintro ⟨c', f⟩
  rw [List.mem_filter, mem_toList_recipientsFor_iff hb₁ hd₁ hts₁,
    mem_toList_recipientsFor_iff hb hd hts]
  simp only [h.matches_iff hd hd₁, decide_eq_true_eq]
  by_cases hc : c' = c
  · subst hc
    refine iff_of_false ?_ fun hboth => hboth.2 rfl
    rintro ⟨⟨-, s, ⟨-, hother⟩, hclient⟩, -⟩
    exact hother hclient
  · rw [and_iff_left hc]
    have hsame (s : Subscription) : ((d.Matches env m s ∧ s.client ≠ c) ∧ s.client = c') ↔
        d.Matches env m s ∧ s.client = c' :=
      ⟨fun hs => ⟨hs.1.1, hs.2⟩, fun hs => ⟨⟨hs.1, fun heq => hc (hs.2.symm.trans heq)⟩, hs.2⟩⟩
    simp only [hsame]

/-- The fan-out runs the course for the others. -/
theorem Relieved.fortunes_eq (h : Relieved id c b b₁) (hb : b.books.Accounted strays)
    (hd : b.destination? id = some d) (hd₁ : b₁.destination? id = some d₁)
    (hts : d.parseMessageSubtopics m.subtopics = .ok ts) (only : Option ClientId) :
    fortunes env d₁ m ts only b₁ = course env d m b.hooks d₁.limiter
      ((recipientsFor env d m ts only b).toList.filter (·.1 ≠ c)) := by
  have hts₁ := (h.parseMessageSubtopics_eq hd hd₁ m.subtopics).trans hts
  rw [fortunes, course_congr (h.confined_destination hd hd₁).settings, h.confined.hooks,
    h.recipientsFor_eq hb hd hd₁ hts hts₁]

theorem handed_filter {apart : ClientId}
    (hkept : ∀ r ∈ rs, r.client = apart → r.fate.isHanded = false) :
    Recipient.handed (rs.filter (·.client ≠ apart)) = Recipient.handed rs := by
  rw [Recipient.handed, Recipient.handed, List.filter_filter]
  apply List.filter_congr
  intro r hr
  by_cases hclient : r.client = apart
  · simp [hclient, hkept r hr hclient]
  · simp [hclient]

/-- The outbound counters of two limiters count the same at a time, and later on at every time
in reach of both, but for those of one client. A counter whose window has ended counts nothing. -/
structure CountAlike (now : Timestamp) (apart : ClientId) (l l' : Limiter) : Prop where
  destination : ∀ t, (l.destination.get .outbound).InReach now t →
    (l'.destination.get .outbound).InReach now t →
      (l'.destination.get .outbound).countAt l'.windowLength t =
        (l.destination.get .outbound).countAt l.windowLength t
  client : ∀ c, c ≠ apart → ∀ t, (l.windowOf c .outbound).InReach now t →
    (l'.windowOf c .outbound).InReach now t →
      (l'.windowOf c .outbound).countAt l'.windowLength t =
        (l.windowOf c .outbound).countAt l.windowLength t

theorem countAlike_of_sameFrom {now : Timestamp} (h : l.SameFrom .outbound now apart l') :
    CountAlike now apart l l' where
  destination t ht ht' := by
    rw [h.length_eq]
    exact h.destination.countAt_eq ht ht'
  client c hc t ht ht' := by
    rw [h.length_eq]
    exact (h.client c hc).countAt_eq ht ht'

/-- A recipient that is not given a copy of a message makes no difference to the others. If its
subscriptions at the destination are gone beforehand, every other recipient meets with the same
fate, in the same order, and the outbound counters of the destination and of all other clients
count the same in the end. Handlers that call back have to keep to the client that they are
told about. -/
theorem fanout_without (hb : b.IsReachable) (hdiscreet : Discreet env b.hooks)
    (hd : b.destination? id = some d) (hts : d.parseMessageSubtopics m.subtopics = .ok ts)
    (propagate : Bool)
    (hfans : FansOut env d m only b.hooks d.limiter b
      (fanout (b.context env) d m ts only propagate b).1
      (fanout (b.context env) d m ts only propagate b).2 rs)
    (hr : r ∈ rs) (hkept : r.fate = .throttled ∨ r.fate = .expired)
    (hrelieved : Relieved id r.client b b₁) (hd₁ : b₁.destination? id = some d₁) :
    FansOut env d₁ m only b₁.hooks d₁.limiter b₁
        (fanout (b₁.context env) d₁ m ts only propagate b₁).1
        (fanout (b₁.context env) d₁ m ts only propagate b₁).2
        (rs.filter (·.client ≠ r.client)) ∧
      ∃ d' d₁',
        (fanout (b.context env) d m ts only propagate b).1.destination? id = some d' ∧
        (fanout (b₁.context env) d₁ m ts only propagate b₁).1.destination? id = some d₁' ∧
        CountAlike env.now r.client d'.limiter d₁'.limiter := by
  obtain ⟨strays, haccounted⟩ := hb.accounted
  have hcallers : HasDiscreetCallers env b := ⟨⟨strays, haccounted⟩, hb.withdraws, hdiscreet⟩
  have hid := (mem_of_destination? hd).2
  have hid₁ := (mem_of_destination? hd₁).2
  have hts₁ := (hrelieved.parseMessageSubtopics_eq hd hd₁ m.subtopics).trans hts
  obtain ⟨hfans', hunderway⟩ := fanout_runs hcallers (hid.symm ▸ hd) hts only propagate
  obtain ⟨hfans₁, hunderway₁⟩ :=
    fanout_runs (hrelieved.hasDiscreetCallers hcallers) (hid₁.symm ▸ hd₁) hts₁ only propagate
  obtain rfl := hfans.unique hfans'
  have hothers : ∀ r' ∈ (fortunes env d m ts only b).1, r'.client = r.client →
      r'.fate.isHanded = false := by
    intro r' hr' hclient
    obtain rfl := List.inj_on_of_nodup_map (hfans.ascending.imp Std.ne_of_lt) hr' hr hclient
    rcases hkept with hfate | hfate <;> rw [hfate] <;> rfl
  have hcourse : fortunes env d₁ m ts only b₁ = _ :=
    hrelieved.fortunes_eq haccounted hd hd₁ hts only
  obtain ⟨hfates, hagree⟩ := course_filter (hrelieved.sameFrom hd hd₁ env.now)
    (recipientsFor env d m ts only b).toList hothers
  have hsame : (fortunes env d₁ m ts only b₁).1 =
      (fortunes env d m ts only b).1.filter (·.client ≠ r.client) := by
    rw [hcourse]
    exact hfates
  rw [hsame] at hfans₁ hunderway₁
  rw [handed_filter hothers, hcourse, hrelieved.confined.hooks] at hunderway₁
  obtain ⟨d', hd', -, hlimiter⟩ := hunderway.scene.located
  obtain ⟨d₁', hd₁', -, hlimiter₁⟩ := hunderway₁.scene.located
  refine ⟨hfans₁, d', d₁', hid ▸ hd', hid₁ ▸ hd₁', ?_⟩
  rw [hlimiter, hlimiter₁]
  exact countAlike_of_sameFrom (sameFrom_afterwards hagree b.hooks m _)

/-- The settings of a node that sends a client two messages a second and all clients three. -/
def tightSettings : Settings := Settings.standard.addDestination
  { DestinationSettings.standard "news" with throttle := ⟨⟨.none, 0, 0⟩, ⟨.ignore, 2, 3⟩⟩ }

/-- A handler disconnects the clients whose messages are dropped. -/
def strict : Handler := Script.handler "strict" true (some .disconnect)

/-- Two clients subscribe, one of them for one message a second, and there is one. -/
def pressing : List (Environment × Operation) := quietly
  [.start, .addHook .messageDropped 0 strict, .subscribe ⟨"news", "ann", none, none, some 1⟩,
    .subscribe ⟨"news", "bob", none, none, none⟩, .route note]

theorem fanout_without_news :
    ∃ (b b₁ : Broker) (d d₁ : Destination) (rs : List Recipient) (r : Recipient),
      b.IsReachable ∧ Discreet quiet b.hooks ∧ b.hooks.callsBack (r.fate.notice note r.client) ∧
      b.destination? "news" = some d ∧ d.parseMessageSubtopics note.subtopics = .ok [] ∧
      FansOut quiet d note none b.hooks d.limiter b
        (fanout (b.context quiet) d note [] none true b).1
        (fanout (b.context quiet) d note [] none true b).2 rs ∧
      rs.length = 2 ∧ r ∈ rs ∧ r.fate = .throttled ∧
      Relieved "news" r.client b b₁ ∧ b₁.destination? "news" = some d₁ ∧
      FansOut quiet d₁ note none b₁.hooks d₁.limiter b₁
        (fanout (b₁.context quiet) d₁ note [] none true b₁).1
        (fanout (b₁.context quiet) d₁ note [] none true b₁).2
        (rs.filter (·.client ≠ r.client)) ∧
      ∃ d' d₁', (fanout (b.context quiet) d note [] none true b).1.destination? "news" = some d' ∧
        (fanout (b₁.context quiet) d₁ note [] none true b₁).1.destination? "news" = some d₁' ∧
        CountAlike quiet.now r.client d'.limiter d₁'.limiter := by
  obtain ⟨b, d, hreachable, hd, hts, hhooks, hresult⟩ : ∃ (b : Broker) (d : Destination),
      b.IsReachable ∧ b.destination? "news" = some d ∧
      d.parseMessageSubtopics note.subtopics = .ok [] ∧
      b.hooks.registrations = [⟨.messageDropped, 0, 0, strict⟩] ∧
      (fanout (b.context quiet) d note [] none true b).2 = ⟨.delivered, 2, 1, 1, 0, 0, false⟩ := by
    have hbuilt : IsBuilt _ := ⟨tightSettings, _, ⟨true, false, [], []⟩, rfl, rfl⟩
    refine ⟨_, _, ⟨_, hbuilt, pressing, rfl⟩, rfl, rfl, ?_, ?_⟩
    · rfl
    · rfl
  have hlocal : b.hooks.IsLocal := by
    apply HookTable.isLocal_of_registrations
    intro registration hregistration n callback hcallback
    rw [hhooks, List.mem_singleton] at hregistration
    subst hregistration
    change strict.callback n = some callback at hcallback
    rw [strict] at hcallback
    exact Script.concerns_of_callback hcallback
  have hdiscreet : Discreet quiet b.hooks :=
    .inr ⟨hlocal, Script.acceptsRemovals_environment _ _⟩
  obtain ⟨rs, -, hfans⟩ := fanout_spec hreachable (aside_context quiet b) hd hts
    (scene_of_destination? hd) none true
  have htallies := hfans.tallies
  rw [hresult] at htallies
  have hone : 0 < Recipient.count .throttled rs := by
    rw [← htallies.throttled]
    exact Nat.one_pos
  obtain ⟨r, hr, hfate⟩ := List.countP_pos_iff.mp hone
  have hthrottled : r.fate = .throttled := of_decide_eq_true hfate
  have hcalls : b.hooks.callsBack (r.fate.notice note r.client) = true := by
    rw [hthrottled, HookTable.callsBack, HookTable.round, HookTable.handlersFor, hhooks]
    rfl
  obtain ⟨strays, haccounted⟩ := hreachable.accounted
  have hrelieved := relieved_takeOut haccounted r.client "news"
  obtain ⟨d₁, hd₁, -⟩ := hrelieved.confined.destinations.exists_destination? hd
  obtain ⟨hothers, hcounts⟩ := fanout_without hreachable hdiscreet hd hts true hfans hr
    (.inl hthrottled) hrelieved hd₁
  exact ⟨b, _, d, d₁, rs, r, hreachable, hdiscreet, hcalls, hd, hts, hfans,
    htallies.recipients.symm, hr, hthrottled, hrelieved, hd₁, hothers, hcounts⟩

end Without

end Broker

end MessageBroker
