/-
# Records read from documents

A record is read field by field, and what is said about one field should not have to be
said again for the record. Two statements carry single fields to whole records. What
every field keeps, when it is set, holds of any record that was read. And a table that
names fields one after the other sets them one after the other, so that a record read
back from its own table is found by setting its fields in the order of the table.
-/

import MessageBroker.Document.Reading

namespace MessageBroker.Read

variable {manner : Manner}

/-! ## Single values -/

/-- A number below the limit reads back. -/
theorem unsigned_ofNat {limit n : Nat} (below : n < limit) :
    unsigned limit manner (.ofNat n) = .ok n := by
  have inside : unsigned.inRange limit (n : Int) = .ok n := by
    have range : 0 ≤ (n : Int) ∧ (n : Int) < limit := by omega
    rw [unsigned.inRange, if_pos range, Int.toNat_natCast]
  cases manner <;> exact inside

/-- A number of 32 bits reads back. -/
theorem word32_ofNat {n : Nat} (below : n < 0x100000000) : word32 manner (.ofNat n) = .ok n :=
  unsigned_ofNat below

/-- A number of 64 bits reads back. -/
theorem word64_ofNat {n : Nat} (below : n < 0x10000000000000000) :
    word64 manner (.ofNat n) = .ok n :=
  unsigned_ofNat below

/-- A text that may be missing reads back. -/
theorem optional_text_ofText? (s : Option String) :
    optional (text manner) (.ofText? s) = .ok s := by
  cases s <;> cases manner <;> rfl

/-- A character reads back from the text that it makes. -/
theorem character_toString (c : Char) : character (.text c.toString) = .ok c := by
  simp [character]

/-- A number that was read is below the limit. -/
theorem lt_of_unsigned {limit n : Nat} {d : Document} (given : unsigned limit manner d = .ok n) :
    n < limit := by
  have range : ∀ i : Int, unsigned.inRange limit i = .ok n → n < limit := by
    intro i given
    unfold unsigned.inRange at given
    split at given
    case isTrue inside => cases given; omega
    case isFalse => cases given
  unfold unsigned at given
  split at given
  · exact range _ given
  · cases given
  · split at given
    · exact range _ given
    · cases given

/-! ## Fields -/

section

variable {fields : List (Field σ)} {P : σ → Prop}
  (step : ∀ f ∈ fields, ∀ d s t, P s → f.set d s = .ok t → P t)

include step

/-- What every field keeps is kept by the members of a table. -/
theorem members_induction {members : List (String × Document)} {s t : σ} (begun : P s)
    (given : members.foldlM (member fields) s = .ok t) : P t := by
  induction members generalizing s with
  | nil => cases given; exact begun
  | cons m members ih =>
    rw [List.foldlM_cons] at given
    cases set : member fields s m with
    | error e => simp [set, bind, Except.bind] at given
    | ok s' =>
      have kept : P s' := by
        unfold member at set
        split at set
        case h_1 f found => exact step f (List.mem_of_find?_eq_some found) m.2 s s' begun set
        case h_2 => cases set; exact begun
      apply ih kept
      simpa [set, bind, Except.bind] using given

/-- What every field keeps is kept by the items of a list. -/
theorem inOrder_induction {items : List Document} {s t : σ} (begun : P s)
    (given : inOrder manner fields items s = .ok t) : P t := by
  induction fields generalizing items s with
  | nil =>
    cases items with
    | nil => cases given; exact begun
    | cons d items =>
      rw [inOrder] at given
      split at given
      · cases given
      · cases given; exact begun
  | cons f fields ih =>
    cases items with
    | nil => cases given; exact begun
    | cons d items =>
      rw [inOrder] at given
      cases set : f.set d s with
      | error e => simp [set, bind, Except.bind] at given
      | ok s' =>
        apply ih (fun g hg => step g (List.mem_cons_of_mem _ hg))
        · exact step f List.mem_cons_self d s s' begun set
        · simpa [set, bind, Except.bind] using given

/-- What holds of the defaults and is kept by every field holds of a record that was read. -/
theorem record_induction {d : Document} {s t : σ} (begun : P s)
    (given : record manner fields s d = .ok t) : P t := by
  cases d with
  | table members => exact members_induction step begun given
  | list items => exact inOrder_induction step begun given
  | null | bool | int | float | text => cases given

end

/-- A field that was set took a value that was read. -/
theorem exists_of_set {read : Result α} {put : α → σ} {t : σ}
    (set : (do return put (← read)) = .ok t) : ∃ v, read = .ok v ∧ put v = t := by
  cases read with
  | error e => cases set
  | ok v => exact ⟨v, rfl, Except.ok.inj set⟩

/-- A member sets the field that it names. -/
theorem member_of_mem {fields : List (Field σ)} (nodup : (fields.map (·.name)).Nodup)
    {f : Field σ} (mem : f ∈ fields) (d : Document) (s : σ) :
    member fields s (f.name, d) = f.set d s := by
  have first : fields.find? (fun g => g.name == f.name) = some f := by
    obtain ⟨i, bound, rfl⟩ := List.getElem_of_mem mem
    rw [List.find?_eq_some_iff_getElem]
    refine ⟨by simp, i, bound, rfl, fun j before => ?_⟩
    have distinct := List.pairwise_iff_getElem.1 nodup j i (by simp; omega) (by simpa) before
    simpa using distinct
  simp only [member, first]

/-- A table whose members are named after fields sets these fields one after the other. -/
theorem record_of_parts {fields : List (Field σ)} (nodup : (fields.map (·.name)).Nodup)
    (start : σ) (parts : List (Field σ × Document)) (known : ∀ p ∈ parts, p.1 ∈ fields) :
    record manner fields start (.table (parts.map fun p => (p.1.name, p.2))) =
      parts.foldlM (fun s p => p.1.set p.2 s) start := by
  simp only [record]
  induction parts generalizing start with
  | nil => rfl
  | cons p parts ih =>
    have later : ∀ q ∈ parts, q.1 ∈ fields := fun q hq => known q (List.mem_cons_of_mem _ hq)
    rw [List.map_cons, List.foldlM_cons, List.foldlM_cons,
      member_of_mem nodup (known p List.mem_cons_self)]
    exact bind_congr fun s => ih s later

/-- Setting the first of several fields to a value that was read leaves the others to set. -/
theorem foldlM_parts_cons {read : Document → Result α} {d : Document} {v : α}
    (given : read d = .ok v) (name : String) (put : σ → α → σ) (s : σ)
    (parts : List (Field σ × Document)) :
    ((⟨name, fun d s => do return put s (← read d)⟩, d) :: parts).foldlM
        (fun s p => p.1.set p.2 s) s =
      parts.foldlM (fun s p => p.1.set p.2 s) (put s v) := by
  simp only [List.foldlM_cons, given]
  rfl

/-- Setting fields stops at the first value that is refused. -/
theorem foldlM_parts_refused {read : Document → Result α} {d : Document} {e : ReadError}
    (refused : read d = .error e) (name : String) (put : σ → α → σ) (s : σ)
    (parts : List (Field σ × Document)) :
    ((⟨name, fun d s => do return put s (← read d)⟩, d) :: parts).foldlM
        (fun s p => p.1.set p.2 s) s = .error e := by
  simp only [List.foldlM_cons, refused]
  rfl

end MessageBroker.Read
