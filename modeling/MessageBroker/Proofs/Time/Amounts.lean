/-
# Texts that tell a span of time

A text tells a span of time in one of two ways: as a number of milliseconds, or as amounts that
add up, each of them a number with its unit. Which texts do so, and what they tell, is said here
without regard to how they are read: blanks around the text and the case of its letters do not
matter, numbers are as long as they like, and the sum is exact.

A text is read as a span if and only if it tells a number of milliseconds that fits a word of 64
bits. The reader checks for overflow in three places, at the digits of an amount, at its product
with the length of the unit and at the sum. All three come to the one bound on the sum, since no
unit is shorter than a millisecond and no amount is less than nothing.
-/

import Mathlib.Algebra.GroupWithZero.Nat
import Mathlib.Data.List.Basic
import Mathlib.Data.List.TakeWhile
import MessageBroker.Proofs.Settings.RoundTrip

namespace MessageBroker

/-! ## Blanks around a text -/

namespace Text

/-- A text without the blanks around it: what remains neither begins nor ends with one. -/
structure IsMiddle (cs middle : List Char) : Prop where
  around : ∃ before after, (∀ c ∈ before ++ after, isBlank c = true) ∧
    cs = before ++ middle ++ after
  first : ∀ c ∈ middle.head?, isBlank c = false
  last : ∀ c ∈ middle.getLast?, isBlank c = false

theorem isBlank_head?_dropWhile {cs : List Char} {c : Char}
    (h : c ∈ (cs.dropWhile isBlank).head?) : isBlank c = false := by
  have hnot := List.head?_dropWhile_not isBlank cs
  rw [h] at hnot
  exact hnot

theorem isMiddle_trimChars (cs : List Char) : IsMiddle cs (trimChars cs) := by
  let rest := trimLeft cs
  have hrest : rest = trimChars cs ++ (rest.reverse.takeWhile isBlank).reverse := by
    rw [trimChars, trimRight, ← List.reverse_append, List.takeWhile_append_dropWhile,
      List.reverse_reverse]
  constructor
  case around =>
    refine ⟨cs.takeWhile isBlank, (rest.reverse.takeWhile isBlank).reverse, ?_, ?_⟩
    · intro c hc
      rcases List.mem_append.mp hc with hc | hc
      · exact List.mem_takeWhile_imp hc
      · exact List.mem_takeWhile_imp (List.mem_reverse.mp hc)
    · rw [List.append_assoc, ← hrest]
      exact List.takeWhile_append_dropWhile.symm
  case first =>
    intro c hc
    -- The text without the blanks at its front begins in the same way.
    have hfront : c ∈ (cs.dropWhile isBlank).head? := by
      show c ∈ rest.head?
      rw [hrest, List.head?_append, Option.mem_def.mp hc]
      rfl
    exact isBlank_head?_dropWhile hfront
  case last =>
    intro c hc
    rw [trimChars, trimRight, List.getLast?_reverse] at hc
    exact isBlank_head?_dropWhile hc

end Text

/-! ## Numbers and amounts -/

/-- A number written in digits. -/
structure Numeral where
  digits : List Char
  ne_nil : digits ≠ []
  isDigit : ∀ c ∈ digits, c.isDigit = true

/-- The number that digits stand for. -/
def Numeral.value (n : Numeral) : Nat := Nat.ofDigitChars 10 n.digits 0

/-- The units of amounts. -/
inductive TimeUnit where
  | milliseconds
  | seconds
  | minutes
  | hours
  | days
  deriving DecidableEq, Repr

namespace TimeUnit

/-- The letters of a unit. -/
def letters : TimeUnit → List Char
  | milliseconds => ['m', 's']
  | seconds => ['s']
  | minutes => ['m']
  | hours => ['h']
  | days => ['d']

/-- The length of a unit in milliseconds. -/
def length : TimeUnit → Nat
  | milliseconds => 1
  | seconds => 1000
  | minutes => 60 * 1000
  | hours => 60 * 60 * 1000
  | days => 24 * 60 * 60 * 1000

theorem length_pos (u : TimeUnit) : 0 < u.length := by cases u <;> decide

theorem isDigit_of_mem_letters {u : TimeUnit} {c : Char} (h : c ∈ u.letters) :
    c.isDigit = false := by
  cases u <;> simp only [letters, List.mem_cons, List.not_mem_nil, or_false] at h <;>
    rcases h with rfl | rfl <;> rfl

theorem letters_ne_nil (u : TimeUnit) : u.letters ≠ [] := by cases u <;> exact nofun

end TimeUnit

/-- A number of units. -/
structure Amount where
  number : Numeral
  unit : TimeUnit

namespace Amount

/-- The characters of an amount. -/
def text (a : Amount) : List Char := a.number.digits ++ a.unit.letters

/-- An amount in milliseconds. -/
def ms (a : Amount) : Nat := a.number.value * a.unit.length

end Amount

namespace Span

/-- A text tells a number of milliseconds. -/
inductive Tells : List Char → Nat → Prop
  | number (n : Numeral) : Tells n.digits n.value
  | signed (n : Numeral) : Tells ('+' :: n.digits) n.value
  | sum (amounts : List Amount) (h : amounts ≠ []) :
      Tells (amounts.flatMap Amount.text) (amounts.map Amount.ms).sum

variable {cs digits rest : List Char} {n k total fuel : Nat} {amounts : List Amount} {s : String}

/-! ## Reading numbers and units -/

theorem digitsValue_eq (cs : List Char) : Text.digitsValue cs = Nat.ofDigitChars 10 cs 0 := by
  simp [Text.digitsValue, Nat.ofDigitChars_eq_foldl, Nat.mul_comm]

theorem readDigits?_eq_some_iff :
    Text.readDigits? cs = some n ↔ ∃ number : Numeral, number.digits = cs ∧ number.value = n := by
  rw [Text.readDigits?]
  constructor
  · intro h
    split at h
    next hdigits =>
      refine ⟨⟨cs, hdigits.1, List.all_eq_true.mp hdigits.2⟩, rfl, ?_⟩
      rw [Numeral.value, ← digitsValue_eq]
      exact Option.some.inj h
    next => cases h
  · rintro ⟨number, rfl, rfl⟩
    rw [if_pos ⟨number.ne_nil, List.all_eq_true.mpr number.isDigit⟩, digitsValue_eq]
    rfl

theorem head_ne_plus (number : Numeral) : ∀ rest, number.digits ≠ '+' :: rest := by
  intro rest heq
  have hplus := number.isDigit '+' (heq ▸ List.mem_cons_self)
  cases hplus

theorem readUnsigned?_eq_some_iff : Text.readUnsigned? cs = some n ↔
    ∃ number : Numeral, (cs = number.digits ∨ cs = '+' :: number.digits) ∧ number.value = n := by
  rw [Text.readUnsigned?.eq_def]
  split
  next rest =>
    rw [readDigits?_eq_some_iff]
    constructor
    · rintro ⟨number, rfl, hvalue⟩
      exact ⟨number, .inr rfl, hvalue⟩
    · rintro ⟨number, heq | heq, hvalue⟩
      · exact absurd heq.symm (head_ne_plus number rest)
      · exact ⟨number, (List.cons.inj heq).2.symm, hvalue⟩
  next hplain =>
    rw [readDigits?_eq_some_iff]
    constructor
    · rintro ⟨number, rfl, hvalue⟩
      exact ⟨number, .inl rfl, hvalue⟩
    · rintro ⟨number, heq | heq, hvalue⟩
      · exact ⟨number, heq.symm, hvalue⟩
      · exact absurd heq (hplain _)

theorem word?_eq_some_iff : word? n = some k ↔ n = k ∧ k < 2 ^ 64 := by
  rw [word?, Text.word64]
  constructor
  · intro h
    split at h
    next hlt =>
      cases h
      exact ⟨rfl, hlt⟩
    next => cases h
  · rintro ⟨rfl, hlt⟩
    exact if_pos hlt

theorem unitLength?_eq_some_iff :
    unitLength? cs = some n ↔ ∃ u : TimeUnit, u.letters = cs ∧ u.length = n := by
  constructor
  · intro h
    unfold unitLength? at h
    split at h
    · exact ⟨.milliseconds, rfl, Option.some.inj h⟩
    · exact ⟨.seconds, rfl, Option.some.inj h⟩
    · exact ⟨.minutes, rfl, Option.some.inj h⟩
    · exact ⟨.hours, rfl, Option.some.inj h⟩
    · exact ⟨.days, rfl, Option.some.inj h⟩
    · cases h
  · rintro ⟨u, rfl, rfl⟩
    cases u <;> rfl

/-! ## Adding up amounts -/

/-- The first amount of a text and the text after it, with the sum once it is added. -/
def firstAmount? (total : Nat) (cs : List Char) : Option (Nat × List Char) := do
  let rest := cs.dropWhile Char.isDigit
  let number ← (Text.readDigits? (cs.takeWhile Char.isDigit)).bind word?
  let length ← unitLength? (rest.takeWhile fun c => !c.isDigit)
  let part ← word? (number * length)
  let total ← word? (total + part)
  return (total, rest.dropWhile fun c => !c.isDigit)

theorem sumAmounts?_of_ne_nil (fuel total : Nat) (h : cs ≠ []) :
    sumAmounts? (fuel + 1) total cs =
      (firstAmount? total cs).bind fun first => sumAmounts? fuel first.1 first.2 := by
  rw [sumAmounts?.eq_3 total cs fuel h, firstAmount?]
  simp only [Option.bind_eq_bind, Option.pure_def, Option.bind_assoc, Option.bind_some]

/-- A text of amounts is empty or begins with a digit. -/
theorem isDigit_head?_flatMap (amounts : List Amount) :
    ∀ c ∈ (amounts.flatMap Amount.text).head?, c.isDigit = true := by
  cases amounts with
  | nil => exact nofun
  | cons a amounts =>
    intro c hc
    cases hdigits : a.number.digits with
    | nil => exact absurd hdigits a.number.ne_nil
    | cons d ds =>
      rw [List.flatMap_cons, Amount.text, hdigits] at hc
      obtain rfl := Option.some.inj hc
      exact a.number.isDigit d (hdigits ▸ List.mem_cons_self)

/-- Where the characters of a kind end, no more of them are taken. -/
theorem takeWhile_dropWhile_append {p : Char → Bool} {front back : List Char}
    (hfront : ∀ c ∈ front, p c = true) (hback : ∀ c ∈ back.head?, p c = false) :
    (front ++ back).takeWhile p = front ∧ (front ++ back).dropWhile p = back := by
  have hstop : back.takeWhile p = [] ∧ back.dropWhile p = back := by
    cases back with
    | nil => exact ⟨rfl, rfl⟩
    | cons c cs =>
      have hc := hback c rfl
      exact ⟨List.takeWhile_cons_of_neg (Bool.eq_false_iff.mp hc),
        List.dropWhile_cons_of_neg (Bool.eq_false_iff.mp hc)⟩
  rw [List.takeWhile_append_of_pos hfront, List.dropWhile_append_of_pos hfront, hstop.1, hstop.2,
    List.append_nil]
  exact ⟨rfl, rfl⟩

/-- An amount is read off the front of a text, up to the next digit after its unit. -/
theorem firstAmount?_eq_some_iff {total' : Nat} (hrest : ∀ c ∈ rest.head?, c.isDigit = true) :
    (∃ a : Amount, cs = a.text ++ rest ∧ total' = total + a.ms ∧ total' < 2 ^ 64) ↔
      firstAmount? total cs = some (total', rest) := by
  simp only [firstAmount?, Option.bind_eq_bind, Option.pure_def, Option.bind_eq_some_iff,
    readDigits?_eq_some_iff, unitLength?_eq_some_iff, word?_eq_some_iff, Option.some.injEq,
    Prod.mk.injEq]
  constructor
  · rintro ⟨⟨number, u⟩, rfl, rfl, hlt⟩
    have hletters : ∀ c ∈ (u.letters ++ rest).head?, c.isDigit = false := by
      intro c hc
      rw [List.head?_append_of_ne_nil _ u.letters_ne_nil] at hc
      exact TimeUnit.isDigit_of_mem_letters (List.mem_of_head? hc)
    obtain ⟨htaken, hdropped⟩ := takeWhile_dropWhile_append number.isDigit hletters
    have hunits : ∀ c ∈ u.letters, (!c.isDigit) = true := by
      intro c hc
      rw [TimeUnit.isDigit_of_mem_letters hc]
      rfl
    have hdigits : ∀ c ∈ rest.head?, (!c.isDigit) = false := by
      intro c hc
      rw [hrest c hc]
      rfl
    obtain ⟨hunit, hafter⟩ := takeWhile_dropWhile_append hunits hdigits
    have hpart : number.value ≤ number.value * u.length := Nat.le_mul_of_pos_right _ u.length_pos
    change total + number.value * u.length < 2 ^ 64 at hlt
    simp only [Amount.text, List.append_assoc, htaken, hdropped, hunit, hafter]
    exact ⟨number.value, ⟨number.value, ⟨number, rfl, rfl⟩, rfl, by omega⟩, u.length,
      ⟨u, rfl, rfl⟩, number.value * u.length, ⟨rfl, by omega⟩, total + number.value * u.length,
      ⟨rfl, hlt⟩, rfl, trivial⟩
  · rintro ⟨_, ⟨_, ⟨number, hdigits, rfl⟩, rfl, -⟩, _, ⟨u, hletters, rfl⟩, _, ⟨rfl, -⟩, _,
      ⟨rfl, hlt⟩, rfl, rfl⟩
    refine ⟨⟨number, u⟩, ?_, rfl, hlt⟩
    rw [Amount.text, hdigits, hletters, List.append_assoc, List.takeWhile_append_dropWhile,
      List.takeWhile_append_dropWhile]

/-- The text after an amount is shorter, and it is empty or begins with a digit. -/
theorem rest_of_firstAmount? {total' : Nat} (h : firstAmount? total cs = some (total', rest)) :
    rest.length < cs.length ∧ ∀ c ∈ rest.head?, c.isDigit = true := by
  have hbegins : ∀ c ∈ rest.head?, c.isDigit = true := by
    intro c hc
    simp only [firstAmount?, Option.bind_eq_bind, Option.pure_def, Option.bind_eq_some_iff,
      Option.some.injEq, Prod.mk.injEq] at h
    obtain ⟨_, -, _, -, _, -, _, -, -, rfl⟩ := h
    have hnot := List.head?_dropWhile_not (fun c => !c.isDigit) (cs.dropWhile Char.isDigit)
    rw [hc] at hnot
    simpa using hnot
  obtain ⟨a, rfl, -⟩ := (firstAmount?_eq_some_iff hbegins).mpr h
  have hpos : 0 < a.number.digits.length := List.length_pos_iff.mpr a.number.ne_nil
  refine ⟨?_, hbegins⟩
  simp only [Amount.text, List.length_append]
  omega

theorem sumAmounts?_nil_eq_some_iff (htotal : total < 2 ^ 64) :
    sumAmounts? fuel total [] = some n ↔
      ∃ amounts : List Amount, [] = amounts.flatMap Amount.text ∧
        n = total + (amounts.map Amount.ms).sum ∧ n < 2 ^ 64 := by
  rw [sumAmounts?, Option.some.injEq]
  constructor
  · rintro rfl
    exact ⟨[], rfl, rfl, htotal⟩
  · rintro ⟨_ | ⟨a, amounts⟩, hamounts, rfl, -⟩
    · rfl
    · simp [Amount.text, a.number.ne_nil] at hamounts

/-- Amounts are added up exactly when the text consists of amounts and the sum fits. There is
fuel enough for one round a character. -/
theorem sumAmounts?_eq_some_iff (htotal : total < 2 ^ 64) (hfuel : cs.length ≤ fuel) :
    sumAmounts? fuel total cs = some n ↔
      ∃ amounts : List Amount, cs = amounts.flatMap Amount.text ∧
        n = total + (amounts.map Amount.ms).sum ∧ n < 2 ^ 64 := by
  -- Each round takes one amount off the front.
  induction fuel generalizing total cs with
  | zero =>
    obtain rfl := List.length_eq_zero_iff.mp (Nat.le_zero.mp hfuel)
    exact sumAmounts?_nil_eq_some_iff htotal
  | succ fuel ih =>
    cases hcs : cs with
    | nil => exact sumAmounts?_nil_eq_some_iff htotal
    | cons c cs' =>
      rw [← hcs, sumAmounts?_of_ne_nil fuel total (hcs ▸ List.cons_ne_nil c cs'),
        Option.bind_eq_some_iff]
      constructor
      · rintro ⟨⟨total', rest⟩, hfirst, hrest⟩
        obtain ⟨hshorter, hbegins⟩ := rest_of_firstAmount? hfirst
        obtain ⟨a, rfl, rfl, htotal'⟩ := (firstAmount?_eq_some_iff hbegins).mpr hfirst
        have hfuel' : rest.length ≤ fuel := by omega
        obtain ⟨amounts, rfl, rfl, hn⟩ := (ih htotal' hfuel').mp hrest
        refine ⟨a :: amounts, rfl, ?_, hn⟩
        rw [List.map_cons, List.sum_cons, Nat.add_assoc]
      · rintro ⟨_ | ⟨a, amounts⟩, hamounts, hsum, hn⟩
        · exact absurd (hcs.symm.trans hamounts) (List.cons_ne_nil c cs')
        rw [List.map_cons, List.sum_cons, ← Nat.add_assoc] at hsum
        have htotal' : total + a.ms < 2 ^ 64 := by omega
        have hfirst := (firstAmount?_eq_some_iff (isDigit_head?_flatMap amounts)).mp
          ⟨a, hamounts, rfl, htotal'⟩
        have hshorter := (rest_of_firstAmount? hfirst).1
        have hfuel' : (amounts.flatMap Amount.text).length ≤ fuel := by omega
        exact ⟨_, hfirst, (ih htotal' hfuel').mpr ⟨amounts, rfl, hsum, hn⟩⟩

/-! ## Reading a span -/

theorem not_isDigit_of_mem_text (a : Amount) : ∃ c ∈ a.text, c.isDigit = false := by
  obtain ⟨c, hc⟩ := List.exists_mem_of_ne_nil _ a.unit.letters_ne_nil
  exact ⟨c, List.mem_append_right _ hc, TimeUnit.isDigit_of_mem_letters hc⟩

/-- Amounts are no number, since they contain the letters of their units. -/
theorem readUnsigned?_flatMap (h : amounts ≠ []) :
    Text.readUnsigned? (amounts.flatMap Amount.text) = none := by
  by_contra hsome
  obtain ⟨n, hn⟩ := Option.ne_none_iff_exists'.mp hsome
  obtain ⟨number, hplain | hsigned, -⟩ := readUnsigned?_eq_some_iff.mp hn
  · obtain ⟨a, ha⟩ := List.exists_mem_of_ne_nil _ h
    obtain ⟨c, hc, hletter⟩ := not_isDigit_of_mem_text a
    have hmem : c ∈ number.digits := hplain ▸ List.mem_flatMap_of_mem ha hc
    rw [number.isDigit c hmem] at hletter
    cases hletter
  · have hplus := isDigit_head?_flatMap amounts '+' (by rw [hsigned]; rfl)
    cases hplus

theorem ofText?_of_number (h : Text.readUnsigned? (normalize s) = some n) (hlt : n < 2 ^ 64) :
    ofText? s = some ⟨n⟩ := by
  have hne : (normalize s).isEmpty = false := by
    cases hcs : normalize s with
    | nil =>
      rw [hcs] at h
      cases h
    | cons c cs => rfl
  have hword : (Text.readUnsigned? (normalize s)).bind word? = some n := by
    rw [h]
    exact word?_eq_some_iff.mpr ⟨rfl, hlt⟩
  rw [ofText?, hne, hword]
  rfl

theorem ofText?_of_not_number (hne : normalize s ≠ [])
    (h : ∀ n, Text.readUnsigned? (normalize s) = some n → 2 ^ 64 ≤ n) :
    ofText? s = (sumAmounts? (normalize s).length 0 (normalize s)).map fun n => ⟨n⟩ := by
  have hword : (Text.readUnsigned? (normalize s)).bind word? = none := by
    rw [Option.bind_eq_none_iff]
    intro n hn
    exact if_neg (Nat.not_lt.mpr (h n hn))
  rw [ofText?, List.isEmpty_eq_false_iff.mpr hne, hword]
  rfl

/-- A text tells a number by being it, or by amounts that add up to it. -/
theorem tells_iff :
    Tells cs n ↔ Text.readUnsigned? cs = some n ∨
      ∃ amounts : List Amount, amounts ≠ [] ∧ cs = amounts.flatMap Amount.text ∧
        n = (amounts.map Amount.ms).sum := by
  rw [readUnsigned?_eq_some_iff]
  constructor
  · rintro (number | number | ⟨amounts, h⟩)
    · exact .inl ⟨number, .inl rfl, rfl⟩
    · exact .inl ⟨number, .inr rfl, rfl⟩
    · exact .inr ⟨amounts, h, rfl, rfl⟩
  · rintro (⟨number, rfl | rfl, rfl⟩ | ⟨amounts, h, rfl, rfl⟩)
    · exact .number number
    · exact .signed number
    · exact .sum amounts h

theorem tells_iff_of_number (h : Text.readUnsigned? cs = some k) : Tells cs n ↔ k = n := by
  rw [tells_iff, h, Option.some.injEq]
  constructor
  · rintro (rfl | ⟨amounts, hne, rfl, -⟩)
    · rfl
    · rw [readUnsigned?_flatMap hne] at h
      cases h
  · exact .inl

theorem not_tells_nil : ¬Tells [] n := by
  rw [tells_iff]
  rintro (h | ⟨_ | ⟨a, amounts⟩, hne, hnil, -⟩)
  · cases h
  · exact hne rfl
  · simp [Amount.text, a.number.ne_nil] at hnil

/-- A text is read as a span exactly when it tells a number that fits. -/
theorem ofText?_eq_some_iff :
    ofText? s = some ⟨n⟩ ↔ Tells (normalize s) n ∧ n < 2 ^ 64 := by
  by_cases hnumber : ∃ m, Text.readUnsigned? (normalize s) = some m ∧ m < 2 ^ 64
  case pos =>
    obtain ⟨m, hm, hlt⟩ := hnumber
    rw [ofText?_of_number hm hlt, tells_iff_of_number hm, Option.some.injEq, Span.mk.injEq]
    exact ⟨fun h => ⟨h, h ▸ hlt⟩, And.left⟩
  case neg =>
    have hlarge : ∀ m, Text.readUnsigned? (normalize s) = some m → 2 ^ 64 ≤ m :=
      fun m hm => Nat.le_of_not_lt fun hlt => hnumber ⟨m, hm, hlt⟩
    by_cases hnil : normalize s = []
    · rw [ofText?, hnil]
      exact ⟨nofun, fun h => absurd h.1 not_tells_nil⟩
    rw [ofText?_of_not_number hnil hlarge, Option.map_eq_some_iff]
    simp only [Span.mk.injEq, exists_eq_right]
    rw [sumAmounts?_eq_some_iff (by decide) le_rfl, tells_iff]
    constructor
    · rintro ⟨amounts, hamounts, rfl, hlt⟩
      refine ⟨.inr ⟨amounts, ?_, hamounts, Nat.zero_add _⟩, hlt⟩
      rintro rfl
      exact hnil hamounts
    · rintro ⟨hm | ⟨amounts, -, hamounts, rfl⟩, hlt⟩
      · exact absurd hlt (Nat.not_lt.mpr (hlarge n hm))
      · exact ⟨amounts, hamounts, (Nat.zero_add _).symm, hlt⟩

/-- The rounds end before the fuel does: with more of it the sum is the same. -/
theorem sumAmounts?_of_le (htotal : total < 2 ^ 64) (hfuel : cs.length ≤ fuel) :
    sumAmounts? fuel total cs = sumAmounts? cs.length total cs := by
  apply Option.ext
  intro n
  rw [sumAmounts?_eq_some_iff htotal hfuel, sumAmounts?_eq_some_iff htotal le_rfl]

/-! ## Reading what was written -/

theorem toNat_of_isDigit {c : Char} (h : c.isDigit = true) : 48 ≤ c.toNat ∧ c.toNat ≤ 57 := by
  simpa [Char.isDigit, UInt32.le_iff_toNat_le] using h

theorem isBlank_of_isDigit {c : Char} (h : c.isDigit = true) : Text.isBlank c = false := by
  have hrange := toNat_of_isDigit h
  simp [Text.isBlank]
  omega

theorem toLower_of_isDigit {c : Char} (h : c.isDigit = true) : c.toLower = c := by
  have hrange := toNat_of_isDigit h
  refine dif_neg ?_
  rintro ⟨hupper, -⟩
  have h65 : 65 ≤ c.toNat := hupper
  omega

/-- The digits of a number stand in the text as they are. -/
theorem normalize_digits (number : Numeral) :
    normalize (String.ofList number.digits) = number.digits := by
  have htrim : ∀ cs : List Char, (∀ c ∈ cs, c.isDigit = true) → cs.dropWhile Text.isBlank = cs := by
    intro cs hdigits
    rw [List.dropWhile_eq_self_iff]
    intro hpos hblank
    rw [isBlank_of_isDigit (hdigits _ (List.getElem_mem hpos))] at hblank
    cases hblank
  have hreverse : ∀ c ∈ number.digits.reverse, c.isDigit = true :=
    fun c hc => number.isDigit c (List.mem_reverse.mp hc)
  rw [normalize, String.toList_ofList, Text.trimChars, Text.trimRight, Text.trimLeft,
    htrim _ number.isDigit, htrim _ hreverse, List.reverse_reverse]
  exact (List.map_congr_left fun c hc => toLower_of_isDigit (number.isDigit c hc)).trans
    (List.map_id _)

theorem ofText?_toString (hn : n < 2 ^ 64) : ofText? (toString n) = some ⟨n⟩ := by
  let number : Numeral :=
    ⟨Nat.toDigits 10 n, Nat.toDigits_ne_nil,
      fun c => Nat.isDigit_of_mem_toDigits (by decide) (by decide)⟩
  have hvalue : number.value = n := Nat.ofDigitChars_toDigits (by decide) (by decide)
  have hnormal : normalize (toString n) = number.digits := normalize_digits number
  rw [ofText?_eq_some_iff, hnormal]
  exact ⟨hvalue ▸ Tells.number number, hn⟩

/-! ## The texts of spans and their reading -/

/-- The reading of spans. Blanks around a text and the case of its letters do not matter. What
remains is read as a span of so many milliseconds exactly when it tells their number and the
number fits a word, and otherwise it is refused. The rounds of the reader end on every text. The
number that is written for a span reads back as that span, both as it is and as a text. -/
theorem ofText?_exact (s : String) :
    (∃ middle, Text.IsMiddle s.toList middle ∧ normalize s = middle.map Char.toLower) ∧
    (∀ n, ofText? s = some ⟨n⟩ ↔ Tells (normalize s) n ∧ n < 2 ^ 64) ∧
    (ofText? s = none ↔ ∀ n, Tells (normalize s) n → 2 ^ 64 ≤ n) ∧
    (∀ fuel ≥ (normalize s).length,
      sumAmounts? fuel 0 (normalize s) = sumAmounts? (normalize s).length 0 (normalize s)) ∧
    ∀ d : Span, d.ms < 2 ^ 64 →
      ofDocument d.toDocument = .ok d ∧ ofDocument (.text (toString d.ms)) = .ok d := by
  refine ⟨⟨_, Text.isMiddle_trimChars _, rfl⟩, fun n => ofText?_eq_some_iff, ?_,
    fun fuel hfuel => sumAmounts?_of_le (by decide) hfuel, ?_⟩
  · constructor
    · intro hnone n htells
      by_contra hlt
      have hsome := ofText?_eq_some_iff.mpr ⟨htells, Nat.lt_of_not_le hlt⟩
      rw [hnone] at hsome
      cases hsome
    · intro h
      cases hsome : ofText? s with
      | none => rfl
      | some d =>
        obtain ⟨htells, hlt⟩ := ofText?_eq_some_iff.mp hsome
        exact absurd hlt (Nat.not_lt.mpr (h d.ms htells))
  · rintro ⟨n⟩ hn
    refine ⟨ofDocument_toDocument hn, ?_⟩
    rw [ofDocument, ofText?_toString hn]

/-- A minute and a half, among blanks and in letters of either case. -/
theorem ofText?_minuteAndHalf :
    ofText? " 1M30s\n" = some ⟨90000⟩ ∧ Tells (normalize " 1M30s\n") 90000 ∧
      ofText? "1m30" = none ∧ ofDocument (.text (toString 90000)) = .ok ⟨90000⟩ := by
  have hread : ofText? " 1M30s\n" = some ⟨90000⟩ := by rfl
  have hunread : ofText? "1m30" = none := by rfl
  have hfits : (⟨90000⟩ : Span).ms < 2 ^ 64 := by decide
  obtain ⟨-, hiff, -, -, hwritten⟩ := ofText?_exact " 1M30s\n"
  exact ⟨hread, ((hiff 90000).mp hread).1, hunread, (hwritten ⟨90000⟩ hfits).2⟩

end Span

end MessageBroker
