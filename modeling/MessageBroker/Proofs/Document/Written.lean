/-
# Written documents read back

A text names one document, and most documents are named by their own text. Two kinds
are not: a fraction is written with the digits that suffice to tell it from its
neighbours, which is a matter of rounding, and a table out of order is written as it
stands but read into order. Whole numbers beyond the words of the reader come back as
fractions. What is left is exact: reading what was written gives the same document.

The reader stops a number at the first character that is no part of it, so a written
value reads back only before a comma, a closing bracket or the end. This is the form in
which the parts of lists and tables meet it.
-/

import MessageBroker.Document.Json

namespace MessageBroker.Document

variable {d : Document} {items : List Document} {members : Members}
  {fuel : Nat} {rest : List Char}

/-! ## Documents with exact texts -/

mutual

/-- Documents that their texts tell in full: whole numbers fit the words of the reader,
there are no fractions, and tables are in ascending order. -/
def IsExact : Document → Prop
  | .null | .bool _ | .text _ => True
  | .int i => -0x8000000000000000 ≤ i ∧ i < 0x10000000000000000
  | .float _ => False
  | .list items => AllExact items
  | .table members => members.Pairwise (fun a b => a.1 < b.1) ∧ MembersExact members

/-- The items of a list are exact. -/
def AllExact : List Document → Prop
  | [] => True
  | item :: items => IsExact item ∧ AllExact items

/-- The values of a table are exact. -/
def MembersExact : List (String × Document) → Prop
  | [] => True
  | (_, value) :: members => IsExact value ∧ MembersExact members

end

/-- A name above all the others goes to the end. -/
theorem Members.put_of_forall_lt {key : String} (value : Document)
    (below : ∀ m ∈ members, m.1 < key) : put key value members = members ++ [(key, value)] := by
  induction members with
  | nil => rfl
  | cons m members ih =>
    obtain ⟨k, v⟩ := m
    have lt : k < key := below (k, v) List.mem_cons_self
    have ne : key ≠ k := by
      rintro rfl
      exact String.lt_irrefl _ lt
    have not_lt : ¬key < k := String.lt_asymm lt
    have later : ∀ m ∈ members, m.1 < key := fun m hm => below m (List.mem_cons_of_mem _ hm)
    simp [put, ne, not_lt, ih later]

/-- Members in order are a table as they stand. -/
theorem Members.ofList_of_pairwise (ascending : members.Pairwise fun a b => a.1 < b.1) :
    ofList members = members := by
  have after : ∀ table : Members, (table ++ members).Pairwise (fun a b => a.1 < b.1) →
      members.foldl (fun table m => put m.1 m.2 table) table = table ++ members := by
    clear ascending
    induction members with
    | nil => simp
    | cons m members ih =>
      intro table ascending
      obtain ⟨k, v⟩ := m
      have below : ∀ m ∈ table, m.1 < k := fun m hm =>
        (List.pairwise_append.1 ascending).2.2 m hm (k, v) List.mem_cons_self
      have joined : members.foldl (fun table m => put m.1 m.2 table) (table ++ [(k, v)]) =
          table ++ [(k, v)] ++ members := ih _ (by simpa using ascending)
      simpa [put_of_forall_lt v below] using joined
  simpa [ofList] using after [] (by simpa using ascending)

namespace Json

/-! ## Whole numbers -/

/-- The characters before which a written value reads back. -/
def Ends (rest : List Char) : Prop :=
  ∀ c ∈ rest.head?, c = ',' ∨ c = ']' ∨ c = '\x7d'

theorem ends_nil : Ends [] := by simp [Ends]

theorem ends_comma : Ends (',' :: rest) := by simp [Ends]

theorem ends_bracket : Ends (']' :: rest) := by simp [Ends]

theorem ends_brace : Ends ('\x7d' :: rest) := by simp [Ends]

/-- No number goes on at an end. -/
theorem Ends.isDigit_head? (ends : Ends rest) : ∀ c ∈ rest.head?, c.isDigit = false := by
  intro c hc
  rcases ends c hc with rfl | rfl | rfl <;> rfl

/-- A digit is no blank. -/
theorem skipBlanks_digit {c : Char} (digit : c.isDigit = true) (cs : List Char) :
    skipBlanks (c :: cs) = c :: cs := by
  have unblank : ¬(((c = ' ' ∨ c = '\t') ∨ c = '\n') ∨ c = '\r') := by
    rintro (((rfl | rfl) | rfl) | rfl) <;> exact absurd digit (by decide)
  simp [skipBlanks, unblank]

/-- The decimal digits of a number start with a digit. -/
theorem exists_toDigits_eq_cons (n : Nat) :
    ∃ c cs, Nat.toDigits 10 n = c :: cs ∧ c.isDigit = true := by
  cases digits : Nat.toDigits 10 n with
  | nil => exact absurd digits Nat.toDigits_ne_nil
  | cons c cs =>
    have mem : c ∈ Nat.toDigits 10 n := by simp [digits]
    exact ⟨c, cs, rfl, Nat.isDigit_of_mem_toDigits (by decide) (by decide) mem⟩

/-- The decimal digits of a number that is not zero do not start with a zero. -/
theorem head?_toDigits_ne_zero {n : Nat} (pos : 0 < n) :
    (Nat.toDigits 10 n).head? ≠ some '0' := by
  induction n using Nat.strongRecOn with
  | ind n ih =>
    rw [Nat.toDigits_eq_if (by decide)]
    split
    · simpa using Nat.pos_iff_ne_zero.1 pos
    · have shorter : (Nat.toDigits 10 (n / 10)).head? ≠ some '0' :=
        ih (n / 10) (by omega) (by omega)
      obtain ⟨c, cs, digits, -⟩ := exists_toDigits_eq_cons (n / 10)
      simpa [digits] using shorter

/-- The value of the decimal digits of a number is the number. -/
theorem digitsValue_toDigits (n : Nat) : Text.digitsValue (Nat.toDigits 10 n) = n := by
  have value := Nat.ofDigitChars_ten_toDigits (n := n)
  rw [Nat.ofDigitChars_eq_foldl] at value
  simpa [Text.digitsValue, Nat.mul_comm] using value

/-- The digits of a number are cut off where it ends. -/
theorem takeDigits_toDigits (n : Nat) (ends : Ends rest) :
    takeDigits (Nat.toDigits 10 n ++ rest) = some (Nat.toDigits 10 n, rest) := by
  have digits : ∀ c ∈ Nat.toDigits 10 n, c.isDigit = true := fun c hc =>
    Nat.isDigit_of_mem_toDigits (by decide) (by decide) hc
  have taken : rest.takeWhile Char.isDigit = [] := by
    cases rest with
    | nil => rfl
    | cons c cs => simp [ends.isDigit_head? c (by simp)]
  have dropped : rest.dropWhile Char.isDigit = rest := by
    cases rest with
    | nil => rfl
    | cons c cs => simp [ends.isDigit_head? c (by simp)]
  simp [takeDigits, List.takeWhile_append_of_pos digits, List.dropWhile_append_of_pos digits,
    taken, dropped, Nat.toDigits_ne_nil]

/-- The decimal digits of a number read as that number. -/
theorem readNumber_toDigits (negative : Bool) (n : Nat) (ends : Ends rest) :
    readNumber negative (Nat.toDigits 10 n ++ rest) = some (wholeNumber negative n, rest) := by
  have padless : ¬((Nat.toDigits 10 n).head? = some '0' ∧ (Nat.toDigits 10 n).length ≠ 1) := by
    rcases Nat.eq_zero_or_pos n with rfl | pos
    · simp
    · exact fun h => head?_toDigits_ne_zero pos h.1
  have fraction : readFraction rest = some ([], rest) := by
    cases rest with
    | nil => rfl
    | cons c cs => rcases ends c (by simp) with rfl | rfl | rfl <;> rfl
  have exponent : readExponent rest = some (none, rest) := by
    cases rest with
    | nil => rfl
    | cons c cs => rcases ends c (by simp) with rfl | rfl | rfl <;> rfl
  simp only [ne_eq] at padless
  simp [readNumber, takeDigits_toDigits n ends, padless, fraction, exponent, digitsValue_toDigits]

/-! ## Texts -/

/-- Control characters as the four hexadecimal digits of their escapes. -/
theorem readHex?_control : ∀ n < 0x20,
    (List.replicate (4 - (Nat.toDigits 16 n).length) '0' ++ Nat.toDigits 16 n).length = 4 ∧
    Text.readHex? (List.replicate (4 - (Nat.toDigits 16 n).length) '0' ++ Nat.toDigits 16 n) =
      some n := by
  decide

/-- Four digits are read as one unit, whatever follows. -/
theorem readUnit_append {digits : List Char} (n : Nat) (rest : List Char)
    (four : digits.length = 4) (value : Text.readHex? digits = some n) :
    readUnit (digits ++ rest) = some (n, rest) := by
  match digits, four with
  | [a, b, c, d], _ => simp [readUnit, value]

/-- A written character is read back in one step. -/
theorem readText_escape (c : Char) (out : List Char) :
    readText (fuel + 1) out ((escape c).toList ++ rest) = readText fuel (c :: out) rest := by
  by_cases quote : c = '"'
  · subst quote; rfl
  by_cases backslash : c = '\\'
  · subst backslash; rfl
  by_cases feed : c = '\n'
  · subst feed; rfl
  by_cases carriage : c = '\r'
  · subst carriage; rfl
  by_cases tab : c = '\t'
  · subst tab; rfl
  by_cases control : c.toNat < 0x20
  · obtain ⟨four, value⟩ := readHex?_control c.toNat control
    have unit := readUnit_append c.toNat rest four value
    have low : c.toNat < 0xD800 := by omega
    rw [List.append_assoc] at unit
    simp [escape, quote, backslash, feed, carriage, tab, control, Text.hex, readText, readEscape,
      unit, low]
  · simp [escape, quote, backslash, feed, carriage, tab, control, readText]

/-- The characters between the quotes of a written text. -/
def body (cs : List Char) : List Char := cs.flatMap fun c => (escape c).toList

theorem toList_writeText (s : String) :
    (writeText s).toList = '"' :: (body s.toList ++ ['"']) := by
  have joined : ∀ (cs : List Char) (out : String),
      (cs.foldl (fun out c => out ++ escape c) out).toList = out.toList ++ body cs := by
    intro cs
    induction cs with
    | nil => simp [body]
    | cons c cs ih =>
      intro out
      rw [List.foldl_cons, ih]
      simp [body]
  simp [writeText, joined]

/-- Each character of a text is written with at least one. -/
theorem length_le_length_body (cs : List Char) : cs.length ≤ (body cs).length := by
  induction cs with
  | nil => simp
  | cons c cs ih =>
    have pos : 1 ≤ (escape c).toList.length := by
      unfold escape
      repeat' split
      all_goals simp
    have split : body (c :: cs) = (escape c).toList ++ body cs := by simp [body]
    rw [split, List.length_append, List.length_cons]
    omega

/-- The rest of a written text after its opening quote is read back. -/
theorem readText_body (cs out : List Char) (enough : cs.length < fuel) :
    readText fuel out (body cs ++ '"' :: rest) =
      some (String.ofList (out.reverse ++ cs), rest) := by
  induction cs generalizing fuel out with
  | nil =>
    obtain ⟨fuel, rfl⟩ := Nat.exists_eq_add_of_lt enough
    simp [body, readText]
  | cons c cs ih =>
    cases fuel with
    | zero => exact absurd enough (Nat.not_lt_zero _)
    | succ fuel =>
      have fewer : cs.length < fuel := by simpa using enough
      have step := ih (c :: out) fewer
      simp only [body, List.flatMap_cons, List.append_assoc] at step ⊢
      rw [readText_escape, step]
      simp

/-- Read with the fuel of its own length, a written text comes back. -/
theorem readText_writeText (s : String) :
    readText ((body s.toList ++ '"' :: rest).length + 1) [] (body s.toList ++ '"' :: rest) =
      some (s, rest) := by
  have short := length_le_length_body s.toList
  rw [readText_body]
  · simp
  · simp only [List.length_append]
    omega

/-! ## Values -/

/-- A whole number as the decimal digits of its absolute value, after its sign. -/
theorem toList_toString_int (i : Int) :
    (toString i).toList =
      if i < 0 then '-' :: Nat.toDigits 10 i.natAbs else Nat.toDigits 10 i.natAbs := by
  cases i with
  | ofNat n => simp [toString, Int.repr, Nat.repr]
  | negSucc n => simp [toString, Int.repr, Nat.repr, Int.negSucc_lt_zero]

/-- A digit starts no value but a number. -/
theorem readValue_digit {c : Char} (digit : c.isDigit = true) (cs : List Char) :
    readValue (fuel + 1) (c :: cs) = readNumber false (c :: cs) := by
  rw [readValue, skipBlanks_digit digit]
  split <;> simp_all

/-- Whole numbers within the words of the reader read back. -/
theorem readValue_int {i : Int} (exact : IsExact (.int i)) (ends : Ends rest) :
    readValue (fuel + 1) ((write (.int i)).toList ++ rest) = some (.int i, rest) := by
  obtain ⟨low, high⟩ : -0x8000000000000000 ≤ i ∧ i < 0x10000000000000000 := exact
  rw [write, toList_toString_int]
  split
  case isTrue negative =>
    have whole : wholeNumber true i.natAbs = .int i := by
      have fits : ¬(i.natAbs = 0 ∨ 0x8000000000000000 < i.natAbs) := by omega
      have back : -(i.natAbs : Int) = i := by omega
      rw [wholeNumber, if_pos rfl, if_neg fits, back]
    rw [List.cons_append, readValue]
    exact (readNumber_toDigits true _ ends).trans (by rw [whole])
  case isFalse positive =>
    have whole : wholeNumber false i.natAbs = .int i := by
      have fits : i.natAbs < 0x10000000000000000 := by omega
      have back : (i.natAbs : Int) = i := by omega
      rw [wholeNumber, if_neg (by decide), if_pos fits, back]
    rw [← whole, ← readNumber_toDigits false _ ends]
    obtain ⟨c, cs, digits, digit⟩ := exists_toDigits_eq_cons i.natAbs
    rw [digits]
    exact readValue_digit digit (cs ++ rest)

/-- A written value starts with a character that is neither blank nor a closing bracket. -/
theorem skipBlanks_write (exact : IsExact d) (rest : List Char) :
    skipBlanks ((write d).toList ++ rest) = (write d).toList ++ rest ∧
      ∀ cs, (write d).toList ++ rest ≠ ']' :: cs := by
  cases d with
  | null => exact ⟨rfl, by simp [write]⟩
  | bool b => cases b <;> exact ⟨rfl, by simp [write]⟩
  | float x => exact exact.elim
  | text s => simp [write, toList_writeText, skipBlanks]
  | list items => simp [write, skipBlanks]
  | table members => simp [write, skipBlanks]
  | int i =>
    rw [write, toList_toString_int]
    split
    · simp [skipBlanks]
    · obtain ⟨c, cs, digits, digit⟩ := exists_toDigits_eq_cons i.natAbs
      rw [digits]
      apply And.intro (skipBlanks_digit digit (cs ++ rest))
      intro cs' same
      obtain ⟨rfl, -⟩ := List.cons.inj same
      exact absurd digit (by decide)

/-- A written text reads back as a value. -/
theorem readValue_text (s : String) :
    readValue (fuel + 1) ((write (.text s)).toList ++ rest) = some (.text s, rest) := by
  have shape : (write (.text s)).toList ++ rest = '"' :: (body s.toList ++ '"' :: rest) := by
    simp [write, toList_writeText]
  have unblank : skipBlanks ('"' :: (body s.toList ++ '"' :: rest)) =
      '"' :: (body s.toList ++ '"' :: rest) := rfl
  rw [shape, readValue, unblank]
  simp only [readText_writeText, Option.map_some]

/-- The texts of two parts or more, one after the other. -/
theorem toList_intercalate_cons_cons (a b : String) (l : List String) :
    (",".intercalate (a :: b :: l)).toList =
      a.toList ++ ',' :: (",".intercalate (b :: l)).toList := by
  simp [String.intercalate_cons_cons]

/-- The text of two parts or more is longer than its first part and than the others. -/
theorem length_intercalate_cons_cons (a b : String) (l : List String) :
    (",".intercalate (a :: b :: l)).length =
      a.length + (",".intercalate (b :: l)).length + 1 := by
  rw [← String.length_toList, toList_intercalate_cons_cons, List.length_append, List.length_cons,
    String.length_toList, String.length_toList, Nat.add_assoc]

/-- The part of a member before its value is read as its name. -/
theorem readMembers_name (key : String) (done : List (String × Document)) (cs : List Char) :
    readMembers (fuel + 1) done ((writeText key ++ ":").toList ++ cs) =
      match readValue fuel cs with
      | none => none
      | some (value, rest) =>
        match skipBlanks rest with
        | ',' :: rest => readMembers fuel ((key, value) :: done) rest
        | '\x7d' :: rest => some (ofMembers ((key, value) :: done).reverse, rest)
        | _ => none := by
  have shape : (writeText key ++ ":").toList ++ cs =
      '"' :: (body key.toList ++ '"' :: (':' :: cs)) := by
    simp [toList_writeText]
  have unblank : skipBlanks ('"' :: (body key.toList ++ '"' :: (':' :: cs))) =
      '"' :: (body key.toList ++ '"' :: (':' :: cs)) := rfl
  rw [shape, readMembers, unblank]
  simp only [readText_writeText]
  rfl

/-- What stands between two brackets is read with two units of fuel less. -/
theorem length_lt_of_enclosed {opening inner closing : String}
    (enough : (opening ++ inner ++ closing).length < fuel + 1) (one : opening.length = 1)
    (other : closing.length = 1) : inner.length + 1 < fuel := by
  rw [String.length_append, String.length_append] at enough
  omega

/-- A written list reads back if its items do. -/
theorem readValue_list {item : Document} (exact : IsExact item)
    (read : readItems fuel []
        ((",".intercalate (writeItems (item :: items))).toList ++ ']' :: rest) =
      some (.list (item :: items), rest)) :
    readValue (fuel + 1) ((write (.list (item :: items))).toList ++ rest) =
      some (.list (item :: items), rest) := by
  have shape : (write (.list (item :: items))).toList ++ rest =
      '[' :: ((",".intercalate (writeItems (item :: items))).toList ++ ']' :: rest) := by
    simp [write]
  have first : ∃ cs, (",".intercalate (writeItems (item :: items))).toList ++ ']' :: rest =
      (write item).toList ++ cs := by
    cases items with
    | nil => exact ⟨']' :: rest, by simp [writeItems]⟩
    | cons next items =>
      rw [writeItems, writeItems, toList_intercalate_cons_cons, List.append_assoc]
      exact ⟨_, rfl⟩
  obtain ⟨cs, first⟩ := first
  obtain ⟨unblank, opens⟩ := skipBlanks_write exact cs
  have bracket : skipBlanks ('[' :: ((write item).toList ++ cs)) =
      '[' :: ((write item).toList ++ cs) := rfl
  rw [shape, readValue]
  rw [first] at read ⊢
  simp only [bracket, unblank]
  exact read

/-- A written table in order reads back if its members do. -/
theorem readValue_table {m : String × Document}
    (ascending : (m :: members).Pairwise fun a b => a.1 < b.1)
    (read : readMembers fuel []
        ((",".intercalate (writeMembers (m :: members))).toList ++ '\x7d' :: rest) =
      some (ofMembers (m :: members), rest)) :
    readValue (fuel + 1) ((write (.table (m :: members))).toList ++ rest) =
      some (.table (m :: members), rest) := by
  have shape : (write (.table (m :: members))).toList ++ rest =
      '\x7b' :: ((",".intercalate (writeMembers (m :: members))).toList ++ '\x7d' :: rest) := by
    simp [write]
  have first : ∃ cs, (",".intercalate (writeMembers (m :: members))).toList ++ '\x7d' :: rest =
      '"' :: cs := by
    cases members with
    | nil => simp [writeMembers, toList_writeText]
    | cons next members => simp [writeMembers, toList_writeText]
  have table : ofMembers (m :: members) = .table (m :: members) := by
    rw [ofMembers, Members.ofList_of_pairwise ascending]
  obtain ⟨cs, first⟩ := first
  rw [shape, readValue, ← table]
  rw [first] at read ⊢
  exact read

mutual

/-- A written value reads back at an end. One unit of fuel more than characters is enough,
since each step takes one unit and at least one character. -/
theorem readValue_write (d : Document) (fuel : Nat) (rest : List Char) (exact : IsExact d)
    (ends : Ends rest) (enough : (write d).length < fuel) :
    readValue fuel ((write d).toList ++ rest) = some (d, rest) := by
  cases fuel with
  | zero => exact absurd enough (Nat.not_lt_zero _)
  | succ fuel =>
    cases d with
    | null => rfl
    | bool b => cases b <;> rfl
    | int i => exact readValue_int exact ends
    | float x => exact exact.elim
    | text s => exact readValue_text s
    | list items =>
      cases items with
      | nil => rfl
      | cons item items =>
        apply readValue_list exact.1
        exact readItems_write item items [] fuel rest exact
          (length_lt_of_enclosed enough rfl rfl)
    | table members =>
      cases members with
      | nil => rfl
      | cons m members =>
        apply readValue_table exact.1
        exact readMembers_write m members [] fuel rest exact.2
          (length_lt_of_enclosed enough rfl rfl)
termination_by fuel

/-- Written items read back up to the closing bracket. -/
theorem readItems_write (item : Document) (items done : List Document) (fuel : Nat)
    (rest : List Char) (exact : AllExact (item :: items))
    (enough : (",".intercalate (writeItems (item :: items))).length + 1 < fuel) :
    readItems fuel done ((",".intercalate (writeItems (item :: items))).toList ++ ']' :: rest) =
      some (.list (done.reverse ++ item :: items), rest) := by
  cases fuel with
  | zero => exact absurd enough (Nat.not_lt_zero _)
  | succ fuel =>
    cases items with
    | nil =>
      rw [writeItems, writeItems, String.intercalate_singleton] at enough ⊢
      have read := readValue_write item fuel (']' :: rest) exact.1 ends_bracket (by omega)
      simp [readItems, read, skipBlanks]
    | cons next items =>
      rw [writeItems, writeItems, length_intercalate_cons_cons, ← writeItems] at enough
      rw [writeItems, writeItems, toList_intercalate_cons_cons, ← writeItems]
      have read := readValue_write item fuel
        (',' :: ((",".intercalate (writeItems (next :: items))).toList ++ ']' :: rest))
        exact.1 ends_comma (by omega)
      have later := readItems_write next items (item :: done) fuel rest exact.2 (by omega)
      rw [List.append_assoc, List.cons_append, readItems, read]
      simpa [skipBlanks] using later
termination_by fuel

/-- Written members read back up to the closing brace. -/
theorem readMembers_write (m : String × Document) (members done : List (String × Document))
    (fuel : Nat) (rest : List Char) (exact : MembersExact (m :: members))
    (enough : (",".intercalate (writeMembers (m :: members))).length + 1 < fuel) :
    readMembers fuel done
        ((",".intercalate (writeMembers (m :: members))).toList ++ '\x7d' :: rest) =
      some (ofMembers (done.reverse ++ m :: members), rest) := by
  obtain ⟨key, value⟩ := m
  cases fuel with
  | zero => exact absurd enough (Nat.not_lt_zero _)
  | succ fuel =>
    cases members with
    | nil =>
      rw [writeMembers, writeMembers, String.intercalate_singleton] at enough ⊢
      rw [String.length_append] at enough
      have read := readValue_write value fuel ('\x7d' :: rest) exact.1 ends_brace (by omega)
      rw [String.toList_append, List.append_assoc, readMembers_name, read]
      simp [skipBlanks]
    | cons next members =>
      obtain ⟨name, inner⟩ := next
      rw [writeMembers, writeMembers, length_intercalate_cons_cons, ← writeMembers,
        String.length_append] at enough
      rw [writeMembers, writeMembers, toList_intercalate_cons_cons, ← writeMembers]
      have read := readValue_write value fuel
        (',' :: ((",".intercalate (writeMembers ((name, inner) :: members))).toList ++
          '\x7d' :: rest))
        exact.1 ends_comma (by omega)
      have later := readMembers_write (name, inner) members ((key, value) :: done) fuel rest
        exact.2 (by omega)
      rw [String.toList_append, List.append_assoc, List.append_assoc, List.cons_append,
        readMembers_name, read]
      simpa [skipBlanks] using later
termination_by fuel

end

/-- A document with an exact text is what its text reads as. -/
theorem read?_write (exact : IsExact d) : read? (write d) = some d := by
  have read := readValue_write d ((write d).length + 1) [] exact ends_nil (Nat.lt_succ_self _)
  rw [List.append_nil] at read
  simp [read?, read, skipBlanks]

end Json

end MessageBroker.Document
