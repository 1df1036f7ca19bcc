import DiceLang.Value.Display

/-!
# Values told from their display

A value without qualifiers can be told from the way it is written. The first character tells the
kind of the value, and from there the text tells where the value ends: truth values are words of
their own, pools and compound results end at their closing character, and a number ends where its
digits do. Only the last point asks something of the text that follows, and all the punctuation
complies with it.

So the main statement is about texts in which a value is followed by something else: if two such
texts are equal, then so are the values, and so is what follows them. With qualifiers nothing of
the kind holds, since a qualifier is written as it is.
-/

namespace DiceLang

set_option autoImplicit false

namespace Text

section Telling

variable {α : Type}

/-- No digit stands at the front of the text. -/
def Detached (text : List Char) : Prop :=
  ∀ first ∈ text.head?, ¬first.isDigit = true

theorem detached_nil : Detached [] :=
  nofun

theorem detached_cons {first : Char} (noDigit : ¬first.isDigit = true) (rest : List Char) :
    Detached (first :: rest) := by
  intro other member
  cases member
  exact noDigit

theorem Detached.take_digits {text : List Char} (detached : Detached text) :
    text.takeWhile Char.isDigit = [] := by
  cases text with
  | nil => rfl
  | cons first rest => exact List.takeWhile_cons_of_neg (detached first rfl)

/-- Among the admissible items, this one and its end are told by any text that starts with it. -/
def Told (write : α → List Char) (admissible : α → Prop) (item : α) : Prop :=
  ∀ other, admissible other → ∀ rest otherRest, Detached rest → Detached otherRest →
    write item ++ rest = write other ++ otherRest → item = other ∧ rest = otherRest

end Telling

section Delimited

/-- A mark between items and a closing character behind them. Neither is taken for a digit, nor one
for the other. -/
structure Delimiters (mark stop : Char) : Prop where
  mark_no_digit : ¬mark.isDigit = true
  stop_no_digit : ¬stop.isDigit = true
  differ : mark ≠ stop

variable {α : Type} {write : α → List Char} {admissible : α → Prop} {mark stop : Char}
  {items others : List α} {rest otherRest : List Char}

/-- What stands behind the first of several items. -/
def continued (write : α → List Char) (mark stop : Char) (items : List α) (rest : List Char) :
    List Char :=
  items.flatMap (fun item => mark :: ' ' :: write item) ++ stop :: rest

theorem continued_cons (item : α) (items : List α) (rest : List Char) :
    continued write mark stop (item :: items) rest =
      mark :: ' ' :: (write item ++ continued write mark stop items rest) := by
  simp [continued]

theorem intercalate_eq_continued (item : α) (items : List α) (rest : List Char) :
    List.intercalate [mark, ' '] ((item :: items).map write) ++ stop :: rest =
      write item ++ continued write mark stop items rest := by
  induction items generalizing item with
  | nil => simp [continued]
  | cons next items ih =>
      have onward := ih next
      rw [List.map_cons] at onward
      rw [List.map_cons, List.map_cons, List.intercalate_cons_cons, List.append_assoc, onward,
        continued_cons, List.append_assoc]
      rfl

theorem Delimiters.continued_detached (delimiters : Delimiters mark stop) :
    Detached (continued write mark stop items rest) := by
  cases items with
  | nil => exact detached_cons delimiters.stop_no_digit _
  | cons item items =>
      rw [continued_cons]
      exact detached_cons delimiters.mark_no_digit _

/-- Each further item is announced by the mark, so their number is told along with them. -/
theorem Delimiters.continued_told (delimiters : Delimiters mark stop)
    (told : ∀ item ∈ items, Told write admissible item)
    (allowed : ∀ other ∈ others, admissible other)
    (same : continued write mark stop items rest = continued write mark stop others otherRest) :
    items = others ∧ rest = otherRest := by
  induction items generalizing others with
  | nil =>
      cases others with
      | nil => exact ⟨rfl, (List.cons.inj same).2⟩
      | cons other others =>
          rw [continued_cons] at same
          exact absurd (List.cons.inj same).1.symm delimiters.differ
  | cons item items ih =>
      cases others with
      | nil =>
          rw [continued_cons] at same
          exact absurd (List.cons.inj same).1 delimiters.differ
      | cons other others =>
          rw [continued_cons, continued_cons] at same
          have behindMark := (List.cons.inj (List.cons.inj same).2).2
          obtain ⟨itemTold, itemsTold⟩ := List.forall_mem_cons.mp told
          obtain ⟨otherAllowed, othersAllowed⟩ := List.forall_mem_cons.mp allowed
          obtain ⟨rfl, onward⟩ := itemTold other otherAllowed _ _ delimiters.continued_detached
            delimiters.continued_detached behindMark
          obtain ⟨rfl, after⟩ := ih itemsTold othersAllowed onward
          exact ⟨rfl, after⟩

/-- No item starts with the closing character, so the first one is told as well. -/
theorem Delimiters.told (delimiters : Delimiters mark stop)
    (opened : ∀ item, admissible item → ∃ first text, write item = first :: text ∧ first ≠ stop)
    (admitted : ∀ item ∈ items, admissible item) (told : ∀ item ∈ items, Told write admissible item)
    (allowed : ∀ other ∈ others, admissible other)
    (same : List.intercalate [mark, ' '] (items.map write) ++ stop :: rest =
      List.intercalate [mark, ' '] (others.map write) ++ stop :: otherRest) :
    items = others ∧ rest = otherRest := by
  cases items with
  | nil =>
      cases others with
      | nil => exact ⟨rfl, (List.cons.inj same).2⟩
      | cons other others =>
          obtain ⟨first, text, written, notStop⟩ := opened other (allowed other List.mem_cons_self)
          rw [intercalate_eq_continued, written] at same
          exact absurd (List.cons.inj same).1.symm notStop
  | cons item items =>
      cases others with
      | nil =>
          obtain ⟨first, text, written, notStop⟩ := opened item (admitted item List.mem_cons_self)
          rw [intercalate_eq_continued, written] at same
          exact absurd (List.cons.inj same).1 notStop
      | cons other others =>
          have marked : continued write mark stop (item :: items) rest =
              continued write mark stop (other :: others) otherRest := by
            rw [continued_cons, continued_cons, ← intercalate_eq_continued,
              ← intercalate_eq_continued, same]
          exact delimiters.continued_told told allowed marked

end Delimited

namespace Decimal

theorem to_digits_front (n : Nat) {rest : List Char} (detached : Detached rest) :
    (Nat.toDigits 10 n ++ rest).takeWhile Char.isDigit = Nat.toDigits 10 n := by
  have digits : ∀ digit ∈ Nat.toDigits 10 n, digit.isDigit = true :=
    fun digit member => Nat.isDigit_of_mem_toDigits (by decide) (by decide) member
  rw [List.takeWhile_append_of_pos digits, detached.take_digits, List.append_nil]

theorem to_digits_told (n : Nat) : Told (Nat.toDigits 10) (fun _ => True) n := by
  intro m _ rest otherRest detached otherDetached same
  have digits : Nat.toDigits 10 n = Nat.toDigits 10 m := by
    rw [← to_digits_front n detached, same, to_digits_front m otherDetached]
  have numbers : n = m := by
    calc n = Nat.ofDigitChars 10 (Nat.toDigits 10 n) 0 := Nat.ofDigitChars_ten_toDigits.symm
      _ = Nat.ofDigitChars 10 (Nat.toDigits 10 m) 0 := by rw [digits]
      _ = m := Nat.ofDigitChars_ten_toDigits
  rw [digits] at same
  exact ⟨numbers, List.append_cancel_left same⟩

theorem to_digits_opening (n : Nat) :
    ∃ first digits, Nat.toDigits 10 n = first :: digits ∧ first.isDigit = true := by
  have nonempty : Nat.toDigits 10 n ≠ [] := Nat.toDigits_ne_nil
  obtain ⟨first, digits, written⟩ := List.exists_cons_of_ne_nil nonempty
  have among : first ∈ Nat.toDigits 10 n := written ▸ List.mem_cons_self
  exact ⟨first, digits, written, Nat.isDigit_of_mem_toDigits (by decide) (by decide) among⟩

theorem numeral_opening (n : Int) :
    ∃ first text, numeral n = first :: text ∧ (first = '-' ∨ first.isDigit = true) := by
  cases n with
  | ofNat n =>
      obtain ⟨first, digits, written, digit⟩ := to_digits_opening n
      exact ⟨first, digits, written, .inr digit⟩
  | negSucc n => exact ⟨'-', _, rfl, .inl rfl⟩

theorem to_digits_ne_sign {n : Nat} {rest text : List Char} :
    Nat.toDigits 10 n ++ rest ≠ '-' :: text := by
  intro same
  obtain ⟨first, digits, written, digit⟩ := to_digits_opening n
  rw [written] at same
  rw [(List.cons.inj same).1] at digit
  exact absurd digit (by decide)

theorem numeral_told (n : Int) : Told numeral (fun _ => True) n := by
  intro m _ rest otherRest detached otherDetached same
  cases n with
  | ofNat n =>
      cases m with
      | ofNat m =>
          obtain ⟨rfl, after⟩ := to_digits_told n m trivial _ _ detached otherDetached same
          exact ⟨rfl, after⟩
      | negSucc m => exact absurd same to_digits_ne_sign
  | negSucc n =>
      cases m with
      | ofNat m => exact absurd same.symm to_digits_ne_sign
      | negSucc m =>
          obtain ⟨numbers, after⟩ := to_digits_told (n + 1) (m + 1) trivial _ _ detached
            otherDetached (List.cons.inj same).2
          cases numbers
          exact ⟨rfl, after⟩

end Decimal

end Text

open Text

namespace Value

/-- There are no qualifiers in the value, at any depth. -/
inductive Unqualified : Value → Prop
  | number (n : Int) : Unqualified (.number n)
  | boolean (b : Bool) : Unqualified (.boolean b)
  | pool (members : List Int) : Unqualified (.pool members)
  | compound {parts : List Value} (all : ∀ part ∈ parts, Unqualified part) :
      Unqualified (.compound parts)

section Written

theorem number_plain : Layout.plain.number = Decimal.numeral := by
  funext n
  simp [Layout.number, Layout.blanks, Layout.plain]

theorem written_parts_eq_map (layout : Layout) (parts : List Value) :
    writtenParts layout parts = parts.map (written layout) := by
  induction parts with
  | nil => rw [writtenParts, List.map_nil]
  | cons part rest ih => rw [writtenParts, ih, List.map_cons]

theorem written_number (n : Int) : written .plain (.number n) = Decimal.numeral n := by
  rw [written, number_plain]

theorem written_boolean (b : Bool) :
    written .plain (.boolean b) =
      if b then ['t', 'r', 'u', 'e'] else ['f', 'a', 'l', 's', 'e'] := by
  rw [written]
  cases b with
  | false => decide
  | true => decide

theorem written_pool (members : List Int) (rest : List Char) :
    written .plain (.pool members) ++ rest =
      '(' :: (List.intercalate [',', ' '] (members.map Decimal.numeral) ++ ')' :: rest) := by
  simp [written, tuple, number_plain]

theorem written_compound (parts : List Value) (rest : List Char) :
    written .plain (.compound parts) ++ rest =
      '[' :: (List.intercalate [';', ' '] (parts.map (written .plain)) ++ ']' :: rest) := by
  simp [written, written_parts_eq_map]

end Written

/-- The kind of value that starts with this character. -/
def kindOpenedBy (first : Char) : Option ValueKind :=
  if first = '-' ∨ first.isDigit = true then some .number
  else if first = 't' ∨ first = 'f' then some .boolean
  else if first = '(' then some .pool
  else if first = '[' then some .compound
  else none

theorem written_opening {value : Value} (unqualified : value.Unqualified) :
    ∃ first text, value.written .plain = first :: text ∧
      kindOpenedBy first = some value.kind := by
  cases unqualified with
  | number n =>
      obtain ⟨first, text, written, opening⟩ := Decimal.numeral_opening n
      exact ⟨first, text, (written_number n).trans written, if_pos opening⟩
  | boolean b =>
      cases b with
      | false => exact ⟨'f', _, written_boolean false, by decide⟩
      | true => exact ⟨'t', _, written_boolean true, by decide⟩
  | pool members =>
      have written := written_pool members []
      rw [List.append_nil] at written
      exact ⟨'(', _, written, rfl⟩
  | @compound parts _ =>
      have written := written_compound parts []
      rw [List.append_nil] at written
      exact ⟨'[', _, written, rfl⟩

theorem kind_told {value other : Value} (unqualified : value.Unqualified)
    (otherUnqualified : other.Unqualified) {rest otherRest : List Char}
    (same : value.written .plain ++ rest = other.written .plain ++ otherRest) :
    value.kind = other.kind := by
  obtain ⟨first, text, written, opening⟩ := written_opening unqualified
  obtain ⟨otherFirst, otherText, otherWritten, otherOpening⟩ := written_opening otherUnqualified
  rw [written, otherWritten] at same
  rw [(List.cons.inj same).1, otherOpening] at opening
  exact (Option.some.inj opening).symm

theorem opening_ne {value : Value} (unqualified : value.Unqualified) {stop : Char}
    (opensNothing : kindOpenedBy stop = none) :
    ∃ first text, value.written .plain = first :: text ∧ first ≠ stop := by
  obtain ⟨first, text, written, opening⟩ := written_opening unqualified
  refine ⟨first, text, written, ?_⟩
  rintro rfl
  rw [opensNothing] at opening
  cases opening

theorem pool_told {members others : List Int} {rest otherRest : List Char}
    (same : written .plain (.pool members) ++ rest = written .plain (.pool others) ++ otherRest) :
    members = others ∧ rest = otherRest := by
  have delimiters : Delimiters ',' ')' := ⟨by decide, by decide, by decide⟩
  have opened : ∀ n : Int, True →
      ∃ first text, Decimal.numeral n = first :: text ∧ first ≠ ')' := by
    intro n _
    rw [← written_number]
    exact opening_ne (.number n) rfl
  rw [written_pool, written_pool] at same
  exact delimiters.told opened (fun _ _ => trivial) (fun n _ => Decimal.numeral_told n)
    (fun _ _ => trivial) (List.cons.inj same).2

theorem compound_told {parts others : List Value} {rest otherRest : List Char}
    (unqualified : ∀ part ∈ parts, part.Unqualified)
    (told : ∀ part ∈ parts, Told (written .plain) Unqualified part)
    (othersUnqualified : ∀ other ∈ others, other.Unqualified)
    (same : written .plain (.compound parts) ++ rest =
      written .plain (.compound others) ++ otherRest) :
    parts = others ∧ rest = otherRest := by
  have delimiters : Delimiters ';' ']' := ⟨by decide, by decide, by decide⟩
  rw [written_compound, written_compound] at same
  exact delimiters.told (fun _ part => opening_ne part rfl) unqualified told othersUnqualified
    (List.cons.inj same).2

theorem boolean_told {b other : Bool} {rest otherRest : List Char}
    (same : written .plain (.boolean b) ++ rest = written .plain (.boolean other) ++ otherRest) :
    b = other ∧ rest = otherRest := by
  rw [written_boolean, written_boolean] at same
  cases b with
  | false =>
      cases other with
      | false => exact ⟨rfl, List.append_cancel_left same⟩
      | true => exact absurd (List.cons.inj same).1 (by decide)
  | true =>
      cases other with
      | false => exact absurd (List.cons.inj same).1 (by decide)
      | true => exact ⟨rfl, List.append_cancel_left same⟩

/-- Parts are told before the results that are made up of them. -/
theorem written_told {value : Value} (unqualified : value.Unqualified) :
    Told (written .plain) Unqualified value := by
  induction unqualified with
  | number n =>
      intro other otherUnqualified rest otherRest detached otherDetached same
      have kinds := kind_told (.number n) otherUnqualified same
      cases otherUnqualified with
      | number m =>
          rw [written_number, written_number] at same
          obtain ⟨rfl, after⟩ :=
            Decimal.numeral_told n m trivial _ _ detached otherDetached same
          exact ⟨rfl, after⟩
      | _ => cases kinds
  | boolean b =>
      intro other otherUnqualified rest otherRest _ _ same
      have kinds := kind_told (.boolean b) otherUnqualified same
      cases otherUnqualified with
      | boolean c =>
          obtain ⟨rfl, after⟩ := boolean_told same
          exact ⟨rfl, after⟩
      | _ => cases kinds
  | pool members =>
      intro other otherUnqualified rest otherRest _ _ same
      have kinds := kind_told (.pool members) otherUnqualified same
      cases otherUnqualified with
      | pool others =>
          obtain ⟨rfl, after⟩ := pool_told same
          exact ⟨rfl, after⟩
      | _ => cases kinds
  | compound all ih =>
      -- The induction is on this value alone; of the other one it is enough that its parts are
      -- admissible.
      intro other otherUnqualified rest otherRest _ _ same
      have kinds := kind_told (.compound all) otherUnqualified same
      cases otherUnqualified with
      | compound othersAll =>
          obtain ⟨rfl, after⟩ := compound_told all ih othersAll same
          exact ⟨rfl, after⟩
      | _ => cases kinds

/-- Values without qualifiers, however deep and however long, have displays of their own. -/
theorem display_unambiguous {u v : Value} (uUnqualified : u.Unqualified)
    (vUnqualified : v.Unqualified) (same : u.display = v.display) : u = v := by
  have texts : u.written .plain ++ [] = v.written .plain ++ [] := by
    rw [String.ofList_injective same]
  exact (written_told uUnqualified v vUnqualified [] [] detached_nil detached_nil texts).1

/-- Empty values and negative numbers inside a result, which is put together in two ways. -/
theorem display_unambiguous_nested :
    let u : Value := .compound ([1, 2].map (fun n => .pool [n, -n]) ++ [.compound [], .pool []])
    let v : Value := .compound [.pool [1, -1], .pool [2, -2], .compound [], .pool []]
    u.Unqualified ∧ v.Unqualified ∧ v.display = "[(1, -1); (2, -2); []; ()]" ∧
      u.display = v.display ∧ u = v := by
  intro u v
  have parts : ∀ part ∈ [.pool [1, -1], .pool [2, -2], .compound [], .pool []],
      Unqualified part := by
    simp only [List.forall_mem_cons]
    exact ⟨.pool _, .pool _, .compound nofun, .pool _, nofun⟩
  have uUnqualified : u.Unqualified := .compound parts
  have vUnqualified : v.Unqualified := .compound parts
  have same : u.display = v.display := rfl
  exact ⟨uUnqualified, vUnqualified, by decide, same,
    display_unambiguous uUnqualified vUnqualified same⟩

example : (Value.qualifiers ["1", "-1"]).display = (Value.pool [1, -1]).display := by decide

end Value

end DiceLang
