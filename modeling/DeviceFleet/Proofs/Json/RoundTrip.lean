import DeviceFleet.Json.Parser
import DeviceFleet.Json.Printer
import DeviceFleet.Proofs.Text.Decimal
import DeviceFleet.Table.Lemmas
import Mathlib.Algebra.Ring.Int.Defs
import Mathlib.Algebra.Ring.Nat
import Mathlib.Tactic.SplitIfs

/-! JSON values are read again from the text that is written for them. -/

namespace DeviceFleet.Json

open Text

def fieldText (e : String × Json) : String := quote e.1 ++ ":" ++ e.2.render

lemma renderItems_eq (items : List Json) : renderItems items = items.map render := by
  induction items with
  | nil => rfl
  | cons j r ih => rw [renderItems, ih, List.map_cons]

lemma renderFields_eq (fields : List (String × Json)) :
    renderFields fields = fields.map fieldText := by
  induction fields with
  | nil => rfl
  | cons e r ih => rw [renderFields, ih, List.map_cons, fieldText]

namespace Parser

variable {c : Char} {s rest : List Char} {n : Nat}

section Texts

lemma fourDigits_append (h : s.length = 4) (rest : List Char) :
    fourDigits (s ++ rest) = (fourDigits s).map fun p => (p.1, rest) := by
  match s, h with
  | [a, b, c, d], _ =>
    simp only [fourDigits, List.cons_append, List.nil_append]
    cases nibble? a <;> cases nibble? b <;> cases nibble? c <;> cases nibble? d <;> rfl

def IsCoded (c : Char) : Prop :=
  c.toNat < 0x20 ∨ c.toNat = 0x85 ∨ c.toNat = 0x2028 ∨ c.toNat = 0x2029

lemma escapeCode_of_isCoded (h : IsCoded c) :
    ∃ digits, escapeCode c = '\\' :: 'u' :: digits ∧ digits.length = 4 ∧
      fourDigits digits = some (c.toNat, []) := by
  have hall : ∀ k ∈ List.range 0x20 ++ [0x85, 0x2028, 0x2029],
      ((escapeCode (Char.ofNat k)).drop 2).length = 4 ∧
        fourDigits ((escapeCode (Char.ofNat k)).drop 2) = some ((Char.ofNat k).toNat, []) := by
    decide +kernel
  have hmem : c.toNat ∈ List.range 0x20 ++ [0x85, 0x2028, 0x2029] := by
    rw [List.mem_append, List.mem_range]
    simpa [IsCoded] using h
  have hc := hall c.toNat hmem
  rw [Char.ofNat_toNat] at hc
  exact ⟨_, rfl, hc⟩

lemma codePoint_escapeCode (h : IsCoded c) (rest : List Char) :
    ∃ digits, escapeCode c = '\\' :: 'u' :: digits ∧ codePoint (digits ++ rest) = some (c, rest) := by
  obtain ⟨digits, hdigits, hlen, hread⟩ := escapeCode_of_isCoded h
  have hplain : c.toNat < 0xD800 := by
    unfold IsCoded at h
    omega
  have hhigh : ¬ (0xD800 ≤ c.toNat ∧ c.toNat < 0xDC00) := by omega
  have hlow : ¬ (0xDC00 ≤ c.toNat ∧ c.toNat < 0xE000) := by omega
  refine ⟨digits, hdigits, ?_⟩
  rw [codePoint, fourDigits_append hlen, hread]
  simp [hhigh, hlow]

/-- Whatever is written for a character is read as this character. -/
lemma textRest_escapeChar (n : Nat) (done : List Char) (c : Char) (rest : List Char) :
    textRest (n + 1) done (escapeChar c ++ rest) = textRest n (c :: done) rest := by
  rw [escapeChar]
  split
  · next h => rw [h]; rfl
  split
  · next h => rw [h]; rfl
  split
  · next h => rw [h]; rfl
  split
  · next h => rw [h]; rfl
  split
  · next h => rw [h]; rfl
  split
  · next h =>
    obtain ⟨digits, hdigits, hread⟩ := codePoint_escapeCode h rest
    rw [hdigits]
    simp [textRest, hread]
  · next hquote hslash _ _ _ hcoded =>
    have hplain : ¬ c.toNat < 0x20 := fun h => hcoded (.inl h)
    simp [textRest, hslash, hplain]

lemma textRest_flatMap {cs : List Char} (hn : cs.length < n) (done rest : List Char) :
    textRest n done (cs.flatMap escapeChar ++ '"' :: rest) =
      some (String.ofList (done.reverse ++ cs), rest) := by
  induction cs generalizing n done with
  | nil =>
    obtain ⟨n, rfl⟩ := Nat.exists_eq_add_of_lt hn
    simp [textRest]
  | cons c cs ih =>
    obtain ⟨n, rfl⟩ := Nat.exists_eq_add_of_lt hn
    rw [List.flatMap_cons, List.append_assoc, textRest_escapeChar, ih (by simp; omega)]
    simp

lemma length_le_flatMap_escapeChar (cs : List Char) :
    cs.length ≤ (cs.flatMap escapeChar).length := by
  induction cs with
  | nil => exact Nat.zero_le 0
  | cons c cs ih =>
    have hpos : 0 < (escapeChar c).length := by
      unfold escapeChar escapeCode
      split_ifs <;> simp
    rw [List.flatMap_cons, List.length_append, List.length_cons]
    omega

lemma textRest_quoted (s : String) (rest : List Char) :
    textRest ((s.toList.flatMap escapeChar ++ '"' :: rest).length + 1) []
      (s.toList.flatMap escapeChar ++ '"' :: rest) = some (s, rest) := by
  rw [textRest_flatMap, List.reverse_nil, List.nil_append, String.ofList_toList]
  have hle := length_le_flatMap_escapeChar s.toList
  rw [List.length_append]
  omega

end Texts

section Numerals

/-- What may stand after a value inside a list, an object or nothing at all. -/
def Stops : List Char → Prop
  | [] => True
  | c :: _ => c = ',' ∨ c = ']' ∨ c = '\x7d'

lemma stops_comma (r : List Char) : Stops (',' :: r) := Or.inl rfl

lemma stops_bracket (r : List Char) : Stops (']' :: r) := Or.inr (Or.inl rfl)

lemma stops_brace (r : List Char) : Stops ('\x7d' :: r) := Or.inr (Or.inr rfl)

lemma Stops.takeWhile (h : Stops rest) : rest.takeWhile Decimal.isDigit = [] := by
  cases rest with
  | nil => rfl
  | cons c r => rcases h with rfl | rfl | rfl <;> rfl

lemma Stops.dropWhile (h : Stops rest) : rest.dropWhile Decimal.isDigit = rest := by
  cases rest with
  | nil => rfl
  | cons c r => rcases h with rfl | rfl | rfl <;> rfl

lemma Stops.fraction? (h : Stops rest) : fraction? rest = some (none, rest) := by
  cases rest with
  | nil => rfl
  | cons c r => rcases h with rfl | rfl | rfl <;> rfl

lemma Stops.exponent? (h : Stops rest) : exponent? rest = some (none, rest) := by
  cases rest with
  | nil => rfl
  | cons c r => rcases h with rfl | rfl | rfl <;> rfl

lemma takeWhile_digits (n : Nat) (h : Stops rest) :
    (Decimal.digits n ++ rest).takeWhile Decimal.isDigit = Decimal.digits n := by
  rw [List.takeWhile_append_of_pos fun c => Decimal.isDigit_of_mem_digits, h.takeWhile,
    List.append_nil]

lemma dropWhile_digits (n : Nat) (h : Stops rest) :
    (Decimal.digits n ++ rest).dropWhile Decimal.isDigit = rest := by
  rw [List.dropWhile_append_of_pos fun c => Decimal.isDigit_of_mem_digits, h.dropWhile]

lemma not_leading_zero (n : Nat) :
    ¬ ((Decimal.digits n).isEmpty ∨
      ((Decimal.digits n).head? = some '0' ∧ (Decimal.digits n).length > 1)) := by
  rintro (hempty | ⟨hhead, hlong⟩)
  · exact Nat.toDigits_ne_nil (List.isEmpty_iff.mp hempty)
  · rcases Nat.eq_zero_or_pos n with rfl | hpos
    · exact absurd hlong (by decide)
    · exact Decimal.head?_digits hpos hhead

lemma numeral?_digits (n : Nat) (h : Stops rest) :
    numeral? (Decimal.digits n ++ rest) = some (⟨false, Decimal.digits n, none, none⟩, rest) := by
  have hminus : ∀ r, Decimal.digits n ++ rest ≠ '-' :: r := by
    intro r heq
    obtain ⟨c, cs, hcs, hdigit⟩ := Decimal.exists_cons_digits n
    rw [hcs, List.cons_append, List.cons.injEq] at heq
    rw [heq.1] at hdigit
    exact absurd hdigit (by decide)
  rw [numeral?.eq_2 _ hminus, takeWhile_digits n h, if_neg (not_leading_zero n),
    dropWhile_digits n h, h.fraction?]
  simp [h.exponent?]

lemma numeral?_minus_digits (n : Nat) (h : Stops rest) :
    numeral? ('-' :: (Decimal.digits n ++ rest)) =
      some (⟨true, Decimal.digits n, none, none⟩, rest) := by
  rw [numeral?, takeWhile_digits n h, if_neg (not_leading_zero n), dropWhile_digits n h,
    h.fraction?]
  simp [h.exponent?]

end Numerals

section Values

lemma skipSpace_cons (h : isSpace c = false) (r : List Char) : skipSpace (c :: r) = c :: r := by
  rw [skipSpace, List.dropWhile_cons_of_neg (by simp [h])]

lemma isSpace_of_isDigit (h : Decimal.isDigit c) : isSpace c = false := by
  refine Bool.eq_false_iff.mpr fun hspace => ?_
  simp only [isSpace, Bool.or_eq_true, decide_eq_true_eq] at hspace
  rcases hspace with ((rfl | rfl) | rfl) | rfl <;> exact absurd h (by decide)

lemma value_of_numeral (hc : Decimal.isDigit c ∨ c = '-') (r : List Char) :
    value (n + 1) (c :: r) = (numeral? (c :: r)).map fun p => (p.1.value, p.2) := by
  have hmem : c ∈ ['-', '0', '1', '2', '3', '4', '5', '6', '7', '8', '9'] := by
    rcases hc with hc | rfl
    · obtain ⟨hlow, hhigh⟩ := Decimal.toNat_of_isDigit hc
      have hall : ∀ k ∈ List.range' 48 10,
          Char.ofNat k ∈ ['-', '0', '1', '2', '3', '4', '5', '6', '7', '8', '9'] := by decide
      have hk := hall c.toNat (List.mem_range'_1.mpr ⟨hlow, by omega⟩)
      rwa [Char.ofNat_toNat] at hk
    · decide
  simp only [List.mem_cons, List.not_mem_nil, or_false] at hmem
  rcases hmem with rfl | rfl | rfl | rfl | rfl | rfl | rfl | rfl | rfl | rfl | rfl <;>
    simp [value, skipSpace, isSpace, word?]

lemma value_count {k : Nat} (hk : k < 2 ^ 64) (h : Stops rest) :
    value (n + 1) (Decimal.digits k ++ rest) = some (.integer k, rest) := by
  obtain ⟨c, cs, hcs, hdigit⟩ := Decimal.exists_cons_digits k
  have hnumeral := value_of_numeral (n := n) (.inl hdigit) (cs ++ rest)
  rw [← List.cons_append, ← hcs, numeral?_digits k h] at hnumeral
  have hvalue : Numeral.value ⟨false, Decimal.digits k, none, none⟩ = .integer k := by
    have hsize : k < UInt64.size := hk
    simp only [Numeral.value, Option.getD_none, List.append_nil, Decimal.value_digits]
    exact if_pos hsize
  rw [hnumeral, Option.map_some, hvalue]

lemma value_negative {k : Nat} (hpos : 0 < k) (hk : k ≤ 2 ^ 63) (h : Stops rest) :
    value (n + 1) ('-' :: (Decimal.digits k ++ rest)) = some (.integer (-k), rest) := by
  rw [value_of_numeral (.inr rfl), numeral?_minus_digits k h]
  have hfit : ¬ (k = 0 ∨ 9223372036854775808 < k) := by omega
  simp [Numeral.value, Decimal.value_digits, hfit]

lemma quote_append (s : String) (rest : List Char) :
    (quote s).toList ++ rest = '"' :: (s.toList.flatMap escapeChar ++ '"' :: rest) := by
  simp [quote]

lemma value_text (s : String) (rest : List Char) :
    value (n + 1) ((quote s).toList ++ rest) = some (.text s, rest) := by
  have hquote (r : List Char) : value (n + 1) ('"' :: r) =
      (textRest (r.length + 1) [] r).map fun p => (.text p.1, p.2) := by
    simp [value, skipSpace, isSpace]
  rw [quote_append, hquote, textRest_quoted]
  rfl

/-- A value that is read again, whatever follows it, from the text that is written for it. -/
def Reads (j : Json) : Prop :=
  ∀ n rest, 2 * j.render.length ≤ n → Stops rest →
    value (n + 1) (j.render.toList ++ rest) = some (j, rest)

/-- What is written of several items or fields, with a comma between each two. -/
def joined (parts : List String) : List Char := (",".intercalate parts).toList

@[simp] lemma joined_singleton (x : String) : joined [x] = x.toList := by
  simp [joined]

@[simp] lemma joined_cons_cons (x y : String) (r : List String) :
    joined (x :: y :: r) = x.toList ++ ',' :: joined (y :: r) := by
  simp [joined, String.toList_intercalate]

lemma items_joined {items : List Json} (hne : items ≠ []) (hreads : ∀ j ∈ items, Reads j)
    (hn : 2 * (joined (items.map render)).length ≤ n) (rest : List Char) :
    Parser.items (n + 2) (joined (items.map render) ++ ']' :: rest) = some (items, rest) := by
  induction items generalizing n with
  | nil => exact absurd rfl hne
  | cons j r ih =>
    have hj := hreads j List.mem_cons_self
    cases r with
    | nil =>
      simp only [List.map_cons, List.map_nil, joined_singleton, String.length_toList] at hn ⊢
      rw [Parser.items, hj n (']' :: rest) (by omega) (stops_bracket rest)]
      rfl
    | cons k r =>
      simp only [List.map_cons, joined_cons_cons, List.length_append, List.length_cons,
        String.length_toList, List.append_assoc, List.cons_append] at hn ih ⊢
      rw [Parser.items, hj n _ (by omega) (stops_comma _)]
      obtain ⟨n, rfl⟩ := Nat.exists_eq_add_of_le' (show 1 ≤ n by omega)
      have hrest := ih (List.cons_ne_nil k r) (fun i hi => hreads i (List.mem_cons_of_mem j hi))
        (n := n) (by omega)
      simp [skipSpace, isSpace, hrest]

lemma fieldText_append (e : String × Json) (rest : List Char) :
    (fieldText e).toList ++ rest =
      '"' :: (e.1.toList.flatMap escapeChar ++ '"' :: ':' :: (e.2.render.toList ++ rest)) := by
  simp [fieldText, quote]

lemma fields_step {e : String × Json} (hreads : Reads e.2) (hn : 2 * (fieldText e).length ≤ n)
    (done : List (String × Json)) (h : Stops rest) :
    Parser.fields (n + 2) done ((fieldText e).toList ++ rest) =
      match skipSpace rest with
      | ',' :: r => Parser.fields (n + 1) (Table.putEntry e.1 e.2 done) r
      | '\x7d' :: r => some (Table.putEntry e.1 e.2 done, r)
      | _ => none := by
  have hlen : 2 * e.2.render.length ≤ n := by
    simp only [fieldText, String.length_append] at hn
    omega
  rw [fieldText_append, Parser.fields, skipSpace_cons (by decide)]
  simp only [textRest_quoted, Option.bind_eq_bind, Option.bind_some]
  rw [skipSpace_cons (by decide)]
  change (value (n + 1) (e.2.render.toList ++ rest)).bind _ = _
  rw [hreads n rest hlen h]
  rfl

lemma fields_joined {fields : List (String × Json)} (hne : fields ≠ [])
    (hreads : ∀ e ∈ fields, Reads e.2) (done : List (String × Json))
    (hn : 2 * (joined (fields.map fieldText)).length ≤ n) (rest : List Char) :
    Parser.fields (n + 2) done (joined (fields.map fieldText) ++ '\x7d' :: rest) =
      some (fields.foldl (fun es e => Table.putEntry e.1 e.2 es) done, rest) := by
  induction fields generalizing n done with
  | nil => exact absurd rfl hne
  | cons e r ih =>
    have he := hreads e List.mem_cons_self
    cases r with
    | nil =>
      simp only [List.map_cons, List.map_nil, joined_singleton, String.length_toList] at hn ⊢
      rw [fields_step he (by omega) done (stops_brace rest)]
      rfl
    | cons f r =>
      simp only [List.map_cons, joined_cons_cons, List.length_append, List.length_cons,
        String.length_toList, List.append_assoc, List.cons_append] at hn ih ⊢
      rw [fields_step he (by omega) done (stops_comma _)]
      obtain ⟨n, rfl⟩ := Nat.exists_eq_add_of_le' (show 1 ≤ n by omega)
      have hrest := ih (List.cons_ne_nil f r) (fun i hi => hreads i (List.mem_cons_of_mem e hi))
        (Table.putEntry e.1 e.2 done) (n := n) (by omega)
      simp [skipSpace, isSpace, hrest]

lemma joined_cons (x : String) (r : List String) : ∃ s, joined (x :: r) = x.toList ++ s := by
  cases r with
  | nil => exact ⟨[], by simp⟩
  | cons y r => exact ⟨_, joined_cons_cons x y r⟩

lemma value_bracket (hspace : isSpace c = false) (hc : c ≠ ']') (s : List Char) :
    value (n + 1) ('[' :: c :: s) = (Parser.items n (c :: s)).map fun p => (.list p.1, p.2) := by
  rw [value, skipSpace_cons (by decide)]
  simp only [skipSpace_cons hspace]
  split
  · next heq => exact absurd (List.cons.inj heq).1 hc
  · rfl

lemma value_brace (s : List Char) :
    value (n + 1) ('\x7b' :: '"' :: s) =
      (Parser.fields n [] ('"' :: s)).map fun p => (.object p.1, p.2) := by
  simp [value, skipSpace, isSpace]

/-- What stands between two brackets is shorter than all by two characters, which makes up for the
two steps into it. -/
lemma exists_bound {text : String} {body : List Char} {opening closing : Char}
    (htext : text.toList ++ rest = opening :: (body ++ closing :: rest))
    (hn : 2 * text.length ≤ n) : ∃ m, n = m + 2 ∧ 2 * body.length ≤ m := by
  have hlen := congrArg List.length htext
  simp only [List.length_append, List.length_cons, String.length_toList] at hlen
  exact ⟨n - 2, by omega, by omega⟩

lemma reads_list {items : List Json} (hreads : ∀ j ∈ items, Reads j)
    (hopens : ∀ j ∈ items, ∃ c s, j.render.toList = c :: s ∧ isSpace c = false ∧ c ≠ ']') :
    Reads (.list items) := by
  -- A list with items must not be taken for the empty one, which is told by its first character.
  intro n rest hn hstops
  have htext : (render (.list items)).toList ++ rest =
      '[' :: (joined (items.map render) ++ ']' :: rest) := by
    simp [render, joined, renderItems_eq]
  obtain ⟨n, rfl, hbound⟩ := exists_bound htext hn
  rw [htext]
  cases items with
  | nil => simp [joined, value, skipSpace, isSpace]
  | cons j r =>
    have hitems := items_joined (List.cons_ne_nil j r) hreads hbound rest
    obtain ⟨c, s, hcs, hspace, hc⟩ := hopens j List.mem_cons_self
    obtain ⟨s', hs'⟩ := joined_cons j.render (r.map render)
    rw [List.map_cons, hs', hcs, List.cons_append, List.cons_append] at hitems ⊢
    rw [value_bracket hspace hc, hitems]
    rfl

lemma reads_object {fields : List (String × Json)} (hreads : ∀ e ∈ fields, Reads e.2)
    (hascending : Ascending fields) : Reads (.object fields) := by
  intro n rest hn hstops
  have htext : (render (.object fields)).toList ++ rest =
      '\x7b' :: (joined (fields.map fieldText) ++ '\x7d' :: rest) := by
    simp [render, joined, renderFields_eq]
  obtain ⟨n, rfl, hbound⟩ := exists_bound htext hn
  rw [htext]
  cases fields with
  | nil => simp [joined, value, skipSpace, isSpace]
  | cons e r =>
    have hfields := fields_joined (List.cons_ne_nil e r) hreads [] hbound rest
    rw [Table.foldl_putEntry hascending, List.nil_append] at hfields
    obtain ⟨s, hs⟩ := joined_cons (fieldText e) (r.map fieldText)
    rw [List.map_cons, hs, List.append_assoc, fieldText_append] at hfields ⊢
    rw [value_brace, hfields]
    rfl

end Values

lemma reads_integer {k : Int} (hlow : -2 ^ 63 ≤ k) (hhigh : k < 2 ^ 64) : Reads (.integer k) := by
  intro n rest _ hstops
  cases k with
  | ofNat k =>
    rw [Int.ofNat_eq_natCast] at hhigh
    simpa [render, Decimal.signedText, Decimal.text] using
      value_count (n := n) (k := k) (by omega) hstops
  | negSucc k =>
    simpa [render, Decimal.signedText, Decimal.text, Int.negSucc_eq] using
      value_negative (n := n) (k := k + 1) (by omega) (by omega) hstops

end Parser

open DeviceFleet.Json.Parser

/-- The values that are written without loss: whole numbers that keep to 64 bits, no others, and
objects with their fields in ascending order, as all are that are read. -/
inductive Writable : Json → Prop
  | null : Writable .null
  | boolean (b : Bool) : Writable (.boolean b)
  | integer {n : Int} (hlow : -2 ^ 63 ≤ n) (hhigh : n < 2 ^ 64) : Writable (.integer n)
  | text (s : String) : Writable (.text s)
  | list {items : List Json} (h : ∀ j ∈ items, Writable j) : Writable (.list items)
  | object {fields : List (String × Json)} (hascending : Ascending fields)
      (h : ∀ e ∈ fields, Writable e.2) : Writable (.object fields)

variable {j : Json}

lemma Writable.opens (h : Writable j) :
    ∃ c s, j.render.toList = c :: s ∧ isSpace c = false ∧ c ≠ ']' := by
  cases h with
  | null => exact ⟨'n', _, rfl, by decide, by decide⟩
  | boolean b => cases b <;> exact ⟨_, _, rfl, by decide, by decide⟩
  | @integer n hlow hhigh =>
    cases n with
    | ofNat n =>
      obtain ⟨c, s, hcs, hdigit⟩ := Text.Decimal.exists_cons_digits n
      refine ⟨c, s, by simp [render, Decimal.signedText, Decimal.text, hcs], ?_, ?_⟩
      · exact isSpace_of_isDigit hdigit
      · rintro rfl
        exact absurd hdigit (by decide)
    | negSucc n => exact ⟨'-', _, by simp [render, Decimal.signedText]; rfl, by decide, by decide⟩
  | text s => exact ⟨'"', _, by simp [render, quote]; rfl, by decide, by decide⟩
  | list h => exact ⟨'[', _, by simp [render]; rfl, by decide, by decide⟩
  | object _ h => exact ⟨'\x7b', _, by simp [render]; rfl, by decide, by decide⟩

lemma Writable.reads (h : Writable j) : Reads j := by
  induction h with
  | null => exact fun n rest _ _ => by simp [render, value, skipSpace, isSpace, word?]
  | boolean b =>
    cases b <;> exact fun n rest _ _ => by simp [render, value, skipSpace, isSpace, word?]
  | integer hlow hhigh => exact reads_integer hlow hhigh
  | text s => exact fun n rest _ _ => value_text s rest
  | list h ih => exact reads_list ih fun j hj => (h j hj).opens
  | object hascending h ih => exact reads_object ih hascending

theorem Writable.parse_render (h : Writable j) : parse j.render = some j := by
  have hread := h.reads (2 * j.render.length + 1) [] (by omega) trivial
  rw [List.append_nil] at hread
  rw [parse, hread]
  rfl

end DeviceFleet.Json
