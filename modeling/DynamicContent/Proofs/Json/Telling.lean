/-
# The text of a value tells it

Not every value is read back from its text, but no two values have the same text, however deep they
are and whatever numbers they hold. The first character says what kind of value follows. A number goes
on as far as the characters do that end no value, and a point or an exponent in it says that it is
floating. Anything else ends with itself.

As for reading, the text of a value is followed into the middle of another, so what stands behind it is
told as well. No text of a value holds a control character, so one that stands between texts is told from
what is in them.
-/

import DynamicContent.Proofs.Json.ReadBack
import DynamicContent.Proofs.Number.MarkedText

namespace DynamicContent.Json

/-! ## Kinds -/

/-- The kind of a value, by a character that may begin it. -/
def kind : Json → Char
  | null => 'n'
  | bool true => 't'
  | bool false => 'f'
  | int _ | float _ => '0'
  | string _ => '"'
  | array _ => '['
  | object _ => '{'

/-- The kind of the values that a character begins. -/
def kindOf (c : Char) : Char := if c.isDigit || c == '-' then '0' else c

/-- The first character of a text says what kind of value it is of. -/
theorem exists_chars_eq_cons (v : Json) : ∃ c cs, chars v = c :: cs ∧ kindOf c = v.kind := by
  cases v with
  | null => exact ⟨'n', _, rfl, rfl⟩
  | bool value => cases value <;> exact ⟨_, _, rfl, rfl⟩
  | int n =>
      by_cases hnegative : n < 0
      · exact ⟨'-', _, if_pos hnegative, rfl⟩
      · cases hdigits : Number.natText n.natAbs with
        | nil => exact absurd hdigits (Number.natText_ne_nil _)
        | cons c cs =>
            have hc : c.isDigit = true := Number.isDigit_of_mem_natText (hdigits ▸ List.mem_cons_self)
            exact ⟨c, cs, (if_neg hnegative).trans hdigits, if_pos (by simp [hc])⟩
  | float x =>
      obtain ⟨c, cs, htext, hc⟩ := Number.exists_magnitudeText_eq x
      rw [chars, Number.markedText_eq, ← Number.magnitudeText, htext]
      cases x.negative with
      | true => exact ⟨'-', _, rfl, rfl⟩
      | false => exact ⟨c, cs, rfl, if_pos (by simp [hc])⟩
  | string text => exact ⟨'"', _, rfl, rfl⟩
  | array items => exact ⟨'[', _, rfl, rfl⟩
  | object fields => exact ⟨'{', _, rfl, rfl⟩

theorem kind_eq_of_chars_append {v w : Json} {rest rest' : List Char}
    (h : chars v ++ rest = chars w ++ rest') : v.kind = w.kind := by
  obtain ⟨c, cs, hv, hc⟩ := exists_chars_eq_cons v
  obtain ⟨d, ds, hw, hd⟩ := exists_chars_eq_cons w
  rw [hv, hw] at h
  rw [← hc, ← hd, (List.cons.inj h).1]

theorem kind_mem (v : Json) : v.kind ∈ ['n', 't', 'f', '0', '"', '[', '{'] := by
  cases v with
  | bool value => cases value <;> simp [kind]
  | _ => simp [kind]

/-- No text of a value begins with what ends an array. -/
theorem chars_append_ne (v : Json) (rest more : List Char) : chars v ++ rest ≠ ']' :: more := by
  intro heq
  obtain ⟨c, cs, hv, hc⟩ := exists_chars_eq_cons v
  rw [hv] at heq
  rw [(List.cons.inj heq).1] at hc
  exact absurd (hc ▸ kind_mem v) (by decide)

/-! ## Numbers -/

/-- The text of a number in front of what ends a value is told, and so is what ends it. -/
theorem numberText_append_inj {s t rest rest' : List Char}
    (hs : ∀ c ∈ s, Number.IsNumberChar c) (ht : ∀ c ∈ t, Number.IsNumberChar c)
    (hrest : EndsValue rest) (hrest' : EndsValue rest') (h : s ++ rest = t ++ rest') :
    s = t ∧ rest = rest' := by
  have hinner {text : List Char} (htext : ∀ c ∈ text, Number.IsNumberChar c) :
      ∀ c ∈ text, decide (c ∉ [',', ']', '}']) = true := by
    intro c hc
    refine decide_eq_true fun hend => ?_
    simp only [List.mem_cons, List.not_mem_nil, or_false] at hend
    rcases htext c hc with hdigit | hmark
    · rcases hend with rfl | rfl | rfl <;> contradiction
    · rcases hend with rfl | rfl | rfl <;> exact absurd hmark (by decide)
  have houter {rest : List Char} (hrest : EndsValue rest) :
      ∀ c ∈ rest.head?, decide (c ∉ [',', ']', '}']) = false := by
    intro c hc
    rcases hrest c hc with rfl | rfl | rfl <;> rfl
  obtain ⟨htake, hdrop⟩ := Number.takeWhile_append_of_stop (hinner hs) (houter hrest)
  obtain ⟨htake', hdrop'⟩ := Number.takeWhile_append_of_stop (hinner ht) (houter hrest')
  rw [h] at htake hdrop
  exact ⟨htake.symm.trans htake', hdrop.symm.trans hdrop'⟩

theorem isNumberChar_of_mem_intText {n : Int} {c : Char} (h : c ∈ Number.intText n) :
    Number.IsNumberChar c := by
  rcases Number.isDigit_of_mem_intText h with rfl | hdigit
  · exact .inr (by decide)
  · exact .inl hdigit

theorem intText_inj {m n : Int} (h : Number.intText m = Number.intText n) : m = n := by
  have hread := congrArg Number.intOfText? h
  rw [Number.intOfText?_intText, Number.intOfText?_intText] at hread
  exact Option.some.inj hread

theorem eq_int_or_eq_float {v : Json} (h : v.kind = '0') : (∃ n, v = int n) ∨ ∃ x, v = float x := by
  cases v with
  | int n => exact .inl ⟨n, rfl⟩
  | float x => exact .inr ⟨x, rfl⟩
  | bool value => cases value <;> simp [kind] at h
  | _ => simp [kind] at h

/-- The text of a number tells it, whole or floating. -/
theorem number_append_inj {v w : Json} {rest rest' : List Char} (hv : v.kind = '0')
    (hw : w.kind = '0') (hrest : EndsValue rest) (hrest' : EndsValue rest')
    (h : chars v ++ rest = chars w ++ rest') : v = w ∧ rest = rest' := by
  have hint (n : Int) : ∀ c ∈ Number.intText n, Number.IsNumberChar c :=
    fun _ => isNumberChar_of_mem_intText
  have hfloat (x : Number.Binary64) := Number.isMarked_markedText x
  obtain ⟨n, rfl⟩ | ⟨x, rfl⟩ := eq_int_or_eq_float hv
  · obtain ⟨m, rfl⟩ | ⟨y, rfl⟩ := eq_int_or_eq_float hw
    · obtain ⟨htext, hbehind⟩ := numberText_append_inj (hint n) (hint m) hrest hrest' h
      exact ⟨congrArg int (intText_inj htext), hbehind⟩
    · obtain ⟨htext, -⟩ := numberText_append_inj (hint n) (hfloat y).1 hrest hrest' h
      exact absurd (htext ▸ (hfloat y).2) (Number.not_isMarked_intText n)
  · obtain ⟨m, rfl⟩ | ⟨y, rfl⟩ := eq_int_or_eq_float hw
    · obtain ⟨htext, -⟩ := numberText_append_inj (hfloat x).1 (hint m) hrest hrest' h
      exact absurd (htext ▸ (hfloat x).2) (Number.not_isMarked_intText m)
    · obtain ⟨htext, hbehind⟩ := numberText_append_inj (hfloat x).1 (hfloat y).1 hrest hrest' h
      exact ⟨congrArg float (Number.markedText_inj htext), hbehind⟩

/-! ## Texts -/

/-- What is in quotes is told. -/
theorem quoted_append_inj {s t : String} {rest rest' : List Char}
    (h : quoted s ++ rest = quoted t ++ rest') : s = t ∧ rest = rest' := by
  have hread := congrArg takeToken? h
  rw [takeToken?_quoted, takeToken?_quoted] at hread
  obtain ⟨htoken, hrest⟩ := Prod.mk.inj (Option.some.inj hread)
  exact ⟨Json.string.inj (Token.value.inj htoken), hrest⟩

/-! ## Values -/

/-- The rest of an array behind its first item. -/
def itemsTail (items : List Json) (rest : List Char) : List Char :=
  match items with
  | [] => ']' :: rest
  | v :: vs => ',' :: (itemChars (v :: vs) ++ ']' :: rest)

theorem itemChars_cons_append (v : Json) (items : List Json) (rest : List Char) :
    itemChars (v :: items) ++ ']' :: rest = chars v ++ itemsTail items rest := by
  cases items with
  | nil => rw [itemChars, itemsTail]
  | cons w items =>
      rw [itemChars, itemsTail, List.append_assoc, List.cons_append]
      exact List.cons_ne_nil _ _

theorem endsValue_itemsTail (items : List Json) (rest : List Char) :
    EndsValue (itemsTail items rest) := by
  cases items with
  | nil => exact endsValue_cons (.inr (.inl rfl)) _
  | cons v items => exact endsValue_cons (.inl rfl) _

/-- The rest of an object behind its first field. -/
def fieldsTail (fields : List (String × Json)) (rest : List Char) : List Char :=
  match fields with
  | [] => '}' :: rest
  | field :: fields => ',' :: (fieldChars (field :: fields) ++ '}' :: rest)

theorem fieldChars_cons_append (field : String × Json) (fields : List (String × Json))
    (rest : List Char) :
    fieldChars (field :: fields) ++ '}' :: rest =
      quoted field.1 ++ ':' :: (chars field.2 ++ fieldsTail fields rest) := by
  obtain ⟨k, v⟩ := field
  cases fields with
  | nil => rw [fieldChars, fieldsTail, List.append_assoc, List.cons_append]
  | cons other fields =>
      rw [fieldChars, fieldsTail, List.append_assoc, List.cons_append, List.append_assoc,
        List.cons_append]
      exact List.cons_ne_nil _ _

theorem endsValue_fieldsTail (fields : List (String × Json)) (rest : List Char) :
    EndsValue (fieldsTail fields rest) := by
  cases fields with
  | nil => exact endsValue_cons (.inr (.inr rfl)) _
  | cons field fields => exact endsValue_cons (.inl rfl) _

mutual

/-- The text of a value tells it, and what stands behind it. -/
theorem chars_append_inj (v w : Json) {rest rest' : List Char} (hrest : EndsValue rest)
    (hrest' : EndsValue rest') (h : chars v ++ rest = chars w ++ rest') :
    v = w ∧ rest = rest' := by
  have hkind := kind_eq_of_chars_append h
  cases v with
  | null =>
      cases w with
      | null => exact ⟨rfl, List.append_cancel_left h⟩
      | bool value => cases value <;> simp [kind] at hkind
      | _ => simp [kind] at hkind
  | bool value =>
      cases w with
      | bool value' =>
          obtain rfl : value = value' := by
            revert hkind
            cases value <;> cases value' <;> decide
          exact ⟨rfl, List.append_cancel_left h⟩
      | _ => cases value <;> simp [kind] at hkind
  | int n => exact number_append_inj rfl hkind.symm hrest hrest' h
  | float x => exact number_append_inj rfl hkind.symm hrest hrest' h
  | string s =>
      cases w with
      | string t =>
          obtain ⟨htext, hbehind⟩ := quoted_append_inj h
          exact ⟨congrArg string htext, hbehind⟩
      | bool value => cases value <;> simp [kind] at hkind
      | _ => simp [kind] at hkind
  | array items =>
      cases w with
      | array items' =>
          rw [chars, chars, List.cons_append, List.cons_append, List.append_assoc,
            List.append_assoc] at h
          obtain ⟨hitems, hbehind⟩ := itemChars_append_inj items items' (List.cons.inj h).2
          exact ⟨congrArg array hitems, hbehind⟩
      | bool value => cases value <;> simp [kind] at hkind
      | _ => simp [kind] at hkind
  | object fields =>
      cases w with
      | object fields' =>
          rw [chars, chars, List.cons_append, List.cons_append, List.append_assoc,
            List.append_assoc] at h
          obtain ⟨hfields, hbehind⟩ := fieldChars_append_inj fields fields' (List.cons.inj h).2
          exact ⟨congrArg object hfields, hbehind⟩
      | bool value => cases value <;> simp [kind] at hkind
      | _ => simp [kind] at hkind

/-- The text of the items of an array tells them. -/
theorem itemChars_append_inj (items items' : List Json) {rest rest' : List Char}
    (h : itemChars items ++ ']' :: rest = itemChars items' ++ ']' :: rest') :
    items = items' ∧ rest = rest' := by
  match items, items' with
  | [], [] => exact ⟨rfl, (List.cons.inj h).2⟩
  | [], w :: items' =>
      rw [itemChars_cons_append] at h
      exact absurd h.symm (chars_append_ne w _ _)
  | v :: items, [] =>
      rw [itemChars_cons_append] at h
      exact absurd h (chars_append_ne v _ _)
  | v :: items, w :: items' =>
      rw [itemChars_cons_append, itemChars_cons_append] at h
      obtain ⟨rfl, htail⟩ := chars_append_inj v w (endsValue_itemsTail items rest)
        (endsValue_itemsTail items' rest') h
      match items, items' with
      | [], [] => exact ⟨rfl, (List.cons.inj htail).2⟩
      | [], _ :: _ => exact absurd (List.cons.inj htail).1 (by decide)
      | _ :: _, [] => exact absurd (List.cons.inj htail).1 (by decide)
      | v' :: items, w' :: items' =>
          obtain ⟨hitems, hbehind⟩ :=
            itemChars_append_inj (v' :: items) (w' :: items') (List.cons.inj htail).2
          exact ⟨congrArg (List.cons v) hitems, hbehind⟩

/-- The text of the fields of an object tells them. -/
theorem fieldChars_append_inj (fields fields' : List (String × Json)) {rest rest' : List Char}
    (h : fieldChars fields ++ '}' :: rest = fieldChars fields' ++ '}' :: rest') :
    fields = fields' ∧ rest = rest' := by
  match fields, fields' with
  | [], [] => exact ⟨rfl, (List.cons.inj h).2⟩
  | [], field' :: fields' =>
      rw [fieldChars_cons_append] at h
      exact absurd (List.cons.inj h).1 (by decide)
  | field :: fields, [] =>
      rw [fieldChars_cons_append] at h
      exact absurd (List.cons.inj h).1 (by decide)
  | (k, v) :: fields, (k', w) :: fields' =>
      rw [fieldChars_cons_append, fieldChars_cons_append] at h
      obtain ⟨hname, hvalue⟩ := quoted_append_inj h
      obtain ⟨rfl, htail⟩ := chars_append_inj v w (endsValue_fieldsTail fields rest)
        (endsValue_fieldsTail fields' rest') (List.cons.inj hvalue).2
      obtain rfl : k = k' := hname
      match fields, fields' with
      | [], [] => exact ⟨rfl, (List.cons.inj htail).2⟩
      | [], _ :: _ => exact absurd (List.cons.inj htail).1 (by decide)
      | _ :: _, [] => exact absurd (List.cons.inj htail).1 (by decide)
      | field :: fields, field' :: fields' =>
          obtain ⟨hfields, hbehind⟩ :=
            fieldChars_append_inj (field :: fields) (field' :: fields') (List.cons.inj htail).2
          exact ⟨congrArg (List.cons (k, v)) hfields, hbehind⟩

end

/-- No two values have the same text. -/
theorem chars_inj {v w : Json} (h : chars v = chars w) : v = w := by
  have hend : EndsValue [] := fun c hc => absurd hc (by simp)
  exact (chars_append_inj v w hend hend (by rw [h])).1

/-! ## Control characters -/

/-- Whether a text can be seen: it has no character below the space. -/
def IsVisible (text : List Char) : Prop := ∀ c ∈ text, 0x20 ≤ c.toNat

instance (text : List Char) : Decidable (IsVisible text) := List.decidableBAll _ text

theorem IsVisible.append {s t : List Char} (hs : IsVisible s) (ht : IsVisible t) :
    IsVisible (s ++ t) := by
  intro c hc
  rcases List.mem_append.mp hc with hmem | hmem
  · exact hs c hmem
  · exact ht c hmem

theorem IsVisible.cons {c : Char} {text : List Char} (hc : 0x20 ≤ c.toNat) (h : IsVisible text) :
    IsVisible (c :: text) := List.forall_mem_cons.mpr ⟨hc, h⟩

theorem isVisible_escapeChar (c : Char) : IsVisible (escapeChar c) := by
  by_cases hcontrol : c.toNat < 0x20
  · have hall : ∀ i : Fin 0x20, IsVisible (escapeChar (Char.ofNat i)) := by decide
    have hchar := hall ⟨c.toNat, hcontrol⟩
    rwa [Char.ofNat_toNat] at hchar
  · rw [escapeChar]
    split
    · decide
    · split
      · decide
      · exact IsVisible.cons (Nat.not_lt.mp hcontrol) (List.forall_mem_nil _)

theorem isVisible_quoted (text : String) : IsVisible (quoted text) := by
  have hinner : IsVisible (text.toList.flatMap escapeChar) := by
    intro c hc
    obtain ⟨d, -, hd⟩ := List.mem_flatMap.mp hc
    exact isVisible_escapeChar d c hd
  apply IsVisible.cons (by decide)
  apply hinner.append
  decide

theorem isVisible_of_isNumberChar {text : List Char} (h : ∀ c ∈ text, Number.IsNumberChar c) :
    IsVisible text := by
  intro c hc
  rcases h c hc with hdigit | hmark
  · simp only [Char.isDigit, Bool.and_eq_true, decide_eq_true_eq, ge_iff_le,
      UInt32.le_iff_toNat_le] at hdigit
    exact le_trans (by decide) hdigit.1
  · have hmarks : IsVisible ['-', '+', '.', 'e'] := by decide
    exact hmarks c hmark

mutual

/-- No control character stands in the text of a value: in quotes they are all escaped. -/
theorem isVisible_chars (v : Json) : IsVisible (chars v) := by
  cases v with
  | null => decide
  | bool value => cases value <;> decide
  | int n => exact isVisible_of_isNumberChar fun _ => isNumberChar_of_mem_intText
  | float x => exact isVisible_of_isNumberChar (Number.isMarked_markedText x).1
  | string text => exact isVisible_quoted text
  | array items =>
      apply IsVisible.cons (by decide)
      apply (isVisible_itemChars items).append
      decide
  | object fields =>
      apply IsVisible.cons (by decide)
      apply (isVisible_fieldChars fields).append
      decide

theorem isVisible_itemChars (items : List Json) : IsVisible (itemChars items) := by
  match items with
  | [] => exact List.forall_mem_nil _
  | [v] => exact isVisible_chars v
  | v :: w :: items =>
      apply (isVisible_chars v).append
      exact (isVisible_itemChars (w :: items)).cons (by decide)

theorem isVisible_fieldChars (fields : List (String × Json)) : IsVisible (fieldChars fields) := by
  match fields with
  | [] => exact List.forall_mem_nil _
  | [(k, v)] =>
      apply (isVisible_quoted k).append
      exact (isVisible_chars v).cons (by decide)
  | (k, v) :: field :: fields =>
      apply (isVisible_quoted k).append
      apply IsVisible.cons (by decide)
      apply (isVisible_chars v).append
      exact (isVisible_fieldChars (field :: fields)).cons (by decide)

end

end DynamicContent.Json
