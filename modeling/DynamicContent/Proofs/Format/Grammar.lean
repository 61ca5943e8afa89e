/-
# The grammar of the serialised form

The reader goes through a text with a count of the steps that it may still take, and believes the
counts and lengths that the text claims. What it accepts is a grammar: a value has one of six forms, a
list or map has as many pairs as it says, and a text as many bytes. A text that claims more than it
has is in no form, and the count of steps never decides anything, since each value and each pair
takes characters off the text.
-/

import DynamicContent.Proofs.Format.ReadBack
import Mathlib.Data.List.TakeWhile

namespace DynamicContent

namespace Number

/-! ## The characters of numbers -/

/-- The characters that a number is written with. -/
def isNumeralChar (c : Char) : Bool := c.isDigit || ['+', '-', '.', 'e', 'E'].contains c

theorem isNumeralChar_of_isDigit {c : Char} (h : c.isDigit = true) : isNumeralChar c = true := by
  rw [isNumeralChar, h, Bool.true_or]

theorem isDigit_of_mem_natOfDigits? {cs : List Char} {n : Nat} (h : natOfDigits? cs = some n) :
    ∀ c ∈ cs, c.isDigit = true := by
  rw [natOfDigits?, Option.ite_none_right_eq_some, Bool.and_eq_true] at h
  exact List.all_eq_true.mp h.1.2

/-- What a sign is taken off is written with the characters of numbers if the rest is. -/
theorem isNumeralChar_of_takeSign {cs : List Char}
    (h : ∀ c ∈ (takeSign cs).2, isNumeralChar c = true) : ∀ c ∈ cs, isNumeralChar c = true := by
  unfold takeSign at h
  split at h
  · exact List.forall_mem_cons.mpr ⟨by decide, h⟩
  · exact List.forall_mem_cons.mpr ⟨by decide, h⟩
  · exact h

theorem isNumeralChar_of_mem_int {cs : List Char} {n : Int} (h : intOfText? cs = some n) :
    ∀ c ∈ cs, isNumeralChar c = true := by
  rw [intOfText?, Option.map_eq_some_iff] at h
  obtain ⟨_, hdigits, -⟩ := h
  obtain ⟨m, hm, -⟩ := Option.bind_eq_some_iff.mp hdigits
  refine isNumeralChar_of_takeSign fun c hc => ?_
  exact isNumeralChar_of_isDigit (isDigit_of_mem_natOfDigits? hm c hc)

theorem isNumeralChar_of_mem_int64 {cs : List Char} {n : Int} (h : int64OfText? cs = some n) :
    ∀ c ∈ cs, isNumeralChar c = true :=
  isNumeralChar_of_mem_int (Option.filter_eq_some_iff.mp h).1

theorem isNumeralChar_of_mem_nat64 {cs : List Char} {n : Nat} (h : nat64OfText? cs = some n) :
    ∀ c ∈ cs, isNumeralChar c = true := by
  have hdigits := isDigit_of_mem_natOfDigits? (Option.filter_eq_some_iff.mp h).1
  split at hdigits
  · exact List.forall_mem_cons.mpr
      ⟨by decide, fun c hc => isNumeralChar_of_isDigit (hdigits c hc)⟩
  · exact fun c hc => isNumeralChar_of_isDigit (hdigits c hc)

theorem isNumeralChar_of_takeExponent {cs : List Char} {n : Int}
    (h : Extended64.takeExponent cs = some n) : ∀ c ∈ cs, isNumeralChar c = true := by
  cases cs with
  | nil => exact fun c hc => absurd hc List.not_mem_nil
  | cons c cs =>
      rw [Extended64.takeExponent, Option.ite_none_right_eq_some, Bool.or_eq_true, beq_iff_eq,
        beq_iff_eq] at h
      refine List.forall_mem_cons.mpr ⟨?_, isNumeralChar_of_mem_int h.2⟩
      rcases h.1 with rfl | rfl <;> decide

/-- What digits are taken off is written with the characters of numbers if the rest is. -/
theorem isNumeralChar_of_dropWhile {cs : List Char}
    (h : ∀ c ∈ cs.dropWhile Char.isDigit, isNumeralChar c = true) :
    ∀ c ∈ cs, isNumeralChar c = true := by
  rw [← List.takeWhile_append_dropWhile (p := Char.isDigit) (l := cs), List.forall_mem_append]
  exact ⟨fun c hc => isNumeralChar_of_isDigit (List.mem_takeWhile_imp hc), h⟩

/-- What a decimal is taken off is written with the characters of numbers if the rest is. -/
theorem isNumeralChar_of_takeDecimal {cs rest : List Char} {digits places : Nat}
    (h : Extended64.takeDecimal cs = some (digits, places, rest))
    (hrest : ∀ c ∈ rest, isNumeralChar c = true) : ∀ c ∈ cs, isNumeralChar c = true := by
  refine isNumeralChar_of_dropWhile ?_
  rw [Extended64.takeDecimal] at h
  cases hbehind : cs.dropWhile Char.isDigit with
  | nil => exact fun c hc => absurd hc List.not_mem_nil
  | cons c more =>
      rw [hbehind] at h
      by_cases hpoint : c = '.'
      · subst hpoint
        simp only [Option.ite_none_left_eq_some, Option.some.injEq, Prod.mk.injEq] at h
        obtain ⟨-, -, -, rfl⟩ := h
        exact List.forall_mem_cons.mpr ⟨by decide, isNumeralChar_of_dropWhile hrest⟩
      · simp [hpoint] at h
        obtain ⟨-, -, -, rfl⟩ := h
        exact hrest

theorem isNumeralChar_of_mem_float {cs : List Char} {x : Binary64}
    (h : Extended64.ofText? cs = some (.finite x)) : ∀ c ∈ cs, isNumeralChar c = true := by
  refine isNumeralChar_of_takeSign ?_
  simp only [Extended64.ofText?] at h
  split at h
  · simp at h
  · split at h
    · simp at h
    · simp only [Option.bind_eq_bind, Option.bind_eq_some_iff] at h
      obtain ⟨⟨digits, places, rest⟩, hdecimal, exponent, hexponent, -⟩ := h
      exact isNumeralChar_of_takeDecimal hdecimal (isNumeralChar_of_takeExponent hexponent)

/-- A number has none of the characters that are not of numbers. -/
theorem not_mem_of_isNumeralChar {cs : List Char} (h : ∀ c ∈ cs, isNumeralChar c = true)
    (stop : Char) (hstop : isNumeralChar stop = false) : stop ∉ cs := by
  intro hmem
  rw [h stop hmem] at hstop
  contradiction

end Number

namespace Json

/-! ## The grammar -/

mutual

/-- The texts of a value in which lists and maps may nest so deep. Pairs whose keys are `0`, `1` and so
on are a list, and of several pairs of a map with one key the last has it. -/
inductive Serialized : Nat → List Char → Json → Prop where
  | null {room : Nat} : Serialized room ['N', ';'] null
  | bool {room : Nat} {text : List Char} (hstop : ';' ∉ text) :
      Serialized room ('b' :: ':' :: (text ++ [';'])) (bool (text == ['1']))
  | int {room : Nat} {text : List Char} {n : Int} (hnumber : Number.int64OfText? text = some n) :
      Serialized room ('i' :: ':' :: (text ++ [';'])) (int n)
  | float {room : Nat} {text : List Char} {x : Number.Binary64}
      (hnumber : Number.Extended64.ofText? text = some (.finite x)) :
      Serialized room ('d' :: ':' :: (text ++ [';'])) (float x)
  | string {room : Nat} {length text : List Char}
      (hlength : Number.nat64OfText? length = some (Text.byteLength text)) :
      Serialized room ('s' :: ':' :: (length ++ ':' :: '"' :: (text ++ ['"', ';'])))
        (string (String.ofList text))
  | array {room : Nat} {number body : List Char} {count : Nat} {pairs : List (String × Json)}
      (hnumber : Number.nat64OfText? number = some count)
      (hbody : SerializedPairs room count body pairs)
      (hkeys : pairs.map (·.1) = (List.range count).map Number.natString) :
      Serialized (room + 1) ('a' :: ':' :: (number ++ ':' :: '{' :: (body ++ ['}'])))
        (array (pairs.map (·.2)))
  | object {room : Nat} {number body : List Char} {count : Nat} {pairs : List (String × Json)}
      {fields : SortedMap Json} (hnumber : Number.nat64OfText? number = some count)
      (hbody : SerializedPairs room count body pairs)
      (hkeys : pairs.map (·.1) ≠ (List.range count).map Number.natString)
      (hsorted : SortedMap.Sorted fields)
      (hlast : ∀ key, SortedMap.find? key fields = SortedMap.find? key pairs.reverse) :
      Serialized (room + 1) ('a' :: ':' :: (number ++ ':' :: '{' :: (body ++ ['}'])))
        (object fields)

/-- The texts of so many pairs, one behind the other, each a key and a value. -/
inductive SerializedPairs : Nat → Nat → List Char → List (String × Json) → Prop where
  | nil {room : Nat} : SerializedPairs room 0 [] []
  | cons {room count : Nat} {front middle body : List Char} {key value : Json} {name : String}
      {pairs : List (String × Json)} (hkey : Serialized room front key)
      (hname : keyOf? key = some name) (hvalue : Serialized room middle value)
      (hbody : SerializedPairs room count body pairs) :
      SerializedPairs room (count + 1) (front ++ (middle ++ body)) ((name, value) :: pairs)

end

/-! ## Lists and maps -/

theorem SerializedPairs.length_eq {room count : Nat} {body : List Char}
    {pairs : List (String × Json)} (h : SerializedPairs room count body pairs) :
    pairs.length = count := by
  induction pairs generalizing count body with
  | nil =>
      cases h
      rfl
  | cons pair pairs ih =>
      cases h with
      | cons hkey hname hvalue hbody => rw [List.length_cons, ih hbody]

/-- Pairs whose keys count up from zero are a list, and others the map in which the last pair with a
key has it. -/
theorem ofPairs_cases (pairs : List (String × Json)) :
    (pairs.map (·.1) = (List.range pairs.length).map Number.natString ∧
        ofPairs pairs = array (pairs.map (·.2))) ∨
      pairs.map (·.1) ≠ (List.range pairs.length).map Number.natString ∧
        ofPairs pairs = object (SortedMap.ofList pairs) := by
  have hcounts : countsFrom 0 (pairs.map (·.1)) = true ↔
      pairs.map (·.1) = (List.range pairs.length).map Number.natString := by
    rw [countsFrom_eq_true_iff, List.length_map, List.range_eq_range']
  by_cases hkeys : pairs.map (·.1) = (List.range pairs.length).map Number.natString
  · exact .inl ⟨hkeys, by rw [ofPairs, if_pos (hcounts.mpr hkeys)]⟩
  · exact .inr ⟨hkeys, by rw [ofPairs, if_neg (mt hcounts.mp hkeys), ofFields]⟩

section

variable {room count : Nat} {number body : List Char} {pairs : List (String × Json)}

/-- Pairs are a text of the list or map that they are. -/
theorem serialized_ofPairs (hnumber : Number.nat64OfText? number = some count)
    (hbody : SerializedPairs room count body pairs) :
    Serialized (room + 1) ('a' :: ':' :: (number ++ ':' :: '{' :: (body ++ ['}'])))
      (ofPairs pairs) := by
  have hcount := hbody.length_eq
  rcases ofPairs_cases pairs with ⟨hkeys, heq⟩ | ⟨hkeys, heq⟩
  · rw [heq]
    exact .array hnumber hbody (hcount ▸ hkeys)
  · rw [heq]
    exact .object hnumber hbody (hcount ▸ hkeys) (SortedMap.sorted_ofList pairs)
      fun key => SortedMap.find?_ofList key pairs

theorem ofPairs_eq_array (hbody : SerializedPairs room count body pairs)
    (hkeys : pairs.map (·.1) = (List.range count).map Number.natString) :
    ofPairs pairs = array (pairs.map (·.2)) := by
  rw [← hbody.length_eq] at hkeys
  rcases ofPairs_cases pairs with ⟨-, heq⟩ | ⟨hne, -⟩
  · exact heq
  · exact absurd hkeys hne

theorem ofPairs_eq_object (hbody : SerializedPairs room count body pairs)
    (hkeys : pairs.map (·.1) ≠ (List.range count).map Number.natString) {fields : SortedMap Json}
    (hsorted : SortedMap.Sorted fields)
    (hlast : ∀ key, SortedMap.find? key fields = SortedMap.find? key pairs.reverse) :
    ofPairs pairs = object fields := by
  rw [← hbody.length_eq] at hkeys
  rcases ofPairs_cases pairs with ⟨hcounts, -⟩ | ⟨-, heq⟩
  · exact absurd hcounts hkeys
  · rw [heq, hsorted.ext (SortedMap.sorted_ofList pairs)
      fun key => (hlast key).trans (SortedMap.find?_ofList key pairs).symm]

end

/-! ## What is read is in the grammar -/

/-- A text that is cut at a character is read on behind it. -/
theorem eq_of_cutChars {c : Char} {cs before rest : List Char}
    (h : Text.cutChars [c] cs = some (before, rest)) : cs = before ++ c :: rest ∧ c ∉ before := by
  obtain ⟨hsplit, hfirst⟩ := Text.cutChars_eq_some_iff.mp h
  refine ⟨by simpa using hsplit, fun hmem => ?_⟩
  obtain ⟨front, back, rfl⟩ := List.append_of_mem hmem
  have hnil := hfirst front (back ++ [c]) (by simp)
  simp at hnil

/-- A text in quotes is read if it has the number of bytes that is asked for. -/
theorem eq_of_takeSerializedText? {size : Nat} {cs text rest : List Char}
    (h : takeSerializedText? size cs = some (text, rest)) :
    cs = '"' :: (text ++ '"' :: ';' :: rest) ∧ Text.byteLength text = size := by
  unfold takeSerializedText? at h
  split at h
  · split at h
    · next htaken =>
        obtain ⟨rfl, rfl⟩ : _ = text ∧ _ = rest := by simpa using h
        obtain ⟨rfl, hsize⟩ := takeBytes?_eq_some_iff.mp htaken
        exact ⟨rfl, hsize⟩
    · contradiction
  · contradiction

/-- What is read in so many steps off the front of a text is of the grammar. -/
structure IsSound (n : Nat) : Prop where
  value : ∀ {room : Nat} {cs rest : List Char} {v : Json},
    deserializeFrom? n room cs = some (v, rest) → ∃ taken, cs = taken ++ rest ∧ Serialized room taken v
  pairs : ∀ {room count : Nat} {cs rest : List Char} {pairs : List (String × Json)},
    deserializePairs? n room count cs = some (pairs, rest) →
      ∃ taken, cs = taken ++ rest ∧ SerializedPairs room count taken pairs

section

variable {n room : Nat} {cs rest : List Char}

/-- The value that is read with one more step has one of the six forms. -/
theorem IsSound.value_succ (ih : IsSound n) {v : Json}
    (h : deserializeFrom? (n + 1) room cs = some (v, rest)) :
    ∃ taken, cs = taken ++ rest ∧ Serialized room taken v := by
  rw [deserializeFrom?.eq_def] at h
  split at h
  · contradiction
  · next behind _ =>
      obtain ⟨rfl, rfl⟩ : null = v ∧ behind = rest := by simpa using h
      exact ⟨['N', ';'], rfl, .null⟩
  · obtain ⟨⟨text, behind⟩, hcut, heq⟩ := Option.map_eq_some_iff.mp h
    obtain ⟨rfl, rfl⟩ : bool (text == ['1']) = v ∧ behind = rest := by simpa using heq
    obtain ⟨rfl, hstop⟩ := eq_of_cutChars hcut
    exact ⟨'b' :: ':' :: (text ++ [';']), by simp, .bool hstop⟩
  · obtain ⟨⟨text, behind⟩, hcut, hread⟩ := Option.bind_eq_some_iff.mp h
    obtain ⟨i, hnumber, heq⟩ := Option.bind_eq_some_iff.mp hread
    obtain ⟨rfl, rfl⟩ : int i = v ∧ behind = rest := by simpa using heq
    obtain ⟨rfl, -⟩ := eq_of_cutChars hcut
    exact ⟨'i' :: ':' :: (text ++ [';']), by simp, .int hnumber⟩
  · obtain ⟨⟨text, behind⟩, hcut, hread⟩ := Option.bind_eq_some_iff.mp h
    dsimp only at hread
    split at hread
    · next x hnumber =>
        obtain ⟨rfl, rfl⟩ : float x = v ∧ behind = rest := by simpa using hread
        obtain ⟨rfl, -⟩ := eq_of_cutChars hcut
        exact ⟨'d' :: ':' :: (text ++ [';']), by simp, .float hnumber⟩
    · contradiction
  · obtain ⟨⟨length, quoted⟩, hcut, hread⟩ := Option.bind_eq_some_iff.mp h
    obtain ⟨size, hlength, hread⟩ := Option.bind_eq_some_iff.mp hread
    obtain ⟨⟨text, behind⟩, htext, heq⟩ := Option.bind_eq_some_iff.mp hread
    obtain ⟨rfl, rfl⟩ : string (String.ofList text) = v ∧ behind = rest := by simpa using heq
    obtain ⟨rfl, -⟩ := eq_of_cutChars hcut
    obtain ⟨rfl, rfl⟩ := eq_of_takeSerializedText? htext
    exact ⟨'s' :: ':' :: (length ++ ':' :: '"' :: (text ++ ['"', ';'])), by simp, .string hlength⟩
  · next m room _ hm =>
      obtain rfl : n = m := Nat.succ.inj hm
      obtain ⟨⟨number, braced⟩, hcut, hread⟩ := Option.bind_eq_some_iff.mp h
      obtain ⟨count, hnumber, hread⟩ := Option.bind_eq_some_iff.mp hread
      split at hread
      · obtain ⟨⟨pairs, closed⟩, hpairs, hread⟩ := Option.bind_eq_some_iff.mp hread
        split at hread
        · next behind heq =>
            obtain ⟨rfl, rfl⟩ : pairs = _ ∧ closed = '}' :: behind := by simpa using heq
            obtain ⟨rfl, rfl⟩ : ofPairs pairs = v ∧ behind = rest := by simpa using hread
            obtain ⟨rfl, -⟩ := eq_of_cutChars hcut
            obtain ⟨body, rfl, hbody⟩ := ih.pairs hpairs
            exact ⟨'a' :: ':' :: (number ++ ':' :: '{' :: (body ++ ['}'])), by simp,
              serialized_ofPairs hnumber hbody⟩
        · contradiction
      · contradiction
  · contradiction

/-- The pairs that are read with one more step are a key, a value and further pairs. -/
theorem IsSound.pairs_succ (ih : IsSound n) {count : Nat} {pairs : List (String × Json)}
    (h : deserializePairs? (n + 1) room count cs = some (pairs, rest)) :
    ∃ taken, cs = taken ++ rest ∧ SerializedPairs room count taken pairs := by
  rw [deserializePairs?.eq_def] at h
  split at h
  · contradiction
  · obtain ⟨rfl, rfl⟩ : [] = pairs ∧ _ = rest := by simpa using h
    exact ⟨[], rfl, .nil⟩
  · next m count hm =>
      obtain rfl : n = m := Nat.succ.inj hm
      obtain ⟨⟨key, behindKey⟩, hkey, hread⟩ := Option.bind_eq_some_iff.mp h
      obtain ⟨name, hname, hread⟩ := Option.bind_eq_some_iff.mp hread
      obtain ⟨⟨value, behindValue⟩, hvalue, hread⟩ := Option.bind_eq_some_iff.mp hread
      obtain ⟨⟨more, behind⟩, hmore, heq⟩ := Option.bind_eq_some_iff.mp hread
      obtain ⟨rfl, rfl⟩ : (name, value) :: more = pairs ∧ behind = rest := by simpa using heq
      obtain ⟨front, rfl, hfront⟩ := ih.value hkey
      obtain ⟨middle, rfl, hmiddle⟩ := ih.value hvalue
      obtain ⟨body, rfl, hbody⟩ := ih.pairs hmore
      exact ⟨front ++ (middle ++ body), by simp, .cons hfront hname hmiddle hbody⟩

/-- What is read off the front of a text is of the grammar, however many steps it takes. -/
theorem isSound (n : Nat) : IsSound n := by
  induction n with
  | zero =>
      exact ⟨fun h => by simp [deserializeFrom?] at h, fun h => by simp [deserializePairs?] at h⟩
  | succ n ih => exact ⟨ih.value_succ, ih.pairs_succ⟩

end

/-! ## What is in the grammar is read -/

/-- A value is written with at least two characters. -/
theorem Serialized.two_le_length {room : Nat} {taken : List Char} {v : Json}
    (h : Serialized room taken v) : 2 ≤ taken.length := by
  cases h <;> simp

/-- A list or map is read if its pairs are. -/
theorem deserializeFrom?_ofPairs {n room count : Nat} {number body rest : List Char}
    {pairs : List (String × Json)} (hnumber : Number.nat64OfText? number = some count)
    (hpairs : deserializePairs? n room count (body ++ '}' :: rest) = some (pairs, '}' :: rest)) :
    deserializeFrom? (n + 1) (room + 1)
        ('a' :: ':' :: (number ++ ':' :: '{' :: (body ++ ['}'])) ++ rest) =
      some (ofPairs pairs, rest) := by
  have hcut := Text.cutChars_of_not_mem (Number.not_mem_of_isNumeralChar
    (Number.isNumeralChar_of_mem_nat64 hnumber) ':' rfl)
  simp [deserializeFrom?, hcut, hnumber, hpairs]

mutual

/-- A value is read off the front of its text with anything behind it, in as many steps as the text has
characters and one more. -/
theorem Serialized.deserializeFrom?_eq {room : Nat} {taken : List Char} {v : Json} :
    Serialized room taken v → ∀ {n : Nat}, taken.length < n → ∀ rest : List Char,
      deserializeFrom? n room (taken ++ rest) = some (v, rest)
  | .null, n + 1, _, rest => by simp [deserializeFrom?]
  | .bool hstop, n + 1, _, rest => by
      simp [deserializeFrom?, Text.cutChars_of_not_mem hstop]
  | .int hnumber, n + 1, _, rest => by
      have hcut := Text.cutChars_of_not_mem (Number.not_mem_of_isNumeralChar
        (Number.isNumeralChar_of_mem_int64 hnumber) ';' rfl)
      simp [deserializeFrom?, hcut, hnumber]
  | .float hnumber, n + 1, _, rest => by
      have hcut := Text.cutChars_of_not_mem (Number.not_mem_of_isNumeralChar
        (Number.isNumeralChar_of_mem_float hnumber) ';' rfl)
      simp [deserializeFrom?, hcut, hnumber]
  | .string hlength, n + 1, _, rest => by
      have hcut := Text.cutChars_of_not_mem (Number.not_mem_of_isNumeralChar
        (Number.isNumeralChar_of_mem_nat64 hlength) ':' rfl)
      simp [deserializeFrom?, hcut, hlength, takeSerializedText?_append]
  | .array hnumber hbody hkeys, n + 1, hn, rest => by
      have hpairs := hbody.deserializePairs?_eq (n := n) (by simp at hn; omega) ('}' :: rest)
      rw [deserializeFrom?_ofPairs hnumber hpairs, ofPairs_eq_array hbody hkeys]
  | .object hnumber hbody hkeys hsorted hlast, n + 1, hn, rest => by
      have hpairs := hbody.deserializePairs?_eq (n := n) (by simp at hn; omega) ('}' :: rest)
      rw [deserializeFrom?_ofPairs hnumber hpairs, ofPairs_eq_object hbody hkeys hsorted hlast]

/-- Pairs are read off the front of their text, in as many steps. -/
theorem SerializedPairs.deserializePairs?_eq {room count : Nat} {taken : List Char}
    {pairs : List (String × Json)} :
    SerializedPairs room count taken pairs → ∀ {n : Nat}, taken.length < n → ∀ rest : List Char,
      deserializePairs? n room count (taken ++ rest) = some (pairs, rest)
  | .nil, n + 1, _, rest => by simp [deserializePairs?]
  | .cons hkey hname hvalue hbody, n + 1, hn, rest => by
      have hfront := hkey.two_le_length
      have hmiddle := hvalue.two_le_length
      simp only [List.length_append] at hn
      simp [deserializePairs?, hkey.deserializeFrom?_eq (n := n) (by omega), hname,
        hvalue.deserializeFrom?_eq (n := n) (by omega),
        hbody.deserializePairs?_eq (n := n) (by omega)]

end

/-- Given as many steps as a text has characters and one more, what is read off its front is what the
grammar has there. -/
theorem deserializeFrom?_eq_some_iff {n room : Nat} {cs rest : List Char} {v : Json}
    (hn : cs.length < n) :
    deserializeFrom? n room cs = some (v, rest) ↔
      ∃ taken, cs = taken ++ rest ∧ Serialized room taken v := by
  refine ⟨(isSound n).value, ?_⟩
  rintro ⟨taken, rfl, htaken⟩
  rw [List.length_append] at hn
  exact htaken.deserializeFrom?_eq (by omega) rest

theorem deserializePairs?_eq_some_iff {n room count : Nat} {cs rest : List Char}
    {pairs : List (String × Json)} (hn : cs.length < n) :
    deserializePairs? n room count cs = some (pairs, rest) ↔
      ∃ taken, cs = taken ++ rest ∧ SerializedPairs room count taken pairs := by
  refine ⟨(isSound n).pairs, ?_⟩
  rintro ⟨taken, rfl, htaken⟩
  rw [List.length_append] at hn
  exact htaken.deserializePairs?_eq (by omega) rest

/-! ## Steps -/

/-- What is left of a text lies behind something of it: the reader has gone on, and not beyond the
end. -/
def Advances (cs rest : List Char) : Prop := ∃ taken, taken ≠ [] ∧ cs = taken ++ rest

theorem advances_of_cutChars {stop : Char} {cs before rest : List Char}
    (h : Text.cutChars [stop] cs = some (before, rest)) : Advances cs rest :=
  ⟨before ++ [stop], by simp, by simp [(eq_of_cutChars h).1]⟩

theorem advances_of_takeSerializedText? {size : Nat} {cs text rest : List Char}
    (h : takeSerializedText? size cs = some (text, rest)) : Advances cs rest :=
  ⟨'"' :: (text ++ ['"', ';']), by simp, by simp [(eq_of_takeSerializedText? h).1]⟩

theorem advances_of_deserializeFrom? {n room : Nat} {cs rest : List Char} {v : Json}
    (h : deserializeFrom? n room cs = some (v, rest)) : Advances cs rest := by
  obtain ⟨taken, hsplit, htaken⟩ := (isSound n).value h
  have hlength := htaken.two_le_length
  exact ⟨taken, List.ne_nil_of_length_pos (by omega), hsplit⟩

/-- Each pair takes two values off a text. -/
theorem SerializedPairs.count_le_length {room count : Nat} {taken : List Char}
    {pairs : List (String × Json)} (h : SerializedPairs room count taken pairs) :
    4 * count ≤ taken.length := by
  induction pairs generalizing count taken with
  | nil =>
      cases h
      exact Nat.zero_le _
  | cons pair pairs ih =>
      cases h with
      | cons hkey hname hvalue hbody =>
          have hfront := hkey.two_le_length
          have hmiddle := hvalue.two_le_length
          have hmore := ih hbody
          simp only [List.length_append]
          omega

/-- More steps than a text has characters are never used up. -/
theorem deserializeFrom?_of_length_lt {n : Nat} (room : Nat) {cs : List Char}
    (hn : cs.length < n) : deserializeFrom? n room cs = deserializeFrom? (cs.length + 1) room cs := by
  refine Option.ext fun found => ?_
  rw [deserializeFrom?_eq_some_iff hn, deserializeFrom?_eq_some_iff (Nat.lt_succ_self _)]

theorem deserializePairs?_of_length_lt {n : Nat} (room count : Nat) {cs : List Char}
    (hn : cs.length < n) :
    deserializePairs? n room count cs = deserializePairs? (cs.length + 1) room count cs := by
  refine Option.ext fun found => ?_
  rw [deserializePairs?_eq_some_iff hn, deserializePairs?_eq_some_iff (Nat.lt_succ_self _)]

/-- The reader accepts the texts of the grammar, blanks around them dropped, and what it gives is what
they are texts of. Each successful step takes something off the text and leaves what is behind it,
pairs at least four characters each; so steps never run out, whatever count or length a text claims. -/
theorem deserialize?_spec :
    (∀ (text : String) (v : Json), deserialize? text = some v ↔
      Serialized serializedDepth (Text.trimChars text.toList) v) ∧
    (∀ (stop : Char) (cs before rest : List Char),
      Text.cutChars [stop] cs = some (before, rest) → Advances cs rest) ∧
    (∀ (size : Nat) (cs text rest : List Char),
      takeSerializedText? size cs = some (text, rest) → Advances cs rest) ∧
    (∀ (n room : Nat) (cs rest : List Char) (v : Json),
      deserializeFrom? n room cs = some (v, rest) → Advances cs rest) ∧
    (∀ (n room count : Nat) (cs rest : List Char) (pairs : List (String × Json)),
      deserializePairs? n room count cs = some (pairs, rest) →
        ∃ taken, cs = taken ++ rest ∧ 4 * count ≤ taken.length) ∧
    ∀ (n room count : Nat) (cs : List Char), cs.length < n →
      deserializeFrom? n room cs = deserializeFrom? (cs.length + 1) room cs ∧
        deserializePairs? n room count cs = deserializePairs? (cs.length + 1) room count cs := by
  refine ⟨fun text v => ?_, fun _ _ _ _ => advances_of_cutChars,
    fun _ _ _ _ => advances_of_takeSerializedText?, fun _ _ _ _ _ => advances_of_deserializeFrom?,
    fun n _ _ _ _ _ h => ?_,
    fun n room count cs hn =>
      ⟨deserializeFrom?_of_length_lt room hn, deserializePairs?_of_length_lt room count hn⟩⟩
  · have hwhole : deserialize? text = some v ↔
        deserializeFrom? ((Text.trimChars text.toList).length + 1) serializedDepth
          (Text.trimChars text.toList) = some (v, []) := by
      rw [deserialize?, deserializeChars?]
      split
      · next heq => simp [heq]
      · next hne => exact ⟨fun h => by contradiction, fun h => absurd h (hne v)⟩
    rw [hwhole, deserializeFrom?_eq_some_iff (Nat.lt_succ_self _)]
    simp
  · obtain ⟨taken, hsplit, htaken⟩ := (isSound n).pairs h
    exact ⟨taken, hsplit, htaken.count_le_length⟩

/-- A text may hold the marks of the form, and a key may be a number. A list that claims more pairs
than it has is refused. -/
theorem deserialize?_spec_claimed :
    deserialize? " a:2:\x7bs:3:\"é;\";N;i:7;b:1;\x7d" =
        some (object [("7", bool true), ("é;", null)]) ∧
      ∀ v, ¬ Serialized serializedDepth
        (Text.trimChars "a:18446744073709551615:\x7bi:0;N;\x7d".toList) v := by
  constructor
  · have htext : Text.trimChars " a:2:\x7bs:3:\"é;\";N;i:7;b:1;\x7d".toList =
        'a' :: ':' :: (['2'] ++ ':' :: '{' ::
          ("s:3:\"é;\";N;i:7;b:1;".toList ++ ['}'])) := by decide +kernel
    have hpairs : SerializedPairs 63 2 "s:3:\"é;\";N;i:7;b:1;".toList
        [("é;", null), ("7", bool true)] :=
      .cons (@Serialized.string 63 ['3'] ['é', ';'] rfl) rfl .null
        (.cons (@Serialized.int 63 ['7'] 7 rfl) rfl (@Serialized.bool 63 ['1'] (by decide)) .nil)
    rw [deserialize?_spec.1, htext]
    exact .object rfl hpairs (by decide) (by decide) fun _ => rfl
  · intro v hv
    have hread := (deserialize?_spec.1 _ v).mpr hv
    have hnone : deserialize? "a:18446744073709551615:\x7bi:0;N;\x7d" = none := by decide +kernel
    rw [hnone] at hread
    contradiction

end Json

end DynamicContent
