/-
# JSON text is read back

The text of a value denotes that value. The two passes of reading are taken one after the other: the
tokens of the text are those of the value, and the value is what they build. A pass is followed into
the middle of a text, where more text or more tokens follow, since that is where it is for most
values.

Floating numbers are left out. An integer has to fit into 64 bits, the fields of an object have to
be in their order, and what nests deeper than reading goes is not read back.
-/

import DynamicContent.Json.Parser
import DynamicContent.Json.Printer
import DynamicContent.Proofs.Number.Integer
import Mathlib.Tactic.IntervalCases

namespace DynamicContent.Json

/-! ## Characters in quotes -/

/-- In quotes a character stands for itself, or what is behind a backslash stands for it. -/
theorem escapeChar_cases (c : Char) :
    (escapeChar c = [c] ∧ c ≠ '"' ∧ c ≠ '\\' ∧ ¬ c.toNat < 0x20) ∨
      ∃ body, escapeChar c = '\\' :: body ∧
        ∀ rest, takeEscape? (body ++ rest) = some (c, rest) := by
  by_cases hquote : c = '"'
  · subst hquote
    exact .inr ⟨['"'], rfl, fun _ => rfl⟩
  by_cases hbackslash : c = '\\'
  · subst hbackslash
    exact .inr ⟨['\\'], rfl, fun _ => rfl⟩
  by_cases hcontrol : c.toNat < 0x20
  · right
    obtain ⟨n, hn, rfl⟩ : ∃ n < 0x20, c = Char.ofNat n := ⟨c.toNat, hcontrol, by simp⟩
    clear hquote hbackslash hcontrol
    interval_cases n <;> exact ⟨_, rfl, fun _ => rfl⟩
  · left
    have hplain : escapeChar c = [c] := by
      simp [escapeChar, hquote, hbackslash, hcontrol]
    exact ⟨hplain, hquote, hbackslash, hcontrol⟩

/-- A text in quotes is read back up to the closing quote. -/
theorem takeQuoted?_escaped {n : Nat} (text rest : List Char) (hroom : text.length < n) :
    takeQuoted? n (text.flatMap escapeChar ++ '"' :: rest) = some (text, rest) := by
  induction text generalizing n with
  | nil =>
      obtain ⟨n, rfl⟩ : ∃ m, n = m + 1 := ⟨n - 1, by omega⟩
      rfl
  | cons c text ih =>
      rw [List.length_cons] at hroom
      obtain ⟨n, rfl⟩ : ∃ m, n = m + 1 := ⟨n - 1, by omega⟩
      have hmore := @ih n (by omega)
      rw [List.flatMap_cons, List.append_assoc]
      rcases escapeChar_cases c with ⟨hplain, hquote, hbackslash, hcontrol⟩ | ⟨body, hbody, hread⟩
      · rw [hplain, List.singleton_append, takeQuoted?]
        · rw [if_neg hcontrol, hmore]
          rfl
        · exact hquote
        · exact hbackslash
      · rw [hbody, List.cons_append, takeQuoted?, hread]
        simp only [Option.bind_eq_bind, Option.bind_some, hmore]

theorem length_le_flatMap_escapeChar (text : List Char) :
    text.length ≤ (text.flatMap escapeChar).length := by
  induction text with
  | nil => exact le_refl 0
  | cons c text ih =>
      have hchar : 0 < (escapeChar c).length := by
        rcases escapeChar_cases c with ⟨hplain, -⟩ | ⟨body, hbody, -⟩
        · rw [hplain]
          exact Nat.one_pos
        · rw [hbody]
          exact Nat.succ_pos _
      rw [List.flatMap_cons, List.length_append, List.length_cons]
      omega

theorem takeToken?_quoted (text : String) (rest : List Char) :
    takeToken? (quoted text ++ rest) = some (.value (string text), rest) := by
  have hread := @takeQuoted?_escaped
    ((text.toList.flatMap escapeChar ++ '"' :: rest).length + 1) text.toList rest (by
      have hlength := length_le_flatMap_escapeChar text.toList
      rw [List.length_append]
      omega)
  rw [quoted, List.cons_append, List.append_assoc, List.singleton_append, takeToken?, hread]
  simp only [Option.map_some, String.ofList_toList]

/-! ## Numbers -/

/-- What may follow a value: the end, or a comma or bracket that is not part of it. -/
def EndsValue (rest : List Char) : Prop := ∀ c ∈ rest.head?, c = ',' ∨ c = ']' ∨ c = '}'

theorem EndsValue.not_isDigit {rest : List Char} (hrest : EndsValue rest) :
    ∀ c ∈ rest.head?, c.isDigit = false := by
  intro c hc
  rcases hrest c hc with rfl | rfl | rfl <;> rfl

/-- The digits of a number are what is read of it. -/
theorem takeWhile_isDigit_natText (n : Nat) {rest : List Char} (hrest : EndsValue rest) :
    (Number.natText n ++ rest).takeWhile Char.isDigit = Number.natText n ∧
      (Number.natText n ++ rest).dropWhile Char.isDigit = rest := by
  refine Number.takeWhile_append_of_stop (fun c hc => ?_) hrest.not_isDigit
  exact Number.isDigit_of_mem_natText hc

theorem natText_append_ne (n : Nat) (rest more : List Char) :
    Number.natText n ++ rest ≠ '-' :: more := by
  intro heq
  cases hdigits : Number.natText n with
  | nil => exact Number.natText_ne_nil n hdigits
  | cons c digits =>
      have hc : c.isDigit = true :=
        Number.isDigit_of_mem_natText (hdigits ▸ List.mem_cons_self)
      rw [hdigits, List.cons_append, List.cons.injEq] at heq
      rw [heq.1] at hc
      exact absurd hc (by decide)

/-- The digits of a number, behind a sign or not, are read as an integer. -/
theorem takeNumber?_natText (negative : Bool) (n : Nat) {rest : List Char}
    (hrest : EndsValue rest) :
    takeNumber? ((if negative then ['-'] else []) ++ Number.natText n ++ rest) =
      (integerOf? negative (Number.natText n)).map (·, rest) := by
  obtain ⟨hwhole, hbehind⟩ := takeWhile_isDigit_natText n hrest
  have hzero : ¬ ((Number.natText n).isEmpty ||
      ((Number.natText n).head? == some '0' && decide (1 < (Number.natText n).length))) = true := by
    simp only [Bool.or_eq_true, Bool.and_eq_true, beq_iff_eq, decide_eq_true_eq, List.isEmpty_iff,
      not_or, not_and, not_lt]
    exact ⟨Number.natText_ne_nil n, Number.natText_of_head?_eq⟩
  unfold takeNumber?
  split
  next sign digits hsign =>
    -- A minus is taken off, and no digit is one.
    obtain ⟨rfl, rfl⟩ : negative = sign ∧ Number.natText n ++ rest = digits := by
      cases negative with
      | true => simpa using hsign
      | false =>
          split at hsign
          · next heq => exact absurd heq (natText_append_ne n rest _)
          · simpa using hsign
    dsimp only
    rw [hwhole, hbehind, if_neg hzero]
    split
    · exact absurd (hrest '.' rfl) (by decide)
    · exact absurd (hrest 'e' rfl) (by decide)
    · exact absurd (hrest 'E' rfl) (by decide)
    · rfl

/-- An integer that fits into 64 bits is read back. -/
theorem takeNumber?_intText {n : Int} (hlow : Number.int64Min ≤ n) (hhigh : n ≤ Number.nat64Max)
    {rest : List Char} (hrest : EndsValue rest) :
    takeNumber? (Number.intText n ++ rest) = some (int n, rest) := by
  simp only [Number.int64Min, Number.nat64Max] at hlow hhigh
  have hread (negative : Bool) := takeNumber?_natText negative n.natAbs hrest
  by_cases hnegative : n < 0
  · have hint : integerOf? true (Number.natText n.natAbs) = some (int n) := by
      have hbounds : 0 < n.natAbs ∧ n.natAbs ≤ 9223372036854775808 := by omega
      have habs : -(n.natAbs : Int) = n := by omega
      rw [integerOf?, Number.digitsValue_natText, habs]
      simp [hbounds]
    rw [Number.intText, if_pos hnegative]
    exact (hread true).trans (by rw [hint]; rfl)
  · have hint : integerOf? false (Number.natText n.natAbs) = some (int n) := by
      have hbound : n.natAbs ≤ Number.nat64Max := by
        rw [Number.nat64Max]
        omega
      have habs : (n.natAbs : Int) = n := by omega
      rw [integerOf?, Number.digitsValue_natText, habs]
      simp [hbound]
    rw [Number.intText, if_neg hnegative]
    exact (hread false).trans (by rw [hint]; rfl)

/-! ## Tokens -/

mutual

/-- The tokens of the text of a value. -/
def tokens : Json → List Token
  | array items => .openArray :: (itemTokens items ++ [.closeArray])
  | object fields => .openObject :: (fieldTokens fields ++ [.closeObject])
  | v => [.value v]

/-- The tokens of values separated by commas. -/
def itemTokens : List Json → List Token
  | [] => []
  | [v] => tokens v
  | v :: vs => tokens v ++ .comma :: itemTokens vs

/-- The tokens of fields separated by commas. -/
def fieldTokens : List (String × Json) → List Token
  | [] => []
  | [(k, v)] => .value (string k) :: .colon :: tokens v
  | (k, v) :: rest => .value (string k) :: .colon :: (tokens v ++ .comma :: fieldTokens rest)

end

mutual

/-- Values that are read back from their text, as far as they do not nest too deep. -/
def IsExact : Json → Prop
  | float _ => False
  | int n => Number.int64Min ≤ n ∧ n ≤ Number.nat64Max
  | array items => AreExact items
  | object fields => SortedMap.ofList fields = fields ∧ FieldsAreExact fields
  | _ => True

/-- Values that are read back one by one. -/
def AreExact : List Json → Prop
  | [] => True
  | v :: vs => IsExact v ∧ AreExact vs

/-- Fields whose values are read back one by one. -/
def FieldsAreExact : List (String × Json) → Prop
  | [] => True
  | (_, v) :: rest => IsExact v ∧ FieldsAreExact rest

end

/-- What a text is cut into, with whatever room is enough for its characters. -/
def IsCut (cs : List Char) (ts : List Token) : Prop := ∀ n, cs.length < n → tokens? n cs = some ts

theorem isCut_nil : IsCut [] [] := fun n _ => by cases n <;> rfl

/-- No token begins with a blank. -/
theorem isJsonBlank_of_takeToken? {c : Char} {cs : List Char} {result : Token × List Char}
    (h : takeToken? (c :: cs) = some result) : isJsonBlank c = false := by
  by_contra hblank
  rw [Bool.not_eq_false, isJsonBlank] at hblank
  simp only [Bool.or_eq_true, beq_iff_eq] at hblank
  rcases hblank with ((rfl | rfl) | rfl) | rfl <;>
    exact absurd h (by simp [takeToken?, takeNumber?])

section

variable {rest : List Char} {ts : List Token}

/-- The text of a token in front of another text is cut off. -/
theorem IsCut.token (h : IsCut rest ts) {text : List Char} {token : Token} (htext : text ≠ [])
    (htoken : takeToken? (text ++ rest) = some (token, rest)) :
    IsCut (text ++ rest) (token :: ts) := by
  intro n hn
  cases text with
  | nil => exact absurd rfl htext
  | cons c text =>
      rw [List.cons_append] at htoken hn ⊢
      rw [List.length_cons, List.length_append] at hn
      obtain ⟨n, rfl⟩ : ∃ m, n = m + 1 := ⟨n - 1, by omega⟩
      rw [tokens?, isJsonBlank_of_takeToken? htoken, htoken]
      simp only [Bool.false_eq_true, if_false, Option.bind_eq_bind, Option.bind_some,
        h n (by omega)]

theorem IsCut.sign (h : IsCut rest ts) {c : Char} {token : Token}
    (htoken : takeToken? (c :: rest) = some (token, rest)) : IsCut (c :: rest) (token :: ts) :=
  h.token (List.cons_ne_nil c []) htoken

theorem IsCut.quoted (h : IsCut rest ts) (text : String) :
    IsCut (quoted text ++ rest) (.value (string text) :: ts) :=
  h.token (List.cons_ne_nil _ _) (takeToken?_quoted text rest)

theorem IsCut.int (h : IsCut rest ts) {n : Int} (hlow : Number.int64Min ≤ n)
    (hhigh : n ≤ Number.nat64Max) (hrest : EndsValue rest) :
    IsCut (Number.intText n ++ rest) (.value (int n) :: ts) := by
  have hnumber := takeNumber?_intText hlow hhigh hrest
  obtain ⟨c, more, htext, hc⟩ : ∃ c more, Number.intText n = c :: more ∧
      (c = '-' ∨ c.isDigit = true) := by
    rw [Number.intText]
    split
    · exact ⟨'-', _, rfl, .inl rfl⟩
    · cases hdigits : Number.natText n.natAbs with
      | nil => exact absurd hdigits (Number.natText_ne_nil _)
      | cons c digits =>
          have hc : c ∈ Number.natText n.natAbs := hdigits ▸ List.mem_cons_self
          exact ⟨c, digits, rfl, .inr (Number.isDigit_of_mem_natText hc)⟩
  rw [htext] at hnumber ⊢
  refine h.token (List.cons_ne_nil c more) ?_
  rw [List.cons_append] at hnumber ⊢
  unfold takeToken?
  split
  case h_1 heq => exact absurd heq (List.cons_ne_nil _ _)
  case h_12 => rw [hnumber]; rfl
  all_goals
    next heq =>
      obtain ⟨rfl, -⟩ := List.cons.inj heq
      exact absurd hc (by decide)

end

theorem endsValue_cons {c : Char} (hc : c = ',' ∨ c = ']' ∨ c = '}') (rest : List Char) :
    EndsValue (c :: rest) := by
  intro d hd
  obtain rfl : c = d := Option.some.inj hd
  exact hc

mutual

/-- The text of a value is cut into its tokens. -/
theorem isCut_chars (v : Json) (hv : IsExact v) {rest : List Char} {ts : List Token}
    (hrest : EndsValue rest) (h : IsCut rest ts) : IsCut (chars v ++ rest) (tokens v ++ ts) := by
  cases v with
  | null => exact h.token (List.cons_ne_nil _ _) rfl
  | bool value => cases value <;> exact h.token (List.cons_ne_nil _ _) rfl
  | int n => exact h.int hv.1 hv.2 hrest
  | float x => exact absurd hv id
  | string text => exact h.quoted text
  | array items =>
      have hitems := isCut_itemChars items hv h
      rw [chars, tokens, List.cons_append, List.cons_append, List.append_assoc, List.append_assoc]
      exact hitems.sign rfl
  | object fields =>
      have hfields := isCut_fieldChars fields hv.2 h
      rw [chars, tokens, List.cons_append, List.cons_append, List.append_assoc, List.append_assoc]
      exact hfields.sign rfl

/-- The text of the items of an array is cut into their tokens. -/
theorem isCut_itemChars (items : List Json) (hitems : AreExact items) {rest : List Char}
    {ts : List Token} (h : IsCut rest ts) :
    IsCut (itemChars items ++ ([']'] ++ rest)) (itemTokens items ++ ([.closeArray] ++ ts)) := by
  have hclose : IsCut (']' :: rest) (.closeArray :: ts) := h.sign rfl
  match items, hitems with
  | [], _ => exact hclose
  | [v], hitems => exact isCut_chars v hitems.1 (endsValue_cons (by simp) rest) hclose
  | v :: w :: items, hitems =>
      have hmore := isCut_itemChars (w :: items) hitems.2 h
      have hcomma : IsCut (',' :: _) (.comma :: _) := hmore.sign rfl
      have hfirst := isCut_chars v hitems.1 (endsValue_cons (by simp) _) hcomma
      simpa [itemChars, itemTokens] using hfirst

/-- The text of the fields of an object is cut into their tokens. -/
theorem isCut_fieldChars (fields : List (String × Json)) (hfields : FieldsAreExact fields)
    {rest : List Char} {ts : List Token} (h : IsCut rest ts) :
    IsCut (fieldChars fields ++ (['}'] ++ rest))
      (fieldTokens fields ++ ([.closeObject] ++ ts)) := by
  have hclose : IsCut ('}' :: rest) (.closeObject :: ts) := h.sign rfl
  match fields, hfields with
  | [], _ => exact hclose
  | [(k, v)], hfields =>
      have hvalue := isCut_chars v hfields.1 (endsValue_cons (by simp) rest) hclose
      have hcolon : IsCut (':' :: _) (.colon :: _) := hvalue.sign rfl
      simpa [fieldChars, fieldTokens] using hcolon.quoted k
  | (k, v) :: field :: fields, hfields =>
      have hmore := isCut_fieldChars (field :: fields) hfields.2 h
      have hcomma : IsCut (',' :: _) (.comma :: _) := hmore.sign rfl
      have hvalue := isCut_chars v hfields.1 (endsValue_cons (by simp) _) hcomma
      have hcolon : IsCut (':' :: _) (.colon :: _) := hvalue.sign rfl
      simpa [fieldChars, fieldTokens] using hcolon.quoted k

end

/-! ## Values -/

mutual

/-- The tokens of a value build it where a value may come, if that is not too deep. -/
theorem build?_tokens (v : Json) (hv : IsExact v) {expect : Expect} {stack : List Frame}
    (ts : List Token) (hexpect : expect = .value ∨ expect = .valueOrClose)
    (hdeep : stack.length + depth v < depthLimit) :
    build? (tokens v ++ ts) expect stack = build? ts (.rest v) stack := by
  cases v with
  | array items =>
      rw [depth] at hdeep
      have hroom : stack.length + 1 < depthLimit := by omega
      have hopen : build? (tokens (array items) ++ ts) expect stack =
          build? (itemTokens items ++ .closeArray :: ts) .valueOrClose (.items [] :: stack) := by
        rcases hexpect with rfl | rfl <;> simp [tokens, build?, hroom]
      rw [hopen]
      cases items with
      | nil => rfl
      | cons v items =>
          exact build?_itemTokens (v :: items) hv (by simp) [] ts (.inr rfl) (by omega)
  | object fields =>
      rw [depth] at hdeep
      have hroom : stack.length + 1 < depthLimit := by omega
      have hopen : build? (tokens (object fields) ++ ts) expect stack =
          build? (fieldTokens fields ++ .closeObject :: ts) (.nameOrClose []) stack := by
        rcases hexpect with rfl | rfl <;> simp [tokens, build?, hroom]
      have hsorted : ofFields fields = object fields := congrArg object hv.1
      rw [hopen, ← hsorted]
      cases fields with
      | nil => rfl
      | cons field fields =>
          exact build?_fieldTokens (field :: fields) hv.2 (by simp) [] ts (.inr rfl) (by omega)
  | float x => exact absurd hv id
  | null => rcases hexpect with rfl | rfl <;> rfl
  | bool value => rcases hexpect with rfl | rfl <;> rfl
  | int n => rcases hexpect with rfl | rfl <;> rfl
  | string text => rcases hexpect with rfl | rfl <;> rfl

/-- The tokens of the items of an array build it, behind items that were read. -/
theorem build?_itemTokens (items : List Json) (hitems : AreExact items) (hsome : items ≠ [])
    {expect : Expect} {stack : List Frame} (read : List Json) (ts : List Token)
    (hexpect : expect = .value ∨ expect = .valueOrClose)
    (hdeep : stack.length + 1 + itemsDepth items < depthLimit) :
    build? (itemTokens items ++ .closeArray :: ts) expect (.items read :: stack) =
      build? ts (.rest (array (read.reverse ++ items))) stack := by
  match items, hitems, hsome with
  | [v], hitems, _ =>
      have hvalue : (Frame.items read :: stack).length + depth v < depthLimit := by
        rw [itemsDepth] at hdeep
        rw [List.length_cons]
        omega
      have hfirst := build?_tokens v hitems.1 (.closeArray :: ts) hexpect hvalue
      rw [itemTokens, hfirst, build?, List.reverse_cons]
  | v :: w :: items, hitems, _ =>
      rw [itemsDepth] at hdeep
      have hvalue : (Frame.items read :: stack).length + depth v < depthLimit := by
        rw [List.length_cons]
        omega
      have hfirst := build?_tokens v hitems.1
        (.comma :: (itemTokens (w :: items) ++ .closeArray :: ts)) hexpect hvalue
      have hdeep' : stack.length + 1 + itemsDepth (w :: items) < depthLimit := by omega
      have hmore :=
        build?_itemTokens (w :: items) hitems.2 (by simp) (v :: read) ts (.inl rfl) hdeep'
      rw [itemTokens, List.append_assoc, List.cons_append, hfirst, build?, hmore, List.reverse_cons,
        List.append_assoc, List.singleton_append]
      simp

/-- The tokens of the fields of an object build it, behind fields that were read. -/
theorem build?_fieldTokens (fields : List (String × Json)) (hfields : FieldsAreExact fields)
    (hsome : fields ≠ []) {expect : Expect} {stack : List Frame} (read : List (String × Json))
    (ts : List Token) (hexpect : expect = .name read ∨ expect = .nameOrClose read)
    (hdeep : stack.length + 1 + fieldsDepth fields < depthLimit) :
    build? (fieldTokens fields ++ .closeObject :: ts) expect stack =
      build? ts (.rest (ofFields (read.reverse ++ fields))) stack := by
  have hname (k : String) (ts : List Token) :
      build? (.value (string k) :: .colon :: ts) expect stack =
        build? ts .value (.fields read k :: stack) := by
    rcases hexpect with rfl | rfl <;> rw [build?, build?]
  match fields, hfields, hsome with
  | [(k, v)], hfields, _ =>
      have hvalue : (Frame.fields read k :: stack).length + depth v < depthLimit := by
        rw [fieldsDepth] at hdeep
        rw [List.length_cons]
        omega
      have hfirst := build?_tokens v hfields.1 (.closeObject :: ts) (.inl rfl) hvalue
      rw [fieldTokens, List.cons_append, List.cons_append, hname, hfirst, build?, List.reverse_cons]
  | (k, v) :: field :: fields, hfields, _ =>
      rw [fieldsDepth] at hdeep
      have hvalue : (Frame.fields read k :: stack).length + depth v < depthLimit := by
        rw [List.length_cons]
        omega
      have hfirst := build?_tokens v hfields.1
        (.comma :: (fieldTokens (field :: fields) ++ .closeObject :: ts)) (.inl rfl) hvalue
      have hdeep' : stack.length + 1 + fieldsDepth (field :: fields) < depthLimit := by omega
      have hmore := build?_fieldTokens (field :: fields) hfields.2 (by simp) ((k, v) :: read) ts
        (.inl rfl) hdeep'
      rw [fieldTokens, List.cons_append, List.cons_append, List.append_assoc, List.cons_append,
        hname, hfirst, build?, hmore, List.reverse_cons, List.append_assoc, List.singleton_append]
      simp

end

/-- The text of a value is read back, if reading goes so deep. -/
theorem parse?_print {v : Json} (hv : IsExact v) (hdeep : depth v < depthLimit) :
    parse? v.print = some v := by
  have hend : EndsValue [] := fun c hc => absurd hc (by simp)
  have hcut := isCut_chars v hv hend isCut_nil (v.chars.length + 1)
  have hdeep : ([] : List Frame).length + depth v < depthLimit := by simpa using hdeep
  have hbuild := build?_tokens v hv [] (.inl rfl) hdeep
  simp only [List.append_nil] at hcut hbuild
  rw [parse?, print, String.toList_ofList, ofChars?, hcut (Nat.lt_succ_self _)]
  exact hbuild.trans rfl

end DynamicContent.Json
