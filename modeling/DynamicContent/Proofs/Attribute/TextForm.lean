/-
# Values and their text are read alike

An attribute may be set to a value or to the text of the value. What reads it does not notice: where the
kind of the value decides on the answer, the text leads to the same one. True is the text `1`, which is
the number one and switches something on, and false is the empty text, which is zero and does not. A
number is read back from its digits, the least of 64 bits with its sign included, and what follows the
digits does not matter as long as it is none itself.
-/

import DynamicContent.Attribute.Basic
import DynamicContent.Proofs.Number.Integer
import DynamicContent.Proofs.Text.Casing

namespace DynamicContent

open Number (int64Min int64Max)

namespace Number

theorem intText_ne_nil (n : Int) : intText n ≠ [] := by
  rw [intText]
  split
  · exact List.cons_ne_nil _ _
  · exact natText_ne_nil _

theorem not_isBlank_of_mem_intText {n : Int} {c : Char} (h : c ∈ intText n) :
    Text.isBlank c = false := by
  rcases isDigit_of_mem_intText h with rfl | hdigit
  · decide
  · exact Text.not_isBlank_of_isDigit hdigit

end Number

namespace Text

variable {s : String} {n : Int} {rest : List Char}

/-- What is trimmed at its end begins with what it began with. -/
theorem mem_head?_of_mem_head?_trimEndChars {cs : List Char} {c : Char}
    (h : c ∈ (trimEndChars cs).head?) : c ∈ cs.head? := by
  have hstart : trimEndChars cs <+: cs := List.rdropWhile_prefix isBlank cs
  obtain ⟨more, hmore⟩ := List.head?_eq_some_iff.mp h
  obtain ⟨behind, hbehind⟩ := hstart
  rw [← hbehind, hmore]
  rfl

/-- The sign of a number, and its digits as far as they go. -/
theorem leadingInt_of_trimChars (hs : trimChars s.toList = Number.intText n ++ rest)
    (hrest : ∀ c ∈ rest.head?, c.isDigit = false) :
    leadingInt s = (Number.int64OfText? (Number.intText n)).getD 0 := by
  obtain ⟨hdigits, -⟩ := Number.takeWhile_append_of_stop
    (fun c hc => Number.isDigit_of_mem_natText (n := n.natAbs) hc) hrest
  unfold leadingInt
  dsimp only
  rw [hs, Number.intText]
  by_cases hnegative : n < 0
  · rw [if_pos hnegative, List.cons_append]
    exact congrArg (fun digits => (Number.int64OfText? ('-' :: digits)).getD 0) hdigits
  · rw [if_neg hnegative]
    -- A digit is no sign.
    have hsign (sign : Char) (hsign : sign.isDigit = false) (more : List Char) :
        Number.natText n.natAbs ++ rest ≠ sign :: more := by
      intro heq
      cases hfirst : Number.natText n.natAbs with
      | nil => exact Number.natText_ne_nil _ hfirst
      | cons c cs =>
          rw [hfirst, List.cons_append] at heq
          exact Number.natText_ne_cons n.natAbs hsign cs ((List.cons.inj heq).1 ▸ hfirst)
    split
    · next heq => exact absurd heq (hsign _ rfl _)
    · next heq => exact absurd heq (hsign _ rfl _)
    · exact congrArg (fun digits => (Number.int64OfText? digits).getD 0) hdigits

/-- A number is read from its digits, whatever follows them that is no digit. -/
theorem leadingInt_of_intText (hlow : int64Min ≤ n) (hhigh : n ≤ int64Max)
    (hs : s.toList = Number.intText n ++ rest) (hrest : ∀ c ∈ rest.head?, c.isDigit = false) :
    leadingInt s = n := by
  have htrim : trimChars s.toList = Number.intText n ++ trimEndChars rest := by
    rw [hs]
    exact trimChars_append (Number.intText_ne_nil n)
      (fun c hc => Number.not_isBlank_of_mem_intText hc) rest
  rw [leadingInt_of_trimChars htrim fun c hc => hrest c (mem_head?_of_mem_head?_trimEndChars hc),
    Number.int64OfText?_intText hlow hhigh]
  rfl

end Text

namespace Attributes

variable {a b : Attributes} {v : AttributeValue}

/-- Whether two lists of attributes are read alike, under all names and in each of the ways to read them.
-/
structure ReadAlike (a b : Attributes) : Prop where
  text (name : String) : a.text name = b.text name
  trimmed (name : String) : a.trimmed name = b.trimmed name
  int (name : String) : a.int name = b.int name
  flag (name : String) : a.flag name = b.flag name
  typeTag : a.typeTag? = b.typeTag?

/-- Under a name either what was set last is found, or it does not matter what that was. -/
theorem get?_insert_cases (attrs : Attributes) (key name : String) :
    (∀ v, (attrs.insert key v).get? name = some v) ∨
      ∀ v w, (attrs.insert key v).get? name = (attrs.insert key w).get? name := by
  obtain ⟨entries⟩ := attrs
  simp only [get?, insert]
  generalize attributeName key = stored
  induction entries with
  | nil =>
      cases hname : Text.eqIgnoringCase stored name with
      | true => exact .inl fun v => by simp [put, hname]
      | false => exact .inr fun v w => by simp [put, hname]
  | cons entry rest ih =>
      by_cases hstored : entry.1 = stored
      · cases hname : Text.eqIgnoringCase stored name with
        | true => exact .inl fun v => by simp [put, hstored, hname]
        | false => exact .inr fun v w => by simp [put, hstored, hname]
      · cases hname : Text.eqIgnoringCase entry.1 name with
        | true => exact .inr fun v w => by simp [put, hstored, hname]
        | false => simpa [put, hstored, hname] using ih

/-- A value and its text are the same number, if they are found under one name. -/
theorem int_eq_of_get? {name : String} (hv : ∀ n, v = .int n → int64Min ≤ n ∧ n ≤ int64Max)
    (ha : a.get? name = some v) (hb : b.get? name = some (.text v.toText)) :
    a.int name = b.int name := by
  rw [int, int, ha, hb]
  cases v with
  | flag value => cases value <;> rfl
  | int n =>
      obtain ⟨hlow, hhigh⟩ := hv n rfl
      have hdigits : (AttributeValue.int n).toText.toList = Number.intText n ++ [] := by
        simp [AttributeValue.toText]
      exact (Text.leadingInt_of_intText hlow hhigh hdigits (by simp)).symm
  | text t => rfl
  | list items => rfl

theorem flag_eq_of_get? {name : String} (ha : a.get? name = some v)
    (hb : b.get? name = some (.text v.toText)) : a.flag name = b.flag name := by
  rw [flag, flag, ha, hb]
  cases v with
  | flag value => cases value <;> rfl
  | int n => rfl
  | text t => rfl
  | list items => rfl

/-- Attributes are read alike if under each name they have the same, or one has the text of what the
other has. -/
theorem readAlike_of_get? (hv : ∀ n, v = .int n → int64Min ≤ n ∧ n ≤ int64Max)
    (h : ∀ name, a.get? name = b.get? name ∨
      a.get? name = some v ∧ b.get? name = some (.text v.toText)) : ReadAlike a b := by
  have htext (name : String) : a.text name = b.text name := by
    rw [text, text]
    rcases h name with hsame | ⟨ha, hb⟩
    · rw [hsame]
    · rw [ha, hb]
      rfl
  have htrimmed (name : String) : a.trimmed name = b.trimmed name := congrArg Text.trim (htext name)
  refine ⟨htext, htrimmed, ?_, ?_, ?_⟩
  · intro name
    rcases h name with hsame | ⟨ha, hb⟩
    · rw [int, int, hsame]
    · exact int_eq_of_get? hv ha hb
  · intro name
    rcases h name with hsame | ⟨ha, hb⟩
    · rw [flag, flag, hsame]
    · exact flag_eq_of_get? ha hb
  · rw [typeTag?, typeTag?, htrimmed]

/-- Values and their text are read alike: to set an attribute to a value or to the text of the value makes
no difference to what is read of the attributes. A number in particular is read back from its decimal
text, whatever follows it that is no digit. -/
theorem value_read_as_text (hv : ∀ n, v = .int n → int64Min ≤ n ∧ n ≤ int64Max) (attrs : Attributes)
    (key : String) :
    ReadAlike (attrs.insert key v) (attrs.insert key (.text v.toText)) ∧
      ∀ {n : Int} {t : String}, int64Min ≤ n → n ≤ int64Max →
        (∀ c ∈ t.toList.head?, c.isDigit = false) →
        Text.leadingInt (Number.intString n ++ t) = n := by
  constructor
  · apply readAlike_of_get? hv
    intro name
    rcases get?_insert_cases attrs key name with hset | hother
    · exact .inr ⟨hset v, hset (.text v.toText)⟩
    · exact .inl (hother v (.text v.toText))
  · intro n t hlow hhigh ht
    exact Text.leadingInt_of_intText hlow hhigh (by simp [Number.intString]) ht

/-- The least number and a list with another one in it, and the least number in front of a unit. -/
theorem value_read_as_text_least :
    let items : AttributeValue := .list [.int 5, .list [.flag true, .int int64Min]]
    (int64Min ≤ int64Min ∧ int64Min ≤ int64Max) ∧
      (empty.insert " Width " (.text "-9223372036854775808")).int "WIDTH" = int64Min ∧
      items.toText = "5,1,-9223372036854775808" ∧
      (empty.insert "type" (.text items.toText)).typeTag? = (empty.insert "type" items).typeTag? ∧
      Text.leadingInt "-9223372036854775808px" = int64Min := by
  intro items
  have hlow : int64Min ≤ int64Min := Int.le_refl _
  have hhigh : int64Min ≤ int64Max := by decide
  have hleast (n : Int) (hn : AttributeValue.int int64Min = .int n) :
      int64Min ≤ n ∧ n ≤ int64Max := AttributeValue.int.inj hn ▸ ⟨hlow, hhigh⟩
  obtain ⟨hwidth, hunit⟩ := value_read_as_text hleast empty " Width "
  obtain ⟨htype, -⟩ := @value_read_as_text items nofun empty "type"
  have htext : (AttributeValue.int int64Min).toText = "-9223372036854775808" := by decide +kernel
  have hint : (empty.insert " Width " (.int int64Min)).int "WIDTH" = int64Min := by decide +kernel
  have hread := hwidth.int "WIDTH"
  rw [htext, hint] at hread
  have hpixels := hunit (t := "px") hlow hhigh fun c hc => Option.some.inj hc ▸ rfl
  rw [show Number.intString int64Min = "-9223372036854775808" from htext] at hpixels
  exact ⟨⟨hlow, hhigh⟩, hread.symm, by decide +kernel, htype.typeTag.symm, hpixels⟩

end Attributes

end DynamicContent
