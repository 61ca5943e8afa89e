/-
# Attributes as they are written

An author writes an attribute in one of five forms: a name and a value in quotes of either kind or
bare, or a value alone, in quotes or bare. A `Spelling` is one attribute in one of these forms, and
it can hold only what the form allows, so that every list of spellings is a list that can be
written.

Two readers go over what is written. One looks for the bracket that ends the opening tag and minds
quotes and brackets alone; the other takes the attributes apart and minds quotes, blanks and equals
signs, but no brackets. `isOpening_written` and `tokens_written` say that both take a list of
spellings for what it is.
-/

import DynamicContent.Proofs.Shortcode.Markup

namespace DynamicContent.Shortcode

/-- The characters of bare values behind a name. -/
def isBareChar (c : Char) : Bool := !Text.isBlank c && !isQuote c && c != '[' && c != ']'

/-- The characters of names and of bare values that stand alone. Letters, digits, `_` and `-` are
among them. -/
def isWordChar (c : Char) : Bool := isBareChar c && c != '='

/-- An attribute as it is written: `name="value"` or `name='value'`, `name=value`, `"value"` or
`'value'`, and `value`. -/
inductive Spelling where
  | quotedNamed (name value : List Char) (quote : Char) (isName : ∀ c ∈ name, isWordChar c = true)
      (isQuote : isQuote quote = true) (inside : quote ∉ value)
  | bareNamed (name value : List Char) (isName : ∀ c ∈ name, isWordChar c = true)
      (isBare : ∀ c ∈ value, isBareChar c = true)
  | quoted (value : List Char) (quote : Char) (isQuote : isQuote quote = true)
      (inside : quote ∉ value)
  | word (value : List Char) (isWord : ∀ c ∈ value, isWordChar c = true) (nonempty : value ≠ [])

namespace Spelling

/-- What is written. -/
def source : Spelling → List Char
  | quotedNamed name value quote .. => name ++ '=' :: quote :: (value ++ [quote])
  | bareNamed name value .. => name ++ '=' :: value
  | quoted value quote .. => quote :: (value ++ [quote])
  | word value .. => value

/-- The name that is given to the value, if one is. -/
def name? : Spelling → Option String
  | quotedNamed name .. | bareNamed name .. => some (String.ofList name)
  | quoted .. | word .. => none

/-- The value. -/
def value : Spelling → String
  | quotedNamed _ value .. | bareNamed _ value .. | quoted value .. | word value .. =>
    String.ofList value

/-- The token as which it is to be read. -/
def token : Spelling → Token
  | quotedNamed name value .. => .named name value
  | bareNamed name value .. => .named name value
  | quoted value .. => .positional value
  | word value .. => .positional value

/-- Whether a slash stands at the end of a value that is not in quotes. At the end of an opening tag
it would close the tag. -/
def EndsInSlash : Spelling → Prop
  | bareNamed _ value .. => value.getLast? = some '/'
  | word value .. => value.getLast? = some '/'
  | _ => False

end Spelling

/-- Spellings as they stand behind the name of a shortcode. -/
def written (spellings : List Spelling) : List Char :=
  spellings.flatMap fun spelling => ' ' :: spelling.source

theorem written_cons (spelling : Spelling) (rest : List Spelling) :
    written (spelling :: rest) = ' ' :: (spelling.source ++ written rest) := rfl

/-! ## What the characters are -/

theorem of_isBareChar {c : Char} (h : isBareChar c = true) :
    Text.isBlank c = false ∧ isQuote c = false ∧ c ≠ '[' ∧ c ≠ ']' := by
  simpa [isBareChar, and_assoc] using h

theorem of_isWordChar {c : Char} (h : isWordChar c = true) : isBareChar c = true ∧ c ≠ '=' := by
  simpa [isWordChar] using h

theorem isBlank_of_isQuote {c : Char} (h : isQuote c = true) : Text.isBlank c = false := by
  simp only [isQuote, Bool.or_eq_true, beq_iff_eq] at h
  rcases h with rfl | rfl <;> decide

/-! ## The reader that looks for the end of the tag -/

theorem IsOpening.append {cs ds : List Char} (h : IsOpening cs) (hds : IsOpening ds) :
    IsOpening (cs ++ ds) := by
  induction h with
  | nil => exact hds
  | plain noQuote noOpen noClose more ih => exact .plain noQuote noOpen noClose ih
  | @quoted q value cs opens inside more ih =>
      rw [List.cons_append, List.append_assoc, List.cons_append]
      exact .quoted opens inside ih

/-- A blank is no quote and no bracket. -/
theorem IsOpening.blank {cs : List Char} (h : IsOpening cs) : IsOpening (' ' :: cs) :=
  .plain (by decide) (by decide) (by decide) h

/-- Bare characters are no quotes and no brackets. -/
theorem isOpening_of_bare {cs : List Char} (h : ∀ c ∈ cs, isBareChar c = true) : IsOpening cs := by
  induction cs with
  | nil => exact .nil
  | cons c cs ih =>
      rw [List.forall_mem_cons] at h
      obtain ⟨-, noQuote, noOpen, noClose⟩ := of_isBareChar h.1
      exact .plain noQuote noOpen noClose (ih h.2)

theorem isOpening_of_word {cs : List Char} (h : ∀ c ∈ cs, isWordChar c = true) : IsOpening cs :=
  isOpening_of_bare fun c hc => (of_isWordChar (h c hc)).1

theorem Spelling.isOpening_source (spelling : Spelling) : IsOpening spelling.source := by
  have hequals {cs : List Char} (h : IsOpening cs) : IsOpening ('=' :: cs) :=
    .plain (by decide) (by decide) (by decide) h
  cases spelling with
  | quotedNamed name value quote isName isQuote inside =>
      exact (isOpening_of_word isName).append (hequals (.quoted isQuote inside .nil))
  | bareNamed name value isName isBare =>
      exact (isOpening_of_word isName).append (hequals (isOpening_of_bare isBare))
  | quoted value quote isQuote inside => exact .quoted isQuote inside .nil
  | word value isWord nonempty => exact isOpening_of_word isWord

/-- Spellings can stand in an opening tag. -/
theorem isOpening_written (spellings : List Spelling) : IsOpening (written spellings) := by
  induction spellings with
  | nil => exact .nil
  | cons spelling rest ih => exact (spelling.isOpening_source.append ih).blank

/-! ## The reader that takes the attributes apart -/

namespace Reading

/-- A character that completes no token changes the state alone. -/
theorem tokens_cons {r r' : Reading} {c : Char} (hstep : r.step c = (r', none)) (cs : List Char) :
    r.tokens (c :: cs) = r'.tokens cs := by
  rw [tokens, hstep, Option.toList_none, List.nil_append]

/-- Blanks between attributes are passed over. -/
theorem tokens_between_blank {c : Char} (h : Text.isBlank c = true) (cs : List Char) :
    between.tokens (c :: cs) = between.tokens cs :=
  tokens_cons (by simp [step, h]) cs

theorem tokens_between_trimStartChars (cs : List Char) :
    between.tokens (Text.trimStartChars cs) = between.tokens cs := by
  induction cs with
  | nil => rfl
  | cons c cs ih =>
      cases hblank : Text.isBlank c with
      | true =>
          have htrim : Text.trimStartChars (c :: cs) = Text.trimStartChars cs :=
            List.dropWhile_cons_of_pos hblank
          rw [htrim, ih, tokens_between_blank hblank]
      | false => rw [Text.trimStartChars, List.dropWhile_cons_of_neg (by simp [hblank])]

/-- A state that keeps the characters of a text has them behind what it had read, the last first. -/
theorem tokens_append {state : List Char → Reading} {cs : List Char}
    (hstep : ∀ c ∈ cs, ∀ read, (state read).step c = (state (c :: read), none))
    (read rest : List Char) :
    (state read).tokens (cs ++ rest) = (state (cs.reverse ++ read)).tokens rest := by
  induction cs generalizing read with
  | nil => rfl
  | cons c cs ih =>
      obtain ⟨hc, hcs⟩ := List.forall_mem_cons.mp hstep
      rw [List.cons_append, tokens_cons (hc read), ih hcs, List.reverse_cons, List.append_assoc,
        List.singleton_append]

/-- A word is read on to its end. -/
theorem tokens_word {cs : List Char} (h : ∀ c ∈ cs, isWordChar c = true) (read rest : List Char) :
    (word read).tokens (cs ++ rest) = (word (cs.reverse ++ read)).tokens rest := by
  refine tokens_append (fun c hc read => ?_) read rest
  obtain ⟨hbare, hequals⟩ := of_isWordChar (h c hc)
  simp [step, of_isBareChar hbare, hequals]

/-- A word is begun with its first character. -/
theorem tokens_between_word {cs : List Char} (h : ∀ c ∈ cs, isWordChar c = true)
    (nonempty : cs ≠ []) (rest : List Char) :
    between.tokens (cs ++ rest) = (word cs.reverse).tokens rest := by
  cases cs with
  | nil => exact absurd rfl nonempty
  | cons c cs =>
      rw [List.forall_mem_cons] at h
      obtain ⟨hbare, hequals⟩ := of_isWordChar h.1
      have hstep : between.step c = (word [c], none) := by
        simp [step, of_isBareChar hbare, hequals]
      rw [List.cons_append, tokens_cons hstep, tokens_word h.2]
      simp

/-- The name of an attribute is read, also an empty one. -/
theorem tokens_between_name {name : List Char} (h : ∀ c ∈ name, isWordChar c = true)
    (rest : List Char) :
    between.tokens (name ++ '=' :: rest) = (valueStart name).tokens rest := by
  by_cases hempty : name = []
  · rw [hempty]
    exact tokens_cons (by decide) rest
  · rw [tokens_between_word h hempty]
    exact tokens_cons (by simp [step, Text.isBlank]) rest

/-- A value in quotes is read on to its end, whatever stands in it. -/
theorem tokens_quoted (name : Option (List Char)) {quote : Char} {cs : List Char}
    (inside : quote ∉ cs) (read rest : List Char) :
    (quoted name quote read).tokens (cs ++ quote :: rest) =
      .ofName name (read.reverse ++ cs) :: between.tokens rest := by
  have hstep : ∀ c ∈ cs, ∀ read,
      (quoted name quote read).step c = (quoted name quote (c :: read), none) :=
    fun c hc read => if_neg (ne_of_mem_of_not_mem hc inside)
  rw [tokens_append hstep]
  simp [tokens, step]

/-- A bare value is read on to its end. -/
theorem tokens_bareValue {cs : List Char} (h : ∀ c ∈ cs, isBareChar c = true)
    (name read rest : List Char) :
    (bareValue name read).tokens (cs ++ rest) =
      (bareValue name (cs.reverse ++ read)).tokens rest :=
  tokens_append (fun c hc _ => by simp [step, of_isBareChar (h c hc)]) read rest

/-- Where a blank or nothing follows, what has been read is a token. -/
theorem tokens_of_step {r : Reading} {token : Token} (hstep : r.step ' ' = (between, some token))
    (hfinish : r.finish = some token) (spellings : List Spelling) :
    r.tokens (written spellings) = token :: between.tokens (written spellings) := by
  cases spellings with
  | nil =>
      rw [written, List.flatMap_nil, tokens, hfinish]
      rfl
  | cons spelling rest =>
      rw [written_cons, tokens, hstep, tokens_between_blank (by decide)]
      rfl

/-- A spelling in front of others is read as the token that it means. -/
theorem tokens_source (spelling : Spelling) (rest : List Spelling) :
    between.tokens (spelling.source ++ written rest) =
      spelling.token :: between.tokens (written rest) := by
  cases spelling with
  | quotedNamed name value quote isName isQuote inside =>
      have hopen : (valueStart name).step quote = (quoted (some name) quote [], none) := by
        simp [step, isQuote]
      simp only [Spelling.source, List.append_assoc, List.cons_append, List.nil_append]
      rw [tokens_between_name isName, tokens_cons hopen, tokens_quoted _ inside]
      rfl
  | bareNamed name value isName isBare =>
      simp only [Spelling.source, List.append_assoc, List.cons_append]
      rw [tokens_between_name isName]
      cases value with
      | nil => exact tokens_of_step rfl rfl rest
      | cons c value =>
          rw [List.forall_mem_cons] at isBare
          have hvalue : (valueStart name).step c = (bareValue name [c], none) := by
            simp [step, of_isBareChar isBare.1]
          rw [List.cons_append, tokens_cons hvalue, tokens_bareValue isBare.2]
          refine tokens_of_step ?_ ?_ rest <;> simp [step, finish, Spelling.token, Text.isBlank]
  | quoted value quote isQuote inside =>
      have hopen : between.step quote = (Reading.quoted none quote [], none) := by
        simp [step, isBlank_of_isQuote isQuote, isQuote]
      simp only [Spelling.source, List.append_assoc, List.cons_append, List.nil_append]
      rw [tokens_cons hopen, tokens_quoted _ inside]
      rfl
  | word value isWord nonempty =>
      rw [Spelling.source, tokens_between_word isWord nonempty]
      refine tokens_of_step ?_ ?_ rest <;> simp [step, finish, Spelling.token, Text.isBlank]

/-- Spellings are read as the tokens that they mean, in their order. -/
theorem tokens_written (spellings : List Spelling) :
    between.tokens (written spellings) = spellings.map Spelling.token := by
  induction spellings with
  | nil => rfl
  | cons spelling rest ih =>
      rw [written_cons, tokens_between_blank (by decide), tokens_source, ih, List.map_cons]

end Reading

end DynamicContent.Shortcode
