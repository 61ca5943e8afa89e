/-
# What is looked up is told by its key

The key of what is looked up is the digest of a message: the group, a zero and the argument as text.
Groups may hold zeros themselves, so the first zero of a message need not be the one between them. But
an argument that is not a bare text is written as JSON, in which no control character stands as it is.
So the last zero is the one, and a message tells the group and, by its text, the argument.

A digest tells its message as long as no other message with the same digest comes in. That cannot be
proved, and for all messages at once it is not even true; here it is asked of the two messages whose
keys are compared.

A template is looked up without a digest: its key spells out which revision of it is meant.
-/

import DynamicContent.Element.PageTemplate
import DynamicContent.Handler.Builtin
import DynamicContent.Proofs.Query.Key

namespace DynamicContent.Cache

/-- Whether the digest keeps two messages apart: it is not the same for both unless they are. -/
def Digest.KeepsApart (message message' : List UInt8) : Prop :=
  Digest.sha256 message = Digest.sha256 message' → message = message'

/-- What the key of an argument in a group is the digest of. -/
def argumentMessage (argument : Json) (group : String) : List UInt8 :=
  argumentBytes group (argumentText argument)

/-! ## The message -/

/-- A message is the encoding of the group, a zero and the text of the argument. -/
theorem argumentBytes_eq (group : String) (text : List Char) :
    argumentBytes group text =
      (group.toList ++ Char.ofNat 0 :: text).flatMap String.utf8EncodeChar := by
  have hzero : String.utf8EncodeChar (Char.ofNat 0) = [0] := by decide
  rw [argumentBytes, List.flatMap_append, List.flatMap_cons, hzero, List.singleton_append]

/-- What stands in front of the last zero is told, and so is what stands behind. -/
theorem append_zero_inj {xs xs' ys ys' : List Char} (hys : Char.ofNat 0 ∉ ys)
    (hys' : Char.ofNat 0 ∉ ys') (h : xs ++ Char.ofNat 0 :: ys = xs' ++ Char.ofNat 0 :: ys') :
    xs = xs' ∧ ys = ys' := by
  -- From behind, the last zero is the first one.
  have hback : ys.reverse ++ Char.ofNat 0 :: xs.reverse =
      ys'.reverse ++ Char.ofNat 0 :: xs'.reverse := by
    simpa using congrArg List.reverse h
  have hcut := congrArg (Text.cutChars [Char.ofNat 0]) hback
  rw [Text.cutChars_of_not_mem (mt List.mem_reverse.mp hys),
    Text.cutChars_of_not_mem (mt List.mem_reverse.mp hys')] at hcut
  obtain ⟨hbehind, hfront⟩ := Prod.mk.inj (Option.some.inj hcut)
  exact ⟨List.reverse_inj.mp hfront, List.reverse_inj.mp hbehind⟩

theorem argumentText_eq {argument : Json} (h : ∀ text, argument ≠ .string text) :
    argumentText argument = argument.chars := by
  cases argument with
  | string text => exact absurd rfl (h text)
  | _ => rfl

theorem zero_not_mem_chars (v : Json) : Char.ofNat 0 ∉ v.chars := by
  intro hmem
  exact absurd (Json.isVisible_chars v _ hmem) (by decide)

/-- A message tells the group and the argument, unless that is a bare text. -/
theorem argumentMessage_inj {argument argument' : Json} {group group' : String}
    (hargument : ∀ text, argument ≠ .string text) (hargument' : ∀ text, argument' ≠ .string text)
    (h : argumentMessage argument group = argumentMessage argument' group') :
    group = group' ∧ argument = argument' := by
  rw [argumentMessage, argumentMessage, argumentBytes_eq, argumentBytes_eq,
    argumentText_eq hargument, argumentText_eq hargument'] at h
  obtain ⟨hgroup, htext⟩ := append_zero_inj (zero_not_mem_chars argument)
    (zero_not_mem_chars argument') (flatMap_utf8EncodeChar_inj h)
  exact ⟨String.toList_inj.mp hgroup, Json.chars_inj htext⟩

/-! ## The key -/

/-- Keys are equal exactly if their messages are, as far as the digest keeps these apart. -/
theorem argumentKey_eq_iff_message {argument argument' : Json} {group group' : String}
    (hdigest : Digest.KeepsApart (argumentMessage argument group)
      (argumentMessage argument' group')) :
    argumentKey argument group = argumentKey argument' group' ↔
      argumentMessage argument group = argumentMessage argument' group' := by
  constructor
  · intro hkey
    exact hdigest (Digest.sha256_eq_of_hex_eq hkey)
  · intro hmessage
    exact congrArg Digest.hex hmessage

theorem argumentKey_eq_iff {argument argument' : Json} {group group' : String}
    (hargument : ∀ text, argument ≠ .string text) (hargument' : ∀ text, argument' ≠ .string text)
    (hdigest : Digest.KeepsApart (argumentMessage argument group)
      (argumentMessage argument' group')) :
    argumentKey argument group = argumentKey argument' group' ↔
      group = group' ∧ argument = argument' := by
  rw [argumentKey_eq_iff_message hdigest]
  constructor
  · exact argumentMessage_inj hargument hargument'
  · rintro ⟨rfl, rfl⟩
    rfl

/-- In one group, what is looked up is stored under one key only if it has one key. -/
theorem storedKey_argumentKey_eq_iff {start group : String} {argument argument' : Json} :
    storedKey start group (argumentKey argument group) =
        storedKey start group (argumentKey argument' group) ↔
      argumentKey argument group = argumentKey argument' group :=
  ⟨hex_eq_of_storedKey_eq, congrArg _⟩

/-! ## Lookups -/

/-- What an option or constant is looked up by. -/
def lookupArgument (kind name : String) : Json :=
  .ofFields [("kind", .string kind), ("param", .string name)]

/-- What the result of a query is looked up by. -/
def queryArgument (kind : String) (payload : Json) : Json :=
  .ofFields [("kind", .string kind), ("payload", payload)]

theorem ofFields_ne_string (fields : List (String × Json)) (text : String) :
    Json.ofFields fields ≠ .string text := nofun

theorem lookupArgument_inj {kind kind' name name' : String}
    (h : lookupArgument kind name = lookupArgument kind' name') : kind = kind' ∧ name = name' := by
  have hfield := Json.find?_eq_of_ofFields_eq h
  have hkind := Option.some.inj (hfield "kind")
  have hname := Option.some.inj (hfield "param")
  exact ⟨Json.string.inj hkind, Json.string.inj hname⟩

theorem queryArgument_inj {kind kind' : String} {payload payload' : Json}
    (h : queryArgument kind payload = queryArgument kind' payload') :
    kind = kind' ∧ payload = payload' := by
  have hfield := Json.find?_eq_of_ofFields_eq h
  have hkind := Option.some.inj (hfield "kind")
  have hpayload := Option.some.inj (hfield "payload")
  exact ⟨Json.string.inj hkind, hpayload⟩

/-- Lookups are kept apart, as far as the digest keeps their messages apart. Two keys are equal exactly
if the groups and the arguments are, where neither argument is a bare text. So options and constants
are stored under one key exactly if they are of one kind and have one name, and results of queries
exactly if they are of one kind and have one payload. -/
theorem lookups_kept_apart :
    (∀ {argument argument' : Json} {group group' : String},
      (∀ text, argument ≠ .string text) → (∀ text, argument' ≠ .string text) →
      Digest.KeepsApart (argumentMessage argument group) (argumentMessage argument' group') →
      (argumentKey argument group = argumentKey argument' group' ↔
        group = group' ∧ argument = argument')) ∧
    (∀ {start kind kind' name name' : String},
      Digest.KeepsApart (argumentMessage (lookupArgument kind name) Handler.lookupGroup)
        (argumentMessage (lookupArgument kind' name') Handler.lookupGroup) →
      (storedKey start Handler.lookupGroup (Handler.lookupKey kind name) =
          storedKey start Handler.lookupGroup (Handler.lookupKey kind' name') ↔
        kind = kind' ∧ name = name')) ∧
    ∀ {start kind kind' : String} {payload payload' : Json},
      Digest.KeepsApart (argumentMessage (queryArgument kind payload) QueryMemo.group)
        (argumentMessage (queryArgument kind' payload') QueryMemo.group) →
      (storedKey start QueryMemo.group (QueryMemo.key kind payload) =
          storedKey start QueryMemo.group (QueryMemo.key kind' payload') ↔
        kind = kind' ∧ payload = payload') := by
  refine ⟨argumentKey_eq_iff, ?_, ?_⟩
  · intro start kind kind' name name' hdigest
    have hkeys := argumentKey_eq_iff (ofFields_ne_string _) (ofFields_ne_string _) hdigest
    apply storedKey_argumentKey_eq_iff.trans
    apply hkeys.trans
    constructor
    · rintro ⟨-, hargument⟩
      exact lookupArgument_inj hargument
    · rintro ⟨rfl, rfl⟩
      exact ⟨rfl, rfl⟩
  · intro start kind kind' payload payload' hdigest
    have hkeys := argumentKey_eq_iff (ofFields_ne_string _) (ofFields_ne_string _) hdigest
    apply storedKey_argumentKey_eq_iff.trans
    apply hkeys.trans
    constructor
    · rintro ⟨-, hargument⟩
      exact queryArgument_inj hargument
    · rintro ⟨rfl, rfl⟩
      exact ⟨rfl, rfl⟩

/-- A group that ends in a zero is kept apart from the one without it, an option from a constant of its
name, and a query for nothing from one for null. -/
theorem lookups_kept_apart_zero :
    argumentKey (.array []) "query\x00" ≠ argumentKey (.array []) "query" ∧
      storedKey "weft_" Handler.lookupGroup (Handler.lookupKey "option" "name") ≠
        storedKey "weft_" Handler.lookupGroup (Handler.lookupKey "const" "name") ∧
      storedKey "weft_" QueryMemo.group (QueryMemo.key "ids" (.array [])) ≠
        storedKey "weft_" QueryMemo.group (QueryMemo.key "ids" .null) := by
  have hempty : ∀ text, Json.array [] ≠ .string text := fun _ => nofun
  have hgroups : Digest.sha256 (argumentMessage (.array []) "query\x00") ≠
      Digest.sha256 (argumentMessage (.array []) "query") := by decide +kernel
  have hkinds : Digest.sha256
        (argumentMessage (lookupArgument "option" "name") Handler.lookupGroup) ≠
      Digest.sha256
        (argumentMessage (lookupArgument "const" "name") Handler.lookupGroup) := by decide +kernel
  have hpayloads : Digest.sha256
        (argumentMessage (queryArgument "ids" (.array [])) QueryMemo.group) ≠
      Digest.sha256
        (argumentMessage (queryArgument "ids" .null) QueryMemo.group) := by decide +kernel
  obtain ⟨hkeys, hlookups, hqueries⟩ := lookups_kept_apart
  refine ⟨?_, ?_, ?_⟩
  · intro hsame
    obtain ⟨hgroup, -⟩ := (hkeys hempty hempty fun h => absurd h hgroups).mp hsame
    exact absurd hgroup (by decide)
  · intro hsame
    obtain ⟨hkind, -⟩ := (hlookups fun h => absurd h hkinds).mp hsame
    exact absurd hkind (by decide)
  · intro hsame
    obtain ⟨-, hpayload⟩ := (hqueries fun h => absurd h hpayloads).mp hsame
    exact absurd hpayload nofun

/-! ## Templates

The key of a revision of a template is the number of the template, the moment of the change and the
kind, with a line in front of each of them. Neither number holds a line, so the lines behind them are
found again, and all that stands in the key may be in keys. No kind that can be shown is spelled like a
missing one. -/

/-- How a kind of template is spelled in a key. -/
def kindChars (kind : String) : List Char := (if kind.isEmpty then "na" else kind).toList

variable {id id' : Nat} {modified modified' : Int} {kind kind' : String}

theorem toList_templateKey (id : Nat) (modified : Int) (kind : String) :
    (templateKey id modified kind).toList =
      "tpl_".toList ++
        (Number.natText id ++ '_' :: (Number.intText modified ++ '_' :: kindChars kind)) := by
  simp [templateKey, kindChars, Number.natString, Number.intString]

/-- A kind is told by its spelling, as long as it is not named like a missing one is spelled. -/
theorem kindChars_inj (hkind : kind ≠ "na") (hkind' : kind' ≠ "na")
    (h : kindChars kind = kindChars kind') : kind = kind' := by
  rw [kindChars, kindChars, String.toList_inj] at h
  split at h
  · next hempty =>
      split at h
      · next hempty' => rw [String.isEmpty_iff.mp hempty, String.isEmpty_iff.mp hempty']
      · exact absurd h.symm hkind'
  · split at h
    · exact absurd h hkind
    · exact h

theorem ne_of_isSupportedKind (h : Element.isSupportedKind kind = true) : kind ≠ "na" := by
  rintro rfl
  exact absurd h (by decide)

theorem isKeyChar_of_mem_templateKey (hkind : Element.isSupportedKind kind = true) :
    ∀ c ∈ (templateKey id modified kind).toList, Text.isKeyChar c = true := by
  have hdigit {c : Char} (hc : c.isDigit = true) : Text.isKeyChar c = true := by
    simp [Text.isKeyChar, hc]
  have hspelled : ∀ c ∈ kindChars kind, Text.isKeyChar c = true := by
    have hall : ∀ kind ∈ ["", "section", "page"],
        (kindChars kind).all Text.isKeyChar = true := by decide
    exact List.all_eq_true.mp (hall kind (List.contains_iff_mem.mp hkind))
  rw [toList_templateKey]
  simp only [List.forall_mem_append, List.forall_mem_cons]
  refine ⟨List.all_eq_true.mp (by decide), ?_, rfl, ?_, rfl, hspelled⟩
  · intro c hc
    exact hdigit (Number.isDigit_of_mem_natText hc)
  · intro c hc
    rcases Number.isDigit_of_mem_intText hc with rfl | hc
    · rfl
    · exact hdigit hc

/-- The key of a revision tells the number of the template, the moment of the change and the spelling of
the kind. -/
theorem templateKey_inj
    (h : (templateKey id modified kind).toList = (templateKey id' modified' kind').toList) :
    id = id' ∧ modified = modified' ∧ kindChars kind = kindChars kind' := by
  have hline {n : Int} : '_' ∉ Number.intText n := fun hmem =>
    (Number.isDigit_of_mem_intText hmem).elim (by decide) (by decide)
  have hline' {n : Nat} : '_' ∉ Number.natText n := fun hmem =>
    absurd (Number.isDigit_of_mem_natText hmem) (by decide)
  rw [toList_templateKey, toList_templateKey, List.append_cancel_left_eq] at h
  have hcut := congrArg (Text.cutChars ['_']) h
  rw [Text.cutChars_of_not_mem hline', Text.cutChars_of_not_mem hline'] at hcut
  obtain ⟨hid, hrest⟩ := Prod.mk.inj (Option.some.inj hcut)
  have hcut' := congrArg (Text.cutChars ['_']) hrest
  rw [Text.cutChars_of_not_mem hline, Text.cutChars_of_not_mem hline] at hcut'
  obtain ⟨hmodified, hkind⟩ := Prod.mk.inj (Option.some.inj hcut')
  have hvalue := congrArg (Number.digitsValue 0) hid
  rw [Number.digitsValue_natText, Number.digitsValue_natText] at hvalue
  exact ⟨hvalue, Json.intText_inj hmodified, hkind⟩

/-- Revisions of templates are kept apart: of kinds that can be shown, two are stored under one key
exactly if they are of one template, were made at one moment and are of one kind. -/
theorem revisions_kept_apart {start : String} (hkind : Element.isSupportedKind kind = true)
    (hkind' : Element.isSupportedKind kind' = true) :
    storedKey start Element.templateGroup (templateKey id modified kind) =
        storedKey start Element.templateGroup (templateKey id' modified' kind') ↔
      id = id' ∧ modified = modified' ∧ kind = kind' := by
  rw [storedKey_eq_iff, and_iff_right rfl,
    Text.toKeyChars_eq_self (isKeyChar_of_mem_templateKey hkind),
    Text.toKeyChars_eq_self (isKeyChar_of_mem_templateKey hkind')]
  constructor
  · intro hkey
    obtain ⟨hid, hmodified, hspelled⟩ := templateKey_inj hkey
    exact ⟨hid, hmodified,
      kindChars_inj (ne_of_isSupportedKind hkind) (ne_of_isSupportedKind hkind') hspelled⟩
  · rintro ⟨rfl, rfl, rfl⟩
    rfl

/-- A template that was changed before the beginning of time is kept apart from one that was changed as
long after it, one number from another one that begins with the same digits, and a page from a template
without a kind. -/
theorem revisions_kept_apart_signs :
    (Element.isSupportedKind "" = true ∧ Element.isSupportedKind "page" = true) ∧
      storedKey "weft_" Element.templateGroup (templateKey 1 (-12) "") ≠
        storedKey "weft_" Element.templateGroup (templateKey 1 12 "") ∧
      storedKey "weft_" Element.templateGroup (templateKey 1 12 "") ≠
        storedKey "weft_" Element.templateGroup (templateKey 11 2 "") ∧
      storedKey "weft_" Element.templateGroup (templateKey 1 12 "page") ≠
        storedKey "weft_" Element.templateGroup (templateKey 1 12 "") := by
  have hnone : Element.isSupportedKind "" = true := by decide
  have hpage : Element.isSupportedKind "page" = true := by decide
  refine ⟨⟨hnone, hpage⟩, ?_, ?_, ?_⟩
  · intro hsame
    exact absurd ((revisions_kept_apart hnone hnone).mp hsame).2.1 (by decide)
  · intro hsame
    exact absurd ((revisions_kept_apart hnone hnone).mp hsame).1 (by decide)
  · intro hsame
    exact absurd ((revisions_kept_apart hpage hnone).mp hsame).2.2 (by decide)

end DynamicContent.Cache
