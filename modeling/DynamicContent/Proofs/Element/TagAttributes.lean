/-
# Attributes of a tag read back

A value stands in a tag between double quotes, and what would end it, open an element or begin an entity
is written as an entity. So nothing of a value is taken for a quote, and a reader who takes the text up to
the next quote and puts the characters for their entities again has the value. The entities are read from
left to right and what one stands for is not looked at once more: a value in which an entity is written
out keeps it as text.
-/

import DynamicContent.Element.Finish
import DynamicContent.Proofs.Text.Cutting

namespace DynamicContent

namespace Html

/-- The characters with a meaning in markup, and the entities written for them. -/
def entities : List (Char × String) :=
  [('&', "&amp;"), ('<', "&lt;"), ('>', "&gt;"), ('"', "&quot;"), ('\'', "&#039;")]

/-- The characters that entities keep out of a text. -/
def markupChars : List Char := ['<', '>', '"', '\'']

/-- Each ampersand of a text is the first character of an entity. -/
def AmpersandsLead (cs : List Char) : Prop :=
  ∀ before after, cs = before ++ '&' :: after →
    ∃ entity ∈ entities, entity.2.toList <+: '&' :: after

/-- A text with characters in place of their entities, which are read from left to right. -/
def unescapeChars : List Char → List Char
  | '&' :: 'a' :: 'm' :: 'p' :: ';' :: cs => '&' :: unescapeChars cs
  | '&' :: 'l' :: 't' :: ';' :: cs => '<' :: unescapeChars cs
  | '&' :: 'g' :: 't' :: ';' :: cs => '>' :: unescapeChars cs
  | '&' :: 'q' :: 'u' :: 'o' :: 't' :: ';' :: cs => '"' :: unescapeChars cs
  | '&' :: '#' :: '0' :: '3' :: '9' :: ';' :: cs => '\'' :: unescapeChars cs
  | c :: cs => c :: unescapeChars cs
  | [] => []

/-- A text with characters in place of their entities. -/
def unescape (s : String) : String := String.ofList (unescapeChars s.toList)

/-! ## Entities -/

/-- A character is written as its entity if it has one, and as itself if it has none. -/
theorem escapeChar_cases (c : Char) :
    (∃ entity ∈ entities, entity.1 = c ∧ escapeChar c = entity.2.toList) ∨
      (c ∉ '&' :: markupChars ∧ escapeChar c = [c]) := by
  by_cases hc : c ∈ '&' :: markupChars
  · left
    simp only [markupChars, List.mem_cons, List.not_mem_nil, or_false] at hc
    rcases hc with rfl | rfl | rfl | rfl | rfl <;> decide
  · right
    refine ⟨hc, ?_⟩
    simp only [markupChars, List.mem_cons, List.not_mem_nil, or_false, not_or] at hc
    simp [escapeChar, hc]

/-- An entity has an ampersand in front and nowhere else. -/
theorem entity_eq_cons {entity : Char × String} (h : entity ∈ entities) :
    ∃ body, entity.2.toList = '&' :: body ∧ '&' ∉ body := by
  have hall : ∀ entity ∈ entities,
      entity.2.toList = '&' :: entity.2.toList.tail ∧ '&' ∉ entity.2.toList.tail := by decide
  exact ⟨_, hall entity h⟩

theorem markupChar_not_mem_entity {entity : Char × String} (h : entity ∈ entities) {c : Char}
    (hc : c ∈ markupChars) : c ∉ entity.2.toList := by
  have hall : ∀ entity ∈ entities, markupChars.all (· ∉ entity.2.toList) = true := by decide
  exact of_decide_eq_true (List.all_eq_true.mp (hall entity h) c hc)

/-- Where an entity stands in front, its character is read. -/
theorem unescapeChars_entity {entity : Char × String} (h : entity ∈ entities) (cs : List Char) :
    unescapeChars (entity.2.toList ++ cs) = entity.1 :: unescapeChars cs := by
  simp only [entities, List.mem_cons, List.not_mem_nil, or_false] at h
  rcases h with rfl | rfl | rfl | rfl | rfl <;> rfl

/-- No entity begins with another character than the ampersand. -/
theorem unescapeChars_cons {c : Char} (h : c ≠ '&') (cs : List Char) :
    unescapeChars (c :: cs) = c :: unescapeChars cs := by
  conv_lhs => unfold unescapeChars
  split <;> simp_all

/-! ## Escaped text -/

theorem unescapeChars_escapeChars (cs : List Char) : unescapeChars (escapeChars cs) = cs := by
  induction cs with
  | nil => rfl
  | cons c cs ih =>
      rw [escapeChars, List.flatMap_cons, ← escapeChars]
      rcases escapeChar_cases c with ⟨entity, hentity, rfl, hwritten⟩ | ⟨hplain, hwritten⟩
      · rw [hwritten, unescapeChars_entity hentity, ih]
      · rw [hwritten, List.singleton_append, unescapeChars_cons (List.ne_of_not_mem_cons hplain), ih]

/-- No character with a meaning is left, except for the ampersands. -/
theorem not_mem_escapeChars {c : Char} (hc : c ∈ markupChars) (cs : List Char) :
    c ∉ escapeChars cs := by
  intro hmem
  obtain ⟨d, -, hd⟩ := List.mem_flatMap.mp hmem
  rcases escapeChar_cases d with ⟨entity, hentity, -, hwritten⟩ | ⟨hplain, hwritten⟩
  · rw [hwritten] at hd
    exact markupChar_not_mem_entity hentity hc hd
  · rw [hwritten, List.mem_singleton] at hd
    exact hplain (hd ▸ List.mem_cons_of_mem _ hc)

theorem AmpersandsLead.append {cs ds : List Char} (hcs : AmpersandsLead cs)
    (hds : AmpersandsLead ds) : AmpersandsLead (cs ++ ds) := by
  intro before after hsplit
  rcases List.append_eq_append_iff.mp hsplit with ⟨between, -, hlater⟩ | ⟨between, hearlier, hrest⟩
  · exact hds between after hlater
  · cases between with
    | nil => exact hds [] after hrest.symm
    | cons d between =>
        obtain ⟨rfl, rfl⟩ := List.cons.inj hrest
        obtain ⟨entity, hentity, hfront⟩ := hcs before between hearlier
        exact ⟨entity, hentity, hfront.trans (List.prefix_append ('&' :: between) ds)⟩

theorem ampersandsLead_escapeChar (c : Char) : AmpersandsLead (escapeChar c) := by
  intro before after hsplit
  rcases escapeChar_cases c with ⟨entity, hentity, -, hwritten⟩ | ⟨hplain, hwritten⟩
  · obtain ⟨body, hbody, hfree⟩ := entity_eq_cons hentity
    rw [hwritten] at hsplit
    cases before with
    | nil => exact ⟨entity, hentity, hsplit ▸ List.prefix_rfl⟩
    | cons d before =>
        -- A second ampersand would stand in the body of the entity.
        rw [hbody, List.cons_append, List.cons.injEq] at hsplit
        exact absurd (hsplit.2 ▸ List.mem_append_right before List.mem_cons_self) hfree
  · have hmem : '&' ∈ escapeChar c := hsplit ▸ List.mem_append_right before List.mem_cons_self
    rw [hwritten, List.mem_singleton] at hmem
    exact absurd (hmem ▸ List.mem_cons_self) hplain

theorem ampersandsLead_escapeChars (cs : List Char) : AmpersandsLead (escapeChars cs) := by
  induction cs with
  | nil =>
      intro before after hsplit
      exact absurd (List.append_eq_nil_iff.mp hsplit.symm).2 (List.cons_ne_nil '&' after)
  | cons c cs ih =>
      rw [escapeChars, List.flatMap_cons]
      exact (ampersandsLead_escapeChar c).append ih

end Html

namespace Element

/-! ## A reader of attributes -/

/-- Whether a character can stand in the name of an attribute, as letters and hyphens can. -/
def isAttributeNameChar (c : Char) : Bool :=
  !(Text.isBlank c || ['"', '\'', '>', '/', '='].contains c)

/-- The attribute that a text begins with, which is a name and a value in double quotes, and the text
behind it. -/
def readAttribute? (cs : List Char) : Option ((String × String) × List Char) :=
  match Text.afterStart? ['=', '"'] (cs.dropWhile isAttributeNameChar) with
  | none => none
  | some quoted =>
    match Text.cutChars ['"'] quoted with
    | none => none
    | some (value, rest) =>
      some ((String.ofList (cs.takeWhile isAttributeNameChar),
        String.ofList (Html.unescapeChars value)), rest)

theorem length_lt_of_readAttribute? {cs rest : List Char} {entry : String × String}
    (h : readAttribute? cs = some (entry, rest)) : rest.length < cs.length := by
  rw [readAttribute?] at h
  cases hquoted : Text.afterStart? ['=', '"'] (cs.dropWhile isAttributeNameChar) with
  | none => simp [hquoted] at h
  | some quoted =>
      cases hcut : Text.cutChars ['"'] quoted with
      | none => simp [hquoted, hcut] at h
      | some parts =>
          obtain ⟨value, behind⟩ := parts
          simp only [hquoted, hcut, Option.some.injEq, Prod.mk.injEq] at h
          have hdrop := congrArg List.length (Text.afterStart?_eq_some_iff.mp hquoted)
          have hvalue := congrArg List.length (Text.cutChars_eq_some_iff.mp hcut).1
          have hle := (List.dropWhile_suffix isAttributeNameChar (l := cs)).length_le
          simp only [List.length_append, List.length_cons, List.length_nil] at hdrop hvalue
          rw [← h.2]
          omega

/-- The attributes in a text, which has blanks and nothing else around them; none if there is anything
else. -/
def readAttributes? (cs : List Char) : Option (List (String × String)) :=
  if Text.trimStartChars cs = [] then some []
  else
    match _ : readAttribute? (Text.trimStartChars cs) with
    | none => none
    | some (entry, rest) => (readAttributes? rest).map (entry :: ·)
termination_by cs.length
decreasing_by
  exact (length_lt_of_readAttribute? ‹_›).trans_le (List.dropWhile_suffix Text.isBlank).length_le

/-! ## Reading what was written -/

/-- The characters of an attribute in a tag. -/
def attributeChars (entry : String × String) : List Char :=
  entry.1.toList ++ (['=', '"'] ++ (Html.escapeChars entry.2.toList ++ ['"']))

variable {entry : String × String} {entries : List (String × String)} {cs : List Char}

/-- Of a tag there are the attributes with a value, which is trimmed first. -/
theorem tagAttributes_eq (entries : List (String × String)) :
    tagAttributes entries =
      ((entries.map fun entry => (entry.1, Text.trim entry.2)).filter (·.2 ≠ "")).map
        fun entry => String.ofList (attributeChars entry) := by
  induction entries with
  | nil => rfl
  | cons entry entries ih =>
      rw [tagAttributes] at ih
      rw [tagAttributes, List.filterMap_cons, ih, List.map_cons]
      by_cases hblank : Text.trim entry.2 = ""
      · have hnone : tagAttribute? entry.1 entry.2 = none := by simp [tagAttribute?, hblank]
        rw [hnone, List.filter_cons_of_neg (by simpa)]
      · have hsome : tagAttribute? entry.1 entry.2 =
            some (String.ofList (attributeChars (entry.1, Text.trim entry.2))) := by
          simp [tagAttribute?, hblank, attributeChars, Html.escape, ← String.toList_inj]
        rw [hsome, List.filter_cons_of_pos (by simpa), List.map_cons]

theorem readAttribute?_append (hname : ∀ c ∈ entry.1.toList, isAttributeNameChar c = true)
    (rest : List Char) : readAttribute? (attributeChars entry ++ rest) = some (entry, rest) := by
  have hchars : attributeChars entry ++ rest =
      entry.1.toList ++ '=' :: '"' :: (Html.escapeChars entry.2.toList ++ '"' :: rest) := by
    simp [attributeChars]
  have hequals : ¬ isAttributeNameChar '=' = true := by decide
  have hfree := Html.not_mem_escapeChars (c := '"') (by decide) entry.2.toList
  rw [readAttribute?, hchars, List.dropWhile_append_of_pos hname, List.dropWhile_cons_of_neg hequals,
    List.takeWhile_append_of_pos hname, List.takeWhile_cons_of_neg hequals, List.append_nil]
  simp [Text.afterStart?, Text.cutChars_of_not_mem hfree, Html.unescapeChars_escapeChars]

/-- An attribute begins with the first character of its name or with the equals sign. -/
theorem trimStartChars_attributeChars (hname : ∀ c ∈ entry.1.toList, isAttributeNameChar c = true)
    (rest : List Char) :
    Text.trimStartChars (attributeChars entry ++ rest) = attributeChars entry ++ rest := by
  rw [Text.trimStartChars, attributeChars]
  cases hchars : entry.1.toList with
  | nil => exact List.dropWhile_cons_of_neg (by decide)
  | cons c cs =>
      have hc := hname c (hchars ▸ List.mem_cons_self)
      simp only [isAttributeNameChar, Bool.not_eq_true', Bool.or_eq_false_iff] at hc
      exact List.dropWhile_cons_of_neg (by simp [hc.1])

/-- Blanks in front of an attribute are passed over. -/
theorem readAttributes?_cons_blank {c : Char} (h : Text.isBlank c = true) (cs : List Char) :
    readAttributes? (c :: cs) = readAttributes? cs := by
  have htrim : Text.trimStartChars (c :: cs) = Text.trimStartChars cs := List.dropWhile_cons_of_pos h
  rw [readAttributes?, readAttributes?, htrim]

/-- The attribute in front is read first. -/
theorem readAttributes?_append (hname : ∀ c ∈ entry.1.toList, isAttributeNameChar c = true)
    (rest : List Char) :
    readAttributes? (attributeChars entry ++ rest) = (readAttributes? rest).map (entry :: ·) := by
  have htrim := trimStartChars_attributeChars hname rest
  have hread := readAttribute?_append hname rest
  rw [← htrim] at hread
  rw [readAttributes?, if_neg]
  · split
    · next hnone => simp [hread] at hnone
    · next entry' rest' hsome =>
        obtain ⟨rfl, rfl⟩ := by simpa [hread] using hsome
        rfl
  · rw [htrim]
    simp [attributeChars]

/-- Attributes with a space between them are read one after the other. -/
theorem readAttributes?_intersperse
    (hnames : ∀ entry ∈ entries, ∀ c ∈ entry.1.toList, isAttributeNameChar c = true) :
    readAttributes? ((entries.map attributeChars).intersperse [' ']).flatten = some entries := by
  induction entries with
  | nil =>
      rw [readAttributes?]
      exact if_pos rfl
  | cons entry entries ih =>
      obtain ⟨hname, hmore⟩ := List.forall_mem_cons.mp hnames
      have hread := ih hmore
      rcases eq_or_ne entries [] with rfl | hne
      · have hlast := readAttributes?_append hname []
        rw [List.append_nil] at hlast
        rw [List.map_singleton, List.intersperse_singleton, List.flatten_singleton, hlast]
        exact congrArg (Option.map (entry :: ·)) hread
      · rw [List.map_cons, Text.flatten_intersperse_cons _ (List.map_eq_nil_iff.not.mpr hne),
          readAttributes?_append hname, readAttributes?_cons_blank (by decide), hread, Option.map_some]

/-- Escaped text has no character with a meaning in markup, apart from ampersands with which an entity
begins, and is the text again when it is read. Attributes written one after the other are read as those
with a value, and each value as it is without the blanks around it. -/
theorem tagAttributes_read_back :
    (∀ s : String,
      (∀ c ∈ Html.markupChars, c ∉ (Html.escape s).toList) ∧
        Html.AmpersandsLead (Html.escape s).toList ∧ Html.unescape (Html.escape s) = s) ∧
      ∀ entries : List (String × String),
        (∀ entry ∈ entries, ∀ c ∈ entry.1.toList, isAttributeNameChar c = true) →
          readAttributes? (Text.join " " (tagAttributes entries)).toList =
            some ((entries.map fun entry => (entry.1, Text.trim entry.2)).filter (·.2 ≠ "")) := by
  constructor
  · intro s
    rw [Html.unescape, Html.escape, String.toList_ofList, Html.unescapeChars_escapeChars]
    exact ⟨fun c hc => Html.not_mem_escapeChars hc s.toList, Html.ampersandsLead_escapeChars s.toList,
      String.ofList_toList⟩
  · intro entries hnames
    rw [tagAttributes_eq, Text.join, String.toList_intercalate, List.map_map]
    have hchars : (String.toList ∘ fun entry => String.ofList (attributeChars entry)) =
        attributeChars := by
      funext entry
      exact String.toList_ofList
    rw [hchars]
    apply readAttributes?_intersperse
    intro entry hentry
    obtain ⟨given, hgiven, rfl⟩ := List.mem_map.mp (List.mem_of_mem_filter hentry)
    exact hnames given hgiven

/-- Quotes, tags and an entity that is written out stay within their value. -/
theorem tagAttributes_read_back_quotes :
    let entries := [("contents", " \"Tea\" &amp; <b>it's</b> "), ("density", "  "), ("fps", "30")]
    (∀ entry ∈ entries, ∀ c ∈ entry.1.toList, isAttributeNameChar c = true) ∧
      readAttributes? (Text.join " " (tagAttributes entries)).toList =
        some [("contents", "\"Tea\" &amp; <b>it's</b>"), ("fps", "30")] := by
  intro entries
  have hall : ∀ entry ∈ entries, entry.1.toList.all isAttributeNameChar = true := by decide
  have hnames : ∀ entry ∈ entries, ∀ c ∈ entry.1.toList, isAttributeNameChar c = true :=
    fun entry hentry => List.all_eq_true.mp (hall entry hentry)
  refine ⟨hnames, (tagAttributes_read_back.2 entries hnames).trans ?_⟩
  decide +kernel

end Element

end DynamicContent
