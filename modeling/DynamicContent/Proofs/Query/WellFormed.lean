/-
# Queries from attributes are well formed

Whatever the attributes of a loop say, the query that they describe can be carried out: pages are counted
from one and hold something, no name is blank, keys have nothing but small letters, digits, `_` and `-`,
and what metadata are compared with is text. Each field is as its own reading of the attributes leaves
it, so there is one lemma for each way to read a text, and the fields of a query and of its clauses follow
from those.

Clauses may also be given as JSON. Only the objects of a list are read as clauses, and every other text is
passed over.
-/

import DynamicContent.Proofs.Html.PlainText
import DynamicContent.Proofs.Text.Casing
import DynamicContent.Query.OfAttributes

namespace DynamicContent

namespace Text

/-- Whether a text has a character that is not blank. -/
def IsFilled (s : String) : Prop := ∃ c ∈ s.toList, isBlank c = false

/-- Whether a text is made of small letters of ASCII, its digits, `_` and `-`. -/
def IsKey (s : String) : Prop :=
  ∀ c ∈ s.toList, ('a' ≤ c ∧ c ≤ 'z') ∨ ('0' ≤ c ∧ c ≤ '9') ∨ c = '_' ∨ c = '-'

/-- Whether a text has no small letter of ASCII. -/
def IsUpper (s : String) : Prop := ∀ c ∈ s.toList, c.isLower = false

instance (s : String) : Decidable (IsFilled s) := List.decidableBEx _ s.toList

instance (s : String) : Decidable (IsUpper s) := List.decidableBAll _ s.toList

variable {s : String}

theorem isFilled_trim (h : trim s ≠ "") : IsFilled (trim s) := by
  have hchars : trimChars (trim s).toList ≠ [] := by
    rwa [trim, String.toList_ofList, trimChars_trimChars, ne_eq, ← String.ofList_eq_empty_iff]
  rw [ne_eq, trimChars_eq_nil_iff] at hchars
  push Not at hchars
  obtain ⟨c, hc, hfilled⟩ := hchars
  exact ⟨c, hc, Bool.eq_false_iff.mpr hfilled⟩

theorem IsFilled.asciiLower (h : IsFilled s) : IsFilled (asciiLower s) := by
  obtain ⟨c, hc, hfilled⟩ := h
  refine ⟨c.toLower, ?_, (isBlank_toLower c).trans hfilled⟩
  rw [Text.asciiLower, String.toList_ofList]
  exact List.mem_map_of_mem hc

theorem isKey_toKey (s : String) : IsKey (toKey s) := by
  intro c hc
  rw [toKey, String.toList_ofList] at hc
  have hkey := isKeyChar_of_mem_toKeyChars hc
  simp only [isKeyChar, isLower_eq, Char.isDigit, Bool.or_eq_true, Bool.and_eq_true,
    decide_eq_true_eq, beq_iff_eq, or_assoc] at hkey
  exact hkey

/-- A character in upper case is no small letter. -/
theorem isLower_toUpper (c : Char) : c.toUpper.isLower = false := by
  unfold Char.toUpper
  split
  · next hsmall =>
      -- The letters of either case are 32 apart.
      obtain ⟨hlow, hhigh⟩ := hsmall
      rw [isLower_eq]
      grind [UInt32.toNat_add]
  · next hother =>
      rw [isLower_eq, ← Bool.decide_and]
      exact decide_eq_false hother

theorem isUpper_asciiUpper (s : String) : IsUpper (asciiUpper s) := by
  intro c hc
  rw [asciiUpper, String.toList_ofList] at hc
  obtain ⟨d, -, rfl⟩ := List.mem_map.mp hc
  exact isLower_toUpper d

theorem asciiUpper_ne_empty (h : s ≠ "") : asciiUpper s ≠ "" := by
  rwa [asciiUpper, ne_eq, String.ofList_eq_empty_iff, List.map_eq_nil_iff, String.toList_eq_nil_iff]

end Text

namespace Html

/-- In plain text something stands in front that is not blank. -/
theorem IsSpaced.exists_not_blank {cs : List Char} (h : IsSpaced false cs) (hne : cs ≠ []) :
    ∃ c ∈ cs, Text.isBlank c = false := by
  cases h with
  | nil => exact absurd rfl hne
  | char hc _ => exact ⟨_, List.mem_cons_self, hc⟩

theorem isFilled_plainText {s : String} (h : plainText s ≠ "") : Text.IsFilled (plainText s) := by
  apply (isSpaced_plainText s).exists_not_blank
  rwa [ne_eq, String.toList_eq_nil_iff]

end Html

/-! ## Well-formed queries -/

/-- A text or a list of texts. -/
inductive Json.IsTextual : Json → Prop
  | text (t : String) : IsTextual (.string t)
  | texts (ts : List String) : IsTextual (.array (ts.map .string))

/-- Whether a clause on the metadata can be carried out. -/
structure MetaClause.IsWellFormed (clause : MetaClause) : Prop where
  key : Text.IsKey clause.key
  value : ∀ v, clause.value = some v → v.IsTextual
  compare_ne : clause.compare ≠ ""
  compare : Text.IsUpper clause.compare

/-- Whether a clause on the terms can be carried out. -/
structure TermClause.IsWellFormed (clause : TermClause) : Prop where
  taxonomy_ne : clause.taxonomy ≠ ""
  taxonomy : Text.IsKey clause.taxonomy

/-- Whether a query can be carried out. -/
structure PostQuery.IsWellFormed (query : PostQuery) : Prop where
  perPage : 1 ≤ query.perPage
  paged : 1 ≤ query.paged
  postTypes_ne : query.postTypes ≠ []
  postTypes : ∀ type ∈ query.postTypes, Text.IsFilled type
  statuses_ne : query.statuses ≠ []
  statuses : ∀ status ∈ query.statuses, Text.IsFilled status
  orderBy : Text.IsFilled query.orderBy
  search : ∀ text, query.search = some text → Text.IsFilled text
  author : ∀ id, query.author = some id → 0 < id
  metaClauses : ∀ clause ∈ query.metaClauses, clause.IsWellFormed
  termClauses : ∀ clause ∈ query.termClauses, clause.IsWellFormed

namespace Query

variable {raw : String} {row : Json}

/-! ## Single fields -/

theorem isFilled_of_mem_splitList {item : String} (h : item ∈ splitList raw) :
    Text.IsFilled item := by
  rw [splitList, List.mem_filter] at h
  obtain ⟨hmem, hne⟩ := h
  obtain ⟨piece, -, rfl⟩ := List.mem_map.mp hmem
  exact Html.isFilled_plainText (by simpa using hne)

/-- Where the items of a list are well formed and others stand in for none, there is an item and each one
is well formed. -/
theorem orElseList_filled {items absent : List String} (habsent : absent ≠ [])
    (hitems : ∀ item ∈ items, Text.IsFilled item) (hothers : ∀ item ∈ absent, Text.IsFilled item) :
    orElseList items absent ≠ [] ∧ ∀ item ∈ orElseList items absent, Text.IsFilled item := by
  rw [orElseList]
  split
  · exact ⟨habsent, hothers⟩
  · next hsome => exact ⟨by simpa using hsome, hitems⟩

theorem one_le_positiveOr {absent : Nat} (habsent : 1 ≤ absent) (n : Int) :
    1 ≤ positiveOr absent n := by
  rw [positiveOr]
  split
  · omega
  · exact habsent

theorem compareOf_ne_empty (text : String) : compareOf text ≠ "" := by
  rw [compareOf]
  split
  · decide
  · next hsome => exact Text.asciiUpper_ne_empty (by simpa using hsome)

theorem isUpper_compareOf (text : String) : Text.IsUpper (compareOf text) := by
  rw [compareOf]
  split
  · decide
  · exact Text.isUpper_asciiUpper text

theorem isTextual_cleanValue (v : Json) : (cleanValue v).IsTextual := by
  cases v with
  | array items =>
      have hitems : items.map (fun item => Json.string (cleanText item)) =
          (items.map cleanText).map .string := by
        rw [List.map_map]
        rfl
      rw [cleanValue, hitems]
      exact .texts _
  | _ => exact .text _

/-! ## Clauses -/

/-- A clause with a cleaned key and comparison is well formed if its value is text. -/
theorem isWellFormed_clause {value : Option Json} (hvalue : ∀ v, value = some v → v.IsTextual)
    (key compare : String) (valueType : Option String) :
    MetaClause.IsWellFormed ⟨Text.toKey key, value, compareOf compare, valueType⟩ where
  key := Text.isKey_toKey key
  value := hvalue
  compare_ne := compareOf_ne_empty compare
  compare := isUpper_compareOf compare

theorem isWellFormed_of_metaClause? {clause : MetaClause} (h : metaClause? row = some clause) :
    clause.IsWellFormed := by
  obtain ⟨key, -, hclause⟩ := Option.bind_eq_some_iff.mp h
  obtain rfl := Option.some.inj hclause
  apply isWellFormed_clause
  intro v hv
  obtain ⟨w, -, rfl⟩ := Option.map_eq_some_iff.mp hv
  exact isTextual_cleanValue w

theorem isWellFormed_of_termClause? {clause : TermClause} (h : termClause? row = some clause) :
    clause.IsWellFormed := by
  obtain ⟨taxonomy, -, hclause⟩ := Option.bind_eq_some_iff.mp h
  dsimp only at hclause
  split at hclause
  · exact nomatch hclause
  · next hsome =>
      obtain rfl := Option.some.inj hclause
      exact ⟨by simpa using hsome, Text.isKey_toKey _⟩

theorem isWellFormed_of_mem_ownMetaClause {attrs : Attributes} {clause : MetaClause}
    (h : clause ∈ ownMetaClause attrs) : clause.IsWellFormed := by
  rw [ownMetaClause] at h
  dsimp only at h
  split at h
  · exact absurd h List.not_mem_nil
  · obtain rfl := List.mem_singleton.mp h
    apply isWellFormed_clause
    intro v hv
    split at hv
    · exact nomatch hv
    · obtain rfl := Option.some.inj hv
      exact .text _

/-! ## The query -/

theorem isFilled_orderBy (attrs : Attributes) : Text.IsFilled (ofAttributes attrs).orderBy := by
  simp only [ofAttributes]
  split
  · decide
  · next hsome => exact (Html.isFilled_plainText (by simpa using hsome)).asciiLower

theorem isFilled_of_search {attrs : Attributes} {text : String}
    (h : (ofAttributes attrs).search = some text) : Text.IsFilled text := by
  simp only [ofAttributes] at h
  split at h
  · exact nomatch h
  · next hsome =>
      obtain rfl := Option.some.inj h
      exact Text.isFilled_trim (by simpa [Attributes.trimmed] using hsome)

theorem pos_of_author {attrs : Attributes} {id : Nat} (h : (ofAttributes attrs).author = some id) :
    0 < id := by
  simp only [ofAttributes] at h
  split at h
  · have hid := Option.some.inj h
    omega
  · exact nomatch h

theorem isWellFormed_of_mem_metaClauses {clause : MetaClause} (h : clause ∈ metaClauses raw) :
    clause.IsWellFormed := by
  obtain ⟨row, -, hclause⟩ := List.mem_filterMap.mp h
  exact isWellFormed_of_metaClause? hclause

theorem isWellFormed_of_mem_termClauses {clause : TermClause} (h : clause ∈ termClauses raw) :
    clause.IsWellFormed := by
  obtain ⟨row, -, hclause⟩ := List.mem_filterMap.mp h
  exact isWellFormed_of_termClause? hclause

theorem isWellFormed_ofAttributes (attrs : Attributes) : (ofAttributes attrs).IsWellFormed := by
  have hnames (raw absent : String) (habsent : Text.IsFilled absent) :=
    orElseList_filled (List.cons_ne_nil absent []) (fun _ => @isFilled_of_mem_splitList raw _)
      (List.forall_mem_singleton.mpr habsent)
  obtain ⟨htypes, htypes'⟩ := hnames (attrs.text "post_type") "post" (by decide)
  obtain ⟨hstatuses, hstatuses'⟩ := hnames (attrs.text "post_status") "publish" (by decide)
  exact {
    perPage := one_le_positiveOr (by decide) (attrs.int "posts_per_page")
    paged := one_le_positiveOr (le_refl 1) (attrs.int "paged")
    postTypes_ne := htypes
    postTypes := htypes'
    statuses_ne := hstatuses
    statuses := hstatuses'
    orderBy := isFilled_orderBy attrs
    search := fun _ => isFilled_of_search
    author := fun _ => pos_of_author
    metaClauses := List.forall_mem_append.mpr
      ⟨fun _ => isWellFormed_of_mem_ownMetaClause, fun _ => isWellFormed_of_mem_metaClauses⟩
    termClauses := fun _ => isWellFormed_of_mem_termClauses }

/-! ## Clauses in JSON -/

/-- Whether clauses are those that the objects of a JSON list are read as. The other rows of a list add
none, and a text that is no JSON list has none. -/
structure AreOfObjects {γ : Type} (read : Json → Option γ) (raw : String) (clauses : List γ) :
    Prop where
  list (items : List Json) (h : Json.parse? raw = some (.array items)) :
    clauses = (items.filter (·.object?.isSome)).filterMap read
  other (h : ∀ items, Json.parse? raw ≠ some (.array items)) : clauses = []

theorem areOfObjects_rows {γ : Type} (read : Json → Option γ) (raw : String) :
    AreOfObjects read raw ((rows raw).filterMap read) := by
  constructor
  · intro items hlist
    rw [rows, hlist]
  · intro hother
    rw [rows]
    split
    · next items hlist => exact absurd hlist (hother items)
    · rfl

/-- The query that attributes describe is well formed, whatever they say. Its clauses on the metadata are
the one that the attributes describe themselves and those of a JSON list, and its clauses on the terms
are those of another one; of either list only the objects add a clause, and a text that is no JSON list
adds none. -/
theorem ofAttributes_wellFormed (attrs : Attributes) :
    (ofAttributes attrs).IsWellFormed ∧
      (∃ listed, (ofAttributes attrs).metaClauses = ownMetaClause attrs ++ listed ∧
        AreOfObjects metaClause? (attrs.text "meta_query") listed) ∧
      AreOfObjects termClause? (attrs.text "tax_query") (ofAttributes attrs).termClauses :=
  ⟨isWellFormed_ofAttributes attrs, ⟨_, rfl, areOfObjects_rows metaClause? _⟩,
    areOfObjects_rows termClause? _⟩

/-- A list with a clause, a number and an object that names no key. -/
def mixedRows : String :=
  "[\x7b\"key\":\"Price\",\"value\":[\"10\",20]\x7d,7,\x7b\"value\":1\x7d]"

theorem parse?_mixedRows : Json.parse? mixedRows = some (.array [.object [("key", .string "Price"),
    ("value", .array [.string "10", .int 20])], .int 7, .object [("value", .int 1)]]) := rfl

/-- A page of fewer posts than none, an order that is nothing but markup, a list with rows of all kinds,
and an object where a list should be. -/
theorem ofAttributes_wellFormed_rows :
    let attrs := Attributes.ofTexts [("posts_per_page", "-4"), ("orderby", "<b> </b>"),
      ("meta_query", mixedRows), ("tax_query", "\x7b\"taxonomy\":\"category\"\x7d")]
    (ofAttributes attrs).IsWellFormed ∧ (ofAttributes attrs).metaClauses.map (·.key) = ["price"] ∧
      (ofAttributes attrs).termClauses = [] := by
  intro attrs
  obtain ⟨hwell, ⟨clauses, hmeta, hclauses⟩, hterms⟩ := ofAttributes_wellFormed attrs
  have htext : attrs.text "meta_query" = mixedRows := by decide +kernel
  have hother : attrs.text "tax_query" = "\x7b\"taxonomy\":\"category\"\x7d" := by decide +kernel
  have hparsed : Json.parse? "\x7b\"taxonomy\":\"category\"\x7d" =
      some (.object [("taxonomy", .string "category")]) := rfl
  have hkey : Text.toKey (attrs.text "meta_key") = "" := by decide +kernel
  have hown : ownMetaClause attrs = [] := by
    rw [ownMetaClause, hkey]
    rfl
  refine ⟨hwell, ?_, hterms.other fun items hitems => ?_⟩
  · rw [hmeta, hown, List.nil_append, hclauses.list _ (htext ▸ parse?_mixedRows)]
    decide +kernel
  · rw [hother, hparsed] at hitems
    exact nomatch hitems

end Query

end DynamicContent
