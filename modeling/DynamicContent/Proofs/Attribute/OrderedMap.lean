/-
# Attributes as an ordered map

However attributes came about, each name occurs once and is stored trimmed and in lower case. Names in
their order and the value under each of them are then all that there is to attributes, and an operation is
told by what it does to the names and to a lookup. That merging with defaults is associative, has the empty
attributes as its unit and changes nothing of attributes with themselves follows from two such equations.

What a lookup gives after a history of changes can be read off the history: the last change under the
name decides on the value, and the first one that set it since it was last erased decides on its place.
-/

import DynamicContent.Attribute.Basic
import DynamicContent.Proofs.Text.Casing
import Mathlib.Data.List.Nodup

namespace DynamicContent

namespace Attributes

/-- The names of attributes, in their order. -/
def names (attrs : Attributes) : List String := attrs.entries.map (·.1)

/-- Each name occurs once, and is stored trimmed and in lower case. -/
structure IsMap (attrs : Attributes) : Prop where
  nodup : attrs.names.Nodup
  trimmed : ∀ name ∈ attrs.names, Text.trim name = name
  lower : ∀ name ∈ attrs.names, Text.asciiLower name = name

variable {attrs defaults a b c : Attributes} {name key : String} {v : AttributeValue}
  {entries : List (String × AttributeValue)}

theorem names_cons (entry : String × AttributeValue) (rest : List (String × AttributeValue)) :
    names ⟨entry :: rest⟩ = entry.1 :: names ⟨rest⟩ := rfl

/-! ## Entries -/

theorem lookup_cons_eq (name : String) (entry : String × AttributeValue)
    (rest : List (String × AttributeValue)) :
    (entry :: rest).lookup name = if name = entry.1 then some entry.2 else rest.lookup name := by
  rw [List.lookup_cons]
  by_cases hname : name = entry.1
  · rw [if_pos hname, beq_iff_eq.mpr hname]
  · rw [if_neg hname, beq_eq_false_iff_ne.mpr hname]

theorem names_put (name : String) (v : AttributeValue) (entries : List (String × AttributeValue)) :
    (put name v entries).map (·.1) =
      if name ∈ entries.map (·.1) then entries.map (·.1) else entries.map (·.1) ++ [name] := by
  induction entries with
  | nil => rfl
  | cons entry rest ih =>
      rw [put]
      split
      · next hname => simp [hname]
      · next hname =>
          rw [List.map_cons, ih, List.map_cons]
          by_cases hmem : name ∈ rest.map (·.1)
          · rw [if_pos hmem, if_pos (List.mem_cons_of_mem _ hmem)]
          · rw [if_neg hmem, if_neg (List.not_mem_cons_of_ne_of_not_mem (Ne.symm hname) hmem)]
            rfl

theorem lookup_put (name key : String) (v : AttributeValue)
    (entries : List (String × AttributeValue)) :
    (put name v entries).lookup key = if key = name then some v else entries.lookup key := by
  induction entries with
  | nil => exact lookup_cons_eq key (name, v) []
  | cons entry rest ih =>
      rw [put]
      split
      · next hname =>
          subst hname
          rw [lookup_cons_eq, lookup_cons_eq]
          split <;> rfl
      · next hname =>
          rw [lookup_cons_eq, lookup_cons_eq, ih]
          by_cases hkey : key = entry.1
          · rw [if_pos hkey, if_pos hkey, if_neg (hkey ▸ hname)]
          · rw [if_neg hkey, if_neg hkey]

theorem lookup_eq_none_iff_not_mem : entries.lookup name = none ↔ name ∉ entries.map (·.1) := by
  induction entries with
  | nil => simp
  | cons entry rest ih =>
      rw [lookup_cons_eq, List.map_cons, List.mem_cons, not_or]
      split
      · next hname => simp [hname]
      · next hname => rw [ih, and_iff_right hname]

/-- Entries with the same names in the same order are the same if they look up alike. -/
theorem entries_ext {others : List (String × AttributeValue)} (hnodup : (entries.map (·.1)).Nodup)
    (hnames : entries.map (·.1) = others.map (·.1))
    (hlookup : ∀ name ∈ entries.map (·.1), entries.lookup name = others.lookup name) :
    entries = others := by
  induction entries generalizing others with
  | nil => exact (List.map_eq_nil_iff.mp hnames.symm).symm
  | cons entry rest ih =>
      cases others with
      | nil => simp at hnames
      | cons other others =>
          obtain ⟨hname, hmore⟩ : entry.1 = other.1 ∧ _ := List.cons.inj hnames
          obtain ⟨hfresh, hnodup⟩ := List.nodup_cons.mp hnodup
          have hvalue := hlookup entry.1 List.mem_cons_self
          rw [lookup_cons_eq, lookup_cons_eq, if_pos rfl, if_pos hname] at hvalue
          have hrest : rest = others := by
            refine ih hnodup hmore fun name hmem => ?_
            have hne : name ≠ entry.1 := by
              rintro rfl
              exact hfresh hmem
            have hsame := hlookup name (List.mem_cons_of_mem _ hmem)
            rwa [lookup_cons_eq, lookup_cons_eq, ← hname, if_neg hne, if_neg hne] at hsame
          rw [hrest, Prod.ext hname (Option.some.inj hvalue)]

/-! ## Single changes -/

theorem isMap_empty : IsMap empty := ⟨List.nodup_nil, by simp [names, empty], by simp [names, empty]⟩

/-- What is said of the first of some attributes and of the others. -/
theorem isMap_cons_iff {entry : String × AttributeValue} {rest : List (String × AttributeValue)} :
    IsMap ⟨entry :: rest⟩ ↔
      entry.1 ∉ names ⟨rest⟩ ∧ Text.trim entry.1 = entry.1 ∧ Text.asciiLower entry.1 = entry.1 ∧
        IsMap ⟨rest⟩ := by
  constructor
  · rintro ⟨hnodup, htrimmed, hlower⟩
    obtain ⟨hfresh, hnodup⟩ := List.nodup_cons.mp hnodup
    obtain ⟨htrim, htrimmed⟩ := List.forall_mem_cons.mp htrimmed
    obtain ⟨hlow, hlower⟩ := List.forall_mem_cons.mp hlower
    exact ⟨hfresh, htrim, hlow, hnodup, htrimmed, hlower⟩
  · rintro ⟨hfresh, htrim, hlow, hnodup, htrimmed, hlower⟩
    exact ⟨List.nodup_cons.mpr ⟨hfresh, hnodup⟩, List.forall_mem_cons.mpr ⟨htrim, htrimmed⟩,
      List.forall_mem_cons.mpr ⟨hlow, hlower⟩⟩

theorem trim_attributeName (name : String) : Text.trim (attributeName name) = attributeName name := by
  rw [attributeName, Text.trim_asciiLower, Text.trim_trim]

theorem asciiLower_attributeName (name : String) :
    Text.asciiLower (attributeName name) = attributeName name := Text.asciiLower_asciiLower _

/-- A name is stored as it is if it is trimmed and in lower case. -/
theorem attributeName_of_stored (htrim : Text.trim name = name) (hlower : Text.asciiLower name = name) :
    attributeName name = name := by
  rw [attributeName, htrim, hlower]

/-- To look up a name is to look up the same name in lower case. -/
theorem IsMap.get?_eq (h : attrs.IsMap) (name : String) :
    attrs.get? name = attrs.entries.lookup (Text.asciiLower name) := by
  obtain ⟨entries⟩ := attrs
  induction entries with
  | nil => rfl
  | cons entry rest ih =>
      obtain ⟨-, -, hlow, hrest⟩ := isMap_cons_iff.mp h
      have hmore := ih hrest
      rw [get?] at hmore ⊢
      rw [List.find?_cons, Text.eqIgnoringCase, hlow, List.lookup_cons, BEq.comm]
      cases Text.asciiLower name == entry.1 with
      | true => rfl
      | false => exact hmore

theorem names_insert (attrs : Attributes) (name : String) (v : AttributeValue) :
    (attrs.insert name v).names =
      if attributeName name ∈ attrs.names then attrs.names else attrs.names ++ [attributeName name] :=
  names_put _ v attrs.entries

theorem IsMap.insert (h : attrs.IsMap) (name : String) (v : AttributeValue) :
    (attrs.insert name v).IsMap := by
  have hnames := names_insert attrs name v
  split at hnames
  · next hmem => exact ⟨hnames ▸ h.nodup, hnames ▸ h.trimmed, hnames ▸ h.lower⟩
  · next hnew =>
      refine ⟨?_, ?_, ?_⟩
      · rw [hnames]
        exact List.concat_eq_append ▸ h.nodup.concat hnew
      · rw [hnames]
        exact List.forall_mem_append.mpr
          ⟨h.trimmed, List.forall_mem_singleton.mpr (trim_attributeName name)⟩
      · rw [hnames]
        exact List.forall_mem_append.mpr
          ⟨h.lower, List.forall_mem_singleton.mpr (asciiLower_attributeName name)⟩

/-- A lookup after one attribute was set. -/
theorem IsMap.get?_insert (h : attrs.IsMap) (key name : String) (v : AttributeValue) :
    (attrs.insert key v).get? name =
      if Text.asciiLower name = attributeName key then some v else attrs.get? name := by
  rw [(h.insert key v).get?_eq, h.get?_eq]
  exact lookup_put _ _ v attrs.entries

/-- To erase an attribute leaves those with other names. -/
theorem IsMap.entries_erase (h : attrs.IsMap) (key : String) :
    (attrs.erase key).entries = attrs.entries.filter (·.1 != Text.asciiLower key) := by
  obtain ⟨entries⟩ := attrs
  induction entries with
  | nil => rfl
  | cons entry rest ih =>
      obtain ⟨hfresh, -, hlow, hrest⟩ := isMap_cons_iff.mp h
      have hmore : List.eraseP (fun entry => Text.eqIgnoringCase entry.1 key) rest = _ := ih hrest
      rw [erase, List.eraseP_cons, hmore, Text.eqIgnoringCase, hlow]
      by_cases hkey : entry.1 = Text.asciiLower key
      · rw [beq_iff_eq.mpr hkey, List.filter_cons_of_neg (by simp [hkey]), Eq.comm]
        apply List.filter_eq_self.mpr
        intro other hother
        rw [bne_iff_ne, ← hkey]
        exact fun heq => hfresh (heq ▸ List.mem_map_of_mem hother)
      · rw [beq_eq_false_iff_ne.mpr hkey, List.filter_cons_of_pos (by simp [hkey])]
        rfl

theorem IsMap.names_erase (h : attrs.IsMap) (key : String) :
    (attrs.erase key).names = attrs.names.filter (· != Text.asciiLower key) := by
  rw [names, h.entries_erase, names, List.filter_map]
  rfl

theorem IsMap.erase (h : attrs.IsMap) (key : String) : (attrs.erase key).IsMap := by
  have hsub : (attrs.erase key).names ⊆ attrs.names := by
    rw [h.names_erase]
    exact List.filter_subset_self _
  refine ⟨?_, fun name hname => h.trimmed name (hsub hname), fun name hname => h.lower name (hsub hname)⟩
  rw [h.names_erase]
  exact h.nodup.filter _

/-- A lookup after one attribute was erased. -/
theorem IsMap.get?_erase (h : attrs.IsMap) (key name : String) :
    (attrs.erase key).get? name =
      if Text.asciiLower name = Text.asciiLower key then none else attrs.get? name := by
  rw [(h.erase key).get?_eq, h.get?_eq, h.entries_erase]
  generalize Text.asciiLower name = stored
  generalize Text.asciiLower key = erased
  induction attrs.entries with
  | nil => split <;> rfl
  | cons entry rest ih =>
      rw [List.filter_cons, lookup_cons_eq]
      split
      · rw [lookup_cons_eq, ih]
        grind
      · grind

/-! ## Merging with defaults -/

/-- Attributes that are a map are the same if they have the same names in the same order and look up
alike. -/
theorem IsMap.ext (ha : a.IsMap) (hnames : a.names = b.names) (hb : b.IsMap)
    (hget : ∀ name, a.get? name = b.get? name) : a = b := by
  obtain ⟨entries⟩ := a
  obtain ⟨others⟩ := b
  congr 1
  apply entries_ext ha.nodup hnames
  intro name hname
  have hsame := hget name
  rwa [ha.get?_eq, hb.get?_eq, ha.lower name hname] at hsame

/-- To merge attributes is to set the first of them and to merge the others. -/
theorem withDefaults_cons {entry : String × AttributeValue} {rest : List (String × AttributeValue)} :
    withDefaults ⟨entry :: rest⟩ defaults = withDefaults ⟨rest⟩ (defaults.insert entry.1 entry.2) := rfl

theorem IsMap.withDefaults (h : defaults.IsMap) (attrs : Attributes) :
    (attrs.withDefaults defaults).IsMap := by
  obtain ⟨entries⟩ := attrs
  induction entries generalizing defaults with
  | nil => exact h
  | cons entry rest ih => exact ih (h.insert entry.1 entry.2)

/-- However entries are listed, the attributes of the list are a map. -/
theorem isMap_ofList (entries : List (String × AttributeValue)) : (ofList entries).IsMap :=
  isMap_empty.withDefaults ⟨entries⟩

/-- The names of the defaults come first, and behind them those that only the attributes have. -/
theorem IsMap.names_withDefaults (h : attrs.IsMap) (defaults : Attributes) :
    (attrs.withDefaults defaults).names =
      defaults.names ++ attrs.names.filter (· ∉ defaults.names) := by
  obtain ⟨entries⟩ := attrs
  induction entries generalizing defaults with
  | nil => exact (List.append_nil _).symm
  | cons entry rest ih =>
      obtain ⟨hfresh, htrim, hlow, hrest⟩ := isMap_cons_iff.mp h
      have hnames := names_insert defaults entry.1 entry.2
      rw [attributeName_of_stored htrim hlow] at hnames
      rw [withDefaults_cons, ih _ hrest, hnames, names_cons]
      by_cases hmem : entry.1 ∈ defaults.names
      · rw [if_pos hmem, List.filter_cons_of_neg (by simpa using hmem)]
      · -- Behind the new name stand those that are new as well, and no name occurs twice.
        have hothers : (names ⟨rest⟩).filter (· ∉ defaults.names ++ [entry.1]) =
            (names ⟨rest⟩).filter (· ∉ defaults.names) := by
          apply List.filter_congr
          intro name hname
          have hne : name ≠ entry.1 := by
            rintro rfl
            exact hfresh hname
          simp [hne]
        rw [if_neg hmem, hothers, List.filter_cons_of_pos (by simpa using hmem), List.append_assoc]
        rfl

/-- A lookup finds the explicit value, or else the default. -/
theorem IsMap.get?_withDefaults (h : attrs.IsMap) (hdefaults : defaults.IsMap) (name : String) :
    (attrs.withDefaults defaults).get? name = (attrs.get? name).or (defaults.get? name) := by
  obtain ⟨entries⟩ := attrs
  induction entries generalizing defaults with
  | nil => rfl
  | cons entry rest ih =>
      obtain ⟨hfresh, htrim, hlow, hrest⟩ := isMap_cons_iff.mp h
      rw [withDefaults_cons, ih (hdefaults.insert _ _) hrest, hdefaults.get?_insert, h.get?_eq,
        hrest.get?_eq, attributeName_of_stored htrim hlow, lookup_cons_eq]
      split
      · next hname =>
          rw [hname, lookup_eq_none_iff_not_mem.mpr hfresh]
          rfl
      · rfl

theorem withDefaults_assoc (ha : a.IsMap) (hb : b.IsMap) (hc : c.IsMap) :
    (a.withDefaults b).withDefaults c = a.withDefaults (b.withDefaults c) := by
  apply (hc.withDefaults _).ext _ ((hc.withDefaults b).withDefaults a)
  · intro name
    rw [(hb.withDefaults a).get?_withDefaults hc, ha.get?_withDefaults hb,
      ha.get?_withDefaults (hc.withDefaults b), hb.get?_withDefaults hc, Option.or_assoc]
  · have hfilter : ∀ names : List String,
        (names.filter (· ∉ b.names)).filter (· ∉ c.names) =
          names.filter (· ∉ c.names ++ b.names.filter (· ∉ c.names)) := by
      intro names
      rw [List.filter_filter]
      apply List.filter_congr
      intro name _
      simp only [List.mem_append, List.mem_filter, decide_eq_true_eq, ← Bool.decide_and,
        decide_eq_decide]
      tauto
    rw [(hb.withDefaults a).names_withDefaults, ha.names_withDefaults, ha.names_withDefaults,
      hb.names_withDefaults, List.filter_append, List.append_assoc, hfilter]

theorem empty_withDefaults (attrs : Attributes) : empty.withDefaults attrs = attrs := rfl

theorem withDefaults_empty (h : attrs.IsMap) : attrs.withDefaults empty = attrs := by
  apply (isMap_empty.withDefaults attrs).ext _ h
  · intro name
    rw [h.get?_withDefaults isMap_empty]
    exact Option.or_none
  · rw [h.names_withDefaults, List.filter_eq_self.mpr]
    · rfl
    · intro name _
      rfl

theorem withDefaults_self (h : attrs.IsMap) : attrs.withDefaults attrs = attrs := by
  apply (h.withDefaults attrs).ext _ h
  · intro name
    rw [h.get?_withDefaults h, Option.or_self]
  · have hnone : attrs.names.filter (· ∉ attrs.names) = [] := by simp
    rw [h.names_withDefaults, hnone, List.append_nil]

/-! ## Histories -/

/-- Attributes that came about by setting, erasing and merging. -/
inductive Built : Attributes → Prop
  | empty : Built .empty
  | insert {attrs : Attributes} (h : Built attrs) (name : String) (v : AttributeValue) :
      Built (attrs.insert name v)
  | erase {attrs : Attributes} (h : Built attrs) (name : String) : Built (attrs.erase name)
  | withDefaults {attrs defaults : Attributes} (h : Built attrs) (hdefaults : Built defaults) :
      Built (attrs.withDefaults defaults)

theorem Built.isMap (h : Built attrs) : attrs.IsMap := by
  induction h with
  | empty => exact isMap_empty
  | insert _ name v ih => exact ih.insert name v
  | erase _ name ih => exact ih.erase name
  | withDefaults _ _ _ ih => exact ih.withDefaults _

/-- A change to attributes. -/
inductive Change where
  | insert (name : String) (v : AttributeValue)
  | erase (name : String)

namespace Change

/-- The attributes after a change. -/
def apply (attrs : Attributes) : Change → Attributes
  | insert name v => attrs.insert name v
  | erase name => attrs.erase name

/-- Whether a change sets an attribute, under its name in any letter case and with any blanks around. -/
def sets (name : String) : Change → Bool
  | insert key _ => attributeName key == attributeName name
  | erase _ => false

/-- Whether a change erases an attribute, under its name in any letter case. A name with blanks around it
erases nothing. -/
def erases (name : String) : Change → Bool
  | insert _ _ => false
  | erase key => Text.eqIgnoringCase key name

end Change

variable {changes : List Change} {change : Change} {n : Nat}

/-- The attributes after some changes, of which there were none before. -/
def afterAll (changes : List Change) : Attributes := changes.foldl Change.apply empty

/-- The value that the last change under a name gives it, none if that change erases it. -/
def lastValue? (name : String) (changes : List Change) : Option AttributeValue :=
  match changes.reverse.find? fun change => change.sets name || change.erases name with
  | some (.insert _ v) => some v
  | _ => none

/-- Whatever set an attribute before a moment was followed by an erasure before that moment. -/
def IsUnset (changes : List Change) (name : String) (n : Nat) : Prop :=
  ∀ m change, m < n → changes[m]? = some change → change.sets name = true →
    ∃ l eraser, m < l ∧ l < n ∧ changes[l]? = some eraser ∧ eraser.erases name = true

/-- A moment at which an attribute is set, for the first time since it was last erased. -/
structure IsFirstSetting (changes : List Change) (name : String) (n : Nat) : Prop where
  sets : ∃ change, changes[n]? = some change ∧ change.sets name = true
  fresh : IsUnset changes name n
  kept : ∀ m change, n < m → changes[m]? = some change → change.erases name = false

theorem afterAll_concat (changes : List Change) (change : Change) :
    afterAll (changes ++ [change]) = change.apply (afterAll changes) := List.foldl_concat ..

theorem isMap_afterAll (changes : List Change) : (afterAll changes).IsMap := by
  induction changes using List.reverseRecOn with
  | nil => exact isMap_empty
  | append_singleton changes change ih =>
      rw [afterAll_concat]
      cases change with
      | insert key v => exact ih.insert key v
      | erase key => exact ih.erase key

/-- A lookup gives what the last change under the name left. -/
theorem get?_afterAll (htrim : Text.trim name = name) (changes : List Change) :
    (afterAll changes).get? name = lastValue? name changes := by
  have hstored : attributeName name = Text.asciiLower name := by rw [attributeName, htrim]
  induction changes using List.reverseRecOn with
  | nil => rfl
  | append_singleton changes change ih =>
      have hmap := isMap_afterAll changes
      rw [afterAll_concat, lastValue?, List.reverse_append, List.reverse_singleton,
        List.singleton_append, List.find?_cons]
      rw [lastValue?] at ih
      cases change with
      | insert key v =>
          rw [Change.apply, hmap.get?_insert, ih, Change.sets, Change.erases, Bool.or_false, hstored]
          by_cases hkey : attributeName key = Text.asciiLower name
          · rw [if_pos hkey.symm, beq_iff_eq.mpr hkey]
          · rw [if_neg (Ne.symm hkey), beq_eq_false_iff_ne.mpr hkey]
      | erase key =>
          rw [Change.apply, hmap.get?_erase, ih, Change.sets, Change.erases, Bool.false_or,
            Text.eqIgnoringCase]
          by_cases hkey : Text.asciiLower key = Text.asciiLower name
          · rw [if_pos hkey.symm, beq_iff_eq.mpr hkey]
          · rw [if_neg (Ne.symm hkey), beq_eq_false_iff_ne.mpr hkey]

/-! ### Where an attribute stands -/

theorem getElem?_concat_of_lt (hn : n < changes.length) (change : Change) :
    (changes ++ [change])[n]? = changes[n]? := List.getElem?_append_left hn

/-- What one more change adds to a history. -/
theorem getElem?_concat_eq_some {m : Nat} {found : Change}
    (h : (changes ++ [change])[m]? = some found) :
    changes[m]? = some found ∨ m = changes.length ∧ found = change := by
  rcases Nat.lt_or_ge m changes.length with hm | hm
  · rw [getElem?_concat_of_lt hm] at h
    exact .inl h
  · rw [List.getElem?_append_right hm, List.getElem?_singleton] at h
    split at h
    · next hlast => exact .inr ⟨by omega, (Option.some.inj h).symm⟩
    · contradiction

theorem lt_length_of_getElem? {m : Nat} {found : Change} (h : changes[m]? = some found) :
    m < changes.length := (List.getElem?_eq_some_iff.mp h).1

theorem IsUnset.concat (h : IsUnset changes name n) (hn : n ≤ changes.length) (change : Change) :
    IsUnset (changes ++ [change]) name n := by
  intro m found hm hfound hsets
  rw [getElem?_concat_of_lt (hm.trans_le hn)] at hfound
  obtain ⟨l, eraser, hml, hln, heraser, herases⟩ := h m found hm hfound hsets
  refine ⟨l, eraser, hml, hln, ?_, herases⟩
  rw [getElem?_concat_of_lt (hln.trans_le hn), heraser]

/-- A first setting stays one as long as the attribute is not erased. -/
theorem IsFirstSetting.concat (h : IsFirstSetting changes name n)
    (hchange : change.erases name = false) : IsFirstSetting (changes ++ [change]) name n := by
  obtain ⟨setter, hsetter, hsets⟩ := h.sets
  have hn := lt_length_of_getElem? hsetter
  refine ⟨⟨setter, ?_, hsets⟩, h.fresh.concat hn.le change, ?_⟩
  · rw [getElem?_concat_of_lt hn, hsetter]
  · intro m found hm hfound
    rcases getElem?_concat_eq_some hfound with hbefore | ⟨-, rfl⟩
    · exact h.kept m found hm hbefore
    · exact hchange

/-- What is not among the attributes was erased after all that set it. -/
theorem isUnset_of_not_mem (hstored : attributeName name = name)
    (habsent : name ∉ (afterAll changes).names) : IsUnset changes name changes.length := by
  induction changes using List.reverseRecOn with
  | nil =>
      intro m found hm
      exact absurd hm (Nat.not_lt_zero m)
  | append_singleton changes change ih =>
      rw [afterAll_concat] at habsent
      intro m found hm hfound hsets
      have hlength : (changes ++ [change]).length = changes.length + 1 := by simp
      rw [hlength]
      -- It is enough that the attribute was not there before the change.
      have hbefore (hbefore : name ∉ (afterAll changes).names) (hchange : change.sets name = false) :
          ∃ l eraser, m < l ∧ l < changes.length + 1 ∧
            (changes ++ [change])[l]? = some eraser ∧ eraser.erases name = true := by
        rcases getElem?_concat_eq_some hfound with hearlier | ⟨-, rfl⟩
        · have hunset := (ih hbefore).concat (Nat.le_refl _) change
          obtain ⟨l, eraser, hml, hl, heraser⟩ :=
            hunset m found (lt_length_of_getElem? hearlier) hfound hsets
          exact ⟨l, eraser, hml, by omega, heraser⟩
        · rw [hchange] at hsets
          contradiction
      cases change with
      | insert key v =>
          rw [Change.apply, names_insert] at habsent
          have hkey : attributeName key ≠ name := by
            rintro rfl
            split at habsent
            · next hmem => exact habsent hmem
            · exact habsent (List.mem_append_right _ List.mem_cons_self)
          refine hbefore ?_ (by rw [Change.sets, hstored, beq_eq_false_iff_ne.mpr hkey])
          split at habsent
          · exact habsent
          · exact fun hmem => habsent (List.mem_append_left _ hmem)
      | erase key =>
          cases herases : Change.erases name (.erase key) with
          | true =>
              rcases getElem?_concat_eq_some hfound with hearlier | ⟨-, rfl⟩
              · exact ⟨changes.length, .erase key, lt_length_of_getElem? hearlier, by omega,
                  List.getElem?_concat_length .., herases⟩
              · contradiction
          | false =>
              refine hbefore (fun hmem => ?_) rfl
              rw [Change.apply, (isMap_afterAll changes).names_erase, List.mem_filter] at habsent
              have hlower := (isMap_afterAll changes).lower name hmem
              rw [Change.erases, Text.eqIgnoringCase, hlower, beq_eq_false_iff_ne] at herases
              exact habsent ⟨hmem, bne_iff_ne.mpr (Ne.symm herases)⟩

/-- Attributes stand in the order in which they were first set since they were last erased. -/
theorem exists_places (changes : List Change) :
    ∃ places : List (String × Nat), places.map (·.1) = (afterAll changes).names ∧
      places.Pairwise (·.2 < ·.2) ∧ ∀ place ∈ places, IsFirstSetting changes place.1 place.2 := by
  induction changes using List.reverseRecOn with
  | nil => exact ⟨[], rfl, List.Pairwise.nil, fun place hplace => absurd hplace List.not_mem_nil⟩
  | append_singleton changes change ih =>
      obtain ⟨places, hnames, hordered, hfirst⟩ := ih
      rw [afterAll_concat]
      cases change with
      | insert key v =>
          have hfirst' : ∀ place ∈ places,
              IsFirstSetting (changes ++ [.insert key v]) place.1 place.2 :=
            fun place hplace => (hfirst place hplace).concat rfl
          rw [Change.apply, names_insert]
          split
          · exact ⟨places, hnames, hordered, hfirst'⟩
          · next hnew =>
              have hstored : attributeName (attributeName key) = attributeName key :=
                attributeName_of_stored (trim_attributeName key) (asciiLower_attributeName key)
              refine ⟨places ++ [(attributeName key, changes.length)], ?_, ?_, ?_⟩
              · rw [List.map_append, hnames]
                rfl
              · refine List.pairwise_append.mpr ⟨hordered, List.pairwise_singleton _ _, ?_⟩
                intro place hplace last hlast
                obtain ⟨setter, hsetter, -⟩ := (hfirst place hplace).sets
                rw [List.mem_singleton.mp hlast]
                exact lt_length_of_getElem? hsetter
              · refine List.forall_mem_append.mpr ⟨hfirst', List.forall_mem_singleton.mpr ?_⟩
                refine ⟨⟨.insert key v, List.getElem?_concat_length .., ?_⟩,
                  (isUnset_of_not_mem hstored hnew).concat (Nat.le_refl _) _, ?_⟩
                · rw [Change.sets, hstored, beq_self_eq_true]
                · intro m found hm hfound
                  have hlast := lt_length_of_getElem? hfound
                  rw [List.length_append, List.length_singleton] at hlast
                  omega
      | erase key =>
          rw [Change.apply, (isMap_afterAll changes).names_erase, ← hnames, List.filter_map]
          refine ⟨places.filter (·.1 != Text.asciiLower key), rfl, hordered.filter _, ?_⟩
          intro place hplace
          obtain ⟨hmem, hother⟩ := List.mem_filter.mp hplace
          have hlower := (isMap_afterAll changes).lower place.1 (hnames ▸ List.mem_map_of_mem hmem)
          apply (hfirst place hmem).concat
          rw [Change.erases, Text.eqIgnoringCase, hlower, beq_eq_false_iff_ne]
          exact Ne.symm (bne_iff_ne.mp hother)

/-- Attributes that came about by setting, erasing and merging are a map with an order. After any history
a lookup, in any letter case, gives the value of the last change under the name, and the attributes stand
in the order in which they were first set since they were last erased. Merging is associative as to
values and order, the empty attributes are its unit, and it changes nothing of attributes with
themselves. -/
theorem ordered_map (ha : Built a) (hb : Built b) (hc : Built c) (changes : List Change)
    (hname : Text.trim name = name) :
    a.IsMap ∧
      (afterAll changes).get? name = lastValue? name changes ∧
      (∃ places : List (String × Nat), places.map (·.1) = (afterAll changes).names ∧
        places.Pairwise (·.2 < ·.2) ∧ ∀ place ∈ places, IsFirstSetting changes place.1 place.2) ∧
      (a.withDefaults b).withDefaults c = a.withDefaults (b.withDefaults c) ∧
      empty.withDefaults a = a ∧ a.withDefaults empty = a ∧ a.withDefaults a = a :=
  ⟨ha.isMap, get?_afterAll hname changes, exists_places changes,
    withDefaults_assoc ha.isMap hb.isMap hc.isMap, empty_withDefaults a,
    withDefaults_empty ha.isMap, withDefaults_self ha.isMap⟩

/-- A type that is set and set again with blanks around its name, beside a number that is erased and set
again. To erase the type with blanks around its name does nothing, so it keeps its place in front. -/
theorem ordered_map_retyped :
    let changes := [Change.insert "Type" (.text "qr"), .insert "id" (.int 5),
      .insert " TYPE " (.text "link"), .erase "ID", .erase " type ", .insert "Id" (.int 7)]
    let a := empty.insert " Type " (.text "qr")
    let b := (empty.insert "id" (.int 5)).withDefaults a
    (Built a ∧ Built b ∧ Text.trim "tYpE" = "tYpE") ∧
      (afterAll changes).names = ["type", "id"] ∧
      (afterAll changes).get? "tYpE" = some (.text "link") ∧
      (∃ places : List (String × Nat), places.map (·.1) = ["type", "id"] ∧
        places.Pairwise (·.2 < ·.2) ∧ ∀ place ∈ places, IsFirstSetting changes place.1 place.2) ∧
      (b.withDefaults a).withDefaults b = b.withDefaults (a.withDefaults b) := by
  intro changes a b
  have ha : Built a := .insert .empty _ _
  have hb : Built b := .withDefaults (.insert .empty _ _) ha
  have hname : Text.trim "tYpE" = "tYpE" := by decide +kernel
  have hnames : (afterAll changes).names = ["type", "id"] := by decide +kernel
  have hlast : lastValue? "tYpE" changes = some (.text "link") := rfl
  obtain ⟨-, hget, hplaces, hassoc, -⟩ := ordered_map hb ha hb changes hname
  rw [hnames] at hplaces
  exact ⟨⟨ha, hb, hname⟩, hnames, hget.trans hlast, hplaces, hassoc⟩

end Attributes

end DynamicContent
