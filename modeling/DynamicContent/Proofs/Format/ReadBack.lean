/-
# The serialised form is read back

What reading gives back of the serialised form of a value is `Json.listed`: the value with every map
whose keys count up from zero made a list, since the form has only one way to write pairs. The
reader is followed into the middle of a text, where anything may come behind a value, and it is said
at once what it answers and when it refuses: exactly if the value nests deeper than there is room
for. So the room for a sibling is what it was before, and the bound on the nesting is sharp.

A text is measured in bytes. What is in its quotes may be anything, also quotes, semicolons and whole
serialised values, since the reader counts and does not look.
-/

import DynamicContent.Format.Serialized
import DynamicContent.Proofs.Data.SortedMap
import DynamicContent.Proofs.Number.Integer
import DynamicContent.Proofs.Text.Cutting

namespace DynamicContent

namespace Text

/-! ## Bytes -/

@[simp]
theorem byteLength_append (cs ds : List Char) :
    byteLength (cs ++ ds) = byteLength cs + byteLength ds := by
  induction cs with
  | nil => simp [byteLength]
  | cons c cs ih =>
      rw [List.cons_append, byteLength, byteLength, ih]
      omega

theorem length_le_byteLength (cs : List Char) : cs.length ≤ byteLength cs := by
  induction cs with
  | nil => exact le_refl 0
  | cons c cs ih =>
      have hsize : 0 < c.utf8Size := c.utf8Size_pos
      rw [List.length_cons, byteLength]
      omega

/-- A text between characters that are not blank has nothing to trim. -/
theorem trimChars_of_ends {first last : Char} (body : List Char) (hfirst : isBlank first = false)
    (hlast : isBlank last = false) :
    trimChars (first :: (body ++ [last])) = first :: (body ++ [last]) := by
  have hstart : trimStartChars (first :: (body ++ [last])) = first :: (body ++ [last]) :=
    List.dropWhile_cons_of_neg (by simp [hfirst])
  rw [trimChars, hstart, trimEndChars, ← List.cons_append, List.reverse_append,
    List.reverse_singleton, List.singleton_append, List.dropWhile_cons_of_neg (by simp [hlast])]
  simp

end Text

namespace Json

open Number (int64Min int64Max nat64Max)

/-! ## Values that the form has -/

mutual

/-- Values that are made of null, truth values, signed integers, texts, arrays and objects, the fields
of an object in their order. -/
def IsStructured : Json → Prop
  | float _ => False
  | int n => int64Min ≤ n ∧ n ≤ int64Max
  | array items => AreStructured items
  | object fields => SortedMap.Sorted fields ∧ FieldsAreStructured fields
  | _ => True

/-- Values of which each is structured. -/
def AreStructured : List Json → Prop
  | [] => True
  | v :: vs => IsStructured v ∧ AreStructured vs

/-- Fields of which each has a structured value. -/
def FieldsAreStructured : List (String × Json) → Prop
  | [] => True
  | (_, v) :: rest => IsStructured v ∧ FieldsAreStructured rest

end

/-! ## Parts of the form -/

theorem takeBytes?_append (text rest : List Char) :
    takeBytes? (Text.byteLength text) (text ++ rest) = some (text, rest) := by
  induction text with
  | nil => rw [Text.byteLength, List.nil_append, takeBytes?]
  | cons c text ih =>
      have hsize : 0 < c.utf8Size := c.utf8Size_pos
      obtain ⟨n, hn⟩ : ∃ n, Text.byteLength (c :: text) = n + 1 :=
        ⟨_, (Nat.succ_pred_eq_of_pos (by rw [Text.byteLength]; omega)).symm⟩
      have hfits : c.utf8Size ≤ n + 1 := by
        rw [← hn, Text.byteLength]
        omega
      have hleft : n + 1 - c.utf8Size = Text.byteLength text := by
        rw [← hn, Text.byteLength]
        omega
      rw [hn, List.cons_append, takeBytes?, if_pos hfits, hleft, ih]
      rfl

/-- What is taken has exactly so many bytes, and no character of the text is cut. -/
theorem takeBytes?_eq_some_iff {size : Nat} {cs taken rest : List Char} :
    takeBytes? size cs = some (taken, rest) ↔ cs = taken ++ rest ∧ Text.byteLength taken = size := by
  refine ⟨fun htaken => ?_, fun ⟨hsplit, hsize⟩ => by rw [hsplit, ← hsize, takeBytes?_append]⟩
  induction cs generalizing size taken with
  | nil =>
      cases size with
      | zero =>
          obtain ⟨rfl, rfl⟩ : [] = taken ∧ [] = rest := by simpa [takeBytes?] using htaken
          exact ⟨rfl, rfl⟩
      | succ size => contradiction
  | cons c cs ih =>
      cases size with
      | zero =>
          obtain ⟨rfl, rfl⟩ : [] = taken ∧ c :: cs = rest := by simpa [takeBytes?] using htaken
          exact ⟨rfl, rfl⟩
      | succ size =>
          rw [takeBytes?, Option.ite_none_right_eq_some, Option.map_eq_some_iff] at htaken
          obtain ⟨hfits, ⟨more, behind⟩, hmore, heq⟩ := htaken
          obtain ⟨rfl, rfl⟩ : c :: more = taken ∧ behind = rest := by simpa using heq
          obtain ⟨rfl, hsize⟩ := ih hmore
          refine ⟨rfl, ?_⟩
          rw [Text.byteLength, hsize]
          omega

/-- Behind the sign of its kind a text is read, whatever is in it. -/
theorem takeSerializedText?_append (text rest : List Char) :
    takeSerializedText? (Text.byteLength text) ('"' :: (text ++ '"' :: ';' :: rest)) =
      some (text, rest) := by
  rw [takeSerializedText?, takeBytes?_append]
  rfl

section

variable {n room : Nat}

theorem cutChars_natText (n : Nat) {c : Char} (hc : c.isDigit = false) (rest : List Char) :
    Text.cutChars [c] (Number.natText n ++ c :: rest) = some (Number.natText n, rest) := by
  refine Text.cutChars_of_not_mem (fun hmem => ?_) rest
  rw [Number.isDigit_of_mem_natText hmem] at hc
  contradiction

theorem deserializeFrom?_text {text : String} (hsize : Text.byteLength text.toList ≤ nat64Max)
    (rest : List Char) :
    deserializeFrom? (n + 1) room (serializeText text ++ rest) = some (string text, rest) := by
  have hform : serializeText text ++ rest =
      's' :: ':' :: (Number.natText (Text.byteLength text.toList) ++
        ':' :: ('"' :: (text.toList ++ '"' :: ';' :: rest))) := by
    simp [serializeText]
  rw [hform, deserializeFrom?, cutChars_natText _ rfl]
  simp only [Option.bind_eq_bind, Option.bind_some, Number.nat64OfText?_natText hsize,
    takeSerializedText?_append, String.ofList_toList]

theorem not_mem_intText {c : Char} (hc : c.isDigit = false) (hminus : c ≠ '-') (i : Int) :
    c ∉ Number.intText i := by
  intro hmem
  have hdigit : c ∈ Number.natText i.natAbs := by
    rw [Number.intText] at hmem
    split at hmem
    · exact (List.mem_cons.mp hmem).resolve_left hminus
    · exact hmem
  rw [Number.isDigit_of_mem_natText hdigit] at hc
  contradiction

theorem deserializeFrom?_int {i : Int} (hlow : int64Min ≤ i) (hhigh : i ≤ int64Max)
    (rest : List Char) :
    deserializeFrom? (n + 1) room (serializeInt i ++ rest) = some (int i, rest) := by
  have hform : serializeInt i ++ rest = 'i' :: ':' :: (Number.intText i ++ ';' :: rest) := by
    simp [serializeInt]
  rw [hform, deserializeFrom?,
    Text.cutChars_of_not_mem (not_mem_intText rfl (by decide) i)]
  simp only [Option.bind_eq_bind, Option.bind_some, Number.int64OfText?_intText hlow hhigh]

/-- Pairs are read if there is room for one more level, and then in the room that is left. -/
theorem deserializeFrom?_pairs {count deep : Nat} (hcount : count ≤ nat64Max)
    {pairs rest : List Char} {result : List (String × Json)}
    (hpairs : ∀ room, deserializePairs? n room count (pairs ++ '}' :: rest) =
      (if deep ≤ room then some result else none).map (·, '}' :: rest)) :
    deserializeFrom? (n + 1) room (serializePairs count pairs ++ rest) =
      if deep + 1 ≤ room then some (ofPairs result, rest) else none := by
  cases room with
  | zero =>
      rw [serializePairs, List.cons_append, List.cons_append, deserializeFrom?,
        if_neg (Nat.not_succ_le_zero deep)]
      all_goals simp
  | succ room =>
      have hform : serializePairs count pairs ++ rest =
          'a' :: ':' :: (Number.natText count ++ ':' :: ('{' :: (pairs ++ '}' :: rest))) := by
        simp [serializePairs]
      rw [hform, deserializeFrom?, cutChars_natText _ rfl]
      simp only [Option.bind_eq_bind, Option.bind_some, Number.nat64OfText?_natText hcount, hpairs]
      by_cases hroom : deep ≤ room
      · rw [if_pos hroom, if_pos (Nat.succ_le_succ hroom)]
        rfl
      · rw [if_neg hroom, if_neg (mt Nat.le_of_succ_le_succ hroom)]
        rfl

/-- A pair is read with the pairs behind it if there is room for its value and for theirs. -/
theorem deserializePairs?_succ {count deep deepMore : Nat} {cs afterKey afterValue rest : List Char}
    {key value : Json} {name : String} {pairs : List (String × Json)}
    (hkey : deserializeFrom? n room cs = some (key, afterKey)) (hname : keyOf? key = some name)
    (hvalue : deserializeFrom? n room afterKey =
      if deep ≤ room then some (value, afterValue) else none)
    (hmore : deserializePairs? n room count afterValue =
      (if deepMore ≤ room then some pairs else none).map (·, rest)) :
    deserializePairs? (n + 1) room (count + 1) cs =
      (if max deep deepMore ≤ room then some ((name, value) :: pairs) else none).map (·, rest) := by
  rw [deserializePairs?, hkey]
  simp only [Option.bind_eq_bind, Option.bind_some, hname, hvalue, max_le_iff]
  by_cases hdeep : deep ≤ room
  · rw [if_pos hdeep, Option.bind_some, hmore]
    by_cases hrest : deepMore ≤ room
    · rw [if_pos hrest, if_pos ⟨hdeep, hrest⟩]
      rfl
    · rw [if_neg hrest, if_neg fun h => hrest h.2]
      rfl
  · rw [if_neg hdeep, if_neg fun h => hdeep h.1]
    rfl

end

/-! ## Keys that count up -/

/-- Keys count up exactly if they are the texts of the numbers from the first one on. -/
theorem countsFrom_eq_true_iff {start : Nat} {keys : List String} :
    countsFrom start keys = true ↔ keys = (List.range' start keys.length).map Number.natString := by
  induction keys generalizing start with
  | nil => simp [countsFrom]
  | cons key keys ih =>
      rw [countsFrom, Bool.and_eq_true, beq_iff_eq, ih, List.length_cons, List.range'_succ,
        List.map_cons, List.cons.injEq]

theorem countsFrom_indexed (start : Nat) (items : List Json) :
    countsFrom start ((indexed start items).map (·.1)) = true := by
  induction items generalizing start with
  | nil => rfl
  | cons v vs ih =>
      rw [indexed, List.map_cons, countsFrom, ih]
      simp

theorem indexed_map_snd (start : Nat) (items : List Json) :
    (indexed start items).map (·.2) = items := by
  induction items generalizing start with
  | nil => rfl
  | cons v vs ih => rw [indexed, List.map_cons, ih]

/-- The items of a list under their positions are the list again. -/
theorem ofPairs_indexed (items : List Json) : ofPairs (indexed 0 items) = array items := by
  rw [ofPairs, countsFrom_indexed, if_pos rfl, indexed_map_snd]

theorem listedFields_map_fst (fields : List (String × Json)) :
    (listedFields fields).map (·.1) = fields.map (·.1) := by
  induction fields with
  | nil => rfl
  | cons field rest ih => rw [listedFields, List.map_cons, List.map_cons, ih]

theorem listedFields_map_snd (fields : List (String × Json)) :
    (listedFields fields).map (·.2) = fields.map fun field => listed field.2 := by
  induction fields with
  | nil => rfl
  | cons field rest ih => rw [listedFields, List.map_cons, List.map_cons, ih]

theorem sorted_listedFields {fields : List (String × Json)} (h : SortedMap.Sorted fields) :
    SortedMap.Sorted (listedFields fields) := by
  have hkeys : (fields.map (·.1)).Pairwise (· < ·) := List.pairwise_map.mpr h
  rw [← listedFields_map_fst] at hkeys
  exact List.pairwise_map.mp hkeys

/-- Fields in their order are the same map whether they are put in order again or not. -/
theorem ofPairs_of_sorted {fields : List (String × Json)} (h : SortedMap.Sorted fields) :
    ofPairs fields = ofSortedPairs fields := by
  rw [ofPairs, ofSortedPairs, ofFields, SortedMap.ofList_of_sorted h]

/-- A map becomes the list of its values exactly if its keys are `0`, `1` and so on. -/
theorem listed_object (fields : List (String × Json)) :
    listed (object fields) =
      if fields.map (·.1) = (List.range fields.length).map Number.natString then
        array (fields.map fun field => listed field.2)
      else object (listedFields fields) := by
  have hcounts : countsFrom 0 (fields.map (·.1)) = true ↔
      fields.map (·.1) = (List.range fields.length).map Number.natString := by
    rw [countsFrom_eq_true_iff, List.length_map, List.range_eq_range']
  rw [listed, ofSortedPairs, listedFields_map_fst, listedFields_map_snd]
  exact if_congr hcounts rfl rfl

/-! ## Reading -/

theorem length_le_serializeItems (start : Nat) (items : List Json) :
    items.length ≤ Text.byteLength (serializeItems start items) := by
  induction items generalizing start with
  | nil => exact Nat.zero_le _
  | cons v vs ih =>
      have hmore := ih (start + 1)
      rw [serializeItems, serializeInt, List.cons_append, Text.byteLength, Text.byteLength_append,
        Text.byteLength_append, List.length_cons]
      have hsize : 0 < 'i'.utf8Size := Char.utf8Size_pos _
      omega

theorem length_le_serializeFields (fields : List (String × Json)) :
    fields.length ≤ Text.byteLength (serializeFields fields) := by
  induction fields with
  | nil => exact Nat.zero_le _
  | cons field rest ih =>
      rw [serializeFields, serializeText, List.cons_append, Text.byteLength,
        Text.byteLength_append, Text.byteLength_append, List.length_cons]
      have hsize : 0 < 's'.utf8Size := Char.utf8Size_pos _
      omega

theorem byteLength_le_serializePairs (count : Nat) (pairs : List Char) :
    Text.byteLength pairs ≤ Text.byteLength (serializePairs count pairs) := by
  simp only [serializePairs, Text.byteLength, Text.byteLength_append]
  omega

theorem length_lt_serializePairs (count : Nat) (pairs : List Char) :
    pairs.length + 2 < (serializePairs count pairs).length := by
  simp only [serializePairs, List.length_cons, List.length_append]
  omega

theorem byteLength_le_serializeText (text : String) :
    Text.byteLength text.toList ≤ Text.byteLength (serializeText text) := by
  simp only [serializeText, Text.byteLength, Text.byteLength_append]
  omega

theorem intString_natCast (n : Nat) : Number.intString n = Number.natString n := by
  rw [Number.intString, Number.intText, if_neg (by omega)]
  rfl

/-- A serialised form has no blanks around it. -/
theorem serializeChars_ends (v : Json) : ∃ first body last,
    serializeChars v = first :: (body ++ [last]) ∧
      Text.isBlank first = false ∧ Text.isBlank last = false := by
  cases v with
  | null => exact ⟨'N', [], ';', rfl, rfl, rfl⟩
  | bool value => exact ⟨'b', [':', if value then '1' else '0'], ';', rfl, rfl, rfl⟩
  | int n =>
      rw [serializeChars]
      split
      · exact ⟨'i', ':' :: Number.intText n, ';', rfl, rfl, rfl⟩
      · exact ⟨'d', ':' :: _, ';', rfl, rfl, rfl⟩
  | float x => exact ⟨'d', ':' :: x.plainText, ';', by rw [serializeChars]; rfl, rfl, rfl⟩
  | string text =>
      refine ⟨'s', ':' :: (Number.natText (Text.byteLength text.toList) ++
        ':' :: '"' :: (text.toList ++ ['"'])), ';', ?_, rfl, rfl⟩
      rw [serializeChars]
      simp [serializeText]
  | array items =>
      refine ⟨'a', ':' :: (Number.natText items.length ++ ':' :: '{' :: serializeItems 0 items),
        '}', ?_, rfl, rfl⟩
      rw [serializeChars]
      simp [serializePairs]
  | object fields =>
      refine ⟨'a', ':' :: (Number.natText fields.length ++ ':' :: '{' :: serializeFields fields),
        '}', ?_, rfl, rfl⟩
      rw [serializeChars]
      simp [serializePairs]

mutual

/-- Of the serialised form of a value, with anything behind it, the value is read if there is room
for its depth, and nothing otherwise. -/
theorem deserializeFrom?_serializeChars (v : Json) (hv : IsStructured v)
    (hsize : (Text.byteLength (serializeChars v) : Int) ≤ int64Max) {n room : Nat}
    {rest : List Char} (hn : (serializeChars v ++ rest).length < n) :
    deserializeFrom? n room (serializeChars v ++ rest) =
      if depth v ≤ room then some (listed v, rest) else none := by
  obtain ⟨n, rfl⟩ : ∃ m, n = m + 1 := ⟨n - 1, by omega⟩
  cases v with
  | null => rfl
  | bool value => cases value <;> rfl
  | int i =>
      rw [serializeChars, if_pos hv.2, deserializeFrom?_int hv.1 hv.2]
      rfl
  | float x => exact absurd hv id
  | string text =>
      have htext := byteLength_le_serializeText text
      rw [serializeChars] at hsize ⊢
      rw [deserializeFrom?_text (by simp only [int64Max, nat64Max] at *; omega)]
      rfl
  | array items =>
      have hitems := byteLength_le_serializePairs items.length (serializeItems 0 items)
      have hcount := length_le_serializeItems 0 items
      have hlength := length_lt_serializePairs items.length (serializeItems 0 items)
      rw [serializeChars] at hsize hn ⊢
      rw [List.length_append] at hn
      have hpairs room := @deserializePairs?_serializeItems items hv 0 (by omega) n room
        ('}' :: rest) (by rw [List.length_append, List.length_cons]; omega)
      rw [deserializeFrom?_pairs (by simp only [int64Max, nat64Max] at *; omega) hpairs,
        ofPairs_indexed, depth, listed]
  | object fields =>
      have hfields := byteLength_le_serializePairs fields.length (serializeFields fields)
      have hcount := length_le_serializeFields fields
      have hlength := length_lt_serializePairs fields.length (serializeFields fields)
      rw [serializeChars] at hsize hn ⊢
      rw [List.length_append] at hn
      have hpairs room := @deserializePairs?_serializeFields fields hv.2 (by omega) n room
        ('}' :: rest) (by rw [List.length_append, List.length_cons]; omega)
      rw [deserializeFrom?_pairs (by simp only [int64Max, nat64Max] at *; omega) hpairs,
        ofPairs_of_sorted (sorted_listedFields hv.1), depth, listed]

/-- The items of an array are read under their positions. -/
theorem deserializePairs?_serializeItems (items : List Json) (hitems : AreStructured items)
    {start : Nat} (hsize : (start + Text.byteLength (serializeItems start items) : Int) ≤ int64Max)
    {n room : Nat} {rest : List Char} (hn : (serializeItems start items ++ rest).length + 1 < n) :
    deserializePairs? n room items.length (serializeItems start items ++ rest) =
      (if itemsDepth items ≤ room then some (indexed start (listedItems items)) else none).map
        (·, rest) := by
  obtain ⟨n, rfl⟩ : ∃ m, n = m + 1 := ⟨n - 1, by omega⟩
  match items, hitems with
  | [], _ => rfl
  | v :: vs, hitems =>
      have hkey : (serializeInt start).length = (Number.intText start).length + 3 := by
        simp [serializeInt]
      have hkeySize : 0 < Text.byteLength (serializeInt start) := by
        have hle := Text.length_le_byteLength (serializeInt start)
        omega
      rw [serializeItems] at hsize hn ⊢
      simp only [Text.byteLength_append, List.length_append, List.append_assoc] at hsize hn ⊢
      obtain ⟨n, rfl⟩ : ∃ m, n = m + 1 := ⟨n - 1, by omega⟩
      have hvalue := @deserializeFrom?_serializeChars v hitems.1 (by omega) (n + 1) room
        (serializeItems (start + 1) vs ++ rest) (by simp only [List.length_append]; omega)
      have hmore := @deserializePairs?_serializeItems vs hitems.2 (start + 1)
        (by push_cast; omega) (n + 1) room rest (by simp only [List.length_append]; omega)
      have hname : keyOf? (int start) = some (Number.natString start) := by
        rw [keyOf?, toText, intString_natCast]
      exact deserializePairs?_succ
        (deserializeFrom?_int (by simp only [int64Min]; omega) (by omega) _) hname hvalue hmore

/-- The fields of an object are read under their names. -/
theorem deserializePairs?_serializeFields (fields : List (String × Json))
    (hfields : FieldsAreStructured fields)
    (hsize : (Text.byteLength (serializeFields fields) : Int) ≤ int64Max)
    {n room : Nat} {rest : List Char} (hn : (serializeFields fields ++ rest).length + 1 < n) :
    deserializePairs? n room fields.length (serializeFields fields ++ rest) =
      (if fieldsDepth fields ≤ room then some (listedFields fields) else none).map (·, rest) := by
  obtain ⟨n, rfl⟩ : ∃ m, n = m + 1 := ⟨n - 1, by omega⟩
  match fields, hfields with
  | [], _ => rfl
  | (k, v) :: more, hfields =>
      have hkey : 2 ≤ (serializeText k).length := by
        simp [serializeText]
      have hkeySize := byteLength_le_serializeText k
      rw [serializeFields] at hsize hn ⊢
      simp only [Text.byteLength_append, List.length_append, List.append_assoc] at hsize hn ⊢
      obtain ⟨n, rfl⟩ : ∃ m, n = m + 1 := ⟨n - 1, by omega⟩
      have hvalue := @deserializeFrom?_serializeChars v hfields.1 (by omega) (n + 1) room
        (serializeFields more ++ rest) (by simp only [List.length_append]; omega)
      have hmore := @deserializePairs?_serializeFields more hfields.2 (by omega) (n + 1) room rest
        (by simp only [List.length_append]; omega)
      exact deserializePairs?_succ
        (deserializeFrom?_text (by simp only [int64Max, nat64Max] at *; omega) _) rfl hvalue hmore

end

/-- What is read of the serialised form of a structured value is the value with its counting maps
made lists, if it nests at most as deep as reading goes, and nothing if it nests deeper. The form has
to fit into memory, which holds texts of fewer than `2 ^ 63` bytes. -/
theorem deserialize?_serialize {v : Json} (hv : v.IsStructured)
    (hsize : (Text.byteLength v.serialize.toList : Int) ≤ int64Max) :
    deserialize? v.serialize = if v.depth ≤ serializedDepth then some v.listed else none := by
  rw [serialize, String.toList_ofList] at hsize
  obtain ⟨first, body, last, hform, hfirst, hlast⟩ := serializeChars_ends v
  have htrimmed : Text.trimChars v.serializeChars = v.serializeChars := by
    rw [hform, Text.trimChars_of_ends body hfirst hlast]
  have hread := @deserializeFrom?_serializeChars v hv hsize (v.serializeChars.length + 1)
    serializedDepth [] (by rw [List.append_nil]; exact Nat.lt_succ_self _)
  rw [List.append_nil] at hread
  rw [deserialize?, serialize, String.toList_ofList, htrimmed, deserializeChars?, hread]
  by_cases hdeep : v.depth ≤ serializedDepth
  · rw [if_pos hdeep, if_pos hdeep]
  · rw [if_neg hdeep, if_neg hdeep]

/-- So many lists, each in the next, and nothing in the innermost. -/
def nested : Nat → Json
  | 0 => null
  | n + 1 => array [nested n]

theorem isStructured_nested (n : Nat) : (nested n).IsStructured := by
  induction n with
  | zero => trivial
  | succ n ih => exact ⟨ih, trivial⟩

theorem listed_nested (n : Nat) : (nested n).listed = nested n := by
  induction n with
  | zero => rfl
  | succ n ih => rw [nested, listed, listedItems, listedItems, ih]

/-- The outer map becomes a list, the inner one does not, since `10` comes before `2`; the text holds
the end of a text and of a map. Of lists that are nested 64 are read back, and 65 are not. -/
theorem deserialize?_serialize_counting :
    let inner := object [("10", null), ("2", array [])]
    let v := object [("0", string "\";\x7d"), ("1", inner)]
    v.IsStructured ∧ (Text.byteLength v.serialize.toList : Int) ≤ int64Max ∧
      deserialize? v.serialize = some (array [string "\";\x7d", inner]) ∧
      deserialize? (nested 64).serialize = some (nested 64) ∧
      deserialize? (nested 65).serialize = none := by
  intro inner v
  have hinner : inner.IsStructured := ⟨by decide, trivial, trivial, trivial⟩
  have hv : v.IsStructured := ⟨by decide, trivial, hinner, trivial⟩
  have hsize : (Text.byteLength v.serialize.toList : Int) ≤ int64Max := by
    rw [serialize, String.toList_ofList]
    decide
  have hread := deserialize?_serialize hv hsize
  rw [if_pos (by decide)] at hread
  have hsizes : ∀ n ∈ [64, 65], (Text.byteLength (nested n).serialize.toList : Int) ≤ int64Max := by
    simp only [serialize, String.toList_ofList]
    decide +kernel
  have hdeep := deserialize?_serialize (isStructured_nested 64) (hsizes 64 (by decide))
  rw [if_pos (by decide +kernel), listed_nested] at hdeep
  have hdeeper := deserialize?_serialize (isStructured_nested 65) (hsizes 65 (by decide))
  rw [if_neg (by decide +kernel)] at hdeeper
  exact ⟨hv, hsize, hread, hdeep, hdeeper⟩

end Json

end DynamicContent
