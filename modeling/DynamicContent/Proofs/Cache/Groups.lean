/-
# Groups are kept apart

A group is flushed by removing all entries whose stored key begins like the group. What else begins
so? Nothing, since a stored key tells the segment of its group. So after any writes to a fresh place
that all took place and for which there was room, a flush of a group leaves the values of other groups
as they were and removes those of every group with the same segment, and a flush without a group
removes all.

What is read of a value that was not removed is what was read before the flush. In memory that is the
value which was written. In files it is that value only if it comes back exactly from its text, and
not every floating number does: the reader rounds the power of ten that it scales by.
-/

import DynamicContent.Proofs.Cache.Facade

namespace DynamicContent.Cache

/-- A value that is written under a key of a group at some time. -/
structure Write where
  now : Int
  key : String
  group : String
  value : Json
  lifetime : Nat

namespace Write

def storedKey (start : String) (w : Write) : String := Cache.storedKey start w.group w.key

def deposit (w : Write) : Deposit := ⟨w.value, w.now, w.lifetime⟩

/-- Whether a write is for what is read under a key of a group. -/
def IsFor (key group : String) (w : Write) : Prop :=
  groupSegment w.group.toList = groupSegment group.toList ∧
    Text.toKeyChars w.key.toList = Text.toKeyChars key.toList

instance (key group : String) (w : Write) : Decidable (w.IsFor key group) :=
  inferInstanceAs (Decidable (_ ∧ _))

def run (start : String) (w : Write) : CacheM Store Bool :=
  (siteCache start w.now).set w.key (some w.value) w.lifetime w.group

end Write

/-- Writes one after the other, and says whether all of them took place. -/
def writeAll (start : String) : List Write → CacheM Store Bool
  | [] => pure true
  | w :: ws => do
    let stored ← w.run start
    let others ← writeAll start ws
    pure (stored && others)

/-- The last write for what is read under a key of a group. -/
def lastWrite? (key group : String) (ws : List Write) : Option Write :=
  ws.reverse.find? fun w => decide (w.IsFor key group)

/-- What writes make of a ledger. -/
def written (start : String) (ws : List Write) (ledger : Ledger) : Ledger :=
  ws.foldl (fun ledger w => SortedMap.insert (w.storedKey start) w.deposit ledger) ledger

theorem storedKey_eq_iff_isFor {start key group : String} {w : Write} :
    storedKey start group key = w.storedKey start ↔ w.IsFor key group :=
  eq_comm.trans storedKey_eq_iff

/-- The line of a key is that of the last write for it. -/
theorem find?_written (start key group : String) (ws : List Write) (ledger : Ledger) :
    SortedMap.find? (storedKey start group key) (written start ws ledger) =
      ((lastWrite? key group ws).map Write.deposit).or
        (SortedMap.find? (storedKey start group key) ledger) := by
  induction ws generalizing ledger with
  | nil => rfl
  | cons w ws ih =>
      have hlast : lastWrite? key group (w :: ws) = (lastWrite? key group ws).or
          (if w.IsFor key group then some w else none) := by
        rw [lastWrite?, List.reverse_cons, List.find?_append, List.find?_singleton, lastWrite?]
        simp only [decide_eq_true_eq]
      rw [written, List.foldl_cons, ← written, ih, SortedMap.find?_insert, hlast]
      cases lastWrite? key group ws with
      | some other => rfl
      | none =>
          by_cases hfor : w.IsFor key group
          · rw [if_pos (storedKey_eq_iff_isFor.mpr hfor), if_pos hfor]
            rfl
          · rw [if_neg (mt storedKey_eq_iff_isFor.mp hfor), if_neg hfor]
            rfl

theorem length_le_length_written (start : String) (ws : List Write) (ledger : Ledger) :
    ledger.length ≤ (written start ws ledger).length := by
  induction ws generalizing ledger with
  | nil => exact Nat.le_refl _
  | cons w ws ih => exact Nat.le_trans (SortedMap.length_le_length_insert _ _ ledger) (ih _)

theorem Place.HasRoom.of_length_le {place : Place} {ledger ledger' : Ledger}
    (h : place.HasRoom ledger') (hlength : ledger.length ≤ ledger'.length) :
    place.HasRoom ledger := by
  cases place with
  | memory capacity => exact Nat.le_trans hlength h
  | files defaultLifetime => trivial

variable {α : Type} {start : String} {place : Place} {ledger : Ledger} {s : CacheState Store}

/-- Writes that all take place are in the ledger, if there is room for them. -/
theorem keeps_writeAll {ws : List Write} (h : Place.Keeps ledger place s.store)
    (hstored : (writeAll start ws s).1 = true) (hroom : place.HasRoom (written start ws ledger)) :
    Place.Keeps (written start ws ledger) place (writeAll start ws s).2.store := by
  induction ws generalizing s ledger with
  | nil => exact h
  | cons w ws ih =>
      have hrun : writeAll start (w :: ws) s =
          ((w.run start s).1 && (writeAll start ws (w.run start s).2).1,
            (writeAll start ws (w.run start s).2).2) := rfl
      rw [hrun, Bool.and_eq_true] at hstored
      obtain ⟨hfirst, hothers⟩ := hstored
      obtain ⟨counters, hset⟩ := (siteCache start w.now).set_some_eq w.key w.value w.lifetime
        w.group s
      have hok : ((Store.backend w.now).set (w.storedKey start) w.value w.lifetime s.store).1 =
          .ok () := by
        rw [Write.run, hset] at hfirst
        exact eq_ok_of_succeeded hfirst
      have hstep : Place.Keeps (SortedMap.insert (w.storedKey start) w.deposit ledger) place
          (w.run start s).2.store := by
        rw [Write.run, hset]
        exact h.set (storedKey_ne_empty _ _ _) hok
          (hroom.of_length_le (length_le_length_written start ws _))
      exact ih hstep hothers hroom

/-- What is read under a key of a group at some time. -/
def readAt (start : String) (now : Int) (decode : Json → Option α) (key group : String)
    (s : CacheState Store) : Option α :=
  ((siteCache start now).get decode key group s).1

/-- What a flush of a group, or of all groups, leaves at some time. -/
def flushAt (start : String) (now : Int) (group : Option String) (s : CacheState Store) :
    CacheState Store :=
  ((siteCache start now).flush group s).2

theorem readAt_eq (start : String) (now : Int) (decode : Json → Option α) (key group : String)
    (s : CacheState Store) :
    readAt start now decode key group s =
      (siteCache start now).remembered? decode key group s.store := by
  obtain ⟨counters, hget⟩ := (siteCache start now).get_eq decode key group s
  rw [readAt, hget]

/-- A flush leaves the lines whose stored keys do not begin like what it removes. -/
theorem keeps_flushAt (h : Place.Keeps ledger place s.store) (now : Int) (group : Option String) :
    Place.Keeps (ledger.flush (Cache.flushStart start group)) place
      (flushAt start now group s).store := by
  obtain ⟨counters, hflush⟩ := (siteCache start now).flush_eq group s
  rw [flushAt, hflush]
  exact (h.flush _).2

/-- Groups are kept apart. Two stored keys are equal exactly if they agree on the segment of the group
and on the characters of the key. After writes to a fresh place that all took place and for which there
was room, a flush of a group removes the values of the groups with its segment and leaves what is
read of the others, and a flush without a group removes all. What is read is the value of the last
write as long as the place returns it. -/
theorem flush_keeps_groups_apart {ws : List Write} (hfresh : s.store = place.fresh)
    (hstored : (writeAll start ws s).1 = true) (hroom : place.HasRoom (written start ws [])) :
    (∀ group group' key key' : String,
      storedKey start group key = storedKey start group' key' ↔
        groupSegment group.toList = groupSegment group'.toList ∧
          Text.toKeyChars key.toList = Text.toKeyChars key'.toList) ∧
    ∀ {α : Type} (decode : Json → Option α) (key group : String) (flushed now : Int),
      (lastWrite? key group ws = none →
        readAt start now decode key group (writeAll start ws s).2 = none) ∧
      (∀ w, lastWrite? key group ws = some w → place.Returns now w.deposit →
        readAt start now decode key group (writeAll start ws s).2 = decode w.value) ∧
      (∀ other, readAt start now decode key group
          (flushAt start flushed (some other) (writeAll start ws s).2) =
        if groupSegment group.toList = groupSegment other.toList then none
        else readAt start now decode key group (writeAll start ws s).2) ∧
      readAt start now decode key group
        (flushAt start flushed none (writeAll start ws s).2) = none := by
  refine ⟨fun group group' key key' => storedKey_eq_iff, ?_⟩
  intro α decode key group flushed now
  have hkeeps : Place.Keeps (written start ws []) place (writeAll start ws s).2.store :=
    keeps_writeAll (hfresh ▸ place.keeps_fresh) hstored hroom
  have hline := find?_written start key group ws []
  refine ⟨fun hnone => ?_, fun w hw hreturns => ?_, fun other => ?_, ?_⟩
  · rw [hnone] at hline
    rw [readAt_eq]
    exact remembered?_of_none decode hkeeps hline
  · rw [hw] at hline
    rw [readAt_eq]
    exact remembered?_of_returns decode hkeeps hline hreturns
  · have hflushed : Place.Keeps ((written start ws []).flush (groupStart start other)) place
        (flushAt start flushed (some other) (writeAll start ws s).2).store :=
      keeps_flushAt hkeeps flushed (some other)
    have hfind := Ledger.find?_flush (groupStart start other) (storedKey start group key)
      (written start ws [])
    rw [readAt_eq, readAt_eq]
    by_cases hgroup : groupSegment group.toList = groupSegment other.toList
    · rw [if_pos ((startsWith_groupStart _ _ _ _).mpr hgroup)] at hfind
      rw [if_pos hgroup]
      exact remembered?_of_none decode hflushed hfind
    · rw [if_neg (mt (startsWith_groupStart _ _ _ _).mp hgroup)] at hfind
      rw [if_neg hgroup]
      exact remembered?_congr decode hflushed hkeeps hfind
  · have hflushed : Place.Keeps ((written start ws []).flush (namespaceStart start)) place
        (flushAt start flushed none (writeAll start ws s).2).store :=
      keeps_flushAt hkeeps flushed none
    have hfind := Ledger.find?_flush (namespaceStart start) (storedKey start group key)
      (written start ws [])
    rw [if_pos (startsWith_namespaceStart _ _ _)] at hfind
    rw [readAt_eq]
    exact remembered?_of_none decode hflushed hfind

/-- Two writes under one key, to a group and to another whose name extends that of the first. -/
def neighbours : List Write := [⟨0, "a", "query", .int 1, 60⟩, ⟨0, "a", "query_x", .int 2, 60⟩]

/-- A cache over an empty directory. -/
def emptyFiles : CacheState Store := ⟨(Place.files 86400).fresh, [], []⟩

/-- A flush of the first group leaves the value of the one whose name extends it. -/
theorem neighbour_outlives_flush :
    (writeAll "weft_" neighbours emptyFiles).1 = true ∧
      readAt "weft_" 1 Json.int64? "a" "query_x"
        (flushAt "weft_" 1 (some "query") (writeAll "weft_" neighbours emptyFiles).2) = some 2 := by
  have hstored : (writeAll "weft_" neighbours emptyFiles).1 = true := by decide +kernel
  have hreturns : (Place.files 86400).Returns 1 (Write.deposit ⟨0, "a", "query_x", .int 2, 60⟩) := by
    refine ⟨by decide, by decide, ⟨by decide, by decide⟩, by decide⟩
  obtain ⟨-, hread⟩ := @flush_keeps_groups_apart "weft_" (.files 86400) emptyFiles neighbours rfl
    hstored trivial
  obtain ⟨-, hlast, hother, -⟩ := hread Json.int64? "a" "query_x" 1 1
  refine ⟨hstored, ?_⟩
  rw [hother "query", if_neg (by decide), hlast _ rfl hreturns]
  rfl

/-- A number a little above `10 ^ (-28)`. -/
def tiny : Number.Binary64 := ⟨false, 8920298079412250, -146, by decide⟩

/-- The floating number that a value is. -/
def float? : Json → Option Number.Binary64
  | .float x => some x
  | _ => none

/-- A floating number that was written to a file is not always what is read after a flush of another
group, although its entry was kept. -/
theorem tiny_misread_after_flush :
    (writeAll "weft_" [⟨0, "a", "query", .float tiny, 60⟩] emptyFiles).1 = true ∧
      groupSegment "query".toList ≠ groupSegment "other".toList ∧
      (readAt "weft_" 1 float? "a" "query" (flushAt "weft_" 1 (some "other")
        (writeAll "weft_" [⟨0, "a", "query", .float tiny, 60⟩] emptyFiles).2)).isSome = true ∧
      readAt "weft_" 1 float? "a" "query" (flushAt "weft_" 1 (some "other")
        (writeAll "weft_" [⟨0, "a", "query", .float tiny, 60⟩] emptyFiles).2) ≠ some tiny := by
  decide +kernel

end DynamicContent.Cache
