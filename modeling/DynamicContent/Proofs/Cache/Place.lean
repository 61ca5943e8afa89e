/-
# Either place

A memory and a directory that both hold a ledger answer alike as far as the ledger tells. Here the
two kinds of place are treated as one: what each operation does to the ledger that a place keeps, and
what is read from it. They differ in what they need for that. A memory needs room for all lines,
and files need names that are not too long, values that come back exactly from their text, and a
lifetime for each entry.
-/

import DynamicContent.Proofs.Cache.Ledger

namespace DynamicContent.Cache

open Number (int64Min int64Max)

/-- A kind of place: a memory of some capacity, or files with some lifetime for those given none. -/
inductive Place where
  | memory (capacity : Nat)
  | files (defaultLifetime : Nat)

namespace Place

/-- The place without any entry. -/
def fresh : Place → Store
  | memory capacity => .memory (.empty capacity)
  | files defaultLifetime => .file (.empty defaultLifetime)

/-- Whether all lines of a ledger can be held at once. -/
def HasRoom (ledger : Ledger) : Place → Prop
  | memory capacity => ledger.length ≤ max capacity 1
  | files _ => True

/-- Whether a deposit is given back as it is at some time: it is still valid, and a file of it is
read to the value it was written for. -/
def Returns (now : Int) (d : Deposit) : Place → Prop
  | memory _ => d.lifetime = 0 ∨ now < d.time + d.lifetime
  | files defaultLifetime =>
    int64Min ≤ d.time ∧ now < (d.document (max defaultLifetime 1) "").expiresAt ∧
      d.value.IsExact ∧ d.value.depth + 1 < Json.depthLimit

/-- A place of a kind that holds a ledger. -/
inductive Keeps (ledger : Ledger) : Place → Store → Prop
  | memory {capacity : Nat} {store : MemoryStore} (holds : store.Holds ledger)
      (capacity_eq : store.capacity = max capacity 1) : Keeps ledger (memory capacity) (.memory store)
  | files {defaultLifetime : Nat} {store : FileStore} (holds : store.Holds ledger)
      (lifetime_eq : store.defaultLifetime = max defaultLifetime 1) :
      Keeps ledger (files defaultLifetime) (.file store)

theorem keeps_fresh (place : Place) : Keeps [] place place.fresh := by
  cases place with
  | memory capacity => exact .memory ⟨List.Pairwise.nil, List.nodup_nil, fun _ => rfl⟩ rfl
  | files defaultLifetime =>
      refine .files ⟨fun name => ?_, fun key d hd => by contradiction⟩ rfl
      cases FileStore.keyOfName? name <;> rfl

theorem isExpired_eq_false {now : Int} {d : Deposit} (h : d.lifetime = 0 ∨ now < d.time + d.lifetime) :
    MemoryStore.isExpired now d.memoryEntry = false := by
  rw [MemoryStore.isExpired, Deposit.memoryEntry]
  rcases h with hzero | hnow
  · rw [if_pos hzero]
    rfl
  · by_cases hzero : d.lifetime = 0
    · rw [if_pos hzero]
      rfl
    · rw [if_neg hzero]
      exact decide_eq_false (Int.not_le.mpr hnow)

namespace Keeps

variable {place : Place} {ledger ledger' : Ledger} {store store' : Store} {now : Int}
  {key : String}

/-- What a place answers follows from the line of the key. -/
theorem get_congr (h : Keeps ledger place store) (h' : Keeps ledger' place store')
    (hkey : key ≠ "") (hline : SortedMap.find? key ledger = SortedMap.find? key ledger') :
    ((Store.backend now).get key store).1 = ((Store.backend now).get key store').1 := by
  cases h with
  | memory h hcapacity =>
      cases h' with
      | memory h' hcapacity' =>
          refine congrArg Except.ok (?_ : (MemoryStore.get _ _ _).1 = (MemoryStore.get _ _ _).1)
          rw [h.get_fst, h'.get_fst, hline]
  | files h hlifetime =>
      cases h' with
      | files h' hlifetime' =>
          refine (?_ : (FileStore.get _ _ _).1 = (FileStore.get _ _ _).1)
          rw [h.get hkey, h'.get hkey, hline, hlifetime, hlifetime']
          split
          · split <;> rfl
          · split
            · rfl
            · split <;> rfl

/-- Where there is no line there is no value. -/
theorem get_ne_some (h : Keeps ledger place store) (hkey : key ≠ "")
    (hline : SortedMap.find? key ledger = none) (v : Json) :
    ((Store.backend now).get key store).1 ≠ .ok (some v) := by
  cases h with
  | memory h hcapacity =>
      refine (?_ : Except.ok (MemoryStore.get _ _ _).1 ≠ _)
      rw [h.get_fst, hline]
      intro hget
      cases hget
  | files h hlifetime =>
      refine (?_ : (FileStore.get _ _ _).1 ≠ _)
      rw [h.get hkey, hline]
      intro hget
      dsimp only at hget
      split at hget <;> cases hget

/-- Where there is no line a key that fits is looked up in vain. -/
theorem get_of_none (h : Keeps ledger place store) (hkey : key ≠ "")
    (hname : Directory.nameError? (FileStore.fileName key) = none)
    (hline : SortedMap.find? key ledger = none) :
    (Store.backend now).get key store = (.ok none, store) := by
  cases h with
  | @memory capacity store h hcapacity =>
      simp [Store.backend, Store.run, MemoryStore.backend, h.get_of_none hline]
  | @files defaultLifetime store h hlifetime =>
      have hget : store.get now key = (.ok none, store) := by
        rw [h.get hkey, hline, hname]
      simp [Store.backend, Store.run, FileStore.backend, hget]

/-- What a place returns is read, and the place keeps what it holds. -/
theorem get_of_returns (h : Keeps ledger place store) (hkey : key ≠ "") {d : Deposit}
    (hline : SortedMap.find? key ledger = some d) (hreturns : place.Returns now d) :
    ((Store.backend now).get key store).1 = .ok (some d.value) ∧
      Keeps ledger place ((Store.backend now).get key store).2 := by
  cases h with
  | @memory capacity store h hcapacity =>
      have hvalid := isExpired_eq_false hreturns
      refine ⟨congrArg Except.ok (?_ : (MemoryStore.get _ _ _).1 = _), .memory ?_ ?_⟩
      · rw [h.get_fst, hline, Option.bind_some, hvalid]
        rfl
      · refine h.get_snd fun d' hd' => ?_
        rw [hline] at hd'
        exact Option.some.inj hd' ▸ hvalid
      · refine (?_ : (MemoryStore.get _ _ _).2.capacity = _)
        rw [MemoryStore.get]
        split
        · exact hcapacity
        · split <;> exact hcapacity
  | @files defaultLifetime store h hlifetime =>
      obtain ⟨hlow, hvalid, hexact, hdeep⟩ := hreturns
      rw [← hlifetime] at hvalid
      have hget := h.get_of_valid hkey hline hlow hexact hdeep hvalid
      have hrun : (Store.backend now).get key (.file store) =
          (.ok (some d.value), .file store) := by
        simp [Store.backend, Store.run, FileStore.backend, hget]
      rw [hrun]
      exact ⟨rfl, .files h hlifetime⟩

/-- What is reported written is in the ledger from then on, if there is room for it. -/
theorem set (h : Keeps ledger place store) (hkey : key ≠ "") {value : Json} {lifetime : Nat}
    (hset : ((Store.backend now).set key value lifetime store).1 = .ok ())
    (hroom : place.HasRoom (SortedMap.insert key ⟨value, now, lifetime⟩ ledger)) :
    Keeps (SortedMap.insert key ⟨value, now, lifetime⟩ ledger) place
      ((Store.backend now).set key value lifetime store).2 := by
  cases h with
  | @memory capacity store h hcapacity =>
      simp only [Store.backend, Store.run, MemoryStore.backend] at hset ⊢
      cases hstored : store.set? now key value lifetime with
      | none =>
          rw [hstored] at hset
          contradiction
      | some store' =>
          obtain ⟨hholds, hsame⟩ := h.set hstored (hcapacity ▸ hroom)
          exact .memory hholds (hsame.trans hcapacity)
  | @files defaultLifetime store h hlifetime =>
      have hname : Directory.nameError? (FileStore.fileName key) = none := by
        cases hname : Directory.nameError? (FileStore.fileName key) with
        | none => rfl
        | some error => exact absurd hset (FileStore.Holds.set_fst_ne_ok hname)
      obtain ⟨hholds, hsame⟩ := h.set hkey hname
      exact .files hholds (hsame.trans hlifetime)

/-- A write that the clock and the names of files allow is carried out. -/
theorem set_fst (h : Keeps ledger place store) {value : Json} {lifetime : Nat}
    (hname : Directory.nameError? (FileStore.fileName key) = none)
    (hclock : now + lifetime ≤ int64Max) :
    ((Store.backend now).set key value lifetime store).1 = .ok () := by
  cases h with
  | @memory capacity store h hcapacity =>
      have hdeadline : ∃ deadline, MemoryStore.deadline? now lifetime = some deadline := by
        rw [MemoryStore.deadline?, if_pos hclock]
        split <;> exact ⟨_, rfl⟩
      obtain ⟨deadline, hdeadline⟩ := hdeadline
      simp [Store.backend, Store.run, MemoryStore.backend, MemoryStore.set?, hdeadline]
  | @files defaultLifetime store h hlifetime =>
      exact congrArg Prod.fst (h.set_of_named hname now value lifetime)

theorem erase (h : Keeps ledger place store) (hkey : key ≠ "")
    (hname : Directory.nameError? (FileStore.fileName key) = none) :
    ((Store.backend now).erase key store).1 = .ok (SortedMap.find? key ledger).isSome ∧
      Keeps (SortedMap.erase key ledger) place ((Store.backend now).erase key store).2 := by
  cases h with
  | memory h hcapacity => exact ⟨congrArg Except.ok h.erase.1, .memory h.erase.2 hcapacity⟩
  | files h hlifetime =>
      obtain ⟨hremoved, hholds, hsame⟩ := h.erase hkey hname
      exact ⟨hremoved, .files hholds (hsame.trans hlifetime)⟩

theorem flush (h : Keeps ledger place store) (start : String) :
    (∃ count, ((Store.backend now).flush start store).1 = .ok count) ∧
      Keeps (ledger.flush start) place ((Store.backend now).flush start store).2 := by
  cases h with
  | memory h hcapacity => exact ⟨⟨_, rfl⟩, .memory h.flush hcapacity⟩
  | files h hlifetime =>
      obtain ⟨hcount, hholds, hsame⟩ := h.flush start
      exact ⟨hcount, .files hholds (hsame.trans hlifetime)⟩

end Keeps

end Place

end DynamicContent.Cache
