/-
# What is registered is made once, when it is first asked for

A registry is a matter of its history. Under a tag stands what was registered under it last; whether that
has been made already depends on whether it was asked for since. So for each registration there is at most
one use at which its maker runs, and this is read off the history: the first time that it is asked for
before something else is registered in its place. Uses that only look at the tags make nothing.

The uses of a history are counted from zero, and a tag is meant in the form in which it is kept, so that
letter case and blanks around it do not matter to any use. `normalTag_eq_iff` says which form that is.
-/

import DynamicContent.Engine.Registry
import DynamicContent.Proofs.Data.SortedMap
import DynamicContent.Proofs.Text.Casing
import DynamicContent.Proofs.Text.Utf8
import Mathlib.Data.List.Forall2
import Mathlib.Data.List.Induction

namespace DynamicContent

variable {α : Type}

/-- A registration once it is asked for. -/
def Registration.asked (entry : Registration α) : Registration α :=
  { entry with instance? := some (entry.instance?.getD (entry.make ())) }

namespace Registry

/-- A tag is kept without the blanks in front of it and behind it, and with `a` to `z` in the place of
`A` to `Z`. -/
theorem normalTag_eq_iff {tag kept : String} : normalTag tag = kept ↔
    ∃ front core back, (∀ c ∈ front, Text.isBlank c = true) ∧ (∀ c ∈ back, Text.isBlank c = true) ∧
      tag.toList = front ++ (core ++ back) ∧ (∀ c ∈ core.head?, Text.isBlank c = false) ∧
      (∀ c ∈ core.getLast?, Text.isBlank c = false) ∧
      kept.toList = core.map fun c => if 'A' ≤ c ∧ c ≤ 'Z' then Char.ofNat (c.toNat + 32) else c := by
  have hlower : Char.toLower = fun c : Char =>
      if 'A' ≤ c ∧ c ≤ 'Z' then Char.ofNat (c.toNat + 32) else c := funext Text.toLower_eq_ite
  rw [normalTag, Text.asciiLower, Text.trim, String.toList_ofList, ← hlower, ← String.toList_inj,
    String.toList_ofList]
  constructor
  · intro hkept
    obtain ⟨front, back, hfront, hback, htag, hhead, hlast⟩ :=
      Text.trimChars_eq_iff.mp (rfl (a := Text.trimChars tag.toList))
    exact ⟨front, _, back, hfront, hback, htag, hhead, hlast, hkept.symm⟩
  · rintro ⟨front, core, back, hfront, hback, htag, hhead, hlast, hkept⟩
    rw [hkept, Text.trimChars_eq_iff.mpr ⟨front, back, hfront, hback, htag, hhead, hlast⟩]

/-- What is done with a registry. -/
inductive Use (α : Type) where
  | register (tag : String) (make : Unit → α)
  | get (tag : String)
  | contains (tag : String)
  | tags

/-- What a use is answered. -/
inductive Answer (α : Type) where
  | done
  | found (item : Option α)
  | known (answer : Bool)
  | listed (tags : List String)

/-- The answer to a use, and the registry after it. -/
def use (registry : Registry α) : Use α → Answer α × Registry α
  | .register tag make => (.done, registry.register tag make)
  | .get tag => (.found (registry.get tag).1, (registry.get tag).2)
  | .contains tag => (.known (registry.contains tag), registry)
  | .tags => (.listed registry.tags, registry)

/-- The registry after a history of uses. -/
def afterAll (uses : List (Use α)) : Registry α :=
  uses.foldl (fun registry next => (registry.use next).2) .empty

theorem afterAll_concat (uses : List (Use α)) (next : Use α) :
    afterAll (uses ++ [next]) = ((afterAll uses).use next).2 := by
  rw [afterAll, List.foldl_append]
  rfl

/-- To ask for a tag gives its instance. -/
theorem get_fst (registry : Registry α) (tag : String) :
    (registry.get tag).1 =
      (registry.byTag.find? (normalTag tag)).map fun entry => entry.instance?.getD (entry.make ()) := by
  rw [get]
  split <;> simp_all

/-- To ask for a tag leaves an instance there, and nothing else changes under any tag. -/
theorem find?_get (registry : Registry α) (asked tag : String) :
    (registry.get asked).2.byTag.find? tag =
      if tag = normalTag asked then (registry.byTag.find? tag).map Registration.asked
      else registry.byTag.find? tag := by
  rw [get]
  split <;> split <;> simp_all [Registration.asked, SortedMap.find?_insert]

/-- What is made when a tag is asked for. -/
theorem made_get (registry : Registry α) (tag : String) :
    (registry.get tag).2.made =
      registry.made ++ match registry.byTag.find? (normalTag tag) with
        | some ⟨make, none⟩ => [make ()]
        | _ => [] := by
  rw [get]
  split <;> simp_all

/-! ## Reading a history -/

/-- Whether a use registers something under a tag. -/
def Use.registers (tag : String) : Use α → Bool
  | .register written _ => normalTag written == tag
  | _ => false

/-- Whether a use asks for what is under a tag. -/
def Use.asks (tag : String) : Use α → Bool
  | .get written => normalTag written == tag
  | _ => false

/-- Whether something was registered under a tag. -/
def IsRegistered (uses : List (Use α)) (tag : String) : Prop :=
  ∃ earlier ∈ uses, earlier.registers tag = true

/-- What was registered under a tag at `n` is what stands there: nothing was registered under it since. -/
structure IsLatest (uses : List (Use α)) (tag : String) (n : Nat) (make : Unit → α) : Prop where
  registered : ∃ written, uses[n]? = some (.register written make) ∧ normalTag written = tag
  kept : ∀ later ∈ uses.drop (n + 1), later.registers tag = false

/-- What stands under a tag was not asked for since it stands there. -/
structure IsPending (uses : List (Use α)) (tag : String) (n : Nat) (make : Unit → α) : Prop
    extends IsLatest uses tag n make where
  unasked : ∀ later ∈ uses.drop (n + 1), later.asks tag = false

/-- What was registered at `n` is asked for at `m`, and neither is it asked for in between nor is anything
registered in its place. -/
structure IsFirstAsked (uses : List (Use α)) (n m : Nat) : Prop where
  before : n < m
  tag : ∃ written make asked, uses[n]? = some (.register written make) ∧
    uses[m]? = some (.get asked) ∧ normalTag asked = normalTag written ∧
    ∀ between ∈ (uses.take m).drop (n + 1),
      between.registers (normalTag written) = false ∧ between.asks (normalTag written) = false

/-- Whether an item is made by what was registered at `n`. -/
def IsMadeBy (uses : List (Use α)) (n : Nat) (item : α) : Prop :=
  ∃ written make, uses[n]? = some (.register written make) ∧ item = make ()

/-- What a use is answered after a history. -/
inductive IsAnswered (uses : List (Use α)) : Use α → Answer α → Prop
  | register (tag : String) (make : Unit → α) : IsAnswered uses (.register tag make) .done
  | missing {tag : String} (absent : ¬ IsRegistered uses (normalTag tag)) :
      IsAnswered uses (.get tag) (.found none)
  | found {tag : String} {n : Nat} {make : Unit → α}
      (latest : IsLatest uses (normalTag tag) n make) :
      IsAnswered uses (.get tag) (.found (some (make ())))
  | contains {tag : String} {answer : Bool}
      (known : answer = true ↔ IsRegistered uses (normalTag tag)) :
      IsAnswered uses (.contains tag) (.known answer)
  | tags {tags : List String}
      (ordered : tags.Pairwise fun s t => Text.utf8Bytes s.toList < Text.utf8Bytes t.toList)
      (registered : ∀ tag, tag ∈ tags ↔ IsRegistered uses tag) : IsAnswered uses .tags (.listed tags)

/-! ## One more use -/

section

variable {uses : List (Use α)} {next : Use α} {tag : String} {n m : Nat} {make make' : Unit → α}

theorem IsLatest.lt_length (h : IsLatest uses tag n make) : n < uses.length := by
  obtain ⟨written, hregister, -⟩ := h.registered
  exact (List.getElem?_eq_some_iff.mp hregister).1

theorem IsLatest.isRegistered (h : IsLatest uses tag n make) : IsRegistered uses tag := by
  obtain ⟨written, hregister, htag⟩ := h.registered
  exact ⟨_, List.mem_of_getElem? hregister, beq_iff_eq.mpr htag⟩

theorem isRegistered_concat_iff :
    IsRegistered (uses ++ [next]) tag ↔ IsRegistered uses tag ∨ next.registers tag = true := by
  simp [IsRegistered, or_and_right, exists_or]

/-- What stands under a tag stays until something is registered in its place. -/
theorem IsLatest.concat (h : IsLatest uses tag n make) (hnext : next.registers tag = false) :
    IsLatest (uses ++ [next]) tag n make := by
  obtain ⟨written, hregister, htag⟩ := h.registered
  refine ⟨⟨written, ?_, htag⟩, ?_⟩
  · rw [List.getElem?_append_left h.lt_length, hregister]
  · rw [List.drop_append_of_le_length h.lt_length]
    exact List.forall_mem_append.mpr ⟨h.kept, List.forall_mem_singleton.mpr hnext⟩

theorem isLatest_register (written : String) (make : Unit → α) :
    IsLatest (uses ++ [.register written make]) (normalTag written) uses.length make := by
  refine ⟨⟨written, List.getElem?_concat_length .., rfl⟩, ?_⟩
  rw [List.drop_of_length_le (by simp)]
  exact List.forall_mem_nil _

/-- Nothing else stands under a tag. -/
theorem IsLatest.le (h : IsLatest uses tag n make) (h' : IsLatest uses tag m make') : m ≤ n := by
  refine Nat.le_of_not_lt fun hlt => ?_
  obtain ⟨written, hregister, htag⟩ := h'.registered
  have hlater : Use.register written make' ∈ uses.drop (n + 1) := by
    refine List.mem_of_getElem? (i := m - (n + 1)) ?_
    rw [List.getElem?_drop, Nat.add_sub_cancel' hlt, hregister]
  have hother := h.kept _ hlater
  rw [Use.registers, htag, beq_self_eq_true] at hother
  exact nomatch hother

theorem IsLatest.eq (h : IsLatest uses tag n make) (h' : IsLatest uses tag m make') : n = m :=
  Nat.le_antisymm (h'.le h) (h.le h')

theorem IsFirstAsked.lt_length (h : IsFirstAsked uses n m) : m < uses.length := by
  obtain ⟨written, make, asked, -, hask, -⟩ := h.tag
  exact (List.getElem?_eq_some_iff.mp hask).1

/-- The first time that something is asked for stays the first one. -/
theorem IsFirstAsked.concat (h : IsFirstAsked uses n m) : IsFirstAsked (uses ++ [next]) n m := by
  have hm := h.lt_length
  obtain ⟨hbefore, written, make, asked, hregister, hask, htag, hbetween⟩ := h
  refine ⟨hbefore, written, make, asked, ?_, ?_, htag, ?_⟩
  · rw [List.getElem?_append_left (hbefore.trans hm), hregister]
  · rw [List.getElem?_append_left hm, hask]
  · rwa [List.take_append_of_le_length hm.le]

/-- To ask for what is pending is to ask for it a first time. -/
theorem IsPending.isFirstAsked {asked : String} (h : IsPending uses (normalTag asked) n make) :
    IsFirstAsked (uses ++ [.get asked]) n uses.length := by
  have hn := h.lt_length
  obtain ⟨written, hregister, htag⟩ := h.registered
  refine ⟨hn, written, make, asked, ?_, List.getElem?_concat_length .., htag.symm, ?_⟩
  · rw [List.getElem?_append_left hn, hregister]
  · rw [List.take_append_length, htag]
    exact fun later hlater => ⟨h.kept later hlater, h.unasked later hlater⟩

/-- One more use asks for something a first time in no other way. -/
theorem IsFirstAsked.of_concat (h : IsFirstAsked (uses ++ [next]) n m) :
    IsFirstAsked uses n m ∨
      m = uses.length ∧ ∃ asked make, next = .get asked ∧ IsPending uses (normalTag asked) n make := by
  have hm : m < uses.length + 1 := by
    have hlength := h.lt_length
    rwa [List.length_append, List.length_singleton] at hlength
  obtain ⟨hbefore, written, make, asked, hregister, hask, htag, hbetween⟩ := h
  rw [List.getElem?_append_left (Nat.lt_of_lt_of_le hbefore (Nat.le_of_lt_succ hm))] at hregister
  rw [List.take_append_of_le_length (Nat.le_of_lt_succ hm)] at hbetween
  rcases Nat.lt_succ_iff_lt_or_eq.mp hm with hlt | rfl
  · rw [List.getElem?_append_left hlt] at hask
    exact .inl ⟨hbefore, written, make, asked, hregister, hask, htag, hbetween⟩
  · rw [List.getElem?_concat_length] at hask
    rw [List.take_length, ← htag] at hbetween
    have hlatest : IsLatest uses (normalTag asked) n make :=
      ⟨⟨written, hregister, htag.symm⟩, fun later hlater => (hbetween later hlater).1⟩
    exact .inr ⟨rfl, asked, make, Option.some.inj hask,
      hlatest, fun later hlater => (hbetween later hlater).2⟩

theorem isFirstAsked_concat_iff :
    IsFirstAsked (uses ++ [next]) n m ↔ IsFirstAsked uses n m ∨
      m = uses.length ∧ ∃ asked make, next = .get asked ∧ IsPending uses (normalTag asked) n make := by
  refine ⟨IsFirstAsked.of_concat, ?_⟩
  rintro (h | ⟨rfl, asked, make, rfl, hpending⟩)
  · exact h.concat
  · exact hpending.isFirstAsked

theorem IsMadeBy.concat {item : α} (h : IsMadeBy uses n item) : IsMadeBy (uses ++ [next]) n item := by
  obtain ⟨written, make, hregister, hitem⟩ := h
  have hn := (List.getElem?_eq_some_iff.mp hregister).1
  exact ⟨written, make, (List.getElem?_append_left hn).trans hregister, hitem⟩

/-- What was registered is asked for a first time at most once. -/
theorem IsFirstAsked.eq {m' : Nat} (h : IsFirstAsked uses n m) (h' : IsFirstAsked uses n m') :
    m = m' := by
  -- Of two first times the later one has the earlier one in between.
  have hle {m m' : Nat} (h : IsFirstAsked uses n m) (h' : IsFirstAsked uses n m') : m ≤ m' := by
    refine Nat.le_of_not_lt fun hlt => ?_
    obtain ⟨hbefore, written, make, asked, hregister, -, -, hbetween⟩ := h
    obtain ⟨hbefore', written', make', asked', hregister', hask', htag', -⟩ := h'
    have hsame := hregister.symm.trans hregister'
    obtain ⟨rfl, rfl⟩ : written = written' ∧ make = make' := by simpa using hsame
    have hmem : Use.get asked' ∈ (uses.take m).drop (n + 1) := by
      refine List.mem_of_getElem? (i := m' - (n + 1)) ?_
      rw [List.getElem?_drop, Nat.add_sub_cancel' hbefore', List.getElem?_take_of_lt hlt, hask']
    have hother := (hbetween _ hmem).2
    rw [Use.asks, htag', beq_self_eq_true] at hother
    exact nomatch hother
  exact Nat.le_antisymm (hle h h') (hle h' h)

end

/-! ## What stands under a tag -/

/-- What a history leaves under a tag: nothing, or what was registered there last, made if it was asked for
since. -/
inductive Stands (uses : List (Use α)) (tag : String) : Option (Registration α) → Prop
  | absent (h : ¬ IsRegistered uses tag) : Stands uses tag none
  | unmade {n : Nat} {make : Unit → α} (pending : IsPending uses tag n make) :
      Stands uses tag (some ⟨make, none⟩)
  | made {n : Nat} {make : Unit → α} (latest : IsLatest uses tag n make)
      (asked : ∃ later ∈ uses.drop (n + 1), later.asks tag = true) :
      Stands uses tag (some ⟨make, some (make ())⟩)

section

variable {uses : List (Use α)} {next : Use α} {tag : String} {held? : Option (Registration α)}

theorem not_isRegistered_concat (h : ¬ IsRegistered uses tag) (hnext : next.registers tag = false) :
    ¬ IsRegistered (uses ++ [next]) tag := by
  rw [isRegistered_concat_iff, hnext]
  exact fun hother => hother.elim h nofun

/-- What stands under a tag is left alone by what neither registers nor asks for anything there. -/
theorem Stands.concat (h : Stands uses tag held?) (hregisters : next.registers tag = false)
    (hasks : next.asks tag = false) : Stands (uses ++ [next]) tag held? := by
  cases h with
  | absent habsent => exact .absent (not_isRegistered_concat habsent hregisters)
  | unmade hpending =>
      refine .unmade ⟨hpending.concat hregisters, ?_⟩
      rw [List.drop_append_of_le_length hpending.lt_length]
      exact List.forall_mem_append.mpr ⟨hpending.unasked, List.forall_mem_singleton.mpr hasks⟩
  | made hlatest hasked =>
      refine .made (hlatest.concat hregisters) ?_
      obtain ⟨later, hlater, hlaterAsks⟩ := hasked
      rw [List.drop_append_of_le_length hlatest.lt_length]
      exact ⟨later, List.mem_append_left _ hlater, hlaterAsks⟩

theorem stands_register (uses : List (Use α)) (written : String) (make : Unit → α) :
    Stands (uses ++ [.register written make]) (normalTag written) (some ⟨make, none⟩) := by
  refine .unmade ⟨isLatest_register written make, ?_⟩
  rw [List.drop_of_length_le (by simp)]
  exact List.forall_mem_nil _

/-- What stands under a tag is made once it was asked for. -/
theorem IsLatest.stands_get {n : Nat} {make : Unit → α} {asked : String}
    (h : IsLatest uses (normalTag asked) n make) :
    Stands (uses ++ [.get asked]) (normalTag asked) (some ⟨make, some (make ())⟩) := by
  refine .made (h.concat rfl) ⟨.get asked, ?_, beq_self_eq_true _⟩
  rw [List.drop_append_of_le_length h.lt_length]
  exact List.mem_append_right _ List.mem_cons_self

theorem Stands.get {asked : String} (h : Stands uses (normalTag asked) held?) :
    Stands (uses ++ [.get asked]) (normalTag asked) (held?.map Registration.asked) := by
  cases h with
  | absent habsent => exact .absent (not_isRegistered_concat habsent rfl)
  | unmade hpending => exact hpending.toIsLatest.stands_get
  | made hlatest _ => exact hlatest.stands_get

/-- What stands under a tag can be told from the history. -/
theorem stands_afterAll (uses : List (Use α)) (tag : String) :
    Stands uses tag ((afterAll uses).byTag.find? tag) := by
  induction uses using List.reverseRecOn with
  | nil => exact .absent fun ⟨_, hmem, _⟩ => absurd hmem List.not_mem_nil
  | append_singleton uses next ih =>
      rw [afterAll_concat]
      cases next with
      | register written make =>
          rw [use, register, SortedMap.find?_insert]
          split
          · next htag => exact htag ▸ stands_register uses written make
          · next htag => exact ih.concat (beq_eq_false_iff_ne.mpr (Ne.symm htag)) rfl
      | get asked =>
          rw [use, find?_get]
          split
          · next htag =>
              subst htag
              exact ih.get
          · next htag => exact ih.concat rfl (beq_eq_false_iff_ne.mpr (Ne.symm htag))
      | contains written => exact ih.concat rfl rfl
      | tags => exact ih.concat rfl rfl

theorem Stands.isSome_iff (h : Stands uses tag held?) :
    held?.isSome = true ↔ IsRegistered uses tag := by
  cases h with
  | absent habsent => exact iff_of_false nofun habsent
  | unmade hpending => exact iff_of_true rfl hpending.isRegistered
  | made hlatest _ => exact iff_of_true rfl hlatest.isRegistered

theorem sorted_byTag_afterAll (uses : List (Use α)) : (afterAll uses).byTag.Sorted := by
  induction uses using List.reverseRecOn with
  | nil => exact List.Pairwise.nil
  | append_singleton uses next ih =>
      rw [afterAll_concat]
      cases next with
      | register written make => exact ih.insert _ _
      | get asked =>
          rw [use, get]
          split
          · exact ih
          · exact ih
          · exact ih.insert _ _
      | contains written => exact ih
      | tags => exact ih

/-- What a use is answered is a matter of what was done before it. -/
theorem isAnswered_use (uses : List (Use α)) (next : Use α) :
    IsAnswered uses next ((afterAll uses).use next).1 := by
  cases next with
  | register written make => exact .register written make
  | get asked =>
      have hstands := stands_afterAll uses (normalTag asked)
      rw [use, get_fst]
      generalize (afterAll uses).byTag.find? (normalTag asked) = held? at hstands ⊢
      cases hstands with
      | absent habsent => exact .missing habsent
      | unmade hpending => exact .found hpending.toIsLatest
      | made hlatest _ => exact .found hlatest
  | contains written => exact .contains (stands_afterAll uses (normalTag written)).isSome_iff
  | tags =>
      refine .tags ?_ fun tag => SortedMap.mem_keys_iff.trans (stands_afterAll uses tag).isSome_iff
      have hkeys : (afterAll uses).byTag.keys.Pairwise (· < ·) :=
        List.pairwise_map.mpr (sorted_byTag_afterAll uses)
      exact hkeys.imp fun hlt => Text.utf8Bytes_lt hlt

/-! ## What is made -/

/-- One more use makes what it asks for if that is pending, and nothing otherwise. -/
theorem made_afterAll_concat (uses : List (Use α)) (next : Use α) :
    (∃ asked n make, next = .get asked ∧ IsPending uses (normalTag asked) n make ∧
      (afterAll (uses ++ [next])).made = (afterAll uses).made ++ [make ()]) ∨
    (∀ asked n make, next = .get asked → ¬ IsPending uses (normalTag asked) n make) ∧
      (afterAll (uses ++ [next])).made = (afterAll uses).made := by
  rw [afterAll_concat]
  cases next with
  | register written make => exact .inr ⟨nofun, rfl⟩
  | contains written => exact .inr ⟨nofun, rfl⟩
  | tags => exact .inr ⟨nofun, rfl⟩
  | get asked =>
      have hstands := stands_afterAll uses (normalTag asked)
      rw [use, made_get]
      generalize (afterAll uses).byTag.find? (normalTag asked) = held? at hstands ⊢
      cases hstands with
      | unmade hpending => exact .inl ⟨asked, _, _, rfl, hpending, rfl⟩
      | absent habsent =>
          refine .inr ⟨?_, List.append_nil _⟩
          rintro _ n make ⟨⟩ hpending
          exact habsent hpending.isRegistered
      | made hlatest hasked =>
          refine .inr ⟨?_, List.append_nil _⟩
          rintro _ n make ⟨⟩ hpending
          obtain ⟨later, hlater, hasks⟩ := hasked
          rw [hlatest.eq hpending.toIsLatest] at hlater
          exact absurd hasks (Bool.eq_false_iff.mp (hpending.unasked later hlater))

end

/-- The registrations that are made in a history, each with the use at which it is first asked for. Before
every use those are made which were first asked for earlier, and nothing else. -/
structure AreMade (uses : List (Use α)) (runs : List (Nat × Nat)) : Prop where
  mem_iff : ∀ n m, (n, m) ∈ runs ↔ IsFirstAsked uses n m
  ordered : runs.Pairwise fun earlier later => earlier.2 < later.2
  made : ∀ k, List.Forall₂ (fun run item => IsMadeBy uses run.1 item)
    (runs.filter fun run => run.2 < k) (afterAll (uses.take k)).made

section

variable {uses : List (Use α)} {next : Use α} {runs new : List (Nat × Nat)} {items : List α}

theorem AreMade.lt_length (h : AreMade uses runs) : ∀ run ∈ runs, run.2 < uses.length :=
  fun run hrun => ((h.mem_iff run.1 run.2).mp hrun).lt_length

/-- All runs together make all that is made. -/
theorem AreMade.made_all (h : AreMade uses runs) :
    List.Forall₂ (fun run item => IsMadeBy uses run.1 item) runs (afterAll uses).made := by
  have hmade := h.made uses.length
  rwa [List.filter_eq_self.mpr fun run hrun => decide_eq_true (h.lt_length run hrun),
    List.take_length] at hmade

/-- One more use adds the runs of what is pending under the tag that it asks for. -/
theorem AreMade.concat (h : AreMade uses runs)
    (hnew : ∀ n m, (n, m) ∈ new ↔ m = uses.length ∧
      ∃ asked make, next = .get asked ∧ IsPending uses (normalTag asked) n make)
    (hordered : new.Pairwise fun earlier later => earlier.2 < later.2)
    (hitems : List.Forall₂ (fun run item => IsMadeBy uses run.1 item) new items)
    (hmade : (afterAll (uses ++ [next])).made = (afterAll uses).made ++ items) :
    AreMade (uses ++ [next]) (runs ++ new) := by
  have hlast (run : Nat × Nat) (hrun : run ∈ new) : run.2 = uses.length :=
    ((hnew run.1 run.2).mp hrun).1
  refine ⟨fun n m => ?_, List.pairwise_append.mpr ⟨h.ordered, hordered, ?_⟩, fun k => ?_⟩
  · rw [List.mem_append, h.mem_iff, hnew, isFirstAsked_concat_iff]
  · intro earlier hearlier later hlater
    rw [hlast later hlater]
    exact h.lt_length earlier hearlier
  rcases Nat.lt_or_ge uses.length k with hk | hk
  · have hall : (runs ++ new).filter (fun run => run.2 < k) = runs ++ new :=
      List.filter_eq_self.mpr fun run hrun => decide_eq_true <|
        (List.mem_append.mp hrun).elim (fun hrun => (h.lt_length run hrun).trans hk)
          fun hrun => (hlast run hrun).trans_lt hk
    have hlength : (uses ++ [next]).length ≤ k := by
      rw [List.length_append]
      exact hk
    rw [hall, List.take_of_length_le hlength, hmade]
    exact List.rel_append (h.made_all.imp fun _ _ hmadeBy => hmadeBy.concat)
      (hitems.imp fun _ _ hmadeBy => hmadeBy.concat)
  · -- Nothing new is made before the last use.
    have hnone : new.filter (fun run => run.2 < k) = [] :=
      List.filter_eq_nil_iff.mpr fun run hrun => by
        rw [hlast run hrun, decide_eq_true_iff]
        exact hk.not_gt
    rw [List.filter_append, hnone, List.append_nil, List.take_append_of_le_length hk]
    exact (h.made k).imp fun _ _ hmadeBy => hmadeBy.concat

/-- What is made can be told from the history, too. -/
theorem exists_areMade (uses : List (Use α)) : ∃ runs, AreMade uses runs := by
  induction uses using List.reverseRecOn with
  | nil =>
      refine ⟨[], fun n m => iff_of_false List.not_mem_nil fun h => ?_, .nil, fun k => ?_⟩
      · exact absurd h.lt_length (Nat.not_lt_zero m)
      · rw [List.take_nil]
        exact .nil
  | append_singleton uses next ih =>
      obtain ⟨runs, hruns⟩ := ih
      rcases made_afterAll_concat uses next with ⟨asked, n, make, rfl, hpending, hmade⟩ | ⟨hnone, hmade⟩
      · refine ⟨runs ++ [(n, uses.length)], hruns.concat (fun n' m' => ?_) (List.pairwise_singleton ..)
          (.cons ?_ .nil) hmade⟩
        · rw [List.mem_singleton, Prod.mk.injEq, and_comm]
          refine and_congr_right fun _ => ⟨?_, ?_⟩
          · rintro rfl
            exact ⟨asked, make, rfl, hpending⟩
          · rintro ⟨_, make', ⟨⟩, hpending'⟩
            exact hpending'.toIsLatest.eq hpending.toIsLatest
        · obtain ⟨written, hregister, -⟩ := hpending.registered
          exact ⟨written, make, hregister, rfl⟩
      · refine ⟨runs ++ [], hruns.concat (fun n m => iff_of_false List.not_mem_nil ?_) .nil .nil ?_⟩
        · rintro ⟨-, asked, make, hasks, hpending⟩
          exact hnone asked n make hasks hpending
        · rw [hmade, List.append_nil]

/-- No registration is made twice. -/
theorem AreMade.nodup (h : AreMade uses runs) : (runs.map Prod.fst).Nodup := by
  refine List.pairwise_map.mpr (h.ordered.imp_of_mem fun {run run'} hrun hrun' hlt heq => ?_)
  have hfirst := (h.mem_iff run.1 run.2).mp hrun
  rw [heq] at hfirst
  exact hlt.ne (hfirst.eq ((h.mem_iff run'.1 run'.2).mp hrun'))

end

/-- Every use is answered by what was done before it. Those registrations are made, once each and when they
are first asked for, which are asked for before something else is registered in their place. -/
theorem instances_made_once (uses : List (Use α)) :
    (∀ next, IsAnswered uses next ((afterAll uses).use next).1) ∧
      ∃ runs, AreMade uses runs ∧ (runs.map Prod.fst).Nodup := by
  obtain ⟨runs, hruns⟩ := exists_areMade uses
  exact ⟨isAnswered_use uses, runs, hruns, hruns.nodup⟩

/-- Of three registrations under one tag, written with other letters and blanks each time, the two that are
asked for are made, and the last one is not before it is asked for. -/
theorem instances_made_once_padded :
    let uses : List (Use Nat) := [.register " Card\t" fun _ => 1, .get "CARD", .register "\ncard" fun _ => 2,
      .get "card ", .get " cArd", .register "CARD" fun _ => 3, .contains "Card"]
    (afterAll uses).made = [1, 2] ∧
      IsAnswered uses (.get "\tcARD ") (.found (some 3)) ∧
      IsAnswered uses (.get "ca rd") (.found none) ∧
      IsAnswered uses (.contains "CARD ") (.known true) ∧
      IsAnswered uses .tags (.listed ["card"]) ∧
      ∃ runs, AreMade uses runs ∧ (runs.map Prod.fst).Nodup := by
  intro uses
  obtain ⟨hanswered, hruns⟩ := instances_made_once uses
  have hmade : (afterAll uses).made = [1, 2] := by decide +kernel
  have hget : ((afterAll uses).get "\tcARD ").1 = some 3 := by decide +kernel
  have hother : ((afterAll uses).get "ca rd").1 = none := by decide +kernel
  have hcontains : (afterAll uses).contains "CARD " = true := by decide +kernel
  have htags : (afterAll uses).tags = ["card"] := by decide +kernel
  refine ⟨hmade, ?_, ?_, ?_, ?_, hruns⟩
  · rw [← hget]
    exact hanswered (.get "\tcARD ")
  · rw [← hother]
    exact hanswered (.get "ca rd")
  · rw [← hcontains]
    exact hanswered (.contains "CARD ")
  · rw [← htags]
    exact hanswered .tags

end Registry

end DynamicContent
