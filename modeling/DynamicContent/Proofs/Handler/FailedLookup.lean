/-
# Options that are remembered

An option is looked up in the cache first. What the cache has of it was written when the site was asked
last, and whatever else happens to the cache can only take that away. So the value of an option is what
the site has, or what it had when it was asked last.

A lookup that fails is taken for one that found nothing before its result is handed to the cache. So it is
written too, and until its lifetime has passed the option is empty, also when the site could be asked
again. Queries for posts make the opposite choice; they are remembered only if the site answered.
-/

import DynamicContent.Engine.Setup
import DynamicContent.Handler.Builtin
import DynamicContent.Proofs.Cache.Carried
import DynamicContent.Proofs.Engine.Setup

namespace DynamicContent

open Cache (Call CacheState Store siteCache storedKey)
open Handler (lookupGroup lookupKey textOnly)

/-- Somebody who has an option looked up at some time: the engine as it is then, which reads the site as
far as it can be reached then, and remembers what it finds in the cache of the site. -/
structure OptionLookup (start : String) where
  engine : Engine
  inner : Nested
  request : Request
  directive : String
  now : Int
  handled : engine.handler? directive = some Handler.optionValue
  cached : engine.host.cache = siteCache start now
  remembers : engine.host.limits.lookupLifetime ≠ 0
  clock : Number.int64Min ≤ now

namespace OptionLookup

variable {start param : String} {w : World}

/-- The text that the site has for the option. A lookup that fails finds none. -/
def found (l : OptionLookup start) (param : String) : Option String :=
  textOnly (Site.found (l.engine.host.site.option? (Text.trim param)))

/-- The value of the directive without a cache. -/
def afresh (l : OptionLookup start) (param : String) : String :=
  Engine.clean .text ((l.found param).getD "")

/-- The value of the directive. -/
def answer (l : OptionLookup start) (param : String) : RenderM String :=
  l.engine.answer l.inner l.request l.directive param

/-- The key of the option in the cache. -/
def key (param : String) : String := lookupKey "option" (Text.trim param)

/-- What is remembered of the option, given the entries. -/
def kept? (l : OptionLookup start) (param : String) (store : Store) : Option (Option String) :=
  (siteCache start l.now).remembered? (Json.nullOr? Json.string?) (key param) lookupGroup store

/-- To read what is remembered of the option. -/
def lookUp (l : OptionLookup start) (param : String) : Cache.CacheM Store (Option (Option String)) :=
  (siteCache start l.now).get (Json.nullOr? Json.string?) (key param) lookupGroup

/-- To write what the site has for the option. -/
def keep (l : OptionLookup start) (param : String) : Cache.CacheM Store Bool :=
  (siteCache start l.now).set (key param) (some (Json.ofOptionString (l.found param)))
    l.engine.host.limits.lookupLifetime lookupGroup

/-- The engine with nothing remembered of options and constants. -/
def uncached (l : OptionLookup start) : Engine :=
  { l.engine with
    host := { l.engine.host with limits := { l.engine.host.limits with lookupLifetime := 0 } } }

/-- Without a cache the site is asked each time, and nothing is changed. -/
theorem uncached_answer (l : OptionLookup start) (hname : Text.trim param ≠ "") (w : World) :
    l.uncached.answer l.inner l.request l.directive param w = (l.afresh param, w) := by
  have hempty : (Text.trim param).isEmpty = false := by simpa using hname
  have hhandler : l.uncached.handler? l.directive = some Handler.optionValue := l.handled
  rw [Engine.answer, hhandler]
  dsimp only [Handler.optionValue, Handler.remembered, Engine.scope, uncached]
  rw [hempty, if_neg Bool.false_ne_true, if_pos rfl]
  rfl

/-- An option is the answer of the cache or, where that has none, of the site. -/
theorem answer_eq (l : OptionLookup start) (hname : Text.trim param ≠ "") (w : World) :
    l.answer param w =
      match l.lookUp param w.cache with
      | (some kept, t) => (Engine.clean .text (kept.getD ""), { w with cache := t })
      | (none, t) => (l.afresh param, { w with cache := (l.keep param t).2 }) := by
  have hempty : (Text.trim param).isEmpty = false := by simpa using hname
  rw [answer, Engine.answer, l.handled]
  dsimp only [Handler.optionValue, Handler.remembered, Engine.scope]
  rw [hempty, if_neg Bool.false_ne_true, if_neg l.remembers, l.cached]
  have hrun := (siteCache start l.now).remember_pure_eq
    (Json.nullOr? Json.string?) (fun value => some (Json.ofOptionString value)) (key param)
    l.engine.host.limits.lookupLifetime lookupGroup (l.found param) w.cache
  rw [← lookUp] at hrun
  have hlift {β : Type} (action : Cache.CacheM Store β) (f : β → String) :
      ((liftM action : RenderM β) >>= fun value => pure (f value)) w =
        (f (action w.cache).1, { w with cache := (action w.cache).2 }) := rfl
  rw [bind_assoc]
  refine (hlift _ fun value : Option String => Engine.clean .text (value.getD "")).trans ?_
  refine (congrArg (fun r : Option String × CacheState Store =>
    (Engine.clean .text (r.1.getD ""), { w with cache := r.2 })) hrun).trans ?_
  cases l.lookUp param w.cache with
  | mk kept t => cases kept <;> rfl

/-! ## One lookup -/

/-- The stored key of the option. -/
def stored (start param : String) : String := storedKey start lookupGroup (key param)

/-- Only the form of a text, or of none, is read as one. -/
theorem eq_ofOptionString {v : Json} {kept : Option String}
    (h : Json.nullOr? Json.string? v = some kept) : v = Json.ofOptionString kept := by
  cases v with
  | null =>
      obtain rfl := Option.some.inj h
      rfl
  | string text =>
      obtain rfl := Option.some.inj h
      rfl
  | _ => contradiction

theorem decode_ofOptionString (found : Option String) :
    Json.nullOr? Json.string? (Json.ofOptionString found) = some found := by
  cases found <;> rfl

theorem ofOptionString_inj {found found' : Option String}
    (h : Json.ofOptionString found = Json.ofOptionString found') : found = found' := by
  have hdecoded := congrArg (Json.nullOr? Json.string?) h
  rw [decode_ofOptionString, decode_ofOptionString] at hdecoded
  exact Option.some.inj hdecoded

theorem isExact_ofOptionString (found : Option String) :
    (Json.ofOptionString found).IsExact ∧
      (Json.ofOptionString found).depth + 1 < Json.depthLimit := by
  cases found <;> exact ⟨trivial, show 0 + 1 < Json.depthLimit by decide⟩

/-- What is remembered is the answer, and all there is to it is a read. -/
theorem answer_of_kept (l : OptionLookup start) (hname : Text.trim param ≠ "")
    {kept : Option String} (hkept : l.kept? param w.cache.store = some kept) :
    ∃ counters, l.answer param w = (Engine.clean .text (kept.getD ""), { w with cache := { w.cache with
      store := ((Store.backend l.now).get (stored start param) w.cache.store).2, counters } }) := by
  obtain ⟨counters, hget⟩ := (siteCache start l.now).get_eq (Json.nullOr? Json.string?) (key param)
    lookupGroup w.cache
  rw [← lookUp, ← kept?, hkept] at hget
  rw [answer_eq l hname, hget]
  exact ⟨counters, rfl⟩

/-- Where nothing is remembered the site is asked, and what it has is written behind the read. -/
theorem answer_of_not_kept (l : OptionLookup start) (hname : Text.trim param ≠ "")
    (hkept : l.kept? param w.cache.store = none) :
    ∃ counters took, l.answer param w = (l.afresh param, { w with cache := {
      store := ((Store.backend l.now).set (stored start param) (Json.ofOptionString (l.found param))
        l.engine.host.limits.lookupLifetime
        ((Store.backend l.now).get (stored start param) w.cache.store).2).2
      counters
      events := w.cache.events ++
        [.written (key param) lookupGroup l.engine.host.limits.lookupLifetime took] } }) := by
  obtain ⟨counters, hget⟩ := (siteCache start l.now).get_eq (Json.nullOr? Json.string?) (key param)
    lookupGroup w.cache
  rw [← lookUp, ← kept?, hkept] at hget
  rw [answer_eq l hname, hget]
  obtain ⟨counters', hset⟩ := (siteCache start l.now).set_some_eq (key param)
    (Json.ofOptionString (l.found param)) l.engine.host.limits.lookupLifetime lookupGroup
    { w.cache with
      store := ((siteCache start l.now).backend.get
        (storedKey (siteCache start l.now).start lookupGroup (key param)) w.cache.store).2
      counters }
  dsimp only
  rw [keep, hset]
  exact ⟨counters', _, rfl⟩

/-- What is remembered is told by what the place gives for the stored key. -/
theorem kept?_eq_some_iff {l : OptionLookup start} {store : Store} {kept : Option String} :
    l.kept? param store = some kept ↔
      ((Store.backend l.now).get (stored start param) store).1 =
        .ok (some (Json.ofOptionString kept)) := by
  have hread : (siteCache start l.now).backend.get
      (storedKey (siteCache start l.now).start lookupGroup (key param)) store =
        (Store.backend l.now).get (stored start param) store := rfl
  rw [kept?, Cache.Cache.remembered?, hread]
  constructor
  · intro h
    split at h
    · next v hv => rw [hv, eq_ofOptionString h]
    · contradiction
  · intro h
    rw [h]
    exact decode_ofOptionString kept

/-- What is remembered is carried under the key. -/
theorem carries_of_kept {l : OptionLookup start} {kept : Option String}
    (hkept : l.kept? param w.cache.store = some kept) :
    w.cache.store.Carries (stored start param) (Json.ofOptionString kept) := by
  rw [kept?_eq_some_iff] at hkept
  rcases Store.get_outcome l.now (stored start param) w.cache.store with
    ⟨value, hread, hcarried⟩ | ⟨hnone, -⟩
  · obtain rfl := Option.some.inj (Except.ok.inj (hread.symm.trans hkept))
    exact hcarried
  · exact absurd hkept (hnone _)

/-- After a lookup that asked the site, only what the site had is carried under the key. -/
theorem eq_found_of_carries (l : OptionLookup start) (hname : Text.trim param ≠ "")
    (hkept : l.kept? param w.cache.store = none)
    (hforms : ∀ value, w.cache.store.Carries (stored start param) value →
      ∃ found, value = Json.ofOptionString found) {value : Json}
    (h : (l.answer param w).2.cache.store.Carries (stored start param) value) :
    value = Json.ofOptionString (l.found param) := by
  obtain ⟨counters, took, hanswer⟩ := l.answer_of_not_kept hname hkept
  rw [hanswer] at h
  obtain ⟨hexact, hdeep⟩ := isExact_ofOptionString (l.found param)
  rcases Store.carries_of_set (fun _ => ⟨hexact, hdeep, l.clock⟩) h with hbefore | ⟨-, hvalue⟩
  · -- What was carried before would have been read, and so remembered.
    rcases Store.get_outcome l.now (stored start param) w.cache.store with
      ⟨v, hread, hcarried⟩ | ⟨-, hgone⟩
    · obtain ⟨found, rfl⟩ := hforms v hcarried
      exact absurd ((kept?_eq_some_iff.mpr hread).symm.trans hkept) (by simp)
    · exact absurd hbefore (hgone value)
  · exact hvalue

/-- What a lookup that asked the site found is remembered until its lifetime has passed, if the place can
hold it. -/
theorem kept?_answer (l later : OptionLookup start) (hname : Text.trim param ≠ "")
    (hkept : l.kept? param w.cache.store = none)
    (hhold : (l.answer param w).2.cache.store.CanHold l.now l.engine.host.limits.lookupLifetime
      (stored start param))
    (hlater : later.now < Cache.FileStore.expiry l.now l.engine.host.limits.lookupLifetime) :
    later.kept? param (l.answer param w).2.cache.store = some (l.found param) := by
  obtain ⟨counters, took, hanswer⟩ := l.answer_of_not_kept hname hkept
  rw [hanswer] at hhold ⊢
  obtain ⟨hexact, hdeep⟩ := isExact_ofOptionString (l.found param)
  exact kept?_eq_some_iff.mpr (Store.get_of_set_before hexact hdeep hlater hhold)

/-- A lookup that fails finds nothing. -/
theorem found_of_unreachable {l : OptionLookup start}
    (h : l.engine.host.site.unreachable = true) (param : String) : l.found param = none := by
  rw [found, Site.option?, Site.answer, h]
  rfl

/-! ## All lookups -/

/-- What has happened to the cache of a site since it had nothing under the key of an option: lookups
of the option, operations on other entries, and whatever leaves the entries alone. The list is of
those lookups that asked the site, the last one first. -/
inductive History (start param : String) : List (OptionLookup start) → World → Prop
  | fresh {w : World} (none_carried : ∀ value, ¬ w.cache.store.Carries (stored start param) value) :
      History start param [] w
  | recalled {asked : List (OptionLookup start)} {w : World} (past : History start param asked w)
      (l : OptionLookup start) {kept : Option String}
      (kept_some : l.kept? param w.cache.store = some kept) :
      History start param asked (l.answer param w).2
  | asked {asked : List (OptionLookup start)} {w : World} (past : History start param asked w)
      (l : OptionLookup start) (kept_none : l.kept? param w.cache.store = none) :
      History start param (l :: asked) (l.answer param w).2
  | call {asked : List (OptionLookup start)} {w : World} {α : Type}
      (past : History start param asked w) (now : Int) (call : Call α)
      (spares : ∀ entry ∈ call.writes?, storedKey start entry.2 entry.1 ≠ stored start param) :
      History start param asked { w with cache := (call.run (siteCache start now) w.cache).2 }
  | elsewhere {asked : List (OptionLookup start)} {w w' : World}
      (past : History start param asked w) (same : w'.cache.store = w.cache.store) :
      History start param asked w'

/-- Under the key of an option there is at most what the last lookup found that asked the site. -/
theorem History.carries (hname : Text.trim param ≠ "") {asked : List (OptionLookup start)}
    (h : History start param asked w) {value : Json}
    (hcarried : w.cache.store.Carries (stored start param) value) :
    ∃ last ∈ asked.head?, value = Json.ofOptionString (last.found param) := by
  induction h generalizing value with
  | fresh none_carried => exact absurd hcarried (none_carried value)
  | recalled past l kept_some ih =>
      obtain ⟨counters, hanswer⟩ := l.answer_of_kept hname kept_some
      rw [hanswer] at hcarried
      exact ih (Store.carries_of_get hcarried)
  | asked past l kept_none ih =>
      refine ⟨l, rfl, l.eq_found_of_carries hname kept_none (fun value hbefore => ?_) hcarried⟩
      obtain ⟨last, -, hvalue⟩ := ih hbefore
      exact ⟨_, hvalue⟩
  | call past now call spares ih => exact ih (Cache.carries_of_run call spares hcarried)
  | elsewhere past same ih => exact ih (same ▸ hcarried)

/-- Whatever has happened, an option that is looked up is what the site has, as without a cache, or it is
what the site had when it was asked last; so it is right unless that has changed. A lookup that fails is
such a question too. It gives the empty text, and it writes that there is none: while the place holds
this, the option is empty for everybody, whatever the site has by then. -/
theorem failed_lookup_remembered (hname : Text.trim param ≠ "") {asked : List (OptionLookup start)}
    (history : History start param asked w) (l : OptionLookup start) :
    l.uncached.answer l.inner l.request l.directive param w = (l.afresh param, w) ∧
      (l.kept? param w.cache.store = none →
        (l.answer param w).1 = l.afresh param ∧
          ∃ took, (l.answer param w).2.cache.events = w.cache.events ++
            [.written (key param) lookupGroup l.engine.host.limits.lookupLifetime took]) ∧
      (l.kept? param w.cache.store ≠ none →
        (∃ last ∈ asked.head?, (l.answer param w).1 = last.afresh param) ∧
          (l.answer param w).2.cache.events = w.cache.events) ∧
      ((∀ last ∈ asked.head?, last.found param = l.found param) →
        (l.answer param w).1 = l.afresh param) ∧
      (l.engine.host.site.unreachable = true → l.kept? param w.cache.store = none →
        (l.answer param w).1 = "" ∧
          ((l.answer param w).2.cache.store.CanHold l.now l.engine.host.limits.lookupLifetime
              (stored start param) →
            ∀ later : OptionLookup start,
              later.now < Cache.FileStore.expiry l.now l.engine.host.limits.lookupLifetime →
              (later.answer param (l.answer param w).2).1 = "")) := by
  have hasked (hkept : l.kept? param w.cache.store = none) :
      (l.answer param w).1 = l.afresh param ∧
        ∃ took, (l.answer param w).2.cache.events = w.cache.events ++
          [.written (key param) lookupGroup l.engine.host.limits.lookupLifetime took] := by
    obtain ⟨counters, took, hanswer⟩ := l.answer_of_not_kept hname hkept
    rw [hanswer]
    exact ⟨rfl, took, rfl⟩
  have hrecalled (hkept : l.kept? param w.cache.store ≠ none) :
      (∃ last ∈ asked.head?, (l.answer param w).1 = last.afresh param) ∧
        (l.answer param w).2.cache.events = w.cache.events := by
    obtain ⟨kept, hkept⟩ := Option.ne_none_iff_exists'.mp hkept
    obtain ⟨last, hlast, hvalue⟩ := history.carries hname (carries_of_kept hkept)
    obtain ⟨counters, hanswer⟩ := l.answer_of_kept hname hkept
    rw [hanswer, ofOptionString_inj hvalue]
    exact ⟨⟨last, hlast, rfl⟩, rfl⟩
  refine ⟨l.uncached_answer hname w, hasked, hrecalled, fun hsame => ?_, fun hdown hkept => ?_⟩
  · by_cases hkept : l.kept? param w.cache.store = none
    · exact (hasked hkept).1
    · obtain ⟨⟨last, hlast, hanswer⟩, -⟩ := hrecalled hkept
      rw [hanswer, afresh, afresh, hsame last hlast]
  · have hempty : Engine.clean .text "" = "" := by decide +kernel
    constructor
    · rw [(hasked hkept).1, afresh, found_of_unreachable hdown]
      exact hempty
    · intro hhold later hlater
      have hlost := l.kept?_answer later hname hkept hhold hlater
      rw [found_of_unreachable hdown] at hlost
      obtain ⟨counters, hanswer⟩ := later.answer_of_kept hname hlost
      rw [hanswer]
      exact hempty

/-- The site of a tea house. -/
def houseSite : Site := { Site.empty with options := [("blogname", .string "Tea House")] }

/-- An engine for the tea house at some time that knows options, whose site may be out of reach. -/
def houseEngine (unreachable : Bool) (now : Int) : Engine :=
  { Setup.plain now with handlers := [(["option", "op"], Handler.optionValue)] }.engine
    { houseSite with unreachable } (siteCache "" now)

/-- A lookup of an option of the tea house. -/
def houseLookup (unreachable : Bool) (now : Nat) : OptionLookup "" where
  engine := houseEngine unreachable now
  inner := (houseEngine unreachable now).outermost
  request := Request.anonymous
  directive := "option"
  now := now
  handled := rfl
  cached := rfl
  remembers := show Limits.plain.lookupLifetime ≠ 0 by decide
  clock := by
    simp only [Number.int64Min]
    omega

/-- The name of the tea house is lost by a lookup that fails, and is still lost a minute after the site
can be asked again. -/
theorem house_name_lost :
    let failed := houseLookup true 0
    let again := houseLookup false 60
    let w := World.start (.memory (.empty 8))
    (failed.answer "blogname" w).1 = "" ∧
      (again.answer "blogname" (failed.answer "blogname" w).2).1 = "" ∧
      again.afresh "blogname" = "Tea House" := by
  intro failed again w
  have hname : Text.trim "blogname" ≠ "" := by decide
  have history : History "" "blogname" [] w := .fresh (by
    rintro value ⟨deadline, hentry⟩
    exact absurd hentry List.not_mem_nil)
  have hdown : failed.engine.host.site.unreachable = true := rfl
  have hkept : failed.kept? "blogname" w.cache.store = none := rfl
  have hhold : (failed.answer "blogname" w).2.cache.store.CanHold failed.now
      failed.engine.host.limits.lookupLifetime (stored "" "blogname") := by decide +kernel
  have hlater : again.now < Cache.FileStore.expiry failed.now
      failed.engine.host.limits.lookupLifetime := by decide
  obtain ⟨-, -, -, -, hfailed⟩ := failed_lookup_remembered hname history failed
  obtain ⟨hempty, hlost⟩ := hfailed hdown hkept
  exact ⟨hempty, hlost hhold again hlater, by decide +kernel⟩

end OptionLookup

end DynamicContent
