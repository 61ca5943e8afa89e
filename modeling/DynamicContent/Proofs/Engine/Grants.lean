/-
# Grants and what is booked for them

The state of a rendering keeps a number and a list of templates, and giving a grant back takes one off
the number, or the first off the list, whatever grant it is. So the books are right only as long as
grants are given back in the reverse order: then the number is that of the levels among the live
grants, and the list is that of their templates. What one step preserves is `GrantedState.Agrees`;
that a grant is refused exactly where it would break the books is read off from it.
-/

import DynamicContent.Engine.State
import Mathlib.Data.List.Basic

namespace DynamicContent

/-- The template that a grant is for. -/
def Grant.template? : Grant → Option Nat
  | level => none
  | template id => some id

/-- The live grants after a step that was possible, the newest first. -/
def GrantStep.onLive : GrantStep → List Grant → List Grant
  | enter, live => .level :: live
  | enterTemplate id, live => .template id :: live
  | giveBack, live => live.tail

namespace GrantedState

/-- The state after some steps, of which those that are not possible change nothing. -/
def run (s : GrantedState) (steps : List GrantStep) : GrantedState :=
  steps.foldl (fun s step => (s.step step).1) s

/-- The books are those of the live grants, below a bound on the levels. -/
structure Agrees (bound : Nat) (s : GrantedState) : Prop where
  maxDepth_eq : s.state.maxDepth = bound
  depth_eq : s.state.depth = s.live.count .level
  depth_le : s.state.depth ≤ bound
  templates_eq : s.state.templates = s.live.filterMap Grant.template?
  nodup : s.state.templates.Nodup

variable {s : GrantedState} {bound : Nat}

/-! ## One step -/

theorem step_enter (s : GrantedState) : s.step .enter =
    if s.state.depth < s.state.maxDepth then
      (⟨{ s.state with depth := s.state.depth + 1 }, .level :: s.live⟩, true)
    else (s, false) := by
  rw [step, RenderState.enter?]
  by_cases hfree : s.state.depth < s.state.maxDepth
  · rw [if_pos hfree, if_pos hfree]
  · rw [if_neg hfree, if_neg hfree]

theorem step_enterTemplate (s : GrantedState) (id : Nat) : s.step (.enterTemplate id) =
    if id ∈ s.state.templates then (s, false)
    else (⟨{ s.state with templates := id :: s.state.templates }, .template id :: s.live⟩, true) := by
  rw [step, RenderState.enterTemplate?]
  by_cases hmem : id ∈ s.state.templates
  · rw [if_pos (List.contains_iff_mem.mpr hmem), if_pos hmem]
  · rw [if_neg (mt List.contains_iff_mem.mp hmem), if_neg hmem]

/-- What is not possible changes nothing. -/
theorem step_of_refused {a : GrantStep} (h : (s.step a).2 = false) : (s.step a).1 = s := by
  cases a with
  | enter =>
      rw [step_enter] at h ⊢
      split at h
      · contradiction
      · rw [if_neg ‹_›]
  | enterTemplate id =>
      rw [step_enterTemplate] at h ⊢
      split at h
      · rw [if_pos ‹_›]
      · contradiction
  | giveBack =>
      obtain ⟨state, live⟩ := s
      rcases live with - | ⟨- | id, live⟩
      · rfl
      · contradiction
      · contradiction

/-- What is possible changes the live grants and nothing else of them. -/
theorem live_step_of_granted {a : GrantStep} (h : (s.step a).2 = true) :
    (s.step a).1.live = a.onLive s.live := by
  cases a with
  | enter =>
      rw [step_enter] at h ⊢
      split at h
      · rw [if_pos ‹_›]
        rfl
      · contradiction
  | enterTemplate id =>
      rw [step_enterTemplate] at h ⊢
      split at h
      · contradiction
      · rw [if_neg ‹_›]
        rfl
  | giveBack =>
      obtain ⟨state, live⟩ := s
      rcases live with - | ⟨- | id, live⟩
      · contradiction
      · rfl
      · rfl

theorem step_giveBack_refused_iff : (s.step .giveBack).2 = false ↔ s.live = [] := by
  obtain ⟨state, live⟩ := s
  rcases live with - | ⟨- | id, live⟩
  · exact iff_of_true rfl rfl
  · exact iff_of_false Bool.noConfusion (List.cons_ne_nil _ _)
  · exact iff_of_false Bool.noConfusion (List.cons_ne_nil _ _)

/-! ## The books -/

theorem agrees_start (bound : Nat) : (start bound).Agrees bound :=
  ⟨rfl, rfl, Nat.zero_le bound, rfl, List.nodup_nil⟩

/-- Each step keeps the books right. -/
theorem Agrees.step (h : s.Agrees bound) (a : GrantStep) : (s.step a).1.Agrees bound := by
  cases a with
  | enter =>
      rw [step_enter]
      split
      · next hfree =>
          rw [h.maxDepth_eq] at hfree
          exact ⟨h.maxDepth_eq, by simp [h.depth_eq], hfree, h.templates_eq, h.nodup⟩
      · exact h
  | enterTemplate id =>
      rw [step_enterTemplate]
      split
      · exact h
      · next hnew =>
          refine ⟨h.maxDepth_eq, ?_, h.depth_le, ?_, List.nodup_cons.mpr ⟨hnew, h.nodup⟩⟩
          · rw [h.depth_eq, List.count_cons_of_ne (by simp)]
          · rw [h.templates_eq]
            rfl
  | giveBack =>
      obtain ⟨state, live⟩ := s
      rcases live with - | ⟨- | id, live⟩
      · exact h
      · -- The newest grant is a level, and the number counts it.
        have hdepth : state.depth = live.count .level + 1 := by simpa using h.depth_eq
        have hleft : state.leave.depth = live.count .level := by
          rw [RenderState.leave, hdepth, Nat.add_sub_cancel]
        have hbound : state.leave.depth ≤ bound := Nat.le_trans (Nat.sub_le _ 1) h.depth_le
        exact ⟨h.maxDepth_eq, hleft, hbound, h.templates_eq, h.nodup⟩
      · -- The newest grant is a template, and it is the first of the list.
        have htemplates : state.templates = id :: live.filterMap Grant.template? := h.templates_eq
        have hrest : state.leaveTemplate.templates = live.filterMap Grant.template? := by
          rw [RenderState.leaveTemplate, htemplates]
          rfl
        have hdepth : state.depth = live.count .level := by simpa using h.depth_eq
        refine ⟨h.maxDepth_eq, hdepth, h.depth_le, hrest, ?_⟩
        change state.leaveTemplate.templates.Nodup
        rw [hrest]
        exact (List.nodup_cons.mp (htemplates ▸ h.nodup)).2

/-- Any steps keep the books right. -/
theorem Agrees.run (h : s.Agrees bound) (steps : List GrantStep) : (s.run steps).Agrees bound := by
  induction steps generalizing s with
  | nil => exact h
  | cons a steps ih => exact ih (h.step a)

theorem Agrees.refused_enter_iff (h : s.Agrees bound) :
    (s.step .enter).2 = false ↔ s.state.depth = bound := by
  rw [step_enter, h.maxDepth_eq]
  split
  · next hfree => exact iff_of_false Bool.noConfusion (Nat.ne_of_lt hfree)
  · next hfull => exact iff_of_true rfl (Nat.le_antisymm h.depth_le (Nat.not_lt.mp hfull))

theorem Agrees.refused_enterTemplate_iff (h : s.Agrees bound) (id : Nat) :
    (s.step (.enterTemplate id)).2 = false ↔ .template id ∈ s.live := by
  have hmem : id ∈ s.state.templates ↔ .template id ∈ s.live := by
    rw [h.templates_eq, List.mem_filterMap]
    constructor
    · rintro ⟨grant, hgrant, hid⟩
      cases grant with
      | level => contradiction
      | template other => exact Option.some.inj hid ▸ hgrant
    · exact fun hgrant => ⟨.template id, hgrant, rfl⟩
  rw [step_enterTemplate, ← hmem]
  split
  · next hlive => exact iff_of_true rfl hlive
  · next hnew => exact iff_of_false Bool.noConfusion hnew

/-! ## Giving everything back -/

/-- To give all grants back is to give the newest back as often as there are grants. -/
theorem giveBackAll_eq (s : GrantedState) :
    (s.run (List.replicate s.live.length .giveBack)).state = s.giveBackAll ∧
      (s.run (List.replicate s.live.length .giveBack)).live = [] := by
  obtain ⟨state, live⟩ := s
  induction live generalizing state with
  | nil => exact ⟨rfl, rfl⟩
  | cons grant live ih =>
      cases grant with
      | level => exact ih state.leave
      | template id => exact ih state.leaveTemplate

theorem Agrees.giveBackAll (h : s.Agrees bound) :
    s.giveBackAll.depth = 0 ∧ s.giveBackAll.templates = [] := by
  obtain ⟨hstate, hlive⟩ := s.giveBackAll_eq
  have hagrees := h.run (List.replicate s.live.length .giveBack)
  rw [← hstate, hagrees.depth_eq, hagrees.templates_eq, hlive]
  exact ⟨rfl, rfl⟩

/-- After any steps the depth is the number of live levels, within the bound, and the templates are
those of the live grants in their order, none of them twice. A level is refused exactly at the bound,
a template exactly while it is live, and only with no grants there is none to give back; what is
refused changes nothing, and what is possible changes the live grants accordingly. With all grants
given back both books are empty. -/
theorem books_exact (bound : Nat) (steps : List GrantStep) :
    let s := (start bound).run steps
    (s.state.depth = s.live.count .level ∧ s.state.depth ≤ bound) ∧
    (s.state.templates = s.live.filterMap Grant.template? ∧ s.state.templates.Nodup) ∧
    ((s.step .enter).2 = false ↔ s.state.depth = bound) ∧
    (∀ id, (s.step (.enterTemplate id)).2 = false ↔ .template id ∈ s.live) ∧
    ((s.step .giveBack).2 = false ↔ s.live = []) ∧
    (∀ a, (s.step a).2 = false → (s.step a).1 = s) ∧
    (∀ a, (s.step a).2 = true → (s.step a).1.live = a.onLive s.live) ∧
    s.giveBackAll.depth = 0 ∧ s.giveBackAll.templates = [] := by
  intro s
  have h : s.Agrees bound := (agrees_start bound).run steps
  exact ⟨⟨h.depth_eq, h.depth_le⟩, ⟨h.templates_eq, h.nodup⟩, h.refused_enter_iff,
    h.refused_enterTemplate_iff, step_giveBack_refused_iff, fun _ => step_of_refused,
    fun _ => live_step_of_granted, h.giveBackAll⟩

end GrantedState

end DynamicContent
