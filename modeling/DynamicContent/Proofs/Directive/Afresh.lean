/-
# A pass without memory

A pass keeps the value of each directive under its text and does not evaluate the text again.
Whether that can be told from evaluating each occurrence afresh is a question about values alone
once handlers depend on nothing but the parameter. This file has the two passes side by side:
`shown` with `valueAt` is the pass that keeps nothing, and `evaluateWithin` is the evaluation of the
pass that does.

Both are given the number of levels that nesting may still go down. The one thing that can go wrong
is that a directive text is met with levels left and again with none: without levels its value is
empty, and that is what a memory would keep, or fail to give. `Steady` says that this does not
happen.
-/

import DynamicContent.Directive.Substitution
import DynamicContent.Proofs.Data.SortedMap
import DynamicContent.Proofs.Directive.Parts

namespace DynamicContent.Directive

section

variable {m : Type → Type} [Monad m]

/-- What stands for a part of a text if a directive is evaluated where it stands. -/
def partAfresh (knows : String → Bool) (evaluate : Directive → m String) : Part → m String
  | .literal run => pure (String.ofList run)
  | .directive d => if knows d.nameText then evaluate d else pure d.text

/-- What stands for some parts of a text if each directive is evaluated where it stands. -/
def replaceAfresh (knows : String → Bool) (evaluate : Directive → m String) :
    List Part → m String
  | [] => pure ""
  | part :: rest => do
    let first ← partAfresh knows evaluate part
    let others ← replaceAfresh knows evaluate rest
    pure (first ++ others)

/-- One pass over a text that keeps nothing. -/
def substituteAfresh (knows : String → Bool) (evaluate : Directive → m String) (s : String) :
    m String :=
  replaceAfresh knows evaluate (parts s.toList)

end

variable (knows : String → Bool) (answer : String → String → String)

/-- What stands for a part if the values of directives are given. -/
def shownPart (value : Directive → String) : Part → String
  | .literal run => String.ofList run
  | .directive d => if knows d.nameText then value d else d.text

/-- What stands for some parts if the values of directives are given. -/
def shown (value : Directive → String) (ps : List Part) : String :=
  String.join (ps.map (shownPart knows value))

/-- The value of a directive with so many levels left for it, of which it takes one itself. -/
def valueAt : Nat → Directive → String
  | 0, _ => ""
  | n + 1, d => answer d.nameText (shown knows (valueAt n) (parts d.param))

/-- The evaluation of a directive with so many levels left that keeps the values of nested ones. -/
def evaluateWithin : Nat → Directive → StateT Memo Id String
  | 0, _ => pure ""
  | n + 1, d => do
    let param ← substitute knows (evaluateWithin n) (String.ofList d.param)
    pure (answer d.nameText param)

/-- The known directives that a pass comes to, with the levels that are left for them: those of the
text, and those in the parameters of directives that it has a level for. -/
inductive Reaches : Nat → List Char → Nat → Directive → Prop
  | here {n : Nat} {cs : List Char} {d : Directive} (hd : .directive d ∈ parts cs)
      (known : knows d.nameText = true) : Reaches n cs n d
  | inside {n k : Nat} {cs : List Char} {d e : Directive} (hd : .directive d ∈ parts cs)
      (known : knows d.nameText = true) (more : Reaches n d.param k e) : Reaches (n + 1) cs k e

/-- No directive is met both with no level left for it and with some. -/
def Steady (n : Nat) (cs : List Char) : Prop :=
  ∀ d, Reaches knows n cs 0 d → ∀ k, ¬ Reaches knows n cs (k + 1) d

variable {knows answer} {n k : Nat} {cs : List Char} {d e : Directive}

theorem Reaches.isNamed (h : Reaches knows n cs k d) : d.IsNamed := by
  induction h with
  | here hd _ => exact isNamed_of_mem_parts hd
  | inside _ _ _ ih => exact ih

/-- From a directive that is reached with a level for it the known ones in its parameter are. -/
theorem Reaches.step (h : Reaches knows n cs (k + 1) d) (he : .directive e ∈ parts d.param)
    (known : knows e.nameText = true) : Reaches knows n cs k e := by
  generalize hlevel : k + 1 = level at h
  induction h with
  | here hd hknown => exact hlevel ▸ .inside hd hknown (.here he known)
  | inside hd hknown _ ih => exact .inside hd hknown (ih he hlevel)

/-- A part shows the same if the value is the same for the directive that it may be. -/
theorem shown_congr {value value' : Directive → String} {ps : List Part}
    (h : ∀ d, Part.directive d ∈ ps → knows d.nameText = true → value d = value' d) :
    shown knows value ps = shown knows value' ps := by
  unfold shown
  congr 1
  refine List.map_congr_left fun part hpart => ?_
  cases part with
  | literal run => rfl
  | directive d =>
      simp only [shownPart]
      split
      · next known => exact h d hpart known
      · rfl

/-- In a steady text the value of a directive does not depend on where it is met. -/
theorem Steady.valueAt_eq (steady : Steady knows n cs) {k' : Nat} (h : Reaches knows n cs k d)
    (h' : Reaches knows n cs k' d) : valueAt knows answer k d = valueAt knows answer k' d := by
  induction k generalizing k' d with
  | zero =>
      cases k' with
      | zero => rfl
      | succ k' => exact absurd h' (steady d h k')
  | succ k ih =>
      cases k' with
      | zero => exact absurd h (steady d h' k)
      | succ k' =>
          rw [valueAt, valueAt]
          congr 1
          exact shown_congr fun e he known => ih (h.step he known) (h'.step he known)

theorem text_inj (hd : d.IsNamed) (he : e.IsNamed) (h : d.text = e.text) : d = e :=
  hd.source_inj he (String.ofList_inj.mp h)

section

variable {m : Type → Type} [Monad m] [LawfulMonad m] {evaluate : Directive → StateT Memo m String}
  {memo : Memo}

/-- A value that is kept is given. -/
theorem value_run_of_some {v : String} (h : memo.find? d.text = some v) :
    (value evaluate d).run memo = pure (v, memo) := by
  simp [value, h]

/-- A directive without a value is evaluated, and the value is kept. -/
theorem value_run_of_none (h : memo.find? d.text = none) :
    (value evaluate d).run memo =
      (evaluate d).run memo >>= fun r => pure (r.1, r.2.insert d.text r.1) := by
  simp [value, h]

end

/-- The value of a directive as a step on the memory. -/
theorem value_run (evaluate : Directive → StateT Memo Id String) (d : Directive) (memo : Memo) :
    (value evaluate d).run memo =
      match memo.find? d.text with
      | some known => (known, memo)
      | none => (((evaluate d).run memo).1,
          ((evaluate d).run memo).2.insert d.text ((evaluate d).run memo).1) := by
  cases h : memo.find? d.text with
  | some known =>
      rw [value_run_of_some h]
      rfl
  | none =>
      rw [value_run_of_none h]
      rfl

/-- Parts are replaced one after the other, with the memory handed on. -/
theorem replaceParts_run_cons (evaluate : Directive → StateT Memo Id String) (part : Part)
    (rest : List Part) (memo : Memo) :
    (replaceParts knows evaluate (part :: rest)).run memo =
      let first := (replacePart knows evaluate part).run memo
      let others := (replaceParts knows evaluate rest).run first.2
      (first.1 ++ others.1, others.2) := rfl

/-- With a level for it, a directive is answered once its parameter is processed. -/
theorem evaluateWithin_run_succ (k : Nat) (d : Directive) (memo : Memo) :
    (evaluateWithin knows answer (k + 1) d).run memo =
      let param := (replaceParts knows (evaluateWithin knows answer k) (parts d.param)).run memo
      (answer d.nameText param.1, param.2) := by
  simp [evaluateWithin, substitute]
  rfl

/-- What is shown of parts is what is shown of each. -/
theorem shown_cons (value : Directive → String) (part : Part) (rest : List Part) :
    shown knows value (part :: rest) = shownPart knows value part ++ shown knows value rest := by
  rw [shown, List.map_cons, String.join_cons, shown]

/-! ## In a steady text a memory changes nothing -/

/-- A memory whose entries are the values of the directives whose texts they are kept under. -/
def RightMemo (knows : String → Bool) (answer : String → String → String) (n : Nat)
    (cs : List Char) (memo : Memo) : Prop :=
  ∀ d k v, Reaches knows n cs k d → memo.find? d.text = some v → v = valueAt knows answer k d

/-- Keeping the value of one directive keeps a memory right. -/
theorem RightMemo.insert {memo : Memo} (right : RightMemo knows answer n cs memo)
    (steady : Steady knows n cs) (hd : Reaches knows n cs k d) :
    RightMemo knows answer n cs (memo.insert d.text (valueAt knows answer k d)) := by
  intro e k' v he hv
  rw [SortedMap.find?_insert] at hv
  split at hv
  · next htext =>
      obtain rfl := text_inj he.isNamed hd.isNamed htext
      rw [← Option.some.inj hv]
      exact steady.valueAt_eq hd he
  · exact right e k' v he hv

/-- In a steady text a step that evaluates rightly looks up rightly too. -/
theorem value_right {memo : Memo} (steady : Steady knows n cs) (hd : Reaches knows n cs k d)
    (right : RightMemo knows answer n cs memo)
    (heval : ((evaluateWithin knows answer k d).run memo).1 = valueAt knows answer k d ∧
      RightMemo knows answer n cs ((evaluateWithin knows answer k d).run memo).2) :
    ((value (evaluateWithin knows answer k) d).run memo).1 = valueAt knows answer k d ∧
      RightMemo knows answer n cs ((value (evaluateWithin knows answer k) d).run memo).2 := by
  rw [value_run]
  cases hfound : memo.find? d.text with
  | some v => exact ⟨right d k v hd hfound, right⟩
  | none =>
      dsimp only
      rw [heval.1]
      exact ⟨rfl, heval.2.insert steady hd⟩

/-- In a steady text a pass with a right memory shows the values, if evaluation does. -/
theorem replaceParts_right_of_evaluate (steady : Steady knows n cs)
    (heval : ∀ d memo, Reaches knows n cs k d → RightMemo knows answer n cs memo →
      ((evaluateWithin knows answer k d).run memo).1 = valueAt knows answer k d ∧
        RightMemo knows answer n cs ((evaluateWithin knows answer k d).run memo).2)
    (ps : List Part)
    (hps : ∀ d, .directive d ∈ ps → knows d.nameText = true → Reaches knows n cs k d)
    {memo : Memo} (right : RightMemo knows answer n cs memo) :
    ((replaceParts knows (evaluateWithin knows answer k) ps).run memo).1 =
        shown knows (valueAt knows answer k) ps ∧
      RightMemo knows answer n cs
        ((replaceParts knows (evaluateWithin knows answer k) ps).run memo).2 := by
  -- Each part hands its memory on to the next, so the statement is for every memory that is right.
  induction ps generalizing memo with
  | nil => exact ⟨rfl, right⟩
  | cons part rest ih =>
      have hpart : ((replacePart knows (evaluateWithin knows answer k) part).run memo).1 =
            shownPart knows (valueAt knows answer k) part ∧
          RightMemo knows answer n cs
            ((replacePart knows (evaluateWithin knows answer k) part).run memo).2 := by
        cases part with
        | literal run => exact ⟨rfl, right⟩
        | directive d =>
            simp only [replacePart, shownPart]
            split
            · next known =>
                have hd := hps d (by simp) known
                exact value_right steady hd right (heval d memo hd right)
            · exact ⟨rfl, right⟩
      obtain ⟨hothers, hright⟩ :=
        ih (fun d hd => hps d (List.mem_cons_of_mem part hd)) hpart.2
      rw [replaceParts_run_cons, shown_cons]
      exact ⟨by rw [← hpart.1, ← hothers], hright⟩

/-- In a steady text the evaluation of a directive with a right memory gives its value. -/
theorem evaluateWithin_right (steady : Steady knows n cs) (k : Nat) (d : Directive) (memo : Memo)
    (hd : Reaches knows n cs k d) (right : RightMemo knows answer n cs memo) :
    ((evaluateWithin knows answer k d).run memo).1 = valueAt knows answer k d ∧
      RightMemo knows answer n cs ((evaluateWithin knows answer k d).run memo).2 := by
  induction k generalizing d memo with
  | zero => exact ⟨rfl, right⟩
  | succ k ih =>
      obtain ⟨hparam, hright⟩ := replaceParts_right_of_evaluate steady ih (parts d.param)
        (fun e he known => hd.step he known) right
      rw [evaluateWithin_run_succ, valueAt, ← hparam]
      exact ⟨rfl, hright⟩

/-- In a steady text a pass that starts with no memory shows what a pass without memory shows. -/
theorem substitute_eq_shown_of_steady (s : String) (steady : Steady knows n s.toList) :
    ((substitute knows (evaluateWithin knows answer n) s).run []).1 =
      shown knows (valueAt knows answer n) (parts s.toList) :=
  (replaceParts_right_of_evaluate steady (evaluateWithin_right steady n) (parts s.toList)
    (fun _ hd known => .here hd known) fun _ _ _ _ h => by simp at h).1

end DynamicContent.Directive
