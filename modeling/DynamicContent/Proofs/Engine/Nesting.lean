/-
# Nesting

Levels and templates are taken and given back in one place each. Run in a world, an action that asks
for either is what is refused, or it is what is granted, run in the world with the nesting changed,
and the change taken back behind it.
-/

import DynamicContent.Engine.World

namespace DynamicContent

namespace World

/-- The world with other nesting. -/
def nest (depth : Nat) (templates : List Nat) (world : World) : World :=
  { world with render := { world.render with depth, templates } }

/-- A world at a level of nesting, below a bound on the levels. -/
structure IsNested (bound depth : Nat) (templates : List Nat) (world : World) : Prop where
  depth_eq : world.render.depth = depth
  templates_eq : world.render.templates = templates
  bound_eq : world.render.maxDepth = bound
  le : depth ≤ bound

end World

namespace RenderM

variable {α : Type} {refused granted : RenderM α} {w : World}

/-- What an action sees is what the world has. -/
theorem get_bind_apply (next : World → RenderM α) : (get >>= next) w = next w w := rfl

/-- Where no level is left, what is refused takes place. -/
theorem deeper_of_full (hfull : w.render.maxDepth ≤ w.render.depth) :
    deeper refused granted w = refused w := by
  have henter : w.render.enter? = none := if_neg (Nat.not_lt.mpr hfull)
  rw [deeper, get_bind_apply, henter]

/-- Where a level is left, what is granted takes place one level deeper. -/
theorem deeper_of_free (hfree : w.render.depth < w.render.maxDepth) :
    deeper refused granted w =
      let run := granted (w.nest (w.render.depth + 1) w.render.templates)
      (run.1, { run.2 with render := run.2.render.leave }) := by
  have henter : w.render.enter? =
      some (w.nest (w.render.depth + 1) w.render.templates).render := if_pos hfree
  rw [deeper, get_bind_apply, henter]
  rfl

/-- Within a template that is being rendered, what is refused takes place. -/
theorem insideTemplate_of_mem {id : Nat} (hmem : w.render.templates.contains id = true) :
    insideTemplate id refused granted w = refused w := by
  have henter : w.render.enterTemplate? id = none := if_pos hmem
  rw [insideTemplate, get_bind_apply, henter]

/-- Within another template, what is granted takes place. -/
theorem insideTemplate_of_not_mem {id : Nat} (hmem : ¬ w.render.templates.contains id = true) :
    insideTemplate id refused granted w =
      let run := granted (w.nest w.render.depth (id :: w.render.templates))
      (run.1, { run.2 with render := run.2.render.leaveTemplate }) := by
  have henter : w.render.enterTemplate? id =
      some (w.nest w.render.depth (id :: w.render.templates)).render := if_neg hmem
  rw [insideTemplate, get_bind_apply, henter]
  rfl

end RenderM

namespace World.IsNested

variable {bound depth : Nat} {templates : List Nat} {w : World}

/-- A level given back leads to the world with one level less. -/
theorem leave (h : w.IsNested bound (depth + 1) templates) :
    { w with render := w.render.leave } = w.nest depth templates := by
  rw [nest, RenderState.leave, h.depth_eq, ← h.templates_eq]
  rfl

/-- A template given back leads to the world without it. -/
theorem leaveTemplate {id : Nat} (h : w.IsNested bound depth (id :: templates)) :
    { w with render := w.render.leaveTemplate } = w.nest depth templates := by
  rw [nest, RenderState.leaveTemplate, h.templates_eq, ← h.depth_eq]
  rfl

end World.IsNested

end DynamicContent
