/-
# What is registered in an engine that was set up

Whatever is found in an engine under some name is one of the things that the setup names, so what
holds of all of these holds of what is found.
-/

import DynamicContent.Engine.Setup
import DynamicContent.Proofs.Data.SortedMap

namespace DynamicContent

/-- What holds of the makers registered in a registry whose instances are not made yet holds of what
is found in it. -/
theorem Registry.forall_find?_foldl_register {α : Type} {P : α → Prop} {entries : List (String × α)}
    (h : ∀ entry ∈ entries, P entry.2) (tag : String) (item : α)
    (hfound : (entries.foldl (fun registry entry => registry.register entry.1 fun _ => entry.2)
      Registry.empty).find? tag = some item) : P item := by
  have hfold (entries : List (String × α)) (start : Registry α)
      (hstart : ∀ key made, start.byTag.find? key = some made →
        made.instance? = none ∧ P (made.make ())) (h : ∀ entry ∈ entries, P entry.2) :
      ∀ key made, (entries.foldl (fun registry entry => registry.register entry.1 fun _ => entry.2)
        start).byTag.find? key = some made → made.instance? = none ∧ P (made.make ()) := by
    induction entries generalizing start with
    | nil => exact hstart
    | cons entry rest ih =>
        rw [List.forall_mem_cons] at h
        exact ih _ (SortedMap.forall_find?_insert hstart ⟨rfl, h.1⟩) h.2
  have hall := hfold entries .empty (fun _ _ hnone => by contradiction) h
  rw [Registry.find?, Registry.get] at hfound
  split at hfound
  · contradiction
  · next made hmade => exact absurd (hall _ _ hmade).1 (by simp)
  · next make hmade => exact Option.some.inj hfound ▸ (hall _ _ hmade).2

namespace Setup

variable {setup : Setup} {site : Site} {cache : Cache.Cache Cache.Store}

/-- Binding handlers changes nothing else. -/
theorem foldl_bind (entries : List (List String × Handler)) (engine : Engine) :
    entries.foldl (fun engine entry => engine.bind entry.1 entry.2) engine =
      { engine with handlers :=
        (entries.foldl (fun engine entry => engine.bind entry.1 entry.2) engine).handlers } := by
  induction entries generalizing engine with
  | nil => rfl
  | cons entry rest ih => exact ih (engine.bind entry.1 entry.2)

theorem engine_host : (setup.engine site cache).host = setup.host site cache :=
  congrArg Engine.host (foldl_bind setup.handlers _)

theorem engine_renderers : (setup.engine site cache).renderers =
    setup.renderers.foldl
      (fun registry entry => registry.register entry.1 fun _ => entry.2) .empty :=
  congrArg Engine.renderers (foldl_bind setup.handlers _)

theorem engine_links : (setup.engine site cache).links =
    setup.links.foldl
      (fun (links : SortedMap Link) entry => links.insert (Text.toKey entry.1) entry.2) [] :=
  congrArg Engine.links (foldl_bind setup.handlers _)

theorem engine_hooks : (setup.engine site cache).hooks = setup.hooks :=
  congrArg Engine.hooks (foldl_bind setup.handlers _)

/-- The handlers of an engine do not depend on its functions. -/
theorem handlers_eq (functions : Functions) :
    (({ setup with functions } : Setup).engine site cache).handlers =
      (setup.engine site cache).handlers := by
  have hfold (entries : List (List String × Handler)) (engine engine' : Engine)
      (h : engine.handlers = engine'.handlers) :
      (entries.foldl (fun engine entry => engine.bind entry.1 entry.2) engine).handlers =
        (entries.foldl (fun engine entry => engine.bind entry.1 entry.2) engine').handlers := by
    induction entries generalizing engine engine' with
    | nil => exact h
    | cons entry rest ih =>
        refine ih (engine.bind entry.1 entry.2) (engine'.bind entry.1 entry.2) ?_
        simp only [Engine.bind, h]
  exact hfold setup.handlers _ _ rfl

/-- What holds of all handlers in a setup holds of those that the engine has. -/
theorem forall_handler? {P : Handler → Prop} (h : ∀ entry ∈ setup.handlers, P entry.2) :
    ∀ name handler, (setup.engine site cache).handler? name = some handler → P handler := by
  have hbind (names : List String) (handler : Handler) (hhandler : P handler)
      (start : SortedMap Handler) (hstart : ∀ k v, start.find? k = some v → P v) :
      ∀ k v, (names.foldl (fun handlers name =>
        handlers.insert (Text.asciiLower (Text.trim name)) handler) start).find? k = some v →
          P v := by
    induction names generalizing start with
    | nil => exact hstart
    | cons name rest ih => exact ih _ (SortedMap.forall_find?_insert hstart hhandler)
  have hfold (entries : List (List String × Handler)) (start : Engine)
      (hstart : ∀ k v, start.handlers.find? k = some v → P v) (h : ∀ entry ∈ entries, P entry.2) :
      ∀ k v, (entries.foldl (fun engine entry => engine.bind entry.1 entry.2)
        start).handlers.find? k = some v → P v := by
    induction entries generalizing start with
    | nil => exact hstart
    | cons entry rest ih =>
        rw [List.forall_mem_cons] at h
        exact ih _ (hbind entry.1 entry.2 h.1 start.handlers hstart) h.2
  exact fun name handler => hfold setup.handlers _ (fun _ _ hnone => by contradiction) h _ handler

/-- What holds of all renderers in a setup holds of those that the engine has. -/
theorem forall_renderer {P : Renderer → Prop} (h : ∀ entry ∈ setup.renderers, P entry.2) :
    ∀ tag renderer, (setup.engine site cache).renderers.find? tag = some renderer → P renderer := by
  rw [engine_renderers]
  exact Registry.forall_find?_foldl_register h

/-- The renderers of a setup with the builtin parts alone are builtin. -/
theorem plain_renderers (now : Int) :
    ∀ entry ∈ (plain now).renderers, entry.2 ∈ Element.builtin := by
  intro _ hentry
  obtain ⟨renderer, hrenderer, rfl⟩ := List.mem_map.mp hentry
  exact hrenderer

/-- What holds of all links in a setup holds of those that the engine has. -/
theorem forall_link {P : Link → Prop} (h : ∀ entry ∈ setup.links, P entry.2) :
    ∀ name link, (setup.engine site cache).links.find? name = some link → P link := by
  have hfold (entries : List (String × Link)) (start : SortedMap Link)
      (hstart : ∀ k v, start.find? k = some v → P v) (h : ∀ entry ∈ entries, P entry.2) :
      ∀ k v, (entries.foldl (fun links entry => links.insert (Text.toKey entry.1) entry.2)
        start).find? k = some v → P v := by
    induction entries generalizing start with
    | nil => exact hstart
    | cons entry rest ih =>
        rw [List.forall_mem_cons] at h
        exact ih _ (SortedMap.forall_find?_insert hstart h.1) h.2
  rw [engine_links]
  exact hfold setup.links [] (fun _ _ hnone => by contradiction) h

end Setup

end DynamicContent
