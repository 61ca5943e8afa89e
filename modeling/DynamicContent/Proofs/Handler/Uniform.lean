/-
# The builtin handlers are uniform

A lookup reads the site and those parts of a request in which requests that are alike agree, and the
cache. A call is refused by the name alone, before it is asked whether there is such a function, so
functions that may not be called do not matter to it. A shortcode is left to the scope.
-/

import DynamicContent.Handler.Builtin
import DynamicContent.Proofs.Engine.Likeness

namespace DynamicContent.Handler

open Likeness

variable {L : Likeness} {depth : Nat} {scope scope' : Scope}

/-- A handler that looks up the same in scopes that are alike is uniform. -/
theorem ofLookup_uniform {lookup : String → Scope → Option String}
    (h : ∀ (L : Likeness) (depth : Nat) (scope scope' : Scope), L.Scopes depth scope scope' →
      ∀ param, lookup param scope' = lookup param scope) : (ofLookup lookup).Uniform := by
  intro L depth scope scope' hscopes param
  simp only [ofLookup, h L depth scope scope' hscopes param]
  exact .pure _

/-- A handler that reads nothing of the kind of screen is uniform. -/
theorem ofRequest_uniform {lookup : Request → String → Option String}
    (h : ∀ (request : Request) (adminScreen : Bool) (name : String),
      lookup { request with adminScreen } name = lookup request name) :
    (ofRequest lookup).Uniform := by
  refine ofLookup_uniform fun L depth scope scope' hscopes param => ?_
  obtain ⟨adminScreen, hrequest⟩ := L.request_eq _ _ hscopes.request
  rw [hrequest, h]

/-- A handler that reads of a record whose number is not in the kind of screen is uniform. -/
theorem ofRecord_uniform {α : Type} {current : Request → Option Nat}
    {record : Site → Nat → Except ContentError (Option α)} {read : α → String → Option String}
    (h : ∀ (request : Request) (adminScreen : Bool),
      current { request with adminScreen } = current request) :
    (ofRecord current record read).Uniform := by
  refine ofLookup_uniform fun L depth scope scope' hscopes param => ?_
  obtain ⟨adminScreen, hrequest⟩ := L.request_eq _ _ hscopes.request
  rw [hscopes.host, hscopes.host', L.site_eq, hrequest, h]

/-- A handler that remembers what it looks up in the site is uniform. -/
theorem remembered_uniform (kind : String) (lookup : Site → String → Option String) :
    (remembered kind lookup).Uniform := by
  intro L depth scope scope' hscopes name
  simp only [remembered, hscopes.host, hscopes.host', L.site_eq, L.limits_eq, L.cache_eq]
  split
  · exact .pure _
  · split
    · exact .pure _
    · exact Alike.bind (alike_remember (Alike.pure _)) fun value => .pure _

/-- A call has the same answer on hosts that are alike: only functions that may be called are, and
the others are refused by name. -/
theorem callFunction_eq {request request' : Request} (h : L.requests request request')
    (call : String) : callFunction L.host' request' call = callFunction L.host request call := by
  unfold callFunction
  cases (Text.splitCommas call).map Text.trim with
  | nil => rfl
  | cons name args =>
      have hprivileged := L.isPrivileged_eq h
      by_cases hallowed : L.host.allowlist.allows name = true
      · simp only [L.allows_eq, L.call_eq name hallowed, hprivileged]
      · simp [L.allows_eq, hallowed, hprivileged]

theorem functionCall_uniform : functionCall.Uniform := by
  intro L depth scope scope' hscopes param
  simp only [functionCall, hscopes.host, hscopes.host', callFunction_eq hscopes.request]
  exact .pure _

theorem shortcode_uniform : shortcode.Uniform := by
  intro L depth scope scope' hscopes param
  simp only [shortcode]
  split
  · exact .pure _
  · exact (hscopes.expandShortcodes _).bind fun html => .pure _

theorem siteUrl_uniform : siteUrl.Uniform := by
  intro L depth scope scope' hscopes kind
  simp only [siteUrl, hscopes.host, hscopes.host', L.urls_eq,
    L.address_eq _ _ kind hscopes.request]
  exact .pure _

/-- The handlers of every engine are uniform. -/
theorem builtin_uniform : ∀ entry ∈ builtin, entry.2.Uniform := by
  simp only [builtin, List.forall_mem_cons]
  refine ⟨ofRequest_uniform fun _ _ _ => rfl, ofRequest_uniform fun _ _ _ => rfl,
    ofRequest_uniform fun _ _ _ => rfl, ofRequest_uniform fun _ _ _ => rfl,
    ofRequest_uniform fun _ _ _ => rfl, ofRequest_uniform fun _ _ _ => rfl,
    remembered_uniform _ _, remembered_uniform _ _, ofRecord_uniform fun _ _ => rfl,
    ofRecord_uniform fun _ _ => rfl, ofRecord_uniform fun _ _ => rfl,
    ofRecord_uniform fun _ _ => rfl, ofRecord_uniform fun _ _ => rfl,
    ofRecord_uniform fun _ _ => rfl, functionCall_uniform, shortcode_uniform, siteUrl_uniform,
    fun _ h => absurd h List.not_mem_nil⟩

end DynamicContent.Handler
