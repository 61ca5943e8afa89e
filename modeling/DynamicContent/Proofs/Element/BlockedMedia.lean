/-
# Media that are refused

An element for audio or video refuses an address if the address, read by itself, has a host that is on
the list or below a host of the list. So it refuses such a host under both schemes of the web, in any
letter case and with any path, and refuses no other host. Whether an address is read by itself is another
question than whether it may stand in the markup: an address that begins with two slashes may, and takes
the scheme of the page, but has no host when it is looked at. It is shown whatever host it names.
-/

import DynamicContent.Element.Media
import DynamicContent.Engine.Setup
import DynamicContent.Proofs.Url.Hosts

namespace DynamicContent.Element.MediaKind

variable {kind : MediaKind} {attrs : Attributes} {scope : Scope} {src : String}

/-- What there is in place of media that are refused: nothing, or a word to those who manage the site. -/
def refusalFor (kind : MediaKind) (request : Request) : String :=
  if request.isPrivileged then
    "<span class=\"weft-" ++ kind.tag ++ "-error\">" ++ Html.escape kind.refusal ++ "</span>"
  else ""

/-- Media are refused if their address is blocked, and are shown otherwise. -/
theorem render_eq (content : String) (hsrc : source scope.host.site attrs = src) (hne : src ≠ "") :
    kind.renderer.render attrs content scope =
      pure (if Url.isBlocked kind.blockedHosts src = true then kind.refusalFor scope.request
        else finishMarkup .post (kind.markup src attrs) attrs) := by
  have hempty : src.isEmpty = false := by simpa using hne
  subst hsrc
  dsimp only [renderer]
  rw [hempty, if_neg Bool.false_ne_true, refusalFor]

/-- The hosts of the lists end in a label that is not a number. -/
theorem endsInNumber_of_mem_blockedHosts {domain : String} (h : domain ∈ kind.blockedHosts) :
    Url.endsInNumber domain.toList = false ∧
      (Text.splitAtEach (· == '.') domain.toList).getLast? ≠ some [] := by
  have hall : ∀ kind ∈ [audio, video], ∀ domain ∈ kind.blockedHosts,
      Url.endsInNumber domain.toList = false ∧
        (Text.splitAtEach (· == '.') domain.toList).getLast? ≠ some [] := by decide +kernel
  exact hall kind (by cases kind <;> decide) domain h

/-- An address of the web with a host within one of the list is blocked. -/
theorem isBlocked_of_within {scheme host domain rest : String}
    (hscheme : scheme = "http" ∨ scheme = "https")
    (hplain : ∀ c ∈ host.toList, Url.isPlainHostChar c = true) (hdomain : domain ∈ kind.blockedHosts)
    (hwithin : Url.IsWithin (Text.asciiLower host) domain) (hrest : ∀ c ∈ rest.toList.head?, c = '/') :
    Url.isBlocked kind.blockedHosts (scheme ++ "://" ++ host ++ rest) = true := by
  obtain ⟨hname, hlast⟩ := endsInNumber_of_mem_blockedHosts hdomain
  have hnumber := (hwithin.endsInNumber_eq hlast).trans hname
  have hne : host ≠ "" := by
    rintro rfl
    rcases hwithin with hsame | ⟨front, hbelow⟩
    · rw [← hsame] at hlast
      exact hlast rfl
    · have hdots := congrArg String.toList hbelow
      simp [Text.asciiLower] at hdots
  rw [Url.isBlocked_iff]
  exact ⟨_, Url.hostOf?_plain hscheme hplain hne hnumber hrest, domain, hdomain, hwithin⟩

/-- An address without a scheme may stand in the markup, unless there are controls in it. -/
theorem cleanUrl_of_slashes {place : String} (hsrc : src = "//" ++ place)
    (hcontrol : ∀ c ∈ (Text.trim src).toList, Text.isControl c = false) :
    Html.cleanUrl src = Html.escape (Text.trim src) := by
  have hchars : src.toList = ['/'] ++ '/' :: place.toList := by
    rw [hsrc, String.toList_append]
    rfl
  have hslash : ∀ c ∈ ['/'], Url.isVisible c = true := List.all_iff_forall_prop.mp (by decide)
  have hread := Url.withoutBreaks_trim (List.cons_ne_nil '/' []) hslash hchars
  have htrim : (Text.trim src).toList = '/' :: Text.trimEndChars ('/' :: place.toList) := by
    rw [Text.trim, String.toList_ofList, hchars, Url.trimChars_append (List.cons_ne_nil '/' []) hslash]
    rfl
  have hempty : (Text.trim src).isEmpty = false := by
    rw [← Bool.not_eq_true, String.isEmpty_iff, ← String.toList_eq_nil_iff, htrim]
    exact List.cons_ne_nil _ _
  have hnone : (Text.trim src).toList.any Text.isControl = false := by
    rw [List.any_eq_false]
    exact fun c hc => by simp [hcontrol c hc]
  rw [Html.cleanUrl, hempty, hnone, Url.parse_slash hread]
  rfl

/-- Under a scheme of the web every host within one of the list is refused, whatever its letter case
and the path behind it. Where the scheme is left out no host is refused, and the address stands in the
tag. An address that has no host within one of the list is not refused. -/
theorem refused_by_spelling (kind : MediaKind) (attrs : Attributes) (content : String) (scope : Scope)
    (hsrc : source scope.host.site attrs = src) :
    (∀ scheme host rest domain : String, scheme = "http" ∨ scheme = "https" →
        (∀ c ∈ host.toList, Url.isPlainHostChar c = true) → domain ∈ kind.blockedHosts →
        Url.IsWithin (Text.asciiLower host) domain → (∀ c ∈ rest.toList.head?, c = '/') →
        src = scheme ++ "://" ++ host ++ rest →
          kind.renderer.render attrs content scope = pure (kind.refusalFor scope.request)) ∧
      (∀ place : String, src = "//" ++ place →
        kind.renderer.render attrs content scope =
            pure (finishMarkup .post (kind.markup src attrs) attrs) ∧
          ((∀ c ∈ (Text.trim src).toList, Text.isControl c = false) →
            plainAttribute "src" (Html.escape (Text.trim src)) ∈ kind.parts src attrs)) ∧
      (src ≠ "" → (∀ host domain : String, Url.hostOf? src = some host →
          domain ∈ kind.blockedHosts → ¬ Url.IsWithin host domain) →
        kind.renderer.render attrs content scope =
          pure (finishMarkup .post (kind.markup src attrs) attrs)) := by
  have hshown (hne : src ≠ "") (hblocked : ¬ Url.isBlocked kind.blockedHosts src = true) :
      kind.renderer.render attrs content scope =
        pure (finishMarkup .post (kind.markup src attrs) attrs) := by
    rw [render_eq content hsrc hne, if_neg hblocked]
  refine ⟨?_, ?_, ?_⟩
  · intro scheme host rest domain hscheme hplain hdomain hwithin hrest hspelled
    have hblocked := isBlocked_of_within hscheme hplain hdomain hwithin hrest
    have hne : src ≠ "" := by
      rintro rfl
      have hchars := congrArg String.toList hspelled
      simp at hchars
    rw [← hspelled] at hblocked
    rw [render_eq content hsrc hne, if_pos hblocked]
  · intro place hspelled
    have hne : src ≠ "" := by
      rintro rfl
      have hchars := congrArg String.toList hspelled
      simp at hchars
    refine ⟨hshown hne ?_, fun hcontrol => ?_⟩
    · rw [hspelled, Url.isBlocked_iff]
      rintro ⟨host, hhost, -⟩
      have hnone := Url.hostOf?_slash ("/" ++ place)
      rw [← String.append_assoc] at hnone
      exact Option.some_ne_none host (hhost.symm.trans hnone)
    · rw [← cleanUrl_of_slashes hspelled hcontrol]
      unfold parts
      simp
  · intro hne hnone
    refine hshown hne fun hblocked => ?_
    obtain ⟨host, hhost, domain, hdomain, hwithin⟩ := Url.isBlocked_iff.mp hblocked
    exact hnone host domain hhost hdomain hwithin

/-- Attributes that name nothing but an address. -/
def sourceAttributes (src : String) : Attributes := ⟨[("src", .text src)]⟩

/-- The scope of a visitor of a site without content. -/
def visitorScope : Scope :=
  let engine := (Setup.plain 0).engine Site.empty ⟨Cache.Store.backend 0, ""⟩
  engine.scope engine.outermost Request.anonymous

/-- A video below a host of the list is refused, the same host without a scheme is shown, and so is a
host that only ends like one of the list. -/
theorem videos_by_spelling :
    video.renderer.render (sourceAttributes "https://M.YouTube.com/watch") "" visitorScope = pure "" ∧
      video.renderer.render (sourceAttributes "//youtube.com/watch") "" visitorScope =
        pure ("<video class=\"weft-video\" src=\"//youtube.com/watch\">" ++
          "Your browser does not support HTML5 video.</video>") ∧
      video.renderer.render (sourceAttributes "https://notyoutube.com/tea.mp4") "" visitorScope =
        pure ("<video class=\"weft-video\" src=\"https://notyoutube.com/tea.mp4\">" ++
          "Your browser does not support HTML5 video.</video>") := by
  have hsource (src : String) (hint : positiveId? (sourceAttributes src) "attachment_id" = none) :
      source visitorScope.host.site (sourceAttributes src) = (sourceAttributes src).trimmed "src" := by
    rw [source, hint]
    rfl
  have hone : source visitorScope.host.site (sourceAttributes "https://M.YouTube.com/watch") =
      "https://M.YouTube.com/watch" := (hsource _ (by decide +kernel)).trans (by decide +kernel)
  have htwo : source visitorScope.host.site (sourceAttributes "//youtube.com/watch") =
      "//youtube.com/watch" := (hsource _ (by decide +kernel)).trans (by decide +kernel)
  have hthree : source visitorScope.host.site (sourceAttributes "https://notyoutube.com/tea.mp4") =
      "https://notyoutube.com/tea.mp4" := (hsource _ (by decide +kernel)).trans (by decide +kernel)
  refine ⟨?_, ?_, ?_⟩
  · rw [(refused_by_spelling video _ "" visitorScope hone).1 "https" "M.YouTube.com" "/watch"
      "youtube.com" (.inr rfl) (List.all_iff_forall_prop.mp (by decide)) (by decide)
      (.inr ⟨"m", by decide +kernel⟩) (fun c hc => (Option.some.inj hc).symm) rfl]
    rfl
  · rw [((refused_by_spelling video _ "" visitorScope htwo).2.1 "youtube.com/watch" rfl).1]
    exact congrArg pure (by decide +kernel)
  · rw [(refused_by_spelling video _ "" visitorScope hthree).2.2 (by decide) ?_]
    · exact congrArg pure (by decide +kernel)
    · intro host domain hhost hdomain hwithin
      have hname : Url.hostOf? "https://notyoutube.com/tea.mp4" = some "notyoutube.com" := by
        decide +kernel
      obtain rfl := Option.some.inj (hname.symm.trans hhost)
      have hblocked := Url.isBlockedHost_iff.mpr ⟨domain, hdomain, hwithin⟩
      exact absurd hblocked (by decide +kernel)

end DynamicContent.Element.MediaKind
