import MiniApp.Proofs.Session.Handover

/-!
# An app that is torn down starts anew

Four containers of an app fill up in the course of its life, and one of them also holds what comes
from the configuration. Tearing the app down has to empty the containers and to keep the rest, also
where the app was torn down by one of its own callbacks before. What it cannot do is to reach the
platform: native pages that were asked for before come all the same, to placeholders of the life
that is over.

* `tearDown_take`: no step changes what a teardown would leave, so that a history does not either.
* `Outlived`: that the placeholders up to a number are off the page stack and no webview would put
  one of them back. Every step keeps this, since a placeholder gets on the stack only when it is
  made.
* `tearDown_startsAnew`: both together, for every history before the teardown and every one behind
  it.
-/

set_option autoImplicit false

namespace MiniApp.Session

open MiniApp.App MiniApp.Page

variable {σ : Type}

/-! ### What a teardown leaves -/

/-- Actions change nothing of what a teardown would leave. -/
theorem tearDown_performFor (host : Host σ) (steps : Nat) (actions : List Action)
    (session : Session σ) :
    (performFor host steps actions session).app.tearDown = session.app.tearDown := by
  fun_induction performFor host steps actions session with
  | case1 => rfl
  | case2 => rfl
  | case3 steps label rest session ih => exact ih
  | case4 steps rest session ih => exact ih
  | case5 steps rest session ih => exact ih
  | case6 steps rest session ih => exact ih
  | case7 steps callback rest session hready ih => exact ih
  | case8 steps callback rest session hready ih => exact ih

/-- Nor does a registration. The tab bar gets a webview at most, which a teardown takes out. -/
theorem tearDown_register (session : Session σ) (host : Host σ) (request : Request) :
    (session.register host request).2.app.tearDown = session.app.tearDown := by
  by_cases hback : ∃ webview page, session.Reuses request.url webview page
  · obtain ⟨webview, page, hreuses⟩ := hback
    obtain ⟨-, happ, -⟩ := register_of_reuses host hreuses
    rw [happ]
    rfl
  · obtain ⟨given, made, entry, -, -, -, hopens⟩ := register_of_not_reuses host hback
    rw [hopens.app]
    unfold State.tearDown
    dsimp only
    split <;> rfl

/-- No step changes what a teardown would leave. -/
theorem tearDown_take (session : Session σ) (host : Host σ) (step : Step σ) :
    (session.take host step).app.tearDown = session.app.tearDown := by
  cases step with
  | hostMoves state => rfl
  | event event =>
  cases event with
  | leave | addWebview | preload | takePreload => rfl
  | register request => exact tearDown_register session host request
  | perform actions => exact tearDown_performFor host _ actions session
  | nativePage placeholder number =>
      show (session.nativePageCreated host placeholder number).2.app.tearDown = _
      rcases nativePageCreated_spec session host placeholder number with
        hsame | ⟨alive, webview, page, htakes⟩
      · rw [hsame]
      · rw [htakes.app, swap_eq_replace]
        rfl

/-- The session of an app that has just been started, before anything has happened to it. -/
def started (config : Config) (state : σ) : Session σ :=
  { app := .initial config, host := state }

/-- Whatever has happened to an app, it is as it was in the beginning once it is torn down. -/
theorem tearDown_after (host : Host σ) (config : Config) (state : σ) (steps : List (Step σ)) :
    ((started config state).after host steps).app.tearDown = .initial config := by
  have hstays : ∀ (reached : Session σ) (step : Step σ), reached.app.tearDown = .initial config →
      (reached.take host step).app.tearDown = .initial config :=
    fun reached step h => (tearDown_take reached host step).trans h
  exact after_keeps hstays steps rfl

/-! ### Placeholders that have outlived their app -/

/-- The page that a webview keeps, if any, is no placeholder. -/
def KeepsNoPlaceholder (webview : Webview) : Prop :=
  ∀ number, webview.page ≠ some (.placeholder number)

/-- No webview keeps a placeholder as its page. -/
def KeepsPages (session : Session σ) : Prop :=
  ∀ webview ∈ session.webviews, KeepsNoPlaceholder webview

/-- The host makes no webview that keeps a placeholder already. -/
def Host.MakesNoPlaceholder (host : Host σ) : Prop :=
  ∀ webview path route query state,
    KeepsNoPlaceholder ((host.createWebview webview path route query).run state).1

/-- No webview comes from outside that keeps a placeholder already. -/
def Step.AddsNoPlaceholder : Step σ → Prop
  | .event (.addWebview webview) => KeepsNoPlaceholder webview
  | _ => True

/-- The first placeholders, up to a number, are off the page stack and will not come back. -/
structure Outlived (count : Nat) (session : Session σ) : Prop where
  made : count ≤ session.placeholders.length
  absent : ∀ number < count, .placeholder number ∉ session.app.pages
  kept : KeepsPages session

section Opens

variable {session : Session σ} {host : Host σ} {request : Request} {route : RouteOptions}
  {resolved : RouteOptions × σ} {given : Option Nat} {opened : Nat × Session σ}
  {made : List Call} {entry : Entry}

/-- The entry of a page that is opened is no placeholder that was there before. -/
theorem Opens.entry_new (h : Opens session host request resolved given opened made entry) :
    ∀ number < session.placeholders.length, entry ≠ .placeholder number := by
  have hsteps := h.steps
  generalize opened.2.marks opened.1 = marks, opened.2.placeholders = placeholders,
    opened.2.webviews = webviews, opened.2.host = left at hsteps
  cases hsteps with
  | inOrder settings provided known before state page rendered _ _ _ hsettings hprovided hpage
      hrendered =>
  cases hrendered with
  | placeholder id =>
      intro number hlt heq
      exact Nat.ne_of_gt hlt (Entry.placeholder.inj heq)
  | page id created options after made answer => exact fun _ _ => nofun

/-- The webviews that there are once a page has come by its own keep no placeholder. -/
theorem Provides.keepsPages {state state' : σ} {call : Call} {number : Nat}
    {webviews : List Webview}
    (h : Provides session host request route state given call number webviews state')
    (hkept : KeepsPages session) (hhost : host.MakesNoPlaceholder) :
    ∀ webview ∈ webviews, KeepsNoPlaceholder webview := by
  intro webview hmem
  cases h with
  | created added after answer =>
      rcases List.mem_append.mp hmem with hmem | hmem
      · exact hkept webview hmem
      · have hadded := hhost session.webviews.length request.path route request.query state
        rw [answer] at hadded
        rw [List.mem_singleton.mp hmem]
        exact hadded
  | found given found after answer =>
      rcases mem_modify hmem with hmem | ⟨known, hknown, rfl⟩
      · exact hkept webview hmem
      · exact hkept known (List.mem_of_getElem? hknown)

/-- No webview keeps the entry of a page that is opened, if that is a placeholder. -/
theorem KeepsPages.opens (h : KeepsPages session) (hhost : host.MakesNoPlaceholder)
    (hopens : Opens session host request resolved given opened made entry) :
    KeepsPages opened.2 := by
  intro webview hmem number hkept
  have hsteps := hopens.steps
  generalize hmarks : opened.2.marks opened.1 = marks,
    hwebviews : opened.2.webviews = webviews, opened.2.placeholders = placeholders,
    opened.2.host = left at hsteps hmem
  cases hsteps with
  | inOrder settings provided known before state page rendered _ _ _ hsettings hprovided hpage
      hrendered =>
  have hplain := hprovided.keepsPages h hhost
  rcases mem_modify hmem with hmem | ⟨other, hother, rfl⟩
  · exact hplain webview hmem number hkept
  rcases mem_page_keeping hkept with hkept | ⟨rfl, hnative⟩
  · exact hplain other (List.mem_of_getElem? hother) number hkept
  · -- A placeholder is made for a native webview only, and that one does not keep it.
    have hself : opened.2.webview opened.1 = hosting request (.placeholder number) other :=
      webview_of_getElem? (by simp [hwebviews, hother])
    cases hrendered with
    | placeholder id =>
        have hmarked : (opened.2.webview opened.1).isNative = true := congrArg Prod.snd hmarks
        rw [hself, hosting, keeping_isNative] at hmarked
        exact absurd (hmarked.symm.trans hnative) (by decide)

end Opens

/-- No webview keeps a placeholder after a registration, if the host makes none that does. -/
theorem KeepsPages.register {session : Session σ} {host : Host σ} (h : KeepsPages session)
    (hhost : host.MakesNoPlaceholder) (request : Request) :
    KeepsPages (session.register host request).2 := by
  by_cases hback : ∃ webview page, session.Reuses request.url webview page
  · obtain ⟨webview, page, hreuses⟩ := hback
    obtain ⟨-, -, hwebviews, -⟩ := register_of_reuses host hreuses
    unfold KeepsPages
    rw [hwebviews]
    exact h
  · obtain ⟨given, made, entry, -, -, -, hopens⟩ := register_of_not_reuses host hback
    exact h.opens hhost hopens

/-- Nor does any after a native page has come. -/
theorem KeepsPages.nativePage {session : Session σ} (h : KeepsPages session) (host : Host σ)
    (placeholder number : Nat) :
    KeepsPages (session.nativePageCreated host placeholder number).2 := by
  rcases nativePageCreated_spec session host placeholder number with
    hsame | ⟨alive, home, page, htakes⟩
  · rw [hsame]
    exact h
  · intro webview hmem other hkept
    obtain ⟨place, hplace⟩ := List.mem_iff_getElem?.mp hmem
    have hlt : place < session.webviews.length := by
      rw [← htakes.webviews]
      exact (List.getElem?_eq_some_iff.mp hplace).1
    rw [← webview_of_getElem? hplace, htakes.kept place hlt] at hkept
    split at hkept
    · exact nomatch hkept
    · exact h _ (mem_webviews hkept) other hkept

/-- Whatever happens, no webview keeps a placeholder: what a webview keeps is recorded when a page
has been rendered or a native page has come. -/
theorem KeepsPages.take {session : Session σ} {host : Host σ} (h : KeepsPages session)
    (hhost : host.MakesNoPlaceholder) {step : Step σ} (hstep : step.AddsNoPlaceholder) :
    KeepsPages (session.take host step) := by
  cases step with
  | hostMoves state => exact h
  | event event =>
  cases event with
  | leave | takePreload => exact h
  | register request => exact h.register hhost request
  | nativePage placeholder number => exact h.nativePage host placeholder number
  | addWebview added =>
      intro webview hmem number
      change webview ∈ session.webviews ++ [added] at hmem
      rcases List.mem_append.mp hmem with hmem | hmem
      · exact h webview hmem number
      · rw [List.mem_singleton.mp hmem]
        exact hstep number
  | preload url pooled =>
      intro webview hmem number
      rcases mem_modify hmem with hmem | ⟨known, hknown, rfl⟩
      · exact h webview hmem number
      · exact h known (List.mem_of_getElem? hknown) number
  | perform actions =>
      show KeepsPages (session.handle host (.perform actions))
      unfold KeepsPages
      rw [(settled_perform session host actions).webviews]
      exact h

section Outlived

variable {count : Nat} {session : Session σ} {host : Host σ}

/-- A placeholder that is made later has a later number, and a page that is put back on the stack is
no placeholder. -/
theorem Outlived.register (h : Outlived count session) (hhost : host.MakesNoPlaceholder)
    (request : Request) : Outlived count (session.register host request).2 := by
  refine ⟨?_, ?_, h.kept.register hhost request⟩
  · rcases register_placeholders session host request with hsame | ⟨hadded, -⟩
    · rw [hsame]
      exact h.made
    · rw [hadded, List.length_append]
      exact Nat.le_add_right_of_le h.made
  · intro number hlt hmem
    -- A page that is put back is kept by a webview, and webviews keep no placeholders.
    by_cases hback : ∃ webview page, session.Reuses request.url webview page
    · obtain ⟨webview, page, hreuses⟩ := hback
      obtain ⟨-, happ, -⟩ := register_of_reuses host hreuses
      rw [happ] at hmem
      rcases List.mem_append.mp hmem with hmem | hmem
      · exact h.absent number hlt hmem
      · have hkept := hreuses.kept
        rw [← List.mem_singleton.mp hmem] at hkept
        exact h.kept _ (mem_webviews hkept) number hkept
    · obtain ⟨given, made, entry, -, -, -, hopens⟩ := register_of_not_reuses host hback
      rw [hopens.pages] at hmem
      rcases List.mem_append.mp hmem with hmem | hmem
      · exact h.absent number hlt hmem
      · exact hopens.entry_new number (Nat.lt_of_lt_of_le hlt h.made)
          (List.mem_singleton.mp hmem).symm

/-- A native page takes the place of a placeholder, and brings none with it. -/
theorem Outlived.nativePage (h : Outlived count session) (placeholder number : Nat) :
    Outlived count (session.nativePageCreated host placeholder number).2 := by
  refine ⟨?_, ?_, h.kept.nativePage host placeholder number⟩
  · rcases nativePageCreated_spec session host placeholder number with
      hsame | ⟨alive, home, page, htakes⟩
    · rw [hsame]
      exact h.made
    · rw [htakes.placeholders, List.length_set]
      exact h.made
  · intro other hlt hmem
    rcases nativePageCreated_spec session host placeholder number with
      hsame | ⟨alive, home, page, htakes⟩
    · rw [hsame] at hmem
      exact h.absent other hlt hmem
    · rw [htakes.app] at hmem
      rcases Tracked.mem_swap hmem with hmem | ⟨hpage, -⟩
      · exact h.absent other hlt hmem
      · exact nomatch hpage

/-- An outlived placeholder stays off the stack. -/
theorem Outlived.take (h : Outlived count session) (hhost : host.MakesNoPlaceholder) {step : Step σ}
    (hstep : step.AddsNoPlaceholder) : Outlived count (session.take host step) := by
  have hkept := h.kept.take hhost hstep
  cases step with
  | hostMoves state => exact ⟨h.made, h.absent, hkept⟩
  | event event =>
  cases event with
  | addWebview | preload | takePreload => exact ⟨h.made, h.absent, hkept⟩
  | register request => exact h.register hhost request
  | nativePage placeholder number => exact h.nativePage placeholder number
  | leave entry =>
      exact ⟨h.made, fun number hlt hmem => h.absent number hlt (List.mem_of_mem_erase hmem), hkept⟩
  | perform actions =>
      have hsettled := settled_perform session host actions
      refine ⟨?_, fun number hlt hmem => ?_, hkept⟩
      · show count ≤ (session.handle host (.perform actions)).placeholders.length
        rw [hsettled.placeholders]
        exact h.made
      · exact h.absent number hlt (hsettled.pages_sublist.subset hmem)

/-- A native page that comes for an outlived placeholder finds no place, and nothing of the app is
changed. -/
theorem Outlived.late (h : Outlived count session) {placeholder : Nat} (hlt : placeholder < count)
    (number : Nat) :
    (session.nativePageCreated host placeholder number).1 = false ∧
      (session.nativePageCreated host placeholder number).2.app = session.app := by
  have habsent := h.absent placeholder hlt
  by_cases hheld : ∃ webview page, session.placeholders[placeholder]? = some ⟨webview, some page⟩
  · obtain ⟨webview, page, hheld⟩ := hheld
    have hdelivery : Delivery.IsHeld session ⟨placeholder, number, webview, page⟩ := hheld
    rw [nativePageCreated_held host hdelivery]
    refine ⟨decide_eq_false habsent, ?_⟩
    show session.app.swap (.placeholder placeholder) (.page number) = session.app
    rw [swap_eq_replace, List.replace_of_not_mem (by simpa using habsent)]
  · rw [nativePageCreated_unheld host hheld]
    exact ⟨rfl, rfl⟩

end Outlived

/-! ### Every life of an app -/

/-- Tearing an app down, whatever has happened to it, leaves the session with a new app: the same
registrations, native pages and callbacks give the same answers, states and calls from then on. And
a native page for a placeholder of the life that is over, whatever has happened since, is told that
its placeholder is not on the stack, and leaves the new app as it is. -/
theorem tearDown_startsAnew (host : Host σ) (config : Config) (state : σ)
    (steps : List (Step σ)) :
    let session := (started config state).after host steps
    session.tearDown = { session with app := .initial config } ∧
    (∀ later, watch host later session.tearDown =
      watch host later { session with app := .initial config }) ∧
    (host.MakesNoPlaceholder → (∀ step ∈ steps, step.AddsNoPlaceholder) →
      ∀ later, (∀ step ∈ later, step.AddsNoPlaceholder) →
        let reached := session.tearDown.after host later
        ∀ placeholder < session.placeholders.length, ∀ number,
          (reached.nativePageCreated host placeholder number).1 = false ∧
            (reached.nativePageCreated host placeholder number).2.app = reached.app) := by
  intro session
  have hrenewed : session.tearDown = { session with app := .initial config } := by
    show ({ session with app := session.app.tearDown } : Session σ) = _
    rw [tearDown_after host config state steps]
  refine ⟨hrenewed, fun later => by rw [hrenewed], ?_⟩
  intro hhost hsteps later hlater reached placeholder hlt number
  -- The stack is empty behind the teardown, and no webview keeps what could be put back on it.
  have hkept : KeepsPages session :=
    after_keeps_of (fun _ _ hstep h => h.take hhost hstep) hsteps nofun
  have houtlived : Outlived session.placeholders.length session.tearDown :=
    ⟨Nat.le_refl _, fun _ _ => List.not_mem_nil, hkept⟩
  have hreached : Outlived session.placeholders.length reached :=
    after_keeps_of (fun _ _ hstep h => h.take hhost hstep) hlater houtlived
  exact hreached.late hlt number

/-! ### A native page that comes too late -/

open Simulation (Platform)

/-- A native page is registered, the app is torn down, and the same page is registered again. -/
def registerNative : List (Step Platform) :=
  [.event (.register Tracked.nativeRequest)]

/-- The native page of the first life does not get the place of the second placeholder. -/
theorem tearDown_lateNativePage :
    let session := (started {} Tracked.nativePlatform).after Platform.host registerNative
    let reached := session.tearDown.after Platform.host registerNative
    session.app.pages = [.placeholder 0] ∧ reached.app.pages = [.placeholder 1] ∧
      (reached.nativePageCreated Platform.host 0 5).1 = false ∧
      (reached.nativePageCreated Platform.host 0 5).2.app = reached.app := by
  intro session reached
  have hhost : Host.MakesNoPlaceholder Platform.host := fun _ _ _ _ _ => nofun
  have hsteps : ∀ step ∈ registerNative, step.AddsNoPlaceholder := by
    simp [registerNative, Step.AddsNoPlaceholder]
  obtain ⟨-, -, hlate⟩ :=
    tearDown_startsAnew Platform.host {} Tracked.nativePlatform registerNative
  exact ⟨by decide, by decide, hlate hhost hsteps registerNative hsteps 0 (by decide) 5⟩

end MiniApp.Session
