import MiniApp.Session.Basic

/-!
# Native pages

A native page is there some time after its placeholder was put on the page stack. It then takes
over what the placeholder has, once: how the page was opened, and the place on the stack if the
placeholder still has one.
-/

set_option autoImplicit false

namespace MiniApp.Session

open MiniApp.App MiniApp.Page

variable {σ : Type}

/-- Hands a native page what its placeholder has: how the page was opened, with the webview, and
the place on the page stack. -/
def takeOver (session : Session σ) (placeholder number webview : Nat) (page : Instance) :
    Session σ :=
  { session with
    placeholders := session.placeholders.set placeholder ⟨webview, none⟩
    app := session.app.swap (.placeholder placeholder) (.page number)
    calls := session.calls ++ [.attach number webview page] }

/-- Lets a webview that is preloaded and still alive keep a page. -/
def keepPage (session : Session σ) (host : Host σ) (webview number : Nat) : Session σ :=
  if session.isAlive host webview && (session.webview webview).isPreload then
    session.modifyWebview webview fun known => { known with page := some (.page number) }
  else session

/-- Puts a native page in the place of its placeholder, and says whether that was on the page
stack. -/
def nativePageCreated (session : Session σ) (host : Host σ) (placeholder number : Nat) :
    Bool × Session σ :=
  match session.placeholders[placeholder]? with
  | some ⟨webview, some page⟩ =>
    -- Whether it was on the stack is seen before its place is taken.
    (session.app.pages.contains (.placeholder placeholder),
      (session.takeOver placeholder number webview page).keepPage host webview number)
  -- A placeholder that is unknown, or from which a page has been taken before, has nothing to give.
  | _ => (false, session)

end MiniApp.Session
