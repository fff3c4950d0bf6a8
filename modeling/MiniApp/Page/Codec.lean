import MiniApp.Json.Decode
import MiniApp.Page.Instance
import MiniApp.Page.Options

/-!
# Pages as JSON

The settings of a route keep the members that are not known, whatever they are; they can therefore
be written only as an object. How deep containers may lie in one another counts from the outermost
one.
-/

set_option autoImplicit false

namespace MiniApp.Page

open MiniApp.Json

/-- The name of a way to open a page. -/
def OpenType.name : OpenType → String
  | .appLaunch => "appLaunch"
  | .navigateTo => "navigateTo"
  | .redirectTo => "redirectTo"
  | .reLaunch => "reLaunch"
  | .switchTab => "switchTab"
  | .navigateBack => "navigateBack"

/-- All the ways to open a page. -/
def OpenType.all : List OpenType :=
  [.appLaunch, .navigateTo, .redirectTo, .reLaunch, .switchTab, .navigateBack]

instance : Codec OpenType where
  decode := Decoder.choice (OpenType.all.map fun value => (value.name, value))
  encode value := .string value.name

/-- The name of a style of the navigation bar. -/
def NavigationBar.name : NavigationBar → String
  | .standard => "default"
  | .transparent => "transparent"
  | .float => "float"
  | .none => "none"

/-- All the styles of the navigation bar. -/
def NavigationBar.all : List NavigationBar :=
  [.standard, .transparent, .float, .none]

instance : Codec NavigationBar where
  decode := Decoder.choice (NavigationBar.all.map fun value => (value.name, value))
  encode value := .string value.name

namespace RouteSettings

/-- The record that holds the style of the navigation bar. -/
def decodeBar : Decoder NavigationBar := fun draft => do
  let fields := [Decoder.field "type" (Codec.decode (α := NavigationBar))]
  let given ← Decoder.record "NavigationBar" fields draft
  given.default "type" Codec.decode .standard

/-- The record that holds the style of the navigation bar, as a value. -/
def encodeBar (bar : NavigationBar) : Value :=
  .object [("type", encode bar)]

/-- The known fields of the settings. -/
def fields : List Decoder.Field :=
  [Decoder.field "id" (Decoder.optional Decoder.word),
   Decoder.field "route" Decoder.string,
   Decoder.field "isEntry" Decoder.bool,
   Decoder.field "isTabBar" Decoder.bool,
   Decoder.field "isNVue" Decoder.bool,
   Decoder.field "navigationBar" decodeBar,
   Decoder.field "disableScroll" Decoder.bool,
   Decoder.field "onReachBottomDistance" (Decoder.optional Decoder.word)]

/-- The settings from the known fields that are given and the other members. -/
def ofGiven (given : Decoder.Given) (extra : List (String × Value)) :
    Except DecodeError RouteSettings := do
  return {
    id := ← given.default "id" (Decoder.optional Decoder.word) none
    route := ← given.need "route" Decoder.string
    isEntry := ← given.default "isEntry" Decoder.bool false
    isTabBar := ← given.default "isTabBar" Decoder.bool false
    isNative := ← given.default "isNVue" Decoder.bool false
    navigationBar := ← given.default "navigationBar" decodeBar .standard
    disableScroll := ← given.default "disableScroll" Decoder.bool false
    onReachBottomDistance :=
      ← given.default "onReachBottomDistance" (Decoder.optional Decoder.word) none
    extra := extra }

/-- The settings of a route inside the given number of containers. -/
def decodeInside (outside : Nat) : Decoder RouteSettings := fun draft => do
  match draft with
  | .object members ending =>
    -- The object of the settings is one container more around what is kept.
    let keep := fun extra name value => do
      return setMember name (← Draft.value (maxDepth - (outside + 1)) value) extra
    let (given, extra) ← Decoder.takeMembers fields keep [] [] members
    Decoder.faultless ending
    ofGiven ⟨given, .missingField⟩ extra
  | draft => Decoder.mismatch "struct RouteMeta" draft

/-- The members for the known fields. An identifier and a distance that are missing are left out. -/
def knownMembers (settings : RouteSettings) : List (String × Value) :=
  presentMember "id" (settings.id.map ofNat) ++
    [("route", .string settings.route),
     ("isEntry", .bool settings.isEntry),
     ("isTabBar", .bool settings.isTabBar),
     ("isNVue", .bool settings.isNative),
     ("navigationBar", encodeBar settings.navigationBar),
     ("disableScroll", .bool settings.disableScroll)] ++
    presentMember "onReachBottomDistance" (settings.onReachBottomDistance.map ofNat)

instance : Codec RouteSettings where
  decode := decodeInside 0
  encode settings := .object (settings.knownMembers ++ settings.extra)

end RouteSettings

namespace RouteOptions

/-- The fields of a path with the settings of its route. -/
def fields : List Decoder.Field :=
  [Decoder.field "path" Decoder.string,
   Decoder.field "meta" (RouteSettings.decodeInside 1)]

/-- The path with the settings of its route from the fields that are given. -/
def ofGiven (given : Decoder.Given) : Except DecodeError RouteOptions := do
  return {
    path := ← given.need "path" Decoder.string
    settings := ← given.need "meta" (RouteSettings.decodeInside 1) }

instance : Codec RouteOptions where
  decode draft := do ofGiven (← Decoder.record "RouteOptions" fields draft)
  encode route := .object
    [("path", .string route.path),
     ("meta", encode route.settings)]

end RouteOptions

/-- The parameters of a page as an object. -/
def encodeQuery (query : Query) : Value :=
  .object (query.map fun (name, value) => (name, .string value))

namespace Instance

/-- The fields of a page instance. -/
def fields : List Decoder.Field :=
  [Decoder.field "id" (Decoder.optional Decoder.word),
   Decoder.field "path" Decoder.string,
   Decoder.field "route" Decoder.string,
   Decoder.field "fullPath" Decoder.string,
   Decoder.field "options" (Decoder.dictionary Decoder.string),
   Decoder.field "meta" (RouteSettings.decodeInside 1),
   Decoder.field "openType" (Codec.decode (α := OpenType))]

/-- Where an object leaves the identifier out it has none, but an array has to give it. -/
def idOf (given : Decoder.Given) : Except DecodeError (Option Nat) :=
  given.get "id" (Decoder.optional Decoder.word) <|
    -- In an array the fields are told apart by their places, so none may be left out.
    match given.absent "id" with
    | .missingField _ => .ok none
    | error => .error error

/-- The page instance from the fields that are given. -/
def ofGiven (given : Decoder.Given) : Except DecodeError Instance := do
  return {
    id := ← idOf given
    path := ← given.need "path" Decoder.string
    route := ← given.need "route" Decoder.string
    fullPath := ← given.need "fullPath" Decoder.string
    options := ← given.need "options" (Decoder.dictionary Decoder.string)
    settings := ← given.need "meta" (RouteSettings.decodeInside 1)
    openType := ← given.need "openType" Codec.decode }

instance : Codec Instance where
  decode draft := do ofGiven (← Decoder.record "PageInstance" fields draft)
  encode page := .object
    [("id", ofOption (page.id.map ofNat)),
     ("path", .string page.path),
     ("route", .string page.route),
     ("fullPath", .string page.fullPath),
     ("options", encodeQuery page.options),
     ("meta", encode page.settings),
     ("openType", encode page.openType)]

end Instance

namespace SystemInfo

/-- The fields of the device. -/
def fields : List Decoder.Field :=
  [Decoder.field "platform" Decoder.string,
   Decoder.field "pixelRatio" Decoder.double,
   Decoder.field "windowWidth" Decoder.double]

/-- The device from the fields that are given. -/
def ofGiven (given : Decoder.Given) : Except DecodeError SystemInfo := do
  return {
    platform := ← given.need "platform" Decoder.string
    pixelRatio := ← given.need "pixelRatio" Decoder.double
    windowWidth := ← given.need "windowWidth" Decoder.double }

instance : Codec SystemInfo where
  decode draft := do ofGiven (← Decoder.record "BaseSystemInfo" fields draft)
  encode system := .object
    [("platform", .string system.platform),
     ("pixelRatio", ofDouble system.pixelRatio),
     ("windowWidth", ofDouble system.windowWidth)]

end SystemInfo

namespace Options

/-- The fields of the options of a page. -/
def fields : List Decoder.Field :=
  [Decoder.field "css" Decoder.bool,
   Decoder.field "route" Decoder.string,
   Decoder.field "version" Decoder.word,
   Decoder.field "locale" Decoder.string,
   Decoder.field "platform" Decoder.string,
   Decoder.field "pixelRatio" Decoder.double,
   Decoder.field "windowWidth" Decoder.double,
   Decoder.field "disableScroll" Decoder.bool,
   Decoder.field "onPageScroll" Decoder.bool,
   Decoder.field "onPageReachBottom" Decoder.bool,
   Decoder.field "onReachBottomDistance" Decoder.word,
   Decoder.field "statusbarHeight" Decoder.double,
   Decoder.field "windowTop" Decoder.double,
   Decoder.field "windowBottom" Decoder.double]

/-- The options of a page from the fields that are given. -/
def ofGiven (given : Decoder.Given) : Except DecodeError Options := do
  return {
    css := ← given.need "css" Decoder.bool
    route := ← given.need "route" Decoder.string
    version := ← given.need "version" Decoder.word
    locale := ← given.need "locale" Decoder.string
    platform := ← given.need "platform" Decoder.string
    pixelRatio := ← given.need "pixelRatio" Decoder.double
    windowWidth := ← given.need "windowWidth" Decoder.double
    disableScroll := ← given.need "disableScroll" Decoder.bool
    onPageScroll := ← given.need "onPageScroll" Decoder.bool
    onPageReachBottom := ← given.need "onPageReachBottom" Decoder.bool
    onReachBottomDistance := ← given.need "onReachBottomDistance" Decoder.word
    statusbarHeight := ← given.need "statusbarHeight" Decoder.double
    windowTop := ← given.need "windowTop" Decoder.double
    windowBottom := ← given.need "windowBottom" Decoder.double }

instance : Codec Options where
  decode draft := do ofGiven (← Decoder.record "PageNodeOptions" fields draft)
  encode options := .object
    [("css", .bool options.css),
     ("route", .string options.route),
     ("version", ofNat options.version),
     ("locale", .string options.locale),
     ("platform", .string options.platform),
     ("pixelRatio", ofDouble options.pixelRatio),
     ("windowWidth", ofDouble options.windowWidth),
     ("disableScroll", .bool options.disableScroll),
     ("onPageScroll", .bool options.onPageScroll),
     ("onPageReachBottom", .bool options.onPageReachBottom),
     ("onReachBottomDistance", ofNat options.onReachBottomDistance),
     ("statusbarHeight", ofDouble options.statusbarHeight),
     ("windowTop", ofDouble options.windowTop),
     ("windowBottom", ofDouble options.windowBottom)]

end Options

end MiniApp.Page
