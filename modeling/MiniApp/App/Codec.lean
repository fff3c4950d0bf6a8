import MiniApp.App.Config
import MiniApp.Json.Decode

/-!
# The configuration of an app as JSON
-/

set_option autoImplicit false

namespace MiniApp.App

open MiniApp.Json

namespace SplashConfig

/-- The fields of the settings of the splash screen. -/
def fields : List Decoder.Field :=
  [Decoder.field "autoclose" Decoder.bool,
   Decoder.field "alwaysShowBeforeRender" Decoder.bool]

/-- The settings of the splash screen from the fields that are given. -/
def ofGiven (given : Decoder.Given) : Except DecodeError SplashConfig := do
  return {
    autoclose := ← given.default "autoclose" Decoder.bool false
    alwaysShowBeforeRender := ← given.default "alwaysShowBeforeRender" Decoder.bool false }

instance : Codec SplashConfig where
  decode draft := do ofGiven (← Decoder.record "SplashscreenConfig" fields draft)
  encode config := .object
    [("autoclose", .bool config.autoclose),
     ("alwaysShowBeforeRender", .bool config.alwaysShowBeforeRender)]

end SplashConfig

namespace TabBarItem

/-- The fields of an entry of the tab bar. -/
def fields : List Decoder.Field :=
  [Decoder.field "pagePath" Decoder.string]

/-- The entry of the tab bar from the fields that are given. -/
def ofGiven (given : Decoder.Given) : Except DecodeError TabBarItem := do
  return { pagePath := ← given.need "pagePath" Decoder.string }

instance : Codec TabBarItem where
  decode draft := do ofGiven (← Decoder.record "TabBarItem" fields draft)
  encode item := .object [("pagePath", .string item.pagePath)]

end TabBarItem

namespace TabBarConfig

/-- The fields of the settings of the tab bar. -/
def fields : List Decoder.Field :=
  [Decoder.field "list" (Decoder.list (Codec.decode (α := TabBarItem))),
   Decoder.field "cover" Decoder.bool,
   Decoder.field "height" Decoder.double]

/-- The settings of the tab bar from the fields that are given. -/
def ofGiven (given : Decoder.Given) : Except DecodeError TabBarConfig := do
  return {
    list := ← given.default "list" (Decoder.list Codec.decode) []
    cover := ← given.default "cover" Decoder.bool false
    height := ← given.default "height" Decoder.double .zero }

instance : Codec TabBarConfig where
  decode draft := do ofGiven (← Decoder.record "TabBarConfig" fields draft)
  encode config := .object
    [("list", .array (config.list.map encode)),
     ("cover", .bool config.cover),
     ("height", ofDouble config.height)]

end TabBarConfig

namespace Config

/-- The fields of the configuration. -/
def fields : List Decoder.Field :=
  [Decoder.field "splashscreen" (Codec.decode (α := SplashConfig)),
   Decoder.field "tabBar" (Codec.decode (α := TabBarConfig)),
   Decoder.field "navigationBarHeight" Decoder.double,
   Decoder.field "onReachBottomDistance" Decoder.word]

/-- The configuration from the fields that are given. -/
def ofGiven (given : Decoder.Given) : Except DecodeError Config := do
  let standard : Config := {}
  return {
    splash := ← given.default "splashscreen" Codec.decode standard.splash
    tabBar := ← given.default "tabBar" Codec.decode standard.tabBar
    navigationBarHeight :=
      ← given.default "navigationBarHeight" Decoder.double standard.navigationBarHeight
    onReachBottomDistance :=
      ← given.default "onReachBottomDistance" Decoder.word standard.onReachBottomDistance }

instance : Codec Config where
  decode draft := do ofGiven (← Decoder.record "AppConfig" fields draft)
  encode config := .object
    [("splashscreen", encode config.splash),
     ("tabBar", encode config.tabBar),
     ("navigationBarHeight", ofDouble config.navigationBarHeight),
     ("onReachBottomDistance", ofNat config.onReachBottomDistance)]

end Config

end MiniApp.App
