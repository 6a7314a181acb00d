import PacketRefusal.Log
import PacketRefusal.Startup.Error
import PacketRefusal.Text.Quoted

/-!
# Opening the diversion device

The diversion driver exists on one platform only. Elsewhere opening it fails, after a record that
shows what was asked for.
-/

set_option autoImplicit false
set_option relaxedAutoImplicit false

namespace PacketRefusal.Device

/-- The record of an attempt to open a device where there is no driver. -/
def missingDriver (filter : String) (priority : Int) : Log.Record :=
  ⟨.debug, "迂回ドライバがありません (filter=" ++ Text.quoted filter ++ ", priority=" ++
    toString priority ++ ")"⟩

/-- What comes of opening a device without a driver: what is logged, and the error. -/
def openWithoutDriver (filter : String) (priority : Int) : List Log.Record × StartError :=
  ([missingDriver filter priority], .unsupportedPlatform)

end PacketRefusal.Device
