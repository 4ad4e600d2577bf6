/-!
# Vendor keys

Named keysyms: multimedia, power and other hardware keys.
-/

set_option autoImplicit false

namespace Hotkeys.Keys.Keysym

/-- Names and values, the first name of a value being its usual one. -/
def vendorKeys : List (String × Nat) := [
  ("XF86ModeLock", 0x1008ff01), ("XF86MonBrightnessUp", 0x1008ff02),
  ("XF86MonBrightnessDown", 0x1008ff03), ("XF86KbdLightOnOff", 0x1008ff04),
  ("XF86KbdBrightnessUp", 0x1008ff05), ("XF86KbdBrightnessDown", 0x1008ff06),
  ("XF86MonBrightnessCycle", 0x1008ff07), ("XF86Standby", 0x1008ff10),
  ("XF86AudioLowerVolume", 0x1008ff11), ("XF86AudioMute", 0x1008ff12),
  ("XF86AudioRaiseVolume", 0x1008ff13), ("XF86AudioPlay", 0x1008ff14),
  ("XF86AudioStop", 0x1008ff15), ("XF86AudioPrev", 0x1008ff16), ("XF86AudioNext", 0x1008ff17),
  ("XF86HomePage", 0x1008ff18), ("XF86Mail", 0x1008ff19), ("XF86Start", 0x1008ff1a),
  ("XF86Search", 0x1008ff1b), ("XF86AudioRecord", 0x1008ff1c), ("XF86Calculator", 0x1008ff1d),
  ("XF86Memo", 0x1008ff1e), ("XF86ToDoList", 0x1008ff1f), ("XF86Calendar", 0x1008ff20),
  ("XF86PowerDown", 0x1008ff21), ("XF86ContrastAdjust", 0x1008ff22), ("XF86RockerUp", 0x1008ff23),
  ("XF86RockerDown", 0x1008ff24), ("XF86RockerEnter", 0x1008ff25), ("XF86Back", 0x1008ff26),
  ("XF86Forward", 0x1008ff27), ("XF86Stop", 0x1008ff28), ("XF86Refresh", 0x1008ff29),
  ("XF86PowerOff", 0x1008ff2a), ("XF86WakeUp", 0x1008ff2b), ("XF86Eject", 0x1008ff2c),
  ("XF86ScreenSaver", 0x1008ff2d), ("XF86WWW", 0x1008ff2e), ("XF86Sleep", 0x1008ff2f),
  ("XF86Favorites", 0x1008ff30), ("XF86AudioPause", 0x1008ff31), ("XF86AudioMedia", 0x1008ff32),
  ("XF86MyComputer", 0x1008ff33), ("XF86VendorHome", 0x1008ff34), ("XF86LightBulb", 0x1008ff35),
  ("XF86Shop", 0x1008ff36), ("XF86History", 0x1008ff37), ("XF86OpenURL", 0x1008ff38),
  ("XF86AddFavorite", 0x1008ff39), ("XF86HotLinks", 0x1008ff3a),
  ("XF86BrightnessAdjust", 0x1008ff3b), ("XF86Finance", 0x1008ff3c), ("XF86Community", 0x1008ff3d),
  ("XF86AudioRewind", 0x1008ff3e), ("XF86BackForward", 0x1008ff3f), ("XF86Launch0", 0x1008ff40),
  ("XF86Launch1", 0x1008ff41), ("XF86Launch2", 0x1008ff42), ("XF86Launch3", 0x1008ff43),
  ("XF86Launch4", 0x1008ff44), ("XF86Launch5", 0x1008ff45), ("XF86Launch6", 0x1008ff46),
  ("XF86Launch7", 0x1008ff47), ("XF86Launch8", 0x1008ff48), ("XF86Launch9", 0x1008ff49),
  ("XF86LaunchA", 0x1008ff4a), ("XF86LaunchB", 0x1008ff4b), ("XF86LaunchC", 0x1008ff4c),
  ("XF86LaunchD", 0x1008ff4d), ("XF86LaunchE", 0x1008ff4e), ("XF86LaunchF", 0x1008ff4f),
  ("XF86ApplicationLeft", 0x1008ff50), ("XF86ApplicationRight", 0x1008ff51),
  ("XF86Book", 0x1008ff52), ("XF86CD", 0x1008ff53), ("XF86Calculater", 0x1008ff54),
  ("XF86Clear", 0x1008ff55), ("XF86Close", 0x1008ff56), ("XF86Copy", 0x1008ff57),
  ("XF86Cut", 0x1008ff58), ("XF86Display", 0x1008ff59), ("XF86DOS", 0x1008ff5a),
  ("XF86Documents", 0x1008ff5b), ("XF86Excel", 0x1008ff5c), ("XF86Explorer", 0x1008ff5d),
  ("XF86Game", 0x1008ff5e), ("XF86Go", 0x1008ff5f), ("XF86iTouch", 0x1008ff60),
  ("XF86LogOff", 0x1008ff61), ("XF86Market", 0x1008ff62), ("XF86Meeting", 0x1008ff63),
  ("XF86MenuKB", 0x1008ff65), ("XF86MenuPB", 0x1008ff66), ("XF86MySites", 0x1008ff67),
  ("XF86New", 0x1008ff68), ("XF86News", 0x1008ff69), ("XF86OfficeHome", 0x1008ff6a),
  ("XF86Open", 0x1008ff6b), ("XF86Option", 0x1008ff6c), ("XF86Paste", 0x1008ff6d),
  ("XF86Phone", 0x1008ff6e), ("XF86Q", 0x1008ff70), ("XF86Reply", 0x1008ff72),
  ("XF86Reload", 0x1008ff73), ("XF86RotateWindows", 0x1008ff74), ("XF86RotationPB", 0x1008ff75),
  ("XF86RotationKB", 0x1008ff76), ("XF86Save", 0x1008ff77), ("XF86ScrollUp", 0x1008ff78),
  ("XF86ScrollDown", 0x1008ff79), ("XF86ScrollClick", 0x1008ff7a), ("XF86Send", 0x1008ff7b),
  ("XF86Spell", 0x1008ff7c), ("XF86SplitScreen", 0x1008ff7d), ("XF86Support", 0x1008ff7e),
  ("XF86TaskPane", 0x1008ff7f), ("XF86Terminal", 0x1008ff80), ("XF86Tools", 0x1008ff81),
  ("XF86Travel", 0x1008ff82), ("XF86UserPB", 0x1008ff84), ("XF86User1KB", 0x1008ff85),
  ("XF86User2KB", 0x1008ff86), ("XF86Video", 0x1008ff87), ("XF86WheelButton", 0x1008ff88),
  ("XF86Word", 0x1008ff89), ("XF86Xfer", 0x1008ff8a), ("XF86ZoomIn", 0x1008ff8b),
  ("XF86ZoomOut", 0x1008ff8c), ("XF86Away", 0x1008ff8d), ("XF86Messenger", 0x1008ff8e),
  ("XF86WebCam", 0x1008ff8f), ("XF86MailForward", 0x1008ff90), ("XF86Pictures", 0x1008ff91),
  ("XF86Music", 0x1008ff92), ("XF86Battery", 0x1008ff93), ("XF86Bluetooth", 0x1008ff94),
  ("XF86WLAN", 0x1008ff95), ("XF86UWB", 0x1008ff96), ("XF86AudioForward", 0x1008ff97),
  ("XF86AudioRepeat", 0x1008ff98), ("XF86AudioRandomPlay", 0x1008ff99),
  ("XF86Subtitle", 0x1008ff9a), ("XF86AudioCycleTrack", 0x1008ff9b), ("XF86CycleAngle", 0x1008ff9c),
  ("XF86FrameBack", 0x1008ff9d), ("XF86FrameForward", 0x1008ff9e), ("XF86Time", 0x1008ff9f),
  ("XF86Select", 0x1008ffa0), ("XF86View", 0x1008ffa1), ("XF86TopMenu", 0x1008ffa2),
  ("XF86Red", 0x1008ffa3), ("XF86Green", 0x1008ffa4), ("XF86Yellow", 0x1008ffa5),
  ("XF86Blue", 0x1008ffa6), ("XF86Suspend", 0x1008ffa7), ("XF86Hibernate", 0x1008ffa8),
  ("XF86TouchpadToggle", 0x1008ffa9), ("XF86TouchpadOn", 0x1008ffb0),
  ("XF86TouchpadOff", 0x1008ffb1), ("XF86AudioMicMute", 0x1008ffb2), ("XF86Keyboard", 0x1008ffb3),
  ("XF86WWAN", 0x1008ffb4), ("XF86RFKill", 0x1008ffb5), ("XF86AudioPreset", 0x1008ffb6),
  ("XF86RotationLockToggle", 0x1008ffb7), ("XF86FullScreen", 0x1008ffb8),
  ("XF86Switch_VT_1", 0x1008fe01), ("XF86Switch_VT_2", 0x1008fe02), ("XF86Switch_VT_3", 0x1008fe03),
  ("XF86Switch_VT_4", 0x1008fe04), ("XF86Switch_VT_5", 0x1008fe05), ("XF86Switch_VT_6", 0x1008fe06),
  ("XF86Switch_VT_7", 0x1008fe07), ("XF86Switch_VT_8", 0x1008fe08), ("XF86Switch_VT_9", 0x1008fe09),
  ("XF86Switch_VT_10", 0x1008fe0a), ("XF86Switch_VT_11", 0x1008fe0b),
  ("XF86Switch_VT_12", 0x1008fe0c), ("XF86Ungrab", 0x1008fe20), ("XF86ClearGrab", 0x1008fe21),
  ("XF86Next_VMode", 0x1008fe22), ("XF86Prev_VMode", 0x1008fe23), ("XF86LogWindowTree", 0x1008fe24),
  ("XF86LogGrabInfo", 0x1008fe25), ("XF86BrightnessAuto", 0x100810f4),
  ("XF86DisplayOff", 0x100810f5), ("XF86Info", 0x10081166), ("XF86AspectRatio", 0x10081177),
  ("XF86DVD", 0x10081185), ("XF86Audio", 0x10081188), ("XF86ChannelUp", 0x10081192),
  ("XF86ChannelDown", 0x10081193), ("XF86Break", 0x1008119b), ("XF86VideoPhone", 0x100811a0),
  ("XF86ZoomReset", 0x100811a4), ("XF86Editor", 0x100811a6), ("XF86GraphicsEditor", 0x100811a8),
  ("XF86Presentation", 0x100811a9), ("XF86Database", 0x100811aa), ("XF86Voicemail", 0x100811ac),
  ("XF86Addressbook", 0x100811ad), ("XF86DisplayToggle", 0x100811af),
  ("XF86SpellCheck", 0x100811b0), ("XF86ContextMenu", 0x100811b6), ("XF86MediaRepeat", 0x100811b7),
  ("XF8610ChannelsUp", 0x100811b8), ("XF8610ChannelsDown", 0x100811b9), ("XF86Images", 0x100811ba),
  ("XF86NotificationCenter", 0x100811bc), ("XF86PickupPhone", 0x100811bd),
  ("XF86HangupPhone", 0x100811be), ("XF86Fn", 0x100811d0), ("XF86Fn_Esc", 0x100811d1),
  ("XF86FnRightShift", 0x100811e5), ("XF86Numeric0", 0x10081200), ("XF86Numeric1", 0x10081201),
  ("XF86Numeric2", 0x10081202), ("XF86Numeric3", 0x10081203), ("XF86Numeric4", 0x10081204),
  ("XF86Numeric5", 0x10081205), ("XF86Numeric6", 0x10081206), ("XF86Numeric7", 0x10081207),
  ("XF86Numeric8", 0x10081208), ("XF86Numeric9", 0x10081209), ("XF86NumericStar", 0x1008120a),
  ("XF86NumericPound", 0x1008120b), ("XF86NumericA", 0x1008120c), ("XF86NumericB", 0x1008120d),
  ("XF86NumericC", 0x1008120e), ("XF86NumericD", 0x1008120f), ("XF86CameraFocus", 0x10081210),
  ("XF86WPSButton", 0x10081211), ("XF86CameraZoomIn", 0x10081215),
  ("XF86CameraZoomOut", 0x10081216), ("XF86CameraUp", 0x10081217), ("XF86CameraDown", 0x10081218),
  ("XF86CameraLeft", 0x10081219), ("XF86CameraRight", 0x1008121a), ("XF86AttendantOn", 0x1008121b),
  ("XF86AttendantOff", 0x1008121c), ("XF86AttendantToggle", 0x1008121d),
  ("XF86LightsToggle", 0x1008121e), ("XF86ALSToggle", 0x10081230), ("XF86Buttonconfig", 0x10081240),
  ("XF86Taskmanager", 0x10081241), ("XF86Journal", 0x10081242), ("XF86ControlPanel", 0x10081243),
  ("XF86AppSelect", 0x10081244), ("XF86Screensaver", 0x10081245), ("XF86VoiceCommand", 0x10081246),
  ("XF86Assistant", 0x10081247), ("XF86EmojiPicker", 0x10081249), ("XF86Dictate", 0x1008124a),
  ("XF86BrightnessMin", 0x10081250), ("XF86BrightnessMax", 0x10081251),
  ("XF86KbdInputAssistPrev", 0x10081260), ("XF86KbdInputAssistNext", 0x10081261),
  ("XF86KbdInputAssistPrevgroup", 0x10081262), ("XF86KbdInputAssistNextgroup", 0x10081263),
  ("XF86KbdInputAssistAccept", 0x10081264), ("XF86KbdInputAssistCancel", 0x10081265),
  ("XF86RightUp", 0x10081266), ("XF86RightDown", 0x10081267), ("XF86LeftUp", 0x10081268),
  ("XF86LeftDown", 0x10081269), ("XF86RootMenu", 0x1008126a), ("XF86MediaTopMenu", 0x1008126b),
  ("XF86Numeric11", 0x1008126c), ("XF86Numeric12", 0x1008126d), ("XF86AudioDesc", 0x1008126e),
  ("XF863DMode", 0x1008126f), ("XF86NextFavorite", 0x10081270), ("XF86StopRecord", 0x10081271),
  ("XF86PauseRecord", 0x10081272), ("XF86VOD", 0x10081273), ("XF86Unmute", 0x10081274),
  ("XF86FastReverse", 0x10081275), ("XF86SlowReverse", 0x10081276), ("XF86Data", 0x10081277),
  ("XF86OnScreenKeyboard", 0x10081278), ("XF86PrivacyScreenToggle", 0x10081279),
  ("XF86SelectiveScreenshot", 0x1008127a), ("XF86Macro1", 0x10081290), ("XF86Macro2", 0x10081291),
  ("XF86Macro3", 0x10081292), ("XF86Macro4", 0x10081293), ("XF86Macro5", 0x10081294),
  ("XF86Macro6", 0x10081295), ("XF86Macro7", 0x10081296), ("XF86Macro8", 0x10081297),
  ("XF86Macro9", 0x10081298), ("XF86Macro10", 0x10081299), ("XF86Macro11", 0x1008129a),
  ("XF86Macro12", 0x1008129b), ("XF86Macro13", 0x1008129c), ("XF86Macro14", 0x1008129d),
  ("XF86Macro15", 0x1008129e), ("XF86Macro16", 0x1008129f), ("XF86Macro17", 0x100812a0),
  ("XF86Macro18", 0x100812a1), ("XF86Macro19", 0x100812a2), ("XF86Macro20", 0x100812a3),
  ("XF86Macro21", 0x100812a4), ("XF86Macro22", 0x100812a5), ("XF86Macro23", 0x100812a6),
  ("XF86Macro24", 0x100812a7), ("XF86Macro25", 0x100812a8), ("XF86Macro26", 0x100812a9),
  ("XF86Macro27", 0x100812aa), ("XF86Macro28", 0x100812ab), ("XF86Macro29", 0x100812ac),
  ("XF86Macro30", 0x100812ad), ("XF86MacroRecordStart", 0x100812b0),
  ("XF86MacroRecordStop", 0x100812b1), ("XF86MacroPresetCycle", 0x100812b2),
  ("XF86MacroPreset1", 0x100812b3), ("XF86MacroPreset2", 0x100812b4),
  ("XF86MacroPreset3", 0x100812b5), ("XF86KbdLcdMenu1", 0x100812b8),
  ("XF86KbdLcdMenu2", 0x100812b9), ("XF86KbdLcdMenu3", 0x100812ba), ("XF86KbdLcdMenu4", 0x100812bb),
  ("XF86KbdLcdMenu5", 0x100812bc)]

end Hotkeys.Keys.Keysym
