/-!
# Latching and dead keys

Named keysyms: group switching, dead accents and accessibility keys.
-/

set_option autoImplicit false

namespace Hotkeys.Keys.Keysym

/-- Names and values, the first name of a value being its usual one. -/
def latchingKeys : List (String × Nat) := [
  ("ISO_Lock", 0xfe01), ("ISO_Level2_Latch", 0xfe02), ("ISO_Level3_Shift", 0xfe03),
  ("ISO_Level3_Latch", 0xfe04), ("ISO_Level3_Lock", 0xfe05), ("ISO_Level5_Shift", 0xfe11),
  ("ISO_Level5_Latch", 0xfe12), ("ISO_Level5_Lock", 0xfe13), ("ISO_Group_Shift", 0xff7e),
  ("ISO_Group_Latch", 0xfe06), ("ISO_Group_Lock", 0xfe07), ("ISO_Next_Group", 0xfe08),
  ("ISO_Next_Group_Lock", 0xfe09), ("ISO_Prev_Group", 0xfe0a), ("ISO_Prev_Group_Lock", 0xfe0b),
  ("ISO_First_Group", 0xfe0c), ("ISO_First_Group_Lock", 0xfe0d), ("ISO_Last_Group", 0xfe0e),
  ("ISO_Last_Group_Lock", 0xfe0f), ("ISO_Left_Tab", 0xfe20), ("ISO_Move_Line_Up", 0xfe21),
  ("ISO_Move_Line_Down", 0xfe22), ("ISO_Partial_Line_Up", 0xfe23),
  ("ISO_Partial_Line_Down", 0xfe24), ("ISO_Partial_Space_Left", 0xfe25),
  ("ISO_Partial_Space_Right", 0xfe26), ("ISO_Set_Margin_Left", 0xfe27),
  ("ISO_Set_Margin_Right", 0xfe28), ("ISO_Release_Margin_Left", 0xfe29),
  ("ISO_Release_Margin_Right", 0xfe2a), ("ISO_Release_Both_Margins", 0xfe2b),
  ("ISO_Fast_Cursor_Left", 0xfe2c), ("ISO_Fast_Cursor_Right", 0xfe2d),
  ("ISO_Fast_Cursor_Up", 0xfe2e), ("ISO_Fast_Cursor_Down", 0xfe2f),
  ("ISO_Continuous_Underline", 0xfe30), ("ISO_Discontinuous_Underline", 0xfe31),
  ("ISO_Emphasize", 0xfe32), ("ISO_Center_Object", 0xfe33), ("ISO_Enter", 0xfe34),
  ("dead_grave", 0xfe50), ("dead_acute", 0xfe51), ("dead_circumflex", 0xfe52),
  ("dead_tilde", 0xfe53), ("dead_perispomeni", 0xfe53), ("dead_macron", 0xfe54),
  ("dead_breve", 0xfe55), ("dead_abovedot", 0xfe56), ("dead_diaeresis", 0xfe57),
  ("dead_abovering", 0xfe58), ("dead_doubleacute", 0xfe59), ("dead_caron", 0xfe5a),
  ("dead_cedilla", 0xfe5b), ("dead_ogonek", 0xfe5c), ("dead_iota", 0xfe5d),
  ("dead_voiced_sound", 0xfe5e), ("dead_semivoiced_sound", 0xfe5f), ("dead_belowdot", 0xfe60),
  ("dead_hook", 0xfe61), ("dead_horn", 0xfe62), ("dead_stroke", 0xfe63),
  ("dead_abovecomma", 0xfe64), ("dead_psili", 0xfe64), ("dead_abovereversedcomma", 0xfe65),
  ("dead_dasia", 0xfe65), ("dead_doublegrave", 0xfe66), ("dead_belowring", 0xfe67),
  ("dead_belowmacron", 0xfe68), ("dead_belowcircumflex", 0xfe69), ("dead_belowtilde", 0xfe6a),
  ("dead_belowbreve", 0xfe6b), ("dead_belowdiaeresis", 0xfe6c), ("dead_invertedbreve", 0xfe6d),
  ("dead_belowcomma", 0xfe6e), ("dead_currency", 0xfe6f), ("dead_lowline", 0xfe90),
  ("dead_aboveverticalline", 0xfe91), ("dead_belowverticalline", 0xfe92),
  ("dead_longsolidusoverlay", 0xfe93), ("dead_a", 0xfe80), ("dead_A", 0xfe81), ("dead_e", 0xfe82),
  ("dead_E", 0xfe83), ("dead_i", 0xfe84), ("dead_I", 0xfe85), ("dead_o", 0xfe86),
  ("dead_O", 0xfe87), ("dead_u", 0xfe88), ("dead_U", 0xfe89), ("dead_small_schwa", 0xfe8a),
  ("dead_capital_schwa", 0xfe8b), ("dead_greek", 0xfe8c), ("First_Virtual_Screen", 0xfed0),
  ("Prev_Virtual_Screen", 0xfed1), ("Next_Virtual_Screen", 0xfed2), ("Last_Virtual_Screen", 0xfed4),
  ("Terminate_Server", 0xfed5), ("AccessX_Enable", 0xfe70), ("AccessX_Feedback_Enable", 0xfe71),
  ("RepeatKeys_Enable", 0xfe72), ("SlowKeys_Enable", 0xfe73), ("BounceKeys_Enable", 0xfe74),
  ("StickyKeys_Enable", 0xfe75), ("MouseKeys_Enable", 0xfe76), ("MouseKeys_Accel_Enable", 0xfe77),
  ("Overlay1_Enable", 0xfe78), ("Overlay2_Enable", 0xfe79), ("AudibleBell_Enable", 0xfe7a),
  ("Pointer_Left", 0xfee0), ("Pointer_Right", 0xfee1), ("Pointer_Up", 0xfee2),
  ("Pointer_Down", 0xfee3), ("Pointer_UpLeft", 0xfee4), ("Pointer_UpRight", 0xfee5),
  ("Pointer_DownLeft", 0xfee6), ("Pointer_DownRight", 0xfee7), ("Pointer_Button_Dflt", 0xfee8),
  ("Pointer_Button1", 0xfee9), ("Pointer_Button2", 0xfeea), ("Pointer_Button3", 0xfeeb),
  ("Pointer_Button4", 0xfeec), ("Pointer_Button5", 0xfeed), ("Pointer_DblClick_Dflt", 0xfeee),
  ("Pointer_DblClick1", 0xfeef), ("Pointer_DblClick2", 0xfef0), ("Pointer_DblClick3", 0xfef1),
  ("Pointer_DblClick4", 0xfef2), ("Pointer_DblClick5", 0xfef3), ("Pointer_Drag_Dflt", 0xfef4),
  ("Pointer_Drag1", 0xfef5), ("Pointer_Drag2", 0xfef6), ("Pointer_Drag3", 0xfef7),
  ("Pointer_Drag4", 0xfef8), ("Pointer_Drag5", 0xfefd), ("Pointer_EnableKeys", 0xfef9),
  ("Pointer_Accelerate", 0xfefa), ("Pointer_DfltBtnNext", 0xfefb), ("Pointer_DfltBtnPrev", 0xfefc),
  ("ch", 0xfea0), ("Ch", 0xfea1), ("CH", 0xfea2), ("c_h", 0xfea3), ("C_h", 0xfea4), ("C_H", 0xfea5)]

end Hotkeys.Keys.Keysym
