/-!
# Function keys

Named keysyms: the keys that do something rather than print something: editing, cursor, keypad,
function and modifier keys.
-/

set_option autoImplicit false

namespace Hotkeys.Keys.Keysym

/-- Names and values, the first name of a value being its usual one. -/
def functionKeys : List (String × Nat) := [
  ("VoidSymbol", 0xffffff), ("BackSpace", 0xff08), ("Tab", 0xff09), ("Linefeed", 0xff0a),
  ("Clear", 0xff0b), ("Return", 0xff0d), ("Pause", 0xff13), ("Scroll_Lock", 0xff14),
  ("Sys_Req", 0xff15), ("Escape", 0xff1b), ("Delete", 0xffff), ("Multi_key", 0xff20),
  ("Codeinput", 0xff37), ("SingleCandidate", 0xff3c), ("MultipleCandidate", 0xff3d),
  ("PreviousCandidate", 0xff3e), ("Kanji", 0xff21), ("Muhenkan", 0xff22), ("Henkan_Mode", 0xff23),
  ("Henkan", 0xff23), ("Romaji", 0xff24), ("Hiragana", 0xff25), ("Katakana", 0xff26),
  ("Hiragana_Katakana", 0xff27), ("Zenkaku", 0xff28), ("Hankaku", 0xff29),
  ("Zenkaku_Hankaku", 0xff2a), ("Touroku", 0xff2b), ("Massyo", 0xff2c), ("Kana_Lock", 0xff2d),
  ("Kana_Shift", 0xff2e), ("Eisu_Shift", 0xff2f), ("Eisu_toggle", 0xff30), ("Kanji_Bangou", 0xff37),
  ("Zen_Koho", 0xff3d), ("Mae_Koho", 0xff3e), ("Home", 0xff50), ("Left", 0xff51), ("Up", 0xff52),
  ("Right", 0xff53), ("Down", 0xff54), ("Prior", 0xff55), ("Page_Up", 0xff55), ("Next", 0xff56),
  ("Page_Down", 0xff56), ("End", 0xff57), ("Begin", 0xff58), ("Select", 0xff60), ("Print", 0xff61),
  ("Execute", 0xff62), ("Insert", 0xff63), ("Undo", 0xff65), ("Redo", 0xff66), ("Menu", 0xff67),
  ("Find", 0xff68), ("Cancel", 0xff69), ("Help", 0xff6a), ("Break", 0xff6b),
  ("Mode_switch", 0xff7e), ("script_switch", 0xff7e), ("Num_Lock", 0xff7f), ("KP_Space", 0xff80),
  ("KP_Tab", 0xff89), ("KP_Enter", 0xff8d), ("KP_F1", 0xff91), ("KP_F2", 0xff92), ("KP_F3", 0xff93),
  ("KP_F4", 0xff94), ("KP_Home", 0xff95), ("KP_Left", 0xff96), ("KP_Up", 0xff97),
  ("KP_Right", 0xff98), ("KP_Down", 0xff99), ("KP_Prior", 0xff9a), ("KP_Page_Up", 0xff9a),
  ("KP_Next", 0xff9b), ("KP_Page_Down", 0xff9b), ("KP_End", 0xff9c), ("KP_Begin", 0xff9d),
  ("KP_Insert", 0xff9e), ("KP_Delete", 0xff9f), ("KP_Equal", 0xffbd), ("KP_Multiply", 0xffaa),
  ("KP_Add", 0xffab), ("KP_Separator", 0xffac), ("KP_Subtract", 0xffad), ("KP_Decimal", 0xffae),
  ("KP_Divide", 0xffaf), ("KP_0", 0xffb0), ("KP_1", 0xffb1), ("KP_2", 0xffb2), ("KP_3", 0xffb3),
  ("KP_4", 0xffb4), ("KP_5", 0xffb5), ("KP_6", 0xffb6), ("KP_7", 0xffb7), ("KP_8", 0xffb8),
  ("KP_9", 0xffb9), ("F1", 0xffbe), ("F2", 0xffbf), ("F3", 0xffc0), ("F4", 0xffc1), ("F5", 0xffc2),
  ("F6", 0xffc3), ("F7", 0xffc4), ("F8", 0xffc5), ("F9", 0xffc6), ("F10", 0xffc7), ("F11", 0xffc8),
  ("L1", 0xffc8), ("F12", 0xffc9), ("L2", 0xffc9), ("F13", 0xffca), ("L3", 0xffca), ("F14", 0xffcb),
  ("L4", 0xffcb), ("F15", 0xffcc), ("L5", 0xffcc), ("F16", 0xffcd), ("L6", 0xffcd), ("F17", 0xffce),
  ("L7", 0xffce), ("F18", 0xffcf), ("L8", 0xffcf), ("F19", 0xffd0), ("L9", 0xffd0), ("F20", 0xffd1),
  ("L10", 0xffd1), ("F21", 0xffd2), ("R1", 0xffd2), ("F22", 0xffd3), ("R2", 0xffd3),
  ("F23", 0xffd4), ("R3", 0xffd4), ("F24", 0xffd5), ("R4", 0xffd5), ("F25", 0xffd6), ("R5", 0xffd6),
  ("F26", 0xffd7), ("R6", 0xffd7), ("F27", 0xffd8), ("R7", 0xffd8), ("F28", 0xffd9), ("R8", 0xffd9),
  ("F29", 0xffda), ("R9", 0xffda), ("F30", 0xffdb), ("R10", 0xffdb), ("F31", 0xffdc),
  ("R11", 0xffdc), ("F32", 0xffdd), ("R12", 0xffdd), ("F33", 0xffde), ("R13", 0xffde),
  ("F34", 0xffdf), ("R14", 0xffdf), ("F35", 0xffe0), ("R15", 0xffe0), ("Shift_L", 0xffe1),
  ("Shift_R", 0xffe2), ("Control_L", 0xffe3), ("Control_R", 0xffe4), ("Caps_Lock", 0xffe5),
  ("Shift_Lock", 0xffe6), ("Meta_L", 0xffe7), ("Meta_R", 0xffe8), ("Alt_L", 0xffe9),
  ("Alt_R", 0xffea), ("Super_L", 0xffeb), ("Super_R", 0xffec), ("Hyper_L", 0xffed),
  ("Hyper_R", 0xffee)]

end Hotkeys.Keys.Keysym
