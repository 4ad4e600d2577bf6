/-!
# Terminal keys

Named keysyms: the keys of block-mode terminals.
-/

set_option autoImplicit false

namespace Hotkeys.Keys.Keysym

/-- Names and values, the first name of a value being its usual one. -/
def terminalKeys : List (String × Nat) := [
  ("3270_Duplicate", 0xfd01), ("3270_FieldMark", 0xfd02), ("3270_Right2", 0xfd03),
  ("3270_Left2", 0xfd04), ("3270_BackTab", 0xfd05), ("3270_EraseEOF", 0xfd06),
  ("3270_EraseInput", 0xfd07), ("3270_Reset", 0xfd08), ("3270_Quit", 0xfd09), ("3270_PA1", 0xfd0a),
  ("3270_PA2", 0xfd0b), ("3270_PA3", 0xfd0c), ("3270_Test", 0xfd0d), ("3270_Attn", 0xfd0e),
  ("3270_CursorBlink", 0xfd0f), ("3270_AltCursor", 0xfd10), ("3270_KeyClick", 0xfd11),
  ("3270_Jump", 0xfd12), ("3270_Ident", 0xfd13), ("3270_Rule", 0xfd14), ("3270_Copy", 0xfd15),
  ("3270_Play", 0xfd16), ("3270_Setup", 0xfd17), ("3270_Record", 0xfd18),
  ("3270_ChangeScreen", 0xfd19), ("3270_DeleteWord", 0xfd1a), ("3270_ExSelect", 0xfd1b),
  ("3270_CursorSelect", 0xfd1c), ("3270_PrintScreen", 0xfd1d), ("3270_Enter", 0xfd1e)]

end Hotkeys.Keys.Keysym
