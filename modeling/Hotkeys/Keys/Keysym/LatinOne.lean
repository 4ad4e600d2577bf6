/-!
# Western Latin

Named keysyms: the characters of Latin-1.
-/

set_option autoImplicit false

namespace Hotkeys.Keys.Keysym

/-- Names and values, the first name of a value being its usual one. -/
def latinOneKeys : List (String × Nat) := [
  ("space", 0x20), ("exclam", 0x21), ("quotedbl", 0x22), ("numbersign", 0x23), ("dollar", 0x24),
  ("percent", 0x25), ("ampersand", 0x26), ("apostrophe", 0x27), ("quoteright", 0x27),
  ("parenleft", 0x28), ("parenright", 0x29), ("asterisk", 0x2a), ("plus", 0x2b), ("comma", 0x2c),
  ("minus", 0x2d), ("period", 0x2e), ("slash", 0x2f), ("0", 0x30), ("1", 0x31), ("2", 0x32),
  ("3", 0x33), ("4", 0x34), ("5", 0x35), ("6", 0x36), ("7", 0x37), ("8", 0x38), ("9", 0x39),
  ("colon", 0x3a), ("semicolon", 0x3b), ("less", 0x3c), ("equal", 0x3d), ("greater", 0x3e),
  ("question", 0x3f), ("at", 0x40), ("A", 0x41), ("B", 0x42), ("C", 0x43), ("D", 0x44), ("E", 0x45),
  ("F", 0x46), ("G", 0x47), ("H", 0x48), ("I", 0x49), ("J", 0x4a), ("K", 0x4b), ("L", 0x4c),
  ("M", 0x4d), ("N", 0x4e), ("O", 0x4f), ("P", 0x50), ("Q", 0x51), ("R", 0x52), ("S", 0x53),
  ("T", 0x54), ("U", 0x55), ("V", 0x56), ("W", 0x57), ("X", 0x58), ("Y", 0x59), ("Z", 0x5a),
  ("bracketleft", 0x5b), ("backslash", 0x5c), ("bracketright", 0x5d), ("asciicircum", 0x5e),
  ("underscore", 0x5f), ("grave", 0x60), ("quoteleft", 0x60), ("a", 0x61), ("b", 0x62), ("c", 0x63),
  ("d", 0x64), ("e", 0x65), ("f", 0x66), ("g", 0x67), ("h", 0x68), ("i", 0x69), ("j", 0x6a),
  ("k", 0x6b), ("l", 0x6c), ("m", 0x6d), ("n", 0x6e), ("o", 0x6f), ("p", 0x70), ("q", 0x71),
  ("r", 0x72), ("s", 0x73), ("t", 0x74), ("u", 0x75), ("v", 0x76), ("w", 0x77), ("x", 0x78),
  ("y", 0x79), ("z", 0x7a), ("braceleft", 0x7b), ("bar", 0x7c), ("braceright", 0x7d),
  ("asciitilde", 0x7e), ("nobreakspace", 0xa0), ("exclamdown", 0xa1), ("cent", 0xa2),
  ("sterling", 0xa3), ("currency", 0xa4), ("yen", 0xa5), ("brokenbar", 0xa6), ("section", 0xa7),
  ("diaeresis", 0xa8), ("copyright", 0xa9), ("ordfeminine", 0xaa), ("guillemotleft", 0xab),
  ("notsign", 0xac), ("hyphen", 0xad), ("registered", 0xae), ("macron", 0xaf), ("degree", 0xb0),
  ("plusminus", 0xb1), ("twosuperior", 0xb2), ("threesuperior", 0xb3), ("acute", 0xb4),
  ("mu", 0xb5), ("paragraph", 0xb6), ("periodcentered", 0xb7), ("cedilla", 0xb8),
  ("onesuperior", 0xb9), ("masculine", 0xba), ("guillemotright", 0xbb), ("onequarter", 0xbc),
  ("onehalf", 0xbd), ("threequarters", 0xbe), ("questiondown", 0xbf), ("Agrave", 0xc0),
  ("Aacute", 0xc1), ("Acircumflex", 0xc2), ("Atilde", 0xc3), ("Adiaeresis", 0xc4), ("Aring", 0xc5),
  ("AE", 0xc6), ("Ccedilla", 0xc7), ("Egrave", 0xc8), ("Eacute", 0xc9), ("Ecircumflex", 0xca),
  ("Ediaeresis", 0xcb), ("Igrave", 0xcc), ("Iacute", 0xcd), ("Icircumflex", 0xce),
  ("Idiaeresis", 0xcf), ("ETH", 0xd0), ("Eth", 0xd0), ("Ntilde", 0xd1), ("Ograve", 0xd2),
  ("Oacute", 0xd3), ("Ocircumflex", 0xd4), ("Otilde", 0xd5), ("Odiaeresis", 0xd6),
  ("multiply", 0xd7), ("Oslash", 0xd8), ("Ooblique", 0xd8), ("Ugrave", 0xd9), ("Uacute", 0xda),
  ("Ucircumflex", 0xdb), ("Udiaeresis", 0xdc), ("Yacute", 0xdd), ("THORN", 0xde), ("Thorn", 0xde),
  ("ssharp", 0xdf), ("agrave", 0xe0), ("aacute", 0xe1), ("acircumflex", 0xe2), ("atilde", 0xe3),
  ("adiaeresis", 0xe4), ("aring", 0xe5), ("ae", 0xe6), ("ccedilla", 0xe7), ("egrave", 0xe8),
  ("eacute", 0xe9), ("ecircumflex", 0xea), ("ediaeresis", 0xeb), ("igrave", 0xec), ("iacute", 0xed),
  ("icircumflex", 0xee), ("idiaeresis", 0xef), ("eth", 0xf0), ("ntilde", 0xf1), ("ograve", 0xf2),
  ("oacute", 0xf3), ("ocircumflex", 0xf4), ("otilde", 0xf5), ("odiaeresis", 0xf6),
  ("division", 0xf7), ("oslash", 0xf8), ("ooblique", 0xf8), ("ugrave", 0xf9), ("uacute", 0xfa),
  ("ucircumflex", 0xfb), ("udiaeresis", 0xfc), ("yacute", 0xfd), ("thorn", 0xfe),
  ("ydiaeresis", 0xff)]

end Hotkeys.Keys.Keysym
