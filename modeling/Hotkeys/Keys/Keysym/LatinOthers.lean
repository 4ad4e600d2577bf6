/-!
# Other Latin alphabets

Named keysyms: the letters of Latin-2 to Latin-9.
-/

set_option autoImplicit false

namespace Hotkeys.Keys.Keysym

/-- Names and values, the first name of a value being its usual one. -/
def otherLatinKeys : List (String × Nat) := [
  ("Aogonek", 0x1a1), ("breve", 0x1a2), ("Lstroke", 0x1a3), ("Lcaron", 0x1a5), ("Sacute", 0x1a6),
  ("Scaron", 0x1a9), ("Scedilla", 0x1aa), ("Tcaron", 0x1ab), ("Zacute", 0x1ac), ("Zcaron", 0x1ae),
  ("Zabovedot", 0x1af), ("aogonek", 0x1b1), ("ogonek", 0x1b2), ("lstroke", 0x1b3),
  ("lcaron", 0x1b5), ("sacute", 0x1b6), ("caron", 0x1b7), ("scaron", 0x1b9), ("scedilla", 0x1ba),
  ("tcaron", 0x1bb), ("zacute", 0x1bc), ("doubleacute", 0x1bd), ("zcaron", 0x1be),
  ("zabovedot", 0x1bf), ("Racute", 0x1c0), ("Abreve", 0x1c3), ("Lacute", 0x1c5), ("Cacute", 0x1c6),
  ("Ccaron", 0x1c8), ("Eogonek", 0x1ca), ("Ecaron", 0x1cc), ("Dcaron", 0x1cf), ("Dstroke", 0x1d0),
  ("Nacute", 0x1d1), ("Ncaron", 0x1d2), ("Odoubleacute", 0x1d5), ("Rcaron", 0x1d8),
  ("Uring", 0x1d9), ("Udoubleacute", 0x1db), ("Tcedilla", 0x1de), ("racute", 0x1e0),
  ("abreve", 0x1e3), ("lacute", 0x1e5), ("cacute", 0x1e6), ("ccaron", 0x1e8), ("eogonek", 0x1ea),
  ("ecaron", 0x1ec), ("dcaron", 0x1ef), ("dstroke", 0x1f0), ("nacute", 0x1f1), ("ncaron", 0x1f2),
  ("odoubleacute", 0x1f5), ("rcaron", 0x1f8), ("uring", 0x1f9), ("udoubleacute", 0x1fb),
  ("tcedilla", 0x1fe), ("abovedot", 0x1ff), ("Hstroke", 0x2a1), ("Hcircumflex", 0x2a6),
  ("Iabovedot", 0x2a9), ("Gbreve", 0x2ab), ("Jcircumflex", 0x2ac), ("hstroke", 0x2b1),
  ("hcircumflex", 0x2b6), ("idotless", 0x2b9), ("gbreve", 0x2bb), ("jcircumflex", 0x2bc),
  ("Cabovedot", 0x2c5), ("Ccircumflex", 0x2c6), ("Gabovedot", 0x2d5), ("Gcircumflex", 0x2d8),
  ("Ubreve", 0x2dd), ("Scircumflex", 0x2de), ("cabovedot", 0x2e5), ("ccircumflex", 0x2e6),
  ("gabovedot", 0x2f5), ("gcircumflex", 0x2f8), ("ubreve", 0x2fd), ("scircumflex", 0x2fe),
  ("kra", 0x3a2), ("kappa", 0x3a2), ("Rcedilla", 0x3a3), ("Itilde", 0x3a5), ("Lcedilla", 0x3a6),
  ("Emacron", 0x3aa), ("Gcedilla", 0x3ab), ("Tslash", 0x3ac), ("rcedilla", 0x3b3),
  ("itilde", 0x3b5), ("lcedilla", 0x3b6), ("emacron", 0x3ba), ("gcedilla", 0x3bb),
  ("tslash", 0x3bc), ("ENG", 0x3bd), ("eng", 0x3bf), ("Amacron", 0x3c0), ("Iogonek", 0x3c7),
  ("Eabovedot", 0x3cc), ("Imacron", 0x3cf), ("Ncedilla", 0x3d1), ("Omacron", 0x3d2),
  ("Kcedilla", 0x3d3), ("Uogonek", 0x3d9), ("Utilde", 0x3dd), ("Umacron", 0x3de),
  ("amacron", 0x3e0), ("iogonek", 0x3e7), ("eabovedot", 0x3ec), ("imacron", 0x3ef),
  ("ncedilla", 0x3f1), ("omacron", 0x3f2), ("kcedilla", 0x3f3), ("uogonek", 0x3f9),
  ("utilde", 0x3fd), ("umacron", 0x3fe), ("Wcircumflex", 0x1000174), ("wcircumflex", 0x1000175),
  ("Ycircumflex", 0x1000176), ("ycircumflex", 0x1000177), ("Babovedot", 0x1001e02),
  ("babovedot", 0x1001e03), ("Dabovedot", 0x1001e0a), ("dabovedot", 0x1001e0b),
  ("Fabovedot", 0x1001e1e), ("fabovedot", 0x1001e1f), ("Mabovedot", 0x1001e40),
  ("mabovedot", 0x1001e41), ("Pabovedot", 0x1001e56), ("pabovedot", 0x1001e57),
  ("Sabovedot", 0x1001e60), ("sabovedot", 0x1001e61), ("Tabovedot", 0x1001e6a),
  ("tabovedot", 0x1001e6b), ("Wgrave", 0x1001e80), ("wgrave", 0x1001e81), ("Wacute", 0x1001e82),
  ("wacute", 0x1001e83), ("Wdiaeresis", 0x1001e84), ("wdiaeresis", 0x1001e85),
  ("Ygrave", 0x1001ef2), ("ygrave", 0x1001ef3), ("OE", 0x13bc), ("oe", 0x13bd),
  ("Ydiaeresis", 0x13be)]

end Hotkeys.Keys.Keysym
