/-!
# Technical signs

Named keysyms: mathematical, drawing, publishing and APL signs.
-/

set_option autoImplicit false

namespace Hotkeys.Keys.Keysym

/-- Names and values, the first name of a value being its usual one. -/
def technicalKeys : List (String × Nat) := [
  ("leftradical", 0x8a1), ("topleftradical", 0x8a2), ("horizconnector", 0x8a3),
  ("topintegral", 0x8a4), ("botintegral", 0x8a5), ("vertconnector", 0x8a6),
  ("topleftsqbracket", 0x8a7), ("botleftsqbracket", 0x8a8), ("toprightsqbracket", 0x8a9),
  ("botrightsqbracket", 0x8aa), ("topleftparens", 0x8ab), ("botleftparens", 0x8ac),
  ("toprightparens", 0x8ad), ("botrightparens", 0x8ae), ("leftmiddlecurlybrace", 0x8af),
  ("rightmiddlecurlybrace", 0x8b0), ("topleftsummation", 0x8b1), ("botleftsummation", 0x8b2),
  ("topvertsummationconnector", 0x8b3), ("botvertsummationconnector", 0x8b4),
  ("toprightsummation", 0x8b5), ("botrightsummation", 0x8b6), ("rightmiddlesummation", 0x8b7),
  ("lessthanequal", 0x8bc), ("notequal", 0x8bd), ("greaterthanequal", 0x8be), ("integral", 0x8bf),
  ("therefore", 0x8c0), ("variation", 0x8c1), ("infinity", 0x8c2), ("nabla", 0x8c5),
  ("approximate", 0x8c8), ("similarequal", 0x8c9), ("ifonlyif", 0x8cd), ("implies", 0x8ce),
  ("identical", 0x8cf), ("radical", 0x8d6), ("includedin", 0x8da), ("includes", 0x8db),
  ("intersection", 0x8dc), ("union", 0x8dd), ("logicaland", 0x8de), ("logicalor", 0x8df),
  ("partialderivative", 0x8ef), ("function", 0x8f6), ("leftarrow", 0x8fb), ("uparrow", 0x8fc),
  ("rightarrow", 0x8fd), ("downarrow", 0x8fe), ("blank", 0x9df), ("soliddiamond", 0x9e0),
  ("checkerboard", 0x9e1), ("ht", 0x9e2), ("ff", 0x9e3), ("cr", 0x9e4), ("lf", 0x9e5),
  ("nl", 0x9e8), ("vt", 0x9e9), ("lowrightcorner", 0x9ea), ("uprightcorner", 0x9eb),
  ("upleftcorner", 0x9ec), ("lowleftcorner", 0x9ed), ("crossinglines", 0x9ee),
  ("horizlinescan1", 0x9ef), ("horizlinescan3", 0x9f0), ("horizlinescan5", 0x9f1),
  ("horizlinescan7", 0x9f2), ("horizlinescan9", 0x9f3), ("leftt", 0x9f4), ("rightt", 0x9f5),
  ("bott", 0x9f6), ("topt", 0x9f7), ("vertbar", 0x9f8), ("emspace", 0xaa1), ("enspace", 0xaa2),
  ("em3space", 0xaa3), ("em4space", 0xaa4), ("digitspace", 0xaa5), ("punctspace", 0xaa6),
  ("thinspace", 0xaa7), ("hairspace", 0xaa8), ("emdash", 0xaa9), ("endash", 0xaaa),
  ("signifblank", 0xaac), ("ellipsis", 0xaae), ("doubbaselinedot", 0xaaf), ("onethird", 0xab0),
  ("twothirds", 0xab1), ("onefifth", 0xab2), ("twofifths", 0xab3), ("threefifths", 0xab4),
  ("fourfifths", 0xab5), ("onesixth", 0xab6), ("fivesixths", 0xab7), ("careof", 0xab8),
  ("figdash", 0xabb), ("leftanglebracket", 0xabc), ("decimalpoint", 0xabd),
  ("rightanglebracket", 0xabe), ("marker", 0xabf), ("oneeighth", 0xac3), ("threeeighths", 0xac4),
  ("fiveeighths", 0xac5), ("seveneighths", 0xac6), ("trademark", 0xac9), ("signaturemark", 0xaca),
  ("trademarkincircle", 0xacb), ("leftopentriangle", 0xacc), ("rightopentriangle", 0xacd),
  ("emopencircle", 0xace), ("emopenrectangle", 0xacf), ("leftsinglequotemark", 0xad0),
  ("rightsinglequotemark", 0xad1), ("leftdoublequotemark", 0xad2), ("rightdoublequotemark", 0xad3),
  ("prescription", 0xad4), ("permille", 0xad5), ("minutes", 0xad6), ("seconds", 0xad7),
  ("latincross", 0xad9), ("hexagram", 0xada), ("filledrectbullet", 0xadb),
  ("filledlefttribullet", 0xadc), ("filledrighttribullet", 0xadd), ("emfilledcircle", 0xade),
  ("emfilledrect", 0xadf), ("enopencircbullet", 0xae0), ("enopensquarebullet", 0xae1),
  ("openrectbullet", 0xae2), ("opentribulletup", 0xae3), ("opentribulletdown", 0xae4),
  ("openstar", 0xae5), ("enfilledcircbullet", 0xae6), ("enfilledsqbullet", 0xae7),
  ("filledtribulletup", 0xae8), ("filledtribulletdown", 0xae9), ("leftpointer", 0xaea),
  ("rightpointer", 0xaeb), ("club", 0xaec), ("diamond", 0xaed), ("heart", 0xaee),
  ("maltesecross", 0xaf0), ("dagger", 0xaf1), ("doubledagger", 0xaf2), ("checkmark", 0xaf3),
  ("ballotcross", 0xaf4), ("musicalsharp", 0xaf5), ("musicalflat", 0xaf6), ("malesymbol", 0xaf7),
  ("femalesymbol", 0xaf8), ("telephone", 0xaf9), ("telephonerecorder", 0xafa),
  ("phonographcopyright", 0xafb), ("caret", 0xafc), ("singlelowquotemark", 0xafd),
  ("doublelowquotemark", 0xafe), ("cursor", 0xaff), ("leftcaret", 0xba3), ("rightcaret", 0xba6),
  ("downcaret", 0xba8), ("upcaret", 0xba9), ("overbar", 0xbc0), ("downtack", 0xbc2),
  ("upshoe", 0xbc3), ("downstile", 0xbc4), ("underbar", 0xbc6), ("jot", 0xbca), ("quad", 0xbcc),
  ("uptack", 0xbce), ("circle", 0xbcf), ("upstile", 0xbd3), ("downshoe", 0xbd6),
  ("rightshoe", 0xbd8), ("leftshoe", 0xbda), ("lefttack", 0xbdc), ("righttack", 0xbfc)]

end Hotkeys.Keys.Keysym
