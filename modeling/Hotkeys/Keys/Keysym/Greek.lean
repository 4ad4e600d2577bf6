/-!
# Greek

Named keysyms: the letters of the Greek script.
-/

set_option autoImplicit false

namespace Hotkeys.Keys.Keysym

/-- Names and values, the first name of a value being its usual one. -/
def greekKeys : List (String × Nat) := [
  ("Greek_ALPHAaccent", 0x7a1), ("Greek_EPSILONaccent", 0x7a2), ("Greek_ETAaccent", 0x7a3),
  ("Greek_IOTAaccent", 0x7a4), ("Greek_IOTAdieresis", 0x7a5), ("Greek_IOTAdiaeresis", 0x7a5),
  ("Greek_OMICRONaccent", 0x7a7), ("Greek_UPSILONaccent", 0x7a8), ("Greek_UPSILONdieresis", 0x7a9),
  ("Greek_OMEGAaccent", 0x7ab), ("Greek_accentdieresis", 0x7ae), ("Greek_horizbar", 0x7af),
  ("Greek_alphaaccent", 0x7b1), ("Greek_epsilonaccent", 0x7b2), ("Greek_etaaccent", 0x7b3),
  ("Greek_iotaaccent", 0x7b4), ("Greek_iotadieresis", 0x7b5), ("Greek_iotaaccentdieresis", 0x7b6),
  ("Greek_omicronaccent", 0x7b7), ("Greek_upsilonaccent", 0x7b8), ("Greek_upsilondieresis", 0x7b9),
  ("Greek_upsilonaccentdieresis", 0x7ba), ("Greek_omegaaccent", 0x7bb), ("Greek_ALPHA", 0x7c1),
  ("Greek_BETA", 0x7c2), ("Greek_GAMMA", 0x7c3), ("Greek_DELTA", 0x7c4), ("Greek_EPSILON", 0x7c5),
  ("Greek_ZETA", 0x7c6), ("Greek_ETA", 0x7c7), ("Greek_THETA", 0x7c8), ("Greek_IOTA", 0x7c9),
  ("Greek_KAPPA", 0x7ca), ("Greek_LAMDA", 0x7cb), ("Greek_LAMBDA", 0x7cb), ("Greek_MU", 0x7cc),
  ("Greek_NU", 0x7cd), ("Greek_XI", 0x7ce), ("Greek_OMICRON", 0x7cf), ("Greek_PI", 0x7d0),
  ("Greek_RHO", 0x7d1), ("Greek_SIGMA", 0x7d2), ("Greek_TAU", 0x7d4), ("Greek_UPSILON", 0x7d5),
  ("Greek_PHI", 0x7d6), ("Greek_CHI", 0x7d7), ("Greek_PSI", 0x7d8), ("Greek_OMEGA", 0x7d9),
  ("Greek_alpha", 0x7e1), ("Greek_beta", 0x7e2), ("Greek_gamma", 0x7e3), ("Greek_delta", 0x7e4),
  ("Greek_epsilon", 0x7e5), ("Greek_zeta", 0x7e6), ("Greek_eta", 0x7e7), ("Greek_theta", 0x7e8),
  ("Greek_iota", 0x7e9), ("Greek_kappa", 0x7ea), ("Greek_lamda", 0x7eb), ("Greek_lambda", 0x7eb),
  ("Greek_mu", 0x7ec), ("Greek_nu", 0x7ed), ("Greek_xi", 0x7ee), ("Greek_omicron", 0x7ef),
  ("Greek_pi", 0x7f0), ("Greek_rho", 0x7f1), ("Greek_sigma", 0x7f2),
  ("Greek_finalsmallsigma", 0x7f3), ("Greek_tau", 0x7f4), ("Greek_upsilon", 0x7f5),
  ("Greek_phi", 0x7f6), ("Greek_chi", 0x7f7), ("Greek_psi", 0x7f8), ("Greek_omega", 0x7f9),
  ("Greek_switch", 0xff7e)]

end Hotkeys.Keys.Keysym
