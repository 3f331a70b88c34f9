/-!
# Names of pictographs

The names of mathematical letters, pictographs and emoticons.  A group of
characters begins with the code point of its first one and the words that all its names begin with;
behind a colon stands what is left of the name of each.
-/

namespace SetupScript.Character

/-- The groups of names, in rows. -/
def pictographNames : List String := [
  "1D400 MATHEMATICAL:BOLD CAPITAL A,BOLD CAPITAL B,BOLD CAPITAL C,BOLD CAPITAL D",
  "1D404 MATHEMATICAL:BOLD CAPITAL E,BOLD CAPITAL F,BOLD CAPITAL G,BOLD CAPITAL H",
  "1D408 MATHEMATICAL:BOLD CAPITAL I,BOLD CAPITAL J,BOLD CAPITAL K,BOLD CAPITAL L",
  "1D40C MATHEMATICAL:BOLD CAPITAL M,BOLD CAPITAL N,BOLD CAPITAL O,BOLD CAPITAL P",
  "1D410 MATHEMATICAL:BOLD CAPITAL Q,BOLD CAPITAL R,BOLD CAPITAL S,BOLD CAPITAL T",
  "1D414 MATHEMATICAL:BOLD CAPITAL U,BOLD CAPITAL V,BOLD CAPITAL W,BOLD CAPITAL X",
  "1D418 MATHEMATICAL:BOLD CAPITAL Y,BOLD CAPITAL Z,BOLD SMALL A,BOLD SMALL B,BOLD SMALL C",
  "1D41D MATHEMATICAL:BOLD SMALL D,BOLD SMALL E,BOLD SMALL F,BOLD SMALL G,BOLD SMALL H",
  "1D422 MATHEMATICAL:BOLD SMALL I,BOLD SMALL J,BOLD SMALL K,BOLD SMALL L,BOLD SMALL M",
  "1D427 MATHEMATICAL:BOLD SMALL N,BOLD SMALL O,BOLD SMALL P,BOLD SMALL Q,BOLD SMALL R",
  "1D42C MATHEMATICAL:BOLD SMALL S,BOLD SMALL T,BOLD SMALL U,BOLD SMALL V,BOLD SMALL W",
  "1D431 MATHEMATICAL:BOLD SMALL X,BOLD SMALL Y,BOLD SMALL Z,ITALIC CAPITAL A,ITALIC CAPITAL B",
  "1D436 MATHEMATICAL:ITALIC CAPITAL C,ITALIC CAPITAL D,ITALIC CAPITAL E,ITALIC CAPITAL F",
  "1D43A MATHEMATICAL:ITALIC CAPITAL G,ITALIC CAPITAL H,ITALIC CAPITAL I,ITALIC CAPITAL J",
  "1D43E MATHEMATICAL:ITALIC CAPITAL K,ITALIC CAPITAL L,ITALIC CAPITAL M,ITALIC CAPITAL N",
  "1D442 MATHEMATICAL:ITALIC CAPITAL O,ITALIC CAPITAL P,ITALIC CAPITAL Q,ITALIC CAPITAL R",
  "1D446 MATHEMATICAL:ITALIC CAPITAL S,ITALIC CAPITAL T,ITALIC CAPITAL U,ITALIC CAPITAL V",
  "1D44A MATHEMATICAL:ITALIC CAPITAL W,ITALIC CAPITAL X,ITALIC CAPITAL Y,ITALIC CAPITAL Z",
  "1D44E MATHEMATICAL:ITALIC SMALL A,ITALIC SMALL B,ITALIC SMALL C,ITALIC SMALL D",
  "1D452 MATHEMATICAL:ITALIC SMALL E,ITALIC SMALL F,ITALIC SMALL G",
  "1D456 MATHEMATICAL:ITALIC SMALL I,ITALIC SMALL J,ITALIC SMALL K,ITALIC SMALL L",
  "1D45A MATHEMATICAL:ITALIC SMALL M,ITALIC SMALL N,ITALIC SMALL O,ITALIC SMALL P",
  "1D45E MATHEMATICAL:ITALIC SMALL Q,ITALIC SMALL R,ITALIC SMALL S,ITALIC SMALL T",
  "1D462 MATHEMATICAL:ITALIC SMALL U,ITALIC SMALL V,ITALIC SMALL W,ITALIC SMALL X",
  "1D466 MATHEMATICAL:ITALIC SMALL Y,ITALIC SMALL Z,BOLD ITALIC CAPITAL A,BOLD ITALIC CAPITAL B",
  "1D46A MATHEMATICAL:BOLD ITALIC CAPITAL C,BOLD ITALIC CAPITAL D,BOLD ITALIC CAPITAL E",
  "1D46D MATHEMATICAL:BOLD ITALIC CAPITAL F,BOLD ITALIC CAPITAL G,BOLD ITALIC CAPITAL H",
  "1D470 MATHEMATICAL:BOLD ITALIC CAPITAL I,BOLD ITALIC CAPITAL J,BOLD ITALIC CAPITAL K",
  "1D473 MATHEMATICAL:BOLD ITALIC CAPITAL L,BOLD ITALIC CAPITAL M,BOLD ITALIC CAPITAL N",
  "1D476 MATHEMATICAL:BOLD ITALIC CAPITAL O,BOLD ITALIC CAPITAL P,BOLD ITALIC CAPITAL Q",
  "1D479 MATHEMATICAL:BOLD ITALIC CAPITAL R,BOLD ITALIC CAPITAL S,BOLD ITALIC CAPITAL T",
  "1D47C MATHEMATICAL:BOLD ITALIC CAPITAL U,BOLD ITALIC CAPITAL V,BOLD ITALIC CAPITAL W",
  "1D47F MATHEMATICAL:BOLD ITALIC CAPITAL X,BOLD ITALIC CAPITAL Y,BOLD ITALIC CAPITAL Z",
  "1D482 MATHEMATICAL:BOLD ITALIC SMALL A,BOLD ITALIC SMALL B,BOLD ITALIC SMALL C",
  "1D485 MATHEMATICAL:BOLD ITALIC SMALL D,BOLD ITALIC SMALL E,BOLD ITALIC SMALL F",
  "1D488 MATHEMATICAL:BOLD ITALIC SMALL G,BOLD ITALIC SMALL H,BOLD ITALIC SMALL I",
  "1D48B MATHEMATICAL:BOLD ITALIC SMALL J,BOLD ITALIC SMALL K,BOLD ITALIC SMALL L",
  "1D48E MATHEMATICAL:BOLD ITALIC SMALL M,BOLD ITALIC SMALL N,BOLD ITALIC SMALL O",
  "1D491 MATHEMATICAL:BOLD ITALIC SMALL P,BOLD ITALIC SMALL Q,BOLD ITALIC SMALL R",
  "1D494 MATHEMATICAL:BOLD ITALIC SMALL S,BOLD ITALIC SMALL T,BOLD ITALIC SMALL U",
  "1D497 MATHEMATICAL:BOLD ITALIC SMALL V,BOLD ITALIC SMALL W,BOLD ITALIC SMALL X",
  "1D49A MATHEMATICAL:BOLD ITALIC SMALL Y,BOLD ITALIC SMALL Z,SCRIPT CAPITAL A",
  "1D49E MATHEMATICAL SCRIPT CAPITAL:C,D;1D4A2:MATHEMATICAL SCRIPT CAPITAL G",
  "1D4A5 MATHEMATICAL SCRIPT CAPITAL:J,K;1D4A9 MATHEMATICAL SCRIPT CAPITAL:N,O,P,Q",
  "1D4AE MATHEMATICAL SCRIPT:CAPITAL S,CAPITAL T,CAPITAL U,CAPITAL V,CAPITAL W,CAPITAL X",
  "1D4B4 MATHEMATICAL SCRIPT:CAPITAL Y,CAPITAL Z,SMALL A,SMALL B,SMALL C,SMALL D",
  "1D4BB:MATHEMATICAL SCRIPT SMALL F;1D4BD MATHEMATICAL SCRIPT SMALL:H,I,J,K,L,M,N",
  "1D4C5 MATHEMATICAL:SCRIPT SMALL P,SCRIPT SMALL Q,SCRIPT SMALL R,SCRIPT SMALL S",
  "1D4C9 MATHEMATICAL:SCRIPT SMALL T,SCRIPT SMALL U,SCRIPT SMALL V,SCRIPT SMALL W",
  "1D4CD MATHEMATICAL:SCRIPT SMALL X,SCRIPT SMALL Y,SCRIPT SMALL Z,BOLD SCRIPT CAPITAL A",
  "1D4D1 MATHEMATICAL:BOLD SCRIPT CAPITAL B,BOLD SCRIPT CAPITAL C,BOLD SCRIPT CAPITAL D",
  "1D4D4 MATHEMATICAL:BOLD SCRIPT CAPITAL E,BOLD SCRIPT CAPITAL F,BOLD SCRIPT CAPITAL G",
  "1D4D7 MATHEMATICAL:BOLD SCRIPT CAPITAL H,BOLD SCRIPT CAPITAL I,BOLD SCRIPT CAPITAL J",
  "1D4DA MATHEMATICAL:BOLD SCRIPT CAPITAL K,BOLD SCRIPT CAPITAL L,BOLD SCRIPT CAPITAL M",
  "1D4DD MATHEMATICAL:BOLD SCRIPT CAPITAL N,BOLD SCRIPT CAPITAL O,BOLD SCRIPT CAPITAL P",
  "1D4E0 MATHEMATICAL:BOLD SCRIPT CAPITAL Q,BOLD SCRIPT CAPITAL R,BOLD SCRIPT CAPITAL S",
  "1D4E3 MATHEMATICAL:BOLD SCRIPT CAPITAL T,BOLD SCRIPT CAPITAL U,BOLD SCRIPT CAPITAL V",
  "1D4E6 MATHEMATICAL:BOLD SCRIPT CAPITAL W,BOLD SCRIPT CAPITAL X,BOLD SCRIPT CAPITAL Y",
  "1D4E9 MATHEMATICAL:BOLD SCRIPT CAPITAL Z,BOLD SCRIPT SMALL A,BOLD SCRIPT SMALL B",
  "1D4EC MATHEMATICAL:BOLD SCRIPT SMALL C,BOLD SCRIPT SMALL D,BOLD SCRIPT SMALL E",
  "1D4EF MATHEMATICAL:BOLD SCRIPT SMALL F,BOLD SCRIPT SMALL G,BOLD SCRIPT SMALL H",
  "1D4F2 MATHEMATICAL:BOLD SCRIPT SMALL I,BOLD SCRIPT SMALL J,BOLD SCRIPT SMALL K",
  "1D4F5 MATHEMATICAL:BOLD SCRIPT SMALL L,BOLD SCRIPT SMALL M,BOLD SCRIPT SMALL N",
  "1D4F8 MATHEMATICAL:BOLD SCRIPT SMALL O,BOLD SCRIPT SMALL P,BOLD SCRIPT SMALL Q",
  "1D4FB MATHEMATICAL:BOLD SCRIPT SMALL R,BOLD SCRIPT SMALL S,BOLD SCRIPT SMALL T",
  "1D4FE MATHEMATICAL:BOLD SCRIPT SMALL U,BOLD SCRIPT SMALL V,BOLD SCRIPT SMALL W",
  "1D501 MATHEMATICAL:BOLD SCRIPT SMALL X,BOLD SCRIPT SMALL Y,BOLD SCRIPT SMALL Z",
  "1D504 MATHEMATICAL:FRAKTUR CAPITAL A,FRAKTUR CAPITAL B",
  "1D507 MATHEMATICAL FRAKTUR CAPITAL:D,E,F,G",
  "1D50D MATHEMATICAL FRAKTUR CAPITAL:J,K,L,M,N,O,P,Q",
  "1D516 MATHEMATICAL FRAKTUR CAPITAL:S,T,U,V,W,X,Y",
  "1D51E MATHEMATICAL FRAKTUR SMALL:A,B,C,D,E,F,G,H,I,J,K,L,M,N,O,P,Q,R,S,T,U,V,W,X,Y,Z",
  "1D538 MATHEMATICAL DOUBLE-STRUCK CAPITAL:A,B",
  "1D53B MATHEMATICAL DOUBLE-STRUCK CAPITAL:D,E,F,G",
  "1D540 MATHEMATICAL DOUBLE-STRUCK CAPITAL:I,J,K,L,M",
  "1D546:MATHEMATICAL DOUBLE-STRUCK CAPITAL O",
  "1D54A MATHEMATICAL DOUBLE-STRUCK CAPITAL:S,T,U,V,W,X,Y",
  "1D552 MATHEMATICAL:DOUBLE-STRUCK SMALL A,DOUBLE-STRUCK SMALL B,DOUBLE-STRUCK SMALL C",
  "1D555 MATHEMATICAL:DOUBLE-STRUCK SMALL D,DOUBLE-STRUCK SMALL E,DOUBLE-STRUCK SMALL F",
  "1D558 MATHEMATICAL:DOUBLE-STRUCK SMALL G,DOUBLE-STRUCK SMALL H,DOUBLE-STRUCK SMALL I",
  "1D55B MATHEMATICAL:DOUBLE-STRUCK SMALL J,DOUBLE-STRUCK SMALL K,DOUBLE-STRUCK SMALL L",
  "1D55E MATHEMATICAL:DOUBLE-STRUCK SMALL M,DOUBLE-STRUCK SMALL N,DOUBLE-STRUCK SMALL O",
  "1D561 MATHEMATICAL:DOUBLE-STRUCK SMALL P,DOUBLE-STRUCK SMALL Q,DOUBLE-STRUCK SMALL R",
  "1D564 MATHEMATICAL:DOUBLE-STRUCK SMALL S,DOUBLE-STRUCK SMALL T,DOUBLE-STRUCK SMALL U",
  "1D567 MATHEMATICAL:DOUBLE-STRUCK SMALL V,DOUBLE-STRUCK SMALL W,DOUBLE-STRUCK SMALL X",
  "1D56A MATHEMATICAL:DOUBLE-STRUCK SMALL Y,DOUBLE-STRUCK SMALL Z,BOLD FRAKTUR CAPITAL A",
  "1D56D MATHEMATICAL:BOLD FRAKTUR CAPITAL B,BOLD FRAKTUR CAPITAL C,BOLD FRAKTUR CAPITAL D",
  "1D570 MATHEMATICAL:BOLD FRAKTUR CAPITAL E,BOLD FRAKTUR CAPITAL F,BOLD FRAKTUR CAPITAL G",
  "1D573 MATHEMATICAL:BOLD FRAKTUR CAPITAL H,BOLD FRAKTUR CAPITAL I,BOLD FRAKTUR CAPITAL J",
  "1D576 MATHEMATICAL:BOLD FRAKTUR CAPITAL K,BOLD FRAKTUR CAPITAL L,BOLD FRAKTUR CAPITAL M",
  "1D579 MATHEMATICAL:BOLD FRAKTUR CAPITAL N,BOLD FRAKTUR CAPITAL O,BOLD FRAKTUR CAPITAL P",
  "1D57C MATHEMATICAL:BOLD FRAKTUR CAPITAL Q,BOLD FRAKTUR CAPITAL R,BOLD FRAKTUR CAPITAL S",
  "1D57F MATHEMATICAL:BOLD FRAKTUR CAPITAL T,BOLD FRAKTUR CAPITAL U,BOLD FRAKTUR CAPITAL V",
  "1D582 MATHEMATICAL:BOLD FRAKTUR CAPITAL W,BOLD FRAKTUR CAPITAL X,BOLD FRAKTUR CAPITAL Y",
  "1D585 MATHEMATICAL:BOLD FRAKTUR CAPITAL Z,BOLD FRAKTUR SMALL A,BOLD FRAKTUR SMALL B",
  "1D588 MATHEMATICAL:BOLD FRAKTUR SMALL C,BOLD FRAKTUR SMALL D,BOLD FRAKTUR SMALL E",
  "1D58B MATHEMATICAL:BOLD FRAKTUR SMALL F,BOLD FRAKTUR SMALL G,BOLD FRAKTUR SMALL H",
  "1D58E MATHEMATICAL:BOLD FRAKTUR SMALL I,BOLD FRAKTUR SMALL J,BOLD FRAKTUR SMALL K",
  "1D591 MATHEMATICAL:BOLD FRAKTUR SMALL L,BOLD FRAKTUR SMALL M,BOLD FRAKTUR SMALL N",
  "1D594 MATHEMATICAL:BOLD FRAKTUR SMALL O,BOLD FRAKTUR SMALL P,BOLD FRAKTUR SMALL Q",
  "1D597 MATHEMATICAL:BOLD FRAKTUR SMALL R,BOLD FRAKTUR SMALL S,BOLD FRAKTUR SMALL T",
  "1D59A MATHEMATICAL:BOLD FRAKTUR SMALL U,BOLD FRAKTUR SMALL V,BOLD FRAKTUR SMALL W",
  "1D59D MATHEMATICAL:BOLD FRAKTUR SMALL X,BOLD FRAKTUR SMALL Y,BOLD FRAKTUR SMALL Z",
  "1D5A0 MATHEMATICAL:SANS-SERIF CAPITAL A,SANS-SERIF CAPITAL B,SANS-SERIF CAPITAL C",
  "1D5A3 MATHEMATICAL:SANS-SERIF CAPITAL D,SANS-SERIF CAPITAL E,SANS-SERIF CAPITAL F",
  "1D5A6 MATHEMATICAL:SANS-SERIF CAPITAL G,SANS-SERIF CAPITAL H,SANS-SERIF CAPITAL I",
  "1D5A9 MATHEMATICAL:SANS-SERIF CAPITAL J,SANS-SERIF CAPITAL K,SANS-SERIF CAPITAL L",
  "1D5AC MATHEMATICAL:SANS-SERIF CAPITAL M,SANS-SERIF CAPITAL N,SANS-SERIF CAPITAL O",
  "1D5AF MATHEMATICAL:SANS-SERIF CAPITAL P,SANS-SERIF CAPITAL Q,SANS-SERIF CAPITAL R",
  "1D5B2 MATHEMATICAL:SANS-SERIF CAPITAL S,SANS-SERIF CAPITAL T,SANS-SERIF CAPITAL U",
  "1D5B5 MATHEMATICAL:SANS-SERIF CAPITAL V,SANS-SERIF CAPITAL W,SANS-SERIF CAPITAL X",
  "1D5B8 MATHEMATICAL:SANS-SERIF CAPITAL Y,SANS-SERIF CAPITAL Z,SANS-SERIF SMALL A",
  "1D5BB MATHEMATICAL:SANS-SERIF SMALL B,SANS-SERIF SMALL C,SANS-SERIF SMALL D",
  "1D5BE MATHEMATICAL:SANS-SERIF SMALL E,SANS-SERIF SMALL F,SANS-SERIF SMALL G",
  "1D5C1 MATHEMATICAL:SANS-SERIF SMALL H,SANS-SERIF SMALL I,SANS-SERIF SMALL J",
  "1D5C4 MATHEMATICAL:SANS-SERIF SMALL K,SANS-SERIF SMALL L,SANS-SERIF SMALL M",
  "1D5C7 MATHEMATICAL:SANS-SERIF SMALL N,SANS-SERIF SMALL O,SANS-SERIF SMALL P",
  "1D5CA MATHEMATICAL:SANS-SERIF SMALL Q,SANS-SERIF SMALL R,SANS-SERIF SMALL S",
  "1D5CD MATHEMATICAL:SANS-SERIF SMALL T,SANS-SERIF SMALL U,SANS-SERIF SMALL V",
  "1D5D0 MATHEMATICAL:SANS-SERIF SMALL W,SANS-SERIF SMALL X,SANS-SERIF SMALL Y",
  "1D5D3 MATHEMATICAL:SANS-SERIF SMALL Z,SANS-SERIF BOLD CAPITAL A,SANS-SERIF BOLD CAPITAL B",
  "1D5D6 MATHEMATICAL:SANS-SERIF BOLD CAPITAL C,SANS-SERIF BOLD CAPITAL D",
  "1D5D8 MATHEMATICAL:SANS-SERIF BOLD CAPITAL E,SANS-SERIF BOLD CAPITAL F",
  "1D5DA MATHEMATICAL:SANS-SERIF BOLD CAPITAL G,SANS-SERIF BOLD CAPITAL H",
  "1D5DC MATHEMATICAL:SANS-SERIF BOLD CAPITAL I,SANS-SERIF BOLD CAPITAL J",
  "1D5DE MATHEMATICAL:SANS-SERIF BOLD CAPITAL K,SANS-SERIF BOLD CAPITAL L",
  "1D5E0 MATHEMATICAL:SANS-SERIF BOLD CAPITAL M,SANS-SERIF BOLD CAPITAL N",
  "1D5E2 MATHEMATICAL:SANS-SERIF BOLD CAPITAL O,SANS-SERIF BOLD CAPITAL P",
  "1D5E4 MATHEMATICAL:SANS-SERIF BOLD CAPITAL Q,SANS-SERIF BOLD CAPITAL R",
  "1D5E6 MATHEMATICAL:SANS-SERIF BOLD CAPITAL S,SANS-SERIF BOLD CAPITAL T",
  "1D5E8 MATHEMATICAL:SANS-SERIF BOLD CAPITAL U,SANS-SERIF BOLD CAPITAL V",
  "1D5EA MATHEMATICAL:SANS-SERIF BOLD CAPITAL W,SANS-SERIF BOLD CAPITAL X",
  "1D5EC MATHEMATICAL:SANS-SERIF BOLD CAPITAL Y,SANS-SERIF BOLD CAPITAL Z",
  "1D5EE MATHEMATICAL:SANS-SERIF BOLD SMALL A,SANS-SERIF BOLD SMALL B,SANS-SERIF BOLD SMALL C",
  "1D5F1 MATHEMATICAL:SANS-SERIF BOLD SMALL D,SANS-SERIF BOLD SMALL E,SANS-SERIF BOLD SMALL F",
  "1D5F4 MATHEMATICAL:SANS-SERIF BOLD SMALL G,SANS-SERIF BOLD SMALL H,SANS-SERIF BOLD SMALL I",
  "1D5F7 MATHEMATICAL:SANS-SERIF BOLD SMALL J,SANS-SERIF BOLD SMALL K,SANS-SERIF BOLD SMALL L",
  "1D5FA MATHEMATICAL:SANS-SERIF BOLD SMALL M,SANS-SERIF BOLD SMALL N,SANS-SERIF BOLD SMALL O",
  "1D5FD MATHEMATICAL:SANS-SERIF BOLD SMALL P,SANS-SERIF BOLD SMALL Q,SANS-SERIF BOLD SMALL R",
  "1D600 MATHEMATICAL:SANS-SERIF BOLD SMALL S,SANS-SERIF BOLD SMALL T,SANS-SERIF BOLD SMALL U",
  "1D603 MATHEMATICAL:SANS-SERIF BOLD SMALL V,SANS-SERIF BOLD SMALL W,SANS-SERIF BOLD SMALL X",
  "1D606 MATHEMATICAL:SANS-SERIF BOLD SMALL Y,SANS-SERIF BOLD SMALL Z",
  "1D608 MATHEMATICAL:SANS-SERIF ITALIC CAPITAL A,SANS-SERIF ITALIC CAPITAL B",
  "1D60A MATHEMATICAL:SANS-SERIF ITALIC CAPITAL C,SANS-SERIF ITALIC CAPITAL D",
  "1D60C MATHEMATICAL:SANS-SERIF ITALIC CAPITAL E,SANS-SERIF ITALIC CAPITAL F",
  "1D60E MATHEMATICAL:SANS-SERIF ITALIC CAPITAL G,SANS-SERIF ITALIC CAPITAL H",
  "1D610 MATHEMATICAL:SANS-SERIF ITALIC CAPITAL I,SANS-SERIF ITALIC CAPITAL J",
  "1D612 MATHEMATICAL:SANS-SERIF ITALIC CAPITAL K,SANS-SERIF ITALIC CAPITAL L",
  "1D614 MATHEMATICAL:SANS-SERIF ITALIC CAPITAL M,SANS-SERIF ITALIC CAPITAL N",
  "1D616 MATHEMATICAL:SANS-SERIF ITALIC CAPITAL O,SANS-SERIF ITALIC CAPITAL P",
  "1D618 MATHEMATICAL:SANS-SERIF ITALIC CAPITAL Q,SANS-SERIF ITALIC CAPITAL R",
  "1D61A MATHEMATICAL:SANS-SERIF ITALIC CAPITAL S,SANS-SERIF ITALIC CAPITAL T",
  "1D61C MATHEMATICAL:SANS-SERIF ITALIC CAPITAL U,SANS-SERIF ITALIC CAPITAL V",
  "1D61E MATHEMATICAL:SANS-SERIF ITALIC CAPITAL W,SANS-SERIF ITALIC CAPITAL X",
  "1D620 MATHEMATICAL:SANS-SERIF ITALIC CAPITAL Y,SANS-SERIF ITALIC CAPITAL Z",
  "1D622 MATHEMATICAL:SANS-SERIF ITALIC SMALL A,SANS-SERIF ITALIC SMALL B",
  "1D624 MATHEMATICAL:SANS-SERIF ITALIC SMALL C,SANS-SERIF ITALIC SMALL D",
  "1D626 MATHEMATICAL:SANS-SERIF ITALIC SMALL E,SANS-SERIF ITALIC SMALL F",
  "1D628 MATHEMATICAL:SANS-SERIF ITALIC SMALL G,SANS-SERIF ITALIC SMALL H",
  "1D62A MATHEMATICAL:SANS-SERIF ITALIC SMALL I,SANS-SERIF ITALIC SMALL J",
  "1D62C MATHEMATICAL:SANS-SERIF ITALIC SMALL K,SANS-SERIF ITALIC SMALL L",
  "1D62E MATHEMATICAL:SANS-SERIF ITALIC SMALL M,SANS-SERIF ITALIC SMALL N",
  "1D630 MATHEMATICAL:SANS-SERIF ITALIC SMALL O,SANS-SERIF ITALIC SMALL P",
  "1D632 MATHEMATICAL:SANS-SERIF ITALIC SMALL Q,SANS-SERIF ITALIC SMALL R",
  "1D634 MATHEMATICAL:SANS-SERIF ITALIC SMALL S,SANS-SERIF ITALIC SMALL T",
  "1D636 MATHEMATICAL:SANS-SERIF ITALIC SMALL U,SANS-SERIF ITALIC SMALL V",
  "1D638 MATHEMATICAL:SANS-SERIF ITALIC SMALL W,SANS-SERIF ITALIC SMALL X",
  "1D63A MATHEMATICAL:SANS-SERIF ITALIC SMALL Y,SANS-SERIF ITALIC SMALL Z",
  "1D63C MATHEMATICAL:SANS-SERIF BOLD ITALIC CAPITAL A,SANS-SERIF BOLD ITALIC CAPITAL B",
  "1D63E MATHEMATICAL:SANS-SERIF BOLD ITALIC CAPITAL C,SANS-SERIF BOLD ITALIC CAPITAL D",
  "1D640 MATHEMATICAL:SANS-SERIF BOLD ITALIC CAPITAL E,SANS-SERIF BOLD ITALIC CAPITAL F",
  "1D642 MATHEMATICAL:SANS-SERIF BOLD ITALIC CAPITAL G,SANS-SERIF BOLD ITALIC CAPITAL H",
  "1D644 MATHEMATICAL:SANS-SERIF BOLD ITALIC CAPITAL I,SANS-SERIF BOLD ITALIC CAPITAL J",
  "1D646 MATHEMATICAL:SANS-SERIF BOLD ITALIC CAPITAL K,SANS-SERIF BOLD ITALIC CAPITAL L",
  "1D648 MATHEMATICAL:SANS-SERIF BOLD ITALIC CAPITAL M,SANS-SERIF BOLD ITALIC CAPITAL N",
  "1D64A MATHEMATICAL:SANS-SERIF BOLD ITALIC CAPITAL O,SANS-SERIF BOLD ITALIC CAPITAL P",
  "1D64C MATHEMATICAL:SANS-SERIF BOLD ITALIC CAPITAL Q,SANS-SERIF BOLD ITALIC CAPITAL R",
  "1D64E MATHEMATICAL:SANS-SERIF BOLD ITALIC CAPITAL S,SANS-SERIF BOLD ITALIC CAPITAL T",
  "1D650 MATHEMATICAL:SANS-SERIF BOLD ITALIC CAPITAL U,SANS-SERIF BOLD ITALIC CAPITAL V",
  "1D652 MATHEMATICAL:SANS-SERIF BOLD ITALIC CAPITAL W,SANS-SERIF BOLD ITALIC CAPITAL X",
  "1D654 MATHEMATICAL:SANS-SERIF BOLD ITALIC CAPITAL Y,SANS-SERIF BOLD ITALIC CAPITAL Z",
  "1D656 MATHEMATICAL:SANS-SERIF BOLD ITALIC SMALL A,SANS-SERIF BOLD ITALIC SMALL B",
  "1D658 MATHEMATICAL:SANS-SERIF BOLD ITALIC SMALL C,SANS-SERIF BOLD ITALIC SMALL D",
  "1D65A MATHEMATICAL:SANS-SERIF BOLD ITALIC SMALL E,SANS-SERIF BOLD ITALIC SMALL F",
  "1D65C MATHEMATICAL:SANS-SERIF BOLD ITALIC SMALL G,SANS-SERIF BOLD ITALIC SMALL H",
  "1D65E MATHEMATICAL:SANS-SERIF BOLD ITALIC SMALL I,SANS-SERIF BOLD ITALIC SMALL J",
  "1D660 MATHEMATICAL:SANS-SERIF BOLD ITALIC SMALL K,SANS-SERIF BOLD ITALIC SMALL L",
  "1D662 MATHEMATICAL:SANS-SERIF BOLD ITALIC SMALL M,SANS-SERIF BOLD ITALIC SMALL N",
  "1D664 MATHEMATICAL:SANS-SERIF BOLD ITALIC SMALL O,SANS-SERIF BOLD ITALIC SMALL P",
  "1D666 MATHEMATICAL:SANS-SERIF BOLD ITALIC SMALL Q,SANS-SERIF BOLD ITALIC SMALL R",
  "1D668 MATHEMATICAL:SANS-SERIF BOLD ITALIC SMALL S,SANS-SERIF BOLD ITALIC SMALL T",
  "1D66A MATHEMATICAL:SANS-SERIF BOLD ITALIC SMALL U,SANS-SERIF BOLD ITALIC SMALL V",
  "1D66C MATHEMATICAL:SANS-SERIF BOLD ITALIC SMALL W,SANS-SERIF BOLD ITALIC SMALL X",
  "1D66E MATHEMATICAL:SANS-SERIF BOLD ITALIC SMALL Y,SANS-SERIF BOLD ITALIC SMALL Z",
  "1D670 MATHEMATICAL:MONOSPACE CAPITAL A,MONOSPACE CAPITAL B,MONOSPACE CAPITAL C",
  "1D673 MATHEMATICAL:MONOSPACE CAPITAL D,MONOSPACE CAPITAL E,MONOSPACE CAPITAL F",
  "1D676 MATHEMATICAL:MONOSPACE CAPITAL G,MONOSPACE CAPITAL H,MONOSPACE CAPITAL I",
  "1D679 MATHEMATICAL:MONOSPACE CAPITAL J,MONOSPACE CAPITAL K,MONOSPACE CAPITAL L",
  "1D67C MATHEMATICAL:MONOSPACE CAPITAL M,MONOSPACE CAPITAL N,MONOSPACE CAPITAL O",
  "1D67F MATHEMATICAL:MONOSPACE CAPITAL P,MONOSPACE CAPITAL Q,MONOSPACE CAPITAL R",
  "1D682 MATHEMATICAL:MONOSPACE CAPITAL S,MONOSPACE CAPITAL T,MONOSPACE CAPITAL U",
  "1D685 MATHEMATICAL:MONOSPACE CAPITAL V,MONOSPACE CAPITAL W,MONOSPACE CAPITAL X",
  "1D688 MATHEMATICAL:MONOSPACE CAPITAL Y,MONOSPACE CAPITAL Z,MONOSPACE SMALL A",
  "1D68B MATHEMATICAL:MONOSPACE SMALL B,MONOSPACE SMALL C,MONOSPACE SMALL D,MONOSPACE SMALL E",
  "1D68F MATHEMATICAL:MONOSPACE SMALL F,MONOSPACE SMALL G,MONOSPACE SMALL H,MONOSPACE SMALL I",
  "1D693 MATHEMATICAL:MONOSPACE SMALL J,MONOSPACE SMALL K,MONOSPACE SMALL L,MONOSPACE SMALL M",
  "1D697 MATHEMATICAL:MONOSPACE SMALL N,MONOSPACE SMALL O,MONOSPACE SMALL P,MONOSPACE SMALL Q",
  "1D69B MATHEMATICAL:MONOSPACE SMALL R,MONOSPACE SMALL S,MONOSPACE SMALL T,MONOSPACE SMALL U",
  "1D69F MATHEMATICAL:MONOSPACE SMALL V,MONOSPACE SMALL W,MONOSPACE SMALL X,MONOSPACE SMALL Y",
  "1D6A3 MATHEMATICAL:MONOSPACE SMALL Z,ITALIC SMALL DOTLESS I,ITALIC SMALL DOTLESS J",
  "1D6A8 MATHEMATICAL:BOLD CAPITAL ALPHA,BOLD CAPITAL BETA,BOLD CAPITAL GAMMA",
  "1D6AB MATHEMATICAL:BOLD CAPITAL DELTA,BOLD CAPITAL EPSILON,BOLD CAPITAL ZETA",
  "1D6AE MATHEMATICAL:BOLD CAPITAL ETA,BOLD CAPITAL THETA,BOLD CAPITAL IOTA,BOLD CAPITAL KAPPA",
  "1D6B2 MATHEMATICAL:BOLD CAPITAL LAMDA,BOLD CAPITAL MU,BOLD CAPITAL NU,BOLD CAPITAL XI",
  "1D6B6 MATHEMATICAL:BOLD CAPITAL OMICRON,BOLD CAPITAL PI,BOLD CAPITAL RHO",
  "1D6B9 MATHEMATICAL:BOLD CAPITAL THETA SYMBOL,BOLD CAPITAL SIGMA,BOLD CAPITAL TAU",
  "1D6BC MATHEMATICAL:BOLD CAPITAL UPSILON,BOLD CAPITAL PHI,BOLD CAPITAL CHI,BOLD CAPITAL PSI",
  "1D6C0 MATHEMATICAL:BOLD CAPITAL OMEGA,BOLD NABLA,BOLD SMALL ALPHA,BOLD SMALL BETA",
  "1D6C4 MATHEMATICAL:BOLD SMALL GAMMA,BOLD SMALL DELTA,BOLD SMALL EPSILON,BOLD SMALL ZETA",
  "1D6C8 MATHEMATICAL:BOLD SMALL ETA,BOLD SMALL THETA,BOLD SMALL IOTA,BOLD SMALL KAPPA",
  "1D6CC MATHEMATICAL:BOLD SMALL LAMDA,BOLD SMALL MU,BOLD SMALL NU,BOLD SMALL XI",
  "1D6D0 MATHEMATICAL:BOLD SMALL OMICRON,BOLD SMALL PI,BOLD SMALL RHO,BOLD SMALL FINAL SIGMA",
  "1D6D4 MATHEMATICAL:BOLD SMALL SIGMA,BOLD SMALL TAU,BOLD SMALL UPSILON,BOLD SMALL PHI",
  "1D6D8 MATHEMATICAL:BOLD SMALL CHI,BOLD SMALL PSI,BOLD SMALL OMEGA,BOLD PARTIAL DIFFERENTIAL",
  "1D6DC MATHEMATICAL:BOLD EPSILON SYMBOL,BOLD THETA SYMBOL,BOLD KAPPA SYMBOL,BOLD PHI SYMBOL",
  "1D6E0 MATHEMATICAL:BOLD RHO SYMBOL,BOLD PI SYMBOL,ITALIC CAPITAL ALPHA,ITALIC CAPITAL BETA",
  "1D6E4 MATHEMATICAL:ITALIC CAPITAL GAMMA,ITALIC CAPITAL DELTA,ITALIC CAPITAL EPSILON",
  "1D6E7 MATHEMATICAL:ITALIC CAPITAL ZETA,ITALIC CAPITAL ETA,ITALIC CAPITAL THETA",
  "1D6EA MATHEMATICAL:ITALIC CAPITAL IOTA,ITALIC CAPITAL KAPPA,ITALIC CAPITAL LAMDA",
  "1D6ED MATHEMATICAL:ITALIC CAPITAL MU,ITALIC CAPITAL NU,ITALIC CAPITAL XI",
  "1D6F0 MATHEMATICAL:ITALIC CAPITAL OMICRON,ITALIC CAPITAL PI,ITALIC CAPITAL RHO",
  "1D6F3 MATHEMATICAL:ITALIC CAPITAL THETA SYMBOL,ITALIC CAPITAL SIGMA,ITALIC CAPITAL TAU",
  "1D6F6 MATHEMATICAL:ITALIC CAPITAL UPSILON,ITALIC CAPITAL PHI,ITALIC CAPITAL CHI",
  "1D6F9 MATHEMATICAL:ITALIC CAPITAL PSI,ITALIC CAPITAL OMEGA,ITALIC NABLA,ITALIC SMALL ALPHA",
  "1D6FD MATHEMATICAL:ITALIC SMALL BETA,ITALIC SMALL GAMMA,ITALIC SMALL DELTA",
  "1D700 MATHEMATICAL:ITALIC SMALL EPSILON,ITALIC SMALL ZETA,ITALIC SMALL ETA",
  "1D703 MATHEMATICAL:ITALIC SMALL THETA,ITALIC SMALL IOTA,ITALIC SMALL KAPPA",
  "1D706 MATHEMATICAL:ITALIC SMALL LAMDA,ITALIC SMALL MU,ITALIC SMALL NU,ITALIC SMALL XI",
  "1D70A MATHEMATICAL:ITALIC SMALL OMICRON,ITALIC SMALL PI,ITALIC SMALL RHO",
  "1D70D MATHEMATICAL:ITALIC SMALL FINAL SIGMA,ITALIC SMALL SIGMA,ITALIC SMALL TAU",
  "1D710 MATHEMATICAL:ITALIC SMALL UPSILON,ITALIC SMALL PHI,ITALIC SMALL CHI,ITALIC SMALL PSI",
  "1D714 MATHEMATICAL:ITALIC SMALL OMEGA,ITALIC PARTIAL DIFFERENTIAL,ITALIC EPSILON SYMBOL",
  "1D717 MATHEMATICAL:ITALIC THETA SYMBOL,ITALIC KAPPA SYMBOL,ITALIC PHI SYMBOL",
  "1D71A MATHEMATICAL:ITALIC RHO SYMBOL,ITALIC PI SYMBOL,BOLD ITALIC CAPITAL ALPHA",
  "1D71D MATHEMATICAL:BOLD ITALIC CAPITAL BETA,BOLD ITALIC CAPITAL GAMMA",
  "1D71F MATHEMATICAL:BOLD ITALIC CAPITAL DELTA,BOLD ITALIC CAPITAL EPSILON",
  "1D721 MATHEMATICAL:BOLD ITALIC CAPITAL ZETA,BOLD ITALIC CAPITAL ETA",
  "1D723 MATHEMATICAL:BOLD ITALIC CAPITAL THETA,BOLD ITALIC CAPITAL IOTA",
  "1D725 MATHEMATICAL:BOLD ITALIC CAPITAL KAPPA,BOLD ITALIC CAPITAL LAMDA",
  "1D727 MATHEMATICAL:BOLD ITALIC CAPITAL MU,BOLD ITALIC CAPITAL NU,BOLD ITALIC CAPITAL XI",
  "1D72A MATHEMATICAL:BOLD ITALIC CAPITAL OMICRON,BOLD ITALIC CAPITAL PI",
  "1D72C MATHEMATICAL:BOLD ITALIC CAPITAL RHO,BOLD ITALIC CAPITAL THETA SYMBOL",
  "1D72E MATHEMATICAL:BOLD ITALIC CAPITAL SIGMA,BOLD ITALIC CAPITAL TAU",
  "1D730 MATHEMATICAL:BOLD ITALIC CAPITAL UPSILON,BOLD ITALIC CAPITAL PHI",
  "1D732 MATHEMATICAL:BOLD ITALIC CAPITAL CHI,BOLD ITALIC CAPITAL PSI,BOLD ITALIC CAPITAL OMEGA",
  "1D735 MATHEMATICAL:BOLD ITALIC NABLA,BOLD ITALIC SMALL ALPHA,BOLD ITALIC SMALL BETA",
  "1D738 MATHEMATICAL:BOLD ITALIC SMALL GAMMA,BOLD ITALIC SMALL DELTA,BOLD ITALIC SMALL EPSILON",
  "1D73B MATHEMATICAL:BOLD ITALIC SMALL ZETA,BOLD ITALIC SMALL ETA,BOLD ITALIC SMALL THETA",
  "1D73E MATHEMATICAL:BOLD ITALIC SMALL IOTA,BOLD ITALIC SMALL KAPPA,BOLD ITALIC SMALL LAMDA",
  "1D741 MATHEMATICAL:BOLD ITALIC SMALL MU,BOLD ITALIC SMALL NU,BOLD ITALIC SMALL XI",
  "1D744 MATHEMATICAL:BOLD ITALIC SMALL OMICRON,BOLD ITALIC SMALL PI,BOLD ITALIC SMALL RHO",
  "1D747 MATHEMATICAL:BOLD ITALIC SMALL FINAL SIGMA,BOLD ITALIC SMALL SIGMA",
  "1D749 MATHEMATICAL:BOLD ITALIC SMALL TAU,BOLD ITALIC SMALL UPSILON,BOLD ITALIC SMALL PHI",
  "1D74C MATHEMATICAL:BOLD ITALIC SMALL CHI,BOLD ITALIC SMALL PSI,BOLD ITALIC SMALL OMEGA",
  "1D74F MATHEMATICAL:BOLD ITALIC PARTIAL DIFFERENTIAL,BOLD ITALIC EPSILON SYMBOL",
  "1D751 MATHEMATICAL:BOLD ITALIC THETA SYMBOL,BOLD ITALIC KAPPA SYMBOL,BOLD ITALIC PHI SYMBOL",
  "1D754 MATHEMATICAL:BOLD ITALIC RHO SYMBOL,BOLD ITALIC PI SYMBOL",
  "1D756 MATHEMATICAL:SANS-SERIF BOLD CAPITAL ALPHA,SANS-SERIF BOLD CAPITAL BETA",
  "1D758 MATHEMATICAL:SANS-SERIF BOLD CAPITAL GAMMA,SANS-SERIF BOLD CAPITAL DELTA",
  "1D75A MATHEMATICAL:SANS-SERIF BOLD CAPITAL EPSILON,SANS-SERIF BOLD CAPITAL ZETA",
  "1D75C MATHEMATICAL:SANS-SERIF BOLD CAPITAL ETA,SANS-SERIF BOLD CAPITAL THETA",
  "1D75E MATHEMATICAL:SANS-SERIF BOLD CAPITAL IOTA,SANS-SERIF BOLD CAPITAL KAPPA",
  "1D760 MATHEMATICAL:SANS-SERIF BOLD CAPITAL LAMDA,SANS-SERIF BOLD CAPITAL MU",
  "1D762 MATHEMATICAL:SANS-SERIF BOLD CAPITAL NU,SANS-SERIF BOLD CAPITAL XI",
  "1D764 MATHEMATICAL:SANS-SERIF BOLD CAPITAL OMICRON,SANS-SERIF BOLD CAPITAL PI",
  "1D766 MATHEMATICAL:SANS-SERIF BOLD CAPITAL RHO,SANS-SERIF BOLD CAPITAL THETA SYMBOL",
  "1D768 MATHEMATICAL:SANS-SERIF BOLD CAPITAL SIGMA,SANS-SERIF BOLD CAPITAL TAU",
  "1D76A MATHEMATICAL:SANS-SERIF BOLD CAPITAL UPSILON,SANS-SERIF BOLD CAPITAL PHI",
  "1D76C MATHEMATICAL:SANS-SERIF BOLD CAPITAL CHI,SANS-SERIF BOLD CAPITAL PSI",
  "1D76E MATHEMATICAL:SANS-SERIF BOLD CAPITAL OMEGA,SANS-SERIF BOLD NABLA",
  "1D770 MATHEMATICAL:SANS-SERIF BOLD SMALL ALPHA,SANS-SERIF BOLD SMALL BETA",
  "1D772 MATHEMATICAL:SANS-SERIF BOLD SMALL GAMMA,SANS-SERIF BOLD SMALL DELTA",
  "1D774 MATHEMATICAL:SANS-SERIF BOLD SMALL EPSILON,SANS-SERIF BOLD SMALL ZETA",
  "1D776 MATHEMATICAL:SANS-SERIF BOLD SMALL ETA,SANS-SERIF BOLD SMALL THETA",
  "1D778 MATHEMATICAL:SANS-SERIF BOLD SMALL IOTA,SANS-SERIF BOLD SMALL KAPPA",
  "1D77A MATHEMATICAL:SANS-SERIF BOLD SMALL LAMDA,SANS-SERIF BOLD SMALL MU",
  "1D77C MATHEMATICAL:SANS-SERIF BOLD SMALL NU,SANS-SERIF BOLD SMALL XI",
  "1D77E MATHEMATICAL:SANS-SERIF BOLD SMALL OMICRON,SANS-SERIF BOLD SMALL PI",
  "1D780 MATHEMATICAL:SANS-SERIF BOLD SMALL RHO,SANS-SERIF BOLD SMALL FINAL SIGMA",
  "1D782 MATHEMATICAL:SANS-SERIF BOLD SMALL SIGMA,SANS-SERIF BOLD SMALL TAU",
  "1D784 MATHEMATICAL:SANS-SERIF BOLD SMALL UPSILON,SANS-SERIF BOLD SMALL PHI",
  "1D786 MATHEMATICAL:SANS-SERIF BOLD SMALL CHI,SANS-SERIF BOLD SMALL PSI",
  "1D788 MATHEMATICAL:SANS-SERIF BOLD SMALL OMEGA,SANS-SERIF BOLD PARTIAL DIFFERENTIAL",
  "1D78A MATHEMATICAL:SANS-SERIF BOLD EPSILON SYMBOL,SANS-SERIF BOLD THETA SYMBOL",
  "1D78C MATHEMATICAL:SANS-SERIF BOLD KAPPA SYMBOL,SANS-SERIF BOLD PHI SYMBOL",
  "1D78E MATHEMATICAL:SANS-SERIF BOLD RHO SYMBOL,SANS-SERIF BOLD PI SYMBOL",
  "1D790 MATHEMATICAL:SANS-SERIF BOLD ITALIC CAPITAL ALPHA,SANS-SERIF BOLD ITALIC CAPITAL BETA",
  "1D792 MATHEMATICAL:SANS-SERIF BOLD ITALIC CAPITAL GAMMA,SANS-SERIF BOLD ITALIC CAPITAL DELTA",
  "1D794 MATHEMATICAL:SANS-SERIF BOLD ITALIC CAPITAL EPSILON",
  "1D795 MATHEMATICAL:SANS-SERIF BOLD ITALIC CAPITAL ZETA,SANS-SERIF BOLD ITALIC CAPITAL ETA",
  "1D797 MATHEMATICAL:SANS-SERIF BOLD ITALIC CAPITAL THETA,SANS-SERIF BOLD ITALIC CAPITAL IOTA",
  "1D799 MATHEMATICAL:SANS-SERIF BOLD ITALIC CAPITAL KAPPA,SANS-SERIF BOLD ITALIC CAPITAL LAMDA",
  "1D79B MATHEMATICAL:SANS-SERIF BOLD ITALIC CAPITAL MU,SANS-SERIF BOLD ITALIC CAPITAL NU",
  "1D79D MATHEMATICAL:SANS-SERIF BOLD ITALIC CAPITAL XI,SANS-SERIF BOLD ITALIC CAPITAL OMICRON",
  "1D79F MATHEMATICAL:SANS-SERIF BOLD ITALIC CAPITAL PI,SANS-SERIF BOLD ITALIC CAPITAL RHO",
  "1D7A1 MATHEMATICAL:SANS-SERIF BOLD ITALIC CAPITAL THETA SYMBOL",
  "1D7A2 MATHEMATICAL:SANS-SERIF BOLD ITALIC CAPITAL SIGMA,SANS-SERIF BOLD ITALIC CAPITAL TAU",
  "1D7A4 MATHEMATICAL:SANS-SERIF BOLD ITALIC CAPITAL UPSILON,SANS-SERIF BOLD ITALIC CAPITAL PHI",
  "1D7A6 MATHEMATICAL:SANS-SERIF BOLD ITALIC CAPITAL CHI,SANS-SERIF BOLD ITALIC CAPITAL PSI",
  "1D7A8 MATHEMATICAL:SANS-SERIF BOLD ITALIC CAPITAL OMEGA,SANS-SERIF BOLD ITALIC NABLA",
  "1D7AA MATHEMATICAL:SANS-SERIF BOLD ITALIC SMALL ALPHA,SANS-SERIF BOLD ITALIC SMALL BETA",
  "1D7AC MATHEMATICAL:SANS-SERIF BOLD ITALIC SMALL GAMMA,SANS-SERIF BOLD ITALIC SMALL DELTA",
  "1D7AE MATHEMATICAL:SANS-SERIF BOLD ITALIC SMALL EPSILON,SANS-SERIF BOLD ITALIC SMALL ZETA",
  "1D7B0 MATHEMATICAL:SANS-SERIF BOLD ITALIC SMALL ETA,SANS-SERIF BOLD ITALIC SMALL THETA",
  "1D7B2 MATHEMATICAL:SANS-SERIF BOLD ITALIC SMALL IOTA,SANS-SERIF BOLD ITALIC SMALL KAPPA",
  "1D7B4 MATHEMATICAL:SANS-SERIF BOLD ITALIC SMALL LAMDA,SANS-SERIF BOLD ITALIC SMALL MU",
  "1D7B6 MATHEMATICAL:SANS-SERIF BOLD ITALIC SMALL NU,SANS-SERIF BOLD ITALIC SMALL XI",
  "1D7B8 MATHEMATICAL:SANS-SERIF BOLD ITALIC SMALL OMICRON,SANS-SERIF BOLD ITALIC SMALL PI",
  "1D7BA MATHEMATICAL:SANS-SERIF BOLD ITALIC SMALL RHO,SANS-SERIF BOLD ITALIC SMALL FINAL SIGMA",
  "1D7BC MATHEMATICAL:SANS-SERIF BOLD ITALIC SMALL SIGMA,SANS-SERIF BOLD ITALIC SMALL TAU",
  "1D7BE MATHEMATICAL:SANS-SERIF BOLD ITALIC SMALL UPSILON,SANS-SERIF BOLD ITALIC SMALL PHI",
  "1D7C0 MATHEMATICAL:SANS-SERIF BOLD ITALIC SMALL CHI,SANS-SERIF BOLD ITALIC SMALL PSI",
  "1D7C2 MATHEMATICAL:SANS-SERIF BOLD ITALIC SMALL OMEGA",
  "1D7C3 MATHEMATICAL:SANS-SERIF BOLD ITALIC PARTIAL DIFFERENTIAL",
  "1D7C4 MATHEMATICAL:SANS-SERIF BOLD ITALIC EPSILON SYMBOL,SANS-SERIF BOLD ITALIC THETA SYMBOL",
  "1D7C6 MATHEMATICAL:SANS-SERIF BOLD ITALIC KAPPA SYMBOL,SANS-SERIF BOLD ITALIC PHI SYMBOL",
  "1D7C8 MATHEMATICAL:SANS-SERIF BOLD ITALIC RHO SYMBOL,SANS-SERIF BOLD ITALIC PI SYMBOL",
  "1D7CA MATHEMATICAL:BOLD CAPITAL DIGAMMA,BOLD SMALL DIGAMMA",
  "1D7CE MATHEMATICAL:BOLD DIGIT ZERO,BOLD DIGIT ONE,BOLD DIGIT TWO,BOLD DIGIT THREE",
  "1D7D2 MATHEMATICAL:BOLD DIGIT FOUR,BOLD DIGIT FIVE,BOLD DIGIT SIX,BOLD DIGIT SEVEN",
  "1D7D6 MATHEMATICAL:BOLD DIGIT EIGHT,BOLD DIGIT NINE,DOUBLE-STRUCK DIGIT ZERO",
  "1D7D9 MATHEMATICAL:DOUBLE-STRUCK DIGIT ONE,DOUBLE-STRUCK DIGIT TWO,DOUBLE-STRUCK DIGIT THREE",
  "1D7DC MATHEMATICAL:DOUBLE-STRUCK DIGIT FOUR,DOUBLE-STRUCK DIGIT FIVE,DOUBLE-STRUCK DIGIT SIX",
  "1D7DF MATHEMATICAL:DOUBLE-STRUCK DIGIT SEVEN,DOUBLE-STRUCK DIGIT EIGHT",
  "1D7E1 MATHEMATICAL:DOUBLE-STRUCK DIGIT NINE,SANS-SERIF DIGIT ZERO,SANS-SERIF DIGIT ONE",
  "1D7E4 MATHEMATICAL:SANS-SERIF DIGIT TWO,SANS-SERIF DIGIT THREE,SANS-SERIF DIGIT FOUR",
  "1D7E7 MATHEMATICAL:SANS-SERIF DIGIT FIVE,SANS-SERIF DIGIT SIX,SANS-SERIF DIGIT SEVEN",
  "1D7EA MATHEMATICAL:SANS-SERIF DIGIT EIGHT,SANS-SERIF DIGIT NINE,SANS-SERIF BOLD DIGIT ZERO",
  "1D7ED MATHEMATICAL:SANS-SERIF BOLD DIGIT ONE,SANS-SERIF BOLD DIGIT TWO",
  "1D7EF MATHEMATICAL:SANS-SERIF BOLD DIGIT THREE,SANS-SERIF BOLD DIGIT FOUR",
  "1D7F1 MATHEMATICAL:SANS-SERIF BOLD DIGIT FIVE,SANS-SERIF BOLD DIGIT SIX",
  "1D7F3 MATHEMATICAL:SANS-SERIF BOLD DIGIT SEVEN,SANS-SERIF BOLD DIGIT EIGHT",
  "1D7F5 MATHEMATICAL:SANS-SERIF BOLD DIGIT NINE,MONOSPACE DIGIT ZERO,MONOSPACE DIGIT ONE",
  "1D7F8 MATHEMATICAL:MONOSPACE DIGIT TWO,MONOSPACE DIGIT THREE,MONOSPACE DIGIT FOUR",
  "1D7FB MATHEMATICAL:MONOSPACE DIGIT FIVE,MONOSPACE DIGIT SIX,MONOSPACE DIGIT SEVEN",
  "1D7FE MATHEMATICAL:MONOSPACE DIGIT EIGHT,MONOSPACE DIGIT NINE",
  "1F000 MAHJONG TILE:EAST WIND,SOUTH WIND,WEST WIND,NORTH WIND,RED DRAGON,GREEN DRAGON",
  "1F006 MAHJONG TILE:WHITE DRAGON,ONE OF CHARACTERS,TWO OF CHARACTERS,THREE OF CHARACTERS",
  "1F00A MAHJONG TILE:FOUR OF CHARACTERS,FIVE OF CHARACTERS,SIX OF CHARACTERS",
  "1F00D MAHJONG TILE:SEVEN OF CHARACTERS,EIGHT OF CHARACTERS,NINE OF CHARACTERS,ONE OF BAMBOOS",
  "1F011 MAHJONG TILE:TWO OF BAMBOOS,THREE OF BAMBOOS,FOUR OF BAMBOOS,FIVE OF BAMBOOS",
  "1F015 MAHJONG TILE:SIX OF BAMBOOS,SEVEN OF BAMBOOS,EIGHT OF BAMBOOS,NINE OF BAMBOOS",
  "1F019 MAHJONG TILE:ONE OF CIRCLES,TWO OF CIRCLES,THREE OF CIRCLES,FOUR OF CIRCLES",
  "1F01D MAHJONG TILE:FIVE OF CIRCLES,SIX OF CIRCLES,SEVEN OF CIRCLES,EIGHT OF CIRCLES",
  "1F021 MAHJONG TILE:NINE OF CIRCLES,PLUM,ORCHID,BAMBOO,CHRYSANTHEMUM,SPRING,SUMMER,AUTUMN",
  "1F029 MAHJONG TILE:WINTER,JOKER,BACK",
  "1F030 DOMINO TILE:HORIZONTAL BACK,HORIZONTAL-00-00,HORIZONTAL-00-01,HORIZONTAL-00-02",
  "1F034 DOMINO TILE:HORIZONTAL-00-03,HORIZONTAL-00-04,HORIZONTAL-00-05,HORIZONTAL-00-06",
  "1F038 DOMINO TILE:HORIZONTAL-01-00,HORIZONTAL-01-01,HORIZONTAL-01-02,HORIZONTAL-01-03",
  "1F03C DOMINO TILE:HORIZONTAL-01-04,HORIZONTAL-01-05,HORIZONTAL-01-06,HORIZONTAL-02-00",
  "1F040 DOMINO TILE:HORIZONTAL-02-01,HORIZONTAL-02-02,HORIZONTAL-02-03,HORIZONTAL-02-04",
  "1F044 DOMINO TILE:HORIZONTAL-02-05,HORIZONTAL-02-06,HORIZONTAL-03-00,HORIZONTAL-03-01",
  "1F048 DOMINO TILE:HORIZONTAL-03-02,HORIZONTAL-03-03,HORIZONTAL-03-04,HORIZONTAL-03-05",
  "1F04C DOMINO TILE:HORIZONTAL-03-06,HORIZONTAL-04-00,HORIZONTAL-04-01,HORIZONTAL-04-02",
  "1F050 DOMINO TILE:HORIZONTAL-04-03,HORIZONTAL-04-04,HORIZONTAL-04-05,HORIZONTAL-04-06",
  "1F054 DOMINO TILE:HORIZONTAL-05-00,HORIZONTAL-05-01,HORIZONTAL-05-02,HORIZONTAL-05-03",
  "1F058 DOMINO TILE:HORIZONTAL-05-04,HORIZONTAL-05-05,HORIZONTAL-05-06,HORIZONTAL-06-00",
  "1F05C DOMINO TILE:HORIZONTAL-06-01,HORIZONTAL-06-02,HORIZONTAL-06-03,HORIZONTAL-06-04",
  "1F060 DOMINO TILE:HORIZONTAL-06-05,HORIZONTAL-06-06,VERTICAL BACK,VERTICAL-00-00",
  "1F064 DOMINO TILE:VERTICAL-00-01,VERTICAL-00-02,VERTICAL-00-03,VERTICAL-00-04,VERTICAL-00-05",
  "1F069 DOMINO TILE:VERTICAL-00-06,VERTICAL-01-00,VERTICAL-01-01,VERTICAL-01-02,VERTICAL-01-03",
  "1F06E DOMINO TILE:VERTICAL-01-04,VERTICAL-01-05,VERTICAL-01-06,VERTICAL-02-00,VERTICAL-02-01",
  "1F073 DOMINO TILE:VERTICAL-02-02,VERTICAL-02-03,VERTICAL-02-04,VERTICAL-02-05,VERTICAL-02-06",
  "1F078 DOMINO TILE:VERTICAL-03-00,VERTICAL-03-01,VERTICAL-03-02,VERTICAL-03-03,VERTICAL-03-04",
  "1F07D DOMINO TILE:VERTICAL-03-05,VERTICAL-03-06,VERTICAL-04-00,VERTICAL-04-01,VERTICAL-04-02",
  "1F082 DOMINO TILE:VERTICAL-04-03,VERTICAL-04-04,VERTICAL-04-05,VERTICAL-04-06,VERTICAL-05-00",
  "1F087 DOMINO TILE:VERTICAL-05-01,VERTICAL-05-02,VERTICAL-05-03,VERTICAL-05-04,VERTICAL-05-05",
  "1F08C DOMINO TILE:VERTICAL-05-06,VERTICAL-06-00,VERTICAL-06-01,VERTICAL-06-02,VERTICAL-06-03",
  "1F091 DOMINO TILE:VERTICAL-06-04,VERTICAL-06-05,VERTICAL-06-06",
  "1F0A0 PLAYING CARD:BACK,ACE OF SPADES,TWO OF SPADES,THREE OF SPADES,FOUR OF SPADES",
  "1F0A5 PLAYING CARD:FIVE OF SPADES,SIX OF SPADES,SEVEN OF SPADES,EIGHT OF SPADES",
  "1F0A9 PLAYING CARD:NINE OF SPADES,TEN OF SPADES,JACK OF SPADES,KNIGHT OF SPADES",
  "1F0AD PLAYING CARD:QUEEN OF SPADES,KING OF SPADES",
  "1F0B1 PLAYING CARD:ACE OF HEARTS,TWO OF HEARTS,THREE OF HEARTS,FOUR OF HEARTS,FIVE OF HEARTS",
  "1F0B6 PLAYING CARD:SIX OF HEARTS,SEVEN OF HEARTS,EIGHT OF HEARTS,NINE OF HEARTS",
  "1F0BA PLAYING CARD:TEN OF HEARTS,JACK OF HEARTS,KNIGHT OF HEARTS,QUEEN OF HEARTS",
  "1F0BE PLAYING CARD:KING OF HEARTS,RED JOKER",
  "1F0C1 PLAYING CARD:ACE OF DIAMONDS,TWO OF DIAMONDS,THREE OF DIAMONDS,FOUR OF DIAMONDS",
  "1F0C5 PLAYING CARD:FIVE OF DIAMONDS,SIX OF DIAMONDS,SEVEN OF DIAMONDS,EIGHT OF DIAMONDS",
  "1F0C9 PLAYING CARD:NINE OF DIAMONDS,TEN OF DIAMONDS,JACK OF DIAMONDS,KNIGHT OF DIAMONDS",
  "1F0CD PLAYING CARD:QUEEN OF DIAMONDS,KING OF DIAMONDS,BLACK JOKER",
  "1F0D1 PLAYING CARD:ACE OF CLUBS,TWO OF CLUBS,THREE OF CLUBS,FOUR OF CLUBS,FIVE OF CLUBS",
  "1F0D6 PLAYING CARD:SIX OF CLUBS,SEVEN OF CLUBS,EIGHT OF CLUBS,NINE OF CLUBS,TEN OF CLUBS",
  "1F0DB PLAYING CARD:JACK OF CLUBS,KNIGHT OF CLUBS,QUEEN OF CLUBS,KING OF CLUBS,WHITE JOKER",
  "1F0E0 PLAYING CARD:FOOL,TRUMP-1,TRUMP-2,TRUMP-3,TRUMP-4,TRUMP-5,TRUMP-6,TRUMP-7,TRUMP-8",
  "1F0E9 PLAYING CARD:TRUMP-9,TRUMP-10,TRUMP-11,TRUMP-12,TRUMP-13,TRUMP-14,TRUMP-15,TRUMP-16",
  "1F0F1 PLAYING CARD:TRUMP-17,TRUMP-18,TRUMP-19,TRUMP-20,TRUMP-21;1F100:DIGIT ZERO FULL STOP",
  "1F101:DIGIT ZERO COMMA;1F102:DIGIT ONE COMMA;1F103:DIGIT TWO COMMA;1F104:DIGIT THREE COMMA",
  "1F105:DIGIT FOUR COMMA;1F106:DIGIT FIVE COMMA;1F107:DIGIT SIX COMMA;1F108:DIGIT SEVEN COMMA",
  "1F109:DIGIT EIGHT COMMA;1F10A:DIGIT NINE COMMA;1F10B:DINGBAT CIRCLED SANS-SERIF DIGIT ZERO",
  "1F10C:DINGBAT NEGATIVE CIRCLED SANS-SERIF DIGIT ZERO;1F10D:CIRCLED ZERO WITH SLASH",
  "1F10E:CIRCLED ANTICLOCKWISE ARROW;1F10F:CIRCLED DOLLAR SIGN WITH OVERLAID BACKSLASH",
  "1F110 PARENTHESIZED LATIN CAPITAL LETTER:A,B,C,D,E,F,G,H,I,J,K,L,M,N,O,P,Q,R,S,T,U,V,W,X,Y,Z",
  "1F12A:TORTOISE SHELL BRACKETED LATIN CAPITAL LETTER S",
  "1F12B:CIRCLED ITALIC LATIN CAPITAL LETTER C;1F12C:CIRCLED ITALIC LATIN CAPITAL LETTER R",
  "1F12D:CIRCLED CD;1F12E:CIRCLED WZ;1F12F:COPYLEFT SYMBOL",
  "1F130 SQUARED LATIN CAPITAL LETTER:A,B,C,D,E,F,G,H,I,J,K,L,M,N,O,P,Q,R,S,T,U,V,W,X,Y,Z",
  "1F14A:SQUARED HV;1F14B:SQUARED MV;1F14C:SQUARED SD;1F14D:SQUARED SS;1F14E:SQUARED PPV",
  "1F14F:SQUARED WC",
  "1F150 NEGATIVE CIRCLED LATIN CAPITAL LETTER:A,B,C,D,E,F,G,H,I,J,K,L,M,N,O,P,Q,R,S,T,U,V,W,X",
  "1F168 NEGATIVE CIRCLED LATIN CAPITAL LETTER:Y,Z;1F16A:RAISED MC SIGN;1F16B:RAISED MD SIGN",
  "1F16C:RAISED MR SIGN;1F16D:CIRCLED CC;1F16E:CIRCLED C WITH OVERLAID BACKSLASH",
  "1F16F:CIRCLED HUMAN FIGURE",
  "1F170 NEGATIVE SQUARED LATIN CAPITAL LETTER:A,B,C,D,E,F,G,H,I,J,K,L,M,N,O,P,Q,R,S,T,U,V,W,X",
  "1F188 NEGATIVE SQUARED LATIN CAPITAL LETTER:Y,Z",
  "1F18A:CROSSED NEGATIVE SQUARED LATIN CAPITAL LETTER P;1F18B NEGATIVE SQUARED:IC,PA,SA,AB,WC",
  "1F190:SQUARE DJ",
  "1F191 SQUARED:CL,COOL,FREE,ID,NEW,NG,OK,SOS,UP WITH EXCLAMATION MARK,VS,THREE D",
  "1F19C SQUARED:SECOND SCREEN,TWO K,FOUR K,EIGHT K,FIVE POINT ONE,SEVEN POINT ONE",
  "1F1A2 SQUARED:TWENTY-TWO POINT TWO,SIXTY P,ONE HUNDRED TWENTY P,LATIN SMALL LETTER D,HC,HDR",
  "1F1A8 SQUARED:HI-RES,LOSSLESS,SHV,UHD,VOD;1F1AD:MASK WORK SYMBOL",
  "1F1E6 REGIONAL INDICATOR SYMBOL LETTER:A,B,C,D,E,F,G,H,I,J,K,L,M,N,O,P,Q,R,S,T,U,V,W,X,Y,Z",
  "1F200:SQUARE HIRAGANA HOKA;1F201 SQUARED KATAKANA:KOKO,SA",
  "1F210 SQUARED:CJK UNIFIED IDEOGRAPH-624B,CJK UNIFIED IDEOGRAPH-5B57",
  "1F212 SQUARED:CJK UNIFIED IDEOGRAPH-53CC,KATAKANA DE,CJK UNIFIED IDEOGRAPH-4E8C",
  "1F215 SQUARED:CJK UNIFIED IDEOGRAPH-591A,CJK UNIFIED IDEOGRAPH-89E3",
  "1F217 SQUARED:CJK UNIFIED IDEOGRAPH-5929,CJK UNIFIED IDEOGRAPH-4EA4",
  "1F219 SQUARED:CJK UNIFIED IDEOGRAPH-6620,CJK UNIFIED IDEOGRAPH-7121",
  "1F21B SQUARED:CJK UNIFIED IDEOGRAPH-6599,CJK UNIFIED IDEOGRAPH-524D",
  "1F21D SQUARED:CJK UNIFIED IDEOGRAPH-5F8C,CJK UNIFIED IDEOGRAPH-518D",
  "1F21F SQUARED:CJK UNIFIED IDEOGRAPH-65B0,CJK UNIFIED IDEOGRAPH-521D",
  "1F221 SQUARED:CJK UNIFIED IDEOGRAPH-7D42,CJK UNIFIED IDEOGRAPH-751F",
  "1F223 SQUARED:CJK UNIFIED IDEOGRAPH-8CA9,CJK UNIFIED IDEOGRAPH-58F0",
  "1F225 SQUARED:CJK UNIFIED IDEOGRAPH-5439,CJK UNIFIED IDEOGRAPH-6F14",
  "1F227 SQUARED:CJK UNIFIED IDEOGRAPH-6295,CJK UNIFIED IDEOGRAPH-6355",
  "1F229 SQUARED:CJK UNIFIED IDEOGRAPH-4E00,CJK UNIFIED IDEOGRAPH-4E09",
  "1F22B SQUARED:CJK UNIFIED IDEOGRAPH-904A,CJK UNIFIED IDEOGRAPH-5DE6",
  "1F22D SQUARED:CJK UNIFIED IDEOGRAPH-4E2D,CJK UNIFIED IDEOGRAPH-53F3",
  "1F22F SQUARED:CJK UNIFIED IDEOGRAPH-6307,CJK UNIFIED IDEOGRAPH-8D70",
  "1F231 SQUARED:CJK UNIFIED IDEOGRAPH-6253,CJK UNIFIED IDEOGRAPH-7981",
  "1F233 SQUARED:CJK UNIFIED IDEOGRAPH-7A7A,CJK UNIFIED IDEOGRAPH-5408",
  "1F235 SQUARED:CJK UNIFIED IDEOGRAPH-6E80,CJK UNIFIED IDEOGRAPH-6709",
  "1F237 SQUARED:CJK UNIFIED IDEOGRAPH-6708,CJK UNIFIED IDEOGRAPH-7533",
  "1F239 SQUARED:CJK UNIFIED IDEOGRAPH-5272,CJK UNIFIED IDEOGRAPH-55B6",
  "1F23B SQUARED:CJK UNIFIED IDEOGRAPH-914D",
  "1F240 TORTOISE SHELL BRACKETED CJK UNIFIED:IDEOGRAPH-672C,IDEOGRAPH-4E09,IDEOGRAPH-4E8C",
  "1F243 TORTOISE SHELL BRACKETED CJK UNIFIED:IDEOGRAPH-5B89,IDEOGRAPH-70B9,IDEOGRAPH-6253",
  "1F246 TORTOISE SHELL BRACKETED CJK UNIFIED:IDEOGRAPH-76D7,IDEOGRAPH-52DD,IDEOGRAPH-6557",
  "1F250 CIRCLED IDEOGRAPH:ADVANTAGE,ACCEPT;1F260 ROUNDED SYMBOL FOR:FU,LU,SHOU,XI,SHUANGXI,CAI",
  "1F300:CYCLONE;1F301:FOGGY;1F302:CLOSED UMBRELLA;1F303:NIGHT WITH STARS",
  "1F304:SUNRISE OVER MOUNTAINS;1F305:SUNRISE;1F306:CITYSCAPE AT DUSK",
  "1F307:SUNSET OVER BUILDINGS;1F308:RAINBOW;1F309:BRIDGE AT NIGHT;1F30A:WATER WAVE",
  "1F30B:VOLCANO;1F30C:MILKY WAY;1F30D:EARTH GLOBE EUROPE-AFRICA;1F30E:EARTH GLOBE AMERICAS",
  "1F30F:EARTH GLOBE ASIA-AUSTRALIA;1F310:GLOBE WITH MERIDIANS;1F311:NEW MOON SYMBOL",
  "1F312:WAXING CRESCENT MOON SYMBOL;1F313:FIRST QUARTER MOON SYMBOL",
  "1F314:WAXING GIBBOUS MOON SYMBOL;1F315:FULL MOON SYMBOL;1F316:WANING GIBBOUS MOON SYMBOL",
  "1F317:LAST QUARTER MOON SYMBOL;1F318:WANING CRESCENT MOON SYMBOL;1F319:CRESCENT MOON",
  "1F31A:NEW MOON WITH FACE;1F31B:FIRST QUARTER MOON WITH FACE",
  "1F31C:LAST QUARTER MOON WITH FACE;1F31D:FULL MOON WITH FACE;1F31E:SUN WITH FACE",
  "1F31F:GLOWING STAR;1F320:SHOOTING STAR;1F321:THERMOMETER;1F322:BLACK DROPLET;1F323:WHITE SUN",
  "1F324:WHITE SUN WITH SMALL CLOUD;1F325:WHITE SUN BEHIND CLOUD",
  "1F326:WHITE SUN BEHIND CLOUD WITH RAIN;1F327:CLOUD WITH RAIN;1F328:CLOUD WITH SNOW",
  "1F329:CLOUD WITH LIGHTNING;1F32A:CLOUD WITH TORNADO;1F32B:FOG;1F32C:WIND BLOWING FACE",
  "1F32D:HOT DOG;1F32E:TACO;1F32F:BURRITO;1F330:CHESTNUT;1F331:SEEDLING;1F332:EVERGREEN TREE",
  "1F333:DECIDUOUS TREE;1F334:PALM TREE;1F335:CACTUS;1F336:HOT PEPPER;1F337:TULIP",
  "1F338:CHERRY BLOSSOM;1F339:ROSE;1F33A:HIBISCUS;1F33B:SUNFLOWER;1F33C:BLOSSOM",
  "1F33D:EAR OF MAIZE;1F33E:EAR OF RICE;1F33F:HERB;1F340:FOUR LEAF CLOVER;1F341:MAPLE LEAF",
  "1F342:FALLEN LEAF;1F343:LEAF FLUTTERING IN WIND;1F344:MUSHROOM;1F345:TOMATO;1F346:AUBERGINE",
  "1F347:GRAPES;1F348:MELON;1F349:WATERMELON;1F34A:TANGERINE;1F34B:LEMON;1F34C:BANANA",
  "1F34D:PINEAPPLE;1F34E:RED APPLE;1F34F:GREEN APPLE;1F350:PEAR;1F351:PEACH;1F352:CHERRIES",
  "1F353:STRAWBERRY;1F354:HAMBURGER;1F355:SLICE OF PIZZA;1F356:MEAT ON BONE;1F357:POULTRY LEG",
  "1F358:RICE CRACKER;1F359:RICE BALL;1F35A:COOKED RICE;1F35B:CURRY AND RICE",
  "1F35C:STEAMING BOWL;1F35D:SPAGHETTI;1F35E:BREAD;1F35F:FRENCH FRIES",
  "1F360:ROASTED SWEET POTATO;1F361:DANGO;1F362:ODEN;1F363:SUSHI;1F364:FRIED SHRIMP",
  "1F365:FISH CAKE WITH SWIRL DESIGN;1F366:SOFT ICE CREAM;1F367:SHAVED ICE;1F368:ICE CREAM",
  "1F369:DOUGHNUT;1F36A:COOKIE;1F36B:CHOCOLATE BAR;1F36C:CANDY;1F36D:LOLLIPOP;1F36E:CUSTARD",
  "1F36F:HONEY POT;1F370:SHORTCAKE;1F371:BENTO BOX;1F372:POT OF FOOD;1F373:COOKING",
  "1F374:FORK AND KNIFE;1F375:TEACUP WITHOUT HANDLE;1F376:SAKE BOTTLE AND CUP;1F377:WINE GLASS",
  "1F378:COCKTAIL GLASS;1F379:TROPICAL DRINK;1F37A:BEER MUG;1F37B:CLINKING BEER MUGS",
  "1F37C:BABY BOTTLE;1F37D:FORK AND KNIFE WITH PLATE;1F37E:BOTTLE WITH POPPING CORK",
  "1F37F:POPCORN;1F380:RIBBON;1F381:WRAPPED PRESENT;1F382:BIRTHDAY CAKE;1F383:JACK-O-LANTERN",
  "1F384:CHRISTMAS TREE;1F385:FATHER CHRISTMAS;1F386:FIREWORKS;1F387:FIREWORK SPARKLER",
  "1F388:BALLOON;1F389:PARTY POPPER;1F38A:CONFETTI BALL;1F38B:TANABATA TREE;1F38C:CROSSED FLAGS",
  "1F38D:PINE DECORATION;1F38E:JAPANESE DOLLS;1F38F:CARP STREAMER;1F390:WIND CHIME",
  "1F391:MOON VIEWING CEREMONY;1F392:SCHOOL SATCHEL;1F393:GRADUATION CAP",
  "1F394:HEART WITH TIP ON THE LEFT;1F395:BOUQUET OF FLOWERS;1F396:MILITARY MEDAL",
  "1F397:REMINDER RIBBON;1F398:MUSICAL KEYBOARD WITH JACKS;1F399:STUDIO MICROPHONE",
  "1F39A:LEVEL SLIDER;1F39B:CONTROL KNOBS;1F39C:BEAMED ASCENDING MUSICAL NOTES",
  "1F39D:BEAMED DESCENDING MUSICAL NOTES;1F39E:FILM FRAMES;1F39F:ADMISSION TICKETS",
  "1F3A0:CAROUSEL HORSE;1F3A1:FERRIS WHEEL;1F3A2:ROLLER COASTER;1F3A3:FISHING POLE AND FISH",
  "1F3A4:MICROPHONE;1F3A5:MOVIE CAMERA;1F3A6:CINEMA;1F3A7:HEADPHONE;1F3A8:ARTIST PALETTE",
  "1F3A9:TOP HAT;1F3AA:CIRCUS TENT;1F3AB:TICKET;1F3AC:CLAPPER BOARD;1F3AD:PERFORMING ARTS",
  "1F3AE:VIDEO GAME;1F3AF:DIRECT HIT;1F3B0:SLOT MACHINE;1F3B1:BILLIARDS;1F3B2:GAME DIE",
  "1F3B3:BOWLING;1F3B4:FLOWER PLAYING CARDS;1F3B5:MUSICAL NOTE;1F3B6:MULTIPLE MUSICAL NOTES",
  "1F3B7:SAXOPHONE;1F3B8:GUITAR;1F3B9:MUSICAL KEYBOARD;1F3BA:TRUMPET;1F3BB:VIOLIN",
  "1F3BC:MUSICAL SCORE;1F3BD:RUNNING SHIRT WITH SASH;1F3BE:TENNIS RACQUET AND BALL",
  "1F3BF:SKI AND SKI BOOT;1F3C0:BASKETBALL AND HOOP;1F3C1:CHEQUERED FLAG;1F3C2:SNOWBOARDER",
  "1F3C3:RUNNER;1F3C4:SURFER;1F3C5:SPORTS MEDAL;1F3C6:TROPHY;1F3C7:HORSE RACING",
  "1F3C8:AMERICAN FOOTBALL;1F3C9:RUGBY FOOTBALL;1F3CA:SWIMMER;1F3CB:WEIGHT LIFTER;1F3CC:GOLFER",
  "1F3CD:RACING MOTORCYCLE;1F3CE:RACING CAR;1F3CF:CRICKET BAT AND BALL;1F3D0:VOLLEYBALL",
  "1F3D1:FIELD HOCKEY STICK AND BALL;1F3D2:ICE HOCKEY STICK AND PUCK",
  "1F3D3:TABLE TENNIS PADDLE AND BALL;1F3D4:SNOW CAPPED MOUNTAIN;1F3D5:CAMPING",
  "1F3D6:BEACH WITH UMBRELLA;1F3D7:BUILDING CONSTRUCTION;1F3D8:HOUSE BUILDINGS;1F3D9:CITYSCAPE",
  "1F3DA:DERELICT HOUSE BUILDING;1F3DB:CLASSICAL BUILDING;1F3DC:DESERT;1F3DD:DESERT ISLAND",
  "1F3DE:NATIONAL PARK;1F3DF:STADIUM;1F3E0:HOUSE BUILDING;1F3E1:HOUSE WITH GARDEN",
  "1F3E2:OFFICE BUILDING;1F3E3:JAPANESE POST OFFICE;1F3E4:EUROPEAN POST OFFICE;1F3E5:HOSPITAL",
  "1F3E6:BANK;1F3E7:AUTOMATED TELLER MACHINE;1F3E8:HOTEL;1F3E9:LOVE HOTEL",
  "1F3EA:CONVENIENCE STORE;1F3EB:SCHOOL;1F3EC:DEPARTMENT STORE;1F3ED:FACTORY",
  "1F3EE:IZAKAYA LANTERN;1F3EF:JAPANESE CASTLE;1F3F0:EUROPEAN CASTLE;1F3F1:WHITE PENNANT",
  "1F3F2:BLACK PENNANT;1F3F3:WAVING WHITE FLAG;1F3F4:WAVING BLACK FLAG;1F3F5:ROSETTE",
  "1F3F6:BLACK ROSETTE;1F3F7:LABEL;1F3F8:BADMINTON RACQUET AND SHUTTLECOCK;1F3F9:BOW AND ARROW",
  "1F3FA:AMPHORA;1F3FB:EMOJI MODIFIER FITZPATRICK TYPE-1-2",
  "1F3FC:EMOJI MODIFIER FITZPATRICK TYPE-3;1F3FD:EMOJI MODIFIER FITZPATRICK TYPE-4",
  "1F3FE:EMOJI MODIFIER FITZPATRICK TYPE-5;1F3FF:EMOJI MODIFIER FITZPATRICK TYPE-6;1F400:RAT",
  "1F401:MOUSE;1F402:OX;1F403:WATER BUFFALO;1F404:COW;1F405:TIGER;1F406:LEOPARD;1F407:RABBIT",
  "1F408:CAT;1F409:DRAGON;1F40A:CROCODILE;1F40B:WHALE;1F40C:SNAIL;1F40D:SNAKE;1F40E:HORSE",
  "1F40F:RAM;1F410:GOAT;1F411:SHEEP;1F412:MONKEY;1F413:ROOSTER;1F414:CHICKEN;1F415:DOG",
  "1F416:PIG;1F417:BOAR;1F418:ELEPHANT;1F419:OCTOPUS;1F41A:SPIRAL SHELL;1F41B:BUG;1F41C:ANT",
  "1F41D:HONEYBEE;1F41E:LADY BEETLE;1F41F:FISH;1F420:TROPICAL FISH;1F421:BLOWFISH;1F422:TURTLE",
  "1F423:HATCHING CHICK;1F424:BABY CHICK;1F425:FRONT-FACING BABY CHICK;1F426:BIRD;1F427:PENGUIN",
  "1F428:KOALA;1F429:POODLE;1F42A:DROMEDARY CAMEL;1F42B:BACTRIAN CAMEL;1F42C:DOLPHIN",
  "1F42D:MOUSE FACE;1F42E:COW FACE;1F42F:TIGER FACE;1F430:RABBIT FACE;1F431:CAT FACE",
  "1F432:DRAGON FACE;1F433:SPOUTING WHALE;1F434:HORSE FACE;1F435:MONKEY FACE;1F436:DOG FACE",
  "1F437:PIG FACE;1F438:FROG FACE;1F439:HAMSTER FACE;1F43A:WOLF FACE;1F43B:BEAR FACE",
  "1F43C:PANDA FACE;1F43D:PIG NOSE;1F43E:PAW PRINTS;1F43F:CHIPMUNK;1F440:EYES;1F441:EYE",
  "1F442:EAR;1F443:NOSE;1F444:MOUTH;1F445:TONGUE;1F446:WHITE UP POINTING BACKHAND INDEX",
  "1F447:WHITE DOWN POINTING BACKHAND INDEX;1F448:WHITE LEFT POINTING BACKHAND INDEX",
  "1F449:WHITE RIGHT POINTING BACKHAND INDEX;1F44A:FISTED HAND SIGN;1F44B:WAVING HAND SIGN",
  "1F44C:OK HAND SIGN;1F44D:THUMBS UP SIGN;1F44E:THUMBS DOWN SIGN;1F44F:CLAPPING HANDS SIGN",
  "1F450:OPEN HANDS SIGN;1F451:CROWN;1F452:WOMANS HAT;1F453:EYEGLASSES;1F454:NECKTIE",
  "1F455:T-SHIRT;1F456:JEANS;1F457:DRESS;1F458:KIMONO;1F459:BIKINI;1F45A:WOMANS CLOTHES",
  "1F45B:PURSE;1F45C:HANDBAG;1F45D:POUCH;1F45E:MANS SHOE;1F45F:ATHLETIC SHOE",
  "1F460:HIGH-HEELED SHOE;1F461:WOMANS SANDAL;1F462:WOMANS BOOTS;1F463:FOOTPRINTS",
  "1F464:BUST IN SILHOUETTE;1F465:BUSTS IN SILHOUETTE;1F466:BOY;1F467:GIRL;1F468:MAN",
  "1F469:WOMAN;1F46A:FAMILY;1F46B:MAN AND WOMAN HOLDING HANDS;1F46C:TWO MEN HOLDING HANDS",
  "1F46D:TWO WOMEN HOLDING HANDS;1F46E:POLICE OFFICER;1F46F:WOMAN WITH BUNNY EARS",
  "1F470:BRIDE WITH VEIL;1F471:PERSON WITH BLOND HAIR;1F472:MAN WITH GUA PI MAO",
  "1F473:MAN WITH TURBAN;1F474:OLDER MAN;1F475:OLDER WOMAN;1F476:BABY;1F477:CONSTRUCTION WORKER",
  "1F478:PRINCESS;1F479:JAPANESE OGRE;1F47A:JAPANESE GOBLIN;1F47B:GHOST;1F47C:BABY ANGEL",
  "1F47D:EXTRATERRESTRIAL ALIEN;1F47E:ALIEN MONSTER;1F47F:IMP;1F480:SKULL",
  "1F481:INFORMATION DESK PERSON;1F482:GUARDSMAN;1F483:DANCER;1F484:LIPSTICK;1F485:NAIL POLISH",
  "1F486:FACE MASSAGE;1F487:HAIRCUT;1F488:BARBER POLE;1F489:SYRINGE;1F48A:PILL;1F48B:KISS MARK",
  "1F48C:LOVE LETTER;1F48D:RING;1F48E:GEM STONE;1F48F:KISS;1F490:BOUQUET",
  "1F491:COUPLE WITH HEART;1F492:WEDDING;1F493:BEATING HEART;1F494:BROKEN HEART",
  "1F495:TWO HEARTS;1F496:SPARKLING HEART;1F497:GROWING HEART;1F498:HEART WITH ARROW",
  "1F499:BLUE HEART;1F49A:GREEN HEART;1F49B:YELLOW HEART;1F49C:PURPLE HEART",
  "1F49D:HEART WITH RIBBON;1F49E:REVOLVING HEARTS;1F49F:HEART DECORATION",
  "1F4A0:DIAMOND SHAPE WITH A DOT INSIDE;1F4A1:ELECTRIC LIGHT BULB;1F4A2:ANGER SYMBOL",
  "1F4A3:BOMB;1F4A4:SLEEPING SYMBOL;1F4A5:COLLISION SYMBOL;1F4A6:SPLASHING SWEAT SYMBOL",
  "1F4A7:DROPLET;1F4A8:DASH SYMBOL;1F4A9:PILE OF POO;1F4AA:FLEXED BICEPS;1F4AB:DIZZY SYMBOL",
  "1F4AC:SPEECH BALLOON;1F4AD:THOUGHT BALLOON;1F4AE:WHITE FLOWER;1F4AF:HUNDRED POINTS SYMBOL",
  "1F4B0:MONEY BAG;1F4B1:CURRENCY EXCHANGE;1F4B2:HEAVY DOLLAR SIGN;1F4B3:CREDIT CARD",
  "1F4B4:BANKNOTE WITH YEN SIGN;1F4B5:BANKNOTE WITH DOLLAR SIGN;1F4B6:BANKNOTE WITH EURO SIGN",
  "1F4B7:BANKNOTE WITH POUND SIGN;1F4B8:MONEY WITH WINGS",
  "1F4B9:CHART WITH UPWARDS TREND AND YEN SIGN;1F4BA:SEAT;1F4BB:PERSONAL COMPUTER",
  "1F4BC:BRIEFCASE;1F4BD:MINIDISC;1F4BE:FLOPPY DISK;1F4BF:OPTICAL DISC;1F4C0:DVD",
  "1F4C1:FILE FOLDER;1F4C2:OPEN FILE FOLDER;1F4C3:PAGE WITH CURL;1F4C4:PAGE FACING UP",
  "1F4C5:CALENDAR;1F4C6:TEAR-OFF CALENDAR;1F4C7:CARD INDEX;1F4C8:CHART WITH UPWARDS TREND",
  "1F4C9:CHART WITH DOWNWARDS TREND;1F4CA:BAR CHART;1F4CB:CLIPBOARD;1F4CC:PUSHPIN",
  "1F4CD:ROUND PUSHPIN;1F4CE:PAPERCLIP;1F4CF:STRAIGHT RULER;1F4D0:TRIANGULAR RULER",
  "1F4D1:BOOKMARK TABS;1F4D2:LEDGER;1F4D3:NOTEBOOK;1F4D4:NOTEBOOK WITH DECORATIVE COVER",
  "1F4D5:CLOSED BOOK;1F4D6:OPEN BOOK;1F4D7:GREEN BOOK;1F4D8:BLUE BOOK;1F4D9:ORANGE BOOK",
  "1F4DA:BOOKS;1F4DB:NAME BADGE;1F4DC:SCROLL;1F4DD:MEMO;1F4DE:TELEPHONE RECEIVER;1F4DF:PAGER",
  "1F4E0:FAX MACHINE;1F4E1:SATELLITE ANTENNA;1F4E2:PUBLIC ADDRESS LOUDSPEAKER",
  "1F4E3:CHEERING MEGAPHONE;1F4E4:OUTBOX TRAY;1F4E5:INBOX TRAY;1F4E6:PACKAGE",
  "1F4E7:E-MAIL SYMBOL;1F4E8:INCOMING ENVELOPE;1F4E9:ENVELOPE WITH DOWNWARDS ARROW ABOVE",
  "1F4EA:CLOSED MAILBOX WITH LOWERED FLAG;1F4EB:CLOSED MAILBOX WITH RAISED FLAG",
  "1F4EC:OPEN MAILBOX WITH RAISED FLAG;1F4ED:OPEN MAILBOX WITH LOWERED FLAG;1F4EE:POSTBOX",
  "1F4EF:POSTAL HORN;1F4F0:NEWSPAPER;1F4F1:MOBILE PHONE",
  "1F4F2:MOBILE PHONE WITH RIGHTWARDS ARROW AT LEFT;1F4F3:VIBRATION MODE;1F4F4:MOBILE PHONE OFF",
  "1F4F5:NO MOBILE PHONES;1F4F6:ANTENNA WITH BARS;1F4F7:CAMERA;1F4F8:CAMERA WITH FLASH",
  "1F4F9:VIDEO CAMERA;1F4FA:TELEVISION;1F4FB:RADIO;1F4FC:VIDEOCASSETTE;1F4FD:FILM PROJECTOR",
  "1F4FE:PORTABLE STEREO;1F4FF:PRAYER BEADS;1F500:TWISTED RIGHTWARDS ARROWS",
  "1F501:CLOCKWISE RIGHTWARDS AND LEFTWARDS OPEN CIRCLE ARROWS",
  "1F502:CLOCKWISE RIGHTWARDS AND LEFTWARDS OPEN CIRCLE ARROWS WITH CIRCLED ONE OVERLAY",
  "1F503:CLOCKWISE DOWNWARDS AND UPWARDS OPEN CIRCLE ARROWS",
  "1F504:ANTICLOCKWISE DOWNWARDS AND UPWARDS OPEN CIRCLE ARROWS;1F505:LOW BRIGHTNESS SYMBOL",
  "1F506:HIGH BRIGHTNESS SYMBOL;1F507:SPEAKER WITH CANCELLATION STROKE;1F508:SPEAKER",
  "1F509:SPEAKER WITH ONE SOUND WAVE;1F50A:SPEAKER WITH THREE SOUND WAVES;1F50B:BATTERY",
  "1F50C:ELECTRIC PLUG;1F50D:LEFT-POINTING MAGNIFYING GLASS",
  "1F50E:RIGHT-POINTING MAGNIFYING GLASS;1F50F:LOCK WITH INK PEN;1F510:CLOSED LOCK WITH KEY",
  "1F511:KEY;1F512:LOCK;1F513:OPEN LOCK;1F514:BELL;1F515:BELL WITH CANCELLATION STROKE",
  "1F516:BOOKMARK;1F517:LINK SYMBOL;1F518:RADIO BUTTON;1F519:BACK WITH LEFTWARDS ARROW ABOVE",
  "1F51A:END WITH LEFTWARDS ARROW ABOVE",
  "1F51B:ON WITH EXCLAMATION MARK WITH LEFT RIGHT ARROW ABOVE",
  "1F51C:SOON WITH RIGHTWARDS ARROW ABOVE;1F51D:TOP WITH UPWARDS ARROW ABOVE",
  "1F51E:NO ONE UNDER EIGHTEEN SYMBOL;1F51F:KEYCAP TEN",
  "1F520:INPUT SYMBOL FOR LATIN CAPITAL LETTERS;1F521:INPUT SYMBOL FOR LATIN SMALL LETTERS",
  "1F522:INPUT SYMBOL FOR NUMBERS;1F523:INPUT SYMBOL FOR SYMBOLS",
  "1F524:INPUT SYMBOL FOR LATIN LETTERS;1F525:FIRE;1F526:ELECTRIC TORCH;1F527:WRENCH",
  "1F528:HAMMER;1F529:NUT AND BOLT;1F52A:HOCHO;1F52B:PISTOL;1F52C:MICROSCOPE;1F52D:TELESCOPE",
  "1F52E:CRYSTAL BALL;1F52F:SIX POINTED STAR WITH MIDDLE DOT;1F530:JAPANESE SYMBOL FOR BEGINNER",
  "1F531:TRIDENT EMBLEM;1F532:BLACK SQUARE BUTTON;1F533:WHITE SQUARE BUTTON",
  "1F534:LARGE RED CIRCLE;1F535:LARGE BLUE CIRCLE;1F536:LARGE ORANGE DIAMOND",
  "1F537:LARGE BLUE DIAMOND;1F538:SMALL ORANGE DIAMOND;1F539:SMALL BLUE DIAMOND",
  "1F53A:UP-POINTING RED TRIANGLE;1F53B:DOWN-POINTING RED TRIANGLE",
  "1F53C:UP-POINTING SMALL RED TRIANGLE;1F53D:DOWN-POINTING SMALL RED TRIANGLE",
  "1F53E:LOWER RIGHT SHADOWED WHITE CIRCLE;1F53F:UPPER RIGHT SHADOWED WHITE CIRCLE",
  "1F540:CIRCLED CROSS POMMEE;1F541:CROSS POMMEE WITH HALF-CIRCLE BELOW;1F542:CROSS POMMEE",
  "1F543:NOTCHED LEFT SEMICIRCLE WITH THREE DOTS;1F544:NOTCHED RIGHT SEMICIRCLE WITH THREE DOTS",
  "1F545:SYMBOL FOR MARKS CHAPTER;1F546:WHITE LATIN CROSS;1F547:HEAVY LATIN CROSS",
  "1F548:CELTIC CROSS;1F549:OM SYMBOL;1F54A:DOVE OF PEACE;1F54B:KAABA;1F54C:MOSQUE",
  "1F54D:SYNAGOGUE;1F54E:MENORAH WITH NINE BRANCHES;1F54F:BOWL OF HYGIEIA",
  "1F550:CLOCK FACE ONE OCLOCK;1F551:CLOCK FACE TWO OCLOCK;1F552:CLOCK FACE THREE OCLOCK",
  "1F553:CLOCK FACE FOUR OCLOCK;1F554:CLOCK FACE FIVE OCLOCK;1F555:CLOCK FACE SIX OCLOCK",
  "1F556:CLOCK FACE SEVEN OCLOCK;1F557:CLOCK FACE EIGHT OCLOCK;1F558:CLOCK FACE NINE OCLOCK",
  "1F559:CLOCK FACE TEN OCLOCK;1F55A:CLOCK FACE ELEVEN OCLOCK;1F55B:CLOCK FACE TWELVE OCLOCK",
  "1F55C:CLOCK FACE ONE-THIRTY;1F55D:CLOCK FACE TWO-THIRTY;1F55E:CLOCK FACE THREE-THIRTY",
  "1F55F:CLOCK FACE FOUR-THIRTY;1F560:CLOCK FACE FIVE-THIRTY;1F561:CLOCK FACE SIX-THIRTY",
  "1F562:CLOCK FACE SEVEN-THIRTY;1F563:CLOCK FACE EIGHT-THIRTY;1F564:CLOCK FACE NINE-THIRTY",
  "1F565:CLOCK FACE TEN-THIRTY;1F566:CLOCK FACE ELEVEN-THIRTY;1F567:CLOCK FACE TWELVE-THIRTY",
  "1F568:RIGHT SPEAKER;1F569:RIGHT SPEAKER WITH ONE SOUND WAVE",
  "1F56A:RIGHT SPEAKER WITH THREE SOUND WAVES;1F56B:BULLHORN;1F56C:BULLHORN WITH SOUND WAVES",
  "1F56D:RINGING BELL;1F56E:BOOK;1F56F:CANDLE;1F570:MANTELPIECE CLOCK",
  "1F571:BLACK SKULL AND CROSSBONES;1F572:NO PIRACY;1F573:HOLE",
  "1F574:MAN IN BUSINESS SUIT LEVITATING;1F575:SLEUTH OR SPY;1F576:DARK SUNGLASSES;1F577:SPIDER",
  "1F578:SPIDER WEB;1F579:JOYSTICK;1F57A:MAN DANCING;1F57B:LEFT HAND TELEPHONE RECEIVER",
  "1F57C:TELEPHONE RECEIVER WITH PAGE;1F57D:RIGHT HAND TELEPHONE RECEIVER",
  "1F57E:WHITE TOUCHTONE TELEPHONE;1F57F:BLACK TOUCHTONE TELEPHONE",
  "1F580:TELEPHONE ON TOP OF MODEM;1F581:CLAMSHELL MOBILE PHONE;1F582:BACK OF ENVELOPE",
  "1F583:STAMPED ENVELOPE;1F584:ENVELOPE WITH LIGHTNING;1F585:FLYING ENVELOPE",
  "1F586:PEN OVER STAMPED ENVELOPE;1F587:LINKED PAPERCLIPS;1F588:BLACK PUSHPIN",
  "1F589:LOWER LEFT PENCIL;1F58A:LOWER LEFT BALLPOINT PEN;1F58B:LOWER LEFT FOUNTAIN PEN",
  "1F58C:LOWER LEFT PAINTBRUSH;1F58D:LOWER LEFT CRAYON;1F58E:LEFT WRITING HAND",
  "1F58F:TURNED OK HAND SIGN;1F590:RAISED HAND WITH FINGERS SPLAYED",
  "1F591:REVERSED RAISED HAND WITH FINGERS SPLAYED;1F592:REVERSED THUMBS UP SIGN",
  "1F593:REVERSED THUMBS DOWN SIGN;1F594:REVERSED VICTORY HAND",
  "1F595:REVERSED HAND WITH MIDDLE FINGER EXTENDED",
  "1F596:RAISED HAND WITH PART BETWEEN MIDDLE AND RING FINGERS",
  "1F597:WHITE DOWN POINTING LEFT HAND INDEX;1F598:SIDEWAYS WHITE LEFT POINTING INDEX",
  "1F599:SIDEWAYS WHITE RIGHT POINTING INDEX;1F59A:SIDEWAYS BLACK LEFT POINTING INDEX",
  "1F59B:SIDEWAYS BLACK RIGHT POINTING INDEX;1F59C:BLACK LEFT POINTING BACKHAND INDEX",
  "1F59D:BLACK RIGHT POINTING BACKHAND INDEX;1F59E:SIDEWAYS WHITE UP POINTING INDEX",
  "1F59F:SIDEWAYS WHITE DOWN POINTING INDEX;1F5A0:SIDEWAYS BLACK UP POINTING INDEX",
  "1F5A1:SIDEWAYS BLACK DOWN POINTING INDEX;1F5A2:BLACK UP POINTING BACKHAND INDEX",
  "1F5A3:BLACK DOWN POINTING BACKHAND INDEX;1F5A4:BLACK HEART;1F5A5:DESKTOP COMPUTER",
  "1F5A6:KEYBOARD AND MOUSE;1F5A7:THREE NETWORKED COMPUTERS;1F5A8:PRINTER",
  "1F5A9:POCKET CALCULATOR;1F5AA:BLACK HARD SHELL FLOPPY DISK",
  "1F5AB:WHITE HARD SHELL FLOPPY DISK;1F5AC:SOFT SHELL FLOPPY DISK;1F5AD:TAPE CARTRIDGE",
  "1F5AE:WIRED KEYBOARD;1F5AF:ONE BUTTON MOUSE;1F5B0:TWO BUTTON MOUSE;1F5B1:THREE BUTTON MOUSE",
  "1F5B2:TRACKBALL;1F5B3:OLD PERSONAL COMPUTER;1F5B4:HARD DISK;1F5B5:SCREEN;1F5B6:PRINTER ICON",
  "1F5B7:FAX ICON;1F5B8:OPTICAL DISC ICON;1F5B9:DOCUMENT WITH TEXT",
  "1F5BA:DOCUMENT WITH TEXT AND PICTURE;1F5BB:DOCUMENT WITH PICTURE;1F5BC:FRAME WITH PICTURE",
  "1F5BD:FRAME WITH TILES;1F5BE:FRAME WITH AN X;1F5BF:BLACK FOLDER;1F5C0:FOLDER",
  "1F5C1:OPEN FOLDER;1F5C2:CARD INDEX DIVIDERS;1F5C3:CARD FILE BOX;1F5C4:FILE CABINET",
  "1F5C5:EMPTY NOTE;1F5C6:EMPTY NOTE PAGE;1F5C7:EMPTY NOTE PAD;1F5C8:NOTE;1F5C9:NOTE PAGE",
  "1F5CA:NOTE PAD;1F5CB:EMPTY DOCUMENT;1F5CC:EMPTY PAGE;1F5CD:EMPTY PAGES;1F5CE:DOCUMENT",
  "1F5CF:PAGE;1F5D0:PAGES;1F5D1:WASTEBASKET;1F5D2:SPIRAL NOTE PAD;1F5D3:SPIRAL CALENDAR PAD",
  "1F5D4:DESKTOP WINDOW;1F5D5:MINIMIZE;1F5D6:MAXIMIZE;1F5D7:OVERLAP",
  "1F5D8:CLOCKWISE RIGHT AND LEFT SEMICIRCLE ARROWS;1F5D9:CANCELLATION X",
  "1F5DA:INCREASE FONT SIZE SYMBOL;1F5DB:DECREASE FONT SIZE SYMBOL;1F5DC:COMPRESSION",
  "1F5DD:OLD KEY;1F5DE:ROLLED-UP NEWSPAPER;1F5DF:PAGE WITH CIRCLED TEXT;1F5E0:STOCK CHART",
  "1F5E1:DAGGER KNIFE;1F5E2:LIPS;1F5E3:SPEAKING HEAD IN SILHOUETTE;1F5E4:THREE RAYS ABOVE",
  "1F5E5:THREE RAYS BELOW;1F5E6:THREE RAYS LEFT;1F5E7:THREE RAYS RIGHT;1F5E8:LEFT SPEECH BUBBLE",
  "1F5E9:RIGHT SPEECH BUBBLE;1F5EA:TWO SPEECH BUBBLES;1F5EB:THREE SPEECH BUBBLES",
  "1F5EC:LEFT THOUGHT BUBBLE;1F5ED:RIGHT THOUGHT BUBBLE;1F5EE:LEFT ANGER BUBBLE",
  "1F5EF:RIGHT ANGER BUBBLE;1F5F0:MOOD BUBBLE;1F5F1:LIGHTNING MOOD BUBBLE;1F5F2:LIGHTNING MOOD",
  "1F5F3:BALLOT BOX WITH BALLOT;1F5F4:BALLOT SCRIPT X;1F5F5:BALLOT BOX WITH SCRIPT X",
  "1F5F6:BALLOT BOLD SCRIPT X;1F5F7:BALLOT BOX WITH BOLD SCRIPT X;1F5F8:LIGHT CHECK MARK",
  "1F5F9:BALLOT BOX WITH BOLD CHECK;1F5FA:WORLD MAP;1F5FB:MOUNT FUJI;1F5FC:TOKYO TOWER",
  "1F5FD:STATUE OF LIBERTY;1F5FE:SILHOUETTE OF JAPAN;1F5FF:MOYAI;1F600:GRINNING FACE",
  "1F601:GRINNING FACE WITH SMILING EYES;1F602:FACE WITH TEARS OF JOY",
  "1F603:SMILING FACE WITH OPEN MOUTH;1F604:SMILING FACE WITH OPEN MOUTH AND SMILING EYES",
  "1F605:SMILING FACE WITH OPEN MOUTH AND COLD SWEAT",
  "1F606:SMILING FACE WITH OPEN MOUTH AND TIGHTLY-CLOSED EYES;1F607:SMILING FACE WITH HALO",
  "1F608:SMILING FACE WITH HORNS;1F609:WINKING FACE;1F60A:SMILING FACE WITH SMILING EYES",
  "1F60B:FACE SAVOURING DELICIOUS FOOD;1F60C:RELIEVED FACE",
  "1F60D:SMILING FACE WITH HEART-SHAPED EYES;1F60E:SMILING FACE WITH SUNGLASSES",
  "1F60F:SMIRKING FACE;1F610:NEUTRAL FACE;1F611:EXPRESSIONLESS FACE;1F612:UNAMUSED FACE",
  "1F613:FACE WITH COLD SWEAT;1F614:PENSIVE FACE;1F615:CONFUSED FACE;1F616:CONFOUNDED FACE",
  "1F617:KISSING FACE;1F618:FACE THROWING A KISS;1F619:KISSING FACE WITH SMILING EYES",
  "1F61A:KISSING FACE WITH CLOSED EYES;1F61B:FACE WITH STUCK-OUT TONGUE",
  "1F61C:FACE WITH STUCK-OUT TONGUE AND WINKING EYE",
  "1F61D:FACE WITH STUCK-OUT TONGUE AND TIGHTLY-CLOSED EYES;1F61E:DISAPPOINTED FACE",
  "1F61F:WORRIED FACE;1F620:ANGRY FACE;1F621:POUTING FACE;1F622:CRYING FACE",
  "1F623:PERSEVERING FACE;1F624:FACE WITH LOOK OF TRIUMPH;1F625:DISAPPOINTED BUT RELIEVED FACE",
  "1F626:FROWNING FACE WITH OPEN MOUTH;1F627:ANGUISHED FACE;1F628:FEARFUL FACE;1F629:WEARY FACE",
  "1F62A:SLEEPY FACE;1F62B:TIRED FACE;1F62C:GRIMACING FACE;1F62D:LOUDLY CRYING FACE",
  "1F62E:FACE WITH OPEN MOUTH;1F62F:HUSHED FACE;1F630:FACE WITH OPEN MOUTH AND COLD SWEAT",
  "1F631:FACE SCREAMING IN FEAR;1F632:ASTONISHED FACE;1F633:FLUSHED FACE;1F634:SLEEPING FACE",
  "1F635:DIZZY FACE;1F636:FACE WITHOUT MOUTH;1F637:FACE WITH MEDICAL MASK",
  "1F638:GRINNING CAT FACE WITH SMILING EYES;1F639:CAT FACE WITH TEARS OF JOY",
  "1F63A:SMILING CAT FACE WITH OPEN MOUTH;1F63B:SMILING CAT FACE WITH HEART-SHAPED EYES",
  "1F63C:CAT FACE WITH WRY SMILE;1F63D:KISSING CAT FACE WITH CLOSED EYES;1F63E:POUTING CAT FACE",
  "1F63F:CRYING CAT FACE;1F640:WEARY CAT FACE;1F641:SLIGHTLY FROWNING FACE",
  "1F642:SLIGHTLY SMILING FACE;1F643:UPSIDE-DOWN FACE;1F644:FACE WITH ROLLING EYES",
  "1F645:FACE WITH NO GOOD GESTURE;1F646:FACE WITH OK GESTURE;1F647:PERSON BOWING DEEPLY",
  "1F648:SEE-NO-EVIL MONKEY;1F649:HEAR-NO-EVIL MONKEY;1F64A:SPEAK-NO-EVIL MONKEY",
  "1F64B:HAPPY PERSON RAISING ONE HAND;1F64C:PERSON RAISING BOTH HANDS IN CELEBRATION",
  "1F64D:PERSON FROWNING;1F64E:PERSON WITH POUTING FACE;1F64F:PERSON WITH FOLDED HANDS",
  "1F650:NORTH WEST POINTING LEAF;1F651:SOUTH WEST POINTING LEAF;1F652:NORTH EAST POINTING LEAF",
  "1F653:SOUTH EAST POINTING LEAF;1F654:TURNED NORTH WEST POINTING LEAF",
  "1F655:TURNED SOUTH WEST POINTING LEAF;1F656:TURNED NORTH EAST POINTING LEAF",
  "1F657:TURNED SOUTH EAST POINTING LEAF;1F658:NORTH WEST POINTING VINE LEAF",
  "1F659:SOUTH WEST POINTING VINE LEAF;1F65A:NORTH EAST POINTING VINE LEAF",
  "1F65B:SOUTH EAST POINTING VINE LEAF;1F65C:HEAVY NORTH WEST POINTING VINE LEAF",
  "1F65D:HEAVY SOUTH WEST POINTING VINE LEAF;1F65E:HEAVY NORTH EAST POINTING VINE LEAF",
  "1F65F:HEAVY SOUTH EAST POINTING VINE LEAF;1F660:NORTH WEST POINTING BUD",
  "1F661:SOUTH WEST POINTING BUD;1F662:NORTH EAST POINTING BUD;1F663:SOUTH EAST POINTING BUD",
  "1F664:HEAVY NORTH WEST POINTING BUD;1F665:HEAVY SOUTH WEST POINTING BUD",
  "1F666:HEAVY NORTH EAST POINTING BUD;1F667:HEAVY SOUTH EAST POINTING BUD",
  "1F668:HOLLOW QUILT SQUARE ORNAMENT;1F669:HOLLOW QUILT SQUARE ORNAMENT IN BLACK SQUARE",
  "1F66A:SOLID QUILT SQUARE ORNAMENT;1F66B:SOLID QUILT SQUARE ORNAMENT IN BLACK SQUARE",
  "1F66C:LEFTWARDS ROCKET;1F66D:UPWARDS ROCKET;1F66E:RIGHTWARDS ROCKET;1F66F:DOWNWARDS ROCKET",
  "1F670:SCRIPT LIGATURE ET ORNAMENT;1F671:HEAVY SCRIPT LIGATURE ET ORNAMENT",
  "1F672:LIGATURE OPEN ET ORNAMENT;1F673:HEAVY LIGATURE OPEN ET ORNAMENT",
  "1F674:HEAVY AMPERSAND ORNAMENT;1F675:SWASH AMPERSAND ORNAMENT",
  "1F676:SANS-SERIF HEAVY DOUBLE TURNED COMMA QUOTATION MARK ORNAMENT",
  "1F677:SANS-SERIF HEAVY DOUBLE COMMA QUOTATION MARK ORNAMENT",
  "1F678:SANS-SERIF HEAVY LOW DOUBLE COMMA QUOTATION MARK ORNAMENT",
  "1F679:HEAVY INTERROBANG ORNAMENT;1F67A:SANS-SERIF INTERROBANG ORNAMENT",
  "1F67B:HEAVY SANS-SERIF INTERROBANG ORNAMENT;1F67C:VERY HEAVY SOLIDUS",
  "1F67D:VERY HEAVY REVERSE SOLIDUS;1F67E:CHECKER BOARD;1F67F:REVERSE CHECKER BOARD",
  "1F680:ROCKET;1F681:HELICOPTER;1F682:STEAM LOCOMOTIVE;1F683:RAILWAY CAR",
  "1F684:HIGH-SPEED TRAIN;1F685:HIGH-SPEED TRAIN WITH BULLET NOSE;1F686:TRAIN;1F687:METRO",
  "1F688:LIGHT RAIL;1F689:STATION;1F68A:TRAM;1F68B:TRAM CAR;1F68C:BUS;1F68D:ONCOMING BUS",
  "1F68E:TROLLEYBUS;1F68F:BUS STOP;1F690:MINIBUS;1F691:AMBULANCE;1F692:FIRE ENGINE",
  "1F693:POLICE CAR;1F694:ONCOMING POLICE CAR;1F695:TAXI;1F696:ONCOMING TAXI;1F697:AUTOMOBILE",
  "1F698:ONCOMING AUTOMOBILE;1F699:RECREATIONAL VEHICLE;1F69A:DELIVERY TRUCK",
  "1F69B:ARTICULATED LORRY;1F69C:TRACTOR;1F69D:MONORAIL;1F69E:MOUNTAIN RAILWAY",
  "1F69F:SUSPENSION RAILWAY;1F6A0:MOUNTAIN CABLEWAY;1F6A1:AERIAL TRAMWAY;1F6A2:SHIP",
  "1F6A3:ROWBOAT;1F6A4:SPEEDBOAT;1F6A5:HORIZONTAL TRAFFIC LIGHT;1F6A6:VERTICAL TRAFFIC LIGHT",
  "1F6A7:CONSTRUCTION SIGN;1F6A8:POLICE CARS REVOLVING LIGHT;1F6A9:TRIANGULAR FLAG ON POST",
  "1F6AA:DOOR;1F6AB:NO ENTRY SIGN;1F6AC:SMOKING SYMBOL;1F6AD:NO SMOKING SYMBOL",
  "1F6AE:PUT LITTER IN ITS PLACE SYMBOL;1F6AF:DO NOT LITTER SYMBOL;1F6B0:POTABLE WATER SYMBOL",
  "1F6B1:NON-POTABLE WATER SYMBOL;1F6B2:BICYCLE;1F6B3:NO BICYCLES;1F6B4:BICYCLIST",
  "1F6B5:MOUNTAIN BICYCLIST;1F6B6:PEDESTRIAN;1F6B7:NO PEDESTRIANS;1F6B8:CHILDREN CROSSING",
  "1F6B9:MENS SYMBOL;1F6BA:WOMENS SYMBOL;1F6BB:RESTROOM;1F6BC:BABY SYMBOL;1F6BD:TOILET",
  "1F6BE:WATER CLOSET;1F6BF:SHOWER;1F6C0:BATH;1F6C1:BATHTUB;1F6C2:PASSPORT CONTROL",
  "1F6C3:CUSTOMS;1F6C4:BAGGAGE CLAIM;1F6C5:LEFT LUGGAGE;1F6C6:TRIANGLE WITH ROUNDED CORNERS",
  "1F6C7:PROHIBITED SIGN;1F6C8:CIRCLED INFORMATION SOURCE;1F6C9:BOYS SYMBOL;1F6CA:GIRLS SYMBOL",
  "1F6CB:COUCH AND LAMP;1F6CC:SLEEPING ACCOMMODATION;1F6CD:SHOPPING BAGS;1F6CE:BELLHOP BELL",
  "1F6CF:BED;1F6D0:PLACE OF WORSHIP;1F6D1:OCTAGONAL SIGN;1F6D2:SHOPPING TROLLEY;1F6D3:STUPA",
  "1F6D4:PAGODA;1F6D5:HINDU TEMPLE;1F6D6:HUT;1F6D7:ELEVATOR;1F6DD:PLAYGROUND SLIDE;1F6DE:WHEEL",
  "1F6DF:RING BUOY;1F6E0:HAMMER AND WRENCH;1F6E1:SHIELD;1F6E2:OIL DRUM;1F6E3:MOTORWAY",
  "1F6E4:RAILWAY TRACK;1F6E5:MOTOR BOAT",
  "1F6E6 UP-POINTING:MILITARY AIRPLANE,AIRPLANE,SMALL AIRPLANE;1F6E9:SMALL AIRPLANE",
  "1F6EA:NORTHEAST-POINTING AIRPLANE;1F6EB AIRPLANE:DEPARTURE,ARRIVING;1F6F0:SATELLITE",
  "1F6F1:ONCOMING FIRE ENGINE;1F6F2:DIESEL LOCOMOTIVE;1F6F3:PASSENGER SHIP;1F6F4:SCOOTER",
  "1F6F5:MOTOR SCOOTER;1F6F6:CANOE;1F6F7:SLED;1F6F8:FLYING SAUCER;1F6F9:SKATEBOARD",
  "1F6FA:AUTO RICKSHAW;1F6FB:PICKUP TRUCK;1F6FC:ROLLER SKATE",
  "1F700 ALCHEMICAL SYMBOL FOR:QUINTESSENCE,AIR,FIRE,EARTH,WATER,AQUAFORTIS,AQUA REGIA",
  "1F707 ALCHEMICAL SYMBOL FOR:AQUA REGIA-2,AQUA VITAE,AQUA VITAE-2,VINEGAR,VINEGAR-2,VINEGAR-3",
  "1F70D ALCHEMICAL SYMBOL FOR:SULFUR,PHILOSOPHERS SULFUR,BLACK SULFUR,MERCURY SUBLIMATE",
  "1F711 ALCHEMICAL SYMBOL FOR:MERCURY SUBLIMATE-2,MERCURY SUBLIMATE-3,CINNABAR,SALT,NITRE",
  "1F716 ALCHEMICAL SYMBOL FOR:VITRIOL,VITRIOL-2,ROCK SALT,ROCK SALT-2,GOLD,SILVER,IRON ORE",
  "1F71D ALCHEMICAL SYMBOL FOR:IRON ORE-2,CROCUS OF IRON,REGULUS OF IRON,COPPER ORE",
  "1F721 ALCHEMICAL SYMBOL FOR:IRON-COPPER ORE,SUBLIMATE OF COPPER,CROCUS OF COPPER",
  "1F724 ALCHEMICAL SYMBOL FOR:CROCUS OF COPPER-2,COPPER ANTIMONIATE,SALT OF COPPER ANTIMONIATE",
  "1F727 ALCHEMICAL SYMBOL FOR:SUBLIMATE OF SALT OF COPPER,VERDIGRIS,TIN ORE,LEAD ORE",
  "1F72B ALCHEMICAL SYMBOL FOR:ANTIMONY ORE,SUBLIMATE OF ANTIMONY,SALT OF ANTIMONY",
  "1F72E ALCHEMICAL SYMBOL FOR:SUBLIMATE OF SALT OF ANTIMONY,VINEGAR OF ANTIMONY",
  "1F730 ALCHEMICAL SYMBOL FOR:REGULUS OF ANTIMONY,REGULUS OF ANTIMONY-2,REGULUS,REGULUS-2",
  "1F734 ALCHEMICAL SYMBOL FOR:REGULUS-3,REGULUS-4,ALKALI,ALKALI-2,MARCASITE,SAL-AMMONIAC",
  "1F73A ALCHEMICAL SYMBOL FOR:ARSENIC,REALGAR,REALGAR-2,AURIPIGMENT,BISMUTH ORE,TARTAR",
  "1F740 ALCHEMICAL SYMBOL FOR:TARTAR-2,QUICK LIME,BORAX,BORAX-2,BORAX-3,ALUM,OIL,SPIRIT",
  "1F748 ALCHEMICAL SYMBOL FOR:TINCTURE,GUM,WAX,POWDER,CALX,TUTTY,CAPUT MORTUUM,SCEPTER OF JOVE",
  "1F750 ALCHEMICAL SYMBOL FOR:CADUCEUS,TRIDENT,STARRED TRIDENT,LODESTONE,SOAP,URINE,HORSE DUNG",
  "1F757 ALCHEMICAL SYMBOL FOR:ASHES,POT ASHES,BRICK,POWDERED BRICK,AMALGAM",
  "1F75C ALCHEMICAL SYMBOL FOR:STRATUM SUPER STRATUM,STRATUM SUPER STRATUM-2,SUBLIMATION",
  "1F75F ALCHEMICAL SYMBOL FOR:PRECIPITATE,DISTILL,DISSOLVE,DISSOLVE-2,PURIFY,PUTREFACTION",
  "1F765 ALCHEMICAL SYMBOL FOR:CRUCIBLE,CRUCIBLE-2,CRUCIBLE-3,CRUCIBLE-4,CRUCIBLE-5,ALEMBIC",
  "1F76B ALCHEMICAL SYMBOL FOR:BATH OF MARY,BATH OF VAPOURS,RETORT,HOUR,NIGHT,DAY-NIGHT,MONTH",
  "1F772 ALCHEMICAL SYMBOL FOR:HALF DRAM,HALF OUNCE",
  "1F780:BLACK LEFT-POINTING ISOSCELES RIGHT TRIANGLE",
  "1F781:BLACK UP-POINTING ISOSCELES RIGHT TRIANGLE",
  "1F782:BLACK RIGHT-POINTING ISOSCELES RIGHT TRIANGLE",
  "1F783:BLACK DOWN-POINTING ISOSCELES RIGHT TRIANGLE;1F784:BLACK SLIGHTLY SMALL CIRCLE",
  "1F785:MEDIUM BOLD WHITE CIRCLE;1F786:BOLD WHITE CIRCLE;1F787:HEAVY WHITE CIRCLE",
  "1F788:VERY HEAVY WHITE CIRCLE;1F789:EXTREMELY HEAVY WHITE CIRCLE",
  "1F78A:WHITE CIRCLE CONTAINING BLACK SMALL CIRCLE;1F78B:ROUND TARGET;1F78C:BLACK TINY SQUARE",
  "1F78D:BLACK SLIGHTLY SMALL SQUARE;1F78E:LIGHT WHITE SQUARE;1F78F:MEDIUM WHITE SQUARE",
  "1F790:BOLD WHITE SQUARE;1F791:HEAVY WHITE SQUARE;1F792:VERY HEAVY WHITE SQUARE",
  "1F793:EXTREMELY HEAVY WHITE SQUARE;1F794:WHITE SQUARE CONTAINING BLACK VERY SMALL SQUARE",
  "1F795:WHITE SQUARE CONTAINING BLACK MEDIUM SQUARE;1F796:SQUARE TARGET",
  "1F797:BLACK TINY DIAMOND;1F798:BLACK VERY SMALL DIAMOND;1F799:BLACK MEDIUM SMALL DIAMOND",
  "1F79A:WHITE DIAMOND CONTAINING BLACK VERY SMALL DIAMOND",
  "1F79B:WHITE DIAMOND CONTAINING BLACK MEDIUM DIAMOND;1F79C:DIAMOND TARGET",
  "1F79D:BLACK TINY LOZENGE;1F79E:BLACK VERY SMALL LOZENGE;1F79F:BLACK MEDIUM SMALL LOZENGE",
  "1F7A0:WHITE LOZENGE CONTAINING BLACK SMALL LOZENGE;1F7A1:THIN GREEK CROSS",
  "1F7A2:LIGHT GREEK CROSS;1F7A3:MEDIUM GREEK CROSS;1F7A4:BOLD GREEK CROSS",
  "1F7A5:VERY BOLD GREEK CROSS;1F7A6:VERY HEAVY GREEK CROSS;1F7A7:EXTREMELY HEAVY GREEK CROSS",
  "1F7A8:THIN SALTIRE;1F7A9:LIGHT SALTIRE;1F7AA:MEDIUM SALTIRE;1F7AB:BOLD SALTIRE",
  "1F7AC:HEAVY SALTIRE;1F7AD:VERY HEAVY SALTIRE;1F7AE:EXTREMELY HEAVY SALTIRE",
  "1F7AF:LIGHT FIVE SPOKED ASTERISK;1F7B0:MEDIUM FIVE SPOKED ASTERISK",
  "1F7B1:BOLD FIVE SPOKED ASTERISK;1F7B2:HEAVY FIVE SPOKED ASTERISK",
  "1F7B3:VERY HEAVY FIVE SPOKED ASTERISK;1F7B4:EXTREMELY HEAVY FIVE SPOKED ASTERISK",
  "1F7B5:LIGHT SIX SPOKED ASTERISK;1F7B6:MEDIUM SIX SPOKED ASTERISK",
  "1F7B7:BOLD SIX SPOKED ASTERISK;1F7B8:HEAVY SIX SPOKED ASTERISK",
  "1F7B9:VERY HEAVY SIX SPOKED ASTERISK;1F7BA:EXTREMELY HEAVY SIX SPOKED ASTERISK",
  "1F7BB:LIGHT EIGHT SPOKED ASTERISK;1F7BC:MEDIUM EIGHT SPOKED ASTERISK",
  "1F7BD:BOLD EIGHT SPOKED ASTERISK;1F7BE:HEAVY EIGHT SPOKED ASTERISK",
  "1F7BF:VERY HEAVY EIGHT SPOKED ASTERISK;1F7C0:LIGHT THREE POINTED BLACK STAR",
  "1F7C1:MEDIUM THREE POINTED BLACK STAR;1F7C2:THREE POINTED BLACK STAR",
  "1F7C3:MEDIUM THREE POINTED PINWHEEL STAR;1F7C4:LIGHT FOUR POINTED BLACK STAR",
  "1F7C5:MEDIUM FOUR POINTED BLACK STAR;1F7C6:FOUR POINTED BLACK STAR",
  "1F7C7:MEDIUM FOUR POINTED PINWHEEL STAR;1F7C8:REVERSE LIGHT FOUR POINTED PINWHEEL STAR",
  "1F7C9:LIGHT FIVE POINTED BLACK STAR;1F7CA:HEAVY FIVE POINTED BLACK STAR",
  "1F7CB:MEDIUM SIX POINTED BLACK STAR;1F7CC:HEAVY SIX POINTED BLACK STAR",
  "1F7CD:SIX POINTED PINWHEEL STAR;1F7CE:MEDIUM EIGHT POINTED BLACK STAR",
  "1F7CF:HEAVY EIGHT POINTED BLACK STAR;1F7D0:VERY HEAVY EIGHT POINTED BLACK STAR",
  "1F7D1:HEAVY EIGHT POINTED PINWHEEL STAR;1F7D2:LIGHT TWELVE POINTED BLACK STAR",
  "1F7D3 HEAVY TWELVE POINTED:BLACK STAR,PINWHEEL STAR;1F7D5:CIRCLED TRIANGLE",
  "1F7D6:NEGATIVE CIRCLED TRIANGLE;1F7D7:CIRCLED SQUARE;1F7D8:NEGATIVE CIRCLED SQUARE",
  "1F7E0 LARGE:ORANGE CIRCLE,YELLOW CIRCLE,GREEN CIRCLE,PURPLE CIRCLE,BROWN CIRCLE,RED SQUARE",
  "1F7E6 LARGE:BLUE SQUARE,ORANGE SQUARE,YELLOW SQUARE,GREEN SQUARE,PURPLE SQUARE,BROWN SQUARE",
  "1F7F0:HEAVY EQUALS SIGN;1F800:LEFTWARDS ARROW WITH SMALL TRIANGLE ARROWHEAD",
  "1F801:UPWARDS ARROW WITH SMALL TRIANGLE ARROWHEAD",
  "1F802:RIGHTWARDS ARROW WITH SMALL TRIANGLE ARROWHEAD",
  "1F803:DOWNWARDS ARROW WITH SMALL TRIANGLE ARROWHEAD",
  "1F804:LEFTWARDS ARROW WITH MEDIUM TRIANGLE ARROWHEAD",
  "1F805:UPWARDS ARROW WITH MEDIUM TRIANGLE ARROWHEAD",
  "1F806:RIGHTWARDS ARROW WITH MEDIUM TRIANGLE ARROWHEAD",
  "1F807:DOWNWARDS ARROW WITH MEDIUM TRIANGLE ARROWHEAD",
  "1F808:LEFTWARDS ARROW WITH LARGE TRIANGLE ARROWHEAD",
  "1F809:UPWARDS ARROW WITH LARGE TRIANGLE ARROWHEAD",
  "1F80A:RIGHTWARDS ARROW WITH LARGE TRIANGLE ARROWHEAD",
  "1F80B:DOWNWARDS ARROW WITH LARGE TRIANGLE ARROWHEAD",
  "1F810:LEFTWARDS ARROW WITH SMALL EQUILATERAL ARROWHEAD",
  "1F811:UPWARDS ARROW WITH SMALL EQUILATERAL ARROWHEAD",
  "1F812:RIGHTWARDS ARROW WITH SMALL EQUILATERAL ARROWHEAD",
  "1F813:DOWNWARDS ARROW WITH SMALL EQUILATERAL ARROWHEAD",
  "1F814:LEFTWARDS ARROW WITH EQUILATERAL ARROWHEAD",
  "1F815:UPWARDS ARROW WITH EQUILATERAL ARROWHEAD",
  "1F816:RIGHTWARDS ARROW WITH EQUILATERAL ARROWHEAD",
  "1F817:DOWNWARDS ARROW WITH EQUILATERAL ARROWHEAD",
  "1F818:HEAVY LEFTWARDS ARROW WITH EQUILATERAL ARROWHEAD",
  "1F819:HEAVY UPWARDS ARROW WITH EQUILATERAL ARROWHEAD",
  "1F81A:HEAVY RIGHTWARDS ARROW WITH EQUILATERAL ARROWHEAD",
  "1F81B:HEAVY DOWNWARDS ARROW WITH EQUILATERAL ARROWHEAD",
  "1F81C:HEAVY LEFTWARDS ARROW WITH LARGE EQUILATERAL ARROWHEAD",
  "1F81D:HEAVY UPWARDS ARROW WITH LARGE EQUILATERAL ARROWHEAD",
  "1F81E:HEAVY RIGHTWARDS ARROW WITH LARGE EQUILATERAL ARROWHEAD",
  "1F81F:HEAVY DOWNWARDS ARROW WITH LARGE EQUILATERAL ARROWHEAD",
  "1F820:LEFTWARDS TRIANGLE-HEADED ARROW WITH NARROW SHAFT",
  "1F821:UPWARDS TRIANGLE-HEADED ARROW WITH NARROW SHAFT",
  "1F822:RIGHTWARDS TRIANGLE-HEADED ARROW WITH NARROW SHAFT",
  "1F823:DOWNWARDS TRIANGLE-HEADED ARROW WITH NARROW SHAFT",
  "1F824:LEFTWARDS TRIANGLE-HEADED ARROW WITH MEDIUM SHAFT",
  "1F825:UPWARDS TRIANGLE-HEADED ARROW WITH MEDIUM SHAFT",
  "1F826:RIGHTWARDS TRIANGLE-HEADED ARROW WITH MEDIUM SHAFT",
  "1F827:DOWNWARDS TRIANGLE-HEADED ARROW WITH MEDIUM SHAFT",
  "1F828:LEFTWARDS TRIANGLE-HEADED ARROW WITH BOLD SHAFT",
  "1F829:UPWARDS TRIANGLE-HEADED ARROW WITH BOLD SHAFT",
  "1F82A:RIGHTWARDS TRIANGLE-HEADED ARROW WITH BOLD SHAFT",
  "1F82B:DOWNWARDS TRIANGLE-HEADED ARROW WITH BOLD SHAFT",
  "1F82C:LEFTWARDS TRIANGLE-HEADED ARROW WITH HEAVY SHAFT",
  "1F82D:UPWARDS TRIANGLE-HEADED ARROW WITH HEAVY SHAFT",
  "1F82E:RIGHTWARDS TRIANGLE-HEADED ARROW WITH HEAVY SHAFT",
  "1F82F:DOWNWARDS TRIANGLE-HEADED ARROW WITH HEAVY SHAFT",
  "1F830:LEFTWARDS TRIANGLE-HEADED ARROW WITH VERY HEAVY SHAFT",
  "1F831:UPWARDS TRIANGLE-HEADED ARROW WITH VERY HEAVY SHAFT",
  "1F832:RIGHTWARDS TRIANGLE-HEADED ARROW WITH VERY HEAVY SHAFT",
  "1F833:DOWNWARDS TRIANGLE-HEADED ARROW WITH VERY HEAVY SHAFT",
  "1F834:LEFTWARDS FINGER-POST ARROW;1F835:UPWARDS FINGER-POST ARROW",
  "1F836:RIGHTWARDS FINGER-POST ARROW;1F837:DOWNWARDS FINGER-POST ARROW",
  "1F838:LEFTWARDS SQUARED ARROW;1F839:UPWARDS SQUARED ARROW;1F83A:RIGHTWARDS SQUARED ARROW",
  "1F83B:DOWNWARDS SQUARED ARROW;1F83C:LEFTWARDS COMPRESSED ARROW",
  "1F83D:UPWARDS COMPRESSED ARROW;1F83E:RIGHTWARDS COMPRESSED ARROW",
  "1F83F:DOWNWARDS COMPRESSED ARROW;1F840:LEFTWARDS HEAVY COMPRESSED ARROW",
  "1F841:UPWARDS HEAVY COMPRESSED ARROW;1F842:RIGHTWARDS HEAVY COMPRESSED ARROW",
  "1F843:DOWNWARDS HEAVY COMPRESSED ARROW;1F844:LEFTWARDS HEAVY ARROW;1F845:UPWARDS HEAVY ARROW",
  "1F846:RIGHTWARDS HEAVY ARROW;1F847:DOWNWARDS HEAVY ARROW;1F850:LEFTWARDS SANS-SERIF ARROW",
  "1F851:UPWARDS SANS-SERIF ARROW;1F852:RIGHTWARDS SANS-SERIF ARROW",
  "1F853:DOWNWARDS SANS-SERIF ARROW;1F854 NORTH:WEST SANS-SERIF ARROW,EAST SANS-SERIF ARROW",
  "1F856 SOUTH:EAST SANS-SERIF ARROW,WEST SANS-SERIF ARROW;1F858:LEFT RIGHT SANS-SERIF ARROW",
  "1F859:UP DOWN SANS-SERIF ARROW",
  "1F860 WIDE-HEADED:LEFTWARDS LIGHT BARB ARROW,UPWARDS LIGHT BARB ARROW",
  "1F862 WIDE-HEADED:RIGHTWARDS LIGHT BARB ARROW,DOWNWARDS LIGHT BARB ARROW",
  "1F864 WIDE-HEADED:NORTH WEST LIGHT BARB ARROW,NORTH EAST LIGHT BARB ARROW",
  "1F866 WIDE-HEADED:SOUTH EAST LIGHT BARB ARROW,SOUTH WEST LIGHT BARB ARROW",
  "1F868 WIDE-HEADED:LEFTWARDS BARB ARROW,UPWARDS BARB ARROW,RIGHTWARDS BARB ARROW",
  "1F86B WIDE-HEADED:DOWNWARDS BARB ARROW,NORTH WEST BARB ARROW,NORTH EAST BARB ARROW",
  "1F86E WIDE-HEADED:SOUTH EAST BARB ARROW,SOUTH WEST BARB ARROW,LEFTWARDS MEDIUM BARB ARROW",
  "1F871 WIDE-HEADED:UPWARDS MEDIUM BARB ARROW,RIGHTWARDS MEDIUM BARB ARROW",
  "1F873 WIDE-HEADED:DOWNWARDS MEDIUM BARB ARROW,NORTH WEST MEDIUM BARB ARROW",
  "1F875 WIDE-HEADED:NORTH EAST MEDIUM BARB ARROW,SOUTH EAST MEDIUM BARB ARROW",
  "1F877 WIDE-HEADED:SOUTH WEST MEDIUM BARB ARROW,LEFTWARDS HEAVY BARB ARROW",
  "1F879 WIDE-HEADED:UPWARDS HEAVY BARB ARROW,RIGHTWARDS HEAVY BARB ARROW",
  "1F87B WIDE-HEADED:DOWNWARDS HEAVY BARB ARROW,NORTH WEST HEAVY BARB ARROW",
  "1F87D WIDE-HEADED:NORTH EAST HEAVY BARB ARROW,SOUTH EAST HEAVY BARB ARROW",
  "1F87F WIDE-HEADED:SOUTH WEST HEAVY BARB ARROW,LEFTWARDS VERY HEAVY BARB ARROW",
  "1F881 WIDE-HEADED:UPWARDS VERY HEAVY BARB ARROW,RIGHTWARDS VERY HEAVY BARB ARROW",
  "1F883 WIDE-HEADED:DOWNWARDS VERY HEAVY BARB ARROW,NORTH WEST VERY HEAVY BARB ARROW",
  "1F885 WIDE-HEADED:NORTH EAST VERY HEAVY BARB ARROW,SOUTH EAST VERY HEAVY BARB ARROW",
  "1F887 WIDE-HEADED:SOUTH WEST VERY HEAVY BARB ARROW;1F890:LEFTWARDS TRIANGLE ARROWHEAD",
  "1F891:UPWARDS TRIANGLE ARROWHEAD;1F892:RIGHTWARDS TRIANGLE ARROWHEAD",
  "1F893:DOWNWARDS TRIANGLE ARROWHEAD;1F894:LEFTWARDS WHITE ARROW WITHIN TRIANGLE ARROWHEAD",
  "1F895:UPWARDS WHITE ARROW WITHIN TRIANGLE ARROWHEAD",
  "1F896:RIGHTWARDS WHITE ARROW WITHIN TRIANGLE ARROWHEAD",
  "1F897:DOWNWARDS WHITE ARROW WITHIN TRIANGLE ARROWHEAD",
  "1F898:LEFTWARDS ARROW WITH NOTCHED TAIL;1F899:UPWARDS ARROW WITH NOTCHED TAIL",
  "1F89A:RIGHTWARDS ARROW WITH NOTCHED TAIL;1F89B:DOWNWARDS ARROW WITH NOTCHED TAIL",
  "1F89C HEAVY ARROW SHAFT WIDTH:ONE,TWO THIRDS,ONE HALF,ONE THIRD",
  "1F8A0:LEFTWARDS BOTTOM-SHADED WHITE ARROW;1F8A1:RIGHTWARDS BOTTOM SHADED WHITE ARROW",
  "1F8A2:LEFTWARDS TOP SHADED WHITE ARROW;1F8A3:RIGHTWARDS TOP SHADED WHITE ARROW",
  "1F8A4:LEFTWARDS LEFT-SHADED WHITE ARROW;1F8A5:RIGHTWARDS RIGHT-SHADED WHITE ARROW",
  "1F8A6:LEFTWARDS RIGHT-SHADED WHITE ARROW;1F8A7:RIGHTWARDS LEFT-SHADED WHITE ARROW",
  "1F8A8:LEFTWARDS BACK-TILTED SHADOWED WHITE ARROW",
  "1F8A9:RIGHTWARDS BACK-TILTED SHADOWED WHITE ARROW",
  "1F8AA:LEFTWARDS FRONT-TILTED SHADOWED WHITE ARROW",
  "1F8AB:RIGHTWARDS FRONT-TILTED SHADOWED WHITE ARROW",
  "1F8AC WHITE ARROW SHAFT WIDTH:ONE,TWO THIRDS",
  "1F8B0 ARROW POINTING:UPWARDS THEN NORTH WEST,RIGHTWARDS THEN CURVING SOUTH WEST",
  "1F900:CIRCLED CROSS FORMEE WITH FOUR DOTS;1F901:CIRCLED CROSS FORMEE WITH TWO DOTS",
  "1F902:CIRCLED CROSS FORMEE;1F903:LEFT HALF CIRCLE WITH FOUR DOTS",
  "1F904:LEFT HALF CIRCLE WITH THREE DOTS;1F905:LEFT HALF CIRCLE WITH TWO DOTS",
  "1F906:LEFT HALF CIRCLE WITH DOT;1F907:LEFT HALF CIRCLE;1F908:DOWNWARD FACING HOOK",
  "1F909:DOWNWARD FACING NOTCHED HOOK;1F90A:DOWNWARD FACING HOOK WITH DOT",
  "1F90B:DOWNWARD FACING NOTCHED HOOK WITH DOT;1F90C:PINCHED FINGERS;1F90D:WHITE HEART",
  "1F90E:BROWN HEART;1F90F:PINCHING HAND;1F910:ZIPPER-MOUTH FACE;1F911:MONEY-MOUTH FACE",
  "1F912:FACE WITH THERMOMETER;1F913:NERD FACE;1F914:THINKING FACE;1F915:FACE WITH HEAD-BANDAGE",
  "1F916:ROBOT FACE;1F917:HUGGING FACE;1F918:SIGN OF THE HORNS;1F919:CALL ME HAND",
  "1F91A:RAISED BACK OF HAND;1F91B:LEFT-FACING FIST;1F91C:RIGHT-FACING FIST;1F91D:HANDSHAKE",
  "1F91E:HAND WITH INDEX AND MIDDLE FINGERS CROSSED;1F91F:I LOVE YOU HAND SIGN",
  "1F920:FACE WITH COWBOY HAT;1F921:CLOWN FACE;1F922:NAUSEATED FACE",
  "1F923:ROLLING ON THE FLOOR LAUGHING;1F924:DROOLING FACE;1F925:LYING FACE;1F926:FACE PALM",
  "1F927:SNEEZING FACE;1F928:FACE WITH ONE EYEBROW RAISED;1F929:GRINNING FACE WITH STAR EYES",
  "1F92A:GRINNING FACE WITH ONE LARGE AND ONE SMALL EYE",
  "1F92B:FACE WITH FINGER COVERING CLOSED LIPS;1F92C:SERIOUS FACE WITH SYMBOLS COVERING MOUTH",
  "1F92D:SMILING FACE WITH SMILING EYES AND HAND COVERING MOUTH",
  "1F92E:FACE WITH OPEN MOUTH VOMITING;1F92F:SHOCKED FACE WITH EXPLODING HEAD",
  "1F930:PREGNANT WOMAN;1F931:BREAST-FEEDING;1F932:PALMS UP TOGETHER;1F933:SELFIE;1F934:PRINCE",
  "1F935:MAN IN TUXEDO;1F936:MOTHER CHRISTMAS;1F937:SHRUG;1F938:PERSON DOING CARTWHEEL",
  "1F939:JUGGLING;1F93A:FENCER;1F93B:MODERN PENTATHLON;1F93C:WRESTLERS;1F93D:WATER POLO",
  "1F93E:HANDBALL;1F93F:DIVING MASK;1F940:WILTED FLOWER;1F941:DRUM WITH DRUMSTICKS",
  "1F942:CLINKING GLASSES;1F943:TUMBLER GLASS;1F944:SPOON;1F945:GOAL NET;1F946:RIFLE",
  "1F947:FIRST PLACE MEDAL;1F948:SECOND PLACE MEDAL;1F949:THIRD PLACE MEDAL;1F94A:BOXING GLOVE",
  "1F94B:MARTIAL ARTS UNIFORM;1F94C:CURLING STONE;1F94D:LACROSSE STICK AND BALL;1F94E:SOFTBALL",
  "1F94F:FLYING DISC;1F950:CROISSANT;1F951:AVOCADO;1F952:CUCUMBER;1F953:BACON;1F954:POTATO",
  "1F955:CARROT;1F956:BAGUETTE BREAD;1F957:GREEN SALAD;1F958:SHALLOW PAN OF FOOD",
  "1F959:STUFFED FLATBREAD;1F95A:EGG;1F95B:GLASS OF MILK;1F95C:PEANUTS;1F95D:KIWIFRUIT",
  "1F95E:PANCAKES;1F95F:DUMPLING;1F960:FORTUNE COOKIE;1F961:TAKEOUT BOX;1F962:CHOPSTICKS",
  "1F963:BOWL WITH SPOON;1F964:CUP WITH STRAW;1F965:COCONUT;1F966:BROCCOLI;1F967:PIE",
  "1F968:PRETZEL;1F969:CUT OF MEAT;1F96A:SANDWICH;1F96B:CANNED FOOD;1F96C:LEAFY GREEN",
  "1F96D:MANGO;1F96E:MOON CAKE;1F96F:BAGEL",
  "1F970:SMILING FACE WITH SMILING EYES AND THREE HEARTS;1F971:YAWNING FACE",
  "1F972:SMILING FACE WITH TEAR;1F973:FACE WITH PARTY HORN AND PARTY HAT",
  "1F974:FACE WITH UNEVEN EYES AND WAVY MOUTH;1F975:OVERHEATED FACE;1F976:FREEZING FACE",
  "1F977:NINJA;1F978:DISGUISED FACE;1F979:FACE HOLDING BACK TEARS;1F97A:FACE WITH PLEADING EYES",
  "1F97B:SARI;1F97C:LAB COAT;1F97D:GOGGLES;1F97E:HIKING BOOT;1F97F:FLAT SHOE;1F980:CRAB",
  "1F981:LION FACE;1F982:SCORPION;1F983:TURKEY;1F984:UNICORN FACE;1F985:EAGLE;1F986:DUCK",
  "1F987:BAT;1F988:SHARK;1F989:OWL;1F98A:FOX FACE;1F98B:BUTTERFLY;1F98C:DEER;1F98D:GORILLA",
  "1F98E:LIZARD;1F98F:RHINOCEROS;1F990:SHRIMP;1F991:SQUID;1F992:GIRAFFE FACE;1F993:ZEBRA FACE",
  "1F994:HEDGEHOG;1F995:SAUROPOD;1F996:T-REX;1F997:CRICKET;1F998:KANGAROO;1F999:LLAMA",
  "1F99A:PEACOCK;1F99B:HIPPOPOTAMUS;1F99C:PARROT;1F99D:RACCOON;1F99E:LOBSTER;1F99F:MOSQUITO",
  "1F9A0:MICROBE;1F9A1:BADGER;1F9A2:SWAN;1F9A3:MAMMOTH;1F9A4:DODO;1F9A5:SLOTH;1F9A6:OTTER",
  "1F9A7:ORANGUTAN;1F9A8:SKUNK;1F9A9:FLAMINGO;1F9AA:OYSTER;1F9AB:BEAVER;1F9AC:BISON;1F9AD:SEAL",
  "1F9AE:GUIDE DOG;1F9AF:PROBING CANE;1F9B0:EMOJI COMPONENT RED HAIR",
  "1F9B1:EMOJI COMPONENT CURLY HAIR;1F9B2:EMOJI COMPONENT BALD;1F9B3:EMOJI COMPONENT WHITE HAIR",
  "1F9B4:BONE;1F9B5:LEG;1F9B6:FOOT;1F9B7:TOOTH;1F9B8:SUPERHERO;1F9B9:SUPERVILLAIN",
  "1F9BA:SAFETY VEST;1F9BB:EAR WITH HEARING AID;1F9BC:MOTORIZED WHEELCHAIR",
  "1F9BD:MANUAL WHEELCHAIR;1F9BE:MECHANICAL ARM;1F9BF:MECHANICAL LEG;1F9C0:CHEESE WEDGE",
  "1F9C1:CUPCAKE;1F9C2:SALT SHAKER;1F9C3:BEVERAGE BOX;1F9C4:GARLIC;1F9C5:ONION;1F9C6:FALAFEL",
  "1F9C7:WAFFLE;1F9C8:BUTTER;1F9C9:MATE DRINK;1F9CA:ICE CUBE;1F9CB:BUBBLE TEA;1F9CC:TROLL",
  "1F9CD:STANDING PERSON;1F9CE:KNEELING PERSON;1F9CF:DEAF PERSON;1F9D0:FACE WITH MONOCLE",
  "1F9D1:ADULT;1F9D2:CHILD;1F9D3:OLDER ADULT;1F9D4:BEARDED PERSON;1F9D5:PERSON WITH HEADSCARF",
  "1F9D6:PERSON IN STEAMY ROOM;1F9D7:PERSON CLIMBING;1F9D8:PERSON IN LOTUS POSITION;1F9D9:MAGE",
  "1F9DA:FAIRY;1F9DB:VAMPIRE;1F9DC:MERPERSON;1F9DD:ELF;1F9DE:GENIE;1F9DF:ZOMBIE;1F9E0:BRAIN",
  "1F9E1:ORANGE HEART;1F9E2:BILLED CAP;1F9E3:SCARF;1F9E4:GLOVES;1F9E5:COAT;1F9E6:SOCKS",
  "1F9E7:RED GIFT ENVELOPE;1F9E8:FIRECRACKER;1F9E9:JIGSAW PUZZLE PIECE;1F9EA:TEST TUBE",
  "1F9EB:PETRI DISH;1F9EC:DNA DOUBLE HELIX;1F9ED:COMPASS;1F9EE:ABACUS;1F9EF:FIRE EXTINGUISHER",
  "1F9F0:TOOLBOX;1F9F1:BRICK;1F9F2:MAGNET;1F9F3:LUGGAGE;1F9F4:LOTION BOTTLE",
  "1F9F5:SPOOL OF THREAD;1F9F6:BALL OF YARN;1F9F7:SAFETY PIN;1F9F8:TEDDY BEAR;1F9F9:BROOM",
  "1F9FA:BASKET;1F9FB:ROLL OF PAPER;1F9FC:BAR OF SOAP;1F9FD:SPONGE;1F9FE:RECEIPT",
  "1F9FF:NAZAR AMULET;1FA00:NEUTRAL CHESS KING;1FA01:NEUTRAL CHESS QUEEN",
  "1FA02:NEUTRAL CHESS ROOK;1FA03:NEUTRAL CHESS BISHOP;1FA04:NEUTRAL CHESS KNIGHT",
  "1FA05:NEUTRAL CHESS PAWN;1FA06:WHITE CHESS KNIGHT ROTATED FORTY-FIVE DEGREES",
  "1FA07:BLACK CHESS KNIGHT ROTATED FORTY-FIVE DEGREES",
  "1FA08:NEUTRAL CHESS KNIGHT ROTATED FORTY-FIVE DEGREES",
  "1FA09:WHITE CHESS KING ROTATED NINETY DEGREES;1FA0A:WHITE CHESS QUEEN ROTATED NINETY DEGREES",
  "1FA0B:WHITE CHESS ROOK ROTATED NINETY DEGREES",
  "1FA0C:WHITE CHESS BISHOP ROTATED NINETY DEGREES",
  "1FA0D:WHITE CHESS KNIGHT ROTATED NINETY DEGREES",
  "1FA0E:WHITE CHESS PAWN ROTATED NINETY DEGREES;1FA0F:BLACK CHESS KING ROTATED NINETY DEGREES",
  "1FA10:BLACK CHESS QUEEN ROTATED NINETY DEGREES;1FA11:BLACK CHESS ROOK ROTATED NINETY DEGREES",
  "1FA12:BLACK CHESS BISHOP ROTATED NINETY DEGREES",
  "1FA13:BLACK CHESS KNIGHT ROTATED NINETY DEGREES",
  "1FA14:BLACK CHESS PAWN ROTATED NINETY DEGREES",
  "1FA15 NEUTRAL CHESS:KING ROTATED NINETY DEGREES,QUEEN ROTATED NINETY DEGREES",
  "1FA17 NEUTRAL CHESS:ROOK ROTATED NINETY DEGREES,BISHOP ROTATED NINETY DEGREES",
  "1FA19 NEUTRAL CHESS:KNIGHT ROTATED NINETY DEGREES,PAWN ROTATED NINETY DEGREES",
  "1FA1B:WHITE CHESS KNIGHT ROTATED ONE HUNDRED THIRTY-FIVE DEGREES",
  "1FA1C:BLACK CHESS KNIGHT ROTATED ONE HUNDRED THIRTY-FIVE DEGREES",
  "1FA1D:NEUTRAL CHESS KNIGHT ROTATED ONE HUNDRED THIRTY-FIVE DEGREES",
  "1FA1E WHITE CHESS TURNED:KING,QUEEN,ROOK,BISHOP,KNIGHT,PAWN",
  "1FA24 BLACK CHESS TURNED:KING,QUEEN,ROOK,BISHOP,KNIGHT,PAWN",
  "1FA2A NEUTRAL CHESS TURNED:KING,QUEEN,ROOK,BISHOP,KNIGHT,PAWN",
  "1FA30:WHITE CHESS KNIGHT ROTATED TWO HUNDRED TWENTY-FIVE DEGREES",
  "1FA31:BLACK CHESS KNIGHT ROTATED TWO HUNDRED TWENTY-FIVE DEGREES",
  "1FA32:NEUTRAL CHESS KNIGHT ROTATED TWO HUNDRED TWENTY-FIVE DEGREES",
  "1FA33 WHITE CHESS:KING ROTATED TWO HUNDRED SEVENTY DEGREES",
  "1FA34 WHITE CHESS:QUEEN ROTATED TWO HUNDRED SEVENTY DEGREES",
  "1FA35 WHITE CHESS:ROOK ROTATED TWO HUNDRED SEVENTY DEGREES",
  "1FA36 WHITE CHESS:BISHOP ROTATED TWO HUNDRED SEVENTY DEGREES",
  "1FA37 WHITE CHESS:KNIGHT ROTATED TWO HUNDRED SEVENTY DEGREES",
  "1FA38 WHITE CHESS:PAWN ROTATED TWO HUNDRED SEVENTY DEGREES",
  "1FA39 BLACK CHESS:KING ROTATED TWO HUNDRED SEVENTY DEGREES",
  "1FA3A BLACK CHESS:QUEEN ROTATED TWO HUNDRED SEVENTY DEGREES",
  "1FA3B BLACK CHESS:ROOK ROTATED TWO HUNDRED SEVENTY DEGREES",
  "1FA3C BLACK CHESS:BISHOP ROTATED TWO HUNDRED SEVENTY DEGREES",
  "1FA3D BLACK CHESS:KNIGHT ROTATED TWO HUNDRED SEVENTY DEGREES",
  "1FA3E BLACK CHESS:PAWN ROTATED TWO HUNDRED SEVENTY DEGREES",
  "1FA3F NEUTRAL CHESS:KING ROTATED TWO HUNDRED SEVENTY DEGREES",
  "1FA40 NEUTRAL CHESS:QUEEN ROTATED TWO HUNDRED SEVENTY DEGREES",
  "1FA41 NEUTRAL CHESS:ROOK ROTATED TWO HUNDRED SEVENTY DEGREES",
  "1FA42 NEUTRAL CHESS:BISHOP ROTATED TWO HUNDRED SEVENTY DEGREES",
  "1FA43 NEUTRAL CHESS:KNIGHT ROTATED TWO HUNDRED SEVENTY DEGREES",
  "1FA44 NEUTRAL CHESS:PAWN ROTATED TWO HUNDRED SEVENTY DEGREES",
  "1FA45:WHITE CHESS KNIGHT ROTATED THREE HUNDRED FIFTEEN DEGREES",
  "1FA46:BLACK CHESS KNIGHT ROTATED THREE HUNDRED FIFTEEN DEGREES",
  "1FA47:NEUTRAL CHESS KNIGHT ROTATED THREE HUNDRED FIFTEEN DEGREES",
  "1FA48:WHITE CHESS EQUIHOPPER;1FA49:BLACK CHESS EQUIHOPPER;1FA4A:NEUTRAL CHESS EQUIHOPPER",
  "1FA4B:WHITE CHESS EQUIHOPPER ROTATED NINETY DEGREES",
  "1FA4C:BLACK CHESS EQUIHOPPER ROTATED NINETY DEGREES",
  "1FA4D:NEUTRAL CHESS EQUIHOPPER ROTATED NINETY DEGREES",
  "1FA4E WHITE CHESS:KNIGHT-QUEEN,KNIGHT-ROOK,KNIGHT-BISHOP",
  "1FA51 BLACK CHESS:KNIGHT-QUEEN,KNIGHT-ROOK,KNIGHT-BISHOP",
  "1FA60 XIANGQI:RED GENERAL,RED MANDARIN,RED ELEPHANT,RED HORSE,RED CHARIOT,RED CANNON",
  "1FA66 XIANGQI:RED SOLDIER,BLACK GENERAL,BLACK MANDARIN,BLACK ELEPHANT,BLACK HORSE",
  "1FA6B XIANGQI:BLACK CHARIOT,BLACK CANNON,BLACK SOLDIER;1FA70:BALLET SHOES",
  "1FA71:ONE-PIECE SWIMSUIT;1FA72:BRIEFS;1FA73:SHORTS;1FA74:THONG SANDAL;1FA78:DROP OF BLOOD",
  "1FA79:ADHESIVE BANDAGE;1FA7A:STETHOSCOPE;1FA7B:X-RAY;1FA7C:CRUTCH;1FA80:YO-YO;1FA81:KITE",
  "1FA82:PARACHUTE;1FA83:BOOMERANG;1FA84:MAGIC WAND;1FA85:PINATA;1FA86:NESTING DOLLS",
  "1FA90:RINGED PLANET;1FA91:CHAIR;1FA92:RAZOR;1FA93:AXE;1FA94:DIYA LAMP;1FA95:BANJO",
  "1FA96:MILITARY HELMET;1FA97:ACCORDION;1FA98:LONG DRUM;1FA99:COIN;1FA9A:CARPENTRY SAW",
  "1FA9B:SCREWDRIVER;1FA9C:LADDER;1FA9D:HOOK;1FA9E:MIRROR;1FA9F:WINDOW;1FAA0:PLUNGER",
  "1FAA1:SEWING NEEDLE;1FAA2:KNOT;1FAA3:BUCKET;1FAA4:MOUSE TRAP;1FAA5:TOOTHBRUSH",
  "1FAA6:HEADSTONE;1FAA7:PLACARD;1FAA8:ROCK;1FAA9:MIRROR BALL;1FAAA:IDENTIFICATION CARD",
  "1FAAB:LOW BATTERY;1FAAC:HAMSA;1FAB0:FLY;1FAB1:WORM;1FAB2:BEETLE;1FAB3:COCKROACH",
  "1FAB4:POTTED PLANT;1FAB5:WOOD;1FAB6:FEATHER;1FAB7:LOTUS;1FAB8:CORAL;1FAB9:EMPTY NEST",
  "1FABA:NEST WITH EGGS;1FAC0:ANATOMICAL HEART;1FAC1:LUNGS;1FAC2:PEOPLE HUGGING",
  "1FAC3 PREGNANT:MAN,PERSON;1FAC5:PERSON WITH CROWN;1FAD0:BLUEBERRIES;1FAD1:BELL PEPPER",
  "1FAD2:OLIVE;1FAD3:FLATBREAD;1FAD4:TAMALE;1FAD5:FONDUE;1FAD6:TEAPOT;1FAD7:POURING LIQUID",
  "1FAD8:BEANS;1FAD9:JAR;1FAE0:MELTING FACE;1FAE1:SALUTING FACE",
  "1FAE2 FACE WITH:OPEN EYES AND HAND OVER MOUTH,PEEKING EYE,DIAGONAL MOUTH",
  "1FAE5:DOTTED LINE FACE;1FAE6:BITING LIP;1FAE7:BUBBLES",
  "1FAF0:HAND WITH INDEX FINGER AND THUMB CROSSED;1FAF1:RIGHTWARDS HAND;1FAF2:LEFTWARDS HAND",
  "1FAF3 PALM:DOWN HAND,UP HAND;1FAF5:INDEX POINTING AT THE VIEWER;1FAF6:HEART HANDS",
  "1FB00 BLOCK:SEXTANT-1,SEXTANT-2,SEXTANT-12,SEXTANT-3,SEXTANT-13,SEXTANT-23,SEXTANT-123",
  "1FB07 BLOCK:SEXTANT-4,SEXTANT-14,SEXTANT-24,SEXTANT-124,SEXTANT-34,SEXTANT-134,SEXTANT-234",
  "1FB0E BLOCK:SEXTANT-1234,SEXTANT-5,SEXTANT-15,SEXTANT-25,SEXTANT-125,SEXTANT-35,SEXTANT-235",
  "1FB15 BLOCK:SEXTANT-1235,SEXTANT-45,SEXTANT-145,SEXTANT-245,SEXTANT-1245,SEXTANT-345",
  "1FB1B BLOCK:SEXTANT-1345,SEXTANT-2345,SEXTANT-12345,SEXTANT-6,SEXTANT-16,SEXTANT-26",
  "1FB21 BLOCK:SEXTANT-126,SEXTANT-36,SEXTANT-136,SEXTANT-236,SEXTANT-1236,SEXTANT-46",
  "1FB27 BLOCK:SEXTANT-146,SEXTANT-1246,SEXTANT-346,SEXTANT-1346,SEXTANT-2346,SEXTANT-12346",
  "1FB2D BLOCK:SEXTANT-56,SEXTANT-156,SEXTANT-256,SEXTANT-1256,SEXTANT-356,SEXTANT-1356",
  "1FB33 BLOCK:SEXTANT-2356,SEXTANT-12356,SEXTANT-456,SEXTANT-1456,SEXTANT-2456,SEXTANT-12456",
  "1FB39 BLOCK:SEXTANT-3456,SEXTANT-13456,SEXTANT-23456",
  "1FB3C LOWER:LEFT BLOCK DIAGONAL LOWER MIDDLE LEFT TO LOWER CENTRE",
  "1FB3D LOWER:LEFT BLOCK DIAGONAL LOWER MIDDLE LEFT TO LOWER RIGHT",
  "1FB3E LOWER:LEFT BLOCK DIAGONAL UPPER MIDDLE LEFT TO LOWER CENTRE",
  "1FB3F LOWER:LEFT BLOCK DIAGONAL UPPER MIDDLE LEFT TO LOWER RIGHT",
  "1FB40 LOWER:LEFT BLOCK DIAGONAL UPPER LEFT TO LOWER CENTRE",
  "1FB41 LOWER:RIGHT BLOCK DIAGONAL UPPER MIDDLE LEFT TO UPPER CENTRE",
  "1FB42 LOWER:RIGHT BLOCK DIAGONAL UPPER MIDDLE LEFT TO UPPER RIGHT",
  "1FB43 LOWER:RIGHT BLOCK DIAGONAL LOWER MIDDLE LEFT TO UPPER CENTRE",
  "1FB44 LOWER:RIGHT BLOCK DIAGONAL LOWER MIDDLE LEFT TO UPPER RIGHT",
  "1FB45 LOWER:RIGHT BLOCK DIAGONAL LOWER LEFT TO UPPER CENTRE",
  "1FB46 LOWER:RIGHT BLOCK DIAGONAL LOWER MIDDLE LEFT TO UPPER MIDDLE RIGHT",
  "1FB47 LOWER:RIGHT BLOCK DIAGONAL LOWER CENTRE TO LOWER MIDDLE RIGHT",
  "1FB48 LOWER:RIGHT BLOCK DIAGONAL LOWER LEFT TO LOWER MIDDLE RIGHT",
  "1FB49 LOWER:RIGHT BLOCK DIAGONAL LOWER CENTRE TO UPPER MIDDLE RIGHT",
  "1FB4A LOWER:RIGHT BLOCK DIAGONAL LOWER LEFT TO UPPER MIDDLE RIGHT",
  "1FB4B LOWER:RIGHT BLOCK DIAGONAL LOWER CENTRE TO UPPER RIGHT",
  "1FB4C LOWER:LEFT BLOCK DIAGONAL UPPER CENTRE TO UPPER MIDDLE RIGHT",
  "1FB4D LOWER:LEFT BLOCK DIAGONAL UPPER LEFT TO UPPER MIDDLE RIGHT",
  "1FB4E LOWER:LEFT BLOCK DIAGONAL UPPER CENTRE TO LOWER MIDDLE RIGHT",
  "1FB4F LOWER:LEFT BLOCK DIAGONAL UPPER LEFT TO LOWER MIDDLE RIGHT",
  "1FB50 LOWER:LEFT BLOCK DIAGONAL UPPER CENTRE TO LOWER RIGHT",
  "1FB51 LOWER:LEFT BLOCK DIAGONAL UPPER MIDDLE LEFT TO LOWER MIDDLE RIGHT",
  "1FB52 UPPER:RIGHT BLOCK DIAGONAL LOWER MIDDLE LEFT TO LOWER CENTRE",
  "1FB53 UPPER:RIGHT BLOCK DIAGONAL LOWER MIDDLE LEFT TO LOWER RIGHT",
  "1FB54 UPPER:RIGHT BLOCK DIAGONAL UPPER MIDDLE LEFT TO LOWER CENTRE",
  "1FB55 UPPER:RIGHT BLOCK DIAGONAL UPPER MIDDLE LEFT TO LOWER RIGHT",
  "1FB56 UPPER:RIGHT BLOCK DIAGONAL UPPER LEFT TO LOWER CENTRE",
  "1FB57 UPPER:LEFT BLOCK DIAGONAL UPPER MIDDLE LEFT TO UPPER CENTRE",
  "1FB58 UPPER:LEFT BLOCK DIAGONAL UPPER MIDDLE LEFT TO UPPER RIGHT",
  "1FB59 UPPER:LEFT BLOCK DIAGONAL LOWER MIDDLE LEFT TO UPPER CENTRE",
  "1FB5A UPPER:LEFT BLOCK DIAGONAL LOWER MIDDLE LEFT TO UPPER RIGHT",
  "1FB5B UPPER:LEFT BLOCK DIAGONAL LOWER LEFT TO UPPER CENTRE",
  "1FB5C UPPER:LEFT BLOCK DIAGONAL LOWER MIDDLE LEFT TO UPPER MIDDLE RIGHT",
  "1FB5D UPPER:LEFT BLOCK DIAGONAL LOWER CENTRE TO LOWER MIDDLE RIGHT",
  "1FB5E UPPER:LEFT BLOCK DIAGONAL LOWER LEFT TO LOWER MIDDLE RIGHT",
  "1FB5F UPPER:LEFT BLOCK DIAGONAL LOWER CENTRE TO UPPER MIDDLE RIGHT",
  "1FB60 UPPER:LEFT BLOCK DIAGONAL LOWER LEFT TO UPPER MIDDLE RIGHT",
  "1FB61 UPPER:LEFT BLOCK DIAGONAL LOWER CENTRE TO UPPER RIGHT",
  "1FB62 UPPER:RIGHT BLOCK DIAGONAL UPPER CENTRE TO UPPER MIDDLE RIGHT",
  "1FB63 UPPER:RIGHT BLOCK DIAGONAL UPPER LEFT TO UPPER MIDDLE RIGHT",
  "1FB64 UPPER:RIGHT BLOCK DIAGONAL UPPER CENTRE TO LOWER MIDDLE RIGHT",
  "1FB65 UPPER:RIGHT BLOCK DIAGONAL UPPER LEFT TO LOWER MIDDLE RIGHT",
  "1FB66 UPPER:RIGHT BLOCK DIAGONAL UPPER CENTRE TO LOWER RIGHT",
  "1FB67 UPPER:RIGHT BLOCK DIAGONAL UPPER MIDDLE LEFT TO LOWER MIDDLE RIGHT",
  "1FB68 UPPER:AND RIGHT AND LOWER TRIANGULAR THREE QUARTERS BLOCK",
  "1FB69:LEFT AND LOWER AND RIGHT TRIANGULAR THREE QUARTERS BLOCK",
  "1FB6A:UPPER AND LEFT AND LOWER TRIANGULAR THREE QUARTERS BLOCK",
  "1FB6B:LEFT AND UPPER AND RIGHT TRIANGULAR THREE QUARTERS BLOCK",
  "1FB6C:LEFT TRIANGULAR ONE QUARTER BLOCK;1FB6D:UPPER TRIANGULAR ONE QUARTER BLOCK",
  "1FB6E:RIGHT TRIANGULAR ONE QUARTER BLOCK;1FB6F:LOWER TRIANGULAR ONE QUARTER BLOCK",
  "1FB70 VERTICAL ONE EIGHTH:BLOCK-2,BLOCK-3,BLOCK-4,BLOCK-5,BLOCK-6,BLOCK-7",
  "1FB76 HORIZONTAL ONE EIGHTH:BLOCK-2,BLOCK-3,BLOCK-4,BLOCK-5,BLOCK-6,BLOCK-7",
  "1FB7C:LEFT AND LOWER ONE EIGHTH BLOCK;1FB7D:LEFT AND UPPER ONE EIGHTH BLOCK",
  "1FB7E:RIGHT AND UPPER ONE EIGHTH BLOCK;1FB7F:RIGHT AND LOWER ONE EIGHTH BLOCK",
  "1FB80:UPPER AND LOWER ONE EIGHTH BLOCK;1FB81:HORIZONTAL ONE EIGHTH BLOCK-1358",
  "1FB82 UPPER:ONE QUARTER BLOCK,THREE EIGHTHS BLOCK,FIVE EIGHTHS BLOCK,THREE QUARTERS BLOCK",
  "1FB86 UPPER:SEVEN EIGHTHS BLOCK",
  "1FB87 RIGHT:ONE QUARTER BLOCK,THREE EIGHTHS BLOCK,FIVE EIGHTHS BLOCK,THREE QUARTERS BLOCK",
  "1FB8B RIGHT:SEVEN EIGHTHS BLOCK;1FB8C:LEFT HALF MEDIUM SHADE;1FB8D:RIGHT HALF MEDIUM SHADE",
  "1FB8E:UPPER HALF MEDIUM SHADE;1FB8F:LOWER HALF MEDIUM SHADE;1FB90:INVERSE MEDIUM SHADE",
  "1FB91 UPPER HALF:BLOCK AND LOWER HALF INVERSE MEDIUM SHADE",
  "1FB92 UPPER HALF:INVERSE MEDIUM SHADE AND LOWER HALF BLOCK",
  "1FB94:LEFT HALF INVERSE MEDIUM SHADE AND RIGHT HALF BLOCK;1FB95:CHECKER BOARD FILL",
  "1FB96:INVERSE CHECKER BOARD FILL;1FB97:HEAVY HORIZONTAL FILL",
  "1FB98:UPPER LEFT TO LOWER RIGHT FILL;1FB99:UPPER RIGHT TO LOWER LEFT FILL",
  "1FB9A:UPPER AND LOWER TRIANGULAR HALF BLOCK;1FB9B:LEFT AND RIGHT TRIANGULAR HALF BLOCK",
  "1FB9C:UPPER LEFT TRIANGULAR MEDIUM SHADE;1FB9D:UPPER RIGHT TRIANGULAR MEDIUM SHADE",
  "1FB9E:LOWER RIGHT TRIANGULAR MEDIUM SHADE;1FB9F:LOWER LEFT TRIANGULAR MEDIUM SHADE",
  "1FBA0 BOX DRAWINGS LIGHT DIAGONAL:UPPER CENTRE TO MIDDLE LEFT,UPPER CENTRE TO MIDDLE RIGHT",
  "1FBA2 BOX DRAWINGS LIGHT DIAGONAL:MIDDLE LEFT TO LOWER CENTRE,MIDDLE RIGHT TO LOWER CENTRE",
  "1FBA4 BOX DRAWINGS LIGHT DIAGONAL:UPPER CENTRE TO MIDDLE LEFT TO LOWER CENTRE",
  "1FBA5 BOX DRAWINGS LIGHT DIAGONAL:UPPER CENTRE TO MIDDLE RIGHT TO LOWER CENTRE",
  "1FBA6 BOX DRAWINGS LIGHT DIAGONAL:MIDDLE LEFT TO LOWER CENTRE TO MIDDLE RIGHT",
  "1FBA7 BOX DRAWINGS LIGHT DIAGONAL:MIDDLE LEFT TO UPPER CENTRE TO MIDDLE RIGHT",
  "1FBA8 BOX DRAWINGS LIGHT DIAGONAL:UPPER CENTRE TO MIDDLE LEFT AND MIDDLE RIGHT TO LOWER CENTRE",
  "1FBA9 BOX DRAWINGS LIGHT DIAGONAL:UPPER CENTRE TO MIDDLE RIGHT AND MIDDLE LEFT TO LOWER CENTRE",
  "1FBAA BOX DRAWINGS LIGHT DIAGONAL:UPPER CENTRE TO MIDDLE RIGHT TO LOWER CENTRE TO MIDDLE LEFT",
  "1FBAB BOX DRAWINGS LIGHT DIAGONAL:UPPER CENTRE TO MIDDLE LEFT TO LOWER CENTRE TO MIDDLE RIGHT",
  "1FBAC BOX DRAWINGS LIGHT DIAGONAL:MIDDLE LEFT TO UPPER CENTRE TO MIDDLE RIGHT TO LOWER CENTRE",
  "1FBAD BOX DRAWINGS LIGHT DIAGONAL:MIDDLE RIGHT TO UPPER CENTRE TO MIDDLE LEFT TO LOWER CENTRE",
  "1FBAE BOX DRAWINGS LIGHT DIAGONAL:DIAMOND",
  "1FBAF:BOX DRAWINGS LIGHT HORIZONTAL WITH VERTICAL STROKE;1FBB0:ARROWHEAD-SHAPED POINTER",
  "1FBB1:INVERSE CHECK MARK;1FBB2:LEFT HALF RUNNING MAN;1FBB3:RIGHT HALF RUNNING MAN",
  "1FBB4:INVERSE DOWNWARDS ARROW WITH TIP LEFTWARDS",
  "1FBB5:LEFTWARDS ARROW AND UPPER AND LOWER ONE EIGHTH BLOCK",
  "1FBB6:RIGHTWARDS ARROW AND UPPER AND LOWER ONE EIGHTH BLOCK",
  "1FBB7:DOWNWARDS ARROW AND RIGHT ONE EIGHTH BLOCK",
  "1FBB8:UPWARDS ARROW AND RIGHT ONE EIGHTH BLOCK;1FBB9:LEFT HALF FOLDER",
  "1FBBA:RIGHT HALF FOLDER;1FBBB:VOIDED GREEK CROSS;1FBBC:RIGHT OPEN SQUARED DOT",
  "1FBBD NEGATIVE DIAGONAL:CROSS,MIDDLE RIGHT TO LOWER CENTRE,DIAMOND",
  "1FBC0:WHITE HEAVY SALTIRE WITH ROUNDED CORNERS;1FBC1:LEFT THIRD WHITE RIGHT POINTING INDEX",
  "1FBC2:MIDDLE THIRD WHITE RIGHT POINTING INDEX;1FBC3:RIGHT THIRD WHITE RIGHT POINTING INDEX",
  "1FBC4:NEGATIVE SQUARED QUESTION MARK",
  "1FBC5 STICK:FIGURE,FIGURE WITH ARMS RAISED,FIGURE LEANING LEFT,FIGURE LEANING RIGHT",
  "1FBC9 STICK:FIGURE WITH DRESS;1FBCA:WHITE UP-POINTING CHEVRON",
  "1FBF0 SEGMENTED DIGIT:ZERO,ONE,TWO,THREE,FOUR,FIVE,SIX,SEVEN,EIGHT,NINE"]

end SetupScript.Character
