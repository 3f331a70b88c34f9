/-!
# Names of presentation forms

The names of presentation forms, half and full width forms and specials.  A group of
characters begins with the code point of its first one and the words that all its names begin with;
behind a colon stands what is left of the name of each.
-/

namespace SetupScript.Character

/-- The groups of names, in rows. -/
def presentationNames : List String := [
  "FB00 LATIN SMALL LIGATURE:FF,FI,FL,FFI,FFL,LONG S T,ST",
  "FB13 ARMENIAN SMALL LIGATURE:MEN NOW,MEN ECH,MEN INI,VEW NOW,MEN XEH",
  "FB1D HEBREW:LETTER YOD WITH HIRIQ,POINT JUDEO-SPANISH VARIKA,LIGATURE YIDDISH YOD YOD PATAH",
  "FB20 HEBREW:LETTER ALTERNATIVE AYIN,LETTER WIDE ALEF,LETTER WIDE DALET,LETTER WIDE HE",
  "FB24 HEBREW:LETTER WIDE KAF,LETTER WIDE LAMED,LETTER WIDE FINAL MEM,LETTER WIDE RESH",
  "FB28 HEBREW:LETTER WIDE TAV,LETTER ALTERNATIVE PLUS SIGN,LETTER SHIN WITH SHIN DOT",
  "FB2B HEBREW:LETTER SHIN WITH SIN DOT,LETTER SHIN WITH DAGESH AND SHIN DOT",
  "FB2D HEBREW:LETTER SHIN WITH DAGESH AND SIN DOT,LETTER ALEF WITH PATAH",
  "FB2F HEBREW:LETTER ALEF WITH QAMATS,LETTER ALEF WITH MAPIQ,LETTER BET WITH DAGESH",
  "FB32 HEBREW:LETTER GIMEL WITH DAGESH,LETTER DALET WITH DAGESH,LETTER HE WITH MAPIQ",
  "FB35 HEBREW:LETTER VAV WITH DAGESH,LETTER ZAYIN WITH DAGESH",
  "FB38 HEBREW LETTER:TET WITH DAGESH,YOD WITH DAGESH,FINAL KAF WITH DAGESH,KAF WITH DAGESH",
  "FB3C HEBREW LETTER:LAMED WITH DAGESH;FB3E:HEBREW LETTER MEM WITH DAGESH",
  "FB40 HEBREW LETTER:NUN WITH DAGESH,SAMEKH WITH DAGESH",
  "FB43 HEBREW LETTER:FINAL PE WITH DAGESH,PE WITH DAGESH;FB46:HEBREW LETTER TSADI WITH DAGESH",
  "FB47:HEBREW LETTER QOF WITH DAGESH;FB48:HEBREW LETTER RESH WITH DAGESH",
  "FB49:HEBREW LETTER SHIN WITH DAGESH;FB4A:HEBREW LETTER TAV WITH DAGESH",
  "FB4B:HEBREW LETTER VAV WITH HOLAM;FB4C:HEBREW LETTER BET WITH RAFE",
  "FB4D:HEBREW LETTER KAF WITH RAFE;FB4E:HEBREW LETTER PE WITH RAFE",
  "FB4F:HEBREW LIGATURE ALEF LAMED",
  "FB50 ARABIC LETTER:ALEF WASLA ISOLATED FORM,ALEF WASLA FINAL FORM,BEEH ISOLATED FORM",
  "FB53 ARABIC LETTER:BEEH FINAL FORM,BEEH INITIAL FORM,BEEH MEDIAL FORM,PEH ISOLATED FORM",
  "FB57 ARABIC LETTER:PEH FINAL FORM,PEH INITIAL FORM,PEH MEDIAL FORM,BEHEH ISOLATED FORM",
  "FB5B ARABIC LETTER:BEHEH FINAL FORM,BEHEH INITIAL FORM,BEHEH MEDIAL FORM",
  "FB5E ARABIC LETTER:TTEHEH ISOLATED FORM,TTEHEH FINAL FORM,TTEHEH INITIAL FORM",
  "FB61 ARABIC LETTER:TTEHEH MEDIAL FORM,TEHEH ISOLATED FORM,TEHEH FINAL FORM",
  "FB64 ARABIC LETTER:TEHEH INITIAL FORM,TEHEH MEDIAL FORM,TTEH ISOLATED FORM,TTEH FINAL FORM",
  "FB68 ARABIC LETTER:TTEH INITIAL FORM,TTEH MEDIAL FORM,VEH ISOLATED FORM,VEH FINAL FORM",
  "FB6C ARABIC LETTER:VEH INITIAL FORM,VEH MEDIAL FORM,PEHEH ISOLATED FORM,PEHEH FINAL FORM",
  "FB70 ARABIC LETTER:PEHEH INITIAL FORM,PEHEH MEDIAL FORM,DYEH ISOLATED FORM,DYEH FINAL FORM",
  "FB74 ARABIC LETTER:DYEH INITIAL FORM,DYEH MEDIAL FORM,NYEH ISOLATED FORM,NYEH FINAL FORM",
  "FB78 ARABIC LETTER:NYEH INITIAL FORM,NYEH MEDIAL FORM,TCHEH ISOLATED FORM,TCHEH FINAL FORM",
  "FB7C ARABIC LETTER:TCHEH INITIAL FORM,TCHEH MEDIAL FORM,TCHEHEH ISOLATED FORM",
  "FB7F ARABIC LETTER:TCHEHEH FINAL FORM,TCHEHEH INITIAL FORM,TCHEHEH MEDIAL FORM",
  "FB82 ARABIC LETTER:DDAHAL ISOLATED FORM,DDAHAL FINAL FORM,DAHAL ISOLATED FORM",
  "FB85 ARABIC LETTER:DAHAL FINAL FORM,DUL ISOLATED FORM,DUL FINAL FORM,DDAL ISOLATED FORM",
  "FB89 ARABIC LETTER:DDAL FINAL FORM,JEH ISOLATED FORM,JEH FINAL FORM,RREH ISOLATED FORM",
  "FB8D ARABIC LETTER:RREH FINAL FORM,KEHEH ISOLATED FORM,KEHEH FINAL FORM,KEHEH INITIAL FORM",
  "FB91 ARABIC LETTER:KEHEH MEDIAL FORM,GAF ISOLATED FORM,GAF FINAL FORM,GAF INITIAL FORM",
  "FB95 ARABIC LETTER:GAF MEDIAL FORM,GUEH ISOLATED FORM,GUEH FINAL FORM,GUEH INITIAL FORM",
  "FB99 ARABIC LETTER:GUEH MEDIAL FORM,NGOEH ISOLATED FORM,NGOEH FINAL FORM,NGOEH INITIAL FORM",
  "FB9D ARABIC LETTER:NGOEH MEDIAL FORM,NOON GHUNNA ISOLATED FORM,NOON GHUNNA FINAL FORM",
  "FBA0 ARABIC LETTER:RNOON ISOLATED FORM,RNOON FINAL FORM,RNOON INITIAL FORM,RNOON MEDIAL FORM",
  "FBA4 ARABIC LETTER:HEH WITH YEH ABOVE ISOLATED FORM,HEH WITH YEH ABOVE FINAL FORM",
  "FBA6 ARABIC LETTER:HEH GOAL ISOLATED FORM,HEH GOAL FINAL FORM,HEH GOAL INITIAL FORM",
  "FBA9 ARABIC LETTER:HEH GOAL MEDIAL FORM,HEH DOACHASHMEE ISOLATED FORM",
  "FBAB ARABIC LETTER:HEH DOACHASHMEE FINAL FORM,HEH DOACHASHMEE INITIAL FORM",
  "FBAD ARABIC LETTER:HEH DOACHASHMEE MEDIAL FORM,YEH BARREE ISOLATED FORM",
  "FBAF ARABIC LETTER:YEH BARREE FINAL FORM,YEH BARREE WITH HAMZA ABOVE ISOLATED FORM",
  "FBB1 ARABIC LETTER:YEH BARREE WITH HAMZA ABOVE FINAL FORM",
  "FBB2 ARABIC SYMBOL:DOT ABOVE,DOT BELOW,TWO DOTS ABOVE,TWO DOTS BELOW,THREE DOTS ABOVE",
  "FBB7 ARABIC SYMBOL:THREE DOTS BELOW,THREE DOTS POINTING DOWNWARDS ABOVE",
  "FBB9 ARABIC SYMBOL:THREE DOTS POINTING DOWNWARDS BELOW,FOUR DOTS ABOVE,FOUR DOTS BELOW",
  "FBBC ARABIC SYMBOL:DOUBLE VERTICAL BAR BELOW,TWO DOTS VERTICALLY ABOVE",
  "FBBE ARABIC SYMBOL:TWO DOTS VERTICALLY BELOW,RING,SMALL TAH ABOVE,SMALL TAH BELOW",
  "FBC2 ARABIC SYMBOL:WASLA ABOVE",
  "FBD3 ARABIC:LETTER NG ISOLATED FORM,LETTER NG FINAL FORM,LETTER NG INITIAL FORM",
  "FBD6 ARABIC:LETTER NG MEDIAL FORM,LETTER U ISOLATED FORM,LETTER U FINAL FORM",
  "FBD9 ARABIC:LETTER OE ISOLATED FORM,LETTER OE FINAL FORM,LETTER YU ISOLATED FORM",
  "FBDC ARABIC:LETTER YU FINAL FORM,LETTER U WITH HAMZA ABOVE ISOLATED FORM",
  "FBDE ARABIC:LETTER VE ISOLATED FORM,LETTER VE FINAL FORM,LETTER KIRGHIZ OE ISOLATED FORM",
  "FBE1 ARABIC:LETTER KIRGHIZ OE FINAL FORM,LETTER KIRGHIZ YU ISOLATED FORM",
  "FBE3 ARABIC:LETTER KIRGHIZ YU FINAL FORM,LETTER E ISOLATED FORM,LETTER E FINAL FORM",
  "FBE6 ARABIC:LETTER E INITIAL FORM,LETTER E MEDIAL FORM",
  "FBE8 ARABIC:LETTER UIGHUR KAZAKH KIRGHIZ ALEF MAKSURA INITIAL FORM",
  "FBE9 ARABIC:LETTER UIGHUR KAZAKH KIRGHIZ ALEF MAKSURA MEDIAL FORM",
  "FBEA ARABIC:LIGATURE YEH WITH HAMZA ABOVE WITH ALEF ISOLATED FORM",
  "FBEB ARABIC:LIGATURE YEH WITH HAMZA ABOVE WITH ALEF FINAL FORM",
  "FBEC ARABIC:LIGATURE YEH WITH HAMZA ABOVE WITH AE ISOLATED FORM",
  "FBED ARABIC:LIGATURE YEH WITH HAMZA ABOVE WITH AE FINAL FORM",
  "FBEE ARABIC:LIGATURE YEH WITH HAMZA ABOVE WITH WAW ISOLATED FORM",
  "FBEF ARABIC:LIGATURE YEH WITH HAMZA ABOVE WITH WAW FINAL FORM",
  "FBF0 ARABIC:LIGATURE YEH WITH HAMZA ABOVE WITH U ISOLATED FORM",
  "FBF1 ARABIC:LIGATURE YEH WITH HAMZA ABOVE WITH U FINAL FORM",
  "FBF2 ARABIC:LIGATURE YEH WITH HAMZA ABOVE WITH OE ISOLATED FORM",
  "FBF3 ARABIC:LIGATURE YEH WITH HAMZA ABOVE WITH OE FINAL FORM",
  "FBF4 ARABIC:LIGATURE YEH WITH HAMZA ABOVE WITH YU ISOLATED FORM",
  "FBF5 ARABIC:LIGATURE YEH WITH HAMZA ABOVE WITH YU FINAL FORM",
  "FBF6 ARABIC:LIGATURE YEH WITH HAMZA ABOVE WITH E ISOLATED FORM",
  "FBF7 ARABIC:LIGATURE YEH WITH HAMZA ABOVE WITH E FINAL FORM",
  "FBF8 ARABIC:LIGATURE YEH WITH HAMZA ABOVE WITH E INITIAL FORM",
  "FBF9 ARABIC:LIGATURE UIGHUR KIRGHIZ YEH WITH HAMZA ABOVE WITH ALEF MAKSURA ISOLATED FORM",
  "FBFA ARABIC:LIGATURE UIGHUR KIRGHIZ YEH WITH HAMZA ABOVE WITH ALEF MAKSURA FINAL FORM",
  "FBFB ARABIC:LIGATURE UIGHUR KIRGHIZ YEH WITH HAMZA ABOVE WITH ALEF MAKSURA INITIAL FORM",
  "FBFC ARABIC:LETTER FARSI YEH ISOLATED FORM,LETTER FARSI YEH FINAL FORM",
  "FBFE ARABIC:LETTER FARSI YEH INITIAL FORM,LETTER FARSI YEH MEDIAL FORM",
  "FC00 ARABIC:LIGATURE YEH WITH HAMZA ABOVE WITH JEEM ISOLATED FORM",
  "FC01 ARABIC:LIGATURE YEH WITH HAMZA ABOVE WITH HAH ISOLATED FORM",
  "FC02 ARABIC:LIGATURE YEH WITH HAMZA ABOVE WITH MEEM ISOLATED FORM",
  "FC03 ARABIC:LIGATURE YEH WITH HAMZA ABOVE WITH ALEF MAKSURA ISOLATED FORM",
  "FC04 ARABIC:LIGATURE YEH WITH HAMZA ABOVE WITH YEH ISOLATED FORM",
  "FC05 ARABIC:LIGATURE BEH WITH JEEM ISOLATED FORM,LIGATURE BEH WITH HAH ISOLATED FORM",
  "FC07 ARABIC:LIGATURE BEH WITH KHAH ISOLATED FORM,LIGATURE BEH WITH MEEM ISOLATED FORM",
  "FC09 ARABIC:LIGATURE BEH WITH ALEF MAKSURA ISOLATED FORM,LIGATURE BEH WITH YEH ISOLATED FORM",
  "FC0B ARABIC:LIGATURE TEH WITH JEEM ISOLATED FORM,LIGATURE TEH WITH HAH ISOLATED FORM",
  "FC0D ARABIC:LIGATURE TEH WITH KHAH ISOLATED FORM,LIGATURE TEH WITH MEEM ISOLATED FORM",
  "FC0F ARABIC:LIGATURE TEH WITH ALEF MAKSURA ISOLATED FORM,LIGATURE TEH WITH YEH ISOLATED FORM",
  "FC11 ARABIC:LIGATURE THEH WITH JEEM ISOLATED FORM,LIGATURE THEH WITH MEEM ISOLATED FORM",
  "FC13 ARABIC:LIGATURE THEH WITH ALEF MAKSURA ISOLATED FORM",
  "FC14 ARABIC:LIGATURE THEH WITH YEH ISOLATED FORM,LIGATURE JEEM WITH HAH ISOLATED FORM",
  "FC16 ARABIC:LIGATURE JEEM WITH MEEM ISOLATED FORM,LIGATURE HAH WITH JEEM ISOLATED FORM",
  "FC18 ARABIC:LIGATURE HAH WITH MEEM ISOLATED FORM,LIGATURE KHAH WITH JEEM ISOLATED FORM",
  "FC1A ARABIC:LIGATURE KHAH WITH HAH ISOLATED FORM,LIGATURE KHAH WITH MEEM ISOLATED FORM",
  "FC1C ARABIC:LIGATURE SEEN WITH JEEM ISOLATED FORM,LIGATURE SEEN WITH HAH ISOLATED FORM",
  "FC1E ARABIC:LIGATURE SEEN WITH KHAH ISOLATED FORM,LIGATURE SEEN WITH MEEM ISOLATED FORM",
  "FC20 ARABIC:LIGATURE SAD WITH HAH ISOLATED FORM,LIGATURE SAD WITH MEEM ISOLATED FORM",
  "FC22 ARABIC:LIGATURE DAD WITH JEEM ISOLATED FORM,LIGATURE DAD WITH HAH ISOLATED FORM",
  "FC24 ARABIC:LIGATURE DAD WITH KHAH ISOLATED FORM,LIGATURE DAD WITH MEEM ISOLATED FORM",
  "FC26 ARABIC:LIGATURE TAH WITH HAH ISOLATED FORM,LIGATURE TAH WITH MEEM ISOLATED FORM",
  "FC28 ARABIC:LIGATURE ZAH WITH MEEM ISOLATED FORM,LIGATURE AIN WITH JEEM ISOLATED FORM",
  "FC2A ARABIC:LIGATURE AIN WITH MEEM ISOLATED FORM,LIGATURE GHAIN WITH JEEM ISOLATED FORM",
  "FC2C ARABIC:LIGATURE GHAIN WITH MEEM ISOLATED FORM,LIGATURE FEH WITH JEEM ISOLATED FORM",
  "FC2E ARABIC:LIGATURE FEH WITH HAH ISOLATED FORM,LIGATURE FEH WITH KHAH ISOLATED FORM",
  "FC30 ARABIC:LIGATURE FEH WITH MEEM ISOLATED FORM",
  "FC31 ARABIC:LIGATURE FEH WITH ALEF MAKSURA ISOLATED FORM,LIGATURE FEH WITH YEH ISOLATED FORM",
  "FC33 ARABIC:LIGATURE QAF WITH HAH ISOLATED FORM,LIGATURE QAF WITH MEEM ISOLATED FORM",
  "FC35 ARABIC:LIGATURE QAF WITH ALEF MAKSURA ISOLATED FORM,LIGATURE QAF WITH YEH ISOLATED FORM",
  "FC37 ARABIC:LIGATURE KAF WITH ALEF ISOLATED FORM,LIGATURE KAF WITH JEEM ISOLATED FORM",
  "FC39 ARABIC:LIGATURE KAF WITH HAH ISOLATED FORM,LIGATURE KAF WITH KHAH ISOLATED FORM",
  "FC3B ARABIC:LIGATURE KAF WITH LAM ISOLATED FORM,LIGATURE KAF WITH MEEM ISOLATED FORM",
  "FC3D ARABIC:LIGATURE KAF WITH ALEF MAKSURA ISOLATED FORM,LIGATURE KAF WITH YEH ISOLATED FORM",
  "FC3F ARABIC:LIGATURE LAM WITH JEEM ISOLATED FORM,LIGATURE LAM WITH HAH ISOLATED FORM",
  "FC41 ARABIC:LIGATURE LAM WITH KHAH ISOLATED FORM,LIGATURE LAM WITH MEEM ISOLATED FORM",
  "FC43 ARABIC:LIGATURE LAM WITH ALEF MAKSURA ISOLATED FORM,LIGATURE LAM WITH YEH ISOLATED FORM",
  "FC45 ARABIC:LIGATURE MEEM WITH JEEM ISOLATED FORM,LIGATURE MEEM WITH HAH ISOLATED FORM",
  "FC47 ARABIC:LIGATURE MEEM WITH KHAH ISOLATED FORM,LIGATURE MEEM WITH MEEM ISOLATED FORM",
  "FC49 ARABIC:LIGATURE MEEM WITH ALEF MAKSURA ISOLATED FORM",
  "FC4A ARABIC:LIGATURE MEEM WITH YEH ISOLATED FORM,LIGATURE NOON WITH JEEM ISOLATED FORM",
  "FC4C ARABIC:LIGATURE NOON WITH HAH ISOLATED FORM,LIGATURE NOON WITH KHAH ISOLATED FORM",
  "FC4E ARABIC:LIGATURE NOON WITH MEEM ISOLATED FORM",
  "FC4F ARABIC:LIGATURE NOON WITH ALEF MAKSURA ISOLATED FORM",
  "FC50 ARABIC:LIGATURE NOON WITH YEH ISOLATED FORM,LIGATURE HEH WITH JEEM ISOLATED FORM",
  "FC52 ARABIC:LIGATURE HEH WITH MEEM ISOLATED FORM",
  "FC53 ARABIC:LIGATURE HEH WITH ALEF MAKSURA ISOLATED FORM,LIGATURE HEH WITH YEH ISOLATED FORM",
  "FC55 ARABIC:LIGATURE YEH WITH JEEM ISOLATED FORM,LIGATURE YEH WITH HAH ISOLATED FORM",
  "FC57 ARABIC:LIGATURE YEH WITH KHAH ISOLATED FORM,LIGATURE YEH WITH MEEM ISOLATED FORM",
  "FC59 ARABIC:LIGATURE YEH WITH ALEF MAKSURA ISOLATED FORM,LIGATURE YEH WITH YEH ISOLATED FORM",
  "FC5B ARABIC:LIGATURE THAL WITH SUPERSCRIPT ALEF ISOLATED FORM",
  "FC5C ARABIC:LIGATURE REH WITH SUPERSCRIPT ALEF ISOLATED FORM",
  "FC5D ARABIC:LIGATURE ALEF MAKSURA WITH SUPERSCRIPT ALEF ISOLATED FORM",
  "FC5E ARABIC:LIGATURE SHADDA WITH DAMMATAN ISOLATED FORM",
  "FC5F ARABIC:LIGATURE SHADDA WITH KASRATAN ISOLATED FORM",
  "FC60 ARABIC:LIGATURE SHADDA WITH FATHA ISOLATED FORM",
  "FC61 ARABIC:LIGATURE SHADDA WITH DAMMA ISOLATED FORM",
  "FC62 ARABIC:LIGATURE SHADDA WITH KASRA ISOLATED FORM",
  "FC63 ARABIC:LIGATURE SHADDA WITH SUPERSCRIPT ALEF ISOLATED FORM",
  "FC64 ARABIC:LIGATURE YEH WITH HAMZA ABOVE WITH REH FINAL FORM",
  "FC65 ARABIC:LIGATURE YEH WITH HAMZA ABOVE WITH ZAIN FINAL FORM",
  "FC66 ARABIC:LIGATURE YEH WITH HAMZA ABOVE WITH MEEM FINAL FORM",
  "FC67 ARABIC:LIGATURE YEH WITH HAMZA ABOVE WITH NOON FINAL FORM",
  "FC68 ARABIC:LIGATURE YEH WITH HAMZA ABOVE WITH ALEF MAKSURA FINAL FORM",
  "FC69 ARABIC:LIGATURE YEH WITH HAMZA ABOVE WITH YEH FINAL FORM",
  "FC6A ARABIC:LIGATURE BEH WITH REH FINAL FORM,LIGATURE BEH WITH ZAIN FINAL FORM",
  "FC6C ARABIC:LIGATURE BEH WITH MEEM FINAL FORM,LIGATURE BEH WITH NOON FINAL FORM",
  "FC6E ARABIC:LIGATURE BEH WITH ALEF MAKSURA FINAL FORM,LIGATURE BEH WITH YEH FINAL FORM",
  "FC70 ARABIC:LIGATURE TEH WITH REH FINAL FORM,LIGATURE TEH WITH ZAIN FINAL FORM",
  "FC72 ARABIC:LIGATURE TEH WITH MEEM FINAL FORM,LIGATURE TEH WITH NOON FINAL FORM",
  "FC74 ARABIC:LIGATURE TEH WITH ALEF MAKSURA FINAL FORM,LIGATURE TEH WITH YEH FINAL FORM",
  "FC76 ARABIC:LIGATURE THEH WITH REH FINAL FORM,LIGATURE THEH WITH ZAIN FINAL FORM",
  "FC78 ARABIC:LIGATURE THEH WITH MEEM FINAL FORM,LIGATURE THEH WITH NOON FINAL FORM",
  "FC7A ARABIC:LIGATURE THEH WITH ALEF MAKSURA FINAL FORM,LIGATURE THEH WITH YEH FINAL FORM",
  "FC7C ARABIC:LIGATURE FEH WITH ALEF MAKSURA FINAL FORM,LIGATURE FEH WITH YEH FINAL FORM",
  "FC7E ARABIC:LIGATURE QAF WITH ALEF MAKSURA FINAL FORM,LIGATURE QAF WITH YEH FINAL FORM",
  "FC80 ARABIC:LIGATURE KAF WITH ALEF FINAL FORM,LIGATURE KAF WITH LAM FINAL FORM",
  "FC82 ARABIC:LIGATURE KAF WITH MEEM FINAL FORM,LIGATURE KAF WITH ALEF MAKSURA FINAL FORM",
  "FC84 ARABIC:LIGATURE KAF WITH YEH FINAL FORM,LIGATURE LAM WITH MEEM FINAL FORM",
  "FC86 ARABIC:LIGATURE LAM WITH ALEF MAKSURA FINAL FORM,LIGATURE LAM WITH YEH FINAL FORM",
  "FC88 ARABIC:LIGATURE MEEM WITH ALEF FINAL FORM,LIGATURE MEEM WITH MEEM FINAL FORM",
  "FC8A ARABIC:LIGATURE NOON WITH REH FINAL FORM,LIGATURE NOON WITH ZAIN FINAL FORM",
  "FC8C ARABIC:LIGATURE NOON WITH MEEM FINAL FORM,LIGATURE NOON WITH NOON FINAL FORM",
  "FC8E ARABIC:LIGATURE NOON WITH ALEF MAKSURA FINAL FORM,LIGATURE NOON WITH YEH FINAL FORM",
  "FC90 ARABIC:LIGATURE ALEF MAKSURA WITH SUPERSCRIPT ALEF FINAL FORM",
  "FC91 ARABIC:LIGATURE YEH WITH REH FINAL FORM,LIGATURE YEH WITH ZAIN FINAL FORM",
  "FC93 ARABIC:LIGATURE YEH WITH MEEM FINAL FORM,LIGATURE YEH WITH NOON FINAL FORM",
  "FC95 ARABIC:LIGATURE YEH WITH ALEF MAKSURA FINAL FORM,LIGATURE YEH WITH YEH FINAL FORM",
  "FC97 ARABIC:LIGATURE YEH WITH HAMZA ABOVE WITH JEEM INITIAL FORM",
  "FC98 ARABIC:LIGATURE YEH WITH HAMZA ABOVE WITH HAH INITIAL FORM",
  "FC99 ARABIC:LIGATURE YEH WITH HAMZA ABOVE WITH KHAH INITIAL FORM",
  "FC9A ARABIC:LIGATURE YEH WITH HAMZA ABOVE WITH MEEM INITIAL FORM",
  "FC9B ARABIC:LIGATURE YEH WITH HAMZA ABOVE WITH HEH INITIAL FORM",
  "FC9C ARABIC:LIGATURE BEH WITH JEEM INITIAL FORM,LIGATURE BEH WITH HAH INITIAL FORM",
  "FC9E ARABIC:LIGATURE BEH WITH KHAH INITIAL FORM,LIGATURE BEH WITH MEEM INITIAL FORM",
  "FCA0 ARABIC:LIGATURE BEH WITH HEH INITIAL FORM,LIGATURE TEH WITH JEEM INITIAL FORM",
  "FCA2 ARABIC:LIGATURE TEH WITH HAH INITIAL FORM,LIGATURE TEH WITH KHAH INITIAL FORM",
  "FCA4 ARABIC:LIGATURE TEH WITH MEEM INITIAL FORM,LIGATURE TEH WITH HEH INITIAL FORM",
  "FCA6 ARABIC:LIGATURE THEH WITH MEEM INITIAL FORM,LIGATURE JEEM WITH HAH INITIAL FORM",
  "FCA8 ARABIC:LIGATURE JEEM WITH MEEM INITIAL FORM,LIGATURE HAH WITH JEEM INITIAL FORM",
  "FCAA ARABIC:LIGATURE HAH WITH MEEM INITIAL FORM,LIGATURE KHAH WITH JEEM INITIAL FORM",
  "FCAC ARABIC:LIGATURE KHAH WITH MEEM INITIAL FORM,LIGATURE SEEN WITH JEEM INITIAL FORM",
  "FCAE ARABIC:LIGATURE SEEN WITH HAH INITIAL FORM,LIGATURE SEEN WITH KHAH INITIAL FORM",
  "FCB0 ARABIC:LIGATURE SEEN WITH MEEM INITIAL FORM,LIGATURE SAD WITH HAH INITIAL FORM",
  "FCB2 ARABIC:LIGATURE SAD WITH KHAH INITIAL FORM,LIGATURE SAD WITH MEEM INITIAL FORM",
  "FCB4 ARABIC:LIGATURE DAD WITH JEEM INITIAL FORM,LIGATURE DAD WITH HAH INITIAL FORM",
  "FCB6 ARABIC:LIGATURE DAD WITH KHAH INITIAL FORM,LIGATURE DAD WITH MEEM INITIAL FORM",
  "FCB8 ARABIC:LIGATURE TAH WITH HAH INITIAL FORM,LIGATURE ZAH WITH MEEM INITIAL FORM",
  "FCBA ARABIC:LIGATURE AIN WITH JEEM INITIAL FORM,LIGATURE AIN WITH MEEM INITIAL FORM",
  "FCBC ARABIC:LIGATURE GHAIN WITH JEEM INITIAL FORM,LIGATURE GHAIN WITH MEEM INITIAL FORM",
  "FCBE ARABIC:LIGATURE FEH WITH JEEM INITIAL FORM,LIGATURE FEH WITH HAH INITIAL FORM",
  "FCC0 ARABIC:LIGATURE FEH WITH KHAH INITIAL FORM,LIGATURE FEH WITH MEEM INITIAL FORM",
  "FCC2 ARABIC:LIGATURE QAF WITH HAH INITIAL FORM,LIGATURE QAF WITH MEEM INITIAL FORM",
  "FCC4 ARABIC:LIGATURE KAF WITH JEEM INITIAL FORM,LIGATURE KAF WITH HAH INITIAL FORM",
  "FCC6 ARABIC:LIGATURE KAF WITH KHAH INITIAL FORM,LIGATURE KAF WITH LAM INITIAL FORM",
  "FCC8 ARABIC:LIGATURE KAF WITH MEEM INITIAL FORM,LIGATURE LAM WITH JEEM INITIAL FORM",
  "FCCA ARABIC:LIGATURE LAM WITH HAH INITIAL FORM,LIGATURE LAM WITH KHAH INITIAL FORM",
  "FCCC ARABIC:LIGATURE LAM WITH MEEM INITIAL FORM,LIGATURE LAM WITH HEH INITIAL FORM",
  "FCCE ARABIC:LIGATURE MEEM WITH JEEM INITIAL FORM,LIGATURE MEEM WITH HAH INITIAL FORM",
  "FCD0 ARABIC:LIGATURE MEEM WITH KHAH INITIAL FORM,LIGATURE MEEM WITH MEEM INITIAL FORM",
  "FCD2 ARABIC:LIGATURE NOON WITH JEEM INITIAL FORM,LIGATURE NOON WITH HAH INITIAL FORM",
  "FCD4 ARABIC:LIGATURE NOON WITH KHAH INITIAL FORM,LIGATURE NOON WITH MEEM INITIAL FORM",
  "FCD6 ARABIC:LIGATURE NOON WITH HEH INITIAL FORM,LIGATURE HEH WITH JEEM INITIAL FORM",
  "FCD8 ARABIC:LIGATURE HEH WITH MEEM INITIAL FORM",
  "FCD9 ARABIC:LIGATURE HEH WITH SUPERSCRIPT ALEF INITIAL FORM",
  "FCDA ARABIC:LIGATURE YEH WITH JEEM INITIAL FORM,LIGATURE YEH WITH HAH INITIAL FORM",
  "FCDC ARABIC:LIGATURE YEH WITH KHAH INITIAL FORM,LIGATURE YEH WITH MEEM INITIAL FORM",
  "FCDE ARABIC:LIGATURE YEH WITH HEH INITIAL FORM",
  "FCDF ARABIC:LIGATURE YEH WITH HAMZA ABOVE WITH MEEM MEDIAL FORM",
  "FCE0 ARABIC:LIGATURE YEH WITH HAMZA ABOVE WITH HEH MEDIAL FORM",
  "FCE1 ARABIC:LIGATURE BEH WITH MEEM MEDIAL FORM,LIGATURE BEH WITH HEH MEDIAL FORM",
  "FCE3 ARABIC:LIGATURE TEH WITH MEEM MEDIAL FORM,LIGATURE TEH WITH HEH MEDIAL FORM",
  "FCE5 ARABIC:LIGATURE THEH WITH MEEM MEDIAL FORM,LIGATURE THEH WITH HEH MEDIAL FORM",
  "FCE7 ARABIC:LIGATURE SEEN WITH MEEM MEDIAL FORM,LIGATURE SEEN WITH HEH MEDIAL FORM",
  "FCE9 ARABIC:LIGATURE SHEEN WITH MEEM MEDIAL FORM,LIGATURE SHEEN WITH HEH MEDIAL FORM",
  "FCEB ARABIC:LIGATURE KAF WITH LAM MEDIAL FORM,LIGATURE KAF WITH MEEM MEDIAL FORM",
  "FCED ARABIC:LIGATURE LAM WITH MEEM MEDIAL FORM,LIGATURE NOON WITH MEEM MEDIAL FORM",
  "FCEF ARABIC:LIGATURE NOON WITH HEH MEDIAL FORM,LIGATURE YEH WITH MEEM MEDIAL FORM",
  "FCF1 ARABIC:LIGATURE YEH WITH HEH MEDIAL FORM,LIGATURE SHADDA WITH FATHA MEDIAL FORM",
  "FCF3 ARABIC:LIGATURE SHADDA WITH DAMMA MEDIAL FORM,LIGATURE SHADDA WITH KASRA MEDIAL FORM",
  "FCF5 ARABIC:LIGATURE TAH WITH ALEF MAKSURA ISOLATED FORM,LIGATURE TAH WITH YEH ISOLATED FORM",
  "FCF7 ARABIC:LIGATURE AIN WITH ALEF MAKSURA ISOLATED FORM,LIGATURE AIN WITH YEH ISOLATED FORM",
  "FCF9 ARABIC:LIGATURE GHAIN WITH ALEF MAKSURA ISOLATED FORM",
  "FCFA ARABIC:LIGATURE GHAIN WITH YEH ISOLATED FORM",
  "FCFB ARABIC:LIGATURE SEEN WITH ALEF MAKSURA ISOLATED FORM",
  "FCFC ARABIC:LIGATURE SEEN WITH YEH ISOLATED FORM",
  "FCFD ARABIC:LIGATURE SHEEN WITH ALEF MAKSURA ISOLATED FORM",
  "FCFE ARABIC:LIGATURE SHEEN WITH YEH ISOLATED FORM",
  "FCFF ARABIC:LIGATURE HAH WITH ALEF MAKSURA ISOLATED FORM,LIGATURE HAH WITH YEH ISOLATED FORM",
  "FD01 ARABIC:LIGATURE JEEM WITH ALEF MAKSURA ISOLATED FORM",
  "FD02 ARABIC:LIGATURE JEEM WITH YEH ISOLATED FORM",
  "FD03 ARABIC:LIGATURE KHAH WITH ALEF MAKSURA ISOLATED FORM",
  "FD04 ARABIC:LIGATURE KHAH WITH YEH ISOLATED FORM",
  "FD05 ARABIC:LIGATURE SAD WITH ALEF MAKSURA ISOLATED FORM,LIGATURE SAD WITH YEH ISOLATED FORM",
  "FD07 ARABIC:LIGATURE DAD WITH ALEF MAKSURA ISOLATED FORM,LIGATURE DAD WITH YEH ISOLATED FORM",
  "FD09 ARABIC:LIGATURE SHEEN WITH JEEM ISOLATED FORM,LIGATURE SHEEN WITH HAH ISOLATED FORM",
  "FD0B ARABIC:LIGATURE SHEEN WITH KHAH ISOLATED FORM,LIGATURE SHEEN WITH MEEM ISOLATED FORM",
  "FD0D ARABIC:LIGATURE SHEEN WITH REH ISOLATED FORM,LIGATURE SEEN WITH REH ISOLATED FORM",
  "FD0F ARABIC:LIGATURE SAD WITH REH ISOLATED FORM,LIGATURE DAD WITH REH ISOLATED FORM",
  "FD11 ARABIC:LIGATURE TAH WITH ALEF MAKSURA FINAL FORM,LIGATURE TAH WITH YEH FINAL FORM",
  "FD13 ARABIC:LIGATURE AIN WITH ALEF MAKSURA FINAL FORM,LIGATURE AIN WITH YEH FINAL FORM",
  "FD15 ARABIC:LIGATURE GHAIN WITH ALEF MAKSURA FINAL FORM,LIGATURE GHAIN WITH YEH FINAL FORM",
  "FD17 ARABIC:LIGATURE SEEN WITH ALEF MAKSURA FINAL FORM,LIGATURE SEEN WITH YEH FINAL FORM",
  "FD19 ARABIC:LIGATURE SHEEN WITH ALEF MAKSURA FINAL FORM,LIGATURE SHEEN WITH YEH FINAL FORM",
  "FD1B ARABIC:LIGATURE HAH WITH ALEF MAKSURA FINAL FORM,LIGATURE HAH WITH YEH FINAL FORM",
  "FD1D ARABIC:LIGATURE JEEM WITH ALEF MAKSURA FINAL FORM,LIGATURE JEEM WITH YEH FINAL FORM",
  "FD1F ARABIC:LIGATURE KHAH WITH ALEF MAKSURA FINAL FORM,LIGATURE KHAH WITH YEH FINAL FORM",
  "FD21 ARABIC:LIGATURE SAD WITH ALEF MAKSURA FINAL FORM,LIGATURE SAD WITH YEH FINAL FORM",
  "FD23 ARABIC:LIGATURE DAD WITH ALEF MAKSURA FINAL FORM,LIGATURE DAD WITH YEH FINAL FORM",
  "FD25 ARABIC:LIGATURE SHEEN WITH JEEM FINAL FORM,LIGATURE SHEEN WITH HAH FINAL FORM",
  "FD27 ARABIC:LIGATURE SHEEN WITH KHAH FINAL FORM,LIGATURE SHEEN WITH MEEM FINAL FORM",
  "FD29 ARABIC:LIGATURE SHEEN WITH REH FINAL FORM,LIGATURE SEEN WITH REH FINAL FORM",
  "FD2B ARABIC:LIGATURE SAD WITH REH FINAL FORM,LIGATURE DAD WITH REH FINAL FORM",
  "FD2D ARABIC:LIGATURE SHEEN WITH JEEM INITIAL FORM,LIGATURE SHEEN WITH HAH INITIAL FORM",
  "FD2F ARABIC:LIGATURE SHEEN WITH KHAH INITIAL FORM,LIGATURE SHEEN WITH MEEM INITIAL FORM",
  "FD31 ARABIC:LIGATURE SEEN WITH HEH INITIAL FORM,LIGATURE SHEEN WITH HEH INITIAL FORM",
  "FD33 ARABIC:LIGATURE TAH WITH MEEM INITIAL FORM,LIGATURE SEEN WITH JEEM MEDIAL FORM",
  "FD35 ARABIC:LIGATURE SEEN WITH HAH MEDIAL FORM,LIGATURE SEEN WITH KHAH MEDIAL FORM",
  "FD37 ARABIC:LIGATURE SHEEN WITH JEEM MEDIAL FORM,LIGATURE SHEEN WITH HAH MEDIAL FORM",
  "FD39 ARABIC:LIGATURE SHEEN WITH KHAH MEDIAL FORM,LIGATURE TAH WITH MEEM MEDIAL FORM",
  "FD3B ARABIC:LIGATURE ZAH WITH MEEM MEDIAL FORM,LIGATURE ALEF WITH FATHATAN FINAL FORM",
  "FD3D ARABIC:LIGATURE ALEF WITH FATHATAN ISOLATED FORM;FD3E:ORNATE LEFT PARENTHESIS",
  "FD3F:ORNATE RIGHT PARENTHESIS",
  "FD40 ARABIC LIGATURE:RAHIMAHU ALLAAH,RADI ALLAAHU ANH,RADI ALLAAHU ANHAA,RADI ALLAAHU ANHUM",
  "FD44 ARABIC LIGATURE:RADI ALLAAHU ANHUMAA,RADI ALLAAHU ANHUNNA,SALLALLAAHU ALAYHI WA-AALIH",
  "FD47 ARABIC LIGATURE:ALAYHI AS-SALAAM,ALAYHIM AS-SALAAM,ALAYHIMAA AS-SALAAM",
  "FD4A ARABIC LIGATURE:ALAYHI AS-SALAATU WAS-SALAAM,QUDDISA SIRRAH",
  "FD4C ARABIC LIGATURE:SALLALLAHU ALAYHI WAAALIHEE WA-SALLAM,ALAYHAA AS-SALAAM",
  "FD4E ARABIC LIGATURE:TABAARAKA WA-TAAALAA,RAHIMAHUM ALLAAH",
  "FD50 ARABIC LIGATURE:TEH WITH JEEM WITH MEEM INITIAL FORM,TEH WITH HAH WITH JEEM FINAL FORM",
  "FD52 ARABIC LIGATURE:TEH WITH HAH WITH JEEM INITIAL FORM,TEH WITH HAH WITH MEEM INITIAL FORM",
  "FD54 ARABIC LIGATURE:TEH WITH KHAH WITH MEEM INITIAL FORM",
  "FD55 ARABIC LIGATURE:TEH WITH MEEM WITH JEEM INITIAL FORM",
  "FD56 ARABIC LIGATURE:TEH WITH MEEM WITH HAH INITIAL FORM",
  "FD57 ARABIC LIGATURE:TEH WITH MEEM WITH KHAH INITIAL FORM,JEEM WITH MEEM WITH HAH FINAL FORM",
  "FD59 ARABIC LIGATURE:JEEM WITH MEEM WITH HAH INITIAL FORM,HAH WITH MEEM WITH YEH FINAL FORM",
  "FD5B ARABIC LIGATURE:HAH WITH MEEM WITH ALEF MAKSURA FINAL FORM",
  "FD5C ARABIC LIGATURE:SEEN WITH HAH WITH JEEM INITIAL FORM",
  "FD5D ARABIC LIGATURE:SEEN WITH JEEM WITH HAH INITIAL FORM",
  "FD5E ARABIC LIGATURE:SEEN WITH JEEM WITH ALEF MAKSURA FINAL FORM",
  "FD5F ARABIC LIGATURE:SEEN WITH MEEM WITH HAH FINAL FORM,SEEN WITH MEEM WITH HAH INITIAL FORM",
  "FD61 ARABIC LIGATURE:SEEN WITH MEEM WITH JEEM INITIAL FORM",
  "FD62 ARABIC LIGATURE:SEEN WITH MEEM WITH MEEM FINAL FORM",
  "FD63 ARABIC LIGATURE:SEEN WITH MEEM WITH MEEM INITIAL FORM,SAD WITH HAH WITH HAH FINAL FORM",
  "FD65 ARABIC LIGATURE:SAD WITH HAH WITH HAH INITIAL FORM,SAD WITH MEEM WITH MEEM FINAL FORM",
  "FD67 ARABIC LIGATURE:SHEEN WITH HAH WITH MEEM FINAL FORM",
  "FD68 ARABIC LIGATURE:SHEEN WITH HAH WITH MEEM INITIAL FORM",
  "FD69 ARABIC LIGATURE:SHEEN WITH JEEM WITH YEH FINAL FORM",
  "FD6A ARABIC LIGATURE:SHEEN WITH MEEM WITH KHAH FINAL FORM",
  "FD6B ARABIC LIGATURE:SHEEN WITH MEEM WITH KHAH INITIAL FORM",
  "FD6C ARABIC LIGATURE:SHEEN WITH MEEM WITH MEEM FINAL FORM",
  "FD6D ARABIC LIGATURE:SHEEN WITH MEEM WITH MEEM INITIAL FORM",
  "FD6E ARABIC LIGATURE:DAD WITH HAH WITH ALEF MAKSURA FINAL FORM",
  "FD6F ARABIC LIGATURE:DAD WITH KHAH WITH MEEM FINAL FORM,DAD WITH KHAH WITH MEEM INITIAL FORM",
  "FD71 ARABIC LIGATURE:TAH WITH MEEM WITH HAH FINAL FORM,TAH WITH MEEM WITH HAH INITIAL FORM",
  "FD73 ARABIC LIGATURE:TAH WITH MEEM WITH MEEM INITIAL FORM,TAH WITH MEEM WITH YEH FINAL FORM",
  "FD75 ARABIC LIGATURE:AIN WITH JEEM WITH MEEM FINAL FORM,AIN WITH MEEM WITH MEEM FINAL FORM",
  "FD77 ARABIC LIGATURE:AIN WITH MEEM WITH MEEM INITIAL FORM",
  "FD78 ARABIC LIGATURE:AIN WITH MEEM WITH ALEF MAKSURA FINAL FORM",
  "FD79 ARABIC LIGATURE:GHAIN WITH MEEM WITH MEEM FINAL FORM",
  "FD7A ARABIC LIGATURE:GHAIN WITH MEEM WITH YEH FINAL FORM",
  "FD7B ARABIC LIGATURE:GHAIN WITH MEEM WITH ALEF MAKSURA FINAL FORM",
  "FD7C ARABIC LIGATURE:FEH WITH KHAH WITH MEEM FINAL FORM,FEH WITH KHAH WITH MEEM INITIAL FORM",
  "FD7E ARABIC LIGATURE:QAF WITH MEEM WITH HAH FINAL FORM,QAF WITH MEEM WITH MEEM FINAL FORM",
  "FD80 ARABIC LIGATURE:LAM WITH HAH WITH MEEM FINAL FORM,LAM WITH HAH WITH YEH FINAL FORM",
  "FD82 ARABIC LIGATURE:LAM WITH HAH WITH ALEF MAKSURA FINAL FORM",
  "FD83 ARABIC LIGATURE:LAM WITH JEEM WITH JEEM INITIAL FORM,LAM WITH JEEM WITH JEEM FINAL FORM",
  "FD85 ARABIC LIGATURE:LAM WITH KHAH WITH MEEM FINAL FORM,LAM WITH KHAH WITH MEEM INITIAL FORM",
  "FD87 ARABIC LIGATURE:LAM WITH MEEM WITH HAH FINAL FORM,LAM WITH MEEM WITH HAH INITIAL FORM",
  "FD89 ARABIC LIGATURE:MEEM WITH HAH WITH JEEM INITIAL FORM",
  "FD8A ARABIC LIGATURE:MEEM WITH HAH WITH MEEM INITIAL FORM,MEEM WITH HAH WITH YEH FINAL FORM",
  "FD8C ARABIC LIGATURE:MEEM WITH JEEM WITH HAH INITIAL FORM",
  "FD8D ARABIC LIGATURE:MEEM WITH JEEM WITH MEEM INITIAL FORM",
  "FD8E ARABIC LIGATURE:MEEM WITH KHAH WITH JEEM INITIAL FORM",
  "FD8F ARABIC LIGATURE:MEEM WITH KHAH WITH MEEM INITIAL FORM",
  "FD92 ARABIC LIGATURE:MEEM WITH JEEM WITH KHAH INITIAL FORM",
  "FD93 ARABIC LIGATURE:HEH WITH MEEM WITH JEEM INITIAL FORM",
  "FD94 ARABIC LIGATURE:HEH WITH MEEM WITH MEEM INITIAL FORM",
  "FD95 ARABIC LIGATURE:NOON WITH HAH WITH MEEM INITIAL FORM",
  "FD96 ARABIC LIGATURE:NOON WITH HAH WITH ALEF MAKSURA FINAL FORM",
  "FD97 ARABIC LIGATURE:NOON WITH JEEM WITH MEEM FINAL FORM",
  "FD98 ARABIC LIGATURE:NOON WITH JEEM WITH MEEM INITIAL FORM",
  "FD99 ARABIC LIGATURE:NOON WITH JEEM WITH ALEF MAKSURA FINAL FORM",
  "FD9A ARABIC LIGATURE:NOON WITH MEEM WITH YEH FINAL FORM",
  "FD9B ARABIC LIGATURE:NOON WITH MEEM WITH ALEF MAKSURA FINAL FORM",
  "FD9C ARABIC LIGATURE:YEH WITH MEEM WITH MEEM FINAL FORM,YEH WITH MEEM WITH MEEM INITIAL FORM",
  "FD9E ARABIC LIGATURE:BEH WITH KHAH WITH YEH FINAL FORM,TEH WITH JEEM WITH YEH FINAL FORM",
  "FDA0 ARABIC LIGATURE:TEH WITH JEEM WITH ALEF MAKSURA FINAL FORM",
  "FDA1 ARABIC LIGATURE:TEH WITH KHAH WITH YEH FINAL FORM",
  "FDA2 ARABIC LIGATURE:TEH WITH KHAH WITH ALEF MAKSURA FINAL FORM",
  "FDA3 ARABIC LIGATURE:TEH WITH MEEM WITH YEH FINAL FORM",
  "FDA4 ARABIC LIGATURE:TEH WITH MEEM WITH ALEF MAKSURA FINAL FORM",
  "FDA5 ARABIC LIGATURE:JEEM WITH MEEM WITH YEH FINAL FORM",
  "FDA6 ARABIC LIGATURE:JEEM WITH HAH WITH ALEF MAKSURA FINAL FORM",
  "FDA7 ARABIC LIGATURE:JEEM WITH MEEM WITH ALEF MAKSURA FINAL FORM",
  "FDA8 ARABIC LIGATURE:SEEN WITH KHAH WITH ALEF MAKSURA FINAL FORM",
  "FDA9 ARABIC LIGATURE:SAD WITH HAH WITH YEH FINAL FORM,SHEEN WITH HAH WITH YEH FINAL FORM",
  "FDAB ARABIC LIGATURE:DAD WITH HAH WITH YEH FINAL FORM,LAM WITH JEEM WITH YEH FINAL FORM",
  "FDAD ARABIC LIGATURE:LAM WITH MEEM WITH YEH FINAL FORM,YEH WITH HAH WITH YEH FINAL FORM",
  "FDAF ARABIC LIGATURE:YEH WITH JEEM WITH YEH FINAL FORM,YEH WITH MEEM WITH YEH FINAL FORM",
  "FDB1 ARABIC LIGATURE:MEEM WITH MEEM WITH YEH FINAL FORM,QAF WITH MEEM WITH YEH FINAL FORM",
  "FDB3 ARABIC LIGATURE:NOON WITH HAH WITH YEH FINAL FORM,QAF WITH MEEM WITH HAH INITIAL FORM",
  "FDB5 ARABIC LIGATURE:LAM WITH HAH WITH MEEM INITIAL FORM,AIN WITH MEEM WITH YEH FINAL FORM",
  "FDB7 ARABIC LIGATURE:KAF WITH MEEM WITH YEH FINAL FORM,NOON WITH JEEM WITH HAH INITIAL FORM",
  "FDB9 ARABIC LIGATURE:MEEM WITH KHAH WITH YEH FINAL FORM,LAM WITH JEEM WITH MEEM INITIAL FORM",
  "FDBB ARABIC LIGATURE:KAF WITH MEEM WITH MEEM FINAL FORM,LAM WITH JEEM WITH MEEM FINAL FORM",
  "FDBD ARABIC LIGATURE:NOON WITH JEEM WITH HAH FINAL FORM,JEEM WITH HAH WITH YEH FINAL FORM",
  "FDBF ARABIC LIGATURE:HAH WITH JEEM WITH YEH FINAL FORM,MEEM WITH JEEM WITH YEH FINAL FORM",
  "FDC1 ARABIC LIGATURE:FEH WITH MEEM WITH YEH FINAL FORM,BEH WITH HAH WITH YEH FINAL FORM",
  "FDC3 ARABIC LIGATURE:KAF WITH MEEM WITH MEEM INITIAL FORM",
  "FDC4 ARABIC LIGATURE:AIN WITH JEEM WITH MEEM INITIAL FORM",
  "FDC5 ARABIC LIGATURE:SAD WITH MEEM WITH MEEM INITIAL FORM,SEEN WITH KHAH WITH YEH FINAL FORM",
  "FDC7 ARABIC LIGATURE:NOON WITH JEEM WITH YEH FINAL FORM",
  "FDCF:ARABIC LIGATURE SALAAMUHU ALAYNAA",
  "FDF0 ARABIC LIGATURE:SALLA USED AS KORANIC STOP SIGN ISOLATED FORM",
  "FDF1 ARABIC LIGATURE:QALA USED AS KORANIC STOP SIGN ISOLATED FORM,ALLAH ISOLATED FORM",
  "FDF3 ARABIC LIGATURE:AKBAR ISOLATED FORM,MOHAMMAD ISOLATED FORM,SALAM ISOLATED FORM",
  "FDF6 ARABIC LIGATURE:RASOUL ISOLATED FORM,ALAYHE ISOLATED FORM,WASALLAM ISOLATED FORM",
  "FDF9 ARABIC LIGATURE:SALLA ISOLATED FORM,SALLALLAHOU ALAYHE WASALLAM,JALLAJALALOUHOU",
  "FDFC:RIAL SIGN",
  "FDFD ARABIC LIGATURE:BISMILLAH AR-RAHMAN AR-RAHEEM,SUBHAANAHU WA TAAALAA,AZZA WA JALL",
  "FE00 VARIATION:SELECTOR-1,SELECTOR-2,SELECTOR-3,SELECTOR-4,SELECTOR-5,SELECTOR-6,SELECTOR-7",
  "FE07 VARIATION:SELECTOR-8,SELECTOR-9,SELECTOR-10,SELECTOR-11,SELECTOR-12,SELECTOR-13",
  "FE0D VARIATION:SELECTOR-14,SELECTOR-15,SELECTOR-16",
  "FE10 PRESENTATION FORM FOR VERTICAL:COMMA,IDEOGRAPHIC COMMA,IDEOGRAPHIC FULL STOP,COLON",
  "FE14 PRESENTATION FORM FOR VERTICAL:SEMICOLON,EXCLAMATION MARK,QUESTION MARK",
  "FE17 PRESENTATION FORM FOR VERTICAL:LEFT WHITE LENTICULAR BRACKET",
  "FE18 PRESENTATION FORM FOR VERTICAL:RIGHT WHITE LENTICULAR BRAKCET,HORIZONTAL ELLIPSIS",
  "FE20 COMBINING:LIGATURE LEFT HALF,LIGATURE RIGHT HALF,DOUBLE TILDE LEFT HALF",
  "FE23 COMBINING:DOUBLE TILDE RIGHT HALF,MACRON LEFT HALF,MACRON RIGHT HALF,CONJOINING MACRON",
  "FE27 COMBINING:LIGATURE LEFT HALF BELOW,LIGATURE RIGHT HALF BELOW,TILDE LEFT HALF BELOW",
  "FE2A COMBINING:TILDE RIGHT HALF BELOW,MACRON LEFT HALF BELOW,MACRON RIGHT HALF BELOW",
  "FE2D COMBINING:CONJOINING MACRON BELOW,CYRILLIC TITLO LEFT HALF,CYRILLIC TITLO RIGHT HALF",
  "FE30 PRESENTATION FORM FOR VERTICAL:TWO DOT LEADER,EM DASH,EN DASH,LOW LINE,WAVY LOW LINE",
  "FE35 PRESENTATION FORM FOR VERTICAL:LEFT PARENTHESIS,RIGHT PARENTHESIS,LEFT CURLY BRACKET",
  "FE38 PRESENTATION FORM FOR VERTICAL:RIGHT CURLY BRACKET,LEFT TORTOISE SHELL BRACKET",
  "FE3A PRESENTATION FORM FOR VERTICAL:RIGHT TORTOISE SHELL BRACKET",
  "FE3B PRESENTATION FORM FOR VERTICAL:LEFT BLACK LENTICULAR BRACKET",
  "FE3C PRESENTATION FORM FOR VERTICAL:RIGHT BLACK LENTICULAR BRACKET,LEFT DOUBLE ANGLE BRACKET",
  "FE3E PRESENTATION FORM FOR VERTICAL:RIGHT DOUBLE ANGLE BRACKET,LEFT ANGLE BRACKET",
  "FE40 PRESENTATION FORM FOR VERTICAL:RIGHT ANGLE BRACKET,LEFT CORNER BRACKET",
  "FE42 PRESENTATION FORM FOR VERTICAL:RIGHT CORNER BRACKET,LEFT WHITE CORNER BRACKET",
  "FE44 PRESENTATION FORM FOR VERTICAL:RIGHT WHITE CORNER BRACKET;FE45:SESAME DOT",
  "FE46:WHITE SESAME DOT",
  "FE47 PRESENTATION FORM FOR VERTICAL:LEFT SQUARE BRACKET,RIGHT SQUARE BRACKET",
  "FE49:DASHED OVERLINE;FE4A:CENTRELINE OVERLINE;FE4B:WAVY OVERLINE;FE4C:DOUBLE WAVY OVERLINE",
  "FE4D:DASHED LOW LINE;FE4E:CENTRELINE LOW LINE;FE4F:WAVY LOW LINE",
  "FE50 SMALL:COMMA,IDEOGRAPHIC COMMA,FULL STOP",
  "FE54 SMALL:SEMICOLON,COLON,QUESTION MARK,EXCLAMATION MARK,EM DASH,LEFT PARENTHESIS",
  "FE5A SMALL:RIGHT PARENTHESIS,LEFT CURLY BRACKET,RIGHT CURLY BRACKET",
  "FE5D SMALL:LEFT TORTOISE SHELL BRACKET,RIGHT TORTOISE SHELL BRACKET,NUMBER SIGN,AMPERSAND",
  "FE61 SMALL:ASTERISK,PLUS SIGN,HYPHEN-MINUS,LESS-THAN SIGN,GREATER-THAN SIGN,EQUALS SIGN",
  "FE68 SMALL:REVERSE SOLIDUS,DOLLAR SIGN,PERCENT SIGN,COMMERCIAL AT",
  "FE70 ARABIC:FATHATAN ISOLATED FORM,TATWEEL WITH FATHATAN ABOVE,DAMMATAN ISOLATED FORM",
  "FE73 ARABIC:TAIL FRAGMENT,KASRATAN ISOLATED FORM",
  "FE76 ARABIC:FATHA ISOLATED FORM,FATHA MEDIAL FORM,DAMMA ISOLATED FORM,DAMMA MEDIAL FORM",
  "FE7A ARABIC:KASRA ISOLATED FORM,KASRA MEDIAL FORM,SHADDA ISOLATED FORM,SHADDA MEDIAL FORM",
  "FE7E ARABIC:SUKUN ISOLATED FORM,SUKUN MEDIAL FORM,LETTER HAMZA ISOLATED FORM",
  "FE81 ARABIC:LETTER ALEF WITH MADDA ABOVE ISOLATED FORM",
  "FE82 ARABIC:LETTER ALEF WITH MADDA ABOVE FINAL FORM",
  "FE83 ARABIC:LETTER ALEF WITH HAMZA ABOVE ISOLATED FORM",
  "FE84 ARABIC:LETTER ALEF WITH HAMZA ABOVE FINAL FORM",
  "FE85 ARABIC:LETTER WAW WITH HAMZA ABOVE ISOLATED FORM,LETTER WAW WITH HAMZA ABOVE FINAL FORM",
  "FE87 ARABIC:LETTER ALEF WITH HAMZA BELOW ISOLATED FORM",
  "FE88 ARABIC:LETTER ALEF WITH HAMZA BELOW FINAL FORM",
  "FE89 ARABIC:LETTER YEH WITH HAMZA ABOVE ISOLATED FORM,LETTER YEH WITH HAMZA ABOVE FINAL FORM",
  "FE8B ARABIC:LETTER YEH WITH HAMZA ABOVE INITIAL FORM,LETTER YEH WITH HAMZA ABOVE MEDIAL FORM",
  "FE8D ARABIC:LETTER ALEF ISOLATED FORM,LETTER ALEF FINAL FORM,LETTER BEH ISOLATED FORM",
  "FE90 ARABIC:LETTER BEH FINAL FORM,LETTER BEH INITIAL FORM,LETTER BEH MEDIAL FORM",
  "FE93 ARABIC:LETTER TEH MARBUTA ISOLATED FORM,LETTER TEH MARBUTA FINAL FORM",
  "FE95 ARABIC:LETTER TEH ISOLATED FORM,LETTER TEH FINAL FORM,LETTER TEH INITIAL FORM",
  "FE98 ARABIC:LETTER TEH MEDIAL FORM,LETTER THEH ISOLATED FORM,LETTER THEH FINAL FORM",
  "FE9B ARABIC:LETTER THEH INITIAL FORM,LETTER THEH MEDIAL FORM,LETTER JEEM ISOLATED FORM",
  "FE9E ARABIC:LETTER JEEM FINAL FORM,LETTER JEEM INITIAL FORM,LETTER JEEM MEDIAL FORM",
  "FEA1 ARABIC:LETTER HAH ISOLATED FORM,LETTER HAH FINAL FORM,LETTER HAH INITIAL FORM",
  "FEA4 ARABIC:LETTER HAH MEDIAL FORM,LETTER KHAH ISOLATED FORM,LETTER KHAH FINAL FORM",
  "FEA7 ARABIC:LETTER KHAH INITIAL FORM,LETTER KHAH MEDIAL FORM,LETTER DAL ISOLATED FORM",
  "FEAA ARABIC:LETTER DAL FINAL FORM,LETTER THAL ISOLATED FORM,LETTER THAL FINAL FORM",
  "FEAD ARABIC:LETTER REH ISOLATED FORM,LETTER REH FINAL FORM,LETTER ZAIN ISOLATED FORM",
  "FEB0 ARABIC:LETTER ZAIN FINAL FORM,LETTER SEEN ISOLATED FORM,LETTER SEEN FINAL FORM",
  "FEB3 ARABIC:LETTER SEEN INITIAL FORM,LETTER SEEN MEDIAL FORM,LETTER SHEEN ISOLATED FORM",
  "FEB6 ARABIC:LETTER SHEEN FINAL FORM,LETTER SHEEN INITIAL FORM,LETTER SHEEN MEDIAL FORM",
  "FEB9 ARABIC:LETTER SAD ISOLATED FORM,LETTER SAD FINAL FORM,LETTER SAD INITIAL FORM",
  "FEBC ARABIC:LETTER SAD MEDIAL FORM,LETTER DAD ISOLATED FORM,LETTER DAD FINAL FORM",
  "FEBF ARABIC:LETTER DAD INITIAL FORM,LETTER DAD MEDIAL FORM,LETTER TAH ISOLATED FORM",
  "FEC2 ARABIC:LETTER TAH FINAL FORM,LETTER TAH INITIAL FORM,LETTER TAH MEDIAL FORM",
  "FEC5 ARABIC:LETTER ZAH ISOLATED FORM,LETTER ZAH FINAL FORM,LETTER ZAH INITIAL FORM",
  "FEC8 ARABIC:LETTER ZAH MEDIAL FORM,LETTER AIN ISOLATED FORM,LETTER AIN FINAL FORM",
  "FECB ARABIC:LETTER AIN INITIAL FORM,LETTER AIN MEDIAL FORM,LETTER GHAIN ISOLATED FORM",
  "FECE ARABIC:LETTER GHAIN FINAL FORM,LETTER GHAIN INITIAL FORM,LETTER GHAIN MEDIAL FORM",
  "FED1 ARABIC:LETTER FEH ISOLATED FORM,LETTER FEH FINAL FORM,LETTER FEH INITIAL FORM",
  "FED4 ARABIC:LETTER FEH MEDIAL FORM,LETTER QAF ISOLATED FORM,LETTER QAF FINAL FORM",
  "FED7 ARABIC:LETTER QAF INITIAL FORM,LETTER QAF MEDIAL FORM,LETTER KAF ISOLATED FORM",
  "FEDA ARABIC:LETTER KAF FINAL FORM,LETTER KAF INITIAL FORM,LETTER KAF MEDIAL FORM",
  "FEDD ARABIC:LETTER LAM ISOLATED FORM,LETTER LAM FINAL FORM,LETTER LAM INITIAL FORM",
  "FEE0 ARABIC:LETTER LAM MEDIAL FORM,LETTER MEEM ISOLATED FORM,LETTER MEEM FINAL FORM",
  "FEE3 ARABIC:LETTER MEEM INITIAL FORM,LETTER MEEM MEDIAL FORM,LETTER NOON ISOLATED FORM",
  "FEE6 ARABIC:LETTER NOON FINAL FORM,LETTER NOON INITIAL FORM,LETTER NOON MEDIAL FORM",
  "FEE9 ARABIC:LETTER HEH ISOLATED FORM,LETTER HEH FINAL FORM,LETTER HEH INITIAL FORM",
  "FEEC ARABIC:LETTER HEH MEDIAL FORM,LETTER WAW ISOLATED FORM,LETTER WAW FINAL FORM",
  "FEEF ARABIC:LETTER ALEF MAKSURA ISOLATED FORM,LETTER ALEF MAKSURA FINAL FORM",
  "FEF1 ARABIC:LETTER YEH ISOLATED FORM,LETTER YEH FINAL FORM,LETTER YEH INITIAL FORM",
  "FEF4 ARABIC:LETTER YEH MEDIAL FORM,LIGATURE LAM WITH ALEF WITH MADDA ABOVE ISOLATED FORM",
  "FEF6 ARABIC:LIGATURE LAM WITH ALEF WITH MADDA ABOVE FINAL FORM",
  "FEF7 ARABIC:LIGATURE LAM WITH ALEF WITH HAMZA ABOVE ISOLATED FORM",
  "FEF8 ARABIC:LIGATURE LAM WITH ALEF WITH HAMZA ABOVE FINAL FORM",
  "FEF9 ARABIC:LIGATURE LAM WITH ALEF WITH HAMZA BELOW ISOLATED FORM",
  "FEFA ARABIC:LIGATURE LAM WITH ALEF WITH HAMZA BELOW FINAL FORM",
  "FEFB ARABIC:LIGATURE LAM WITH ALEF ISOLATED FORM,LIGATURE LAM WITH ALEF FINAL FORM",
  "FEFF:ZERO WIDTH NO-BREAK SPACE",
  "FF01 FULLWIDTH:EXCLAMATION MARK,QUOTATION MARK,NUMBER SIGN,DOLLAR SIGN,PERCENT SIGN",
  "FF06 FULLWIDTH:AMPERSAND,APOSTROPHE,LEFT PARENTHESIS,RIGHT PARENTHESIS,ASTERISK,PLUS SIGN",
  "FF0C FULLWIDTH:COMMA,HYPHEN-MINUS,FULL STOP,SOLIDUS,DIGIT ZERO,DIGIT ONE,DIGIT TWO",
  "FF13 FULLWIDTH:DIGIT THREE,DIGIT FOUR,DIGIT FIVE,DIGIT SIX,DIGIT SEVEN,DIGIT EIGHT",
  "FF19 FULLWIDTH:DIGIT NINE,COLON,SEMICOLON,LESS-THAN SIGN,EQUALS SIGN,GREATER-THAN SIGN",
  "FF1F FULLWIDTH:QUESTION MARK,COMMERCIAL AT,LATIN CAPITAL LETTER A,LATIN CAPITAL LETTER B",
  "FF23 FULLWIDTH:LATIN CAPITAL LETTER C,LATIN CAPITAL LETTER D,LATIN CAPITAL LETTER E",
  "FF26 FULLWIDTH:LATIN CAPITAL LETTER F,LATIN CAPITAL LETTER G,LATIN CAPITAL LETTER H",
  "FF29 FULLWIDTH:LATIN CAPITAL LETTER I,LATIN CAPITAL LETTER J,LATIN CAPITAL LETTER K",
  "FF2C FULLWIDTH:LATIN CAPITAL LETTER L,LATIN CAPITAL LETTER M,LATIN CAPITAL LETTER N",
  "FF2F FULLWIDTH:LATIN CAPITAL LETTER O,LATIN CAPITAL LETTER P,LATIN CAPITAL LETTER Q",
  "FF32 FULLWIDTH:LATIN CAPITAL LETTER R,LATIN CAPITAL LETTER S,LATIN CAPITAL LETTER T",
  "FF35 FULLWIDTH:LATIN CAPITAL LETTER U,LATIN CAPITAL LETTER V,LATIN CAPITAL LETTER W",
  "FF38 FULLWIDTH:LATIN CAPITAL LETTER X,LATIN CAPITAL LETTER Y,LATIN CAPITAL LETTER Z",
  "FF3B FULLWIDTH:LEFT SQUARE BRACKET,REVERSE SOLIDUS,RIGHT SQUARE BRACKET,CIRCUMFLEX ACCENT",
  "FF3F FULLWIDTH:LOW LINE,GRAVE ACCENT,LATIN SMALL LETTER A,LATIN SMALL LETTER B",
  "FF43 FULLWIDTH:LATIN SMALL LETTER C,LATIN SMALL LETTER D,LATIN SMALL LETTER E",
  "FF46 FULLWIDTH:LATIN SMALL LETTER F,LATIN SMALL LETTER G,LATIN SMALL LETTER H",
  "FF49 FULLWIDTH:LATIN SMALL LETTER I,LATIN SMALL LETTER J,LATIN SMALL LETTER K",
  "FF4C FULLWIDTH:LATIN SMALL LETTER L,LATIN SMALL LETTER M,LATIN SMALL LETTER N",
  "FF4F FULLWIDTH:LATIN SMALL LETTER O,LATIN SMALL LETTER P,LATIN SMALL LETTER Q",
  "FF52 FULLWIDTH:LATIN SMALL LETTER R,LATIN SMALL LETTER S,LATIN SMALL LETTER T",
  "FF55 FULLWIDTH:LATIN SMALL LETTER U,LATIN SMALL LETTER V,LATIN SMALL LETTER W",
  "FF58 FULLWIDTH:LATIN SMALL LETTER X,LATIN SMALL LETTER Y,LATIN SMALL LETTER Z",
  "FF5B FULLWIDTH:LEFT CURLY BRACKET,VERTICAL LINE,RIGHT CURLY BRACKET,TILDE",
  "FF5F FULLWIDTH:LEFT WHITE PARENTHESIS,RIGHT WHITE PARENTHESIS",
  "FF61 HALFWIDTH:IDEOGRAPHIC FULL STOP,LEFT CORNER BRACKET,RIGHT CORNER BRACKET",
  "FF64 HALFWIDTH:IDEOGRAPHIC COMMA,KATAKANA MIDDLE DOT,KATAKANA LETTER WO",
  "FF67 HALFWIDTH:KATAKANA LETTER SMALL A,KATAKANA LETTER SMALL I,KATAKANA LETTER SMALL U",
  "FF6A HALFWIDTH:KATAKANA LETTER SMALL E,KATAKANA LETTER SMALL O,KATAKANA LETTER SMALL YA",
  "FF6D HALFWIDTH:KATAKANA LETTER SMALL YU,KATAKANA LETTER SMALL YO,KATAKANA LETTER SMALL TU",
  "FF70 HALFWIDTH:KATAKANA-HIRAGANA PROLONGED SOUND MARK,KATAKANA LETTER A,KATAKANA LETTER I",
  "FF73 HALFWIDTH:KATAKANA LETTER U,KATAKANA LETTER E,KATAKANA LETTER O,KATAKANA LETTER KA",
  "FF77 HALFWIDTH:KATAKANA LETTER KI,KATAKANA LETTER KU,KATAKANA LETTER KE,KATAKANA LETTER KO",
  "FF7B HALFWIDTH:KATAKANA LETTER SA,KATAKANA LETTER SI,KATAKANA LETTER SU,KATAKANA LETTER SE",
  "FF7F HALFWIDTH:KATAKANA LETTER SO,KATAKANA LETTER TA,KATAKANA LETTER TI,KATAKANA LETTER TU",
  "FF83 HALFWIDTH:KATAKANA LETTER TE,KATAKANA LETTER TO,KATAKANA LETTER NA,KATAKANA LETTER NI",
  "FF87 HALFWIDTH:KATAKANA LETTER NU,KATAKANA LETTER NE,KATAKANA LETTER NO,KATAKANA LETTER HA",
  "FF8B HALFWIDTH:KATAKANA LETTER HI,KATAKANA LETTER HU,KATAKANA LETTER HE,KATAKANA LETTER HO",
  "FF8F HALFWIDTH:KATAKANA LETTER MA,KATAKANA LETTER MI,KATAKANA LETTER MU,KATAKANA LETTER ME",
  "FF93 HALFWIDTH:KATAKANA LETTER MO,KATAKANA LETTER YA,KATAKANA LETTER YU,KATAKANA LETTER YO",
  "FF97 HALFWIDTH:KATAKANA LETTER RA,KATAKANA LETTER RI,KATAKANA LETTER RU,KATAKANA LETTER RE",
  "FF9B HALFWIDTH:KATAKANA LETTER RO,KATAKANA LETTER WA,KATAKANA LETTER N",
  "FF9E HALFWIDTH:KATAKANA VOICED SOUND MARK,KATAKANA SEMI-VOICED SOUND MARK,HANGUL FILLER",
  "FFA1 HALFWIDTH:HANGUL LETTER KIYEOK,HANGUL LETTER SSANGKIYEOK,HANGUL LETTER KIYEOK-SIOS",
  "FFA4 HALFWIDTH:HANGUL LETTER NIEUN,HANGUL LETTER NIEUN-CIEUC,HANGUL LETTER NIEUN-HIEUH",
  "FFA7 HALFWIDTH:HANGUL LETTER TIKEUT,HANGUL LETTER SSANGTIKEUT,HANGUL LETTER RIEUL",
  "FFAA HALFWIDTH:HANGUL LETTER RIEUL-KIYEOK,HANGUL LETTER RIEUL-MIEUM",
  "FFAC HALFWIDTH:HANGUL LETTER RIEUL-PIEUP,HANGUL LETTER RIEUL-SIOS",
  "FFAE HALFWIDTH:HANGUL LETTER RIEUL-THIEUTH,HANGUL LETTER RIEUL-PHIEUPH",
  "FFB0 HALFWIDTH:HANGUL LETTER RIEUL-HIEUH,HANGUL LETTER MIEUM,HANGUL LETTER PIEUP",
  "FFB3 HALFWIDTH:HANGUL LETTER SSANGPIEUP,HANGUL LETTER PIEUP-SIOS,HANGUL LETTER SIOS",
  "FFB6 HALFWIDTH:HANGUL LETTER SSANGSIOS,HANGUL LETTER IEUNG,HANGUL LETTER CIEUC",
  "FFB9 HALFWIDTH:HANGUL LETTER SSANGCIEUC,HANGUL LETTER CHIEUCH,HANGUL LETTER KHIEUKH",
  "FFBC HALFWIDTH:HANGUL LETTER THIEUTH,HANGUL LETTER PHIEUPH,HANGUL LETTER HIEUH",
  "FFC2 HALFWIDTH HANGUL LETTER:A,AE,YA,YAE,EO,E",
  "FFCA HALFWIDTH HANGUL LETTER:YEO,YE,O,WA,WAE,OE",
  "FFD2 HALFWIDTH HANGUL LETTER:YO,U,WEO,WE,WI,YU;FFDA HALFWIDTH HANGUL LETTER:EU,YI,I",
  "FFE0 FULLWIDTH:CENT SIGN,POUND SIGN,NOT SIGN,MACRON,BROKEN BAR,YEN SIGN,WON SIGN",
  "FFE8 HALFWIDTH:FORMS LIGHT VERTICAL,LEFTWARDS ARROW,UPWARDS ARROW,RIGHTWARDS ARROW",
  "FFEC HALFWIDTH:DOWNWARDS ARROW,BLACK SQUARE,WHITE CIRCLE",
  "FFF9 INTERLINEAR ANNOTATION:ANCHOR,SEPARATOR,TERMINATOR;FFFC:OBJECT REPLACEMENT CHARACTER",
  "FFFD:REPLACEMENT CHARACTER"]

end SetupScript.Character
