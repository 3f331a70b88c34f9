/-!
# Names of phonetic letters

The names of phonetic letters, and of further Latin and Greek ones.  A group of
characters begins with the code point of its first one and the words that all its names begin with;
behind a colon stands what is left of the name of each.
-/

namespace SetupScript.Character

/-- The groups of names, in rows. -/
def phoneticNames : List String := [
  "1D00:LATIN LETTER SMALL CAPITAL A;1D01:LATIN LETTER SMALL CAPITAL AE",
  "1D02:LATIN SMALL LETTER TURNED AE;1D03:LATIN LETTER SMALL CAPITAL BARRED B",
  "1D04:LATIN LETTER SMALL CAPITAL C;1D05:LATIN LETTER SMALL CAPITAL D",
  "1D06:LATIN LETTER SMALL CAPITAL ETH;1D07:LATIN LETTER SMALL CAPITAL E",
  "1D08:LATIN SMALL LETTER TURNED OPEN E;1D09:LATIN SMALL LETTER TURNED I",
  "1D0A:LATIN LETTER SMALL CAPITAL J;1D0B:LATIN LETTER SMALL CAPITAL K",
  "1D0C:LATIN LETTER SMALL CAPITAL L WITH STROKE;1D0D:LATIN LETTER SMALL CAPITAL M",
  "1D0E:LATIN LETTER SMALL CAPITAL REVERSED N;1D0F:LATIN LETTER SMALL CAPITAL O",
  "1D10:LATIN LETTER SMALL CAPITAL OPEN O;1D11:LATIN SMALL LETTER SIDEWAYS O",
  "1D12:LATIN SMALL LETTER SIDEWAYS OPEN O;1D13:LATIN SMALL LETTER SIDEWAYS O WITH STROKE",
  "1D14:LATIN SMALL LETTER TURNED OE;1D15:LATIN LETTER SMALL CAPITAL OU",
  "1D16:LATIN SMALL LETTER TOP HALF O;1D17:LATIN SMALL LETTER BOTTOM HALF O",
  "1D18:LATIN LETTER SMALL CAPITAL P;1D19:LATIN LETTER SMALL CAPITAL REVERSED R",
  "1D1A:LATIN LETTER SMALL CAPITAL TURNED R;1D1B:LATIN LETTER SMALL CAPITAL T",
  "1D1C:LATIN LETTER SMALL CAPITAL U;1D1D:LATIN SMALL LETTER SIDEWAYS U",
  "1D1E:LATIN SMALL LETTER SIDEWAYS DIAERESIZED U;1D1F:LATIN SMALL LETTER SIDEWAYS TURNED M",
  "1D20:LATIN LETTER SMALL CAPITAL V;1D21:LATIN LETTER SMALL CAPITAL W",
  "1D22:LATIN LETTER SMALL CAPITAL Z;1D23:LATIN LETTER SMALL CAPITAL EZH",
  "1D24:LATIN LETTER VOICED LARYNGEAL SPIRANT;1D25:LATIN LETTER AIN",
  "1D26:GREEK LETTER SMALL CAPITAL GAMMA;1D27:GREEK LETTER SMALL CAPITAL LAMDA",
  "1D28:GREEK LETTER SMALL CAPITAL PI;1D29:GREEK LETTER SMALL CAPITAL RHO",
  "1D2A:GREEK LETTER SMALL CAPITAL PSI;1D2B:CYRILLIC LETTER SMALL CAPITAL EL",
  "1D2C MODIFIER LETTER:CAPITAL A,CAPITAL AE,CAPITAL B,CAPITAL BARRED B,CAPITAL D,CAPITAL E",
  "1D32 MODIFIER LETTER:CAPITAL REVERSED E,CAPITAL G,CAPITAL H,CAPITAL I,CAPITAL J,CAPITAL K",
  "1D38 MODIFIER LETTER:CAPITAL L,CAPITAL M,CAPITAL N,CAPITAL REVERSED N,CAPITAL O,CAPITAL OU",
  "1D3E MODIFIER LETTER:CAPITAL P,CAPITAL R,CAPITAL T,CAPITAL U,CAPITAL W,SMALL A",
  "1D44 MODIFIER LETTER:SMALL TURNED A,SMALL ALPHA,SMALL TURNED AE,SMALL B,SMALL D,SMALL E",
  "1D4A MODIFIER LETTER:SMALL SCHWA,SMALL OPEN E,SMALL TURNED OPEN E,SMALL G,SMALL TURNED I",
  "1D4F MODIFIER LETTER:SMALL K,SMALL M,SMALL ENG,SMALL O,SMALL OPEN O,SMALL TOP HALF O",
  "1D55 MODIFIER LETTER:SMALL BOTTOM HALF O,SMALL P,SMALL T,SMALL U,SMALL SIDEWAYS U",
  "1D5A MODIFIER LETTER:SMALL TURNED M,SMALL V,SMALL AIN,SMALL BETA,SMALL GREEK GAMMA",
  "1D5F MODIFIER LETTER:SMALL DELTA,SMALL GREEK PHI,SMALL CHI",
  "1D62:LATIN SUBSCRIPT SMALL LETTER I;1D63:LATIN SUBSCRIPT SMALL LETTER R",
  "1D64:LATIN SUBSCRIPT SMALL LETTER U;1D65:LATIN SUBSCRIPT SMALL LETTER V",
  "1D66:GREEK SUBSCRIPT SMALL LETTER BETA;1D67:GREEK SUBSCRIPT SMALL LETTER GAMMA",
  "1D68:GREEK SUBSCRIPT SMALL LETTER RHO;1D69:GREEK SUBSCRIPT SMALL LETTER PHI",
  "1D6A:GREEK SUBSCRIPT SMALL LETTER CHI;1D6B:LATIN SMALL LETTER UE",
  "1D6C:LATIN SMALL LETTER B WITH MIDDLE TILDE;1D6D:LATIN SMALL LETTER D WITH MIDDLE TILDE",
  "1D6E:LATIN SMALL LETTER F WITH MIDDLE TILDE;1D6F:LATIN SMALL LETTER M WITH MIDDLE TILDE",
  "1D70:LATIN SMALL LETTER N WITH MIDDLE TILDE;1D71:LATIN SMALL LETTER P WITH MIDDLE TILDE",
  "1D72:LATIN SMALL LETTER R WITH MIDDLE TILDE",
  "1D73:LATIN SMALL LETTER R WITH FISHHOOK AND MIDDLE TILDE",
  "1D74:LATIN SMALL LETTER S WITH MIDDLE TILDE;1D75:LATIN SMALL LETTER T WITH MIDDLE TILDE",
  "1D76:LATIN SMALL LETTER Z WITH MIDDLE TILDE;1D77:LATIN SMALL LETTER TURNED G",
  "1D78:MODIFIER LETTER CYRILLIC EN;1D79:LATIN SMALL LETTER INSULAR G",
  "1D7A:LATIN SMALL LETTER TH WITH STRIKETHROUGH;1D7B:LATIN SMALL CAPITAL LETTER I WITH STROKE",
  "1D7C:LATIN SMALL LETTER IOTA WITH STROKE;1D7D:LATIN SMALL LETTER P WITH STROKE",
  "1D7E:LATIN SMALL CAPITAL LETTER U WITH STROKE",
  "1D7F LATIN SMALL LETTER:UPSILON WITH STROKE,B WITH PALATAL HOOK,D WITH PALATAL HOOK",
  "1D82 LATIN SMALL LETTER:F WITH PALATAL HOOK,G WITH PALATAL HOOK,K WITH PALATAL HOOK",
  "1D85 LATIN SMALL LETTER:L WITH PALATAL HOOK,M WITH PALATAL HOOK,N WITH PALATAL HOOK",
  "1D88 LATIN SMALL LETTER:P WITH PALATAL HOOK,R WITH PALATAL HOOK,S WITH PALATAL HOOK",
  "1D8B LATIN SMALL LETTER:ESH WITH PALATAL HOOK,V WITH PALATAL HOOK,X WITH PALATAL HOOK",
  "1D8E LATIN SMALL LETTER:Z WITH PALATAL HOOK,A WITH RETROFLEX HOOK,ALPHA WITH RETROFLEX HOOK",
  "1D91 LATIN SMALL LETTER:D WITH HOOK AND TAIL,E WITH RETROFLEX HOOK",
  "1D93 LATIN SMALL LETTER:OPEN E WITH RETROFLEX HOOK,REVERSED OPEN E WITH RETROFLEX HOOK",
  "1D95 LATIN SMALL LETTER:SCHWA WITH RETROFLEX HOOK,I WITH RETROFLEX HOOK",
  "1D97 LATIN SMALL LETTER:OPEN O WITH RETROFLEX HOOK,ESH WITH RETROFLEX HOOK",
  "1D99 LATIN SMALL LETTER:U WITH RETROFLEX HOOK,EZH WITH RETROFLEX HOOK",
  "1D9B MODIFIER LETTER SMALL:TURNED ALPHA,C,C WITH CURL,ETH,REVERSED OPEN E,F",
  "1DA1 MODIFIER LETTER SMALL:DOTLESS J WITH STROKE,SCRIPT G,TURNED H,I WITH STROKE,IOTA",
  "1DA6 MODIFIER LETTER SMALL:CAPITAL I,CAPITAL I WITH STROKE,J WITH CROSSED-TAIL",
  "1DA9 MODIFIER LETTER SMALL:L WITH RETROFLEX HOOK,L WITH PALATAL HOOK,CAPITAL L,M WITH HOOK",
  "1DAD MODIFIER LETTER SMALL:TURNED M WITH LONG LEG,N WITH LEFT HOOK,N WITH RETROFLEX HOOK",
  "1DB0 MODIFIER LETTER SMALL:CAPITAL N,BARRED O,PHI,S WITH HOOK,ESH,T WITH PALATAL HOOK,U BAR",
  "1DB7 MODIFIER LETTER SMALL:UPSILON,CAPITAL U,V WITH HOOK,TURNED V,Z,Z WITH RETROFLEX HOOK",
  "1DBD MODIFIER LETTER SMALL:Z WITH CURL,EZH,THETA",
  "1DC0 COMBINING:DOTTED GRAVE ACCENT,DOTTED ACUTE ACCENT,SNAKE BELOW,SUSPENSION MARK",
  "1DC4 COMBINING:MACRON-ACUTE,GRAVE-MACRON,MACRON-GRAVE,ACUTE-MACRON,GRAVE-ACUTE-GRAVE",
  "1DC9 COMBINING:ACUTE-GRAVE-ACUTE,LATIN SMALL LETTER R BELOW,BREVE-MACRON,MACRON-BREVE",
  "1DCD COMBINING:DOUBLE CIRCUMFLEX ABOVE,OGONEK ABOVE,ZIGZAG BELOW,IS BELOW,UR ABOVE,US ABOVE",
  "1DD3 COMBINING:LATIN SMALL LETTER FLATTENED OPEN A ABOVE,LATIN SMALL LETTER AE",
  "1DD5 COMBINING:LATIN SMALL LETTER AO,LATIN SMALL LETTER AV,LATIN SMALL LETTER C CEDILLA",
  "1DD8 COMBINING:LATIN SMALL LETTER INSULAR D,LATIN SMALL LETTER ETH,LATIN SMALL LETTER G",
  "1DDB COMBINING:LATIN LETTER SMALL CAPITAL G,LATIN SMALL LETTER K,LATIN SMALL LETTER L",
  "1DDE COMBINING:LATIN LETTER SMALL CAPITAL L,LATIN LETTER SMALL CAPITAL M",
  "1DE0 COMBINING:LATIN SMALL LETTER N,LATIN LETTER SMALL CAPITAL N",
  "1DE2 COMBINING:LATIN LETTER SMALL CAPITAL R,LATIN SMALL LETTER R ROTUNDA",
  "1DE4 COMBINING:LATIN SMALL LETTER S,LATIN SMALL LETTER LONG S,LATIN SMALL LETTER Z",
  "1DE7 COMBINING:LATIN SMALL LETTER ALPHA,LATIN SMALL LETTER B,LATIN SMALL LETTER BETA",
  "1DEA COMBINING:LATIN SMALL LETTER SCHWA,LATIN SMALL LETTER F",
  "1DEC COMBINING:LATIN SMALL LETTER L WITH DOUBLE MIDDLE TILDE",
  "1DED COMBINING:LATIN SMALL LETTER O WITH LIGHT CENTRALIZATION STROKE,LATIN SMALL LETTER P",
  "1DEF COMBINING:LATIN SMALL LETTER ESH,LATIN SMALL LETTER U WITH LIGHT CENTRALIZATION STROKE",
  "1DF1 COMBINING:LATIN SMALL LETTER W,LATIN SMALL LETTER A WITH DIAERESIS",
  "1DF3 COMBINING:LATIN SMALL LETTER O WITH DIAERESIS,LATIN SMALL LETTER U WITH DIAERESIS",
  "1DF5 COMBINING:UP TACK ABOVE,KAVYKA ABOVE RIGHT,KAVYKA ABOVE LEFT,DOT ABOVE LEFT",
  "1DF9 COMBINING:WIDE INVERTED BRIDGE BELOW,DOT BELOW LEFT,DELETION MARK",
  "1DFC COMBINING:DOUBLE INVERTED BREVE BELOW,ALMOST EQUAL TO BELOW,LEFT ARROWHEAD ABOVE",
  "1DFF COMBINING:RIGHT ARROWHEAD AND DOWN ARROWHEAD BELOW",
  "1E00 LATIN:CAPITAL LETTER A WITH RING BELOW,SMALL LETTER A WITH RING BELOW",
  "1E02 LATIN:CAPITAL LETTER B WITH DOT ABOVE,SMALL LETTER B WITH DOT ABOVE",
  "1E04 LATIN:CAPITAL LETTER B WITH DOT BELOW,SMALL LETTER B WITH DOT BELOW",
  "1E06 LATIN:CAPITAL LETTER B WITH LINE BELOW,SMALL LETTER B WITH LINE BELOW",
  "1E08 LATIN:CAPITAL LETTER C WITH CEDILLA AND ACUTE,SMALL LETTER C WITH CEDILLA AND ACUTE",
  "1E0A LATIN:CAPITAL LETTER D WITH DOT ABOVE,SMALL LETTER D WITH DOT ABOVE",
  "1E0C LATIN:CAPITAL LETTER D WITH DOT BELOW,SMALL LETTER D WITH DOT BELOW",
  "1E0E LATIN:CAPITAL LETTER D WITH LINE BELOW,SMALL LETTER D WITH LINE BELOW",
  "1E10 LATIN:CAPITAL LETTER D WITH CEDILLA,SMALL LETTER D WITH CEDILLA",
  "1E12 LATIN:CAPITAL LETTER D WITH CIRCUMFLEX BELOW,SMALL LETTER D WITH CIRCUMFLEX BELOW",
  "1E14 LATIN:CAPITAL LETTER E WITH MACRON AND GRAVE,SMALL LETTER E WITH MACRON AND GRAVE",
  "1E16 LATIN:CAPITAL LETTER E WITH MACRON AND ACUTE,SMALL LETTER E WITH MACRON AND ACUTE",
  "1E18 LATIN:CAPITAL LETTER E WITH CIRCUMFLEX BELOW,SMALL LETTER E WITH CIRCUMFLEX BELOW",
  "1E1A LATIN:CAPITAL LETTER E WITH TILDE BELOW,SMALL LETTER E WITH TILDE BELOW",
  "1E1C LATIN:CAPITAL LETTER E WITH CEDILLA AND BREVE,SMALL LETTER E WITH CEDILLA AND BREVE",
  "1E1E LATIN:CAPITAL LETTER F WITH DOT ABOVE,SMALL LETTER F WITH DOT ABOVE",
  "1E20 LATIN:CAPITAL LETTER G WITH MACRON,SMALL LETTER G WITH MACRON",
  "1E22 LATIN:CAPITAL LETTER H WITH DOT ABOVE,SMALL LETTER H WITH DOT ABOVE",
  "1E24 LATIN:CAPITAL LETTER H WITH DOT BELOW,SMALL LETTER H WITH DOT BELOW",
  "1E26 LATIN:CAPITAL LETTER H WITH DIAERESIS,SMALL LETTER H WITH DIAERESIS",
  "1E28 LATIN:CAPITAL LETTER H WITH CEDILLA,SMALL LETTER H WITH CEDILLA",
  "1E2A LATIN:CAPITAL LETTER H WITH BREVE BELOW,SMALL LETTER H WITH BREVE BELOW",
  "1E2C LATIN:CAPITAL LETTER I WITH TILDE BELOW,SMALL LETTER I WITH TILDE BELOW",
  "1E2E LATIN:CAPITAL LETTER I WITH DIAERESIS AND ACUTE,SMALL LETTER I WITH DIAERESIS AND ACUTE",
  "1E30 LATIN:CAPITAL LETTER K WITH ACUTE,SMALL LETTER K WITH ACUTE",
  "1E32 LATIN:CAPITAL LETTER K WITH DOT BELOW,SMALL LETTER K WITH DOT BELOW",
  "1E34 LATIN:CAPITAL LETTER K WITH LINE BELOW,SMALL LETTER K WITH LINE BELOW",
  "1E36 LATIN:CAPITAL LETTER L WITH DOT BELOW,SMALL LETTER L WITH DOT BELOW",
  "1E38 LATIN:CAPITAL LETTER L WITH DOT BELOW AND MACRON",
  "1E39 LATIN:SMALL LETTER L WITH DOT BELOW AND MACRON,CAPITAL LETTER L WITH LINE BELOW",
  "1E3B LATIN:SMALL LETTER L WITH LINE BELOW,CAPITAL LETTER L WITH CIRCUMFLEX BELOW",
  "1E3D LATIN:SMALL LETTER L WITH CIRCUMFLEX BELOW,CAPITAL LETTER M WITH ACUTE",
  "1E3F LATIN:SMALL LETTER M WITH ACUTE,CAPITAL LETTER M WITH DOT ABOVE",
  "1E41 LATIN:SMALL LETTER M WITH DOT ABOVE,CAPITAL LETTER M WITH DOT BELOW",
  "1E43 LATIN:SMALL LETTER M WITH DOT BELOW,CAPITAL LETTER N WITH DOT ABOVE",
  "1E45 LATIN:SMALL LETTER N WITH DOT ABOVE,CAPITAL LETTER N WITH DOT BELOW",
  "1E47 LATIN:SMALL LETTER N WITH DOT BELOW,CAPITAL LETTER N WITH LINE BELOW",
  "1E49 LATIN:SMALL LETTER N WITH LINE BELOW,CAPITAL LETTER N WITH CIRCUMFLEX BELOW",
  "1E4B LATIN:SMALL LETTER N WITH CIRCUMFLEX BELOW,CAPITAL LETTER O WITH TILDE AND ACUTE",
  "1E4D LATIN:SMALL LETTER O WITH TILDE AND ACUTE,CAPITAL LETTER O WITH TILDE AND DIAERESIS",
  "1E4F LATIN:SMALL LETTER O WITH TILDE AND DIAERESIS,CAPITAL LETTER O WITH MACRON AND GRAVE",
  "1E51 LATIN:SMALL LETTER O WITH MACRON AND GRAVE,CAPITAL LETTER O WITH MACRON AND ACUTE",
  "1E53 LATIN:SMALL LETTER O WITH MACRON AND ACUTE,CAPITAL LETTER P WITH ACUTE",
  "1E55 LATIN:SMALL LETTER P WITH ACUTE,CAPITAL LETTER P WITH DOT ABOVE",
  "1E57 LATIN:SMALL LETTER P WITH DOT ABOVE,CAPITAL LETTER R WITH DOT ABOVE",
  "1E59 LATIN:SMALL LETTER R WITH DOT ABOVE,CAPITAL LETTER R WITH DOT BELOW",
  "1E5B LATIN:SMALL LETTER R WITH DOT BELOW,CAPITAL LETTER R WITH DOT BELOW AND MACRON",
  "1E5D LATIN:SMALL LETTER R WITH DOT BELOW AND MACRON,CAPITAL LETTER R WITH LINE BELOW",
  "1E5F LATIN:SMALL LETTER R WITH LINE BELOW,CAPITAL LETTER S WITH DOT ABOVE",
  "1E61 LATIN:SMALL LETTER S WITH DOT ABOVE,CAPITAL LETTER S WITH DOT BELOW",
  "1E63 LATIN:SMALL LETTER S WITH DOT BELOW,CAPITAL LETTER S WITH ACUTE AND DOT ABOVE",
  "1E65 LATIN:SMALL LETTER S WITH ACUTE AND DOT ABOVE,CAPITAL LETTER S WITH CARON AND DOT ABOVE",
  "1E67 LATIN:SMALL LETTER S WITH CARON AND DOT ABOVE",
  "1E68 LATIN:CAPITAL LETTER S WITH DOT BELOW AND DOT ABOVE",
  "1E69 LATIN:SMALL LETTER S WITH DOT BELOW AND DOT ABOVE,CAPITAL LETTER T WITH DOT ABOVE",
  "1E6B LATIN:SMALL LETTER T WITH DOT ABOVE,CAPITAL LETTER T WITH DOT BELOW",
  "1E6D LATIN:SMALL LETTER T WITH DOT BELOW,CAPITAL LETTER T WITH LINE BELOW",
  "1E6F LATIN:SMALL LETTER T WITH LINE BELOW,CAPITAL LETTER T WITH CIRCUMFLEX BELOW",
  "1E71 LATIN:SMALL LETTER T WITH CIRCUMFLEX BELOW,CAPITAL LETTER U WITH DIAERESIS BELOW",
  "1E73 LATIN:SMALL LETTER U WITH DIAERESIS BELOW,CAPITAL LETTER U WITH TILDE BELOW",
  "1E75 LATIN:SMALL LETTER U WITH TILDE BELOW,CAPITAL LETTER U WITH CIRCUMFLEX BELOW",
  "1E77 LATIN:SMALL LETTER U WITH CIRCUMFLEX BELOW,CAPITAL LETTER U WITH TILDE AND ACUTE",
  "1E79 LATIN:SMALL LETTER U WITH TILDE AND ACUTE,CAPITAL LETTER U WITH MACRON AND DIAERESIS",
  "1E7B LATIN:SMALL LETTER U WITH MACRON AND DIAERESIS,CAPITAL LETTER V WITH TILDE",
  "1E7D LATIN:SMALL LETTER V WITH TILDE,CAPITAL LETTER V WITH DOT BELOW",
  "1E7F LATIN:SMALL LETTER V WITH DOT BELOW,CAPITAL LETTER W WITH GRAVE",
  "1E81 LATIN:SMALL LETTER W WITH GRAVE,CAPITAL LETTER W WITH ACUTE,SMALL LETTER W WITH ACUTE",
  "1E84 LATIN:CAPITAL LETTER W WITH DIAERESIS,SMALL LETTER W WITH DIAERESIS",
  "1E86 LATIN:CAPITAL LETTER W WITH DOT ABOVE,SMALL LETTER W WITH DOT ABOVE",
  "1E88 LATIN:CAPITAL LETTER W WITH DOT BELOW,SMALL LETTER W WITH DOT BELOW",
  "1E8A LATIN:CAPITAL LETTER X WITH DOT ABOVE,SMALL LETTER X WITH DOT ABOVE",
  "1E8C LATIN:CAPITAL LETTER X WITH DIAERESIS,SMALL LETTER X WITH DIAERESIS",
  "1E8E LATIN:CAPITAL LETTER Y WITH DOT ABOVE,SMALL LETTER Y WITH DOT ABOVE",
  "1E90 LATIN:CAPITAL LETTER Z WITH CIRCUMFLEX,SMALL LETTER Z WITH CIRCUMFLEX",
  "1E92 LATIN:CAPITAL LETTER Z WITH DOT BELOW,SMALL LETTER Z WITH DOT BELOW",
  "1E94 LATIN:CAPITAL LETTER Z WITH LINE BELOW,SMALL LETTER Z WITH LINE BELOW",
  "1E96 LATIN:SMALL LETTER H WITH LINE BELOW,SMALL LETTER T WITH DIAERESIS",
  "1E98 LATIN:SMALL LETTER W WITH RING ABOVE,SMALL LETTER Y WITH RING ABOVE",
  "1E9A LATIN:SMALL LETTER A WITH RIGHT HALF RING,SMALL LETTER LONG S WITH DOT ABOVE",
  "1E9C LATIN:SMALL LETTER LONG S WITH DIAGONAL STROKE,SMALL LETTER LONG S WITH HIGH STROKE",
  "1E9E LATIN:CAPITAL LETTER SHARP S,SMALL LETTER DELTA,CAPITAL LETTER A WITH DOT BELOW",
  "1EA1 LATIN:SMALL LETTER A WITH DOT BELOW,CAPITAL LETTER A WITH HOOK ABOVE",
  "1EA3 LATIN:SMALL LETTER A WITH HOOK ABOVE,CAPITAL LETTER A WITH CIRCUMFLEX AND ACUTE",
  "1EA5 LATIN:SMALL LETTER A WITH CIRCUMFLEX AND ACUTE",
  "1EA6 LATIN:CAPITAL LETTER A WITH CIRCUMFLEX AND GRAVE",
  "1EA7 LATIN:SMALL LETTER A WITH CIRCUMFLEX AND GRAVE",
  "1EA8 LATIN:CAPITAL LETTER A WITH CIRCUMFLEX AND HOOK ABOVE",
  "1EA9 LATIN:SMALL LETTER A WITH CIRCUMFLEX AND HOOK ABOVE",
  "1EAA LATIN:CAPITAL LETTER A WITH CIRCUMFLEX AND TILDE",
  "1EAB LATIN:SMALL LETTER A WITH CIRCUMFLEX AND TILDE",
  "1EAC LATIN:CAPITAL LETTER A WITH CIRCUMFLEX AND DOT BELOW",
  "1EAD LATIN:SMALL LETTER A WITH CIRCUMFLEX AND DOT BELOW",
  "1EAE LATIN:CAPITAL LETTER A WITH BREVE AND ACUTE,SMALL LETTER A WITH BREVE AND ACUTE",
  "1EB0 LATIN:CAPITAL LETTER A WITH BREVE AND GRAVE,SMALL LETTER A WITH BREVE AND GRAVE",
  "1EB2 LATIN:CAPITAL LETTER A WITH BREVE AND HOOK ABOVE",
  "1EB3 LATIN:SMALL LETTER A WITH BREVE AND HOOK ABOVE,CAPITAL LETTER A WITH BREVE AND TILDE",
  "1EB5 LATIN:SMALL LETTER A WITH BREVE AND TILDE,CAPITAL LETTER A WITH BREVE AND DOT BELOW",
  "1EB7 LATIN:SMALL LETTER A WITH BREVE AND DOT BELOW,CAPITAL LETTER E WITH DOT BELOW",
  "1EB9 LATIN:SMALL LETTER E WITH DOT BELOW,CAPITAL LETTER E WITH HOOK ABOVE",
  "1EBB LATIN:SMALL LETTER E WITH HOOK ABOVE,CAPITAL LETTER E WITH TILDE",
  "1EBD LATIN:SMALL LETTER E WITH TILDE,CAPITAL LETTER E WITH CIRCUMFLEX AND ACUTE",
  "1EBF LATIN:SMALL LETTER E WITH CIRCUMFLEX AND ACUTE",
  "1EC0 LATIN:CAPITAL LETTER E WITH CIRCUMFLEX AND GRAVE",
  "1EC1 LATIN:SMALL LETTER E WITH CIRCUMFLEX AND GRAVE",
  "1EC2 LATIN:CAPITAL LETTER E WITH CIRCUMFLEX AND HOOK ABOVE",
  "1EC3 LATIN:SMALL LETTER E WITH CIRCUMFLEX AND HOOK ABOVE",
  "1EC4 LATIN:CAPITAL LETTER E WITH CIRCUMFLEX AND TILDE",
  "1EC5 LATIN:SMALL LETTER E WITH CIRCUMFLEX AND TILDE",
  "1EC6 LATIN:CAPITAL LETTER E WITH CIRCUMFLEX AND DOT BELOW",
  "1EC7 LATIN:SMALL LETTER E WITH CIRCUMFLEX AND DOT BELOW,CAPITAL LETTER I WITH HOOK ABOVE",
  "1EC9 LATIN:SMALL LETTER I WITH HOOK ABOVE,CAPITAL LETTER I WITH DOT BELOW",
  "1ECB LATIN:SMALL LETTER I WITH DOT BELOW,CAPITAL LETTER O WITH DOT BELOW",
  "1ECD LATIN:SMALL LETTER O WITH DOT BELOW,CAPITAL LETTER O WITH HOOK ABOVE",
  "1ECF LATIN:SMALL LETTER O WITH HOOK ABOVE,CAPITAL LETTER O WITH CIRCUMFLEX AND ACUTE",
  "1ED1 LATIN:SMALL LETTER O WITH CIRCUMFLEX AND ACUTE",
  "1ED2 LATIN:CAPITAL LETTER O WITH CIRCUMFLEX AND GRAVE",
  "1ED3 LATIN:SMALL LETTER O WITH CIRCUMFLEX AND GRAVE",
  "1ED4 LATIN:CAPITAL LETTER O WITH CIRCUMFLEX AND HOOK ABOVE",
  "1ED5 LATIN:SMALL LETTER O WITH CIRCUMFLEX AND HOOK ABOVE",
  "1ED6 LATIN:CAPITAL LETTER O WITH CIRCUMFLEX AND TILDE",
  "1ED7 LATIN:SMALL LETTER O WITH CIRCUMFLEX AND TILDE",
  "1ED8 LATIN:CAPITAL LETTER O WITH CIRCUMFLEX AND DOT BELOW",
  "1ED9 LATIN:SMALL LETTER O WITH CIRCUMFLEX AND DOT BELOW,CAPITAL LETTER O WITH HORN AND ACUTE",
  "1EDB LATIN:SMALL LETTER O WITH HORN AND ACUTE,CAPITAL LETTER O WITH HORN AND GRAVE",
  "1EDD LATIN:SMALL LETTER O WITH HORN AND GRAVE,CAPITAL LETTER O WITH HORN AND HOOK ABOVE",
  "1EDF LATIN:SMALL LETTER O WITH HORN AND HOOK ABOVE,CAPITAL LETTER O WITH HORN AND TILDE",
  "1EE1 LATIN:SMALL LETTER O WITH HORN AND TILDE,CAPITAL LETTER O WITH HORN AND DOT BELOW",
  "1EE3 LATIN:SMALL LETTER O WITH HORN AND DOT BELOW,CAPITAL LETTER U WITH DOT BELOW",
  "1EE5 LATIN:SMALL LETTER U WITH DOT BELOW,CAPITAL LETTER U WITH HOOK ABOVE",
  "1EE7 LATIN:SMALL LETTER U WITH HOOK ABOVE,CAPITAL LETTER U WITH HORN AND ACUTE",
  "1EE9 LATIN:SMALL LETTER U WITH HORN AND ACUTE,CAPITAL LETTER U WITH HORN AND GRAVE",
  "1EEB LATIN:SMALL LETTER U WITH HORN AND GRAVE,CAPITAL LETTER U WITH HORN AND HOOK ABOVE",
  "1EED LATIN:SMALL LETTER U WITH HORN AND HOOK ABOVE,CAPITAL LETTER U WITH HORN AND TILDE",
  "1EEF LATIN:SMALL LETTER U WITH HORN AND TILDE,CAPITAL LETTER U WITH HORN AND DOT BELOW",
  "1EF1 LATIN:SMALL LETTER U WITH HORN AND DOT BELOW,CAPITAL LETTER Y WITH GRAVE",
  "1EF3 LATIN:SMALL LETTER Y WITH GRAVE,CAPITAL LETTER Y WITH DOT BELOW",
  "1EF5 LATIN:SMALL LETTER Y WITH DOT BELOW,CAPITAL LETTER Y WITH HOOK ABOVE",
  "1EF7 LATIN:SMALL LETTER Y WITH HOOK ABOVE,CAPITAL LETTER Y WITH TILDE",
  "1EF9 LATIN:SMALL LETTER Y WITH TILDE,CAPITAL LETTER MIDDLE-WELSH LL",
  "1EFB LATIN:SMALL LETTER MIDDLE-WELSH LL,CAPITAL LETTER MIDDLE-WELSH V",
  "1EFD LATIN:SMALL LETTER MIDDLE-WELSH V,CAPITAL LETTER Y WITH LOOP,SMALL LETTER Y WITH LOOP",
  "1F00 GREEK SMALL LETTER ALPHA WITH:PSILI,DASIA,PSILI AND VARIA,DASIA AND VARIA",
  "1F04 GREEK SMALL LETTER ALPHA WITH:PSILI AND OXIA,DASIA AND OXIA,PSILI AND PERISPOMENI",
  "1F07 GREEK SMALL LETTER ALPHA WITH:DASIA AND PERISPOMENI",
  "1F08 GREEK CAPITAL LETTER ALPHA WITH:PSILI,DASIA,PSILI AND VARIA,DASIA AND VARIA",
  "1F0C GREEK CAPITAL LETTER ALPHA WITH:PSILI AND OXIA,DASIA AND OXIA,PSILI AND PERISPOMENI",
  "1F0F GREEK CAPITAL LETTER ALPHA WITH:DASIA AND PERISPOMENI",
  "1F10 GREEK SMALL LETTER EPSILON WITH:PSILI,DASIA,PSILI AND VARIA,DASIA AND VARIA",
  "1F14 GREEK SMALL LETTER EPSILON WITH:PSILI AND OXIA,DASIA AND OXIA",
  "1F18 GREEK CAPITAL LETTER EPSILON WITH:PSILI,DASIA,PSILI AND VARIA,DASIA AND VARIA",
  "1F1C GREEK CAPITAL LETTER EPSILON WITH:PSILI AND OXIA,DASIA AND OXIA",
  "1F20 GREEK:SMALL LETTER ETA WITH PSILI,SMALL LETTER ETA WITH DASIA",
  "1F22 GREEK:SMALL LETTER ETA WITH PSILI AND VARIA,SMALL LETTER ETA WITH DASIA AND VARIA",
  "1F24 GREEK:SMALL LETTER ETA WITH PSILI AND OXIA,SMALL LETTER ETA WITH DASIA AND OXIA",
  "1F26 GREEK:SMALL LETTER ETA WITH PSILI AND PERISPOMENI",
  "1F27 GREEK:SMALL LETTER ETA WITH DASIA AND PERISPOMENI,CAPITAL LETTER ETA WITH PSILI",
  "1F29 GREEK:CAPITAL LETTER ETA WITH DASIA,CAPITAL LETTER ETA WITH PSILI AND VARIA",
  "1F2B GREEK:CAPITAL LETTER ETA WITH DASIA AND VARIA,CAPITAL LETTER ETA WITH PSILI AND OXIA",
  "1F2D GREEK:CAPITAL LETTER ETA WITH DASIA AND OXIA",
  "1F2E GREEK:CAPITAL LETTER ETA WITH PSILI AND PERISPOMENI",
  "1F2F GREEK:CAPITAL LETTER ETA WITH DASIA AND PERISPOMENI,SMALL LETTER IOTA WITH PSILI",
  "1F31 GREEK:SMALL LETTER IOTA WITH DASIA,SMALL LETTER IOTA WITH PSILI AND VARIA",
  "1F33 GREEK:SMALL LETTER IOTA WITH DASIA AND VARIA,SMALL LETTER IOTA WITH PSILI AND OXIA",
  "1F35 GREEK:SMALL LETTER IOTA WITH DASIA AND OXIA",
  "1F36 GREEK:SMALL LETTER IOTA WITH PSILI AND PERISPOMENI",
  "1F37 GREEK:SMALL LETTER IOTA WITH DASIA AND PERISPOMENI,CAPITAL LETTER IOTA WITH PSILI",
  "1F39 GREEK:CAPITAL LETTER IOTA WITH DASIA,CAPITAL LETTER IOTA WITH PSILI AND VARIA",
  "1F3B GREEK:CAPITAL LETTER IOTA WITH DASIA AND VARIA,CAPITAL LETTER IOTA WITH PSILI AND OXIA",
  "1F3D GREEK:CAPITAL LETTER IOTA WITH DASIA AND OXIA",
  "1F3E GREEK:CAPITAL LETTER IOTA WITH PSILI AND PERISPOMENI",
  "1F3F GREEK:CAPITAL LETTER IOTA WITH DASIA AND PERISPOMENI,SMALL LETTER OMICRON WITH PSILI",
  "1F41 GREEK:SMALL LETTER OMICRON WITH DASIA,SMALL LETTER OMICRON WITH PSILI AND VARIA",
  "1F43 GREEK:SMALL LETTER OMICRON WITH DASIA AND VARIA",
  "1F44 GREEK:SMALL LETTER OMICRON WITH PSILI AND OXIA,SMALL LETTER OMICRON WITH DASIA AND OXIA",
  "1F48 GREEK CAPITAL LETTER OMICRON WITH:PSILI,DASIA,PSILI AND VARIA,DASIA AND VARIA",
  "1F4C GREEK CAPITAL LETTER OMICRON WITH:PSILI AND OXIA,DASIA AND OXIA",
  "1F50 GREEK SMALL LETTER UPSILON WITH:PSILI,DASIA,PSILI AND VARIA,DASIA AND VARIA",
  "1F54 GREEK SMALL LETTER UPSILON WITH:PSILI AND OXIA,DASIA AND OXIA,PSILI AND PERISPOMENI",
  "1F57 GREEK SMALL LETTER UPSILON WITH:DASIA AND PERISPOMENI",
  "1F59:GREEK CAPITAL LETTER UPSILON WITH DASIA",
  "1F5B:GREEK CAPITAL LETTER UPSILON WITH DASIA AND VARIA",
  "1F5D:GREEK CAPITAL LETTER UPSILON WITH DASIA AND OXIA",
  "1F5F GREEK:CAPITAL LETTER UPSILON WITH DASIA AND PERISPOMENI,SMALL LETTER OMEGA WITH PSILI",
  "1F61 GREEK:SMALL LETTER OMEGA WITH DASIA,SMALL LETTER OMEGA WITH PSILI AND VARIA",
  "1F63 GREEK:SMALL LETTER OMEGA WITH DASIA AND VARIA,SMALL LETTER OMEGA WITH PSILI AND OXIA",
  "1F65 GREEK:SMALL LETTER OMEGA WITH DASIA AND OXIA",
  "1F66 GREEK:SMALL LETTER OMEGA WITH PSILI AND PERISPOMENI",
  "1F67 GREEK:SMALL LETTER OMEGA WITH DASIA AND PERISPOMENI,CAPITAL LETTER OMEGA WITH PSILI",
  "1F69 GREEK:CAPITAL LETTER OMEGA WITH DASIA,CAPITAL LETTER OMEGA WITH PSILI AND VARIA",
  "1F6B GREEK:CAPITAL LETTER OMEGA WITH DASIA AND VARIA",
  "1F6C GREEK:CAPITAL LETTER OMEGA WITH PSILI AND OXIA,CAPITAL LETTER OMEGA WITH DASIA AND OXIA",
  "1F6E GREEK:CAPITAL LETTER OMEGA WITH PSILI AND PERISPOMENI",
  "1F6F GREEK:CAPITAL LETTER OMEGA WITH DASIA AND PERISPOMENI,SMALL LETTER ALPHA WITH VARIA",
  "1F71 GREEK:SMALL LETTER ALPHA WITH OXIA,SMALL LETTER EPSILON WITH VARIA",
  "1F73 GREEK:SMALL LETTER EPSILON WITH OXIA,SMALL LETTER ETA WITH VARIA",
  "1F75 GREEK:SMALL LETTER ETA WITH OXIA,SMALL LETTER IOTA WITH VARIA",
  "1F77 GREEK:SMALL LETTER IOTA WITH OXIA,SMALL LETTER OMICRON WITH VARIA",
  "1F79 GREEK:SMALL LETTER OMICRON WITH OXIA,SMALL LETTER UPSILON WITH VARIA",
  "1F7B GREEK:SMALL LETTER UPSILON WITH OXIA,SMALL LETTER OMEGA WITH VARIA",
  "1F7D GREEK:SMALL LETTER OMEGA WITH OXIA",
  "1F80 GREEK:SMALL LETTER ALPHA WITH PSILI AND YPOGEGRAMMENI",
  "1F81 GREEK:SMALL LETTER ALPHA WITH DASIA AND YPOGEGRAMMENI",
  "1F82 GREEK:SMALL LETTER ALPHA WITH PSILI AND VARIA AND YPOGEGRAMMENI",
  "1F83 GREEK:SMALL LETTER ALPHA WITH DASIA AND VARIA AND YPOGEGRAMMENI",
  "1F84 GREEK:SMALL LETTER ALPHA WITH PSILI AND OXIA AND YPOGEGRAMMENI",
  "1F85 GREEK:SMALL LETTER ALPHA WITH DASIA AND OXIA AND YPOGEGRAMMENI",
  "1F86 GREEK:SMALL LETTER ALPHA WITH PSILI AND PERISPOMENI AND YPOGEGRAMMENI",
  "1F87 GREEK:SMALL LETTER ALPHA WITH DASIA AND PERISPOMENI AND YPOGEGRAMMENI",
  "1F88 GREEK:CAPITAL LETTER ALPHA WITH PSILI AND PROSGEGRAMMENI",
  "1F89 GREEK:CAPITAL LETTER ALPHA WITH DASIA AND PROSGEGRAMMENI",
  "1F8A GREEK:CAPITAL LETTER ALPHA WITH PSILI AND VARIA AND PROSGEGRAMMENI",
  "1F8B GREEK:CAPITAL LETTER ALPHA WITH DASIA AND VARIA AND PROSGEGRAMMENI",
  "1F8C GREEK:CAPITAL LETTER ALPHA WITH PSILI AND OXIA AND PROSGEGRAMMENI",
  "1F8D GREEK:CAPITAL LETTER ALPHA WITH DASIA AND OXIA AND PROSGEGRAMMENI",
  "1F8E GREEK:CAPITAL LETTER ALPHA WITH PSILI AND PERISPOMENI AND PROSGEGRAMMENI",
  "1F8F GREEK:CAPITAL LETTER ALPHA WITH DASIA AND PERISPOMENI AND PROSGEGRAMMENI",
  "1F90 GREEK:SMALL LETTER ETA WITH PSILI AND YPOGEGRAMMENI",
  "1F91 GREEK:SMALL LETTER ETA WITH DASIA AND YPOGEGRAMMENI",
  "1F92 GREEK:SMALL LETTER ETA WITH PSILI AND VARIA AND YPOGEGRAMMENI",
  "1F93 GREEK:SMALL LETTER ETA WITH DASIA AND VARIA AND YPOGEGRAMMENI",
  "1F94 GREEK:SMALL LETTER ETA WITH PSILI AND OXIA AND YPOGEGRAMMENI",
  "1F95 GREEK:SMALL LETTER ETA WITH DASIA AND OXIA AND YPOGEGRAMMENI",
  "1F96 GREEK:SMALL LETTER ETA WITH PSILI AND PERISPOMENI AND YPOGEGRAMMENI",
  "1F97 GREEK:SMALL LETTER ETA WITH DASIA AND PERISPOMENI AND YPOGEGRAMMENI",
  "1F98 GREEK:CAPITAL LETTER ETA WITH PSILI AND PROSGEGRAMMENI",
  "1F99 GREEK:CAPITAL LETTER ETA WITH DASIA AND PROSGEGRAMMENI",
  "1F9A GREEK:CAPITAL LETTER ETA WITH PSILI AND VARIA AND PROSGEGRAMMENI",
  "1F9B GREEK:CAPITAL LETTER ETA WITH DASIA AND VARIA AND PROSGEGRAMMENI",
  "1F9C GREEK:CAPITAL LETTER ETA WITH PSILI AND OXIA AND PROSGEGRAMMENI",
  "1F9D GREEK:CAPITAL LETTER ETA WITH DASIA AND OXIA AND PROSGEGRAMMENI",
  "1F9E GREEK:CAPITAL LETTER ETA WITH PSILI AND PERISPOMENI AND PROSGEGRAMMENI",
  "1F9F GREEK:CAPITAL LETTER ETA WITH DASIA AND PERISPOMENI AND PROSGEGRAMMENI",
  "1FA0 GREEK:SMALL LETTER OMEGA WITH PSILI AND YPOGEGRAMMENI",
  "1FA1 GREEK:SMALL LETTER OMEGA WITH DASIA AND YPOGEGRAMMENI",
  "1FA2 GREEK:SMALL LETTER OMEGA WITH PSILI AND VARIA AND YPOGEGRAMMENI",
  "1FA3 GREEK:SMALL LETTER OMEGA WITH DASIA AND VARIA AND YPOGEGRAMMENI",
  "1FA4 GREEK:SMALL LETTER OMEGA WITH PSILI AND OXIA AND YPOGEGRAMMENI",
  "1FA5 GREEK:SMALL LETTER OMEGA WITH DASIA AND OXIA AND YPOGEGRAMMENI",
  "1FA6 GREEK:SMALL LETTER OMEGA WITH PSILI AND PERISPOMENI AND YPOGEGRAMMENI",
  "1FA7 GREEK:SMALL LETTER OMEGA WITH DASIA AND PERISPOMENI AND YPOGEGRAMMENI",
  "1FA8 GREEK:CAPITAL LETTER OMEGA WITH PSILI AND PROSGEGRAMMENI",
  "1FA9 GREEK:CAPITAL LETTER OMEGA WITH DASIA AND PROSGEGRAMMENI",
  "1FAA GREEK:CAPITAL LETTER OMEGA WITH PSILI AND VARIA AND PROSGEGRAMMENI",
  "1FAB GREEK:CAPITAL LETTER OMEGA WITH DASIA AND VARIA AND PROSGEGRAMMENI",
  "1FAC GREEK:CAPITAL LETTER OMEGA WITH PSILI AND OXIA AND PROSGEGRAMMENI",
  "1FAD GREEK:CAPITAL LETTER OMEGA WITH DASIA AND OXIA AND PROSGEGRAMMENI",
  "1FAE GREEK:CAPITAL LETTER OMEGA WITH PSILI AND PERISPOMENI AND PROSGEGRAMMENI",
  "1FAF GREEK:CAPITAL LETTER OMEGA WITH DASIA AND PERISPOMENI AND PROSGEGRAMMENI",
  "1FB0 GREEK:SMALL LETTER ALPHA WITH VRACHY,SMALL LETTER ALPHA WITH MACRON",
  "1FB2 GREEK:SMALL LETTER ALPHA WITH VARIA AND YPOGEGRAMMENI",
  "1FB3 GREEK:SMALL LETTER ALPHA WITH YPOGEGRAMMENI",
  "1FB4 GREEK:SMALL LETTER ALPHA WITH OXIA AND YPOGEGRAMMENI",
  "1FB6 GREEK:SMALL LETTER ALPHA WITH PERISPOMENI",
  "1FB7 GREEK:SMALL LETTER ALPHA WITH PERISPOMENI AND YPOGEGRAMMENI",
  "1FB8 GREEK:CAPITAL LETTER ALPHA WITH VRACHY,CAPITAL LETTER ALPHA WITH MACRON",
  "1FBA GREEK:CAPITAL LETTER ALPHA WITH VARIA,CAPITAL LETTER ALPHA WITH OXIA",
  "1FBC GREEK:CAPITAL LETTER ALPHA WITH PROSGEGRAMMENI,KORONIS,PROSGEGRAMMENI,PSILI,PERISPOMENI",
  "1FC1 GREEK:DIALYTIKA AND PERISPOMENI,SMALL LETTER ETA WITH VARIA AND YPOGEGRAMMENI",
  "1FC3 GREEK:SMALL LETTER ETA WITH YPOGEGRAMMENI,SMALL LETTER ETA WITH OXIA AND YPOGEGRAMMENI",
  "1FC6 GREEK:SMALL LETTER ETA WITH PERISPOMENI",
  "1FC7 GREEK:SMALL LETTER ETA WITH PERISPOMENI AND YPOGEGRAMMENI",
  "1FC8 GREEK:CAPITAL LETTER EPSILON WITH VARIA,CAPITAL LETTER EPSILON WITH OXIA",
  "1FCA GREEK:CAPITAL LETTER ETA WITH VARIA,CAPITAL LETTER ETA WITH OXIA",
  "1FCC GREEK:CAPITAL LETTER ETA WITH PROSGEGRAMMENI,PSILI AND VARIA,PSILI AND OXIA",
  "1FCF GREEK:PSILI AND PERISPOMENI,SMALL LETTER IOTA WITH VRACHY,SMALL LETTER IOTA WITH MACRON",
  "1FD2 GREEK:SMALL LETTER IOTA WITH DIALYTIKA AND VARIA",
  "1FD3 GREEK:SMALL LETTER IOTA WITH DIALYTIKA AND OXIA",
  "1FD6 GREEK:SMALL LETTER IOTA WITH PERISPOMENI",
  "1FD7 GREEK:SMALL LETTER IOTA WITH DIALYTIKA AND PERISPOMENI,CAPITAL LETTER IOTA WITH VRACHY",
  "1FD9 GREEK:CAPITAL LETTER IOTA WITH MACRON,CAPITAL LETTER IOTA WITH VARIA",
  "1FDB GREEK:CAPITAL LETTER IOTA WITH OXIA",
  "1FDD GREEK:DASIA AND VARIA,DASIA AND OXIA,DASIA AND PERISPOMENI",
  "1FE0 GREEK:SMALL LETTER UPSILON WITH VRACHY,SMALL LETTER UPSILON WITH MACRON",
  "1FE2 GREEK:SMALL LETTER UPSILON WITH DIALYTIKA AND VARIA",
  "1FE3 GREEK:SMALL LETTER UPSILON WITH DIALYTIKA AND OXIA,SMALL LETTER RHO WITH PSILI",
  "1FE5 GREEK:SMALL LETTER RHO WITH DASIA,SMALL LETTER UPSILON WITH PERISPOMENI",
  "1FE7 GREEK:SMALL LETTER UPSILON WITH DIALYTIKA AND PERISPOMENI",
  "1FE8 GREEK:CAPITAL LETTER UPSILON WITH VRACHY,CAPITAL LETTER UPSILON WITH MACRON",
  "1FEA GREEK:CAPITAL LETTER UPSILON WITH VARIA,CAPITAL LETTER UPSILON WITH OXIA",
  "1FEC GREEK:CAPITAL LETTER RHO WITH DASIA,DIALYTIKA AND VARIA,DIALYTIKA AND OXIA,VARIA",
  "1FF2 GREEK SMALL LETTER OMEGA WITH:VARIA AND YPOGEGRAMMENI,YPOGEGRAMMENI",
  "1FF4 GREEK SMALL LETTER OMEGA WITH:OXIA AND YPOGEGRAMMENI",
  "1FF6 GREEK:SMALL LETTER OMEGA WITH PERISPOMENI",
  "1FF7 GREEK:SMALL LETTER OMEGA WITH PERISPOMENI AND YPOGEGRAMMENI",
  "1FF8 GREEK:CAPITAL LETTER OMICRON WITH VARIA,CAPITAL LETTER OMICRON WITH OXIA",
  "1FFA GREEK:CAPITAL LETTER OMEGA WITH VARIA,CAPITAL LETTER OMEGA WITH OXIA",
  "1FFC GREEK:CAPITAL LETTER OMEGA WITH PROSGEGRAMMENI,OXIA,DASIA"]

end SetupScript.Character
