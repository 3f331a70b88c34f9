/-!
# Names of Latin, Greek and Cyrillic letters

The names of Latin, Greek and Cyrillic letters, and the signs beside them.  A group of
characters begins with the code point of its first one and the words that all its names begin with;
behind a colon stands what is left of the name of each.
-/

namespace SetupScript.Character

/-- The groups of names, in rows. -/
def latinNames : List String := [
  "20:SPACE;21:EXCLAMATION MARK;22:QUOTATION MARK;23:NUMBER SIGN;24:DOLLAR SIGN;25:PERCENT SIGN",
  "26:AMPERSAND;27:APOSTROPHE;28:LEFT PARENTHESIS;29:RIGHT PARENTHESIS;2A:ASTERISK;2B:PLUS SIGN",
  "2C:COMMA;2D:HYPHEN-MINUS;2E:FULL STOP;2F:SOLIDUS;30:DIGIT ZERO;31:DIGIT ONE;32:DIGIT TWO",
  "33:DIGIT THREE;34:DIGIT FOUR;35:DIGIT FIVE;36:DIGIT SIX;37:DIGIT SEVEN;38:DIGIT EIGHT",
  "39:DIGIT NINE;3A:COLON;3B:SEMICOLON;3C:LESS-THAN SIGN;3D:EQUALS SIGN;3E:GREATER-THAN SIGN",
  "3F:QUESTION MARK;40:COMMERCIAL AT",
  "41 LATIN CAPITAL LETTER:A,B,C,D,E,F,G,H,I,J,K,L,M,N,O,P,Q,R,S,T,U,V,W,X,Y,Z",
  "5B:LEFT SQUARE BRACKET;5C:REVERSE SOLIDUS;5D:RIGHT SQUARE BRACKET;5E:CIRCUMFLEX ACCENT",
  "5F:LOW LINE;60:GRAVE ACCENT",
  "61 LATIN SMALL LETTER:A,B,C,D,E,F,G,H,I,J,K,L,M,N,O,P,Q,R,S,T,U,V,W,X,Y,Z",
  "7B:LEFT CURLY BRACKET;7C:VERTICAL LINE;7D:RIGHT CURLY BRACKET;7E:TILDE;A0:NO-BREAK SPACE",
  "A1:INVERTED EXCLAMATION MARK;A2:CENT SIGN;A3:POUND SIGN;A4:CURRENCY SIGN;A5:YEN SIGN",
  "A6:BROKEN BAR;A7:SECTION SIGN;A8:DIAERESIS;A9:COPYRIGHT SIGN;AA:FEMININE ORDINAL INDICATOR",
  "AB:LEFT-POINTING DOUBLE ANGLE QUOTATION MARK;AC:NOT SIGN;AD:SOFT HYPHEN;AE:REGISTERED SIGN",
  "AF:MACRON;B0:DEGREE SIGN;B1:PLUS-MINUS SIGN;B2:SUPERSCRIPT TWO;B3:SUPERSCRIPT THREE",
  "B4:ACUTE ACCENT;B5:MICRO SIGN;B6:PILCROW SIGN;B7:MIDDLE DOT;B8:CEDILLA;B9:SUPERSCRIPT ONE",
  "BA:MASCULINE ORDINAL INDICATOR;BB:RIGHT-POINTING DOUBLE ANGLE QUOTATION MARK",
  "BC:VULGAR FRACTION ONE QUARTER;BD:VULGAR FRACTION ONE HALF;BE:VULGAR FRACTION THREE QUARTERS",
  "BF:INVERTED QUESTION MARK;C0:LATIN CAPITAL LETTER A WITH GRAVE",
  "C1:LATIN CAPITAL LETTER A WITH ACUTE;C2:LATIN CAPITAL LETTER A WITH CIRCUMFLEX",
  "C3:LATIN CAPITAL LETTER A WITH TILDE;C4:LATIN CAPITAL LETTER A WITH DIAERESIS",
  "C5:LATIN CAPITAL LETTER A WITH RING ABOVE;C6:LATIN CAPITAL LETTER AE",
  "C7:LATIN CAPITAL LETTER C WITH CEDILLA;C8:LATIN CAPITAL LETTER E WITH GRAVE",
  "C9:LATIN CAPITAL LETTER E WITH ACUTE;CA:LATIN CAPITAL LETTER E WITH CIRCUMFLEX",
  "CB:LATIN CAPITAL LETTER E WITH DIAERESIS;CC:LATIN CAPITAL LETTER I WITH GRAVE",
  "CD:LATIN CAPITAL LETTER I WITH ACUTE;CE:LATIN CAPITAL LETTER I WITH CIRCUMFLEX",
  "CF:LATIN CAPITAL LETTER I WITH DIAERESIS;D0:LATIN CAPITAL LETTER ETH",
  "D1:LATIN CAPITAL LETTER N WITH TILDE;D2:LATIN CAPITAL LETTER O WITH GRAVE",
  "D3:LATIN CAPITAL LETTER O WITH ACUTE;D4:LATIN CAPITAL LETTER O WITH CIRCUMFLEX",
  "D5:LATIN CAPITAL LETTER O WITH TILDE;D6:LATIN CAPITAL LETTER O WITH DIAERESIS",
  "D7:MULTIPLICATION SIGN;D8:LATIN CAPITAL LETTER O WITH STROKE",
  "D9:LATIN CAPITAL LETTER U WITH GRAVE;DA:LATIN CAPITAL LETTER U WITH ACUTE",
  "DB:LATIN CAPITAL LETTER U WITH CIRCUMFLEX;DC:LATIN CAPITAL LETTER U WITH DIAERESIS",
  "DD:LATIN CAPITAL LETTER Y WITH ACUTE;DE:LATIN CAPITAL LETTER THORN",
  "DF:LATIN SMALL LETTER SHARP S;E0:LATIN SMALL LETTER A WITH GRAVE",
  "E1:LATIN SMALL LETTER A WITH ACUTE;E2:LATIN SMALL LETTER A WITH CIRCUMFLEX",
  "E3:LATIN SMALL LETTER A WITH TILDE;E4:LATIN SMALL LETTER A WITH DIAERESIS",
  "E5:LATIN SMALL LETTER A WITH RING ABOVE;E6:LATIN SMALL LETTER AE",
  "E7:LATIN SMALL LETTER C WITH CEDILLA;E8:LATIN SMALL LETTER E WITH GRAVE",
  "E9:LATIN SMALL LETTER E WITH ACUTE;EA:LATIN SMALL LETTER E WITH CIRCUMFLEX",
  "EB:LATIN SMALL LETTER E WITH DIAERESIS;EC:LATIN SMALL LETTER I WITH GRAVE",
  "ED:LATIN SMALL LETTER I WITH ACUTE;EE:LATIN SMALL LETTER I WITH CIRCUMFLEX",
  "EF:LATIN SMALL LETTER I WITH DIAERESIS;F0:LATIN SMALL LETTER ETH",
  "F1:LATIN SMALL LETTER N WITH TILDE;F2:LATIN SMALL LETTER O WITH GRAVE",
  "F3:LATIN SMALL LETTER O WITH ACUTE;F4:LATIN SMALL LETTER O WITH CIRCUMFLEX",
  "F5:LATIN SMALL LETTER O WITH TILDE;F6:LATIN SMALL LETTER O WITH DIAERESIS;F7:DIVISION SIGN",
  "F8 LATIN:SMALL LETTER O WITH STROKE,SMALL LETTER U WITH GRAVE,SMALL LETTER U WITH ACUTE",
  "FB LATIN:SMALL LETTER U WITH CIRCUMFLEX,SMALL LETTER U WITH DIAERESIS",
  "FD LATIN:SMALL LETTER Y WITH ACUTE,SMALL LETTER THORN,SMALL LETTER Y WITH DIAERESIS",
  "100 LATIN:CAPITAL LETTER A WITH MACRON,SMALL LETTER A WITH MACRON",
  "102 LATIN:CAPITAL LETTER A WITH BREVE,SMALL LETTER A WITH BREVE,CAPITAL LETTER A WITH OGONEK",
  "105 LATIN:SMALL LETTER A WITH OGONEK,CAPITAL LETTER C WITH ACUTE,SMALL LETTER C WITH ACUTE",
  "108 LATIN:CAPITAL LETTER C WITH CIRCUMFLEX,SMALL LETTER C WITH CIRCUMFLEX",
  "10A LATIN:CAPITAL LETTER C WITH DOT ABOVE,SMALL LETTER C WITH DOT ABOVE",
  "10C LATIN:CAPITAL LETTER C WITH CARON,SMALL LETTER C WITH CARON,CAPITAL LETTER D WITH CARON",
  "10F LATIN:SMALL LETTER D WITH CARON,CAPITAL LETTER D WITH STROKE,SMALL LETTER D WITH STROKE",
  "112 LATIN:CAPITAL LETTER E WITH MACRON,SMALL LETTER E WITH MACRON",
  "114 LATIN:CAPITAL LETTER E WITH BREVE,SMALL LETTER E WITH BREVE",
  "116 LATIN:CAPITAL LETTER E WITH DOT ABOVE,SMALL LETTER E WITH DOT ABOVE",
  "118 LATIN:CAPITAL LETTER E WITH OGONEK,SMALL LETTER E WITH OGONEK",
  "11A LATIN:CAPITAL LETTER E WITH CARON,SMALL LETTER E WITH CARON",
  "11C LATIN:CAPITAL LETTER G WITH CIRCUMFLEX,SMALL LETTER G WITH CIRCUMFLEX",
  "11E LATIN:CAPITAL LETTER G WITH BREVE,SMALL LETTER G WITH BREVE",
  "120 LATIN:CAPITAL LETTER G WITH DOT ABOVE,SMALL LETTER G WITH DOT ABOVE",
  "122 LATIN:CAPITAL LETTER G WITH CEDILLA,SMALL LETTER G WITH CEDILLA",
  "124 LATIN:CAPITAL LETTER H WITH CIRCUMFLEX,SMALL LETTER H WITH CIRCUMFLEX",
  "126 LATIN:CAPITAL LETTER H WITH STROKE,SMALL LETTER H WITH STROKE",
  "128 LATIN:CAPITAL LETTER I WITH TILDE,SMALL LETTER I WITH TILDE,CAPITAL LETTER I WITH MACRON",
  "12B LATIN:SMALL LETTER I WITH MACRON,CAPITAL LETTER I WITH BREVE,SMALL LETTER I WITH BREVE",
  "12E LATIN:CAPITAL LETTER I WITH OGONEK,SMALL LETTER I WITH OGONEK",
  "130 LATIN:CAPITAL LETTER I WITH DOT ABOVE,SMALL LETTER DOTLESS I,CAPITAL LIGATURE IJ",
  "133 LATIN:SMALL LIGATURE IJ,CAPITAL LETTER J WITH CIRCUMFLEX,SMALL LETTER J WITH CIRCUMFLEX",
  "136 LATIN:CAPITAL LETTER K WITH CEDILLA,SMALL LETTER K WITH CEDILLA,SMALL LETTER KRA",
  "139 LATIN:CAPITAL LETTER L WITH ACUTE,SMALL LETTER L WITH ACUTE",
  "13B LATIN:CAPITAL LETTER L WITH CEDILLA,SMALL LETTER L WITH CEDILLA",
  "13D LATIN:CAPITAL LETTER L WITH CARON,SMALL LETTER L WITH CARON",
  "13F LATIN:CAPITAL LETTER L WITH MIDDLE DOT,SMALL LETTER L WITH MIDDLE DOT",
  "141 LATIN:CAPITAL LETTER L WITH STROKE,SMALL LETTER L WITH STROKE",
  "143 LATIN:CAPITAL LETTER N WITH ACUTE,SMALL LETTER N WITH ACUTE",
  "145 LATIN:CAPITAL LETTER N WITH CEDILLA,SMALL LETTER N WITH CEDILLA",
  "147 LATIN:CAPITAL LETTER N WITH CARON,SMALL LETTER N WITH CARON",
  "149 LATIN:SMALL LETTER N PRECEDED BY APOSTROPHE,CAPITAL LETTER ENG,SMALL LETTER ENG",
  "14C LATIN:CAPITAL LETTER O WITH MACRON,SMALL LETTER O WITH MACRON",
  "14E LATIN:CAPITAL LETTER O WITH BREVE,SMALL LETTER O WITH BREVE",
  "150 LATIN:CAPITAL LETTER O WITH DOUBLE ACUTE,SMALL LETTER O WITH DOUBLE ACUTE",
  "152 LATIN:CAPITAL LIGATURE OE,SMALL LIGATURE OE,CAPITAL LETTER R WITH ACUTE",
  "155 LATIN:SMALL LETTER R WITH ACUTE,CAPITAL LETTER R WITH CEDILLA",
  "157 LATIN:SMALL LETTER R WITH CEDILLA,CAPITAL LETTER R WITH CARON,SMALL LETTER R WITH CARON",
  "15A LATIN:CAPITAL LETTER S WITH ACUTE,SMALL LETTER S WITH ACUTE",
  "15C LATIN:CAPITAL LETTER S WITH CIRCUMFLEX,SMALL LETTER S WITH CIRCUMFLEX",
  "15E LATIN:CAPITAL LETTER S WITH CEDILLA,SMALL LETTER S WITH CEDILLA",
  "160 LATIN:CAPITAL LETTER S WITH CARON,SMALL LETTER S WITH CARON",
  "162 LATIN:CAPITAL LETTER T WITH CEDILLA,SMALL LETTER T WITH CEDILLA",
  "164 LATIN:CAPITAL LETTER T WITH CARON,SMALL LETTER T WITH CARON,CAPITAL LETTER T WITH STROKE",
  "167 LATIN:SMALL LETTER T WITH STROKE,CAPITAL LETTER U WITH TILDE,SMALL LETTER U WITH TILDE",
  "16A LATIN:CAPITAL LETTER U WITH MACRON,SMALL LETTER U WITH MACRON",
  "16C LATIN:CAPITAL LETTER U WITH BREVE,SMALL LETTER U WITH BREVE",
  "16E LATIN:CAPITAL LETTER U WITH RING ABOVE,SMALL LETTER U WITH RING ABOVE",
  "170 LATIN:CAPITAL LETTER U WITH DOUBLE ACUTE,SMALL LETTER U WITH DOUBLE ACUTE",
  "172 LATIN:CAPITAL LETTER U WITH OGONEK,SMALL LETTER U WITH OGONEK",
  "174 LATIN:CAPITAL LETTER W WITH CIRCUMFLEX,SMALL LETTER W WITH CIRCUMFLEX",
  "176 LATIN:CAPITAL LETTER Y WITH CIRCUMFLEX,SMALL LETTER Y WITH CIRCUMFLEX",
  "178 LATIN:CAPITAL LETTER Y WITH DIAERESIS,CAPITAL LETTER Z WITH ACUTE",
  "17A LATIN:SMALL LETTER Z WITH ACUTE,CAPITAL LETTER Z WITH DOT ABOVE",
  "17C LATIN:SMALL LETTER Z WITH DOT ABOVE,CAPITAL LETTER Z WITH CARON",
  "17E LATIN:SMALL LETTER Z WITH CARON,SMALL LETTER LONG S,SMALL LETTER B WITH STROKE",
  "181 LATIN:CAPITAL LETTER B WITH HOOK,CAPITAL LETTER B WITH TOPBAR,SMALL LETTER B WITH TOPBAR",
  "184 LATIN:CAPITAL LETTER TONE SIX,SMALL LETTER TONE SIX,CAPITAL LETTER OPEN O",
  "187 LATIN:CAPITAL LETTER C WITH HOOK,SMALL LETTER C WITH HOOK,CAPITAL LETTER AFRICAN D",
  "18A LATIN:CAPITAL LETTER D WITH HOOK,CAPITAL LETTER D WITH TOPBAR,SMALL LETTER D WITH TOPBAR",
  "18D LATIN:SMALL LETTER TURNED DELTA,CAPITAL LETTER REVERSED E,CAPITAL LETTER SCHWA",
  "190 LATIN:CAPITAL LETTER OPEN E,CAPITAL LETTER F WITH HOOK,SMALL LETTER F WITH HOOK",
  "193 LATIN:CAPITAL LETTER G WITH HOOK,CAPITAL LETTER GAMMA,SMALL LETTER HV",
  "196 LATIN:CAPITAL LETTER IOTA,CAPITAL LETTER I WITH STROKE,CAPITAL LETTER K WITH HOOK",
  "199 LATIN:SMALL LETTER K WITH HOOK,SMALL LETTER L WITH BAR,SMALL LETTER LAMBDA WITH STROKE",
  "19C LATIN:CAPITAL LETTER TURNED M,CAPITAL LETTER N WITH LEFT HOOK",
  "19E LATIN:SMALL LETTER N WITH LONG RIGHT LEG,CAPITAL LETTER O WITH MIDDLE TILDE",
  "1A0 LATIN:CAPITAL LETTER O WITH HORN,SMALL LETTER O WITH HORN,CAPITAL LETTER OI",
  "1A3 LATIN:SMALL LETTER OI,CAPITAL LETTER P WITH HOOK,SMALL LETTER P WITH HOOK,LETTER YR",
  "1A7 LATIN:CAPITAL LETTER TONE TWO,SMALL LETTER TONE TWO,CAPITAL LETTER ESH",
  "1AA LATIN:LETTER REVERSED ESH LOOP,SMALL LETTER T WITH PALATAL HOOK",
  "1AC LATIN:CAPITAL LETTER T WITH HOOK,SMALL LETTER T WITH HOOK",
  "1AE LATIN:CAPITAL LETTER T WITH RETROFLEX HOOK,CAPITAL LETTER U WITH HORN",
  "1B0 LATIN:SMALL LETTER U WITH HORN,CAPITAL LETTER UPSILON,CAPITAL LETTER V WITH HOOK",
  "1B3 LATIN:CAPITAL LETTER Y WITH HOOK,SMALL LETTER Y WITH HOOK,CAPITAL LETTER Z WITH STROKE",
  "1B6 LATIN:SMALL LETTER Z WITH STROKE,CAPITAL LETTER EZH,CAPITAL LETTER EZH REVERSED",
  "1B9 LATIN:SMALL LETTER EZH REVERSED,SMALL LETTER EZH WITH TAIL,LETTER TWO WITH STROKE",
  "1BC LATIN:CAPITAL LETTER TONE FIVE,SMALL LETTER TONE FIVE",
  "1BE LATIN:LETTER INVERTED GLOTTAL STOP WITH STROKE,LETTER WYNN,LETTER DENTAL CLICK",
  "1C1 LATIN:LETTER LATERAL CLICK,LETTER ALVEOLAR CLICK,LETTER RETROFLEX CLICK",
  "1C4 LATIN:CAPITAL LETTER DZ WITH CARON,CAPITAL LETTER D WITH SMALL LETTER Z WITH CARON",
  "1C6 LATIN:SMALL LETTER DZ WITH CARON,CAPITAL LETTER LJ,CAPITAL LETTER L WITH SMALL LETTER J",
  "1C9 LATIN:SMALL LETTER LJ,CAPITAL LETTER NJ,CAPITAL LETTER N WITH SMALL LETTER J",
  "1CC LATIN:SMALL LETTER NJ,CAPITAL LETTER A WITH CARON,SMALL LETTER A WITH CARON",
  "1CF LATIN:CAPITAL LETTER I WITH CARON,SMALL LETTER I WITH CARON,CAPITAL LETTER O WITH CARON",
  "1D2 LATIN:SMALL LETTER O WITH CARON,CAPITAL LETTER U WITH CARON,SMALL LETTER U WITH CARON",
  "1D5 LATIN:CAPITAL LETTER U WITH DIAERESIS AND MACRON",
  "1D6 LATIN:SMALL LETTER U WITH DIAERESIS AND MACRON,CAPITAL LETTER U WITH DIAERESIS AND ACUTE",
  "1D8 LATIN:SMALL LETTER U WITH DIAERESIS AND ACUTE,CAPITAL LETTER U WITH DIAERESIS AND CARON",
  "1DA LATIN:SMALL LETTER U WITH DIAERESIS AND CARON,CAPITAL LETTER U WITH DIAERESIS AND GRAVE",
  "1DC LATIN:SMALL LETTER U WITH DIAERESIS AND GRAVE,SMALL LETTER TURNED E",
  "1DE LATIN:CAPITAL LETTER A WITH DIAERESIS AND MACRON",
  "1DF LATIN:SMALL LETTER A WITH DIAERESIS AND MACRON",
  "1E0 LATIN:CAPITAL LETTER A WITH DOT ABOVE AND MACRON",
  "1E1 LATIN:SMALL LETTER A WITH DOT ABOVE AND MACRON,CAPITAL LETTER AE WITH MACRON",
  "1E3 LATIN:SMALL LETTER AE WITH MACRON,CAPITAL LETTER G WITH STROKE",
  "1E5 LATIN:SMALL LETTER G WITH STROKE,CAPITAL LETTER G WITH CARON,SMALL LETTER G WITH CARON",
  "1E8 LATIN:CAPITAL LETTER K WITH CARON,SMALL LETTER K WITH CARON,CAPITAL LETTER O WITH OGONEK",
  "1EB LATIN:SMALL LETTER O WITH OGONEK,CAPITAL LETTER O WITH OGONEK AND MACRON",
  "1ED LATIN:SMALL LETTER O WITH OGONEK AND MACRON,CAPITAL LETTER EZH WITH CARON",
  "1EF LATIN:SMALL LETTER EZH WITH CARON,SMALL LETTER J WITH CARON,CAPITAL LETTER DZ",
  "1F2 LATIN:CAPITAL LETTER D WITH SMALL LETTER Z,SMALL LETTER DZ,CAPITAL LETTER G WITH ACUTE",
  "1F5 LATIN:SMALL LETTER G WITH ACUTE,CAPITAL LETTER HWAIR,CAPITAL LETTER WYNN",
  "1F8 LATIN:CAPITAL LETTER N WITH GRAVE,SMALL LETTER N WITH GRAVE",
  "1FA LATIN:CAPITAL LETTER A WITH RING ABOVE AND ACUTE",
  "1FB LATIN:SMALL LETTER A WITH RING ABOVE AND ACUTE,CAPITAL LETTER AE WITH ACUTE",
  "1FD LATIN:SMALL LETTER AE WITH ACUTE,CAPITAL LETTER O WITH STROKE AND ACUTE",
  "1FF LATIN:SMALL LETTER O WITH STROKE AND ACUTE,CAPITAL LETTER A WITH DOUBLE GRAVE",
  "201 LATIN:SMALL LETTER A WITH DOUBLE GRAVE,CAPITAL LETTER A WITH INVERTED BREVE",
  "203 LATIN:SMALL LETTER A WITH INVERTED BREVE,CAPITAL LETTER E WITH DOUBLE GRAVE",
  "205 LATIN:SMALL LETTER E WITH DOUBLE GRAVE,CAPITAL LETTER E WITH INVERTED BREVE",
  "207 LATIN:SMALL LETTER E WITH INVERTED BREVE,CAPITAL LETTER I WITH DOUBLE GRAVE",
  "209 LATIN:SMALL LETTER I WITH DOUBLE GRAVE,CAPITAL LETTER I WITH INVERTED BREVE",
  "20B LATIN:SMALL LETTER I WITH INVERTED BREVE,CAPITAL LETTER O WITH DOUBLE GRAVE",
  "20D LATIN:SMALL LETTER O WITH DOUBLE GRAVE,CAPITAL LETTER O WITH INVERTED BREVE",
  "20F LATIN:SMALL LETTER O WITH INVERTED BREVE,CAPITAL LETTER R WITH DOUBLE GRAVE",
  "211 LATIN:SMALL LETTER R WITH DOUBLE GRAVE,CAPITAL LETTER R WITH INVERTED BREVE",
  "213 LATIN:SMALL LETTER R WITH INVERTED BREVE,CAPITAL LETTER U WITH DOUBLE GRAVE",
  "215 LATIN:SMALL LETTER U WITH DOUBLE GRAVE,CAPITAL LETTER U WITH INVERTED BREVE",
  "217 LATIN:SMALL LETTER U WITH INVERTED BREVE,CAPITAL LETTER S WITH COMMA BELOW",
  "219 LATIN:SMALL LETTER S WITH COMMA BELOW,CAPITAL LETTER T WITH COMMA BELOW",
  "21B LATIN:SMALL LETTER T WITH COMMA BELOW,CAPITAL LETTER YOGH,SMALL LETTER YOGH",
  "21E LATIN:CAPITAL LETTER H WITH CARON,SMALL LETTER H WITH CARON",
  "220 LATIN:CAPITAL LETTER N WITH LONG RIGHT LEG,SMALL LETTER D WITH CURL,CAPITAL LETTER OU",
  "223 LATIN:SMALL LETTER OU,CAPITAL LETTER Z WITH HOOK,SMALL LETTER Z WITH HOOK",
  "226 LATIN:CAPITAL LETTER A WITH DOT ABOVE,SMALL LETTER A WITH DOT ABOVE",
  "228 LATIN:CAPITAL LETTER E WITH CEDILLA,SMALL LETTER E WITH CEDILLA",
  "22A LATIN:CAPITAL LETTER O WITH DIAERESIS AND MACRON",
  "22B LATIN:SMALL LETTER O WITH DIAERESIS AND MACRON,CAPITAL LETTER O WITH TILDE AND MACRON",
  "22D LATIN:SMALL LETTER O WITH TILDE AND MACRON,CAPITAL LETTER O WITH DOT ABOVE",
  "22F LATIN:SMALL LETTER O WITH DOT ABOVE,CAPITAL LETTER O WITH DOT ABOVE AND MACRON",
  "231 LATIN:SMALL LETTER O WITH DOT ABOVE AND MACRON,CAPITAL LETTER Y WITH MACRON",
  "233 LATIN:SMALL LETTER Y WITH MACRON,SMALL LETTER L WITH CURL,SMALL LETTER N WITH CURL",
  "236 LATIN:SMALL LETTER T WITH CURL,SMALL LETTER DOTLESS J,SMALL LETTER DB DIGRAPH",
  "239 LATIN:SMALL LETTER QP DIGRAPH,CAPITAL LETTER A WITH STROKE,CAPITAL LETTER C WITH STROKE",
  "23C LATIN:SMALL LETTER C WITH STROKE,CAPITAL LETTER L WITH BAR",
  "23E LATIN:CAPITAL LETTER T WITH DIAGONAL STROKE,SMALL LETTER S WITH SWASH TAIL",
  "240 LATIN:SMALL LETTER Z WITH SWASH TAIL,CAPITAL LETTER GLOTTAL STOP",
  "242 LATIN:SMALL LETTER GLOTTAL STOP,CAPITAL LETTER B WITH STROKE,CAPITAL LETTER U BAR",
  "245 LATIN:CAPITAL LETTER TURNED V,CAPITAL LETTER E WITH STROKE,SMALL LETTER E WITH STROKE",
  "248 LATIN:CAPITAL LETTER J WITH STROKE,SMALL LETTER J WITH STROKE",
  "24A LATIN:CAPITAL LETTER SMALL Q WITH HOOK TAIL,SMALL LETTER Q WITH HOOK TAIL",
  "24C LATIN:CAPITAL LETTER R WITH STROKE,SMALL LETTER R WITH STROKE",
  "24E LATIN:CAPITAL LETTER Y WITH STROKE,SMALL LETTER Y WITH STROKE,SMALL LETTER TURNED A",
  "251 LATIN:SMALL LETTER ALPHA,SMALL LETTER TURNED ALPHA,SMALL LETTER B WITH HOOK",
  "254 LATIN:SMALL LETTER OPEN O,SMALL LETTER C WITH CURL,SMALL LETTER D WITH TAIL",
  "257 LATIN:SMALL LETTER D WITH HOOK,SMALL LETTER REVERSED E,SMALL LETTER SCHWA",
  "25A LATIN:SMALL LETTER SCHWA WITH HOOK,SMALL LETTER OPEN E,SMALL LETTER REVERSED OPEN E",
  "25D LATIN:SMALL LETTER REVERSED OPEN E WITH HOOK,SMALL LETTER CLOSED REVERSED OPEN E",
  "25F LATIN:SMALL LETTER DOTLESS J WITH STROKE,SMALL LETTER G WITH HOOK,SMALL LETTER SCRIPT G",
  "262 LATIN:LETTER SMALL CAPITAL G,SMALL LETTER GAMMA,SMALL LETTER RAMS HORN",
  "265 LATIN:SMALL LETTER TURNED H,SMALL LETTER H WITH HOOK,SMALL LETTER HENG WITH HOOK",
  "268 LATIN:SMALL LETTER I WITH STROKE,SMALL LETTER IOTA,LETTER SMALL CAPITAL I",
  "26B LATIN:SMALL LETTER L WITH MIDDLE TILDE,SMALL LETTER L WITH BELT",
  "26D LATIN:SMALL LETTER L WITH RETROFLEX HOOK,SMALL LETTER LEZH,SMALL LETTER TURNED M",
  "270 LATIN:SMALL LETTER TURNED M WITH LONG LEG,SMALL LETTER M WITH HOOK",
  "272 LATIN:SMALL LETTER N WITH LEFT HOOK,SMALL LETTER N WITH RETROFLEX HOOK",
  "274 LATIN:LETTER SMALL CAPITAL N,SMALL LETTER BARRED O,LETTER SMALL CAPITAL OE",
  "277 LATIN:SMALL LETTER CLOSED OMEGA,SMALL LETTER PHI,SMALL LETTER TURNED R",
  "27A LATIN:SMALL LETTER TURNED R WITH LONG LEG,SMALL LETTER TURNED R WITH HOOK",
  "27C LATIN:SMALL LETTER R WITH LONG LEG,SMALL LETTER R WITH TAIL,SMALL LETTER R WITH FISHHOOK",
  "27F LATIN:SMALL LETTER REVERSED R WITH FISHHOOK,LETTER SMALL CAPITAL R",
  "281 LATIN:LETTER SMALL CAPITAL INVERTED R,SMALL LETTER S WITH HOOK,SMALL LETTER ESH",
  "284 LATIN:SMALL LETTER DOTLESS J WITH STROKE AND HOOK,SMALL LETTER SQUAT REVERSED ESH",
  "286 LATIN:SMALL LETTER ESH WITH CURL,SMALL LETTER TURNED T",
  "288 LATIN:SMALL LETTER T WITH RETROFLEX HOOK,SMALL LETTER U BAR,SMALL LETTER UPSILON",
  "28B LATIN:SMALL LETTER V WITH HOOK,SMALL LETTER TURNED V,SMALL LETTER TURNED W",
  "28E LATIN:SMALL LETTER TURNED Y,LETTER SMALL CAPITAL Y,SMALL LETTER Z WITH RETROFLEX HOOK",
  "291 LATIN:SMALL LETTER Z WITH CURL,SMALL LETTER EZH,SMALL LETTER EZH WITH CURL",
  "294 LATIN:LETTER GLOTTAL STOP,LETTER PHARYNGEAL VOICED FRICATIVE",
  "296 LATIN:LETTER INVERTED GLOTTAL STOP,LETTER STRETCHED C,LETTER BILABIAL CLICK",
  "299 LATIN:LETTER SMALL CAPITAL B,SMALL LETTER CLOSED OPEN E,LETTER SMALL CAPITAL G WITH HOOK",
  "29C LATIN:LETTER SMALL CAPITAL H,SMALL LETTER J WITH CROSSED-TAIL,SMALL LETTER TURNED K",
  "29F LATIN:LETTER SMALL CAPITAL L,SMALL LETTER Q WITH HOOK,LETTER GLOTTAL STOP WITH STROKE",
  "2A2 LATIN:LETTER REVERSED GLOTTAL STOP WITH STROKE,SMALL LETTER DZ DIGRAPH",
  "2A4 LATIN:SMALL LETTER DEZH DIGRAPH,SMALL LETTER DZ DIGRAPH WITH CURL",
  "2A6 LATIN:SMALL LETTER TS DIGRAPH,SMALL LETTER TESH DIGRAPH",
  "2A8 LATIN:SMALL LETTER TC DIGRAPH WITH CURL,SMALL LETTER FENG DIGRAPH",
  "2AA LATIN:SMALL LETTER LS DIGRAPH,SMALL LETTER LZ DIGRAPH,LETTER BILABIAL PERCUSSIVE",
  "2AD LATIN:LETTER BIDENTAL PERCUSSIVE,SMALL LETTER TURNED H WITH FISHHOOK",
  "2AF LATIN:SMALL LETTER TURNED H WITH FISHHOOK AND TAIL",
  "2B0 MODIFIER LETTER:SMALL H,SMALL H WITH HOOK,SMALL J,SMALL R,SMALL TURNED R",
  "2B5 MODIFIER LETTER:SMALL TURNED R WITH HOOK,SMALL CAPITAL INVERTED R,SMALL W,SMALL Y,PRIME",
  "2BA MODIFIER LETTER:DOUBLE PRIME,TURNED COMMA,APOSTROPHE,REVERSED COMMA,RIGHT HALF RING",
  "2BF MODIFIER LETTER:LEFT HALF RING,GLOTTAL STOP,REVERSED GLOTTAL STOP,LEFT ARROWHEAD",
  "2C3 MODIFIER LETTER:RIGHT ARROWHEAD,UP ARROWHEAD,DOWN ARROWHEAD,CIRCUMFLEX ACCENT;2C7:CARON",
  "2C8 MODIFIER LETTER:VERTICAL LINE,MACRON,ACUTE ACCENT,GRAVE ACCENT,LOW VERTICAL LINE",
  "2CD MODIFIER LETTER:LOW MACRON,LOW GRAVE ACCENT,LOW ACUTE ACCENT,TRIANGULAR COLON",
  "2D1 MODIFIER LETTER:HALF TRIANGULAR COLON,CENTRED RIGHT HALF RING,CENTRED LEFT HALF RING",
  "2D4 MODIFIER LETTER:UP TACK,DOWN TACK,PLUS SIGN,MINUS SIGN;2D8:BREVE;2D9:DOT ABOVE",
  "2DA:RING ABOVE;2DB:OGONEK;2DC:SMALL TILDE;2DD:DOUBLE ACUTE ACCENT",
  "2DE MODIFIER LETTER:RHOTIC HOOK,CROSS ACCENT,SMALL GAMMA,SMALL L,SMALL S,SMALL X",
  "2E4 MODIFIER LETTER:SMALL REVERSED GLOTTAL STOP,EXTRA-HIGH TONE BAR,HIGH TONE BAR",
  "2E7 MODIFIER LETTER:MID TONE BAR,LOW TONE BAR,EXTRA-LOW TONE BAR,YIN DEPARTING TONE MARK",
  "2EB MODIFIER LETTER:YANG DEPARTING TONE MARK,VOICING,UNASPIRATED,DOUBLE APOSTROPHE",
  "2EF MODIFIER LETTER:LOW DOWN ARROWHEAD,LOW UP ARROWHEAD,LOW LEFT ARROWHEAD",
  "2F2 MODIFIER LETTER:LOW RIGHT ARROWHEAD,LOW RING,MIDDLE GRAVE ACCENT",
  "2F5 MODIFIER LETTER:MIDDLE DOUBLE GRAVE ACCENT,MIDDLE DOUBLE ACUTE ACCENT,LOW TILDE",
  "2F8 MODIFIER LETTER:RAISED COLON,BEGIN HIGH TONE,END HIGH TONE,BEGIN LOW TONE,END LOW TONE",
  "2FD MODIFIER LETTER:SHELF,OPEN SHELF,LOW LEFT ARROW",
  "300 COMBINING:GRAVE ACCENT,ACUTE ACCENT,CIRCUMFLEX ACCENT,TILDE,MACRON,OVERLINE,BREVE",
  "307 COMBINING:DOT ABOVE,DIAERESIS,HOOK ABOVE,RING ABOVE,DOUBLE ACUTE ACCENT,CARON",
  "30D COMBINING:VERTICAL LINE ABOVE,DOUBLE VERTICAL LINE ABOVE,DOUBLE GRAVE ACCENT,CANDRABINDU",
  "311 COMBINING:INVERTED BREVE,TURNED COMMA ABOVE,COMMA ABOVE,REVERSED COMMA ABOVE",
  "315 COMBINING:COMMA ABOVE RIGHT,GRAVE ACCENT BELOW,ACUTE ACCENT BELOW,LEFT TACK BELOW",
  "319 COMBINING:RIGHT TACK BELOW,LEFT ANGLE ABOVE,HORN,LEFT HALF RING BELOW,UP TACK BELOW",
  "31E COMBINING:DOWN TACK BELOW,PLUS SIGN BELOW,MINUS SIGN BELOW,PALATALIZED HOOK BELOW",
  "322 COMBINING:RETROFLEX HOOK BELOW,DOT BELOW,DIAERESIS BELOW,RING BELOW,COMMA BELOW,CEDILLA",
  "328 COMBINING:OGONEK,VERTICAL LINE BELOW,BRIDGE BELOW,INVERTED DOUBLE ARCH BELOW,CARON BELOW",
  "32D COMBINING:CIRCUMFLEX ACCENT BELOW,BREVE BELOW,INVERTED BREVE BELOW,TILDE BELOW",
  "331 COMBINING:MACRON BELOW,LOW LINE,DOUBLE LOW LINE,TILDE OVERLAY,SHORT STROKE OVERLAY",
  "336 COMBINING:LONG STROKE OVERLAY,SHORT SOLIDUS OVERLAY,LONG SOLIDUS OVERLAY",
  "339 COMBINING:RIGHT HALF RING BELOW,INVERTED BRIDGE BELOW,SQUARE BELOW,SEAGULL BELOW,X ABOVE",
  "33E COMBINING:VERTICAL TILDE,DOUBLE OVERLINE,GRAVE TONE MARK,ACUTE TONE MARK",
  "342 COMBINING:GREEK PERISPOMENI,GREEK KORONIS,GREEK DIALYTIKA TONOS,GREEK YPOGEGRAMMENI",
  "346 COMBINING:BRIDGE ABOVE,EQUALS SIGN BELOW,DOUBLE VERTICAL LINE BELOW,LEFT ANGLE BELOW",
  "34A COMBINING:NOT TILDE ABOVE,HOMOTHETIC ABOVE,ALMOST EQUAL TO ABOVE,LEFT RIGHT ARROW BELOW",
  "34E COMBINING:UPWARDS ARROW BELOW,GRAPHEME JOINER,RIGHT ARROWHEAD ABOVE,LEFT HALF RING ABOVE",
  "352 COMBINING:FERMATA,X BELOW,LEFT ARROWHEAD BELOW,RIGHT ARROWHEAD BELOW",
  "356 COMBINING:RIGHT ARROWHEAD AND UP ARROWHEAD BELOW,RIGHT HALF RING ABOVE,DOT ABOVE RIGHT",
  "359 COMBINING:ASTERISK BELOW,DOUBLE RING BELOW,ZIGZAG ABOVE,DOUBLE BREVE BELOW,DOUBLE BREVE",
  "35E COMBINING:DOUBLE MACRON,DOUBLE MACRON BELOW,DOUBLE TILDE,DOUBLE INVERTED BREVE",
  "362 COMBINING:DOUBLE RIGHTWARDS ARROW BELOW,LATIN SMALL LETTER A,LATIN SMALL LETTER E",
  "365 COMBINING:LATIN SMALL LETTER I,LATIN SMALL LETTER O,LATIN SMALL LETTER U",
  "368 COMBINING:LATIN SMALL LETTER C,LATIN SMALL LETTER D,LATIN SMALL LETTER H",
  "36B COMBINING:LATIN SMALL LETTER M,LATIN SMALL LETTER R,LATIN SMALL LETTER T",
  "36E COMBINING:LATIN SMALL LETTER V,LATIN SMALL LETTER X",
  "370 GREEK:CAPITAL LETTER HETA,SMALL LETTER HETA,CAPITAL LETTER ARCHAIC SAMPI",
  "373 GREEK:SMALL LETTER ARCHAIC SAMPI,NUMERAL SIGN,LOWER NUMERAL SIGN",
  "376 GREEK:CAPITAL LETTER PAMPHYLIAN DIGAMMA,SMALL LETTER PAMPHYLIAN DIGAMMA",
  "37A GREEK:YPOGEGRAMMENI,SMALL REVERSED LUNATE SIGMA SYMBOL,SMALL DOTTED LUNATE SIGMA SYMBOL",
  "37D GREEK:SMALL REVERSED DOTTED LUNATE SIGMA SYMBOL,QUESTION MARK,CAPITAL LETTER YOT",
  "384 GREEK:TONOS,DIALYTIKA TONOS,CAPITAL LETTER ALPHA WITH TONOS,ANO TELEIA",
  "388 GREEK:CAPITAL LETTER EPSILON WITH TONOS,CAPITAL LETTER ETA WITH TONOS",
  "38A GREEK:CAPITAL LETTER IOTA WITH TONOS;38C:GREEK CAPITAL LETTER OMICRON WITH TONOS",
  "38E GREEK:CAPITAL LETTER UPSILON WITH TONOS,CAPITAL LETTER OMEGA WITH TONOS",
  "390 GREEK:SMALL LETTER IOTA WITH DIALYTIKA AND TONOS,CAPITAL LETTER ALPHA",
  "392 GREEK:CAPITAL LETTER BETA,CAPITAL LETTER GAMMA,CAPITAL LETTER DELTA",
  "395 GREEK:CAPITAL LETTER EPSILON,CAPITAL LETTER ZETA,CAPITAL LETTER ETA,CAPITAL LETTER THETA",
  "399 GREEK:CAPITAL LETTER IOTA,CAPITAL LETTER KAPPA,CAPITAL LETTER LAMDA,CAPITAL LETTER MU",
  "39D GREEK:CAPITAL LETTER NU,CAPITAL LETTER XI,CAPITAL LETTER OMICRON,CAPITAL LETTER PI",
  "3A1 GREEK:CAPITAL LETTER RHO;3A3:GREEK CAPITAL LETTER SIGMA;3A4:GREEK CAPITAL LETTER TAU",
  "3A5:GREEK CAPITAL LETTER UPSILON;3A6:GREEK CAPITAL LETTER PHI;3A7:GREEK CAPITAL LETTER CHI",
  "3A8:GREEK CAPITAL LETTER PSI;3A9:GREEK CAPITAL LETTER OMEGA",
  "3AA:GREEK CAPITAL LETTER IOTA WITH DIALYTIKA;3AB:GREEK CAPITAL LETTER UPSILON WITH DIALYTIKA",
  "3AC GREEK SMALL LETTER:ALPHA WITH TONOS,EPSILON WITH TONOS,ETA WITH TONOS,IOTA WITH TONOS",
  "3B0 GREEK SMALL LETTER:UPSILON WITH DIALYTIKA AND TONOS,ALPHA,BETA,GAMMA,DELTA,EPSILON,ZETA",
  "3B7 GREEK SMALL LETTER:ETA,THETA,IOTA,KAPPA,LAMDA,MU,NU,XI,OMICRON,PI,RHO,FINAL SIGMA,SIGMA",
  "3C4 GREEK SMALL LETTER:TAU,UPSILON,PHI,CHI,PSI,OMEGA,IOTA WITH DIALYTIKA",
  "3CB GREEK SMALL LETTER:UPSILON WITH DIALYTIKA,OMICRON WITH TONOS,UPSILON WITH TONOS",
  "3CE GREEK SMALL LETTER:OMEGA WITH TONOS;3CF:GREEK CAPITAL KAI SYMBOL;3D0:GREEK BETA SYMBOL",
  "3D1:GREEK THETA SYMBOL;3D2:GREEK UPSILON WITH HOOK SYMBOL",
  "3D3:GREEK UPSILON WITH ACUTE AND HOOK SYMBOL",
  "3D4:GREEK UPSILON WITH DIAERESIS AND HOOK SYMBOL;3D5:GREEK PHI SYMBOL;3D6:GREEK PI SYMBOL",
  "3D7:GREEK KAI SYMBOL;3D8:GREEK LETTER ARCHAIC KOPPA;3D9:GREEK SMALL LETTER ARCHAIC KOPPA",
  "3DA:GREEK LETTER STIGMA;3DB:GREEK SMALL LETTER STIGMA;3DC:GREEK LETTER DIGAMMA",
  "3DD:GREEK SMALL LETTER DIGAMMA;3DE:GREEK LETTER KOPPA;3DF:GREEK SMALL LETTER KOPPA",
  "3E0:GREEK LETTER SAMPI;3E1:GREEK SMALL LETTER SAMPI;3E2:COPTIC CAPITAL LETTER SHEI",
  "3E3:COPTIC SMALL LETTER SHEI;3E4:COPTIC CAPITAL LETTER FEI;3E5:COPTIC SMALL LETTER FEI",
  "3E6:COPTIC CAPITAL LETTER KHEI;3E7:COPTIC SMALL LETTER KHEI;3E8:COPTIC CAPITAL LETTER HORI",
  "3E9:COPTIC SMALL LETTER HORI;3EA:COPTIC CAPITAL LETTER GANGIA;3EB:COPTIC SMALL LETTER GANGIA",
  "3EC:COPTIC CAPITAL LETTER SHIMA;3ED:COPTIC SMALL LETTER SHIMA;3EE:COPTIC CAPITAL LETTER DEI",
  "3EF:COPTIC SMALL LETTER DEI;3F0:GREEK KAPPA SYMBOL;3F1:GREEK RHO SYMBOL",
  "3F2:GREEK LUNATE SIGMA SYMBOL;3F3:GREEK LETTER YOT;3F4:GREEK CAPITAL THETA SYMBOL",
  "3F5:GREEK LUNATE EPSILON SYMBOL;3F6:GREEK REVERSED LUNATE EPSILON SYMBOL",
  "3F7:GREEK CAPITAL LETTER SHO;3F8:GREEK SMALL LETTER SHO",
  "3F9:GREEK CAPITAL LUNATE SIGMA SYMBOL;3FA:GREEK CAPITAL LETTER SAN",
  "3FB:GREEK SMALL LETTER SAN;3FC:GREEK RHO WITH STROKE SYMBOL",
  "3FD:GREEK CAPITAL REVERSED LUNATE SIGMA SYMBOL;3FE:GREEK CAPITAL DOTTED LUNATE SIGMA SYMBOL",
  "3FF:GREEK CAPITAL REVERSED DOTTED LUNATE SIGMA SYMBOL",
  "400 CYRILLIC:CAPITAL LETTER IE WITH GRAVE,CAPITAL LETTER IO,CAPITAL LETTER DJE",
  "403 CYRILLIC:CAPITAL LETTER GJE,CAPITAL LETTER UKRAINIAN IE,CAPITAL LETTER DZE",
  "406 CYRILLIC:CAPITAL LETTER BYELORUSSIAN-UKRAINIAN I,CAPITAL LETTER YI,CAPITAL LETTER JE",
  "409 CYRILLIC:CAPITAL LETTER LJE,CAPITAL LETTER NJE,CAPITAL LETTER TSHE,CAPITAL LETTER KJE",
  "40D CYRILLIC:CAPITAL LETTER I WITH GRAVE,CAPITAL LETTER SHORT U,CAPITAL LETTER DZHE",
  "410 CYRILLIC:CAPITAL LETTER A,CAPITAL LETTER BE,CAPITAL LETTER VE,CAPITAL LETTER GHE",
  "414 CYRILLIC:CAPITAL LETTER DE,CAPITAL LETTER IE,CAPITAL LETTER ZHE,CAPITAL LETTER ZE",
  "418 CYRILLIC:CAPITAL LETTER I,CAPITAL LETTER SHORT I,CAPITAL LETTER KA,CAPITAL LETTER EL",
  "41C CYRILLIC:CAPITAL LETTER EM,CAPITAL LETTER EN,CAPITAL LETTER O,CAPITAL LETTER PE",
  "420 CYRILLIC:CAPITAL LETTER ER,CAPITAL LETTER ES,CAPITAL LETTER TE,CAPITAL LETTER U",
  "424 CYRILLIC:CAPITAL LETTER EF,CAPITAL LETTER HA,CAPITAL LETTER TSE,CAPITAL LETTER CHE",
  "428 CYRILLIC:CAPITAL LETTER SHA,CAPITAL LETTER SHCHA,CAPITAL LETTER HARD SIGN",
  "42B CYRILLIC:CAPITAL LETTER YERU,CAPITAL LETTER SOFT SIGN,CAPITAL LETTER E,CAPITAL LETTER YU",
  "42F CYRILLIC:CAPITAL LETTER YA,SMALL LETTER A,SMALL LETTER BE,SMALL LETTER VE",
  "433 CYRILLIC:SMALL LETTER GHE,SMALL LETTER DE,SMALL LETTER IE,SMALL LETTER ZHE",
  "437 CYRILLIC:SMALL LETTER ZE,SMALL LETTER I,SMALL LETTER SHORT I,SMALL LETTER KA",
  "43B CYRILLIC:SMALL LETTER EL,SMALL LETTER EM,SMALL LETTER EN,SMALL LETTER O,SMALL LETTER PE",
  "440 CYRILLIC:SMALL LETTER ER,SMALL LETTER ES,SMALL LETTER TE,SMALL LETTER U,SMALL LETTER EF",
  "445 CYRILLIC:SMALL LETTER HA,SMALL LETTER TSE,SMALL LETTER CHE,SMALL LETTER SHA",
  "449 CYRILLIC:SMALL LETTER SHCHA,SMALL LETTER HARD SIGN,SMALL LETTER YERU",
  "44C CYRILLIC:SMALL LETTER SOFT SIGN,SMALL LETTER E,SMALL LETTER YU,SMALL LETTER YA",
  "450 CYRILLIC:SMALL LETTER IE WITH GRAVE,SMALL LETTER IO,SMALL LETTER DJE,SMALL LETTER GJE",
  "454 CYRILLIC:SMALL LETTER UKRAINIAN IE,SMALL LETTER DZE",
  "456 CYRILLIC:SMALL LETTER BYELORUSSIAN-UKRAINIAN I,SMALL LETTER YI,SMALL LETTER JE",
  "459 CYRILLIC:SMALL LETTER LJE,SMALL LETTER NJE,SMALL LETTER TSHE,SMALL LETTER KJE",
  "45D CYRILLIC:SMALL LETTER I WITH GRAVE,SMALL LETTER SHORT U,SMALL LETTER DZHE",
  "460 CYRILLIC:CAPITAL LETTER OMEGA,SMALL LETTER OMEGA,CAPITAL LETTER YAT,SMALL LETTER YAT",
  "464 CYRILLIC:CAPITAL LETTER IOTIFIED E,SMALL LETTER IOTIFIED E,CAPITAL LETTER LITTLE YUS",
  "467 CYRILLIC:SMALL LETTER LITTLE YUS,CAPITAL LETTER IOTIFIED LITTLE YUS",
  "469 CYRILLIC:SMALL LETTER IOTIFIED LITTLE YUS,CAPITAL LETTER BIG YUS,SMALL LETTER BIG YUS",
  "46C CYRILLIC:CAPITAL LETTER IOTIFIED BIG YUS,SMALL LETTER IOTIFIED BIG YUS",
  "46E CYRILLIC:CAPITAL LETTER KSI,SMALL LETTER KSI,CAPITAL LETTER PSI,SMALL LETTER PSI",
  "472 CYRILLIC:CAPITAL LETTER FITA,SMALL LETTER FITA,CAPITAL LETTER IZHITSA",
  "475 CYRILLIC:SMALL LETTER IZHITSA,CAPITAL LETTER IZHITSA WITH DOUBLE GRAVE ACCENT",
  "477 CYRILLIC:SMALL LETTER IZHITSA WITH DOUBLE GRAVE ACCENT,CAPITAL LETTER UK,SMALL LETTER UK",
  "47A CYRILLIC:CAPITAL LETTER ROUND OMEGA,SMALL LETTER ROUND OMEGA",
  "47C CYRILLIC:CAPITAL LETTER OMEGA WITH TITLO,SMALL LETTER OMEGA WITH TITLO,CAPITAL LETTER OT",
  "47F CYRILLIC:SMALL LETTER OT,CAPITAL LETTER KOPPA,SMALL LETTER KOPPA,THOUSANDS SIGN",
  "483:COMBINING CYRILLIC TITLO;484:COMBINING CYRILLIC PALATALIZATION",
  "485:COMBINING CYRILLIC DASIA PNEUMATA;486:COMBINING CYRILLIC PSILI PNEUMATA",
  "487:COMBINING CYRILLIC POKRYTIE;488:COMBINING CYRILLIC HUNDRED THOUSANDS SIGN",
  "489:COMBINING CYRILLIC MILLIONS SIGN",
  "48A CYRILLIC:CAPITAL LETTER SHORT I WITH TAIL,SMALL LETTER SHORT I WITH TAIL",
  "48C CYRILLIC:CAPITAL LETTER SEMISOFT SIGN,SMALL LETTER SEMISOFT SIGN",
  "48E CYRILLIC:CAPITAL LETTER ER WITH TICK,SMALL LETTER ER WITH TICK",
  "490 CYRILLIC:CAPITAL LETTER GHE WITH UPTURN,SMALL LETTER GHE WITH UPTURN",
  "492 CYRILLIC:CAPITAL LETTER GHE WITH STROKE,SMALL LETTER GHE WITH STROKE",
  "494 CYRILLIC:CAPITAL LETTER GHE WITH MIDDLE HOOK,SMALL LETTER GHE WITH MIDDLE HOOK",
  "496 CYRILLIC:CAPITAL LETTER ZHE WITH DESCENDER,SMALL LETTER ZHE WITH DESCENDER",
  "498 CYRILLIC:CAPITAL LETTER ZE WITH DESCENDER,SMALL LETTER ZE WITH DESCENDER",
  "49A CYRILLIC:CAPITAL LETTER KA WITH DESCENDER,SMALL LETTER KA WITH DESCENDER",
  "49C CYRILLIC:CAPITAL LETTER KA WITH VERTICAL STROKE,SMALL LETTER KA WITH VERTICAL STROKE",
  "49E CYRILLIC:CAPITAL LETTER KA WITH STROKE,SMALL LETTER KA WITH STROKE",
  "4A0 CYRILLIC:CAPITAL LETTER BASHKIR KA,SMALL LETTER BASHKIR KA",
  "4A2 CYRILLIC:CAPITAL LETTER EN WITH DESCENDER,SMALL LETTER EN WITH DESCENDER",
  "4A4 CYRILLIC:CAPITAL LIGATURE EN GHE,SMALL LIGATURE EN GHE",
  "4A6 CYRILLIC:CAPITAL LETTER PE WITH MIDDLE HOOK,SMALL LETTER PE WITH MIDDLE HOOK",
  "4A8 CYRILLIC:CAPITAL LETTER ABKHASIAN HA,SMALL LETTER ABKHASIAN HA",
  "4AA CYRILLIC:CAPITAL LETTER ES WITH DESCENDER,SMALL LETTER ES WITH DESCENDER",
  "4AC CYRILLIC:CAPITAL LETTER TE WITH DESCENDER,SMALL LETTER TE WITH DESCENDER",
  "4AE CYRILLIC:CAPITAL LETTER STRAIGHT U,SMALL LETTER STRAIGHT U",
  "4B0 CYRILLIC:CAPITAL LETTER STRAIGHT U WITH STROKE,SMALL LETTER STRAIGHT U WITH STROKE",
  "4B2 CYRILLIC:CAPITAL LETTER HA WITH DESCENDER,SMALL LETTER HA WITH DESCENDER",
  "4B4 CYRILLIC:CAPITAL LIGATURE TE TSE,SMALL LIGATURE TE TSE,CAPITAL LETTER CHE WITH DESCENDER",
  "4B7 CYRILLIC:SMALL LETTER CHE WITH DESCENDER,CAPITAL LETTER CHE WITH VERTICAL STROKE",
  "4B9 CYRILLIC:SMALL LETTER CHE WITH VERTICAL STROKE,CAPITAL LETTER SHHA,SMALL LETTER SHHA",
  "4BC CYRILLIC:CAPITAL LETTER ABKHASIAN CHE,SMALL LETTER ABKHASIAN CHE",
  "4BE CYRILLIC:CAPITAL LETTER ABKHASIAN CHE WITH DESCENDER",
  "4BF CYRILLIC:SMALL LETTER ABKHASIAN CHE WITH DESCENDER,LETTER PALOCHKA",
  "4C1 CYRILLIC:CAPITAL LETTER ZHE WITH BREVE,SMALL LETTER ZHE WITH BREVE",
  "4C3 CYRILLIC:CAPITAL LETTER KA WITH HOOK,SMALL LETTER KA WITH HOOK",
  "4C5 CYRILLIC:CAPITAL LETTER EL WITH TAIL,SMALL LETTER EL WITH TAIL",
  "4C7 CYRILLIC:CAPITAL LETTER EN WITH HOOK,SMALL LETTER EN WITH HOOK",
  "4C9 CYRILLIC:CAPITAL LETTER EN WITH TAIL,SMALL LETTER EN WITH TAIL",
  "4CB CYRILLIC:CAPITAL LETTER KHAKASSIAN CHE,SMALL LETTER KHAKASSIAN CHE",
  "4CD CYRILLIC:CAPITAL LETTER EM WITH TAIL,SMALL LETTER EM WITH TAIL,SMALL LETTER PALOCHKA",
  "4D0 CYRILLIC:CAPITAL LETTER A WITH BREVE,SMALL LETTER A WITH BREVE",
  "4D2 CYRILLIC:CAPITAL LETTER A WITH DIAERESIS,SMALL LETTER A WITH DIAERESIS",
  "4D4 CYRILLIC:CAPITAL LIGATURE A IE,SMALL LIGATURE A IE,CAPITAL LETTER IE WITH BREVE",
  "4D7 CYRILLIC:SMALL LETTER IE WITH BREVE,CAPITAL LETTER SCHWA,SMALL LETTER SCHWA",
  "4DA CYRILLIC:CAPITAL LETTER SCHWA WITH DIAERESIS,SMALL LETTER SCHWA WITH DIAERESIS",
  "4DC CYRILLIC:CAPITAL LETTER ZHE WITH DIAERESIS,SMALL LETTER ZHE WITH DIAERESIS",
  "4DE CYRILLIC:CAPITAL LETTER ZE WITH DIAERESIS,SMALL LETTER ZE WITH DIAERESIS",
  "4E0 CYRILLIC:CAPITAL LETTER ABKHASIAN DZE,SMALL LETTER ABKHASIAN DZE",
  "4E2 CYRILLIC:CAPITAL LETTER I WITH MACRON,SMALL LETTER I WITH MACRON",
  "4E4 CYRILLIC:CAPITAL LETTER I WITH DIAERESIS,SMALL LETTER I WITH DIAERESIS",
  "4E6 CYRILLIC:CAPITAL LETTER O WITH DIAERESIS,SMALL LETTER O WITH DIAERESIS",
  "4E8 CYRILLIC:CAPITAL LETTER BARRED O,SMALL LETTER BARRED O",
  "4EA CYRILLIC:CAPITAL LETTER BARRED O WITH DIAERESIS,SMALL LETTER BARRED O WITH DIAERESIS",
  "4EC CYRILLIC:CAPITAL LETTER E WITH DIAERESIS,SMALL LETTER E WITH DIAERESIS",
  "4EE CYRILLIC:CAPITAL LETTER U WITH MACRON,SMALL LETTER U WITH MACRON",
  "4F0 CYRILLIC:CAPITAL LETTER U WITH DIAERESIS,SMALL LETTER U WITH DIAERESIS",
  "4F2 CYRILLIC:CAPITAL LETTER U WITH DOUBLE ACUTE,SMALL LETTER U WITH DOUBLE ACUTE",
  "4F4 CYRILLIC:CAPITAL LETTER CHE WITH DIAERESIS,SMALL LETTER CHE WITH DIAERESIS",
  "4F6 CYRILLIC:CAPITAL LETTER GHE WITH DESCENDER,SMALL LETTER GHE WITH DESCENDER",
  "4F8 CYRILLIC:CAPITAL LETTER YERU WITH DIAERESIS,SMALL LETTER YERU WITH DIAERESIS",
  "4FA CYRILLIC:CAPITAL LETTER GHE WITH STROKE AND HOOK,SMALL LETTER GHE WITH STROKE AND HOOK",
  "4FC CYRILLIC:CAPITAL LETTER HA WITH HOOK,SMALL LETTER HA WITH HOOK",
  "4FE CYRILLIC:CAPITAL LETTER HA WITH STROKE,SMALL LETTER HA WITH STROKE",
  "500 CYRILLIC:CAPITAL LETTER KOMI DE,SMALL LETTER KOMI DE,CAPITAL LETTER KOMI DJE",
  "503 CYRILLIC:SMALL LETTER KOMI DJE,CAPITAL LETTER KOMI ZJE,SMALL LETTER KOMI ZJE",
  "506 CYRILLIC:CAPITAL LETTER KOMI DZJE,SMALL LETTER KOMI DZJE,CAPITAL LETTER KOMI LJE",
  "509 CYRILLIC:SMALL LETTER KOMI LJE,CAPITAL LETTER KOMI NJE,SMALL LETTER KOMI NJE",
  "50C CYRILLIC:CAPITAL LETTER KOMI SJE,SMALL LETTER KOMI SJE,CAPITAL LETTER KOMI TJE",
  "50F CYRILLIC:SMALL LETTER KOMI TJE,CAPITAL LETTER REVERSED ZE,SMALL LETTER REVERSED ZE",
  "512 CYRILLIC:CAPITAL LETTER EL WITH HOOK,SMALL LETTER EL WITH HOOK,CAPITAL LETTER LHA",
  "515 CYRILLIC:SMALL LETTER LHA,CAPITAL LETTER RHA,SMALL LETTER RHA,CAPITAL LETTER YAE",
  "519 CYRILLIC:SMALL LETTER YAE,CAPITAL LETTER QA,SMALL LETTER QA,CAPITAL LETTER WE",
  "51D CYRILLIC:SMALL LETTER WE,CAPITAL LETTER ALEUT KA,SMALL LETTER ALEUT KA",
  "520 CYRILLIC:CAPITAL LETTER EL WITH MIDDLE HOOK,SMALL LETTER EL WITH MIDDLE HOOK",
  "522 CYRILLIC:CAPITAL LETTER EN WITH MIDDLE HOOK,SMALL LETTER EN WITH MIDDLE HOOK",
  "524 CYRILLIC:CAPITAL LETTER PE WITH DESCENDER,SMALL LETTER PE WITH DESCENDER",
  "526 CYRILLIC:CAPITAL LETTER SHHA WITH DESCENDER,SMALL LETTER SHHA WITH DESCENDER",
  "528 CYRILLIC:CAPITAL LETTER EN WITH LEFT HOOK,SMALL LETTER EN WITH LEFT HOOK",
  "52A CYRILLIC:CAPITAL LETTER DZZHE,SMALL LETTER DZZHE,CAPITAL LETTER DCHE,SMALL LETTER DCHE",
  "52E CYRILLIC:CAPITAL LETTER EL WITH DESCENDER,SMALL LETTER EL WITH DESCENDER"]

end SetupScript.Character
