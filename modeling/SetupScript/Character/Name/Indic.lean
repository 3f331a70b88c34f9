/-!
# Names from Devanagari to Sinhala

The names of characters from Devanagari to Sinhala.  A group of
characters begins with the code point of its first one and the words that all its names begin with;
behind a colon stands what is left of the name of each.
-/

namespace SetupScript.Character

/-- The groups of names, in rows. -/
def indicNames : List String := [
  "900 DEVANAGARI:SIGN INVERTED CANDRABINDU,SIGN CANDRABINDU,SIGN ANUSVARA,SIGN VISARGA",
  "904 DEVANAGARI:LETTER SHORT A,LETTER A,LETTER AA,LETTER I,LETTER II,LETTER U,LETTER UU",
  "90B DEVANAGARI:LETTER VOCALIC R,LETTER VOCALIC L,LETTER CANDRA E,LETTER SHORT E,LETTER E",
  "910 DEVANAGARI:LETTER AI,LETTER CANDRA O,LETTER SHORT O,LETTER O,LETTER AU,LETTER KA",
  "916 DEVANAGARI:LETTER KHA,LETTER GA,LETTER GHA,LETTER NGA,LETTER CA,LETTER CHA,LETTER JA",
  "91D DEVANAGARI:LETTER JHA,LETTER NYA,LETTER TTA,LETTER TTHA,LETTER DDA,LETTER DDHA",
  "923 DEVANAGARI:LETTER NNA,LETTER TA,LETTER THA,LETTER DA,LETTER DHA,LETTER NA,LETTER NNNA",
  "92A DEVANAGARI:LETTER PA,LETTER PHA,LETTER BA,LETTER BHA,LETTER MA,LETTER YA,LETTER RA",
  "931 DEVANAGARI:LETTER RRA,LETTER LA,LETTER LLA,LETTER LLLA,LETTER VA,LETTER SHA,LETTER SSA",
  "938 DEVANAGARI:LETTER SA,LETTER HA,VOWEL SIGN OE,VOWEL SIGN OOE,SIGN NUKTA,SIGN AVAGRAHA",
  "93E DEVANAGARI:VOWEL SIGN AA,VOWEL SIGN I,VOWEL SIGN II,VOWEL SIGN U,VOWEL SIGN UU",
  "943 DEVANAGARI:VOWEL SIGN VOCALIC R,VOWEL SIGN VOCALIC RR,VOWEL SIGN CANDRA E",
  "946 DEVANAGARI:VOWEL SIGN SHORT E,VOWEL SIGN E,VOWEL SIGN AI,VOWEL SIGN CANDRA O",
  "94A DEVANAGARI:VOWEL SIGN SHORT O,VOWEL SIGN O,VOWEL SIGN AU,SIGN VIRAMA",
  "94E DEVANAGARI:VOWEL SIGN PRISHTHAMATRA E,VOWEL SIGN AW,OM,STRESS SIGN UDATTA",
  "952 DEVANAGARI:STRESS SIGN ANUDATTA,GRAVE ACCENT,ACUTE ACCENT,VOWEL SIGN CANDRA LONG E",
  "956 DEVANAGARI:VOWEL SIGN UE,VOWEL SIGN UUE,LETTER QA,LETTER KHHA,LETTER GHHA,LETTER ZA",
  "95C DEVANAGARI:LETTER DDDHA,LETTER RHA,LETTER FA,LETTER YYA,LETTER VOCALIC RR",
  "961 DEVANAGARI:LETTER VOCALIC LL,VOWEL SIGN VOCALIC L,VOWEL SIGN VOCALIC LL,DANDA",
  "965 DEVANAGARI:DOUBLE DANDA,DIGIT ZERO,DIGIT ONE,DIGIT TWO,DIGIT THREE,DIGIT FOUR,DIGIT FIVE",
  "96C DEVANAGARI:DIGIT SIX,DIGIT SEVEN,DIGIT EIGHT,DIGIT NINE,ABBREVIATION SIGN",
  "971 DEVANAGARI:SIGN HIGH SPACING DOT,LETTER CANDRA A,LETTER OE,LETTER OOE,LETTER AW",
  "976 DEVANAGARI:LETTER UE,LETTER UUE,LETTER MARWARI DDA,LETTER ZHA,LETTER HEAVY YA,LETTER GGA",
  "97C DEVANAGARI:LETTER JJA,LETTER GLOTTAL STOP,LETTER DDDA,LETTER BBA",
  "980 BENGALI:ANJI,SIGN CANDRABINDU,SIGN ANUSVARA,SIGN VISARGA",
  "985 BENGALI LETTER:A,AA,I,II,U,UU,VOCALIC R,VOCALIC L;98F BENGALI LETTER:E,AI",
  "993 BENGALI LETTER:O,AU,KA,KHA,GA,GHA,NGA,CA,CHA,JA,JHA,NYA,TTA,TTHA,DDA,DDHA,NNA,TA,THA,DA",
  "9A7 BENGALI LETTER:DHA,NA;9AA BENGALI LETTER:PA,PHA,BA,BHA,MA,YA,RA;9B2:BENGALI LETTER LA",
  "9B6 BENGALI LETTER:SHA,SSA,SA,HA",
  "9BC BENGALI:SIGN NUKTA,SIGN AVAGRAHA,VOWEL SIGN AA,VOWEL SIGN I,VOWEL SIGN II,VOWEL SIGN U",
  "9C2 BENGALI:VOWEL SIGN UU,VOWEL SIGN VOCALIC R,VOWEL SIGN VOCALIC RR",
  "9C7 BENGALI VOWEL SIGN:E,AI",
  "9CB BENGALI:VOWEL SIGN O,VOWEL SIGN AU,SIGN VIRAMA,LETTER KHANDA TA",
  "9D7:BENGALI AU LENGTH MARK;9DC BENGALI LETTER:RRA,RHA",
  "9DF BENGALI:LETTER YYA,LETTER VOCALIC RR,LETTER VOCALIC LL,VOWEL SIGN VOCALIC L",
  "9E3 BENGALI:VOWEL SIGN VOCALIC LL",
  "9E6 BENGALI:DIGIT ZERO,DIGIT ONE,DIGIT TWO,DIGIT THREE,DIGIT FOUR,DIGIT FIVE,DIGIT SIX",
  "9ED BENGALI:DIGIT SEVEN,DIGIT EIGHT,DIGIT NINE,LETTER RA WITH MIDDLE DIAGONAL",
  "9F1 BENGALI:LETTER RA WITH LOWER DIAGONAL,RUPEE MARK,RUPEE SIGN,CURRENCY NUMERATOR ONE",
  "9F5 BENGALI:CURRENCY NUMERATOR TWO,CURRENCY NUMERATOR THREE,CURRENCY NUMERATOR FOUR",
  "9F8 BENGALI:CURRENCY NUMERATOR ONE LESS THAN THE DENOMINATOR,CURRENCY DENOMINATOR SIXTEEN",
  "9FA BENGALI:ISSHAR,GANDA MARK,LETTER VEDIC ANUSVARA,ABBREVIATION SIGN,SANDHI MARK",
  "A01 GURMUKHI SIGN:ADAK BINDI,BINDI,VISARGA;A05 GURMUKHI LETTER:A,AA,I,II,U,UU",
  "A0F GURMUKHI LETTER:EE,AI",
  "A13 GURMUKHI LETTER:OO,AU,KA,KHA,GA,GHA,NGA,CA,CHA,JA,JHA,NYA,TTA,TTHA,DDA,DDHA,NNA,TA,THA",
  "A26 GURMUKHI LETTER:DA,DHA,NA;A2A GURMUKHI LETTER:PA,PHA,BA,BHA,MA,YA,RA",
  "A32 GURMUKHI LETTER:LA,LLA;A35 GURMUKHI LETTER:VA,SHA;A38 GURMUKHI LETTER:SA,HA",
  "A3C:GURMUKHI SIGN NUKTA;A3E GURMUKHI VOWEL SIGN:AA,I,II,U,UU;A47 GURMUKHI VOWEL SIGN:EE,AI",
  "A4B GURMUKHI VOWEL SIGN:OO,AU;A4D:GURMUKHI SIGN VIRAMA;A51:GURMUKHI SIGN UDAAT",
  "A59 GURMUKHI LETTER:KHHA,GHHA,ZA,RRA;A5E:GURMUKHI LETTER FA",
  "A66 GURMUKHI:DIGIT ZERO,DIGIT ONE,DIGIT TWO,DIGIT THREE,DIGIT FOUR,DIGIT FIVE,DIGIT SIX",
  "A6D GURMUKHI:DIGIT SEVEN,DIGIT EIGHT,DIGIT NINE,TIPPI,ADDAK,IRI,URA,EK ONKAR,SIGN YAKASH",
  "A76 GURMUKHI:ABBREVIATION SIGN;A81 GUJARATI SIGN:CANDRABINDU,ANUSVARA,VISARGA",
  "A85 GUJARATI LETTER:A,AA,I,II,U,UU,VOCALIC R,VOCALIC L;A8D:GUJARATI VOWEL CANDRA E",
  "A8F GUJARATI:LETTER E,LETTER AI,VOWEL CANDRA O",
  "A93 GUJARATI LETTER:O,AU,KA,KHA,GA,GHA,NGA,CA,CHA,JA,JHA,NYA,TTA,TTHA,DDA,DDHA,NNA,TA,THA,DA",
  "AA7 GUJARATI LETTER:DHA,NA;AAA GUJARATI LETTER:PA,PHA,BA,BHA,MA,YA,RA",
  "AB2 GUJARATI LETTER:LA,LLA;AB5 GUJARATI LETTER:VA,SHA,SSA,SA,HA",
  "ABC GUJARATI:SIGN NUKTA,SIGN AVAGRAHA,VOWEL SIGN AA,VOWEL SIGN I,VOWEL SIGN II,VOWEL SIGN U",
  "AC2 GUJARATI:VOWEL SIGN UU,VOWEL SIGN VOCALIC R,VOWEL SIGN VOCALIC RR,VOWEL SIGN CANDRA E",
  "AC7 GUJARATI VOWEL SIGN:E,AI,CANDRA O;ACB GUJARATI VOWEL SIGN:O,AU;ACD:GUJARATI SIGN VIRAMA",
  "AD0:GUJARATI OM",
  "AE0 GUJARATI:LETTER VOCALIC RR,LETTER VOCALIC LL,VOWEL SIGN VOCALIC L,VOWEL SIGN VOCALIC LL",
  "AE6 GUJARATI DIGIT:ZERO,ONE,TWO,THREE,FOUR,FIVE,SIX,SEVEN,EIGHT,NINE",
  "AF0 GUJARATI:ABBREVIATION SIGN,RUPEE SIGN",
  "AF9 GUJARATI:LETTER ZHA,SIGN SUKUN,SIGN SHADDA,SIGN MADDAH,SIGN THREE-DOT NUKTA ABOVE",
  "AFE GUJARATI:SIGN CIRCLE NUKTA ABOVE,SIGN TWO-CIRCLE NUKTA ABOVE",
  "B01 ORIYA SIGN:CANDRABINDU,ANUSVARA,VISARGA",
  "B05 ORIYA LETTER:A,AA,I,II,U,UU,VOCALIC R,VOCALIC L;B0F ORIYA LETTER:E,AI",
  "B13 ORIYA LETTER:O,AU,KA,KHA,GA,GHA,NGA,CA,CHA,JA,JHA,NYA,TTA,TTHA,DDA,DDHA,NNA,TA,THA,DA",
  "B27 ORIYA LETTER:DHA,NA;B2A ORIYA LETTER:PA,PHA,BA,BHA,MA,YA,RA;B32 ORIYA LETTER:LA,LLA",
  "B35 ORIYA LETTER:VA,SHA,SSA,SA,HA",
  "B3C ORIYA:SIGN NUKTA,SIGN AVAGRAHA,VOWEL SIGN AA,VOWEL SIGN I,VOWEL SIGN II,VOWEL SIGN U",
  "B42 ORIYA:VOWEL SIGN UU,VOWEL SIGN VOCALIC R,VOWEL SIGN VOCALIC RR;B47 ORIYA VOWEL SIGN:E,AI",
  "B4B ORIYA VOWEL SIGN:O,AU;B4D:ORIYA SIGN VIRAMA",
  "B55 ORIYA:SIGN OVERLINE,AI LENGTH MARK,AU LENGTH MARK;B5C ORIYA LETTER:RRA,RHA",
  "B5F ORIYA LETTER:YYA,VOCALIC RR,VOCALIC LL;B62 ORIYA VOWEL SIGN VOCALIC:L,LL",
  "B66 ORIYA DIGIT:ZERO,ONE,TWO,THREE,FOUR,FIVE,SIX,SEVEN,EIGHT,NINE",
  "B70 ORIYA:ISSHAR,LETTER WA,FRACTION ONE QUARTER,FRACTION ONE HALF,FRACTION THREE QUARTERS",
  "B75 ORIYA:FRACTION ONE SIXTEENTH,FRACTION ONE EIGHTH,FRACTION THREE SIXTEENTHS",
  "B82 TAMIL SIGN:ANUSVARA,VISARGA;B85 TAMIL LETTER:A,AA,I,II,U,UU;B8E TAMIL LETTER:E,EE,AI",
  "B92 TAMIL LETTER:O,OO,AU,KA;B99 TAMIL LETTER:NGA,CA;B9C:TAMIL LETTER JA",
  "B9E TAMIL LETTER:NYA,TTA;BA3 TAMIL LETTER:NNA,TA;BA8 TAMIL LETTER:NA,NNNA,PA",
  "BAE TAMIL LETTER:MA,YA,RA,RRA,LA,LLA,LLLA,VA,SHA,SSA,SA,HA;BBE TAMIL VOWEL SIGN:AA,I,II,U,UU",
  "BC6 TAMIL VOWEL SIGN:E,EE,AI;BCA TAMIL VOWEL SIGN:O,OO,AU;BCD:TAMIL SIGN VIRAMA;BD0:TAMIL OM",
  "BD7:TAMIL AU LENGTH MARK",
  "BE6 TAMIL:DIGIT ZERO,DIGIT ONE,DIGIT TWO,DIGIT THREE,DIGIT FOUR,DIGIT FIVE,DIGIT SIX",
  "BED TAMIL:DIGIT SEVEN,DIGIT EIGHT,DIGIT NINE,NUMBER TEN,NUMBER ONE HUNDRED",
  "BF2 TAMIL:NUMBER ONE THOUSAND,DAY SIGN,MONTH SIGN,YEAR SIGN,DEBIT SIGN,CREDIT SIGN",
  "BF8 TAMIL:AS ABOVE SIGN,RUPEE SIGN,NUMBER SIGN",
  "C00 TELUGU:SIGN COMBINING CANDRABINDU ABOVE,SIGN CANDRABINDU,SIGN ANUSVARA,SIGN VISARGA",
  "C04 TELUGU:SIGN COMBINING ANUSVARA ABOVE,LETTER A,LETTER AA,LETTER I,LETTER II,LETTER U",
  "C0A TELUGU:LETTER UU,LETTER VOCALIC R,LETTER VOCALIC L;C0E TELUGU LETTER:E,EE,AI",
  "C12 TELUGU LETTER:O,OO,AU,KA,KHA,GA,GHA,NGA,CA,CHA,JA,JHA,NYA,TTA,TTHA,DDA,DDHA,NNA,TA,THA",
  "C26 TELUGU LETTER:DA,DHA,NA",
  "C2A TELUGU LETTER:PA,PHA,BA,BHA,MA,YA,RA,RRA,LA,LLA,LLLA,VA,SHA,SSA,SA,HA",
  "C3C TELUGU:SIGN NUKTA,SIGN AVAGRAHA,VOWEL SIGN AA,VOWEL SIGN I,VOWEL SIGN II,VOWEL SIGN U",
  "C42 TELUGU:VOWEL SIGN UU,VOWEL SIGN VOCALIC R,VOWEL SIGN VOCALIC RR",
  "C46 TELUGU VOWEL SIGN:E,EE,AI;C4A TELUGU VOWEL SIGN:O,OO,AU;C4D:TELUGU SIGN VIRAMA",
  "C55 TELUGU:LENGTH MARK,AI LENGTH MARK;C58 TELUGU LETTER:TSA,DZA,RRRA",
  "C5D:TELUGU LETTER NAKAARA POLLU;C60 TELUGU LETTER VOCALIC:RR,LL",
  "C62 TELUGU VOWEL SIGN VOCALIC:L,LL",
  "C66 TELUGU DIGIT:ZERO,ONE,TWO,THREE,FOUR,FIVE,SIX,SEVEN,EIGHT,NINE",
  "C77 TELUGU:SIGN SIDDHAM,FRACTION DIGIT ZERO FOR ODD POWERS OF FOUR",
  "C79 TELUGU:FRACTION DIGIT ONE FOR ODD POWERS OF FOUR",
  "C7A TELUGU:FRACTION DIGIT TWO FOR ODD POWERS OF FOUR",
  "C7B TELUGU:FRACTION DIGIT THREE FOR ODD POWERS OF FOUR",
  "C7C TELUGU:FRACTION DIGIT ONE FOR EVEN POWERS OF FOUR",
  "C7D TELUGU:FRACTION DIGIT TWO FOR EVEN POWERS OF FOUR",
  "C7E TELUGU:FRACTION DIGIT THREE FOR EVEN POWERS OF FOUR,SIGN TUUMU",
  "C80 KANNADA:SIGN SPACING CANDRABINDU,SIGN CANDRABINDU,SIGN ANUSVARA,SIGN VISARGA",
  "C84 KANNADA:SIGN SIDDHAM,LETTER A,LETTER AA,LETTER I,LETTER II,LETTER U,LETTER UU",
  "C8B KANNADA:LETTER VOCALIC R,LETTER VOCALIC L;C8E KANNADA LETTER:E,EE,AI",
  "C92 KANNADA LETTER:O,OO,AU,KA,KHA,GA,GHA,NGA,CA,CHA,JA,JHA,NYA,TTA,TTHA,DDA,DDHA,NNA,TA,THA",
  "CA6 KANNADA LETTER:DA,DHA,NA;CAA KANNADA LETTER:PA,PHA,BA,BHA,MA,YA,RA,RRA,LA,LLA",
  "CB5 KANNADA LETTER:VA,SHA,SSA,SA,HA",
  "CBC KANNADA:SIGN NUKTA,SIGN AVAGRAHA,VOWEL SIGN AA,VOWEL SIGN I,VOWEL SIGN II,VOWEL SIGN U",
  "CC2 KANNADA:VOWEL SIGN UU,VOWEL SIGN VOCALIC R,VOWEL SIGN VOCALIC RR",
  "CC6 KANNADA VOWEL SIGN:E,EE,AI;CCA KANNADA VOWEL SIGN:O,OO,AU;CCD:KANNADA SIGN VIRAMA",
  "CD5 KANNADA:LENGTH MARK,AI LENGTH MARK;CDD KANNADA LETTER:NAKAARA POLLU,FA",
  "CE0 KANNADA:LETTER VOCALIC RR,LETTER VOCALIC LL,VOWEL SIGN VOCALIC L,VOWEL SIGN VOCALIC LL",
  "CE6 KANNADA DIGIT:ZERO,ONE,TWO,THREE,FOUR,FIVE,SIX,SEVEN,EIGHT,NINE",
  "CF1 KANNADA SIGN:JIHVAMULIYA,UPADHMANIYA",
  "D00 MALAYALAM:SIGN COMBINING ANUSVARA ABOVE,SIGN CANDRABINDU,SIGN ANUSVARA,SIGN VISARGA",
  "D04 MALAYALAM:LETTER VEDIC ANUSVARA,LETTER A,LETTER AA,LETTER I,LETTER II,LETTER U,LETTER UU",
  "D0B MALAYALAM:LETTER VOCALIC R,LETTER VOCALIC L;D0E MALAYALAM LETTER:E,EE,AI",
  "D12 MALAYALAM LETTER:O,OO,AU,KA,KHA,GA,GHA,NGA,CA,CHA,JA,JHA,NYA,TTA,TTHA,DDA,DDHA,NNA,TA",
  "D25 MALAYALAM LETTER:THA,DA,DHA,NA,NNNA,PA,PHA,BA,BHA,MA,YA,RA,RRA,LA,LLA,LLLA,VA,SHA,SSA,SA",
  "D39 MALAYALAM LETTER:HA,TTTA",
  "D3B MALAYALAM:SIGN VERTICAL BAR VIRAMA,SIGN CIRCULAR VIRAMA,SIGN AVAGRAHA,VOWEL SIGN AA",
  "D3F MALAYALAM:VOWEL SIGN I,VOWEL SIGN II,VOWEL SIGN U,VOWEL SIGN UU,VOWEL SIGN VOCALIC R",
  "D44 MALAYALAM:VOWEL SIGN VOCALIC RR;D46 MALAYALAM VOWEL SIGN:E,EE,AI",
  "D4A MALAYALAM:VOWEL SIGN O,VOWEL SIGN OO,VOWEL SIGN AU,SIGN VIRAMA,LETTER DOT REPH,SIGN PARA",
  "D54 MALAYALAM:LETTER CHILLU M,LETTER CHILLU Y,LETTER CHILLU LLL,AU LENGTH MARK",
  "D58 MALAYALAM:FRACTION ONE ONE-HUNDRED-AND-SIXTIETH,FRACTION ONE FORTIETH",
  "D5A MALAYALAM:FRACTION THREE EIGHTIETHS,FRACTION ONE TWENTIETH,FRACTION ONE TENTH",
  "D5D MALAYALAM:FRACTION THREE TWENTIETHS,FRACTION ONE FIFTH,LETTER ARCHAIC II",
  "D60 MALAYALAM:LETTER VOCALIC RR,LETTER VOCALIC LL,VOWEL SIGN VOCALIC L,VOWEL SIGN VOCALIC LL",
  "D66 MALAYALAM:DIGIT ZERO,DIGIT ONE,DIGIT TWO,DIGIT THREE,DIGIT FOUR,DIGIT FIVE,DIGIT SIX",
  "D6D MALAYALAM:DIGIT SEVEN,DIGIT EIGHT,DIGIT NINE,NUMBER TEN,NUMBER ONE HUNDRED",
  "D72 MALAYALAM:NUMBER ONE THOUSAND,FRACTION ONE QUARTER,FRACTION ONE HALF",
  "D75 MALAYALAM:FRACTION THREE QUARTERS,FRACTION ONE SIXTEENTH,FRACTION ONE EIGHTH",
  "D78 MALAYALAM:FRACTION THREE SIXTEENTHS,DATE MARK,LETTER CHILLU NN,LETTER CHILLU N",
  "D7C MALAYALAM:LETTER CHILLU RR,LETTER CHILLU L,LETTER CHILLU LL,LETTER CHILLU K",
  "D81 SINHALA SIGN:CANDRABINDU,ANUSVARAYA,VISARGAYA",
  "D85 SINHALA LETTER:AYANNA,AAYANNA,AEYANNA,AEEYANNA,IYANNA,IIYANNA,UYANNA,UUYANNA,IRUYANNA",
  "D8E SINHALA LETTER:IRUUYANNA,ILUYANNA,ILUUYANNA,EYANNA,EEYANNA,AIYANNA,OYANNA,OOYANNA",
  "D96 SINHALA LETTER:AUYANNA",
  "D9A SINHALA LETTER:ALPAPRAANA KAYANNA,MAHAAPRAANA KAYANNA,ALPAPRAANA GAYANNA",
  "D9D SINHALA LETTER:MAHAAPRAANA GAYANNA,KANTAJA NAASIKYAYA,SANYAKA GAYANNA,ALPAPRAANA CAYANNA",
  "DA1 SINHALA LETTER:MAHAAPRAANA CAYANNA,ALPAPRAANA JAYANNA,MAHAAPRAANA JAYANNA",
  "DA4 SINHALA LETTER:TAALUJA NAASIKYAYA,TAALUJA SANYOOGA NAAKSIKYAYA,SANYAKA JAYANNA",
  "DA7 SINHALA LETTER:ALPAPRAANA TTAYANNA,MAHAAPRAANA TTAYANNA,ALPAPRAANA DDAYANNA",
  "DAA SINHALA LETTER:MAHAAPRAANA DDAYANNA,MUURDHAJA NAYANNA,SANYAKA DDAYANNA",
  "DAD SINHALA LETTER:ALPAPRAANA TAYANNA,MAHAAPRAANA TAYANNA,ALPAPRAANA DAYANNA",
  "DB0 SINHALA LETTER:MAHAAPRAANA DAYANNA,DANTAJA NAYANNA",
  "DB3 SINHALA LETTER:SANYAKA DAYANNA,ALPAPRAANA PAYANNA,MAHAAPRAANA PAYANNA,ALPAPRAANA BAYANNA",
  "DB7 SINHALA LETTER:MAHAAPRAANA BAYANNA,MAYANNA,AMBA BAYANNA,YAYANNA,RAYANNA",
  "DBD:SINHALA LETTER DANTAJA LAYANNA",
  "DC0 SINHALA LETTER:VAYANNA,TAALUJA SAYANNA,MUURDHAJA SAYANNA,DANTAJA SAYANNA,HAYANNA",
  "DC5 SINHALA LETTER:MUURDHAJA LAYANNA,FAYANNA;DCA:SINHALA SIGN AL-LAKUNA",
  "DCF SINHALA VOWEL SIGN:AELA-PILLA,KETTI AEDA-PILLA,DIGA AEDA-PILLA,KETTI IS-PILLA",
  "DD3 SINHALA VOWEL SIGN:DIGA IS-PILLA,KETTI PAA-PILLA;DD6:SINHALA VOWEL SIGN DIGA PAA-PILLA",
  "DD8 SINHALA VOWEL SIGN:GAETTA-PILLA,KOMBUVA,DIGA KOMBUVA,KOMBU DEKA,KOMBUVA HAA AELA-PILLA",
  "DDD SINHALA VOWEL SIGN:KOMBUVA HAA DIGA AELA-PILLA,KOMBUVA HAA GAYANUKITTA,GAYANUKITTA",
  "DE6 SINHALA LITH DIGIT:ZERO,ONE,TWO,THREE,FOUR,FIVE,SIX,SEVEN,EIGHT,NINE",
  "DF2 SINHALA VOWEL SIGN DIGA:GAETTA-PILLA,GAYANUKITTA;DF4:SINHALA PUNCTUATION KUNDDALIYA"]

end SetupScript.Character
