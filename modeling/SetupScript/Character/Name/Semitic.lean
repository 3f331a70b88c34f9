/-!
# Names from Armenian to Arabic

The names of characters from Armenian to Arabic.  A group of
characters begins with the code point of its first one and the words that all its names begin with;
behind a colon stands what is left of the name of each.
-/

namespace SetupScript.Character

/-- The groups of names, in rows. -/
def semiticNames : List String := [
  "531 ARMENIAN CAPITAL LETTER:AYB,BEN,GIM,DA,ECH,ZA,EH,ET,TO,ZHE,INI,LIWN,XEH,CA,KEN,HO,JA",
  "542 ARMENIAN CAPITAL LETTER:GHAD,CHEH,MEN,YI,NOW,SHA,VO,CHA,PEH,JHEH,RA,SEH,VEW,TIWN,REH,CO",
  "552 ARMENIAN CAPITAL LETTER:YIWN,PIWR,KEH,OH,FEH",
  "559 ARMENIAN:MODIFIER LETTER LEFT HALF RING,APOSTROPHE,EMPHASIS MARK,EXCLAMATION MARK,COMMA",
  "55E ARMENIAN:QUESTION MARK,ABBREVIATION MARK,SMALL LETTER TURNED AYB,SMALL LETTER AYB",
  "562 ARMENIAN:SMALL LETTER BEN,SMALL LETTER GIM,SMALL LETTER DA,SMALL LETTER ECH",
  "566 ARMENIAN:SMALL LETTER ZA,SMALL LETTER EH,SMALL LETTER ET,SMALL LETTER TO",
  "56A ARMENIAN:SMALL LETTER ZHE,SMALL LETTER INI,SMALL LETTER LIWN,SMALL LETTER XEH",
  "56E ARMENIAN:SMALL LETTER CA,SMALL LETTER KEN,SMALL LETTER HO,SMALL LETTER JA",
  "572 ARMENIAN:SMALL LETTER GHAD,SMALL LETTER CHEH,SMALL LETTER MEN,SMALL LETTER YI",
  "576 ARMENIAN:SMALL LETTER NOW,SMALL LETTER SHA,SMALL LETTER VO,SMALL LETTER CHA",
  "57A ARMENIAN:SMALL LETTER PEH,SMALL LETTER JHEH,SMALL LETTER RA,SMALL LETTER SEH",
  "57E ARMENIAN:SMALL LETTER VEW,SMALL LETTER TIWN,SMALL LETTER REH,SMALL LETTER CO",
  "582 ARMENIAN:SMALL LETTER YIWN,SMALL LETTER PIWR,SMALL LETTER KEH,SMALL LETTER OH",
  "586 ARMENIAN:SMALL LETTER FEH,SMALL LIGATURE ECH YIWN,SMALL LETTER YI WITH STROKE,FULL STOP",
  "58A ARMENIAN:HYPHEN;58D:RIGHT-FACING ARMENIAN ETERNITY SIGN",
  "58E:LEFT-FACING ARMENIAN ETERNITY SIGN;58F:ARMENIAN DRAM SIGN",
  "591 HEBREW ACCENT:ETNAHTA,SEGOL,SHALSHELET,ZAQEF QATAN,ZAQEF GADOL,TIPEHA,REVIA,ZARQA,PASHTA",
  "59A HEBREW ACCENT:YETIV,TEVIR,GERESH,GERESH MUQDAM,GERSHAYIM,QARNEY PARA,TELISHA GEDOLA",
  "5A1 HEBREW ACCENT:PAZER,ATNAH HAFUKH,MUNAH,MAHAPAKH,MERKHA,MERKHA KEFULA,DARGA,QADMA",
  "5A9 HEBREW ACCENT:TELISHA QETANA,YERAH BEN YOMO,OLE,ILUY,DEHI,ZINOR",
  "5AF HEBREW:MARK MASORA CIRCLE,POINT SHEVA,POINT HATAF SEGOL,POINT HATAF PATAH",
  "5B3 HEBREW:POINT HATAF QAMATS,POINT HIRIQ,POINT TSERE,POINT SEGOL,POINT PATAH,POINT QAMATS",
  "5B9 HEBREW:POINT HOLAM,POINT HOLAM HASER FOR VAV,POINT QUBUTS,POINT DAGESH OR MAPIQ",
  "5BD HEBREW:POINT METEG,PUNCTUATION MAQAF,POINT RAFE,PUNCTUATION PASEQ,POINT SHIN DOT",
  "5C2 HEBREW:POINT SIN DOT,PUNCTUATION SOF PASUQ,MARK UPPER DOT,MARK LOWER DOT",
  "5C6 HEBREW:PUNCTUATION NUN HAFUKHA,POINT QAMATS QATAN",
  "5D0 HEBREW LETTER:ALEF,BET,GIMEL,DALET,HE,VAV,ZAYIN,HET,TET,YOD,FINAL KAF,KAF,LAMED",
  "5DD HEBREW LETTER:FINAL MEM,MEM,FINAL NUN,NUN,SAMEKH,AYIN,FINAL PE,PE,FINAL TSADI,TSADI,QOF",
  "5E8 HEBREW LETTER:RESH,SHIN,TAV",
  "5EF HEBREW:YOD TRIANGLE,LIGATURE YIDDISH DOUBLE VAV,LIGATURE YIDDISH VAV YOD",
  "5F2 HEBREW:LIGATURE YIDDISH DOUBLE YOD,PUNCTUATION GERESH,PUNCTUATION GERSHAYIM",
  "600:ARABIC NUMBER SIGN;601:ARABIC SIGN SANAH;602:ARABIC FOOTNOTE MARKER",
  "603:ARABIC SIGN SAFHA;604:ARABIC SIGN SAMVAT;605:ARABIC NUMBER MARK ABOVE",
  "606:ARABIC-INDIC CUBE ROOT;607:ARABIC-INDIC FOURTH ROOT;608:ARABIC RAY",
  "609:ARABIC-INDIC PER MILLE SIGN;60A:ARABIC-INDIC PER TEN THOUSAND SIGN;60B:AFGHANI SIGN",
  "60C ARABIC:COMMA,DATE SEPARATOR,POETIC VERSE SIGN,SIGN MISRA",
  "610 ARABIC:SIGN SALLALLAHOU ALAYHE WASSALLAM,SIGN ALAYHE ASSALLAM,SIGN RAHMATULLAH ALAYHE",
  "613 ARABIC:SIGN RADI ALLAHOU ANHU,SIGN TAKHALLUS,SMALL HIGH TAH",
  "616 ARABIC:SMALL HIGH LIGATURE ALEF WITH LAM WITH YEH,SMALL HIGH ZAIN,SMALL FATHA",
  "619 ARABIC:SMALL DAMMA,SMALL KASRA,SEMICOLON,LETTER MARK,END OF TEXT MARK",
  "61E ARABIC:TRIPLE DOT PUNCTUATION MARK,QUESTION MARK,LETTER KASHMIRI YEH,LETTER HAMZA",
  "622 ARABIC:LETTER ALEF WITH MADDA ABOVE,LETTER ALEF WITH HAMZA ABOVE",
  "624 ARABIC:LETTER WAW WITH HAMZA ABOVE,LETTER ALEF WITH HAMZA BELOW",
  "626 ARABIC:LETTER YEH WITH HAMZA ABOVE,LETTER ALEF,LETTER BEH,LETTER TEH MARBUTA,LETTER TEH",
  "62B ARABIC:LETTER THEH,LETTER JEEM,LETTER HAH,LETTER KHAH,LETTER DAL,LETTER THAL,LETTER REH",
  "632 ARABIC:LETTER ZAIN,LETTER SEEN,LETTER SHEEN,LETTER SAD,LETTER DAD,LETTER TAH,LETTER ZAH",
  "639 ARABIC:LETTER AIN,LETTER GHAIN,LETTER KEHEH WITH TWO DOTS ABOVE",
  "63C ARABIC:LETTER KEHEH WITH THREE DOTS BELOW,LETTER FARSI YEH WITH INVERTED V",
  "63E ARABIC:LETTER FARSI YEH WITH TWO DOTS ABOVE,LETTER FARSI YEH WITH THREE DOTS ABOVE",
  "640 ARABIC:TATWEEL,LETTER FEH,LETTER QAF,LETTER KAF,LETTER LAM,LETTER MEEM,LETTER NOON",
  "647 ARABIC:LETTER HEH,LETTER WAW,LETTER ALEF MAKSURA,LETTER YEH,FATHATAN,DAMMATAN,KASRATAN",
  "64E ARABIC:FATHA,DAMMA,KASRA,SHADDA,SUKUN,MADDAH ABOVE,HAMZA ABOVE,HAMZA BELOW",
  "656 ARABIC:SUBSCRIPT ALEF,INVERTED DAMMA,MARK NOON GHUNNA,ZWARAKAY,VOWEL SIGN SMALL V ABOVE",
  "65B ARABIC:VOWEL SIGN INVERTED SMALL V ABOVE,VOWEL SIGN DOT BELOW,REVERSED DAMMA",
  "65E ARABIC:FATHA WITH TWO DOTS,WAVY HAMZA BELOW;660:ARABIC-INDIC DIGIT ZERO",
  "661:ARABIC-INDIC DIGIT ONE;662:ARABIC-INDIC DIGIT TWO;663:ARABIC-INDIC DIGIT THREE",
  "664:ARABIC-INDIC DIGIT FOUR;665:ARABIC-INDIC DIGIT FIVE;666:ARABIC-INDIC DIGIT SIX",
  "667:ARABIC-INDIC DIGIT SEVEN;668:ARABIC-INDIC DIGIT EIGHT;669:ARABIC-INDIC DIGIT NINE",
  "66A ARABIC:PERCENT SIGN,DECIMAL SEPARATOR,THOUSANDS SEPARATOR,FIVE POINTED STAR",
  "66E ARABIC:LETTER DOTLESS BEH,LETTER DOTLESS QAF,LETTER SUPERSCRIPT ALEF,LETTER ALEF WASLA",
  "672 ARABIC:LETTER ALEF WITH WAVY HAMZA ABOVE,LETTER ALEF WITH WAVY HAMZA BELOW",
  "674 ARABIC:LETTER HIGH HAMZA,LETTER HIGH HAMZA ALEF,LETTER HIGH HAMZA WAW",
  "677 ARABIC:LETTER U WITH HAMZA ABOVE,LETTER HIGH HAMZA YEH,LETTER TTEH,LETTER TTEHEH",
  "67B ARABIC:LETTER BEEH,LETTER TEH WITH RING,LETTER TEH WITH THREE DOTS ABOVE DOWNWARDS",
  "67E ARABIC:LETTER PEH,LETTER TEHEH,LETTER BEHEH,LETTER HAH WITH HAMZA ABOVE",
  "682 ARABIC:LETTER HAH WITH TWO DOTS VERTICAL ABOVE,LETTER NYEH,LETTER DYEH",
  "685 ARABIC:LETTER HAH WITH THREE DOTS ABOVE,LETTER TCHEH,LETTER TCHEHEH,LETTER DDAL",
  "689 ARABIC:LETTER DAL WITH RING,LETTER DAL WITH DOT BELOW",
  "68B ARABIC:LETTER DAL WITH DOT BELOW AND SMALL TAH,LETTER DAHAL,LETTER DDAHAL,LETTER DUL",
  "68F ARABIC:LETTER DAL WITH THREE DOTS ABOVE DOWNWARDS,LETTER DAL WITH FOUR DOTS ABOVE",
  "691 ARABIC:LETTER RREH,LETTER REH WITH SMALL V,LETTER REH WITH RING",
  "694 ARABIC:LETTER REH WITH DOT BELOW,LETTER REH WITH SMALL V BELOW",
  "696 ARABIC:LETTER REH WITH DOT BELOW AND DOT ABOVE,LETTER REH WITH TWO DOTS ABOVE,LETTER JEH",
  "699 ARABIC:LETTER REH WITH FOUR DOTS ABOVE,LETTER SEEN WITH DOT BELOW AND DOT ABOVE",
  "69B ARABIC:LETTER SEEN WITH THREE DOTS BELOW",
  "69C ARABIC:LETTER SEEN WITH THREE DOTS BELOW AND THREE DOTS ABOVE",
  "69D ARABIC:LETTER SAD WITH TWO DOTS BELOW,LETTER SAD WITH THREE DOTS ABOVE",
  "69F ARABIC:LETTER TAH WITH THREE DOTS ABOVE,LETTER AIN WITH THREE DOTS ABOVE",
  "6A1 ARABIC:LETTER DOTLESS FEH,LETTER FEH WITH DOT MOVED BELOW,LETTER FEH WITH DOT BELOW",
  "6A4 ARABIC:LETTER VEH,LETTER FEH WITH THREE DOTS BELOW,LETTER PEHEH",
  "6A7 ARABIC:LETTER QAF WITH DOT ABOVE,LETTER QAF WITH THREE DOTS ABOVE,LETTER KEHEH",
  "6AA ARABIC:LETTER SWASH KAF,LETTER KAF WITH RING,LETTER KAF WITH DOT ABOVE,LETTER NG",
  "6AE ARABIC:LETTER KAF WITH THREE DOTS BELOW,LETTER GAF,LETTER GAF WITH RING,LETTER NGOEH",
  "6B2 ARABIC:LETTER GAF WITH TWO DOTS BELOW,LETTER GUEH,LETTER GAF WITH THREE DOTS ABOVE",
  "6B5 ARABIC:LETTER LAM WITH SMALL V,LETTER LAM WITH DOT ABOVE",
  "6B7 ARABIC:LETTER LAM WITH THREE DOTS ABOVE,LETTER LAM WITH THREE DOTS BELOW",
  "6B9 ARABIC:LETTER NOON WITH DOT BELOW,LETTER NOON GHUNNA,LETTER RNOON,LETTER NOON WITH RING",
  "6BD ARABIC:LETTER NOON WITH THREE DOTS ABOVE,LETTER HEH DOACHASHMEE",
  "6BF ARABIC:LETTER TCHEH WITH DOT ABOVE,LETTER HEH WITH YEH ABOVE,LETTER HEH GOAL",
  "6C2 ARABIC:LETTER HEH GOAL WITH HAMZA ABOVE,LETTER TEH MARBUTA GOAL,LETTER WAW WITH RING",
  "6C5 ARABIC:LETTER KIRGHIZ OE,LETTER OE,LETTER U,LETTER YU,LETTER KIRGHIZ YU",
  "6CA ARABIC:LETTER WAW WITH TWO DOTS ABOVE,LETTER VE,LETTER FARSI YEH,LETTER YEH WITH TAIL",
  "6CE ARABIC:LETTER YEH WITH SMALL V,LETTER WAW WITH DOT ABOVE,LETTER E",
  "6D1 ARABIC:LETTER YEH WITH THREE DOTS BELOW,LETTER YEH BARREE",
  "6D3 ARABIC:LETTER YEH BARREE WITH HAMZA ABOVE,FULL STOP,LETTER AE",
  "6D6 ARABIC:SMALL HIGH LIGATURE SAD WITH LAM WITH ALEF MAKSURA",
  "6D7 ARABIC:SMALL HIGH LIGATURE QAF WITH LAM WITH ALEF MAKSURA,SMALL HIGH MEEM INITIAL FORM",
  "6D9 ARABIC:SMALL HIGH LAM ALEF,SMALL HIGH JEEM,SMALL HIGH THREE DOTS,SMALL HIGH SEEN",
  "6DD ARABIC:END OF AYAH,START OF RUB EL HIZB,SMALL HIGH ROUNDED ZERO",
  "6E0 ARABIC:SMALL HIGH UPRIGHT RECTANGULAR ZERO,SMALL HIGH DOTLESS HEAD OF KHAH",
  "6E2 ARABIC:SMALL HIGH MEEM ISOLATED FORM,SMALL LOW SEEN,SMALL HIGH MADDA,SMALL WAW,SMALL YEH",
  "6E7 ARABIC:SMALL HIGH YEH,SMALL HIGH NOON,PLACE OF SAJDAH,EMPTY CENTRE LOW STOP",
  "6EB ARABIC:EMPTY CENTRE HIGH STOP,ROUNDED HIGH STOP WITH FILLED CENTRE,SMALL LOW MEEM",
  "6EE ARABIC:LETTER DAL WITH INVERTED V,LETTER REH WITH INVERTED V",
  "6F0 EXTENDED ARABIC-INDIC DIGIT:ZERO,ONE,TWO,THREE,FOUR,FIVE,SIX,SEVEN,EIGHT,NINE",
  "6FA ARABIC:LETTER SHEEN WITH DOT BELOW,LETTER DAD WITH DOT BELOW,LETTER GHAIN WITH DOT BELOW",
  "6FD ARABIC:SIGN SINDHI AMPERSAND,SIGN SINDHI POSTPOSITION MEN,LETTER HEH WITH INVERTED V",
  "700 SYRIAC:END OF PARAGRAPH,SUPRALINEAR FULL STOP,SUBLINEAR FULL STOP,SUPRALINEAR COLON",
  "704 SYRIAC:SUBLINEAR COLON,HORIZONTAL COLON,COLON SKEWED LEFT,COLON SKEWED RIGHT",
  "708 SYRIAC:SUPRALINEAR COLON SKEWED LEFT,SUBLINEAR COLON SKEWED RIGHT,CONTRACTION",
  "70B SYRIAC:HARKLEAN OBELUS,HARKLEAN METOBELUS,HARKLEAN ASTERISCUS",
  "70F SYRIAC:ABBREVIATION MARK,LETTER ALAPH,LETTER SUPERSCRIPT ALAPH,LETTER BETH,LETTER GAMAL",
  "714 SYRIAC:LETTER GAMAL GARSHUNI,LETTER DALATH,LETTER DOTLESS DALATH RISH,LETTER HE",
  "718 SYRIAC:LETTER WAW,LETTER ZAIN,LETTER HETH,LETTER TETH,LETTER TETH GARSHUNI,LETTER YUDH",
  "71E SYRIAC:LETTER YUDH HE,LETTER KAPH,LETTER LAMADH,LETTER MIM,LETTER NUN,LETTER SEMKATH",
  "724 SYRIAC:LETTER FINAL SEMKATH,LETTER E,LETTER PE,LETTER REVERSED PE,LETTER SADHE",
  "729 SYRIAC:LETTER QAPH,LETTER RISH,LETTER SHIN,LETTER TAW,LETTER PERSIAN BHETH",
  "72E SYRIAC:LETTER PERSIAN GHAMAL,LETTER PERSIAN DHALATH,PTHAHA ABOVE,PTHAHA BELOW",
  "732 SYRIAC:PTHAHA DOTTED,ZQAPHA ABOVE,ZQAPHA BELOW,ZQAPHA DOTTED,RBASA ABOVE,RBASA BELOW",
  "738 SYRIAC:DOTTED ZLAMA HORIZONTAL,DOTTED ZLAMA ANGULAR,HBASA ABOVE,HBASA BELOW",
  "73C SYRIAC:HBASA-ESASA DOTTED,ESASA ABOVE,ESASA BELOW,RWAHA,FEMININE DOT,QUSHSHAYA,RUKKAKHA",
  "743 SYRIAC:TWO VERTICAL DOTS ABOVE,TWO VERTICAL DOTS BELOW,THREE DOTS ABOVE,THREE DOTS BELOW",
  "747 SYRIAC:OBLIQUE LINE ABOVE,OBLIQUE LINE BELOW,MUSIC,BARREKH",
  "74D:SYRIAC LETTER SOGDIAN ZHAIN;74E:SYRIAC LETTER SOGDIAN KHAPH;74F:SYRIAC LETTER SOGDIAN FE",
  "750 ARABIC LETTER:BEH WITH THREE DOTS HORIZONTALLY BELOW",
  "751 ARABIC LETTER:BEH WITH DOT BELOW AND THREE DOTS ABOVE",
  "752 ARABIC LETTER:BEH WITH THREE DOTS POINTING UPWARDS BELOW",
  "753 ARABIC LETTER:BEH WITH THREE DOTS POINTING UPWARDS BELOW AND TWO DOTS ABOVE",
  "754 ARABIC LETTER:BEH WITH TWO DOTS BELOW AND DOT ABOVE,BEH WITH INVERTED SMALL V BELOW",
  "756 ARABIC LETTER:BEH WITH SMALL V,HAH WITH TWO DOTS ABOVE",
  "758 ARABIC LETTER:HAH WITH THREE DOTS POINTING UPWARDS BELOW",
  "759 ARABIC LETTER:DAL WITH TWO DOTS VERTICALLY BELOW AND SMALL TAH",
  "75A ARABIC LETTER:DAL WITH INVERTED SMALL V BELOW,REH WITH STROKE,SEEN WITH FOUR DOTS ABOVE",
  "75D ARABIC LETTER:AIN WITH TWO DOTS ABOVE,AIN WITH THREE DOTS POINTING DOWNWARDS ABOVE",
  "75F ARABIC LETTER:AIN WITH TWO DOTS VERTICALLY ABOVE,FEH WITH TWO DOTS BELOW",
  "761 ARABIC LETTER:FEH WITH THREE DOTS POINTING UPWARDS BELOW,KEHEH WITH DOT ABOVE",
  "763 ARABIC LETTER:KEHEH WITH THREE DOTS ABOVE,KEHEH WITH THREE DOTS POINTING UPWARDS BELOW",
  "765 ARABIC LETTER:MEEM WITH DOT ABOVE,MEEM WITH DOT BELOW,NOON WITH TWO DOTS BELOW",
  "768 ARABIC LETTER:NOON WITH SMALL TAH,NOON WITH SMALL V,LAM WITH BAR",
  "76B ARABIC LETTER:REH WITH TWO DOTS VERTICALLY ABOVE,REH WITH HAMZA ABOVE",
  "76D ARABIC LETTER:SEEN WITH TWO DOTS VERTICALLY ABOVE,HAH WITH SMALL ARABIC LETTER TAH BELOW",
  "76F ARABIC LETTER:HAH WITH SMALL ARABIC LETTER TAH AND TWO DOTS",
  "770 ARABIC LETTER:SEEN WITH SMALL ARABIC LETTER TAH AND TWO DOTS",
  "771 ARABIC LETTER:REH WITH SMALL ARABIC LETTER TAH AND TWO DOTS",
  "772 ARABIC LETTER:HAH WITH SMALL ARABIC LETTER TAH ABOVE",
  "773 ARABIC LETTER:ALEF WITH EXTENDED ARABIC-INDIC DIGIT TWO ABOVE",
  "774 ARABIC LETTER:ALEF WITH EXTENDED ARABIC-INDIC DIGIT THREE ABOVE",
  "775 ARABIC LETTER:FARSI YEH WITH EXTENDED ARABIC-INDIC DIGIT TWO ABOVE",
  "776 ARABIC LETTER:FARSI YEH WITH EXTENDED ARABIC-INDIC DIGIT THREE ABOVE",
  "777 ARABIC LETTER:FARSI YEH WITH EXTENDED ARABIC-INDIC DIGIT FOUR BELOW",
  "778 ARABIC LETTER:WAW WITH EXTENDED ARABIC-INDIC DIGIT TWO ABOVE",
  "779 ARABIC LETTER:WAW WITH EXTENDED ARABIC-INDIC DIGIT THREE ABOVE",
  "77A ARABIC LETTER:YEH BARREE WITH EXTENDED ARABIC-INDIC DIGIT TWO ABOVE",
  "77B ARABIC LETTER:YEH BARREE WITH EXTENDED ARABIC-INDIC DIGIT THREE ABOVE",
  "77C ARABIC LETTER:HAH WITH EXTENDED ARABIC-INDIC DIGIT FOUR BELOW",
  "77D ARABIC LETTER:SEEN WITH EXTENDED ARABIC-INDIC DIGIT FOUR ABOVE,SEEN WITH INVERTED V",
  "77F ARABIC LETTER:KAF WITH TWO DOTS ABOVE",
  "780 THAANA LETTER:HAA,SHAVIYANI,NOONU,RAA,BAA,LHAVIYANI,KAAFU,ALIFU,VAAVU,MEEMU,FAAFU,DHAALU",
  "78C THAANA LETTER:THAA,LAAMU,GAAFU,GNAVIYANI,SEENU,DAVIYANI,ZAVIYANI,TAVIYANI,YAA,PAVIYANI",
  "796 THAANA LETTER:JAVIYANI,CHAVIYANI,TTAA,HHAA,KHAA,THAALU,ZAA,SHEENU,SAADHU,DAADHU,TO,ZO",
  "7A2 THAANA LETTER:AINU,GHAINU,QAAFU,WAAVU",
  "7A6 THAANA:ABAFILI,AABAAFILI,IBIFILI,EEBEEFILI,UBUFILI,OOBOOFILI,EBEFILI,EYBEYFILI,OBOFILI",
  "7AF THAANA:OABOAFILI,SUKUN,LETTER NAA",
  "7C0 NKO:DIGIT ZERO,DIGIT ONE,DIGIT TWO,DIGIT THREE,DIGIT FOUR,DIGIT FIVE,DIGIT SIX",
  "7C7 NKO:DIGIT SEVEN,DIGIT EIGHT,DIGIT NINE,LETTER A,LETTER EE,LETTER I,LETTER E,LETTER U",
  "7CF NKO:LETTER OO,LETTER O,LETTER DAGBASINNA,LETTER N,LETTER BA,LETTER PA,LETTER TA",
  "7D6 NKO:LETTER JA,LETTER CHA,LETTER DA,LETTER RA,LETTER RRA,LETTER SA,LETTER GBA,LETTER FA",
  "7DE NKO:LETTER KA,LETTER LA,LETTER NA WOLOSO,LETTER MA,LETTER NYA,LETTER NA,LETTER HA",
  "7E5 NKO:LETTER WA,LETTER YA,LETTER NYA WOLOSO,LETTER JONA JA,LETTER JONA CHA,LETTER JONA RA",
  "7EB NKO:COMBINING SHORT HIGH TONE,COMBINING SHORT LOW TONE,COMBINING SHORT RISING TONE",
  "7EE NKO:COMBINING LONG DESCENDING TONE,COMBINING LONG HIGH TONE,COMBINING LONG LOW TONE",
  "7F1 NKO:COMBINING LONG RISING TONE,COMBINING NASALIZATION MARK,COMBINING DOUBLE DOT ABOVE",
  "7F4 NKO:HIGH TONE APOSTROPHE,LOW TONE APOSTROPHE,SYMBOL OO DENNEN,SYMBOL GBAKURUNEN,COMMA",
  "7F9 NKO:EXCLAMATION MARK,LAJANYALAN;7FD:NKO DANTAYALAN;7FE:NKO DOROME SIGN",
  "7FF:NKO TAMAN SIGN",
  "800 SAMARITAN:LETTER ALAF,LETTER BIT,LETTER GAMAN,LETTER DALAT,LETTER IY,LETTER BAA",
  "806 SAMARITAN:LETTER ZEN,LETTER IT,LETTER TIT,LETTER YUT,LETTER KAAF,LETTER LABAT,LETTER MIM",
  "80D SAMARITAN:LETTER NUN,LETTER SINGAAT,LETTER IN,LETTER FI,LETTER TSAADIY,LETTER QUF",
  "813 SAMARITAN:LETTER RISH,LETTER SHAN,LETTER TAAF,MARK IN,MARK IN-ALAF,MARK OCCLUSION",
  "819 SAMARITAN:MARK DAGESH,MODIFIER LETTER EPENTHETIC YUT,MARK EPENTHETIC YUT",
  "81C SAMARITAN:VOWEL SIGN LONG E,VOWEL SIGN E,VOWEL SIGN OVERLONG AA,VOWEL SIGN LONG AA",
  "820 SAMARITAN:VOWEL SIGN AA,VOWEL SIGN OVERLONG A,VOWEL SIGN LONG A,VOWEL SIGN A",
  "824 SAMARITAN:MODIFIER LETTER SHORT A,VOWEL SIGN SHORT A,VOWEL SIGN LONG U,VOWEL SIGN U",
  "828 SAMARITAN:MODIFIER LETTER I,VOWEL SIGN LONG I,VOWEL SIGN I,VOWEL SIGN O,VOWEL SIGN SUKUN",
  "82D SAMARITAN:MARK NEQUDAA",
  "830 SAMARITAN:PUNCTUATION NEQUDAA,PUNCTUATION AFSAAQ,PUNCTUATION ANGED,PUNCTUATION BAU",
  "834 SAMARITAN:PUNCTUATION ATMAAU,PUNCTUATION SHIYYAALAA,ABBREVIATION MARK",
  "837 SAMARITAN:PUNCTUATION MELODIC QITSA,PUNCTUATION ZIQAA,PUNCTUATION QITSA,PUNCTUATION ZAEF",
  "83B SAMARITAN:PUNCTUATION TURU,PUNCTUATION ARKAANU,PUNCTUATION SOF MASHFAAT",
  "83E SAMARITAN:PUNCTUATION ANNAAU",
  "840 MANDAIC LETTER:HALQA,AB,AG,AD,AH,USHENNA,AZ,IT,ATT,AKSA,AK,AL,AM,AN,AS,IN,AP,ASZ,AQ,AR",
  "854 MANDAIC LETTER:ASH,AT,DUSHENNA,KAD,AIN",
  "859 MANDAIC:AFFRICATION MARK,VOCALIZATION MARK,GEMINATION MARK;85E:MANDAIC PUNCTUATION",
  "860 SYRIAC LETTER MALAYALAM:NGA,JA,NYA,TTA,NNA,NNNA,BHA,RA,LLA,LLLA,SSA",
  "870 ARABIC LETTER ALEF WITH:ATTACHED FATHA,ATTACHED TOP RIGHT FATHA,RIGHT MIDDLE STROKE",
  "873 ARABIC LETTER ALEF WITH:LEFT MIDDLE STROKE,ATTACHED KASRA,ATTACHED BOTTOM RIGHT KASRA",
  "876 ARABIC LETTER ALEF WITH:ATTACHED ROUND DOT ABOVE,ATTACHED RIGHT ROUND DOT",
  "878 ARABIC LETTER ALEF WITH:ATTACHED LEFT ROUND DOT,ATTACHED ROUND DOT BELOW,DOT ABOVE",
  "87B ARABIC LETTER ALEF WITH:ATTACHED TOP RIGHT FATHA AND DOT ABOVE",
  "87C ARABIC LETTER ALEF WITH:RIGHT MIDDLE STROKE AND DOT ABOVE",
  "87D ARABIC LETTER ALEF WITH:ATTACHED BOTTOM RIGHT KASRA AND DOT ABOVE",
  "87E ARABIC LETTER ALEF WITH:ATTACHED TOP RIGHT FATHA AND LEFT RING",
  "87F ARABIC LETTER ALEF WITH:RIGHT MIDDLE STROKE AND LEFT RING",
  "880 ARABIC LETTER ALEF WITH:ATTACHED BOTTOM RIGHT KASRA AND LEFT RING,ATTACHED RIGHT HAMZA",
  "882 ARABIC LETTER ALEF WITH:ATTACHED LEFT HAMZA",
  "883 ARABIC:TATWEEL WITH OVERSTRUCK HAMZA,TATWEEL WITH OVERSTRUCK WAW",
  "885 ARABIC:TATWEEL WITH TWO DOTS BELOW,LETTER THIN YEH,BASELINE ROUND DOT,RAISED ROUND DOT",
  "889 ARABIC:LETTER NOON WITH INVERTED SMALL V,LETTER HAH WITH INVERTED SMALL V BELOW",
  "88B ARABIC:LETTER TAH WITH DOT BELOW,LETTER TAH WITH THREE DOTS BELOW",
  "88D ARABIC:LETTER KEHEH WITH TWO DOTS VERTICALLY BELOW,VERTICAL TAIL",
  "890 ARABIC:POUND MARK ABOVE,PIASTRE MARK ABOVE",
  "898 ARABIC:SMALL HIGH WORD AL-JUZ,SMALL LOW WORD ISHMAAM,SMALL LOW WORD IMAALA",
  "89B ARABIC:SMALL LOW WORD TASHEEL,MADDA WAAJIB,SUPERSCRIPT ALEF MOKHASSAS,DOUBLED MADDA",
  "89F ARABIC:HALF MADDA OVER MADDA,LETTER BEH WITH SMALL V BELOW,LETTER BEH WITH HAMZA ABOVE",
  "8A2 ARABIC:LETTER JEEM WITH TWO DOTS ABOVE,LETTER TAH WITH TWO DOTS ABOVE",
  "8A4 ARABIC:LETTER FEH WITH DOT BELOW AND THREE DOTS ABOVE,LETTER QAF WITH DOT BELOW",
  "8A6 ARABIC:LETTER LAM WITH DOUBLE BAR,LETTER MEEM WITH THREE DOTS ABOVE",
  "8A8 ARABIC:LETTER YEH WITH TWO DOTS BELOW AND HAMZA ABOVE",
  "8A9 ARABIC:LETTER YEH WITH TWO DOTS BELOW AND DOT ABOVE,LETTER REH WITH LOOP",
  "8AB ARABIC:LETTER WAW WITH DOT WITHIN,LETTER ROHINGYA YEH,LETTER LOW ALEF",
  "8AE ARABIC:LETTER DAL WITH THREE DOTS BELOW,LETTER SAD WITH THREE DOTS BELOW",
  "8B0 ARABIC:LETTER GAF WITH INVERTED STROKE,LETTER STRAIGHT WAW",
  "8B2 ARABIC:LETTER ZAIN WITH INVERTED V ABOVE,LETTER AIN WITH THREE DOTS BELOW",
  "8B4 ARABIC:LETTER KAF WITH DOT BELOW,LETTER QAF WITH DOT BELOW AND NO DOTS ABOVE",
  "8B6 ARABIC:LETTER BEH WITH SMALL MEEM ABOVE,LETTER PEH WITH SMALL MEEM ABOVE",
  "8B8 ARABIC:LETTER TEH WITH SMALL TEH ABOVE,LETTER REH WITH SMALL NOON ABOVE",
  "8BA ARABIC:LETTER YEH WITH TWO DOTS BELOW AND SMALL NOON ABOVE,LETTER AFRICAN FEH",
  "8BC ARABIC:LETTER AFRICAN QAF,LETTER AFRICAN NOON,LETTER PEH WITH SMALL V",
  "8BF ARABIC:LETTER TEH WITH SMALL V,LETTER TTEH WITH SMALL V,LETTER TCHEH WITH SMALL V",
  "8C2 ARABIC:LETTER KEHEH WITH SMALL V,LETTER GHAIN WITH THREE DOTS ABOVE",
  "8C4 ARABIC:LETTER AFRICAN QAF WITH THREE DOTS ABOVE,LETTER JEEM WITH THREE DOTS ABOVE",
  "8C6 ARABIC:LETTER JEEM WITH THREE DOTS BELOW,LETTER LAM WITH SMALL ARABIC LETTER TAH ABOVE",
  "8C8 ARABIC:LETTER GRAF,SMALL FARSI YEH,SMALL HIGH FARSI YEH",
  "8CB ARABIC:SMALL HIGH YEH BARREE WITH TWO DOTS BELOW,SMALL HIGH WORD SAH,SMALL HIGH ZAH",
  "8CE ARABIC:LARGE ROUND DOT ABOVE,LARGE ROUND DOT BELOW,SUKUN BELOW,LARGE CIRCLE BELOW",
  "8D2 ARABIC:LARGE ROUND DOT INSIDE CIRCLE BELOW,SMALL LOW WAW,SMALL HIGH WORD AR-RUB",
  "8D5 ARABIC:SMALL HIGH SAD,SMALL HIGH AIN,SMALL HIGH QAF,SMALL HIGH NOON WITH KASRA",
  "8D9 ARABIC:SMALL LOW NOON WITH KASRA,SMALL HIGH WORD ATH-THALATHA,SMALL HIGH WORD AS-SAJDA",
  "8DC ARABIC:SMALL HIGH WORD AN-NISF,SMALL HIGH WORD SAKTA,SMALL HIGH WORD QIF",
  "8DF ARABIC:SMALL HIGH WORD WAQFA,SMALL HIGH FOOTNOTE MARKER,SMALL HIGH SIGN SAFHA",
  "8E2 ARABIC:DISPUTED END OF AYAH,TURNED DAMMA BELOW,CURLY FATHA,CURLY DAMMA,CURLY KASRA",
  "8E7 ARABIC:CURLY FATHATAN,CURLY DAMMATAN,CURLY KASRATAN,TONE ONE DOT ABOVE",
  "8EB ARABIC:TONE TWO DOTS ABOVE,TONE LOOP ABOVE,TONE ONE DOT BELOW,TONE TWO DOTS BELOW",
  "8EF ARABIC:TONE LOOP BELOW,OPEN FATHATAN,OPEN DAMMATAN,OPEN KASRATAN,SMALL HIGH WAW",
  "8F4 ARABIC:FATHA WITH RING,FATHA WITH DOT ABOVE,KASRA WITH DOT BELOW,LEFT ARROWHEAD ABOVE",
  "8F8 ARABIC:RIGHT ARROWHEAD ABOVE,LEFT ARROWHEAD BELOW,RIGHT ARROWHEAD BELOW",
  "8FB ARABIC:DOUBLE RIGHT ARROWHEAD ABOVE,DOUBLE RIGHT ARROWHEAD ABOVE WITH DOT",
  "8FD ARABIC:RIGHT ARROWHEAD ABOVE WITH DOT,DAMMA WITH DOT,MARK SIDEWAYS NOON GHUNNA"]

end SetupScript.Character
