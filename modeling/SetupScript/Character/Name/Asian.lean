/-!
# Names from Thai to the Vedic signs

The names of characters from Thai to the Vedic signs.  A group of
characters begins with the code point of its first one and the words that all its names begin with;
behind a colon stands what is left of the name of each.
-/

namespace SetupScript.Character

/-- The groups of names, in rows. -/
def asianNames : List String := [
  "E01 THAI CHARACTER:KO KAI,KHO KHAI,KHO KHUAT,KHO KHWAI,KHO KHON,KHO RAKHANG,NGO NGU,CHO CHAN",
  "E09 THAI CHARACTER:CHO CHING,CHO CHANG,SO SO,CHO CHOE,YO YING,DO CHADA,TO PATAK,THO THAN",
  "E11 THAI CHARACTER:THO NANGMONTHO,THO PHUTHAO,NO NEN,DO DEK,TO TAO,THO THUNG,THO THAHAN",
  "E18 THAI CHARACTER:THO THONG,NO NU,BO BAIMAI,PO PLA,PHO PHUNG,FO FA,PHO PHAN,FO FAN",
  "E20 THAI CHARACTER:PHO SAMPHAO,MO MA,YO YAK,RO RUA,RU,LO LING,LU,WO WAEN,SO SALA,SO RUSI",
  "E2A THAI CHARACTER:SO SUA,HO HIP,LO CHULA,O ANG,HO NOKHUK,PAIYANNOI,SARA A,MAI HAN-AKAT",
  "E32 THAI CHARACTER:SARA AA,SARA AM,SARA I,SARA II,SARA UE,SARA UEE,SARA U,SARA UU,PHINTHU",
  "E3F THAI:CURRENCY SYMBOL BAHT,CHARACTER SARA E,CHARACTER SARA AE,CHARACTER SARA O",
  "E43 THAI:CHARACTER SARA AI MAIMUAN,CHARACTER SARA AI MAIMALAI,CHARACTER LAKKHANGYAO",
  "E46 THAI:CHARACTER MAIYAMOK,CHARACTER MAITAIKHU,CHARACTER MAI EK,CHARACTER MAI THO",
  "E4A THAI:CHARACTER MAI TRI,CHARACTER MAI CHATTAWA,CHARACTER THANTHAKHAT,CHARACTER NIKHAHIT",
  "E4E THAI:CHARACTER YAMAKKAN,CHARACTER FONGMAN,DIGIT ZERO,DIGIT ONE,DIGIT TWO,DIGIT THREE",
  "E54 THAI:DIGIT FOUR,DIGIT FIVE,DIGIT SIX,DIGIT SEVEN,DIGIT EIGHT,DIGIT NINE",
  "E5A THAI:CHARACTER ANGKHANKHU,CHARACTER KHOMUT;E81 LAO LETTER:KO,KHO SUNG",
  "E84:LAO LETTER KHO TAM;E86 LAO LETTER:PALI GHA,NGO,CO,PALI CHA,SO TAM",
  "E8C LAO LETTER:PALI JHA,NYO,PALI NYA,PALI TTA,PALI TTHA,PALI DDA,PALI DDHA,PALI NNA,DO,TO",
  "E96 LAO LETTER:THO SUNG,THO TAM,PALI DHA,NO,BO,PO,PHO SUNG,FO TAM,PHO TAM,FO SUNG,PALI BHA",
  "EA1 LAO LETTER:MO,YO,LO LING;EA5:LAO LETTER LO LOOT",
  "EA7 LAO:LETTER WO,LETTER SANSKRIT SHA,LETTER SANSKRIT SSA,LETTER SO SUNG,LETTER HO SUNG",
  "EAC LAO:LETTER PALI LLA,LETTER O,LETTER HO TAM,ELLIPSIS,VOWEL SIGN A,VOWEL SIGN MAI KAN",
  "EB2 LAO:VOWEL SIGN AA,VOWEL SIGN AM,VOWEL SIGN I,VOWEL SIGN II,VOWEL SIGN Y,VOWEL SIGN YY",
  "EB8 LAO:VOWEL SIGN U,VOWEL SIGN UU,SIGN PALI VIRAMA,VOWEL SIGN MAI KON,SEMIVOWEL SIGN LO",
  "EBD LAO:SEMIVOWEL SIGN NYO;EC0 LAO VOWEL SIGN:E,EI,O,AY,AI;EC6:LAO KO LA",
  "EC8 LAO TONE MAI:EK,THO,TI,CATAWA;ECC LAO:CANCELLATION MARK,NIGGAHITA",
  "ED0 LAO DIGIT:ZERO,ONE,TWO,THREE,FOUR,FIVE,SIX,SEVEN,EIGHT,NINE",
  "EDC LAO:HO NO,HO MO,LETTER KHMU GO,LETTER KHMU NYO",
  "F00 TIBETAN:SYLLABLE OM,MARK GTER YIG MGO TRUNCATED A,MARK GTER YIG MGO -UM RNAM BCAD MA",
  "F03 TIBETAN:MARK GTER YIG MGO -UM GTER TSHEG MA,MARK INITIAL YIG MGO MDUN MA",
  "F05 TIBETAN:MARK CLOSING YIG MGO SGAB MA,MARK CARET YIG MGO PHUR SHAD MA",
  "F07 TIBETAN:MARK YIG MGO TSHEG SHAD MA,MARK SBRUL SHAD,MARK BSKUR YIG MGO",
  "F0A TIBETAN:MARK BKA- SHOG YIG MGO,MARK INTERSYLLABIC TSHEG,MARK DELIMITER TSHEG BSTAR",
  "F0D TIBETAN:MARK SHAD,MARK NYIS SHAD,MARK TSHEG SHAD,MARK NYIS TSHEG SHAD",
  "F11 TIBETAN:MARK RIN CHEN SPUNGS SHAD,MARK RGYA GRAM SHAD,MARK CARET -DZUD RTAGS ME LONG CAN",
  "F14 TIBETAN:MARK GTER TSHEG,LOGOTYPE SIGN CHAD RTAGS,LOGOTYPE SIGN LHAG RTAGS",
  "F17 TIBETAN:ASTROLOGICAL SIGN SGRA GCAN -CHAR RTAGS,ASTROLOGICAL SIGN -KHYUD PA",
  "F19 TIBETAN:ASTROLOGICAL SIGN SDONG TSHUGS,SIGN RDEL DKAR GCIG,SIGN RDEL DKAR GNYIS",
  "F1C TIBETAN:SIGN RDEL DKAR GSUM,SIGN RDEL NAG GCIG,SIGN RDEL NAG GNYIS",
  "F1F TIBETAN:SIGN RDEL DKAR RDEL NAG,DIGIT ZERO,DIGIT ONE,DIGIT TWO,DIGIT THREE,DIGIT FOUR",
  "F25 TIBETAN:DIGIT FIVE,DIGIT SIX,DIGIT SEVEN,DIGIT EIGHT,DIGIT NINE,DIGIT HALF ONE",
  "F2B TIBETAN:DIGIT HALF TWO,DIGIT HALF THREE,DIGIT HALF FOUR,DIGIT HALF FIVE,DIGIT HALF SIX",
  "F30 TIBETAN:DIGIT HALF SEVEN,DIGIT HALF EIGHT,DIGIT HALF NINE,DIGIT HALF ZERO",
  "F34 TIBETAN:MARK BSDUS RTAGS,MARK NGAS BZUNG NYI ZLA,MARK CARET -DZUD RTAGS BZHI MIG CAN",
  "F37 TIBETAN:MARK NGAS BZUNG SGOR RTAGS,MARK CHE MGO,MARK TSA -PHRU,MARK GUG RTAGS GYON",
  "F3B TIBETAN:MARK GUG RTAGS GYAS,MARK ANG KHANG GYON,MARK ANG KHANG GYAS,SIGN YAR TSHES",
  "F3F TIBETAN:SIGN MAR TSHES,LETTER KA,LETTER KHA,LETTER GA,LETTER GHA,LETTER NGA,LETTER CA",
  "F46 TIBETAN:LETTER CHA,LETTER JA",
  "F49 TIBETAN LETTER:NYA,TTA,TTHA,DDA,DDHA,NNA,TA,THA,DA,DHA,NA,PA,PHA,BA,BHA,MA,TSA,TSHA,DZA",
  "F5C TIBETAN LETTER:DZHA,WA,ZHA,ZA,-A,YA,RA,LA,SHA,SSA,SA,HA,A,KSSA,FIXED-FORM RA,KKA,RRA",
  "F71 TIBETAN:VOWEL SIGN AA,VOWEL SIGN I,VOWEL SIGN II,VOWEL SIGN U,VOWEL SIGN UU",
  "F76 TIBETAN:VOWEL SIGN VOCALIC R,VOWEL SIGN VOCALIC RR,VOWEL SIGN VOCALIC L",
  "F79 TIBETAN:VOWEL SIGN VOCALIC LL,VOWEL SIGN E,VOWEL SIGN EE,VOWEL SIGN O,VOWEL SIGN OO",
  "F7E TIBETAN:SIGN RJES SU NGA RO,SIGN RNAM BCAD,VOWEL SIGN REVERSED I,VOWEL SIGN REVERSED II",
  "F82 TIBETAN:SIGN NYI ZLA NAA DA,SIGN SNA LDAN,MARK HALANTA,MARK PALUTA,SIGN LCI RTAGS",
  "F87 TIBETAN:SIGN YANG RTAGS,SIGN LCE TSA CAN,SIGN MCHU CAN,SIGN GRU CAN RGYINGS",
  "F8B TIBETAN:SIGN GRU MED RGYINGS,SIGN INVERTED MCHU CAN,SUBJOINED SIGN LCE TSA CAN",
  "F8E TIBETAN:SUBJOINED SIGN MCHU CAN,SUBJOINED SIGN INVERTED MCHU CAN,SUBJOINED LETTER KA",
  "F91 TIBETAN:SUBJOINED LETTER KHA,SUBJOINED LETTER GA,SUBJOINED LETTER GHA",
  "F94 TIBETAN:SUBJOINED LETTER NGA,SUBJOINED LETTER CA,SUBJOINED LETTER CHA",
  "F97 TIBETAN:SUBJOINED LETTER JA",
  "F99 TIBETAN SUBJOINED LETTER:NYA,TTA,TTHA,DDA,DDHA,NNA,TA,THA,DA,DHA,NA,PA,PHA,BA,BHA,MA,TSA",
  "FAA TIBETAN SUBJOINED LETTER:TSHA,DZA,DZHA,WA,ZHA,ZA,-A,YA,RA,LA,SHA,SSA,SA,HA,A,KSSA",
  "FBA TIBETAN SUBJOINED LETTER:FIXED-FORM WA,FIXED-FORM YA,FIXED-FORM RA",
  "FBE TIBETAN:KU RU KHA,KU RU KHA BZHI MIG CAN,CANTILLATION SIGN HEAVY BEAT",
  "FC1 TIBETAN:CANTILLATION SIGN LIGHT BEAT,CANTILLATION SIGN CANG TE-U",
  "FC3 TIBETAN:CANTILLATION SIGN SBUB -CHAL,SYMBOL DRIL BU,SYMBOL RDO RJE,SYMBOL PADMA GDAN",
  "FC7 TIBETAN:SYMBOL RDO RJE RGYA GRAM,SYMBOL PHUR PA,SYMBOL NOR BU,SYMBOL NOR BU NYIS -KHYIL",
  "FCB TIBETAN:SYMBOL NOR BU GSUM -KHYIL,SYMBOL NOR BU BZHI -KHYIL",
  "FCE TIBETAN:SIGN RDEL NAG RDEL DKAR,SIGN RDEL NAG GSUM,MARK BSKA- SHOG GI MGO RGYAN",
  "FD1 TIBETAN:MARK MNYAM YIG GI MGO RGYAN,MARK NYIS TSHEG",
  "FD3 TIBETAN:MARK INITIAL BRDA RNYING YIG MGO MDUN MA",
  "FD4 TIBETAN:MARK CLOSING BRDA RNYING YIG MGO SGAB MA;FD5:RIGHT-FACING SVASTI SIGN",
  "FD6:LEFT-FACING SVASTI SIGN;FD7:RIGHT-FACING SVASTI SIGN WITH DOTS",
  "FD8:LEFT-FACING SVASTI SIGN WITH DOTS",
  "FD9 TIBETAN MARK:LEADING MCHAN RTAGS,TRAILING MCHAN RTAGS",
  "1000 MYANMAR:LETTER KA,LETTER KHA,LETTER GA,LETTER GHA,LETTER NGA,LETTER CA,LETTER CHA",
  "1007 MYANMAR:LETTER JA,LETTER JHA,LETTER NYA,LETTER NNYA,LETTER TTA,LETTER TTHA,LETTER DDA",
  "100E MYANMAR:LETTER DDHA,LETTER NNA,LETTER TA,LETTER THA,LETTER DA,LETTER DHA,LETTER NA",
  "1015 MYANMAR:LETTER PA,LETTER PHA,LETTER BA,LETTER BHA,LETTER MA,LETTER YA,LETTER RA",
  "101C MYANMAR:LETTER LA,LETTER WA,LETTER SA,LETTER HA,LETTER LLA,LETTER A,LETTER SHAN A",
  "1023 MYANMAR:LETTER I,LETTER II,LETTER U,LETTER UU,LETTER E,LETTER MON E,LETTER O,LETTER AU",
  "102B MYANMAR:VOWEL SIGN TALL AA,VOWEL SIGN AA,VOWEL SIGN I,VOWEL SIGN II,VOWEL SIGN U",
  "1030 MYANMAR:VOWEL SIGN UU,VOWEL SIGN E,VOWEL SIGN AI,VOWEL SIGN MON II,VOWEL SIGN MON O",
  "1035 MYANMAR:VOWEL SIGN E ABOVE,SIGN ANUSVARA,SIGN DOT BELOW,SIGN VISARGA,SIGN VIRAMA",
  "103A MYANMAR:SIGN ASAT,CONSONANT SIGN MEDIAL YA,CONSONANT SIGN MEDIAL RA",
  "103D MYANMAR:CONSONANT SIGN MEDIAL WA,CONSONANT SIGN MEDIAL HA,LETTER GREAT SA,DIGIT ZERO",
  "1041 MYANMAR:DIGIT ONE,DIGIT TWO,DIGIT THREE,DIGIT FOUR,DIGIT FIVE,DIGIT SIX,DIGIT SEVEN",
  "1048 MYANMAR:DIGIT EIGHT,DIGIT NINE,SIGN LITTLE SECTION,SIGN SECTION,SYMBOL LOCATIVE",
  "104D MYANMAR:SYMBOL COMPLETED,SYMBOL AFOREMENTIONED,SYMBOL GENITIVE,LETTER SHA,LETTER SSA",
  "1052 MYANMAR:LETTER VOCALIC R,LETTER VOCALIC RR,LETTER VOCALIC L,LETTER VOCALIC LL",
  "1056 MYANMAR:VOWEL SIGN VOCALIC R,VOWEL SIGN VOCALIC RR,VOWEL SIGN VOCALIC L",
  "1059 MYANMAR:VOWEL SIGN VOCALIC LL,LETTER MON NGA,LETTER MON JHA,LETTER MON BBA",
  "105D MYANMAR:LETTER MON BBE,CONSONANT SIGN MON MEDIAL NA,CONSONANT SIGN MON MEDIAL MA",
  "1060 MYANMAR:CONSONANT SIGN MON MEDIAL LA,LETTER SGAW KAREN SHA,VOWEL SIGN SGAW KAREN EU",
  "1063 MYANMAR:TONE MARK SGAW KAREN HATHI,TONE MARK SGAW KAREN KE PHO",
  "1065 MYANMAR:LETTER WESTERN PWO KAREN THA,LETTER WESTERN PWO KAREN PWA",
  "1067 MYANMAR:VOWEL SIGN WESTERN PWO KAREN EU,VOWEL SIGN WESTERN PWO KAREN UE",
  "1069 MYANMAR:SIGN WESTERN PWO KAREN TONE-1,SIGN WESTERN PWO KAREN TONE-2",
  "106B MYANMAR:SIGN WESTERN PWO KAREN TONE-3,SIGN WESTERN PWO KAREN TONE-4",
  "106D MYANMAR:SIGN WESTERN PWO KAREN TONE-5,LETTER EASTERN PWO KAREN NNA",
  "106F MYANMAR:LETTER EASTERN PWO KAREN YWA,LETTER EASTERN PWO KAREN GHWA",
  "1071 MYANMAR:VOWEL SIGN GEBA KAREN I,VOWEL SIGN KAYAH OE,VOWEL SIGN KAYAH U",
  "1074 MYANMAR:VOWEL SIGN KAYAH EE,LETTER SHAN KA,LETTER SHAN KHA,LETTER SHAN GA",
  "1078 MYANMAR:LETTER SHAN CA,LETTER SHAN ZA,LETTER SHAN NYA,LETTER SHAN DA,LETTER SHAN NA",
  "107D MYANMAR:LETTER SHAN PHA,LETTER SHAN FA,LETTER SHAN BA,LETTER SHAN THA,LETTER SHAN HA",
  "1082 MYANMAR:CONSONANT SIGN SHAN MEDIAL WA,VOWEL SIGN SHAN AA,VOWEL SIGN SHAN E",
  "1085 MYANMAR:VOWEL SIGN SHAN E ABOVE,VOWEL SIGN SHAN FINAL Y,SIGN SHAN TONE-2",
  "1088 MYANMAR:SIGN SHAN TONE-3,SIGN SHAN TONE-5,SIGN SHAN TONE-6,SIGN SHAN COUNCIL TONE-2",
  "108C MYANMAR:SIGN SHAN COUNCIL TONE-3,SIGN SHAN COUNCIL EMPHATIC TONE",
  "108E MYANMAR:LETTER RUMAI PALAUNG FA,SIGN RUMAI PALAUNG TONE-5,SHAN DIGIT ZERO",
  "1091 MYANMAR:SHAN DIGIT ONE,SHAN DIGIT TWO,SHAN DIGIT THREE,SHAN DIGIT FOUR,SHAN DIGIT FIVE",
  "1096 MYANMAR:SHAN DIGIT SIX,SHAN DIGIT SEVEN,SHAN DIGIT EIGHT,SHAN DIGIT NINE",
  "109A MYANMAR:SIGN KHAMTI TONE-1,SIGN KHAMTI TONE-3,VOWEL SIGN AITON A,VOWEL SIGN AITON AI",
  "109E MYANMAR:SYMBOL SHAN ONE,SYMBOL SHAN EXCLAMATION",
  "10A0 GEORGIAN CAPITAL LETTER:AN,BAN,GAN,DON,EN,VIN,ZEN,TAN,IN,KAN,LAS,MAN,NAR,ON,PAR,ZHAR",
  "10B0 GEORGIAN CAPITAL LETTER:RAE,SAN,TAR,UN,PHAR,KHAR,GHAN,QAR,SHIN,CHIN,CAN,JIL,CIL,CHAR",
  "10BE GEORGIAN CAPITAL LETTER:XAN,JHAN,HAE,HE,HIE,WE,HAR,HOE;10C7:GEORGIAN CAPITAL LETTER YN",
  "10CD:GEORGIAN CAPITAL LETTER AEN",
  "10D0 GEORGIAN LETTER:AN,BAN,GAN,DON,EN,VIN,ZEN,TAN,IN,KAN,LAS,MAN,NAR,ON,PAR,ZHAR,RAE,SAN",
  "10E2 GEORGIAN LETTER:TAR,UN,PHAR,KHAR,GHAN,QAR,SHIN,CHIN,CAN,JIL,CIL,CHAR,XAN,JHAN,HAE,HE",
  "10F2 GEORGIAN LETTER:HIE,WE,HAR,HOE,FI,YN,ELIFI,TURNED GAN,AIN",
  "10FB:GEORGIAN PARAGRAPH SEPARATOR;10FC:MODIFIER LETTER GEORGIAN NAR;10FD:GEORGIAN LETTER AEN",
  "10FE:GEORGIAN LETTER HARD SIGN;10FF:GEORGIAN LETTER LABIAL SIGN",
  "1100 HANGUL:CHOSEONG KIYEOK,CHOSEONG SSANGKIYEOK,CHOSEONG NIEUN,CHOSEONG TIKEUT",
  "1104 HANGUL:CHOSEONG SSANGTIKEUT,CHOSEONG RIEUL,CHOSEONG MIEUM,CHOSEONG PIEUP",
  "1108 HANGUL:CHOSEONG SSANGPIEUP,CHOSEONG SIOS,CHOSEONG SSANGSIOS,CHOSEONG IEUNG",
  "110C HANGUL:CHOSEONG CIEUC,CHOSEONG SSANGCIEUC,CHOSEONG CHIEUCH,CHOSEONG KHIEUKH",
  "1110 HANGUL:CHOSEONG THIEUTH,CHOSEONG PHIEUPH,CHOSEONG HIEUH,CHOSEONG NIEUN-KIYEOK",
  "1114 HANGUL:CHOSEONG SSANGNIEUN,CHOSEONG NIEUN-TIKEUT,CHOSEONG NIEUN-PIEUP",
  "1117 HANGUL:CHOSEONG TIKEUT-KIYEOK,CHOSEONG RIEUL-NIEUN,CHOSEONG SSANGRIEUL",
  "111A HANGUL:CHOSEONG RIEUL-HIEUH,CHOSEONG KAPYEOUNRIEUL,CHOSEONG MIEUM-PIEUP",
  "111D HANGUL:CHOSEONG KAPYEOUNMIEUM,CHOSEONG PIEUP-KIYEOK,CHOSEONG PIEUP-NIEUN",
  "1120 HANGUL:CHOSEONG PIEUP-TIKEUT,CHOSEONG PIEUP-SIOS,CHOSEONG PIEUP-SIOS-KIYEOK",
  "1123 HANGUL:CHOSEONG PIEUP-SIOS-TIKEUT,CHOSEONG PIEUP-SIOS-PIEUP,CHOSEONG PIEUP-SSANGSIOS",
  "1126 HANGUL:CHOSEONG PIEUP-SIOS-CIEUC,CHOSEONG PIEUP-CIEUC,CHOSEONG PIEUP-CHIEUCH",
  "1129 HANGUL:CHOSEONG PIEUP-THIEUTH,CHOSEONG PIEUP-PHIEUPH,CHOSEONG KAPYEOUNPIEUP",
  "112C HANGUL:CHOSEONG KAPYEOUNSSANGPIEUP,CHOSEONG SIOS-KIYEOK,CHOSEONG SIOS-NIEUN",
  "112F HANGUL:CHOSEONG SIOS-TIKEUT,CHOSEONG SIOS-RIEUL,CHOSEONG SIOS-MIEUM,CHOSEONG SIOS-PIEUP",
  "1133 HANGUL:CHOSEONG SIOS-PIEUP-KIYEOK,CHOSEONG SIOS-SSANGSIOS,CHOSEONG SIOS-IEUNG",
  "1136 HANGUL:CHOSEONG SIOS-CIEUC,CHOSEONG SIOS-CHIEUCH,CHOSEONG SIOS-KHIEUKH",
  "1139 HANGUL:CHOSEONG SIOS-THIEUTH,CHOSEONG SIOS-PHIEUPH,CHOSEONG SIOS-HIEUH",
  "113C HANGUL:CHOSEONG CHITUEUMSIOS,CHOSEONG CHITUEUMSSANGSIOS,CHOSEONG CEONGCHIEUMSIOS",
  "113F HANGUL:CHOSEONG CEONGCHIEUMSSANGSIOS,CHOSEONG PANSIOS,CHOSEONG IEUNG-KIYEOK",
  "1142 HANGUL:CHOSEONG IEUNG-TIKEUT,CHOSEONG IEUNG-MIEUM,CHOSEONG IEUNG-PIEUP",
  "1145 HANGUL:CHOSEONG IEUNG-SIOS,CHOSEONG IEUNG-PANSIOS,CHOSEONG SSANGIEUNG",
  "1148 HANGUL:CHOSEONG IEUNG-CIEUC,CHOSEONG IEUNG-CHIEUCH,CHOSEONG IEUNG-THIEUTH",
  "114B HANGUL:CHOSEONG IEUNG-PHIEUPH,CHOSEONG YESIEUNG,CHOSEONG CIEUC-IEUNG",
  "114E HANGUL:CHOSEONG CHITUEUMCIEUC,CHOSEONG CHITUEUMSSANGCIEUC,CHOSEONG CEONGCHIEUMCIEUC",
  "1151 HANGUL:CHOSEONG CEONGCHIEUMSSANGCIEUC,CHOSEONG CHIEUCH-KHIEUKH,CHOSEONG CHIEUCH-HIEUH",
  "1154 HANGUL:CHOSEONG CHITUEUMCHIEUCH,CHOSEONG CEONGCHIEUMCHIEUCH,CHOSEONG PHIEUPH-PIEUP",
  "1157 HANGUL:CHOSEONG KAPYEOUNPHIEUPH,CHOSEONG SSANGHIEUH,CHOSEONG YEORINHIEUH",
  "115A HANGUL:CHOSEONG KIYEOK-TIKEUT,CHOSEONG NIEUN-SIOS,CHOSEONG NIEUN-CIEUC",
  "115D HANGUL:CHOSEONG NIEUN-HIEUH,CHOSEONG TIKEUT-RIEUL,CHOSEONG FILLER,JUNGSEONG FILLER",
  "1161 HANGUL:JUNGSEONG A,JUNGSEONG AE,JUNGSEONG YA,JUNGSEONG YAE,JUNGSEONG EO,JUNGSEONG E",
  "1167 HANGUL:JUNGSEONG YEO,JUNGSEONG YE,JUNGSEONG O,JUNGSEONG WA,JUNGSEONG WAE,JUNGSEONG OE",
  "116D HANGUL:JUNGSEONG YO,JUNGSEONG U,JUNGSEONG WEO,JUNGSEONG WE,JUNGSEONG WI,JUNGSEONG YU",
  "1173 HANGUL:JUNGSEONG EU,JUNGSEONG YI,JUNGSEONG I,JUNGSEONG A-O,JUNGSEONG A-U,JUNGSEONG YA-O",
  "1179 HANGUL:JUNGSEONG YA-YO,JUNGSEONG EO-O,JUNGSEONG EO-U,JUNGSEONG EO-EU,JUNGSEONG YEO-O",
  "117E HANGUL:JUNGSEONG YEO-U,JUNGSEONG O-EO,JUNGSEONG O-E,JUNGSEONG O-YE,JUNGSEONG O-O",
  "1183 HANGUL:JUNGSEONG O-U,JUNGSEONG YO-YA,JUNGSEONG YO-YAE,JUNGSEONG YO-YEO,JUNGSEONG YO-O",
  "1188 HANGUL:JUNGSEONG YO-I,JUNGSEONG U-A,JUNGSEONG U-AE,JUNGSEONG U-EO-EU,JUNGSEONG U-YE",
  "118D HANGUL:JUNGSEONG U-U,JUNGSEONG YU-A,JUNGSEONG YU-EO,JUNGSEONG YU-E,JUNGSEONG YU-YEO",
  "1192 HANGUL:JUNGSEONG YU-YE,JUNGSEONG YU-U,JUNGSEONG YU-I,JUNGSEONG EU-U,JUNGSEONG EU-EU",
  "1197 HANGUL:JUNGSEONG YI-U,JUNGSEONG I-A,JUNGSEONG I-YA,JUNGSEONG I-O,JUNGSEONG I-U",
  "119C HANGUL:JUNGSEONG I-EU,JUNGSEONG I-ARAEA,JUNGSEONG ARAEA,JUNGSEONG ARAEA-EO",
  "11A0 HANGUL:JUNGSEONG ARAEA-U,JUNGSEONG ARAEA-I,JUNGSEONG SSANGARAEA,JUNGSEONG A-EU",
  "11A4 HANGUL:JUNGSEONG YA-U,JUNGSEONG YEO-YA,JUNGSEONG O-YA,JUNGSEONG O-YAE,JONGSEONG KIYEOK",
  "11A9 HANGUL:JONGSEONG SSANGKIYEOK,JONGSEONG KIYEOK-SIOS,JONGSEONG NIEUN",
  "11AC HANGUL:JONGSEONG NIEUN-CIEUC,JONGSEONG NIEUN-HIEUH,JONGSEONG TIKEUT,JONGSEONG RIEUL",
  "11B0 HANGUL:JONGSEONG RIEUL-KIYEOK,JONGSEONG RIEUL-MIEUM,JONGSEONG RIEUL-PIEUP",
  "11B3 HANGUL:JONGSEONG RIEUL-SIOS,JONGSEONG RIEUL-THIEUTH,JONGSEONG RIEUL-PHIEUPH",
  "11B6 HANGUL:JONGSEONG RIEUL-HIEUH,JONGSEONG MIEUM,JONGSEONG PIEUP,JONGSEONG PIEUP-SIOS",
  "11BA HANGUL:JONGSEONG SIOS,JONGSEONG SSANGSIOS,JONGSEONG IEUNG,JONGSEONG CIEUC",
  "11BE HANGUL:JONGSEONG CHIEUCH,JONGSEONG KHIEUKH,JONGSEONG THIEUTH,JONGSEONG PHIEUPH",
  "11C2 HANGUL:JONGSEONG HIEUH,JONGSEONG KIYEOK-RIEUL,JONGSEONG KIYEOK-SIOS-KIYEOK",
  "11C5 HANGUL:JONGSEONG NIEUN-KIYEOK,JONGSEONG NIEUN-TIKEUT,JONGSEONG NIEUN-SIOS",
  "11C8 HANGUL:JONGSEONG NIEUN-PANSIOS,JONGSEONG NIEUN-THIEUTH,JONGSEONG TIKEUT-KIYEOK",
  "11CB HANGUL:JONGSEONG TIKEUT-RIEUL,JONGSEONG RIEUL-KIYEOK-SIOS,JONGSEONG RIEUL-NIEUN",
  "11CE HANGUL:JONGSEONG RIEUL-TIKEUT,JONGSEONG RIEUL-TIKEUT-HIEUH,JONGSEONG SSANGRIEUL",
  "11D1 HANGUL:JONGSEONG RIEUL-MIEUM-KIYEOK,JONGSEONG RIEUL-MIEUM-SIOS",
  "11D3 HANGUL:JONGSEONG RIEUL-PIEUP-SIOS,JONGSEONG RIEUL-PIEUP-HIEUH",
  "11D5 HANGUL:JONGSEONG RIEUL-KAPYEOUNPIEUP,JONGSEONG RIEUL-SSANGSIOS,JONGSEONG RIEUL-PANSIOS",
  "11D8 HANGUL:JONGSEONG RIEUL-KHIEUKH,JONGSEONG RIEUL-YEORINHIEUH,JONGSEONG MIEUM-KIYEOK",
  "11DB HANGUL:JONGSEONG MIEUM-RIEUL,JONGSEONG MIEUM-PIEUP,JONGSEONG MIEUM-SIOS",
  "11DE HANGUL:JONGSEONG MIEUM-SSANGSIOS,JONGSEONG MIEUM-PANSIOS,JONGSEONG MIEUM-CHIEUCH",
  "11E1 HANGUL:JONGSEONG MIEUM-HIEUH,JONGSEONG KAPYEOUNMIEUM,JONGSEONG PIEUP-RIEUL",
  "11E4 HANGUL:JONGSEONG PIEUP-PHIEUPH,JONGSEONG PIEUP-HIEUH,JONGSEONG KAPYEOUNPIEUP",
  "11E7 HANGUL:JONGSEONG SIOS-KIYEOK,JONGSEONG SIOS-TIKEUT,JONGSEONG SIOS-RIEUL",
  "11EA HANGUL:JONGSEONG SIOS-PIEUP,JONGSEONG PANSIOS,JONGSEONG IEUNG-KIYEOK",
  "11ED HANGUL:JONGSEONG IEUNG-SSANGKIYEOK,JONGSEONG SSANGIEUNG,JONGSEONG IEUNG-KHIEUKH",
  "11F0 HANGUL:JONGSEONG YESIEUNG,JONGSEONG YESIEUNG-SIOS,JONGSEONG YESIEUNG-PANSIOS",
  "11F3 HANGUL:JONGSEONG PHIEUPH-PIEUP,JONGSEONG KAPYEOUNPHIEUPH,JONGSEONG HIEUH-NIEUN",
  "11F6 HANGUL:JONGSEONG HIEUH-RIEUL,JONGSEONG HIEUH-MIEUM,JONGSEONG HIEUH-PIEUP",
  "11F9 HANGUL:JONGSEONG YEORINHIEUH,JONGSEONG KIYEOK-NIEUN,JONGSEONG KIYEOK-PIEUP",
  "11FC HANGUL:JONGSEONG KIYEOK-CHIEUCH,JONGSEONG KIYEOK-KHIEUKH,JONGSEONG KIYEOK-HIEUH",
  "11FF HANGUL:JONGSEONG SSANGNIEUN",
  "1200 ETHIOPIC SYLLABLE:HA,HU,HI,HAA,HEE,HE,HO,HOA,LA,LU,LI,LAA,LEE,LE,LO,LWA,HHA,HHU,HHI",
  "1213 ETHIOPIC SYLLABLE:HHAA,HHEE,HHE,HHO,HHWA,MA,MU,MI,MAA,MEE,ME,MO,MWA,SZA,SZU,SZI,SZAA",
  "1224 ETHIOPIC SYLLABLE:SZEE,SZE,SZO,SZWA,RA,RU,RI,RAA,REE,RE,RO,RWA,SA,SU,SI,SAA,SEE,SE,SO",
  "1237 ETHIOPIC SYLLABLE:SWA,SHA,SHU,SHI,SHAA,SHEE,SHE,SHO,SHWA,QA,QU,QI,QAA,QEE,QE,QO,QOA,QWA",
  "124A ETHIOPIC SYLLABLE:QWI,QWAA,QWEE,QWE",
  "1250 ETHIOPIC SYLLABLE:QHA,QHU,QHI,QHAA,QHEE,QHE,QHO;1258:ETHIOPIC SYLLABLE QHWA",
  "125A ETHIOPIC SYLLABLE:QHWI,QHWAA,QHWEE,QHWE",
  "1260 ETHIOPIC SYLLABLE:BA,BU,BI,BAA,BEE,BE,BO,BWA,VA,VU,VI,VAA,VEE,VE,VO,VWA,TA,TU,TI,TAA",
  "1274 ETHIOPIC SYLLABLE:TEE,TE,TO,TWA,CA,CU,CI,CAA,CEE,CE,CO,CWA,XA,XU,XI,XAA,XEE,XE,XO,XOA",
  "1288 ETHIOPIC SYLLABLE:XWA;128A ETHIOPIC SYLLABLE:XWI,XWAA,XWEE,XWE",
  "1290 ETHIOPIC SYLLABLE:NA,NU,NI,NAA,NEE,NE,NO,NWA,NYA,NYU,NYI,NYAA,NYEE,NYE,NYO,NYWA",
  "12A0 ETHIOPIC SYLLABLE:GLOTTAL A,GLOTTAL U,GLOTTAL I,GLOTTAL AA,GLOTTAL EE,GLOTTAL E",
  "12A6 ETHIOPIC SYLLABLE:GLOTTAL O,GLOTTAL WA,KA,KU,KI,KAA,KEE,KE,KO,KOA,KWA",
  "12B2 ETHIOPIC SYLLABLE:KWI,KWAA,KWEE,KWE",
  "12B8 ETHIOPIC SYLLABLE:KXA,KXU,KXI,KXAA,KXEE,KXE,KXO;12C0:ETHIOPIC SYLLABLE KXWA",
  "12C2 ETHIOPIC SYLLABLE:KXWI,KXWAA,KXWEE,KXWE",
  "12C8 ETHIOPIC SYLLABLE:WA,WU,WI,WAA,WEE,WE,WO,WOA,PHARYNGEAL A,PHARYNGEAL U,PHARYNGEAL I",
  "12D3 ETHIOPIC SYLLABLE:PHARYNGEAL AA,PHARYNGEAL EE,PHARYNGEAL E,PHARYNGEAL O",
  "12D8 ETHIOPIC SYLLABLE:ZA,ZU,ZI,ZAA,ZEE,ZE,ZO,ZWA,ZHA,ZHU,ZHI,ZHAA,ZHEE,ZHE,ZHO,ZHWA,YA,YU",
  "12EA ETHIOPIC SYLLABLE:YI,YAA,YEE,YE,YO,YOA,DA,DU,DI,DAA,DEE,DE,DO,DWA,DDA,DDU,DDI,DDAA,DDEE",
  "12FD ETHIOPIC SYLLABLE:DDE,DDO,DDWA,JA,JU,JI,JAA,JEE,JE,JO,JWA,GA,GU,GI,GAA,GEE,GE,GO,GOA",
  "1310 ETHIOPIC SYLLABLE:GWA;1312 ETHIOPIC SYLLABLE:GWI,GWAA,GWEE,GWE",
  "1318 ETHIOPIC SYLLABLE:GGA,GGU,GGI,GGAA,GGEE,GGE,GGO,GGWAA,THA,THU,THI,THAA,THEE,THE,THO",
  "1327 ETHIOPIC SYLLABLE:THWA,CHA,CHU,CHI,CHAA,CHEE,CHE,CHO,CHWA,PHA,PHU,PHI,PHAA,PHEE,PHE,PHO",
  "1337 ETHIOPIC SYLLABLE:PHWA,TSA,TSU,TSI,TSAA,TSEE,TSE,TSO,TSWA,TZA,TZU,TZI,TZAA,TZEE,TZE,TZO",
  "1347 ETHIOPIC SYLLABLE:TZOA,FA,FU,FI,FAA,FEE,FE,FO,FWA,PA,PU,PI,PAA,PEE,PE,PO,PWA,RYA,MYA",
  "135A ETHIOPIC SYLLABLE:FYA",
  "135D ETHIOPIC:COMBINING GEMINATION AND VOWEL LENGTH MARK,COMBINING VOWEL LENGTH MARK",
  "135F ETHIOPIC:COMBINING GEMINATION MARK,SECTION MARK,WORDSPACE,FULL STOP,COMMA,SEMICOLON",
  "1365 ETHIOPIC:COLON,PREFACE COLON,QUESTION MARK,PARAGRAPH SEPARATOR,DIGIT ONE,DIGIT TWO",
  "136B ETHIOPIC:DIGIT THREE,DIGIT FOUR,DIGIT FIVE,DIGIT SIX,DIGIT SEVEN,DIGIT EIGHT,DIGIT NINE",
  "1372 ETHIOPIC:NUMBER TEN,NUMBER TWENTY,NUMBER THIRTY,NUMBER FORTY,NUMBER FIFTY,NUMBER SIXTY",
  "1378 ETHIOPIC:NUMBER SEVENTY,NUMBER EIGHTY,NUMBER NINETY,NUMBER HUNDRED,NUMBER TEN THOUSAND",
  "1380 ETHIOPIC SYLLABLE:SEBATBEIT MWA,MWI,MWEE,MWE,SEBATBEIT BWA,BWI,BWEE,BWE,SEBATBEIT FWA",
  "1389 ETHIOPIC SYLLABLE:FWI,FWEE,FWE,SEBATBEIT PWA,PWI,PWEE,PWE",
  "1390 ETHIOPIC TONAL MARK:YIZET,DERET,RIKRIK,SHORT RIKRIK,DIFAT,KENAT,CHIRET,HIDET",
  "1398 ETHIOPIC TONAL MARK:DERET-HIDET,KURT",
  "13A0 CHEROKEE LETTER:A,E,I,O,U,V,GA,KA,GE,GI,GO,GU,GV,HA,HE,HI,HO,HU,HV,LA,LE,LI,LO,LU,LV,MA",
  "13BA CHEROKEE LETTER:ME,MI,MO,MU,NA,HNA,NAH,NE,NI,NO,NU,NV,QUA,QUE,QUI,QUO,QUU,QUV,SA,S,SE",
  "13CF CHEROKEE LETTER:SI,SO,SU,SV,DA,TA,DE,TE,DI,TI,DO,DU,DV,DLA,TLA,TLE,TLI,TLO,TLU,TLV,TSA",
  "13E4 CHEROKEE LETTER:TSE,TSI,TSO,TSU,TSV,WA,WE,WI,WO,WU,WV,YA,YE,YI,YO,YU,YV,MV",
  "13F8 CHEROKEE SMALL LETTER:YE,YI,YO,YU,YV,MV",
  "1400 CANADIAN SYLLABICS:HYPHEN,E,AAI,I,II,O,OO,Y-CREE OO,CARRIER EE,CARRIER I,A,AA,WE",
  "140D CANADIAN SYLLABICS:WEST-CREE WE,WI,WEST-CREE WI,WII,WEST-CREE WII,WO,WEST-CREE WO,WOO",
  "1415 CANADIAN SYLLABICS:WEST-CREE WOO,NASKAPI WOO,WA,WEST-CREE WA,WAA,WEST-CREE WAA",
  "141B CANADIAN SYLLABICS:NASKAPI WAA,AI,Y-CREE W,GLOTTAL STOP,FINAL ACUTE,FINAL GRAVE",
  "1421 CANADIAN SYLLABICS:FINAL BOTTOM HALF RING,FINAL TOP HALF RING,FINAL RIGHT HALF RING",
  "1424 CANADIAN SYLLABICS:FINAL RING,FINAL DOUBLE ACUTE,FINAL DOUBLE SHORT VERTICAL STROKES",
  "1427 CANADIAN SYLLABICS:FINAL MIDDLE DOT,FINAL SHORT HORIZONTAL STROKE,FINAL PLUS",
  "142A CANADIAN SYLLABICS:FINAL DOWN TACK,EN,IN,ON,AN,PE,PAAI,PI,PII,PO,POO,Y-CREE POO",
  "1436 CANADIAN SYLLABICS:CARRIER HEE,CARRIER HI,PA,PAA,PWE,WEST-CREE PWE,PWI,WEST-CREE PWI",
  "143E CANADIAN SYLLABICS:PWII,WEST-CREE PWII,PWO,WEST-CREE PWO,PWOO,WEST-CREE PWOO,PWA",
  "1445 CANADIAN SYLLABICS:WEST-CREE PWA,PWAA,WEST-CREE PWAA,Y-CREE PWAA,P,WEST-CREE P",
  "144B CANADIAN SYLLABICS:CARRIER H,TE,TAAI,TI,TII,TO,TOO,Y-CREE TOO,CARRIER DEE,CARRIER DI,TA",
  "1456 CANADIAN SYLLABICS:TAA,TWE,WEST-CREE TWE,TWI,WEST-CREE TWI,TWII,WEST-CREE TWII,TWO",
  "145E CANADIAN SYLLABICS:WEST-CREE TWO,TWOO,WEST-CREE TWOO,TWA,WEST-CREE TWA,TWAA",
  "1464 CANADIAN SYLLABICS:WEST-CREE TWAA,NASKAPI TWAA,T,TTE,TTI,TTO,TTA,KE,KAAI,KI,KII,KO,KOO",
  "1471 CANADIAN SYLLABICS:Y-CREE KOO,KA,KAA,KWE,WEST-CREE KWE,KWI,WEST-CREE KWI,KWII",
  "1479 CANADIAN SYLLABICS:WEST-CREE KWII,KWO,WEST-CREE KWO,KWOO,WEST-CREE KWOO,KWA",
  "147F CANADIAN SYLLABICS:WEST-CREE KWA,KWAA,WEST-CREE KWAA,NASKAPI KWAA,K,KW,SOUTH-SLAVEY KEH",
  "1486 CANADIAN SYLLABICS:SOUTH-SLAVEY KIH,SOUTH-SLAVEY KOH,SOUTH-SLAVEY KAH,CE,CAAI,CI,CII,CO",
  "148E CANADIAN SYLLABICS:COO,Y-CREE COO,CA,CAA,CWE,WEST-CREE CWE,CWI,WEST-CREE CWI,CWII",
  "1497 CANADIAN SYLLABICS:WEST-CREE CWII,CWO,WEST-CREE CWO,CWOO,WEST-CREE CWOO,CWA",
  "149D CANADIAN SYLLABICS:WEST-CREE CWA,CWAA,WEST-CREE CWAA,NASKAPI CWAA,C,SAYISI TH,ME,MAAI",
  "14A5 CANADIAN SYLLABICS:MI,MII,MO,MOO,Y-CREE MOO,MA,MAA,MWE,WEST-CREE MWE,MWI,WEST-CREE MWI",
  "14B0 CANADIAN SYLLABICS:MWII,WEST-CREE MWII,MWO,WEST-CREE MWO,MWOO,WEST-CREE MWOO,MWA",
  "14B7 CANADIAN SYLLABICS:WEST-CREE MWA,MWAA,WEST-CREE MWAA,NASKAPI MWAA,M,WEST-CREE M,MH",
  "14BE CANADIAN SYLLABICS:ATHAPASCAN M,SAYISI M,NE,NAAI,NI,NII,NO,NOO,Y-CREE NOO,NA,NAA,NWE",
  "14CA CANADIAN SYLLABICS:WEST-CREE NWE,NWA,WEST-CREE NWA,NWAA,WEST-CREE NWAA,NASKAPI NWAA,N",
  "14D1 CANADIAN SYLLABICS:CARRIER NG,NH,LE,LAAI,LI,LII,LO,LOO,Y-CREE LOO,LA,LAA,LWE",
  "14DD CANADIAN SYLLABICS:WEST-CREE LWE,LWI,WEST-CREE LWI,LWII,WEST-CREE LWII,LWO",
  "14E3 CANADIAN SYLLABICS:WEST-CREE LWO,LWOO,WEST-CREE LWOO,LWA,WEST-CREE LWA,LWAA",
  "14E9 CANADIAN SYLLABICS:WEST-CREE LWAA,L,WEST-CREE L,MEDIAL L,SE,SAAI,SI,SII,SO,SOO",
  "14F3 CANADIAN SYLLABICS:Y-CREE SOO,SA,SAA,SWE,WEST-CREE SWE,SWI,WEST-CREE SWI,SWII",
  "14FB CANADIAN SYLLABICS:WEST-CREE SWII,SWO,WEST-CREE SWO,SWOO,WEST-CREE SWOO,SWA",
  "1501 CANADIAN SYLLABICS:WEST-CREE SWA,SWAA,WEST-CREE SWAA,NASKAPI SWAA,S,ATHAPASCAN S,SW",
  "1508 CANADIAN SYLLABICS:BLACKFOOT S,MOOSE-CREE SK,NASKAPI SKW,NASKAPI S-W,NASKAPI SPWA",
  "150D CANADIAN SYLLABICS:NASKAPI STWA,NASKAPI SKWA,NASKAPI SCWA,SHE,SHI,SHII,SHO,SHOO,SHA",
  "1516 CANADIAN SYLLABICS:SHAA,SHWE,WEST-CREE SHWE,SHWI,WEST-CREE SHWI,SHWII,WEST-CREE SHWII",
  "151D CANADIAN SYLLABICS:SHWO,WEST-CREE SHWO,SHWOO,WEST-CREE SHWOO,SHWA,WEST-CREE SHWA,SHWAA",
  "1524 CANADIAN SYLLABICS:WEST-CREE SHWAA,SH,YE,YAAI,YI,YII,YO,YOO,Y-CREE YOO,YA,YAA,YWE",
  "1530 CANADIAN SYLLABICS:WEST-CREE YWE,YWI,WEST-CREE YWI,YWII,WEST-CREE YWII,YWO",
  "1536 CANADIAN SYLLABICS:WEST-CREE YWO,YWOO,WEST-CREE YWOO,YWA,WEST-CREE YWA,YWAA",
  "153C CANADIAN SYLLABICS:WEST-CREE YWAA,NASKAPI YWAA,Y,BIBLE-CREE Y,WEST-CREE Y,SAYISI YI,RE",
  "1543 CANADIAN SYLLABICS:R-CREE RE,WEST-CREE LE,RAAI,RI,RII,RO,ROO,WEST-CREE LO,RA,RAA",
  "154D CANADIAN SYLLABICS:WEST-CREE LA,RWAA,WEST-CREE RWAA,R,WEST-CREE R,MEDIAL R,FE,FAAI,FI",
  "1556 CANADIAN SYLLABICS:FII,FO,FOO,FA,FAA,FWAA,WEST-CREE FWAA,F,THE,N-CREE THE,THI",
  "1561 CANADIAN SYLLABICS:N-CREE THI,THII,N-CREE THII,THO,THOO,THA,THAA,THWAA,WEST-CREE THWAA",
  "156A CANADIAN SYLLABICS:TH,TTHE,TTHI,TTHO,TTHA,TTH,TYE,TYI,TYO,TYA,NUNAVIK HE,NUNAVIK HI",
  "1576 CANADIAN SYLLABICS:NUNAVIK HII,NUNAVIK HO,NUNAVIK HOO,NUNAVIK HA,NUNAVIK HAA,NUNAVIK H",
  "157C CANADIAN SYLLABICS:NUNAVUT H,HK,QAAI,QI,QII,QO,QOO,QA,QAA,Q,TLHE,TLHI,TLHO,TLHA",
  "158A CANADIAN SYLLABICS:WEST-CREE RE,WEST-CREE RI,WEST-CREE RO,WEST-CREE RA,NGAAI,NGI,NGII",
  "1591 CANADIAN SYLLABICS:NGO,NGOO,NGA,NGAA,NG,NNG,SAYISI SHE,SAYISI SHI,SAYISI SHO,SAYISI SHA",
  "159B CANADIAN SYLLABICS:WOODS-CREE THE,WOODS-CREE THI,WOODS-CREE THO,WOODS-CREE THA",
  "159F CANADIAN SYLLABICS:WOODS-CREE TH,LHI,LHII,LHO,LHOO,LHA,LHAA,LH,TH-CREE THE,TH-CREE THI",
  "15A9 CANADIAN SYLLABICS:TH-CREE THII,TH-CREE THO,TH-CREE THOO,TH-CREE THA,TH-CREE THAA",
  "15AE CANADIAN SYLLABICS:TH-CREE TH,AIVILIK B,BLACKFOOT E,BLACKFOOT I,BLACKFOOT O,BLACKFOOT A",
  "15B4 CANADIAN SYLLABICS:BLACKFOOT WE,BLACKFOOT WI,BLACKFOOT WO,BLACKFOOT WA,BLACKFOOT NE",
  "15B9 CANADIAN SYLLABICS:BLACKFOOT NI,BLACKFOOT NO,BLACKFOOT NA,BLACKFOOT KE,BLACKFOOT KI",
  "15BE CANADIAN SYLLABICS:BLACKFOOT KO,BLACKFOOT KA,SAYISI HE,SAYISI HI,SAYISI HO,SAYISI HA",
  "15C4 CANADIAN SYLLABICS:CARRIER GHU,CARRIER GHO,CARRIER GHE,CARRIER GHEE,CARRIER GHI",
  "15C9 CANADIAN SYLLABICS:CARRIER GHA,CARRIER RU,CARRIER RO,CARRIER RE,CARRIER REE,CARRIER RI",
  "15CF CANADIAN SYLLABICS:CARRIER RA,CARRIER WU,CARRIER WO,CARRIER WE,CARRIER WEE,CARRIER WI",
  "15D5 CANADIAN SYLLABICS:CARRIER WA,CARRIER HWU,CARRIER HWO,CARRIER HWE,CARRIER HWEE",
  "15DA CANADIAN SYLLABICS:CARRIER HWI,CARRIER HWA,CARRIER THU,CARRIER THO,CARRIER THE",
  "15DF CANADIAN SYLLABICS:CARRIER THEE,CARRIER THI,CARRIER THA,CARRIER TTU,CARRIER TTO",
  "15E4 CANADIAN SYLLABICS:CARRIER TTE,CARRIER TTEE,CARRIER TTI,CARRIER TTA,CARRIER PU",
  "15E9 CANADIAN SYLLABICS:CARRIER PO,CARRIER PE,CARRIER PEE,CARRIER PI,CARRIER PA,CARRIER P",
  "15EF CANADIAN SYLLABICS:CARRIER GU,CARRIER GO,CARRIER GE,CARRIER GEE,CARRIER GI,CARRIER GA",
  "15F5 CANADIAN SYLLABICS:CARRIER KHU,CARRIER KHO,CARRIER KHE,CARRIER KHEE,CARRIER KHI",
  "15FA CANADIAN SYLLABICS:CARRIER KHA,CARRIER KKU,CARRIER KKO,CARRIER KKE,CARRIER KKEE",
  "15FF CANADIAN SYLLABICS:CARRIER KKI,CARRIER KKA,CARRIER KK,CARRIER NU,CARRIER NO,CARRIER NE",
  "1605 CANADIAN SYLLABICS:CARRIER NEE,CARRIER NI,CARRIER NA,CARRIER MU,CARRIER MO,CARRIER ME",
  "160B CANADIAN SYLLABICS:CARRIER MEE,CARRIER MI,CARRIER MA,CARRIER YU,CARRIER YO,CARRIER YE",
  "1611 CANADIAN SYLLABICS:CARRIER YEE,CARRIER YI,CARRIER YA,CARRIER JU,SAYISI JU,CARRIER JO",
  "1617 CANADIAN SYLLABICS:CARRIER JE,CARRIER JEE,CARRIER JI,SAYISI JI,CARRIER JA,CARRIER JJU",
  "161D CANADIAN SYLLABICS:CARRIER JJO,CARRIER JJE,CARRIER JJEE,CARRIER JJI,CARRIER JJA",
  "1622 CANADIAN SYLLABICS:CARRIER LU,CARRIER LO,CARRIER LE,CARRIER LEE,CARRIER LI,CARRIER LA",
  "1628 CANADIAN SYLLABICS:CARRIER DLU,CARRIER DLO,CARRIER DLE,CARRIER DLEE,CARRIER DLI",
  "162D CANADIAN SYLLABICS:CARRIER DLA,CARRIER LHU,CARRIER LHO,CARRIER LHE,CARRIER LHEE",
  "1632 CANADIAN SYLLABICS:CARRIER LHI,CARRIER LHA,CARRIER TLHU,CARRIER TLHO,CARRIER TLHE",
  "1637 CANADIAN SYLLABICS:CARRIER TLHEE,CARRIER TLHI,CARRIER TLHA,CARRIER TLU,CARRIER TLO",
  "163C CANADIAN SYLLABICS:CARRIER TLE,CARRIER TLEE,CARRIER TLI,CARRIER TLA,CARRIER ZU",
  "1641 CANADIAN SYLLABICS:CARRIER ZO,CARRIER ZE,CARRIER ZEE,CARRIER ZI,CARRIER ZA,CARRIER Z",
  "1647 CANADIAN SYLLABICS:CARRIER INITIAL Z,CARRIER DZU,CARRIER DZO,CARRIER DZE,CARRIER DZEE",
  "164C CANADIAN SYLLABICS:CARRIER DZI,CARRIER DZA,CARRIER SU,CARRIER SO,CARRIER SE,CARRIER SEE",
  "1652 CANADIAN SYLLABICS:CARRIER SI,CARRIER SA,CARRIER SHU,CARRIER SHO,CARRIER SHE",
  "1657 CANADIAN SYLLABICS:CARRIER SHEE,CARRIER SHI,CARRIER SHA,CARRIER SH,CARRIER TSU",
  "165C CANADIAN SYLLABICS:CARRIER TSO,CARRIER TSE,CARRIER TSEE,CARRIER TSI,CARRIER TSA",
  "1661 CANADIAN SYLLABICS:CARRIER CHU,CARRIER CHO,CARRIER CHE,CARRIER CHEE,CARRIER CHI",
  "1666 CANADIAN SYLLABICS:CARRIER CHA,CARRIER TTSU,CARRIER TTSO,CARRIER TTSE,CARRIER TTSEE",
  "166B CANADIAN SYLLABICS:CARRIER TTSI,CARRIER TTSA,CHI SIGN,FULL STOP,QAI,NGAI,NNGI,NNGII",
  "1673 CANADIAN SYLLABICS:NNGO,NNGOO,NNGA,NNGAA,WOODS-CREE THWEE,WOODS-CREE THWI",
  "1679 CANADIAN SYLLABICS:WOODS-CREE THWII,WOODS-CREE THWO,WOODS-CREE THWOO,WOODS-CREE THWA",
  "167D CANADIAN SYLLABICS:WOODS-CREE THWAA,WOODS-CREE FINAL TH,BLACKFOOT W",
  "1680 OGHAM:SPACE MARK,LETTER BEITH,LETTER LUIS,LETTER FEARN,LETTER SAIL,LETTER NION",
  "1686 OGHAM:LETTER UATH,LETTER DAIR,LETTER TINNE,LETTER COLL,LETTER CEIRT,LETTER MUIN",
  "168C OGHAM:LETTER GORT,LETTER NGEADAL,LETTER STRAIF,LETTER RUIS,LETTER AILM,LETTER ONN",
  "1692 OGHAM:LETTER UR,LETTER EADHADH,LETTER IODHADH,LETTER EABHADH,LETTER OR,LETTER UILLEANN",
  "1698 OGHAM:LETTER IFIN,LETTER EAMHANCHOLL,LETTER PEITH,FEATHER MARK,REVERSED FEATHER MARK",
  "16A0 RUNIC LETTER:FEHU FEOH FE F,V,URUZ UR U,YR,Y,W,THURISAZ THURS THORN,ETH,ANSUZ A,OS O",
  "16AA RUNIC LETTER:AC A,AESC,LONG-BRANCH-OSS O,SHORT-TWIG-OSS O,O,OE,ON,RAIDO RAD REID R",
  "16B2 RUNIC LETTER:KAUNA,CEN,KAUN K,G,ENG,GEBO GYFU G,GAR,WUNJO WYNN W,HAGLAZ H,HAEGL H",
  "16BC RUNIC LETTER:LONG-BRANCH-HAGALL H,SHORT-TWIG-HAGALL H,NAUDIZ NYD NAUD N",
  "16BF RUNIC LETTER:SHORT-TWIG-NAUD N,DOTTED-N,ISAZ IS ISS I,E,JERAN J,GER,LONG-BRANCH-AR AE",
  "16C6 RUNIC LETTER:SHORT-TWIG-AR A,IWAZ EOH,PERTHO PEORTH P,ALGIZ EOLHX,SOWILO S",
  "16CB RUNIC LETTER:SIGEL LONG-BRANCH-SOL S,SHORT-TWIG-SOL S,C,Z,TIWAZ TIR TYR T",
  "16D0 RUNIC LETTER:SHORT-TWIG-TYR T,D,BERKANAN BEORC BJARKAN B,SHORT-TWIG-BJARKAN B,DOTTED-P",
  "16D5 RUNIC LETTER:OPEN-P,EHWAZ EH E,MANNAZ MAN M,LONG-BRANCH-MADR M,SHORT-TWIG-MADR M",
  "16DA RUNIC LETTER:LAUKAZ LAGU LOGR L,DOTTED-L,INGWAZ,ING,DAGAZ DAEG D,OTHALAN ETHEL O,EAR",
  "16E1 RUNIC LETTER:IOR,CWEORTH,CALC,CEALC,STAN,LONG-BRANCH-YR,SHORT-TWIG-YR,ICELANDIC-YR,Q,X",
  "16EB RUNIC:SINGLE PUNCTUATION,MULTIPLE PUNCTUATION,CROSS PUNCTUATION,ARLAUG SYMBOL",
  "16EF RUNIC:TVIMADUR SYMBOL,BELGTHOR SYMBOL,LETTER K,LETTER SH,LETTER OO",
  "16F4 RUNIC:LETTER FRANKS CASKET OS,LETTER FRANKS CASKET IS,LETTER FRANKS CASKET EH",
  "16F7 RUNIC:LETTER FRANKS CASKET AC,LETTER FRANKS CASKET AESC",
  "1700 TAGALOG LETTER:A,I,U,KA,GA,NGA,TA,DA,NA,PA,BA,MA,YA,RA,LA,WA,SA,HA",
  "1712 TAGALOG:VOWEL SIGN I,VOWEL SIGN U,SIGN VIRAMA,SIGN PAMUDPOD",
  "171F:TAGALOG LETTER ARCHAIC RA",
  "1720 HANUNOO LETTER:A,I,U,KA,GA,NGA,TA,DA,NA,PA,BA,MA,YA,RA,LA,WA,SA,HA",
  "1732 HANUNOO VOWEL SIGN:I,U;1734:HANUNOO SIGN PAMUDPOD",
  "1735 PHILIPPINE:SINGLE PUNCTUATION,DOUBLE PUNCTUATION",
  "1740 BUHID LETTER:A,I,U,KA,GA,NGA,TA,DA,NA,PA,BA,MA,YA,RA,LA,WA,SA,HA",
  "1752 BUHID VOWEL SIGN:I,U;1760 TAGBANWA LETTER:A,I,U,KA,GA,NGA,TA,DA,NA,PA,BA,MA,YA",
  "176E TAGBANWA LETTER:LA,WA,SA;1772 TAGBANWA VOWEL SIGN:I,U",
  "1780 KHMER:LETTER KA,LETTER KHA,LETTER KO,LETTER KHO,LETTER NGO,LETTER CA,LETTER CHA",
  "1787 KHMER:LETTER CO,LETTER CHO,LETTER NYO,LETTER DA,LETTER TTHA,LETTER DO,LETTER TTHO",
  "178E KHMER:LETTER NNO,LETTER TA,LETTER THA,LETTER TO,LETTER THO,LETTER NO,LETTER BA",
  "1795 KHMER:LETTER PHA,LETTER PO,LETTER PHO,LETTER MO,LETTER YO,LETTER RO,LETTER LO,LETTER VO",
  "179D KHMER:LETTER SHA,LETTER SSO,LETTER SA,LETTER HA,LETTER LA,LETTER QA",
  "17A3 KHMER:INDEPENDENT VOWEL QAQ,INDEPENDENT VOWEL QAA,INDEPENDENT VOWEL QI",
  "17A6 KHMER:INDEPENDENT VOWEL QII,INDEPENDENT VOWEL QU,INDEPENDENT VOWEL QUK",
  "17A9 KHMER:INDEPENDENT VOWEL QUU,INDEPENDENT VOWEL QUUV,INDEPENDENT VOWEL RY",
  "17AC KHMER:INDEPENDENT VOWEL RYY,INDEPENDENT VOWEL LY,INDEPENDENT VOWEL LYY",
  "17AF KHMER:INDEPENDENT VOWEL QE,INDEPENDENT VOWEL QAI,INDEPENDENT VOWEL QOO TYPE ONE",
  "17B2 KHMER:INDEPENDENT VOWEL QOO TYPE TWO,INDEPENDENT VOWEL QAU,VOWEL INHERENT AQ",
  "17B5 KHMER:VOWEL INHERENT AA,VOWEL SIGN AA,VOWEL SIGN I,VOWEL SIGN II,VOWEL SIGN Y",
  "17BA KHMER:VOWEL SIGN YY,VOWEL SIGN U,VOWEL SIGN UU,VOWEL SIGN UA,VOWEL SIGN OE",
  "17BF KHMER:VOWEL SIGN YA,VOWEL SIGN IE,VOWEL SIGN E,VOWEL SIGN AE,VOWEL SIGN AI",
  "17C4 KHMER:VOWEL SIGN OO,VOWEL SIGN AU,SIGN NIKAHIT,SIGN REAHMUK,SIGN YUUKALEAPINTU",
  "17C9 KHMER:SIGN MUUSIKATOAN,SIGN TRIISAP,SIGN BANTOC,SIGN ROBAT,SIGN TOANDAKHIAT",
  "17CE KHMER:SIGN KAKABAT,SIGN AHSDA,SIGN SAMYOK SANNYA,SIGN VIRIAM,SIGN COENG,SIGN BATHAMASAT",
  "17D4 KHMER:SIGN KHAN,SIGN BARIYOOSAN,SIGN CAMNUC PII KUUH,SIGN LEK TOO,SIGN BEYYAL",
  "17D9 KHMER:SIGN PHNAEK MUAN,SIGN KOOMUUT,CURRENCY SYMBOL RIEL,SIGN AVAKRAHASANYA",
  "17DD KHMER:SIGN ATTHACAN;17E0 KHMER DIGIT:ZERO,ONE,TWO,THREE,FOUR,FIVE,SIX,SEVEN,EIGHT,NINE",
  "17F0 KHMER SYMBOL LEK ATTAK:SON,MUOY,PII,BEI,BUON,PRAM,PRAM-MUOY,PRAM-PII,PRAM-BEI,PRAM-BUON",
  "1800 MONGOLIAN:BIRGA,ELLIPSIS,COMMA,FULL STOP,COLON,FOUR DOTS,TODO SOFT HYPHEN",
  "1807 MONGOLIAN:SIBE SYLLABLE BOUNDARY MARKER,MANCHU COMMA,MANCHU FULL STOP,NIRUGU",
  "180B MONGOLIAN:FREE VARIATION SELECTOR ONE,FREE VARIATION SELECTOR TWO",
  "180D MONGOLIAN:FREE VARIATION SELECTOR THREE,VOWEL SEPARATOR,FREE VARIATION SELECTOR FOUR",
  "1810 MONGOLIAN:DIGIT ZERO,DIGIT ONE,DIGIT TWO,DIGIT THREE,DIGIT FOUR,DIGIT FIVE,DIGIT SIX",
  "1817 MONGOLIAN:DIGIT SEVEN,DIGIT EIGHT,DIGIT NINE",
  "1820 MONGOLIAN LETTER:A,E,I,O,U,OE,UE,EE,NA,ANG,BA,PA,QA,GA,MA,LA,SA,SHA,TA,DA,CHA,JA,YA,RA",
  "1838 MONGOLIAN LETTER:WA,FA,KA,KHA,TSA,ZA,HAA,ZRA,LHA,ZHI,CHI,TODO LONG VOWEL SIGN,TODO E",
  "1845 MONGOLIAN LETTER:TODO I,TODO O,TODO U,TODO OE,TODO UE,TODO ANG,TODO BA,TODO PA,TODO QA",
  "184E MONGOLIAN LETTER:TODO GA,TODO MA,TODO TA,TODO DA,TODO CHA,TODO JA,TODO TSA,TODO YA",
  "1856 MONGOLIAN LETTER:TODO WA,TODO KA,TODO GAA,TODO HAA,TODO JIA,TODO NIA,TODO DZA,SIBE E",
  "185E MONGOLIAN LETTER:SIBE I,SIBE IY,SIBE UE,SIBE U,SIBE ANG,SIBE KA,SIBE GA,SIBE HA,SIBE PA",
  "1867 MONGOLIAN LETTER:SIBE SHA,SIBE TA,SIBE DA,SIBE JA,SIBE FA,SIBE GAA,SIBE HAA,SIBE TSA",
  "186F MONGOLIAN LETTER:SIBE ZA,SIBE RAA,SIBE CHA,SIBE ZHA,MANCHU I,MANCHU KA,MANCHU RA",
  "1876 MONGOLIAN LETTER:MANCHU FA,MANCHU ZHA,CHA WITH TWO DOTS",
  "1880 MONGOLIAN LETTER:ALI GALI ANUSVARA ONE,ALI GALI VISARGA ONE,ALI GALI DAMARU",
  "1883 MONGOLIAN LETTER:ALI GALI UBADAMA,ALI GALI INVERTED UBADAMA,ALI GALI BALUDA",
  "1886 MONGOLIAN LETTER:ALI GALI THREE BALUDA,ALI GALI A,ALI GALI I,ALI GALI KA,ALI GALI NGA",
  "188B MONGOLIAN LETTER:ALI GALI CA,ALI GALI TTA,ALI GALI TTHA,ALI GALI DDA,ALI GALI NNA",
  "1890 MONGOLIAN LETTER:ALI GALI TA,ALI GALI DA,ALI GALI PA,ALI GALI PHA,ALI GALI SSA",
  "1895 MONGOLIAN LETTER:ALI GALI ZHA,ALI GALI ZA,ALI GALI AH,TODO ALI GALI TA",
  "1899 MONGOLIAN LETTER:TODO ALI GALI ZHA,MANCHU ALI GALI GHA,MANCHU ALI GALI NGA",
  "189C MONGOLIAN LETTER:MANCHU ALI GALI CA,MANCHU ALI GALI JHA,MANCHU ALI GALI TTA",
  "189F MONGOLIAN LETTER:MANCHU ALI GALI DDHA,MANCHU ALI GALI TA,MANCHU ALI GALI DHA",
  "18A2 MONGOLIAN LETTER:MANCHU ALI GALI SSA,MANCHU ALI GALI CYA,MANCHU ALI GALI ZHA",
  "18A5 MONGOLIAN LETTER:MANCHU ALI GALI ZA,ALI GALI HALF U,ALI GALI HALF YA",
  "18A8 MONGOLIAN LETTER:MANCHU ALI GALI BHA,ALI GALI DAGALGA,MANCHU ALI GALI LHA",
  "18B0 CANADIAN SYLLABICS:OY,AY,AAY,WAY,POY,PAY,PWOY,TAY,KAY,KWAY,MAY,NOY,NAY,LAY,SOY,SAY,SHOY",
  "18C1 CANADIAN SYLLABICS:SHAY,SHWOY,YOY,YAY,RAY,NWI,OJIBWAY NWI,NWII,OJIBWAY NWII,NWO",
  "18CB CANADIAN SYLLABICS:OJIBWAY NWO,NWOO,OJIBWAY NWOO,RWEE,RWI,RWII,RWO,RWOO,RWA,OJIBWAY P",
  "18D5 CANADIAN SYLLABICS:OJIBWAY T,OJIBWAY K,OJIBWAY C,OJIBWAY M,OJIBWAY N,OJIBWAY S",
  "18DB CANADIAN SYLLABICS:OJIBWAY SH,EASTERN W,WESTERN W,FINAL SMALL RING,FINAL RAISED DOT",
  "18E0 CANADIAN SYLLABICS:R-CREE RWE,WEST-CREE LOO,WEST-CREE LAA,THWE,THWA,TTHWE,TTHOO,TTHAA",
  "18E8 CANADIAN SYLLABICS:TLHWE,TLHOO,SAYISI SHWE,SAYISI SHOO,SAYISI HOO,CARRIER GWU",
  "18EE CANADIAN SYLLABICS:CARRIER DENE GEE,CARRIER GAA,CARRIER GWA,SAYISI JUU,CARRIER JWA",
  "18F3 CANADIAN SYLLABICS:BEAVER DENE L,BEAVER DENE R,CARRIER DENTAL S",
  "1900 LIMBU:VOWEL-CARRIER LETTER,LETTER KA,LETTER KHA,LETTER GA,LETTER GHA,LETTER NGA",
  "1906 LIMBU:LETTER CA,LETTER CHA,LETTER JA,LETTER JHA,LETTER YAN,LETTER TA,LETTER THA",
  "190D LIMBU:LETTER DA,LETTER DHA,LETTER NA,LETTER PA,LETTER PHA,LETTER BA,LETTER BHA",
  "1914 LIMBU:LETTER MA,LETTER YA,LETTER RA,LETTER LA,LETTER WA,LETTER SHA,LETTER SSA,LETTER SA",
  "191C LIMBU:LETTER HA,LETTER GYAN,LETTER TRA;1920 LIMBU VOWEL SIGN:A,I,U,EE,AI,OO,AU,E,O",
  "1929 LIMBU SUBJOINED LETTER:YA,RA,WA",
  "1930 LIMBU SMALL LETTER:KA,NGA,ANUSVARA,TA,NA,PA,MA,RA,LA",
  "1939 LIMBU SIGN:MUKPHRENG,KEMPHRENG,SA-I;1940:LIMBU SIGN LOO",
  "1944 LIMBU:EXCLAMATION MARK,QUESTION MARK,DIGIT ZERO,DIGIT ONE,DIGIT TWO,DIGIT THREE",
  "194A LIMBU:DIGIT FOUR,DIGIT FIVE,DIGIT SIX,DIGIT SEVEN,DIGIT EIGHT,DIGIT NINE",
  "1950 TAI LE LETTER:KA,XA,NGA,TSA,SA,YA,TA,THA,LA,PA,PHA,MA,FA,VA,HA,QA,KHA,TSHA,NA,A,I,EE,EH",
  "1967 TAI LE LETTER:U,OO,O,UE,E,AUE,AI;1970 TAI LE LETTER:TONE-2,TONE-3,TONE-4,TONE-5,TONE-6",
  "1980 NEW TAI LUE LETTER:HIGH QA,LOW QA,HIGH KA,HIGH XA,HIGH NGA,LOW KA,LOW XA,LOW NGA",
  "1988 NEW TAI LUE LETTER:HIGH TSA,HIGH SA,HIGH YA,LOW TSA,LOW SA,LOW YA,HIGH TA,HIGH THA",
  "1990 NEW TAI LUE LETTER:HIGH NA,LOW TA,LOW THA,LOW NA,HIGH PA,HIGH PHA,HIGH MA,LOW PA",
  "1998 NEW TAI LUE LETTER:LOW PHA,LOW MA,HIGH FA,HIGH VA,HIGH LA,LOW FA,LOW VA,LOW LA,HIGH HA",
  "19A1 NEW TAI LUE LETTER:HIGH DA,HIGH BA,LOW HA,LOW DA,LOW BA,HIGH KVA,HIGH XVA,LOW KVA",
  "19A9 NEW TAI LUE LETTER:LOW XVA,HIGH SUA,LOW SUA",
  "19B0 NEW TAI LUE VOWEL SIGN:VOWEL SHORTENER,AA,II,U,UU,E,AE,O,OA,UE,AY,AAY,UY,OY,OAY,UEY,IY",
  "19C1 NEW TAI LUE LETTER FINAL:V,NG,N,M,K,D,B;19C8 NEW TAI LUE TONE:MARK-1,MARK-2",
  "19D0 NEW TAI LUE DIGIT:ZERO,ONE,TWO,THREE,FOUR,FIVE,SIX,SEVEN,EIGHT,NINE",
  "19DA:NEW TAI LUE THAM DIGIT ONE;19DE:NEW TAI LUE SIGN LAE;19DF:NEW TAI LUE SIGN LAEV",
  "19E0 KHMER SYMBOL:PATHAMASAT,MUOY KOET,PII KOET,BEI KOET,BUON KOET,PRAM KOET,PRAM-MUOY KOET",
  "19E7 KHMER SYMBOL:PRAM-PII KOET,PRAM-BEI KOET,PRAM-BUON KOET,DAP KOET,DAP-MUOY KOET",
  "19EC KHMER SYMBOL:DAP-PII KOET,DAP-BEI KOET,DAP-BUON KOET,DAP-PRAM KOET,TUTEYASAT,MUOY ROC",
  "19F2 KHMER SYMBOL:PII ROC,BEI ROC,BUON ROC,PRAM ROC,PRAM-MUOY ROC,PRAM-PII ROC,PRAM-BEI ROC",
  "19F9 KHMER SYMBOL:PRAM-BUON ROC,DAP ROC,DAP-MUOY ROC,DAP-PII ROC,DAP-BEI ROC,DAP-BUON ROC",
  "19FF KHMER SYMBOL:DAP-PRAM ROC",
  "1A00 BUGINESE LETTER:KA,GA,NGA,NGKA,PA,BA,MA,MPA,TA,DA,NA,NRA,CA,JA,NYA,NYCA,YA,RA,LA,VA,SA",
  "1A15 BUGINESE LETTER:A,HA;1A17 BUGINESE VOWEL SIGN:I,U,E,O,AE;1A1E:BUGINESE PALLAWA",
  "1A1F:BUGINESE END OF SECTION",
  "1A20 TAI THAM LETTER:HIGH KA,HIGH KHA,HIGH KXA,LOW KA,LOW KXA,LOW KHA,NGA,HIGH CA,HIGH CHA",
  "1A29 TAI THAM LETTER:LOW CA,LOW SA,LOW CHA,NYA,RATA,HIGH RATHA,DA,LOW RATHA,RANA,HIGH TA",
  "1A33 TAI THAM LETTER:HIGH THA,LOW TA,LOW THA,NA,BA,HIGH PA,HIGH PHA,HIGH FA,LOW PA,LOW FA",
  "1A3D TAI THAM LETTER:LOW PHA,MA,LOW YA,HIGH YA,RA,RUE,LA,LUE,WA,HIGH SHA,HIGH SSA,HIGH SA",
  "1A49 TAI THAM LETTER:HIGH HA,LLA,A,LOW HA,I,II,U,UU,EE,OO,LAE,GREAT SA",
  "1A55 TAI THAM:CONSONANT SIGN MEDIAL RA,CONSONANT SIGN MEDIAL LA,CONSONANT SIGN LA TANG LAI",
  "1A58 TAI THAM:SIGN MAI KANG LAI,CONSONANT SIGN FINAL NGA,CONSONANT SIGN LOW PA",
  "1A5B TAI THAM:CONSONANT SIGN HIGH RATHA OR LOW PA,CONSONANT SIGN MA,CONSONANT SIGN BA",
  "1A5E TAI THAM:CONSONANT SIGN SA",
  "1A60 TAI THAM:SIGN SAKOT,VOWEL SIGN A,VOWEL SIGN MAI SAT,VOWEL SIGN AA,VOWEL SIGN TALL AA",
  "1A65 TAI THAM:VOWEL SIGN I,VOWEL SIGN II,VOWEL SIGN UE,VOWEL SIGN UUE,VOWEL SIGN U",
  "1A6A TAI THAM:VOWEL SIGN UU,VOWEL SIGN O,VOWEL SIGN OA BELOW,VOWEL SIGN OY,VOWEL SIGN E",
  "1A6F TAI THAM:VOWEL SIGN AE,VOWEL SIGN OO,VOWEL SIGN AI,VOWEL SIGN THAM AI",
  "1A73 TAI THAM:VOWEL SIGN OA ABOVE,SIGN MAI KANG,SIGN TONE-1,SIGN TONE-2,SIGN KHUEN TONE-3",
  "1A78 TAI THAM:SIGN KHUEN TONE-4,SIGN KHUEN TONE-5,SIGN RA HAAM,SIGN MAI SAM",
  "1A7C TAI THAM:SIGN KHUEN-LUE KARAN",
  "1A7F TAI THAM:COMBINING CRYPTOGRAMMIC DOT,HORA DIGIT ZERO,HORA DIGIT ONE,HORA DIGIT TWO",
  "1A83 TAI THAM:HORA DIGIT THREE,HORA DIGIT FOUR,HORA DIGIT FIVE,HORA DIGIT SIX",
  "1A87 TAI THAM:HORA DIGIT SEVEN,HORA DIGIT EIGHT,HORA DIGIT NINE",
  "1A90 TAI THAM THAM DIGIT:ZERO,ONE,TWO,THREE,FOUR,FIVE,SIX,SEVEN,EIGHT,NINE",
  "1AA0 TAI THAM SIGN:WIANG,WIANGWAAK,SAWAN,KEOW,HOY,DOKMAI,REVERSED ROTATED RANA,MAI YAMOK",
  "1AA8 TAI THAM SIGN:KAAN,KAANKUU,SATKAAN,SATKAANKUU,HANG,CAANG",
  "1AB0 COMBINING:DOUBLED CIRCUMFLEX ACCENT,DIAERESIS-RING,INFINITY,DOWNWARDS ARROW,TRIPLE DOT",
  "1AB5 COMBINING:X-X BELOW,WIGGLY LINE BELOW,OPEN MARK BELOW,DOUBLE OPEN MARK BELOW",
  "1AB9 COMBINING:LIGHT CENTRALIZATION STROKE BELOW,STRONG CENTRALIZATION STROKE BELOW",
  "1ABB COMBINING:PARENTHESES ABOVE,DOUBLE PARENTHESES ABOVE,PARENTHESES BELOW",
  "1ABE COMBINING:PARENTHESES OVERLAY,LATIN SMALL LETTER W BELOW",
  "1AC0 COMBINING:LATIN SMALL LETTER TURNED W BELOW,LEFT PARENTHESIS ABOVE LEFT",
  "1AC2 COMBINING:RIGHT PARENTHESIS ABOVE RIGHT,LEFT PARENTHESIS BELOW LEFT",
  "1AC4 COMBINING:RIGHT PARENTHESIS BELOW RIGHT,SQUARE BRACKETS ABOVE,NUMBER SIGN ABOVE",
  "1AC7 COMBINING:INVERTED DOUBLE ARCH ABOVE,PLUS SIGN ABOVE,DOUBLE PLUS SIGN ABOVE",
  "1ACA COMBINING:DOUBLE PLUS SIGN BELOW,TRIPLE ACUTE ACCENT,LATIN SMALL LETTER INSULAR G",
  "1ACD COMBINING:LATIN SMALL LETTER INSULAR R,LATIN SMALL LETTER INSULAR T",
  "1B00 BALINESE:SIGN ULU RICEM,SIGN ULU CANDRA,SIGN CECEK,SIGN SURANG,SIGN BISAH,LETTER AKARA",
  "1B06 BALINESE:LETTER AKARA TEDUNG,LETTER IKARA,LETTER IKARA TEDUNG,LETTER UKARA",
  "1B0A BALINESE:LETTER UKARA TEDUNG,LETTER RA REPA,LETTER RA REPA TEDUNG,LETTER LA LENGA",
  "1B0E BALINESE:LETTER LA LENGA TEDUNG,LETTER EKARA,LETTER AIKARA,LETTER OKARA",
  "1B12 BALINESE:LETTER OKARA TEDUNG,LETTER KA,LETTER KA MAHAPRANA,LETTER GA,LETTER GA GORA",
  "1B17 BALINESE:LETTER NGA,LETTER CA,LETTER CA LACA,LETTER JA,LETTER JA JERA,LETTER NYA",
  "1B1D BALINESE:LETTER TA LATIK,LETTER TA MURDA MAHAPRANA,LETTER DA MURDA ALPAPRANA",
  "1B20 BALINESE:LETTER DA MURDA MAHAPRANA,LETTER NA RAMBAT,LETTER TA,LETTER TA TAWA,LETTER DA",
  "1B25 BALINESE:LETTER DA MADU,LETTER NA,LETTER PA,LETTER PA KAPAL,LETTER BA,LETTER BA KEMBANG",
  "1B2B BALINESE:LETTER MA,LETTER YA,LETTER RA,LETTER LA,LETTER WA,LETTER SA SAGA",
  "1B31 BALINESE:LETTER SA SAPA,LETTER SA,LETTER HA,SIGN REREKAN,VOWEL SIGN TEDUNG",
  "1B36 BALINESE:VOWEL SIGN ULU,VOWEL SIGN ULU SARI,VOWEL SIGN SUKU,VOWEL SIGN SUKU ILUT",
  "1B3A BALINESE:VOWEL SIGN RA REPA,VOWEL SIGN RA REPA TEDUNG,VOWEL SIGN LA LENGA",
  "1B3D BALINESE:VOWEL SIGN LA LENGA TEDUNG,VOWEL SIGN TALING,VOWEL SIGN TALING REPA",
  "1B40 BALINESE:VOWEL SIGN TALING TEDUNG,VOWEL SIGN TALING REPA TEDUNG,VOWEL SIGN PEPET",
  "1B43 BALINESE:VOWEL SIGN PEPET TEDUNG,ADEG ADEG,LETTER KAF SASAK,LETTER KHOT SASAK",
  "1B47 BALINESE:LETTER TZIR SASAK,LETTER EF SASAK,LETTER VE SASAK,LETTER ZAL SASAK",
  "1B4B BALINESE:LETTER ASYURA SASAK,LETTER ARCHAIC JNYA",
  "1B50 BALINESE:DIGIT ZERO,DIGIT ONE,DIGIT TWO,DIGIT THREE,DIGIT FOUR,DIGIT FIVE,DIGIT SIX",
  "1B57 BALINESE:DIGIT SEVEN,DIGIT EIGHT,DIGIT NINE,PANTI,PAMADA,WINDU,CARIK PAMUNGKAH",
  "1B5E BALINESE:CARIK SIKI,CARIK PAREREN,PAMENENG,MUSICAL SYMBOL DONG,MUSICAL SYMBOL DENG",
  "1B63 BALINESE:MUSICAL SYMBOL DUNG,MUSICAL SYMBOL DANG,MUSICAL SYMBOL DANG SURANG",
  "1B66 BALINESE:MUSICAL SYMBOL DING,MUSICAL SYMBOL DAENG,MUSICAL SYMBOL DEUNG",
  "1B69 BALINESE:MUSICAL SYMBOL DAING,MUSICAL SYMBOL DANG GEDE,MUSICAL SYMBOL COMBINING TEGEH",
  "1B6C BALINESE:MUSICAL SYMBOL COMBINING ENDEP,MUSICAL SYMBOL COMBINING KEMPUL",
  "1B6E BALINESE:MUSICAL SYMBOL COMBINING KEMPLI,MUSICAL SYMBOL COMBINING JEGOGAN",
  "1B70 BALINESE:MUSICAL SYMBOL COMBINING KEMPUL WITH JEGOGAN",
  "1B71 BALINESE:MUSICAL SYMBOL COMBINING KEMPLI WITH JEGOGAN,MUSICAL SYMBOL COMBINING BENDE",
  "1B73 BALINESE:MUSICAL SYMBOL COMBINING GONG,MUSICAL SYMBOL RIGHT-HAND OPEN DUG",
  "1B75 BALINESE:MUSICAL SYMBOL RIGHT-HAND OPEN DAG,MUSICAL SYMBOL RIGHT-HAND CLOSED TUK",
  "1B77 BALINESE:MUSICAL SYMBOL RIGHT-HAND CLOSED TAK,MUSICAL SYMBOL LEFT-HAND OPEN PANG",
  "1B79 BALINESE:MUSICAL SYMBOL LEFT-HAND OPEN PUNG,MUSICAL SYMBOL LEFT-HAND CLOSED PLAK",
  "1B7B BALINESE:MUSICAL SYMBOL LEFT-HAND CLOSED PLUK,MUSICAL SYMBOL LEFT-HAND OPEN PING",
  "1B7D BALINESE:PANTI LANTANG,PAMADA LANTANG",
  "1B80 SUNDANESE:SIGN PANYECEK,SIGN PANGLAYAR,SIGN PANGWISAD,LETTER A,LETTER I,LETTER U",
  "1B86 SUNDANESE:LETTER AE,LETTER O,LETTER E,LETTER EU,LETTER KA,LETTER QA,LETTER GA",
  "1B8D SUNDANESE:LETTER NGA,LETTER CA,LETTER JA,LETTER ZA,LETTER NYA,LETTER TA,LETTER DA",
  "1B94 SUNDANESE:LETTER NA,LETTER PA,LETTER FA,LETTER VA,LETTER BA,LETTER MA,LETTER YA",
  "1B9B SUNDANESE:LETTER RA,LETTER LA,LETTER WA,LETTER SA,LETTER XA,LETTER HA",
  "1BA1 SUNDANESE:CONSONANT SIGN PAMINGKAL,CONSONANT SIGN PANYAKRA,CONSONANT SIGN PANYIKU",
  "1BA4 SUNDANESE:VOWEL SIGN PANGHULU,VOWEL SIGN PANYUKU,VOWEL SIGN PANAELAENG",
  "1BA7 SUNDANESE:VOWEL SIGN PANOLONG,VOWEL SIGN PAMEPET,VOWEL SIGN PANEULEUNG,SIGN PAMAAEH",
  "1BAB SUNDANESE:SIGN VIRAMA,CONSONANT SIGN PASANGAN MA,CONSONANT SIGN PASANGAN WA,LETTER KHA",
  "1BAF SUNDANESE:LETTER SYA,DIGIT ZERO,DIGIT ONE,DIGIT TWO,DIGIT THREE,DIGIT FOUR,DIGIT FIVE",
  "1BB6 SUNDANESE:DIGIT SIX,DIGIT SEVEN,DIGIT EIGHT,DIGIT NINE,AVAGRAHA,LETTER REU,LETTER LEU",
  "1BBD SUNDANESE:LETTER BHA,LETTER FINAL K,LETTER FINAL M",
  "1BC0 BATAK LETTER:A,SIMALUNGUN A,HA,SIMALUNGUN HA,MANDAILING HA,BA,KARO BA,PA,SIMALUNGUN PA",
  "1BC9 BATAK LETTER:NA,MANDAILING NA,WA,SIMALUNGUN WA,PAKPAK WA,GA,SIMALUNGUN GA,JA,DA,RA",
  "1BD3 BATAK LETTER:SIMALUNGUN RA,MA,SIMALUNGUN MA,SOUTHERN TA,NORTHERN TA,SA,SIMALUNGUN SA",
  "1BDA BATAK LETTER:MANDAILING SA,YA,SIMALUNGUN YA,NGA,LA,SIMALUNGUN LA,NYA,CA,NDA,MBA,I,U",
  "1BE6 BATAK:SIGN TOMPI,VOWEL SIGN E,VOWEL SIGN PAKPAK E,VOWEL SIGN EE,VOWEL SIGN I",
  "1BEB BATAK:VOWEL SIGN KARO I,VOWEL SIGN O,VOWEL SIGN KARO O,VOWEL SIGN U",
  "1BEF BATAK:VOWEL SIGN U FOR SIMALUNGUN SA,CONSONANT SIGN NG,CONSONANT SIGN H,PANGOLAT",
  "1BF3 BATAK:PANONGONAN;1BFC:BATAK SYMBOL BINDU NA METEK;1BFD:BATAK SYMBOL BINDU PINARBORAS",
  "1BFE:BATAK SYMBOL BINDU JUDUL;1BFF:BATAK SYMBOL BINDU PANGOLAT",
  "1C00 LEPCHA LETTER:KA,KLA,KHA,GA,GLA,NGA,CA,CHA,JA,NYA,TA,THA,DA,NA,PA,PLA,PHA,FA,FLA,BA,BLA",
  "1C15 LEPCHA LETTER:MA,MLA,TSA,TSHA,DZA,YA,RA,LA,HA,HLA,VA,SA,SHA,WA,A",
  "1C24 LEPCHA:SUBJOINED LETTER YA,SUBJOINED LETTER RA,VOWEL SIGN AA,VOWEL SIGN I,VOWEL SIGN O",
  "1C29 LEPCHA:VOWEL SIGN OO,VOWEL SIGN U,VOWEL SIGN UU,VOWEL SIGN E,CONSONANT SIGN K",
  "1C2E LEPCHA:CONSONANT SIGN M,CONSONANT SIGN L,CONSONANT SIGN N,CONSONANT SIGN P",
  "1C32 LEPCHA:CONSONANT SIGN R,CONSONANT SIGN T,CONSONANT SIGN NYIN-DO,CONSONANT SIGN KANG",
  "1C36 LEPCHA:SIGN RAN,SIGN NUKTA",
  "1C3B LEPCHA:PUNCTUATION TA-ROL,PUNCTUATION NYET THYOOM TA-ROL,PUNCTUATION CER-WA",
  "1C3E LEPCHA:PUNCTUATION TSHOOK CER-WA,PUNCTUATION TSHOOK,DIGIT ZERO,DIGIT ONE,DIGIT TWO",
  "1C43 LEPCHA:DIGIT THREE,DIGIT FOUR,DIGIT FIVE,DIGIT SIX,DIGIT SEVEN,DIGIT EIGHT,DIGIT NINE",
  "1C4D:LEPCHA LETTER TTA;1C4E:LEPCHA LETTER TTHA;1C4F:LEPCHA LETTER DDA",
  "1C50 OL CHIKI:DIGIT ZERO,DIGIT ONE,DIGIT TWO,DIGIT THREE,DIGIT FOUR,DIGIT FIVE,DIGIT SIX",
  "1C57 OL CHIKI:DIGIT SEVEN,DIGIT EIGHT,DIGIT NINE,LETTER LA,LETTER AT,LETTER AG,LETTER ANG",
  "1C5E OL CHIKI:LETTER AL,LETTER LAA,LETTER AAK,LETTER AAJ,LETTER AAM,LETTER AAW,LETTER LI",
  "1C65 OL CHIKI:LETTER IS,LETTER IH,LETTER INY,LETTER IR,LETTER LU,LETTER UC,LETTER UD",
  "1C6C OL CHIKI:LETTER UNN,LETTER UY,LETTER LE,LETTER EP,LETTER EDD,LETTER EN,LETTER ERR",
  "1C73 OL CHIKI:LETTER LO,LETTER OTT,LETTER OB,LETTER OV,LETTER OH,MU TTUDDAG,GAAHLAA TTUDDAAG",
  "1C7A OL CHIKI:MU-GAAHLAA TTUDDAAG,RELAA,PHAARKAA,AHAD,PUNCTUATION MUCAAD",
  "1C7F OL CHIKI:PUNCTUATION DOUBLE MUCAAD",
  "1C80 CYRILLIC SMALL LETTER:ROUNDED VE,LONG-LEGGED DE,NARROW O,WIDE ES,TALL TE",
  "1C85 CYRILLIC SMALL LETTER:THREE-LEGGED TE,TALL HARD SIGN,TALL YAT,UNBLENDED UK",
  "1C90 GEORGIAN MTAVRULI CAPITAL LETTER:AN,BAN,GAN,DON,EN,VIN,ZEN,TAN,IN,KAN,LAS,MAN,NAR,ON",
  "1C9E GEORGIAN MTAVRULI CAPITAL LETTER:PAR,ZHAR,RAE,SAN,TAR,UN,PHAR,KHAR,GHAN,QAR,SHIN,CHIN",
  "1CAA GEORGIAN MTAVRULI CAPITAL LETTER:CAN,JIL,CIL,CHAR,XAN,JHAN,HAE,HE,HIE,WE,HAR,HOE,FI,YN",
  "1CB8 GEORGIAN MTAVRULI CAPITAL LETTER:ELIFI,TURNED GAN,AIN",
  "1CBD GEORGIAN MTAVRULI CAPITAL LETTER:AEN,HARD SIGN,LABIAL SIGN",
  "1CC0 SUNDANESE PUNCTUATION BINDU:SURYA,PANGLONG,PURNAMA,CAKRA,LEU SATANGA,KA SATANGA",
  "1CC6 SUNDANESE PUNCTUATION BINDU:DA SATANGA,BA SATANGA",
  "1CD0 VEDIC:TONE KARSHANA,TONE SHARA,TONE PRENKHA,SIGN NIHSHVASA",
  "1CD4 VEDIC:SIGN YAJURVEDIC MIDLINE SVARITA,TONE YAJURVEDIC AGGRAVATED INDEPENDENT SVARITA",
  "1CD6 VEDIC:TONE YAJURVEDIC INDEPENDENT SVARITA,TONE YAJURVEDIC KATHAKA INDEPENDENT SVARITA",
  "1CD8 VEDIC:TONE CANDRA BELOW,TONE YAJURVEDIC KATHAKA INDEPENDENT SVARITA SCHROEDER",
  "1CDA VEDIC:TONE DOUBLE SVARITA,TONE TRIPLE SVARITA,TONE KATHAKA ANUDATTA,TONE DOT BELOW",
  "1CDE VEDIC:TONE TWO DOTS BELOW,TONE THREE DOTS BELOW",
  "1CE0 VEDIC:TONE RIGVEDIC KASHMIRI INDEPENDENT SVARITA,TONE ATHARVAVEDIC INDEPENDENT SVARITA",
  "1CE2 VEDIC:SIGN VISARGA SVARITA,SIGN VISARGA UDATTA,SIGN REVERSED VISARGA UDATTA",
  "1CE5 VEDIC:SIGN VISARGA ANUDATTA,SIGN REVERSED VISARGA ANUDATTA",
  "1CE7 VEDIC:SIGN VISARGA UDATTA WITH TAIL,SIGN VISARGA ANUDATTA WITH TAIL",
  "1CE9 VEDIC:SIGN ANUSVARA ANTARGOMUKHA,SIGN ANUSVARA BAHIRGOMUKHA,SIGN ANUSVARA VAMAGOMUKHA",
  "1CEC VEDIC:SIGN ANUSVARA VAMAGOMUKHA WITH TAIL,SIGN TIRYAK,SIGN HEXIFORM LONG ANUSVARA",
  "1CEF VEDIC:SIGN LONG ANUSVARA,SIGN RTHANG LONG ANUSVARA,SIGN ANUSVARA UBHAYATO MUKHA",
  "1CF2 VEDIC:SIGN ARDHAVISARGA,SIGN ROTATED ARDHAVISARGA,TONE CANDRA ABOVE,SIGN JIHVAMULIYA",
  "1CF6 VEDIC:SIGN UPADHMANIYA,SIGN ATIKRAMA,TONE RING ABOVE,TONE DOUBLE RING ABOVE",
  "1CFA VEDIC:SIGN DOUBLE ANUSVARA ANTARGOMUKHA"]

end SetupScript.Character
