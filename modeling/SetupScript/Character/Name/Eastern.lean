/-!
# Names of kana and radicals

The names of radicals, kana and the symbols of East Asia.  A group of
characters begins with the code point of its first one and the words that all its names begin with;
behind a colon stands what is left of the name of each.
-/

namespace SetupScript.Character

/-- The groups of names, in rows. -/
def easternNames : List String := [
  "2E80 CJK RADICAL:REPEAT,CLIFF,SECOND ONE,SECOND TWO,SECOND THREE,PERSON,BOX,TABLE,KNIFE ONE",
  "2E89 CJK RADICAL:KNIFE TWO,DIVINATION,SEAL,SMALL ONE,SMALL TWO,LAME ONE,LAME TWO,LAME THREE",
  "2E91 CJK RADICAL:LAME FOUR,SNAKE,THREAD,SNOUT ONE,SNOUT TWO,HEART ONE,HEART TWO,HAND,RAP",
  "2E9B CJK RADICAL:CHOKE,SUN,MOON,DEATH,MOTHER,CIVILIAN,WATER ONE,WATER TWO,FIRE,PAW ONE",
  "2EA5 CJK RADICAL:PAW TWO,SIMPLIFIED HALF TREE TRUNK,COW,DOG,JADE,BOLT OF CLOTH,EYE",
  "2EAC CJK RADICAL:SPIRIT ONE,SPIRIT TWO,BAMBOO,SILK,C-SIMPLIFIED SILK,NET ONE,NET TWO",
  "2EB3 CJK RADICAL:NET THREE,NET FOUR,MESH,SHEEP,RAM,EWE,OLD,BRUSH ONE,BRUSH TWO,MEAT,MORTAR",
  "2EBE CJK RADICAL:GRASS ONE,GRASS TWO,GRASS THREE,TIGER,CLOTHES,WEST ONE,WEST TWO",
  "2EC5 CJK RADICAL:C-SIMPLIFIED SEE,SIMPLIFIED HORN,HORN,C-SIMPLIFIED SPEECH",
  "2EC9 CJK RADICAL:C-SIMPLIFIED SHELL,FOOT,C-SIMPLIFIED CART,SIMPLIFIED WALK,WALK ONE,WALK TWO",
  "2ECF CJK RADICAL:CITY,C-SIMPLIFIED GOLD,LONG ONE,LONG TWO,C-SIMPLIFIED LONG",
  "2ED4 CJK RADICAL:C-SIMPLIFIED GATE,MOUND ONE,MOUND TWO,RAIN,BLUE,C-SIMPLIFIED TANNED LEATHER",
  "2EDA CJK RADICAL:C-SIMPLIFIED LEAF,C-SIMPLIFIED WIND,C-SIMPLIFIED FLY,EAT ONE,EAT TWO",
  "2EDF CJK RADICAL:EAT THREE,C-SIMPLIFIED EAT,HEAD,C-SIMPLIFIED HORSE,BONE,GHOST",
  "2EE5 CJK RADICAL:C-SIMPLIFIED FISH,C-SIMPLIFIED BIRD,C-SIMPLIFIED SALT,SIMPLIFIED WHEAT",
  "2EE9 CJK RADICAL:SIMPLIFIED YELLOW,C-SIMPLIFIED FROG,J-SIMPLIFIED EVEN,C-SIMPLIFIED EVEN",
  "2EED CJK RADICAL:J-SIMPLIFIED TOOTH,C-SIMPLIFIED TOOTH,J-SIMPLIFIED DRAGON",
  "2EF0 CJK RADICAL:C-SIMPLIFIED DRAGON,TURTLE,J-SIMPLIFIED TURTLE,C-SIMPLIFIED TURTLE",
  "2F00 KANGXI RADICAL:ONE,LINE,DOT,SLASH,SECOND,HOOK,TWO,LID,MAN,LEGS,ENTER,EIGHT,DOWN BOX",
  "2F0D KANGXI RADICAL:COVER,ICE,TABLE,OPEN BOX,KNIFE,POWER,WRAP,SPOON,RIGHT OPEN BOX",
  "2F16 KANGXI RADICAL:HIDING ENCLOSURE,TEN,DIVINATION,SEAL,CLIFF,PRIVATE,AGAIN,MOUTH,ENCLOSURE",
  "2F1F KANGXI RADICAL:EARTH,SCHOLAR,GO,GO SLOWLY,EVENING,BIG,WOMAN,CHILD,ROOF,INCH,SMALL,LAME",
  "2F2B KANGXI RADICAL:CORPSE,SPROUT,MOUNTAIN,RIVER,WORK,ONESELF,TURBAN,DRY,SHORT THREAD",
  "2F34 KANGXI RADICAL:DOTTED CLIFF,LONG STRIDE,TWO HANDS,SHOOT,BOW,SNOUT,BRISTLE,STEP,HEART",
  "2F3D KANGXI RADICAL:HALBERD,DOOR,HAND,BRANCH,RAP,SCRIPT,DIPPER,AXE,SQUARE,NOT,SUN,SAY,MOON",
  "2F4A KANGXI RADICAL:TREE,LACK,STOP,DEATH,WEAPON,DO NOT,COMPARE,FUR,CLAN,STEAM,WATER,FIRE",
  "2F56 KANGXI RADICAL:CLAW,FATHER,DOUBLE X,HALF TREE TRUNK,SLICE,FANG,COW,DOG,PROFOUND,JADE",
  "2F60 KANGXI RADICAL:MELON,TILE,SWEET,LIFE,USE,FIELD,BOLT OF CLOTH,SICKNESS,DOTTED TENT,WHITE",
  "2F6A KANGXI RADICAL:SKIN,DISH,EYE,SPEAR,ARROW,STONE,SPIRIT,TRACK,GRAIN,CAVE,STAND,BAMBOO",
  "2F76 KANGXI RADICAL:RICE,SILK,JAR,NET,SHEEP,FEATHER,OLD,AND,PLOW,EAR,BRUSH,MEAT,MINISTER",
  "2F83 KANGXI RADICAL:SELF,ARRIVE,MORTAR,TONGUE,OPPOSE,BOAT,STOPPING,COLOR,GRASS,TIGER,INSECT",
  "2F8E KANGXI RADICAL:BLOOD,WALK ENCLOSURE,CLOTHES,WEST,SEE,HORN,SPEECH,VALLEY,BEAN,PIG,BADGER",
  "2F99 KANGXI RADICAL:SHELL,RED,RUN,FOOT,BODY,CART,BITTER,MORNING,WALK,CITY,WINE,DISTINGUISH",
  "2FA5 KANGXI RADICAL:VILLAGE,GOLD,LONG,GATE,MOUND,SLAVE,SHORT TAILED BIRD,RAIN,BLUE,WRONG",
  "2FAF KANGXI RADICAL:FACE,LEATHER,TANNED LEATHER,LEEK,SOUND,LEAF,WIND,FLY,EAT,HEAD,FRAGRANT",
  "2FBA KANGXI RADICAL:HORSE,BONE,TALL,HAIR,FIGHT,SACRIFICIAL WINE,CAULDRON,GHOST,FISH,BIRD",
  "2FC4 KANGXI RADICAL:SALT,DEER,WHEAT,HEMP,YELLOW,MILLET,BLACK,EMBROIDERY,FROG,TRIPOD,DRUM,RAT",
  "2FD0 KANGXI RADICAL:NOSE,EVEN,TOOTH,DRAGON,TURTLE,FLUTE",
  "2FF0 IDEOGRAPHIC DESCRIPTION CHARACTER:LEFT TO RIGHT,ABOVE TO BELOW,LEFT TO MIDDLE AND RIGHT",
  "2FF3 IDEOGRAPHIC DESCRIPTION CHARACTER:ABOVE TO MIDDLE AND BELOW,FULL SURROUND",
  "2FF5 IDEOGRAPHIC DESCRIPTION CHARACTER:SURROUND FROM ABOVE,SURROUND FROM BELOW",
  "2FF7 IDEOGRAPHIC DESCRIPTION CHARACTER:SURROUND FROM LEFT,SURROUND FROM UPPER LEFT",
  "2FF9 IDEOGRAPHIC DESCRIPTION CHARACTER:SURROUND FROM UPPER RIGHT,SURROUND FROM LOWER LEFT",
  "2FFB IDEOGRAPHIC DESCRIPTION CHARACTER:OVERLAID;3000:IDEOGRAPHIC SPACE",
  "3001:IDEOGRAPHIC COMMA;3002:IDEOGRAPHIC FULL STOP;3003:DITTO MARK",
  "3004:JAPANESE INDUSTRIAL STANDARD SYMBOL;3005:IDEOGRAPHIC ITERATION MARK",
  "3006:IDEOGRAPHIC CLOSING MARK;3007:IDEOGRAPHIC NUMBER ZERO;3008:LEFT ANGLE BRACKET",
  "3009:RIGHT ANGLE BRACKET;300A:LEFT DOUBLE ANGLE BRACKET;300B:RIGHT DOUBLE ANGLE BRACKET",
  "300C:LEFT CORNER BRACKET;300D:RIGHT CORNER BRACKET;300E:LEFT WHITE CORNER BRACKET",
  "300F:RIGHT WHITE CORNER BRACKET;3010:LEFT BLACK LENTICULAR BRACKET",
  "3011:RIGHT BLACK LENTICULAR BRACKET;3012:POSTAL MARK;3013:GETA MARK",
  "3014:LEFT TORTOISE SHELL BRACKET;3015:RIGHT TORTOISE SHELL BRACKET",
  "3016:LEFT WHITE LENTICULAR BRACKET;3017:RIGHT WHITE LENTICULAR BRACKET",
  "3018:LEFT WHITE TORTOISE SHELL BRACKET;3019:RIGHT WHITE TORTOISE SHELL BRACKET",
  "301A:LEFT WHITE SQUARE BRACKET;301B:RIGHT WHITE SQUARE BRACKET;301C:WAVE DASH",
  "301D:REVERSED DOUBLE PRIME QUOTATION MARK;301E:DOUBLE PRIME QUOTATION MARK",
  "301F:LOW DOUBLE PRIME QUOTATION MARK;3020:POSTAL MARK FACE",
  "3021 HANGZHOU NUMERAL:ONE,TWO,THREE,FOUR,FIVE,SIX,SEVEN,EIGHT,NINE",
  "302A IDEOGRAPHIC:LEVEL TONE MARK,RISING TONE MARK,DEPARTING TONE MARK,ENTERING TONE MARK",
  "302E:HANGUL SINGLE DOT TONE MARK;302F:HANGUL DOUBLE DOT TONE MARK;3030:WAVY DASH",
  "3031 VERTICAL KANA REPEAT:MARK,WITH VOICED SOUND MARK,MARK UPPER HALF",
  "3034 VERTICAL KANA REPEAT:WITH VOICED SOUND MARK UPPER HALF,MARK LOWER HALF",
  "3036:CIRCLED POSTAL MARK;3037:IDEOGRAPHIC TELEGRAPH LINE FEED SEPARATOR SYMBOL",
  "3038 HANGZHOU NUMERAL:TEN,TWENTY,THIRTY;303B:VERTICAL IDEOGRAPHIC ITERATION MARK",
  "303C:MASU MARK;303D:PART ALTERNATION MARK",
  "303E IDEOGRAPHIC:VARIATION INDICATOR,HALF FILL SPACE",
  "3041 HIRAGANA LETTER:SMALL A,A,SMALL I,I,SMALL U,U,SMALL E,E,SMALL O,O,KA,GA,KI,GI,KU,GU,KE",
  "3052 HIRAGANA LETTER:GE,KO,GO,SA,ZA,SI,ZI,SU,ZU,SE,ZE,SO,ZO,TA,DA,TI,DI,SMALL TU,TU,DU,TE,DE",
  "3068 HIRAGANA LETTER:TO,DO,NA,NI,NU,NE,NO,HA,BA,PA,HI,BI,PI,HU,BU,PU,HE,BE,PE,HO,BO,PO,MA,MI",
  "3080 HIRAGANA LETTER:MU,ME,MO,SMALL YA,YA,SMALL YU,YU,SMALL YO,YO,RA,RI,RU,RE,RO,SMALL WA,WA",
  "3090 HIRAGANA LETTER:WI,WE,WO,N,VU,SMALL KA,SMALL KE",
  "3099:COMBINING KATAKANA-HIRAGANA VOICED SOUND MARK",
  "309A:COMBINING KATAKANA-HIRAGANA SEMI-VOICED SOUND MARK",
  "309B:KATAKANA-HIRAGANA VOICED SOUND MARK;309C:KATAKANA-HIRAGANA SEMI-VOICED SOUND MARK",
  "309D:HIRAGANA ITERATION MARK;309E:HIRAGANA VOICED ITERATION MARK;309F:HIRAGANA DIGRAPH YORI",
  "30A0:KATAKANA-HIRAGANA DOUBLE HYPHEN",
  "30A1 KATAKANA LETTER:SMALL A,A,SMALL I,I,SMALL U,U,SMALL E,E,SMALL O,O,KA,GA,KI,GI,KU,GU,KE",
  "30B2 KATAKANA LETTER:GE,KO,GO,SA,ZA,SI,ZI,SU,ZU,SE,ZE,SO,ZO,TA,DA,TI,DI,SMALL TU,TU,DU,TE,DE",
  "30C8 KATAKANA LETTER:TO,DO,NA,NI,NU,NE,NO,HA,BA,PA,HI,BI,PI,HU,BU,PU,HE,BE,PE,HO,BO,PO,MA,MI",
  "30E0 KATAKANA LETTER:MU,ME,MO,SMALL YA,YA,SMALL YU,YU,SMALL YO,YO,RA,RI,RU,RE,RO,SMALL WA,WA",
  "30F0 KATAKANA LETTER:WI,WE,WO,N,VU,SMALL KA,SMALL KE,VA,VI,VE,VO;30FB:KATAKANA MIDDLE DOT",
  "30FC:KATAKANA-HIRAGANA PROLONGED SOUND MARK",
  "30FD KATAKANA:ITERATION MARK,VOICED ITERATION MARK,DIGRAPH KOTO",
  "3105 BOPOMOFO LETTER:B,P,M,F,D,T,N,L,G,K,H,J,Q,X,ZH,CH,SH,R,Z,C,S,A,O,E,EH,AI,EI,AU,OU,AN,EN",
  "3124 BOPOMOFO LETTER:ANG,ENG,ER,I,U,IU,V,NG,GN,IH,O WITH DOT ABOVE,NN",
  "3131 HANGUL LETTER:KIYEOK,SSANGKIYEOK,KIYEOK-SIOS,NIEUN,NIEUN-CIEUC,NIEUN-HIEUH,TIKEUT",
  "3138 HANGUL LETTER:SSANGTIKEUT,RIEUL,RIEUL-KIYEOK,RIEUL-MIEUM,RIEUL-PIEUP,RIEUL-SIOS",
  "313E HANGUL LETTER:RIEUL-THIEUTH,RIEUL-PHIEUPH,RIEUL-HIEUH,MIEUM,PIEUP,SSANGPIEUP,PIEUP-SIOS",
  "3145 HANGUL LETTER:SIOS,SSANGSIOS,IEUNG,CIEUC,SSANGCIEUC,CHIEUCH,KHIEUKH,THIEUTH,PHIEUPH",
  "314E HANGUL LETTER:HIEUH,A,AE,YA,YAE,EO,E,YEO,YE,O,WA,WAE,OE,YO,U,WEO,WE,WI,YU,EU,YI,I",
  "3164 HANGUL:FILLER,LETTER SSANGNIEUN,LETTER NIEUN-TIKEUT,LETTER NIEUN-SIOS",
  "3168 HANGUL:LETTER NIEUN-PANSIOS,LETTER RIEUL-KIYEOK-SIOS,LETTER RIEUL-TIKEUT",
  "316B HANGUL:LETTER RIEUL-PIEUP-SIOS,LETTER RIEUL-PANSIOS,LETTER RIEUL-YEORINHIEUH",
  "316E HANGUL:LETTER MIEUM-PIEUP,LETTER MIEUM-SIOS,LETTER MIEUM-PANSIOS,LETTER KAPYEOUNMIEUM",
  "3172 HANGUL:LETTER PIEUP-KIYEOK,LETTER PIEUP-TIKEUT,LETTER PIEUP-SIOS-KIYEOK",
  "3175 HANGUL:LETTER PIEUP-SIOS-TIKEUT,LETTER PIEUP-CIEUC,LETTER PIEUP-THIEUTH",
  "3178 HANGUL:LETTER KAPYEOUNPIEUP,LETTER KAPYEOUNSSANGPIEUP,LETTER SIOS-KIYEOK",
  "317B HANGUL:LETTER SIOS-NIEUN,LETTER SIOS-TIKEUT,LETTER SIOS-PIEUP,LETTER SIOS-CIEUC",
  "317F HANGUL:LETTER PANSIOS,LETTER SSANGIEUNG,LETTER YESIEUNG,LETTER YESIEUNG-SIOS",
  "3183 HANGUL:LETTER YESIEUNG-PANSIOS,LETTER KAPYEOUNPHIEUPH,LETTER SSANGHIEUH",
  "3186 HANGUL:LETTER YEORINHIEUH,LETTER YO-YA,LETTER YO-YAE,LETTER YO-I,LETTER YU-YEO",
  "318B HANGUL:LETTER YU-YE,LETTER YU-I,LETTER ARAEA,LETTER ARAEAE",
  "3190 IDEOGRAPHIC ANNOTATION:LINKING MARK,REVERSE MARK,ONE MARK,TWO MARK,THREE MARK,FOUR MARK",
  "3196 IDEOGRAPHIC ANNOTATION:TOP MARK,MIDDLE MARK,BOTTOM MARK,FIRST MARK,SECOND MARK",
  "319B IDEOGRAPHIC ANNOTATION:THIRD MARK,FOURTH MARK,HEAVEN MARK,EARTH MARK,MAN MARK",
  "31A0 BOPOMOFO LETTER:BU,ZI,JI,GU,EE,ENN,OO,ONN,IR,ANN,INN,UNN,IM,NGG,AINN,AUNN,AM,OM,ONG",
  "31B3 BOPOMOFO LETTER:INNN",
  "31B4 BOPOMOFO:FINAL LETTER P,FINAL LETTER T,FINAL LETTER K,FINAL LETTER H,LETTER GH",
  "31B9 BOPOMOFO:LETTER LH,LETTER ZY,FINAL LETTER G,LETTER GW,LETTER KW,LETTER OE,LETTER AH",
  "31C0 CJK STROKE:T,WG,XG,BXG,SW,HZZ,HZG,HP,HZWG,SZWG,HZT,HZZP,HPWG,HZW,HZZZ,N,H,S,P,SP,D,HZ",
  "31D6 CJK STROKE:HG,SZ,SWZ,ST,SG,PD,PZ,TN,SZZ,SWG,HXWG,HZZZG,PG,Q",
  "31F0 KATAKANA LETTER SMALL:KU,SI,SU,TO,NU,HA,HI,HU,HE,HO,MU,RA,RI,RU,RE,RO",
  "3200 PARENTHESIZED HANGUL:KIYEOK,NIEUN,TIKEUT,RIEUL,MIEUM,PIEUP,SIOS,IEUNG,CIEUC,CHIEUCH",
  "320A PARENTHESIZED HANGUL:KHIEUKH,THIEUTH,PHIEUPH,HIEUH,KIYEOK A,NIEUN A,TIKEUT A,RIEUL A",
  "3212 PARENTHESIZED HANGUL:MIEUM A,PIEUP A,SIOS A,IEUNG A,CIEUC A,CHIEUCH A,KHIEUKH A",
  "3219 PARENTHESIZED HANGUL:THIEUTH A,PHIEUPH A,HIEUH A,CIEUC U",
  "321D PARENTHESIZED KOREAN CHARACTER:OJEON,O HU",
  "3220 PARENTHESIZED IDEOGRAPH:ONE,TWO,THREE,FOUR,FIVE,SIX,SEVEN,EIGHT,NINE,TEN,MOON,FIRE",
  "322C PARENTHESIZED IDEOGRAPH:WATER,WOOD,METAL,EARTH,SUN,STOCK,HAVE,SOCIETY,NAME,SPECIAL",
  "3236 PARENTHESIZED IDEOGRAPH:FINANCIAL,CONGRATULATION,LABOR,REPRESENT,CALL,STUDY,SUPERVISE",
  "323D PARENTHESIZED IDEOGRAPH:ENTERPRISE,RESOURCE,ALLIANCE,FESTIVAL,REST,SELF,REACH",
  "3244:CIRCLED IDEOGRAPH QUESTION;3245:CIRCLED IDEOGRAPH KINDERGARTEN",
  "3246:CIRCLED IDEOGRAPH SCHOOL;3247:CIRCLED IDEOGRAPH KOTO",
  "3248:CIRCLED NUMBER TEN ON BLACK SQUARE;3249:CIRCLED NUMBER TWENTY ON BLACK SQUARE",
  "324A:CIRCLED NUMBER THIRTY ON BLACK SQUARE;324B:CIRCLED NUMBER FORTY ON BLACK SQUARE",
  "324C:CIRCLED NUMBER FIFTY ON BLACK SQUARE;324D:CIRCLED NUMBER SIXTY ON BLACK SQUARE",
  "324E:CIRCLED NUMBER SEVENTY ON BLACK SQUARE;324F:CIRCLED NUMBER EIGHTY ON BLACK SQUARE",
  "3250:PARTNERSHIP SIGN;3251:CIRCLED NUMBER TWENTY ONE;3252:CIRCLED NUMBER TWENTY TWO",
  "3253:CIRCLED NUMBER TWENTY THREE;3254:CIRCLED NUMBER TWENTY FOUR",
  "3255:CIRCLED NUMBER TWENTY FIVE;3256:CIRCLED NUMBER TWENTY SIX",
  "3257:CIRCLED NUMBER TWENTY SEVEN;3258:CIRCLED NUMBER TWENTY EIGHT",
  "3259:CIRCLED NUMBER TWENTY NINE;325A:CIRCLED NUMBER THIRTY;325B:CIRCLED NUMBER THIRTY ONE",
  "325C:CIRCLED NUMBER THIRTY TWO;325D:CIRCLED NUMBER THIRTY THREE",
  "325E:CIRCLED NUMBER THIRTY FOUR;325F:CIRCLED NUMBER THIRTY FIVE;3260:CIRCLED HANGUL KIYEOK",
  "3261:CIRCLED HANGUL NIEUN;3262:CIRCLED HANGUL TIKEUT;3263:CIRCLED HANGUL RIEUL",
  "3264:CIRCLED HANGUL MIEUM;3265:CIRCLED HANGUL PIEUP;3266:CIRCLED HANGUL SIOS",
  "3267:CIRCLED HANGUL IEUNG;3268:CIRCLED HANGUL CIEUC;3269:CIRCLED HANGUL CHIEUCH",
  "326A:CIRCLED HANGUL KHIEUKH;326B:CIRCLED HANGUL THIEUTH;326C:CIRCLED HANGUL PHIEUPH",
  "326D:CIRCLED HANGUL HIEUH;326E:CIRCLED HANGUL KIYEOK A;326F:CIRCLED HANGUL NIEUN A",
  "3270:CIRCLED HANGUL TIKEUT A;3271:CIRCLED HANGUL RIEUL A;3272:CIRCLED HANGUL MIEUM A",
  "3273:CIRCLED HANGUL PIEUP A;3274:CIRCLED HANGUL SIOS A;3275:CIRCLED HANGUL IEUNG A",
  "3276:CIRCLED HANGUL CIEUC A;3277:CIRCLED HANGUL CHIEUCH A;3278:CIRCLED HANGUL KHIEUKH A",
  "3279:CIRCLED HANGUL THIEUTH A;327A:CIRCLED HANGUL PHIEUPH A;327B:CIRCLED HANGUL HIEUH A",
  "327C:CIRCLED KOREAN CHARACTER CHAMKO;327D:CIRCLED KOREAN CHARACTER JUEUI",
  "327E:CIRCLED HANGUL IEUNG U;327F:KOREAN STANDARD SYMBOL",
  "3280 CIRCLED IDEOGRAPH:ONE,TWO,THREE,FOUR,FIVE,SIX,SEVEN,EIGHT,NINE,TEN,MOON,FIRE,WATER,WOOD",
  "328E CIRCLED IDEOGRAPH:METAL,EARTH,SUN,STOCK,HAVE,SOCIETY,NAME,SPECIAL,FINANCIAL",
  "3297 CIRCLED IDEOGRAPH:CONGRATULATION,LABOR,SECRET,MALE,FEMALE,SUITABLE,EXCELLENT,PRINT",
  "329F CIRCLED IDEOGRAPH:ATTENTION,ITEM,REST,COPY,CORRECT,HIGH,CENTRE,LOW,LEFT,RIGHT,MEDICINE",
  "32AA CIRCLED IDEOGRAPH:RELIGION,STUDY,SUPERVISE,ENTERPRISE,RESOURCE,ALLIANCE,NIGHT",
  "32B1:CIRCLED NUMBER THIRTY SIX;32B2:CIRCLED NUMBER THIRTY SEVEN",
  "32B3:CIRCLED NUMBER THIRTY EIGHT;32B4:CIRCLED NUMBER THIRTY NINE;32B5:CIRCLED NUMBER FORTY",
  "32B6:CIRCLED NUMBER FORTY ONE;32B7:CIRCLED NUMBER FORTY TWO;32B8:CIRCLED NUMBER FORTY THREE",
  "32B9:CIRCLED NUMBER FORTY FOUR;32BA:CIRCLED NUMBER FORTY FIVE;32BB:CIRCLED NUMBER FORTY SIX",
  "32BC:CIRCLED NUMBER FORTY SEVEN;32BD:CIRCLED NUMBER FORTY EIGHT",
  "32BE:CIRCLED NUMBER FORTY NINE;32BF:CIRCLED NUMBER FIFTY",
  "32C0 IDEOGRAPHIC TELEGRAPH SYMBOL FOR:JANUARY,FEBRUARY,MARCH,APRIL,MAY,JUNE,JULY,AUGUST",
  "32C8 IDEOGRAPHIC TELEGRAPH SYMBOL FOR:SEPTEMBER,OCTOBER,NOVEMBER,DECEMBER;32CC:SQUARE HG",
  "32CD:SQUARE ERG;32CE:SQUARE EV;32CF:LIMITED LIABILITY SIGN",
  "32D0 CIRCLED KATAKANA:A,I,U,E,O,KA,KI,KU,KE,KO,SA,SI,SU,SE,SO,TA,TI,TU,TE,TO,NA,NI,NU,NE,NO",
  "32E9 CIRCLED KATAKANA:HA,HI,HU,HE,HO,MA,MI,MU,ME,MO,YA,YU,YO,RA,RI,RU,RE,RO,WA,WI,WE,WO",
  "32FF SQUARE:ERA NAME REIWA,APAATO,ARUHUA,ANPEA,AARU,ININGU,INTI,UON,ESUKUUDO,EEKAA,ONSU,OOMU",
  "330B SQUARE:KAIRI,KARATTO,KARORII,GARON,GANMA,GIGA,GINII,KYURII,GIRUDAA,KIRO,KIROGURAMU",
  "3316 SQUARE:KIROMEETORU,KIROWATTO,GURAMU,GURAMUTON,KURUZEIRO,KUROONE,KEESU,KORUNA,KOOPO",
  "331F SQUARE:SAIKURU,SANTIIMU,SIRINGU,SENTI,SENTO,DAASU,DESI,DORU,TON,NANO,NOTTO,HAITU",
  "332B SQUARE:PAASENTO,PAATU,BAARERU,PIASUTORU,PIKURU,PIKO,BIRU,HUARADDO,HUIITO,BUSSYERU,HURAN",
  "3336 SQUARE:HEKUTAARU,PESO,PENIHI,HERUTU,PENSU,PEEZI,BEETA,POINTO,BORUTO,HON,PONDO,HOORU",
  "3342 SQUARE:HOON,MAIKURO,MAIRU,MAHHA,MARUKU,MANSYON,MIKURON,MIRI,MIRIBAARU,MEGA,MEGATON",
  "334D SQUARE:MEETORU,YAADO,YAARU,YUAN,RITTORU,RIRA,RUPII,RUUBURU,REMU,RENTOGEN,WATTO",
  "3358 IDEOGRAPHIC TELEGRAPH SYMBOL FOR HOUR:ZERO,ONE,TWO,THREE,FOUR,FIVE,SIX,SEVEN,EIGHT,NINE",
  "3362 IDEOGRAPHIC TELEGRAPH SYMBOL FOR HOUR:TEN,ELEVEN,TWELVE,THIRTEEN,FOURTEEN,FIFTEEN",
  "3368 IDEOGRAPHIC TELEGRAPH SYMBOL FOR HOUR:SIXTEEN,SEVENTEEN,EIGHTEEN,NINETEEN,TWENTY",
  "336D IDEOGRAPHIC TELEGRAPH SYMBOL FOR HOUR:TWENTY-ONE,TWENTY-TWO,TWENTY-THREE,TWENTY-FOUR",
  "3371 SQUARE:HPA,DA,AU,BAR,OV,PC,DM,DM SQUARED,DM CUBED,IU,ERA NAME HEISEI,ERA NAME SYOUWA",
  "337D SQUARE:ERA NAME TAISYOU,ERA NAME MEIZI,CORPORATION,PA AMPS,NA,MU A,MA,KA,KB,MB,GB,CAL",
  "3389 SQUARE:KCAL,PF,NF,MU F,MU G,MG,KG,HZ,KHZ,MHZ,GHZ,THZ,MU L,ML,DL,KL,FM,NM,MU M,MM,CM,KM",
  "339F SQUARE:MM SQUARED,CM SQUARED,M SQUARED,KM SQUARED,MM CUBED,CM CUBED,M CUBED,KM CUBED",
  "33A7 SQUARE:M OVER S,M OVER S SQUARED,PA,KPA,MPA,GPA,RAD,RAD OVER S,RAD OVER S SQUARED,PS,NS",
  "33B2 SQUARE:MU S,MS,PV,NV,MU V,MV,KV,MV MEGA,PW,NW,MU W,MW,KW,MW MEGA,K OHM,M OHM,AM,BQ,CC",
  "33C5 SQUARE:CD,C OVER KG,CO,DB,GY,HA,HP,IN,KK,KM CAPITAL,KT,LM,LN,LOG,LX,MB SMALL,MIL,MOL,PH",
  "33D8 SQUARE:PM,PPM,PR,SR,SV,WB,V OVER M,A OVER M",
  "33E0 IDEOGRAPHIC TELEGRAPH SYMBOL FOR DAY:ONE,TWO,THREE,FOUR,FIVE,SIX,SEVEN,EIGHT,NINE,TEN",
  "33EA IDEOGRAPHIC TELEGRAPH SYMBOL FOR DAY:ELEVEN,TWELVE,THIRTEEN,FOURTEEN,FIFTEEN,SIXTEEN",
  "33F0 IDEOGRAPHIC TELEGRAPH SYMBOL FOR DAY:SEVENTEEN,EIGHTEEN,NINETEEN,TWENTY,TWENTY-ONE",
  "33F5 IDEOGRAPHIC TELEGRAPH SYMBOL FOR DAY:TWENTY-TWO,TWENTY-THREE,TWENTY-FOUR,TWENTY-FIVE",
  "33F9 IDEOGRAPHIC TELEGRAPH SYMBOL FOR DAY:TWENTY-SIX,TWENTY-SEVEN,TWENTY-EIGHT,TWENTY-NINE",
  "33FD IDEOGRAPHIC TELEGRAPH SYMBOL FOR DAY:THIRTY,THIRTY-ONE;33FF:SQUARE GAL",
  "4DC0 HEXAGRAM FOR:THE CREATIVE HEAVEN,THE RECEPTIVE EARTH,DIFFICULTY AT THE BEGINNING",
  "4DC3 HEXAGRAM FOR:YOUTHFUL FOLLY,WAITING,CONFLICT,THE ARMY,HOLDING TOGETHER,SMALL TAMING",
  "4DC9 HEXAGRAM FOR:TREADING,PEACE,STANDSTILL,FELLOWSHIP,GREAT POSSESSION,MODESTY,ENTHUSIASM",
  "4DD0 HEXAGRAM FOR:FOLLOWING,WORK ON THE DECAYED,APPROACH,CONTEMPLATION,BITING THROUGH,GRACE",
  "4DD6 HEXAGRAM FOR:SPLITTING APART,RETURN,INNOCENCE,GREAT TAMING,MOUTH CORNERS",
  "4DDB HEXAGRAM FOR:GREAT PREPONDERANCE,THE ABYSMAL WATER,THE CLINGING FIRE,INFLUENCE,DURATION",
  "4DE0 HEXAGRAM FOR:RETREAT,GREAT POWER,PROGRESS,DARKENING OF THE LIGHT,THE FAMILY,OPPOSITION",
  "4DE6 HEXAGRAM FOR:OBSTRUCTION,DELIVERANCE,DECREASE,INCREASE,BREAKTHROUGH,COMING TO MEET",
  "4DEC HEXAGRAM FOR:GATHERING TOGETHER,PUSHING UPWARD,OPPRESSION,THE WELL,REVOLUTION",
  "4DF1 HEXAGRAM FOR:THE CAULDRON,THE AROUSING THUNDER,THE KEEPING STILL MOUNTAIN,DEVELOPMENT",
  "4DF5 HEXAGRAM FOR:THE MARRYING MAIDEN,ABUNDANCE,THE WANDERER,THE GENTLE WIND,THE JOYOUS LAKE",
  "4DFA HEXAGRAM FOR:DISPERSION,LIMITATION,INNER TRUTH,SMALL PREPONDERANCE,AFTER COMPLETION",
  "4DFF HEXAGRAM FOR:BEFORE COMPLETION"]

end SetupScript.Character
