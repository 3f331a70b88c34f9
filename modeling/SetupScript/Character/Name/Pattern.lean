/-!
# Names of patterns and arrows

The names of braille patterns, arrows, further symbols and old scripts.  A group of
characters begins with the code point of its first one and the words that all its names begin with;
behind a colon stands what is left of the name of each.
-/

namespace SetupScript.Character

/-- The groups of names, in rows. -/
def patternNames : List String := [
  "2800 BRAILLE PATTERN:BLANK,DOTS-1,DOTS-2,DOTS-12,DOTS-3,DOTS-13,DOTS-23,DOTS-123,DOTS-4",
  "2809 BRAILLE PATTERN:DOTS-14,DOTS-24,DOTS-124,DOTS-34,DOTS-134,DOTS-234,DOTS-1234,DOTS-5",
  "2811 BRAILLE PATTERN:DOTS-15,DOTS-25,DOTS-125,DOTS-35,DOTS-135,DOTS-235,DOTS-1235,DOTS-45",
  "2819 BRAILLE PATTERN:DOTS-145,DOTS-245,DOTS-1245,DOTS-345,DOTS-1345,DOTS-2345,DOTS-12345",
  "2820 BRAILLE PATTERN:DOTS-6,DOTS-16,DOTS-26,DOTS-126,DOTS-36,DOTS-136,DOTS-236,DOTS-1236",
  "2828 BRAILLE PATTERN:DOTS-46,DOTS-146,DOTS-246,DOTS-1246,DOTS-346,DOTS-1346,DOTS-2346",
  "282F BRAILLE PATTERN:DOTS-12346,DOTS-56,DOTS-156,DOTS-256,DOTS-1256,DOTS-356,DOTS-1356",
  "2836 BRAILLE PATTERN:DOTS-2356,DOTS-12356,DOTS-456,DOTS-1456,DOTS-2456,DOTS-12456,DOTS-3456",
  "283D BRAILLE PATTERN:DOTS-13456,DOTS-23456,DOTS-123456,DOTS-7,DOTS-17,DOTS-27,DOTS-127",
  "2844 BRAILLE PATTERN:DOTS-37,DOTS-137,DOTS-237,DOTS-1237,DOTS-47,DOTS-147,DOTS-247,DOTS-1247",
  "284C BRAILLE PATTERN:DOTS-347,DOTS-1347,DOTS-2347,DOTS-12347,DOTS-57,DOTS-157,DOTS-257",
  "2853 BRAILLE PATTERN:DOTS-1257,DOTS-357,DOTS-1357,DOTS-2357,DOTS-12357,DOTS-457,DOTS-1457",
  "285A BRAILLE PATTERN:DOTS-2457,DOTS-12457,DOTS-3457,DOTS-13457,DOTS-23457,DOTS-123457",
  "2860 BRAILLE PATTERN:DOTS-67,DOTS-167,DOTS-267,DOTS-1267,DOTS-367,DOTS-1367,DOTS-2367",
  "2867 BRAILLE PATTERN:DOTS-12367,DOTS-467,DOTS-1467,DOTS-2467,DOTS-12467,DOTS-3467,DOTS-13467",
  "286E BRAILLE PATTERN:DOTS-23467,DOTS-123467,DOTS-567,DOTS-1567,DOTS-2567,DOTS-12567",
  "2874 BRAILLE PATTERN:DOTS-3567,DOTS-13567,DOTS-23567,DOTS-123567,DOTS-4567,DOTS-14567",
  "287A BRAILLE PATTERN:DOTS-24567,DOTS-124567,DOTS-34567,DOTS-134567,DOTS-234567,DOTS-1234567",
  "2880 BRAILLE PATTERN:DOTS-8,DOTS-18,DOTS-28,DOTS-128,DOTS-38,DOTS-138,DOTS-238,DOTS-1238",
  "2888 BRAILLE PATTERN:DOTS-48,DOTS-148,DOTS-248,DOTS-1248,DOTS-348,DOTS-1348,DOTS-2348",
  "288F BRAILLE PATTERN:DOTS-12348,DOTS-58,DOTS-158,DOTS-258,DOTS-1258,DOTS-358,DOTS-1358",
  "2896 BRAILLE PATTERN:DOTS-2358,DOTS-12358,DOTS-458,DOTS-1458,DOTS-2458,DOTS-12458,DOTS-3458",
  "289D BRAILLE PATTERN:DOTS-13458,DOTS-23458,DOTS-123458,DOTS-68,DOTS-168,DOTS-268,DOTS-1268",
  "28A4 BRAILLE PATTERN:DOTS-368,DOTS-1368,DOTS-2368,DOTS-12368,DOTS-468,DOTS-1468,DOTS-2468",
  "28AB BRAILLE PATTERN:DOTS-12468,DOTS-3468,DOTS-13468,DOTS-23468,DOTS-123468,DOTS-568",
  "28B1 BRAILLE PATTERN:DOTS-1568,DOTS-2568,DOTS-12568,DOTS-3568,DOTS-13568,DOTS-23568",
  "28B7 BRAILLE PATTERN:DOTS-123568,DOTS-4568,DOTS-14568,DOTS-24568,DOTS-124568,DOTS-34568",
  "28BD BRAILLE PATTERN:DOTS-134568,DOTS-234568,DOTS-1234568,DOTS-78,DOTS-178,DOTS-278",
  "28C3 BRAILLE PATTERN:DOTS-1278,DOTS-378,DOTS-1378,DOTS-2378,DOTS-12378,DOTS-478,DOTS-1478",
  "28CA BRAILLE PATTERN:DOTS-2478,DOTS-12478,DOTS-3478,DOTS-13478,DOTS-23478,DOTS-123478",
  "28D0 BRAILLE PATTERN:DOTS-578,DOTS-1578,DOTS-2578,DOTS-12578,DOTS-3578,DOTS-13578,DOTS-23578",
  "28D7 BRAILLE PATTERN:DOTS-123578,DOTS-4578,DOTS-14578,DOTS-24578,DOTS-124578,DOTS-34578",
  "28DD BRAILLE PATTERN:DOTS-134578,DOTS-234578,DOTS-1234578,DOTS-678,DOTS-1678,DOTS-2678",
  "28E3 BRAILLE PATTERN:DOTS-12678,DOTS-3678,DOTS-13678,DOTS-23678,DOTS-123678,DOTS-4678",
  "28E9 BRAILLE PATTERN:DOTS-14678,DOTS-24678,DOTS-124678,DOTS-34678,DOTS-134678,DOTS-234678",
  "28EF BRAILLE PATTERN:DOTS-1234678,DOTS-5678,DOTS-15678,DOTS-25678,DOTS-125678,DOTS-35678",
  "28F5 BRAILLE PATTERN:DOTS-135678,DOTS-235678,DOTS-1235678,DOTS-45678,DOTS-145678,DOTS-245678",
  "28FB BRAILLE PATTERN:DOTS-1245678,DOTS-345678,DOTS-1345678,DOTS-2345678,DOTS-12345678",
  "2900:RIGHTWARDS TWO-HEADED ARROW WITH VERTICAL STROKE",
  "2901:RIGHTWARDS TWO-HEADED ARROW WITH DOUBLE VERTICAL STROKE",
  "2902:LEFTWARDS DOUBLE ARROW WITH VERTICAL STROKE",
  "2903:RIGHTWARDS DOUBLE ARROW WITH VERTICAL STROKE",
  "2904:LEFT RIGHT DOUBLE ARROW WITH VERTICAL STROKE;2905:RIGHTWARDS TWO-HEADED ARROW FROM BAR",
  "2906:LEFTWARDS DOUBLE ARROW FROM BAR;2907:RIGHTWARDS DOUBLE ARROW FROM BAR",
  "2908:DOWNWARDS ARROW WITH HORIZONTAL STROKE;2909:UPWARDS ARROW WITH HORIZONTAL STROKE",
  "290A:UPWARDS TRIPLE ARROW;290B:DOWNWARDS TRIPLE ARROW;290C:LEFTWARDS DOUBLE DASH ARROW",
  "290D:RIGHTWARDS DOUBLE DASH ARROW;290E:LEFTWARDS TRIPLE DASH ARROW",
  "290F:RIGHTWARDS TRIPLE DASH ARROW;2910:RIGHTWARDS TWO-HEADED TRIPLE DASH ARROW",
  "2911:RIGHTWARDS ARROW WITH DOTTED STEM;2912:UPWARDS ARROW TO BAR;2913:DOWNWARDS ARROW TO BAR",
  "2914:RIGHTWARDS ARROW WITH TAIL WITH VERTICAL STROKE",
  "2915:RIGHTWARDS ARROW WITH TAIL WITH DOUBLE VERTICAL STROKE",
  "2916:RIGHTWARDS TWO-HEADED ARROW WITH TAIL",
  "2917:RIGHTWARDS TWO-HEADED ARROW WITH TAIL WITH VERTICAL STROKE",
  "2918:RIGHTWARDS TWO-HEADED ARROW WITH TAIL WITH DOUBLE VERTICAL STROKE",
  "2919:LEFTWARDS ARROW-TAIL;291A:RIGHTWARDS ARROW-TAIL;291B:LEFTWARDS DOUBLE ARROW-TAIL",
  "291C:RIGHTWARDS DOUBLE ARROW-TAIL;291D:LEFTWARDS ARROW TO BLACK DIAMOND",
  "291E:RIGHTWARDS ARROW TO BLACK DIAMOND;291F:LEFTWARDS ARROW FROM BAR TO BLACK DIAMOND",
  "2920:RIGHTWARDS ARROW FROM BAR TO BLACK DIAMOND;2921:NORTH WEST AND SOUTH EAST ARROW",
  "2922:NORTH EAST AND SOUTH WEST ARROW;2923:NORTH WEST ARROW WITH HOOK",
  "2924:NORTH EAST ARROW WITH HOOK;2925:SOUTH EAST ARROW WITH HOOK",
  "2926:SOUTH WEST ARROW WITH HOOK;2927:NORTH WEST ARROW AND NORTH EAST ARROW",
  "2928:NORTH EAST ARROW AND SOUTH EAST ARROW;2929:SOUTH EAST ARROW AND SOUTH WEST ARROW",
  "292A:SOUTH WEST ARROW AND NORTH WEST ARROW;292B:RISING DIAGONAL CROSSING FALLING DIAGONAL",
  "292C:FALLING DIAGONAL CROSSING RISING DIAGONAL",
  "292D:SOUTH EAST ARROW CROSSING NORTH EAST ARROW",
  "292E:NORTH EAST ARROW CROSSING SOUTH EAST ARROW",
  "292F:FALLING DIAGONAL CROSSING NORTH EAST ARROW",
  "2930:RISING DIAGONAL CROSSING SOUTH EAST ARROW",
  "2931:NORTH EAST ARROW CROSSING NORTH WEST ARROW",
  "2932:NORTH WEST ARROW CROSSING NORTH EAST ARROW;2933:WAVE ARROW POINTING DIRECTLY RIGHT",
  "2934:ARROW POINTING RIGHTWARDS THEN CURVING UPWARDS",
  "2935:ARROW POINTING RIGHTWARDS THEN CURVING DOWNWARDS",
  "2936:ARROW POINTING DOWNWARDS THEN CURVING LEFTWARDS",
  "2937:ARROW POINTING DOWNWARDS THEN CURVING RIGHTWARDS;2938:RIGHT-SIDE ARC CLOCKWISE ARROW",
  "2939:LEFT-SIDE ARC ANTICLOCKWISE ARROW;293A:TOP ARC ANTICLOCKWISE ARROW",
  "293B:BOTTOM ARC ANTICLOCKWISE ARROW;293C:TOP ARC CLOCKWISE ARROW WITH MINUS",
  "293D:TOP ARC ANTICLOCKWISE ARROW WITH PLUS;293E:LOWER RIGHT SEMICIRCULAR CLOCKWISE ARROW",
  "293F:LOWER LEFT SEMICIRCULAR ANTICLOCKWISE ARROW;2940:ANTICLOCKWISE CLOSED CIRCLE ARROW",
  "2941:CLOCKWISE CLOSED CIRCLE ARROW;2942:RIGHTWARDS ARROW ABOVE SHORT LEFTWARDS ARROW",
  "2943:LEFTWARDS ARROW ABOVE SHORT RIGHTWARDS ARROW",
  "2944:SHORT RIGHTWARDS ARROW ABOVE LEFTWARDS ARROW;2945:RIGHTWARDS ARROW WITH PLUS BELOW",
  "2946:LEFTWARDS ARROW WITH PLUS BELOW;2947:RIGHTWARDS ARROW THROUGH X",
  "2948:LEFT RIGHT ARROW THROUGH SMALL CIRCLE;2949:UPWARDS TWO-HEADED ARROW FROM SMALL CIRCLE",
  "294A:LEFT BARB UP RIGHT BARB DOWN HARPOON;294B:LEFT BARB DOWN RIGHT BARB UP HARPOON",
  "294C:UP BARB RIGHT DOWN BARB LEFT HARPOON;294D:UP BARB LEFT DOWN BARB RIGHT HARPOON",
  "294E:LEFT BARB UP RIGHT BARB UP HARPOON;294F:UP BARB RIGHT DOWN BARB RIGHT HARPOON",
  "2950:LEFT BARB DOWN RIGHT BARB DOWN HARPOON;2951:UP BARB LEFT DOWN BARB LEFT HARPOON",
  "2952:LEFTWARDS HARPOON WITH BARB UP TO BAR;2953:RIGHTWARDS HARPOON WITH BARB UP TO BAR",
  "2954:UPWARDS HARPOON WITH BARB RIGHT TO BAR;2955:DOWNWARDS HARPOON WITH BARB RIGHT TO BAR",
  "2956:LEFTWARDS HARPOON WITH BARB DOWN TO BAR;2957:RIGHTWARDS HARPOON WITH BARB DOWN TO BAR",
  "2958:UPWARDS HARPOON WITH BARB LEFT TO BAR;2959:DOWNWARDS HARPOON WITH BARB LEFT TO BAR",
  "295A:LEFTWARDS HARPOON WITH BARB UP FROM BAR;295B:RIGHTWARDS HARPOON WITH BARB UP FROM BAR",
  "295C:UPWARDS HARPOON WITH BARB RIGHT FROM BAR",
  "295D:DOWNWARDS HARPOON WITH BARB RIGHT FROM BAR",
  "295E:LEFTWARDS HARPOON WITH BARB DOWN FROM BAR",
  "295F:RIGHTWARDS HARPOON WITH BARB DOWN FROM BAR;2960:UPWARDS HARPOON WITH BARB LEFT FROM BAR",
  "2961:DOWNWARDS HARPOON WITH BARB LEFT FROM BAR",
  "2962:LEFTWARDS HARPOON WITH BARB UP ABOVE LEFTWARDS HARPOON WITH BARB DOWN",
  "2963:UPWARDS HARPOON WITH BARB LEFT BESIDE UPWARDS HARPOON WITH BARB RIGHT",
  "2964:RIGHTWARDS HARPOON WITH BARB UP ABOVE RIGHTWARDS HARPOON WITH BARB DOWN",
  "2965:DOWNWARDS HARPOON WITH BARB LEFT BESIDE DOWNWARDS HARPOON WITH BARB RIGHT",
  "2966:LEFTWARDS HARPOON WITH BARB UP ABOVE RIGHTWARDS HARPOON WITH BARB UP",
  "2967:LEFTWARDS HARPOON WITH BARB DOWN ABOVE RIGHTWARDS HARPOON WITH BARB DOWN",
  "2968:RIGHTWARDS HARPOON WITH BARB UP ABOVE LEFTWARDS HARPOON WITH BARB UP",
  "2969:RIGHTWARDS HARPOON WITH BARB DOWN ABOVE LEFTWARDS HARPOON WITH BARB DOWN",
  "296A:LEFTWARDS HARPOON WITH BARB UP ABOVE LONG DASH",
  "296B:LEFTWARDS HARPOON WITH BARB DOWN BELOW LONG DASH",
  "296C:RIGHTWARDS HARPOON WITH BARB UP ABOVE LONG DASH",
  "296D:RIGHTWARDS HARPOON WITH BARB DOWN BELOW LONG DASH",
  "296E:UPWARDS HARPOON WITH BARB LEFT BESIDE DOWNWARDS HARPOON WITH BARB RIGHT",
  "296F:DOWNWARDS HARPOON WITH BARB LEFT BESIDE UPWARDS HARPOON WITH BARB RIGHT",
  "2970:RIGHT DOUBLE ARROW WITH ROUNDED HEAD;2971:EQUALS SIGN ABOVE RIGHTWARDS ARROW",
  "2972:TILDE OPERATOR ABOVE RIGHTWARDS ARROW;2973:LEFTWARDS ARROW ABOVE TILDE OPERATOR",
  "2974:RIGHTWARDS ARROW ABOVE TILDE OPERATOR;2975:RIGHTWARDS ARROW ABOVE ALMOST EQUAL TO",
  "2976:LESS-THAN ABOVE LEFTWARDS ARROW;2977:LEFTWARDS ARROW THROUGH LESS-THAN",
  "2978:GREATER-THAN ABOVE RIGHTWARDS ARROW;2979:SUBSET ABOVE RIGHTWARDS ARROW",
  "297A:LEFTWARDS ARROW THROUGH SUBSET;297B:SUPERSET ABOVE LEFTWARDS ARROW;297C:LEFT FISH TAIL",
  "297D:RIGHT FISH TAIL;297E:UP FISH TAIL;297F:DOWN FISH TAIL",
  "2980:TRIPLE VERTICAL BAR DELIMITER;2981:Z NOTATION SPOT;2982:Z NOTATION TYPE COLON",
  "2983:LEFT WHITE CURLY BRACKET;2984:RIGHT WHITE CURLY BRACKET;2985:LEFT WHITE PARENTHESIS",
  "2986:RIGHT WHITE PARENTHESIS;2987:Z NOTATION LEFT IMAGE BRACKET",
  "2988:Z NOTATION RIGHT IMAGE BRACKET;2989:Z NOTATION LEFT BINDING BRACKET",
  "298A:Z NOTATION RIGHT BINDING BRACKET;298B:LEFT SQUARE BRACKET WITH UNDERBAR",
  "298C:RIGHT SQUARE BRACKET WITH UNDERBAR;298D:LEFT SQUARE BRACKET WITH TICK IN TOP CORNER",
  "298E:RIGHT SQUARE BRACKET WITH TICK IN BOTTOM CORNER",
  "298F:LEFT SQUARE BRACKET WITH TICK IN BOTTOM CORNER",
  "2990:RIGHT SQUARE BRACKET WITH TICK IN TOP CORNER;2991:LEFT ANGLE BRACKET WITH DOT",
  "2992:RIGHT ANGLE BRACKET WITH DOT;2993:LEFT ARC LESS-THAN BRACKET",
  "2994:RIGHT ARC GREATER-THAN BRACKET;2995:DOUBLE LEFT ARC GREATER-THAN BRACKET",
  "2996:DOUBLE RIGHT ARC LESS-THAN BRACKET;2997:LEFT BLACK TORTOISE SHELL BRACKET",
  "2998:RIGHT BLACK TORTOISE SHELL BRACKET;2999:DOTTED FENCE;299A:VERTICAL ZIGZAG LINE",
  "299B:MEASURED ANGLE OPENING LEFT;299C:RIGHT ANGLE VARIANT WITH SQUARE",
  "299D:MEASURED RIGHT ANGLE WITH DOT;299E:ANGLE WITH S INSIDE;299F:ACUTE ANGLE",
  "29A0:SPHERICAL ANGLE OPENING LEFT;29A1:SPHERICAL ANGLE OPENING UP;29A2:TURNED ANGLE",
  "29A3:REVERSED ANGLE;29A4:ANGLE WITH UNDERBAR;29A5:REVERSED ANGLE WITH UNDERBAR",
  "29A6:OBLIQUE ANGLE OPENING UP;29A7:OBLIQUE ANGLE OPENING DOWN",
  "29A8:MEASURED ANGLE WITH OPEN ARM ENDING IN ARROW POINTING UP AND RIGHT",
  "29A9:MEASURED ANGLE WITH OPEN ARM ENDING IN ARROW POINTING UP AND LEFT",
  "29AA:MEASURED ANGLE WITH OPEN ARM ENDING IN ARROW POINTING DOWN AND RIGHT",
  "29AB:MEASURED ANGLE WITH OPEN ARM ENDING IN ARROW POINTING DOWN AND LEFT",
  "29AC:MEASURED ANGLE WITH OPEN ARM ENDING IN ARROW POINTING RIGHT AND UP",
  "29AD:MEASURED ANGLE WITH OPEN ARM ENDING IN ARROW POINTING LEFT AND UP",
  "29AE:MEASURED ANGLE WITH OPEN ARM ENDING IN ARROW POINTING RIGHT AND DOWN",
  "29AF:MEASURED ANGLE WITH OPEN ARM ENDING IN ARROW POINTING LEFT AND DOWN",
  "29B0:REVERSED EMPTY SET;29B1:EMPTY SET WITH OVERBAR;29B2:EMPTY SET WITH SMALL CIRCLE ABOVE",
  "29B3:EMPTY SET WITH RIGHT ARROW ABOVE;29B4:EMPTY SET WITH LEFT ARROW ABOVE",
  "29B5:CIRCLE WITH HORIZONTAL BAR;29B6:CIRCLED VERTICAL BAR;29B7:CIRCLED PARALLEL",
  "29B8:CIRCLED REVERSE SOLIDUS;29B9:CIRCLED PERPENDICULAR",
  "29BA:CIRCLE DIVIDED BY HORIZONTAL BAR AND TOP HALF DIVIDED BY VERTICAL BAR",
  "29BB:CIRCLE WITH SUPERIMPOSED X;29BC:CIRCLED ANTICLOCKWISE-ROTATED DIVISION SIGN",
  "29BD:UP ARROW THROUGH CIRCLE;29BE:CIRCLED WHITE BULLET;29BF:CIRCLED BULLET",
  "29C0:CIRCLED LESS-THAN;29C1:CIRCLED GREATER-THAN;29C2:CIRCLE WITH SMALL CIRCLE TO THE RIGHT",
  "29C3:CIRCLE WITH TWO HORIZONTAL STROKES TO THE RIGHT;29C4:SQUARED RISING DIAGONAL SLASH",
  "29C5:SQUARED FALLING DIAGONAL SLASH;29C6:SQUARED ASTERISK;29C7:SQUARED SMALL CIRCLE",
  "29C8:SQUARED SQUARE;29C9:TWO JOINED SQUARES;29CA:TRIANGLE WITH DOT ABOVE",
  "29CB:TRIANGLE WITH UNDERBAR;29CC:S IN TRIANGLE;29CD:TRIANGLE WITH SERIFS AT BOTTOM",
  "29CE:RIGHT TRIANGLE ABOVE LEFT TRIANGLE;29CF:LEFT TRIANGLE BESIDE VERTICAL BAR",
  "29D0:VERTICAL BAR BESIDE RIGHT TRIANGLE;29D1:BOWTIE WITH LEFT HALF BLACK",
  "29D2:BOWTIE WITH RIGHT HALF BLACK;29D3:BLACK BOWTIE;29D4:TIMES WITH LEFT HALF BLACK",
  "29D5:TIMES WITH RIGHT HALF BLACK;29D6:WHITE HOURGLASS;29D7:BLACK HOURGLASS",
  "29D8:LEFT WIGGLY FENCE;29D9:RIGHT WIGGLY FENCE;29DA:LEFT DOUBLE WIGGLY FENCE",
  "29DB:RIGHT DOUBLE WIGGLY FENCE;29DC:INCOMPLETE INFINITY;29DD:TIE OVER INFINITY",
  "29DE:INFINITY NEGATED WITH VERTICAL BAR;29DF:DOUBLE-ENDED MULTIMAP",
  "29E0:SQUARE WITH CONTOURED OUTLINE;29E1:INCREASES AS;29E2:SHUFFLE PRODUCT",
  "29E3:EQUALS SIGN AND SLANTED PARALLEL;29E4:EQUALS SIGN AND SLANTED PARALLEL WITH TILDE ABOVE",
  "29E5:IDENTICAL TO AND SLANTED PARALLEL;29E6:GLEICH STARK;29E7:THERMODYNAMIC",
  "29E8:DOWN-POINTING TRIANGLE WITH LEFT HALF BLACK",
  "29E9:DOWN-POINTING TRIANGLE WITH RIGHT HALF BLACK;29EA:BLACK DIAMOND WITH DOWN ARROW",
  "29EB:BLACK LOZENGE;29EC:WHITE CIRCLE WITH DOWN ARROW;29ED:BLACK CIRCLE WITH DOWN ARROW",
  "29EE:ERROR-BARRED WHITE SQUARE;29EF:ERROR-BARRED BLACK SQUARE",
  "29F0:ERROR-BARRED WHITE DIAMOND;29F1:ERROR-BARRED BLACK DIAMOND",
  "29F2:ERROR-BARRED WHITE CIRCLE;29F3:ERROR-BARRED BLACK CIRCLE;29F4:RULE-DELAYED",
  "29F5:REVERSE SOLIDUS OPERATOR;29F6:SOLIDUS WITH OVERBAR",
  "29F7:REVERSE SOLIDUS WITH HORIZONTAL STROKE;29F8:BIG SOLIDUS;29F9:BIG REVERSE SOLIDUS",
  "29FA:DOUBLE PLUS;29FB:TRIPLE PLUS;29FC:LEFT-POINTING CURVED ANGLE BRACKET",
  "29FD:RIGHT-POINTING CURVED ANGLE BRACKET;29FE:TINY;29FF:MINY;2A00:N-ARY CIRCLED DOT OPERATOR",
  "2A01:N-ARY CIRCLED PLUS OPERATOR;2A02:N-ARY CIRCLED TIMES OPERATOR",
  "2A03:N-ARY UNION OPERATOR WITH DOT;2A04:N-ARY UNION OPERATOR WITH PLUS",
  "2A05:N-ARY SQUARE INTERSECTION OPERATOR;2A06:N-ARY SQUARE UNION OPERATOR",
  "2A07:TWO LOGICAL AND OPERATOR;2A08:TWO LOGICAL OR OPERATOR;2A09:N-ARY TIMES OPERATOR",
  "2A0A:MODULO TWO SUM;2A0B:SUMMATION WITH INTEGRAL;2A0C:QUADRUPLE INTEGRAL OPERATOR",
  "2A0D:FINITE PART INTEGRAL;2A0E:INTEGRAL WITH DOUBLE STROKE;2A0F:INTEGRAL AVERAGE WITH SLASH",
  "2A10:CIRCULATION FUNCTION;2A11:ANTICLOCKWISE INTEGRATION",
  "2A12:LINE INTEGRATION WITH RECTANGULAR PATH AROUND POLE",
  "2A13:LINE INTEGRATION WITH SEMICIRCULAR PATH AROUND POLE",
  "2A14:LINE INTEGRATION NOT INCLUDING THE POLE;2A15:INTEGRAL AROUND A POINT OPERATOR",
  "2A16:QUATERNION INTEGRAL OPERATOR;2A17:INTEGRAL WITH LEFTWARDS ARROW WITH HOOK",
  "2A18:INTEGRAL WITH TIMES SIGN;2A19:INTEGRAL WITH INTERSECTION;2A1A:INTEGRAL WITH UNION",
  "2A1B:INTEGRAL WITH OVERBAR;2A1C:INTEGRAL WITH UNDERBAR;2A1D:JOIN",
  "2A1E:LARGE LEFT TRIANGLE OPERATOR;2A1F:Z NOTATION SCHEMA COMPOSITION",
  "2A20:Z NOTATION SCHEMA PIPING;2A21:Z NOTATION SCHEMA PROJECTION",
  "2A22:PLUS SIGN WITH SMALL CIRCLE ABOVE;2A23:PLUS SIGN WITH CIRCUMFLEX ACCENT ABOVE",
  "2A24:PLUS SIGN WITH TILDE ABOVE;2A25:PLUS SIGN WITH DOT BELOW",
  "2A26:PLUS SIGN WITH TILDE BELOW;2A27:PLUS SIGN WITH SUBSCRIPT TWO",
  "2A28:PLUS SIGN WITH BLACK TRIANGLE;2A29:MINUS SIGN WITH COMMA ABOVE",
  "2A2A:MINUS SIGN WITH DOT BELOW;2A2B:MINUS SIGN WITH FALLING DOTS",
  "2A2C:MINUS SIGN WITH RISING DOTS;2A2D:PLUS SIGN IN LEFT HALF CIRCLE",
  "2A2E:PLUS SIGN IN RIGHT HALF CIRCLE;2A2F:VECTOR OR CROSS PRODUCT",
  "2A30:MULTIPLICATION SIGN WITH DOT ABOVE;2A31:MULTIPLICATION SIGN WITH UNDERBAR",
  "2A32:SEMIDIRECT PRODUCT WITH BOTTOM CLOSED;2A33:SMASH PRODUCT",
  "2A34:MULTIPLICATION SIGN IN LEFT HALF CIRCLE;2A35:MULTIPLICATION SIGN IN RIGHT HALF CIRCLE",
  "2A36:CIRCLED MULTIPLICATION SIGN WITH CIRCUMFLEX ACCENT",
  "2A37:MULTIPLICATION SIGN IN DOUBLE CIRCLE;2A38:CIRCLED DIVISION SIGN",
  "2A39:PLUS SIGN IN TRIANGLE;2A3A:MINUS SIGN IN TRIANGLE;2A3B:MULTIPLICATION SIGN IN TRIANGLE",
  "2A3C:INTERIOR PRODUCT;2A3D:RIGHTHAND INTERIOR PRODUCT;2A3E:Z NOTATION RELATIONAL COMPOSITION",
  "2A3F:AMALGAMATION OR COPRODUCT;2A40:INTERSECTION WITH DOT;2A41:UNION WITH MINUS SIGN",
  "2A42:UNION WITH OVERBAR;2A43:INTERSECTION WITH OVERBAR;2A44:INTERSECTION WITH LOGICAL AND",
  "2A45:UNION WITH LOGICAL OR;2A46:UNION ABOVE INTERSECTION;2A47:INTERSECTION ABOVE UNION",
  "2A48:UNION ABOVE BAR ABOVE INTERSECTION;2A49:INTERSECTION ABOVE BAR ABOVE UNION",
  "2A4A:UNION BESIDE AND JOINED WITH UNION",
  "2A4B:INTERSECTION BESIDE AND JOINED WITH INTERSECTION;2A4C:CLOSED UNION WITH SERIFS",
  "2A4D:CLOSED INTERSECTION WITH SERIFS;2A4E:DOUBLE SQUARE INTERSECTION",
  "2A4F:DOUBLE SQUARE UNION;2A50:CLOSED UNION WITH SERIFS AND SMASH PRODUCT",
  "2A51:LOGICAL AND WITH DOT ABOVE;2A52:LOGICAL OR WITH DOT ABOVE;2A53:DOUBLE LOGICAL AND",
  "2A54:DOUBLE LOGICAL OR;2A55:TWO INTERSECTING LOGICAL AND;2A56:TWO INTERSECTING LOGICAL OR",
  "2A57:SLOPING LARGE OR;2A58:SLOPING LARGE AND;2A59:LOGICAL OR OVERLAPPING LOGICAL AND",
  "2A5A:LOGICAL AND WITH MIDDLE STEM;2A5B:LOGICAL OR WITH MIDDLE STEM",
  "2A5C:LOGICAL AND WITH HORIZONTAL DASH;2A5D:LOGICAL OR WITH HORIZONTAL DASH",
  "2A5E:LOGICAL AND WITH DOUBLE OVERBAR;2A5F:LOGICAL AND WITH UNDERBAR",
  "2A60:LOGICAL AND WITH DOUBLE UNDERBAR;2A61:SMALL VEE WITH UNDERBAR",
  "2A62:LOGICAL OR WITH DOUBLE OVERBAR;2A63:LOGICAL OR WITH DOUBLE UNDERBAR",
  "2A64:Z NOTATION DOMAIN ANTIRESTRICTION;2A65:Z NOTATION RANGE ANTIRESTRICTION",
  "2A66:EQUALS SIGN WITH DOT BELOW;2A67:IDENTICAL WITH DOT ABOVE",
  "2A68:TRIPLE HORIZONTAL BAR WITH DOUBLE VERTICAL STROKE",
  "2A69:TRIPLE HORIZONTAL BAR WITH TRIPLE VERTICAL STROKE;2A6A:TILDE OPERATOR WITH DOT ABOVE",
  "2A6B:TILDE OPERATOR WITH RISING DOTS;2A6C:SIMILAR MINUS SIMILAR",
  "2A6D:CONGRUENT WITH DOT ABOVE;2A6E:EQUALS WITH ASTERISK",
  "2A6F:ALMOST EQUAL TO WITH CIRCUMFLEX ACCENT;2A70:APPROXIMATELY EQUAL OR EQUAL TO",
  "2A71:EQUALS SIGN ABOVE PLUS SIGN;2A72:PLUS SIGN ABOVE EQUALS SIGN",
  "2A73:EQUALS SIGN ABOVE TILDE OPERATOR;2A74:DOUBLE COLON EQUAL",
  "2A75:TWO CONSECUTIVE EQUALS SIGNS;2A76:THREE CONSECUTIVE EQUALS SIGNS",
  "2A77:EQUALS SIGN WITH TWO DOTS ABOVE AND TWO DOTS BELOW;2A78:EQUIVALENT WITH FOUR DOTS ABOVE",
  "2A79:LESS-THAN WITH CIRCLE INSIDE;2A7A:GREATER-THAN WITH CIRCLE INSIDE",
  "2A7B:LESS-THAN WITH QUESTION MARK ABOVE;2A7C:GREATER-THAN WITH QUESTION MARK ABOVE",
  "2A7D:LESS-THAN OR SLANTED EQUAL TO;2A7E:GREATER-THAN OR SLANTED EQUAL TO",
  "2A7F:LESS-THAN OR SLANTED EQUAL TO WITH DOT INSIDE",
  "2A80:GREATER-THAN OR SLANTED EQUAL TO WITH DOT INSIDE",
  "2A81:LESS-THAN OR SLANTED EQUAL TO WITH DOT ABOVE",
  "2A82:GREATER-THAN OR SLANTED EQUAL TO WITH DOT ABOVE",
  "2A83:LESS-THAN OR SLANTED EQUAL TO WITH DOT ABOVE RIGHT",
  "2A84:GREATER-THAN OR SLANTED EQUAL TO WITH DOT ABOVE LEFT;2A85:LESS-THAN OR APPROXIMATE",
  "2A86:GREATER-THAN OR APPROXIMATE;2A87:LESS-THAN AND SINGLE-LINE NOT EQUAL TO",
  "2A88:GREATER-THAN AND SINGLE-LINE NOT EQUAL TO;2A89:LESS-THAN AND NOT APPROXIMATE",
  "2A8A:GREATER-THAN AND NOT APPROXIMATE",
  "2A8B:LESS-THAN ABOVE DOUBLE-LINE EQUAL ABOVE GREATER-THAN",
  "2A8C:GREATER-THAN ABOVE DOUBLE-LINE EQUAL ABOVE LESS-THAN",
  "2A8D:LESS-THAN ABOVE SIMILAR OR EQUAL;2A8E:GREATER-THAN ABOVE SIMILAR OR EQUAL",
  "2A8F:LESS-THAN ABOVE SIMILAR ABOVE GREATER-THAN",
  "2A90:GREATER-THAN ABOVE SIMILAR ABOVE LESS-THAN",
  "2A91:LESS-THAN ABOVE GREATER-THAN ABOVE DOUBLE-LINE EQUAL",
  "2A92:GREATER-THAN ABOVE LESS-THAN ABOVE DOUBLE-LINE EQUAL",
  "2A93:LESS-THAN ABOVE SLANTED EQUAL ABOVE GREATER-THAN ABOVE SLANTED EQUAL",
  "2A94:GREATER-THAN ABOVE SLANTED EQUAL ABOVE LESS-THAN ABOVE SLANTED EQUAL",
  "2A95:SLANTED EQUAL TO OR LESS-THAN;2A96:SLANTED EQUAL TO OR GREATER-THAN",
  "2A97:SLANTED EQUAL TO OR LESS-THAN WITH DOT INSIDE",
  "2A98:SLANTED EQUAL TO OR GREATER-THAN WITH DOT INSIDE;2A99:DOUBLE-LINE EQUAL TO OR LESS-THAN",
  "2A9A:DOUBLE-LINE EQUAL TO OR GREATER-THAN;2A9B:DOUBLE-LINE SLANTED EQUAL TO OR LESS-THAN",
  "2A9C:DOUBLE-LINE SLANTED EQUAL TO OR GREATER-THAN;2A9D:SIMILAR OR LESS-THAN",
  "2A9E:SIMILAR OR GREATER-THAN;2A9F:SIMILAR ABOVE LESS-THAN ABOVE EQUALS SIGN",
  "2AA0:SIMILAR ABOVE GREATER-THAN ABOVE EQUALS SIGN;2AA1:DOUBLE NESTED LESS-THAN",
  "2AA2:DOUBLE NESTED GREATER-THAN;2AA3:DOUBLE NESTED LESS-THAN WITH UNDERBAR",
  "2AA4:GREATER-THAN OVERLAPPING LESS-THAN;2AA5:GREATER-THAN BESIDE LESS-THAN",
  "2AA6:LESS-THAN CLOSED BY CURVE;2AA7:GREATER-THAN CLOSED BY CURVE",
  "2AA8:LESS-THAN CLOSED BY CURVE ABOVE SLANTED EQUAL",
  "2AA9:GREATER-THAN CLOSED BY CURVE ABOVE SLANTED EQUAL;2AAA:SMALLER THAN;2AAB:LARGER THAN",
  "2AAC:SMALLER THAN OR EQUAL TO;2AAD:LARGER THAN OR EQUAL TO;2AAE:EQUALS SIGN WITH BUMPY ABOVE",
  "2AAF:PRECEDES ABOVE SINGLE-LINE EQUALS SIGN;2AB0:SUCCEEDS ABOVE SINGLE-LINE EQUALS SIGN",
  "2AB1:PRECEDES ABOVE SINGLE-LINE NOT EQUAL TO;2AB2:SUCCEEDS ABOVE SINGLE-LINE NOT EQUAL TO",
  "2AB3:PRECEDES ABOVE EQUALS SIGN;2AB4:SUCCEEDS ABOVE EQUALS SIGN",
  "2AB5:PRECEDES ABOVE NOT EQUAL TO;2AB6:SUCCEEDS ABOVE NOT EQUAL TO",
  "2AB7:PRECEDES ABOVE ALMOST EQUAL TO;2AB8:SUCCEEDS ABOVE ALMOST EQUAL TO",
  "2AB9:PRECEDES ABOVE NOT ALMOST EQUAL TO;2ABA:SUCCEEDS ABOVE NOT ALMOST EQUAL TO",
  "2ABB:DOUBLE PRECEDES;2ABC:DOUBLE SUCCEEDS;2ABD:SUBSET WITH DOT;2ABE:SUPERSET WITH DOT",
  "2ABF:SUBSET WITH PLUS SIGN BELOW;2AC0:SUPERSET WITH PLUS SIGN BELOW",
  "2AC1:SUBSET WITH MULTIPLICATION SIGN BELOW;2AC2:SUPERSET WITH MULTIPLICATION SIGN BELOW",
  "2AC3:SUBSET OF OR EQUAL TO WITH DOT ABOVE;2AC4:SUPERSET OF OR EQUAL TO WITH DOT ABOVE",
  "2AC5:SUBSET OF ABOVE EQUALS SIGN;2AC6:SUPERSET OF ABOVE EQUALS SIGN",
  "2AC7:SUBSET OF ABOVE TILDE OPERATOR;2AC8:SUPERSET OF ABOVE TILDE OPERATOR",
  "2AC9:SUBSET OF ABOVE ALMOST EQUAL TO;2ACA:SUPERSET OF ABOVE ALMOST EQUAL TO",
  "2ACB:SUBSET OF ABOVE NOT EQUAL TO;2ACC:SUPERSET OF ABOVE NOT EQUAL TO",
  "2ACD:SQUARE LEFT OPEN BOX OPERATOR;2ACE:SQUARE RIGHT OPEN BOX OPERATOR;2ACF:CLOSED SUBSET",
  "2AD0:CLOSED SUPERSET;2AD1:CLOSED SUBSET OR EQUAL TO;2AD2:CLOSED SUPERSET OR EQUAL TO",
  "2AD3:SUBSET ABOVE SUPERSET;2AD4:SUPERSET ABOVE SUBSET;2AD5:SUBSET ABOVE SUBSET",
  "2AD6:SUPERSET ABOVE SUPERSET;2AD7:SUPERSET BESIDE SUBSET",
  "2AD8:SUPERSET BESIDE AND JOINED BY DASH WITH SUBSET;2AD9:ELEMENT OF OPENING DOWNWARDS",
  "2ADA:PITCHFORK WITH TEE TOP;2ADB:TRANSVERSAL INTERSECTION;2ADC:FORKING;2ADD:NONFORKING",
  "2ADE:SHORT LEFT TACK;2ADF:SHORT DOWN TACK;2AE0:SHORT UP TACK;2AE1:PERPENDICULAR WITH S",
  "2AE2:VERTICAL BAR TRIPLE RIGHT TURNSTILE;2AE3:DOUBLE VERTICAL BAR LEFT TURNSTILE",
  "2AE4:VERTICAL BAR DOUBLE LEFT TURNSTILE;2AE5:DOUBLE VERTICAL BAR DOUBLE LEFT TURNSTILE",
  "2AE6:LONG DASH FROM LEFT MEMBER OF DOUBLE VERTICAL;2AE7:SHORT DOWN TACK WITH OVERBAR",
  "2AE8:SHORT UP TACK WITH UNDERBAR;2AE9:SHORT UP TACK ABOVE SHORT DOWN TACK",
  "2AEA:DOUBLE DOWN TACK;2AEB:DOUBLE UP TACK;2AEC:DOUBLE STROKE NOT SIGN",
  "2AED:REVERSED DOUBLE STROKE NOT SIGN;2AEE:DOES NOT DIVIDE WITH REVERSED NEGATION SLASH",
  "2AEF:VERTICAL LINE WITH CIRCLE ABOVE;2AF0:VERTICAL LINE WITH CIRCLE BELOW",
  "2AF1:DOWN TACK WITH CIRCLE BELOW;2AF2:PARALLEL WITH HORIZONTAL STROKE",
  "2AF3:PARALLEL WITH TILDE OPERATOR;2AF4:TRIPLE VERTICAL BAR BINARY RELATION",
  "2AF5:TRIPLE VERTICAL BAR WITH HORIZONTAL STROKE;2AF6:TRIPLE COLON OPERATOR",
  "2AF7:TRIPLE NESTED LESS-THAN;2AF8:TRIPLE NESTED GREATER-THAN",
  "2AF9:DOUBLE-LINE SLANTED LESS-THAN OR EQUAL TO",
  "2AFA:DOUBLE-LINE SLANTED GREATER-THAN OR EQUAL TO;2AFB:TRIPLE SOLIDUS BINARY RELATION",
  "2AFC:LARGE TRIPLE VERTICAL BAR OPERATOR;2AFD:DOUBLE SOLIDUS OPERATOR;2AFE:WHITE VERTICAL BAR",
  "2AFF:N-ARY WHITE VERTICAL BAR;2B00:NORTH EAST WHITE ARROW;2B01:NORTH WEST WHITE ARROW",
  "2B02:SOUTH EAST WHITE ARROW;2B03:SOUTH WEST WHITE ARROW;2B04:LEFT RIGHT WHITE ARROW",
  "2B05:LEFTWARDS BLACK ARROW;2B06:UPWARDS BLACK ARROW;2B07:DOWNWARDS BLACK ARROW",
  "2B08:NORTH EAST BLACK ARROW;2B09:NORTH WEST BLACK ARROW;2B0A:SOUTH EAST BLACK ARROW",
  "2B0B:SOUTH WEST BLACK ARROW;2B0C:LEFT RIGHT BLACK ARROW;2B0D:UP DOWN BLACK ARROW",
  "2B0E:RIGHTWARDS ARROW WITH TIP DOWNWARDS;2B0F:RIGHTWARDS ARROW WITH TIP UPWARDS",
  "2B10:LEFTWARDS ARROW WITH TIP DOWNWARDS;2B11:LEFTWARDS ARROW WITH TIP UPWARDS",
  "2B12:SQUARE WITH TOP HALF BLACK;2B13:SQUARE WITH BOTTOM HALF BLACK",
  "2B14:SQUARE WITH UPPER RIGHT DIAGONAL HALF BLACK",
  "2B15:SQUARE WITH LOWER LEFT DIAGONAL HALF BLACK;2B16:DIAMOND WITH LEFT HALF BLACK",
  "2B17:DIAMOND WITH RIGHT HALF BLACK;2B18:DIAMOND WITH TOP HALF BLACK",
  "2B19:DIAMOND WITH BOTTOM HALF BLACK;2B1A:DOTTED SQUARE;2B1B:BLACK LARGE SQUARE",
  "2B1C:WHITE LARGE SQUARE;2B1D:BLACK VERY SMALL SQUARE;2B1E:WHITE VERY SMALL SQUARE",
  "2B1F:BLACK PENTAGON;2B20:WHITE PENTAGON;2B21:WHITE HEXAGON;2B22:BLACK HEXAGON",
  "2B23:HORIZONTAL BLACK HEXAGON;2B24:BLACK LARGE CIRCLE;2B25:BLACK MEDIUM DIAMOND",
  "2B26:WHITE MEDIUM DIAMOND;2B27:BLACK MEDIUM LOZENGE;2B28:WHITE MEDIUM LOZENGE",
  "2B29:BLACK SMALL DIAMOND;2B2A:BLACK SMALL LOZENGE;2B2B:WHITE SMALL LOZENGE",
  "2B2C:BLACK HORIZONTAL ELLIPSE;2B2D:WHITE HORIZONTAL ELLIPSE;2B2E:BLACK VERTICAL ELLIPSE",
  "2B2F:WHITE VERTICAL ELLIPSE;2B30:LEFT ARROW WITH SMALL CIRCLE;2B31:THREE LEFTWARDS ARROWS",
  "2B32:LEFT ARROW WITH CIRCLED PLUS;2B33:LONG LEFTWARDS SQUIGGLE ARROW",
  "2B34 LEFTWARDS:TWO-HEADED ARROW WITH VERTICAL STROKE",
  "2B35 LEFTWARDS:TWO-HEADED ARROW WITH DOUBLE VERTICAL STROKE,TWO-HEADED ARROW FROM BAR",
  "2B37 LEFTWARDS:TWO-HEADED TRIPLE DASH ARROW,ARROW WITH DOTTED STEM",
  "2B39 LEFTWARDS:ARROW WITH TAIL WITH VERTICAL STROKE",
  "2B3A LEFTWARDS:ARROW WITH TAIL WITH DOUBLE VERTICAL STROKE,TWO-HEADED ARROW WITH TAIL",
  "2B3C LEFTWARDS:TWO-HEADED ARROW WITH TAIL WITH VERTICAL STROKE",
  "2B3D LEFTWARDS:TWO-HEADED ARROW WITH TAIL WITH DOUBLE VERTICAL STROKE,ARROW THROUGH X",
  "2B3F:WAVE ARROW POINTING DIRECTLY LEFT;2B40:EQUALS SIGN ABOVE LEFTWARDS ARROW",
  "2B41:REVERSE TILDE OPERATOR ABOVE LEFTWARDS ARROW",
  "2B42:LEFTWARDS ARROW ABOVE REVERSE ALMOST EQUAL TO",
  "2B43:RIGHTWARDS ARROW THROUGH GREATER-THAN;2B44:RIGHTWARDS ARROW THROUGH SUPERSET",
  "2B45:LEFTWARDS QUADRUPLE ARROW;2B46:RIGHTWARDS QUADRUPLE ARROW",
  "2B47:REVERSE TILDE OPERATOR ABOVE RIGHTWARDS ARROW",
  "2B48:RIGHTWARDS ARROW ABOVE REVERSE ALMOST EQUAL TO",
  "2B49:TILDE OPERATOR ABOVE LEFTWARDS ARROW;2B4A:LEFTWARDS ARROW ABOVE ALMOST EQUAL TO",
  "2B4B:LEFTWARDS ARROW ABOVE REVERSE TILDE OPERATOR",
  "2B4C:RIGHTWARDS ARROW ABOVE REVERSE TILDE OPERATOR",
  "2B4D:DOWNWARDS TRIANGLE-HEADED ZIGZAG ARROW;2B4E:SHORT SLANTED NORTH ARROW",
  "2B4F:SHORT BACKSLANTED SOUTH ARROW;2B50:WHITE MEDIUM STAR;2B51:BLACK SMALL STAR",
  "2B52:WHITE SMALL STAR;2B53:BLACK RIGHT-POINTING PENTAGON;2B54:WHITE RIGHT-POINTING PENTAGON",
  "2B55:HEAVY LARGE CIRCLE;2B56:HEAVY OVAL WITH OVAL INSIDE",
  "2B57:HEAVY CIRCLE WITH CIRCLE INSIDE;2B58:HEAVY CIRCLE;2B59:HEAVY CIRCLED SALTIRE",
  "2B5A:SLANTED NORTH ARROW WITH HOOKED HEAD;2B5B:BACKSLANTED SOUTH ARROW WITH HOOKED TAIL",
  "2B5C:SLANTED NORTH ARROW WITH HORIZONTAL TAIL",
  "2B5D:BACKSLANTED SOUTH ARROW WITH HORIZONTAL TAIL",
  "2B5E:BENT ARROW POINTING DOWNWARDS THEN NORTH EAST",
  "2B5F:SHORT BENT ARROW POINTING DOWNWARDS THEN NORTH EAST",
  "2B60:LEFTWARDS TRIANGLE-HEADED ARROW;2B61:UPWARDS TRIANGLE-HEADED ARROW",
  "2B62:RIGHTWARDS TRIANGLE-HEADED ARROW;2B63:DOWNWARDS TRIANGLE-HEADED ARROW",
  "2B64:LEFT RIGHT TRIANGLE-HEADED ARROW;2B65:UP DOWN TRIANGLE-HEADED ARROW",
  "2B66:NORTH WEST TRIANGLE-HEADED ARROW;2B67:NORTH EAST TRIANGLE-HEADED ARROW",
  "2B68:SOUTH EAST TRIANGLE-HEADED ARROW;2B69:SOUTH WEST TRIANGLE-HEADED ARROW",
  "2B6A:LEFTWARDS TRIANGLE-HEADED DASHED ARROW;2B6B:UPWARDS TRIANGLE-HEADED DASHED ARROW",
  "2B6C:RIGHTWARDS TRIANGLE-HEADED DASHED ARROW;2B6D:DOWNWARDS TRIANGLE-HEADED DASHED ARROW",
  "2B6E:CLOCKWISE TRIANGLE-HEADED OPEN CIRCLE ARROW",
  "2B6F:ANTICLOCKWISE TRIANGLE-HEADED OPEN CIRCLE ARROW",
  "2B70:LEFTWARDS TRIANGLE-HEADED ARROW TO BAR;2B71:UPWARDS TRIANGLE-HEADED ARROW TO BAR",
  "2B72:RIGHTWARDS TRIANGLE-HEADED ARROW TO BAR;2B73:DOWNWARDS TRIANGLE-HEADED ARROW TO BAR",
  "2B76:NORTH WEST TRIANGLE-HEADED ARROW TO BAR;2B77:NORTH EAST TRIANGLE-HEADED ARROW TO BAR",
  "2B78:SOUTH EAST TRIANGLE-HEADED ARROW TO BAR;2B79:SOUTH WEST TRIANGLE-HEADED ARROW TO BAR",
  "2B7A:LEFTWARDS TRIANGLE-HEADED ARROW WITH DOUBLE HORIZONTAL STROKE",
  "2B7B:UPWARDS TRIANGLE-HEADED ARROW WITH DOUBLE HORIZONTAL STROKE",
  "2B7C:RIGHTWARDS TRIANGLE-HEADED ARROW WITH DOUBLE HORIZONTAL STROKE",
  "2B7D:DOWNWARDS TRIANGLE-HEADED ARROW WITH DOUBLE HORIZONTAL STROKE;2B7E:HORIZONTAL TAB KEY",
  "2B7F:VERTICAL TAB KEY",
  "2B80:LEFTWARDS TRIANGLE-HEADED ARROW OVER RIGHTWARDS TRIANGLE-HEADED ARROW",
  "2B81:UPWARDS TRIANGLE-HEADED ARROW LEFTWARDS OF DOWNWARDS TRIANGLE-HEADED ARROW",
  "2B82:RIGHTWARDS TRIANGLE-HEADED ARROW OVER LEFTWARDS TRIANGLE-HEADED ARROW",
  "2B83:DOWNWARDS TRIANGLE-HEADED ARROW LEFTWARDS OF UPWARDS TRIANGLE-HEADED ARROW",
  "2B84:LEFTWARDS TRIANGLE-HEADED PAIRED ARROWS;2B85:UPWARDS TRIANGLE-HEADED PAIRED ARROWS",
  "2B86:RIGHTWARDS TRIANGLE-HEADED PAIRED ARROWS;2B87:DOWNWARDS TRIANGLE-HEADED PAIRED ARROWS",
  "2B88:LEFTWARDS BLACK CIRCLED WHITE ARROW;2B89:UPWARDS BLACK CIRCLED WHITE ARROW",
  "2B8A:RIGHTWARDS BLACK CIRCLED WHITE ARROW;2B8B:DOWNWARDS BLACK CIRCLED WHITE ARROW",
  "2B8C ANTICLOCKWISE TRIANGLE-HEADED:RIGHT U-SHAPED ARROW,BOTTOM U-SHAPED ARROW",
  "2B8E ANTICLOCKWISE TRIANGLE-HEADED:LEFT U-SHAPED ARROW,TOP U-SHAPED ARROW",
  "2B90 RETURN:LEFT,RIGHT;2B92 NEWLINE:LEFT,RIGHT",
  "2B94:FOUR CORNER ARROWS CIRCLING ANTICLOCKWISE;2B95:RIGHTWARDS BLACK ARROW",
  "2B97:SYMBOL FOR TYPE A ELECTRONICS;2B98:THREE-D TOP-LIGHTED LEFTWARDS EQUILATERAL ARROWHEAD",
  "2B99:THREE-D RIGHT-LIGHTED UPWARDS EQUILATERAL ARROWHEAD",
  "2B9A:THREE-D TOP-LIGHTED RIGHTWARDS EQUILATERAL ARROWHEAD",
  "2B9B:THREE-D LEFT-LIGHTED DOWNWARDS EQUILATERAL ARROWHEAD",
  "2B9C:BLACK LEFTWARDS EQUILATERAL ARROWHEAD;2B9D:BLACK UPWARDS EQUILATERAL ARROWHEAD",
  "2B9E:BLACK RIGHTWARDS EQUILATERAL ARROWHEAD;2B9F:BLACK DOWNWARDS EQUILATERAL ARROWHEAD",
  "2BA0:DOWNWARDS TRIANGLE-HEADED ARROW WITH LONG TIP LEFTWARDS",
  "2BA1:DOWNWARDS TRIANGLE-HEADED ARROW WITH LONG TIP RIGHTWARDS",
  "2BA2:UPWARDS TRIANGLE-HEADED ARROW WITH LONG TIP LEFTWARDS",
  "2BA3:UPWARDS TRIANGLE-HEADED ARROW WITH LONG TIP RIGHTWARDS",
  "2BA4:LEFTWARDS TRIANGLE-HEADED ARROW WITH LONG TIP UPWARDS",
  "2BA5:RIGHTWARDS TRIANGLE-HEADED ARROW WITH LONG TIP UPWARDS",
  "2BA6:LEFTWARDS TRIANGLE-HEADED ARROW WITH LONG TIP DOWNWARDS",
  "2BA7:RIGHTWARDS TRIANGLE-HEADED ARROW WITH LONG TIP DOWNWARDS",
  "2BA8:BLACK CURVED DOWNWARDS AND LEFTWARDS ARROW",
  "2BA9:BLACK CURVED DOWNWARDS AND RIGHTWARDS ARROW",
  "2BAA:BLACK CURVED UPWARDS AND LEFTWARDS ARROW;2BAB:BLACK CURVED UPWARDS AND RIGHTWARDS ARROW",
  "2BAC:BLACK CURVED LEFTWARDS AND UPWARDS ARROW;2BAD:BLACK CURVED RIGHTWARDS AND UPWARDS ARROW",
  "2BAE:BLACK CURVED LEFTWARDS AND DOWNWARDS ARROW",
  "2BAF:BLACK CURVED RIGHTWARDS AND DOWNWARDS ARROW;2BB0:RIBBON ARROW DOWN LEFT",
  "2BB1:RIBBON ARROW DOWN RIGHT;2BB2:RIBBON ARROW UP LEFT;2BB3:RIBBON ARROW UP RIGHT",
  "2BB4:RIBBON ARROW LEFT UP;2BB5:RIBBON ARROW RIGHT UP;2BB6:RIBBON ARROW LEFT DOWN",
  "2BB7:RIBBON ARROW RIGHT DOWN;2BB8:UPWARDS WHITE ARROW FROM BAR WITH HORIZONTAL BAR",
  "2BB9:UP ARROWHEAD IN A RECTANGLE BOX;2BBA:OVERLAPPING WHITE SQUARES",
  "2BBB:OVERLAPPING WHITE AND BLACK SQUARES;2BBC:OVERLAPPING BLACK SQUARES",
  "2BBD:BALLOT BOX WITH LIGHT X;2BBE:CIRCLED X;2BBF:CIRCLED BOLD X;2BC0:BLACK SQUARE CENTRED",
  "2BC1:BLACK DIAMOND CENTRED;2BC2:TURNED BLACK PENTAGON;2BC3:HORIZONTAL BLACK OCTAGON",
  "2BC4:BLACK OCTAGON;2BC5:BLACK MEDIUM UP-POINTING TRIANGLE CENTRED",
  "2BC6:BLACK MEDIUM DOWN-POINTING TRIANGLE CENTRED",
  "2BC7:BLACK MEDIUM LEFT-POINTING TRIANGLE CENTRED",
  "2BC8:BLACK MEDIUM RIGHT-POINTING TRIANGLE CENTRED;2BC9:NEPTUNE FORM TWO",
  "2BCA:TOP HALF BLACK CIRCLE;2BCB:BOTTOM HALF BLACK CIRCLE;2BCC:LIGHT FOUR POINTED BLACK CUSP",
  "2BCD:ROTATED LIGHT FOUR POINTED BLACK CUSP;2BCE:WHITE FOUR POINTED CUSP",
  "2BCF:ROTATED WHITE FOUR POINTED CUSP;2BD0:SQUARE POSITION INDICATOR;2BD1:UNCERTAINTY SIGN",
  "2BD2:GROUP MARK;2BD3:PLUTO FORM TWO;2BD4:PLUTO FORM THREE;2BD5:PLUTO FORM FOUR",
  "2BD6:PLUTO FORM FIVE;2BD7:TRANSPLUTO;2BD8:PROSERPINA;2BD9:ASTRAEA;2BDA:HYGIEA;2BDB:PHOLUS",
  "2BDC:NESSUS;2BDD:WHITE MOON SELENA;2BDE:BLACK DIAMOND ON CROSS;2BDF:TRUE LIGHT MOON ARTA",
  "2BE0:CUPIDO;2BE1:HADES;2BE2:ZEUS;2BE3:KRONOS;2BE4:APOLLON;2BE5:ADMETOS;2BE6:VULCANUS",
  "2BE7:POSEIDON;2BE8:LEFT HALF BLACK STAR;2BE9:RIGHT HALF BLACK STAR",
  "2BEA:STAR WITH LEFT HALF BLACK;2BEB:STAR WITH RIGHT HALF BLACK",
  "2BEC:LEFTWARDS TWO-HEADED ARROW WITH TRIANGLE ARROWHEADS",
  "2BED:UPWARDS TWO-HEADED ARROW WITH TRIANGLE ARROWHEADS",
  "2BEE:RIGHTWARDS TWO-HEADED ARROW WITH TRIANGLE ARROWHEADS",
  "2BEF:DOWNWARDS TWO-HEADED ARROW WITH TRIANGLE ARROWHEADS;2BF0:ERIS FORM ONE",
  "2BF1:ERIS FORM TWO;2BF2:SEDNA;2BF3:RUSSIAN ASTROLOGICAL SYMBOL VIGINTILE",
  "2BF4:RUSSIAN ASTROLOGICAL SYMBOL NOVILE;2BF5:RUSSIAN ASTROLOGICAL SYMBOL QUINTILE",
  "2BF6:RUSSIAN ASTROLOGICAL SYMBOL BINOVILE;2BF7:RUSSIAN ASTROLOGICAL SYMBOL SENTAGON",
  "2BF8:RUSSIAN ASTROLOGICAL SYMBOL TREDECILE;2BF9:EQUALS SIGN WITH INFINITY BELOW",
  "2BFA:UNITED SYMBOL;2BFB:SEPARATED SYMBOL;2BFC:DOUBLED SYMBOL;2BFD:PASSED SYMBOL",
  "2BFE:REVERSED RIGHT ANGLE;2BFF:HELLSCHREIBER PAUSE SYMBOL",
  "2C00 GLAGOLITIC CAPITAL LETTER:AZU,BUKY,VEDE,GLAGOLI,DOBRO,YESTU,ZHIVETE,DZELO,ZEMLJA,IZHE",
  "2C0A GLAGOLITIC CAPITAL LETTER:INITIAL IZHE,I,DJERVI,KAKO,LJUDIJE,MYSLITE,NASHI,ONU,POKOJI",
  "2C13 GLAGOLITIC CAPITAL LETTER:RITSI,SLOVO,TVRIDO,UKU,FRITU,HERU,OTU,PE,SHTA,TSI,CHRIVI,SHA",
  "2C1F GLAGOLITIC CAPITAL LETTER:YERU,YERI,YATI,SPIDERY HA,YU,SMALL YUS,SMALL YUS WITH TAIL,YO",
  "2C27 GLAGOLITIC CAPITAL LETTER:IOTATED SMALL YUS,BIG YUS,IOTATED BIG YUS,FITA,IZHITSA",
  "2C2C GLAGOLITIC CAPITAL LETTER:SHTAPIC,TROKUTASTI A,LATINATE MYSLITE,CAUDATE CHRIVI",
  "2C30 GLAGOLITIC SMALL LETTER:AZU,BUKY,VEDE,GLAGOLI,DOBRO,YESTU,ZHIVETE,DZELO,ZEMLJA,IZHE",
  "2C3A GLAGOLITIC SMALL LETTER:INITIAL IZHE,I,DJERVI,KAKO,LJUDIJE,MYSLITE,NASHI,ONU,POKOJI",
  "2C43 GLAGOLITIC SMALL LETTER:RITSI,SLOVO,TVRIDO,UKU,FRITU,HERU,OTU,PE,SHTA,TSI,CHRIVI,SHA",
  "2C4F GLAGOLITIC SMALL LETTER:YERU,YERI,YATI,SPIDERY HA,YU,SMALL YUS,SMALL YUS WITH TAIL,YO",
  "2C57 GLAGOLITIC SMALL LETTER:IOTATED SMALL YUS,BIG YUS,IOTATED BIG YUS,FITA,IZHITSA,SHTAPIC",
  "2C5D GLAGOLITIC SMALL LETTER:TROKUTASTI A,LATINATE MYSLITE,CAUDATE CHRIVI",
  "2C60 LATIN:CAPITAL LETTER L WITH DOUBLE BAR,SMALL LETTER L WITH DOUBLE BAR",
  "2C62 LATIN:CAPITAL LETTER L WITH MIDDLE TILDE,CAPITAL LETTER P WITH STROKE",
  "2C64 LATIN:CAPITAL LETTER R WITH TAIL,SMALL LETTER A WITH STROKE",
  "2C66 LATIN:SMALL LETTER T WITH DIAGONAL STROKE,CAPITAL LETTER H WITH DESCENDER",
  "2C68 LATIN:SMALL LETTER H WITH DESCENDER,CAPITAL LETTER K WITH DESCENDER",
  "2C6A LATIN:SMALL LETTER K WITH DESCENDER,CAPITAL LETTER Z WITH DESCENDER",
  "2C6C LATIN:SMALL LETTER Z WITH DESCENDER,CAPITAL LETTER ALPHA,CAPITAL LETTER M WITH HOOK",
  "2C6F LATIN:CAPITAL LETTER TURNED A,CAPITAL LETTER TURNED ALPHA",
  "2C71 LATIN:SMALL LETTER V WITH RIGHT HOOK,CAPITAL LETTER W WITH HOOK",
  "2C73 LATIN:SMALL LETTER W WITH HOOK,SMALL LETTER V WITH CURL,CAPITAL LETTER HALF H",
  "2C76 LATIN:SMALL LETTER HALF H,SMALL LETTER TAILLESS PHI,SMALL LETTER E WITH NOTCH",
  "2C79 LATIN:SMALL LETTER TURNED R WITH TAIL,SMALL LETTER O WITH LOW RING INSIDE",
  "2C7B LATIN:LETTER SMALL CAPITAL TURNED E,SUBSCRIPT SMALL LETTER J",
  "2C7D:MODIFIER LETTER CAPITAL V;2C7E:LATIN CAPITAL LETTER S WITH SWASH TAIL",
  "2C7F:LATIN CAPITAL LETTER Z WITH SWASH TAIL",
  "2C80 COPTIC:CAPITAL LETTER ALFA,SMALL LETTER ALFA,CAPITAL LETTER VIDA,SMALL LETTER VIDA",
  "2C84 COPTIC:CAPITAL LETTER GAMMA,SMALL LETTER GAMMA,CAPITAL LETTER DALDA,SMALL LETTER DALDA",
  "2C88 COPTIC:CAPITAL LETTER EIE,SMALL LETTER EIE,CAPITAL LETTER SOU,SMALL LETTER SOU",
  "2C8C COPTIC:CAPITAL LETTER ZATA,SMALL LETTER ZATA,CAPITAL LETTER HATE,SMALL LETTER HATE",
  "2C90 COPTIC:CAPITAL LETTER THETHE,SMALL LETTER THETHE,CAPITAL LETTER IAUDA",
  "2C93 COPTIC:SMALL LETTER IAUDA,CAPITAL LETTER KAPA,SMALL LETTER KAPA,CAPITAL LETTER LAULA",
  "2C97 COPTIC:SMALL LETTER LAULA,CAPITAL LETTER MI,SMALL LETTER MI,CAPITAL LETTER NI",
  "2C9B COPTIC:SMALL LETTER NI,CAPITAL LETTER KSI,SMALL LETTER KSI,CAPITAL LETTER O",
  "2C9F COPTIC:SMALL LETTER O,CAPITAL LETTER PI,SMALL LETTER PI,CAPITAL LETTER RO",
  "2CA3 COPTIC:SMALL LETTER RO,CAPITAL LETTER SIMA,SMALL LETTER SIMA,CAPITAL LETTER TAU",
  "2CA7 COPTIC:SMALL LETTER TAU,CAPITAL LETTER UA,SMALL LETTER UA,CAPITAL LETTER FI",
  "2CAB COPTIC:SMALL LETTER FI,CAPITAL LETTER KHI,SMALL LETTER KHI,CAPITAL LETTER PSI",
  "2CAF COPTIC:SMALL LETTER PSI,CAPITAL LETTER OOU,SMALL LETTER OOU",
  "2CB2 COPTIC:CAPITAL LETTER DIALECT-P ALEF,SMALL LETTER DIALECT-P ALEF",
  "2CB4 COPTIC:CAPITAL LETTER OLD COPTIC AIN,SMALL LETTER OLD COPTIC AIN",
  "2CB6 COPTIC:CAPITAL LETTER CRYPTOGRAMMIC EIE,SMALL LETTER CRYPTOGRAMMIC EIE",
  "2CB8 COPTIC:CAPITAL LETTER DIALECT-P KAPA,SMALL LETTER DIALECT-P KAPA",
  "2CBA COPTIC:CAPITAL LETTER DIALECT-P NI,SMALL LETTER DIALECT-P NI",
  "2CBC COPTIC:CAPITAL LETTER CRYPTOGRAMMIC NI,SMALL LETTER CRYPTOGRAMMIC NI",
  "2CBE COPTIC:CAPITAL LETTER OLD COPTIC OOU,SMALL LETTER OLD COPTIC OOU,CAPITAL LETTER SAMPI",
  "2CC1 COPTIC:SMALL LETTER SAMPI,CAPITAL LETTER CROSSED SHEI,SMALL LETTER CROSSED SHEI",
  "2CC4 COPTIC:CAPITAL LETTER OLD COPTIC SHEI,SMALL LETTER OLD COPTIC SHEI",
  "2CC6 COPTIC:CAPITAL LETTER OLD COPTIC ESH,SMALL LETTER OLD COPTIC ESH",
  "2CC8 COPTIC:CAPITAL LETTER AKHMIMIC KHEI,SMALL LETTER AKHMIMIC KHEI",
  "2CCA COPTIC:CAPITAL LETTER DIALECT-P HORI,SMALL LETTER DIALECT-P HORI",
  "2CCC COPTIC:CAPITAL LETTER OLD COPTIC HORI,SMALL LETTER OLD COPTIC HORI",
  "2CCE COPTIC:CAPITAL LETTER OLD COPTIC HA,SMALL LETTER OLD COPTIC HA",
  "2CD0 COPTIC:CAPITAL LETTER L-SHAPED HA,SMALL LETTER L-SHAPED HA",
  "2CD2 COPTIC:CAPITAL LETTER OLD COPTIC HEI,SMALL LETTER OLD COPTIC HEI",
  "2CD4 COPTIC:CAPITAL LETTER OLD COPTIC HAT,SMALL LETTER OLD COPTIC HAT",
  "2CD6 COPTIC:CAPITAL LETTER OLD COPTIC GANGIA,SMALL LETTER OLD COPTIC GANGIA",
  "2CD8 COPTIC:CAPITAL LETTER OLD COPTIC DJA,SMALL LETTER OLD COPTIC DJA",
  "2CDA COPTIC:CAPITAL LETTER OLD COPTIC SHIMA,SMALL LETTER OLD COPTIC SHIMA",
  "2CDC COPTIC:CAPITAL LETTER OLD NUBIAN SHIMA,SMALL LETTER OLD NUBIAN SHIMA",
  "2CDE COPTIC:CAPITAL LETTER OLD NUBIAN NGI,SMALL LETTER OLD NUBIAN NGI",
  "2CE0 COPTIC:CAPITAL LETTER OLD NUBIAN NYI,SMALL LETTER OLD NUBIAN NYI",
  "2CE2 COPTIC:CAPITAL LETTER OLD NUBIAN WAU,SMALL LETTER OLD NUBIAN WAU,SYMBOL KAI",
  "2CE5 COPTIC:SYMBOL MI RO,SYMBOL PI RO,SYMBOL STAUROS,SYMBOL TAU RO,SYMBOL KHI RO",
  "2CEA COPTIC:SYMBOL SHIMA SIMA,CAPITAL LETTER CRYPTOGRAMMIC SHEI",
  "2CEC COPTIC:SMALL LETTER CRYPTOGRAMMIC SHEI,CAPITAL LETTER CRYPTOGRAMMIC GANGIA",
  "2CEE COPTIC:SMALL LETTER CRYPTOGRAMMIC GANGIA,COMBINING NI ABOVE,COMBINING SPIRITUS ASPER",
  "2CF1 COPTIC:COMBINING SPIRITUS LENIS,CAPITAL LETTER BOHAIRIC KHEI,SMALL LETTER BOHAIRIC KHEI",
  "2CF9 COPTIC OLD NUBIAN:FULL STOP,DIRECT QUESTION MARK,INDIRECT QUESTION MARK,VERSE DIVIDER",
  "2CFD:COPTIC FRACTION ONE HALF;2CFE:COPTIC FULL STOP;2CFF:COPTIC MORPHOLOGICAL DIVIDER",
  "2D00 GEORGIAN SMALL LETTER:AN,BAN,GAN,DON,EN,VIN,ZEN,TAN,IN,KAN,LAS,MAN,NAR,ON,PAR,ZHAR,RAE",
  "2D11 GEORGIAN SMALL LETTER:SAN,TAR,UN,PHAR,KHAR,GHAN,QAR,SHIN,CHIN,CAN,JIL,CIL,CHAR,XAN,JHAN",
  "2D20 GEORGIAN SMALL LETTER:HAE,HE,HIE,WE,HAR,HOE;2D27:GEORGIAN SMALL LETTER YN",
  "2D2D:GEORGIAN SMALL LETTER AEN",
  "2D30 TIFINAGH LETTER:YA,YAB,YABH,YAG,YAGHH,BERBER ACADEMY YAJ,YAJ,YAD,YADH,YADD,YADDH,YEY",
  "2D3C TIFINAGH LETTER:YAF,YAK,TUAREG YAK,YAKHH,YAH,BERBER ACADEMY YAH,TUAREG YAH,YAHH,YAA",
  "2D45 TIFINAGH LETTER:YAKH,TUAREG YAKH,YAQ,TUAREG YAQ,YI,YAZH,AHAGGAR YAZH,TUAREG YAZH,YAL",
  "2D4E TIFINAGH LETTER:YAM,YAN,TUAREG YAGN,TUAREG YANG,YAP,YU,YAR,YARR,YAGH,TUAREG YAGH",
  "2D58 TIFINAGH LETTER:AYER YAGH,YAS,YASS,YASH,YAT,YATH,YACH,YATT,YAV,YAW,YAY,YAZ",
  "2D64 TIFINAGH LETTER:TAWELLEMET YAZ,YAZZ,YE,YO",
  "2D6F TIFINAGH:MODIFIER LETTER LABIALIZATION MARK,SEPARATOR MARK",
  "2D7F:TIFINAGH CONSONANT JOINER",
  "2D80 ETHIOPIC SYLLABLE:LOA,MOA,ROA,SOA,SHOA,BOA,TOA,COA,NOA,NYOA,GLOTTAL OA,ZOA,DOA,DDOA,JOA",
  "2D8F ETHIOPIC SYLLABLE:THOA,CHOA,PHOA,POA,GGWA,GGWI,GGWEE,GGWE",
  "2DA0 ETHIOPIC SYLLABLE:SSA,SSU,SSI,SSAA,SSEE,SSE,SSO",
  "2DA8 ETHIOPIC SYLLABLE:CCA,CCU,CCI,CCAA,CCEE,CCE,CCO",
  "2DB0 ETHIOPIC SYLLABLE:ZZA,ZZU,ZZI,ZZAA,ZZEE,ZZE,ZZO",
  "2DB8 ETHIOPIC SYLLABLE:CCHA,CCHU,CCHI,CCHAA,CCHEE,CCHE,CCHO",
  "2DC0 ETHIOPIC SYLLABLE:QYA,QYU,QYI,QYAA,QYEE,QYE,QYO",
  "2DC8 ETHIOPIC SYLLABLE:KYA,KYU,KYI,KYAA,KYEE,KYE,KYO",
  "2DD0 ETHIOPIC SYLLABLE:XYA,XYU,XYI,XYAA,XYEE,XYE,XYO",
  "2DD8 ETHIOPIC SYLLABLE:GYA,GYU,GYI,GYAA,GYEE,GYE,GYO",
  "2DE0 COMBINING CYRILLIC LETTER:BE,VE,GHE,DE,ZHE,ZE,KA,EL,EM,EN,O,PE,ER,ES,TE,HA,TSE,CHE,SHA",
  "2DF3 COMBINING CYRILLIC LETTER:SHCHA,FITA,ES-TE,A,IE,DJERV,MONOGRAPH UK,YAT,YU,IOTIFIED A",
  "2DFD COMBINING CYRILLIC LETTER:LITTLE YUS,BIG YUS,IOTIFIED BIG YUS",
  "2E00:RIGHT ANGLE SUBSTITUTION MARKER;2E01:RIGHT ANGLE DOTTED SUBSTITUTION MARKER",
  "2E02:LEFT SUBSTITUTION BRACKET;2E03:RIGHT SUBSTITUTION BRACKET",
  "2E04:LEFT DOTTED SUBSTITUTION BRACKET;2E05:RIGHT DOTTED SUBSTITUTION BRACKET",
  "2E06:RAISED INTERPOLATION MARKER;2E07:RAISED DOTTED INTERPOLATION MARKER",
  "2E08:DOTTED TRANSPOSITION MARKER;2E09:LEFT TRANSPOSITION BRACKET",
  "2E0A:RIGHT TRANSPOSITION BRACKET;2E0B:RAISED SQUARE;2E0C:LEFT RAISED OMISSION BRACKET",
  "2E0D:RIGHT RAISED OMISSION BRACKET;2E0E:EDITORIAL CORONIS;2E0F:PARAGRAPHOS",
  "2E10:FORKED PARAGRAPHOS;2E11:REVERSED FORKED PARAGRAPHOS;2E12:HYPODIASTOLE",
  "2E13:DOTTED OBELOS;2E14:DOWNWARDS ANCORA;2E15:UPWARDS ANCORA",
  "2E16:DOTTED RIGHT-POINTING ANGLE;2E17:DOUBLE OBLIQUE HYPHEN;2E18:INVERTED INTERROBANG",
  "2E19:PALM BRANCH;2E1A:HYPHEN WITH DIAERESIS;2E1B:TILDE WITH RING ABOVE",
  "2E1C:LEFT LOW PARAPHRASE BRACKET;2E1D:RIGHT LOW PARAPHRASE BRACKET;2E1E:TILDE WITH DOT ABOVE",
  "2E1F:TILDE WITH DOT BELOW;2E20:LEFT VERTICAL BAR WITH QUILL",
  "2E21:RIGHT VERTICAL BAR WITH QUILL;2E22:TOP LEFT HALF BRACKET;2E23:TOP RIGHT HALF BRACKET",
  "2E24:BOTTOM LEFT HALF BRACKET;2E25:BOTTOM RIGHT HALF BRACKET;2E26:LEFT SIDEWAYS U BRACKET",
  "2E27:RIGHT SIDEWAYS U BRACKET;2E28:LEFT DOUBLE PARENTHESIS;2E29:RIGHT DOUBLE PARENTHESIS",
  "2E2A:TWO DOTS OVER ONE DOT PUNCTUATION;2E2B:ONE DOT OVER TWO DOTS PUNCTUATION",
  "2E2C:SQUARED FOUR DOT PUNCTUATION;2E2D:FIVE DOT MARK;2E2E:REVERSED QUESTION MARK",
  "2E2F:VERTICAL TILDE;2E30:RING POINT;2E31:WORD SEPARATOR MIDDLE DOT;2E32:TURNED COMMA",
  "2E33:RAISED DOT;2E34:RAISED COMMA;2E35:TURNED SEMICOLON;2E36:DAGGER WITH LEFT GUARD",
  "2E37:DAGGER WITH RIGHT GUARD;2E38:TURNED DAGGER;2E39:TOP HALF SECTION SIGN;2E3A:TWO-EM DASH",
  "2E3B:THREE-EM DASH;2E3C:STENOGRAPHIC FULL STOP;2E3D:VERTICAL SIX DOTS",
  "2E3E:WIGGLY VERTICAL LINE;2E3F:CAPITULUM;2E40:DOUBLE HYPHEN;2E41:REVERSED COMMA",
  "2E42:DOUBLE LOW-REVERSED-9 QUOTATION MARK;2E43:DASH WITH LEFT UPTURN",
  "2E44:DOUBLE SUSPENSION MARK;2E45:INVERTED LOW KAVYKA",
  "2E46:INVERTED LOW KAVYKA WITH KAVYKA ABOVE;2E47:LOW KAVYKA;2E48:LOW KAVYKA WITH DOT",
  "2E49:DOUBLE STACKED COMMA;2E4A:DOTTED SOLIDUS;2E4B:TRIPLE DAGGER;2E4C:MEDIEVAL COMMA",
  "2E4D:PARAGRAPHUS MARK;2E4E:PUNCTUS ELEVATUS MARK;2E4F:CORNISH VERSE DIVIDER",
  "2E50 CROSS PATTY WITH:RIGHT CROSSBAR,LEFT CROSSBAR;2E52:TIRONIAN SIGN CAPITAL ET",
  "2E53:MEDIEVAL EXCLAMATION MARK;2E54:MEDIEVAL QUESTION MARK",
  "2E55:LEFT SQUARE BRACKET WITH STROKE;2E56:RIGHT SQUARE BRACKET WITH STROKE",
  "2E57:LEFT SQUARE BRACKET WITH DOUBLE STROKE;2E58:RIGHT SQUARE BRACKET WITH DOUBLE STROKE",
  "2E59 TOP HALF:LEFT PARENTHESIS,RIGHT PARENTHESIS",
  "2E5B BOTTOM HALF:LEFT PARENTHESIS,RIGHT PARENTHESIS;2E5D:OBLIQUE HYPHEN"]

end SetupScript.Character
