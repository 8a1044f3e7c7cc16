import ApiDocs.Text.Lines

/-!
Names of characters: those of Unicode 14 for the ranges of Latin, Greek, punctuation, arrows,
operators and shapes that texts use most.
-/

namespace ApiDocs.Text

/-- Runs of characters by their first code points, each with the names of its characters; that of a
character without a name is empty. -/
def nameRuns : List (Nat × String) := [
  (0x20, "SPACE;EXCLAMATION MARK;QUOTATION MARK;NUMBER SIGN;DOLLAR SIGN;PERCENT SIGN"),
  (0x26, "AMPERSAND;APOSTROPHE;LEFT PARENTHESIS;RIGHT PARENTHESIS;ASTERISK;PLUS SIGN;COMMA"),
  (0x2D, "HYPHEN-MINUS;FULL STOP;SOLIDUS;DIGIT ZERO;DIGIT ONE;DIGIT TWO;DIGIT THREE"),
  (0x34, "DIGIT FOUR;DIGIT FIVE;DIGIT SIX;DIGIT SEVEN;DIGIT EIGHT;DIGIT NINE;COLON;SEMICOLON"),
  (0x3C, "LESS-THAN SIGN;EQUALS SIGN;GREATER-THAN SIGN;QUESTION MARK;COMMERCIAL AT"),
  (0x41, "LATIN CAPITAL LETTER A;LATIN CAPITAL LETTER B;LATIN CAPITAL LETTER C"),
  (0x44, "LATIN CAPITAL LETTER D;LATIN CAPITAL LETTER E;LATIN CAPITAL LETTER F"),
  (0x47, "LATIN CAPITAL LETTER G;LATIN CAPITAL LETTER H;LATIN CAPITAL LETTER I"),
  (0x4A, "LATIN CAPITAL LETTER J;LATIN CAPITAL LETTER K;LATIN CAPITAL LETTER L"),
  (0x4D, "LATIN CAPITAL LETTER M;LATIN CAPITAL LETTER N;LATIN CAPITAL LETTER O"),
  (0x50, "LATIN CAPITAL LETTER P;LATIN CAPITAL LETTER Q;LATIN CAPITAL LETTER R"),
  (0x53, "LATIN CAPITAL LETTER S;LATIN CAPITAL LETTER T;LATIN CAPITAL LETTER U"),
  (0x56, "LATIN CAPITAL LETTER V;LATIN CAPITAL LETTER W;LATIN CAPITAL LETTER X"),
  (0x59, "LATIN CAPITAL LETTER Y;LATIN CAPITAL LETTER Z;LEFT SQUARE BRACKET;REVERSE SOLIDUS"),
  (0x5D, "RIGHT SQUARE BRACKET;CIRCUMFLEX ACCENT;LOW LINE;GRAVE ACCENT;LATIN SMALL LETTER A"),
  (0x62, "LATIN SMALL LETTER B;LATIN SMALL LETTER C;LATIN SMALL LETTER D"),
  (0x65, "LATIN SMALL LETTER E;LATIN SMALL LETTER F;LATIN SMALL LETTER G"),
  (0x68, "LATIN SMALL LETTER H;LATIN SMALL LETTER I;LATIN SMALL LETTER J"),
  (0x6B, "LATIN SMALL LETTER K;LATIN SMALL LETTER L;LATIN SMALL LETTER M"),
  (0x6E, "LATIN SMALL LETTER N;LATIN SMALL LETTER O;LATIN SMALL LETTER P"),
  (0x71, "LATIN SMALL LETTER Q;LATIN SMALL LETTER R;LATIN SMALL LETTER S"),
  (0x74, "LATIN SMALL LETTER T;LATIN SMALL LETTER U;LATIN SMALL LETTER V"),
  (0x77, "LATIN SMALL LETTER W;LATIN SMALL LETTER X;LATIN SMALL LETTER Y"),
  (0x7A, "LATIN SMALL LETTER Z;LEFT CURLY BRACKET;VERTICAL LINE;RIGHT CURLY BRACKET;TILDE"),
  (0xA0, "NO-BREAK SPACE;INVERTED EXCLAMATION MARK;CENT SIGN;POUND SIGN;CURRENCY SIGN"),
  (0xA5, "YEN SIGN;BROKEN BAR;SECTION SIGN;DIAERESIS;COPYRIGHT SIGN"),
  (0xAA, "FEMININE ORDINAL INDICATOR;LEFT-POINTING DOUBLE ANGLE QUOTATION MARK;NOT SIGN"),
  (0xAD, "SOFT HYPHEN;REGISTERED SIGN;MACRON;DEGREE SIGN;PLUS-MINUS SIGN;SUPERSCRIPT TWO"),
  (0xB3, "SUPERSCRIPT THREE;ACUTE ACCENT;MICRO SIGN;PILCROW SIGN;MIDDLE DOT;CEDILLA"),
  (0xB9, "SUPERSCRIPT ONE;MASCULINE ORDINAL INDICATOR"),
  (0xBB, "RIGHT-POINTING DOUBLE ANGLE QUOTATION MARK;VULGAR FRACTION ONE QUARTER"),
  (0xBD, "VULGAR FRACTION ONE HALF;VULGAR FRACTION THREE QUARTERS;INVERTED QUESTION MARK"),
  (0xC0, "LATIN CAPITAL LETTER A WITH GRAVE;LATIN CAPITAL LETTER A WITH ACUTE"),
  (0xC2, "LATIN CAPITAL LETTER A WITH CIRCUMFLEX;LATIN CAPITAL LETTER A WITH TILDE"),
  (0xC4, "LATIN CAPITAL LETTER A WITH DIAERESIS;LATIN CAPITAL LETTER A WITH RING ABOVE"),
  (0xC6, "LATIN CAPITAL LETTER AE;LATIN CAPITAL LETTER C WITH CEDILLA"),
  (0xC8, "LATIN CAPITAL LETTER E WITH GRAVE;LATIN CAPITAL LETTER E WITH ACUTE"),
  (0xCA, "LATIN CAPITAL LETTER E WITH CIRCUMFLEX;LATIN CAPITAL LETTER E WITH DIAERESIS"),
  (0xCC, "LATIN CAPITAL LETTER I WITH GRAVE;LATIN CAPITAL LETTER I WITH ACUTE"),
  (0xCE, "LATIN CAPITAL LETTER I WITH CIRCUMFLEX;LATIN CAPITAL LETTER I WITH DIAERESIS"),
  (0xD0, "LATIN CAPITAL LETTER ETH;LATIN CAPITAL LETTER N WITH TILDE"),
  (0xD2, "LATIN CAPITAL LETTER O WITH GRAVE;LATIN CAPITAL LETTER O WITH ACUTE"),
  (0xD4, "LATIN CAPITAL LETTER O WITH CIRCUMFLEX;LATIN CAPITAL LETTER O WITH TILDE"),
  (0xD6, "LATIN CAPITAL LETTER O WITH DIAERESIS;MULTIPLICATION SIGN"),
  (0xD8, "LATIN CAPITAL LETTER O WITH STROKE;LATIN CAPITAL LETTER U WITH GRAVE"),
  (0xDA, "LATIN CAPITAL LETTER U WITH ACUTE;LATIN CAPITAL LETTER U WITH CIRCUMFLEX"),
  (0xDC, "LATIN CAPITAL LETTER U WITH DIAERESIS;LATIN CAPITAL LETTER Y WITH ACUTE"),
  (0xDE, "LATIN CAPITAL LETTER THORN;LATIN SMALL LETTER SHARP S"),
  (0xE0, "LATIN SMALL LETTER A WITH GRAVE;LATIN SMALL LETTER A WITH ACUTE"),
  (0xE2, "LATIN SMALL LETTER A WITH CIRCUMFLEX;LATIN SMALL LETTER A WITH TILDE"),
  (0xE4, "LATIN SMALL LETTER A WITH DIAERESIS;LATIN SMALL LETTER A WITH RING ABOVE"),
  (0xE6, "LATIN SMALL LETTER AE;LATIN SMALL LETTER C WITH CEDILLA"),
  (0xE8, "LATIN SMALL LETTER E WITH GRAVE;LATIN SMALL LETTER E WITH ACUTE"),
  (0xEA, "LATIN SMALL LETTER E WITH CIRCUMFLEX;LATIN SMALL LETTER E WITH DIAERESIS"),
  (0xEC, "LATIN SMALL LETTER I WITH GRAVE;LATIN SMALL LETTER I WITH ACUTE"),
  (0xEE, "LATIN SMALL LETTER I WITH CIRCUMFLEX;LATIN SMALL LETTER I WITH DIAERESIS"),
  (0xF0, "LATIN SMALL LETTER ETH;LATIN SMALL LETTER N WITH TILDE"),
  (0xF2, "LATIN SMALL LETTER O WITH GRAVE;LATIN SMALL LETTER O WITH ACUTE"),
  (0xF4, "LATIN SMALL LETTER O WITH CIRCUMFLEX;LATIN SMALL LETTER O WITH TILDE"),
  (0xF6, "LATIN SMALL LETTER O WITH DIAERESIS;DIVISION SIGN;LATIN SMALL LETTER O WITH STROKE"),
  (0xF9, "LATIN SMALL LETTER U WITH GRAVE;LATIN SMALL LETTER U WITH ACUTE"),
  (0xFB, "LATIN SMALL LETTER U WITH CIRCUMFLEX;LATIN SMALL LETTER U WITH DIAERESIS"),
  (0xFD, "LATIN SMALL LETTER Y WITH ACUTE;LATIN SMALL LETTER THORN"),
  (0xFF, "LATIN SMALL LETTER Y WITH DIAERESIS;LATIN CAPITAL LETTER A WITH MACRON"),
  (0x101, "LATIN SMALL LETTER A WITH MACRON;LATIN CAPITAL LETTER A WITH BREVE"),
  (0x103, "LATIN SMALL LETTER A WITH BREVE;LATIN CAPITAL LETTER A WITH OGONEK"),
  (0x105, "LATIN SMALL LETTER A WITH OGONEK;LATIN CAPITAL LETTER C WITH ACUTE"),
  (0x107, "LATIN SMALL LETTER C WITH ACUTE;LATIN CAPITAL LETTER C WITH CIRCUMFLEX"),
  (0x109, "LATIN SMALL LETTER C WITH CIRCUMFLEX;LATIN CAPITAL LETTER C WITH DOT ABOVE"),
  (0x10B, "LATIN SMALL LETTER C WITH DOT ABOVE;LATIN CAPITAL LETTER C WITH CARON"),
  (0x10D, "LATIN SMALL LETTER C WITH CARON;LATIN CAPITAL LETTER D WITH CARON"),
  (0x10F, "LATIN SMALL LETTER D WITH CARON;LATIN CAPITAL LETTER D WITH STROKE"),
  (0x111, "LATIN SMALL LETTER D WITH STROKE;LATIN CAPITAL LETTER E WITH MACRON"),
  (0x113, "LATIN SMALL LETTER E WITH MACRON;LATIN CAPITAL LETTER E WITH BREVE"),
  (0x115, "LATIN SMALL LETTER E WITH BREVE;LATIN CAPITAL LETTER E WITH DOT ABOVE"),
  (0x117, "LATIN SMALL LETTER E WITH DOT ABOVE;LATIN CAPITAL LETTER E WITH OGONEK"),
  (0x119, "LATIN SMALL LETTER E WITH OGONEK;LATIN CAPITAL LETTER E WITH CARON"),
  (0x11B, "LATIN SMALL LETTER E WITH CARON;LATIN CAPITAL LETTER G WITH CIRCUMFLEX"),
  (0x11D, "LATIN SMALL LETTER G WITH CIRCUMFLEX;LATIN CAPITAL LETTER G WITH BREVE"),
  (0x11F, "LATIN SMALL LETTER G WITH BREVE;LATIN CAPITAL LETTER G WITH DOT ABOVE"),
  (0x121, "LATIN SMALL LETTER G WITH DOT ABOVE;LATIN CAPITAL LETTER G WITH CEDILLA"),
  (0x123, "LATIN SMALL LETTER G WITH CEDILLA;LATIN CAPITAL LETTER H WITH CIRCUMFLEX"),
  (0x125, "LATIN SMALL LETTER H WITH CIRCUMFLEX;LATIN CAPITAL LETTER H WITH STROKE"),
  (0x127, "LATIN SMALL LETTER H WITH STROKE;LATIN CAPITAL LETTER I WITH TILDE"),
  (0x129, "LATIN SMALL LETTER I WITH TILDE;LATIN CAPITAL LETTER I WITH MACRON"),
  (0x12B, "LATIN SMALL LETTER I WITH MACRON;LATIN CAPITAL LETTER I WITH BREVE"),
  (0x12D, "LATIN SMALL LETTER I WITH BREVE;LATIN CAPITAL LETTER I WITH OGONEK"),
  (0x12F, "LATIN SMALL LETTER I WITH OGONEK;LATIN CAPITAL LETTER I WITH DOT ABOVE"),
  (0x131, "LATIN SMALL LETTER DOTLESS I;LATIN CAPITAL LIGATURE IJ;LATIN SMALL LIGATURE IJ"),
  (0x134, "LATIN CAPITAL LETTER J WITH CIRCUMFLEX;LATIN SMALL LETTER J WITH CIRCUMFLEX"),
  (0x136, "LATIN CAPITAL LETTER K WITH CEDILLA;LATIN SMALL LETTER K WITH CEDILLA"),
  (0x138, "LATIN SMALL LETTER KRA;LATIN CAPITAL LETTER L WITH ACUTE"),
  (0x13A, "LATIN SMALL LETTER L WITH ACUTE;LATIN CAPITAL LETTER L WITH CEDILLA"),
  (0x13C, "LATIN SMALL LETTER L WITH CEDILLA;LATIN CAPITAL LETTER L WITH CARON"),
  (0x13E, "LATIN SMALL LETTER L WITH CARON;LATIN CAPITAL LETTER L WITH MIDDLE DOT"),
  (0x140, "LATIN SMALL LETTER L WITH MIDDLE DOT;LATIN CAPITAL LETTER L WITH STROKE"),
  (0x142, "LATIN SMALL LETTER L WITH STROKE;LATIN CAPITAL LETTER N WITH ACUTE"),
  (0x144, "LATIN SMALL LETTER N WITH ACUTE;LATIN CAPITAL LETTER N WITH CEDILLA"),
  (0x146, "LATIN SMALL LETTER N WITH CEDILLA;LATIN CAPITAL LETTER N WITH CARON"),
  (0x148, "LATIN SMALL LETTER N WITH CARON;LATIN SMALL LETTER N PRECEDED BY APOSTROPHE"),
  (0x14A, "LATIN CAPITAL LETTER ENG;LATIN SMALL LETTER ENG;LATIN CAPITAL LETTER O WITH MACRON"),
  (0x14D, "LATIN SMALL LETTER O WITH MACRON;LATIN CAPITAL LETTER O WITH BREVE"),
  (0x14F, "LATIN SMALL LETTER O WITH BREVE;LATIN CAPITAL LETTER O WITH DOUBLE ACUTE"),
  (0x151, "LATIN SMALL LETTER O WITH DOUBLE ACUTE;LATIN CAPITAL LIGATURE OE"),
  (0x153, "LATIN SMALL LIGATURE OE;LATIN CAPITAL LETTER R WITH ACUTE"),
  (0x155, "LATIN SMALL LETTER R WITH ACUTE;LATIN CAPITAL LETTER R WITH CEDILLA"),
  (0x157, "LATIN SMALL LETTER R WITH CEDILLA;LATIN CAPITAL LETTER R WITH CARON"),
  (0x159, "LATIN SMALL LETTER R WITH CARON;LATIN CAPITAL LETTER S WITH ACUTE"),
  (0x15B, "LATIN SMALL LETTER S WITH ACUTE;LATIN CAPITAL LETTER S WITH CIRCUMFLEX"),
  (0x15D, "LATIN SMALL LETTER S WITH CIRCUMFLEX;LATIN CAPITAL LETTER S WITH CEDILLA"),
  (0x15F, "LATIN SMALL LETTER S WITH CEDILLA;LATIN CAPITAL LETTER S WITH CARON"),
  (0x161, "LATIN SMALL LETTER S WITH CARON;LATIN CAPITAL LETTER T WITH CEDILLA"),
  (0x163, "LATIN SMALL LETTER T WITH CEDILLA;LATIN CAPITAL LETTER T WITH CARON"),
  (0x165, "LATIN SMALL LETTER T WITH CARON;LATIN CAPITAL LETTER T WITH STROKE"),
  (0x167, "LATIN SMALL LETTER T WITH STROKE;LATIN CAPITAL LETTER U WITH TILDE"),
  (0x169, "LATIN SMALL LETTER U WITH TILDE;LATIN CAPITAL LETTER U WITH MACRON"),
  (0x16B, "LATIN SMALL LETTER U WITH MACRON;LATIN CAPITAL LETTER U WITH BREVE"),
  (0x16D, "LATIN SMALL LETTER U WITH BREVE;LATIN CAPITAL LETTER U WITH RING ABOVE"),
  (0x16F, "LATIN SMALL LETTER U WITH RING ABOVE;LATIN CAPITAL LETTER U WITH DOUBLE ACUTE"),
  (0x171, "LATIN SMALL LETTER U WITH DOUBLE ACUTE;LATIN CAPITAL LETTER U WITH OGONEK"),
  (0x173, "LATIN SMALL LETTER U WITH OGONEK;LATIN CAPITAL LETTER W WITH CIRCUMFLEX"),
  (0x175, "LATIN SMALL LETTER W WITH CIRCUMFLEX;LATIN CAPITAL LETTER Y WITH CIRCUMFLEX"),
  (0x177, "LATIN SMALL LETTER Y WITH CIRCUMFLEX;LATIN CAPITAL LETTER Y WITH DIAERESIS"),
  (0x179, "LATIN CAPITAL LETTER Z WITH ACUTE;LATIN SMALL LETTER Z WITH ACUTE"),
  (0x17B, "LATIN CAPITAL LETTER Z WITH DOT ABOVE;LATIN SMALL LETTER Z WITH DOT ABOVE"),
  (0x17D, "LATIN CAPITAL LETTER Z WITH CARON;LATIN SMALL LETTER Z WITH CARON"),
  (0x17F, "LATIN SMALL LETTER LONG S"),
  (0x391, "GREEK CAPITAL LETTER ALPHA;GREEK CAPITAL LETTER BETA;GREEK CAPITAL LETTER GAMMA"),
  (0x394, "GREEK CAPITAL LETTER DELTA;GREEK CAPITAL LETTER EPSILON;GREEK CAPITAL LETTER ZETA"),
  (0x397, "GREEK CAPITAL LETTER ETA;GREEK CAPITAL LETTER THETA;GREEK CAPITAL LETTER IOTA"),
  (0x39A, "GREEK CAPITAL LETTER KAPPA;GREEK CAPITAL LETTER LAMDA;GREEK CAPITAL LETTER MU"),
  (0x39D, "GREEK CAPITAL LETTER NU;GREEK CAPITAL LETTER XI;GREEK CAPITAL LETTER OMICRON"),
  (0x3A0, "GREEK CAPITAL LETTER PI;GREEK CAPITAL LETTER RHO;;GREEK CAPITAL LETTER SIGMA"),
  (0x3A4, "GREEK CAPITAL LETTER TAU;GREEK CAPITAL LETTER UPSILON;GREEK CAPITAL LETTER PHI"),
  (0x3A7, "GREEK CAPITAL LETTER CHI;GREEK CAPITAL LETTER PSI;GREEK CAPITAL LETTER OMEGA"),
  (0x3AA, "GREEK CAPITAL LETTER IOTA WITH DIALYTIKA"),
  (0x3AB, "GREEK CAPITAL LETTER UPSILON WITH DIALYTIKA;GREEK SMALL LETTER ALPHA WITH TONOS"),
  (0x3AD, "GREEK SMALL LETTER EPSILON WITH TONOS;GREEK SMALL LETTER ETA WITH TONOS"),
  (0x3AF, "GREEK SMALL LETTER IOTA WITH TONOS"),
  (0x3B0, "GREEK SMALL LETTER UPSILON WITH DIALYTIKA AND TONOS;GREEK SMALL LETTER ALPHA"),
  (0x3B2, "GREEK SMALL LETTER BETA;GREEK SMALL LETTER GAMMA;GREEK SMALL LETTER DELTA"),
  (0x3B5, "GREEK SMALL LETTER EPSILON;GREEK SMALL LETTER ZETA;GREEK SMALL LETTER ETA"),
  (0x3B8, "GREEK SMALL LETTER THETA;GREEK SMALL LETTER IOTA;GREEK SMALL LETTER KAPPA"),
  (0x3BB, "GREEK SMALL LETTER LAMDA;GREEK SMALL LETTER MU;GREEK SMALL LETTER NU"),
  (0x3BE, "GREEK SMALL LETTER XI;GREEK SMALL LETTER OMICRON;GREEK SMALL LETTER PI"),
  (0x3C1, "GREEK SMALL LETTER RHO;GREEK SMALL LETTER FINAL SIGMA;GREEK SMALL LETTER SIGMA"),
  (0x3C4, "GREEK SMALL LETTER TAU;GREEK SMALL LETTER UPSILON;GREEK SMALL LETTER PHI"),
  (0x3C7, "GREEK SMALL LETTER CHI;GREEK SMALL LETTER PSI;GREEK SMALL LETTER OMEGA"),
  (0x2010, "HYPHEN;NON-BREAKING HYPHEN;FIGURE DASH;EN DASH;EM DASH;HORIZONTAL BAR"),
  (0x2016, "DOUBLE VERTICAL LINE;DOUBLE LOW LINE;LEFT SINGLE QUOTATION MARK"),
  (0x2019, "RIGHT SINGLE QUOTATION MARK;SINGLE LOW-9 QUOTATION MARK"),
  (0x201B, "SINGLE HIGH-REVERSED-9 QUOTATION MARK;LEFT DOUBLE QUOTATION MARK"),
  (0x201D, "RIGHT DOUBLE QUOTATION MARK;DOUBLE LOW-9 QUOTATION MARK"),
  (0x201F, "DOUBLE HIGH-REVERSED-9 QUOTATION MARK;DAGGER;DOUBLE DAGGER;BULLET"),
  (0x2023, "TRIANGULAR BULLET;ONE DOT LEADER;TWO DOT LEADER;HORIZONTAL ELLIPSIS"),
  (0x2027, "HYPHENATION POINT"),
  (0x2030, "PER MILLE SIGN;PER TEN THOUSAND SIGN;PRIME;DOUBLE PRIME;TRIPLE PRIME"),
  (0x2035, "REVERSED PRIME;REVERSED DOUBLE PRIME;REVERSED TRIPLE PRIME;CARET"),
  (0x2039, "SINGLE LEFT-POINTING ANGLE QUOTATION MARK"),
  (0x203A, "SINGLE RIGHT-POINTING ANGLE QUOTATION MARK;REFERENCE MARK;DOUBLE EXCLAMATION MARK"),
  (0x203D, "INTERROBANG;OVERLINE;UNDERTIE;CHARACTER TIE;CARET INSERTION POINT;ASTERISM"),
  (0x2043, "HYPHEN BULLET;FRACTION SLASH;LEFT SQUARE BRACKET WITH QUILL"),
  (0x2046, "RIGHT SQUARE BRACKET WITH QUILL;DOUBLE QUESTION MARK;QUESTION EXCLAMATION MARK"),
  (0x2049, "EXCLAMATION QUESTION MARK;TIRONIAN SIGN ET;REVERSED PILCROW SIGN"),
  (0x204C, "BLACK LEFTWARDS BULLET;BLACK RIGHTWARDS BULLET;LOW ASTERISK;REVERSED SEMICOLON"),
  (0x2050, "CLOSE UP;TWO ASTERISKS ALIGNED VERTICALLY;COMMERCIAL MINUS SIGN;SWUNG DASH"),
  (0x2054, "INVERTED UNDERTIE;FLOWER PUNCTUATION MARK;THREE DOT PUNCTUATION;QUADRUPLE PRIME"),
  (0x2058, "FOUR DOT PUNCTUATION;FIVE DOT PUNCTUATION;TWO DOT PUNCTUATION;FOUR DOT MARK"),
  (0x205C, "DOTTED CROSS;TRICOLON;VERTICAL FOUR DOTS"),
  (0x20A0, "EURO-CURRENCY SIGN;COLON SIGN;CRUZEIRO SIGN;FRENCH FRANC SIGN;LIRA SIGN;MILL SIGN"),
  (0x20A6, "NAIRA SIGN;PESETA SIGN;RUPEE SIGN;WON SIGN;NEW SHEQEL SIGN;DONG SIGN;EURO SIGN"),
  (0x20AD, "KIP SIGN;TUGRIK SIGN;DRACHMA SIGN;GERMAN PENNY SIGN;PESO SIGN;GUARANI SIGN"),
  (0x20B3, "AUSTRAL SIGN;HRYVNIA SIGN;CEDI SIGN;LIVRE TOURNOIS SIGN;SPESMILO SIGN;TENGE SIGN"),
  (0x20B9, "INDIAN RUPEE SIGN;TURKISH LIRA SIGN;NORDIC MARK SIGN;MANAT SIGN;RUBLE SIGN"),
  (0x20BE, "LARI SIGN;BITCOIN SIGN"),
  (0x2100, "ACCOUNT OF;ADDRESSED TO THE SUBJECT;DOUBLE-STRUCK CAPITAL C;DEGREE CELSIUS"),
  (0x2104, "CENTRE LINE SYMBOL;CARE OF;CADA UNA;EULER CONSTANT;SCRUPLE;DEGREE FAHRENHEIT"),
  (0x210A, "SCRIPT SMALL G;SCRIPT CAPITAL H;BLACK-LETTER CAPITAL H;DOUBLE-STRUCK CAPITAL H"),
  (0x210E, "PLANCK CONSTANT;PLANCK CONSTANT OVER TWO PI;SCRIPT CAPITAL I"),
  (0x2111, "BLACK-LETTER CAPITAL I;SCRIPT CAPITAL L;SCRIPT SMALL L;L B BAR SYMBOL"),
  (0x2115, "DOUBLE-STRUCK CAPITAL N;NUMERO SIGN;SOUND RECORDING COPYRIGHT;SCRIPT CAPITAL P"),
  (0x2119, "DOUBLE-STRUCK CAPITAL P;DOUBLE-STRUCK CAPITAL Q;SCRIPT CAPITAL R"),
  (0x211C, "BLACK-LETTER CAPITAL R;DOUBLE-STRUCK CAPITAL R;PRESCRIPTION TAKE;RESPONSE"),
  (0x2120, "SERVICE MARK;TELEPHONE SIGN;TRADE MARK SIGN;VERSICLE;DOUBLE-STRUCK CAPITAL Z"),
  (0x2125, "OUNCE SIGN;OHM SIGN;INVERTED OHM SIGN;BLACK-LETTER CAPITAL Z"),
  (0x2129, "TURNED GREEK SMALL LETTER IOTA;KELVIN SIGN;ANGSTROM SIGN;SCRIPT CAPITAL B"),
  (0x212D, "BLACK-LETTER CAPITAL C;ESTIMATED SYMBOL;SCRIPT SMALL E;SCRIPT CAPITAL E"),
  (0x2131, "SCRIPT CAPITAL F;TURNED CAPITAL F;SCRIPT CAPITAL M;SCRIPT SMALL O;ALEF SYMBOL"),
  (0x2136, "BET SYMBOL;GIMEL SYMBOL;DALET SYMBOL;INFORMATION SOURCE;ROTATED CAPITAL Q"),
  (0x213B, "FACSIMILE SIGN;DOUBLE-STRUCK SMALL PI;DOUBLE-STRUCK SMALL GAMMA"),
  (0x213E, "DOUBLE-STRUCK CAPITAL GAMMA;DOUBLE-STRUCK CAPITAL PI;DOUBLE-STRUCK N-ARY SUMMATION"),
  (0x2141, "TURNED SANS-SERIF CAPITAL G;TURNED SANS-SERIF CAPITAL L"),
  (0x2143, "REVERSED SANS-SERIF CAPITAL L;TURNED SANS-SERIF CAPITAL Y"),
  (0x2145, "DOUBLE-STRUCK ITALIC CAPITAL D;DOUBLE-STRUCK ITALIC SMALL D"),
  (0x2147, "DOUBLE-STRUCK ITALIC SMALL E;DOUBLE-STRUCK ITALIC SMALL I"),
  (0x2149, "DOUBLE-STRUCK ITALIC SMALL J;PROPERTY LINE;TURNED AMPERSAND;PER SIGN;AKTIESELSKAB"),
  (0x214E, "TURNED SMALL F;SYMBOL FOR SAMARITAN SOURCE"),
  (0x2190, "LEFTWARDS ARROW;UPWARDS ARROW;RIGHTWARDS ARROW;DOWNWARDS ARROW;LEFT RIGHT ARROW"),
  (0x2195, "UP DOWN ARROW;NORTH WEST ARROW;NORTH EAST ARROW;SOUTH EAST ARROW;SOUTH WEST ARROW"),
  (0x219A, "LEFTWARDS ARROW WITH STROKE;RIGHTWARDS ARROW WITH STROKE;LEFTWARDS WAVE ARROW"),
  (0x219D, "RIGHTWARDS WAVE ARROW;LEFTWARDS TWO HEADED ARROW;UPWARDS TWO HEADED ARROW"),
  (0x21A0, "RIGHTWARDS TWO HEADED ARROW;DOWNWARDS TWO HEADED ARROW;LEFTWARDS ARROW WITH TAIL"),
  (0x21A3, "RIGHTWARDS ARROW WITH TAIL;LEFTWARDS ARROW FROM BAR;UPWARDS ARROW FROM BAR"),
  (0x21A6, "RIGHTWARDS ARROW FROM BAR;DOWNWARDS ARROW FROM BAR;UP DOWN ARROW WITH BASE"),
  (0x21A9, "LEFTWARDS ARROW WITH HOOK;RIGHTWARDS ARROW WITH HOOK;LEFTWARDS ARROW WITH LOOP"),
  (0x21AC, "RIGHTWARDS ARROW WITH LOOP;LEFT RIGHT WAVE ARROW;LEFT RIGHT ARROW WITH STROKE"),
  (0x21AF, "DOWNWARDS ZIGZAG ARROW;UPWARDS ARROW WITH TIP LEFTWARDS"),
  (0x21B1, "UPWARDS ARROW WITH TIP RIGHTWARDS;DOWNWARDS ARROW WITH TIP LEFTWARDS"),
  (0x21B3, "DOWNWARDS ARROW WITH TIP RIGHTWARDS;RIGHTWARDS ARROW WITH CORNER DOWNWARDS"),
  (0x21B5, "DOWNWARDS ARROW WITH CORNER LEFTWARDS;ANTICLOCKWISE TOP SEMICIRCLE ARROW"),
  (0x21B7, "CLOCKWISE TOP SEMICIRCLE ARROW;NORTH WEST ARROW TO LONG BAR"),
  (0x21B9, "LEFTWARDS ARROW TO BAR OVER RIGHTWARDS ARROW TO BAR"),
  (0x21BA, "ANTICLOCKWISE OPEN CIRCLE ARROW;CLOCKWISE OPEN CIRCLE ARROW"),
  (0x21BC, "LEFTWARDS HARPOON WITH BARB UPWARDS;LEFTWARDS HARPOON WITH BARB DOWNWARDS"),
  (0x21BE, "UPWARDS HARPOON WITH BARB RIGHTWARDS;UPWARDS HARPOON WITH BARB LEFTWARDS"),
  (0x21C0, "RIGHTWARDS HARPOON WITH BARB UPWARDS;RIGHTWARDS HARPOON WITH BARB DOWNWARDS"),
  (0x21C2, "DOWNWARDS HARPOON WITH BARB RIGHTWARDS;DOWNWARDS HARPOON WITH BARB LEFTWARDS"),
  (0x21C4, "RIGHTWARDS ARROW OVER LEFTWARDS ARROW;UPWARDS ARROW LEFTWARDS OF DOWNWARDS ARROW"),
  (0x21C6, "LEFTWARDS ARROW OVER RIGHTWARDS ARROW;LEFTWARDS PAIRED ARROWS"),
  (0x21C8, "UPWARDS PAIRED ARROWS;RIGHTWARDS PAIRED ARROWS;DOWNWARDS PAIRED ARROWS"),
  (0x21CB, "LEFTWARDS HARPOON OVER RIGHTWARDS HARPOON"),
  (0x21CC, "RIGHTWARDS HARPOON OVER LEFTWARDS HARPOON;LEFTWARDS DOUBLE ARROW WITH STROKE"),
  (0x21CE, "LEFT RIGHT DOUBLE ARROW WITH STROKE;RIGHTWARDS DOUBLE ARROW WITH STROKE"),
  (0x21D0, "LEFTWARDS DOUBLE ARROW;UPWARDS DOUBLE ARROW;RIGHTWARDS DOUBLE ARROW"),
  (0x21D3, "DOWNWARDS DOUBLE ARROW;LEFT RIGHT DOUBLE ARROW;UP DOWN DOUBLE ARROW"),
  (0x21D6, "NORTH WEST DOUBLE ARROW;NORTH EAST DOUBLE ARROW;SOUTH EAST DOUBLE ARROW"),
  (0x21D9, "SOUTH WEST DOUBLE ARROW;LEFTWARDS TRIPLE ARROW;RIGHTWARDS TRIPLE ARROW"),
  (0x21DC, "LEFTWARDS SQUIGGLE ARROW;RIGHTWARDS SQUIGGLE ARROW"),
  (0x21DE, "UPWARDS ARROW WITH DOUBLE STROKE;DOWNWARDS ARROW WITH DOUBLE STROKE"),
  (0x21E0, "LEFTWARDS DASHED ARROW;UPWARDS DASHED ARROW;RIGHTWARDS DASHED ARROW"),
  (0x21E3, "DOWNWARDS DASHED ARROW;LEFTWARDS ARROW TO BAR;RIGHTWARDS ARROW TO BAR"),
  (0x21E6, "LEFTWARDS WHITE ARROW;UPWARDS WHITE ARROW;RIGHTWARDS WHITE ARROW"),
  (0x21E9, "DOWNWARDS WHITE ARROW;UPWARDS WHITE ARROW FROM BAR;UPWARDS WHITE ARROW ON PEDESTAL"),
  (0x21EC, "UPWARDS WHITE ARROW ON PEDESTAL WITH HORIZONTAL BAR"),
  (0x21ED, "UPWARDS WHITE ARROW ON PEDESTAL WITH VERTICAL BAR;UPWARDS WHITE DOUBLE ARROW"),
  (0x21EF, "UPWARDS WHITE DOUBLE ARROW ON PEDESTAL;RIGHTWARDS WHITE ARROW FROM WALL"),
  (0x21F1, "NORTH WEST ARROW TO CORNER;SOUTH EAST ARROW TO CORNER;UP DOWN WHITE ARROW"),
  (0x21F4, "RIGHT ARROW WITH SMALL CIRCLE;DOWNWARDS ARROW LEFTWARDS OF UPWARDS ARROW"),
  (0x21F6, "THREE RIGHTWARDS ARROWS;LEFTWARDS ARROW WITH VERTICAL STROKE"),
  (0x21F8, "RIGHTWARDS ARROW WITH VERTICAL STROKE;LEFT RIGHT ARROW WITH VERTICAL STROKE"),
  (0x21FA, "LEFTWARDS ARROW WITH DOUBLE VERTICAL STROKE"),
  (0x21FB, "RIGHTWARDS ARROW WITH DOUBLE VERTICAL STROKE"),
  (0x21FC, "LEFT RIGHT ARROW WITH DOUBLE VERTICAL STROKE;LEFTWARDS OPEN-HEADED ARROW"),
  (0x21FE, "RIGHTWARDS OPEN-HEADED ARROW;LEFT RIGHT OPEN-HEADED ARROW"),
  (0x2200, "FOR ALL;COMPLEMENT;PARTIAL DIFFERENTIAL;THERE EXISTS;THERE DOES NOT EXIST"),
  (0x2205, "EMPTY SET;INCREMENT;NABLA;ELEMENT OF;NOT AN ELEMENT OF;SMALL ELEMENT OF"),
  (0x220B, "CONTAINS AS MEMBER;DOES NOT CONTAIN AS MEMBER;SMALL CONTAINS AS MEMBER"),
  (0x220E, "END OF PROOF;N-ARY PRODUCT;N-ARY COPRODUCT;N-ARY SUMMATION;MINUS SIGN"),
  (0x2213, "MINUS-OR-PLUS SIGN;DOT PLUS;DIVISION SLASH;SET MINUS;ASTERISK OPERATOR"),
  (0x2218, "RING OPERATOR;BULLET OPERATOR;SQUARE ROOT;CUBE ROOT;FOURTH ROOT;PROPORTIONAL TO"),
  (0x221E, "INFINITY;RIGHT ANGLE;ANGLE;MEASURED ANGLE;SPHERICAL ANGLE;DIVIDES;DOES NOT DIVIDE"),
  (0x2225, "PARALLEL TO;NOT PARALLEL TO;LOGICAL AND;LOGICAL OR;INTERSECTION;UNION;INTEGRAL"),
  (0x222C, "DOUBLE INTEGRAL;TRIPLE INTEGRAL;CONTOUR INTEGRAL;SURFACE INTEGRAL;VOLUME INTEGRAL"),
  (0x2231, "CLOCKWISE INTEGRAL;CLOCKWISE CONTOUR INTEGRAL;ANTICLOCKWISE CONTOUR INTEGRAL"),
  (0x2234, "THEREFORE;BECAUSE;RATIO;PROPORTION;DOT MINUS;EXCESS;GEOMETRIC PROPORTION"),
  (0x223B, "HOMOTHETIC;TILDE OPERATOR;REVERSED TILDE;INVERTED LAZY S;SINE WAVE;WREATH PRODUCT"),
  (0x2241, "NOT TILDE;MINUS TILDE;ASYMPTOTICALLY EQUAL TO;NOT ASYMPTOTICALLY EQUAL TO"),
  (0x2245, "APPROXIMATELY EQUAL TO;APPROXIMATELY BUT NOT ACTUALLY EQUAL TO"),
  (0x2247, "NEITHER APPROXIMATELY NOR ACTUALLY EQUAL TO;ALMOST EQUAL TO;NOT ALMOST EQUAL TO"),
  (0x224A, "ALMOST EQUAL OR EQUAL TO;TRIPLE TILDE;ALL EQUAL TO;EQUIVALENT TO"),
  (0x224E, "GEOMETRICALLY EQUIVALENT TO;DIFFERENCE BETWEEN;APPROACHES THE LIMIT"),
  (0x2251, "GEOMETRICALLY EQUAL TO;APPROXIMATELY EQUAL TO OR THE IMAGE OF"),
  (0x2253, "IMAGE OF OR APPROXIMATELY EQUAL TO;COLON EQUALS;EQUALS COLON;RING IN EQUAL TO"),
  (0x2257, "RING EQUAL TO;CORRESPONDS TO;ESTIMATES;EQUIANGULAR TO;STAR EQUALS;DELTA EQUAL TO"),
  (0x225D, "EQUAL TO BY DEFINITION;MEASURED BY;QUESTIONED EQUAL TO;NOT EQUAL TO;IDENTICAL TO"),
  (0x2262, "NOT IDENTICAL TO;STRICTLY EQUIVALENT TO;LESS-THAN OR EQUAL TO"),
  (0x2265, "GREATER-THAN OR EQUAL TO;LESS-THAN OVER EQUAL TO;GREATER-THAN OVER EQUAL TO"),
  (0x2268, "LESS-THAN BUT NOT EQUAL TO;GREATER-THAN BUT NOT EQUAL TO;MUCH LESS-THAN"),
  (0x226B, "MUCH GREATER-THAN;BETWEEN;NOT EQUIVALENT TO;NOT LESS-THAN;NOT GREATER-THAN"),
  (0x2270, "NEITHER LESS-THAN NOR EQUAL TO;NEITHER GREATER-THAN NOR EQUAL TO"),
  (0x2272, "LESS-THAN OR EQUIVALENT TO;GREATER-THAN OR EQUIVALENT TO"),
  (0x2274, "NEITHER LESS-THAN NOR EQUIVALENT TO;NEITHER GREATER-THAN NOR EQUIVALENT TO"),
  (0x2276, "LESS-THAN OR GREATER-THAN;GREATER-THAN OR LESS-THAN"),
  (0x2278, "NEITHER LESS-THAN NOR GREATER-THAN;NEITHER GREATER-THAN NOR LESS-THAN;PRECEDES"),
  (0x227B, "SUCCEEDS;PRECEDES OR EQUAL TO;SUCCEEDS OR EQUAL TO;PRECEDES OR EQUIVALENT TO"),
  (0x227F, "SUCCEEDS OR EQUIVALENT TO;DOES NOT PRECEDE;DOES NOT SUCCEED;SUBSET OF;SUPERSET OF"),
  (0x2284, "NOT A SUBSET OF;NOT A SUPERSET OF;SUBSET OF OR EQUAL TO;SUPERSET OF OR EQUAL TO"),
  (0x2288, "NEITHER A SUBSET OF NOR EQUAL TO;NEITHER A SUPERSET OF NOR EQUAL TO"),
  (0x228A, "SUBSET OF WITH NOT EQUAL TO;SUPERSET OF WITH NOT EQUAL TO;MULTISET"),
  (0x228D, "MULTISET MULTIPLICATION;MULTISET UNION;SQUARE IMAGE OF;SQUARE ORIGINAL OF"),
  (0x2291, "SQUARE IMAGE OF OR EQUAL TO;SQUARE ORIGINAL OF OR EQUAL TO;SQUARE CAP;SQUARE CUP"),
  (0x2295, "CIRCLED PLUS;CIRCLED MINUS;CIRCLED TIMES;CIRCLED DIVISION SLASH"),
  (0x2299, "CIRCLED DOT OPERATOR;CIRCLED RING OPERATOR;CIRCLED ASTERISK OPERATOR"),
  (0x229C, "CIRCLED EQUALS;CIRCLED DASH;SQUARED PLUS;SQUARED MINUS;SQUARED TIMES"),
  (0x22A1, "SQUARED DOT OPERATOR;RIGHT TACK;LEFT TACK;DOWN TACK;UP TACK;ASSERTION;MODELS;TRUE"),
  (0x22A9, "FORCES;TRIPLE VERTICAL BAR RIGHT TURNSTILE"),
  (0x22AB, "DOUBLE VERTICAL BAR DOUBLE RIGHT TURNSTILE;DOES NOT PROVE;NOT TRUE;DOES NOT FORCE"),
  (0x22AF, "NEGATED DOUBLE VERTICAL BAR DOUBLE RIGHT TURNSTILE;PRECEDES UNDER RELATION"),
  (0x22B1, "SUCCEEDS UNDER RELATION;NORMAL SUBGROUP OF;CONTAINS AS NORMAL SUBGROUP"),
  (0x22B4, "NORMAL SUBGROUP OF OR EQUAL TO;CONTAINS AS NORMAL SUBGROUP OR EQUAL TO;ORIGINAL OF"),
  (0x22B7, "IMAGE OF;MULTIMAP;HERMITIAN CONJUGATE MATRIX;INTERCALATE;XOR;NAND;NOR"),
  (0x22BE, "RIGHT ANGLE WITH ARC;RIGHT TRIANGLE;N-ARY LOGICAL AND;N-ARY LOGICAL OR"),
  (0x22C2, "N-ARY INTERSECTION;N-ARY UNION;DIAMOND OPERATOR;DOT OPERATOR;STAR OPERATOR"),
  (0x22C7, "DIVISION TIMES;BOWTIE;LEFT NORMAL FACTOR SEMIDIRECT PRODUCT"),
  (0x22CA, "RIGHT NORMAL FACTOR SEMIDIRECT PRODUCT;LEFT SEMIDIRECT PRODUCT"),
  (0x22CC, "RIGHT SEMIDIRECT PRODUCT;REVERSED TILDE EQUALS;CURLY LOGICAL OR;CURLY LOGICAL AND"),
  (0x22D0, "DOUBLE SUBSET;DOUBLE SUPERSET;DOUBLE INTERSECTION;DOUBLE UNION;PITCHFORK"),
  (0x22D5, "EQUAL AND PARALLEL TO;LESS-THAN WITH DOT;GREATER-THAN WITH DOT;VERY MUCH LESS-THAN"),
  (0x22D9, "VERY MUCH GREATER-THAN;LESS-THAN EQUAL TO OR GREATER-THAN"),
  (0x22DB, "GREATER-THAN EQUAL TO OR LESS-THAN;EQUAL TO OR LESS-THAN;EQUAL TO OR GREATER-THAN"),
  (0x22DE, "EQUAL TO OR PRECEDES;EQUAL TO OR SUCCEEDS;DOES NOT PRECEDE OR EQUAL"),
  (0x22E1, "DOES NOT SUCCEED OR EQUAL;NOT SQUARE IMAGE OF OR EQUAL TO"),
  (0x22E3, "NOT SQUARE ORIGINAL OF OR EQUAL TO;SQUARE IMAGE OF OR NOT EQUAL TO"),
  (0x22E5, "SQUARE ORIGINAL OF OR NOT EQUAL TO;LESS-THAN BUT NOT EQUIVALENT TO"),
  (0x22E7, "GREATER-THAN BUT NOT EQUIVALENT TO;PRECEDES BUT NOT EQUIVALENT TO"),
  (0x22E9, "SUCCEEDS BUT NOT EQUIVALENT TO;NOT NORMAL SUBGROUP OF"),
  (0x22EB, "DOES NOT CONTAIN AS NORMAL SUBGROUP;NOT NORMAL SUBGROUP OF OR EQUAL TO"),
  (0x22ED, "DOES NOT CONTAIN AS NORMAL SUBGROUP OR EQUAL;VERTICAL ELLIPSIS"),
  (0x22EF, "MIDLINE HORIZONTAL ELLIPSIS;UP RIGHT DIAGONAL ELLIPSIS"),
  (0x22F1, "DOWN RIGHT DIAGONAL ELLIPSIS;ELEMENT OF WITH LONG HORIZONTAL STROKE"),
  (0x22F3, "ELEMENT OF WITH VERTICAL BAR AT END OF HORIZONTAL STROKE"),
  (0x22F4, "SMALL ELEMENT OF WITH VERTICAL BAR AT END OF HORIZONTAL STROKE"),
  (0x22F5, "ELEMENT OF WITH DOT ABOVE;ELEMENT OF WITH OVERBAR;SMALL ELEMENT OF WITH OVERBAR"),
  (0x22F8, "ELEMENT OF WITH UNDERBAR;ELEMENT OF WITH TWO HORIZONTAL STROKES"),
  (0x22FA, "CONTAINS WITH LONG HORIZONTAL STROKE"),
  (0x22FB, "CONTAINS WITH VERTICAL BAR AT END OF HORIZONTAL STROKE"),
  (0x22FC, "SMALL CONTAINS WITH VERTICAL BAR AT END OF HORIZONTAL STROKE;CONTAINS WITH OVERBAR"),
  (0x22FE, "SMALL CONTAINS WITH OVERBAR;Z NOTATION BAG MEMBERSHIP"),
  (0x25A0, "BLACK SQUARE;WHITE SQUARE;WHITE SQUARE WITH ROUNDED CORNERS"),
  (0x25A3, "WHITE SQUARE CONTAINING BLACK SMALL SQUARE;SQUARE WITH HORIZONTAL FILL"),
  (0x25A5, "SQUARE WITH VERTICAL FILL;SQUARE WITH ORTHOGONAL CROSSHATCH FILL"),
  (0x25A7, "SQUARE WITH UPPER LEFT TO LOWER RIGHT FILL"),
  (0x25A8, "SQUARE WITH UPPER RIGHT TO LOWER LEFT FILL;SQUARE WITH DIAGONAL CROSSHATCH FILL"),
  (0x25AA, "BLACK SMALL SQUARE;WHITE SMALL SQUARE;BLACK RECTANGLE;WHITE RECTANGLE"),
  (0x25AE, "BLACK VERTICAL RECTANGLE;WHITE VERTICAL RECTANGLE;BLACK PARALLELOGRAM"),
  (0x25B1, "WHITE PARALLELOGRAM;BLACK UP-POINTING TRIANGLE;WHITE UP-POINTING TRIANGLE"),
  (0x25B4, "BLACK UP-POINTING SMALL TRIANGLE;WHITE UP-POINTING SMALL TRIANGLE"),
  (0x25B6, "BLACK RIGHT-POINTING TRIANGLE;WHITE RIGHT-POINTING TRIANGLE"),
  (0x25B8, "BLACK RIGHT-POINTING SMALL TRIANGLE;WHITE RIGHT-POINTING SMALL TRIANGLE"),
  (0x25BA, "BLACK RIGHT-POINTING POINTER;WHITE RIGHT-POINTING POINTER"),
  (0x25BC, "BLACK DOWN-POINTING TRIANGLE;WHITE DOWN-POINTING TRIANGLE"),
  (0x25BE, "BLACK DOWN-POINTING SMALL TRIANGLE;WHITE DOWN-POINTING SMALL TRIANGLE"),
  (0x25C0, "BLACK LEFT-POINTING TRIANGLE;WHITE LEFT-POINTING TRIANGLE"),
  (0x25C2, "BLACK LEFT-POINTING SMALL TRIANGLE;WHITE LEFT-POINTING SMALL TRIANGLE"),
  (0x25C4, "BLACK LEFT-POINTING POINTER;WHITE LEFT-POINTING POINTER;BLACK DIAMOND"),
  (0x25C7, "WHITE DIAMOND;WHITE DIAMOND CONTAINING BLACK SMALL DIAMOND;FISHEYE;LOZENGE"),
  (0x25CB, "WHITE CIRCLE;DOTTED CIRCLE;CIRCLE WITH VERTICAL FILL;BULLSEYE;BLACK CIRCLE"),
  (0x25D0, "CIRCLE WITH LEFT HALF BLACK;CIRCLE WITH RIGHT HALF BLACK"),
  (0x25D2, "CIRCLE WITH LOWER HALF BLACK;CIRCLE WITH UPPER HALF BLACK"),
  (0x25D4, "CIRCLE WITH UPPER RIGHT QUADRANT BLACK"),
  (0x25D5, "CIRCLE WITH ALL BUT UPPER LEFT QUADRANT BLACK;LEFT HALF BLACK CIRCLE"),
  (0x25D7, "RIGHT HALF BLACK CIRCLE;INVERSE BULLET;INVERSE WHITE CIRCLE"),
  (0x25DA, "UPPER HALF INVERSE WHITE CIRCLE;LOWER HALF INVERSE WHITE CIRCLE"),
  (0x25DC, "UPPER LEFT QUADRANT CIRCULAR ARC;UPPER RIGHT QUADRANT CIRCULAR ARC"),
  (0x25DE, "LOWER RIGHT QUADRANT CIRCULAR ARC;LOWER LEFT QUADRANT CIRCULAR ARC"),
  (0x25E0, "UPPER HALF CIRCLE;LOWER HALF CIRCLE;BLACK LOWER RIGHT TRIANGLE"),
  (0x25E3, "BLACK LOWER LEFT TRIANGLE;BLACK UPPER LEFT TRIANGLE;BLACK UPPER RIGHT TRIANGLE"),
  (0x25E6, "WHITE BULLET;SQUARE WITH LEFT HALF BLACK;SQUARE WITH RIGHT HALF BLACK"),
  (0x25E9, "SQUARE WITH UPPER LEFT DIAGONAL HALF BLACK"),
  (0x25EA, "SQUARE WITH LOWER RIGHT DIAGONAL HALF BLACK"),
  (0x25EB, "WHITE SQUARE WITH VERTICAL BISECTING LINE;WHITE UP-POINTING TRIANGLE WITH DOT"),
  (0x25ED, "UP-POINTING TRIANGLE WITH LEFT HALF BLACK"),
  (0x25EE, "UP-POINTING TRIANGLE WITH RIGHT HALF BLACK;LARGE CIRCLE"),
  (0x25F0, "WHITE SQUARE WITH UPPER LEFT QUADRANT;WHITE SQUARE WITH LOWER LEFT QUADRANT"),
  (0x25F2, "WHITE SQUARE WITH LOWER RIGHT QUADRANT;WHITE SQUARE WITH UPPER RIGHT QUADRANT"),
  (0x25F4, "WHITE CIRCLE WITH UPPER LEFT QUADRANT;WHITE CIRCLE WITH LOWER LEFT QUADRANT"),
  (0x25F6, "WHITE CIRCLE WITH LOWER RIGHT QUADRANT;WHITE CIRCLE WITH UPPER RIGHT QUADRANT"),
  (0x25F8, "UPPER LEFT TRIANGLE;UPPER RIGHT TRIANGLE;LOWER LEFT TRIANGLE;WHITE MEDIUM SQUARE"),
  (0x25FC, "BLACK MEDIUM SQUARE;WHITE MEDIUM SMALL SQUARE;BLACK MEDIUM SMALL SQUARE"),
  (0x25FF, "LOWER RIGHT TRIANGLE"),
  (0x2600, "BLACK SUN WITH RAYS;CLOUD;UMBRELLA;SNOWMAN;COMET;BLACK STAR;WHITE STAR;LIGHTNING"),
  (0x2608, "THUNDERSTORM;SUN;ASCENDING NODE;DESCENDING NODE;CONJUNCTION;OPPOSITION"),
  (0x260E, "BLACK TELEPHONE;WHITE TELEPHONE;BALLOT BOX;BALLOT BOX WITH CHECK;BALLOT BOX WITH X"),
  (0x2613, "SALTIRE;UMBRELLA WITH RAIN DROPS;HOT BEVERAGE;WHITE SHOGI PIECE;BLACK SHOGI PIECE"),
  (0x2618, "SHAMROCK;REVERSED ROTATED FLORAL HEART BULLET;BLACK LEFT POINTING INDEX"),
  (0x261B, "BLACK RIGHT POINTING INDEX;WHITE LEFT POINTING INDEX;WHITE UP POINTING INDEX"),
  (0x261E, "WHITE RIGHT POINTING INDEX;WHITE DOWN POINTING INDEX;SKULL AND CROSSBONES"),
  (0x2621, "CAUTION SIGN;RADIOACTIVE SIGN;BIOHAZARD SIGN;CADUCEUS;ANKH;ORTHODOX CROSS;CHI RHO"),
  (0x2628, "CROSS OF LORRAINE;CROSS OF JERUSALEM;STAR AND CRESCENT;FARSI SYMBOL;ADI SHAKTI"),
  (0x262D, "HAMMER AND SICKLE;PEACE SYMBOL;YIN YANG;TRIGRAM FOR HEAVEN;TRIGRAM FOR LAKE"),
  (0x2632, "TRIGRAM FOR FIRE;TRIGRAM FOR THUNDER;TRIGRAM FOR WIND;TRIGRAM FOR WATER"),
  (0x2636, "TRIGRAM FOR MOUNTAIN;TRIGRAM FOR EARTH;WHEEL OF DHARMA;WHITE FROWNING FACE"),
  (0x263A, "WHITE SMILING FACE;BLACK SMILING FACE;WHITE SUN WITH RAYS;FIRST QUARTER MOON"),
  (0x263E, "LAST QUARTER MOON;MERCURY;FEMALE SIGN;EARTH;MALE SIGN;JUPITER;SATURN;URANUS"),
  (0x2646, "NEPTUNE;PLUTO;ARIES;TAURUS;GEMINI;CANCER;LEO;VIRGO;LIBRA;SCORPIUS;SAGITTARIUS"),
  (0x2651, "CAPRICORN;AQUARIUS;PISCES"),
  (0x2660, "BLACK SPADE SUIT;WHITE HEART SUIT;WHITE DIAMOND SUIT;BLACK CLUB SUIT"),
  (0x2664, "WHITE SPADE SUIT;BLACK HEART SUIT;BLACK DIAMOND SUIT;WHITE CLUB SUIT;HOT SPRINGS"),
  (0x2669, "QUARTER NOTE;EIGHTH NOTE;BEAMED EIGHTH NOTES;BEAMED SIXTEENTH NOTES"),
  (0x266D, "MUSIC FLAT SIGN;MUSIC NATURAL SIGN;MUSIC SHARP SIGN"),
  (0x2700, "BLACK SAFETY SCISSORS;UPPER BLADE SCISSORS;BLACK SCISSORS;LOWER BLADE SCISSORS"),
  (0x2704, "WHITE SCISSORS;WHITE HEAVY CHECK MARK;TELEPHONE LOCATION SIGN;TAPE DRIVE;AIRPLANE"),
  (0x2709, "ENVELOPE;RAISED FIST;RAISED HAND;VICTORY HAND;WRITING HAND;LOWER RIGHT PENCIL"),
  (0x270F, "PENCIL;UPPER RIGHT PENCIL;WHITE NIB;BLACK NIB;CHECK MARK;HEAVY CHECK MARK"),
  (0x2715, "MULTIPLICATION X;HEAVY MULTIPLICATION X;BALLOT X;HEAVY BALLOT X"),
  (0x2719, "OUTLINED GREEK CROSS;HEAVY GREEK CROSS;OPEN CENTRE CROSS;HEAVY OPEN CENTRE CROSS"),
  (0x271D, "LATIN CROSS;SHADOWED WHITE LATIN CROSS;OUTLINED LATIN CROSS;MALTESE CROSS"),
  (0x2721, "STAR OF DAVID;FOUR TEARDROP-SPOKED ASTERISK;FOUR BALLOON-SPOKED ASTERISK"),
  (0x2724, "HEAVY FOUR BALLOON-SPOKED ASTERISK;FOUR CLUB-SPOKED ASTERISK"),
  (0x2726, "BLACK FOUR POINTED STAR;WHITE FOUR POINTED STAR"),
  (0x1F600, "GRINNING FACE;GRINNING FACE WITH SMILING EYES;FACE WITH TEARS OF JOY"),
  (0x1F603, "SMILING FACE WITH OPEN MOUTH;SMILING FACE WITH OPEN MOUTH AND SMILING EYES"),
  (0x1F605, "SMILING FACE WITH OPEN MOUTH AND COLD SWEAT"),
  (0x1F606, "SMILING FACE WITH OPEN MOUTH AND TIGHTLY-CLOSED EYES;SMILING FACE WITH HALO"),
  (0x1F608, "SMILING FACE WITH HORNS;WINKING FACE;SMILING FACE WITH SMILING EYES"),
  (0x1F60B, "FACE SAVOURING DELICIOUS FOOD;RELIEVED FACE;SMILING FACE WITH HEART-SHAPED EYES"),
  (0x1F60E, "SMILING FACE WITH SUNGLASSES;SMIRKING FACE;NEUTRAL FACE;EXPRESSIONLESS FACE"),
  (0x1F612, "UNAMUSED FACE;FACE WITH COLD SWEAT;PENSIVE FACE;CONFUSED FACE;CONFOUNDED FACE"),
  (0x1F617, "KISSING FACE;FACE THROWING A KISS;KISSING FACE WITH SMILING EYES"),
  (0x1F61A, "KISSING FACE WITH CLOSED EYES;FACE WITH STUCK-OUT TONGUE"),
  (0x1F61C, "FACE WITH STUCK-OUT TONGUE AND WINKING EYE"),
  (0x1F61D, "FACE WITH STUCK-OUT TONGUE AND TIGHTLY-CLOSED EYES;DISAPPOINTED FACE;WORRIED FACE"),
  (0x1F620, "ANGRY FACE;POUTING FACE;CRYING FACE;PERSEVERING FACE;FACE WITH LOOK OF TRIUMPH"),
  (0x1F625, "DISAPPOINTED BUT RELIEVED FACE;FROWNING FACE WITH OPEN MOUTH;ANGUISHED FACE"),
  (0x1F628, "FEARFUL FACE;WEARY FACE;SLEEPY FACE;TIRED FACE;GRIMACING FACE;LOUDLY CRYING FACE"),
  (0x1F62E, "FACE WITH OPEN MOUTH;HUSHED FACE;FACE WITH OPEN MOUTH AND COLD SWEAT"),
  (0x1F631, "FACE SCREAMING IN FEAR;ASTONISHED FACE;FLUSHED FACE;SLEEPING FACE;DIZZY FACE"),
  (0x1F636, "FACE WITHOUT MOUTH;FACE WITH MEDICAL MASK;GRINNING CAT FACE WITH SMILING EYES"),
  (0x1F639, "CAT FACE WITH TEARS OF JOY;SMILING CAT FACE WITH OPEN MOUTH"),
  (0x1F63B, "SMILING CAT FACE WITH HEART-SHAPED EYES;CAT FACE WITH WRY SMILE"),
  (0x1F63D, "KISSING CAT FACE WITH CLOSED EYES;POUTING CAT FACE;CRYING CAT FACE;WEARY CAT FACE"),
  (0x1F641, "SLIGHTLY FROWNING FACE;SLIGHTLY SMILING FACE;UPSIDE-DOWN FACE"),
  (0x1F644, "FACE WITH ROLLING EYES;FACE WITH NO GOOD GESTURE;FACE WITH OK GESTURE"),
  (0x1F647, "PERSON BOWING DEEPLY;SEE-NO-EVIL MONKEY;HEAR-NO-EVIL MONKEY;SPEAK-NO-EVIL MONKEY"),
  (0x1F64B, "HAPPY PERSON RAISING ONE HAND;PERSON RAISING BOTH HANDS IN CELEBRATION"),
  (0x1F64D, "PERSON FROWNING;PERSON WITH POUTING FACE;PERSON WITH FOLDED HANDS")]

/-- The character of a name, whatever the case of its letters. -/
def codePointOfName? (name : List Char) : Option Nat :=
  let word := name.map Char.toUpper
  if word.isEmpty then none
  else
    nameRuns.findSome? fun (first, names) =>
      ((splitOn ';' names.toList).findIdx? (· == word)).map (first + ·)

end ApiDocs.Text
