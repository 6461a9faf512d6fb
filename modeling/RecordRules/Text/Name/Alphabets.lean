/-!
# Character names: alphabets

Names of the characters of the scripts of Europe and the Near East, `U+0000` to `U+08FF`.  Each
line gives a code point, the beginning of a name, and how the names of the code points from there
on end.
-/

set_option autoImplicit false

namespace RecordRules
namespace Text

/-- The names of the characters of the scripts of Europe and the Near East. -/
def alphabetNames : String :=
  "0020 |SPACE
0021 |EXCLAMATION MARK|QUOTATION MARK|NUMBER SIGN|DOLLAR SIGN|PERCENT SIGN|AMPERSAND|APOSTROPHE
0028 |LEFT PARENTHESIS|RIGHT PARENTHESIS|ASTERISK|PLUS SIGN|COMMA|HYPHEN-MINUS|FULL STOP|SOLIDUS
0030 DIGIT |ZERO|ONE|TWO|THREE|FOUR|FIVE|SIX|SEVEN|EIGHT|NINE
003A |COLON|SEMICOLON|LESS-THAN SIGN|EQUALS SIGN|GREATER-THAN SIGN|QUESTION MARK|COMMERCIAL AT
0041 LATIN CAPITAL LETTER |A|B|C|D|E|F|G|H|I|J|K|L|M|N|O|P|Q|R|S|T|U|V|W|X|Y|Z
005B LEFT SQUARE |BRACKET
005C |REVERSE SOLIDUS|RIGHT SQUARE BRACKET|CIRCUMFLEX ACCENT|LOW LINE|GRAVE ACCENT
0061 LATIN SMALL LETTER |A|B|C|D|E|F|G|H|I|J|K|L|M|N|O|P|Q|R|S|T|U|V|W|X|Y|Z
007B |LEFT CURLY BRACKET|VERTICAL LINE|RIGHT CURLY BRACKET|TILDE
00A0 |NO-BREAK SPACE|INVERTED EXCLAMATION MARK
00A2 |CENT SIGN|POUND SIGN|CURRENCY SIGN|YEN SIGN|BROKEN BAR|SECTION SIGN|DIAERESIS
00A9 |COPYRIGHT SIGN|FEMININE ORDINAL INDICATOR|LEFT-POINTING DOUBLE ANGLE QUOTATION MARK
00AC |NOT SIGN|SOFT HYPHEN|REGISTERED SIGN|MACRON|DEGREE SIGN|PLUS-MINUS SIGN
00B2 SUPERSCRIPT |TWO|THREE
00B4 |ACUTE ACCENT|MICRO SIGN|PILCROW SIGN|MIDDLE DOT|CEDILLA
00B9 |SUPERSCRIPT ONE|MASCULINE ORDINAL INDICATOR|RIGHT-POINTING DOUBLE ANGLE QUOTATION MARK
00BC VULGAR FRACTION |ONE QUARTER|ONE HALF|THREE QUARTERS
00BF INVERTED QUESTION |MARK
00C0 LATIN CAPITAL LETTER A WITH |GRAVE|ACUTE|CIRCUMFLEX|TILDE|DIAERESIS|RING ABOVE
00C6 LATIN CAPITAL LETTER |AE|C WITH CEDILLA
00C8 LATIN CAPITAL LETTER E WITH |GRAVE|ACUTE|CIRCUMFLEX|DIAERESIS
00CC LATIN CAPITAL LETTER I WITH |GRAVE|ACUTE|CIRCUMFLEX|DIAERESIS
00D0 LATIN CAPITAL LETTER |ETH|N WITH TILDE
00D2 LATIN CAPITAL LETTER O WITH |GRAVE|ACUTE|CIRCUMFLEX|TILDE|DIAERESIS
00D7 MULTIPLICATION |SIGN
00D8 LATIN CAPITAL LETTER |O WITH STROKE|U WITH GRAVE
00DA LATIN CAPITAL LETTER |U WITH ACUTE|U WITH CIRCUMFLEX|U WITH DIAERESIS|Y WITH ACUTE|THORN
00DF LATIN SMALL LETTER SHARP |S
00E0 LATIN SMALL LETTER A WITH |GRAVE|ACUTE|CIRCUMFLEX|TILDE|DIAERESIS|RING ABOVE
00E6 LATIN SMALL LETTER |AE|C WITH CEDILLA
00E8 LATIN SMALL LETTER E WITH |GRAVE|ACUTE|CIRCUMFLEX|DIAERESIS
00EC LATIN SMALL LETTER I WITH |GRAVE|ACUTE|CIRCUMFLEX|DIAERESIS
00F0 LATIN SMALL LETTER |ETH|N WITH TILDE
00F2 LATIN SMALL LETTER O WITH |GRAVE|ACUTE|CIRCUMFLEX|TILDE|DIAERESIS
00F7 |DIVISION SIGN|LATIN SMALL LETTER O WITH STROKE
00F9 LATIN SMALL LETTER U WITH |GRAVE|ACUTE|CIRCUMFLEX|DIAERESIS
00FD LATIN SMALL LETTER |Y WITH ACUTE|THORN|Y WITH DIAERESIS
0100 LATIN CAPITAL LETTER A WITH |MACRON
0101 LATIN |SMALL LETTER A WITH MACRON|CAPITAL LETTER A WITH BREVE|SMALL LETTER A WITH BREVE
0104 LATIN |CAPITAL LETTER A WITH OGONEK|SMALL LETTER A WITH OGONEK|CAPITAL LETTER C WITH ACUTE
0107 LATIN |SMALL LETTER C WITH ACUTE|CAPITAL LETTER C WITH CIRCUMFLEX
0109 LATIN |SMALL LETTER C WITH CIRCUMFLEX|CAPITAL LETTER C WITH DOT ABOVE
010B LATIN |SMALL LETTER C WITH DOT ABOVE|CAPITAL LETTER C WITH CARON
010D LATIN |SMALL LETTER C WITH CARON|CAPITAL LETTER D WITH CARON|SMALL LETTER D WITH CARON
0110 LATIN |CAPITAL LETTER D WITH STROKE|SMALL LETTER D WITH STROKE|CAPITAL LETTER E WITH MACRON
0113 LATIN |SMALL LETTER E WITH MACRON|CAPITAL LETTER E WITH BREVE|SMALL LETTER E WITH BREVE
0116 LATIN |CAPITAL LETTER E WITH DOT ABOVE|SMALL LETTER E WITH DOT ABOVE
0118 LATIN |CAPITAL LETTER E WITH OGONEK|SMALL LETTER E WITH OGONEK|CAPITAL LETTER E WITH CARON
011B LATIN |SMALL LETTER E WITH CARON|CAPITAL LETTER G WITH CIRCUMFLEX
011D LATIN |SMALL LETTER G WITH CIRCUMFLEX|CAPITAL LETTER G WITH BREVE|SMALL LETTER G WITH BREVE
0120 LATIN |CAPITAL LETTER G WITH DOT ABOVE|SMALL LETTER G WITH DOT ABOVE
0122 LATIN |CAPITAL LETTER G WITH CEDILLA|SMALL LETTER G WITH CEDILLA
0124 LATIN |CAPITAL LETTER H WITH CIRCUMFLEX|SMALL LETTER H WITH CIRCUMFLEX
0126 LATIN |CAPITAL LETTER H WITH STROKE|SMALL LETTER H WITH STROKE|CAPITAL LETTER I WITH TILDE
0129 LATIN |SMALL LETTER I WITH TILDE|CAPITAL LETTER I WITH MACRON|SMALL LETTER I WITH MACRON
012C LATIN |CAPITAL LETTER I WITH BREVE|SMALL LETTER I WITH BREVE|CAPITAL LETTER I WITH OGONEK
012F LATIN |SMALL LETTER I WITH OGONEK|CAPITAL LETTER I WITH DOT ABOVE|SMALL LETTER DOTLESS I
0132 LATIN |CAPITAL LIGATURE IJ|SMALL LIGATURE IJ|CAPITAL LETTER J WITH CIRCUMFLEX
0135 LATIN |SMALL LETTER J WITH CIRCUMFLEX|CAPITAL LETTER K WITH CEDILLA
0137 LATIN SMALL LETTER |K WITH CEDILLA|KRA
0139 LATIN |CAPITAL LETTER L WITH ACUTE|SMALL LETTER L WITH ACUTE|CAPITAL LETTER L WITH CEDILLA
013C LATIN |SMALL LETTER L WITH CEDILLA|CAPITAL LETTER L WITH CARON|SMALL LETTER L WITH CARON
013F LATIN |CAPITAL LETTER L WITH MIDDLE DOT|SMALL LETTER L WITH MIDDLE DOT
0141 LATIN |CAPITAL LETTER L WITH STROKE|SMALL LETTER L WITH STROKE
0143 LATIN |CAPITAL LETTER N WITH ACUTE|SMALL LETTER N WITH ACUTE|CAPITAL LETTER N WITH CEDILLA
0146 LATIN |SMALL LETTER N WITH CEDILLA|CAPITAL LETTER N WITH CARON
0148 LATIN SMALL LETTER N |WITH CARON|PRECEDED BY APOSTROPHE
014A LATIN |CAPITAL LETTER ENG|SMALL LETTER ENG
014C LATIN |CAPITAL LETTER O WITH MACRON|SMALL LETTER O WITH MACRON|CAPITAL LETTER O WITH BREVE
014F LATIN |SMALL LETTER O WITH BREVE|CAPITAL LETTER O WITH DOUBLE ACUTE
0151 LATIN |SMALL LETTER O WITH DOUBLE ACUTE|CAPITAL LIGATURE OE|SMALL LIGATURE OE
0154 LATIN |CAPITAL LETTER R WITH ACUTE|SMALL LETTER R WITH ACUTE|CAPITAL LETTER R WITH CEDILLA
0157 LATIN |SMALL LETTER R WITH CEDILLA|CAPITAL LETTER R WITH CARON
0159 LATIN |SMALL LETTER R WITH CARON|CAPITAL LETTER S WITH ACUTE|SMALL LETTER S WITH ACUTE
015C LATIN |CAPITAL LETTER S WITH CIRCUMFLEX|SMALL LETTER S WITH CIRCUMFLEX
015E LATIN |CAPITAL LETTER S WITH CEDILLA|SMALL LETTER S WITH CEDILLA
0160 LATIN |CAPITAL LETTER S WITH CARON|SMALL LETTER S WITH CARON|CAPITAL LETTER T WITH CEDILLA
0163 LATIN |SMALL LETTER T WITH CEDILLA|CAPITAL LETTER T WITH CARON
0165 LATIN |SMALL LETTER T WITH CARON|CAPITAL LETTER T WITH STROKE|SMALL LETTER T WITH STROKE
0168 LATIN |CAPITAL LETTER U WITH TILDE|SMALL LETTER U WITH TILDE|CAPITAL LETTER U WITH MACRON
016B LATIN |SMALL LETTER U WITH MACRON|CAPITAL LETTER U WITH BREVE|SMALL LETTER U WITH BREVE
016E LATIN |CAPITAL LETTER U WITH RING ABOVE|SMALL LETTER U WITH RING ABOVE
0170 LATIN |CAPITAL LETTER U WITH DOUBLE ACUTE|SMALL LETTER U WITH DOUBLE ACUTE
0172 LATIN |CAPITAL LETTER U WITH OGONEK|SMALL LETTER U WITH OGONEK
0174 LATIN |CAPITAL LETTER W WITH CIRCUMFLEX|SMALL LETTER W WITH CIRCUMFLEX
0176 LATIN |CAPITAL LETTER Y WITH CIRCUMFLEX|SMALL LETTER Y WITH CIRCUMFLEX
0178 LATIN CAPITAL LETTER |Y WITH DIAERESIS|Z WITH ACUTE
017A LATIN |SMALL LETTER Z WITH ACUTE|CAPITAL LETTER Z WITH DOT ABOVE
017C LATIN |SMALL LETTER Z WITH DOT ABOVE|CAPITAL LETTER Z WITH CARON
017E LATIN SMALL LETTER |Z WITH CARON|LONG S|B WITH STROKE
0181 LATIN CAPITAL LETTER B WITH |HOOK|TOPBAR
0183 LATIN |SMALL LETTER B WITH TOPBAR|CAPITAL LETTER TONE SIX|SMALL LETTER TONE SIX
0186 LATIN CAPITAL LETTER |OPEN O|C WITH HOOK
0188 LATIN SMALL LETTER C WITH |HOOK
0189 LATIN CAPITAL LETTER |AFRICAN D|D WITH HOOK|D WITH TOPBAR
018C LATIN SMALL LETTER |D WITH TOPBAR|TURNED DELTA
018E LATIN CAPITAL LETTER |REVERSED E|SCHWA|OPEN E|F WITH HOOK
0192 LATIN SMALL LETTER F WITH |HOOK
0193 LATIN CAPITAL LETTER |G WITH HOOK|GAMMA
0195 LATIN SMALL LETTER |HV
0196 LATIN CAPITAL LETTER |IOTA|I WITH STROKE|K WITH HOOK
0199 LATIN SMALL LETTER |K WITH HOOK|L WITH BAR|LAMBDA WITH STROKE
019C LATIN CAPITAL LETTER |TURNED M|N WITH LEFT HOOK
019E LATIN SMALL LETTER N WITH LONG RIGHT |LEG
019F LATIN CAPITAL LETTER O WITH |MIDDLE TILDE|HORN
01A1 LATIN SMALL LETTER O WITH |HORN
01A2 LATIN |CAPITAL LETTER OI|SMALL LETTER OI|CAPITAL LETTER P WITH HOOK
01A5 LATIN |SMALL LETTER P WITH HOOK|LETTER YR|CAPITAL LETTER TONE TWO
01A8 LATIN |SMALL LETTER TONE TWO|CAPITAL LETTER ESH|LETTER REVERSED ESH LOOP
01AB LATIN |SMALL LETTER T WITH PALATAL HOOK|CAPITAL LETTER T WITH HOOK|SMALL LETTER T WITH HOOK
01AE LATIN CAPITAL LETTER |T WITH RETROFLEX HOOK|U WITH HORN
01B0 LATIN SMALL LETTER U WITH |HORN
01B1 LATIN CAPITAL LETTER |UPSILON|V WITH HOOK|Y WITH HOOK
01B4 LATIN |SMALL LETTER Y WITH HOOK|CAPITAL LETTER Z WITH STROKE|SMALL LETTER Z WITH STROKE
01B7 LATIN CAPITAL LETTER |EZH|EZH REVERSED
01B9 LATIN SMALL LETTER EZH |REVERSED|WITH TAIL
01BB LATIN |LETTER TWO WITH STROKE|CAPITAL LETTER TONE FIVE
01BD LATIN |SMALL LETTER TONE FIVE|LETTER INVERTED GLOTTAL STOP WITH STROKE
01BF LATIN LETTER |WYNN|DENTAL CLICK|LATERAL CLICK|ALVEOLAR CLICK|RETROFLEX CLICK
01C4 LATIN CAPITAL LETTER |DZ WITH CARON|D WITH SMALL LETTER Z WITH CARON
01C6 LATIN SMALL LETTER DZ WITH |CARON
01C7 LATIN CAPITAL LETTER |LJ|L WITH SMALL LETTER J
01C9 LATIN SMALL LETTER |LJ
01CA LATIN CAPITAL LETTER |NJ|N WITH SMALL LETTER J
01CC LATIN |SMALL LETTER NJ|CAPITAL LETTER A WITH CARON
01CE LATIN |SMALL LETTER A WITH CARON|CAPITAL LETTER I WITH CARON|SMALL LETTER I WITH CARON
01D1 LATIN |CAPITAL LETTER O WITH CARON|SMALL LETTER O WITH CARON|CAPITAL LETTER U WITH CARON
01D4 LATIN |SMALL LETTER U WITH CARON|CAPITAL LETTER U WITH DIAERESIS AND MACRON
01D6 LATIN |SMALL LETTER U WITH DIAERESIS AND MACRON|CAPITAL LETTER U WITH DIAERESIS AND ACUTE
01D8 LATIN |SMALL LETTER U WITH DIAERESIS AND ACUTE|CAPITAL LETTER U WITH DIAERESIS AND CARON
01DA LATIN |SMALL LETTER U WITH DIAERESIS AND CARON|CAPITAL LETTER U WITH DIAERESIS AND GRAVE
01DC LATIN SMALL LETTER |U WITH DIAERESIS AND GRAVE|TURNED E
01DE LATIN CAPITAL LETTER A WITH DIAERESIS AND |MACRON
01DF LATIN |SMALL LETTER A WITH DIAERESIS AND MACRON|CAPITAL LETTER A WITH DOT ABOVE AND MACRON
01E1 LATIN |SMALL LETTER A WITH DOT ABOVE AND MACRON|CAPITAL LETTER AE WITH MACRON
01E3 LATIN |SMALL LETTER AE WITH MACRON|CAPITAL LETTER G WITH STROKE
01E5 LATIN |SMALL LETTER G WITH STROKE|CAPITAL LETTER G WITH CARON|SMALL LETTER G WITH CARON
01E8 LATIN |CAPITAL LETTER K WITH CARON|SMALL LETTER K WITH CARON|CAPITAL LETTER O WITH OGONEK
01EB LATIN |SMALL LETTER O WITH OGONEK|CAPITAL LETTER O WITH OGONEK AND MACRON
01ED LATIN |SMALL LETTER O WITH OGONEK AND MACRON|CAPITAL LETTER EZH WITH CARON
01EF LATIN SMALL LETTER |EZH WITH CARON|J WITH CARON
01F1 LATIN CAPITAL LETTER |DZ|D WITH SMALL LETTER Z
01F3 LATIN |SMALL LETTER DZ|CAPITAL LETTER G WITH ACUTE|SMALL LETTER G WITH ACUTE
01F6 LATIN CAPITAL LETTER |HWAIR|WYNN|N WITH GRAVE
01F9 LATIN |SMALL LETTER N WITH GRAVE|CAPITAL LETTER A WITH RING ABOVE AND ACUTE
01FB LATIN |SMALL LETTER A WITH RING ABOVE AND ACUTE|CAPITAL LETTER AE WITH ACUTE
01FD LATIN |SMALL LETTER AE WITH ACUTE|CAPITAL LETTER O WITH STROKE AND ACUTE
01FF LATIN |SMALL LETTER O WITH STROKE AND ACUTE|CAPITAL LETTER A WITH DOUBLE GRAVE
0201 LATIN |SMALL LETTER A WITH DOUBLE GRAVE|CAPITAL LETTER A WITH INVERTED BREVE
0203 LATIN |SMALL LETTER A WITH INVERTED BREVE|CAPITAL LETTER E WITH DOUBLE GRAVE
0205 LATIN |SMALL LETTER E WITH DOUBLE GRAVE|CAPITAL LETTER E WITH INVERTED BREVE
0207 LATIN |SMALL LETTER E WITH INVERTED BREVE|CAPITAL LETTER I WITH DOUBLE GRAVE
0209 LATIN |SMALL LETTER I WITH DOUBLE GRAVE|CAPITAL LETTER I WITH INVERTED BREVE
020B LATIN |SMALL LETTER I WITH INVERTED BREVE|CAPITAL LETTER O WITH DOUBLE GRAVE
020D LATIN |SMALL LETTER O WITH DOUBLE GRAVE|CAPITAL LETTER O WITH INVERTED BREVE
020F LATIN |SMALL LETTER O WITH INVERTED BREVE|CAPITAL LETTER R WITH DOUBLE GRAVE
0211 LATIN |SMALL LETTER R WITH DOUBLE GRAVE|CAPITAL LETTER R WITH INVERTED BREVE
0213 LATIN |SMALL LETTER R WITH INVERTED BREVE|CAPITAL LETTER U WITH DOUBLE GRAVE
0215 LATIN |SMALL LETTER U WITH DOUBLE GRAVE|CAPITAL LETTER U WITH INVERTED BREVE
0217 LATIN |SMALL LETTER U WITH INVERTED BREVE|CAPITAL LETTER S WITH COMMA BELOW
0219 LATIN |SMALL LETTER S WITH COMMA BELOW|CAPITAL LETTER T WITH COMMA BELOW
021B LATIN |SMALL LETTER T WITH COMMA BELOW|CAPITAL LETTER YOGH
021D LATIN |SMALL LETTER YOGH|CAPITAL LETTER H WITH CARON|SMALL LETTER H WITH CARON
0220 LATIN |CAPITAL LETTER N WITH LONG RIGHT LEG|SMALL LETTER D WITH CURL|CAPITAL LETTER OU
0223 LATIN |SMALL LETTER OU|CAPITAL LETTER Z WITH HOOK|SMALL LETTER Z WITH HOOK
0226 LATIN |CAPITAL LETTER A WITH DOT ABOVE|SMALL LETTER A WITH DOT ABOVE
0228 LATIN |CAPITAL LETTER E WITH CEDILLA|SMALL LETTER E WITH CEDILLA
022A LATIN |CAPITAL LETTER O WITH DIAERESIS AND MACRON|SMALL LETTER O WITH DIAERESIS AND MACRON
022C LATIN |CAPITAL LETTER O WITH TILDE AND MACRON|SMALL LETTER O WITH TILDE AND MACRON
022E LATIN |CAPITAL LETTER O WITH DOT ABOVE|SMALL LETTER O WITH DOT ABOVE
0230 LATIN |CAPITAL LETTER O WITH DOT ABOVE AND MACRON|SMALL LETTER O WITH DOT ABOVE AND MACRON
0232 LATIN |CAPITAL LETTER Y WITH MACRON|SMALL LETTER Y WITH MACRON
0234 LATIN SMALL LETTER |L WITH CURL|N WITH CURL|T WITH CURL|DOTLESS J|DB DIGRAPH|QP DIGRAPH
023A LATIN CAPITAL LETTER |A WITH STROKE|C WITH STROKE
023C LATIN SMALL LETTER C WITH |STROKE
023D LATIN CAPITAL LETTER |L WITH BAR|T WITH DIAGONAL STROKE
023F LATIN SMALL LETTER |S WITH SWASH TAIL|Z WITH SWASH TAIL
0241 LATIN |CAPITAL LETTER GLOTTAL STOP|SMALL LETTER GLOTTAL STOP
0243 LATIN CAPITAL LETTER |B WITH STROKE|U BAR|TURNED V|E WITH STROKE
0247 LATIN |SMALL LETTER E WITH STROKE|CAPITAL LETTER J WITH STROKE|SMALL LETTER J WITH STROKE
024A LATIN |CAPITAL LETTER SMALL Q WITH HOOK TAIL|SMALL LETTER Q WITH HOOK TAIL
024C LATIN |CAPITAL LETTER R WITH STROKE|SMALL LETTER R WITH STROKE|CAPITAL LETTER Y WITH STROKE
024F LATIN SMALL LETTER |Y WITH STROKE|TURNED A|ALPHA|TURNED ALPHA
0253 LATIN SMALL LETTER |B WITH HOOK|OPEN O|C WITH CURL|D WITH TAIL|D WITH HOOK|REVERSED E
0259 LATIN SMALL LETTER |SCHWA|SCHWA WITH HOOK|OPEN E|REVERSED OPEN E|REVERSED OPEN E WITH HOOK
025E LATIN SMALL LETTER |CLOSED REVERSED OPEN E|DOTLESS J WITH STROKE|G WITH HOOK|SCRIPT G
0262 LATIN LETTER SMALL CAPITAL |G
0263 LATIN SMALL LETTER |GAMMA|RAMS HORN|TURNED H|H WITH HOOK|HENG WITH HOOK|I WITH STROKE|IOTA
026A LATIN LETTER SMALL CAPITAL |I
026B LATIN SMALL LETTER L WITH |MIDDLE TILDE|BELT|RETROFLEX HOOK
026E LATIN SMALL LETTER |LEZH|TURNED M|TURNED M WITH LONG LEG|M WITH HOOK
0272 LATIN SMALL LETTER N WITH |LEFT HOOK|RETROFLEX HOOK
0274 LATIN |LETTER SMALL CAPITAL N|SMALL LETTER BARRED O|LETTER SMALL CAPITAL OE
0277 LATIN SMALL LETTER |CLOSED OMEGA|PHI|TURNED R|TURNED R WITH LONG LEG|TURNED R WITH HOOK
027C LATIN SMALL LETTER |R WITH LONG LEG|R WITH TAIL|R WITH FISHHOOK|REVERSED R WITH FISHHOOK
0280 LATIN LETTER SMALL CAPITAL |R|INVERTED R
0282 LATIN SMALL LETTER |S WITH HOOK|ESH|DOTLESS J WITH STROKE AND HOOK|SQUAT REVERSED ESH
0286 LATIN SMALL LETTER |ESH WITH CURL|TURNED T|T WITH RETROFLEX HOOK|U BAR|UPSILON|V WITH HOOK
028C LATIN SMALL LETTER TURNED |V|W|Y
028F LATIN LETTER SMALL CAPITAL |Y
0290 LATIN SMALL LETTER |Z WITH RETROFLEX HOOK|Z WITH CURL|EZH|EZH WITH CURL
0294 LATIN LETTER |GLOTTAL STOP|PHARYNGEAL VOICED FRICATIVE|INVERTED GLOTTAL STOP|STRETCHED C
0298 LATIN |LETTER BILABIAL CLICK|LETTER SMALL CAPITAL B|SMALL LETTER CLOSED OPEN E
029B LATIN LETTER SMALL CAPITAL |G WITH HOOK|H
029D LATIN SMALL LETTER |J WITH CROSSED-TAIL|TURNED K
029F LATIN |LETTER SMALL CAPITAL L|SMALL LETTER Q WITH HOOK
02A1 LATIN LETTER |GLOTTAL STOP WITH STROKE|REVERSED GLOTTAL STOP WITH STROKE
02A3 LATIN SMALL LETTER |DZ DIGRAPH|DEZH DIGRAPH|DZ DIGRAPH WITH CURL|TS DIGRAPH
02A7 LATIN SMALL LETTER |TESH DIGRAPH|TC DIGRAPH WITH CURL|FENG DIGRAPH|LS DIGRAPH|LZ DIGRAPH
02AC LATIN LETTER |BILABIAL PERCUSSIVE|BIDENTAL PERCUSSIVE
02AE LATIN SMALL LETTER TURNED H WITH |FISHHOOK|FISHHOOK AND TAIL
02B0 MODIFIER LETTER SMALL |H|H WITH HOOK|J|R|TURNED R|TURNED R WITH HOOK|CAPITAL INVERTED R|W|Y
02B9 MODIFIER LETTER |PRIME|DOUBLE PRIME|TURNED COMMA|APOSTROPHE|REVERSED COMMA|RIGHT HALF RING
02BF MODIFIER LETTER |LEFT HALF RING|GLOTTAL STOP|REVERSED GLOTTAL STOP|LEFT ARROWHEAD
02C3 MODIFIER LETTER |RIGHT ARROWHEAD|UP ARROWHEAD|DOWN ARROWHEAD|CIRCUMFLEX ACCENT
02C7 |CARON
02C8 MODIFIER LETTER |VERTICAL LINE|MACRON|ACUTE ACCENT|GRAVE ACCENT
02CC MODIFIER LETTER LOW |VERTICAL LINE|MACRON|GRAVE ACCENT|ACUTE ACCENT
02D0 MODIFIER LETTER |TRIANGULAR COLON|HALF TRIANGULAR COLON|CENTRED RIGHT HALF RING
02D3 MODIFIER LETTER |CENTRED LEFT HALF RING|UP TACK|DOWN TACK|PLUS SIGN|MINUS SIGN
02D8 |BREVE|DOT ABOVE|RING ABOVE|OGONEK|SMALL TILDE|DOUBLE ACUTE ACCENT
02DE MODIFIER LETTER |RHOTIC HOOK|CROSS ACCENT
02E0 MODIFIER LETTER SMALL |GAMMA|L|S|X|REVERSED GLOTTAL STOP
02E5 MODIFIER LETTER |EXTRA-HIGH TONE BAR|HIGH TONE BAR
02E7 MODIFIER LETTER |MID TONE BAR|LOW TONE BAR|EXTRA-LOW TONE BAR|YIN DEPARTING TONE MARK
02EB MODIFIER LETTER |YANG DEPARTING TONE MARK|VOICING|UNASPIRATED|DOUBLE APOSTROPHE
02EF MODIFIER LETTER LOW |DOWN ARROWHEAD|UP ARROWHEAD|LEFT ARROWHEAD|RIGHT ARROWHEAD|RING
02F4 MODIFIER LETTER MIDDLE |GRAVE ACCENT|DOUBLE GRAVE ACCENT|DOUBLE ACUTE ACCENT
02F7 MODIFIER LETTER |LOW TILDE|RAISED COLON|BEGIN HIGH TONE
02FA MODIFIER LETTER |END HIGH TONE|BEGIN LOW TONE|END LOW TONE|SHELF|OPEN SHELF|LOW LEFT ARROW
0300 COMBINING |GRAVE ACCENT|ACUTE ACCENT|CIRCUMFLEX ACCENT|TILDE|MACRON
0305 COMBINING |OVERLINE|BREVE|DOT ABOVE|DIAERESIS|HOOK ABOVE|RING ABOVE|DOUBLE ACUTE ACCENT
030C COMBINING |CARON|VERTICAL LINE ABOVE|DOUBLE VERTICAL LINE ABOVE|DOUBLE GRAVE ACCENT
0310 COMBINING |CANDRABINDU|INVERTED BREVE|TURNED COMMA ABOVE|COMMA ABOVE|REVERSED COMMA ABOVE
0315 COMBINING |COMMA ABOVE RIGHT|GRAVE ACCENT BELOW|ACUTE ACCENT BELOW|LEFT TACK BELOW
0319 COMBINING |RIGHT TACK BELOW|LEFT ANGLE ABOVE|HORN|LEFT HALF RING BELOW|UP TACK BELOW
031E COMBINING |DOWN TACK BELOW|PLUS SIGN BELOW|MINUS SIGN BELOW|PALATALIZED HOOK BELOW
0322 COMBINING |RETROFLEX HOOK BELOW|DOT BELOW|DIAERESIS BELOW|RING BELOW|COMMA BELOW
0327 COMBINING |CEDILLA|OGONEK|VERTICAL LINE BELOW|BRIDGE BELOW|INVERTED DOUBLE ARCH BELOW
032C COMBINING |CARON BELOW|CIRCUMFLEX ACCENT BELOW|BREVE BELOW|INVERTED BREVE BELOW|TILDE BELOW
0331 COMBINING |MACRON BELOW|LOW LINE|DOUBLE LOW LINE|TILDE OVERLAY|SHORT STROKE OVERLAY
0336 COMBINING |LONG STROKE OVERLAY|SHORT SOLIDUS OVERLAY|LONG SOLIDUS OVERLAY
0339 COMBINING |RIGHT HALF RING BELOW|INVERTED BRIDGE BELOW|SQUARE BELOW|SEAGULL BELOW
033D COMBINING |X ABOVE|VERTICAL TILDE|DOUBLE OVERLINE|GRAVE TONE MARK|ACUTE TONE MARK
0342 COMBINING GREEK |PERISPOMENI|KORONIS|DIALYTIKA TONOS|YPOGEGRAMMENI
0346 COMBINING |BRIDGE ABOVE|EQUALS SIGN BELOW
0348 COMBINING |DOUBLE VERTICAL LINE BELOW|LEFT ANGLE BELOW|NOT TILDE ABOVE|HOMOTHETIC ABOVE
034C COMBINING |ALMOST EQUAL TO ABOVE|LEFT RIGHT ARROW BELOW|UPWARDS ARROW BELOW|GRAPHEME JOINER
0350 COMBINING |RIGHT ARROWHEAD ABOVE|LEFT HALF RING ABOVE|FERMATA|X BELOW|LEFT ARROWHEAD BELOW
0355 COMBINING RIGHT |ARROWHEAD BELOW|ARROWHEAD AND UP ARROWHEAD BELOW|HALF RING ABOVE
0358 COMBINING |DOT ABOVE RIGHT|ASTERISK BELOW|DOUBLE RING BELOW|ZIGZAG ABOVE|DOUBLE BREVE BELOW
035D COMBINING DOUBLE |BREVE|MACRON|MACRON BELOW|TILDE|INVERTED BREVE|RIGHTWARDS ARROW BELOW
0363 COMBINING LATIN SMALL LETTER |A|E|I|O|U|C|D|H|M|R|T|V|X
0370 GREEK |CAPITAL LETTER HETA|SMALL LETTER HETA
0372 GREEK |CAPITAL LETTER ARCHAIC SAMPI|SMALL LETTER ARCHAIC SAMPI|NUMERAL SIGN
0375 GREEK |LOWER NUMERAL SIGN|CAPITAL LETTER PAMPHYLIAN DIGAMMA|SMALL LETTER PAMPHYLIAN DIGAMMA
037A GREEK |YPOGEGRAMMENI|SMALL REVERSED LUNATE SIGMA SYMBOL|SMALL DOTTED LUNATE SIGMA SYMBOL
037D GREEK |SMALL REVERSED DOTTED LUNATE SIGMA SYMBOL|QUESTION MARK|CAPITAL LETTER YOT
0384 GREEK |TONOS|DIALYTIKA TONOS|CAPITAL LETTER ALPHA WITH TONOS|ANO TELEIA
0388 GREEK CAPITAL LETTER |EPSILON WITH TONOS|ETA WITH TONOS|IOTA WITH TONOS
038C GREEK CAPITAL LETTER OMICRON WITH |TONOS
038E GREEK CAPITAL LETTER |UPSILON WITH TONOS|OMEGA WITH TONOS
0390 GREEK SMALL LETTER IOTA WITH DIALYTIKA AND |TONOS
0391 GREEK CAPITAL LETTER |ALPHA|BETA|GAMMA
0394 GREEK CAPITAL LETTER |DELTA|EPSILON|ZETA|ETA|THETA|IOTA|KAPPA|LAMDA|MU|NU|XI|OMICRON|PI|RHO
03A3 GREEK CAPITAL LETTER |SIGMA|TAU
03A5 GREEK CAPITAL LETTER |UPSILON|PHI|CHI|PSI|OMEGA|IOTA WITH DIALYTIKA|UPSILON WITH DIALYTIKA
03AC GREEK SMALL LETTER |ALPHA WITH TONOS|EPSILON WITH TONOS|ETA WITH TONOS
03AF GREEK SMALL LETTER |IOTA WITH TONOS|UPSILON WITH DIALYTIKA AND TONOS|ALPHA|BETA
03B3 GREEK SMALL LETTER |GAMMA|DELTA|EPSILON|ZETA|ETA|THETA|IOTA|KAPPA|LAMDA|MU|NU|XI|OMICRON|PI
03C1 GREEK SMALL LETTER |RHO|FINAL SIGMA|SIGMA|TAU|UPSILON|PHI|CHI|PSI|OMEGA|IOTA WITH DIALYTIKA
03CB GREEK SMALL LETTER |UPSILON WITH DIALYTIKA|OMICRON WITH TONOS|UPSILON WITH TONOS
03CE GREEK |SMALL LETTER OMEGA WITH TONOS|CAPITAL KAI SYMBOL|BETA SYMBOL|THETA SYMBOL
03D2 GREEK UPSILON WITH |HOOK SYMBOL|ACUTE AND HOOK SYMBOL|DIAERESIS AND HOOK SYMBOL
03D5 GREEK |PHI SYMBOL|PI SYMBOL|KAI SYMBOL|LETTER ARCHAIC KOPPA
03D9 GREEK |SMALL LETTER ARCHAIC KOPPA|LETTER STIGMA|SMALL LETTER STIGMA|LETTER DIGAMMA
03DD GREEK |SMALL LETTER DIGAMMA|LETTER KOPPA|SMALL LETTER KOPPA|LETTER SAMPI|SMALL LETTER SAMPI
03E2 COPTIC |CAPITAL LETTER SHEI|SMALL LETTER SHEI
03E4 COPTIC |CAPITAL LETTER FEI|SMALL LETTER FEI|CAPITAL LETTER KHEI|SMALL LETTER KHEI
03E8 COPTIC |CAPITAL LETTER HORI|SMALL LETTER HORI|CAPITAL LETTER GANGIA|SMALL LETTER GANGIA
03EC COPTIC |CAPITAL LETTER SHIMA|SMALL LETTER SHIMA|CAPITAL LETTER DEI|SMALL LETTER DEI
03F0 GREEK |KAPPA SYMBOL|RHO SYMBOL|LUNATE SIGMA SYMBOL
03F3 GREEK |LETTER YOT|CAPITAL THETA SYMBOL|LUNATE EPSILON SYMBOL|REVERSED LUNATE EPSILON SYMBOL
03F7 GREEK |CAPITAL LETTER SHO|SMALL LETTER SHO|CAPITAL LUNATE SIGMA SYMBOL|CAPITAL LETTER SAN
03FB GREEK |SMALL LETTER SAN|RHO WITH STROKE SYMBOL|CAPITAL REVERSED LUNATE SIGMA SYMBOL
03FE GREEK CAPITAL |DOTTED LUNATE SIGMA SYMBOL|REVERSED DOTTED LUNATE SIGMA SYMBOL
0400 CYRILLIC CAPITAL LETTER |IE WITH GRAVE|IO|DJE|GJE|UKRAINIAN IE|DZE|BYELORUSSIAN-UKRAINIAN I
0407 CYRILLIC CAPITAL LETTER |YI|JE|LJE|NJE|TSHE|KJE|I WITH GRAVE|SHORT U
040F CYRILLIC CAPITAL LETTER |DZHE|A|BE|VE|GHE|DE|IE|ZHE|ZE|I|SHORT I|KA|EL|EM|EN|O|PE|ER
0421 CYRILLIC CAPITAL LETTER |ES|TE|U|EF|HA|TSE|CHE|SHA|SHCHA|HARD SIGN|YERU|SOFT SIGN|E|YU|YA
0430 CYRILLIC SMALL LETTER |A|BE|VE|GHE|DE|IE|ZHE|ZE|I|SHORT I|KA|EL|EM|EN|O|PE
0440 CYRILLIC SMALL LETTER |ER|ES|TE|U|EF|HA|TSE|CHE|SHA|SHCHA|HARD SIGN|YERU|SOFT SIGN|E|YU|YA
0450 CYRILLIC SMALL LETTER |IE WITH GRAVE|IO|DJE|GJE|UKRAINIAN IE|DZE|BYELORUSSIAN-UKRAINIAN I
0457 CYRILLIC SMALL LETTER |YI|JE|LJE|NJE|TSHE|KJE|I WITH GRAVE|SHORT U|DZHE
0460 CYRILLIC |CAPITAL LETTER OMEGA|SMALL LETTER OMEGA|CAPITAL LETTER YAT|SMALL LETTER YAT
0464 CYRILLIC |CAPITAL LETTER IOTIFIED E|SMALL LETTER IOTIFIED E|CAPITAL LETTER LITTLE YUS
0467 CYRILLIC |SMALL LETTER LITTLE YUS|CAPITAL LETTER IOTIFIED LITTLE YUS
0469 CYRILLIC |SMALL LETTER IOTIFIED LITTLE YUS|CAPITAL LETTER BIG YUS|SMALL LETTER BIG YUS
046C CYRILLIC |CAPITAL LETTER IOTIFIED BIG YUS|SMALL LETTER IOTIFIED BIG YUS
046E CYRILLIC |CAPITAL LETTER KSI|SMALL LETTER KSI|CAPITAL LETTER PSI
0471 CYRILLIC |SMALL LETTER PSI|CAPITAL LETTER FITA|SMALL LETTER FITA|CAPITAL LETTER IZHITSA
0475 CYRILLIC |SMALL LETTER IZHITSA|CAPITAL LETTER IZHITSA WITH DOUBLE GRAVE ACCENT
0477 CYRILLIC |SMALL LETTER IZHITSA WITH DOUBLE GRAVE ACCENT|CAPITAL LETTER UK
0479 CYRILLIC |SMALL LETTER UK|CAPITAL LETTER ROUND OMEGA|SMALL LETTER ROUND OMEGA
047C CYRILLIC |CAPITAL LETTER OMEGA WITH TITLO|SMALL LETTER OMEGA WITH TITLO|CAPITAL LETTER OT
047F CYRILLIC |SMALL LETTER OT|CAPITAL LETTER KOPPA|SMALL LETTER KOPPA|THOUSANDS SIGN
0483 COMBINING CYRILLIC |TITLO|PALATALIZATION|DASIA PNEUMATA
0486 COMBINING CYRILLIC |PSILI PNEUMATA|POKRYTIE|HUNDRED THOUSANDS SIGN|MILLIONS SIGN
048A CYRILLIC CAPITAL LETTER SHORT I WITH |TAIL
048B CYRILLIC |SMALL LETTER SHORT I WITH TAIL|CAPITAL LETTER SEMISOFT SIGN
048D CYRILLIC |SMALL LETTER SEMISOFT SIGN|CAPITAL LETTER ER WITH TICK
048F CYRILLIC |SMALL LETTER ER WITH TICK|CAPITAL LETTER GHE WITH UPTURN
0491 CYRILLIC |SMALL LETTER GHE WITH UPTURN|CAPITAL LETTER GHE WITH STROKE
0493 CYRILLIC |SMALL LETTER GHE WITH STROKE|CAPITAL LETTER GHE WITH MIDDLE HOOK
0495 CYRILLIC |SMALL LETTER GHE WITH MIDDLE HOOK|CAPITAL LETTER ZHE WITH DESCENDER
0497 CYRILLIC |SMALL LETTER ZHE WITH DESCENDER|CAPITAL LETTER ZE WITH DESCENDER
0499 CYRILLIC |SMALL LETTER ZE WITH DESCENDER|CAPITAL LETTER KA WITH DESCENDER
049B CYRILLIC |SMALL LETTER KA WITH DESCENDER|CAPITAL LETTER KA WITH VERTICAL STROKE
049D CYRILLIC |SMALL LETTER KA WITH VERTICAL STROKE|CAPITAL LETTER KA WITH STROKE
049F CYRILLIC |SMALL LETTER KA WITH STROKE|CAPITAL LETTER BASHKIR KA|SMALL LETTER BASHKIR KA
04A2 CYRILLIC |CAPITAL LETTER EN WITH DESCENDER|SMALL LETTER EN WITH DESCENDER
04A4 CYRILLIC |CAPITAL LIGATURE EN GHE|SMALL LIGATURE EN GHE|CAPITAL LETTER PE WITH MIDDLE HOOK
04A7 CYRILLIC |SMALL LETTER PE WITH MIDDLE HOOK|CAPITAL LETTER ABKHASIAN HA
04A9 CYRILLIC |SMALL LETTER ABKHASIAN HA|CAPITAL LETTER ES WITH DESCENDER
04AB CYRILLIC |SMALL LETTER ES WITH DESCENDER|CAPITAL LETTER TE WITH DESCENDER
04AD CYRILLIC |SMALL LETTER TE WITH DESCENDER|CAPITAL LETTER STRAIGHT U
04AF CYRILLIC |SMALL LETTER STRAIGHT U|CAPITAL LETTER STRAIGHT U WITH STROKE
04B1 CYRILLIC |SMALL LETTER STRAIGHT U WITH STROKE|CAPITAL LETTER HA WITH DESCENDER
04B3 CYRILLIC |SMALL LETTER HA WITH DESCENDER|CAPITAL LIGATURE TE TSE|SMALL LIGATURE TE TSE
04B6 CYRILLIC |CAPITAL LETTER CHE WITH DESCENDER|SMALL LETTER CHE WITH DESCENDER
04B8 CYRILLIC |CAPITAL LETTER CHE WITH VERTICAL STROKE|SMALL LETTER CHE WITH VERTICAL STROKE
04BA CYRILLIC |CAPITAL LETTER SHHA|SMALL LETTER SHHA|CAPITAL LETTER ABKHASIAN CHE
04BD CYRILLIC |SMALL LETTER ABKHASIAN CHE|CAPITAL LETTER ABKHASIAN CHE WITH DESCENDER
04BF CYRILLIC SMALL LETTER ABKHASIAN CHE WITH |DESCENDER
04C0 CYRILLIC |LETTER PALOCHKA|CAPITAL LETTER ZHE WITH BREVE
04C2 CYRILLIC |SMALL LETTER ZHE WITH BREVE|CAPITAL LETTER KA WITH HOOK
04C4 CYRILLIC |SMALL LETTER KA WITH HOOK|CAPITAL LETTER EL WITH TAIL|SMALL LETTER EL WITH TAIL
04C7 CYRILLIC |CAPITAL LETTER EN WITH HOOK|SMALL LETTER EN WITH HOOK|CAPITAL LETTER EN WITH TAIL
04CA CYRILLIC |SMALL LETTER EN WITH TAIL|CAPITAL LETTER KHAKASSIAN CHE
04CC CYRILLIC |SMALL LETTER KHAKASSIAN CHE|CAPITAL LETTER EM WITH TAIL
04CE CYRILLIC |SMALL LETTER EM WITH TAIL|SMALL LETTER PALOCHKA|CAPITAL LETTER A WITH BREVE
04D1 CYRILLIC |SMALL LETTER A WITH BREVE|CAPITAL LETTER A WITH DIAERESIS
04D3 CYRILLIC |SMALL LETTER A WITH DIAERESIS|CAPITAL LIGATURE A IE
04D5 CYRILLIC |SMALL LIGATURE A IE|CAPITAL LETTER IE WITH BREVE|SMALL LETTER IE WITH BREVE
04D8 CYRILLIC |CAPITAL LETTER SCHWA|SMALL LETTER SCHWA|CAPITAL LETTER SCHWA WITH DIAERESIS
04DB CYRILLIC |SMALL LETTER SCHWA WITH DIAERESIS|CAPITAL LETTER ZHE WITH DIAERESIS
04DD CYRILLIC |SMALL LETTER ZHE WITH DIAERESIS|CAPITAL LETTER ZE WITH DIAERESIS
04DF CYRILLIC |SMALL LETTER ZE WITH DIAERESIS|CAPITAL LETTER ABKHASIAN DZE
04E1 CYRILLIC |SMALL LETTER ABKHASIAN DZE|CAPITAL LETTER I WITH MACRON
04E3 CYRILLIC |SMALL LETTER I WITH MACRON|CAPITAL LETTER I WITH DIAERESIS
04E5 CYRILLIC |SMALL LETTER I WITH DIAERESIS|CAPITAL LETTER O WITH DIAERESIS
04E7 CYRILLIC |SMALL LETTER O WITH DIAERESIS|CAPITAL LETTER BARRED O
04E9 CYRILLIC |SMALL LETTER BARRED O|CAPITAL LETTER BARRED O WITH DIAERESIS
04EB CYRILLIC |SMALL LETTER BARRED O WITH DIAERESIS|CAPITAL LETTER E WITH DIAERESIS
04ED CYRILLIC |SMALL LETTER E WITH DIAERESIS|CAPITAL LETTER U WITH MACRON
04EF CYRILLIC |SMALL LETTER U WITH MACRON|CAPITAL LETTER U WITH DIAERESIS
04F1 CYRILLIC |SMALL LETTER U WITH DIAERESIS|CAPITAL LETTER U WITH DOUBLE ACUTE
04F3 CYRILLIC |SMALL LETTER U WITH DOUBLE ACUTE|CAPITAL LETTER CHE WITH DIAERESIS
04F5 CYRILLIC |SMALL LETTER CHE WITH DIAERESIS|CAPITAL LETTER GHE WITH DESCENDER
04F7 CYRILLIC |SMALL LETTER GHE WITH DESCENDER|CAPITAL LETTER YERU WITH DIAERESIS
04F9 CYRILLIC |SMALL LETTER YERU WITH DIAERESIS|CAPITAL LETTER GHE WITH STROKE AND HOOK
04FB CYRILLIC |SMALL LETTER GHE WITH STROKE AND HOOK|CAPITAL LETTER HA WITH HOOK
04FD CYRILLIC |SMALL LETTER HA WITH HOOK|CAPITAL LETTER HA WITH STROKE
04FF CYRILLIC |SMALL LETTER HA WITH STROKE|CAPITAL LETTER KOMI DE|SMALL LETTER KOMI DE
0502 CYRILLIC |CAPITAL LETTER KOMI DJE|SMALL LETTER KOMI DJE|CAPITAL LETTER KOMI ZJE
0505 CYRILLIC |SMALL LETTER KOMI ZJE|CAPITAL LETTER KOMI DZJE|SMALL LETTER KOMI DZJE
0508 CYRILLIC |CAPITAL LETTER KOMI LJE|SMALL LETTER KOMI LJE|CAPITAL LETTER KOMI NJE
050B CYRILLIC |SMALL LETTER KOMI NJE|CAPITAL LETTER KOMI SJE|SMALL LETTER KOMI SJE
050E CYRILLIC |CAPITAL LETTER KOMI TJE|SMALL LETTER KOMI TJE|CAPITAL LETTER REVERSED ZE
0511 CYRILLIC |SMALL LETTER REVERSED ZE|CAPITAL LETTER EL WITH HOOK|SMALL LETTER EL WITH HOOK
0514 CYRILLIC |CAPITAL LETTER LHA|SMALL LETTER LHA|CAPITAL LETTER RHA|SMALL LETTER RHA
0518 CYRILLIC |CAPITAL LETTER YAE|SMALL LETTER YAE|CAPITAL LETTER QA|SMALL LETTER QA
051C CYRILLIC |CAPITAL LETTER WE|SMALL LETTER WE|CAPITAL LETTER ALEUT KA|SMALL LETTER ALEUT KA
0520 CYRILLIC |CAPITAL LETTER EL WITH MIDDLE HOOK|SMALL LETTER EL WITH MIDDLE HOOK
0522 CYRILLIC |CAPITAL LETTER EN WITH MIDDLE HOOK|SMALL LETTER EN WITH MIDDLE HOOK
0524 CYRILLIC |CAPITAL LETTER PE WITH DESCENDER|SMALL LETTER PE WITH DESCENDER
0526 CYRILLIC |CAPITAL LETTER SHHA WITH DESCENDER|SMALL LETTER SHHA WITH DESCENDER
0528 CYRILLIC |CAPITAL LETTER EN WITH LEFT HOOK|SMALL LETTER EN WITH LEFT HOOK
052A CYRILLIC |CAPITAL LETTER DZZHE|SMALL LETTER DZZHE|CAPITAL LETTER DCHE
052D CYRILLIC |SMALL LETTER DCHE|CAPITAL LETTER EL WITH DESCENDER|SMALL LETTER EL WITH DESCENDER
0531 ARMENIAN CAPITAL LETTER |AYB|BEN|GIM|DA
0535 ARMENIAN CAPITAL LETTER |ECH|ZA|EH|ET|TO|ZHE|INI|LIWN|XEH|CA|KEN|HO|JA|GHAD|CHEH|MEN|YI|NOW
0547 ARMENIAN CAPITAL LETTER |SHA|VO|CHA|PEH|JHEH|RA|SEH|VEW|TIWN|REH|CO|YIWN|PIWR|KEH|OH|FEH
0559 ARMENIAN MODIFIER LETTER LEFT HALF |RING
055A ARMENIAN |APOSTROPHE|EMPHASIS MARK|EXCLAMATION MARK|COMMA|QUESTION MARK|ABBREVIATION MARK
0560 ARMENIAN SMALL LETTER |TURNED AYB|AYB|BEN|GIM
0564 ARMENIAN SMALL LETTER |DA|ECH|ZA|EH|ET|TO|ZHE|INI|LIWN|XEH|CA|KEN|HO|JA|GHAD|CHEH|MEN|YI
0576 ARMENIAN SMALL LETTER |NOW|SHA|VO|CHA|PEH|JHEH|RA|SEH|VEW|TIWN|REH|CO|YIWN|PIWR|KEH|OH|FEH
0587 ARMENIAN |SMALL LIGATURE ECH YIWN|SMALL LETTER YI WITH STROKE|FULL STOP|HYPHEN
058D |RIGHT-FACING ARMENIAN ETERNITY SIGN|LEFT-FACING ARMENIAN ETERNITY SIGN|ARMENIAN DRAM SIGN
0591 HEBREW ACCENT |ETNAHTA|SEGOL|SHALSHELET|ZAQEF QATAN|ZAQEF GADOL
0596 HEBREW ACCENT |TIPEHA|REVIA|ZARQA|PASHTA|YETIV|TEVIR|GERESH|GERESH MUQDAM|GERSHAYIM
059F HEBREW ACCENT |QARNEY PARA|TELISHA GEDOLA|PAZER|ATNAH HAFUKH|MUNAH|MAHAPAKH|MERKHA
05A6 HEBREW ACCENT |MERKHA KEFULA|DARGA|QADMA|TELISHA QETANA|YERAH BEN YOMO|OLE|ILUY|DEHI|ZINOR
05AF HEBREW MARK MASORA |CIRCLE
05B0 HEBREW POINT |SHEVA|HATAF SEGOL|HATAF PATAH|HATAF QAMATS|HIRIQ|TSERE
05B6 HEBREW POINT |SEGOL|PATAH|QAMATS|HOLAM|HOLAM HASER FOR VAV|QUBUTS|DAGESH OR MAPIQ|METEG
05BE HEBREW PUNCTUATION |MAQAF
05BF HEBREW |POINT RAFE|PUNCTUATION PASEQ|POINT SHIN DOT|POINT SIN DOT|PUNCTUATION SOF PASUQ
05C4 HEBREW |MARK UPPER DOT|MARK LOWER DOT|PUNCTUATION NUN HAFUKHA|POINT QAMATS QATAN
05D0 HEBREW LETTER |ALEF
05D1 HEBREW LETTER |BET|GIMEL|DALET|HE|VAV|ZAYIN|HET|TET|YOD|FINAL KAF|KAF|LAMED|FINAL MEM|MEM
05DF HEBREW LETTER |FINAL NUN|NUN|SAMEKH|AYIN|FINAL PE|PE|FINAL TSADI|TSADI|QOF|RESH|SHIN|TAV
05EF HEBREW YOD |TRIANGLE
05F0 HEBREW LIGATURE YIDDISH |DOUBLE VAV|VAV YOD|DOUBLE YOD
05F3 HEBREW PUNCTUATION |GERESH|GERSHAYIM
0600 ARABIC |NUMBER SIGN|SIGN SANAH|FOOTNOTE MARKER|SIGN SAFHA|SIGN SAMVAT|NUMBER MARK ABOVE
0606 ARABIC-INDIC |CUBE ROOT|FOURTH ROOT
0608 ARABIC |RAY
0609 ARABIC-INDIC PER |MILLE SIGN|TEN THOUSAND SIGN
060B AFGHANI |SIGN
060C ARABIC |COMMA|DATE SEPARATOR|POETIC VERSE SIGN|SIGN MISRA|SIGN SALLALLAHOU ALAYHE WASSALLAM
0611 ARABIC SIGN |ALAYHE ASSALLAM|RAHMATULLAH ALAYHE|RADI ALLAHOU ANHU|TAKHALLUS
0615 ARABIC SMALL |HIGH TAH|HIGH LIGATURE ALEF WITH LAM WITH YEH|HIGH ZAIN|FATHA|DAMMA|KASRA
061B ARABIC |SEMICOLON|LETTER MARK|END OF TEXT MARK|TRIPLE DOT PUNCTUATION MARK|QUESTION MARK
0620 ARABIC LETTER |KASHMIRI YEH|HAMZA|ALEF WITH MADDA ABOVE|ALEF WITH HAMZA ABOVE
0624 ARABIC LETTER |WAW WITH HAMZA ABOVE|ALEF WITH HAMZA BELOW|YEH WITH HAMZA ABOVE
0627 ARABIC LETTER |ALEF|BEH|TEH MARBUTA|TEH|THEH|JEEM|HAH|KHAH|DAL|THAL|REH|ZAIN|SEEN|SHEEN|SAD
0636 ARABIC LETTER |DAD|TAH|ZAH|AIN|GHAIN|KEHEH WITH TWO DOTS ABOVE|KEHEH WITH THREE DOTS BELOW
063D ARABIC LETTER FARSI YEH WITH |INVERTED V|TWO DOTS ABOVE|THREE DOTS ABOVE
0640 ARABIC |TATWEEL
0641 ARABIC LETTER |FEH|QAF|KAF|LAM|MEEM|NOON|HEH|WAW|ALEF MAKSURA|YEH
064B ARABIC |FATHATAN|DAMMATAN|KASRATAN|FATHA|DAMMA|KASRA|SHADDA|SUKUN|MADDAH ABOVE
0654 ARABIC |HAMZA ABOVE|HAMZA BELOW|SUBSCRIPT ALEF|INVERTED DAMMA|MARK NOON GHUNNA|ZWARAKAY
065A ARABIC VOWEL SIGN |SMALL V ABOVE|INVERTED SMALL V ABOVE|DOT BELOW
065D ARABIC |REVERSED DAMMA|FATHA WITH TWO DOTS|WAVY HAMZA BELOW
0660 ARABIC-INDIC DIGIT |ZERO|ONE|TWO|THREE|FOUR|FIVE|SIX|SEVEN|EIGHT|NINE
066A ARABIC |PERCENT SIGN|DECIMAL SEPARATOR|THOUSANDS SEPARATOR|FIVE POINTED STAR
066E ARABIC LETTER |DOTLESS BEH|DOTLESS QAF|SUPERSCRIPT ALEF|ALEF WASLA
0672 ARABIC LETTER ALEF WITH WAVY HAMZA |ABOVE|BELOW
0674 ARABIC LETTER |HIGH HAMZA|HIGH HAMZA ALEF|HIGH HAMZA WAW|U WITH HAMZA ABOVE|HIGH HAMZA YEH
0679 ARABIC LETTER |TTEH|TTEHEH|BEEH|TEH WITH RING|TEH WITH THREE DOTS ABOVE DOWNWARDS
067E ARABIC LETTER |PEH|TEHEH|BEHEH|HAH WITH HAMZA ABOVE|HAH WITH TWO DOTS VERTICAL ABOVE
0683 ARABIC LETTER |NYEH|DYEH|HAH WITH THREE DOTS ABOVE|TCHEH|TCHEHEH|DDAL
0689 ARABIC LETTER DAL WITH |RING|DOT BELOW|DOT BELOW AND SMALL TAH
068C ARABIC LETTER |DAHAL|DDAHAL|DUL|DAL WITH THREE DOTS ABOVE DOWNWARDS
0690 ARABIC LETTER |DAL WITH FOUR DOTS ABOVE|RREH|REH WITH SMALL V
0693 ARABIC LETTER REH WITH |RING|DOT BELOW|SMALL V BELOW|DOT BELOW AND DOT ABOVE|TWO DOTS ABOVE
0698 ARABIC LETTER |JEH|REH WITH FOUR DOTS ABOVE|SEEN WITH DOT BELOW AND DOT ABOVE
069B ARABIC LETTER SEEN WITH THREE DOTS |BELOW|BELOW AND THREE DOTS ABOVE
069D ARABIC LETTER SAD WITH |TWO DOTS BELOW|THREE DOTS ABOVE
069F ARABIC LETTER |TAH WITH THREE DOTS ABOVE|AIN WITH THREE DOTS ABOVE|DOTLESS FEH
06A2 ARABIC LETTER |FEH WITH DOT MOVED BELOW|FEH WITH DOT BELOW|VEH|FEH WITH THREE DOTS BELOW
06A6 ARABIC LETTER |PEHEH|QAF WITH DOT ABOVE|QAF WITH THREE DOTS ABOVE|KEHEH
06AA ARABIC LETTER |SWASH KAF|KAF WITH RING|KAF WITH DOT ABOVE|NG|KAF WITH THREE DOTS BELOW|GAF
06B0 ARABIC LETTER |GAF WITH RING|NGOEH|GAF WITH TWO DOTS BELOW|GUEH|GAF WITH THREE DOTS ABOVE
06B5 ARABIC LETTER LAM WITH |SMALL V|DOT ABOVE|THREE DOTS ABOVE|THREE DOTS BELOW
06B9 ARABIC LETTER |NOON WITH DOT BELOW|NOON GHUNNA|RNOON|NOON WITH RING
06BD ARABIC LETTER |NOON WITH THREE DOTS ABOVE|HEH DOACHASHMEE|TCHEH WITH DOT ABOVE
06C0 ARABIC LETTER |HEH WITH YEH ABOVE|HEH GOAL|HEH GOAL WITH HAMZA ABOVE|TEH MARBUTA GOAL
06C4 ARABIC LETTER |WAW WITH RING|KIRGHIZ OE|OE|U|YU|KIRGHIZ YU|WAW WITH TWO DOTS ABOVE
06CB ARABIC LETTER |VE|FARSI YEH|YEH WITH TAIL|YEH WITH SMALL V|WAW WITH DOT ABOVE|E
06D1 ARABIC LETTER YEH |WITH THREE DOTS BELOW|BARREE|BARREE WITH HAMZA ABOVE
06D4 ARABIC |FULL STOP|LETTER AE
06D6 ARABIC SMALL HIGH LIGATURE |SAD WITH LAM WITH ALEF MAKSURA|QAF WITH LAM WITH ALEF MAKSURA
06D8 ARABIC SMALL HIGH |MEEM INITIAL FORM|LAM ALEF|JEEM|THREE DOTS|SEEN
06DD ARABIC |END OF AYAH|START OF RUB EL HIZB
06DF ARABIC SMALL HIGH |ROUNDED ZERO|UPRIGHT RECTANGULAR ZERO|DOTLESS HEAD OF KHAH
06E2 ARABIC SMALL |HIGH MEEM ISOLATED FORM|LOW SEEN|HIGH MADDA|WAW|YEH|HIGH YEH|HIGH NOON
06E9 ARABIC |PLACE OF SAJDAH|EMPTY CENTRE LOW STOP
06EB ARABIC |EMPTY CENTRE HIGH STOP|ROUNDED HIGH STOP WITH FILLED CENTRE|SMALL LOW MEEM
06EE ARABIC LETTER |DAL WITH INVERTED V|REH WITH INVERTED V
06F0 EXTENDED ARABIC-INDIC DIGIT |ZERO|ONE|TWO|THREE|FOUR|FIVE|SIX|SEVEN|EIGHT|NINE
06FA ARABIC LETTER |SHEEN WITH DOT BELOW|DAD WITH DOT BELOW|GHAIN WITH DOT BELOW
06FD ARABIC |SIGN SINDHI AMPERSAND|SIGN SINDHI POSTPOSITION MEN|LETTER HEH WITH INVERTED V
0700 SYRIAC |END OF PARAGRAPH|SUPRALINEAR FULL STOP|SUBLINEAR FULL STOP|SUPRALINEAR COLON
0704 SYRIAC |SUBLINEAR COLON|HORIZONTAL COLON|COLON SKEWED LEFT|COLON SKEWED RIGHT
0708 SYRIAC |SUPRALINEAR COLON SKEWED LEFT|SUBLINEAR COLON SKEWED RIGHT|CONTRACTION
070B SYRIAC HARKLEAN |OBELUS|METOBELUS|ASTERISCUS
070F SYRIAC ABBREVIATION |MARK
0710 SYRIAC LETTER |ALAPH|SUPERSCRIPT ALAPH|BETH|GAMAL|GAMAL GARSHUNI|DALATH|DOTLESS DALATH RISH
0717 SYRIAC LETTER |HE|WAW|ZAIN|HETH|TETH|TETH GARSHUNI|YUDH|YUDH HE|KAPH|LAMADH
0721 SYRIAC LETTER |MIM|NUN|SEMKATH|FINAL SEMKATH|E|PE|REVERSED PE|SADHE|QAPH|RISH|SHIN|TAW
072D SYRIAC LETTER PERSIAN |BHETH|GHAMAL|DHALATH
0730 SYRIAC PTHAHA |ABOVE|BELOW|DOTTED
0733 SYRIAC ZQAPHA |ABOVE|BELOW|DOTTED
0736 SYRIAC RBASA |ABOVE|BELOW
0738 SYRIAC DOTTED ZLAMA |HORIZONTAL|ANGULAR
073A SYRIAC HBASA |ABOVE|BELOW
073C SYRIAC |HBASA-ESASA DOTTED|ESASA ABOVE|ESASA BELOW|RWAHA|FEMININE DOT|QUSHSHAYA|RUKKAKHA
0743 SYRIAC TWO VERTICAL DOTS |ABOVE|BELOW
0745 SYRIAC THREE DOTS |ABOVE|BELOW
0747 SYRIAC |OBLIQUE LINE ABOVE|OBLIQUE LINE BELOW|MUSIC|BARREKH
074D SYRIAC LETTER SOGDIAN |ZHAIN|KHAPH|FE
0750 ARABIC LETTER BEH WITH |THREE DOTS HORIZONTALLY BELOW|DOT BELOW AND THREE DOTS ABOVE
0752 ARABIC LETTER BEH WITH THREE DOTS POINTING UPWARDS |BELOW|BELOW AND TWO DOTS ABOVE
0754 ARABIC LETTER BEH WITH |TWO DOTS BELOW AND DOT ABOVE|INVERTED SMALL V BELOW|SMALL V
0757 ARABIC LETTER HAH WITH |TWO DOTS ABOVE|THREE DOTS POINTING UPWARDS BELOW
0759 ARABIC LETTER DAL WITH |TWO DOTS VERTICALLY BELOW AND SMALL TAH|INVERTED SMALL V BELOW
075B ARABIC LETTER |REH WITH STROKE|SEEN WITH FOUR DOTS ABOVE|AIN WITH TWO DOTS ABOVE
075E ARABIC LETTER AIN WITH |THREE DOTS POINTING DOWNWARDS ABOVE|TWO DOTS VERTICALLY ABOVE
0760 ARABIC LETTER FEH WITH |TWO DOTS BELOW|THREE DOTS POINTING UPWARDS BELOW
0762 ARABIC LETTER KEHEH WITH |DOT ABOVE|THREE DOTS ABOVE|THREE DOTS POINTING UPWARDS BELOW
0765 ARABIC LETTER MEEM WITH DOT |ABOVE|BELOW
0767 ARABIC LETTER NOON WITH |TWO DOTS BELOW|SMALL TAH|SMALL V
076A ARABIC LETTER |LAM WITH BAR|REH WITH TWO DOTS VERTICALLY ABOVE
076C ARABIC LETTER |REH WITH HAMZA ABOVE|SEEN WITH TWO DOTS VERTICALLY ABOVE
076E ARABIC LETTER HAH WITH SMALL ARABIC LETTER TAH |BELOW|AND TWO DOTS
0770 ARABIC LETTER SEEN WITH SMALL ARABIC LETTER TAH AND TWO |DOTS
0771 ARABIC LETTER REH WITH SMALL ARABIC LETTER TAH AND TWO |DOTS
0772 ARABIC LETTER HAH WITH SMALL ARABIC LETTER TAH |ABOVE
0773 ARABIC LETTER ALEF WITH EXTENDED ARABIC-INDIC DIGIT |TWO ABOVE|THREE ABOVE
0775 ARABIC LETTER FARSI YEH WITH EXTENDED ARABIC-INDIC DIGIT |TWO ABOVE|THREE ABOVE|FOUR BELOW
0778 ARABIC LETTER WAW WITH EXTENDED ARABIC-INDIC DIGIT |TWO ABOVE|THREE ABOVE
077A ARABIC LETTER YEH BARREE WITH EXTENDED ARABIC-INDIC DIGIT |TWO ABOVE|THREE ABOVE
077C ARABIC LETTER HAH WITH EXTENDED ARABIC-INDIC DIGIT FOUR |BELOW
077D ARABIC LETTER SEEN WITH |EXTENDED ARABIC-INDIC DIGIT FOUR ABOVE|INVERTED V
077F ARABIC LETTER KAF WITH TWO DOTS |ABOVE
0780 THAANA LETTER |HAA|SHAVIYANI|NOONU
0783 THAANA LETTER |RAA|BAA|LHAVIYANI|KAAFU|ALIFU|VAAVU|MEEMU|FAAFU|DHAALU|THAA|LAAMU|GAAFU
078F THAANA LETTER |GNAVIYANI|SEENU|DAVIYANI|ZAVIYANI|TAVIYANI|YAA|PAVIYANI|JAVIYANI|CHAVIYANI
0798 THAANA LETTER |TTAA|HHAA|KHAA|THAALU|ZAA|SHEENU|SAADHU|DAADHU|TO|ZO|AINU|GHAINU|QAAFU|WAAVU
07A6 THAANA |ABAFILI|AABAAFILI|IBIFILI
07A9 THAANA |EEBEEFILI|UBUFILI|OOBOOFILI|EBEFILI|EYBEYFILI|OBOFILI|OABOAFILI|SUKUN|LETTER NAA
07C0 NKO DIGIT |ZERO|ONE|TWO|THREE|FOUR|FIVE|SIX|SEVEN|EIGHT|NINE
07CA NKO LETTER |A|EE|I|E|U|OO|O|DAGBASINNA|N|BA|PA|TA|JA|CHA|DA|RA|RRA|SA
07DC NKO LETTER |GBA|FA|KA|LA|NA WOLOSO|MA|NYA|NA|HA|WA|YA|NYA WOLOSO|JONA JA|JONA CHA|JONA RA
07EB NKO COMBINING SHORT |HIGH TONE|LOW TONE|RISING TONE
07EE NKO COMBINING LONG |DESCENDING TONE|HIGH TONE|LOW TONE|RISING TONE
07F2 NKO COMBINING |NASALIZATION MARK|DOUBLE DOT ABOVE
07F4 NKO |HIGH TONE APOSTROPHE|LOW TONE APOSTROPHE
07F6 NKO |SYMBOL OO DENNEN|SYMBOL GBAKURUNEN|COMMA|EXCLAMATION MARK|LAJANYALAN
07FD NKO |DANTAYALAN|DOROME SIGN|TAMAN SIGN
0800 SAMARITAN LETTER |ALAF|BIT|GAMAN|DALAT|IY|BAA|ZEN
0807 SAMARITAN LETTER |IT|TIT|YUT|KAAF|LABAT|MIM|NUN|SINGAAT|IN|FI|TSAADIY|QUF|RISH|SHAN|TAAF
0816 SAMARITAN MARK |IN|IN-ALAF|OCCLUSION|DAGESH
081A SAMARITAN |MODIFIER LETTER EPENTHETIC YUT|MARK EPENTHETIC YUT
081C SAMARITAN VOWEL SIGN |LONG E|E|OVERLONG AA|LONG AA|AA|OVERLONG A|LONG A|A
0824 SAMARITAN MODIFIER LETTER SHORT |A
0825 SAMARITAN VOWEL SIGN |SHORT A|LONG U|U
0828 SAMARITAN MODIFIER LETTER |I
0829 SAMARITAN VOWEL SIGN |LONG I|I|O|SUKUN
082D SAMARITAN MARK |NEQUDAA
0830 SAMARITAN PUNCTUATION |NEQUDAA|AFSAAQ|ANGED|BAU|ATMAAU|SHIYYAALAA
0836 SAMARITAN ABBREVIATION |MARK
0837 SAMARITAN PUNCTUATION |MELODIC QITSA|ZIQAA|QITSA|ZAEF|TURU|ARKAANU|SOF MASHFAAT|ANNAAU
0840 MANDAIC LETTER |HALQA|AB|AG|AD|AH|USHENNA
0846 MANDAIC LETTER |AZ|IT|ATT|AKSA|AK|AL|AM|AN|AS|IN|AP|ASZ|AQ|AR|ASH|AT|DUSHENNA|KAD|AIN
0859 MANDAIC |AFFRICATION MARK|VOCALIZATION MARK|GEMINATION MARK
085E MANDAIC |PUNCTUATION
0860 SYRIAC LETTER MALAYALAM |NGA|JA|NYA|TTA|NNA|NNNA|BHA|RA|LLA|LLLA|SSA
0870 ARABIC LETTER ALEF WITH ATTACHED |FATHA|TOP RIGHT FATHA
0872 ARABIC LETTER ALEF WITH |RIGHT MIDDLE STROKE|LEFT MIDDLE STROKE
0874 ARABIC LETTER ALEF WITH ATTACHED |KASRA|BOTTOM RIGHT KASRA|ROUND DOT ABOVE
0877 ARABIC LETTER ALEF WITH ATTACHED |RIGHT ROUND DOT|LEFT ROUND DOT|ROUND DOT BELOW
087A ARABIC LETTER ALEF WITH |DOT ABOVE|ATTACHED TOP RIGHT FATHA AND DOT ABOVE
087C ARABIC LETTER ALEF WITH RIGHT MIDDLE STROKE AND DOT |ABOVE
087D ARABIC LETTER ALEF WITH ATTACHED BOTTOM RIGHT KASRA AND DOT |ABOVE
087E ARABIC LETTER ALEF WITH ATTACHED TOP RIGHT FATHA AND LEFT |RING
087F ARABIC LETTER ALEF WITH RIGHT MIDDLE STROKE AND LEFT |RING
0880 ARABIC LETTER ALEF WITH ATTACHED |BOTTOM RIGHT KASRA AND LEFT RING|RIGHT HAMZA|LEFT HAMZA
0883 ARABIC TATWEEL WITH |OVERSTRUCK HAMZA|OVERSTRUCK WAW|TWO DOTS BELOW
0886 ARABIC |LETTER THIN YEH|BASELINE ROUND DOT|RAISED ROUND DOT
0889 ARABIC LETTER |NOON WITH INVERTED SMALL V|HAH WITH INVERTED SMALL V BELOW
088B ARABIC LETTER TAH WITH |DOT BELOW|THREE DOTS BELOW
088D ARABIC |LETTER KEHEH WITH TWO DOTS VERTICALLY BELOW|VERTICAL TAIL
0890 ARABIC |POUND MARK ABOVE|PIASTRE MARK ABOVE
0898 ARABIC SMALL |HIGH WORD AL-JUZ|LOW WORD ISHMAAM|LOW WORD IMAALA|LOW WORD TASHEEL
089C ARABIC |MADDA WAAJIB|SUPERSCRIPT ALEF MOKHASSAS|DOUBLED MADDA|HALF MADDA OVER MADDA
08A0 ARABIC LETTER |BEH WITH SMALL V BELOW|BEH WITH HAMZA ABOVE|JEEM WITH TWO DOTS ABOVE
08A3 ARABIC LETTER |TAH WITH TWO DOTS ABOVE|FEH WITH DOT BELOW AND THREE DOTS ABOVE
08A5 ARABIC LETTER |QAF WITH DOT BELOW|LAM WITH DOUBLE BAR|MEEM WITH THREE DOTS ABOVE
08A8 ARABIC LETTER YEH WITH TWO DOTS BELOW AND |HAMZA ABOVE|DOT ABOVE
08AA ARABIC LETTER |REH WITH LOOP|WAW WITH DOT WITHIN|ROHINGYA YEH|LOW ALEF
08AE ARABIC LETTER |DAL WITH THREE DOTS BELOW|SAD WITH THREE DOTS BELOW|GAF WITH INVERTED STROKE
08B1 ARABIC LETTER |STRAIGHT WAW|ZAIN WITH INVERTED V ABOVE|AIN WITH THREE DOTS BELOW
08B4 ARABIC LETTER |KAF WITH DOT BELOW|QAF WITH DOT BELOW AND NO DOTS ABOVE
08B6 ARABIC LETTER |BEH WITH SMALL MEEM ABOVE|PEH WITH SMALL MEEM ABOVE|TEH WITH SMALL TEH ABOVE
08B9 ARABIC LETTER |REH WITH SMALL NOON ABOVE|YEH WITH TWO DOTS BELOW AND SMALL NOON ABOVE
08BB ARABIC LETTER |AFRICAN FEH|AFRICAN QAF|AFRICAN NOON|PEH WITH SMALL V
08BF ARABIC LETTER |TEH WITH SMALL V|TTEH WITH SMALL V|TCHEH WITH SMALL V|KEHEH WITH SMALL V
08C3 ARABIC LETTER |GHAIN WITH THREE DOTS ABOVE|AFRICAN QAF WITH THREE DOTS ABOVE
08C5 ARABIC LETTER JEEM WITH THREE DOTS |ABOVE|BELOW
08C7 ARABIC |LETTER LAM WITH SMALL ARABIC LETTER TAH ABOVE|LETTER GRAF|SMALL FARSI YEH
08CA ARABIC SMALL HIGH |FARSI YEH|YEH BARREE WITH TWO DOTS BELOW|WORD SAH|ZAH
08CE ARABIC LARGE ROUND DOT |ABOVE|BELOW
08D0 ARABIC |SUKUN BELOW|LARGE CIRCLE BELOW|LARGE ROUND DOT INSIDE CIRCLE BELOW|SMALL LOW WAW
08D4 ARABIC SMALL HIGH |WORD AR-RUB|SAD|AIN|QAF|NOON WITH KASRA
08D9 ARABIC SMALL LOW NOON WITH |KASRA
08DA ARABIC SMALL HIGH WORD |ATH-THALATHA|AS-SAJDA|AN-NISF|SAKTA|QIF|WAQFA
08E0 ARABIC SMALL HIGH |FOOTNOTE MARKER|SIGN SAFHA
08E2 ARABIC |DISPUTED END OF AYAH|TURNED DAMMA BELOW
08E4 ARABIC CURLY |FATHA|DAMMA|KASRA|FATHATAN|DAMMATAN|KASRATAN
08EA ARABIC TONE |ONE DOT ABOVE|TWO DOTS ABOVE|LOOP ABOVE|ONE DOT BELOW|TWO DOTS BELOW
08EF ARABIC |TONE LOOP BELOW|OPEN FATHATAN|OPEN DAMMATAN|OPEN KASRATAN|SMALL HIGH WAW
08F4 ARABIC |FATHA WITH RING|FATHA WITH DOT ABOVE|KASRA WITH DOT BELOW|LEFT ARROWHEAD ABOVE
08F8 ARABIC |RIGHT ARROWHEAD ABOVE|LEFT ARROWHEAD BELOW|RIGHT ARROWHEAD BELOW
08FB ARABIC DOUBLE RIGHT ARROWHEAD |ABOVE|ABOVE WITH DOT
08FD ARABIC |RIGHT ARROWHEAD ABOVE WITH DOT|DAMMA WITH DOT|MARK SIDEWAYS NOON GHUNNA"

end Text
end RecordRules
