/-!
# Character names: Indic scripts

Names of the characters of the scripts from India to the Pacific and their neighbours, `U+0900` to
`U+1FFF`.  Each line gives a code point, the beginning of a name, and how the names of the code
points from there on end.
-/

set_option autoImplicit false

namespace RecordRules
namespace Text

/-- The names of the characters of the scripts from India to the Pacific and their neighbours. -/
def indicNames : String :=
  "0900 DEVANAGARI SIGN |INVERTED CANDRABINDU|CANDRABINDU|ANUSVARA|VISARGA
0904 DEVANAGARI LETTER |SHORT A|A
0906 DEVANAGARI LETTER |AA|I|II|U|UU|VOCALIC R|VOCALIC L|CANDRA E|SHORT E|E|AI|CANDRA O|SHORT O
0913 DEVANAGARI LETTER |O|AU|KA|KHA|GA|GHA|NGA|CA|CHA|JA|JHA|NYA|TTA|TTHA|DDA|DDHA|NNA|TA|THA
0926 DEVANAGARI LETTER |DA|DHA|NA|NNNA|PA|PHA|BA|BHA|MA|YA|RA|RRA|LA|LLA|LLLA|VA|SHA|SSA|SA|HA
093A DEVANAGARI |VOWEL SIGN OE|VOWEL SIGN OOE|SIGN NUKTA|SIGN AVAGRAHA
093E DEVANAGARI VOWEL SIGN |AA|I|II|U
0942 DEVANAGARI VOWEL SIGN |UU|VOCALIC R|VOCALIC RR|CANDRA E|SHORT E|E|AI|CANDRA O|SHORT O|O|AU
094D DEVANAGARI |SIGN VIRAMA|VOWEL SIGN PRISHTHAMATRA E|VOWEL SIGN AW
0950 DEVANAGARI |OM|STRESS SIGN UDATTA|STRESS SIGN ANUDATTA|GRAVE ACCENT|ACUTE ACCENT
0955 DEVANAGARI VOWEL SIGN |CANDRA LONG E|UE|UUE
0958 DEVANAGARI LETTER |QA|KHHA|GHHA|ZA|DDDHA|RHA|FA|YYA|VOCALIC RR|VOCALIC LL
0962 DEVANAGARI VOWEL SIGN VOCALIC |L|LL
0964 DEVANAGARI |DANDA|DOUBLE DANDA
0966 DEVANAGARI DIGIT |ZERO|ONE|TWO|THREE|FOUR|FIVE|SIX|SEVEN|EIGHT|NINE
0970 DEVANAGARI |ABBREVIATION SIGN|SIGN HIGH SPACING DOT|LETTER CANDRA A
0973 DEVANAGARI LETTER |OE|OOE|AW|UE|UUE|MARWARI DDA|ZHA|HEAVY YA|GGA|JJA|GLOTTAL STOP|DDDA|BBA
0980 BENGALI |ANJI|SIGN CANDRABINDU|SIGN ANUSVARA|SIGN VISARGA
0985 BENGALI LETTER |A|AA|I|II|U|UU|VOCALIC R|VOCALIC L
098F BENGALI LETTER |E|AI
0993 BENGALI LETTER |O|AU
0995 BENGALI LETTER |KA|KHA|GA|GHA|NGA|CA|CHA|JA|JHA|NYA|TTA|TTHA|DDA|DDHA|NNA|TA|THA|DA|DHA|NA
09AA BENGALI LETTER |PA|PHA|BA|BHA|MA|YA|RA
09B2 BENGALI LETTER |LA
09B6 BENGALI LETTER |SHA|SSA|SA|HA
09BC BENGALI SIGN |NUKTA|AVAGRAHA
09BE BENGALI VOWEL SIGN |AA|I|II|U|UU|VOCALIC R|VOCALIC RR
09C7 BENGALI VOWEL SIGN |E|AI
09CB BENGALI |VOWEL SIGN O|VOWEL SIGN AU|SIGN VIRAMA|LETTER KHANDA TA
09D7 BENGALI AU LENGTH |MARK
09DC BENGALI LETTER |RRA|RHA
09DF BENGALI LETTER |YYA|VOCALIC RR|VOCALIC LL
09E2 BENGALI VOWEL SIGN VOCALIC |L|LL
09E6 BENGALI DIGIT |ZERO|ONE|TWO|THREE|FOUR|FIVE|SIX|SEVEN|EIGHT|NINE
09F0 BENGALI LETTER RA WITH |MIDDLE DIAGONAL|LOWER DIAGONAL
09F2 BENGALI RUPEE |MARK|SIGN
09F4 BENGALI CURRENCY NUMERATOR |ONE|TWO|THREE|FOUR|ONE LESS THAN THE DENOMINATOR
09F9 BENGALI CURRENCY DENOMINATOR |SIXTEEN
09FA BENGALI |ISSHAR|GANDA MARK|LETTER VEDIC ANUSVARA|ABBREVIATION SIGN|SANDHI MARK
0A01 GURMUKHI SIGN |ADAK BINDI|BINDI|VISARGA
0A05 GURMUKHI LETTER |A|AA|I|II|U|UU
0A0F GURMUKHI LETTER |EE|AI
0A13 GURMUKHI LETTER |OO|AU
0A15 GURMUKHI LETTER |KA|KHA|GA|GHA|NGA|CA|CHA|JA|JHA|NYA|TTA|TTHA|DDA|DDHA|NNA|TA|THA|DA|DHA|NA
0A2A GURMUKHI LETTER |PA|PHA|BA|BHA|MA|YA|RA
0A32 GURMUKHI LETTER |LA|LLA
0A35 GURMUKHI LETTER |VA|SHA
0A38 GURMUKHI LETTER |SA|HA
0A3C GURMUKHI SIGN |NUKTA
0A3E GURMUKHI VOWEL SIGN |AA|I|II|U|UU
0A47 GURMUKHI VOWEL SIGN |EE|AI
0A4B GURMUKHI |VOWEL SIGN OO|VOWEL SIGN AU|SIGN VIRAMA
0A51 GURMUKHI SIGN |UDAAT
0A59 GURMUKHI LETTER |KHHA|GHHA|ZA|RRA
0A5E GURMUKHI LETTER |FA
0A66 GURMUKHI DIGIT |ZERO|ONE|TWO|THREE|FOUR|FIVE|SIX|SEVEN|EIGHT|NINE
0A70 GURMUKHI |TIPPI|ADDAK|IRI|URA|EK ONKAR|SIGN YAKASH|ABBREVIATION SIGN
0A81 GUJARATI SIGN |CANDRABINDU|ANUSVARA|VISARGA
0A85 GUJARATI LETTER |A|AA|I|II|U|UU|VOCALIC R|VOCALIC L
0A8D GUJARATI VOWEL CANDRA |E
0A8F GUJARATI |LETTER E|LETTER AI|VOWEL CANDRA O
0A93 GUJARATI LETTER |O|AU
0A95 GUJARATI LETTER |KA|KHA|GA|GHA|NGA|CA|CHA|JA|JHA|NYA|TTA|TTHA|DDA|DDHA|NNA|TA|THA|DA|DHA|NA
0AAA GUJARATI LETTER |PA|PHA|BA|BHA|MA|YA|RA
0AB2 GUJARATI LETTER |LA|LLA
0AB5 GUJARATI LETTER |VA|SHA|SSA|SA|HA
0ABC GUJARATI SIGN |NUKTA|AVAGRAHA
0ABE GUJARATI VOWEL SIGN |AA|I|II|U|UU|VOCALIC R|VOCALIC RR|CANDRA E
0AC7 GUJARATI VOWEL SIGN |E|AI|CANDRA O
0ACB GUJARATI |VOWEL SIGN O|VOWEL SIGN AU|SIGN VIRAMA
0AD0 GUJARATI |OM
0AE0 GUJARATI LETTER VOCALIC |RR|LL
0AE2 GUJARATI VOWEL SIGN VOCALIC |L|LL
0AE6 GUJARATI DIGIT |ZERO|ONE|TWO|THREE|FOUR|FIVE|SIX|SEVEN|EIGHT|NINE
0AF0 GUJARATI |ABBREVIATION SIGN|RUPEE SIGN
0AF9 GUJARATI |LETTER ZHA|SIGN SUKUN|SIGN SHADDA
0AFC GUJARATI SIGN |MADDAH|THREE-DOT NUKTA ABOVE|CIRCLE NUKTA ABOVE|TWO-CIRCLE NUKTA ABOVE
0B01 ORIYA SIGN |CANDRABINDU|ANUSVARA|VISARGA
0B05 ORIYA LETTER |A|AA|I|II|U|UU|VOCALIC R|VOCALIC L
0B0F ORIYA LETTER |E|AI
0B13 ORIYA LETTER |O
0B14 ORIYA LETTER |AU|KA|KHA|GA|GHA|NGA|CA|CHA|JA|JHA|NYA|TTA|TTHA|DDA|DDHA|NNA|TA|THA|DA|DHA|NA
0B2A ORIYA LETTER |PA|PHA|BA|BHA|MA|YA|RA
0B32 ORIYA LETTER |LA|LLA
0B35 ORIYA LETTER |VA|SHA|SSA|SA|HA
0B3C ORIYA SIGN |NUKTA|AVAGRAHA
0B3E ORIYA VOWEL SIGN |AA|I|II|U|UU|VOCALIC R|VOCALIC RR
0B47 ORIYA VOWEL SIGN |E|AI
0B4B ORIYA |VOWEL SIGN O|VOWEL SIGN AU|SIGN VIRAMA
0B55 ORIYA |SIGN OVERLINE|AI LENGTH MARK|AU LENGTH MARK
0B5C ORIYA LETTER |RRA|RHA
0B5F ORIYA LETTER |YYA|VOCALIC RR|VOCALIC LL
0B62 ORIYA VOWEL SIGN VOCALIC |L|LL
0B66 ORIYA DIGIT |ZERO|ONE|TWO|THREE|FOUR|FIVE|SIX|SEVEN|EIGHT|NINE
0B70 ORIYA |ISSHAR|LETTER WA|FRACTION ONE QUARTER
0B73 ORIYA FRACTION |ONE HALF|THREE QUARTERS|ONE SIXTEENTH|ONE EIGHTH|THREE SIXTEENTHS
0B82 TAMIL SIGN |ANUSVARA|VISARGA
0B85 TAMIL LETTER |A|AA|I|II|U|UU
0B8E TAMIL LETTER |E|EE|AI
0B92 TAMIL LETTER |O|OO|AU|KA
0B99 TAMIL LETTER |NGA|CA
0B9C TAMIL LETTER |JA
0B9E TAMIL LETTER |NYA|TTA
0BA3 TAMIL LETTER |NNA|TA
0BA8 TAMIL LETTER |NA|NNNA|PA
0BAE TAMIL LETTER |MA|YA|RA|RRA|LA|LLA|LLLA|VA|SHA|SSA|SA|HA
0BBE TAMIL VOWEL SIGN |AA|I|II|U|UU
0BC6 TAMIL VOWEL SIGN |E|EE|AI
0BCA TAMIL VOWEL SIGN |O|OO|AU
0BCD TAMIL SIGN |VIRAMA
0BD0 TAMIL |OM
0BD7 TAMIL AU LENGTH |MARK
0BE6 TAMIL DIGIT |ZERO|ONE|TWO|THREE|FOUR|FIVE|SIX|SEVEN|EIGHT|NINE
0BF0 TAMIL NUMBER |TEN|ONE HUNDRED|ONE THOUSAND
0BF3 TAMIL DAY |SIGN
0BF4 TAMIL |MONTH SIGN|YEAR SIGN|DEBIT SIGN|CREDIT SIGN|AS ABOVE SIGN|RUPEE SIGN|NUMBER SIGN
0C00 TELUGU SIGN COMBINING CANDRABINDU |ABOVE
0C01 TELUGU SIGN |CANDRABINDU|ANUSVARA|VISARGA|COMBINING ANUSVARA ABOVE
0C05 TELUGU LETTER |A|AA|I|II|U|UU|VOCALIC R|VOCALIC L
0C0E TELUGU LETTER |E|EE|AI
0C12 TELUGU LETTER |O|OO|AU
0C15 TELUGU LETTER |KA|KHA|GA|GHA|NGA|CA|CHA|JA|JHA|NYA|TTA|TTHA|DDA|DDHA|NNA|TA|THA|DA|DHA|NA
0C2A TELUGU LETTER |PA|PHA|BA|BHA|MA|YA|RA|RRA|LA|LLA|LLLA|VA|SHA|SSA|SA|HA
0C3C TELUGU SIGN |NUKTA|AVAGRAHA
0C3E TELUGU VOWEL SIGN |AA|I|II|U|UU|VOCALIC R|VOCALIC RR
0C46 TELUGU VOWEL SIGN |E|EE|AI
0C4A TELUGU VOWEL SIGN |O|OO|AU
0C4D TELUGU SIGN |VIRAMA
0C55 TELUGU |LENGTH MARK|AI LENGTH MARK
0C58 TELUGU LETTER |TSA|DZA|RRRA
0C5D TELUGU LETTER NAKAARA |POLLU
0C60 TELUGU LETTER VOCALIC |RR|LL
0C62 TELUGU VOWEL SIGN VOCALIC |L|LL
0C66 TELUGU DIGIT |ZERO|ONE|TWO|THREE|FOUR|FIVE|SIX|SEVEN|EIGHT|NINE
0C77 TELUGU SIGN |SIDDHAM
0C78 TELUGU FRACTION DIGIT |ZERO FOR ODD POWERS OF FOUR|ONE FOR ODD POWERS OF FOUR
0C7A TELUGU FRACTION DIGIT |TWO FOR ODD POWERS OF FOUR|THREE FOR ODD POWERS OF FOUR
0C7C TELUGU FRACTION DIGIT |ONE FOR EVEN POWERS OF FOUR|TWO FOR EVEN POWERS OF FOUR
0C7E TELUGU |FRACTION DIGIT THREE FOR EVEN POWERS OF FOUR|SIGN TUUMU
0C80 KANNADA SIGN |SPACING CANDRABINDU|CANDRABINDU|ANUSVARA|VISARGA|SIDDHAM
0C85 KANNADA LETTER |A|AA|I|II|U|UU|VOCALIC R|VOCALIC L
0C8E KANNADA LETTER |E|EE|AI
0C92 KANNADA LETTER |O|OO|AU
0C95 KANNADA LETTER |KA|KHA|GA|GHA|NGA|CA|CHA|JA|JHA|NYA|TTA|TTHA|DDA|DDHA|NNA|TA|THA|DA|DHA|NA
0CAA KANNADA LETTER |PA|PHA|BA|BHA|MA|YA|RA|RRA|LA|LLA
0CB5 KANNADA LETTER |VA|SHA|SSA|SA|HA
0CBC KANNADA SIGN |NUKTA|AVAGRAHA
0CBE KANNADA VOWEL SIGN |AA|I|II|U|UU|VOCALIC R|VOCALIC RR
0CC6 KANNADA VOWEL SIGN |E|EE|AI
0CCA KANNADA VOWEL SIGN |O|OO|AU
0CCD KANNADA SIGN |VIRAMA
0CD5 KANNADA |LENGTH MARK|AI LENGTH MARK
0CDD KANNADA LETTER |NAKAARA POLLU|FA
0CE0 KANNADA LETTER VOCALIC |RR|LL
0CE2 KANNADA VOWEL SIGN VOCALIC |L|LL
0CE6 KANNADA DIGIT |ZERO|ONE|TWO|THREE|FOUR|FIVE|SIX|SEVEN|EIGHT|NINE
0CF1 KANNADA SIGN |JIHVAMULIYA|UPADHMANIYA
0D00 MALAYALAM SIGN |COMBINING ANUSVARA ABOVE|CANDRABINDU|ANUSVARA|VISARGA
0D04 MALAYALAM LETTER |VEDIC ANUSVARA|A|AA|I|II|U|UU|VOCALIC R|VOCALIC L
0D0E MALAYALAM LETTER |E|EE|AI
0D12 MALAYALAM LETTER |O|OO|AU|KA|KHA|GA|GHA|NGA|CA|CHA|JA|JHA|NYA|TTA|TTHA|DDA|DDHA|NNA|TA|THA
0D26 MALAYALAM LETTER |DA|DHA|NA|NNNA|PA|PHA|BA|BHA|MA|YA|RA|RRA|LA|LLA|LLLA|VA|SHA|SSA|SA|HA
0D3A MALAYALAM |LETTER TTTA|SIGN VERTICAL BAR VIRAMA|SIGN CIRCULAR VIRAMA|SIGN AVAGRAHA
0D3E MALAYALAM VOWEL SIGN |AA|I|II|U|UU|VOCALIC R|VOCALIC RR
0D46 MALAYALAM VOWEL SIGN |E|EE|AI
0D4A MALAYALAM VOWEL SIGN |O|OO|AU
0D4D MALAYALAM |SIGN VIRAMA|LETTER DOT REPH|SIGN PARA
0D54 MALAYALAM LETTER CHILLU |M|Y|LLL
0D57 MALAYALAM |AU LENGTH MARK|FRACTION ONE ONE-HUNDRED-AND-SIXTIETH|FRACTION ONE FORTIETH
0D5A MALAYALAM FRACTION |THREE EIGHTIETHS|ONE TWENTIETH|ONE TENTH|THREE TWENTIETHS|ONE FIFTH
0D5F MALAYALAM LETTER |ARCHAIC II|VOCALIC RR|VOCALIC LL
0D62 MALAYALAM VOWEL SIGN VOCALIC |L|LL
0D66 MALAYALAM DIGIT |ZERO|ONE|TWO|THREE|FOUR|FIVE|SIX|SEVEN|EIGHT|NINE
0D70 MALAYALAM NUMBER |TEN|ONE HUNDRED|ONE THOUSAND
0D73 MALAYALAM FRACTION |ONE QUARTER|ONE HALF|THREE QUARTERS|ONE SIXTEENTH|ONE EIGHTH
0D78 MALAYALAM |FRACTION THREE SIXTEENTHS|DATE MARK
0D7A MALAYALAM LETTER CHILLU |NN|N|RR|L|LL|K
0D81 SINHALA SIGN |CANDRABINDU|ANUSVARAYA|VISARGAYA
0D85 SINHALA LETTER |AYANNA|AAYANNA|AEYANNA|AEEYANNA|IYANNA|IIYANNA|UYANNA|UUYANNA|IRUYANNA
0D8E SINHALA LETTER |IRUUYANNA|ILUYANNA|ILUUYANNA|EYANNA|EEYANNA|AIYANNA|OYANNA|OOYANNA|AUYANNA
0D9A SINHALA LETTER |ALPAPRAANA KAYANNA|MAHAAPRAANA KAYANNA|ALPAPRAANA GAYANNA
0D9D SINHALA LETTER |MAHAAPRAANA GAYANNA|KANTAJA NAASIKYAYA|SANYAKA GAYANNA|ALPAPRAANA CAYANNA
0DA1 SINHALA LETTER |MAHAAPRAANA CAYANNA|ALPAPRAANA JAYANNA|MAHAAPRAANA JAYANNA
0DA4 SINHALA LETTER |TAALUJA NAASIKYAYA|TAALUJA SANYOOGA NAAKSIKYAYA|SANYAKA JAYANNA
0DA7 SINHALA LETTER |ALPAPRAANA TTAYANNA|MAHAAPRAANA TTAYANNA|ALPAPRAANA DDAYANNA
0DAA SINHALA LETTER |MAHAAPRAANA DDAYANNA|MUURDHAJA NAYANNA|SANYAKA DDAYANNA|ALPAPRAANA TAYANNA
0DAE SINHALA LETTER |MAHAAPRAANA TAYANNA|ALPAPRAANA DAYANNA|MAHAAPRAANA DAYANNA|DANTAJA NAYANNA
0DB3 SINHALA LETTER |SANYAKA DAYANNA|ALPAPRAANA PAYANNA|MAHAAPRAANA PAYANNA
0DB6 SINHALA LETTER |ALPAPRAANA BAYANNA|MAHAAPRAANA BAYANNA|MAYANNA|AMBA BAYANNA|YAYANNA|RAYANNA
0DBD SINHALA LETTER DANTAJA |LAYANNA
0DC0 SINHALA LETTER |VAYANNA|TAALUJA SAYANNA
0DC2 SINHALA LETTER |MUURDHAJA SAYANNA|DANTAJA SAYANNA|HAYANNA|MUURDHAJA LAYANNA|FAYANNA
0DCA SINHALA SIGN AL-|LAKUNA
0DCF SINHALA VOWEL SIGN |AELA-PILLA|KETTI AEDA-PILLA
0DD1 SINHALA VOWEL SIGN |DIGA AEDA-PILLA|KETTI IS-PILLA|DIGA IS-PILLA|KETTI PAA-PILLA
0DD6 SINHALA VOWEL SIGN DIGA PAA-|PILLA
0DD8 SINHALA VOWEL SIGN |GAETTA-PILLA|KOMBUVA|DIGA KOMBUVA|KOMBU DEKA|KOMBUVA HAA AELA-PILLA
0DDD SINHALA VOWEL SIGN |KOMBUVA HAA DIGA AELA-PILLA|KOMBUVA HAA GAYANUKITTA|GAYANUKITTA
0DE6 SINHALA LITH DIGIT |ZERO|ONE|TWO|THREE|FOUR|FIVE|SIX|SEVEN|EIGHT|NINE
0DF2 SINHALA VOWEL SIGN DIGA |GAETTA-PILLA|GAYANUKITTA
0DF4 SINHALA PUNCTUATION |KUNDDALIYA
0E01 THAI CHARACTER |KO KAI|KHO KHAI|KHO KHUAT|KHO KHWAI|KHO KHON|KHO RAKHANG
0E07 THAI CHARACTER |NGO NGU|CHO CHAN|CHO CHING|CHO CHANG|SO SO|CHO CHOE|YO YING|DO CHADA
0E0F THAI CHARACTER |TO PATAK|THO THAN|THO NANGMONTHO|THO PHUTHAO|NO NEN|DO DEK|TO TAO|THO THUNG
0E17 THAI CHARACTER |THO THAHAN|THO THONG|NO NU|BO BAIMAI|PO PLA|PHO PHUNG|FO FA|PHO PHAN|FO FAN
0E20 THAI CHARACTER |PHO SAMPHAO|MO MA|YO YAK|RO RUA|RU|LO LING|LU|WO WAEN|SO SALA|SO RUSI
0E2A THAI CHARACTER |SO SUA|HO HIP|LO CHULA|O ANG|HO NOKHUK|PAIYANNOI|SARA A|MAI HAN-AKAT
0E32 THAI CHARACTER SARA |AA|AM|I|II|UE|UEE|U|UU
0E3A THAI CHARACTER |PHINTHU
0E3F THAI CURRENCY SYMBOL |BAHT
0E40 THAI CHARACTER SARA |E|AE|O|AI MAIMUAN|AI MAIMALAI
0E45 THAI CHARACTER |LAKKHANGYAO|MAIYAMOK|MAITAIKHU
0E48 THAI CHARACTER |MAI EK|MAI THO|MAI TRI|MAI CHATTAWA|THANTHAKHAT|NIKHAHIT|YAMAKKAN|FONGMAN
0E50 THAI DIGIT |ZERO|ONE|TWO|THREE|FOUR|FIVE|SIX|SEVEN|EIGHT|NINE
0E5A THAI CHARACTER |ANGKHANKHU|KHOMUT
0E81 LAO LETTER |KO|KHO SUNG
0E84 LAO LETTER KHO |TAM
0E86 LAO LETTER |PALI GHA|NGO|CO|PALI CHA|SO TAM
0E8C LAO LETTER |PALI JHA|NYO
0E8E LAO LETTER PALI |NYA|TTA|TTHA|DDA|DDHA|NNA
0E94 LAO LETTER |DO|TO|THO SUNG|THO TAM
0E98 LAO LETTER |PALI DHA|NO|BO|PO|PHO SUNG|FO TAM|PHO TAM|FO SUNG|PALI BHA|MO|YO|LO LING
0EA5 LAO LETTER LO |LOOT
0EA7 LAO LETTER |WO|SANSKRIT SHA|SANSKRIT SSA|SO SUNG|HO SUNG|PALI LLA|O|HO TAM
0EAF LAO |ELLIPSIS
0EB0 LAO VOWEL SIGN |A|MAI KAN|AA|AM|I|II|Y|YY|U|UU
0EBA LAO |SIGN PALI VIRAMA|VOWEL SIGN MAI KON
0EBC LAO SEMIVOWEL SIGN |LO|NYO
0EC0 LAO VOWEL SIGN |E|EI|O|AY|AI
0EC6 LAO KO |LA
0EC8 LAO TONE MAI |EK|THO|TI|CATAWA
0ECC LAO |CANCELLATION MARK|NIGGAHITA
0ED0 LAO DIGIT |ZERO|ONE|TWO|THREE|FOUR|FIVE|SIX|SEVEN|EIGHT|NINE
0EDC LAO HO |NO|MO
0EDE LAO LETTER KHMU |GO|NYO
0F00 TIBETAN SYLLABLE |OM
0F01 TIBETAN MARK GTER YIG MGO |TRUNCATED A|-UM RNAM BCAD MA|-UM GTER TSHEG MA
0F04 TIBETAN MARK INITIAL YIG MGO MDUN |MA
0F05 TIBETAN MARK |CLOSING YIG MGO SGAB MA|CARET YIG MGO PHUR SHAD MA|YIG MGO TSHEG SHAD MA
0F08 TIBETAN MARK |SBRUL SHAD|BSKUR YIG MGO|BKA- SHOG YIG MGO|INTERSYLLABIC TSHEG
0F0C TIBETAN MARK |DELIMITER TSHEG BSTAR|SHAD|NYIS SHAD|TSHEG SHAD|NYIS TSHEG SHAD
0F11 TIBETAN MARK |RIN CHEN SPUNGS SHAD|RGYA GRAM SHAD|CARET -DZUD RTAGS ME LONG CAN|GTER TSHEG
0F15 TIBETAN LOGOTYPE SIGN |CHAD RTAGS|LHAG RTAGS
0F17 TIBETAN ASTROLOGICAL SIGN |SGRA GCAN -CHAR RTAGS|-KHYUD PA|SDONG TSHUGS
0F1A TIBETAN SIGN RDEL |DKAR GCIG|DKAR GNYIS|DKAR GSUM|NAG GCIG|NAG GNYIS|DKAR RDEL NAG
0F20 TIBETAN DIGIT |ZERO|ONE|TWO|THREE|FOUR|FIVE|SIX|SEVEN|EIGHT|NINE
0F2A TIBETAN DIGIT HALF |ONE|TWO|THREE|FOUR|FIVE|SIX|SEVEN|EIGHT|NINE|ZERO
0F34 TIBETAN MARK |BSDUS RTAGS|NGAS BZUNG NYI ZLA|CARET -DZUD RTAGS BZHI MIG CAN
0F37 TIBETAN MARK |NGAS BZUNG SGOR RTAGS|CHE MGO|TSA -PHRU|GUG RTAGS GYON|GUG RTAGS GYAS
0F3C TIBETAN MARK ANG KHANG |GYON|GYAS
0F3E TIBETAN SIGN |YAR TSHES|MAR TSHES
0F40 TIBETAN LETTER |KA|KHA|GA|GHA|NGA|CA|CHA|JA
0F49 TIBETAN LETTER |NYA|TTA|TTHA|DDA|DDHA|NNA|TA|THA|DA|DHA|NA|PA|PHA|BA|BHA|MA|TSA|TSHA
0F5B TIBETAN LETTER |DZA|DZHA|WA|ZHA|ZA|-A|YA|RA|LA|SHA|SSA|SA|HA|A|KSSA|FIXED-FORM RA|KKA|RRA
0F71 TIBETAN VOWEL SIGN |AA|I|II|U|UU|VOCALIC R|VOCALIC RR|VOCALIC L|VOCALIC LL|E|EE|O|OO
0F7E TIBETAN SIGN |RJES SU NGA RO|RNAM BCAD
0F80 TIBETAN VOWEL SIGN REVERSED |I|II
0F82 TIBETAN SIGN |NYI ZLA NAA DA|SNA LDAN
0F84 TIBETAN |MARK HALANTA|MARK PALUTA|SIGN LCI RTAGS|SIGN YANG RTAGS
0F88 TIBETAN SIGN |LCE TSA CAN|MCHU CAN|GRU CAN RGYINGS|GRU MED RGYINGS|INVERTED MCHU CAN
0F8D TIBETAN SUBJOINED SIGN |LCE TSA CAN|MCHU CAN|INVERTED MCHU CAN
0F90 TIBETAN SUBJOINED LETTER |KA|KHA|GA|GHA|NGA|CA|CHA|JA
0F99 TIBETAN SUBJOINED LETTER |NYA|TTA|TTHA|DDA|DDHA|NNA|TA|THA|DA|DHA|NA|PA|PHA|BA|BHA
0FA8 TIBETAN SUBJOINED LETTER |MA|TSA|TSHA|DZA|DZHA|WA|ZHA|ZA|-A|YA|RA|LA|SHA|SSA|SA|HA|A|KSSA
0FBA TIBETAN SUBJOINED LETTER FIXED-FORM |WA|YA|RA
0FBE TIBETAN KU RU |KHA|KHA BZHI MIG CAN
0FC0 TIBETAN CANTILLATION SIGN |HEAVY BEAT|LIGHT BEAT|CANG TE-U|SBUB -CHAL
0FC4 TIBETAN SYMBOL |DRIL BU|RDO RJE|PADMA GDAN|RDO RJE RGYA GRAM|PHUR PA|NOR BU
0FCA TIBETAN SYMBOL NOR BU |NYIS -KHYIL|GSUM -KHYIL|BZHI -KHYIL
0FCE TIBETAN SIGN RDEL NAG |RDEL DKAR|GSUM
0FD0 TIBETAN MARK |BSKA- SHOG GI MGO RGYAN|MNYAM YIG GI MGO RGYAN|NYIS TSHEG
0FD3 TIBETAN MARK |INITIAL BRDA RNYING YIG MGO MDUN MA|CLOSING BRDA RNYING YIG MGO SGAB MA
0FD5 |RIGHT-FACING SVASTI SIGN|LEFT-FACING SVASTI SIGN
0FD7 |RIGHT-FACING SVASTI SIGN WITH DOTS|LEFT-FACING SVASTI SIGN WITH DOTS
0FD9 TIBETAN MARK |LEADING MCHAN RTAGS|TRAILING MCHAN RTAGS
1000 MYANMAR LETTER |KA
1001 MYANMAR LETTER |KHA|GA|GHA|NGA|CA|CHA|JA|JHA|NYA|NNYA|TTA|TTHA|DDA|DDHA|NNA|TA|THA|DA|DHA
1014 MYANMAR LETTER |NA|PA|PHA|BA|BHA|MA|YA|RA|LA|WA|SA|HA|LLA|A|SHAN A|I|II|U|UU|E|MON E|O|AU
102B MYANMAR VOWEL SIGN |TALL AA|AA|I|II|U|UU|E|AI|MON II|MON O|E ABOVE
1036 MYANMAR SIGN |ANUSVARA|DOT BELOW|VISARGA|VIRAMA|ASAT
103B MYANMAR CONSONANT SIGN MEDIAL |YA|RA|WA|HA
103F MYANMAR LETTER GREAT |SA
1040 MYANMAR DIGIT |ZERO|ONE|TWO|THREE|FOUR|FIVE|SIX|SEVEN|EIGHT|NINE
104A MYANMAR SIGN |LITTLE SECTION|SECTION
104C MYANMAR SYMBOL |LOCATIVE|COMPLETED|AFOREMENTIONED|GENITIVE
1050 MYANMAR LETTER |SHA|SSA
1052 MYANMAR LETTER VOCALIC |R|RR|L|LL
1056 MYANMAR VOWEL SIGN VOCALIC |R|RR|L|LL
105A MYANMAR LETTER MON |NGA|JHA|BBA|BBE
105E MYANMAR CONSONANT SIGN MON MEDIAL |NA|MA|LA
1061 MYANMAR |LETTER SGAW KAREN SHA|VOWEL SIGN SGAW KAREN EU
1063 MYANMAR TONE MARK SGAW KAREN |HATHI|KE PHO
1065 MYANMAR LETTER WESTERN PWO KAREN |THA|PWA
1067 MYANMAR VOWEL SIGN WESTERN PWO KAREN |EU|UE
1069 MYANMAR SIGN WESTERN PWO KAREN TONE-|1|2|3|4|5
106E MYANMAR LETTER EASTERN PWO KAREN |NNA|YWA|GHWA
1071 MYANMAR VOWEL SIGN |GEBA KAREN I|KAYAH OE|KAYAH U|KAYAH EE
1075 MYANMAR LETTER SHAN |KA|KHA|GA|CA|ZA|NYA|DA|NA|PHA|FA|BA|THA|HA
1082 MYANMAR CONSONANT SIGN SHAN MEDIAL |WA
1083 MYANMAR VOWEL SIGN SHAN |AA|E|E ABOVE|FINAL Y
1087 MYANMAR SIGN SHAN TONE-|2|3|5|6
108B MYANMAR SIGN SHAN COUNCIL |TONE-2|TONE-3|EMPHATIC TONE
108E MYANMAR |LETTER RUMAI PALAUNG FA|SIGN RUMAI PALAUNG TONE-5
1090 MYANMAR SHAN DIGIT |ZERO|ONE|TWO|THREE|FOUR|FIVE|SIX|SEVEN|EIGHT|NINE
109A MYANMAR SIGN KHAMTI TONE-|1|3
109C MYANMAR VOWEL SIGN AITON |A|AI
109E MYANMAR SYMBOL SHAN |ONE|EXCLAMATION
10A0 GEORGIAN CAPITAL LETTER |AN|BAN|GAN|DON|EN|VIN
10A6 GEORGIAN CAPITAL LETTER |ZEN|TAN|IN|KAN|LAS|MAN|NAR|ON|PAR|ZHAR|RAE|SAN|TAR|UN|PHAR|KHAR
10B6 GEORGIAN CAPITAL LETTER |GHAN|QAR|SHIN|CHIN|CAN|JIL|CIL|CHAR|XAN|JHAN|HAE|HE|HIE|WE|HAR|HOE
10C7 GEORGIAN CAPITAL LETTER |YN
10CD GEORGIAN CAPITAL LETTER |AEN
10D0 GEORGIAN LETTER |AN|BAN|GAN|DON|EN|VIN|ZEN|TAN
10D8 GEORGIAN LETTER |IN|KAN|LAS|MAN|NAR|ON|PAR|ZHAR|RAE|SAN|TAR|UN|PHAR|KHAR|GHAN|QAR|SHIN|CHIN
10EA GEORGIAN LETTER |CAN|JIL|CIL|CHAR|XAN|JHAN|HAE|HE|HIE|WE|HAR|HOE|FI|YN|ELIFI|TURNED GAN|AIN
10FB |GEORGIAN PARAGRAPH SEPARATOR|MODIFIER LETTER GEORGIAN NAR
10FD GEORGIAN LETTER |AEN|HARD SIGN|LABIAL SIGN
1100 HANGUL CHOSEONG |KIYEOK|SSANGKIYEOK|NIEUN|TIKEUT|SSANGTIKEUT|RIEUL|MIEUM|PIEUP|SSANGPIEUP
1109 HANGUL CHOSEONG |SIOS|SSANGSIOS|IEUNG|CIEUC|SSANGCIEUC|CHIEUCH|KHIEUKH|THIEUTH|PHIEUPH
1112 HANGUL CHOSEONG |HIEUH|NIEUN-KIYEOK|SSANGNIEUN|NIEUN-TIKEUT|NIEUN-PIEUP|TIKEUT-KIYEOK
1118 HANGUL CHOSEONG |RIEUL-NIEUN|SSANGRIEUL|RIEUL-HIEUH|KAPYEOUNRIEUL|MIEUM-PIEUP|KAPYEOUNMIEUM
111E HANGUL CHOSEONG PIEUP-|KIYEOK|NIEUN|TIKEUT|SIOS|SIOS-KIYEOK|SIOS-TIKEUT
1124 HANGUL CHOSEONG PIEUP-|SIOS-PIEUP|SSANGSIOS|SIOS-CIEUC|CIEUC|CHIEUCH|THIEUTH|PHIEUPH
112B HANGUL CHOSEONG |KAPYEOUNPIEUP|KAPYEOUNSSANGPIEUP
112D HANGUL CHOSEONG SIOS-|KIYEOK|NIEUN|TIKEUT|RIEUL|MIEUM|PIEUP|PIEUP-KIYEOK
1134 HANGUL CHOSEONG SIOS-|SSANGSIOS|IEUNG|CIEUC|CHIEUCH|KHIEUKH|THIEUTH|PHIEUPH|HIEUH
113C HANGUL CHOSEONG |CHITUEUMSIOS
113D HANGUL CHOSEONG |CHITUEUMSSANGSIOS|CEONGCHIEUMSIOS|CEONGCHIEUMSSANGSIOS|PANSIOS
1141 HANGUL CHOSEONG IEUNG-|KIYEOK|TIKEUT|MIEUM|PIEUP|SIOS|PANSIOS
1147 HANGUL CHOSEONG |SSANGIEUNG|IEUNG-CIEUC|IEUNG-CHIEUCH|IEUNG-THIEUTH|IEUNG-PHIEUPH
114C HANGUL CHOSEONG |YESIEUNG|CIEUC-IEUNG|CHITUEUMCIEUC|CHITUEUMSSANGCIEUC|CEONGCHIEUMCIEUC
1151 HANGUL CHOSEONG |CEONGCHIEUMSSANGCIEUC|CHIEUCH-KHIEUKH|CHIEUCH-HIEUH|CHITUEUMCHIEUCH
1155 HANGUL CHOSEONG |CEONGCHIEUMCHIEUCH|PHIEUPH-PIEUP|KAPYEOUNPHIEUPH|SSANGHIEUH|YEORINHIEUH
115A HANGUL CHOSEONG |KIYEOK-TIKEUT|NIEUN-SIOS|NIEUN-CIEUC|NIEUN-HIEUH|TIKEUT-RIEUL|FILLER
1160 HANGUL JUNGSEONG |FILLER|A|AE|YA|YAE|EO|E|YEO|YE|O|WA|WAE|OE|YO|U|WEO|WE|WI|YU
1173 HANGUL JUNGSEONG |EU|YI|I|A-O|A-U|YA-O|YA-YO|EO-O|EO-U|EO-EU|YEO-O|YEO-U|O-EO|O-E|O-YE|O-O
1183 HANGUL JUNGSEONG |O-U|YO-YA|YO-YAE|YO-YEO|YO-O|YO-I|U-A|U-AE|U-EO-EU|U-YE|U-U|YU-A|YU-EO
1190 HANGUL JUNGSEONG |YU-E|YU-YEO|YU-YE|YU-U|YU-I|EU-U|EU-EU|YI-U|I-A|I-YA|I-O|I-U|I-EU|I-ARAEA
119E HANGUL JUNGSEONG |ARAEA|ARAEA-EO|ARAEA-U|ARAEA-I|SSANGARAEA|A-EU|YA-U|YEO-YA|O-YA|O-YAE
11A8 HANGUL JONGSEONG |KIYEOK|SSANGKIYEOK|KIYEOK-SIOS|NIEUN|NIEUN-CIEUC|NIEUN-HIEUH|TIKEUT|RIEUL
11B0 HANGUL JONGSEONG RIEUL-|KIYEOK|MIEUM|PIEUP|SIOS|THIEUTH|PHIEUPH|HIEUH
11B7 HANGUL JONGSEONG |MIEUM|PIEUP|PIEUP-SIOS|SIOS|SSANGSIOS|IEUNG|CIEUC
11BE HANGUL JONGSEONG |CHIEUCH|KHIEUKH|THIEUTH|PHIEUPH|HIEUH|KIYEOK-RIEUL|KIYEOK-SIOS-KIYEOK
11C5 HANGUL JONGSEONG NIEUN-|KIYEOK|TIKEUT|SIOS|PANSIOS|THIEUTH
11CA HANGUL JONGSEONG TIKEUT-|KIYEOK|RIEUL
11CC HANGUL JONGSEONG RIEUL-|KIYEOK-SIOS|NIEUN|TIKEUT|TIKEUT-HIEUH
11D0 HANGUL JONGSEONG |SSANGRIEUL|RIEUL-MIEUM-KIYEOK|RIEUL-MIEUM-SIOS|RIEUL-PIEUP-SIOS
11D4 HANGUL JONGSEONG RIEUL-|PIEUP-HIEUH|KAPYEOUNPIEUP|SSANGSIOS|PANSIOS|KHIEUKH|YEORINHIEUH
11DA HANGUL JONGSEONG MIEUM-|KIYEOK|RIEUL|PIEUP|SIOS|SSANGSIOS|PANSIOS|CHIEUCH|HIEUH
11E2 HANGUL JONGSEONG |KAPYEOUNMIEUM|PIEUP-RIEUL|PIEUP-PHIEUPH|PIEUP-HIEUH|KAPYEOUNPIEUP
11E7 HANGUL JONGSEONG SIOS-|KIYEOK|TIKEUT|RIEUL|PIEUP
11EB HANGUL JONGSEONG |PANSIOS|IEUNG-KIYEOK|IEUNG-SSANGKIYEOK|SSANGIEUNG|IEUNG-KHIEUKH
11F0 HANGUL JONGSEONG |YESIEUNG|YESIEUNG-SIOS|YESIEUNG-PANSIOS|PHIEUPH-PIEUP|KAPYEOUNPHIEUPH
11F5 HANGUL JONGSEONG |HIEUH-NIEUN|HIEUH-RIEUL|HIEUH-MIEUM|HIEUH-PIEUP|YEORINHIEUH
11FA HANGUL JONGSEONG KIYEOK-|NIEUN|PIEUP|CHIEUCH|KHIEUKH|HIEUH
11FF HANGUL JONGSEONG |SSANGNIEUN
1200 ETHIOPIC SYLLABLE |HA|HU|HI|HAA|HEE|HE|HO|HOA|LA|LU|LI|LAA|LEE|LE|LO|LWA|HHA
1211 ETHIOPIC SYLLABLE |HHU|HHI|HHAA|HHEE|HHE|HHO|HHWA|MA|MU|MI|MAA|MEE|ME|MO|MWA|SZA|SZU|SZI
1223 ETHIOPIC SYLLABLE |SZAA|SZEE|SZE|SZO|SZWA|RA|RU|RI|RAA|REE|RE|RO|RWA|SA|SU|SI|SAA|SEE|SE
1236 ETHIOPIC SYLLABLE |SO|SWA|SHA|SHU|SHI|SHAA|SHEE|SHE|SHO|SHWA|QA|QU|QI|QAA|QEE|QE|QO|QOA|QWA
124A ETHIOPIC SYLLABLE |QWI|QWAA|QWEE|QWE
1250 ETHIOPIC SYLLABLE |QHA|QHU|QHI|QHAA|QHEE|QHE|QHO
1258 ETHIOPIC SYLLABLE |QHWA
125A ETHIOPIC SYLLABLE |QHWI|QHWAA|QHWEE|QHWE
1260 ETHIOPIC SYLLABLE |BA|BU|BI|BAA|BEE|BE|BO|BWA|VA|VU|VI|VAA|VEE|VE|VO|VWA|TA|TU|TI|TAA
1274 ETHIOPIC SYLLABLE |TEE|TE|TO|TWA|CA|CU|CI|CAA|CEE|CE|CO|CWA|XA|XU|XI|XAA|XEE|XE|XO|XOA|XWA
128A ETHIOPIC SYLLABLE |XWI|XWAA|XWEE|XWE
1290 ETHIOPIC SYLLABLE |NA|NU|NI|NAA|NEE|NE|NO|NWA|NYA|NYU|NYI|NYAA|NYEE|NYE|NYO|NYWA
12A0 ETHIOPIC SYLLABLE GLOTTAL |A|U|I|AA|EE|E|O|WA
12A8 ETHIOPIC SYLLABLE |KA|KU|KI|KAA|KEE|KE|KO|KOA|KWA
12B2 ETHIOPIC SYLLABLE |KWI|KWAA|KWEE|KWE
12B8 ETHIOPIC SYLLABLE |KXA|KXU|KXI|KXAA|KXEE|KXE|KXO
12C0 ETHIOPIC SYLLABLE |KXWA
12C2 ETHIOPIC SYLLABLE |KXWI|KXWAA|KXWEE|KXWE
12C8 ETHIOPIC SYLLABLE |WA|WU|WI|WAA|WEE|WE|WO|WOA
12D0 ETHIOPIC SYLLABLE PHARYNGEAL |A|U|I|AA|EE|E|O
12D8 ETHIOPIC SYLLABLE |ZA|ZU|ZI|ZAA|ZEE|ZE|ZO|ZWA|ZHA|ZHU|ZHI|ZHAA|ZHEE|ZHE|ZHO|ZHWA|YA
12E9 ETHIOPIC SYLLABLE |YU|YI|YAA|YEE|YE|YO|YOA|DA|DU|DI|DAA|DEE|DE|DO|DWA|DDA|DDU|DDI|DDAA|DDEE
12FD ETHIOPIC SYLLABLE |DDE|DDO|DDWA|JA|JU|JI|JAA|JEE|JE|JO|JWA|GA|GU|GI|GAA|GEE|GE|GO|GOA|GWA
1312 ETHIOPIC SYLLABLE |GWI|GWAA|GWEE|GWE
1318 ETHIOPIC SYLLABLE |GGA|GGU|GGI|GGAA|GGEE|GGE|GGO|GGWAA|THA|THU|THI|THAA|THEE|THE|THO
1327 ETHIOPIC SYLLABLE |THWA|CHA|CHU|CHI|CHAA|CHEE|CHE|CHO|CHWA|PHA|PHU|PHI|PHAA|PHEE|PHE|PHO
1337 ETHIOPIC SYLLABLE |PHWA|TSA|TSU|TSI|TSAA|TSEE|TSE|TSO|TSWA|TZA|TZU|TZI|TZAA|TZEE|TZE|TZO
1347 ETHIOPIC SYLLABLE |TZOA|FA|FU|FI|FAA|FEE|FE|FO|FWA|PA|PU|PI|PAA|PEE|PE|PO|PWA|RYA|MYA|FYA
135D ETHIOPIC COMBINING |GEMINATION AND VOWEL LENGTH MARK|VOWEL LENGTH MARK|GEMINATION MARK
1360 ETHIOPIC |SECTION MARK|WORDSPACE
1362 ETHIOPIC |FULL STOP|COMMA|SEMICOLON|COLON|PREFACE COLON|QUESTION MARK|PARAGRAPH SEPARATOR
1369 ETHIOPIC DIGIT |ONE|TWO|THREE|FOUR|FIVE|SIX|SEVEN|EIGHT|NINE
1372 ETHIOPIC NUMBER |TEN
1373 ETHIOPIC NUMBER |TWENTY|THIRTY|FORTY|FIFTY|SIXTY|SEVENTY|EIGHTY|NINETY|HUNDRED|TEN THOUSAND
1380 ETHIOPIC SYLLABLE |SEBATBEIT MWA|MWI|MWEE|MWE|SEBATBEIT BWA
1385 ETHIOPIC SYLLABLE |BWI|BWEE|BWE|SEBATBEIT FWA|FWI|FWEE|FWE|SEBATBEIT PWA|PWI|PWEE|PWE
1390 ETHIOPIC TONAL MARK |YIZET
1391 ETHIOPIC TONAL MARK |DERET|RIKRIK|SHORT RIKRIK|DIFAT|KENAT|CHIRET|HIDET|DERET-HIDET|KURT
13A0 CHEROKEE LETTER |A|E|I|O|U|V|GA|KA|GE|GI|GO|GU|GV|HA|HE|HI|HO|HU
13B2 CHEROKEE LETTER |HV|LA|LE|LI|LO|LU|LV|MA|ME|MI|MO|MU|NA|HNA|NAH|NE|NI|NO|NU|NV|QUA|QUE|QUI
13C9 CHEROKEE LETTER |QUO|QUU|QUV|SA|S|SE|SI|SO|SU|SV|DA|TA|DE|TE|DI|TI|DO|DU|DV|DLA|TLA|TLE|TLI
13E0 CHEROKEE LETTER |TLO|TLU|TLV|TSA|TSE|TSI|TSO|TSU|TSV|WA|WE|WI|WO|WU|WV|YA|YE|YI|YO|YU|YV|MV
13F8 CHEROKEE SMALL LETTER |YE|YI|YO|YU|YV|MV
1400 CANADIAN SYLLABICS |HYPHEN|E|AAI|I|II|O|OO|Y-CREE OO|CARRIER EE|CARRIER I
140A CANADIAN SYLLABICS |A|AA|WE|WEST-CREE WE|WI|WEST-CREE WI|WII|WEST-CREE WII|WO|WEST-CREE WO
1414 CANADIAN SYLLABICS |WOO|WEST-CREE WOO|NASKAPI WOO|WA|WEST-CREE WA|WAA|WEST-CREE WAA
141B CANADIAN SYLLABICS |NASKAPI WAA|AI|Y-CREE W|GLOTTAL STOP|FINAL ACUTE|FINAL GRAVE
1421 CANADIAN SYLLABICS FINAL |BOTTOM HALF RING|TOP HALF RING|RIGHT HALF RING|RING|DOUBLE ACUTE
1426 CANADIAN SYLLABICS FINAL |DOUBLE SHORT VERTICAL STROKES|MIDDLE DOT|SHORT HORIZONTAL STROKE
1429 CANADIAN SYLLABICS |FINAL PLUS|FINAL DOWN TACK|EN|IN|ON|AN|PE|PAAI|PI|PII|PO|POO|Y-CREE POO
1436 CANADIAN SYLLABICS |CARRIER HEE|CARRIER HI|PA|PAA|PWE|WEST-CREE PWE|PWI|WEST-CREE PWI|PWII
143F CANADIAN SYLLABICS |WEST-CREE PWII|PWO|WEST-CREE PWO|PWOO|WEST-CREE PWOO|PWA|WEST-CREE PWA
1446 CANADIAN SYLLABICS |PWAA|WEST-CREE PWAA|Y-CREE PWAA|P|WEST-CREE P|CARRIER H|TE|TAAI|TI
144F CANADIAN SYLLABICS |TII|TO|TOO|Y-CREE TOO|CARRIER DEE|CARRIER DI|TA|TAA|TWE|WEST-CREE TWE
1459 CANADIAN SYLLABICS |TWI|WEST-CREE TWI|TWII|WEST-CREE TWII|TWO|WEST-CREE TWO|TWOO
1460 CANADIAN SYLLABICS |WEST-CREE TWOO|TWA|WEST-CREE TWA|TWAA|WEST-CREE TWAA|NASKAPI TWAA|T|TTE
1468 CANADIAN SYLLABICS |TTI|TTO|TTA|KE|KAAI|KI|KII|KO|KOO|Y-CREE KOO|KA|KAA|KWE|WEST-CREE KWE
1476 CANADIAN SYLLABICS |KWI|WEST-CREE KWI|KWII|WEST-CREE KWII|KWO|WEST-CREE KWO|KWOO
147D CANADIAN SYLLABICS |WEST-CREE KWOO|KWA|WEST-CREE KWA|KWAA|WEST-CREE KWAA|NASKAPI KWAA|K|KW
1485 CANADIAN SYLLABICS SOUTH-SLAVEY |KEH|KIH|KOH|KAH
1489 CANADIAN SYLLABICS |CE|CAAI|CI|CII|CO|COO|Y-CREE COO
1490 CANADIAN SYLLABICS |CA|CAA|CWE|WEST-CREE CWE|CWI|WEST-CREE CWI|CWII|WEST-CREE CWII|CWO
1499 CANADIAN SYLLABICS |WEST-CREE CWO|CWOO|WEST-CREE CWOO|CWA|WEST-CREE CWA|CWAA|WEST-CREE CWAA
14A0 CANADIAN SYLLABICS |NASKAPI CWAA|C|SAYISI TH|ME|MAAI|MI|MII|MO|MOO|Y-CREE MOO|MA|MAA|MWE
14AD CANADIAN SYLLABICS |WEST-CREE MWE|MWI|WEST-CREE MWI|MWII|WEST-CREE MWII|MWO|WEST-CREE MWO
14B4 CANADIAN SYLLABICS |MWOO|WEST-CREE MWOO|MWA|WEST-CREE MWA|MWAA|WEST-CREE MWAA|NASKAPI MWAA
14BB CANADIAN SYLLABICS |M|WEST-CREE M|MH|ATHAPASCAN M|SAYISI M|NE|NAAI|NI|NII|NO|NOO|Y-CREE NOO
14C7 CANADIAN SYLLABICS |NA|NAA|NWE|WEST-CREE NWE|NWA|WEST-CREE NWA|NWAA|WEST-CREE NWAA
14CF CANADIAN SYLLABICS |NASKAPI NWAA|N|CARRIER NG|NH|LE|LAAI|LI|LII|LO|LOO|Y-CREE LOO
14DA CANADIAN SYLLABICS |LA|LAA|LWE|WEST-CREE LWE|LWI|WEST-CREE LWI|LWII|WEST-CREE LWII
14E2 CANADIAN SYLLABICS |LWO|WEST-CREE LWO|LWOO|WEST-CREE LWOO|LWA|WEST-CREE LWA|LWAA
14E9 CANADIAN SYLLABICS |WEST-CREE LWAA|L|WEST-CREE L|MEDIAL L|SE|SAAI|SI|SII|SO|SOO|Y-CREE SOO
14F4 CANADIAN SYLLABICS |SA|SAA|SWE|WEST-CREE SWE|SWI|WEST-CREE SWI|SWII|WEST-CREE SWII
14FC CANADIAN SYLLABICS |SWO|WEST-CREE SWO|SWOO|WEST-CREE SWOO|SWA|WEST-CREE SWA|SWAA
1503 CANADIAN SYLLABICS |WEST-CREE SWAA|NASKAPI SWAA|S|ATHAPASCAN S|SW|BLACKFOOT S|MOOSE-CREE SK
150A CANADIAN SYLLABICS NASKAPI |SKW|S-W|SPWA|STWA|SKWA|SCWA
1510 CANADIAN SYLLABICS |SHE|SHI|SHII|SHO|SHOO
1515 CANADIAN SYLLABICS |SHA|SHAA|SHWE|WEST-CREE SHWE|SHWI|WEST-CREE SHWI|SHWII|WEST-CREE SHWII
151D CANADIAN SYLLABICS |SHWO|WEST-CREE SHWO|SHWOO|WEST-CREE SHWOO|SHWA|WEST-CREE SHWA
1523 CANADIAN SYLLABICS |SHWAA|WEST-CREE SHWAA|SH|YE|YAAI|YI|YII|YO|YOO|Y-CREE YOO|YA|YAA|YWE
1530 CANADIAN SYLLABICS |WEST-CREE YWE|YWI|WEST-CREE YWI|YWII|WEST-CREE YWII|YWO|WEST-CREE YWO
1537 CANADIAN SYLLABICS |YWOO|WEST-CREE YWOO|YWA|WEST-CREE YWA|YWAA|WEST-CREE YWAA|NASKAPI YWAA
153E CANADIAN SYLLABICS |Y|BIBLE-CREE Y|WEST-CREE Y|SAYISI YI|RE|R-CREE RE|WEST-CREE LE
1545 CANADIAN SYLLABICS |RAAI|RI|RII|RO|ROO|WEST-CREE LO|RA|RAA|WEST-CREE LA|RWAA|WEST-CREE RWAA
1550 CANADIAN SYLLABICS |R|WEST-CREE R|MEDIAL R|FE|FAAI|FI|FII|FO|FOO|FA|FAA|FWAA|WEST-CREE FWAA
155D CANADIAN SYLLABICS |F|THE|N-CREE THE|THI|N-CREE THI|THII|N-CREE THII|THO|THOO|THA
1567 CANADIAN SYLLABICS |THAA|THWAA|WEST-CREE THWAA|TH|TTHE|TTHI|TTHO|TTHA|TTH|TYE|TYI|TYO|TYA
1574 CANADIAN SYLLABICS NUNAVIK |HE|HI|HII|HO|HOO|HA|HAA|H
157C CANADIAN SYLLABICS |NUNAVUT H|HK|QAAI|QI|QII|QO|QOO|QA|QAA|Q|TLHE|TLHI|TLHO|TLHA
158A CANADIAN SYLLABICS WEST-CREE |RE|RI|RO|RA
158E CANADIAN SYLLABICS |NGAAI|NGI|NGII|NGO|NGOO|NGA|NGAA|NG|NNG
1597 CANADIAN SYLLABICS SAYISI |SHE|SHI|SHO|SHA
159B CANADIAN SYLLABICS WOODS-CREE |THE|THI|THO|THA|TH
15A0 CANADIAN SYLLABICS |LHI|LHII|LHO|LHOO|LHA|LHAA|LH
15A7 CANADIAN SYLLABICS TH-CREE |THE|THI|THII|THO|THOO|THA|THAA|TH
15AF CANADIAN SYLLABICS AIVILIK |B
15B0 CANADIAN SYLLABICS BLACKFOOT |E|I|O|A|WE|WI|WO|WA|NE|NI|NO|NA|KE|KI|KO|KA
15C0 CANADIAN SYLLABICS SAYISI |HE|HI|HO|HA
15C4 CANADIAN SYLLABICS CARRIER |GHU|GHO|GHE|GHEE|GHI|GHA|RU|RO|RE|REE|RI
15CF CANADIAN SYLLABICS CARRIER |RA|WU|WO|WE|WEE|WI|WA|HWU|HWO|HWE|HWEE|HWI|HWA|THU|THO|THE|THEE
15E0 CANADIAN SYLLABICS CARRIER |THI|THA|TTU|TTO|TTE|TTEE|TTI|TTA|PU|PO|PE|PEE|PI|PA|P|GU|GO
15F1 CANADIAN SYLLABICS CARRIER |GE|GEE|GI|GA|KHU|KHO|KHE|KHEE|KHI|KHA|KKU|KKO|KKE|KKEE|KKI|KKA
1601 CANADIAN SYLLABICS CARRIER |KK|NU|NO|NE|NEE|NI|NA|MU|MO|ME|MEE|MI|MA|YU|YO|YE|YEE|YI|YA|JU
1615 CANADIAN SYLLABICS |SAYISI JU|CARRIER JO|CARRIER JE|CARRIER JEE|CARRIER JI|SAYISI JI
161B CANADIAN SYLLABICS CARRIER |JA|JJU|JJO|JJE|JJEE
1620 CANADIAN SYLLABICS CARRIER |JJI|JJA|LU|LO|LE|LEE|LI|LA|DLU|DLO|DLE|DLEE|DLI|DLA|LHU|LHO|LHE
1631 CANADIAN SYLLABICS CARRIER |LHEE|LHI|LHA|TLHU|TLHO|TLHE|TLHEE|TLHI|TLHA|TLU|TLO|TLE|TLEE
163E CANADIAN SYLLABICS CARRIER |TLI|TLA|ZU|ZO|ZE|ZEE|ZI|ZA|Z|INITIAL Z|DZU|DZO|DZE|DZEE|DZI|DZA
164E CANADIAN SYLLABICS CARRIER |SU|SO|SE|SEE|SI|SA|SHU|SHO|SHE|SHEE|SHI|SHA|SH|TSU|TSO|TSE|TSEE
165F CANADIAN SYLLABICS CARRIER |TSI|TSA|CHU|CHO|CHE|CHEE|CHI|CHA|TTSU|TTSO|TTSE|TTSEE|TTSI|TTSA
166D CANADIAN SYLLABICS |CHI SIGN|FULL STOP|QAI|NGAI|NNGI|NNGII|NNGO|NNGOO|NNGA|NNGAA
1677 CANADIAN SYLLABICS WOODS-CREE |THWEE|THWI|THWII|THWO|THWOO|THWA|THWAA|FINAL TH
167F |CANADIAN SYLLABICS BLACKFOOT W|OGHAM SPACE MARK
1681 OGHAM LETTER |BEITH|LUIS|FEARN|SAIL|NION|UATH|DAIR|TINNE|COLL|CEIRT|MUIN|GORT|NGEADAL
168E OGHAM LETTER |STRAIF|RUIS|AILM|ONN|UR|EADHADH|IODHADH|EABHADH|OR|UILLEANN|IFIN|EAMHANCHOLL
169A OGHAM |LETTER PEITH|FEATHER MARK|REVERSED FEATHER MARK
16A0 RUNIC LETTER |FEHU FEOH FE F|V|URUZ UR U
16A3 RUNIC LETTER |YR|Y|W|THURISAZ THURS THORN|ETH|ANSUZ A|OS O|AC A|AESC|LONG-BRANCH-OSS O
16AD RUNIC LETTER |SHORT-TWIG-OSS O|O|OE|ON|RAIDO RAD REID R|KAUNA|CEN|KAUN K|G|ENG|GEBO GYFU G
16B8 RUNIC LETTER |GAR|WUNJO WYNN W|HAGLAZ H|HAEGL H|LONG-BRANCH-HAGALL H|SHORT-TWIG-HAGALL H
16BE RUNIC LETTER |NAUDIZ NYD NAUD N|SHORT-TWIG-NAUD N|DOTTED-N|ISAZ IS ISS I|E|JERAN J
16C4 RUNIC LETTER |GER|LONG-BRANCH-AR AE|SHORT-TWIG-AR A|IWAZ EOH|PERTHO PEORTH P|ALGIZ EOLHX
16CA RUNIC LETTER |SOWILO S|SIGEL LONG-BRANCH-SOL S|SHORT-TWIG-SOL S|C|Z|TIWAZ TIR TYR T
16D0 RUNIC LETTER |SHORT-TWIG-TYR T|D|BERKANAN BEORC BJARKAN B|SHORT-TWIG-BJARKAN B
16D4 RUNIC LETTER |DOTTED-P|OPEN-P|EHWAZ EH E|MANNAZ MAN M|LONG-BRANCH-MADR M|SHORT-TWIG-MADR M
16DA RUNIC LETTER |LAUKAZ LAGU LOGR L|DOTTED-L|INGWAZ|ING|DAGAZ DAEG D|OTHALAN ETHEL O
16E0 RUNIC LETTER |EAR|IOR|CWEORTH|CALC|CEALC|STAN|LONG-BRANCH-YR|SHORT-TWIG-YR|ICELANDIC-YR|Q|X
16EB RUNIC SINGLE |PUNCTUATION
16EC RUNIC |MULTIPLE PUNCTUATION|CROSS PUNCTUATION|ARLAUG SYMBOL|TVIMADUR SYMBOL|BELGTHOR SYMBOL
16F1 RUNIC LETTER |K|SH|OO
16F4 RUNIC LETTER FRANKS CASKET |OS|IS|EH|AC|AESC
1700 TAGALOG LETTER |A|I|U|KA|GA|NGA|TA|DA|NA|PA|BA|MA|YA|RA|LA|WA|SA|HA
1712 TAGALOG VOWEL SIGN |I|U
1714 TAGALOG SIGN |VIRAMA|PAMUDPOD
171F TAGALOG LETTER ARCHAIC |RA
1720 HANUNOO LETTER |A|I|U|KA|GA|NGA|TA|DA|NA|PA|BA|MA|YA|RA|LA|WA|SA|HA
1732 HANUNOO |VOWEL SIGN I|VOWEL SIGN U|SIGN PAMUDPOD
1735 PHILIPPINE |SINGLE PUNCTUATION|DOUBLE PUNCTUATION
1740 BUHID LETTER |A|I|U|KA|GA|NGA|TA|DA|NA|PA|BA|MA|YA|RA|LA|WA|SA|HA
1752 BUHID VOWEL SIGN |I|U
1760 TAGBANWA LETTER |A|I|U|KA|GA|NGA|TA|DA|NA|PA|BA|MA|YA
176E TAGBANWA LETTER |LA|WA|SA
1772 TAGBANWA VOWEL SIGN |I|U
1780 KHMER LETTER |KA|KHA|KO|KHO|NGO|CA|CHA|CO|CHO|NYO|DA|TTHA
178C KHMER LETTER |DO|TTHO|NNO|TA|THA|TO|THO|NO|BA|PHA|PO|PHO|MO|YO|RO|LO|VO|SHA|SSO|SA|HA|LA|QA
17A3 KHMER INDEPENDENT VOWEL |QAQ|QAA|QI|QII
17A7 KHMER INDEPENDENT VOWEL |QU|QUK|QUU|QUUV|RY|RYY|LY|LYY|QE|QAI|QOO TYPE ONE|QOO TYPE TWO|QAU
17B4 KHMER VOWEL INHERENT |AQ|AA
17B6 KHMER VOWEL SIGN |AA|I|II|Y|YY|U|UU|UA|OE|YA|IE|E|AE|AI|OO|AU
17C6 KHMER SIGN |NIKAHIT|REAHMUK|YUUKALEAPINTU|MUUSIKATOAN
17CA KHMER SIGN |TRIISAP|BANTOC|ROBAT|TOANDAKHIAT|KAKABAT|AHSDA|SAMYOK SANNYA|VIRIAM|COENG
17D3 KHMER SIGN |BATHAMASAT|KHAN|BARIYOOSAN|CAMNUC PII KUUH|LEK TOO|BEYYAL|PHNAEK MUAN|KOOMUUT
17DB KHMER |CURRENCY SYMBOL RIEL|SIGN AVAKRAHASANYA|SIGN ATTHACAN
17E0 KHMER DIGIT |ZERO|ONE|TWO|THREE|FOUR|FIVE|SIX|SEVEN|EIGHT|NINE
17F0 KHMER SYMBOL LEK ATTAK |SON|MUOY|PII|BEI|BUON|PRAM|PRAM-MUOY|PRAM-PII|PRAM-BEI|PRAM-BUON
1800 MONGOLIAN |BIRGA|ELLIPSIS|COMMA|FULL STOP|COLON|FOUR DOTS|TODO SOFT HYPHEN
1807 MONGOLIAN |SIBE SYLLABLE BOUNDARY MARKER|MANCHU COMMA|MANCHU FULL STOP|NIRUGU
180B MONGOLIAN FREE VARIATION SELECTOR |ONE|TWO|THREE
180E MONGOLIAN |VOWEL SEPARATOR|FREE VARIATION SELECTOR FOUR
1810 MONGOLIAN DIGIT |ZERO|ONE|TWO|THREE|FOUR|FIVE|SIX|SEVEN|EIGHT|NINE
1820 MONGOLIAN LETTER |A|E|I|O|U|OE|UE|EE|NA|ANG|BA|PA|QA|GA|MA|LA|SA|SHA|TA|DA
1834 MONGOLIAN LETTER |CHA|JA|YA|RA|WA|FA|KA|KHA|TSA|ZA|HAA|ZRA|LHA|ZHI|CHI|TODO LONG VOWEL SIGN
1844 MONGOLIAN LETTER TODO |E|I|O|U|OE|UE|ANG|BA|PA|QA|GA|MA|TA|DA|CHA|JA|TSA|YA|WA|KA|GAA|HAA
185A MONGOLIAN LETTER |TODO JIA|TODO NIA|TODO DZA|SIBE E
185E MONGOLIAN LETTER SIBE |I|IY|UE|U|ANG|KA|GA|HA|PA|SHA|TA|DA|JA|FA|GAA|HAA|TSA|ZA|RAA|CHA|ZHA
1873 MONGOLIAN LETTER MANCHU |I|KA|RA|FA|ZHA
1878 MONGOLIAN LETTER CHA WITH TWO |DOTS
1880 MONGOLIAN LETTER ALI GALI |ANUSVARA ONE|VISARGA ONE|DAMARU|UBADAMA|INVERTED UBADAMA|BALUDA
1886 MONGOLIAN LETTER ALI GALI |THREE BALUDA|A|I|KA|NGA|CA|TTA|TTHA|DDA|NNA|TA|DA|PA|PHA|SSA|ZHA
1896 MONGOLIAN LETTER |ALI GALI ZA|ALI GALI AH|TODO ALI GALI TA|TODO ALI GALI ZHA
189A MONGOLIAN LETTER MANCHU ALI GALI |GHA|NGA|CA|JHA|TTA|DDHA|TA|DHA|SSA|CYA|ZHA|ZA
18A6 MONGOLIAN LETTER ALI GALI HALF |U|YA
18A8 MONGOLIAN LETTER |MANCHU ALI GALI BHA|ALI GALI DAGALGA|MANCHU ALI GALI LHA
18B0 CANADIAN SYLLABICS |OY|AY|AAY|WAY|POY|PAY|PWOY|TAY|KAY|KWAY|MAY|NOY|NAY|LAY
18BE CANADIAN SYLLABICS |SOY|SAY|SHOY|SHAY|SHWOY|YOY|YAY|RAY|NWI|OJIBWAY NWI|NWII|OJIBWAY NWII
18CA CANADIAN SYLLABICS |NWO|OJIBWAY NWO|NWOO|OJIBWAY NWOO|RWEE|RWI|RWII|RWO|RWOO|RWA
18D4 CANADIAN SYLLABICS OJIBWAY |P|T|K|C|M|N|S|SH
18DC CANADIAN SYLLABICS |EASTERN W|WESTERN W|FINAL SMALL RING|FINAL RAISED DOT|R-CREE RWE
18E1 CANADIAN SYLLABICS |WEST-CREE LOO|WEST-CREE LAA|THWE|THWA|TTHWE|TTHOO|TTHAA|TLHWE|TLHOO
18EA CANADIAN SYLLABICS SAYISI |SHWE|SHOO|HOO
18ED CANADIAN SYLLABICS CARRIER |GWU|DENE GEE|GAA|GWA
18F1 CANADIAN SYLLABICS |SAYISI JUU|CARRIER JWA|BEAVER DENE L|BEAVER DENE R|CARRIER DENTAL S
1900 LIMBU VOWEL-CARRIER |LETTER
1901 LIMBU LETTER |KA|KHA|GA|GHA|NGA|CA|CHA|JA
1909 LIMBU LETTER |JHA|YAN|TA|THA|DA|DHA|NA|PA|PHA|BA|BHA|MA|YA|RA|LA|WA|SHA|SSA|SA|HA|GYAN|TRA
1920 LIMBU VOWEL SIGN |A|I|U|EE|AI|OO|AU|E|O
1929 LIMBU SUBJOINED LETTER |YA|RA|WA
1930 LIMBU SMALL LETTER |KA|NGA|ANUSVARA|TA|NA|PA|MA|RA|LA
1939 LIMBU SIGN |MUKPHRENG|KEMPHRENG|SA-I
1940 LIMBU SIGN |LOO
1944 LIMBU |EXCLAMATION MARK|QUESTION MARK
1946 LIMBU DIGIT |ZERO|ONE|TWO|THREE|FOUR|FIVE|SIX|SEVEN|EIGHT|NINE
1950 TAI LE LETTER |KA|XA|NGA|TSA|SA
1955 TAI LE LETTER |YA|TA|THA|LA|PA|PHA|MA|FA|VA|HA|QA|KHA|TSHA|NA|A|I|EE|EH|U|OO|O|UE|E|AUE|AI
1970 TAI LE LETTER TONE-|2|3|4|5|6
1980 NEW TAI LUE LETTER |HIGH QA|LOW QA|HIGH KA|HIGH XA|HIGH NGA|LOW KA|LOW XA|LOW NGA
1988 NEW TAI LUE LETTER |HIGH TSA|HIGH SA|HIGH YA|LOW TSA|LOW SA|LOW YA|HIGH TA|HIGH THA|HIGH NA
1991 NEW TAI LUE LETTER |LOW TA|LOW THA|LOW NA|HIGH PA|HIGH PHA|HIGH MA|LOW PA|LOW PHA|LOW MA
199A NEW TAI LUE LETTER |HIGH FA|HIGH VA|HIGH LA|LOW FA|LOW VA|LOW LA|HIGH HA|HIGH DA|HIGH BA
19A3 NEW TAI LUE LETTER |LOW HA|LOW DA|LOW BA|HIGH KVA|HIGH XVA|LOW KVA|LOW XVA|HIGH SUA|LOW SUA
19B0 NEW TAI LUE VOWEL SIGN |VOWEL SHORTENER|AA|II|U|UU|E|AE|O|OA|UE|AY|AAY|UY|OY|OAY|UEY|IY
19C1 NEW TAI LUE LETTER FINAL |V|NG|N|M|K|D|B
19C8 NEW TAI LUE TONE MARK-|1|2
19D0 NEW TAI LUE DIGIT |ZERO|ONE|TWO|THREE|FOUR|FIVE|SIX|SEVEN|EIGHT|NINE
19DA NEW TAI LUE THAM DIGIT |ONE
19DE NEW TAI LUE SIGN |LAE|LAEV
19E0 KHMER SYMBOL |PATHAMASAT|MUOY KOET|PII KOET|BEI KOET|BUON KOET
19E5 KHMER SYMBOL |PRAM KOET|PRAM-MUOY KOET|PRAM-PII KOET|PRAM-BEI KOET|PRAM-BUON KOET|DAP KOET
19EB KHMER SYMBOL DAP-|MUOY KOET|PII KOET|BEI KOET|BUON KOET|PRAM KOET
19F0 KHMER SYMBOL |TUTEYASAT|MUOY ROC|PII ROC|BEI ROC|BUON ROC
19F5 KHMER SYMBOL |PRAM ROC|PRAM-MUOY ROC|PRAM-PII ROC|PRAM-BEI ROC|PRAM-BUON ROC|DAP ROC
19FB KHMER SYMBOL DAP-|MUOY ROC|PII ROC|BEI ROC|BUON ROC|PRAM ROC
1A00 BUGINESE LETTER |KA
1A01 BUGINESE LETTER |GA|NGA|NGKA|PA|BA|MA|MPA|TA|DA|NA|NRA|CA|JA|NYA|NYCA|YA|RA|LA|VA|SA|A|HA
1A17 BUGINESE VOWEL SIGN |I|U|E|O|AE
1A1E BUGINESE |PALLAWA|END OF SECTION
1A20 TAI THAM LETTER HIGH |KA|KHA|KXA
1A23 TAI THAM LETTER |LOW KA|LOW KXA|LOW KHA|NGA|HIGH CA|HIGH CHA|LOW CA|LOW SA|LOW CHA|NYA|RATA
1A2E TAI THAM LETTER |HIGH RATHA|DA|LOW RATHA|RANA|HIGH TA|HIGH THA|LOW TA|LOW THA|NA|BA|HIGH PA
1A39 TAI THAM LETTER |HIGH PHA|HIGH FA|LOW PA|LOW FA|LOW PHA|MA|LOW YA|HIGH YA|RA|RUE|LA|LUE|WA
1A46 TAI THAM LETTER HIGH |SHA|SSA|SA|HA
1A4A TAI THAM LETTER |LLA|A|LOW HA|I|II|U|UU|EE|OO|LAE|GREAT SA
1A55 TAI THAM CONSONANT SIGN |MEDIAL RA|MEDIAL LA|LA TANG LAI
1A58 TAI THAM SIGN MAI KANG |LAI
1A59 TAI THAM CONSONANT SIGN |FINAL NGA|LOW PA|HIGH RATHA OR LOW PA|MA|BA|SA
1A60 TAI THAM SIGN |SAKOT
1A61 TAI THAM VOWEL SIGN |A|MAI SAT|AA|TALL AA|I|II|UE|UUE|U|UU|O|OA BELOW|OY|E|AE|OO|AI|THAM AI
1A73 TAI THAM |VOWEL SIGN OA ABOVE|SIGN MAI KANG|SIGN TONE-1|SIGN TONE-2
1A77 TAI THAM SIGN KHUEN TONE-|3|4|5
1A7A TAI THAM SIGN |RA HAAM|MAI SAM|KHUEN-LUE KARAN
1A7F TAI THAM COMBINING CRYPTOGRAMMIC |DOT
1A80 TAI THAM HORA DIGIT |ZERO|ONE|TWO|THREE|FOUR|FIVE|SIX|SEVEN|EIGHT|NINE
1A90 TAI THAM THAM DIGIT |ZERO|ONE|TWO|THREE|FOUR|FIVE|SIX|SEVEN|EIGHT|NINE
1AA0 TAI THAM SIGN |WIANG|WIANGWAAK|SAWAN|KEOW|HOY|DOKMAI
1AA6 TAI THAM SIGN |REVERSED ROTATED RANA|MAI YAMOK|KAAN|KAANKUU|SATKAAN|SATKAANKUU|HANG|CAANG
1AB0 COMBINING |DOUBLED CIRCUMFLEX ACCENT|DIAERESIS-RING|INFINITY|DOWNWARDS ARROW
1AB4 COMBINING |TRIPLE DOT|X-X BELOW|WIGGLY LINE BELOW|OPEN MARK BELOW|DOUBLE OPEN MARK BELOW
1AB9 COMBINING |LIGHT CENTRALIZATION STROKE BELOW|STRONG CENTRALIZATION STROKE BELOW
1ABB COMBINING |PARENTHESES ABOVE|DOUBLE PARENTHESES ABOVE|PARENTHESES BELOW|PARENTHESES OVERLAY
1ABF COMBINING LATIN SMALL LETTER |W BELOW|TURNED W BELOW
1AC1 COMBINING |LEFT PARENTHESIS ABOVE LEFT|RIGHT PARENTHESIS ABOVE RIGHT
1AC3 COMBINING |LEFT PARENTHESIS BELOW LEFT|RIGHT PARENTHESIS BELOW RIGHT|SQUARE BRACKETS ABOVE
1AC6 COMBINING |NUMBER SIGN ABOVE|INVERTED DOUBLE ARCH ABOVE|PLUS SIGN ABOVE
1AC9 COMBINING DOUBLE PLUS SIGN |ABOVE|BELOW
1ACB COMBINING TRIPLE ACUTE |ACCENT
1ACC COMBINING LATIN SMALL LETTER INSULAR |G|R|T
1B00 BALINESE SIGN |ULU RICEM|ULU CANDRA|CECEK|SURANG|BISAH
1B05 BALINESE LETTER |AKARA|AKARA TEDUNG|IKARA|IKARA TEDUNG|UKARA|UKARA TEDUNG
1B0B BALINESE LETTER RA |REPA|REPA TEDUNG
1B0D BALINESE LETTER |LA LENGA|LA LENGA TEDUNG|EKARA|AIKARA|OKARA|OKARA TEDUNG|KA|KA MAHAPRANA
1B15 BALINESE LETTER |GA|GA GORA|NGA|CA|CA LACA|JA|JA JERA|NYA|TA LATIK|TA MURDA MAHAPRANA
1B1F BALINESE LETTER |DA MURDA ALPAPRANA|DA MURDA MAHAPRANA|NA RAMBAT|TA|TA TAWA|DA
1B25 BALINESE LETTER |DA MADU|NA|PA|PA KAPAL|BA|BA KEMBANG|MA|YA|RA|LA|WA|SA SAGA|SA SAPA|SA|HA
1B34 BALINESE SIGN |REREKAN
1B35 BALINESE VOWEL SIGN |TEDUNG|ULU|ULU SARI|SUKU|SUKU ILUT|RA REPA|RA REPA TEDUNG
1B3C BALINESE VOWEL SIGN LA |LENGA|LENGA TEDUNG
1B3E BALINESE VOWEL SIGN |TALING|TALING REPA|TALING TEDUNG|TALING REPA TEDUNG|PEPET|PEPET TEDUNG
1B44 BALINESE |ADEG ADEG|LETTER KAF SASAK|LETTER KHOT SASAK
1B47 BALINESE LETTER |TZIR SASAK|EF SASAK|VE SASAK|ZAL SASAK|ASYURA SASAK|ARCHAIC JNYA
1B50 BALINESE DIGIT |ZERO|ONE|TWO|THREE|FOUR|FIVE|SIX|SEVEN|EIGHT|NINE
1B5A BALINESE |PANTI|PAMADA|WINDU|CARIK PAMUNGKAH|CARIK SIKI|CARIK PAREREN|PAMENENG
1B61 BALINESE MUSICAL SYMBOL |DONG|DENG|DUNG|DANG|DANG SURANG|DING|DAENG|DEUNG|DAING|DANG GEDE
1B6B BALINESE MUSICAL SYMBOL COMBINING |TEGEH|ENDEP|KEMPUL|KEMPLI|JEGOGAN
1B70 BALINESE MUSICAL SYMBOL COMBINING |KEMPUL WITH JEGOGAN|KEMPLI WITH JEGOGAN|BENDE|GONG
1B74 BALINESE MUSICAL SYMBOL RIGHT-HAND |OPEN DUG|OPEN DAG|CLOSED TUK|CLOSED TAK
1B78 BALINESE MUSICAL SYMBOL LEFT-HAND |OPEN PANG|OPEN PUNG|CLOSED PLAK|CLOSED PLUK|OPEN PING
1B7D BALINESE |PANTI LANTANG|PAMADA LANTANG
1B80 SUNDANESE SIGN |PANYECEK|PANGLAYAR|PANGWISAD
1B83 SUNDANESE LETTER |A|I|U|AE|O|E
1B89 SUNDANESE LETTER |EU|KA|QA|GA|NGA|CA|JA|ZA|NYA|TA|DA|NA|PA|FA|VA|BA|MA|YA|RA|LA|WA|SA|XA|HA
1BA1 SUNDANESE CONSONANT SIGN |PAMINGKAL|PANYAKRA|PANYIKU
1BA4 SUNDANESE VOWEL SIGN |PANGHULU|PANYUKU|PANAELAENG|PANOLONG|PAMEPET|PANEULEUNG
1BAA SUNDANESE SIGN |PAMAAEH|VIRAMA
1BAC SUNDANESE CONSONANT SIGN PASANGAN |MA|WA
1BAE SUNDANESE LETTER |KHA|SYA
1BB0 SUNDANESE DIGIT |ZERO|ONE|TWO|THREE|FOUR|FIVE|SIX|SEVEN|EIGHT|NINE
1BBA SUNDANESE |AVAGRAHA
1BBB SUNDANESE LETTER |REU|LEU|BHA|FINAL K|FINAL M
1BC0 BATAK LETTER |A|SIMALUNGUN A|HA|SIMALUNGUN HA|MANDAILING HA|BA|KARO BA|PA
1BC8 BATAK LETTER |SIMALUNGUN PA|NA|MANDAILING NA|WA|SIMALUNGUN WA|PAKPAK WA|GA|SIMALUNGUN GA|JA
1BD1 BATAK LETTER |DA|RA|SIMALUNGUN RA|MA|SIMALUNGUN MA|SOUTHERN TA|NORTHERN TA|SA|SIMALUNGUN SA
1BDA BATAK LETTER |MANDAILING SA|YA|SIMALUNGUN YA|NGA|LA|SIMALUNGUN LA|NYA|CA|NDA|MBA|I|U
1BE6 BATAK SIGN |TOMPI
1BE7 BATAK VOWEL SIGN |E|PAKPAK E|EE|I|KARO I|O|KARO O|U|U FOR SIMALUNGUN SA
1BF0 BATAK CONSONANT SIGN |NG|H
1BF2 BATAK |PANGOLAT|PANONGONAN
1BFC BATAK SYMBOL BINDU |NA METEK|PINARBORAS|JUDUL|PANGOLAT
1C00 LEPCHA LETTER |KA|KLA|KHA|GA|GLA|NGA|CA|CHA|JA|NYA|TA|THA|DA|NA
1C0E LEPCHA LETTER |PA|PLA|PHA|FA|FLA|BA|BLA|MA|MLA|TSA|TSHA|DZA|YA|RA|LA|HA|HLA|VA|SA|SHA|WA|A
1C24 LEPCHA SUBJOINED LETTER |YA|RA
1C26 LEPCHA VOWEL SIGN |AA|I|O|OO|U|UU|E
1C2D LEPCHA CONSONANT SIGN |K|M|L|N|P|R|T|NYIN-DO|KANG
1C36 LEPCHA SIGN |RAN|NUKTA
1C3B LEPCHA PUNCTUATION |TA-ROL|NYET THYOOM TA-ROL|CER-WA|TSHOOK CER-WA|TSHOOK
1C40 LEPCHA DIGIT |ZERO|ONE|TWO|THREE|FOUR|FIVE|SIX|SEVEN|EIGHT|NINE
1C4D LEPCHA LETTER |TTA|TTHA|DDA
1C50 OL CHIKI DIGIT |ZERO|ONE|TWO|THREE|FOUR|FIVE|SIX|SEVEN|EIGHT|NINE
1C5A OL CHIKI LETTER |LA|AT|AG|ANG|AL|LAA|AAK|AAJ
1C62 OL CHIKI LETTER |AAM|AAW|LI|IS|IH|INY|IR|LU|UC|UD|UNN|UY|LE|EP|EDD|EN|ERR|LO|OTT|OB|OV|OH
1C78 OL CHIKI |MU TTUDDAG|GAAHLAA TTUDDAAG|MU-GAAHLAA TTUDDAAG|RELAA|PHAARKAA|AHAD
1C7E OL CHIKI PUNCTUATION |MUCAAD|DOUBLE MUCAAD
1C80 CYRILLIC SMALL LETTER |ROUNDED VE|LONG-LEGGED DE|NARROW O
1C83 CYRILLIC SMALL LETTER |WIDE ES|TALL TE|THREE-LEGGED TE|TALL HARD SIGN|TALL YAT|UNBLENDED UK
1C90 GEORGIAN MTAVRULI CAPITAL LETTER |AN|BAN
1C92 GEORGIAN MTAVRULI CAPITAL LETTER |GAN|DON|EN|VIN|ZEN|TAN|IN|KAN|LAS|MAN|NAR|ON|PAR|ZHAR|RAE
1CA1 GEORGIAN MTAVRULI CAPITAL LETTER |SAN|TAR|UN|PHAR|KHAR|GHAN|QAR|SHIN|CHIN|CAN|JIL|CIL|CHAR
1CAE GEORGIAN MTAVRULI CAPITAL LETTER |XAN|JHAN|HAE|HE|HIE|WE|HAR|HOE|FI|YN|ELIFI|TURNED GAN|AIN
1CBD GEORGIAN MTAVRULI CAPITAL LETTER |AEN|HARD SIGN|LABIAL SIGN
1CC0 SUNDANESE PUNCTUATION BINDU |SURYA|PANGLONG
1CC2 SUNDANESE PUNCTUATION BINDU |PURNAMA|CAKRA|LEU SATANGA|KA SATANGA|DA SATANGA|BA SATANGA
1CD0 VEDIC TONE |KARSHANA|SHARA|PRENKHA
1CD3 VEDIC SIGN |NIHSHVASA|YAJURVEDIC MIDLINE SVARITA
1CD5 VEDIC TONE YAJURVEDIC AGGRAVATED INDEPENDENT |SVARITA
1CD6 VEDIC TONE YAJURVEDIC |INDEPENDENT SVARITA|KATHAKA INDEPENDENT SVARITA
1CD8 VEDIC TONE |CANDRA BELOW|YAJURVEDIC KATHAKA INDEPENDENT SVARITA SCHROEDER|DOUBLE SVARITA
1CDB VEDIC TONE |TRIPLE SVARITA|KATHAKA ANUDATTA|DOT BELOW|TWO DOTS BELOW|THREE DOTS BELOW
1CE0 VEDIC TONE |RIGVEDIC KASHMIRI INDEPENDENT SVARITA|ATHARVAVEDIC INDEPENDENT SVARITA
1CE2 VEDIC SIGN |VISARGA SVARITA|VISARGA UDATTA|REVERSED VISARGA UDATTA|VISARGA ANUDATTA
1CE6 VEDIC SIGN |REVERSED VISARGA ANUDATTA|VISARGA UDATTA WITH TAIL|VISARGA ANUDATTA WITH TAIL
1CE9 VEDIC SIGN ANUSVARA |ANTARGOMUKHA|BAHIRGOMUKHA|VAMAGOMUKHA|VAMAGOMUKHA WITH TAIL
1CED VEDIC SIGN |TIRYAK|HEXIFORM LONG ANUSVARA|LONG ANUSVARA
1CF0 VEDIC SIGN |RTHANG LONG ANUSVARA|ANUSVARA UBHAYATO MUKHA|ARDHAVISARGA|ROTATED ARDHAVISARGA
1CF4 VEDIC |TONE CANDRA ABOVE|SIGN JIHVAMULIYA|SIGN UPADHMANIYA|SIGN ATIKRAMA
1CF8 VEDIC |TONE RING ABOVE|TONE DOUBLE RING ABOVE|SIGN DOUBLE ANUSVARA ANTARGOMUKHA
1D00 LATIN LETTER SMALL CAPITAL |A|AE
1D02 LATIN SMALL LETTER TURNED |AE
1D03 LATIN LETTER SMALL CAPITAL |BARRED B|C|D|ETH|E
1D08 LATIN SMALL LETTER TURNED |OPEN E|I
1D0A LATIN LETTER SMALL CAPITAL |J|K|L WITH STROKE|M|REVERSED N|O|OPEN O
1D11 LATIN SMALL LETTER SIDEWAYS |O|OPEN O|O WITH STROKE
1D14 LATIN |SMALL LETTER TURNED OE|LETTER SMALL CAPITAL OU
1D16 LATIN SMALL LETTER |TOP HALF O|BOTTOM HALF O
1D18 LATIN LETTER SMALL CAPITAL |P|REVERSED R|TURNED R|T|U
1D1D LATIN SMALL LETTER SIDEWAYS |U|DIAERESIZED U|TURNED M
1D20 LATIN LETTER SMALL CAPITAL |V|W|Z|EZH
1D24 LATIN LETTER |VOICED LARYNGEAL SPIRANT|AIN
1D26 GREEK LETTER SMALL CAPITAL |GAMMA|LAMDA|PI|RHO|PSI
1D2B CYRILLIC LETTER SMALL CAPITAL |EL
1D2C MODIFIER LETTER CAPITAL |A|AE|B
1D2F MODIFIER LETTER CAPITAL |BARRED B|D|E|REVERSED E|G|H|I|J|K|L|M|N|REVERSED N|O|OU|P|R|T|U|W
1D43 MODIFIER LETTER SMALL |A|TURNED A|ALPHA|TURNED AE|B|D|E|SCHWA|OPEN E
1D4C MODIFIER LETTER SMALL |TURNED OPEN E|G|TURNED I|K|M|ENG|O|OPEN O|TOP HALF O|BOTTOM HALF O
1D56 MODIFIER LETTER SMALL |P|T|U|SIDEWAYS U|TURNED M|V|AIN|BETA|GREEK GAMMA|DELTA|GREEK PHI|CHI
1D62 LATIN SUBSCRIPT SMALL LETTER |I|R|U|V
1D66 GREEK SUBSCRIPT SMALL LETTER |BETA|GAMMA|RHO|PHI|CHI
1D6B LATIN SMALL LETTER |UE|B WITH MIDDLE TILDE|D WITH MIDDLE TILDE|F WITH MIDDLE TILDE
1D6F LATIN SMALL LETTER |M WITH MIDDLE TILDE|N WITH MIDDLE TILDE|P WITH MIDDLE TILDE
1D72 LATIN SMALL LETTER R WITH |MIDDLE TILDE|FISHHOOK AND MIDDLE TILDE
1D74 LATIN SMALL LETTER |S WITH MIDDLE TILDE|T WITH MIDDLE TILDE|Z WITH MIDDLE TILDE|TURNED G
1D78 MODIFIER LETTER CYRILLIC |EN
1D79 LATIN SMALL |LETTER INSULAR G|LETTER TH WITH STRIKETHROUGH|CAPITAL LETTER I WITH STROKE
1D7C LATIN SMALL |LETTER IOTA WITH STROKE|LETTER P WITH STROKE|CAPITAL LETTER U WITH STROKE
1D7F LATIN SMALL LETTER |UPSILON WITH STROKE|B WITH PALATAL HOOK|D WITH PALATAL HOOK
1D82 LATIN SMALL LETTER |F WITH PALATAL HOOK|G WITH PALATAL HOOK|K WITH PALATAL HOOK
1D85 LATIN SMALL LETTER |L WITH PALATAL HOOK|M WITH PALATAL HOOK|N WITH PALATAL HOOK
1D88 LATIN SMALL LETTER |P WITH PALATAL HOOK|R WITH PALATAL HOOK|S WITH PALATAL HOOK
1D8B LATIN SMALL LETTER |ESH WITH PALATAL HOOK|V WITH PALATAL HOOK|X WITH PALATAL HOOK
1D8E LATIN SMALL LETTER |Z WITH PALATAL HOOK|A WITH RETROFLEX HOOK|ALPHA WITH RETROFLEX HOOK
1D91 LATIN SMALL LETTER |D WITH HOOK AND TAIL|E WITH RETROFLEX HOOK|OPEN E WITH RETROFLEX HOOK
1D94 LATIN SMALL LETTER |REVERSED OPEN E WITH RETROFLEX HOOK|SCHWA WITH RETROFLEX HOOK
1D96 LATIN SMALL LETTER |I WITH RETROFLEX HOOK|OPEN O WITH RETROFLEX HOOK
1D98 LATIN SMALL LETTER |ESH WITH RETROFLEX HOOK|U WITH RETROFLEX HOOK|EZH WITH RETROFLEX HOOK
1D9B MODIFIER LETTER SMALL |TURNED ALPHA|C|C WITH CURL|ETH|REVERSED OPEN E|F
1DA1 MODIFIER LETTER SMALL |DOTLESS J WITH STROKE|SCRIPT G|TURNED H|I WITH STROKE|IOTA|CAPITAL I
1DA7 MODIFIER LETTER SMALL |CAPITAL I WITH STROKE|J WITH CROSSED-TAIL|L WITH RETROFLEX HOOK
1DAA MODIFIER LETTER SMALL |L WITH PALATAL HOOK|CAPITAL L|M WITH HOOK|TURNED M WITH LONG LEG
1DAE MODIFIER LETTER SMALL |N WITH LEFT HOOK|N WITH RETROFLEX HOOK|CAPITAL N|BARRED O
1DB2 MODIFIER LETTER SMALL |PHI|S WITH HOOK|ESH|T WITH PALATAL HOOK|U BAR|UPSILON|CAPITAL U
1DB9 MODIFIER LETTER SMALL |V WITH HOOK|TURNED V|Z|Z WITH RETROFLEX HOOK|Z WITH CURL|EZH|THETA
1DC0 COMBINING |DOTTED GRAVE ACCENT|DOTTED ACUTE ACCENT|SNAKE BELOW|SUSPENSION MARK
1DC4 COMBINING |MACRON-ACUTE|GRAVE-MACRON|MACRON-GRAVE|ACUTE-MACRON|GRAVE-ACUTE-GRAVE
1DC9 COMBINING |ACUTE-GRAVE-ACUTE|LATIN SMALL LETTER R BELOW|BREVE-MACRON|MACRON-BREVE
1DCD COMBINING |DOUBLE CIRCUMFLEX ABOVE|OGONEK ABOVE|ZIGZAG BELOW|IS BELOW|UR ABOVE|US ABOVE
1DD3 COMBINING LATIN SMALL LETTER |FLATTENED OPEN A ABOVE|AE|AO|AV|C CEDILLA|INSULAR D|ETH|G
1DDB COMBINING LATIN |LETTER SMALL CAPITAL G|SMALL LETTER K|SMALL LETTER L
1DDE COMBINING LATIN LETTER SMALL CAPITAL |L|M
1DE0 COMBINING LATIN |SMALL LETTER N|LETTER SMALL CAPITAL N|LETTER SMALL CAPITAL R
1DE3 COMBINING LATIN SMALL LETTER |R ROTUNDA|S|LONG S|Z|ALPHA|B|BETA|SCHWA|F
1DEC COMBINING LATIN SMALL LETTER |L WITH DOUBLE MIDDLE TILDE|O WITH LIGHT CENTRALIZATION STROKE
1DEE COMBINING LATIN SMALL LETTER |P|ESH|U WITH LIGHT CENTRALIZATION STROKE
1DF1 COMBINING LATIN SMALL LETTER |W|A WITH DIAERESIS|O WITH DIAERESIS|U WITH DIAERESIS
1DF5 COMBINING UP TACK |ABOVE
1DF6 COMBINING |KAVYKA ABOVE RIGHT|KAVYKA ABOVE LEFT|DOT ABOVE LEFT|WIDE INVERTED BRIDGE BELOW
1DFA COMBINING |DOT BELOW LEFT|DELETION MARK|DOUBLE INVERTED BREVE BELOW|ALMOST EQUAL TO BELOW
1DFE COMBINING |LEFT ARROWHEAD ABOVE|RIGHT ARROWHEAD AND DOWN ARROWHEAD BELOW
1E00 LATIN |CAPITAL LETTER A WITH RING BELOW|SMALL LETTER A WITH RING BELOW
1E02 LATIN |CAPITAL LETTER B WITH DOT ABOVE|SMALL LETTER B WITH DOT ABOVE
1E04 LATIN |CAPITAL LETTER B WITH DOT BELOW|SMALL LETTER B WITH DOT BELOW
1E06 LATIN |CAPITAL LETTER B WITH LINE BELOW|SMALL LETTER B WITH LINE BELOW
1E08 LATIN |CAPITAL LETTER C WITH CEDILLA AND ACUTE|SMALL LETTER C WITH CEDILLA AND ACUTE
1E0A LATIN |CAPITAL LETTER D WITH DOT ABOVE|SMALL LETTER D WITH DOT ABOVE
1E0C LATIN |CAPITAL LETTER D WITH DOT BELOW|SMALL LETTER D WITH DOT BELOW
1E0E LATIN |CAPITAL LETTER D WITH LINE BELOW|SMALL LETTER D WITH LINE BELOW
1E10 LATIN |CAPITAL LETTER D WITH CEDILLA|SMALL LETTER D WITH CEDILLA
1E12 LATIN |CAPITAL LETTER D WITH CIRCUMFLEX BELOW|SMALL LETTER D WITH CIRCUMFLEX BELOW
1E14 LATIN |CAPITAL LETTER E WITH MACRON AND GRAVE|SMALL LETTER E WITH MACRON AND GRAVE
1E16 LATIN |CAPITAL LETTER E WITH MACRON AND ACUTE|SMALL LETTER E WITH MACRON AND ACUTE
1E18 LATIN |CAPITAL LETTER E WITH CIRCUMFLEX BELOW|SMALL LETTER E WITH CIRCUMFLEX BELOW
1E1A LATIN |CAPITAL LETTER E WITH TILDE BELOW|SMALL LETTER E WITH TILDE BELOW
1E1C LATIN |CAPITAL LETTER E WITH CEDILLA AND BREVE|SMALL LETTER E WITH CEDILLA AND BREVE
1E1E LATIN |CAPITAL LETTER F WITH DOT ABOVE|SMALL LETTER F WITH DOT ABOVE
1E20 LATIN |CAPITAL LETTER G WITH MACRON|SMALL LETTER G WITH MACRON
1E22 LATIN |CAPITAL LETTER H WITH DOT ABOVE|SMALL LETTER H WITH DOT ABOVE
1E24 LATIN |CAPITAL LETTER H WITH DOT BELOW|SMALL LETTER H WITH DOT BELOW
1E26 LATIN |CAPITAL LETTER H WITH DIAERESIS|SMALL LETTER H WITH DIAERESIS
1E28 LATIN |CAPITAL LETTER H WITH CEDILLA|SMALL LETTER H WITH CEDILLA
1E2A LATIN |CAPITAL LETTER H WITH BREVE BELOW|SMALL LETTER H WITH BREVE BELOW
1E2C LATIN |CAPITAL LETTER I WITH TILDE BELOW|SMALL LETTER I WITH TILDE BELOW
1E2E LATIN |CAPITAL LETTER I WITH DIAERESIS AND ACUTE|SMALL LETTER I WITH DIAERESIS AND ACUTE
1E30 LATIN |CAPITAL LETTER K WITH ACUTE|SMALL LETTER K WITH ACUTE
1E32 LATIN |CAPITAL LETTER K WITH DOT BELOW|SMALL LETTER K WITH DOT BELOW
1E34 LATIN |CAPITAL LETTER K WITH LINE BELOW|SMALL LETTER K WITH LINE BELOW
1E36 LATIN |CAPITAL LETTER L WITH DOT BELOW|SMALL LETTER L WITH DOT BELOW
1E38 LATIN |CAPITAL LETTER L WITH DOT BELOW AND MACRON|SMALL LETTER L WITH DOT BELOW AND MACRON
1E3A LATIN |CAPITAL LETTER L WITH LINE BELOW|SMALL LETTER L WITH LINE BELOW
1E3C LATIN |CAPITAL LETTER L WITH CIRCUMFLEX BELOW|SMALL LETTER L WITH CIRCUMFLEX BELOW
1E3E LATIN |CAPITAL LETTER M WITH ACUTE|SMALL LETTER M WITH ACUTE
1E40 LATIN |CAPITAL LETTER M WITH DOT ABOVE|SMALL LETTER M WITH DOT ABOVE
1E42 LATIN |CAPITAL LETTER M WITH DOT BELOW|SMALL LETTER M WITH DOT BELOW
1E44 LATIN |CAPITAL LETTER N WITH DOT ABOVE|SMALL LETTER N WITH DOT ABOVE
1E46 LATIN |CAPITAL LETTER N WITH DOT BELOW|SMALL LETTER N WITH DOT BELOW
1E48 LATIN |CAPITAL LETTER N WITH LINE BELOW|SMALL LETTER N WITH LINE BELOW
1E4A LATIN |CAPITAL LETTER N WITH CIRCUMFLEX BELOW|SMALL LETTER N WITH CIRCUMFLEX BELOW
1E4C LATIN |CAPITAL LETTER O WITH TILDE AND ACUTE|SMALL LETTER O WITH TILDE AND ACUTE
1E4E LATIN |CAPITAL LETTER O WITH TILDE AND DIAERESIS|SMALL LETTER O WITH TILDE AND DIAERESIS
1E50 LATIN |CAPITAL LETTER O WITH MACRON AND GRAVE|SMALL LETTER O WITH MACRON AND GRAVE
1E52 LATIN |CAPITAL LETTER O WITH MACRON AND ACUTE|SMALL LETTER O WITH MACRON AND ACUTE
1E54 LATIN |CAPITAL LETTER P WITH ACUTE|SMALL LETTER P WITH ACUTE
1E56 LATIN |CAPITAL LETTER P WITH DOT ABOVE|SMALL LETTER P WITH DOT ABOVE
1E58 LATIN |CAPITAL LETTER R WITH DOT ABOVE|SMALL LETTER R WITH DOT ABOVE
1E5A LATIN |CAPITAL LETTER R WITH DOT BELOW|SMALL LETTER R WITH DOT BELOW
1E5C LATIN |CAPITAL LETTER R WITH DOT BELOW AND MACRON|SMALL LETTER R WITH DOT BELOW AND MACRON
1E5E LATIN |CAPITAL LETTER R WITH LINE BELOW|SMALL LETTER R WITH LINE BELOW
1E60 LATIN |CAPITAL LETTER S WITH DOT ABOVE|SMALL LETTER S WITH DOT ABOVE
1E62 LATIN |CAPITAL LETTER S WITH DOT BELOW|SMALL LETTER S WITH DOT BELOW
1E64 LATIN |CAPITAL LETTER S WITH ACUTE AND DOT ABOVE|SMALL LETTER S WITH ACUTE AND DOT ABOVE
1E66 LATIN |CAPITAL LETTER S WITH CARON AND DOT ABOVE|SMALL LETTER S WITH CARON AND DOT ABOVE
1E68 LATIN CAPITAL LETTER S WITH DOT BELOW AND DOT |ABOVE
1E69 LATIN SMALL LETTER S WITH DOT BELOW AND DOT |ABOVE
1E6A LATIN |CAPITAL LETTER T WITH DOT ABOVE|SMALL LETTER T WITH DOT ABOVE
1E6C LATIN |CAPITAL LETTER T WITH DOT BELOW|SMALL LETTER T WITH DOT BELOW
1E6E LATIN |CAPITAL LETTER T WITH LINE BELOW|SMALL LETTER T WITH LINE BELOW
1E70 LATIN |CAPITAL LETTER T WITH CIRCUMFLEX BELOW|SMALL LETTER T WITH CIRCUMFLEX BELOW
1E72 LATIN |CAPITAL LETTER U WITH DIAERESIS BELOW|SMALL LETTER U WITH DIAERESIS BELOW
1E74 LATIN |CAPITAL LETTER U WITH TILDE BELOW|SMALL LETTER U WITH TILDE BELOW
1E76 LATIN |CAPITAL LETTER U WITH CIRCUMFLEX BELOW|SMALL LETTER U WITH CIRCUMFLEX BELOW
1E78 LATIN |CAPITAL LETTER U WITH TILDE AND ACUTE|SMALL LETTER U WITH TILDE AND ACUTE
1E7A LATIN |CAPITAL LETTER U WITH MACRON AND DIAERESIS|SMALL LETTER U WITH MACRON AND DIAERESIS
1E7C LATIN |CAPITAL LETTER V WITH TILDE|SMALL LETTER V WITH TILDE
1E7E LATIN |CAPITAL LETTER V WITH DOT BELOW|SMALL LETTER V WITH DOT BELOW
1E80 LATIN |CAPITAL LETTER W WITH GRAVE|SMALL LETTER W WITH GRAVE|CAPITAL LETTER W WITH ACUTE
1E83 LATIN |SMALL LETTER W WITH ACUTE|CAPITAL LETTER W WITH DIAERESIS
1E85 LATIN |SMALL LETTER W WITH DIAERESIS|CAPITAL LETTER W WITH DOT ABOVE
1E87 LATIN |SMALL LETTER W WITH DOT ABOVE|CAPITAL LETTER W WITH DOT BELOW
1E89 LATIN |SMALL LETTER W WITH DOT BELOW|CAPITAL LETTER X WITH DOT ABOVE
1E8B LATIN |SMALL LETTER X WITH DOT ABOVE|CAPITAL LETTER X WITH DIAERESIS
1E8D LATIN |SMALL LETTER X WITH DIAERESIS|CAPITAL LETTER Y WITH DOT ABOVE
1E8F LATIN |SMALL LETTER Y WITH DOT ABOVE|CAPITAL LETTER Z WITH CIRCUMFLEX
1E91 LATIN |SMALL LETTER Z WITH CIRCUMFLEX|CAPITAL LETTER Z WITH DOT BELOW
1E93 LATIN |SMALL LETTER Z WITH DOT BELOW|CAPITAL LETTER Z WITH LINE BELOW
1E95 LATIN SMALL LETTER |Z WITH LINE BELOW|H WITH LINE BELOW|T WITH DIAERESIS
1E98 LATIN SMALL LETTER |W WITH RING ABOVE|Y WITH RING ABOVE|A WITH RIGHT HALF RING
1E9B LATIN SMALL LETTER LONG S WITH |DOT ABOVE|DIAGONAL STROKE|HIGH STROKE
1E9E LATIN CAPITAL LETTER SHARP |S
1E9F LATIN |SMALL LETTER DELTA|CAPITAL LETTER A WITH DOT BELOW|SMALL LETTER A WITH DOT BELOW
1EA2 LATIN |CAPITAL LETTER A WITH HOOK ABOVE|SMALL LETTER A WITH HOOK ABOVE
1EA4 LATIN |CAPITAL LETTER A WITH CIRCUMFLEX AND ACUTE|SMALL LETTER A WITH CIRCUMFLEX AND ACUTE
1EA6 LATIN |CAPITAL LETTER A WITH CIRCUMFLEX AND GRAVE|SMALL LETTER A WITH CIRCUMFLEX AND GRAVE
1EA8 LATIN CAPITAL LETTER A WITH CIRCUMFLEX AND HOOK |ABOVE
1EA9 LATIN SMALL LETTER A WITH CIRCUMFLEX AND HOOK |ABOVE
1EAA LATIN |CAPITAL LETTER A WITH CIRCUMFLEX AND TILDE|SMALL LETTER A WITH CIRCUMFLEX AND TILDE
1EAC LATIN CAPITAL LETTER A WITH CIRCUMFLEX AND DOT |BELOW
1EAD LATIN |SMALL LETTER A WITH CIRCUMFLEX AND DOT BELOW|CAPITAL LETTER A WITH BREVE AND ACUTE
1EAF LATIN |SMALL LETTER A WITH BREVE AND ACUTE|CAPITAL LETTER A WITH BREVE AND GRAVE
1EB1 LATIN |SMALL LETTER A WITH BREVE AND GRAVE|CAPITAL LETTER A WITH BREVE AND HOOK ABOVE
1EB3 LATIN |SMALL LETTER A WITH BREVE AND HOOK ABOVE|CAPITAL LETTER A WITH BREVE AND TILDE
1EB5 LATIN |SMALL LETTER A WITH BREVE AND TILDE|CAPITAL LETTER A WITH BREVE AND DOT BELOW
1EB7 LATIN |SMALL LETTER A WITH BREVE AND DOT BELOW|CAPITAL LETTER E WITH DOT BELOW
1EB9 LATIN |SMALL LETTER E WITH DOT BELOW|CAPITAL LETTER E WITH HOOK ABOVE
1EBB LATIN |SMALL LETTER E WITH HOOK ABOVE|CAPITAL LETTER E WITH TILDE|SMALL LETTER E WITH TILDE
1EBE LATIN |CAPITAL LETTER E WITH CIRCUMFLEX AND ACUTE|SMALL LETTER E WITH CIRCUMFLEX AND ACUTE
1EC0 LATIN |CAPITAL LETTER E WITH CIRCUMFLEX AND GRAVE|SMALL LETTER E WITH CIRCUMFLEX AND GRAVE
1EC2 LATIN CAPITAL LETTER E WITH CIRCUMFLEX AND HOOK |ABOVE
1EC3 LATIN SMALL LETTER E WITH CIRCUMFLEX AND HOOK |ABOVE
1EC4 LATIN |CAPITAL LETTER E WITH CIRCUMFLEX AND TILDE|SMALL LETTER E WITH CIRCUMFLEX AND TILDE
1EC6 LATIN CAPITAL LETTER E WITH CIRCUMFLEX AND DOT |BELOW
1EC7 LATIN SMALL LETTER E WITH CIRCUMFLEX AND DOT |BELOW
1EC8 LATIN |CAPITAL LETTER I WITH HOOK ABOVE|SMALL LETTER I WITH HOOK ABOVE
1ECA LATIN |CAPITAL LETTER I WITH DOT BELOW|SMALL LETTER I WITH DOT BELOW
1ECC LATIN |CAPITAL LETTER O WITH DOT BELOW|SMALL LETTER O WITH DOT BELOW
1ECE LATIN |CAPITAL LETTER O WITH HOOK ABOVE|SMALL LETTER O WITH HOOK ABOVE
1ED0 LATIN |CAPITAL LETTER O WITH CIRCUMFLEX AND ACUTE|SMALL LETTER O WITH CIRCUMFLEX AND ACUTE
1ED2 LATIN |CAPITAL LETTER O WITH CIRCUMFLEX AND GRAVE|SMALL LETTER O WITH CIRCUMFLEX AND GRAVE
1ED4 LATIN CAPITAL LETTER O WITH CIRCUMFLEX AND HOOK |ABOVE
1ED5 LATIN SMALL LETTER O WITH CIRCUMFLEX AND HOOK |ABOVE
1ED6 LATIN |CAPITAL LETTER O WITH CIRCUMFLEX AND TILDE|SMALL LETTER O WITH CIRCUMFLEX AND TILDE
1ED8 LATIN CAPITAL LETTER O WITH CIRCUMFLEX AND DOT |BELOW
1ED9 LATIN SMALL LETTER O WITH CIRCUMFLEX AND DOT |BELOW
1EDA LATIN |CAPITAL LETTER O WITH HORN AND ACUTE|SMALL LETTER O WITH HORN AND ACUTE
1EDC LATIN |CAPITAL LETTER O WITH HORN AND GRAVE|SMALL LETTER O WITH HORN AND GRAVE
1EDE LATIN |CAPITAL LETTER O WITH HORN AND HOOK ABOVE|SMALL LETTER O WITH HORN AND HOOK ABOVE
1EE0 LATIN |CAPITAL LETTER O WITH HORN AND TILDE|SMALL LETTER O WITH HORN AND TILDE
1EE2 LATIN |CAPITAL LETTER O WITH HORN AND DOT BELOW|SMALL LETTER O WITH HORN AND DOT BELOW
1EE4 LATIN |CAPITAL LETTER U WITH DOT BELOW|SMALL LETTER U WITH DOT BELOW
1EE6 LATIN |CAPITAL LETTER U WITH HOOK ABOVE|SMALL LETTER U WITH HOOK ABOVE
1EE8 LATIN |CAPITAL LETTER U WITH HORN AND ACUTE|SMALL LETTER U WITH HORN AND ACUTE
1EEA LATIN |CAPITAL LETTER U WITH HORN AND GRAVE|SMALL LETTER U WITH HORN AND GRAVE
1EEC LATIN |CAPITAL LETTER U WITH HORN AND HOOK ABOVE|SMALL LETTER U WITH HORN AND HOOK ABOVE
1EEE LATIN |CAPITAL LETTER U WITH HORN AND TILDE|SMALL LETTER U WITH HORN AND TILDE
1EF0 LATIN |CAPITAL LETTER U WITH HORN AND DOT BELOW|SMALL LETTER U WITH HORN AND DOT BELOW
1EF2 LATIN |CAPITAL LETTER Y WITH GRAVE|SMALL LETTER Y WITH GRAVE
1EF4 LATIN |CAPITAL LETTER Y WITH DOT BELOW|SMALL LETTER Y WITH DOT BELOW
1EF6 LATIN |CAPITAL LETTER Y WITH HOOK ABOVE|SMALL LETTER Y WITH HOOK ABOVE
1EF8 LATIN |CAPITAL LETTER Y WITH TILDE|SMALL LETTER Y WITH TILDE|CAPITAL LETTER MIDDLE-WELSH LL
1EFB LATIN |SMALL LETTER MIDDLE-WELSH LL|CAPITAL LETTER MIDDLE-WELSH V
1EFD LATIN |SMALL LETTER MIDDLE-WELSH V|CAPITAL LETTER Y WITH LOOP|SMALL LETTER Y WITH LOOP
1F00 GREEK SMALL LETTER ALPHA WITH |PSILI|DASIA|PSILI AND VARIA|DASIA AND VARIA|PSILI AND OXIA
1F05 GREEK SMALL LETTER ALPHA WITH |DASIA AND OXIA|PSILI AND PERISPOMENI|DASIA AND PERISPOMENI
1F08 GREEK CAPITAL LETTER ALPHA WITH |PSILI|DASIA|PSILI AND VARIA|DASIA AND VARIA|PSILI AND OXIA
1F0D GREEK CAPITAL LETTER ALPHA WITH |DASIA AND OXIA|PSILI AND PERISPOMENI|DASIA AND PERISPOMENI
1F10 GREEK SMALL LETTER EPSILON WITH |PSILI|DASIA|PSILI AND VARIA
1F13 GREEK SMALL LETTER EPSILON WITH |DASIA AND VARIA|PSILI AND OXIA|DASIA AND OXIA
1F18 GREEK CAPITAL LETTER EPSILON WITH |PSILI|DASIA|PSILI AND VARIA
1F1B GREEK CAPITAL LETTER EPSILON WITH |DASIA AND VARIA|PSILI AND OXIA|DASIA AND OXIA
1F20 GREEK SMALL LETTER ETA WITH |PSILI|DASIA|PSILI AND VARIA|DASIA AND VARIA|PSILI AND OXIA
1F25 GREEK SMALL LETTER ETA WITH |DASIA AND OXIA|PSILI AND PERISPOMENI|DASIA AND PERISPOMENI
1F28 GREEK CAPITAL LETTER ETA WITH |PSILI|DASIA|PSILI AND VARIA|DASIA AND VARIA|PSILI AND OXIA
1F2D GREEK CAPITAL LETTER ETA WITH |DASIA AND OXIA|PSILI AND PERISPOMENI|DASIA AND PERISPOMENI
1F30 GREEK SMALL LETTER IOTA WITH |PSILI|DASIA|PSILI AND VARIA|DASIA AND VARIA|PSILI AND OXIA
1F35 GREEK SMALL LETTER IOTA WITH |DASIA AND OXIA|PSILI AND PERISPOMENI|DASIA AND PERISPOMENI
1F38 GREEK CAPITAL LETTER IOTA WITH |PSILI|DASIA|PSILI AND VARIA|DASIA AND VARIA|PSILI AND OXIA
1F3D GREEK CAPITAL LETTER IOTA WITH |DASIA AND OXIA|PSILI AND PERISPOMENI|DASIA AND PERISPOMENI
1F40 GREEK SMALL LETTER OMICRON WITH |PSILI|DASIA|PSILI AND VARIA
1F43 GREEK SMALL LETTER OMICRON WITH |DASIA AND VARIA|PSILI AND OXIA|DASIA AND OXIA
1F48 GREEK CAPITAL LETTER OMICRON WITH |PSILI|DASIA|PSILI AND VARIA
1F4B GREEK CAPITAL LETTER OMICRON WITH |DASIA AND VARIA|PSILI AND OXIA|DASIA AND OXIA
1F50 GREEK SMALL LETTER UPSILON WITH |PSILI|DASIA|PSILI AND VARIA|DASIA AND VARIA|PSILI AND OXIA
1F55 GREEK SMALL LETTER UPSILON WITH |DASIA AND OXIA|PSILI AND PERISPOMENI|DASIA AND PERISPOMENI
1F59 GREEK CAPITAL LETTER UPSILON WITH |DASIA
1F5B GREEK CAPITAL LETTER UPSILON WITH DASIA AND |VARIA
1F5D GREEK CAPITAL LETTER UPSILON WITH DASIA AND |OXIA
1F5F GREEK CAPITAL LETTER UPSILON WITH DASIA AND |PERISPOMENI
1F60 GREEK SMALL LETTER OMEGA WITH |PSILI|DASIA|PSILI AND VARIA|DASIA AND VARIA|PSILI AND OXIA
1F65 GREEK SMALL LETTER OMEGA WITH |DASIA AND OXIA|PSILI AND PERISPOMENI|DASIA AND PERISPOMENI
1F68 GREEK CAPITAL LETTER OMEGA WITH |PSILI|DASIA|PSILI AND VARIA|DASIA AND VARIA|PSILI AND OXIA
1F6D GREEK CAPITAL LETTER OMEGA WITH |DASIA AND OXIA|PSILI AND PERISPOMENI|DASIA AND PERISPOMENI
1F70 GREEK SMALL LETTER |ALPHA WITH VARIA|ALPHA WITH OXIA|EPSILON WITH VARIA|EPSILON WITH OXIA
1F74 GREEK SMALL LETTER |ETA WITH VARIA|ETA WITH OXIA|IOTA WITH VARIA|IOTA WITH OXIA
1F78 GREEK SMALL LETTER OMICRON WITH |VARIA|OXIA
1F7A GREEK SMALL LETTER |UPSILON WITH VARIA|UPSILON WITH OXIA|OMEGA WITH VARIA|OMEGA WITH OXIA
1F80 GREEK SMALL LETTER ALPHA WITH PSILI AND |YPOGEGRAMMENI
1F81 GREEK SMALL LETTER ALPHA WITH |DASIA AND YPOGEGRAMMENI|PSILI AND VARIA AND YPOGEGRAMMENI
1F83 GREEK SMALL LETTER ALPHA WITH DASIA AND VARIA AND |YPOGEGRAMMENI
1F84 GREEK SMALL LETTER ALPHA WITH PSILI AND OXIA AND |YPOGEGRAMMENI
1F85 GREEK SMALL LETTER ALPHA WITH DASIA AND OXIA AND |YPOGEGRAMMENI
1F86 GREEK SMALL LETTER ALPHA WITH PSILI AND PERISPOMENI AND |YPOGEGRAMMENI
1F87 GREEK SMALL LETTER ALPHA WITH DASIA AND PERISPOMENI AND |YPOGEGRAMMENI
1F88 GREEK CAPITAL LETTER ALPHA WITH |PSILI AND PROSGEGRAMMENI|DASIA AND PROSGEGRAMMENI
1F8A GREEK CAPITAL LETTER ALPHA WITH PSILI AND VARIA AND |PROSGEGRAMMENI
1F8B GREEK CAPITAL LETTER ALPHA WITH DASIA AND VARIA AND |PROSGEGRAMMENI
1F8C GREEK CAPITAL LETTER ALPHA WITH PSILI AND OXIA AND |PROSGEGRAMMENI
1F8D GREEK CAPITAL LETTER ALPHA WITH DASIA AND OXIA AND |PROSGEGRAMMENI
1F8E GREEK CAPITAL LETTER ALPHA WITH PSILI AND PERISPOMENI AND |PROSGEGRAMMENI
1F8F GREEK CAPITAL LETTER ALPHA WITH DASIA AND PERISPOMENI AND |PROSGEGRAMMENI
1F90 GREEK SMALL LETTER ETA WITH PSILI AND |YPOGEGRAMMENI
1F91 GREEK SMALL LETTER ETA WITH |DASIA AND YPOGEGRAMMENI|PSILI AND VARIA AND YPOGEGRAMMENI
1F93 GREEK SMALL LETTER ETA WITH DASIA AND VARIA AND |YPOGEGRAMMENI
1F94 GREEK SMALL LETTER ETA WITH PSILI AND OXIA AND |YPOGEGRAMMENI
1F95 GREEK SMALL LETTER ETA WITH DASIA AND OXIA AND |YPOGEGRAMMENI
1F96 GREEK SMALL LETTER ETA WITH PSILI AND PERISPOMENI AND |YPOGEGRAMMENI
1F97 GREEK SMALL LETTER ETA WITH DASIA AND PERISPOMENI AND |YPOGEGRAMMENI
1F98 GREEK CAPITAL LETTER ETA WITH PSILI AND |PROSGEGRAMMENI
1F99 GREEK CAPITAL LETTER ETA WITH |DASIA AND PROSGEGRAMMENI|PSILI AND VARIA AND PROSGEGRAMMENI
1F9B GREEK CAPITAL LETTER ETA WITH DASIA AND VARIA AND |PROSGEGRAMMENI
1F9C GREEK CAPITAL LETTER ETA WITH PSILI AND OXIA AND |PROSGEGRAMMENI
1F9D GREEK CAPITAL LETTER ETA WITH DASIA AND OXIA AND |PROSGEGRAMMENI
1F9E GREEK CAPITAL LETTER ETA WITH PSILI AND PERISPOMENI AND |PROSGEGRAMMENI
1F9F GREEK CAPITAL LETTER ETA WITH DASIA AND PERISPOMENI AND |PROSGEGRAMMENI
1FA0 GREEK SMALL LETTER OMEGA WITH PSILI AND |YPOGEGRAMMENI
1FA1 GREEK SMALL LETTER OMEGA WITH |DASIA AND YPOGEGRAMMENI|PSILI AND VARIA AND YPOGEGRAMMENI
1FA3 GREEK SMALL LETTER OMEGA WITH DASIA AND VARIA AND |YPOGEGRAMMENI
1FA4 GREEK SMALL LETTER OMEGA WITH PSILI AND OXIA AND |YPOGEGRAMMENI
1FA5 GREEK SMALL LETTER OMEGA WITH DASIA AND OXIA AND |YPOGEGRAMMENI
1FA6 GREEK SMALL LETTER OMEGA WITH PSILI AND PERISPOMENI AND |YPOGEGRAMMENI
1FA7 GREEK SMALL LETTER OMEGA WITH DASIA AND PERISPOMENI AND |YPOGEGRAMMENI
1FA8 GREEK CAPITAL LETTER OMEGA WITH |PSILI AND PROSGEGRAMMENI|DASIA AND PROSGEGRAMMENI
1FAA GREEK CAPITAL LETTER OMEGA WITH PSILI AND VARIA AND |PROSGEGRAMMENI
1FAB GREEK CAPITAL LETTER OMEGA WITH DASIA AND VARIA AND |PROSGEGRAMMENI
1FAC GREEK CAPITAL LETTER OMEGA WITH PSILI AND OXIA AND |PROSGEGRAMMENI
1FAD GREEK CAPITAL LETTER OMEGA WITH DASIA AND OXIA AND |PROSGEGRAMMENI
1FAE GREEK CAPITAL LETTER OMEGA WITH PSILI AND PERISPOMENI AND |PROSGEGRAMMENI
1FAF GREEK CAPITAL LETTER OMEGA WITH DASIA AND PERISPOMENI AND |PROSGEGRAMMENI
1FB0 GREEK SMALL LETTER ALPHA WITH |VRACHY|MACRON
1FB2 GREEK SMALL LETTER ALPHA WITH |VARIA AND YPOGEGRAMMENI|YPOGEGRAMMENI|OXIA AND YPOGEGRAMMENI
1FB6 GREEK SMALL LETTER ALPHA WITH |PERISPOMENI|PERISPOMENI AND YPOGEGRAMMENI
1FB8 GREEK CAPITAL LETTER ALPHA WITH |VRACHY|MACRON|VARIA|OXIA|PROSGEGRAMMENI
1FBD GREEK |KORONIS|PROSGEGRAMMENI|PSILI|PERISPOMENI|DIALYTIKA AND PERISPOMENI
1FC2 GREEK SMALL LETTER ETA WITH |VARIA AND YPOGEGRAMMENI|YPOGEGRAMMENI|OXIA AND YPOGEGRAMMENI
1FC6 GREEK SMALL LETTER ETA WITH |PERISPOMENI|PERISPOMENI AND YPOGEGRAMMENI
1FC8 GREEK CAPITAL LETTER EPSILON WITH |VARIA|OXIA
1FCA GREEK CAPITAL LETTER ETA WITH |VARIA|OXIA|PROSGEGRAMMENI
1FCD GREEK PSILI AND |VARIA|OXIA|PERISPOMENI
1FD0 GREEK SMALL LETTER IOTA WITH |VRACHY|MACRON|DIALYTIKA AND VARIA|DIALYTIKA AND OXIA
1FD6 GREEK SMALL LETTER IOTA WITH |PERISPOMENI|DIALYTIKA AND PERISPOMENI
1FD8 GREEK CAPITAL LETTER IOTA WITH |VRACHY|MACRON|VARIA|OXIA
1FDD GREEK DASIA AND |VARIA|OXIA|PERISPOMENI
1FE0 GREEK SMALL LETTER UPSILON WITH |VRACHY|MACRON|DIALYTIKA AND VARIA|DIALYTIKA AND OXIA
1FE4 GREEK SMALL LETTER RHO WITH |PSILI|DASIA
1FE6 GREEK SMALL LETTER UPSILON WITH |PERISPOMENI|DIALYTIKA AND PERISPOMENI
1FE8 GREEK CAPITAL LETTER UPSILON WITH |VRACHY|MACRON|VARIA|OXIA
1FEC GREEK |CAPITAL LETTER RHO WITH DASIA|DIALYTIKA AND VARIA|DIALYTIKA AND OXIA|VARIA
1FF2 GREEK SMALL LETTER OMEGA WITH |VARIA AND YPOGEGRAMMENI|YPOGEGRAMMENI|OXIA AND YPOGEGRAMMENI
1FF6 GREEK SMALL LETTER OMEGA WITH |PERISPOMENI|PERISPOMENI AND YPOGEGRAMMENI
1FF8 GREEK CAPITAL LETTER OMICRON WITH |VARIA|OXIA
1FFA GREEK CAPITAL LETTER OMEGA WITH |VARIA|OXIA|PROSGEGRAMMENI
1FFD GREEK |OXIA|DASIA"

end Text
end RecordRules
