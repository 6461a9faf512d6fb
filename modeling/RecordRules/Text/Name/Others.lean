/-!
# Character names: other names

Names beside the one that the tables of names give: those of the control characters, abbreviations,
and corrections.  Each line gives a code point and its other names.  The variation selectors, which
are numbered, are not listed.
-/

set_option autoImplicit false

namespace RecordRules
namespace Text

/-- The other names of characters. -/
def otherNames : String :=
  "0000|NUL|NULL
0001|SOH|START OF HEADING
0002|START OF TEXT|STX
0003|END OF TEXT|ETX
0004|END OF TRANSMISSION|EOT
0005|ENQ|ENQUIRY
0006|ACK|ACKNOWLEDGE
0007|ALERT|BEL
0008|BACKSPACE|BS
0009|CHARACTER TABULATION|HORIZONTAL TABULATION|HT|TAB
000A|END OF LINE|EOL|LF|LINE FEED|NEW LINE|NL
000B|LINE TABULATION|VERTICAL TABULATION|VT
000C|FF|FORM FEED
000D|CARRIAGE RETURN|CR
000E|LOCKING-SHIFT ONE|SHIFT OUT|SO
000F|LOCKING-SHIFT ZERO|SHIFT IN|SI
0010|DATA LINK ESCAPE|DLE
0011|DC1|DEVICE CONTROL ONE
0012|DC2|DEVICE CONTROL TWO
0013|DC3|DEVICE CONTROL THREE
0014|DC4|DEVICE CONTROL FOUR
0015|NAK|NEGATIVE ACKNOWLEDGE
0016|SYN|SYNCHRONOUS IDLE
0017|END OF TRANSMISSION BLOCK|ETB
0018|CAN|CANCEL
0019|END OF MEDIUM|EOM
001A|SUB|SUBSTITUTE
001B|ESC|ESCAPE
001C|FILE SEPARATOR|FS|INFORMATION SEPARATOR FOUR
001D|GROUP SEPARATOR|GS|INFORMATION SEPARATOR THREE
001E|INFORMATION SEPARATOR TWO|RECORD SEPARATOR|RS
001F|INFORMATION SEPARATOR ONE|UNIT SEPARATOR|US
0020|SP
007F|DEL|DELETE
0080|PAD|PADDING CHARACTER
0081|HIGH OCTET PRESET|HOP
0082|BPH|BREAK PERMITTED HERE
0083|NBH|NO BREAK HERE
0084|IND|INDEX
0085|NEL|NEXT LINE
0086|SSA|START OF SELECTED AREA
0087|END OF SELECTED AREA|ESA
0088|CHARACTER TABULATION SET|HORIZONTAL TABULATION SET|HTS
0089|CHARACTER TABULATION WITH JUSTIFICATION|HORIZONTAL TABULATION WITH JUSTIFICATION|HTJ
008A|LINE TABULATION SET|VERTICAL TABULATION SET|VTS
008B|PARTIAL LINE DOWN|PARTIAL LINE FORWARD|PLD
008C|PARTIAL LINE BACKWARD|PARTIAL LINE UP|PLU
008D|REVERSE INDEX|REVERSE LINE FEED|RI
008E|SINGLE SHIFT TWO|SINGLE-SHIFT-2|SS2
008F|SINGLE SHIFT THREE|SINGLE-SHIFT-3|SS3
0090|DCS|DEVICE CONTROL STRING
0091|PRIVATE USE ONE|PRIVATE USE-1|PU1
0092|PRIVATE USE TWO|PRIVATE USE-2|PU2
0093|SET TRANSMIT STATE|STS
0094|CANCEL CHARACTER|CCH
0095|MESSAGE WAITING|MW
0096|SPA|START OF GUARDED AREA|START OF PROTECTED AREA
0097|END OF GUARDED AREA|END OF PROTECTED AREA|EPA
0098|SOS|START OF STRING
0099|SGC|SINGLE GRAPHIC CHARACTER INTRODUCER
009A|SCI|SINGLE CHARACTER INTRODUCER
009B|CONTROL SEQUENCE INTRODUCER|CSI
009C|ST|STRING TERMINATOR
009D|OPERATING SYSTEM COMMAND|OSC
009E|PM|PRIVACY MESSAGE
009F|APC|APPLICATION PROGRAM COMMAND
00A0|NBSP
00AD|SHY
01A2|LATIN CAPITAL LETTER GHA
01A3|LATIN SMALL LETTER GHA
034F|CGJ
061C|ALM
0709|SYRIAC SUBLINEAR COLON SKEWED LEFT
0CDE|KANNADA LETTER LLLA
0E9D|LAO LETTER FO FON
0E9F|LAO LETTER FO FAY
0EA3|LAO LETTER RO
0EA5|LAO LETTER LO
0FD0|TIBETAN MARK BKA- SHOG GI MGO RGYAN
11EC|HANGUL JONGSEONG YESIEUNG-KIYEOK
11ED|HANGUL JONGSEONG YESIEUNG-SSANGKIYEOK
11EE|HANGUL JONGSEONG SSANGYESIEUNG
11EF|HANGUL JONGSEONG YESIEUNG-KHIEUKH
180B|FVS1
180C|FVS2
180D|FVS3
180E|MVS
180F|FVS4
200B|ZWSP
200C|ZWNJ
200D|ZWJ
200E|LRM
200F|RLM
202A|LRE
202B|RLE
202C|PDF
202D|LRO
202E|RLO
202F|NNBSP
205F|MMSP
2060|WJ
2066|LRI
2067|RLI
2068|FSI
2069|PDI
2118|WEIERSTRASS ELLIPTIC FUNCTION
2448|MICR ON US SYMBOL
2449|MICR DASH SYMBOL
2B7A|LEFTWARDS TRIANGLE-HEADED ARROW WITH DOUBLE VERTICAL STROKE
2B7C|RIGHTWARDS TRIANGLE-HEADED ARROW WITH DOUBLE VERTICAL STROKE
A015|YI SYLLABLE ITERATION MARK
AA6E|MYANMAR LETTER KHAMTI LLA
FE18|PRESENTATION FORM FOR VERTICAL RIGHT WHITE LENTICULAR BRACKET
FEFF|BOM|BYTE ORDER MARK|ZWNBSP
122D4|CUNEIFORM SIGN NU11 TENU
122D5|CUNEIFORM SIGN NU11 OVER NU11 BUR OVER BUR
16E56|MEDEFAIDRIN CAPITAL LETTER H
16E57|MEDEFAIDRIN CAPITAL LETTER NG
16E76|MEDEFAIDRIN SMALL LETTER H
16E77|MEDEFAIDRIN SMALL LETTER NG
1B001|HENTAIGANA LETTER E-1
1D0C5|BYZANTINE MUSICAL SYMBOL FTHORA SKLIRON CHROMA VASIS"

end Text
end RecordRules
