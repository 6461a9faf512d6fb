/-!
# Character names: pictographs

Names of the characters of pictographs, tags and selectors, from `U+1F000` on.  Each line gives a
code point, the beginning of a name, and how the names of the code points from there on end.
-/

set_option autoImplicit false

namespace RecordRules
namespace Text

/-- The names of the characters of pictographs, tags and selectors. -/
def pictographNames : String :=
  "1F000 MAHJONG TILE |EAST WIND|SOUTH WIND|WEST WIND|NORTH WIND|RED DRAGON|GREEN DRAGON
1F006 MAHJONG TILE |WHITE DRAGON|ONE OF CHARACTERS|TWO OF CHARACTERS|THREE OF CHARACTERS
1F00A MAHJONG TILE |FOUR OF CHARACTERS|FIVE OF CHARACTERS|SIX OF CHARACTERS|SEVEN OF CHARACTERS
1F00E MAHJONG TILE |EIGHT OF CHARACTERS|NINE OF CHARACTERS|ONE OF BAMBOOS|TWO OF BAMBOOS
1F012 MAHJONG TILE |THREE OF BAMBOOS|FOUR OF BAMBOOS|FIVE OF BAMBOOS|SIX OF BAMBOOS
1F016 MAHJONG TILE |SEVEN OF BAMBOOS|EIGHT OF BAMBOOS|NINE OF BAMBOOS|ONE OF CIRCLES
1F01A MAHJONG TILE |TWO OF CIRCLES|THREE OF CIRCLES|FOUR OF CIRCLES|FIVE OF CIRCLES
1F01E MAHJONG TILE |SIX OF CIRCLES|SEVEN OF CIRCLES|EIGHT OF CIRCLES|NINE OF CIRCLES
1F022 MAHJONG TILE |PLUM|ORCHID|BAMBOO|CHRYSANTHEMUM|SPRING|SUMMER|AUTUMN|WINTER|JOKER|BACK
1F030 DOMINO TILE HORIZONTAL |BACK
1F031 DOMINO TILE HORIZONTAL-00-|00|01|02|03|04|05|06
1F038 DOMINO TILE HORIZONTAL-01-|00|01|02|03|04|05|06
1F03F DOMINO TILE HORIZONTAL-02-|00|01|02|03|04|05|06
1F046 DOMINO TILE HORIZONTAL-03-|00|01|02|03|04|05|06
1F04D DOMINO TILE HORIZONTAL-04-|00|01|02|03|04|05|06
1F054 DOMINO TILE HORIZONTAL-05-|00|01|02|03|04|05|06
1F05B DOMINO TILE HORIZONTAL-06-|00|01|02|03|04|05|06
1F062 DOMINO TILE VERTICAL |BACK
1F063 DOMINO TILE VERTICAL-00-|00|01|02|03|04|05|06
1F06A DOMINO TILE VERTICAL-01-|00|01|02|03|04|05|06
1F071 DOMINO TILE VERTICAL-02-|00|01|02|03|04|05|06
1F078 DOMINO TILE VERTICAL-03-|00|01|02|03|04|05|06
1F07F DOMINO TILE VERTICAL-04-|00|01|02|03|04|05|06
1F086 DOMINO TILE VERTICAL-05-|00|01|02|03|04|05|06
1F08D DOMINO TILE VERTICAL-06-|00|01|02|03|04|05|06
1F0A0 PLAYING CARD |BACK|ACE OF SPADES|TWO OF SPADES|THREE OF SPADES|FOUR OF SPADES
1F0A5 PLAYING CARD |FIVE OF SPADES|SIX OF SPADES|SEVEN OF SPADES|EIGHT OF SPADES|NINE OF SPADES
1F0AA PLAYING CARD |TEN OF SPADES|JACK OF SPADES|KNIGHT OF SPADES|QUEEN OF SPADES|KING OF SPADES
1F0B1 PLAYING CARD |ACE OF HEARTS|TWO OF HEARTS|THREE OF HEARTS|FOUR OF HEARTS|FIVE OF HEARTS
1F0B6 PLAYING CARD |SIX OF HEARTS|SEVEN OF HEARTS|EIGHT OF HEARTS|NINE OF HEARTS|TEN OF HEARTS
1F0BB PLAYING CARD |JACK OF HEARTS|KNIGHT OF HEARTS|QUEEN OF HEARTS|KING OF HEARTS|RED JOKER
1F0C1 PLAYING CARD |ACE OF DIAMONDS|TWO OF DIAMONDS|THREE OF DIAMONDS
1F0C4 PLAYING CARD |FOUR OF DIAMONDS|FIVE OF DIAMONDS|SIX OF DIAMONDS|SEVEN OF DIAMONDS
1F0C8 PLAYING CARD |EIGHT OF DIAMONDS|NINE OF DIAMONDS|TEN OF DIAMONDS|JACK OF DIAMONDS
1F0CC PLAYING CARD |KNIGHT OF DIAMONDS|QUEEN OF DIAMONDS|KING OF DIAMONDS|BLACK JOKER
1F0D1 PLAYING CARD |ACE OF CLUBS|TWO OF CLUBS|THREE OF CLUBS|FOUR OF CLUBS|FIVE OF CLUBS
1F0D6 PLAYING CARD |SIX OF CLUBS|SEVEN OF CLUBS|EIGHT OF CLUBS|NINE OF CLUBS|TEN OF CLUBS
1F0DB PLAYING CARD |JACK OF CLUBS|KNIGHT OF CLUBS|QUEEN OF CLUBS|KING OF CLUBS|WHITE JOKER|FOOL
1F0E1 PLAYING CARD TRUMP-|1|2|3|4|5|6|7|8|9|10|11|12|13|14|15|16|17|18|19|20|21
1F100 DIGIT |ZERO FULL STOP|ZERO COMMA|ONE COMMA|TWO COMMA
1F104 DIGIT |THREE COMMA|FOUR COMMA|FIVE COMMA|SIX COMMA|SEVEN COMMA|EIGHT COMMA|NINE COMMA
1F10B DINGBAT |CIRCLED SANS-SERIF DIGIT ZERO|NEGATIVE CIRCLED SANS-SERIF DIGIT ZERO
1F10D CIRCLED |ZERO WITH SLASH|ANTICLOCKWISE ARROW|DOLLAR SIGN WITH OVERLAID BACKSLASH
1F110 PARENTHESIZED LATIN CAPITAL LETTER |A|B|C|D|E|F|G|H|I|J|K|L|M|N|O|P|Q|R|S|T|U|V|W|X|Y|Z
1F12A TORTOISE SHELL BRACKETED LATIN CAPITAL LETTER |S
1F12B CIRCLED ITALIC LATIN CAPITAL LETTER |C|R
1F12D CIRCLED |CD|WZ
1F12F COPYLEFT |SYMBOL
1F130 SQUARED LATIN CAPITAL LETTER |A|B|C|D|E|F|G|H|I|J|K|L|M|N|O|P|Q|R|S|T|U|V|W|X|Y|Z
1F14A SQUARED |HV|MV|SD|SS|PPV|WC
1F150 NEGATIVE CIRCLED LATIN CAPITAL LETTER |A|B|C|D|E|F|G|H|I|J|K|L|M|N|O|P|Q|R|S|T|U|V|W|X|Y|Z
1F16A RAISED |MC SIGN|MD SIGN|MR SIGN
1F16D CIRCLED |CC|C WITH OVERLAID BACKSLASH|HUMAN FIGURE
1F170 NEGATIVE SQUARED LATIN CAPITAL LETTER |A|B|C|D|E|F|G|H|I|J|K|L|M|N|O|P|Q|R|S|T|U|V|W|X|Y|Z
1F18A CROSSED NEGATIVE SQUARED LATIN CAPITAL LETTER |P
1F18B NEGATIVE SQUARED |IC|PA|SA|AB|WC
1F190 SQUARE |DJ
1F191 SQUARED |CL|COOL|FREE|ID|NEW|NG|OK|SOS|UP WITH EXCLAMATION MARK|VS|THREE D|SECOND SCREEN
1F19D SQUARED |TWO K|FOUR K|EIGHT K|FIVE POINT ONE|SEVEN POINT ONE|TWENTY-TWO POINT TWO|SIXTY P
1F1A4 SQUARED |ONE HUNDRED TWENTY P|LATIN SMALL LETTER D|HC|HDR|HI-RES|LOSSLESS|SHV|UHD|VOD
1F1AD MASK WORK |SYMBOL
1F1E6 REGIONAL INDICATOR SYMBOL LETTER |A|B|C|D|E|F|G|H|I|J|K|L|M|N|O|P|Q|R|S|T|U|V|W|X|Y|Z
1F200 SQUARE HIRAGANA |HOKA
1F201 SQUARED KATAKANA |KOKO|SA
1F210 SQUARED CJK UNIFIED IDEOGRAPH-|624B|5B57|53CC
1F213 SQUARED KATAKANA |DE
1F214 SQUARED CJK UNIFIED IDEOGRAPH-|4E8C|591A|89E3|5929
1F218 SQUARED CJK UNIFIED IDEOGRAPH-|4EA4|6620|7121|6599|524D|5F8C|518D|65B0|521D|7D42|751F|8CA9
1F224 SQUARED CJK UNIFIED IDEOGRAPH-|58F0|5439|6F14|6295|6355|4E00|4E09|904A|5DE6|4E2D|53F3|6307
1F230 SQUARED CJK UNIFIED IDEOGRAPH-|8D70|6253|7981|7A7A|5408|6E80|6709|6708|7533|5272|55B6|914D
1F240 TORTOISE SHELL BRACKETED CJK UNIFIED IDEOGRAPH-|672C
1F241 TORTOISE SHELL BRACKETED CJK UNIFIED IDEOGRAPH-|4E09|4E8C|5B89|70B9|6253|76D7|52DD|6557
1F250 CIRCLED IDEOGRAPH |ADVANTAGE|ACCEPT
1F260 ROUNDED SYMBOL FOR |FU|LU|SHOU|XI|SHUANGXI|CAI
1F300 |CYCLONE
1F301 |FOGGY|CLOSED UMBRELLA|NIGHT WITH STARS|SUNRISE OVER MOUNTAINS|SUNRISE|CITYSCAPE AT DUSK
1F307 |SUNSET OVER BUILDINGS|RAINBOW|BRIDGE AT NIGHT|WATER WAVE|VOLCANO|MILKY WAY
1F30D EARTH GLOBE |EUROPE-AFRICA|AMERICAS|ASIA-AUSTRALIA
1F310 |GLOBE WITH MERIDIANS|NEW MOON SYMBOL|WAXING CRESCENT MOON SYMBOL
1F313 |FIRST QUARTER MOON SYMBOL|WAXING GIBBOUS MOON SYMBOL|FULL MOON SYMBOL
1F316 |WANING GIBBOUS MOON SYMBOL|LAST QUARTER MOON SYMBOL|WANING CRESCENT MOON SYMBOL
1F319 |CRESCENT MOON|NEW MOON WITH FACE|FIRST QUARTER MOON WITH FACE|LAST QUARTER MOON WITH FACE
1F31D |FULL MOON WITH FACE|SUN WITH FACE|GLOWING STAR|SHOOTING STAR|THERMOMETER|BLACK DROPLET
1F323 WHITE |SUN|SUN WITH SMALL CLOUD|SUN BEHIND CLOUD|SUN BEHIND CLOUD WITH RAIN
1F327 CLOUD WITH |RAIN|SNOW|LIGHTNING|TORNADO
1F32B |FOG|WIND BLOWING FACE|HOT DOG|TACO|BURRITO|CHESTNUT
1F331 |SEEDLING|EVERGREEN TREE|DECIDUOUS TREE|PALM TREE|CACTUS|HOT PEPPER|TULIP|CHERRY BLOSSOM
1F339 |ROSE|HIBISCUS|SUNFLOWER|BLOSSOM|EAR OF MAIZE|EAR OF RICE|HERB|FOUR LEAF CLOVER|MAPLE LEAF
1F342 |FALLEN LEAF|LEAF FLUTTERING IN WIND|MUSHROOM|TOMATO|AUBERGINE|GRAPES|MELON|WATERMELON
1F34A |TANGERINE|LEMON|BANANA|PINEAPPLE|RED APPLE|GREEN APPLE|PEAR|PEACH|CHERRIES|STRAWBERRY
1F354 |HAMBURGER|SLICE OF PIZZA|MEAT ON BONE|POULTRY LEG|RICE CRACKER|RICE BALL|COOKED RICE
1F35B |CURRY AND RICE|STEAMING BOWL|SPAGHETTI|BREAD|FRENCH FRIES|ROASTED SWEET POTATO
1F361 |DANGO|ODEN|SUSHI|FRIED SHRIMP|FISH CAKE WITH SWIRL DESIGN|SOFT ICE CREAM|SHAVED ICE
1F368 |ICE CREAM|DOUGHNUT|COOKIE|CHOCOLATE BAR|CANDY|LOLLIPOP|CUSTARD|HONEY POT|SHORTCAKE
1F371 |BENTO BOX|POT OF FOOD|COOKING|FORK AND KNIFE|TEACUP WITHOUT HANDLE|SAKE BOTTLE AND CUP
1F377 |WINE GLASS|COCKTAIL GLASS|TROPICAL DRINK|BEER MUG|CLINKING BEER MUGS|BABY BOTTLE
1F37D |FORK AND KNIFE WITH PLATE|BOTTLE WITH POPPING CORK|POPCORN|RIBBON|WRAPPED PRESENT
1F382 |BIRTHDAY CAKE|JACK-O-LANTERN|CHRISTMAS TREE|FATHER CHRISTMAS|FIREWORKS|FIREWORK SPARKLER
1F388 |BALLOON|PARTY POPPER|CONFETTI BALL|TANABATA TREE|CROSSED FLAGS|PINE DECORATION
1F38E |JAPANESE DOLLS|CARP STREAMER|WIND CHIME|MOON VIEWING CEREMONY|SCHOOL SATCHEL
1F393 |GRADUATION CAP|HEART WITH TIP ON THE LEFT|BOUQUET OF FLOWERS|MILITARY MEDAL
1F397 |REMINDER RIBBON|MUSICAL KEYBOARD WITH JACKS|STUDIO MICROPHONE|LEVEL SLIDER|CONTROL KNOBS
1F39C BEAMED |ASCENDING MUSICAL NOTES|DESCENDING MUSICAL NOTES
1F39E |FILM FRAMES|ADMISSION TICKETS|CAROUSEL HORSE|FERRIS WHEEL|ROLLER COASTER
1F3A3 |FISHING POLE AND FISH|MICROPHONE|MOVIE CAMERA|CINEMA|HEADPHONE|ARTIST PALETTE|TOP HAT
1F3AA |CIRCUS TENT|TICKET|CLAPPER BOARD|PERFORMING ARTS|VIDEO GAME|DIRECT HIT|SLOT MACHINE
1F3B1 |BILLIARDS|GAME DIE|BOWLING|FLOWER PLAYING CARDS|MUSICAL NOTE|MULTIPLE MUSICAL NOTES
1F3B7 |SAXOPHONE|GUITAR|MUSICAL KEYBOARD|TRUMPET|VIOLIN|MUSICAL SCORE|RUNNING SHIRT WITH SASH
1F3BE |TENNIS RACQUET AND BALL|SKI AND SKI BOOT|BASKETBALL AND HOOP|CHEQUERED FLAG|SNOWBOARDER
1F3C3 |RUNNER|SURFER|SPORTS MEDAL|TROPHY|HORSE RACING|AMERICAN FOOTBALL|RUGBY FOOTBALL
1F3CA |SWIMMER|WEIGHT LIFTER|GOLFER|RACING MOTORCYCLE|RACING CAR|CRICKET BAT AND BALL|VOLLEYBALL
1F3D1 |FIELD HOCKEY STICK AND BALL|ICE HOCKEY STICK AND PUCK|TABLE TENNIS PADDLE AND BALL
1F3D4 |SNOW CAPPED MOUNTAIN|CAMPING|BEACH WITH UMBRELLA|BUILDING CONSTRUCTION|HOUSE BUILDINGS
1F3D9 |CITYSCAPE|DERELICT HOUSE BUILDING|CLASSICAL BUILDING|DESERT|DESERT ISLAND|NATIONAL PARK
1F3DF |STADIUM|HOUSE BUILDING|HOUSE WITH GARDEN|OFFICE BUILDING|JAPANESE POST OFFICE
1F3E4 |EUROPEAN POST OFFICE|HOSPITAL|BANK|AUTOMATED TELLER MACHINE|HOTEL|LOVE HOTEL
1F3EA |CONVENIENCE STORE|SCHOOL|DEPARTMENT STORE|FACTORY|IZAKAYA LANTERN|JAPANESE CASTLE
1F3F0 |EUROPEAN CASTLE|WHITE PENNANT|BLACK PENNANT|WAVING WHITE FLAG|WAVING BLACK FLAG
1F3F5 |ROSETTE|BLACK ROSETTE|LABEL|BADMINTON RACQUET AND SHUTTLECOCK|BOW AND ARROW|AMPHORA
1F3FB EMOJI MODIFIER FITZPATRICK TYPE-|1-2|3|4|5|6
1F400 |RAT|MOUSE|OX|WATER BUFFALO|COW|TIGER|LEOPARD|RABBIT
1F408 |CAT|DRAGON|CROCODILE|WHALE|SNAIL|SNAKE|HORSE|RAM|GOAT|SHEEP|MONKEY|ROOSTER|CHICKEN|DOG
1F416 |PIG|BOAR|ELEPHANT|OCTOPUS|SPIRAL SHELL|BUG|ANT|HONEYBEE|LADY BEETLE|FISH|TROPICAL FISH
1F421 |BLOWFISH|TURTLE|HATCHING CHICK|BABY CHICK|FRONT-FACING BABY CHICK|BIRD|PENGUIN|KOALA
1F429 |POODLE|DROMEDARY CAMEL|BACTRIAN CAMEL|DOLPHIN|MOUSE FACE|COW FACE|TIGER FACE|RABBIT FACE
1F431 |CAT FACE|DRAGON FACE|SPOUTING WHALE|HORSE FACE|MONKEY FACE|DOG FACE|PIG FACE|FROG FACE
1F439 |HAMSTER FACE|WOLF FACE|BEAR FACE|PANDA FACE|PIG NOSE|PAW PRINTS|CHIPMUNK|EYES|EYE
1F442 |EAR|NOSE|MOUTH|TONGUE|WHITE UP POINTING BACKHAND INDEX|WHITE DOWN POINTING BACKHAND INDEX
1F448 WHITE |LEFT POINTING BACKHAND INDEX|RIGHT POINTING BACKHAND INDEX
1F44A |FISTED HAND SIGN|WAVING HAND SIGN|OK HAND SIGN|THUMBS UP SIGN
1F44E |THUMBS DOWN SIGN|CLAPPING HANDS SIGN|OPEN HANDS SIGN|CROWN|WOMANS HAT|EYEGLASSES
1F454 |NECKTIE|T-SHIRT|JEANS|DRESS|KIMONO|BIKINI|WOMANS CLOTHES|PURSE|HANDBAG|POUCH|MANS SHOE
1F45F |ATHLETIC SHOE|HIGH-HEELED SHOE|WOMANS SANDAL|WOMANS BOOTS|FOOTPRINTS|BUST IN SILHOUETTE
1F465 |BUSTS IN SILHOUETTE|BOY|GIRL|MAN|WOMAN|FAMILY|MAN AND WOMAN HOLDING HANDS
1F46C TWO |MEN HOLDING HANDS|WOMEN HOLDING HANDS
1F46E |POLICE OFFICER|WOMAN WITH BUNNY EARS|BRIDE WITH VEIL|PERSON WITH BLOND HAIR
1F472 MAN WITH |GUA PI MAO|TURBAN
1F474 |OLDER MAN|OLDER WOMAN|BABY|CONSTRUCTION WORKER|PRINCESS
1F479 JAPANESE |OGRE|GOBLIN
1F47B |GHOST|BABY ANGEL|EXTRATERRESTRIAL ALIEN|ALIEN MONSTER|IMP|SKULL|INFORMATION DESK PERSON
1F482 |GUARDSMAN|DANCER|LIPSTICK|NAIL POLISH|FACE MASSAGE|HAIRCUT|BARBER POLE
1F489 |SYRINGE|PILL|KISS MARK|LOVE LETTER|RING|GEM STONE|KISS|BOUQUET|COUPLE WITH HEART|WEDDING
1F493 |BEATING HEART|BROKEN HEART|TWO HEARTS|SPARKLING HEART|GROWING HEART|HEART WITH ARROW
1F499 |BLUE HEART|GREEN HEART|YELLOW HEART|PURPLE HEART|HEART WITH RIBBON|REVOLVING HEARTS
1F49F |HEART DECORATION|DIAMOND SHAPE WITH A DOT INSIDE|ELECTRIC LIGHT BULB|ANGER SYMBOL
1F4A3 |BOMB|SLEEPING SYMBOL|COLLISION SYMBOL|SPLASHING SWEAT SYMBOL|DROPLET|DASH SYMBOL
1F4A9 |PILE OF POO|FLEXED BICEPS|DIZZY SYMBOL|SPEECH BALLOON|THOUGHT BALLOON|WHITE FLOWER
1F4AF |HUNDRED POINTS SYMBOL|MONEY BAG|CURRENCY EXCHANGE|HEAVY DOLLAR SIGN|CREDIT CARD
1F4B4 BANKNOTE WITH |YEN SIGN|DOLLAR SIGN|EURO SIGN|POUND SIGN
1F4B8 |MONEY WITH WINGS|CHART WITH UPWARDS TREND AND YEN SIGN
1F4BA |SEAT|PERSONAL COMPUTER|BRIEFCASE|MINIDISC|FLOPPY DISK|OPTICAL DISC|DVD|FILE FOLDER
1F4C2 |OPEN FILE FOLDER|PAGE WITH CURL|PAGE FACING UP|CALENDAR|TEAR-OFF CALENDAR|CARD INDEX
1F4C8 CHART WITH |UPWARDS TREND|DOWNWARDS TREND
1F4CA |BAR CHART|CLIPBOARD|PUSHPIN|ROUND PUSHPIN|PAPERCLIP|STRAIGHT RULER|TRIANGULAR RULER
1F4D1 |BOOKMARK TABS|LEDGER|NOTEBOOK|NOTEBOOK WITH DECORATIVE COVER|CLOSED BOOK|OPEN BOOK
1F4D7 |GREEN BOOK|BLUE BOOK|ORANGE BOOK|BOOKS|NAME BADGE|SCROLL|MEMO|TELEPHONE RECEIVER|PAGER
1F4E0 |FAX MACHINE|SATELLITE ANTENNA|PUBLIC ADDRESS LOUDSPEAKER|CHEERING MEGAPHONE|OUTBOX TRAY
1F4E5 |INBOX TRAY|PACKAGE|E-MAIL SYMBOL|INCOMING ENVELOPE|ENVELOPE WITH DOWNWARDS ARROW ABOVE
1F4EA CLOSED MAILBOX WITH |LOWERED FLAG|RAISED FLAG
1F4EC OPEN MAILBOX WITH |RAISED FLAG|LOWERED FLAG
1F4EE |POSTBOX|POSTAL HORN|NEWSPAPER
1F4F1 |MOBILE PHONE|MOBILE PHONE WITH RIGHTWARDS ARROW AT LEFT|VIBRATION MODE|MOBILE PHONE OFF
1F4F5 |NO MOBILE PHONES|ANTENNA WITH BARS|CAMERA|CAMERA WITH FLASH|VIDEO CAMERA|TELEVISION
1F4FB |RADIO|VIDEOCASSETTE|FILM PROJECTOR|PORTABLE STEREO|PRAYER BEADS|TWISTED RIGHTWARDS ARROWS
1F501 CLOCKWISE RIGHTWARDS AND LEFTWARDS OPEN CIRCLE |ARROWS|ARROWS WITH CIRCLED ONE OVERLAY
1F503 CLOCKWISE DOWNWARDS AND UPWARDS OPEN CIRCLE |ARROWS
1F504 ANTICLOCKWISE DOWNWARDS AND UPWARDS OPEN CIRCLE |ARROWS
1F505 |LOW BRIGHTNESS SYMBOL|HIGH BRIGHTNESS SYMBOL|SPEAKER WITH CANCELLATION STROKE|SPEAKER
1F509 SPEAKER WITH |ONE SOUND WAVE|THREE SOUND WAVES
1F50B |BATTERY|ELECTRIC PLUG
1F50D |LEFT-POINTING MAGNIFYING GLASS|RIGHT-POINTING MAGNIFYING GLASS|LOCK WITH INK PEN
1F510 |CLOSED LOCK WITH KEY|KEY|LOCK|OPEN LOCK|BELL|BELL WITH CANCELLATION STROKE|BOOKMARK
1F517 |LINK SYMBOL|RADIO BUTTON|BACK WITH LEFTWARDS ARROW ABOVE|END WITH LEFTWARDS ARROW ABOVE
1F51B |ON WITH EXCLAMATION MARK WITH LEFT RIGHT ARROW ABOVE|SOON WITH RIGHTWARDS ARROW ABOVE
1F51D |TOP WITH UPWARDS ARROW ABOVE|NO ONE UNDER EIGHTEEN SYMBOL|KEYCAP TEN
1F520 INPUT SYMBOL FOR |LATIN CAPITAL LETTERS|LATIN SMALL LETTERS|NUMBERS|SYMBOLS|LATIN LETTERS
1F525 |FIRE|ELECTRIC TORCH|WRENCH|HAMMER|NUT AND BOLT
1F52A |HOCHO|PISTOL|MICROSCOPE|TELESCOPE|CRYSTAL BALL|SIX POINTED STAR WITH MIDDLE DOT
1F530 |JAPANESE SYMBOL FOR BEGINNER|TRIDENT EMBLEM|BLACK SQUARE BUTTON|WHITE SQUARE BUTTON
1F534 LARGE |RED CIRCLE|BLUE CIRCLE|ORANGE DIAMOND|BLUE DIAMOND
1F538 SMALL |ORANGE DIAMOND|BLUE DIAMOND
1F53A |UP-POINTING RED TRIANGLE|DOWN-POINTING RED TRIANGLE
1F53C |UP-POINTING SMALL RED TRIANGLE|DOWN-POINTING SMALL RED TRIANGLE
1F53E |LOWER RIGHT SHADOWED WHITE CIRCLE|UPPER RIGHT SHADOWED WHITE CIRCLE|CIRCLED CROSS POMMEE
1F541 CROSS |POMMEE WITH HALF-CIRCLE BELOW|POMMEE
1F543 NOTCHED |LEFT SEMICIRCLE WITH THREE DOTS|RIGHT SEMICIRCLE WITH THREE DOTS
1F545 |SYMBOL FOR MARKS CHAPTER|WHITE LATIN CROSS|HEAVY LATIN CROSS|CELTIC CROSS
1F549 |OM SYMBOL|DOVE OF PEACE|KAABA|MOSQUE|SYNAGOGUE|MENORAH WITH NINE BRANCHES|BOWL OF HYGIEIA
1F550 CLOCK FACE |ONE OCLOCK|TWO OCLOCK|THREE OCLOCK|FOUR OCLOCK|FIVE OCLOCK|SIX OCLOCK
1F556 CLOCK FACE |SEVEN OCLOCK|EIGHT OCLOCK|NINE OCLOCK|TEN OCLOCK|ELEVEN OCLOCK|TWELVE OCLOCK
1F55C CLOCK FACE |ONE-THIRTY|TWO-THIRTY|THREE-THIRTY|FOUR-THIRTY|FIVE-THIRTY|SIX-THIRTY
1F562 CLOCK FACE |SEVEN-THIRTY|EIGHT-THIRTY|NINE-THIRTY|TEN-THIRTY|ELEVEN-THIRTY|TWELVE-THIRTY
1F568 RIGHT |SPEAKER|SPEAKER WITH ONE SOUND WAVE|SPEAKER WITH THREE SOUND WAVES
1F56B |BULLHORN|BULLHORN WITH SOUND WAVES|RINGING BELL|BOOK|CANDLE|MANTELPIECE CLOCK
1F571 |BLACK SKULL AND CROSSBONES|NO PIRACY|HOLE|MAN IN BUSINESS SUIT LEVITATING
1F575 |SLEUTH OR SPY|DARK SUNGLASSES|SPIDER|SPIDER WEB|JOYSTICK|MAN DANCING
1F57B |LEFT HAND TELEPHONE RECEIVER|TELEPHONE RECEIVER WITH PAGE|RIGHT HAND TELEPHONE RECEIVER
1F57E |WHITE TOUCHTONE TELEPHONE|BLACK TOUCHTONE TELEPHONE|TELEPHONE ON TOP OF MODEM
1F581 |CLAMSHELL MOBILE PHONE|BACK OF ENVELOPE|STAMPED ENVELOPE|ENVELOPE WITH LIGHTNING
1F585 |FLYING ENVELOPE|PEN OVER STAMPED ENVELOPE|LINKED PAPERCLIPS|BLACK PUSHPIN
1F589 LOWER LEFT |PENCIL|BALLPOINT PEN|FOUNTAIN PEN|PAINTBRUSH|CRAYON
1F58E |LEFT WRITING HAND|TURNED OK HAND SIGN
1F590 |RAISED HAND WITH FINGERS SPLAYED|REVERSED RAISED HAND WITH FINGERS SPLAYED
1F592 REVERSED |THUMBS UP SIGN|THUMBS DOWN SIGN|VICTORY HAND|HAND WITH MIDDLE FINGER EXTENDED
1F596 |RAISED HAND WITH PART BETWEEN MIDDLE AND RING FINGERS|WHITE DOWN POINTING LEFT HAND INDEX
1F598 SIDEWAYS WHITE |LEFT POINTING INDEX|RIGHT POINTING INDEX
1F59A SIDEWAYS BLACK |LEFT POINTING INDEX|RIGHT POINTING INDEX
1F59C BLACK |LEFT POINTING BACKHAND INDEX|RIGHT POINTING BACKHAND INDEX
1F59E SIDEWAYS WHITE |UP POINTING INDEX|DOWN POINTING INDEX
1F5A0 SIDEWAYS BLACK |UP POINTING INDEX|DOWN POINTING INDEX
1F5A2 BLACK |UP POINTING BACKHAND INDEX|DOWN POINTING BACKHAND INDEX|HEART
1F5A5 |DESKTOP COMPUTER|KEYBOARD AND MOUSE|THREE NETWORKED COMPUTERS|PRINTER|POCKET CALCULATOR
1F5AA |BLACK HARD SHELL FLOPPY DISK|WHITE HARD SHELL FLOPPY DISK|SOFT SHELL FLOPPY DISK
1F5AD |TAPE CARTRIDGE|WIRED KEYBOARD|ONE BUTTON MOUSE|TWO BUTTON MOUSE|THREE BUTTON MOUSE
1F5B2 |TRACKBALL|OLD PERSONAL COMPUTER|HARD DISK|SCREEN|PRINTER ICON|FAX ICON|OPTICAL DISC ICON
1F5B9 DOCUMENT WITH |TEXT|TEXT AND PICTURE|PICTURE
1F5BC FRAME WITH |PICTURE|TILES|AN X
1F5BF |BLACK FOLDER|FOLDER|OPEN FOLDER|CARD INDEX DIVIDERS|CARD FILE BOX|FILE CABINET
1F5C5 EMPTY |NOTE|NOTE PAGE|NOTE PAD
1F5C8 |NOTE|NOTE PAGE|NOTE PAD|EMPTY DOCUMENT|EMPTY PAGE|EMPTY PAGES|DOCUMENT|PAGE|PAGES
1F5D1 |WASTEBASKET|SPIRAL NOTE PAD|SPIRAL CALENDAR PAD|DESKTOP WINDOW|MINIMIZE|MAXIMIZE|OVERLAP
1F5D8 |CLOCKWISE RIGHT AND LEFT SEMICIRCLE ARROWS|CANCELLATION X|INCREASE FONT SIZE SYMBOL
1F5DB |DECREASE FONT SIZE SYMBOL|COMPRESSION|OLD KEY|ROLLED-UP NEWSPAPER
1F5DF |PAGE WITH CIRCLED TEXT|STOCK CHART|DAGGER KNIFE|LIPS|SPEAKING HEAD IN SILHOUETTE
1F5E4 THREE RAYS |ABOVE|BELOW|LEFT|RIGHT
1F5E8 |LEFT SPEECH BUBBLE|RIGHT SPEECH BUBBLE|TWO SPEECH BUBBLES|THREE SPEECH BUBBLES
1F5EC |LEFT THOUGHT BUBBLE|RIGHT THOUGHT BUBBLE|LEFT ANGER BUBBLE|RIGHT ANGER BUBBLE|MOOD BUBBLE
1F5F1 LIGHTNING |MOOD BUBBLE|MOOD
1F5F3 BALLOT |BOX WITH BALLOT|SCRIPT X|BOX WITH SCRIPT X|BOLD SCRIPT X|BOX WITH BOLD SCRIPT X
1F5F8 |LIGHT CHECK MARK|BALLOT BOX WITH BOLD CHECK
1F5FA |WORLD MAP|MOUNT FUJI|TOKYO TOWER|STATUE OF LIBERTY|SILHOUETTE OF JAPAN|MOYAI
1F600 GRINNING |FACE|FACE WITH SMILING EYES
1F602 |FACE WITH TEARS OF JOY|SMILING FACE WITH OPEN MOUTH
1F604 SMILING FACE WITH OPEN MOUTH AND |SMILING EYES|COLD SWEAT|TIGHTLY-CLOSED EYES
1F607 SMILING FACE WITH |HALO|HORNS
1F609 |WINKING FACE|SMILING FACE WITH SMILING EYES|FACE SAVOURING DELICIOUS FOOD|RELIEVED FACE
1F60D SMILING FACE WITH |HEART-SHAPED EYES|SUNGLASSES
1F60F |SMIRKING FACE|NEUTRAL FACE|EXPRESSIONLESS FACE|UNAMUSED FACE|FACE WITH COLD SWEAT
1F614 |PENSIVE FACE|CONFUSED FACE|CONFOUNDED FACE|KISSING FACE|FACE THROWING A KISS
1F619 KISSING FACE WITH |SMILING EYES|CLOSED EYES
1F61B FACE WITH STUCK-OUT |TONGUE|TONGUE AND WINKING EYE|TONGUE AND TIGHTLY-CLOSED EYES
1F61E |DISAPPOINTED FACE|WORRIED FACE|ANGRY FACE|POUTING FACE
1F622 |CRYING FACE|PERSEVERING FACE|FACE WITH LOOK OF TRIUMPH|DISAPPOINTED BUT RELIEVED FACE
1F626 |FROWNING FACE WITH OPEN MOUTH|ANGUISHED FACE|FEARFUL FACE|WEARY FACE
1F62A |SLEEPY FACE|TIRED FACE|GRIMACING FACE|LOUDLY CRYING FACE|FACE WITH OPEN MOUTH|HUSHED FACE
1F630 FACE |WITH OPEN MOUTH AND COLD SWEAT|SCREAMING IN FEAR
1F632 |ASTONISHED FACE|FLUSHED FACE|SLEEPING FACE|DIZZY FACE|FACE WITHOUT MOUTH
1F637 |FACE WITH MEDICAL MASK|GRINNING CAT FACE WITH SMILING EYES|CAT FACE WITH TEARS OF JOY
1F63A SMILING CAT FACE WITH |OPEN MOUTH|HEART-SHAPED EYES
1F63C CAT FACE WITH WRY |SMILE
1F63D |KISSING CAT FACE WITH CLOSED EYES|POUTING CAT FACE|CRYING CAT FACE|WEARY CAT FACE
1F641 SLIGHTLY |FROWNING FACE|SMILING FACE
1F643 UPSIDE-DOWN |FACE
1F644 FACE WITH |ROLLING EYES|NO GOOD GESTURE|OK GESTURE
1F647 PERSON BOWING |DEEPLY
1F648 |SEE-NO-EVIL MONKEY|HEAR-NO-EVIL MONKEY|SPEAK-NO-EVIL MONKEY|HAPPY PERSON RAISING ONE HAND
1F64C PERSON |RAISING BOTH HANDS IN CELEBRATION|FROWNING|WITH POUTING FACE|WITH FOLDED HANDS
1F650 |NORTH WEST POINTING LEAF|SOUTH WEST POINTING LEAF
1F652 |NORTH EAST POINTING LEAF|SOUTH EAST POINTING LEAF|TURNED NORTH WEST POINTING LEAF
1F655 TURNED |SOUTH WEST POINTING LEAF|NORTH EAST POINTING LEAF|SOUTH EAST POINTING LEAF
1F658 |NORTH WEST POINTING VINE LEAF|SOUTH WEST POINTING VINE LEAF|NORTH EAST POINTING VINE LEAF
1F65B |SOUTH EAST POINTING VINE LEAF|HEAVY NORTH WEST POINTING VINE LEAF
1F65D HEAVY |SOUTH WEST POINTING VINE LEAF|NORTH EAST POINTING VINE LEAF
1F65F |HEAVY SOUTH EAST POINTING VINE LEAF|NORTH WEST POINTING BUD|SOUTH WEST POINTING BUD
1F662 |NORTH EAST POINTING BUD|SOUTH EAST POINTING BUD|HEAVY NORTH WEST POINTING BUD
1F665 HEAVY |SOUTH WEST POINTING BUD|NORTH EAST POINTING BUD|SOUTH EAST POINTING BUD
1F668 HOLLOW QUILT SQUARE |ORNAMENT|ORNAMENT IN BLACK SQUARE
1F66A SOLID QUILT SQUARE |ORNAMENT|ORNAMENT IN BLACK SQUARE
1F66C |LEFTWARDS ROCKET|UPWARDS ROCKET|RIGHTWARDS ROCKET|DOWNWARDS ROCKET
1F670 |SCRIPT LIGATURE ET ORNAMENT|HEAVY SCRIPT LIGATURE ET ORNAMENT|LIGATURE OPEN ET ORNAMENT
1F673 HEAVY |LIGATURE OPEN ET ORNAMENT|AMPERSAND ORNAMENT
1F675 |SWASH AMPERSAND ORNAMENT|SANS-SERIF HEAVY DOUBLE TURNED COMMA QUOTATION MARK ORNAMENT
1F677 SANS-SERIF HEAVY DOUBLE COMMA QUOTATION MARK |ORNAMENT
1F678 |SANS-SERIF HEAVY LOW DOUBLE COMMA QUOTATION MARK ORNAMENT|HEAVY INTERROBANG ORNAMENT
1F67A |SANS-SERIF INTERROBANG ORNAMENT|HEAVY SANS-SERIF INTERROBANG ORNAMENT
1F67C VERY HEAVY |SOLIDUS|REVERSE SOLIDUS
1F67E |CHECKER BOARD|REVERSE CHECKER BOARD|ROCKET|HELICOPTER|STEAM LOCOMOTIVE|RAILWAY CAR
1F684 HIGH-SPEED |TRAIN|TRAIN WITH BULLET NOSE
1F686 |TRAIN|METRO|LIGHT RAIL|STATION|TRAM|TRAM CAR|BUS|ONCOMING BUS
1F68E |TROLLEYBUS|BUS STOP|MINIBUS|AMBULANCE|FIRE ENGINE|POLICE CAR|ONCOMING POLICE CAR
1F695 |TAXI|ONCOMING TAXI|AUTOMOBILE|ONCOMING AUTOMOBILE|RECREATIONAL VEHICLE
1F69A |DELIVERY TRUCK|ARTICULATED LORRY|TRACTOR|MONORAIL|MOUNTAIN RAILWAY|SUSPENSION RAILWAY
1F6A0 |MOUNTAIN CABLEWAY|AERIAL TRAMWAY|SHIP|ROWBOAT|SPEEDBOAT|HORIZONTAL TRAFFIC LIGHT
1F6A6 |VERTICAL TRAFFIC LIGHT|CONSTRUCTION SIGN|POLICE CARS REVOLVING LIGHT
1F6A9 |TRIANGULAR FLAG ON POST|DOOR|NO ENTRY SIGN|SMOKING SYMBOL|NO SMOKING SYMBOL
1F6AE |PUT LITTER IN ITS PLACE SYMBOL|DO NOT LITTER SYMBOL|POTABLE WATER SYMBOL
1F6B1 |NON-POTABLE WATER SYMBOL|BICYCLE|NO BICYCLES|BICYCLIST|MOUNTAIN BICYCLIST|PEDESTRIAN
1F6B7 |NO PEDESTRIANS|CHILDREN CROSSING|MENS SYMBOL|WOMENS SYMBOL|RESTROOM|BABY SYMBOL|TOILET
1F6BE |WATER CLOSET|SHOWER|BATH|BATHTUB|PASSPORT CONTROL|CUSTOMS|BAGGAGE CLAIM|LEFT LUGGAGE
1F6C6 |TRIANGLE WITH ROUNDED CORNERS|PROHIBITED SIGN|CIRCLED INFORMATION SOURCE|BOYS SYMBOL
1F6CA |GIRLS SYMBOL|COUCH AND LAMP|SLEEPING ACCOMMODATION|SHOPPING BAGS|BELLHOP BELL|BED
1F6D0 |PLACE OF WORSHIP|OCTAGONAL SIGN|SHOPPING TROLLEY|STUPA|PAGODA|HINDU TEMPLE|HUT|ELEVATOR
1F6DD PLAYGROUND |SLIDE
1F6DE |WHEEL|RING BUOY|HAMMER AND WRENCH|SHIELD|OIL DRUM|MOTORWAY|RAILWAY TRACK|MOTOR BOAT
1F6E6 UP-POINTING |MILITARY AIRPLANE|AIRPLANE|SMALL AIRPLANE
1F6E9 |SMALL AIRPLANE|NORTHEAST-POINTING AIRPLANE
1F6EB AIRPLANE |DEPARTURE|ARRIVING
1F6F0 |SATELLITE|ONCOMING FIRE ENGINE|DIESEL LOCOMOTIVE|PASSENGER SHIP|SCOOTER
1F6F5 |MOTOR SCOOTER|CANOE|SLED|FLYING SAUCER|SKATEBOARD|AUTO RICKSHAW|PICKUP TRUCK|ROLLER SKATE
1F700 ALCHEMICAL SYMBOL FOR |QUINTESSENCE|AIR|FIRE|EARTH|WATER|AQUAFORTIS
1F706 ALCHEMICAL SYMBOL FOR AQUA |REGIA|REGIA-2|VITAE|VITAE-2
1F70A ALCHEMICAL SYMBOL FOR |VINEGAR|VINEGAR-2|VINEGAR-3|SULFUR|PHILOSOPHERS SULFUR|BLACK SULFUR
1F710 ALCHEMICAL SYMBOL FOR MERCURY |SUBLIMATE|SUBLIMATE-2|SUBLIMATE-3
1F713 ALCHEMICAL SYMBOL FOR |CINNABAR|SALT|NITRE|VITRIOL|VITRIOL-2|ROCK SALT
1F719 ALCHEMICAL SYMBOL FOR |ROCK SALT-2|GOLD|SILVER|IRON ORE|IRON ORE-2|CROCUS OF IRON
1F71F ALCHEMICAL SYMBOL FOR |REGULUS OF IRON|COPPER ORE|IRON-COPPER ORE|SUBLIMATE OF COPPER
1F723 ALCHEMICAL SYMBOL FOR |CROCUS OF COPPER|CROCUS OF COPPER-2|COPPER ANTIMONIATE
1F726 ALCHEMICAL SYMBOL FOR |SALT OF COPPER ANTIMONIATE|SUBLIMATE OF SALT OF COPPER
1F728 ALCHEMICAL SYMBOL FOR |VERDIGRIS|TIN ORE|LEAD ORE|ANTIMONY ORE|SUBLIMATE OF ANTIMONY
1F72D ALCHEMICAL SYMBOL FOR |SALT OF ANTIMONY|SUBLIMATE OF SALT OF ANTIMONY|VINEGAR OF ANTIMONY
1F730 ALCHEMICAL SYMBOL FOR REGULUS OF |ANTIMONY|ANTIMONY-2
1F732 ALCHEMICAL SYMBOL FOR |REGULUS|REGULUS-2|REGULUS-3|REGULUS-4|ALKALI|ALKALI-2|MARCASITE
1F739 ALCHEMICAL SYMBOL FOR |SAL-AMMONIAC|ARSENIC|REALGAR|REALGAR-2|AURIPIGMENT|BISMUTH ORE
1F73F ALCHEMICAL SYMBOL FOR |TARTAR|TARTAR-2|QUICK LIME|BORAX|BORAX-2|BORAX-3|ALUM|OIL|SPIRIT
1F748 ALCHEMICAL SYMBOL FOR |TINCTURE|GUM|WAX|POWDER|CALX|TUTTY|CAPUT MORTUUM|SCEPTER OF JOVE
1F750 ALCHEMICAL SYMBOL FOR |CADUCEUS|TRIDENT|STARRED TRIDENT|LODESTONE|SOAP|URINE|HORSE DUNG
1F757 ALCHEMICAL SYMBOL FOR |ASHES|POT ASHES|BRICK|POWDERED BRICK|AMALGAM|STRATUM SUPER STRATUM
1F75D ALCHEMICAL SYMBOL FOR |STRATUM SUPER STRATUM-2|SUBLIMATION|PRECIPITATE|DISTILL|DISSOLVE
1F762 ALCHEMICAL SYMBOL FOR |DISSOLVE-2|PURIFY|PUTREFACTION|CRUCIBLE|CRUCIBLE-2|CRUCIBLE-3
1F768 ALCHEMICAL SYMBOL FOR |CRUCIBLE-4|CRUCIBLE-5|ALEMBIC|BATH OF MARY|BATH OF VAPOURS
1F76D ALCHEMICAL SYMBOL FOR |RETORT|HOUR|NIGHT|DAY-NIGHT|MONTH|HALF DRAM|HALF OUNCE
1F780 BLACK LEFT-POINTING ISOSCELES RIGHT |TRIANGLE
1F781 BLACK |UP-POINTING ISOSCELES RIGHT TRIANGLE|RIGHT-POINTING ISOSCELES RIGHT TRIANGLE
1F783 BLACK |DOWN-POINTING ISOSCELES RIGHT TRIANGLE|SLIGHTLY SMALL CIRCLE
1F785 |MEDIUM BOLD WHITE CIRCLE|BOLD WHITE CIRCLE|HEAVY WHITE CIRCLE|VERY HEAVY WHITE CIRCLE
1F789 |EXTREMELY HEAVY WHITE CIRCLE|WHITE CIRCLE CONTAINING BLACK SMALL CIRCLE|ROUND TARGET
1F78C |BLACK TINY SQUARE|BLACK SLIGHTLY SMALL SQUARE|LIGHT WHITE SQUARE|MEDIUM WHITE SQUARE
1F790 |BOLD WHITE SQUARE|HEAVY WHITE SQUARE|VERY HEAVY WHITE SQUARE|EXTREMELY HEAVY WHITE SQUARE
1F794 WHITE SQUARE CONTAINING BLACK |VERY SMALL SQUARE|MEDIUM SQUARE
1F796 SQUARE |TARGET
1F797 BLACK |TINY DIAMOND|VERY SMALL DIAMOND|MEDIUM SMALL DIAMOND
1F79A WHITE DIAMOND CONTAINING BLACK |VERY SMALL DIAMOND|MEDIUM DIAMOND
1F79C DIAMOND |TARGET
1F79D BLACK |TINY LOZENGE|VERY SMALL LOZENGE|MEDIUM SMALL LOZENGE
1F7A0 WHITE LOZENGE CONTAINING BLACK SMALL |LOZENGE
1F7A1 |THIN GREEK CROSS|LIGHT GREEK CROSS|MEDIUM GREEK CROSS
1F7A4 |BOLD GREEK CROSS|VERY BOLD GREEK CROSS|VERY HEAVY GREEK CROSS|EXTREMELY HEAVY GREEK CROSS
1F7A8 |THIN SALTIRE|LIGHT SALTIRE|MEDIUM SALTIRE|BOLD SALTIRE|HEAVY SALTIRE|VERY HEAVY SALTIRE
1F7AE |EXTREMELY HEAVY SALTIRE|LIGHT FIVE SPOKED ASTERISK|MEDIUM FIVE SPOKED ASTERISK
1F7B1 |BOLD FIVE SPOKED ASTERISK|HEAVY FIVE SPOKED ASTERISK|VERY HEAVY FIVE SPOKED ASTERISK
1F7B4 |EXTREMELY HEAVY FIVE SPOKED ASTERISK|LIGHT SIX SPOKED ASTERISK
1F7B6 |MEDIUM SIX SPOKED ASTERISK|BOLD SIX SPOKED ASTERISK|HEAVY SIX SPOKED ASTERISK
1F7B9 |VERY HEAVY SIX SPOKED ASTERISK|EXTREMELY HEAVY SIX SPOKED ASTERISK
1F7BB |LIGHT EIGHT SPOKED ASTERISK|MEDIUM EIGHT SPOKED ASTERISK
1F7BD |BOLD EIGHT SPOKED ASTERISK|HEAVY EIGHT SPOKED ASTERISK|VERY HEAVY EIGHT SPOKED ASTERISK
1F7C0 |LIGHT THREE POINTED BLACK STAR|MEDIUM THREE POINTED BLACK STAR
1F7C2 |THREE POINTED BLACK STAR|MEDIUM THREE POINTED PINWHEEL STAR
1F7C4 |LIGHT FOUR POINTED BLACK STAR|MEDIUM FOUR POINTED BLACK STAR|FOUR POINTED BLACK STAR
1F7C7 |MEDIUM FOUR POINTED PINWHEEL STAR|REVERSE LIGHT FOUR POINTED PINWHEEL STAR
1F7C9 |LIGHT FIVE POINTED BLACK STAR|HEAVY FIVE POINTED BLACK STAR|MEDIUM SIX POINTED BLACK STAR
1F7CC |HEAVY SIX POINTED BLACK STAR|SIX POINTED PINWHEEL STAR|MEDIUM EIGHT POINTED BLACK STAR
1F7CF |HEAVY EIGHT POINTED BLACK STAR|VERY HEAVY EIGHT POINTED BLACK STAR
1F7D1 |HEAVY EIGHT POINTED PINWHEEL STAR|LIGHT TWELVE POINTED BLACK STAR
1F7D3 HEAVY TWELVE POINTED |BLACK STAR|PINWHEEL STAR
1F7D5 |CIRCLED TRIANGLE|NEGATIVE CIRCLED TRIANGLE|CIRCLED SQUARE|NEGATIVE CIRCLED SQUARE
1F7E0 LARGE |ORANGE CIRCLE|YELLOW CIRCLE|GREEN CIRCLE|PURPLE CIRCLE|BROWN CIRCLE|RED SQUARE
1F7E6 LARGE |BLUE SQUARE|ORANGE SQUARE|YELLOW SQUARE|GREEN SQUARE|PURPLE SQUARE|BROWN SQUARE
1F7F0 HEAVY EQUALS |SIGN
1F800 |LEFTWARDS ARROW WITH SMALL TRIANGLE ARROWHEAD|UPWARDS ARROW WITH SMALL TRIANGLE ARROWHEAD
1F802 RIGHTWARDS ARROW WITH SMALL TRIANGLE |ARROWHEAD
1F803 DOWNWARDS ARROW WITH SMALL TRIANGLE |ARROWHEAD
1F804 LEFTWARDS ARROW WITH MEDIUM TRIANGLE |ARROWHEAD
1F805 UPWARDS ARROW WITH MEDIUM TRIANGLE |ARROWHEAD
1F806 RIGHTWARDS ARROW WITH MEDIUM TRIANGLE |ARROWHEAD
1F807 DOWNWARDS ARROW WITH MEDIUM TRIANGLE |ARROWHEAD
1F808 |LEFTWARDS ARROW WITH LARGE TRIANGLE ARROWHEAD|UPWARDS ARROW WITH LARGE TRIANGLE ARROWHEAD
1F80A RIGHTWARDS ARROW WITH LARGE TRIANGLE |ARROWHEAD
1F80B DOWNWARDS ARROW WITH LARGE TRIANGLE |ARROWHEAD
1F810 LEFTWARDS ARROW WITH SMALL EQUILATERAL |ARROWHEAD
1F811 UPWARDS ARROW WITH SMALL EQUILATERAL |ARROWHEAD
1F812 RIGHTWARDS ARROW WITH SMALL EQUILATERAL |ARROWHEAD
1F813 DOWNWARDS ARROW WITH SMALL EQUILATERAL |ARROWHEAD
1F814 |LEFTWARDS ARROW WITH EQUILATERAL ARROWHEAD|UPWARDS ARROW WITH EQUILATERAL ARROWHEAD
1F816 |RIGHTWARDS ARROW WITH EQUILATERAL ARROWHEAD|DOWNWARDS ARROW WITH EQUILATERAL ARROWHEAD
1F818 HEAVY |LEFTWARDS ARROW WITH EQUILATERAL ARROWHEAD|UPWARDS ARROW WITH EQUILATERAL ARROWHEAD
1F81A HEAVY RIGHTWARDS ARROW WITH EQUILATERAL |ARROWHEAD
1F81B HEAVY DOWNWARDS ARROW WITH EQUILATERAL |ARROWHEAD
1F81C HEAVY LEFTWARDS ARROW WITH LARGE EQUILATERAL |ARROWHEAD
1F81D HEAVY UPWARDS ARROW WITH LARGE EQUILATERAL |ARROWHEAD
1F81E HEAVY RIGHTWARDS ARROW WITH LARGE EQUILATERAL |ARROWHEAD
1F81F HEAVY DOWNWARDS ARROW WITH LARGE EQUILATERAL |ARROWHEAD
1F820 LEFTWARDS TRIANGLE-HEADED ARROW WITH NARROW |SHAFT
1F821 UPWARDS TRIANGLE-HEADED ARROW WITH NARROW |SHAFT
1F822 RIGHTWARDS TRIANGLE-HEADED ARROW WITH NARROW |SHAFT
1F823 DOWNWARDS TRIANGLE-HEADED ARROW WITH NARROW |SHAFT
1F824 LEFTWARDS TRIANGLE-HEADED ARROW WITH MEDIUM |SHAFT
1F825 UPWARDS TRIANGLE-HEADED ARROW WITH MEDIUM |SHAFT
1F826 RIGHTWARDS TRIANGLE-HEADED ARROW WITH MEDIUM |SHAFT
1F827 DOWNWARDS TRIANGLE-HEADED ARROW WITH MEDIUM |SHAFT
1F828 LEFTWARDS TRIANGLE-HEADED ARROW WITH BOLD |SHAFT
1F829 UPWARDS TRIANGLE-HEADED ARROW WITH BOLD |SHAFT
1F82A RIGHTWARDS TRIANGLE-HEADED ARROW WITH BOLD |SHAFT
1F82B DOWNWARDS TRIANGLE-HEADED ARROW WITH BOLD |SHAFT
1F82C LEFTWARDS TRIANGLE-HEADED ARROW WITH HEAVY |SHAFT
1F82D UPWARDS TRIANGLE-HEADED ARROW WITH HEAVY |SHAFT
1F82E RIGHTWARDS TRIANGLE-HEADED ARROW WITH HEAVY |SHAFT
1F82F DOWNWARDS TRIANGLE-HEADED ARROW WITH HEAVY |SHAFT
1F830 LEFTWARDS TRIANGLE-HEADED ARROW WITH VERY HEAVY |SHAFT
1F831 UPWARDS TRIANGLE-HEADED ARROW WITH VERY HEAVY |SHAFT
1F832 RIGHTWARDS TRIANGLE-HEADED ARROW WITH VERY HEAVY |SHAFT
1F833 DOWNWARDS TRIANGLE-HEADED ARROW WITH VERY HEAVY |SHAFT
1F834 |LEFTWARDS FINGER-POST ARROW|UPWARDS FINGER-POST ARROW|RIGHTWARDS FINGER-POST ARROW
1F837 |DOWNWARDS FINGER-POST ARROW|LEFTWARDS SQUARED ARROW|UPWARDS SQUARED ARROW
1F83A |RIGHTWARDS SQUARED ARROW|DOWNWARDS SQUARED ARROW|LEFTWARDS COMPRESSED ARROW
1F83D |UPWARDS COMPRESSED ARROW|RIGHTWARDS COMPRESSED ARROW|DOWNWARDS COMPRESSED ARROW
1F840 |LEFTWARDS HEAVY COMPRESSED ARROW|UPWARDS HEAVY COMPRESSED ARROW
1F842 |RIGHTWARDS HEAVY COMPRESSED ARROW|DOWNWARDS HEAVY COMPRESSED ARROW
1F844 |LEFTWARDS HEAVY ARROW|UPWARDS HEAVY ARROW|RIGHTWARDS HEAVY ARROW|DOWNWARDS HEAVY ARROW
1F850 |LEFTWARDS SANS-SERIF ARROW|UPWARDS SANS-SERIF ARROW|RIGHTWARDS SANS-SERIF ARROW
1F853 |DOWNWARDS SANS-SERIF ARROW|NORTH WEST SANS-SERIF ARROW|NORTH EAST SANS-SERIF ARROW
1F856 SOUTH |EAST SANS-SERIF ARROW|WEST SANS-SERIF ARROW
1F858 |LEFT RIGHT SANS-SERIF ARROW|UP DOWN SANS-SERIF ARROW
1F860 WIDE-HEADED |LEFTWARDS LIGHT BARB ARROW|UPWARDS LIGHT BARB ARROW
1F862 WIDE-HEADED |RIGHTWARDS LIGHT BARB ARROW|DOWNWARDS LIGHT BARB ARROW
1F864 WIDE-HEADED NORTH |WEST LIGHT BARB ARROW|EAST LIGHT BARB ARROW
1F866 WIDE-HEADED |SOUTH EAST LIGHT BARB ARROW|SOUTH WEST LIGHT BARB ARROW|LEFTWARDS BARB ARROW
1F869 WIDE-HEADED |UPWARDS BARB ARROW|RIGHTWARDS BARB ARROW|DOWNWARDS BARB ARROW
1F86C WIDE-HEADED |NORTH WEST BARB ARROW|NORTH EAST BARB ARROW|SOUTH EAST BARB ARROW
1F86F WIDE-HEADED |SOUTH WEST BARB ARROW|LEFTWARDS MEDIUM BARB ARROW|UPWARDS MEDIUM BARB ARROW
1F872 WIDE-HEADED |RIGHTWARDS MEDIUM BARB ARROW|DOWNWARDS MEDIUM BARB ARROW
1F874 WIDE-HEADED NORTH |WEST MEDIUM BARB ARROW|EAST MEDIUM BARB ARROW
1F876 WIDE-HEADED SOUTH |EAST MEDIUM BARB ARROW|WEST MEDIUM BARB ARROW
1F878 WIDE-HEADED |LEFTWARDS HEAVY BARB ARROW|UPWARDS HEAVY BARB ARROW
1F87A WIDE-HEADED |RIGHTWARDS HEAVY BARB ARROW|DOWNWARDS HEAVY BARB ARROW
1F87C WIDE-HEADED NORTH |WEST HEAVY BARB ARROW|EAST HEAVY BARB ARROW
1F87E WIDE-HEADED SOUTH |EAST HEAVY BARB ARROW|WEST HEAVY BARB ARROW
1F880 WIDE-HEADED |LEFTWARDS VERY HEAVY BARB ARROW|UPWARDS VERY HEAVY BARB ARROW
1F882 WIDE-HEADED |RIGHTWARDS VERY HEAVY BARB ARROW|DOWNWARDS VERY HEAVY BARB ARROW
1F884 WIDE-HEADED NORTH |WEST VERY HEAVY BARB ARROW|EAST VERY HEAVY BARB ARROW
1F886 WIDE-HEADED SOUTH |EAST VERY HEAVY BARB ARROW|WEST VERY HEAVY BARB ARROW
1F890 |LEFTWARDS TRIANGLE ARROWHEAD|UPWARDS TRIANGLE ARROWHEAD|RIGHTWARDS TRIANGLE ARROWHEAD
1F893 |DOWNWARDS TRIANGLE ARROWHEAD|LEFTWARDS WHITE ARROW WITHIN TRIANGLE ARROWHEAD
1F895 UPWARDS WHITE ARROW WITHIN TRIANGLE |ARROWHEAD
1F896 RIGHTWARDS WHITE ARROW WITHIN TRIANGLE |ARROWHEAD
1F897 DOWNWARDS WHITE ARROW WITHIN TRIANGLE |ARROWHEAD
1F898 |LEFTWARDS ARROW WITH NOTCHED TAIL|UPWARDS ARROW WITH NOTCHED TAIL
1F89A |RIGHTWARDS ARROW WITH NOTCHED TAIL|DOWNWARDS ARROW WITH NOTCHED TAIL
1F89C HEAVY ARROW SHAFT WIDTH |ONE|TWO THIRDS|ONE HALF|ONE THIRD
1F8A0 |LEFTWARDS BOTTOM-SHADED WHITE ARROW|RIGHTWARDS BOTTOM SHADED WHITE ARROW
1F8A2 |LEFTWARDS TOP SHADED WHITE ARROW|RIGHTWARDS TOP SHADED WHITE ARROW
1F8A4 |LEFTWARDS LEFT-SHADED WHITE ARROW|RIGHTWARDS RIGHT-SHADED WHITE ARROW
1F8A6 |LEFTWARDS RIGHT-SHADED WHITE ARROW|RIGHTWARDS LEFT-SHADED WHITE ARROW
1F8A8 |LEFTWARDS BACK-TILTED SHADOWED WHITE ARROW|RIGHTWARDS BACK-TILTED SHADOWED WHITE ARROW
1F8AA |LEFTWARDS FRONT-TILTED SHADOWED WHITE ARROW|RIGHTWARDS FRONT-TILTED SHADOWED WHITE ARROW
1F8AC WHITE ARROW SHAFT WIDTH |ONE|TWO THIRDS
1F8B0 ARROW POINTING |UPWARDS THEN NORTH WEST|RIGHTWARDS THEN CURVING SOUTH WEST
1F900 CIRCLED CROSS |FORMEE WITH FOUR DOTS|FORMEE WITH TWO DOTS|FORMEE
1F903 LEFT HALF CIRCLE WITH |FOUR DOTS|THREE DOTS|TWO DOTS|DOT
1F907 LEFT HALF |CIRCLE
1F908 DOWNWARD FACING |HOOK|NOTCHED HOOK|HOOK WITH DOT|NOTCHED HOOK WITH DOT
1F90C |PINCHED FINGERS|WHITE HEART
1F90E |BROWN HEART|PINCHING HAND|ZIPPER-MOUTH FACE|MONEY-MOUTH FACE|FACE WITH THERMOMETER
1F913 |NERD FACE|THINKING FACE|FACE WITH HEAD-BANDAGE|ROBOT FACE|HUGGING FACE
1F918 |SIGN OF THE HORNS|CALL ME HAND|RAISED BACK OF HAND|LEFT-FACING FIST|RIGHT-FACING FIST
1F91D |HANDSHAKE|HAND WITH INDEX AND MIDDLE FINGERS CROSSED|I LOVE YOU HAND SIGN
1F920 |FACE WITH COWBOY HAT|CLOWN FACE|NAUSEATED FACE|ROLLING ON THE FLOOR LAUGHING
1F924 |DROOLING FACE|LYING FACE|FACE PALM|SNEEZING FACE|FACE WITH ONE EYEBROW RAISED
1F929 GRINNING FACE WITH |STAR EYES|ONE LARGE AND ONE SMALL EYE
1F92B |FACE WITH FINGER COVERING CLOSED LIPS|SERIOUS FACE WITH SYMBOLS COVERING MOUTH
1F92D SMILING FACE WITH SMILING EYES AND HAND COVERING |MOUTH
1F92E |FACE WITH OPEN MOUTH VOMITING|SHOCKED FACE WITH EXPLODING HEAD
1F930 |PREGNANT WOMAN|BREAST-FEEDING|PALMS UP TOGETHER|SELFIE|PRINCE|MAN IN TUXEDO
1F936 |MOTHER CHRISTMAS|SHRUG|PERSON DOING CARTWHEEL|JUGGLING|FENCER|MODERN PENTATHLON
1F93C |WRESTLERS|WATER POLO|HANDBALL|DIVING MASK|WILTED FLOWER|DRUM WITH DRUMSTICKS
1F942 |CLINKING GLASSES|TUMBLER GLASS|SPOON|GOAL NET|RIFLE|FIRST PLACE MEDAL|SECOND PLACE MEDAL
1F949 |THIRD PLACE MEDAL|BOXING GLOVE|MARTIAL ARTS UNIFORM|CURLING STONE|LACROSSE STICK AND BALL
1F94E |SOFTBALL|FLYING DISC|CROISSANT|AVOCADO|CUCUMBER|BACON|POTATO|CARROT|BAGUETTE BREAD
1F957 |GREEN SALAD|SHALLOW PAN OF FOOD|STUFFED FLATBREAD|EGG|GLASS OF MILK|PEANUTS|KIWIFRUIT
1F95E |PANCAKES|DUMPLING|FORTUNE COOKIE|TAKEOUT BOX|CHOPSTICKS|BOWL WITH SPOON|CUP WITH STRAW
1F965 |COCONUT|BROCCOLI|PIE|PRETZEL|CUT OF MEAT|SANDWICH|CANNED FOOD|LEAFY GREEN|MANGO|MOON CAKE
1F96F |BAGEL|SMILING FACE WITH SMILING EYES AND THREE HEARTS|YAWNING FACE|SMILING FACE WITH TEAR
1F973 FACE WITH |PARTY HORN AND PARTY HAT|UNEVEN EYES AND WAVY MOUTH
1F975 |OVERHEATED FACE|FREEZING FACE|NINJA|DISGUISED FACE
1F979 FACE |HOLDING BACK TEARS|WITH PLEADING EYES
1F97B |SARI|LAB COAT|GOGGLES|HIKING BOOT|FLAT SHOE|CRAB|LION FACE|SCORPION
1F983 |TURKEY|UNICORN FACE|EAGLE|DUCK|BAT|SHARK|OWL|FOX FACE|BUTTERFLY|DEER|GORILLA|LIZARD
1F98F |RHINOCEROS|SHRIMP|SQUID|GIRAFFE FACE|ZEBRA FACE|HEDGEHOG|SAUROPOD|T-REX|CRICKET|KANGAROO
1F999 |LLAMA|PEACOCK|HIPPOPOTAMUS|PARROT|RACCOON|LOBSTER|MOSQUITO|MICROBE|BADGER|SWAN|MAMMOTH
1F9A4 |DODO|SLOTH|OTTER|ORANGUTAN|SKUNK|FLAMINGO|OYSTER|BEAVER|BISON|SEAL|GUIDE DOG|PROBING CANE
1F9B0 EMOJI COMPONENT |RED HAIR|CURLY HAIR|BALD|WHITE HAIR
1F9B4 |BONE|LEG|FOOT|TOOTH|SUPERHERO
1F9B9 |SUPERVILLAIN|SAFETY VEST|EAR WITH HEARING AID|MOTORIZED WHEELCHAIR|MANUAL WHEELCHAIR
1F9BE MECHANICAL |ARM|LEG
1F9C0 |CHEESE WEDGE|CUPCAKE|SALT SHAKER|BEVERAGE BOX
1F9C4 |GARLIC|ONION|FALAFEL|WAFFLE|BUTTER|MATE DRINK|ICE CUBE|BUBBLE TEA|TROLL|STANDING PERSON
1F9CE |KNEELING PERSON|DEAF PERSON|FACE WITH MONOCLE|ADULT|CHILD|OLDER ADULT|BEARDED PERSON
1F9D5 PERSON |WITH HEADSCARF|IN STEAMY ROOM|CLIMBING|IN LOTUS POSITION
1F9D9 |MAGE|FAIRY|VAMPIRE|MERPERSON
1F9DD |ELF|GENIE|ZOMBIE|BRAIN|ORANGE HEART|BILLED CAP|SCARF|GLOVES|COAT|SOCKS|RED GIFT ENVELOPE
1F9E8 |FIRECRACKER|JIGSAW PUZZLE PIECE|TEST TUBE|PETRI DISH|DNA DOUBLE HELIX|COMPASS|ABACUS
1F9EF |FIRE EXTINGUISHER|TOOLBOX|BRICK|MAGNET|LUGGAGE|LOTION BOTTLE|SPOOL OF THREAD|BALL OF YARN
1F9F7 |SAFETY PIN|TEDDY BEAR|BROOM|BASKET|ROLL OF PAPER|BAR OF SOAP|SPONGE|RECEIPT|NAZAR AMULET
1FA00 NEUTRAL CHESS |KING|QUEEN|ROOK|BISHOP|KNIGHT|PAWN
1FA06 WHITE CHESS KNIGHT ROTATED FORTY-FIVE |DEGREES
1FA07 BLACK CHESS KNIGHT ROTATED FORTY-FIVE |DEGREES
1FA08 NEUTRAL CHESS KNIGHT ROTATED FORTY-FIVE |DEGREES
1FA09 WHITE CHESS |KING ROTATED NINETY DEGREES|QUEEN ROTATED NINETY DEGREES
1FA0B WHITE CHESS |ROOK ROTATED NINETY DEGREES|BISHOP ROTATED NINETY DEGREES
1FA0D WHITE CHESS |KNIGHT ROTATED NINETY DEGREES|PAWN ROTATED NINETY DEGREES
1FA0F BLACK CHESS |KING ROTATED NINETY DEGREES|QUEEN ROTATED NINETY DEGREES
1FA11 BLACK CHESS |ROOK ROTATED NINETY DEGREES|BISHOP ROTATED NINETY DEGREES
1FA13 BLACK CHESS |KNIGHT ROTATED NINETY DEGREES|PAWN ROTATED NINETY DEGREES
1FA15 NEUTRAL CHESS |KING ROTATED NINETY DEGREES|QUEEN ROTATED NINETY DEGREES
1FA17 NEUTRAL CHESS |ROOK ROTATED NINETY DEGREES|BISHOP ROTATED NINETY DEGREES
1FA19 NEUTRAL CHESS |KNIGHT ROTATED NINETY DEGREES|PAWN ROTATED NINETY DEGREES
1FA1B WHITE CHESS KNIGHT ROTATED ONE HUNDRED THIRTY-FIVE |DEGREES
1FA1C BLACK CHESS KNIGHT ROTATED ONE HUNDRED THIRTY-FIVE |DEGREES
1FA1D NEUTRAL CHESS KNIGHT ROTATED ONE HUNDRED THIRTY-FIVE |DEGREES
1FA1E WHITE CHESS TURNED |KING|QUEEN|ROOK|BISHOP|KNIGHT|PAWN
1FA24 BLACK CHESS TURNED |KING|QUEEN|ROOK|BISHOP|KNIGHT|PAWN
1FA2A NEUTRAL CHESS TURNED |KING|QUEEN|ROOK|BISHOP|KNIGHT|PAWN
1FA30 WHITE CHESS KNIGHT ROTATED TWO HUNDRED TWENTY-FIVE |DEGREES
1FA31 BLACK CHESS KNIGHT ROTATED TWO HUNDRED TWENTY-FIVE |DEGREES
1FA32 NEUTRAL CHESS KNIGHT ROTATED TWO HUNDRED TWENTY-FIVE |DEGREES
1FA33 WHITE CHESS KING ROTATED TWO HUNDRED SEVENTY |DEGREES
1FA34 WHITE CHESS QUEEN ROTATED TWO HUNDRED SEVENTY |DEGREES
1FA35 WHITE CHESS ROOK ROTATED TWO HUNDRED SEVENTY |DEGREES
1FA36 WHITE CHESS BISHOP ROTATED TWO HUNDRED SEVENTY |DEGREES
1FA37 WHITE CHESS KNIGHT ROTATED TWO HUNDRED SEVENTY |DEGREES
1FA38 WHITE CHESS PAWN ROTATED TWO HUNDRED SEVENTY |DEGREES
1FA39 BLACK CHESS KING ROTATED TWO HUNDRED SEVENTY |DEGREES
1FA3A BLACK CHESS QUEEN ROTATED TWO HUNDRED SEVENTY |DEGREES
1FA3B BLACK CHESS ROOK ROTATED TWO HUNDRED SEVENTY |DEGREES
1FA3C BLACK CHESS BISHOP ROTATED TWO HUNDRED SEVENTY |DEGREES
1FA3D BLACK CHESS KNIGHT ROTATED TWO HUNDRED SEVENTY |DEGREES
1FA3E BLACK CHESS PAWN ROTATED TWO HUNDRED SEVENTY |DEGREES
1FA3F NEUTRAL CHESS KING ROTATED TWO HUNDRED SEVENTY |DEGREES
1FA40 NEUTRAL CHESS QUEEN ROTATED TWO HUNDRED SEVENTY |DEGREES
1FA41 NEUTRAL CHESS ROOK ROTATED TWO HUNDRED SEVENTY |DEGREES
1FA42 NEUTRAL CHESS BISHOP ROTATED TWO HUNDRED SEVENTY |DEGREES
1FA43 NEUTRAL CHESS KNIGHT ROTATED TWO HUNDRED SEVENTY |DEGREES
1FA44 NEUTRAL CHESS PAWN ROTATED TWO HUNDRED SEVENTY |DEGREES
1FA45 WHITE CHESS KNIGHT ROTATED THREE HUNDRED FIFTEEN |DEGREES
1FA46 BLACK CHESS KNIGHT ROTATED THREE HUNDRED FIFTEEN |DEGREES
1FA47 NEUTRAL CHESS KNIGHT ROTATED THREE HUNDRED FIFTEEN |DEGREES
1FA48 |WHITE CHESS EQUIHOPPER|BLACK CHESS EQUIHOPPER
1FA4A |NEUTRAL CHESS EQUIHOPPER|WHITE CHESS EQUIHOPPER ROTATED NINETY DEGREES
1FA4C BLACK CHESS EQUIHOPPER ROTATED NINETY |DEGREES
1FA4D NEUTRAL CHESS EQUIHOPPER ROTATED NINETY |DEGREES
1FA4E WHITE CHESS KNIGHT-|QUEEN|ROOK|BISHOP
1FA51 BLACK CHESS KNIGHT-|QUEEN|ROOK|BISHOP
1FA60 XIANGQI RED |GENERAL|MANDARIN|ELEPHANT|HORSE|CHARIOT|CANNON|SOLDIER
1FA67 XIANGQI BLACK |GENERAL|MANDARIN|ELEPHANT|HORSE|CHARIOT|CANNON|SOLDIER
1FA70 |BALLET SHOES|ONE-PIECE SWIMSUIT|BRIEFS|SHORTS|THONG SANDAL
1FA78 |DROP OF BLOOD|ADHESIVE BANDAGE|STETHOSCOPE|X-RAY|CRUTCH
1FA80 |YO-YO|KITE|PARACHUTE|BOOMERANG|MAGIC WAND|PINATA|NESTING DOLLS
1FA90 RINGED |PLANET
1FA91 |CHAIR|RAZOR|AXE|DIYA LAMP|BANJO|MILITARY HELMET|ACCORDION|LONG DRUM|COIN|CARPENTRY SAW
1FA9B |SCREWDRIVER|LADDER|HOOK|MIRROR|WINDOW|PLUNGER|SEWING NEEDLE|KNOT|BUCKET|MOUSE TRAP
1FAA5 |TOOTHBRUSH|HEADSTONE|PLACARD|ROCK|MIRROR BALL|IDENTIFICATION CARD|LOW BATTERY|HAMSA
1FAB0 |FLY|WORM|BEETLE|COCKROACH|POTTED PLANT|WOOD|FEATHER|LOTUS|CORAL|EMPTY NEST|NEST WITH EGGS
1FAC0 |ANATOMICAL HEART|LUNGS|PEOPLE HUGGING|PREGNANT MAN|PREGNANT PERSON|PERSON WITH CROWN
1FAD0 |BLUEBERRIES|BELL PEPPER|OLIVE|FLATBREAD|TAMALE|FONDUE|TEAPOT|POURING LIQUID|BEANS|JAR
1FAE0 |MELTING FACE|SALUTING FACE
1FAE2 FACE WITH |OPEN EYES AND HAND OVER MOUTH|PEEKING EYE|DIAGONAL MOUTH
1FAE5 |DOTTED LINE FACE|BITING LIP|BUBBLES
1FAF0 |HAND WITH INDEX FINGER AND THUMB CROSSED|RIGHTWARDS HAND
1FAF2 |LEFTWARDS HAND|PALM DOWN HAND|PALM UP HAND|INDEX POINTING AT THE VIEWER|HEART HANDS
1FB00 BLOCK SEXTANT-|1|2|12|3|13|23
1FB06 BLOCK SEXTANT-|123|4|14|24|124|34|134|234|1234|5|15|25|125|35|235|1235|45|145|245|1245|345
1FB1B BLOCK SEXTANT-|1345|2345|12345|6|16|26|126|36|136|236|1236|46|146|1246|346|1346|2346|12346
1FB2D BLOCK SEXTANT-|56|156|256|1256|356|1356|2356|12356|456|1456|2456|12456|3456|13456|23456
1FB3C LOWER LEFT BLOCK DIAGONAL LOWER MIDDLE LEFT TO LOWER |CENTRE|RIGHT
1FB3E LOWER LEFT BLOCK DIAGONAL UPPER MIDDLE LEFT TO LOWER |CENTRE|RIGHT
1FB40 LOWER LEFT BLOCK DIAGONAL UPPER LEFT TO LOWER |CENTRE
1FB41 LOWER RIGHT BLOCK DIAGONAL UPPER MIDDLE LEFT TO UPPER |CENTRE|RIGHT
1FB43 LOWER RIGHT BLOCK DIAGONAL LOWER MIDDLE LEFT TO UPPER |CENTRE|RIGHT
1FB45 LOWER RIGHT BLOCK DIAGONAL LOWER |LEFT TO UPPER CENTRE|MIDDLE LEFT TO UPPER MIDDLE RIGHT
1FB47 LOWER RIGHT BLOCK DIAGONAL LOWER CENTRE TO LOWER MIDDLE |RIGHT
1FB48 LOWER RIGHT BLOCK DIAGONAL LOWER |LEFT TO LOWER MIDDLE RIGHT|CENTRE TO UPPER MIDDLE RIGHT
1FB4A LOWER RIGHT BLOCK DIAGONAL LOWER |LEFT TO UPPER MIDDLE RIGHT|CENTRE TO UPPER RIGHT
1FB4C LOWER LEFT BLOCK DIAGONAL UPPER |CENTRE TO UPPER MIDDLE RIGHT|LEFT TO UPPER MIDDLE RIGHT
1FB4E LOWER LEFT BLOCK DIAGONAL UPPER |CENTRE TO LOWER MIDDLE RIGHT|LEFT TO LOWER MIDDLE RIGHT
1FB50 LOWER LEFT BLOCK DIAGONAL UPPER |CENTRE TO LOWER RIGHT|MIDDLE LEFT TO LOWER MIDDLE RIGHT
1FB52 UPPER RIGHT BLOCK DIAGONAL LOWER MIDDLE LEFT TO LOWER |CENTRE|RIGHT
1FB54 UPPER RIGHT BLOCK DIAGONAL UPPER MIDDLE LEFT TO LOWER |CENTRE|RIGHT
1FB56 UPPER RIGHT BLOCK DIAGONAL UPPER LEFT TO LOWER |CENTRE
1FB57 UPPER LEFT BLOCK DIAGONAL UPPER MIDDLE LEFT TO UPPER |CENTRE|RIGHT
1FB59 UPPER LEFT BLOCK DIAGONAL LOWER MIDDLE LEFT TO UPPER |CENTRE|RIGHT
1FB5B UPPER LEFT BLOCK DIAGONAL LOWER |LEFT TO UPPER CENTRE|MIDDLE LEFT TO UPPER MIDDLE RIGHT
1FB5D UPPER LEFT BLOCK DIAGONAL LOWER CENTRE TO LOWER MIDDLE |RIGHT
1FB5E UPPER LEFT BLOCK DIAGONAL LOWER |LEFT TO LOWER MIDDLE RIGHT|CENTRE TO UPPER MIDDLE RIGHT
1FB60 UPPER LEFT BLOCK DIAGONAL LOWER |LEFT TO UPPER MIDDLE RIGHT|CENTRE TO UPPER RIGHT
1FB62 UPPER RIGHT BLOCK DIAGONAL UPPER |CENTRE TO UPPER MIDDLE RIGHT|LEFT TO UPPER MIDDLE RIGHT
1FB64 UPPER RIGHT BLOCK DIAGONAL UPPER |CENTRE TO LOWER MIDDLE RIGHT|LEFT TO LOWER MIDDLE RIGHT
1FB66 UPPER RIGHT BLOCK DIAGONAL UPPER |CENTRE TO LOWER RIGHT|MIDDLE LEFT TO LOWER MIDDLE RIGHT
1FB68 UPPER AND RIGHT AND LOWER TRIANGULAR THREE QUARTERS |BLOCK
1FB69 LEFT AND LOWER AND RIGHT TRIANGULAR THREE QUARTERS |BLOCK
1FB6A UPPER AND LEFT AND LOWER TRIANGULAR THREE QUARTERS |BLOCK
1FB6B LEFT |AND UPPER AND RIGHT TRIANGULAR THREE QUARTERS BLOCK|TRIANGULAR ONE QUARTER BLOCK
1FB6D UPPER TRIANGULAR ONE QUARTER |BLOCK
1FB6E |RIGHT TRIANGULAR ONE QUARTER BLOCK|LOWER TRIANGULAR ONE QUARTER BLOCK
1FB70 VERTICAL ONE EIGHTH BLOCK-|2|3|4|5|6|7
1FB76 HORIZONTAL ONE EIGHTH BLOCK-|2|3|4|5|6|7
1FB7C LEFT AND |LOWER ONE EIGHTH BLOCK|UPPER ONE EIGHTH BLOCK
1FB7E RIGHT AND |UPPER ONE EIGHTH BLOCK|LOWER ONE EIGHTH BLOCK
1FB80 |UPPER AND LOWER ONE EIGHTH BLOCK|HORIZONTAL ONE EIGHTH BLOCK-1358|UPPER ONE QUARTER BLOCK
1FB83 UPPER |THREE EIGHTHS BLOCK|FIVE EIGHTHS BLOCK|THREE QUARTERS BLOCK|SEVEN EIGHTHS BLOCK
1FB87 RIGHT |ONE QUARTER BLOCK|THREE EIGHTHS BLOCK|FIVE EIGHTHS BLOCK|THREE QUARTERS BLOCK
1FB8B |RIGHT SEVEN EIGHTHS BLOCK|LEFT HALF MEDIUM SHADE
1FB8D |RIGHT HALF MEDIUM SHADE|UPPER HALF MEDIUM SHADE|LOWER HALF MEDIUM SHADE
1FB90 |INVERSE MEDIUM SHADE|UPPER HALF BLOCK AND LOWER HALF INVERSE MEDIUM SHADE
1FB92 UPPER HALF INVERSE MEDIUM SHADE AND LOWER HALF |BLOCK
1FB94 LEFT HALF INVERSE MEDIUM SHADE AND RIGHT HALF |BLOCK
1FB95 |CHECKER BOARD FILL|INVERSE CHECKER BOARD FILL|HEAVY HORIZONTAL FILL
1FB98 UPPER |LEFT TO LOWER RIGHT FILL|RIGHT TO LOWER LEFT FILL|AND LOWER TRIANGULAR HALF BLOCK
1FB9B LEFT AND RIGHT TRIANGULAR HALF |BLOCK
1FB9C UPPER |LEFT TRIANGULAR MEDIUM SHADE|RIGHT TRIANGULAR MEDIUM SHADE
1FB9E LOWER |RIGHT TRIANGULAR MEDIUM SHADE|LEFT TRIANGULAR MEDIUM SHADE
1FBA0 BOX DRAWINGS LIGHT DIAGONAL UPPER CENTRE TO MIDDLE |LEFT|RIGHT
1FBA2 BOX DRAWINGS LIGHT DIAGONAL MIDDLE |LEFT TO LOWER CENTRE|RIGHT TO LOWER CENTRE
1FBA4 BOX DRAWINGS LIGHT DIAGONAL UPPER CENTRE TO MIDDLE LEFT TO LOWER |CENTRE
1FBA5 BOX DRAWINGS LIGHT DIAGONAL UPPER CENTRE TO MIDDLE RIGHT TO LOWER |CENTRE
1FBA6 BOX DRAWINGS LIGHT DIAGONAL MIDDLE LEFT TO LOWER CENTRE TO MIDDLE |RIGHT
1FBA7 BOX DRAWINGS LIGHT DIAGONAL MIDDLE LEFT TO UPPER CENTRE TO MIDDLE |RIGHT
1FBA8 BOX DRAWINGS LIGHT DIAGONAL UPPER CENTRE TO MIDDLE LEFT AND MIDDLE RIGHT TO LOWER |CENTRE
1FBA9 BOX DRAWINGS LIGHT DIAGONAL UPPER CENTRE TO MIDDLE RIGHT AND MIDDLE LEFT TO LOWER |CENTRE
1FBAA BOX DRAWINGS LIGHT DIAGONAL UPPER CENTRE TO MIDDLE RIGHT TO LOWER CENTRE TO MIDDLE |LEFT
1FBAB BOX DRAWINGS LIGHT DIAGONAL UPPER CENTRE TO MIDDLE LEFT TO LOWER CENTRE TO MIDDLE |RIGHT
1FBAC BOX DRAWINGS LIGHT DIAGONAL MIDDLE LEFT TO UPPER CENTRE TO MIDDLE RIGHT TO LOWER |CENTRE
1FBAD BOX DRAWINGS LIGHT DIAGONAL MIDDLE RIGHT TO UPPER CENTRE TO MIDDLE LEFT TO LOWER |CENTRE
1FBAE BOX DRAWINGS LIGHT |DIAGONAL DIAMOND|HORIZONTAL WITH VERTICAL STROKE
1FBB0 |ARROWHEAD-SHAPED POINTER|INVERSE CHECK MARK
1FBB2 |LEFT HALF RUNNING MAN|RIGHT HALF RUNNING MAN|INVERSE DOWNWARDS ARROW WITH TIP LEFTWARDS
1FBB5 LEFTWARDS ARROW AND UPPER AND LOWER ONE EIGHTH |BLOCK
1FBB6 RIGHTWARDS ARROW AND UPPER AND LOWER ONE EIGHTH |BLOCK
1FBB7 |DOWNWARDS ARROW AND RIGHT ONE EIGHTH BLOCK|UPWARDS ARROW AND RIGHT ONE EIGHTH BLOCK
1FBB9 |LEFT HALF FOLDER|RIGHT HALF FOLDER|VOIDED GREEK CROSS|RIGHT OPEN SQUARED DOT
1FBBD NEGATIVE DIAGONAL |CROSS|MIDDLE RIGHT TO LOWER CENTRE|DIAMOND
1FBC0 WHITE HEAVY SALTIRE WITH ROUNDED |CORNERS
1FBC1 |LEFT THIRD WHITE RIGHT POINTING INDEX|MIDDLE THIRD WHITE RIGHT POINTING INDEX
1FBC3 |RIGHT THIRD WHITE RIGHT POINTING INDEX|NEGATIVE SQUARED QUESTION MARK|STICK FIGURE
1FBC6 STICK FIGURE |WITH ARMS RAISED|LEANING LEFT|LEANING RIGHT|WITH DRESS
1FBCA WHITE UP-POINTING |CHEVRON
1FBF0 SEGMENTED DIGIT |ZERO|ONE|TWO|THREE|FOUR|FIVE|SIX|SEVEN|EIGHT|NINE
E0001 LANGUAGE |TAG
E0020 TAG |SPACE|EXCLAMATION MARK|QUOTATION MARK
E0023 TAG |NUMBER SIGN|DOLLAR SIGN|PERCENT SIGN|AMPERSAND|APOSTROPHE|LEFT PARENTHESIS
E0029 TAG |RIGHT PARENTHESIS|ASTERISK|PLUS SIGN|COMMA|HYPHEN-MINUS|FULL STOP|SOLIDUS
E0030 TAG DIGIT |ZERO|ONE|TWO|THREE|FOUR|FIVE|SIX|SEVEN|EIGHT|NINE
E003A TAG |COLON
E003B TAG |SEMICOLON|LESS-THAN SIGN|EQUALS SIGN|GREATER-THAN SIGN|QUESTION MARK|COMMERCIAL AT
E0041 TAG LATIN CAPITAL LETTER |A|B|C|D|E|F|G|H|I|J|K|L|M|N|O|P|Q|R|S|T|U|V|W|X|Y|Z
E005B TAG LEFT SQUARE |BRACKET
E005C TAG |REVERSE SOLIDUS|RIGHT SQUARE BRACKET|CIRCUMFLEX ACCENT|LOW LINE|GRAVE ACCENT
E0061 TAG LATIN SMALL LETTER |A|B|C|D|E|F|G|H|I|J|K|L|M|N|O|P|Q|R|S|T|U|V|W|X|Y|Z
E007B TAG |LEFT CURLY BRACKET|VERTICAL LINE|RIGHT CURLY BRACKET|TILDE
E007F CANCEL |TAG
E0100 VARIATION SELECTOR-|17|18|19|20|21|22|23|24|25|26|27|28|29|30|31|32|33|34|35
E0113 VARIATION SELECTOR-|36|37|38|39|40|41|42|43|44|45|46|47|48|49|50|51|52|53|54|55|56|57|58
E012A VARIATION SELECTOR-|59|60|61|62|63|64|65|66|67|68|69|70|71|72|73|74|75|76|77|78|79|80|81
E0141 VARIATION SELECTOR-|82|83|84|85|86|87|88|89|90|91|92|93|94|95|96|97|98|99|100|101|102|103
E0157 VARIATION SELECTOR-|104|105|106|107|108|109|110|111|112|113|114|115|116|117|118|119|120
E0168 VARIATION SELECTOR-|121|122|123|124|125|126|127|128|129|130|131|132|133|134|135|136|137
E0179 VARIATION SELECTOR-|138|139|140|141|142|143|144|145|146|147|148|149|150|151|152|153|154
E018A VARIATION SELECTOR-|155|156|157|158|159|160|161|162|163|164|165|166|167|168|169|170|171
E019B VARIATION SELECTOR-|172|173|174|175|176|177|178|179|180|181|182|183|184|185|186|187|188
E01AC VARIATION SELECTOR-|189|190|191|192|193|194|195|196|197|198|199|200|201|202|203|204|205
E01BD VARIATION SELECTOR-|206|207|208|209|210|211|212|213|214|215|216|217|218|219|220|221|222
E01CE VARIATION SELECTOR-|223|224|225|226|227|228|229|230|231|232|233|234|235|236|237|238|239
E01DF VARIATION SELECTOR-|240|241|242|243|244|245|246|247|248|249|250|251|252|253|254|255|256"

end Text
end RecordRules
