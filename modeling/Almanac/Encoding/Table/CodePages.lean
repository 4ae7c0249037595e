/-!
# Code pages

The encodings of one byte for each character. Of each, the 128 characters of the bytes
from 128 on are listed; bytes without a character have a replacement character.
-/

namespace Almanac.Encoding.Table

/-- The code pages, by name. -/
def codePages : List (String × String) := [
  ("IBM866",
    "АБВГДЕЖЗИЙКЛМНОП" ++
    "РСТУФХЦЧШЩЪЫЬЭЮЯ" ++
    "абвгдежзийклмноп" ++
    "░▒▓│┤╡╢╖╕╣║╗╝╜╛┐" ++
    "└┴┬├─┼╞╟╚╔╩╦╠═╬╧" ++
    "╨╤╥╙╘╒╓╫╪┘┌█▄▌▐▀" ++
    "рстуфхцчшщъыьэюя" ++
    "ЁёЄєЇїЎў°∙·√№¤■\u00a0"),
  ("ISO-8859-2",
    "\u0080\u0081\u0082\u0083\u0084\u0085\u0086\u0087" ++
    "\u0088\u0089\u008a\u008b\u008c\u008d\u008e\u008f" ++
    "\u0090\u0091\u0092\u0093\u0094\u0095\u0096\u0097" ++
    "\u0098\u0099\u009a\u009b\u009c\u009d\u009e\u009f" ++
    "\u00a0Ą˘Ł¤ĽŚ§¨ŠŞŤŹ\u00adŽŻ" ++
    "°ą˛ł´ľśˇ¸šşťź˝žż" ++
    "ŔÁÂĂÄĹĆÇČÉĘËĚÍÎĎ" ++
    "ĐŃŇÓÔŐÖ×ŘŮÚŰÜÝŢß" ++
    "ŕáâăäĺćçčéęëěíîď" ++
    "đńňóôőö÷řůúűüýţ˙"),
  ("ISO-8859-3",
    "\u0080\u0081\u0082\u0083\u0084\u0085\u0086\u0087" ++
    "\u0088\u0089\u008a\u008b\u008c\u008d\u008e\u008f" ++
    "\u0090\u0091\u0092\u0093\u0094\u0095\u0096\u0097" ++
    "\u0098\u0099\u009a\u009b\u009c\u009d\u009e\u009f" ++
    "\u00a0Ħ˘£¤\ufffdĤ§¨İŞĞĴ\u00ad\ufffdŻ" ++
    "°ħ²³´µĥ·¸ışğĵ½\ufffdż" ++
    "ÀÁÂ\ufffdÄĊĈÇÈÉÊËÌÍÎÏ" ++
    "\ufffdÑÒÓÔĠÖ×ĜÙÚÛÜŬŜß" ++
    "àáâ\ufffdäċĉçèéêëìíîï" ++
    "\ufffdñòóôġö÷ĝùúûüŭŝ˙"),
  ("ISO-8859-4",
    "\u0080\u0081\u0082\u0083\u0084\u0085\u0086\u0087" ++
    "\u0088\u0089\u008a\u008b\u008c\u008d\u008e\u008f" ++
    "\u0090\u0091\u0092\u0093\u0094\u0095\u0096\u0097" ++
    "\u0098\u0099\u009a\u009b\u009c\u009d\u009e\u009f" ++
    "\u00a0ĄĸŖ¤ĨĻ§¨ŠĒĢŦ\u00adŽ¯" ++
    "°ą˛ŗ´ĩļˇ¸šēģŧŊžŋ" ++
    "ĀÁÂÃÄÅÆĮČÉĘËĖÍÎĪ" ++
    "ĐŅŌĶÔÕÖ×ØŲÚÛÜŨŪß" ++
    "āáâãäåæįčéęëėíîī" ++
    "đņōķôõö÷øųúûüũū˙"),
  ("ISO-8859-5",
    "\u0080\u0081\u0082\u0083\u0084\u0085\u0086\u0087" ++
    "\u0088\u0089\u008a\u008b\u008c\u008d\u008e\u008f" ++
    "\u0090\u0091\u0092\u0093\u0094\u0095\u0096\u0097" ++
    "\u0098\u0099\u009a\u009b\u009c\u009d\u009e\u009f" ++
    "\u00a0ЁЂЃЄЅІЇЈЉЊЋЌ\u00adЎЏ" ++
    "АБВГДЕЖЗИЙКЛМНОП" ++
    "РСТУФХЦЧШЩЪЫЬЭЮЯ" ++
    "абвгдежзийклмноп" ++
    "рстуфхцчшщъыьэюя" ++
    "№ёђѓєѕіїјљњћќ§ўџ"),
  ("ISO-8859-6",
    "\u0080\u0081\u0082\u0083\u0084\u0085\u0086\u0087" ++
    "\u0088\u0089\u008a\u008b\u008c\u008d\u008e\u008f" ++
    "\u0090\u0091\u0092\u0093\u0094\u0095\u0096\u0097" ++
    "\u0098\u0099\u009a\u009b\u009c\u009d\u009e\u009f" ++
    "\u00a0\ufffd\ufffd\ufffd¤\ufffd\ufffd\ufffd\ufffd\ufffd\ufffd\ufffd،\u00ad\ufffd\ufffd" ++
    "\ufffd\ufffd\ufffd\ufffd\ufffd\ufffd\ufffd\ufffd" ++
    "\ufffd\ufffd\ufffd\u061b\ufffd\ufffd\ufffd\u061f" ++
    "\ufffd\u0621\u0622\u0623\u0624\u0625\u0626\u0627" ++
    "\u0628\u0629\u062a\u062b\u062c\u062d\u062e\u062f" ++
    "\u0630\u0631\u0632\u0633\u0634\u0635\u0636\u0637" ++
    "\u0638\u0639\u063a\ufffd\ufffd\ufffd\ufffd\ufffd" ++
    "\u0640\u0641\u0642\u0643\u0644\u0645\u0646\u0647" ++
    "\u0648\u0649\u064a\u064b\u064c\u064d\u064e\u064f" ++
    "\u0650\u0651\u0652\ufffd\ufffd\ufffd\ufffd\ufffd" ++
    "\ufffd\ufffd\ufffd\ufffd\ufffd\ufffd\ufffd\ufffd"),
  ("ISO-8859-7",
    "\u0080\u0081\u0082\u0083\u0084\u0085\u0086\u0087" ++
    "\u0088\u0089\u008a\u008b\u008c\u008d\u008e\u008f" ++
    "\u0090\u0091\u0092\u0093\u0094\u0095\u0096\u0097" ++
    "\u0098\u0099\u009a\u009b\u009c\u009d\u009e\u009f" ++
    "\u00a0‘’£€₯¦§¨©ͺ«¬\u00ad\ufffd―" ++
    "°±²³΄΅Ά·ΈΉΊ»Ό½ΎΏ" ++
    "ΐΑΒΓΔΕΖΗΘΙΚΛΜΝΞΟ" ++
    "ΠΡ\ufffdΣΤΥΦΧΨΩΪΫάέήί" ++
    "ΰαβγδεζηθικλμνξο" ++
    "πρςστυφχψωϊϋόύώ\ufffd"),
  ("ISO-8859-8",
    "\u0080\u0081\u0082\u0083\u0084\u0085\u0086\u0087" ++
    "\u0088\u0089\u008a\u008b\u008c\u008d\u008e\u008f" ++
    "\u0090\u0091\u0092\u0093\u0094\u0095\u0096\u0097" ++
    "\u0098\u0099\u009a\u009b\u009c\u009d\u009e\u009f" ++
    "\u00a0\ufffd¢£¤¥¦§¨©×«¬\u00ad®¯" ++
    "°±²³´µ¶·¸¹÷»¼½¾\ufffd" ++
    "\ufffd\ufffd\ufffd\ufffd\ufffd\ufffd\ufffd\ufffd" ++
    "\ufffd\ufffd\ufffd\ufffd\ufffd\ufffd\ufffd\ufffd" ++
    "\ufffd\ufffd\ufffd\ufffd\ufffd\ufffd\ufffd\ufffd\ufffd\ufffd\ufffd\ufffd\ufffd\ufffd\ufffd‗" ++
    "\u05d0\u05d1\u05d2\u05d3\u05d4\u05d5\u05d6\u05d7" ++
    "\u05d8\u05d9\u05da\u05db\u05dc\u05dd\u05de\u05df" ++
    "\u05e0\u05e1\u05e2\u05e3\u05e4\u05e5\u05e6\u05e7" ++
    "\u05e8\u05e9\u05ea\ufffd\ufffd\u200e\u200f\ufffd"),
  ("ISO-8859-8-I",
    "\u0080\u0081\u0082\u0083\u0084\u0085\u0086\u0087" ++
    "\u0088\u0089\u008a\u008b\u008c\u008d\u008e\u008f" ++
    "\u0090\u0091\u0092\u0093\u0094\u0095\u0096\u0097" ++
    "\u0098\u0099\u009a\u009b\u009c\u009d\u009e\u009f" ++
    "\u00a0\ufffd¢£¤¥¦§¨©×«¬\u00ad®¯" ++
    "°±²³´µ¶·¸¹÷»¼½¾\ufffd" ++
    "\ufffd\ufffd\ufffd\ufffd\ufffd\ufffd\ufffd\ufffd" ++
    "\ufffd\ufffd\ufffd\ufffd\ufffd\ufffd\ufffd\ufffd" ++
    "\ufffd\ufffd\ufffd\ufffd\ufffd\ufffd\ufffd\ufffd\ufffd\ufffd\ufffd\ufffd\ufffd\ufffd\ufffd‗" ++
    "\u05d0\u05d1\u05d2\u05d3\u05d4\u05d5\u05d6\u05d7" ++
    "\u05d8\u05d9\u05da\u05db\u05dc\u05dd\u05de\u05df" ++
    "\u05e0\u05e1\u05e2\u05e3\u05e4\u05e5\u05e6\u05e7" ++
    "\u05e8\u05e9\u05ea\ufffd\ufffd\u200e\u200f\ufffd"),
  ("ISO-8859-10",
    "\u0080\u0081\u0082\u0083\u0084\u0085\u0086\u0087" ++
    "\u0088\u0089\u008a\u008b\u008c\u008d\u008e\u008f" ++
    "\u0090\u0091\u0092\u0093\u0094\u0095\u0096\u0097" ++
    "\u0098\u0099\u009a\u009b\u009c\u009d\u009e\u009f" ++
    "\u00a0ĄĒĢĪĨĶ§ĻĐŠŦŽ\u00adŪŊ" ++
    "°ąēģīĩķ·ļđšŧž―ūŋ" ++
    "ĀÁÂÃÄÅÆĮČÉĘËĖÍÎÏ" ++
    "ÐŅŌÓÔÕÖŨØŲÚÛÜÝÞß" ++
    "āáâãäåæįčéęëėíîï" ++
    "ðņōóôõöũøųúûüýþĸ"),
  ("ISO-8859-13",
    "\u0080\u0081\u0082\u0083\u0084\u0085\u0086\u0087" ++
    "\u0088\u0089\u008a\u008b\u008c\u008d\u008e\u008f" ++
    "\u0090\u0091\u0092\u0093\u0094\u0095\u0096\u0097" ++
    "\u0098\u0099\u009a\u009b\u009c\u009d\u009e\u009f" ++
    "\u00a0”¢£¤„¦§Ø©Ŗ«¬\u00ad®Æ" ++
    "°±²³“µ¶·ø¹ŗ»¼½¾æ" ++
    "ĄĮĀĆÄÅĘĒČÉŹĖĢĶĪĻ" ++
    "ŠŃŅÓŌÕÖ×ŲŁŚŪÜŻŽß" ++
    "ąįāćäåęēčéźėģķīļ" ++
    "šńņóōõö÷ųłśūüżž’"),
  ("ISO-8859-14",
    "\u0080\u0081\u0082\u0083\u0084\u0085\u0086\u0087" ++
    "\u0088\u0089\u008a\u008b\u008c\u008d\u008e\u008f" ++
    "\u0090\u0091\u0092\u0093\u0094\u0095\u0096\u0097" ++
    "\u0098\u0099\u009a\u009b\u009c\u009d\u009e\u009f" ++
    "\u00a0Ḃḃ£ĊċḊ§Ẁ©ẂḋỲ\u00ad®Ÿ" ++
    "ḞḟĠġṀṁ¶ṖẁṗẃṠỳẄẅṡ" ++
    "ÀÁÂÃÄÅÆÇÈÉÊËÌÍÎÏ" ++
    "ŴÑÒÓÔÕÖṪØÙÚÛÜÝŶß" ++
    "àáâãäåæçèéêëìíîï" ++
    "ŵñòóôõöṫøùúûüýŷÿ"),
  ("ISO-8859-15",
    "\u0080\u0081\u0082\u0083\u0084\u0085\u0086\u0087" ++
    "\u0088\u0089\u008a\u008b\u008c\u008d\u008e\u008f" ++
    "\u0090\u0091\u0092\u0093\u0094\u0095\u0096\u0097" ++
    "\u0098\u0099\u009a\u009b\u009c\u009d\u009e\u009f" ++
    "\u00a0¡¢£€¥Š§š©ª«¬\u00ad®¯" ++
    "°±²³Žµ¶·ž¹º»ŒœŸ¿" ++
    "ÀÁÂÃÄÅÆÇÈÉÊËÌÍÎÏ" ++
    "ÐÑÒÓÔÕÖ×ØÙÚÛÜÝÞß" ++
    "àáâãäåæçèéêëìíîï" ++
    "ðñòóôõö÷øùúûüýþÿ"),
  ("ISO-8859-16",
    "\u0080\u0081\u0082\u0083\u0084\u0085\u0086\u0087" ++
    "\u0088\u0089\u008a\u008b\u008c\u008d\u008e\u008f" ++
    "\u0090\u0091\u0092\u0093\u0094\u0095\u0096\u0097" ++
    "\u0098\u0099\u009a\u009b\u009c\u009d\u009e\u009f" ++
    "\u00a0ĄąŁ€„Š§š©Ș«Ź\u00adźŻ" ++
    "°±ČłŽ”¶·žčș»ŒœŸż" ++
    "ÀÁÂĂÄĆÆÇÈÉÊËÌÍÎÏ" ++
    "ĐŃÒÓÔŐÖŚŰÙÚÛÜĘȚß" ++
    "àáâăäćæçèéêëìíîï" ++
    "đńòóôőöśűùúûüęțÿ"),
  ("KOI8-R",
    "─│┌┐└┘├┤┬┴┼▀▄█▌▐" ++
    "░▒▓⌠■∙√≈≤≥\u00a0⌡°²·÷" ++
    "═║╒ё╓╔╕╖╗╘╙╚╛╜╝╞" ++
    "╟╠╡Ё╢╣╤╥╦╧╨╩╪╫╬©" ++
    "юабцдефгхийклмно" ++
    "пярстужвьызшэщчъ" ++
    "ЮАБЦДЕФГХИЙКЛМНО" ++
    "ПЯРСТУЖВЬЫЗШЭЩЧЪ"),
  ("KOI8-U",
    "─│┌┐└┘├┤┬┴┼▀▄█▌▐" ++
    "░▒▓⌠■∙√≈≤≥\u00a0⌡°²·÷" ++
    "═║╒ёє╔ії╗╘╙╚╛ґў╞" ++
    "╟╠╡ЁЄ╣ІЇ╦╧╨╩╪ҐЎ©" ++
    "юабцдефгхийклмно" ++
    "пярстужвьызшэщчъ" ++
    "ЮАБЦДЕФГХИЙКЛМНО" ++
    "ПЯРСТУЖВЬЫЗШЭЩЧЪ"),
  ("macintosh",
    "ÄÅÇÉÑÖÜáàâäãåçéè" ++
    "êëíìîïñóòôöõúùûü" ++
    "†°¢£§•¶ß®©™´¨≠ÆØ" ++
    "∞±≤≥¥µ∂∑∏π∫ªºΩæø" ++
    "¿¡¬√ƒ≈∆«»…\u00a0ÀÃÕŒœ" ++
    "–—“”‘’÷◊ÿŸ⁄€‹›ﬁﬂ" ++
    "‡·‚„‰ÂÊÁËÈÍÎÏÌÓÔ" ++
    "\uf8ffÒÚÛÙıˆ˜¯˘˙˚¸˝˛ˇ"),
  ("windows-874",
    "€\u0081\u0082\u0083\u0084…\u0086\u0087\u0088\u0089\u008a\u008b\u008c\u008d\u008e\u008f" ++
    "\u0090‘’“”•–—\u0098\u0099\u009a\u009b\u009c\u009d\u009e\u009f" ++
    "\u00a0กขฃคฅฆงจฉชซฌญฎฏ" ++
    "ฐฑฒณดตถทธนบปผฝพฟ" ++
    "ภมยรฤลฦวศษสหฬอฮฯ" ++
    "ะ\u0e31าำ\u0e34\u0e35\u0e36\u0e37\u0e38\u0e39\u0e3a\ufffd\ufffd\ufffd\ufffd฿" ++
    "เแโใไๅๆ\u0e47\u0e48\u0e49\u0e4a\u0e4b\u0e4c\u0e4d\u0e4e๏" ++
    "๐๑๒๓๔๕๖๗๘๙๚๛\ufffd\ufffd\ufffd\ufffd"),
  ("windows-1250",
    "€\u0081‚\u0083„…†‡\u0088‰Š‹ŚŤŽŹ" ++
    "\u0090‘’“”•–—\u0098™š›śťžź" ++
    "\u00a0ˇ˘Ł¤Ą¦§¨©Ş«¬\u00ad®Ż" ++
    "°±˛ł´µ¶·¸ąş»Ľ˝ľż" ++
    "ŔÁÂĂÄĹĆÇČÉĘËĚÍÎĎ" ++
    "ĐŃŇÓÔŐÖ×ŘŮÚŰÜÝŢß" ++
    "ŕáâăäĺćçčéęëěíîď" ++
    "đńňóôőö÷řůúűüýţ˙"),
  ("windows-1251",
    "ЂЃ‚ѓ„…†‡€‰Љ‹ЊЌЋЏ" ++
    "ђ‘’“”•–—\u0098™љ›њќћџ" ++
    "\u00a0ЎўЈ¤Ґ¦§Ё©Є«¬\u00ad®Ї" ++
    "°±Ііґµ¶·ё№є»јЅѕї" ++
    "АБВГДЕЖЗИЙКЛМНОП" ++
    "РСТУФХЦЧШЩЪЫЬЭЮЯ" ++
    "абвгдежзийклмноп" ++
    "рстуфхцчшщъыьэюя"),
  ("windows-1252",
    "€\u0081‚ƒ„…†‡ˆ‰Š‹Œ\u008dŽ\u008f" ++
    "\u0090‘’“”•–—˜™š›œ\u009džŸ" ++
    "\u00a0¡¢£¤¥¦§¨©ª«¬\u00ad®¯" ++
    "°±²³´µ¶·¸¹º»¼½¾¿" ++
    "ÀÁÂÃÄÅÆÇÈÉÊËÌÍÎÏ" ++
    "ÐÑÒÓÔÕÖ×ØÙÚÛÜÝÞß" ++
    "àáâãäåæçèéêëìíîï" ++
    "ðñòóôõö÷øùúûüýþÿ"),
  ("windows-1253",
    "€\u0081‚ƒ„…†‡\u0088‰\u008a‹\u008c\u008d\u008e\u008f" ++
    "\u0090‘’“”•–—\u0098™\u009a›\u009c\u009d\u009e\u009f" ++
    "\u00a0΅Ά£¤¥¦§¨©\ufffd«¬\u00ad®―" ++
    "°±²³΄µ¶·ΈΉΊ»Ό½ΎΏ" ++
    "ΐΑΒΓΔΕΖΗΘΙΚΛΜΝΞΟ" ++
    "ΠΡ\ufffdΣΤΥΦΧΨΩΪΫάέήί" ++
    "ΰαβγδεζηθικλμνξο" ++
    "πρςστυφχψωϊϋόύώ\ufffd"),
  ("windows-1254",
    "€\u0081‚ƒ„…†‡ˆ‰Š‹Œ\u008d\u008e\u008f" ++
    "\u0090‘’“”•–—˜™š›œ\u009d\u009eŸ" ++
    "\u00a0¡¢£¤¥¦§¨©ª«¬\u00ad®¯" ++
    "°±²³´µ¶·¸¹º»¼½¾¿" ++
    "ÀÁÂÃÄÅÆÇÈÉÊËÌÍÎÏ" ++
    "ĞÑÒÓÔÕÖ×ØÙÚÛÜİŞß" ++
    "àáâãäåæçèéêëìíîï" ++
    "ğñòóôõö÷øùúûüışÿ"),
  ("windows-1255",
    "€\u0081‚ƒ„…†‡ˆ‰\u008a‹\u008c\u008d\u008e\u008f" ++
    "\u0090‘’“”•–—˜™\u009a›\u009c\u009d\u009e\u009f" ++
    "\u00a0¡¢£₪¥¦§¨©×«¬\u00ad®¯" ++
    "°±²³´µ¶·¸¹÷»¼½¾¿" ++
    "\u05b0\u05b1\u05b2\u05b3\u05b4\u05b5\u05b6\u05b7" ++
    "\u05b8\u05b9\u05ba\u05bb\u05bc\u05bd\u05be\u05bf" ++
    "\u05c0\u05c1\u05c2\u05c3\u05f0\u05f1\u05f2\u05f3" ++
    "\u05f4\ufffd\ufffd\ufffd\ufffd\ufffd\ufffd\ufffd" ++
    "\u05d0\u05d1\u05d2\u05d3\u05d4\u05d5\u05d6\u05d7" ++
    "\u05d8\u05d9\u05da\u05db\u05dc\u05dd\u05de\u05df" ++
    "\u05e0\u05e1\u05e2\u05e3\u05e4\u05e5\u05e6\u05e7" ++
    "\u05e8\u05e9\u05ea\ufffd\ufffd\u200e\u200f\ufffd"),
  ("windows-1256",
    "€\u067e‚ƒ„…†‡ˆ‰\u0679‹Œ\u0686\u0698\u0688" ++
    "\u06af‘’“”•–—\u06a9™\u0691›œ\u200c\u200d\u06ba" ++
    "\u00a0،¢£¤¥¦§¨©\u06be«¬\u00ad®¯" ++
    "°±²³´µ¶·¸¹\u061b»¼½¾\u061f" ++
    "\u06c1\u0621\u0622\u0623\u0624\u0625\u0626\u0627" ++
    "\u0628\u0629\u062a\u062b\u062c\u062d\u062e\u062f" ++
    "\u0630\u0631\u0632\u0633\u0634\u0635\u0636×\u0637\u0638\u0639\u063a\u0640\u0641\u0642\u0643" ++
    "à\u0644â\u0645\u0646\u0647\u0648çèéêë\u0649\u064aîï" ++
    "\u064b\u064c\u064d\u064eô\u064f\u0650÷\u0651ù\u0652ûü\u200e\u200f\u06d2"),
  ("windows-1257",
    "€\u0081‚\u0083„…†‡\u0088‰\u008a‹\u008c¨ˇ¸" ++
    "\u0090‘’“”•–—\u0098™\u009a›\u009c¯˛\u009f" ++
    "\u00a0\ufffd¢£¤\ufffd¦§Ø©Ŗ«¬\u00ad®Æ" ++
    "°±²³´µ¶·ø¹ŗ»¼½¾æ" ++
    "ĄĮĀĆÄÅĘĒČÉŹĖĢĶĪĻ" ++
    "ŠŃŅÓŌÕÖ×ŲŁŚŪÜŻŽß" ++
    "ąįāćäåęēčéźėģķīļ" ++
    "šńņóōõö÷ųłśūüżž˙"),
  ("windows-1258",
    "€\u0081‚ƒ„…†‡ˆ‰\u008a‹Œ\u008d\u008e\u008f" ++
    "\u0090‘’“”•–—˜™\u009a›œ\u009d\u009eŸ" ++
    "\u00a0¡¢£¤¥¦§¨©ª«¬\u00ad®¯" ++
    "°±²³´µ¶·¸¹º»¼½¾¿" ++
    "ÀÁÂĂÄÅÆÇÈÉÊË\u0300ÍÎÏ" ++
    "ĐÑ\u0309ÓÔƠÖ×ØÙÚÛÜƯ\u0303ß" ++
    "àáâăäåæçèéêë\u0301íîï" ++
    "đñ\u0323óôơö÷øùúûüư₫ÿ"),
  ("x-mac-cyrillic",
    "АБВГДЕЖЗИЙКЛМНОП" ++
    "РСТУФХЦЧШЩЪЫЬЭЮЯ" ++
    "†°Ґ£§•¶І®©™Ђђ≠Ѓѓ" ++
    "∞±≤≥іµґЈЄєЇїЉљЊњ" ++
    "јЅ¬√ƒ≈∆«»…\u00a0ЋћЌќѕ" ++
    "–—“”‘’÷„ЎўЏџ№Ёёя" ++
    "абвгдежзийклмноп" ++
    "рстуфхцчшщъыьэю€")]

end Almanac.Encoding.Table
