/-!
# Code pages

Encodings in which a character is a single byte.  Bytes up to a certain one have the code points that
they are; a table gives the characters of the others, with the replacement character for a byte that
stands for none.
-/

namespace SetupScript.Text

/-- A code page: its names, and the characters of the bytes from a first one on. -/
structure CodePage where
  names : List String
  first : Nat
  upper : String

/-- The character of a byte, if it has one. -/
def CodePage.character? (page : CodePage) (byte : UInt8) : Option Char :=
  if byte.toNat < page.first then some (Char.ofNat byte.toNat)
  else page.upper.toList[byte.toNat - page.first]?.filter (· != '\ufffd')

/-- The byte of a character, if it has one. -/
def CodePage.byte? (page : CodePage) (character : Char) : Option UInt8 :=
  if character.toNat < page.first then some character.toNat.toUInt8
  else if character = '\ufffd' then none
  else (page.upper.toList.idxOf? character).map fun place => (page.first + place).toUInt8

/-- The code pages. -/
def codePages : List CodePage := [
  { names := ["cp437", "437", "cspc8codepage437", "ibm437"]
    first := 128
    upper :=
      "ÇüéâäàåçêëèïîìÄÅÉæÆôöòûùÿÖÜ¢£¥₧ƒáíóúñÑªº¿⌐¬½¼¡«»░▒▓│┤╡╢╖╕╣║╗╝╜╛┐└┴┬├─┼╞╟╚╔╩╦╠═╬╧" ++
        "╨╤╥╙╘╒╓╫╪┘┌█▄▌▐▀αßΓπΣσµτΦΘΩδ∞φε∩≡±≥≤⌠⌡÷≈°∙·√\u207f²■\xa0" },
  { names := ["cp850", "850", "cspc850multilingual", "ibm850"]
    first := 128
    upper :=
      "ÇüéâäàåçêëèïîìÄÅÉæÆôöòûùÿÖÜø£Ø×ƒáíóúñÑªº¿®¬½¼¡«»░▒▓│┤ÁÂÀ©╣║╗╝¢¥┐└┴┬├─┼ãÃ╚╔╩╦╠═╬¤" ++
        "ðÐÊËÈıÍÎÏ┘┌█▄¦Ì▀ÓßÔÒõÕµþÞÚÛÙýÝ\xaf\xb4\xad±‗¾¶§÷\xb8°\xa8·¹³²■\xa0" },
  { names := ["cp852", "852", "cspcp852", "ibm852"]
    first := 128
    upper :=
      "ÇüéâäůćçłëŐőîŹÄĆÉĹĺôöĽľŚśÖÜŤťŁ×čáíóúĄąŽžĘę¬źČş«»░▒▓│┤ÁÂĚŞ╣║╗╝Żż┐└┴┬├─┼Ăă╚╔╩╦╠═╬¤" ++
        "đĐĎËďŇÍÎě┘┌█▄ŢŮ▀ÓßÔŃńňŠšŔÚŕŰýÝţ\xb4\xad\u02dd\u02db\u02c7\u02d8§÷\xb8°\xa8\u02d9" ++
        "űŘř■\xa0" },
  { names := ["cp855", "855", "csibm855", "ibm855"]
    first := 128
    upper :=
      "ђЂѓЃёЁєЄѕЅіІїЇјЈљЉњЊћЋќЌўЎџЏюЮъЪаАбБцЦдДеЕфФгГ«»░▒▓│┤хХиИ╣║╗╝йЙ┐└┴┬├─┼кК╚╔╩╦╠═╬¤" ++
        "лЛмМнНоОп┘┌█▄Пя▀ЯрРсСтТуУжЖвВьЬ№\xadыЫзЗшШэЭщЩчЧ§■\xa0" },
  { names := ["cp858", "858", "csibm858", "ibm858"]
    first := 128
    upper :=
      "ÇüéâäàåçêëèïîìÄÅÉæÆôöòûùÿÖÜø£Ø×ƒáíóúñÑªº¿®¬½¼¡«»░▒▓│┤ÁÂÀ©╣║╗╝¢¥┐└┴┬├─┼ãÃ╚╔╩╦╠═╬¤" ++
        "ðÐÊËÈ€ÍÎÏ┘┌█▄¦Ì▀ÓßÔÒõÕµþÞÚÛÙýÝ\xaf\xb4\xad±‗¾¶§÷\xb8°\xa8·¹³²■\xa0" },
  { names := ["cp866", "866", "csibm866", "ibm866"]
    first := 128
    upper :=
      "АБВГДЕЖЗИЙКЛМНОПРСТУФХЦЧШЩЪЫЬЭЮЯабвгдежзийклмноп░▒▓│┤╡╢╖╕╣║╗╝╜╛┐└┴┬├─┼╞╟╚╔╩╦╠═╬╧" ++
        "╨╤╥╙╘╒╓╫╪┘┌█▄▌▐▀рстуфхцчшщъыьэюяЁёЄєЇїЎў°∙·√№¤■\xa0" },
  { names := ["cp1250", "1250", "windows_1250"]
    first := 128
    upper :=
      "€�‚�„…†‡�‰Š‹ŚŤŽŹ�‘’“”•–—�™š›śťžź\xa0\u02c7\u02d8Ł¤Ą¦§\xa8©Ş«¬\xad®Ż°±\u02dbł\xb4" ++
        "µ¶·\xb8ąş»Ľ\u02ddľżŔÁÂĂÄĹĆÇČÉĘËĚÍÎĎĐŃŇÓÔŐÖ×ŘŮÚŰÜÝŢßŕáâăäĺćçčéęëěíîďđńňóôőö÷řůúűü" ++
        "ýţ\u02d9" },
  { names := ["cp1251", "1251", "windows_1251"]
    first := 128
    upper :=
      "ЂЃ‚ѓ„…†‡€‰Љ‹ЊЌЋЏђ‘’“”•–—�™љ›њќћџ\xa0ЎўЈ¤Ґ¦§Ё©Є«¬\xad®Ї°±Ііґµ¶·ё№є»јЅѕїАБВГДЕЖЗИЙ" ++
        "КЛМНОПРСТУФХЦЧШЩЪЫЬЭЮЯабвгдежзийклмнопрстуфхцчшщъыьэюя" },
  { names := ["cp1252", "1252", "windows_1252"]
    first := 128
    upper :=
      "€�‚ƒ„…†‡\u02c6‰Š‹Œ�Ž��‘’“”•–—\u02dc™š›œ�žŸ\xa0¡¢£¤¥¦§\xa8©ª«¬\xad®\xaf°±²³\xb4µ¶" ++
        "·\xb8¹º»¼½¾¿ÀÁÂÃÄÅÆÇÈÉÊËÌÍÎÏÐÑÒÓÔÕÖ×ØÙÚÛÜÝÞßàáâãäåæçèéêëìíîïðñòóôõö÷øùúûüýþÿ" },
  { names := ["cp1253", "1253", "windows_1253"]
    first := 128
    upper :=
      "€�‚ƒ„…†‡�‰�‹�����‘’“”•–—�™�›����\xa0\u0385Ά£¤¥¦§\xa8©�«¬\xad®―°±²³\u0384µ¶·ΈΉΊ»Ό" ++
        "½ΎΏΐΑΒΓΔΕΖΗΘΙΚΛΜΝΞΟΠΡ�ΣΤΥΦΧΨΩΪΫάέήίΰαβγδεζηθικλμνξοπρςστυφχψωϊϋόύώ�" },
  { names := ["cp1254", "1254", "windows_1254"]
    first := 128
    upper :=
      "€�‚ƒ„…†‡\u02c6‰Š‹Œ����‘’“”•–—\u02dc™š›œ��Ÿ\xa0¡¢£¤¥¦§\xa8©ª«¬\xad®\xaf°±²³\xb4µ¶" ++
        "·\xb8¹º»¼½¾¿ÀÁÂÃÄÅÆÇÈÉÊËÌÍÎÏĞÑÒÓÔÕÖ×ØÙÚÛÜİŞßàáâãäåæçèéêëìíîïğñòóôõö÷øùúûüışÿ" },
  { names := ["cp1255", "1255", "windows_1255"]
    first := 128
    upper :=
      "€�‚ƒ„…†‡\u02c6‰�‹�����‘’“”•–—\u02dc™�›����\xa0¡¢£₪¥¦§\xa8©×«¬\xad®\xaf°±²³\xb4µ¶" ++
        "·\xb8¹÷»¼½¾¿\u05b0\u05b1\u05b2\u05b3\u05b4\u05b5\u05b6\u05b7\u05b8\u05b9�\u05bb" ++
        "\u05bc\u05bd\u05be\u05bf\u05c0\u05c1\u05c2\u05c3\u05f0\u05f1\u05f2\u05f3\u05f4��" ++
        "�����\u05d0\u05d1\u05d2\u05d3\u05d4\u05d5\u05d6\u05d7\u05d8\u05d9\u05da\u05db" ++
        "\u05dc\u05dd\u05de\u05df\u05e0\u05e1\u05e2\u05e3\u05e4\u05e5\u05e6\u05e7\u05e8" ++
        "\u05e9\u05ea��\u200e\u200f�" },
  { names := ["cp1256", "1256", "windows_1256"]
    first := 128
    upper :=
      "€\u067e‚ƒ„…†‡\u02c6‰\u0679‹Œ\u0686\u0698\u0688\u06af‘’“”•–—\u06a9™\u0691›œ\u200c" ++
        "\u200d\u06ba\xa0،¢£¤¥¦§\xa8©\u06be«¬\xad®\xaf°±²³\xb4µ¶·\xb8¹\u061b»¼½¾\u061f" ++
        "\u06c1\u0621\u0622\u0623\u0624\u0625\u0626\u0627\u0628\u0629\u062a\u062b\u062c" ++
        "\u062d\u062e\u062f\u0630\u0631\u0632\u0633\u0634\u0635\u0636×\u0637\u0638\u0639" ++
        "\u063a\u0640\u0641\u0642\u0643à\u0644â\u0645\u0646\u0647\u0648çèéêë\u0649\u064aî" ++
        "ï\u064b\u064c\u064d\u064eô\u064f\u0650÷\u0651ù\u0652ûü\u200e\u200f\u06d2" },
  { names := ["cp1257", "1257", "windows_1257"]
    first := 128
    upper :=
      "€�‚�„…†‡�‰�‹�\xa8\u02c7\xb8�‘’“”•–—�™�›�\xaf\u02db�\xa0�¢£¤�¦§Ø©Ŗ«¬\xad®Æ°±²³" ++
        "\xb4µ¶·ø¹ŗ»¼½¾æĄĮĀĆÄÅĘĒČÉŹĖĢĶĪĻŠŃŅÓŌÕÖ×ŲŁŚŪÜŻŽßąįāćäåęēčéźėģķīļšńņóōõö÷ųłśūüżž" ++
        "\u02d9" },
  { names := ["cp1258", "1258", "windows_1258"]
    first := 128
    upper :=
      "€�‚ƒ„…†‡\u02c6‰�‹Œ����‘’“”•–—\u02dc™�›œ��Ÿ\xa0¡¢£¤¥¦§\xa8©ª«¬\xad®\xaf°±²³\xb4µ¶" ++
        "·\xb8¹º»¼½¾¿ÀÁÂĂÄÅÆÇÈÉÊË\u0300ÍÎÏĐÑ\u0309ÓÔƠÖ×ØÙÚÛÜƯ\u0303ßàáâăäåæçèéêë\u0301íîï" ++
        "đñ\u0323óôơö÷øùúûüư₫ÿ" },
  { names := ["iso8859_2", "csisolatin2", "iso_8859_2", "iso_8859_2_1987", "iso_ir_101", "l2",
        "latin2"]
    first := 161
    upper :=
      "Ą\u02d8Ł¤ĽŚ§\xa8ŠŞŤŹ\xadŽŻ°ą\u02dbł\xb4ľś\u02c7\xb8šşťź\u02ddžżŔÁÂĂÄĹĆÇČÉĘËĚÍÎĎĐ" ++
        "ŃŇÓÔŐÖ×ŘŮÚŰÜÝŢßŕáâăäĺćçčéęëěíîďđńňóôőö÷řůúűüýţ\u02d9" },
  { names := ["iso8859_3", "csisolatin3", "iso_8859_3", "iso_8859_3_1988", "iso_ir_109", "l3",
        "latin3"]
    first := 161
    upper :=
      "Ħ\u02d8£¤�Ĥ§\xa8İŞĞĴ\xad�Ż°ħ²³\xb4µĥ·\xb8ışğĵ½�żÀÁÂ�ÄĊĈÇÈÉÊËÌÍÎÏ�ÑÒÓÔĠÖ×ĜÙÚÛÜŬŜß" ++
        "àáâ�äċĉçèéêëìíîï�ñòóôġö÷ĝùúûüŭŝ\u02d9" },
  { names := ["iso8859_4", "csisolatin4", "iso_8859_4", "iso_8859_4_1988", "iso_ir_110", "l4",
        "latin4"]
    first := 161
    upper :=
      "ĄĸŖ¤ĨĻ§\xa8ŠĒĢŦ\xadŽ\xaf°ą\u02dbŗ\xb4ĩļ\u02c7\xb8šēģŧŊžŋĀÁÂÃÄÅÆĮČÉĘËĖÍÎĪĐŅŌĶÔÕÖ×" ++
        "ØŲÚÛÜŨŪßāáâãäåæįčéęëėíîīđņōķôõö÷øųúûüũū\u02d9" },
  { names := ["iso8859_5", "csisolatincyrillic", "cyrillic", "iso_8859_5", "iso_8859_5_1988",
        "iso_ir_144"]
    first := 161
    upper :=
      "ЁЂЃЄЅІЇЈЉЊЋЌ\xadЎЏАБВГДЕЖЗИЙКЛМНОПРСТУФХЦЧШЩЪЫЬЭЮЯабвгдежзийклмнопрстуфхцчшщъыьэ" ++
        "юя№ёђѓєѕіїјљњћќ§ўџ" },
  { names := ["iso8859_6", "arabic", "asmo_708", "csisolatinarabic", "ecma_114", "iso_8859_6",
        "iso_8859_6_1987", "iso_ir_127"]
    first := 161
    upper :=
      "���¤�������،\xad�������������\u061b���\u061f�\u0621\u0622\u0623\u0624\u0625" ++
        "\u0626\u0627\u0628\u0629\u062a\u062b\u062c\u062d\u062e\u062f\u0630\u0631\u0632" ++
        "\u0633\u0634\u0635\u0636\u0637\u0638\u0639\u063a�����\u0640\u0641\u0642\u0643" ++
        "\u0644\u0645\u0646\u0647\u0648\u0649\u064a\u064b\u064c\u064d\u064e\u064f\u0650" ++
        "\u0651\u0652�������������" },
  { names := ["iso8859_7", "csisolatingreek", "ecma_118", "elot_928", "greek", "greek8",
        "iso_8859_7", "iso_8859_7_1987", "iso_ir_126"]
    first := 161
    upper :=
      "‘’£€₯¦§\xa8©\u037a«¬\xad�―°±²³\u0384\u0385Ά·ΈΉΊ»Ό½ΎΏΐΑΒΓΔΕΖΗΘΙΚΛΜΝΞΟΠΡ�ΣΤΥΦΧΨΩΪΫ" ++
        "άέήίΰαβγδεζηθικλμνξοπρςστυφχψωϊϋόύώ�" },
  { names := ["iso8859_8", "csisolatinhebrew", "hebrew", "iso_8859_8", "iso_8859_8_1988",
        "iso_ir_138"]
    first := 161
    upper :=
      "�¢£¤¥¦§\xa8©×«¬\xad®\xaf°±²³\xb4µ¶·\xb8¹÷»¼½¾��������������������������������‗" ++
        "\u05d0\u05d1\u05d2\u05d3\u05d4\u05d5\u05d6\u05d7\u05d8\u05d9\u05da\u05db\u05dc" ++
        "\u05dd\u05de\u05df\u05e0\u05e1\u05e2\u05e3\u05e4\u05e5\u05e6\u05e7\u05e8\u05e9" ++
        "\u05ea��\u200e\u200f�" },
  { names := ["iso8859_9", "csisolatin5", "iso_8859_9", "iso_8859_9_1989", "iso_ir_148", "l5",
        "latin5"]
    first := 208
    upper :=
      "ĞÑÒÓÔÕÖ×ØÙÚÛÜİŞßàáâãäåæçèéêëìíîïğñòóôõö÷øùúûüışÿ" },
  { names := ["iso8859_10", "csisolatin6", "iso_8859_10", "iso_8859_10_1992", "iso_ir_157", "l6",
        "latin6"]
    first := 161
    upper :=
      "ĄĒĢĪĨĶ§ĻĐŠŦŽ\xadŪŊ°ąēģīĩķ·ļđšŧž―ūŋĀÁÂÃÄÅÆĮČÉĘËĖÍÎÏÐŅŌÓÔÕÖŨØŲÚÛÜÝÞßāáâãäåæįčéęëėí" ++
        "îïðņōóôõöũøųúûüýþĸ" },
  { names := ["iso8859_11", "thai", "iso_8859_11", "iso_8859_11_2001"]
    first := 161
    upper :=
      "กขฃคฅฆงจฉชซฌญฎฏฐฑฒณดตถทธนบปผฝพฟภมยรฤลฦวศษสหฬอฮฯะ\u0e31าำ\u0e34\u0e35\u0e36\u0e37" ++
        "\u0e38\u0e39\u0e3a����฿เแโใไๅ\u0e46\u0e47\u0e48\u0e49\u0e4a\u0e4b\u0e4c\u0e4d" ++
        "\u0e4e๏๐๑๒๓๔๕๖๗๘๙๚๛����" },
  { names := ["iso8859_13", "iso_8859_13", "l7", "latin7"]
    first := 161
    upper :=
      "”¢£¤„¦§Ø©Ŗ«¬\xad®Æ°±²³“µ¶·ø¹ŗ»¼½¾æĄĮĀĆÄÅĘĒČÉŹĖĢĶĪĻŠŃŅÓŌÕÖ×ŲŁŚŪÜŻŽßąįāćäåęēčéźėģķ" ++
        "īļšńņóōõö÷ųłśūüżž’" },
  { names := ["iso8859_14", "iso_8859_14", "iso_8859_14_1998", "iso_celtic", "iso_ir_199", "l8",
        "latin8"]
    first := 161
    upper :=
      "Ḃḃ£ĊċḊ§Ẁ©ẂḋỲ\xad®ŸḞḟĠġṀṁ¶ṖẁṗẃṠỳẄẅṡÀÁÂÃÄÅÆÇÈÉÊËÌÍÎÏŴÑÒÓÔÕÖṪØÙÚÛÜÝŶßàáâãäåæçèéêëìí" ++
        "îïŵñòóôõöṫøùúûüýŷÿ" },
  { names := ["iso8859_15", "iso_8859_15", "l9", "latin9"]
    first := 164
    upper :=
      "€¥Š§š©ª«¬\xad®\xaf°±²³Žµ¶·ž¹º»ŒœŸ¿ÀÁÂÃÄÅÆÇÈÉÊËÌÍÎÏÐÑÒÓÔÕÖ×ØÙÚÛÜÝÞßàáâãäåæçèéêëìí" ++
        "îïðñòóôõö÷øùúûüýþÿ" },
  { names := ["iso8859_16", "iso_8859_16", "iso_8859_16_2001", "iso_ir_226", "l10", "latin10"]
    first := 161
    upper :=
      "ĄąŁ€„Š§š©Ș«Ź\xadźŻ°±ČłŽ”¶·žčș»ŒœŸżÀÁÂĂÄĆÆÇÈÉÊËÌÍÎÏĐŃÒÓÔŐÖŚŰÙÚÛÜĘȚßàáâăäćæçèéêëìí" ++
        "îïđńòóôőöśűùúûüęțÿ" },
  { names := ["koi8_r", "cskoi8r"]
    first := 128
    upper :=
      "─│┌┐└┘├┤┬┴┼▀▄█▌▐░▒▓⌠■∙√≈≤≥\xa0⌡°²·÷═║╒ё╓╔╕╖╗╘╙╚╛╜╝╞╟╠╡Ё╢╣╤╥╦╧╨╩╪╫╬©юабцдефгхийкл" ++
        "мнопярстужвьызшэщчъЮАБЦДЕФГХИЙКЛМНОПЯРСТУЖВЬЫЗШЭЩЧЪ" },
  { names := ["koi8_u"]
    first := 128
    upper :=
      "─│┌┐└┘├┤┬┴┼▀▄█▌▐░▒▓⌠■∙√≈≤≥\xa0⌡°²·÷═║╒ёє╔ії╗╘╙╚╛ґ╝╞╟╠╡ЁЄ╣ІЇ╦╧╨╩╪Ґ╬©юабцдефгхийкл" ++
        "мнопярстужвьызшэщчъЮАБЦДЕФГХИЙКЛМНОПЯРСТУЖВЬЫЗШЭЩЧЪ" },
  { names := ["mac_cyrillic", "maccyrillic"]
    first := 128
    upper :=
      "АБВГДЕЖЗИЙКЛМНОПРСТУФХЦЧШЩЪЫЬЭЮЯ†°Ґ£§•¶І®©™Ђђ≠Ѓѓ∞±≤≥іµґЈЄєЇїЉљЊњјЅ¬√ƒ≈∆«»…\xa0Ћћ" ++
        "Ќќѕ–—“”‘’÷„ЎўЏџ№Ёёяабвгдежзийклмнопрстуфхцчшщъыьэю€" },
  { names := ["mac_roman", "macintosh", "macroman"]
    first := 128
    upper :=
      "ÄÅÇÉÑÖÜáàâäãåçéèêëíìîïñóòôöõúùûü†°¢£§•¶ß®©™\xb4\xa8≠ÆØ∞±≤≥¥µ∂∑∏π∫ªºΩæø¿¡¬√ƒ≈∆«»…" ++
        "\xa0ÀÃÕŒœ–—“”‘’÷◊ÿŸ⁄€‹›ﬁﬂ‡·‚„‰ÂÊÁËÈÍÎÏÌÓÔ\uf8ffÒÚÛÙı\u02c6\u02dc\xaf\u02d8\u02d9" ++
        "\u02da\xb8\u02dd\u02db\u02c7" }]

end SetupScript.Text
