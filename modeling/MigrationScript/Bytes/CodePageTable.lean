import MigrationScript.Bytes.Charset

/-!
The code pages. Most of them differ in the upper half only.
-/
namespace MigrationScript.CodePage

/-- Code pages 874 and 1250 to 1258. -/
def ansi : List CodePage :=
  [⟨"cp874", [], onAscii <|
      "€����…�����������‘’“”•–—��������\u00A0กขฃคฅฆงจฉชซฌญฎฏฐฑฒณดตถทธนบปผฝพฟภมยรฤลฦวศษสหฬอฮฯะ" ++
      "\u0E31าำ\u0E34\u0E35\u0E36\u0E37\u0E38\u0E39\u0E3A����฿เแโใไๅๆ\u0E47\u0E48\u0E49\u0E4A" ++
      "\u0E4B\u0E4C\u0E4D\u0E4E๏๐๑๒๓๔๕๖๗๘๙๚๛����"⟩,
   ⟨"cp1250", ["1250", "windows_1250"], onAscii <|
      "€�‚�„…†‡�‰Š‹ŚŤŽŹ�‘’“”•–—�™š›śťžź\u00A0ˇ˘Ł¤Ą¦§¨©Ş«¬\u00AD®Ż°±˛ł´µ¶·¸ąş»Ľ˝ľżŔÁÂĂÄĹĆÇČÉĘËĚ" ++
      "ÍÎĎĐŃŇÓÔŐÖ×ŘŮÚŰÜÝŢßŕáâăäĺćçčéęëěíîďđńňóôőö÷řůúűüýţ˙"⟩,
   ⟨"cp1251", ["1251", "windows_1251"], onAscii <|
      "ЂЃ‚ѓ„…†‡€‰Љ‹ЊЌЋЏђ‘’“”•–—�™љ›њќћџ\u00A0ЎўЈ¤Ґ¦§Ё©Є«¬\u00AD®Ї°±Ііґµ¶·ё№є»јЅѕїАБВГДЕЖЗИЙКЛМ" ++
      "НОПРСТУФХЦЧШЩЪЫЬЭЮЯабвгдежзийклмнопрстуфхцчшщъыьэюя"⟩,
   ⟨"cp1252", ["1252", "windows_1252"], onAscii <|
      "€�‚ƒ„…†‡ˆ‰Š‹Œ�Ž��‘’“”•–—˜™š›œ�žŸ\u00A0¡¢£¤¥¦§¨©ª«¬\u00AD®¯°±²³´µ¶·¸¹º»¼½¾¿ÀÁÂÃÄÅÆÇÈÉÊËÌ" ++
      "ÍÎÏÐÑÒÓÔÕÖ×ØÙÚÛÜÝÞßàáâãäåæçèéêëìíîïðñòóôõö÷øùúûüýþÿ"⟩,
   ⟨"cp1253", ["1253", "windows_1253"], onAscii <|
      "€�‚ƒ„…†‡�‰�‹�����‘’“”•–—�™�›����\u00A0΅Ά£¤¥¦§¨©�«¬\u00AD®―°±²³΄µ¶·ΈΉΊ»Ό½ΎΏΐΑΒΓΔΕΖΗΘΙΚΛΜ" ++
      "ΝΞΟΠΡ�ΣΤΥΦΧΨΩΪΫάέήίΰαβγδεζηθικλμνξοπρςστυφχψωϊϋόύώ�"⟩,
   ⟨"cp1254", ["1254", "windows_1254"], onAscii <|
      "€�‚ƒ„…†‡ˆ‰Š‹Œ����‘’“”•–—˜™š›œ��Ÿ\u00A0¡¢£¤¥¦§¨©ª«¬\u00AD®¯°±²³´µ¶·¸¹º»¼½¾¿ÀÁÂÃÄÅÆÇÈÉÊËÌ" ++
      "ÍÎÏĞÑÒÓÔÕÖ×ØÙÚÛÜİŞßàáâãäåæçèéêëìíîïğñòóôõö÷øùúûüışÿ"⟩,
   ⟨"cp1255", ["1255", "windows_1255"], onAscii <|
      "€�‚ƒ„…†‡ˆ‰�‹�����‘’“”•–—˜™�›����\u00A0¡¢£₪¥¦§¨©×«¬\u00AD®¯°±²³´µ¶·¸¹÷»¼½¾¿\u05B0\u05B1" ++
      "\u05B2\u05B3\u05B4\u05B5\u05B6\u05B7\u05B8\u05B9�\u05BB\u05BC\u05BD\u05BE\u05BF\u05C0" ++
      "\u05C1\u05C2\u05C3\u05F0\u05F1\u05F2\u05F3\u05F4�������\u05D0\u05D1\u05D2\u05D3\u05D4" ++
      "\u05D5\u05D6\u05D7\u05D8\u05D9\u05DA\u05DB\u05DC\u05DD\u05DE\u05DF\u05E0\u05E1\u05E2" ++
      "\u05E3\u05E4\u05E5\u05E6\u05E7\u05E8\u05E9\u05EA��\u200E\u200F�"⟩,
   ⟨"cp1256", ["1256", "windows_1256"], onAscii <|
      "€\u067E‚ƒ„…†‡ˆ‰\u0679‹Œ\u0686\u0698\u0688\u06AF‘’“”•–—\u06A9™\u0691›œ\u200C\u200D\u06BA" ++
      "\u00A0،¢£¤¥¦§¨©\u06BE«¬\u00AD®¯°±²³´µ¶·¸¹\u061B»¼½¾\u061F\u06C1\u0621\u0622\u0623\u0624" ++
      "\u0625\u0626\u0627\u0628\u0629\u062A\u062B\u062C\u062D\u062E\u062F\u0630\u0631\u0632" ++
      "\u0633\u0634\u0635\u0636×\u0637\u0638\u0639\u063A\u0640\u0641\u0642\u0643à\u0644â\u0645" ++
      "\u0646\u0647\u0648çèéêë\u0649\u064Aîï\u064B\u064C\u064D\u064Eô\u064F\u0650÷\u0651ù" ++
      "\u0652ûü\u200E\u200F\u06D2"⟩,
   ⟨"cp1257", ["1257", "windows_1257"], onAscii <|
      "€�‚�„…†‡�‰�‹�¨ˇ¸�‘’“”•–—�™�›�¯˛�\u00A0�¢£¤�¦§Ø©Ŗ«¬\u00AD®Æ°±²³´µ¶·ø¹ŗ»¼½¾æĄĮĀĆÄÅĘĒČÉŹĖĢ" ++
      "ĶĪĻŠŃŅÓŌÕÖ×ŲŁŚŪÜŻŽßąįāćäåęēčéźėģķīļšńņóōõö÷ųłśūüżž˙"⟩,
   ⟨"cp1258", ["1258", "windows_1258"], onAscii <|
      "€�‚ƒ„…†‡ˆ‰�‹Œ����‘’“”•–—˜™�›œ��Ÿ\u00A0¡¢£¤¥¦§¨©ª«¬\u00AD®¯°±²³´µ¶·¸¹º»¼½¾¿ÀÁÂĂÄÅÆÇÈÉÊË" ++
      "\u0300ÍÎÏĐÑ\u0309ÓÔƠÖ×ØÙÚÛÜƯ\u0303ßàáâăäåæçèéêë\u0301íîïđñ\u0323óôơö÷øùúûüư₫ÿ"⟩]

/-- The parts of ISO 8859 after the first, and a Thai page that is close to one of them. -/
def iso : List CodePage :=
  [⟨"iso8859_2", ["csisolatin2", "iso_8859_2", "iso_8859_2_1987", "iso_ir_101", "l2", "latin2"],
      onControls <|
      "\u00A0Ą˘Ł¤ĽŚ§¨ŠŞŤŹ\u00ADŽŻ°ą˛ł´ľśˇ¸šşťź˝žżŔÁÂĂÄĹĆÇČÉĘËĚÍÎĎĐŃŇÓÔŐÖ×ŘŮÚŰÜÝŢßŕáâăäĺćçčéęëě" ++
      "íîďđńňóôőö÷řůúűüýţ˙"⟩,
   ⟨"iso8859_3", ["csisolatin3", "iso_8859_3", "iso_8859_3_1988", "iso_ir_109", "l3", "latin3"],
      onControls <|
      "\u00A0Ħ˘£¤�Ĥ§¨İŞĞĴ\u00AD�Ż°ħ²³´µĥ·¸ışğĵ½�żÀÁÂ�ÄĊĈÇÈÉÊËÌÍÎÏ�ÑÒÓÔĠÖ×ĜÙÚÛÜŬŜßàáâ�äċĉçèéêëì" ++
      "íîï�ñòóôġö÷ĝùúûüŭŝ˙"⟩,
   ⟨"iso8859_4", ["csisolatin4", "iso_8859_4", "iso_8859_4_1988", "iso_ir_110", "l4", "latin4"],
      onControls <|
      "\u00A0ĄĸŖ¤ĨĻ§¨ŠĒĢŦ\u00ADŽ¯°ą˛ŗ´ĩļˇ¸šēģŧŊžŋĀÁÂÃÄÅÆĮČÉĘËĖÍÎĪĐŅŌĶÔÕÖ×ØŲÚÛÜŨŪßāáâãäåæįčéęëė" ++
      "íîīđņōķôõö÷øųúûüũū˙"⟩,
   ⟨"iso8859_5", ["csisolatincyrillic", "cyrillic", "iso_8859_5", "iso_8859_5_1988", "iso_ir_144"],
      onControls <|
      "\u00A0ЁЂЃЄЅІЇЈЉЊЋЌ\u00ADЎЏАБВГДЕЖЗИЙКЛМНОПРСТУФХЦЧШЩЪЫЬЭЮЯабвгдежзийклмнопрстуфхцчшщъыь" ++
      "эюя№ёђѓєѕіїјљњћќ§ўџ"⟩,
   ⟨"iso8859_6", ["arabic", "asmo_708", "csisolatinarabic", "ecma_114", "iso_8859_6",
      "iso_8859_6_1987", "iso_ir_127"], onControls <|
      "\u00A0���¤�������،\u00AD�������������\u061B���\u061F�\u0621\u0622\u0623\u0624\u0625" ++
      "\u0626\u0627\u0628\u0629\u062A\u062B\u062C\u062D\u062E\u062F\u0630\u0631\u0632\u0633" ++
      "\u0634\u0635\u0636\u0637\u0638\u0639\u063A�����\u0640\u0641\u0642\u0643\u0644\u0645" ++
      "\u0646\u0647\u0648\u0649\u064A\u064B\u064C\u064D\u064E\u064F\u0650\u0651\u0652���������" ++
      "����"⟩,
   ⟨"iso8859_7", ["csisolatingreek", "ecma_118", "elot_928", "greek", "greek8", "iso_8859_7",
      "iso_8859_7_1987", "iso_ir_126"], onControls <|
      "\u00A0‘’£€₯¦§¨©ͺ«¬\u00AD�―°±²³΄΅Ά·ΈΉΊ»Ό½ΎΏΐΑΒΓΔΕΖΗΘΙΚΛΜΝΞΟΠΡ�ΣΤΥΦΧΨΩΪΫάέήίΰαβγδεζηθικλμ" ++
      "νξοπρςστυφχψωϊϋόύώ�"⟩,
   ⟨"iso8859_8", ["csisolatinhebrew", "hebrew", "iso_8859_8", "iso_8859_8_1988", "iso_ir_138"],
      onControls <|
      "\u00A0�¢£¤¥¦§¨©×«¬\u00AD®¯°±²³´µ¶·¸¹÷»¼½¾��������������������������������‗\u05D0\u05D1" ++
      "\u05D2\u05D3\u05D4\u05D5\u05D6\u05D7\u05D8\u05D9\u05DA\u05DB\u05DC\u05DD\u05DE\u05DF" ++
      "\u05E0\u05E1\u05E2\u05E3\u05E4\u05E5\u05E6\u05E7\u05E8\u05E9\u05EA��\u200E\u200F�"⟩,
   ⟨"iso8859_9", ["csisolatin5", "iso_8859_9", "iso_8859_9_1989", "iso_ir_148", "l5", "latin5"],
      onControls <|
      "\u00A0¡¢£¤¥¦§¨©ª«¬\u00AD®¯°±²³´µ¶·¸¹º»¼½¾¿ÀÁÂÃÄÅÆÇÈÉÊËÌÍÎÏĞÑÒÓÔÕÖ×ØÙÚÛÜİŞßàáâãäåæçèéêëì" ++
      "íîïğñòóôõö÷øùúûüışÿ"⟩,
   ⟨"iso8859_10", ["csisolatin6", "iso_8859_10", "iso_8859_10_1992", "iso_ir_157", "l6", "latin6"],
      onControls <|
      "\u00A0ĄĒĢĪĨĶ§ĻĐŠŦŽ\u00ADŪŊ°ąēģīĩķ·ļđšŧž―ūŋĀÁÂÃÄÅÆĮČÉĘËĖÍÎÏÐŅŌÓÔÕÖŨØŲÚÛÜÝÞßāáâãäåæįčéęëė" ++
      "íîïðņōóôõöũøųúûüýþĸ"⟩,
   ⟨"iso8859_11", ["thai", "iso_8859_11", "iso_8859_11_2001"], onControls <|
      "\u00A0กขฃคฅฆงจฉชซฌญฎฏฐฑฒณดตถทธนบปผฝพฟภมยรฤลฦวศษสหฬอฮฯะ\u0E31าำ\u0E34\u0E35\u0E36\u0E37" ++
      "\u0E38\u0E39\u0E3A����฿เแโใไๅๆ\u0E47\u0E48\u0E49\u0E4A\u0E4B\u0E4C\u0E4D\u0E4E๏๐๑๒๓๔๕๖๗" ++
      "๘๙๚๛����"⟩,
   ⟨"iso8859_13", ["iso_8859_13", "l7", "latin7"], onControls <|
      "\u00A0”¢£¤„¦§Ø©Ŗ«¬\u00AD®Æ°±²³“µ¶·ø¹ŗ»¼½¾æĄĮĀĆÄÅĘĒČÉŹĖĢĶĪĻŠŃŅÓŌÕÖ×ŲŁŚŪÜŻŽßąįāćäåęēčéźėģ" ++
      "ķīļšńņóōõö÷ųłśūüżž’"⟩,
   ⟨"iso8859_14", ["iso_8859_14", "iso_8859_14_1998", "iso_celtic", "iso_ir_199", "l8", "latin8"],
      onControls <|
      "\u00A0Ḃḃ£ĊċḊ§Ẁ©ẂḋỲ\u00AD®ŸḞḟĠġṀṁ¶ṖẁṗẃṠỳẄẅṡÀÁÂÃÄÅÆÇÈÉÊËÌÍÎÏŴÑÒÓÔÕÖṪØÙÚÛÜÝŶßàáâãäåæçèéêëì" ++
      "íîïŵñòóôõöṫøùúûüýŷÿ"⟩,
   ⟨"iso8859_15", ["iso_8859_15", "l9", "latin9"], onControls <|
      "\u00A0¡¢£€¥Š§š©ª«¬\u00AD®¯°±²³Žµ¶·ž¹º»ŒœŸ¿ÀÁÂÃÄÅÆÇÈÉÊËÌÍÎÏÐÑÒÓÔÕÖ×ØÙÚÛÜÝÞßàáâãäåæçèéêëì" ++
      "íîïðñòóôõö÷øùúûüýþÿ"⟩,
   ⟨"iso8859_16", ["iso_8859_16", "iso_8859_16_2001", "iso_ir_226", "l10", "latin10"], onControls <|
      "\u00A0ĄąŁ€„Š§š©Ș«Ź\u00ADźŻ°±ČłŽ”¶·žčș»ŒœŸżÀÁÂĂÄĆÆÇÈÉÊËÌÍÎÏĐŃÒÓÔŐÖŚŰÙÚÛÜĘȚßàáâăäćæçèéêëì" ++
      "íîïđńòóôőöśűùúûüęțÿ"⟩,
   ⟨"tis_620", ["tis620", "tis_620_0", "tis_620_2529_0", "tis_620_2529_1", "iso_ir_166"],
      onControls <|
      "�กขฃคฅฆงจฉชซฌญฎฏฐฑฒณดตถทธนบปผฝพฟภมยรฤลฦวศษสหฬอฮฯะ\u0E31าำ\u0E34\u0E35\u0E36\u0E37\u0E38" ++
      "\u0E39\u0E3A����฿เแโใไๅๆ\u0E47\u0E48\u0E49\u0E4A\u0E4B\u0E4C\u0E4D\u0E4E๏๐๑๒๓๔๕๖๗๘๙๚๛��" ++
      "��"⟩]

/-- Code pages of consoles, which have characters to draw boxes with. -/
def console : List CodePage :=
  [⟨"cp437", ["437", "cspc8codepage437", "ibm437"], onAscii <|
      "ÇüéâäàåçêëèïîìÄÅÉæÆôöòûùÿÖÜ¢£¥₧ƒáíóúñÑªº¿⌐¬½¼¡«»░▒▓│┤╡╢╖╕╣║╗╝╜╛┐└┴┬├─┼╞╟╚╔╩╦╠═╬╧╨╤╥╙╘╒╓" ++
      "╫╪┘┌█▄▌▐▀αßΓπΣσµτΦΘΩδ∞φε∩≡±≥≤⌠⌡÷≈°∙·√ⁿ²■\u00A0"⟩,
   ⟨"cp720", [], onAscii <|
      "\u0080\u0081éâ\u0084à\u0086çêëèïî\u008D\u008E\u008F\u0090\u0651\u0652ô¤\u0640ûù\u0621" ++
      "\u0622\u0623\u0624£\u0625\u0626\u0627\u0628\u0629\u062A\u062B\u062C\u062D\u062E\u062F" ++
      "\u0630\u0631\u0632\u0633\u0634\u0635«»░▒▓│┤╡╢╖╕╣║╗╝╜╛┐└┴┬├─┼╞╟╚╔╩╦╠═╬╧╨╤╥╙╘╒╓╫╪┘┌█▄▌▐▀" ++
      "\u0636\u0637\u0638\u0639\u063A\u0641µ\u0642\u0643\u0644\u0645\u0646\u0647\u0648\u0649" ++
      "\u064A≡\u064B\u064C\u064D\u064E\u064F\u0650≈°∙·√ⁿ²■\u00A0"⟩,
   ⟨"cp737", [], onAscii <|
      "ΑΒΓΔΕΖΗΘΙΚΛΜΝΞΟΠΡΣΤΥΦΧΨΩαβγδεζηθικλμνξοπρσςτυφχψ░▒▓│┤╡╢╖╕╣║╗╝╜╛┐└┴┬├─┼╞╟╚╔╩╦╠═╬╧╨╤╥╙╘╒╓" ++
      "╫╪┘┌█▄▌▐▀ωάέήϊίόύϋώΆΈΉΊΌΎΏ±≥≤ΪΫ÷≈°∙·√ⁿ²■\u00A0"⟩,
   ⟨"cp775", ["775", "cspc775baltic", "ibm775"], onAscii <|
      "ĆüéāäģåćłēŖŗīŹÄÅÉæÆōöĢ¢ŚśÖÜø£Ø×¤ĀĪóŻżź”¦©®¬½¼Ł«»░▒▓│┤ĄČĘĖ╣║╗╝ĮŠ┐└┴┬├─┼ŲŪ╚╔╩╦╠═╬Žąčęėįšų" ++
      "ūž┘┌█▄▌▐▀ÓßŌŃõÕµńĶķĻļņĒŅ’\u00AD±“¾¶§÷„°∙·¹³²■\u00A0"⟩,
   ⟨"cp850", ["850", "cspc850multilingual", "ibm850"], onAscii <|
      "ÇüéâäàåçêëèïîìÄÅÉæÆôöòûùÿÖÜø£Ø×ƒáíóúñÑªº¿®¬½¼¡«»░▒▓│┤ÁÂÀ©╣║╗╝¢¥┐└┴┬├─┼ãÃ╚╔╩╦╠═╬¤ðÐÊËÈıÍ" ++
      "ÎÏ┘┌█▄¦Ì▀ÓßÔÒõÕµþÞÚÛÙýÝ¯´\u00AD±‗¾¶§÷¸°¨·¹³²■\u00A0"⟩,
   ⟨"cp852", ["852", "cspcp852", "ibm852"], onAscii <|
      "ÇüéâäůćçłëŐőîŹÄĆÉĹĺôöĽľŚśÖÜŤťŁ×čáíóúĄąŽžĘę¬źČş«»░▒▓│┤ÁÂĚŞ╣║╗╝Żż┐└┴┬├─┼Ăă╚╔╩╦╠═╬¤đĐĎËďŇÍ" ++
      "Îě┘┌█▄ŢŮ▀ÓßÔŃńňŠšŔÚŕŰýÝţ´\u00AD˝˛ˇ˘§÷¸°¨˙űŘř■\u00A0"⟩,
   ⟨"cp855", ["855", "csibm855", "ibm855"], onAscii <|
      "ђЂѓЃёЁєЄѕЅіІїЇјЈљЉњЊћЋќЌўЎџЏюЮъЪаАбБцЦдДеЕфФгГ«»░▒▓│┤хХиИ╣║╗╝йЙ┐└┴┬├─┼кК╚╔╩╦╠═╬¤лЛмМнНо" ++
      "Оп┘┌█▄Пя▀ЯрРсСтТуУжЖвВьЬ№\u00ADыЫзЗшШэЭщЩчЧ§■\u00A0"⟩,
   ⟨"cp856", [], onAscii <|
      "\u05D0\u05D1\u05D2\u05D3\u05D4\u05D5\u05D6\u05D7\u05D8\u05D9\u05DA\u05DB\u05DC\u05DD" ++
      "\u05DE\u05DF\u05E0\u05E1\u05E2\u05E3\u05E4\u05E5\u05E6\u05E7\u05E8\u05E9\u05EA�£�×�����" ++
      "�����®¬½¼�«»░▒▓│┤���©╣║╗╝¢¥┐└┴┬├─┼��╚╔╩╦╠═╬¤���������┘┌█▄¦�▀������µ�������¯´\u00AD±‗¾¶§" ++
      "÷¸°¨·¹³²■\u00A0"⟩,
   ⟨"cp857", ["857", "csibm857", "ibm857"], onAscii <|
      "ÇüéâäàåçêëèïîıÄÅÉæÆôöòûùİÖÜø£ØŞşáíóúñÑĞğ¿®¬½¼¡«»░▒▓│┤ÁÂÀ©╣║╗╝¢¥┐└┴┬├─┼ãÃ╚╔╩╦╠═╬¤ºªÊËÈ�Í" ++
      "ÎÏ┘┌█▄¦Ì▀ÓßÔÒõÕµ�×ÚÛÙìÿ¯´\u00AD±�¾¶§÷¸°¨·¹³²■\u00A0"⟩,
   ⟨"cp858", ["858", "csibm858", "ibm858"], onAscii <|
      "ÇüéâäàåçêëèïîìÄÅÉæÆôöòûùÿÖÜø£Ø×ƒáíóúñÑªº¿®¬½¼¡«»░▒▓│┤ÁÂÀ©╣║╗╝¢¥┐└┴┬├─┼ãÃ╚╔╩╦╠═╬¤ðÐÊËÈ€Í" ++
      "ÎÏ┘┌█▄¦Ì▀ÓßÔÒõÕµþÞÚÛÙýÝ¯´\u00AD±‗¾¶§÷¸°¨·¹³²■\u00A0"⟩,
   ⟨"cp860", ["860", "csibm860", "ibm860"], onAscii <|
      "ÇüéâãàÁçêÊèÍÔìÃÂÉÀÈôõòÚùÌÕÜ¢£Ù₧ÓáíóúñÑªº¿Ò¬½¼¡«»░▒▓│┤╡╢╖╕╣║╗╝╜╛┐└┴┬├─┼╞╟╚╔╩╦╠═╬╧╨╤╥╙╘╒╓" ++
      "╫╪┘┌█▄▌▐▀αßΓπΣσµτΦΘΩδ∞φε∩≡±≥≤⌠⌡÷≈°∙·√ⁿ²■\u00A0"⟩,
   ⟨"cp861", ["861", "cp_is", "csibm861", "ibm861"], onAscii <|
      "ÇüéâäàåçêëèÐðÞÄÅÉæÆôöþûÝýÖÜø£Ø₧ƒáíóúÁÍÓÚ¿⌐¬½¼¡«»░▒▓│┤╡╢╖╕╣║╗╝╜╛┐└┴┬├─┼╞╟╚╔╩╦╠═╬╧╨╤╥╙╘╒╓" ++
      "╫╪┘┌█▄▌▐▀αßΓπΣσµτΦΘΩδ∞φε∩≡±≥≤⌠⌡÷≈°∙·√ⁿ²■\u00A0"⟩,
   ⟨"cp862", ["862", "cspc862latinhebrew", "ibm862"], onAscii <|
      "\u05D0\u05D1\u05D2\u05D3\u05D4\u05D5\u05D6\u05D7\u05D8\u05D9\u05DA\u05DB\u05DC\u05DD" ++
      "\u05DE\u05DF\u05E0\u05E1\u05E2\u05E3\u05E4\u05E5\u05E6\u05E7\u05E8\u05E9\u05EA¢£¥₧ƒáíóú" ++
      "ñÑªº¿⌐¬½¼¡«»░▒▓│┤╡╢╖╕╣║╗╝╜╛┐└┴┬├─┼╞╟╚╔╩╦╠═╬╧╨╤╥╙╘╒╓╫╪┘┌█▄▌▐▀αßΓπΣσµτΦΘΩδ∞φε∩≡±≥≤⌠⌡÷≈°∙·" ++
      "√ⁿ²■\u00A0"⟩,
   ⟨"cp863", ["863", "csibm863", "ibm863"], onAscii <|
      "ÇüéâÂà¶çêëèïî‗À§ÉÈÊôËÏûù¤ÔÜ¢£ÙÛƒ¦´óú¨¸³¯Î⌐¬½¼¾«»░▒▓│┤╡╢╖╕╣║╗╝╜╛┐└┴┬├─┼╞╟╚╔╩╦╠═╬╧╨╤╥╙╘╒╓" ++
      "╫╪┘┌█▄▌▐▀αßΓπΣσµτΦΘΩδ∞φε∩≡±≥≤⌠⌡÷≈°∙·√ⁿ²■\u00A0"⟩,
   ⟨"cp864", ["864", "csibm864", "ibm864"], String.toList <|
      "\x00\x01\x02\x03\x04\x05\x06\x07\x08\x09\x0a\x0b\x0c\x0d\x0e\x0f\x10\x11\x12\x13\x14" ++
      "\x15\x16\x17\x18\x19\x1a\x1b\x1c\x1d\x1e\x1f !\x22#$٪&\x27()*+,-./0123456789:;<=>?@ABCD" ++
      "EFGHIJKLMNOPQRSTUVWXYZ[\x5c]^_\x60abcdefghijklmnopqrstuvwxyz\x7b|\x7d~\x7f°·∙√▒─│┼┤┬├┴┐" ++
      "┌└┘β∞φ±½¼≈«»\uFEF7\uFEF8��\uFEFB\uFEFC�\u00A0\u00AD\uFE82£¤\uFE84��\uFE8E\uFE8F\uFE95" ++
      "\uFE99،\uFE9D\uFEA1\uFEA5\u0660\u0661\u0662\u0663\u0664\u0665\u0666\u0667\u0668\u0669" ++
      "\uFED1\u061B\uFEB1\uFEB5\uFEB9\u061F¢\uFE80\uFE81\uFE83\uFE85\uFECA\uFE8B\uFE8D\uFE91" ++
      "\uFE93\uFE97\uFE9B\uFE9F\uFEA3\uFEA7\uFEA9\uFEAB\uFEAD\uFEAF\uFEB3\uFEB7\uFEBB\uFEBF" ++
      "\uFEC1\uFEC5\uFECB\uFECF¦¬÷×\uFEC9\u0640\uFED3\uFED7\uFEDB\uFEDF\uFEE3\uFEE7\uFEEB" ++
      "\uFEED\uFEEF\uFEF3\uFEBD\uFECC\uFECE\uFECD\uFEE1\uFE7D\u0651\uFEE5\uFEE9\uFEEC\uFEF0" ++
      "\uFEF2\uFED0\uFED5\uFEF5\uFEF6\uFEDD\uFED9\uFEF1■�"⟩,
   ⟨"cp865", ["865", "csibm865", "ibm865"], onAscii <|
      "ÇüéâäàåçêëèïîìÄÅÉæÆôöòûùÿÖÜø£Ø₧ƒáíóúñÑªº¿⌐¬½¼¡«¤░▒▓│┤╡╢╖╕╣║╗╝╜╛┐└┴┬├─┼╞╟╚╔╩╦╠═╬╧╨╤╥╙╘╒╓" ++
      "╫╪┘┌█▄▌▐▀αßΓπΣσµτΦΘΩδ∞φε∩≡±≥≤⌠⌡÷≈°∙·√ⁿ²■\u00A0"⟩,
   ⟨"cp866", ["866", "csibm866", "ibm866"], onAscii <|
      "АБВГДЕЖЗИЙКЛМНОПРСТУФХЦЧШЩЪЫЬЭЮЯабвгдежзийклмноп░▒▓│┤╡╢╖╕╣║╗╝╜╛┐└┴┬├─┼╞╟╚╔╩╦╠═╬╧╨╤╥╙╘╒╓" ++
      "╫╪┘┌█▄▌▐▀рстуфхцчшщъыьэюяЁёЄєЇїЎў°∙·√№¤■\u00A0"⟩,
   ⟨"cp869", ["869", "cp_gr", "csibm869", "ibm869"], onAscii <|
      "������Ά�·¬¦‘’Έ―ΉΊΪΌ��ΎΫ©Ώ²³ά£έήίϊΐόύΑΒΓΔΕΖΗ½ΘΙ«»░▒▓│┤ΚΛΜΝ╣║╗╝ΞΟ┐└┴┬├─┼ΠΡ╚╔╩╦╠═╬ΣΤΥΦΧΨΩα" ++
      "βγ┘┌█▄δε▀ζηθικλμνξοπρσςτ΄\u00AD±υφχ§ψ΅°¨ωϋΰώ■\u00A0"⟩,
   ⟨"cp1125", ["1125", "ibm1125", "cp866u", "ruscii"], onAscii <|
      "АБВГДЕЖЗИЙКЛМНОПРСТУФХЦЧШЩЪЫЬЭЮЯабвгдежзийклмноп░▒▓│┤╡╢╖╕╣║╗╝╜╛┐└┴┬├─┼╞╟╚╔╩╦╠═╬╧╨╤╥╙╘╒╓" ++
      "╫╪┘┌█▄▌▐▀рстуфхцчшщъыьэюяЁёҐґЄєІіЇї·√№¤■\u00A0"⟩]

/-- Pages of the mac family. -/
def mac : List CodePage :=
  [⟨"mac_arabic", [], onAscii <|
      "Ä\u00A0ÇÉÑÖÜáàâä\u06BA«çéèêëí…îïñó»ôö÷úùûü !\x22#$٪&\x27()*+،-./\u0660\u0661\u0662" ++
      "\u0663\u0664\u0665\u0666\u0667\u0668\u0669:\u061B<=>\u061F❊\u0621\u0622\u0623\u0624" ++
      "\u0625\u0626\u0627\u0628\u0629\u062A\u062B\u062C\u062D\u062E\u062F\u0630\u0631\u0632" ++
      "\u0633\u0634\u0635\u0636\u0637\u0638\u0639\u063A[\x5c]^_\u0640\u0641\u0642\u0643\u0644" ++
      "\u0645\u0646\u0647\u0648\u0649\u064A\u064B\u064C\u064D\u064E\u064F\u0650\u0651\u0652" ++
      "\u067E\u0679\u0686\u06D5\u06A4\u06AF\u0688\u0691\x7b|\x7d\u0698\u06D2"⟩,
   ⟨"mac_croatian", [], onAscii <|
      "ÄÅÇÉÑÖÜáàâäãåçéèêëíìîïñóòôöõúùûü†°¢£§•¶ß®Š™´¨≠ŽØ∞±≤≥∆µ∂∑∏š∫ªºΩžø¿¡¬√ƒ≈Ć«Č…\u00A0ÀÃÕŒœĐ—" ++
      "“”‘’÷◊\uF8FF©⁄€‹›Æ»–·‚„‰ÂćÁčÈÍÎÏÌÓÔđÒÚÛÙıˆ˜¯πË˚¸Êæˇ"⟩,
   ⟨"mac_cyrillic", ["maccyrillic"], onAscii <|
      "АБВГДЕЖЗИЙКЛМНОПРСТУФХЦЧШЩЪЫЬЭЮЯ†°Ґ£§•¶І®©™Ђђ≠Ѓѓ∞±≤≥іµґЈЄєЇїЉљЊњјЅ¬√ƒ≈∆«»…\u00A0ЋћЌќѕ–—" ++
      "“”‘’÷„ЎўЏџ№Ёёяабвгдежзийклмнопрстуфхцчшщъыьэю€"⟩,
   ⟨"mac_farsi", [], onAscii <|
      "Ä\u00A0ÇÉÑÖÜáàâä\u06BA«çéèêëí…îïñó»ôö÷úùûü !\x22#$٪&\x27()*+،-./۰۱۲۳۴۵۶۷۸۹:\u061B<=>" ++
      "\u061F❊\u0621\u0622\u0623\u0624\u0625\u0626\u0627\u0628\u0629\u062A\u062B\u062C\u062D" ++
      "\u062E\u062F\u0630\u0631\u0632\u0633\u0634\u0635\u0636\u0637\u0638\u0639\u063A[\x5c]^_" ++
      "\u0640\u0641\u0642\u0643\u0644\u0645\u0646\u0647\u0648\u0649\u064A\u064B\u064C\u064D" ++
      "\u064E\u064F\u0650\u0651\u0652\u067E\u0679\u0686\u06D5\u06A4\u06AF\u0688\u0691\x7b|\x7d" ++
      "\u0698\u06D2"⟩,
   ⟨"mac_greek", ["macgreek"], onAscii <|
      "Ä¹²É³ÖÜ΅àâä΄¨çéèêë£™îï•½‰ôö¦€ùûü†ΓΔΘΛΞΠß®©ΣΪ§≠°·Α±≤≥¥ΒΕΖΗΙΚΜΦΫΨΩάΝ¬ΟΡ≈Τ«»…\u00A0ΥΧΆΈœ–―" ++
      "“”‘’÷ΉΊΌΎέήίόΏύαβψδεφγηιξκλμνοπώρστθωςχυζϊϋΐΰ\u00AD"⟩,
   ⟨"mac_iceland", ["maciceland"], onAscii <|
      "ÄÅÇÉÑÖÜáàâäãåçéèêëíìîïñóòôöõúùûüÝ°¢£§•¶ß®©™´¨≠ÆØ∞±≤≥¥µ∂∑∏π∫ªºΩæø¿¡¬√ƒ≈∆«»…\u00A0ÀÃÕŒœ–—" ++
      "“”‘’÷◊ÿŸ⁄€ÐðÞþý·‚„‰ÂÊÁËÈÍÎÏÌÓÔ\uF8FFÒÚÛÙıˆ˜¯˘˙˚¸˝˛ˇ"⟩,
   ⟨"mac_latin2", ["maccentraleurope", "mac_centeuro", "maclatin2"], onAscii <|
      "ÄĀāÉĄÖÜáąČäčĆćéŹźĎíďĒēĖóėôöõúĚěü†°Ę£§•¶ß®©™ę¨≠ģĮįĪ≤≥īĶ∂∑łĻļĽľĹĺŅņŃ¬√ńŇ∆«»…\u00A0ňŐÕőŌ–—" ++
      "“”‘’÷◊ōŔŕŘ‹›řŖŗŠ‚„šŚśÁŤťÍŽžŪÓÔūŮÚůŰűŲųÝýķŻŁżĢˇ"⟩,
   ⟨"mac_roman", ["macintosh", "macroman"], onAscii <|
      "ÄÅÇÉÑÖÜáàâäãåçéèêëíìîïñóòôöõúùûü†°¢£§•¶ß®©™´¨≠ÆØ∞±≤≥¥µ∂∑∏π∫ªºΩæø¿¡¬√ƒ≈∆«»…\u00A0ÀÃÕŒœ–—" ++
      "“”‘’÷◊ÿŸ⁄€‹›ﬁﬂ‡·‚„‰ÂÊÁËÈÍÎÏÌÓÔ\uF8FFÒÚÛÙıˆ˜¯˘˙˚¸˝˛ˇ"⟩,
   ⟨"mac_romanian", [], onAscii <|
      "ÄÅÇÉÑÖÜáàâäãåçéèêëíìîïñóòôöõúùûü†°¢£§•¶ß®©™´¨≠ĂȘ∞±≤≥¥µ∂∑∏π∫ªºΩăș¿¡¬√ƒ≈∆«»…\u00A0ÀÃÕŒœ–—" ++
      "“”‘’÷◊ÿŸ⁄€‹›Țț‡·‚„‰ÂÊÁËÈÍÎÏÌÓÔ\uF8FFÒÚÛÙıˆ˜¯˘˙˚¸˝˛ˇ"⟩,
   ⟨"mac_turkish", ["macturkish"], onAscii <|
      "ÄÅÇÉÑÖÜáàâäãåçéèêëíìîïñóòôöõúùûü†°¢£§•¶ß®©™´¨≠ÆØ∞±≤≥¥µ∂∑∏π∫ªºΩæø¿¡¬√ƒ≈∆«»…\u00A0ÀÃÕŒœ–—" ++
      "“”‘’÷◊ÿŸĞğİıŞş‡·‚„‰ÂÊÁËÈÍÎÏÌÓÔ\uF8FFÒÚÛÙ\uF8A0ˆ˜¯˘˙˚¸˝˛ˇ"⟩]

/-- Pages of the EBCDIC family, where even Latin letters have places of their own. -/
def ebcdic : List CodePage :=
  [⟨"cp037", ["037", "csibm037", "ebcdic_cp_ca", "ebcdic_cp_nl", "ebcdic_cp_us", "ebcdic_cp_wt",
      "ibm037", "ibm039"], String.toList <|
      "\x00\x01\x02\x03\u009C\x09\u0086\x7f\u0097\u008D\u008E\x0b\x0c\x0d\x0e\x0f\x10\x11\x12" ++
      "\x13\u009D\u0085\x08\u0087\x18\x19\u0092\u008F\x1c\x1d\x1e\x1f\u0080\u0081\u0082\u0083" ++
      "\u0084\x0a\x17\x1b\u0088\u0089\u008A\u008B\u008C\x05\x06\x07\u0090\u0091\x16\u0093" ++
      "\u0094\u0095\u0096\x04\u0098\u0099\u009A\u009B\x14\x15\u009E\x1a \u00A0âäàáãåçñ¢.<(+|&é" ++
      "êëèíîïìß!$*);¬-/ÂÄÀÁÃÅÇÑ¦,%_>?øÉÊËÈÍÎÏÌ\x60:#@\x27=\x22Øabcdefghi«»ðýþ±°jklmnopqrªºæ¸Æ¤" ++
      "µ~stuvwxyz¡¿ÐÝÞ®^£¥·©§¶¼½¾[]¯¨´×\x7bABCDEFGHI\u00ADôöòóõ\x7dJKLMNOPQR¹ûüùúÿ\x5c÷STUVWXY" ++
      "Z²ÔÖÒÓÕ0123456789³ÛÜÙÚ\u009F"⟩,
   ⟨"cp273", ["273", "ibm273", "csibm273"], String.toList <|
      "\x00\x01\x02\x03\u009C\x09\u0086\x7f\u0097\u008D\u008E\x0b\x0c\x0d\x0e\x0f\x10\x11\x12" ++
      "\x13\u009D\u0085\x08\u0087\x18\x19\u0092\u008F\x1c\x1d\x1e\x1f\u0080\u0081\u0082\u0083" ++
      "\u0084\x0a\x17\x1b\u0088\u0089\u008A\u008B\u008C\x05\x06\x07\u0090\u0091\x16\u0093" ++
      "\u0094\u0095\u0096\x04\u0098\u0099\u009A\u009B\x14\x15\u009E\x1a \u00A0â\x7bàáãåçñÄ.<(+" ++
      "!&éêëèíîïì~Ü$*);^-/Â[ÀÁÃÅÇÑö,%_>?øÉÊËÈÍÎÏÌ\x60:#§\x27=\x22Øabcdefghi«»ðýþ±°jklmnopqrªºæ" ++
      "¸Æ¤µßstuvwxyz¡¿ÐÝÞ®¢£¥·©@¶¼½¾¬|‾¨´×äABCDEFGHI\u00ADô¦òóõüJKLMNOPQR¹û\x7dùúÿÖ÷STUVWXYZ²Ô" ++
      "\x5cÒÓÕ0123456789³Û]ÙÚ\u009F"⟩,
   ⟨"cp424", ["424", "csibm424", "ebcdic_cp_he", "ibm424"], String.toList <|
      "\x00\x01\x02\x03\u009C\x09\u0086\x7f\u0097\u008D\u008E\x0b\x0c\x0d\x0e\x0f\x10\x11\x12" ++
      "\x13\u009D\u0085\x08\u0087\x18\x19\u0092\u008F\x1c\x1d\x1e\x1f\u0080\u0081\u0082\u0083" ++
      "\u0084\x0a\x17\x1b\u0088\u0089\u008A\u008B\u008C\x05\x06\x07\u0090\u0091\x16\u0093" ++
      "\u0094\u0095\u0096\x04\u0098\u0099\u009A\u009B\x14\x15\u009E\x1a \u05D0\u05D1\u05D2" ++
      "\u05D3\u05D4\u05D5\u05D6\u05D7\u05D8¢.<(+|&\u05D9\u05DA\u05DB\u05DC\u05DD\u05DE\u05DF" ++
      "\u05E0\u05E1!$*);¬-/\u05E2\u05E3\u05E4\u05E5\u05E6\u05E7\u05E8\u05E9¦,%_>?�\u05EA��" ++
      "\u00A0���‗\x60:#@\x27=\x22�abcdefghi«»���±°jklmnopqr���¸�¤µ~stuvwxyz�����®^£¥·©§¶¼½¾[]¯" ++
      "¨´×\x7bABCDEFGHI\u00AD�����\x7dJKLMNOPQR¹�����\x5c÷STUVWXYZ²�����0123456789³����\u009F"⟩,
   ⟨"cp500", ["500", "csibm500", "ebcdic_cp_be", "ebcdic_cp_ch", "ibm500"], String.toList <|
      "\x00\x01\x02\x03\u009C\x09\u0086\x7f\u0097\u008D\u008E\x0b\x0c\x0d\x0e\x0f\x10\x11\x12" ++
      "\x13\u009D\u0085\x08\u0087\x18\x19\u0092\u008F\x1c\x1d\x1e\x1f\u0080\u0081\u0082\u0083" ++
      "\u0084\x0a\x17\x1b\u0088\u0089\u008A\u008B\u008C\x05\x06\x07\u0090\u0091\x16\u0093" ++
      "\u0094\u0095\u0096\x04\u0098\u0099\u009A\u009B\x14\x15\u009E\x1a \u00A0âäàáãåçñ[.<(+!&é" ++
      "êëèíîïìß]$*);^-/ÂÄÀÁÃÅÇÑ¦,%_>?øÉÊËÈÍÎÏÌ\x60:#@\x27=\x22Øabcdefghi«»ðýþ±°jklmnopqrªºæ¸Æ¤" ++
      "µ~stuvwxyz¡¿ÐÝÞ®¢£¥·©§¶¼½¾¬|¯¨´×\x7bABCDEFGHI\u00ADôöòóõ\x7dJKLMNOPQR¹ûüùúÿ\x5c÷STUVWXY" ++
      "Z²ÔÖÒÓÕ0123456789³ÛÜÙÚ\u009F"⟩,
   ⟨"cp875", [], String.toList <|
      "\x00\x01\x02\x03\u009C\x09\u0086\x7f\u0097\u008D\u008E\x0b\x0c\x0d\x0e\x0f\x10\x11\x12" ++
      "\x13\u009D\u0085\x08\u0087\x18\x19\u0092\u008F\x1c\x1d\x1e\x1f\u0080\u0081\u0082\u0083" ++
      "\u0084\x0a\x17\x1b\u0088\u0089\u008A\u008B\u008C\x05\x06\x07\u0090\u0091\x16\u0093" ++
      "\u0094\u0095\u0096\x04\u0098\u0099\u009A\u009B\x14\x15\u009E\x1a ΑΒΓΔΕΖΗΘΙ[.<(+!&ΚΛΜΝΞΟ" ++
      "ΠΡΣ]$*);^-/ΤΥΦΧΨΩΪΫ|,%_>?¨ΆΈΉ\u00A0ΊΌΎΏ\x60:#@\x27=\x22΅abcdefghiαβγδεζ°jklmnopqrηθικλμ" ++
      "´~stuvwxyzνξοπρσ£άέήϊίόύϋώςτυφχψ\x7bABCDEFGHI\u00ADωΐΰ‘―\x7dJKLMNOPQR±½\x1a·’¦\x5c\x1aS" ++
      "TUVWXYZ²§\x1a\x1a«¬0123456789³©\x1a\x1a»\u009F"⟩,
   ⟨"cp1026", ["1026", "csibm1026", "ibm1026"], String.toList <|
      "\x00\x01\x02\x03\u009C\x09\u0086\x7f\u0097\u008D\u008E\x0b\x0c\x0d\x0e\x0f\x10\x11\x12" ++
      "\x13\u009D\u0085\x08\u0087\x18\x19\u0092\u008F\x1c\x1d\x1e\x1f\u0080\u0081\u0082\u0083" ++
      "\u0084\x0a\x17\x1b\u0088\u0089\u008A\u008B\u008C\x05\x06\x07\u0090\u0091\x16\u0093" ++
      "\u0094\u0095\u0096\x04\u0098\u0099\u009A\u009B\x14\x15\u009E\x1a \u00A0âäàáãå\x7bñÇ.<(+" ++
      "!&éêëèíîïìßĞİ*);^-/ÂÄÀÁÃÅ[Ñş,%_>?øÉÊËÈÍÎÏÌı:ÖŞ\x27=ÜØabcdefghi«»\x7d\x60¦±°jklmnopqrªºæ" ++
      "¸Æ¤µöstuvwxyz¡¿]$@®¢£¥·©§¶¼½¾¬|¯¨´×çABCDEFGHI\u00ADô~òóõğJKLMNOPQR¹û\x5cùúÿü÷STUVWXYZ²Ô" ++
      "#ÒÓÕ0123456789³Û\x22ÙÚ\u009F"⟩,
   ⟨"cp1140", ["1140", "ibm1140"], String.toList <|
      "\x00\x01\x02\x03\u009C\x09\u0086\x7f\u0097\u008D\u008E\x0b\x0c\x0d\x0e\x0f\x10\x11\x12" ++
      "\x13\u009D\u0085\x08\u0087\x18\x19\u0092\u008F\x1c\x1d\x1e\x1f\u0080\u0081\u0082\u0083" ++
      "\u0084\x0a\x17\x1b\u0088\u0089\u008A\u008B\u008C\x05\x06\x07\u0090\u0091\x16\u0093" ++
      "\u0094\u0095\u0096\x04\u0098\u0099\u009A\u009B\x14\x15\u009E\x1a \u00A0âäàáãåçñ¢.<(+|&é" ++
      "êëèíîïìß!$*);¬-/ÂÄÀÁÃÅÇÑ¦,%_>?øÉÊËÈÍÎÏÌ\x60:#@\x27=\x22Øabcdefghi«»ðýþ±°jklmnopqrªºæ¸Æ€" ++
      "µ~stuvwxyz¡¿ÐÝÞ®^£¥·©§¶¼½¾[]¯¨´×\x7bABCDEFGHI\u00ADôöòóõ\x7dJKLMNOPQR¹ûüùúÿ\x5c÷STUVWXY" ++
      "Z²ÔÖÒÓÕ0123456789³ÛÜÙÚ\u009F"⟩]

/-- Pages of single languages and devices. -/
def others : List CodePage :=
  [⟨"cp1006", [], onControls <|
      "\u00A0۰۱۲۳۴۵۶۷۸۹،\u061B\u00AD\u061F\uFE81\uFE8D\uFE8E\uFE8E\uFE8F\uFE91\uFB56\uFB58" ++
      "\uFE93\uFE95\uFE97\uFB66\uFB68\uFE99\uFE9B\uFE9D\uFE9F\uFB7A\uFB7C\uFEA1\uFEA3\uFEA5" ++
      "\uFEA7\uFEA9\uFB84\uFEAB\uFEAD\uFB8C\uFEAF\uFB8A\uFEB1\uFEB3\uFEB5\uFEB7\uFEB9\uFEBB" ++
      "\uFEBD\uFEBF\uFEC1\uFEC5\uFEC9\uFECA\uFECB\uFECC\uFECD\uFECE\uFECF\uFED0\uFED1\uFED3" ++
      "\uFED5\uFED7\uFED9\uFEDB\uFB92\uFB94\uFEDD\uFEDF\uFEE0\uFEE1\uFEE3\uFB9E\uFEE5\uFEE7" ++
      "\uFE85\uFEED\uFBA6\uFBA8\uFBA9\uFBAA\uFE80\uFE89\uFE8A\uFE8B\uFEF1\uFEF2\uFEF3\uFBB0" ++
      "\uFBAE\uFE7C\uFE7D"⟩,
   ⟨"hp_roman8", ["roman8", "r8", "cp1051", "ibm1051"], onControls <|
      "\u00A0ÀÂÈÊËÎÏ´ˋˆ¨˜ÙÛ₤¯Ýý°ÇçÑñ¡¿¤£¥§ƒ¢âêôûáéóúàèòùäëöüÅîØÆåíøæÄìÖÜÉïßÔÁÃãÐðÍÌÓÒÕõŠšÚŸÿÞþ" ++
      "·µ¶¾—¼½ªº«■»±�"⟩,
   ⟨"koi8_r", ["cskoi8r"], onAscii <|
      "─│┌┐└┘├┤┬┴┼▀▄█▌▐░▒▓⌠■∙√≈≤≥\u00A0⌡°²·÷═║╒ё╓╔╕╖╗╘╙╚╛╜╝╞╟╠╡Ё╢╣╤╥╦╧╨╩╪╫╬©юабцдефгхийклмнопя" ++
      "рстужвьызшэщчъЮАБЦДЕФГХИЙКЛМНОПЯРСТУЖВЬЫЗШЭЩЧЪ"⟩,
   ⟨"koi8_t", [], onAscii <|
      "қғ‚Ғ„…†‡�‰ҳ‹ҲҷҶ�Қ‘’“”•–—�™�›�����ӯӮё¤ӣ¦§���«¬\u00AD®�°±²Ё�Ӣ¶·�№�»���©юабцдефгхийклмнопя" ++
      "рстужвьызшэщчъЮАБЦДЕФГХИЙКЛМНОПЯРСТУЖВЬЫЗШЭЩЧЪ"⟩,
   ⟨"koi8_u", [], onAscii <|
      "─│┌┐└┘├┤┬┴┼▀▄█▌▐░▒▓⌠■∙√≈≤≥\u00A0⌡°²·÷═║╒ёє╔ії╗╘╙╚╛ґ╝╞╟╠╡ЁЄ╣ІЇ╦╧╨╩╪Ґ╬©юабцдефгхийклмнопя" ++
      "рстужвьызшэщчъЮАБЦДЕФГХИЙКЛМНОПЯРСТУЖВЬЫЗШЭЩЧЪ"⟩,
   ⟨"kz1048", ["kz_1048", "rk1048", "strk1048_2002"], onAscii <|
      "ЂЃ‚ѓ„…†‡€‰Љ‹ЊҚҺЏђ‘’“”•–—�™љ›њқһџ\u00A0ҰұӘ¤Ө¦§Ё©Ғ«¬\u00AD®Ү°±Ііөµ¶·ё№ғ»әҢңүАБВГДЕЖЗИЙКЛМ" ++
      "НОПРСТУФХЦЧШЩЪЫЬЭЮЯабвгдежзийклмнопрстуфхцчшщъыьэюя"⟩,
   ⟨"palmos", [], onAscii <|
      "€\u0081‚ƒ„…†‡ˆ‰Š‹Œ♦♣♥♠‘’“”•–—˜™š\u009Bœ\u009D\u009EŸ\u00A0¡¢£¤¥¦§¨©ª«¬\u00AD®¯°±²³´µ¶·¸" ++
      "¹º»¼½¾¿ÀÁÂÃÄÅÆÇÈÉÊËÌÍÎÏÐÑÒÓÔÕÖ×ØÙÚÛÜÝÞßàáâãäåæçèéêëìíîïðñòóôõö÷øùúûüýþÿ"⟩,
   ⟨"ptcp154", ["csptcp154", "pt154", "cp154", "cyrillic_asian"], onAscii <|
      "ҖҒӮғ„…ҶҮҲүҠӢҢҚҺҸҗ‘’“”•–—ҳҷҡӣңқһҹ\u00A0ЎўЈӨҘҰ§Ё©Ә«¬ӯ®Ҝ°ұІіҙө¶·ё№ә»јҪҫҝАБВГДЕЖЗИЙКЛМНОПРС" ++
      "ТУФХЦЧШЩЪЫЬЭЮЯабвгдежзийклмнопрстуфхцчшщъыьэюя"⟩]

def all : List CodePage :=
  ansi ++ iso ++ console ++ mac ++ ebcdic ++ others

end MigrationScript.CodePage
