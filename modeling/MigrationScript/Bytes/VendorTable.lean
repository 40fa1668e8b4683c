import MigrationScript.Bytes.Charset

/-!
What single makers and later standards add to or change in a character set.
-/
namespace MigrationScript.Charset

/-- Code page 932, by the rows of JIS X 0208 and further ones. -/
def cp932 : Charset :=
  [⟨0x21, 0x41, "～∥"⟩,
   ⟨0x21, 0x5D, "－"⟩,
   ⟨0x21, 0x71, "￠￡"⟩,
   ⟨0x22, 0x4C, "￢"⟩,
   ⟨0x2D, 0x21,
     "①②③④⑤⑥⑦⑧⑨⑩⑪⑫⑬⑭⑮⑯⑰⑱⑲⑳ⅠⅡⅢⅣⅤⅥⅦⅧⅨⅩ�㍉㌔㌢㍍㌘㌧㌃㌶㍑㍗㌍㌦㌣㌫㍊㌻" ++
     "㎜㎝㎞㎎㎏㏄㎡��������㍻〝〟№㏍℡㊤㊥㊦㊧㊨㈱㈲㈹㍾㍽㍼≒≡∫∮∑√⊥∠∟⊿∵∩∪"⟩,
   ⟨0x79, 0x21,
     "纊褜鍈銈蓜俉炻昱棈鋹曻彅丨仡仼伀伃伹佖侒侊侚侔俍偀倢俿倞偆偰偂傔僴僘兊兤冝冾凬刕劜劦勀勛匀匇匤" ++
     "卲厓厲叝\uFA0E咜咊咩哿喆坙坥垬埈埇\uFA0F\uFA10增墲夋奓奛奝奣妤妺孖寀甯寘寬尞岦岺峵崧嵓\uFA11嵂嵭嶸嶹巐弡弴彧德"⟩,
   ⟨0x7A, 0x21,
     "忞恝悅悊惞惕愠惲愑愷愰憘戓抦揵摠撝擎敎昀昕昻昉昮昞昤晥晗晙\uFA12晳暙暠暲暿曺朎\uF929杦枻桒柀栁桄棏\uFA13楨" ++
     "\uFA14榘槢樰橫橆橳橾櫢櫤毖氿汜沆汯泚洄涇浯涖涬淏淸淲淼渹湜渧渼溿澈澵濵瀅瀇瀨炅炫焏焄煜煆煇\uFA15燁燾犱"⟩,
   ⟨0x7B, 0x21,
     "犾猤\uFA16獷玽珉珖珣珒琇珵琦琪琩琮瑢璉璟甁畯皂皜皞皛皦\uFA17睆劯砡硎硤硺礰\uFA18\uFA19\uFA1A禔\uFA1B禛竑竧\uFA1C竫箞\uFA1D絈絜" ++
     "綷綠緖繒罇羡\uFA1E茁荢荿菇菶葈蒴蕓蕙蕫\uFA1F薰\uFA20\uFA21蠇裵訒訷詹誧誾諟\uFA22諶譓譿賰賴贒赶\uFA23軏\uFA24\uFA25遧郞\uFA26" ++
     "鄕鄧釚"⟩,
   ⟨0x7C, 0x21,
     "釗釞釭釮釤釥鈆鈐鈊鈺鉀鈼鉎鉙鉑鈹鉧銧鉷鉸鋧鋗鋙鋐\uFA27鋕鋠鋓錥錡鋻\uFA28錞鋿錝錂鍰鍗鎤鏆鏞鏸鐱鑅鑈閒\uF9DC" ++
     "\uFA29隝隯霳霻靃靍靏靑靕顗顥\uFA2A\uFA2B餧\uFA2C馞驎髙髜魵魲鮏鮱鮻鰀鵰鵫\uFA2D鸙黑��ⅰⅱⅲⅳⅴⅵⅶⅷⅸⅹ￢￤＇＂"⟩,
   ⟨0x93, 0x21,
     "ⅰⅱⅲⅳⅴⅵⅶⅷⅸⅹⅠⅡⅢⅣⅤⅥⅦⅧⅨⅩ￢￤＇＂㈱№℡∵纊褜鍈銈蓜俉炻昱棈鋹曻彅丨仡仼伀伃伹佖" ++
     "侒侊侚侔俍偀倢俿倞偆偰偂傔僴僘兊兤冝冾凬刕劜劦勀勛匀匇匤卲厓厲叝\uFA0E咜咊咩哿喆坙坥垬埈埇\uFA0F\uFA10增墲"⟩,
   ⟨0x94, 0x21,
     "夋奓奛奝奣妤妺孖寀甯寘寬尞岦岺峵崧嵓\uFA11嵂嵭嶸嶹巐弡弴彧德忞恝悅悊惞惕愠惲愑愷愰憘戓抦揵摠撝擎敎" ++
     "昀昕昻昉昮昞昤晥晗晙\uFA12晳暙暠暲暿曺朎\uF929杦枻桒柀栁桄棏\uFA13楨\uFA14榘槢樰橫橆橳橾櫢櫤毖氿汜沆汯泚洄涇浯"⟩,
   ⟨0x95, 0x21,
     "涖涬淏淸淲淼渹湜渧渼溿澈澵濵瀅瀇瀨炅炫焏焄煜煆煇\uFA15燁燾犱犾猤\uFA16獷玽珉珖珣珒琇珵琦琪琩琮瑢璉璟甁" ++
     "畯皂皜皞皛皦\uFA17睆劯砡硎硤硺礰\uFA18\uFA19\uFA1A禔\uFA1B禛竑竧\uFA1C竫箞\uFA1D絈絜綷綠緖繒罇羡\uFA1E茁荢荿菇菶葈蒴蕓蕙蕫" ++
     "\uFA1F薰"⟩,
   ⟨0x96, 0x21,
     "\uFA20\uFA21蠇裵訒訷詹誧誾諟\uFA22諶譓譿賰賴贒赶\uFA23軏\uFA24\uFA25遧郞\uFA26鄕鄧釚釗釞釭釮釤釥鈆鈐鈊鈺鉀鈼鉎鉙鉑鈹鉧銧鉷" ++
     "鉸鋧鋗鋙鋐\uFA27鋕鋠鋓錥錡鋻\uFA28錞鋿錝錂鍰鍗鎤鏆鏞鏸鐱鑅鑈閒\uF9DC\uFA29隝隯霳霻靃靍靏靑靕顗顥\uFA2A\uFA2B餧\uFA2C馞驎髙"⟩,
   ⟨0x97, 0x21, "髜魵魲鮏鮱鮻鰀鵰鵫\uFA2D鸙黑"⟩]

/-- Code page 950, by lead and trail byte. -/
def cp950 : Charset :=
  [⟨0xA1, 0x45, "‧"⟩,
   ⟨0xA1, 0x4E, "﹑"⟩,
   ⟨0xA1, 0xC2, "¯"⟩,
   ⟨0xA1, 0xE3, "～"⟩,
   ⟨0xA1, 0xF2, "⊕⊙"⟩,
   ⟨0xA2, 0x41, "∕﹨"⟩,
   ⟨0xA2, 0x44, "￥"⟩,
   ⟨0xA2, 0x46, "￠￡"⟩,
   ⟨0xA3, 0xE1, "€"⟩,
   ⟨0xF9, 0xD6, "碁銹裏墻恒粧嫺╔╦╗╠╬╣╚╩╝╒╤╕╞╪╡╘╧╛╓╥╖╟╫╢╙╨╜║═╭╮╰╯▓"⟩]

/-- Symbols of GBK, by lead and trail byte. -/
def gbkSymbols : Charset :=
  [⟨0xA1, 0xA4, "·"⟩,
   ⟨0xA1, 0xAA, "—"⟩,
   ⟨0xA2, 0xA1, "ⅰⅱⅲⅳⅴⅵⅶⅷⅸⅹ"⟩,
   ⟨0xA6, 0xE0, "︵︶︹︺︿﹀︽︾﹁﹂﹃﹄��︻︼︷︸︱�︳︴"⟩,
   ⟨0xA8, 0x40,
     "ˊˋ˙–―‥‵℅℉↖↗↘↙∕∟∣≒≦≧⊿═║╒╓╔╕╖╗╘╙╚╛╜╝╞╟╠╡╢╣╤╥╦╧╨╩╪" ++
     "╫╬╭╮╯╰╱╲╳▁▂▃▄▅▆▇�█▉▊▋▌▍▎▏▓▔▕▼▽◢◣◤◥☉⊕〒〝〞"⟩,
   ⟨0xA8, 0xBB, "ɑ�ńň�ɡ"⟩,
   ⟨0xA9, 0x40,
     "〡〢〣〤〥〦〧〨〩㊣㎎㎏㎜㎝㎞㎡㏄㏎㏑㏒㏕︰￢￤�℡㈱�‐���ー゛゜ヽヾ〆ゝゞ﹉﹊﹋﹌﹍﹎﹏" ++
     "﹐﹑﹒﹔﹕﹖﹗﹙﹚﹛﹜﹝﹞﹟﹠﹡�﹢﹣﹤﹥﹦﹨﹩﹪﹫"⟩,
   ⟨0xA9, 0x96, "〇"⟩]

/-- What follows the ideographs in GBK. -/
def gbkLast : String :=
  "\uF92C\uF979\uF995\uF9E7\uF9F1\uFA0C\uFA0D\uFA0E\uFA0F\uFA11\uFA13\uFA14\uFA18\uFA1F\uFA20" ++
  "\uFA21\uFA23\uFA24\uFA27\uFA28\uFA29"

/-- GB 18030, by lead and trail byte. -/
def gb18030 : Charset :=
  [⟨0xA2, 0xAB, "\uE766\uE767\uE768\uE769\uE76A\uE76B"⟩,
   ⟨0xA2, 0xE3, "€\uE76D"⟩,
   ⟨0xA2, 0xEF, "\uE76E\uE76F"⟩,
   ⟨0xA2, 0xFD, "\uE770\uE771"⟩,
   ⟨0xA4, 0xF4, "\uE772\uE773\uE774\uE775\uE776\uE777\uE778\uE779\uE77A\uE77B\uE77C"⟩,
   ⟨0xA5, 0xF7, "\uE77D\uE77E\uE77F\uE780\uE781\uE782\uE783\uE784"⟩,
   ⟨0xA6, 0xB9, "\uE785\uE786\uE787\uE788\uE789\uE78A\uE78B\uE78C"⟩,
   ⟨0xA6, 0xD9, "\uE78D\uE78E\uE78F\uE790\uE791\uE792\uE793"⟩,
   ⟨0xA6, 0xEC, "\uE794\uE795"⟩,
   ⟨0xA6, 0xF3, "\uE796��\uE797\uE798\uE799\uE79A\uE79B\uE79C\uE79D\uE79E\uE79F"⟩,
   ⟨0xA7, 0xC2,
     "\uE7A0\uE7A1\uE7A2\uE7A3\uE7A4\uE7A5\uE7A6\uE7A7\uE7A8\uE7A9\uE7AA\uE7AB\uE7AC\uE7AD" ++
     "\uE7AE"⟩,
   ⟨0xA7, 0xF2, "\uE7AF\uE7B0\uE7B1\uE7B2\uE7B3\uE7B4\uE7B5\uE7B6\uE7B7\uE7B8\uE7B9\uE7BA\uE7BB"⟩,
   ⟨0xA8, 0x96, "\uE7BC\uE7BD\uE7BE\uE7BF\uE7C0\uE7C1\uE7C2\uE7C3\uE7C4\uE7C5\uE7C6"⟩,
   ⟨0xA8, 0xBC, "\uE7C7��ǹ�\uE7C9\uE7CA\uE7CB\uE7CC"⟩,
   ⟨0xA8, 0xEA,
     "\uE7CD\uE7CE\uE7CF\uE7D0\uE7D1\uE7D2\uE7D3\uE7D4\uE7D5\uE7D6\uE7D7\uE7D8\uE7D9\uE7DA" ++
     "\uE7DB\uE7DC\uE7DD\uE7DE\uE7DF\uE7E0\uE7E1"⟩,
   ⟨0xA9, 0x58, "\uE7E2��\uE7E3�\uE7E4\uE7E5\uE7E6"⟩,
   ⟨0xA9, 0x89,
     "〾⿰⿱⿲⿳⿴⿵⿶⿷⿸⿹⿺⿻�\uE7F4\uE7F5\uE7F6\uE7F7\uE7F8\uE7F9\uE7FA\uE7FB\uE7FC\uE7FD\uE7FE\uE7FF" ++
     "\uE800"⟩,
   ⟨0xA9, 0xF0,
     "\uE801\uE802\uE803\uE804\uE805\uE806\uE807\uE808\uE809\uE80A\uE80B\uE80C\uE80D\uE80E" ++
     "\uE80F"⟩,
   ⟨0xD7, 0xFA, "\uE810\uE811\uE812\uE813\uE814"⟩,
   ⟨0xFE, 0x50,
     "⺁\uE816\uE817\uE818⺄㑳㑇⺈⺋\uE81E㖞㘚㘎⺌⺗㥮㤘\uE826㧏㧟㩳㧐\uE82B\uE82C㭎㱮㳠⺧\uE831\uE832⺪䁖䅟⺮䌷⺳⺶⺷\uE83B" ++
     "䎱䎬⺻䏝䓖䙡䙌\uE843�䜣䜩䝼䞍⻊䥇䥺䥽䦂䦃䦅䦆䦟䦛䦷䦶\uE854\uE855䲣䲟䲠䲡䱷䲢䴓䴔䴕䴖䴗䴘䴙䶮\uE864"⟩]

/-- Where runs of consecutive characters start among the four-byte codes, and with which one. -/
def gb18030Starts : List (Nat × Nat) :=
  [(0, 0x0080), (36, 0x00A5), (38, 0x00A9), (45, 0x00B2), (50, 0x00B8), (81, 0x00D8), (89, 0x00E2),
   (95, 0x00EB), (96, 0x00EE), (100, 0x00F4), (103, 0x00F8), (104, 0x00FB), (105, 0x00FD),
   (109, 0x0102), (126, 0x0114), (133, 0x011C), (148, 0x012C), (172, 0x0145), (175, 0x0149),
   (179, 0x014E), (208, 0x016C), (306, 0x01CF), (307, 0x01D1), (308, 0x01D3), (309, 0x01D5),
   (310, 0x01D7), (311, 0x01D9), (312, 0x01DB), (313, 0x01DD), (341, 0x01FA), (428, 0x0252),
   (443, 0x0262), (544, 0x02C8), (545, 0x02CC), (558, 0x02DA), (741, 0x03A2), (742, 0x03AA),
   (749, 0x03C2), (750, 0x03CA), (805, 0x0402), (819, 0x0450), (820, 0x0452), (7922, 0x2011),
   (7924, 0x2017), (7925, 0x201A), (7927, 0x201E), (7934, 0x2027), (7943, 0x2031), (7944, 0x2034),
   (7945, 0x2036), (7950, 0x203C), (8062, 0x20AD), (8148, 0x2104), (8149, 0x2106), (8152, 0x210A),
   (8164, 0x2117), (8174, 0x2122), (8236, 0x216C), (8240, 0x217A), (8262, 0x2194), (8264, 0x219A),
   (8374, 0x2209), (8380, 0x2210), (8381, 0x2212), (8384, 0x2216), (8388, 0x221B), (8390, 0x2221),
   (8392, 0x2224), (8393, 0x2226), (8394, 0x222C), (8396, 0x222F), (8401, 0x2238), (8406, 0x223E),
   (8416, 0x2249), (8419, 0x224D), (8424, 0x2253), (8437, 0x2262), (8439, 0x2268), (8445, 0x2270),
   (8482, 0x2296), (8485, 0x229A), (8496, 0x22A6), (8521, 0x22C0), (8603, 0x2313), (8936, 0x246A),
   (8946, 0x249C), (9046, 0x254C), (9050, 0x2574), (9063, 0x2590), (9066, 0x2596), (9076, 0x25A2),
   (9092, 0x25B4), (9100, 0x25BE), (9108, 0x25C8), (9111, 0x25CC), (9113, 0x25D0), (9131, 0x25E6),
   (9162, 0x2607), (9164, 0x260A), (9218, 0x2641), (9219, 0x2643), (11329, 0x2E82), (11331, 0x2E85),
   (11334, 0x2E89), (11336, 0x2E8D), (11346, 0x2E98), (11361, 0x2EA8), (11363, 0x2EAB),
   (11366, 0x2EAF), (11370, 0x2EB4), (11372, 0x2EB8), (11375, 0x2EBC), (11389, 0x2ECB),
   (11682, 0x2FFC), (11686, 0x3004), (11687, 0x3018), (11692, 0x301F), (11694, 0x302A),
   (11714, 0x303F), (11716, 0x3094), (11723, 0x309F), (11725, 0x30F7), (11730, 0x30FF),
   (11736, 0x312A), (11982, 0x322A), (11989, 0x3232), (12102, 0x32A4), (12336, 0x3390),
   (12348, 0x339F), (12350, 0x33A2), (12384, 0x33C5), (12393, 0x33CF), (12395, 0x33D3),
   (12397, 0x33D6), (12510, 0x3448), (12553, 0x3474), (12851, 0x359F), (12962, 0x360F),
   (12973, 0x361B), (13738, 0x3919), (13823, 0x396F), (13919, 0x39D1), (13933, 0x39E0),
   (14080, 0x3A74), (14298, 0x3B4F), (14585, 0x3C6F), (14698, 0x3CE1), (15583, 0x4057),
   (15847, 0x4160), (16318, 0x4338), (16434, 0x43AD), (16438, 0x43B2), (16481, 0x43DE),
   (16729, 0x44D7), (17102, 0x464D), (17122, 0x4662), (17315, 0x4724), (17320, 0x472A),
   (17402, 0x477D), (17418, 0x478E), (17859, 0x4948), (17909, 0x497B), (17911, 0x497E),
   (17915, 0x4984), (17916, 0x4987), (17936, 0x499C), (17939, 0x49A0), (17961, 0x49B8),
   (18664, 0x4C78), (18703, 0x4CA4), (18814, 0x4D1A), (18962, 0x4DAF), (19043, 0x9FA6),
   (33469, 0xE76C), (33470, 0xE7C8), (33471, 0xE7E7), (33484, 0xE815), (33485, 0xE819),
   (33490, 0xE81F), (33497, 0xE827), (33501, 0xE82D), (33505, 0xE833), (33513, 0xE83C),
   (33520, 0xE844), (33536, 0xE856), (33550, 0xE865), (37845, 0xF92D), (37921, 0xF97A),
   (37948, 0xF996), (38029, 0xF9E8), (38038, 0xF9F2), (38064, 0xFA10), (38065, 0xFA12),
   (38066, 0xFA15), (38069, 0xFA19), (38075, 0xFA22), (38076, 0xFA25), (38078, 0xFA2A),
   (39108, 0xFE32), (39109, 0xFE45), (39113, 0xFE53), (39114, 0xFE58), (39115, 0xFE67),
   (39116, 0xFE6C), (39265, 0xFF5F), (39394, 0xFFE6)]

end MigrationScript.Charset
