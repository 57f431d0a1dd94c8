/-! # Compatibility decompositions: kana, squared words and unified ideographs

A row gives the full decompositions of consecutive code points, from its first one on.
-/

namespace Bibliography.Unicode.Decomposition
set_option autoImplicit false
set_option maxRecDepth 4000

/-- Kana, squared words and unified ideographs: rows of at most 32 decompositions. -/
def eastAsian : List (Nat × List String) := [
  (0x3000, [" "]),
  (0x3036, ["〒"]),
  (0x3038, ["十", "卄", "卅"]),
  (0x304C, ["か\u3099"]),
  (0x304E, ["き\u3099"]),
  (0x3050, ["く\u3099"]),
  (0x3052, ["け\u3099"]),
  (0x3054, ["こ\u3099"]),
  (0x3056, ["さ\u3099"]),
  (0x3058, ["し\u3099"]),
  (0x305A, ["す\u3099"]),
  (0x305C, ["せ\u3099"]),
  (0x305E, ["そ\u3099"]),
  (0x3060, ["た\u3099"]),
  (0x3062, ["ち\u3099"]),
  (0x3065, ["つ\u3099"]),
  (0x3067, ["て\u3099"]),
  (0x3069, ["と\u3099"]),
  (0x3070, ["は\u3099", "は\u309a"]),
  (0x3073, ["ひ\u3099", "ひ\u309a"]),
  (0x3076, ["ふ\u3099", "ふ\u309a"]),
  (0x3079, ["へ\u3099", "へ\u309a"]),
  (0x307C, ["ほ\u3099", "ほ\u309a"]),
  (0x3094, ["う\u3099"]),
  (0x309B, [" \u3099", " \u309a"]),
  (0x309E, ["ゝ\u3099", "より"]),
  (0x30AC, ["カ\u3099"]),
  (0x30AE, ["キ\u3099"]),
  (0x30B0, ["ク\u3099"]),
  (0x30B2, ["ケ\u3099"]),
  (0x30B4, ["コ\u3099"]),
  (0x30B6, ["サ\u3099"]),
  (0x30B8, ["シ\u3099"]),
  (0x30BA, ["ス\u3099"]),
  (0x30BC, ["セ\u3099"]),
  (0x30BE, ["ソ\u3099"]),
  (0x30C0, ["タ\u3099"]),
  (0x30C2, ["チ\u3099"]),
  (0x30C5, ["ツ\u3099"]),
  (0x30C7, ["テ\u3099"]),
  (0x30C9, ["ト\u3099"]),
  (0x30D0, ["ハ\u3099", "ハ\u309a"]),
  (0x30D3, ["ヒ\u3099", "ヒ\u309a"]),
  (0x30D6, ["フ\u3099", "フ\u309a"]),
  (0x30D9, ["ヘ\u3099", "ヘ\u309a"]),
  (0x30DC, ["ホ\u3099", "ホ\u309a"]),
  (0x30F4, ["ウ\u3099"]),
  (0x30F7, ["ワ\u3099", "ヰ\u3099", "ヱ\u3099", "ヲ\u3099"]),
  (0x30FE, ["ヽ\u3099", "コト"]),
  (0x3131, ["ᄀ", "ᄁ", "ᆪ", "ᄂ", "ᆬ", "ᆭ", "ᄃ", "ᄄ", "ᄅ", "ᆰ", "ᆱ", "ᆲ", "ᆳ", "ᆴ", "ᆵ", "ᄚ", "ᄆ",
    "ᄇ", "ᄈ", "ᄡ", "ᄉ", "ᄊ", "ᄋ", "ᄌ", "ᄍ", "ᄎ", "ᄏ", "ᄐ", "ᄑ", "ᄒ", "ᅡ", "ᅢ"]),
  (0x3151, ["ᅣ", "ᅤ", "ᅥ", "ᅦ", "ᅧ", "ᅨ", "ᅩ", "ᅪ", "ᅫ", "ᅬ", "ᅭ", "ᅮ", "ᅯ", "ᅰ", "ᅱ", "ᅲ", "ᅳ",
    "ᅴ", "ᅵ", "ᅠ", "ᄔ", "ᄕ", "ᇇ", "ᇈ", "ᇌ", "ᇎ", "ᇓ", "ᇗ", "ᇙ", "ᄜ", "ᇝ", "ᇟ"]),
  (0x3171, ["ᄝ", "ᄞ", "ᄠ", "ᄢ", "ᄣ", "ᄧ", "ᄩ", "ᄫ", "ᄬ", "ᄭ", "ᄮ", "ᄯ", "ᄲ", "ᄶ", "ᅀ", "ᅇ", "ᅌ",
    "ᇱ", "ᇲ", "ᅗ", "ᅘ", "ᅙ", "ᆄ", "ᆅ", "ᆈ", "ᆑ", "ᆒ", "ᆔ", "ᆞ", "ᆡ"]),
  (0x3192, ["一", "二", "三", "四", "上", "中", "下", "甲", "乙", "丙", "丁", "天", "地", "人"]),
  (0x3200, ["(ᄀ)", "(ᄂ)", "(ᄃ)", "(ᄅ)", "(ᄆ)", "(ᄇ)", "(ᄉ)", "(ᄋ)", "(ᄌ)", "(ᄎ)", "(ᄏ)", "(ᄐ)",
    "(ᄑ)", "(ᄒ)", "(가)", "(나)", "(다)", "(라)", "(마)", "(바)", "(사)", "(아)", "(자)",
    "(차)", "(카)", "(타)", "(파)", "(하)", "(주)", "(오전)", "(오후)"]),
  (0x3220, ["(一)", "(二)", "(三)", "(四)", "(五)", "(六)", "(七)", "(八)", "(九)", "(十)", "(月)", "(火)",
    "(水)", "(木)", "(金)", "(土)", "(日)", "(株)", "(有)", "(社)", "(名)", "(特)", "(財)", "(祝)",
    "(労)", "(代)", "(呼)", "(学)", "(監)", "(企)", "(資)", "(協)"]),
  (0x3240, ["(祭)", "(休)", "(自)", "(至)", "問", "幼", "文", "箏"]),
  (0x3250, ["PTE", "21", "22", "23", "24", "25", "26", "27", "28", "29", "30", "31", "32", "33",
    "34", "35", "ᄀ", "ᄂ", "ᄃ", "ᄅ", "ᄆ", "ᄇ", "ᄉ", "ᄋ", "ᄌ", "ᄎ", "ᄏ", "ᄐ", "ᄑ", "ᄒ",
    "가", "나"]),
  (0x3270, ["다", "라", "마", "바", "사", "아", "자", "차", "카", "타", "파", "하", "참고",
    "주의", "우"]),
  (0x3280, ["一", "二", "三", "四", "五", "六", "七", "八", "九", "十", "月", "火", "水", "木", "金", "土", "日",
    "株", "有", "社", "名", "特", "財", "祝", "労", "秘", "男", "女", "適", "優", "印", "注"]),
  (0x32A0, ["項", "休", "写", "正", "上", "中", "下", "左", "右", "医", "宗", "学", "監", "企", "資", "協", "夜",
    "36", "37", "38", "39", "40", "41", "42", "43", "44", "45", "46", "47", "48", "49",
    "50"]),
  (0x32C0, ["1月", "2月", "3月", "4月", "5月", "6月", "7月", "8月", "9月", "10月", "11月", "12月", "Hg",
    "erg", "eV", "LTD", "ア", "イ", "ウ", "エ", "オ", "カ", "キ", "ク", "ケ", "コ", "サ", "シ", "ス",
    "セ", "ソ", "タ"]),
  (0x32E0, ["チ", "ツ", "テ", "ト", "ナ", "ニ", "ヌ", "ネ", "ノ", "ハ", "ヒ", "フ", "ヘ", "ホ", "マ", "ミ", "ム",
    "メ", "モ", "ヤ", "ユ", "ヨ", "ラ", "リ", "ル", "レ", "ロ", "ワ", "ヰ", "ヱ", "ヲ", "令和"]),
  (0x3300, ["アハ\u309aート", "アルファ", "アンヘ\u309aア", "アール", "イニンク\u3099", "インチ", "ウォン", "エスクート\u3099",
    "エーカー", "オンス", "オーム", "カイリ", "カラット", "カロリー", "カ\u3099ロン", "カ\u3099ンマ",
    "キ\u3099カ\u3099", "キ\u3099ニー", "キュリー", "キ\u3099ルタ\u3099ー", "キロ", "キロク\u3099ラム",
    "キロメートル", "キロワット", "ク\u3099ラム", "ク\u3099ラムトン", "クルセ\u3099イロ", "クローネ", "ケース", "コルナ",
    "コーホ\u309a", "サイクル"]),
  (0x3320, ["サンチーム", "シリンク\u3099", "センチ", "セント", "タ\u3099ース", "テ\u3099シ", "ト\u3099ル", "トン", "ナノ",
    "ノット", "ハイツ", "ハ\u309aーセント", "ハ\u309aーツ", "ハ\u3099ーレル", "ヒ\u309aアストル", "ヒ\u309aクル",
    "ヒ\u309aコ", "ヒ\u3099ル", "ファラット\u3099", "フィート", "フ\u3099ッシェル", "フラン", "ヘクタール",
    "ヘ\u309aソ", "ヘ\u309aニヒ", "ヘルツ", "ヘ\u309aンス", "ヘ\u309aーシ\u3099", "ヘ\u3099ータ",
    "ホ\u309aイント", "ホ\u3099ルト", "ホン"]),
  (0x3340, ["ホ\u309aント\u3099", "ホール", "ホーン", "マイクロ", "マイル", "マッハ", "マルク", "マンション", "ミクロン", "ミリ",
    "ミリハ\u3099ール", "メカ\u3099", "メカ\u3099トン", "メートル", "ヤート\u3099", "ヤール", "ユアン", "リットル",
    "リラ", "ルヒ\u309aー", "ルーフ\u3099ル", "レム", "レントケ\u3099ン", "ワット", "0点", "1点", "2点", "3点",
    "4点", "5点", "6点", "7点"]),
  (0x3360, ["8点", "9点", "10点", "11点", "12点", "13点", "14点", "15点", "16点", "17点", "18点", "19点",
    "20点", "21点", "22点", "23点", "24点", "hPa", "da", "AU", "bar", "oV", "pc", "dm", "dm2",
    "dm3", "IU", "平成", "昭和", "大正", "明治", "株式会社"]),
  (0x3380, ["pA", "nA", "μA", "mA", "kA", "KB", "MB", "GB", "cal", "kcal", "pF", "nF", "μF",
    "μg", "mg", "kg", "Hz", "kHz", "MHz", "GHz", "THz", "μl", "ml", "dl", "kl", "fm",
    "nm", "μm", "mm", "cm", "km", "mm2"]),
  (0x33A0, ["cm2", "m2", "km2", "mm3", "cm3", "m3", "km3", "m∕s", "m∕s2", "Pa", "kPa", "MPa",
    "GPa", "rad", "rad∕s", "rad∕s2", "ps", "ns", "μs", "ms", "pV", "nV", "μV", "mV",
    "kV", "MV", "pW", "nW", "μW", "mW", "kW", "MW"]),
  (0x33C0, ["kΩ", "MΩ", "a.m.", "Bq", "cc", "cd", "C∕kg", "Co.", "dB", "Gy", "ha", "HP", "in",
    "KK", "KM", "kt", "lm", "ln", "log", "lx", "mb", "mil", "mol", "PH", "p.m.", "PPM",
    "PR", "sr", "Sv", "Wb", "V∕m", "A∕m"]),
  (0x33E0, ["1日", "2日", "3日", "4日", "5日", "6日", "7日", "8日", "9日", "10日", "11日", "12日", "13日",
    "14日", "15日", "16日", "17日", "18日", "19日", "20日", "21日", "22日", "23日", "24日", "25日",
    "26日", "27日", "28日", "29日", "30日", "31日", "gal"]),
  (0xA69C, ["ъ", "ь"]),
  (0xA770, ["ꝯ"]),
  (0xA7F2, ["C", "F", "Q"]),
  (0xA7F8, ["Ħ", "œ"]),
  (0xAB5C, ["ꜧ", "ꬷ", "ɫ", "ꭒ"]),
  (0xAB69, ["ʍ"]),
  (0xF900, ["豈", "更", "車", "賈", "滑", "串", "句", "龜", "龜", "契", "金", "喇", "奈", "懶", "癩", "羅", "蘿",
    "螺", "裸", "邏", "樂", "洛", "烙", "珞", "落", "酪", "駱", "亂", "卵", "欄", "爛", "蘭"]),
  (0xF920, ["鸞", "嵐", "濫", "藍", "襤", "拉", "臘", "蠟", "廊", "朗", "浪", "狼", "郎", "來", "冷", "勞", "擄",
    "櫓", "爐", "盧", "老", "蘆", "虜", "路", "露", "魯", "鷺", "碌", "祿", "綠", "菉", "錄"]),
  (0xF940, ["鹿", "論", "壟", "弄", "籠", "聾", "牢", "磊", "賂", "雷", "壘", "屢", "樓", "淚", "漏", "累", "縷",
    "陋", "勒", "肋", "凜", "凌", "稜", "綾", "菱", "陵", "讀", "拏", "樂", "諾", "丹", "寧"]),
  (0xF960, ["怒", "率", "異", "北", "磻", "便", "復", "不", "泌", "數", "索", "參", "塞", "省", "葉", "說", "殺",
    "辰", "沈", "拾", "若", "掠", "略", "亮", "兩", "凉", "梁", "糧", "良", "諒", "量", "勵"]),
  (0xF980, ["呂", "女", "廬", "旅", "濾", "礪", "閭", "驪", "麗", "黎", "力", "曆", "歷", "轢", "年", "憐", "戀",
    "撚", "漣", "煉", "璉", "秊", "練", "聯", "輦", "蓮", "連", "鍊", "列", "劣", "咽", "烈"]),
  (0xF9A0, ["裂", "說", "廉", "念", "捻", "殮", "簾", "獵", "令", "囹", "寧", "嶺", "怜", "玲", "瑩", "羚", "聆",
    "鈴", "零", "靈", "領", "例", "禮", "醴", "隸", "惡", "了", "僚", "寮", "尿", "料", "樂"]),
  (0xF9C0, ["燎", "療", "蓼", "遼", "龍", "暈", "阮", "劉", "杻", "柳", "流", "溜", "琉", "留", "硫", "紐", "類",
    "六", "戮", "陸", "倫", "崙", "淪", "輪", "律", "慄", "栗", "率", "隆", "利", "吏", "履"]),
  (0xF9E0, ["易", "李", "梨", "泥", "理", "痢", "罹", "裏", "裡", "里", "離", "匿", "溺", "吝", "燐", "璘", "藺",
    "隣", "鱗", "麟", "林", "淋", "臨", "立", "笠", "粒", "狀", "炙", "識", "什", "茶", "刺"]),
  (0xFA00, ["切", "度", "拓", "糖", "宅", "洞", "暴", "輻", "行", "降", "見", "廓", "兀", "嗀"]),
  (0xFA10, ["塚"]),
  (0xFA12, ["晴"]),
  (0xFA15, ["凞", "猪", "益", "礼", "神", "祥", "福", "靖", "精", "羽"]),
  (0xFA20, ["蘒"]),
  (0xFA22, ["諸"]),
  (0xFA25, ["逸", "都"]),
  (0xFA2A, ["飯", "飼", "館", "鶴", "郞", "隷", "侮", "僧", "免", "勉", "勤", "卑", "喝", "嘆", "器", "塀", "墨",
    "層", "屮", "悔", "慨", "憎", "懲", "敏", "既", "暑", "梅", "海", "渚", "漢", "煮", "爫"]),
  (0xFA4A, ["琢", "碑", "社", "祉", "祈", "祐", "祖", "祝", "禍", "禎", "穀", "突", "節", "練", "縉", "繁", "署",
    "者", "臭", "艹", "艹", "著", "褐", "視", "謁", "謹", "賓", "贈", "辶", "逸", "難", "響"]),
  (0xFA6A, ["頻", "恵", "𤋮", "舘"]),
  (0xFA70, ["並", "况", "全", "侀", "充", "冀", "勇", "勺", "喝", "啕", "喙", "嗢", "塚", "墳", "奄", "奔", "婢",
    "嬨", "廒", "廙", "彩", "徭", "惘", "慎", "愈", "憎", "慠", "懲", "戴", "揄", "搜", "摒"]),
  (0xFA90, ["敖", "晴", "朗", "望", "杖", "歹", "殺", "流", "滛", "滋", "漢", "瀞", "煮", "瞧", "爵", "犯", "猪",
    "瑱", "甆", "画", "瘝", "瘟", "益", "盛", "直", "睊", "着", "磌", "窱", "節", "类", "絛"]),
  (0xFAB0, ["練", "缾", "者", "荒", "華", "蝹", "襁", "覆", "視", "調", "諸", "請", "謁", "諾", "諭", "謹", "變",
    "贈", "輸", "遲", "醙", "鉶", "陼", "難", "靖", "韛", "響", "頋", "頻", "鬒", "龜", "𢡊"]),
  (0xFAD0, ["𢡄", "𣏕", "㮝", "䀘", "䀹", "𥉉", "𥳐", "𧻓", "齃", "龎"])
]

end Bibliography.Unicode.Decomposition
