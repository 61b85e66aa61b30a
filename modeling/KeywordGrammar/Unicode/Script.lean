/-
# Scripts

The script that a character belongs to, and the scripts that it is used with.  For most scripts both
sets are the same; the second table holds the others.
-/
import KeywordGrammar.Unicode.PropertyValue

namespace KeywordGrammar.Unicode

/-- The characters of each script (Unicode 16). -/
def scripts : List PropertyValue := [
  .ofNames ["Adlm", "Adlam"] (some (.ofText "1E900 4C 4 A 4 2")),
  .ofNames ["Aghb", "Caucasian_Albanian"] (some (.ofText "10530 34 B 1")),
  .ofNames ["Ahom"] (some (.ofText "11700 1B 2 F 4 17")),
  .ofNames ["Arab", "Arabic"] (some (.ofText "
    600 5 1 6 1 E 1 3 1 20 1 A B 1A 1 6C 1 22 50 30 F0 1F 1 2 5 4B 1 1D F250 73 10 16B 2 50 2 36 7
    1 20 10 70 5 1 87 F63 1F 43 3 37 4 DF00 4 1 1B 1 2 1 1 2 1 1 A 1 4 1 1 1 1 6 1 4 1 1 1 1 1 1 3
    1 2 1 1 2 1 1 1 1 1 1 1 1 1 1 2 1 1 2 4 1 7 1 4 1 4 1 1 1 A 1 11 5 3 1 5 1 11 34 2")),
  .ofNames ["Armi", "Imperial_Aramaic"] (some (.ofText "10840 16 1 9")),
  .ofNames ["Armn", "Armenian"] (some (.ofText "531 26 2 32 2 3 F583 5")),
  .ofNames ["Avst", "Avestan"] (some (.ofText "10B00 36 3 7")),
  .ofNames ["Bali", "Balinese"] (some (.ofText "1B00 4D 1 32")),
  .ofNames ["Bamu", "Bamum"] (some (.ofText "A6A0 58 C108 239")),
  .ofNames ["Bass", "Bassa_Vah"] (some (.ofText "16AD0 1E 2 6")),
  .ofNames ["Batk", "Batak"] (some (.ofText "1BC0 34 8 4")),
  .ofNames ["Beng", "Bengali"] (some (.ofText "
    980 4 1 8 2 2 2 16 1 7 1 1 3 4 2 9 2 2 2 4 8 1 4 2 1 5 2 19")),
  .ofNames ["Bhks", "Bhaiksuki"] (some (.ofText "11C00 9 1 2D 1 E A 1D")),
  .ofNames ["Bopo", "Bopomofo"] (some (.ofText "2EA 2 2E19 2B 70 20")),
  .ofNames ["Brah", "Brahmi"] (some (.ofText "11000 4E 4 24 9 1")),
  .ofNames ["Brai", "Braille"] (some (.ofText "2800 100")),
  .ofNames ["Bugi", "Buginese"] (some (.ofText "1A00 1C 2 2")),
  .ofNames ["Buhd", "Buhid"] (some (.ofText "1740 14")),
  .ofNames ["Cakm", "Chakma"] (some (.ofText "11100 35 1 12")),
  .ofNames ["Cans", "Canadian_Aboriginal"] (some (.ofText "1400 280 230 46 101BA 10")),
  .ofNames ["Cari", "Carian"] (some (.ofText "102A0 31")),
  .ofNames ["Cham"] (some (.ofText "AA00 37 9 E 2 A 2 4")),
  .ofNames ["Cher", "Cherokee"] (some (.ofText "13A0 56 2 6 9772 50")),
  .ofNames ["Chrs", "Chorasmian"] (some (.ofText "10FB0 1C")),
  .ofNames ["Copt", "Coptic", "Qaac"] (some (.ofText "3E2 E 2890 74 5 7")),
  .ofNames ["Cpmn", "Cypro_Minoan"] (some (.ofText "12F90 63")),
  .ofNames ["Cprt", "Cypriot"] (some (.ofText "10800 6 2 1 1 2C 1 2 3 1 2 1")),
  .ofNames ["Cyrl", "Cyrillic"] (some (.ofText "
    400 85 2 A9 1750 B A0 1 4C 1 1067 20 7840 60 578E 2 E200 3E 21 1")),
  .ofNames ["Deva", "Devanagari"] (some (.ofText "900 51 4 F 2 1A 9F60 20 7200 A")),
  .ofNames ["Diak", "Dives_Akuru"] (some (.ofText "11900 7 2 1 2 8 1 2 1 1E 1 2 2 C 9 A")),
  .ofNames ["Dogr", "Dogra"] (some (.ofText "11800 3C")),
  .ofNames ["Dsrt", "Deseret"] (some (.ofText "10400 50")),
  .ofNames ["Dupl", "Duployan"] (some (.ofText "1BC00 6B 5 D 3 9 7 A 2 4")),
  .ofNames ["Egyp", "Egyptian_Hieroglyphs"] (some (.ofText "13000 456 A F9B")),
  .ofNames ["Elba", "Elbasan"] (some (.ofText "10500 28")),
  .ofNames ["Elym", "Elymaic"] (some (.ofText "10FE0 17")),
  .ofNames ["Ethi", "Ethiopic"] (some (.ofText "
    1200 49 1 4 2 7 1 1 1 4 2 29 1 4 2 21 1 4 2 7 1 1 1 4 2 F 1 39 1 4 2 43 2 20 3 1A 19E6 17 9 7
    1 7 1 7 1 7 1 7 1 7 1 7 1 7 7D22 6 2 6 2 6 9 7 1 7 13CB1 7 1 4 1 2 1 F")),
  .ofNames ["Gara", "Garay"] (some (.ofText "10D40 26 3 1D 8 2")),
  .ofNames ["Geor", "Georgian"] (some (.ofText "
    10A0 26 1 1 5 1 2 2B 1 4 B90 2B 2 3 1040 26 1 1 5 1")),
  .ofNames ["Glag", "Glagolitic"] (some (.ofText "2C00 60 1B3A0 7 1 11 2 7 1 2 1 5")),
  .ofNames ["Gong", "Gunjala_Gondi"] (some (.ofText "11D60 6 1 2 1 25 1 2 1 6 7 A")),
  .ofNames ["Gonm", "Masaram_Gondi"] (some (.ofText "11D00 7 1 2 1 2C 3 1 1 2 1 9 8 A")),
  .ofNames ["Goth", "Gothic"] (some (.ofText "10330 1B")),
  .ofNames ["Gran", "Grantha"] (some (.ofText "
    11300 4 1 8 2 2 2 16 1 7 1 2 1 5 2 9 2 2 2 3 2 1 6 1 5 7 2 7 3 5")),
  .ofNames ["Grek", "Greek"] (some (.ofText "
    370 4 1 3 2 4 1 1 4 1 1 1 1 3 1 1 1 14 1 3F E 10 1926 5 32 5 4 5 54 1 140 16 2 6 2 26 2 6 2 8
    1 1 1 1 1 1 1 1F 2 35 1 F 1 E 2 6 1 13 2 3 1 9 127 1 8A3E 1 55DA 4F 11 1 D05F 46")),
  .ofNames ["Gujr", "Gujarati"] (some (.ofText "
    A81 3 1 9 1 3 1 16 1 7 1 2 1 5 2 A 1 3 1 3 2 1 F 4 2 C 7 7")),
  .ofNames ["Gukh", "Gurung_Khema"] (some (.ofText "16100 3A")),
  .ofNames ["Guru", "Gurmukhi"] (some (.ofText "
    A01 3 1 6 4 2 2 16 1 7 1 2 1 2 1 2 2 1 1 5 4 2 2 3 3 1 7 4 1 1 7 11")),
  .ofNames ["Hang", "Hangul"] (some (.ofText "
    1100 100 1E2E 2 101 5E 71 1F 41 1F 76E1 1D 283 2BA4 C 17 4 31 27A4 1F 3 6 2 6 2 6 2 3")),
  .ofNames ["Hani", "Han"] (some (.ofText "
    2E80 1A 1 59 C D6 2F 1 1 1 19 9 E 4 3C4 19C0 40 5200 5900 16E 2 6A 7508 2 C 2 900E A6E0 20
    103A 6 DE 2 1682 E 1D31 F 26E 9A2 21E 5E2 134B 5 1060")),
  .ofNames ["Hano", "Hanunoo"] (some (.ofText "1720 15")),
  .ofNames ["Hatr", "Hatran"] (some (.ofText "108E0 13 1 2 5 5")),
  .ofNames ["Hebr", "Hebrew"] (some (.ofText "591 37 8 1B 4 6 F528 1A 1 5 1 1 1 2 1 2 1 A")),
  .ofNames ["Hira", "Hiragana"] (some (.ofText "3041 56 6 3 17F61 11F 12 1 1D 3 40AD 1")),
  .ofNames ["Hluw", "Anatolian_Hieroglyphs"] (some (.ofText "14400 247")),
  .ofNames ["Hmng", "Pahawh_Hmong"] (some (.ofText "16B00 46 A A 1 7 1 15 5 13")),
  .ofNames ["Hmnp", "Nyiakeng_Puachue_Hmong"] (some (.ofText "1E100 2D 3 E 2 A 4 2")),
  .ofNames ["Hrkt", "Katakana_Or_Hiragana"] none,
  .ofNames ["Hung", "Old_Hungarian"] (some (.ofText "10C80 33 D 33 7 6")),
  .ofNames ["Ital", "Old_Italic"] (some (.ofText "10300 24 9 3")),
  .ofNames ["Java", "Javanese"] (some (.ofText "A980 4E 2 A 4 2")),
  .ofNames ["Kali", "Kayah_Li"] (some (.ofText "A900 2E 1 1")),
  .ofNames ["Kana", "Katakana"] (some (.ofText "
    30A1 5A 2 3 F0 10 D0 2F 1 58 CC0E A 1 2D B052 4 1 7 1 2 1 1 11F 3 32 1 E 4")),
  .ofNames ["Kawi"] (some (.ofText "11F00 11 1 29 3 1D")),
  .ofNames ["Khar", "Kharoshthi"] (some (.ofText "10A00 4 1 2 5 8 1 3 1 1D 2 3 4 A 7 9")),
  .ofNames ["Khmr", "Khmer"] (some (.ofText "1780 5E 2 A 6 A 1E6 20")),
  .ofNames ["Khoj", "Khojki"] (some (.ofText "11200 12 1 2F")),
  .ofNames ["Kits", "Khitan_Small_Script"] (some (.ofText "16FE4 1 1B1B 1D6 29 1")),
  .ofNames ["Knda", "Kannada"] (some (.ofText "
    C80 D 1 3 1 17 1 A 1 5 2 9 1 3 1 4 7 2 6 2 1 4 2 A 1 3")),
  .ofNames ["Krai", "Kirat_Rai"] (some (.ofText "16D40 3A")),
  .ofNames ["Kthi", "Kaithi"] (some (.ofText "11080 43 A 1")),
  .ofNames ["Lana", "Tai_Tham"] (some (.ofText "1A20 3F 1 1D 2 B 6 A 6 E")),
  .ofNames ["Laoo", "Lao"] (some (.ofText "E81 2 1 1 1 5 1 18 1 1 1 17 2 5 1 1 1 7 1 A 2 4")),
  .ofNames ["Latn", "Latin"] (some (.ofText "
    41 1A 6 1A 2F 1 F 1 5 17 1 1F 1 1C1 27 5 1A1B 26 6 31 5 4 5 D 1 46 41 100 171 1 D 1 10 D 8D 2
    6 1 1B 1 11 29 AD7 20 7AA2 66 3 43 2 2 1 1 1 8 15 E 330 2B 1 9 1 4 4F96 7 41A 1A 6 1A 825 6 1
    2A 1 9 D745 1F 6 6")),
  .ofNames ["Lepc", "Lepcha"] (some (.ofText "1C00 38 3 F 3 3")),
  .ofNames ["Limb", "Limbu"] (some (.ofText "1900 1F 1 C 4 C 4 1 3 C")),
  .ofNames ["Lina", "Linear_A"] (some (.ofText "10600 137 9 16 A 8")),
  .ofNames ["Linb", "Linear_B"] (some (.ofText "10000 C 1 1A 1 13 1 2 1 F 2 E 22 7B")),
  .ofNames ["Lisu"] (some (.ofText "A4D0 30 7AB0 1")),
  .ofNames ["Lyci", "Lycian"] (some (.ofText "10280 1D")),
  .ofNames ["Lydi", "Lydian"] (some (.ofText "10920 1A 5 1")),
  .ofNames ["Mahj", "Mahajani"] (some (.ofText "11150 27")),
  .ofNames ["Maka", "Makasar"] (some (.ofText "11EE0 19")),
  .ofNames ["Mand", "Mandaic"] (some (.ofText "840 1C 2 1")),
  .ofNames ["Mani", "Manichaean"] (some (.ofText "10AC0 27 4 C")),
  .ofNames ["Marc", "Marchen"] (some (.ofText "11C70 20 2 16 1 E")),
  .ofNames ["Medf", "Medefaidrin"] (some (.ofText "16E40 5B")),
  .ofNames ["Mend", "Mende_Kikakui"] (some (.ofText "1E800 C5 2 10")),
  .ofNames ["Merc", "Meroitic_Cursive"] (some (.ofText "109A0 18 4 14 2 2E")),
  .ofNames ["Mero", "Meroitic_Hieroglyphs"] (some (.ofText "10980 20")),
  .ofNames ["Mlym", "Malayalam"] (some (.ofText "D00 D 1 3 1 33 1 3 1 6 4 10 2 1A")),
  .ofNames ["Modi"] (some (.ofText "11600 45 B A")),
  .ofNames ["Mong", "Mongolian"] (some (.ofText "1800 2 2 1 1 14 6 59 7 2B FDB5 D")),
  .ofNames ["Mroo", "Mro"] (some (.ofText "16A40 1F 1 A 4 2")),
  .ofNames ["Mtei", "Meetei_Mayek"] (some (.ofText "AAE0 17 C9 2E 2 A")),
  .ofNames ["Mult", "Multani"] (some (.ofText "11280 7 1 1 1 4 1 F 1 B")),
  .ofNames ["Mymr", "Myanmar"] (some (.ofText "1000 A0 9940 1F 61 20 6C50 14")),
  .ofNames ["Nagm", "Nag_Mundari"] (some (.ofText "1E4D0 2A")),
  .ofNames ["Nand", "Nandinagari"] (some (.ofText "119A0 8 2 2E 2 B")),
  .ofNames ["Narb", "Old_North_Arabian"] (some (.ofText "10A80 20")),
  .ofNames ["Nbat", "Nabataean"] (some (.ofText "10880 1F 8 9")),
  .ofNames ["Newa"] (some (.ofText "11400 5C 1 5")),
  .ofNames ["Nkoo", "Nko"] (some (.ofText "7C0 3B 2 3")),
  .ofNames ["Nshu", "Nushu"] (some (.ofText "16FE1 1 418E 18C")),
  .ofNames ["Ogam", "Ogham"] (some (.ofText "1680 1D")),
  .ofNames ["Olck", "Ol_Chiki"] (some (.ofText "1C50 30")),
  .ofNames ["Onao", "Ol_Onal"] (some (.ofText "1E5D0 2B 4 1")),
  .ofNames ["Orkh", "Old_Turkic"] (some (.ofText "10C00 49")),
  .ofNames ["Orya", "Oriya"] (some (.ofText "
    B01 3 1 8 2 2 2 16 1 7 1 2 1 5 2 9 2 2 2 3 7 3 4 2 1 5 2 12")),
  .ofNames ["Osge", "Osage"] (some (.ofText "104B0 24 4 24")),
  .ofNames ["Osma", "Osmanya"] (some (.ofText "10480 1E 2 A")),
  .ofNames ["Ougr", "Old_Uyghur"] (some (.ofText "10F70 1A")),
  .ofNames ["Palm", "Palmyrene"] (some (.ofText "10860 20")),
  .ofNames ["Pauc", "Pau_Cin_Hau"] (some (.ofText "11AC0 39")),
  .ofNames ["Perm", "Old_Permic"] (some (.ofText "10350 2B")),
  .ofNames ["Phag", "Phags_Pa"] (some (.ofText "A840 38")),
  .ofNames ["Phli", "Inscriptional_Pahlavi"] (some (.ofText "10B60 13 5 8")),
  .ofNames ["Phlp", "Psalter_Pahlavi"] (some (.ofText "10B80 12 7 4 C 7")),
  .ofNames ["Phnx", "Phoenician"] (some (.ofText "10900 1C 3 1")),
  .ofNames ["Plrd", "Miao"] (some (.ofText "16F00 4B 4 39 7 11")),
  .ofNames ["Prti", "Inscriptional_Parthian"] (some (.ofText "10B40 16 2 8")),
  .ofNames ["Rjng", "Rejang"] (some (.ofText "A930 24 B 1")),
  .ofNames ["Rohg", "Hanifi_Rohingya"] (some (.ofText "10D00 28 8 A")),
  .ofNames ["Runr", "Runic"] (some (.ofText "16A0 4B 3 B")),
  .ofNames ["Samr", "Samaritan"] (some (.ofText "800 2E 2 F")),
  .ofNames ["Sarb", "Old_South_Arabian"] (some (.ofText "10A60 20")),
  .ofNames ["Saur", "Saurashtra"] (some (.ofText "A880 46 8 C")),
  .ofNames ["Sgnw", "SignWriting"] (some (.ofText "1D800 28C F 5 1 F")),
  .ofNames ["Shaw", "Shavian"] (some (.ofText "10450 30")),
  .ofNames ["Shrd", "Sharada"] (some (.ofText "11180 60")),
  .ofNames ["Sidd", "Siddham"] (some (.ofText "11580 36 2 26")),
  .ofNames ["Sind", "Khudawadi"] (some (.ofText "112B0 3B 5 A")),
  .ofNames ["Sinh", "Sinhala"] (some (.ofText "
    D81 3 1 12 3 18 1 9 1 1 2 7 3 1 4 6 1 1 1 8 6 A 2 3 103EC 14")),
  .ofNames ["Sogd", "Sogdian"] (some (.ofText "10F30 2A")),
  .ofNames ["Sogo", "Old_Sogdian"] (some (.ofText "10F00 28")),
  .ofNames ["Sora", "Sora_Sompeng"] (some (.ofText "110D0 19 7 A")),
  .ofNames ["Soyo", "Soyombo"] (some (.ofText "11A50 53")),
  .ofNames ["Sund", "Sundanese"] (some (.ofText "1B80 40 100 8")),
  .ofNames ["Sunu", "Sunuwar"] (some (.ofText "11BC0 22 E A")),
  .ofNames ["Sylo", "Syloti_Nagri"] (some (.ofText "A800 2D")),
  .ofNames ["Syrc", "Syriac"] (some (.ofText "700 E 1 3C 2 3 110 B")),
  .ofNames ["Tagb", "Tagbanwa"] (some (.ofText "1760 D 1 3 1 2")),
  .ofNames ["Takr", "Takri"] (some (.ofText "11680 3A 6 A")),
  .ofNames ["Tale", "Tai_Le"] (some (.ofText "1950 1E 2 5")),
  .ofNames ["Talu", "New_Tai_Lue"] (some (.ofText "1980 2C 4 1A 6 B 3 2")),
  .ofNames ["Taml", "Tamil"] (some (.ofText "
    B82 2 1 6 3 3 1 4 3 2 1 1 1 2 3 2 3 3 3 C 4 5 3 3 1 4 2 1 6 1 E 15 113C5 32 D 1")),
  .ofNames ["Tang", "Tangut"] (some (.ofText "16FE0 1 1F 17F8 8 300 200 9")),
  .ofNames ["Tavt", "Tai_Viet"] (some (.ofText "AA80 43 18 5")),
  .ofNames ["Telu", "Telugu"] (some (.ofText "
    C00 D 1 3 1 17 1 10 2 9 1 3 1 4 7 2 1 3 2 1 2 4 2 A 7 9")),
  .ofNames ["Tfng", "Tifinagh"] (some (.ofText "2D30 38 7 2 E 1")),
  .ofNames ["Tglg", "Tagalog"] (some (.ofText "1700 16 9 1")),
  .ofNames ["Thaa", "Thaana"] (some (.ofText "780 32")),
  .ofNames ["Thai"] (some (.ofText "E01 3A 5 1C")),
  .ofNames ["Tibt", "Tibetan"] (some (.ofText "F00 48 1 24 4 27 1 24 1 F 1 7 4 2")),
  .ofNames ["Tirh", "Tirhuta"] (some (.ofText "11480 48 8 A")),
  .ofNames ["Tnsa", "Tangsa"] (some (.ofText "16A70 4F 1 A")),
  .ofNames ["Todr", "Todhri"] (some (.ofText "105C0 34")),
  .ofNames ["Toto"] (some (.ofText "1E290 1F")),
  .ofNames ["Tutg", "Tulu_Tigalari"] (some (.ofText "
    11380 A 1 1 2 1 1 26 1 A 1 1 2 1 1 4 1 A 1 2 8 2")),
  .ofNames ["Ugar", "Ugaritic"] (some (.ofText "10380 1E 1 1")),
  .ofNames ["Vaii", "Vai"] (some (.ofText "A500 12C")),
  .ofNames ["Vith", "Vithkuqi"] (some (.ofText "10570 B 1 F 1 7 1 2 1 B 1 F 1 7 1 2")),
  .ofNames ["Wara", "Warang_Citi"] (some (.ofText "118A0 53 C 1")),
  .ofNames ["Wcho", "Wancho"] (some (.ofText "1E2C0 3A 5 1")),
  .ofNames ["Xpeo", "Old_Persian"] (some (.ofText "103A0 24 4 E")),
  .ofNames ["Xsux", "Cuneiform"] (some (.ofText "12000 39A 66 6F 1 5 B C4")),
  .ofNames ["Yezi", "Yezidi"] (some (.ofText "10E80 2A 1 3 2 2")),
  .ofNames ["Yiii", "Yi"] (some (.ofText "A000 48D 3 37")),
  .ofNames ["Zanb", "Zanabazar_Square"] (some (.ofText "11A00 48")),
  .ofNames ["Zinh", "Inherited", "Qaai"] (some (.ofText "
    300 70 115 2 1C4 B 1A 1 2E0 4 115B 1F 201 3 1 D 1 7 4 1 6 1 3 2 C6 40 20C 2 C2 21 F39 4 6B 2
    CD65 10 10 E 3CF 1 E2 1 105A 1 BBC4 2E 2 17 220 3 11 8 2 7 1E 4 C2F52 F0")),
  .ofNames ["Zyyy", "Common"] (some (.ofText "
    0 41 1A 6 1A 2F 1 F 1 5 17 1 1F 1 1C1 27 5 5 2 14 74 1 9 1 6 1 1 1 27D 1 6 1 E 1 3 1 20 1 9C 1
    204 1 81 2 4D9 1 195 4 122 1 5EF 3 47 2 CB 2 1 1 4CD 1 D 1 7 4 1 6 1 3 2 1 305 C 2 57 1 B 3 B
    1 F 11 21 3F 26 1 3 2 6 1 1B 1 11 29 3 4 29A 16 B 15 3A0 100 274 2 20 1 69 200 5E 192 15 1 1 1
    19 F 8 4 4 5B 2 3 1 5A 2 93 10 20 26 9 1 30 40 1F 51 2F 1 58 A8 19C0 40 5900 22 66 3 A5 A F4 1
    A0 1 18B 1 E 2 51D2 2 D0 A 16 23 1 13 1 4 93 1 1 20 1A 6 1A B A 1 2D 2 40 7 1 7 A 5 102 3 4 2D
    3 9 50 D 33 2D E4 1B B9A4 4 F5C FA 6 1B4 9C 74 3C F6 A 27 2 3E 3 11 8 2 7 1E 4 3D D5 14 C 14 C
    57 9 19 87 55 1 47 1 2 2 1 2 2 2 4 1 C 1 1 1 7 1 41 1 4 2 8 1 7 1 1C 1 4 1 5 1 1 3 7 1 154 2
    124 2 32 1471 44 4C 3D 2C2 2C 4 64 C F 2 F 1 F 1 25 A AE 38 1A 1 2 D 2C 4 9 7 2 E 6 9A 3D8 4
    11 3 D 3 77 4 5F 6 C 4 1 F C 4 38 8 A 6 28 8 1E 2 C 4 2 3E 154 C E 2 D 3 A 5 38 7 F 2 B 6 9 7
    93 1 66 C0407 1 1E 60")),
  .ofNames ["Zzzz", "Unknown"] none]

/-- The characters that a script is used with, where these are not just its own. -/
def extendedScripts : List PropertyValue := [
  .ofNames ["Adlm", "Adlam"] (some (.ofText "61F 1 20 1 1A0E 1 DF1 1 1BABE 4C 4 A 4 2")),
  .ofNames ["Aghb", "Caucasian_Albanian"] (some (.ofText "304 1 2C 1 2C 1 101D1 34 B 1")),
  .ofNames ["Arab", "Arabic"] (some (.ofText "
    600 5 1 D7 1 22 50 30 F0 1F 1 2 5 4B 1 1D 174F 1 DF1 1 CD0E 73 10 1BD 2 36 7 1 20 10 70 5 1 87
    3E3 1C B64 1F 43 3 37 4 DF00 4 1 1B 1 2 1 1 2 1 1 A 1 4 1 1 1 1 6 1 4 1 1 1 1 1 1 3 1 2 1 1 2
    1 1 1 1 1 1 1 1 1 1 2 1 1 2 4 1 7 1 4 1 4 1 1 1 A 1 11 5 3 1 5 1 11 34 2")),
  .ofNames ["Armn", "Armenian"] (some (.ofText "308 1 228 26 2 32 2 3 F583 5")),
  .ofNames ["Avst", "Avestan"] (some (.ofText "B7 1 2D78 2 DCCE 36 3 7")),
  .ofNames ["Beng", "Bengali"] (some (.ofText "
    2BC 1 694 2 11 2 1A 4 1 8 2 2 2 16 1 7 1 1 3 4 2 9 2 2 2 4 8 1 4 2 1 5 2 19 12D1 1 1 1 2 2 1 1
    8 1 8 1 2 1 4 1 2 3 8BF9 1")),
  .ofNames ["Bopo", "Bopomofo"] (some (.ofText "
    2C7 1 1 3 D 1 10 2 2D15 3 4 A 1 D A 4 2 1 6 1 C3 1 9 2B 70 20 CC85 2 11A 5")),
  .ofNames ["Bugi", "Buginese"] (some (.ofText "1A00 1C 2 2 8FAF 1")),
  .ofNames ["Buhd", "Buhid"] (some (.ofText "1735 2 9 14")),
  .ofNames ["Cakm", "Chakma"] (some (.ofText "9E6 A 650 A 100B6 35 1 12")),
  .ofNames ["Cari", "Carian"] (some (.ofText "B7 1 1FA2 1 2 1 DD3 1 D46E 31")),
  .ofNames ["Cher", "Cherokee"] (some (.ofText "300 3 1 1 6 2 16 2 B 2 106E 56 2 6 9772 50")),
  .ofNames ["Copt", "Coptic", "Qaac"] (some (.ofText "
    B7 1 248 1 3 2 1 1 6C 2 6C E 2890 74 5 7 117 1 D4C8 1C")),
  .ofNames ["Cpmn", "Cypro_Minoan"] (some (.ofText "10100 2 2E8E 63")),
  .ofNames ["Cprt", "Cypriot"] (some (.ofText "10100 3 4 2D 3 9 6C0 6 2 1 1 2C 1 2 3 1 2 1")),
  .ofNames ["Cyrl", "Cyrillic"] (some (.ofText "
    2BC 1 43 3 1 1 1 1 1 1 2 1 5 1 EE 130 1750 B A0 1 4C 1 7F 1 FE7 20 43 1 77FC 60 578E 2 E200 3E
    21 1")),
  .ofNames ["Deva", "Devanagari"] (some (.ofText "
    2BC 1 643 53 2 2B 1350 27 1 2 3F6 1 873F A A6 20 7200 A")),
  .ofNames ["Dogr", "Dogra"] (some (.ofText "964 C 9EC0 A 6FC6 3C")),
  .ofNames ["Dupl", "Duployan"] (some (.ofText "
    B7 1 24F 2 1 1 18 2 2B17 1 18DC3 6B 5 D 3 9 7 A 2 8")),
  .ofNames ["Elba", "Elbasan"] (some (.ofText "B7 1 24D 1 101FA 28")),
  .ofNames ["Ethi", "Ethiopic"] (some (.ofText "
    30E 1 EF1 49 1 4 2 7 1 1 1 4 2 29 1 4 2 21 1 4 2 7 1 1 1 4 2 F 1 39 1 4 2 43 2 20 3 1A 19E6 17
    9 7 1 7 1 7 1 7 1 7 1 7 1 7 1 7 7D22 6 2 6 2 6 9 7 1 7 13CB1 7 1 4 1 2 1 F")),
  .ofNames ["Gara", "Garay"] (some (.ofText "60C 1 E 1 3 1 10720 26 3 1D 8 2")),
  .ofNames ["Geor", "Georgian"] (some (.ofText "
    B7 1 4D1 1 B16 26 1 1 5 1 2 30 B90 2B 2 3 39A 1 CA5 26 1 1 5 1 103 1")),
  .ofNames ["Glag", "Glagolitic"] (some (.ofText "
    B7 1 24B 1 1 1 17E 1 2 1 101 1 B71 1 F5E 1 BA5 60 1E3 1 782B 1 13990 7 1 11 2 7 1 2 1 5")),
  .ofNames ["Gong", "Gunjala_Gondi"] (some (.ofText "B7 1 8AC 2 113FA 6 1 2 1 25 1 2 1 6 7 A")),
  .ofNames ["Gonm", "Masaram_Gondi"] (some (.ofText "964 2 1139A 7 1 2 1 2C 3 1 1 2 1 9 8 A")),
  .ofNames ["Goth", "Gothic"] (some (.ofText "B7 1 24C 2 2 1 28 1 FFFE 1B")),
  .ofNames ["Gran", "Grantha"] (some (.ofText "
    951 2 11 2 280 E 10DC 1 1 2 1E 3 3 2 3F6 1 F20F 4 1 8 2 2 2 16 1 7 1 2 1 5 1 A 2 2 2 3 2 1 6 1
    5 7 2 7 3 5 C5B 2 1 1")),
  .ofNames ["Grek", "Greek"] (some (.ofText "
    B7 1 248 2 2 1 1 1 1 1 A 1 2E 1 2 1 2A 8 2 4 1 1 4 1 1 1 1 3 1 1 1 14 1 3F E 10 1926 5 32 5 4
    5 54 3 13E 16 2 6 2 26 2 6 2 8 1 1 1 1 1 1 1 1F 2 35 1 F 1 E 2 6 1 13 2 3 1 9 5E 1 C8 1 8A3E 1
    55DA 4F 11 1 D05F 46")),
  .ofNames ["Gujr", "Gujarati"] (some (.ofText "
    951 2 11 2 11B 3 1 9 1 3 1 16 1 7 1 2 1 5 2 A 1 3 1 3 2 1 F 4 2 C 7 7 9D30 A")),
  .ofNames ["Gukh", "Gurung_Khema"] (some (.ofText "965 1 1579A 3A")),
  .ofNames ["Guru", "Gurmukhi"] (some (.ofText "
    951 2 11 2 9B 3 1 6 4 2 2 16 1 7 1 2 1 2 1 2 2 1 1 5 4 2 2 3 3 1 7 4 1 1 7 11 9DB9 A")),
  .ofNames ["Hang", "Hangul"] (some (.ofText "
    1100 100 1E01 3 4 A 1 D E 3 6 1 C3 1 35 5E 71 1F 41 1F 76E1 1D 283 2BA4 C 17 4 31 2649 2 11A 5
    3A 1F 3 6 2 6 2 6 2 3")),
  .ofNames ["Hani", "Han"] (some (.ofText "
    B7 1 2DC8 1A 1 59 C D6 1A 10 1 3 1 D 1 D 1 D 2 1 6 9 BB 1 94 10 20 26 9 1 30 28 38 31 F C 33 1
    58 19 A 5 60 1F 1 19C0 40 5200 700 8 51F8 16E 2 6A 36B 2 11A 5 707C 2 C 2 636E 12 1EDE 2 DAE
    A6E0 20 103A 6 DE 2 1682 E 1D31 F 26E 9A2 21E 5E2 134B 5 1060")),
  .ofNames ["Hano", "Hanunoo"] (some (.ofText "1720 17")),
  .ofNames ["Hebr", "Hebrew"] (some (.ofText "307 2 288 37 8 1B 4 6 F528 1A 1 5 1 1 1 2 1 2 1 A")),
  .ofNames ["Hira", "Hiragana"] (some (.ofText "
    3001 3 4 A 1 D 10 6 1 1 4 2 3 56 2 8 5A 2 CD48 2 11A 5 A 1 2D 2 B061 11F 12 1 1D 3 40AD 1")),
  .ofNames ["Hung", "Old_Hungarian"] (some (.ofText "205A 1 2 1 DD3 1 F 1 DE3E 33 D 33 7 6")),
  .ofNames ["Java", "Javanese"] (some (.ofText "A980 4E 1 B 4 2")),
  .ofNames ["Kali", "Kayah_Li"] (some (.ofText "A900 30")),
  .ofNames ["Kana", "Katakana"] (some (.ofText "
    305 1 1D 1 2CDD 3 4 A 1 D 10 6 1 1 4 2 5B 4 3 60 F0 10 D0 2F 1 58 CAED 2 11A 3F B050 4 1 7 1 2
    1 1 11F 3 32 1 E 4")),
  .ofNames ["Khoj", "Khojki"] (some (.ofText "AE6 A 9D40 A 69C6 12 1 2F")),
  .ofNames ["Knda", "Kannada"] (some (.ofText "
    951 2 11 2 31A D 1 3 1 17 1 A 1 5 2 9 1 3 1 4 7 2 6 2 1 4 2 A 1 3 FDC 1 1 2 6 1 17 1 1 1 8B3B
    6")),
  .ofNames ["Kthi", "Kaithi"] (some (.ofText "966 A 24C1 1 79FE A 6846 43 A 1")),
  .ofNames ["Latn", "Latin"] (some (.ofText "
    41 1A 6 1A 2F 1 C 1 2 1 5 17 1 1F 1 1C1 3 1 A 1 1 3 1 1 9 1 1 1 6 5 1B F 1 2 1 1 F 3 7 2 1 2
    26 1 5 1 4 D 115 2 4CA 2 7A8 1 C04 26 6 31 5 4 5 D 1 46 39 1 7 100 12F 1 41 1 D 1 10 D 53 1 39
    2 6 1 1B 1 11 29 AD7 20 197 1 78E8 8 1A 66 3 43 2 2 1 1 1 8 15 E 12E 1 201 2B 1 9 1 4 4F96 7
    41A 1A 6 1A 825 6 1 2A 1 9 D745 1F 6 6")),
  .ofNames ["Limb", "Limbu"] (some (.ofText "965 1 F9A 1F 1 C 4 C 4 1 3 C")),
  .ofNames ["Lina", "Linear_A"] (some (.ofText "10107 2D 4CC 137 9 16 A 8")),
  .ofNames ["Linb", "Linear_B"] (some (.ofText "
    10000 C 1 1A 1 13 1 2 1 F 2 E 22 7B 5 3 4 2D 3 9")),
  .ofNames ["Lisu"] (some (.ofText "2BC 1 10 1 2D3C 2 74C4 30 7AB0 1")),
  .ofNames ["Lyci", "Lycian"] (some (.ofText "205A 1 E225 1D")),
  .ofNames ["Lydi", "Lydian"] (some (.ofText "B7 1 2D79 1 DAEE 1A 5 1")),
  .ofNames ["Mahj", "Mahajani"] (some (.ofText "B7 1 8AC C 9EC0 A 6916 27")),
  .ofNames ["Mand", "Mandaic"] (some (.ofText "640 1 1FF 1C 2 1")),
  .ofNames ["Mani", "Manichaean"] (some (.ofText "640 1 1047F 27 4 C")),
  .ofNames ["Mero", "Meroitic_Hieroglyphs"] (some (.ofText "205D 1 E922 20")),
  .ofNames ["Mlym", "Malayalam"] (some (.ofText "
    951 2 11 2 39A D 1 3 1 33 1 3 1 6 4 10 2 1A F5A 1 17 1 8B3D 3")),
  .ofNames ["Modi"] (some (.ofText "A830 A 6DC6 45 B A")),
  .ofNames ["Mong", "Mongolian"] (some (.ofText "1800 1A 6 59 7 2B 784 1 FD1 2 5 4 E654 D")),
  .ofNames ["Mult", "Multani"] (some (.ofText "A66 A 10810 7 1 1 1 4 1 F 1 B")),
  .ofNames ["Mymr", "Myanmar"] (some (.ofText "1000 A0 988E 1 B1 1F 61 20 6C50 14")),
  .ofNames ["Nand", "Nandinagari"] (some (.ofText "
    951 1 12 2 380 A FF9 1 8 1 7 1 8B35 6 716A 8 2 2E 2 B")),
  .ofNames ["Newa"] (some (.ofText "951 2 1382 1 1 2 9 1 6 1 1 1 1 1 F712 5C 1 5")),
  .ofNames ["Nkoo", "Nko"] (some (.ofText "60C 1 E 1 3 1 1A0 3B 2 3 F53E 2")),
  .ofNames ["Onao", "Ol_Onal"] (some (.ofText "964 2 1DC6A 2B 4 1")),
  .ofNames ["Orkh", "Old_Turkic"] (some (.ofText "205A 1 DD5 1 DDCF 49")),
  .ofNames ["Orya", "Oriya"] (some (.ofText "
    951 2 11 2 19B 3 1 8 2 2 2 16 1 7 1 2 1 5 2 9 2 2 2 3 7 3 4 2 1 5 2 12 1162 1 17 1")),
  .ofNames ["Osge", "Osage"] (some (.ofText "301 1 2 1 6 1 4C 1 10157 24 4 24")),
  .ofNames ["Ougr", "Old_Uyghur"] (some (.ofText "640 1 104B1 1 47D 1A")),
  .ofNames ["Perm", "Old_Permic"] (some (.ofText "B7 1 248 1 5 3 A 1 16F 1 FECC 2B")),
  .ofNames ["Phag", "Phags_Pa"] (some (.ofText "1802 2 1 1 829 1 FD2 1 783D 38")),
  .ofNames ["Phlp", "Psalter_Pahlavi"] (some (.ofText "640 1 1053F 12 7 4 C 7")),
  .ofNames ["Rohg", "Hanifi_Rohingya"] (some (.ofText "60C 1 E 1 3 1 20 1 93 1 1062B 28 8 A")),
  .ofNames ["Runr", "Runic"] (some (.ofText "16A0 59")),
  .ofNames ["Samr", "Samaritan"] (some (.ofText "800 2E 2 F 25F2 1")),
  .ofNames ["Shaw", "Shavian"] (some (.ofText "B7 1 10398 30")),
  .ofNames ["Shrd", "Sharada"] (some (.ofText "
    951 1 1385 1 1 1 2 2 2 1 9 1 2 1 8B42 6 2 1 6947 60")),
  .ofNames ["Sind", "Khudawadi"] (some (.ofText "964 2 9ECA A 6A76 3B 5 A")),
  .ofNames ["Sinh", "Sinhala"] (some (.ofText "
    964 2 41B 3 1 12 3 18 1 9 1 1 2 7 3 1 4 6 1 1 1 8 6 A 2 3 EFD 1 F4EE 14")),
  .ofNames ["Sogd", "Sogdian"] (some (.ofText "640 1 108EF 2A")),
  .ofNames ["Sunu", "Sunuwar"] (some (.ofText "300 2 1 1 9 1 2 1 1C 1 3 1 1188E 22 E A")),
  .ofNames ["Sylo", "Syloti_Nagri"] (some (.ofText "964 2 80 A 9E10 2D")),
  .ofNames ["Syrc", "Syriac"] (some (.ofText "
    303 2 2 2 1 1 18 3 7 2 1 2 2DA 1 E 2 2 1 20 1 A B 1A 1 8F E 1 3C 2 3 110 B 158D 1 1 1")),
  .ofNames ["Tagb", "Tagbanwa"] (some (.ofText "1735 2 29 D 1 3 1 2")),
  .ofNames ["Takr", "Takri"] (some (.ofText "964 2 9ECA A 6E46 3A 6 A")),
  .ofNames ["Tale", "Tai_Le"] (some (.ofText "300 2 5 2 3 1 D33 A 906 1E 2 5")),
  .ofNames ["Taml", "Tamil"] (some (.ofText "
    951 2 11 2 21C 2 1 6 3 3 1 4 3 2 1 1 1 2 3 2 3 3 3 C 4 5 3 3 1 4 2 1 6 1 E 15 10DF 1 8C18 1
    6A0D 1 1 1 37 2 C83 32 D 1")),
  .ofNames ["Tang", "Tangut"] (some (.ofText "2FF0 10 1EF 1 13DF0 1 1F 17F8 8 300 200 9")),
  .ofNames ["Telu", "Telugu"] (some (.ofText "
    951 2 11 2 29A D 1 3 1 17 1 10 2 9 1 3 1 4 7 2 1 3 2 1 2 4 2 A 7 9 1055 2 1 1 1 1 17 1")),
  .ofNames ["Tfng", "Tifinagh"] (some (.ofText "302 1 1 1 1 4 19 1 2A0C 38 7 2 E 1")),
  .ofNames ["Tglg", "Tagalog"] (some (.ofText "1700 16 9 1 15 2")),
  .ofNames ["Thaa", "Thaana"] (some (.ofText "60C 1 E 2 2 1 40 A 116 32 F640 1 A 1")),
  .ofNames ["Thai"] (some (.ofText "2BC 1 1A 1 2B 1 2D 1 ACF 3A 5 1C")),
  .ofNames ["Tibt", "Tibetan"] (some (.ofText "F00 48 1 24 4 27 1 24 1 F 1 7 4 2 202D 4")),
  .ofNames ["Tirh", "Tirhuta"] (some (.ofText "951 2 11 2 136F 1 C 1 F 1 8B3D A 6C46 48 8 A")),
  .ofNames ["Todr", "Todhri"] (some (.ofText "301 1 2 1 2 1 9 1 1 1 4A 1 10261 34")),
  .ofNames ["Toto"] (some (.ofText "2BC 1 1DFD3 1F")),
  .ofNames ["Tutg", "Tulu_Tigalari"] (some (.ofText "
    CE6 A 1002 1 1 1 8B3B 6 BB 1 6A8E A 1 1 2 1 1 26 1 A 1 1 2 1 1 4 1 A 1 2 8 2")),
  .ofNames ["Yezi", "Yezidi"] (some (.ofText "60C 1 E 1 3 1 40 A 10816 2A 1 3 2 2")),
  .ofNames ["Yiii", "Yi"] (some (.ofText "3001 2 5 A 2 8 DF 1 6F04 48D 3 37 5A9A 5")),
  .ofNames ["Zinh", "Inherited", "Qaai"] (some (.ofText "
    30F 1 2 1 1 F 3 7 2 1 2 10 1 2 1 12 1 5 1 4 5F0 2 115B 1F 2F3 36 1 1 1 5 20C 2 C2 20 DD10 10
    10 E 3CF 1 CD02 2E 2 17 220 3 11 8 2 7 1E 4 C2F52 F0")),
  .ofNames ["Zyyy", "Common"] (some (.ofText "
    0 41 1A 6 1A 2F 1 C 1 2 1 5 17 1 1F 1 1C1 3 1 A 1 1 3 1 1 9 1 1 1 6 5 5 2 14 7E 1 6 1 1 1 27D
    1 D7 1 204 1 55C 1 195 4 1027 C 2 21 1 1F 1 A 1 2 1 7 1 B 3 B 1 F 11 21 3F 26 1 3 2 6 1 1B 1
    11 29 3 4 29A 16 B 15 3A0 100 274 2 20 1 69 200 17 1 18 2 A 1 4 1 1 1 1A 1A2 1 3 1 D 1 D 1 15
    1 211 18 1F 1 31 F C 4 A1 A 5 60 1F 1 19C0 40 5908 1A 66 3 3D0 1 E 2 52A4 A 16 15 2 C 1 13 1 4
    93 1 1 20 1A 6 1A 6 7F 7 1 7 A 5 192 D 33 2D CA03 FA 6 1B4 9C 74 3C F6 A 27 2 3E 3 11 8 2 7 1E
    4 3D D5 14 C 14 C 57 1B 7 87 55 1 47 1 2 2 1 2 2 2 4 1 C 1 1 1 7 1 41 1 4 2 8 1 7 1 1C 1 4 1 5
    1 1 3 7 1 154 2 124 2 32 1471 44 4C 3D 2C2 2C 4 64 C F 2 F 1 F 1 25 A AE 38 1A 1 2 D 2C 4 9 17
    6 9A 3D8 4 11 3 D 3 77 4 5F 6 C 4 1 F C 4 38 8 A 6 28 8 1E 2 C 4 2 3E 154 C E 2 D 3 A 5 38 7 F
    2 B 6 9 7 93 1 66 C0407 1 1E 60"))]

/-- The characters that each script is used with. -/
def scriptExtensions : List PropertyValue :=
  scripts.map (fun v => (extendedScripts.find? (fun x => x.names == v.names)).getD v)

end KeywordGrammar.Unicode
