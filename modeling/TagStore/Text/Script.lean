import TagStore.Text.Ranges
/-!
# Text.Script

The script of every character, after Unicode 16.0, by its long name: `Latin`, `Greek`,
`Han` and so on, `Common` for characters that several scripts share, `Inherited` for
marks that take the script of the character they follow, and `Unknown` for code points
that are not assigned. The script extensions of a character are the scripts it is used
with: for most characters its script alone, for some shared ones a list.
-/

namespace TagStore.Text

/-- The long names of the scripts, in table-code order; code 0 is `Unknown`. -/
def scriptNames : Array String := #[
  "Unknown", "Adlam", "Ahom", "Anatolian_Hieroglyphs", "Arabic", "Armenian", "Avestan",
  "Balinese", "Bamum", "Bassa_Vah", "Batak", "Bengali", "Bhaiksuki", "Bopomofo", "Brahmi",
  "Braille", "Buginese", "Buhid", "Canadian_Aboriginal", "Carian", "Caucasian_Albanian",
  "Chakma", "Cham", "Cherokee", "Chorasmian", "Common", "Coptic", "Cuneiform", "Cypriot",
  "Cypro_Minoan", "Cyrillic", "Deseret", "Devanagari", "Dives_Akuru", "Dogra", "Duployan",
  "Egyptian_Hieroglyphs", "Elbasan", "Elymaic", "Ethiopic", "Garay", "Georgian",
  "Glagolitic", "Gothic", "Grantha", "Greek", "Gujarati", "Gunjala_Gondi", "Gurmukhi",
  "Gurung_Khema", "Han", "Hangul", "Hanifi_Rohingya", "Hanunoo", "Hatran", "Hebrew",
  "Hiragana", "Imperial_Aramaic", "Inherited", "Inscriptional_Pahlavi",
  "Inscriptional_Parthian", "Javanese", "Kaithi", "Kannada", "Katakana", "Kawi", "Kayah_Li",
  "Kharoshthi", "Khitan_Small_Script", "Khmer", "Khojki", "Khudawadi", "Kirat_Rai", "Lao",
  "Latin", "Lepcha", "Limbu", "Linear_A", "Linear_B", "Lisu", "Lycian", "Lydian",
  "Mahajani", "Makasar", "Malayalam", "Mandaic", "Manichaean", "Marchen", "Masaram_Gondi",
  "Medefaidrin", "Meetei_Mayek", "Mende_Kikakui", "Meroitic_Cursive",
  "Meroitic_Hieroglyphs", "Miao", "Modi", "Mongolian", "Mro", "Multani", "Myanmar",
  "Nabataean", "Nag_Mundari", "Nandinagari", "New_Tai_Lue", "Newa", "Nko", "Nushu",
  "Nyiakeng_Puachue_Hmong", "Ogham", "Ol_Chiki", "Ol_Onal", "Old_Hungarian", "Old_Italic",
  "Old_North_Arabian", "Old_Permic", "Old_Persian", "Old_Sogdian", "Old_South_Arabian",
  "Old_Turkic", "Old_Uyghur", "Oriya", "Osage", "Osmanya", "Pahawh_Hmong", "Palmyrene",
  "Pau_Cin_Hau", "Phags_Pa", "Phoenician", "Psalter_Pahlavi", "Rejang", "Runic",
  "Samaritan", "Saurashtra", "Sharada", "Shavian", "Siddham", "SignWriting", "Sinhala",
  "Sogdian", "Sora_Sompeng", "Soyombo", "Sundanese", "Sunuwar", "Syloti_Nagri", "Syriac",
  "Tagalog", "Tagbanwa", "Tai_Le", "Tai_Tham", "Tai_Viet", "Takri", "Tamil", "Tangsa",
  "Tangut", "Telugu", "Thaana", "Thai", "Tibetan", "Tifinagh", "Tirhuta", "Todhri", "Toto",
  "Tulu_Tigalari", "Ugaritic", "Vai", "Vithkuqi", "Wancho", "Warang_Citi", "Yezidi", "Yi",
  "Zanabazar_Square"]

/-- Range starts and script codes. -/
def scriptTable : RangeMap := RangeMap.ofHex "
0 19 41 4a 5b 19 61 4a 7b 19 aa 4a ab 19 ba 4a bb 19 c0 4a d7 19 d8 4a f7 19 f8 4a 2b9
19 2e0 4a 2e5 19 2ea d 2ec 19 300 3a 370 2d 374 19 375 2d 378 0 37a 2d 37e 19 37f 2d
380 0 384 2d 385 19 386 2d 387 19 388 2d 38b 0 38c 2d 38d 0 38e 2d 3a2 0 3a3 2d 3e2 1a
3f0 2d 400 1e 485 3a 487 1e 530 0 531 5 557 0 559 5 58b 0 58d 5 590 0 591 37 5c8 0 5d0
37 5eb 0 5ef 37 5f5 0 600 4 605 19 606 4 60c 19 60d 4 61b 19 61c 4 61f 19 620 4 640 19
641 4 64b 3a 656 4 670 3a 671 4 6dd 19 6de 4 700 90 70e 0 70f 90 74b 0 74d 90 750 4
780 9b 7b2 0 7c0 69 7fb 0 7fd 69 800 83 82e 0 830 83 83f 0 840 55 85c 0 85e 55 85f 0
860 90 86b 0 870 4 88f 0 890 4 892 0 897 4 8e2 19 8e3 4 900 20 951 3a 955 20 964 19
966 20 980 b 984 0 985 b 98d 0 98f b 991 0 993 b 9a9 0 9aa b 9b1 0 9b2 b 9b3 0 9b6 b
9ba 0 9bc b 9c5 0 9c7 b 9c9 0 9cb b 9cf 0 9d7 b 9d8 0 9dc b 9de 0 9df b 9e4 0 9e6 b
9ff 0 a01 30 a04 0 a05 30 a0b 0 a0f 30 a11 0 a13 30 a29 0 a2a 30 a31 0 a32 30 a34 0
a35 30 a37 0 a38 30 a3a 0 a3c 30 a3d 0 a3e 30 a43 0 a47 30 a49 0 a4b 30 a4e 0 a51 30
a52 0 a59 30 a5d 0 a5e 30 a5f 0 a66 30 a77 0 a81 2e a84 0 a85 2e a8e 0 a8f 2e a92 0
a93 2e aa9 0 aaa 2e ab1 0 ab2 2e ab4 0 ab5 2e aba 0 abc 2e ac6 0 ac7 2e aca 0 acb 2e
ace 0 ad0 2e ad1 0 ae0 2e ae4 0 ae6 2e af2 0 af9 2e b00 0 b01 78 b04 0 b05 78 b0d 0
b0f 78 b11 0 b13 78 b29 0 b2a 78 b31 0 b32 78 b34 0 b35 78 b3a 0 b3c 78 b45 0 b47 78
b49 0 b4b 78 b4e 0 b55 78 b58 0 b5c 78 b5e 0 b5f 78 b64 0 b66 78 b78 0 b82 97 b84 0
b85 97 b8b 0 b8e 97 b91 0 b92 97 b96 0 b99 97 b9b 0 b9c 97 b9d 0 b9e 97 ba0 0 ba3 97
ba5 0 ba8 97 bab 0 bae 97 bba 0 bbe 97 bc3 0 bc6 97 bc9 0 bca 97 bce 0 bd0 97 bd1 0
bd7 97 bd8 0 be6 97 bfb 0 c00 9a c0d 0 c0e 9a c11 0 c12 9a c29 0 c2a 9a c3a 0 c3c 9a
c45 0 c46 9a c49 0 c4a 9a c4e 0 c55 9a c57 0 c58 9a c5b 0 c5d 9a c5e 0 c60 9a c64 0
c66 9a c70 0 c77 9a c80 3f c8d 0 c8e 3f c91 0 c92 3f ca9 0 caa 3f cb4 0 cb5 3f cba 0
cbc 3f cc5 0 cc6 3f cc9 0 cca 3f cce 0 cd5 3f cd7 0 cdd 3f cdf 0 ce0 3f ce4 0 ce6 3f
cf0 0 cf1 3f cf4 0 d00 54 d0d 0 d0e 54 d11 0 d12 54 d45 0 d46 54 d49 0 d4a 54 d50 0
d54 54 d64 0 d66 54 d80 0 d81 89 d84 0 d85 89 d97 0 d9a 89 db2 0 db3 89 dbc 0 dbd 89
dbe 0 dc0 89 dc7 0 dca 89 dcb 0 dcf 89 dd5 0 dd6 89 dd7 0 dd8 89 de0 0 de6 89 df0 0
df2 89 df5 0 e01 9c e3b 0 e3f 19 e40 9c e5c 0 e81 49 e83 0 e84 49 e85 0 e86 49 e8b 0
e8c 49 ea4 0 ea5 49 ea6 0 ea7 49 ebe 0 ec0 49 ec5 0 ec6 49 ec7 0 ec8 49 ecf 0 ed0 49
eda 0 edc 49 ee0 0 f00 9d f48 0 f49 9d f6d 0 f71 9d f98 0 f99 9d fbd 0 fbe 9d fcd 0
fce 9d fd5 19 fd9 9d fdb 0 1000 63 10a0 29 10c6 0 10c7 29 10c8 0 10cd 29 10ce 0 10d0
29 10fb 19 10fc 29 1100 33 1200 27 1249 0 124a 27 124e 0 1250 27 1257 0 1258 27 1259 0
125a 27 125e 0 1260 27 1289 0 128a 27 128e 0 1290 27 12b1 0 12b2 27 12b6 0 12b8 27
12bf 0 12c0 27 12c1 0 12c2 27 12c6 0 12c8 27 12d7 0 12d8 27 1311 0 1312 27 1316 0 1318
27 135b 0 135d 27 137d 0 1380 27 139a 0 13a0 17 13f6 0 13f8 17 13fe 0 1400 12 1680 6c
169d 0 16a0 82 16eb 19 16ee 82 16f9 0 1700 91 1716 0 171f 91 1720 35 1735 19 1737 0
1740 11 1754 0 1760 92 176d 0 176e 92 1771 0 1772 92 1774 0 1780 45 17de 0 17e0 45
17ea 0 17f0 45 17fa 0 1800 60 1802 19 1804 60 1805 19 1806 60 181a 0 1820 60 1879 0
1880 60 18ab 0 18b0 12 18f6 0 1900 4c 191f 0 1920 4c 192c 0 1930 4c 193c 0 1940 4c
1941 0 1944 4c 1950 93 196e 0 1970 93 1975 0 1980 67 19ac 0 19b0 67 19ca 0 19d0 67
19db 0 19de 67 19e0 45 1a00 10 1a1c 0 1a1e 10 1a20 94 1a5f 0 1a60 94 1a7d 0 1a7f 94
1a8a 0 1a90 94 1a9a 0 1aa0 94 1aae 0 1ab0 3a 1acf 0 1b00 7 1b4d 0 1b4e 7 1b80 8d 1bc0
a 1bf4 0 1bfc a 1c00 4b 1c38 0 1c3b 4b 1c4a 0 1c4d 4b 1c50 6d 1c80 1e 1c8b 0 1c90 29
1cbb 0 1cbd 29 1cc0 8d 1cc8 0 1cd0 3a 1cd3 19 1cd4 3a 1ce1 19 1ce2 3a 1ce9 19 1ced 3a
1cee 19 1cf4 3a 1cf5 19 1cf8 3a 1cfa 19 1cfb 0 1d00 4a 1d26 2d 1d2b 1e 1d2c 4a 1d5d 2d
1d62 4a 1d66 2d 1d6b 4a 1d78 1e 1d79 4a 1dbf 2d 1dc0 3a 1e00 4a 1f00 2d 1f16 0 1f18 2d
1f1e 0 1f20 2d 1f46 0 1f48 2d 1f4e 0 1f50 2d 1f58 0 1f59 2d 1f5a 0 1f5b 2d 1f5c 0 1f5d
2d 1f5e 0 1f5f 2d 1f7e 0 1f80 2d 1fb5 0 1fb6 2d 1fc5 0 1fc6 2d 1fd4 0 1fd6 2d 1fdc 0
1fdd 2d 1ff0 0 1ff2 2d 1ff5 0 1ff6 2d 1fff 0 2000 19 200c 3a 200e 19 2065 0 2066 19
2071 4a 2072 0 2074 19 207f 4a 2080 19 208f 0 2090 4a 209d 0 20a0 19 20c1 0 20d0 3a
20f1 0 2100 19 2126 2d 2127 19 212a 4a 212c 19 2132 4a 2133 19 214e 4a 214f 19 2160 4a
2189 19 218c 0 2190 19 242a 0 2440 19 244b 0 2460 19 2800 f 2900 19 2b74 0 2b76 19
2b96 0 2b97 19 2c00 2a 2c60 4a 2c80 1a 2cf4 0 2cf9 1a 2d00 29 2d26 0 2d27 29 2d28 0
2d2d 29 2d2e 0 2d30 9e 2d68 0 2d6f 9e 2d71 0 2d7f 9e 2d80 27 2d97 0 2da0 27 2da7 0
2da8 27 2daf 0 2db0 27 2db7 0 2db8 27 2dbf 0 2dc0 27 2dc7 0 2dc8 27 2dcf 0 2dd0 27
2dd7 0 2dd8 27 2ddf 0 2de0 1e 2e00 19 2e5e 0 2e80 32 2e9a 0 2e9b 32 2ef4 0 2f00 32
2fd6 0 2ff0 19 3005 32 3006 19 3007 32 3008 19 3021 32 302a 3a 302e 33 3030 19 3038 32
303c 19 3040 0 3041 38 3097 0 3099 3a 309b 19 309d 38 30a0 19 30a1 40 30fb 19 30fd 40
3100 0 3105 d 3130 0 3131 33 318f 0 3190 19 31a0 d 31c0 19 31e6 0 31ef 19 31f0 40 3200
33 321f 0 3220 19 3260 33 327f 19 32d0 40 32ff 19 3300 40 3358 19 3400 32 4dc0 19 4e00
32 a000 a9 a48d 0 a490 a9 a4c7 0 a4d0 4f a500 a4 a62c 0 a640 1e a6a0 8 a6f8 0 a700 19
a722 4a a788 19 a78b 4a a7ce 0 a7d0 4a a7d2 0 a7d3 4a a7d4 0 a7d5 4a a7dd 0 a7f2 4a
a800 8f a82d 0 a830 19 a83a 0 a840 7e a878 0 a880 84 a8c6 0 a8ce 84 a8da 0 a8e0 20
a900 42 a92e 19 a92f 42 a930 81 a954 0 a95f 81 a960 33 a97d 0 a980 3d a9ce 0 a9cf 19
a9d0 3d a9da 0 a9de 3d a9e0 63 a9ff 0 aa00 16 aa37 0 aa40 16 aa4e 0 aa50 16 aa5a 0
aa5c 16 aa60 63 aa80 95 aac3 0 aadb 95 aae0 5a aaf7 0 ab01 27 ab07 0 ab09 27 ab0f 0
ab11 27 ab17 0 ab20 27 ab27 0 ab28 27 ab2f 0 ab30 4a ab5b 19 ab5c 4a ab65 2d ab66 4a
ab6a 19 ab6c 0 ab70 17 abc0 5a abee 0 abf0 5a abfa 0 ac00 33 d7a4 0 d7b0 33 d7c7 0
d7cb 33 d7fc 0 f900 32 fa6e 0 fa70 32 fada 0 fb00 4a fb07 0 fb13 5 fb18 0 fb1d 37 fb37
0 fb38 37 fb3d 0 fb3e 37 fb3f 0 fb40 37 fb42 0 fb43 37 fb45 0 fb46 37 fb50 4 fbc3 0
fbd3 4 fd3e 19 fd40 4 fd90 0 fd92 4 fdc8 0 fdcf 4 fdd0 0 fdf0 4 fe00 3a fe10 19 fe1a 0
fe20 3a fe2e 1e fe30 19 fe53 0 fe54 19 fe67 0 fe68 19 fe6c 0 fe70 4 fe75 0 fe76 4 fefd
0 feff 19 ff00 0 ff01 19 ff21 4a ff3b 19 ff41 4a ff5b 19 ff66 40 ff70 19 ff71 40 ff9e
19 ffa0 33 ffbf 0 ffc2 33 ffc8 0 ffca 33 ffd0 0 ffd2 33 ffd8 0 ffda 33 ffdd 0 ffe0 19
ffe7 0 ffe8 19 ffef 0 fff9 19 fffe 0 10000 4e 1000c 0 1000d 4e 10027 0 10028 4e 1003b
0 1003c 4e 1003e 0 1003f 4e 1004e 0 10050 4e 1005e 0 10080 4e 100fb 0 10100 19 10103 0
10107 19 10134 0 10137 19 10140 2d 1018f 0 10190 19 1019d 0 101a0 2d 101a1 0 101d0 19
101fd 3a 101fe 0 10280 50 1029d 0 102a0 13 102d1 0 102e0 3a 102e1 19 102fc 0 10300 70
10324 0 1032d 70 10330 2b 1034b 0 10350 72 1037b 0 10380 a3 1039e 0 1039f a3 103a0 73
103c4 0 103c8 73 103d6 0 10400 1f 10450 86 10480 7a 1049e 0 104a0 7a 104aa 0 104b0 79
104d4 0 104d8 79 104fc 0 10500 25 10528 0 10530 14 10564 0 1056f 14 10570 a5 1057b 0
1057c a5 1058b 0 1058c a5 10593 0 10594 a5 10596 0 10597 a5 105a2 0 105a3 a5 105b2 0
105b3 a5 105ba 0 105bb a5 105bd 0 105c0 a0 105f4 0 10600 4d 10737 0 10740 4d 10756 0
10760 4d 10768 0 10780 4a 10786 0 10787 4a 107b1 0 107b2 4a 107bb 0 10800 1c 10806 0
10808 1c 10809 0 1080a 1c 10836 0 10837 1c 10839 0 1083c 1c 1083d 0 1083f 1c 10840 39
10856 0 10857 39 10860 7c 10880 64 1089f 0 108a7 64 108b0 0 108e0 36 108f3 0 108f4 36
108f6 0 108fb 36 10900 7f 1091c 0 1091f 7f 10920 51 1093a 0 1093f 51 10940 0 10980 5d
109a0 5c 109b8 0 109bc 5c 109d0 0 109d2 5c 10a00 43 10a04 0 10a05 43 10a07 0 10a0c 43
10a14 0 10a15 43 10a18 0 10a19 43 10a36 0 10a38 43 10a3b 0 10a3f 43 10a49 0 10a50 43
10a59 0 10a60 75 10a80 71 10aa0 0 10ac0 56 10ae7 0 10aeb 56 10af7 0 10b00 6 10b36 0
10b39 6 10b40 3c 10b56 0 10b58 3c 10b60 3b 10b73 0 10b78 3b 10b80 80 10b92 0 10b99 80
10b9d 0 10ba9 80 10bb0 0 10c00 76 10c49 0 10c80 6f 10cb3 0 10cc0 6f 10cf3 0 10cfa 6f
10d00 34 10d28 0 10d30 34 10d3a 0 10d40 28 10d66 0 10d69 28 10d86 0 10d8e 28 10d90 0
10e60 4 10e7f 0 10e80 a8 10eaa 0 10eab a8 10eae 0 10eb0 a8 10eb2 0 10ec2 4 10ec5 0
10efc 4 10f00 74 10f28 0 10f30 8a 10f5a 0 10f70 77 10f8a 0 10fb0 18 10fcc 0 10fe0 26
10ff7 0 11000 e 1104e 0 11052 e 11076 0 1107f e 11080 3e 110c3 0 110cd 3e 110ce 0
110d0 8b 110e9 0 110f0 8b 110fa 0 11100 15 11135 0 11136 15 11148 0 11150 52 11177 0
11180 85 111e0 0 111e1 89 111f5 0 11200 46 11212 0 11213 46 11242 0 11280 62 11287 0
11288 62 11289 0 1128a 62 1128e 0 1128f 62 1129e 0 1129f 62 112aa 0 112b0 47 112eb 0
112f0 47 112fa 0 11300 2c 11304 0 11305 2c 1130d 0 1130f 2c 11311 0 11313 2c 11329 0
1132a 2c 11331 0 11332 2c 11334 0 11335 2c 1133a 0 1133b 3a 1133c 2c 11345 0 11347 2c
11349 0 1134b 2c 1134e 0 11350 2c 11351 0 11357 2c 11358 0 1135d 2c 11364 0 11366 2c
1136d 0 11370 2c 11375 0 11380 a2 1138a 0 1138b a2 1138c 0 1138e a2 1138f 0 11390 a2
113b6 0 113b7 a2 113c1 0 113c2 a2 113c3 0 113c5 a2 113c6 0 113c7 a2 113cb 0 113cc a2
113d6 0 113d7 a2 113d9 0 113e1 a2 113e3 0 11400 68 1145c 0 1145d 68 11462 0 11480 9f
114c8 0 114d0 9f 114da 0 11580 87 115b6 0 115b8 87 115de 0 11600 5f 11645 0 11650 5f
1165a 0 11660 60 1166d 0 11680 96 116ba 0 116c0 96 116ca 0 116d0 63 116e4 0 11700 2
1171b 0 1171d 2 1172c 0 11730 2 11747 0 11800 22 1183c 0 118a0 a7 118f3 0 118ff a7
11900 21 11907 0 11909 21 1190a 0 1190c 21 11914 0 11915 21 11917 0 11918 21 11936 0
11937 21 11939 0 1193b 21 11947 0 11950 21 1195a 0 119a0 66 119a8 0 119aa 66 119d8 0
119da 66 119e5 0 11a00 aa 11a48 0 11a50 8c 11aa3 0 11ab0 12 11ac0 7d 11af9 0 11b00 20
11b0a 0 11bc0 8e 11be2 0 11bf0 8e 11bfa 0 11c00 c 11c09 0 11c0a c 11c37 0 11c38 c
11c46 0 11c50 c 11c6d 0 11c70 57 11c90 0 11c92 57 11ca8 0 11ca9 57 11cb7 0 11d00 58
11d07 0 11d08 58 11d0a 0 11d0b 58 11d37 0 11d3a 58 11d3b 0 11d3c 58 11d3e 0 11d3f 58
11d48 0 11d50 58 11d5a 0 11d60 2f 11d66 0 11d67 2f 11d69 0 11d6a 2f 11d8f 0 11d90 2f
11d92 0 11d93 2f 11d99 0 11da0 2f 11daa 0 11ee0 53 11ef9 0 11f00 41 11f11 0 11f12 41
11f3b 0 11f3e 41 11f5b 0 11fb0 4f 11fb1 0 11fc0 97 11ff2 0 11fff 97 12000 1b 1239a 0
12400 1b 1246f 0 12470 1b 12475 0 12480 1b 12544 0 12f90 1d 12ff3 0 13000 24 13456 0
13460 24 143fb 0 14400 3 14647 0 16100 31 1613a 0 16800 8 16a39 0 16a40 61 16a5f 0
16a60 61 16a6a 0 16a6e 61 16a70 98 16abf 0 16ac0 98 16aca 0 16ad0 9 16aee 0 16af0 9
16af6 0 16b00 7b 16b46 0 16b50 7b 16b5a 0 16b5b 7b 16b62 0 16b63 7b 16b78 0 16b7d 7b
16b90 0 16d40 48 16d7a 0 16e40 59 16e9b 0 16f00 5e 16f4b 0 16f4f 5e 16f88 0 16f8f 5e
16fa0 0 16fe0 99 16fe1 6a 16fe2 32 16fe4 44 16fe5 0 16ff0 32 16ff2 0 17000 99 187f8 0
18800 99 18b00 44 18cd6 0 18cff 44 18d00 99 18d09 0 1aff0 40 1aff4 0 1aff5 40 1affc 0
1affd 40 1afff 0 1b000 40 1b001 38 1b120 40 1b123 0 1b132 38 1b133 0 1b150 38 1b153 0
1b155 40 1b156 0 1b164 40 1b168 0 1b170 6a 1b2fc 0 1bc00 23 1bc6b 0 1bc70 23 1bc7d 0
1bc80 23 1bc89 0 1bc90 23 1bc9a 0 1bc9c 23 1bca0 19 1bca4 0 1cc00 19 1ccfa 0 1cd00 19
1ceb4 0 1cf00 3a 1cf2e 0 1cf30 3a 1cf47 0 1cf50 19 1cfc4 0 1d000 19 1d0f6 0 1d100 19
1d127 0 1d129 19 1d167 3a 1d16a 19 1d17b 3a 1d183 19 1d185 3a 1d18c 19 1d1aa 3a 1d1ae
19 1d1eb 0 1d200 2d 1d246 0 1d2c0 19 1d2d4 0 1d2e0 19 1d2f4 0 1d300 19 1d357 0 1d360
19 1d379 0 1d400 19 1d455 0 1d456 19 1d49d 0 1d49e 19 1d4a0 0 1d4a2 19 1d4a3 0 1d4a5
19 1d4a7 0 1d4a9 19 1d4ad 0 1d4ae 19 1d4ba 0 1d4bb 19 1d4bc 0 1d4bd 19 1d4c4 0 1d4c5
19 1d506 0 1d507 19 1d50b 0 1d50d 19 1d515 0 1d516 19 1d51d 0 1d51e 19 1d53a 0 1d53b
19 1d53f 0 1d540 19 1d545 0 1d546 19 1d547 0 1d54a 19 1d551 0 1d552 19 1d6a6 0 1d6a8
19 1d7cc 0 1d7ce 19 1d800 88 1da8c 0 1da9b 88 1daa0 0 1daa1 88 1dab0 0 1df00 4a 1df1f
0 1df25 4a 1df2b 0 1e000 2a 1e007 0 1e008 2a 1e019 0 1e01b 2a 1e022 0 1e023 2a 1e025 0
1e026 2a 1e02b 0 1e030 1e 1e06e 0 1e08f 1e 1e090 0 1e100 6b 1e12d 0 1e130 6b 1e13e 0
1e140 6b 1e14a 0 1e14e 6b 1e150 0 1e290 a1 1e2af 0 1e2c0 a6 1e2fa 0 1e2ff a6 1e300 0
1e4d0 65 1e4fa 0 1e5d0 6e 1e5fb 0 1e5ff 6e 1e600 0 1e7e0 27 1e7e7 0 1e7e8 27 1e7ec 0
1e7ed 27 1e7ef 0 1e7f0 27 1e7ff 0 1e800 5b 1e8c5 0 1e8c7 5b 1e8d7 0 1e900 1 1e94c 0
1e950 1 1e95a 0 1e95e 1 1e960 0 1ec71 19 1ecb5 0 1ed01 19 1ed3e 0 1ee00 4 1ee04 0
1ee05 4 1ee20 0 1ee21 4 1ee23 0 1ee24 4 1ee25 0 1ee27 4 1ee28 0 1ee29 4 1ee33 0 1ee34
4 1ee38 0 1ee39 4 1ee3a 0 1ee3b 4 1ee3c 0 1ee42 4 1ee43 0 1ee47 4 1ee48 0 1ee49 4
1ee4a 0 1ee4b 4 1ee4c 0 1ee4d 4 1ee50 0 1ee51 4 1ee53 0 1ee54 4 1ee55 0 1ee57 4 1ee58
0 1ee59 4 1ee5a 0 1ee5b 4 1ee5c 0 1ee5d 4 1ee5e 0 1ee5f 4 1ee60 0 1ee61 4 1ee63 0
1ee64 4 1ee65 0 1ee67 4 1ee6b 0 1ee6c 4 1ee73 0 1ee74 4 1ee78 0 1ee79 4 1ee7d 0 1ee7e
4 1ee7f 0 1ee80 4 1ee8a 0 1ee8b 4 1ee9c 0 1eea1 4 1eea4 0 1eea5 4 1eeaa 0 1eeab 4
1eebc 0 1eef0 4 1eef2 0 1f000 19 1f02c 0 1f030 19 1f094 0 1f0a0 19 1f0af 0 1f0b1 19
1f0c0 0 1f0c1 19 1f0d0 0 1f0d1 19 1f0f6 0 1f100 19 1f1ae 0 1f1e6 19 1f200 38 1f201 19
1f203 0 1f210 19 1f23c 0 1f240 19 1f249 0 1f250 19 1f252 0 1f260 19 1f266 0 1f300 19
1f6d8 0 1f6dc 19 1f6ed 0 1f6f0 19 1f6fd 0 1f700 19 1f777 0 1f77b 19 1f7da 0 1f7e0 19
1f7ec 0 1f7f0 19 1f7f1 0 1f800 19 1f80c 0 1f810 19 1f848 0 1f850 19 1f85a 0 1f860 19
1f888 0 1f890 19 1f8ae 0 1f8b0 19 1f8bc 0 1f8c0 19 1f8c2 0 1f900 19 1fa54 0 1fa60 19
1fa6e 0 1fa70 19 1fa7d 0 1fa80 19 1fa8a 0 1fa8f 19 1fac7 0 1face 19 1fadd 0 1fadf 19
1faea 0 1faf0 19 1faf9 0 1fb00 19 1fb93 0 1fb94 19 1fbfa 0 20000 32 2a6e0 0 2a700 32
2b73a 0 2b740 32 2b81e 0 2b820 32 2cea2 0 2ceb0 32 2ebe1 0 2ebf0 32 2ee5e 0 2f800 32
2fa1e 0 30000 32 3134b 0 31350 32 323b0 0 e0001 19 e0002 0 e0020 19 e0080 0 e0100 3a
e01f0 0"

/-- The script of a character. -/
def script (c : Char) : String := scriptNames.getD (scriptTable.get c) "Unknown"

/-- The script lists of the characters whose extensions are not their script alone, by
script codes; list 0 stands for the script alone. -/
def extensionLists : Array (List Nat) := #[
  [], [6, 19, 26, 35, 37, 41, 42, 43, 45, 47, 50, 74, 81, 82, 114, 134],
  [11, 30, 32, 74, 79, 156, 161], [13, 74], [74, 79], [74, 156],
  [23, 26, 30, 45, 74, 114, 142, 147], [23, 30, 45, 74, 121, 142, 147, 160],
  [23, 30, 74, 158], [42, 74, 142, 144, 156],
  [20, 23, 26, 30, 43, 45, 74, 121, 144, 158, 160], [26, 37, 42, 43, 64, 74],
  [30, 45, 74, 114, 158], [26, 35, 55, 74, 114, 144, 147, 158, 160],
  [5, 30, 35, 43, 45, 55, 74, 114, 144, 147, 158], [74, 158], [35, 74, 144],
  [23, 30, 74, 121], [23, 74, 147], [74, 142], [39, 74], [30, 74, 160], [45, 74, 114, 160],
  [23, 35, 64, 74, 144, 158], [23, 35, 74, 144], [74, 144], [74, 142, 144], [23, 74, 144],
  [20, 23, 43, 74, 142, 144, 156], [45], [74, 121], [20, 74, 160], [74], [26, 45],
  [30, 114], [30, 42], [30, 74], [5, 41, 42], [4, 40, 52, 105, 144, 155, 168],
  [4, 144, 155], [1, 4, 40, 52, 105, 144, 155, 168], [1, 4, 52, 85, 86, 119, 128, 138, 144],
  [4, 144], [4, 155, 168], [4, 52],
  [11, 32, 44, 46, 48, 63, 74, 84, 102, 104, 120, 133, 151, 154, 159],
  [11, 32, 44, 46, 48, 63, 74, 84, 104, 120, 151, 154, 159],
  [11, 32, 34, 44, 46, 47, 48, 63, 71, 82, 84, 88, 102, 110, 120, 137, 143, 150, 151, 154, 159],
  [11, 32, 34, 44, 46, 47, 48, 49, 63, 71, 76, 82, 84, 88, 102, 110, 120, 137, 143, 150, 151, 154, 159],
  [32, 34, 62, 82], [11, 21, 143], [48, 98], [46, 70], [44, 151], [63, 102, 162],
  [21, 99, 147], [41, 42, 74], [130], [17, 53, 145, 146], [96, 126], [11, 32, 44, 63], [32],
  [32, 44, 63], [11, 32, 104, 154, 159], [11, 32, 154], [32, 104, 133], [11, 32, 104, 154],
  [32, 133], [32, 63, 84, 120, 151, 154], [11, 32], [32, 104, 159], [32, 102, 104],
  [11, 32, 133], [32, 104], [11, 32, 104, 133],
  [11, 32, 44, 63, 84, 102, 120, 137, 154, 159, 162], [32, 44], [32, 44, 63, 162], [11],
  [102], [30, 74, 144], [144], [74, 96, 126], [1, 4], [19, 41, 42, 80, 111, 118],
  [19, 45, 93, 111], [32, 44, 74], [26, 74], [6, 118], [6, 19, 41, 62, 81, 111, 131], [35],
  [1, 4, 111], [50, 153], [13, 50, 51, 56, 64, 96, 169], [13, 50, 51, 56, 64, 96, 126, 169],
  [13, 50, 51, 56, 64], [50], [13, 50, 51, 56, 64, 96, 157, 169],
  [13, 50, 51, 56, 64, 79, 96, 157, 169], [13, 50, 51, 56, 64, 169], [13, 50], [56, 64],
  [50, 56, 64], [50, 74],
  [32, 34, 46, 48, 62, 63, 70, 71, 82, 84, 95, 102, 133, 150, 159, 162],
  [32, 34, 46, 48, 62, 63, 70, 71, 82, 95, 102, 133, 150, 159, 162],
  [32, 34, 46, 48, 62, 70, 71, 82, 95, 150, 159],
  [32, 34, 46, 48, 62, 70, 71, 82, 95, 133, 150, 159], [11, 32, 162], [32, 151],
  [66, 74, 99], [16, 61], [4, 105], [4, 155], [28, 29, 78], [28, 78], [28, 77, 78], [4, 26],
  [86, 119]]

/-- Range starts and extension-list codes. -/
def extensionTable : RangeMap := RangeMap.ofHex "
0 0 b7 1 b8 0 2bc 2 2bd 0 2c7 3 2c8 0 2c9 3 2cc 0 2cd 4 2ce 0 2d7 5 2d8 0 2d9 3 2da 0
300 6 301 7 302 8 303 9 304 a 305 b 306 c 307 d 308 e 309 f 30a 10 30b 11 30c 12 30d
13 30e 14 30f 0 310 13 311 15 312 0 313 16 314 0 323 17 324 18 325 19 326 0 32d 1a 32e
19 32f 0 330 1b 331 1c 332 0 342 1d 343 0 345 1d 346 0 358 1e 359 0 35e 1f 35f 0 363
20 370 0 374 21 376 0 483 22 484 23 485 24 487 23 488 0 589 25 58a 0 60c 26 60d 0 61b
26 61c 27 61d 0 61f 28 620 0 640 29 641 0 64b 2a 656 0 660 2b 66a 0 670 2a 671 0 6d4
2c 6d5 0 951 2d 952 2e 953 0 964 2f 965 30 966 31 970 0 9e6 32 9f0 0 a66 33 a70 0 ae6
34 af0 0 be6 35 bf4 0 ce6 36 cf0 0 1040 37 104a 0 10fb 38 10fc 0 16eb 39 16ee 0 1735
3a 1737 0 1802 3b 1804 0 1805 3b 1806 0 1cd0 3c 1cd1 3d 1cd2 3c 1cd3 3e 1cd4 3d 1cd5
3f 1cd6 40 1cd7 41 1cd8 42 1cd9 43 1cda 44 1cdb 3d 1cdc 43 1cde 3d 1ce0 43 1ce1 45
1ce2 46 1ce3 3d 1ce9 47 1cea 48 1ceb 49 1cec 3d 1ced 4a 1cee 3d 1cf2 4b 1cf3 4c 1cf4
4d 1cf5 45 1cf7 4e 1cf8 4c 1cfa 4f 1cfb 0 1dc0 1d 1dc2 0 1df8 50 1df9 0 1dfa 51 1dfb 0
202f 52 2030 0 204f 53 2050 0 205a 54 205b 0 205d 55 205e 0 20f0 56 20f1 0 2e17 57
2e18 0 2e30 58 2e31 59 2e32 0 2e3c 5a 2e3d 0 2e41 5b 2e42 0 2e43 23 2e44 0 2ff0 5c
3000 0 3001 5d 3002 5e 3003 5f 3004 0 3006 60 3007 0 3008 61 300a 62 300c 63 3012 0
3013 5f 3014 63 301c 5f 3020 0 302a 64 302e 0 3030 5f 3031 65 3036 0 3037 5f 3038 0
303c 66 303e 60 3040 0 3099 65 309d 0 30a0 65 30a1 0 30fb 63 30fc 65 30fd 0 3190 60
31a0 0 31c0 60 31e6 0 31ef 5c 31f0 0 3220 60 3248 0 3280 60 32b1 0 32c0 60 32cc 0 32ff
60 3300 0 3358 60 3371 0 337b 60 3380 0 33e0 60 33ff 0 a66f 23 a670 0 a700 67 a708 0
a830 68 a833 69 a836 6a a838 6b a839 6a a83a 0 a8f1 6c a8f2 0 a8f3 6d a8f4 0 a92e 6e
a92f 0 a9cf 6f a9d0 0 fd3e 70 fd40 0 fdf2 71 fdf3 0 fdfd 71 fdfe 0 fe45 5f fe47 0 ff61
63 ff66 0 ff70 65 ff71 0 ff9e 65 ffa0 0 10100 72 10102 73 10103 0 10107 74 10134 0
10137 73 10140 0 102e0 75 102fc 0 10af2 76 10af3 0 11301 35 11302 0 11303 35 11304 0
1133b 35 1133d 0 11fd0 35 11fd2 0 11fd3 35 11fd4 0 1bca0 5a 1bca4 0 1d360 60 1d372 0
1f250 60 1f252 0"

/-- The script extensions of a character. -/
def scriptExtensions (c : Char) : List String :=
  match extensionTable.get c with
  | 0 => [script c]
  | k => (extensionLists.getD k []).map (scriptNames.getD · "Unknown")

/-- Each script by its long name, with all its names: its four-letter code, its long name
and any other aliases. `Unknown` and `Katakana_Or_Hiragana` have names but no characters
of their own. -/
def scriptAliases : List (String × List String) := [
  ("Adlam", ["Adlm", "Adlam"]),
  ("Ahom", ["Ahom", "Ahom"]),
  ("Anatolian_Hieroglyphs", ["Hluw", "Anatolian_Hieroglyphs"]),
  ("Arabic", ["Arab", "Arabic"]),
  ("Armenian", ["Armn", "Armenian"]),
  ("Avestan", ["Avst", "Avestan"]),
  ("Balinese", ["Bali", "Balinese"]),
  ("Bamum", ["Bamu", "Bamum"]),
  ("Bassa_Vah", ["Bass", "Bassa_Vah"]),
  ("Batak", ["Batk", "Batak"]),
  ("Bengali", ["Beng", "Bengali"]),
  ("Bhaiksuki", ["Bhks", "Bhaiksuki"]),
  ("Bopomofo", ["Bopo", "Bopomofo"]),
  ("Brahmi", ["Brah", "Brahmi"]),
  ("Braille", ["Brai", "Braille"]),
  ("Buginese", ["Bugi", "Buginese"]),
  ("Buhid", ["Buhd", "Buhid"]),
  ("Canadian_Aboriginal", ["Cans", "Canadian_Aboriginal"]),
  ("Carian", ["Cari", "Carian"]),
  ("Caucasian_Albanian", ["Aghb", "Caucasian_Albanian"]),
  ("Chakma", ["Cakm", "Chakma"]),
  ("Cham", ["Cham", "Cham"]),
  ("Cherokee", ["Cher", "Cherokee"]),
  ("Chorasmian", ["Chrs", "Chorasmian"]),
  ("Common", ["Zyyy", "Common"]),
  ("Coptic", ["Copt", "Coptic", "Qaac"]),
  ("Cuneiform", ["Xsux", "Cuneiform"]),
  ("Cypriot", ["Cprt", "Cypriot"]),
  ("Cypro_Minoan", ["Cpmn", "Cypro_Minoan"]),
  ("Cyrillic", ["Cyrl", "Cyrillic"]),
  ("Deseret", ["Dsrt", "Deseret"]),
  ("Devanagari", ["Deva", "Devanagari"]),
  ("Dives_Akuru", ["Diak", "Dives_Akuru"]),
  ("Dogra", ["Dogr", "Dogra"]),
  ("Duployan", ["Dupl", "Duployan"]),
  ("Egyptian_Hieroglyphs", ["Egyp", "Egyptian_Hieroglyphs"]),
  ("Elbasan", ["Elba", "Elbasan"]),
  ("Elymaic", ["Elym", "Elymaic"]),
  ("Ethiopic", ["Ethi", "Ethiopic"]),
  ("Garay", ["Gara", "Garay"]),
  ("Georgian", ["Geor", "Georgian"]),
  ("Glagolitic", ["Glag", "Glagolitic"]),
  ("Gothic", ["Goth", "Gothic"]),
  ("Grantha", ["Gran", "Grantha"]),
  ("Greek", ["Grek", "Greek"]),
  ("Gujarati", ["Gujr", "Gujarati"]),
  ("Gunjala_Gondi", ["Gong", "Gunjala_Gondi"]),
  ("Gurmukhi", ["Guru", "Gurmukhi"]),
  ("Gurung_Khema", ["Gukh", "Gurung_Khema"]),
  ("Han", ["Hani", "Han"]),
  ("Hangul", ["Hang", "Hangul"]),
  ("Hanifi_Rohingya", ["Rohg", "Hanifi_Rohingya"]),
  ("Hanunoo", ["Hano", "Hanunoo"]),
  ("Hatran", ["Hatr", "Hatran"]),
  ("Hebrew", ["Hebr", "Hebrew"]),
  ("Hiragana", ["Hira", "Hiragana"]),
  ("Imperial_Aramaic", ["Armi", "Imperial_Aramaic"]),
  ("Inherited", ["Zinh", "Inherited", "Qaai"]),
  ("Inscriptional_Pahlavi", ["Phli", "Inscriptional_Pahlavi"]),
  ("Inscriptional_Parthian", ["Prti", "Inscriptional_Parthian"]),
  ("Javanese", ["Java", "Javanese"]),
  ("Kaithi", ["Kthi", "Kaithi"]),
  ("Kannada", ["Knda", "Kannada"]),
  ("Katakana", ["Kana", "Katakana"]),
  ("Katakana_Or_Hiragana", ["Hrkt", "Katakana_Or_Hiragana"]),
  ("Kawi", ["Kawi", "Kawi"]),
  ("Kayah_Li", ["Kali", "Kayah_Li"]),
  ("Kharoshthi", ["Khar", "Kharoshthi"]),
  ("Khitan_Small_Script", ["Kits", "Khitan_Small_Script"]),
  ("Khmer", ["Khmr", "Khmer"]),
  ("Khojki", ["Khoj", "Khojki"]),
  ("Khudawadi", ["Sind", "Khudawadi"]),
  ("Kirat_Rai", ["Krai", "Kirat_Rai"]),
  ("Lao", ["Laoo", "Lao"]),
  ("Latin", ["Latn", "Latin"]),
  ("Lepcha", ["Lepc", "Lepcha"]),
  ("Limbu", ["Limb", "Limbu"]),
  ("Linear_A", ["Lina", "Linear_A"]),
  ("Linear_B", ["Linb", "Linear_B"]),
  ("Lisu", ["Lisu", "Lisu"]),
  ("Lycian", ["Lyci", "Lycian"]),
  ("Lydian", ["Lydi", "Lydian"]),
  ("Mahajani", ["Mahj", "Mahajani"]),
  ("Makasar", ["Maka", "Makasar"]),
  ("Malayalam", ["Mlym", "Malayalam"]),
  ("Mandaic", ["Mand", "Mandaic"]),
  ("Manichaean", ["Mani", "Manichaean"]),
  ("Marchen", ["Marc", "Marchen"]),
  ("Masaram_Gondi", ["Gonm", "Masaram_Gondi"]),
  ("Medefaidrin", ["Medf", "Medefaidrin"]),
  ("Meetei_Mayek", ["Mtei", "Meetei_Mayek"]),
  ("Mende_Kikakui", ["Mend", "Mende_Kikakui"]),
  ("Meroitic_Cursive", ["Merc", "Meroitic_Cursive"]),
  ("Meroitic_Hieroglyphs", ["Mero", "Meroitic_Hieroglyphs"]),
  ("Miao", ["Plrd", "Miao"]),
  ("Modi", ["Modi", "Modi"]),
  ("Mongolian", ["Mong", "Mongolian"]),
  ("Mro", ["Mroo", "Mro"]),
  ("Multani", ["Mult", "Multani"]),
  ("Myanmar", ["Mymr", "Myanmar"]),
  ("Nabataean", ["Nbat", "Nabataean"]),
  ("Nag_Mundari", ["Nagm", "Nag_Mundari"]),
  ("Nandinagari", ["Nand", "Nandinagari"]),
  ("New_Tai_Lue", ["Talu", "New_Tai_Lue"]),
  ("Newa", ["Newa", "Newa"]),
  ("Nko", ["Nkoo", "Nko"]),
  ("Nushu", ["Nshu", "Nushu"]),
  ("Nyiakeng_Puachue_Hmong", ["Hmnp", "Nyiakeng_Puachue_Hmong"]),
  ("Ogham", ["Ogam", "Ogham"]),
  ("Ol_Chiki", ["Olck", "Ol_Chiki"]),
  ("Ol_Onal", ["Onao", "Ol_Onal"]),
  ("Old_Hungarian", ["Hung", "Old_Hungarian"]),
  ("Old_Italic", ["Ital", "Old_Italic"]),
  ("Old_North_Arabian", ["Narb", "Old_North_Arabian"]),
  ("Old_Permic", ["Perm", "Old_Permic"]),
  ("Old_Persian", ["Xpeo", "Old_Persian"]),
  ("Old_Sogdian", ["Sogo", "Old_Sogdian"]),
  ("Old_South_Arabian", ["Sarb", "Old_South_Arabian"]),
  ("Old_Turkic", ["Orkh", "Old_Turkic"]),
  ("Old_Uyghur", ["Ougr", "Old_Uyghur"]),
  ("Oriya", ["Orya", "Oriya"]),
  ("Osage", ["Osge", "Osage"]),
  ("Osmanya", ["Osma", "Osmanya"]),
  ("Pahawh_Hmong", ["Hmng", "Pahawh_Hmong"]),
  ("Palmyrene", ["Palm", "Palmyrene"]),
  ("Pau_Cin_Hau", ["Pauc", "Pau_Cin_Hau"]),
  ("Phags_Pa", ["Phag", "Phags_Pa"]),
  ("Phoenician", ["Phnx", "Phoenician"]),
  ("Psalter_Pahlavi", ["Phlp", "Psalter_Pahlavi"]),
  ("Rejang", ["Rjng", "Rejang"]),
  ("Runic", ["Runr", "Runic"]),
  ("Samaritan", ["Samr", "Samaritan"]),
  ("Saurashtra", ["Saur", "Saurashtra"]),
  ("Sharada", ["Shrd", "Sharada"]),
  ("Shavian", ["Shaw", "Shavian"]),
  ("Siddham", ["Sidd", "Siddham"]),
  ("SignWriting", ["Sgnw", "SignWriting"]),
  ("Sinhala", ["Sinh", "Sinhala"]),
  ("Sogdian", ["Sogd", "Sogdian"]),
  ("Sora_Sompeng", ["Sora", "Sora_Sompeng"]),
  ("Soyombo", ["Soyo", "Soyombo"]),
  ("Sundanese", ["Sund", "Sundanese"]),
  ("Sunuwar", ["Sunu", "Sunuwar"]),
  ("Syloti_Nagri", ["Sylo", "Syloti_Nagri"]),
  ("Syriac", ["Syrc", "Syriac"]),
  ("Tagalog", ["Tglg", "Tagalog"]),
  ("Tagbanwa", ["Tagb", "Tagbanwa"]),
  ("Tai_Le", ["Tale", "Tai_Le"]),
  ("Tai_Tham", ["Lana", "Tai_Tham"]),
  ("Tai_Viet", ["Tavt", "Tai_Viet"]),
  ("Takri", ["Takr", "Takri"]),
  ("Tamil", ["Taml", "Tamil"]),
  ("Tangsa", ["Tnsa", "Tangsa"]),
  ("Tangut", ["Tang", "Tangut"]),
  ("Telugu", ["Telu", "Telugu"]),
  ("Thaana", ["Thaa", "Thaana"]),
  ("Thai", ["Thai", "Thai"]),
  ("Tibetan", ["Tibt", "Tibetan"]),
  ("Tifinagh", ["Tfng", "Tifinagh"]),
  ("Tirhuta", ["Tirh", "Tirhuta"]),
  ("Todhri", ["Todr", "Todhri"]),
  ("Toto", ["Toto", "Toto"]),
  ("Tulu_Tigalari", ["Tutg", "Tulu_Tigalari"]),
  ("Ugaritic", ["Ugar", "Ugaritic"]),
  ("Unknown", ["Zzzz", "Unknown"]),
  ("Vai", ["Vaii", "Vai"]),
  ("Vithkuqi", ["Vith", "Vithkuqi"]),
  ("Wancho", ["Wcho", "Wancho"]),
  ("Warang_Citi", ["Wara", "Warang_Citi"]),
  ("Yezidi", ["Yezi", "Yezidi"]),
  ("Yi", ["Yiii", "Yi"]),
  ("Zanabazar_Square", ["Zanb", "Zanabazar_Square"])]

end TagStore.Text
