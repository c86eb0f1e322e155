import TagStore.Text.Ranges
/-!
# Text.WordBreakClass

The word-break classes of Unicode 17.0 (`Word_Break` of UAX #29), and the characters of
the `Extended_Pictographic` property. Unlisted code points are of class `other`.
-/

namespace TagStore.Text

/-- The word-break class of a character. -/
inductive WordClass where
  | other
  | cr
  | lf
  | newline
  | extend
  | zwj
  | regionalIndicator
  | format
  | katakana
  | hebrewLetter
  | aLetter
  | singleQuote
  | doubleQuote
  | midNumLet
  | midLetter
  | midNum
  | numeric
  | extendNumLet
  | wSegSpace
  deriving BEq, Repr, Inhabited

/-- The class of a table code. -/
def WordClass.ofCode : Nat → WordClass
  | 1 => .cr
  | 2 => .lf
  | 3 => .newline
  | 4 => .extend
  | 5 => .zwj
  | 6 => .regionalIndicator
  | 7 => .format
  | 8 => .katakana
  | 9 => .hebrewLetter
  | 10 => .aLetter
  | 11 => .singleQuote
  | 12 => .doubleQuote
  | 13 => .midNumLet
  | 14 => .midLetter
  | 15 => .midNum
  | 16 => .numeric
  | 17 => .extendNumLet
  | 18 => .wSegSpace
  | _ => .other

/-- Range starts and class codes of the word-break classes. -/
def wordClassTable : RangeMap := RangeMap.ofHex "
a 2 b 3 d 1 e 0 20 12 21 0 22 c 23 0 27 b 28 0 2c f 2d 0 2e d 2f 0 30 10 3a e 3b f 3c
0 41 a 5b 0 5f 11 60 0 61 a 7b 0 85 3 86 0 aa a ab 0 ad 7 ae 0 b5 a b6 0 b7 e b8 a b9
0 ba a bb 0 c0 a d7 0 d8 a f7 0 f8 a 2d8 0 2de a 300 4 370 a 375 0 376 a 378 0 37a a
37e f 37f a 380 0 386 a 387 e 388 a 38b 0 38c a 38d 0 38e a 3a2 0 3a3 a 3f6 0 3f7 a
482 0 483 4 48a a 530 0 531 a 557 0 559 a 55d 0 55e a 55f e 560 a 589 f 58a a 58b 0
591 4 5be 0 5bf 4 5c0 0 5c1 4 5c3 0 5c4 4 5c6 0 5c7 4 5c8 0 5d0 9 5eb 0 5ef 9 5f3 a
5f4 e 5f5 0 600 10 606 0 60c f 60e 0 610 4 61b 0 61c 7 61d 0 620 a 64b 4 660 10 66a 0
66b 10 66c f 66d 0 66e a 670 4 671 a 6d4 0 6d5 a 6d6 4 6dd 10 6de 0 6df 4 6e5 a 6e7 4
6e9 0 6ea 4 6ee a 6f0 10 6fa a 6fd 0 6ff a 700 0 70f a 711 4 712 a 730 4 74b 0 74d a
7a6 4 7b1 a 7b2 0 7c0 10 7ca a 7eb 4 7f4 a 7f6 0 7f8 f 7f9 0 7fa a 7fb 0 7fd 4 7fe 0
800 a 816 4 81a a 81b 4 824 a 825 4 828 a 829 4 82e 0 840 a 859 4 85c 0 860 a 86b 0
870 a 888 0 889 a 890 10 892 0 897 4 8a0 a 8ca 4 8e2 10 8e3 4 904 a 93a 4 93d a 93e 4
950 a 951 4 958 a 962 4 964 0 966 10 970 0 971 a 981 4 984 0 985 a 98d 0 98f a 991 0
993 a 9a9 0 9aa a 9b1 0 9b2 a 9b3 0 9b6 a 9ba 0 9bc 4 9bd a 9be 4 9c5 0 9c7 4 9c9 0
9cb 4 9ce a 9cf 0 9d7 4 9d8 0 9dc a 9de 0 9df a 9e2 4 9e4 0 9e6 10 9f0 a 9f2 0 9fc a
9fd 0 9fe 4 9ff 0 a01 4 a04 0 a05 a a0b 0 a0f a a11 0 a13 a a29 0 a2a a a31 0 a32 a
a34 0 a35 a a37 0 a38 a a3a 0 a3c 4 a3d 0 a3e 4 a43 0 a47 4 a49 0 a4b 4 a4e 0 a51 4
a52 0 a59 a a5d 0 a5e a a5f 0 a66 10 a70 4 a72 a a75 4 a76 0 a81 4 a84 0 a85 a a8e 0
a8f a a92 0 a93 a aa9 0 aaa a ab1 0 ab2 a ab4 0 ab5 a aba 0 abc 4 abd a abe 4 ac6 0
ac7 4 aca 0 acb 4 ace 0 ad0 a ad1 0 ae0 a ae2 4 ae4 0 ae6 10 af0 0 af9 a afa 4 b00 0
b01 4 b04 0 b05 a b0d 0 b0f a b11 0 b13 a b29 0 b2a a b31 0 b32 a b34 0 b35 a b3a 0
b3c 4 b3d a b3e 4 b45 0 b47 4 b49 0 b4b 4 b4e 0 b55 4 b58 0 b5c a b5e 0 b5f a b62 4
b64 0 b66 10 b70 0 b71 a b72 0 b82 4 b83 a b84 0 b85 a b8b 0 b8e a b91 0 b92 a b96 0
b99 a b9b 0 b9c a b9d 0 b9e a ba0 0 ba3 a ba5 0 ba8 a bab 0 bae a bba 0 bbe 4 bc3 0
bc6 4 bc9 0 bca 4 bce 0 bd0 a bd1 0 bd7 4 bd8 0 be6 10 bf0 0 c00 4 c05 a c0d 0 c0e a
c11 0 c12 a c29 0 c2a a c3a 0 c3c 4 c3d a c3e 4 c45 0 c46 4 c49 0 c4a 4 c4e 0 c55 4
c57 0 c58 a c5b 0 c5c a c5e 0 c60 a c62 4 c64 0 c66 10 c70 0 c80 a c81 4 c84 0 c85 a
c8d 0 c8e a c91 0 c92 a ca9 0 caa a cb4 0 cb5 a cba 0 cbc 4 cbd a cbe 4 cc5 0 cc6 4
cc9 0 cca 4 cce 0 cd5 4 cd7 0 cdc a cdf 0 ce0 a ce2 4 ce4 0 ce6 10 cf0 0 cf1 a cf3 4
cf4 0 d00 4 d04 a d0d 0 d0e a d11 0 d12 a d3b 4 d3d a d3e 4 d45 0 d46 4 d49 0 d4a 4
d4e a d4f 0 d54 a d57 4 d58 0 d5f a d62 4 d64 0 d66 10 d70 0 d7a a d80 0 d81 4 d84 0
d85 a d97 0 d9a a db2 0 db3 a dbc 0 dbd a dbe 0 dc0 a dc7 0 dca 4 dcb 0 dcf 4 dd5 0
dd6 4 dd7 0 dd8 4 de0 0 de6 10 df0 0 df2 4 df4 0 e31 4 e32 0 e34 4 e3b 0 e47 4 e4f 0
e50 10 e5a 0 eb1 4 eb2 0 eb4 4 ebd 0 ec8 4 ecf 0 ed0 10 eda 0 f00 a f01 0 f18 4 f1a 0
f20 10 f2a 0 f35 4 f36 0 f37 4 f38 0 f39 4 f3a 0 f3e 4 f40 a f48 0 f49 a f6d 0 f71 4
f85 0 f86 4 f88 a f8d 4 f98 0 f99 4 fbd 0 fc6 4 fc7 0 102b 4 103f 0 1040 10 104a 0
1056 4 105a 0 105e 4 1061 0 1062 4 1065 0 1067 4 106e 0 1071 4 1075 0 1082 4 108e 0
108f 4 1090 10 109a 4 109e 0 10a0 a 10c6 0 10c7 a 10c8 0 10cd a 10ce 0 10d0 a 10fb 0
10fc a 1249 0 124a a 124e 0 1250 a 1257 0 1258 a 1259 0 125a a 125e 0 1260 a 1289 0
128a a 128e 0 1290 a 12b1 0 12b2 a 12b6 0 12b8 a 12bf 0 12c0 a 12c1 0 12c2 a 12c6 0
12c8 a 12d7 0 12d8 a 1311 0 1312 a 1316 0 1318 a 135b 0 135d 4 1360 0 1380 a 1390 0
13a0 a 13f6 0 13f8 a 13fe 0 1401 a 166d 0 166f a 1680 12 1681 a 169b 0 16a0 a 16eb 0
16ee a 16f9 0 1700 a 1712 4 1716 0 171f a 1732 4 1735 0 1740 a 1752 4 1754 0 1760 a
176d 0 176e a 1771 0 1772 4 1774 0 17b4 4 17d4 0 17dd 4 17de 0 17e0 10 17ea 0 180b 4
180e 7 180f 4 1810 10 181a 0 1820 a 1879 0 1880 a 1885 4 1887 a 18a9 4 18aa a 18ab 0
18b0 a 18f6 0 1900 a 191f 0 1920 4 192c 0 1930 4 193c 0 1946 10 1950 0 19d0 10 19db 0
1a00 a 1a17 4 1a1c 0 1a55 4 1a5f 0 1a60 4 1a7d 0 1a7f 4 1a80 10 1a8a 0 1a90 10 1a9a 0
1ab0 4 1ade 0 1ae0 4 1aec 0 1b00 4 1b05 a 1b34 4 1b45 a 1b4d 0 1b50 10 1b5a 0 1b6b 4
1b74 0 1b80 4 1b83 a 1ba1 4 1bae a 1bb0 10 1bba a 1be6 4 1bf4 0 1c00 a 1c24 4 1c38 0
1c40 10 1c4a 0 1c4d a 1c50 10 1c5a a 1c7e 0 1c80 a 1c8b 0 1c90 a 1cbb 0 1cbd a 1cc0 0
1cd0 4 1cd3 0 1cd4 4 1ce9 a 1ced 4 1cee a 1cf4 4 1cf5 a 1cf7 4 1cfa a 1cfb 0 1d00 a
1dc0 4 1e00 a 1f16 0 1f18 a 1f1e 0 1f20 a 1f46 0 1f48 a 1f4e 0 1f50 a 1f58 0 1f59 a
1f5a 0 1f5b a 1f5c 0 1f5d a 1f5e 0 1f5f a 1f7e 0 1f80 a 1fb5 0 1fb6 a 1fbd 0 1fbe a
1fbf 0 1fc2 a 1fc5 0 1fc6 a 1fcd 0 1fd0 a 1fd4 0 1fd6 a 1fdc 0 1fe0 a 1fed 0 1ff2 a
1ff5 0 1ff6 a 1ffd 0 2000 12 2007 0 2008 12 200b 0 200c 4 200d 5 200e 7 2010 0 2018 d
201a 0 2024 d 2025 0 2027 e 2028 3 202a 7 202f 11 2030 0 203f 11 2041 0 2044 f 2045 0
2054 11 2055 0 205f 12 2060 7 2065 0 2066 7 2070 0 2071 a 2072 0 207f a 2080 0 2090 a
209d 0 20d0 4 20f1 0 2102 a 2103 0 2107 a 2108 0 210a a 2114 0 2115 a 2116 0 2119 a
211e 0 2124 a 2125 0 2126 a 2127 0 2128 a 2129 0 212a a 212e 0 212f a 213a 0 213c a
2140 0 2145 a 214a 0 214e a 214f 0 2160 a 2189 0 24b6 a 24ea 0 2c00 a 2ce5 0 2ceb a
2cef 4 2cf2 a 2cf4 0 2d00 a 2d26 0 2d27 a 2d28 0 2d2d a 2d2e 0 2d30 a 2d68 0 2d6f a
2d70 0 2d7f 4 2d80 a 2d97 0 2da0 a 2da7 0 2da8 a 2daf 0 2db0 a 2db7 0 2db8 a 2dbf 0
2dc0 a 2dc7 0 2dc8 a 2dcf 0 2dd0 a 2dd7 0 2dd8 a 2ddf 0 2de0 4 2e00 0 2e2f a 2e30 0
3000 12 3001 0 3005 a 3006 0 302a 4 3030 0 3031 8 3036 0 303b a 303d 0 3099 4 309b 8
309d 0 30a0 8 30fb 0 30fc 8 3100 0 3105 a 3130 0 3131 a 318f 0 31a0 a 31c0 0 31f0 8
3200 0 32d0 8 32ff 0 3300 8 3358 0 a000 a a48d 0 a4d0 a a4fe 0 a500 a a60d 0 a610 a
a620 10 a62a a a62c 0 a640 a a66f 4 a673 0 a674 4 a67e 0 a67f a a69e 4 a6a0 a a6f0 4
a6f2 0 a708 a a7dd 0 a7f1 a a802 4 a803 a a806 4 a807 a a80b 4 a80c a a823 4 a828 0
a82c 4 a82d 0 a840 a a874 0 a880 4 a882 a a8b4 4 a8c6 0 a8d0 10 a8da 0 a8e0 4 a8f2 a
a8f8 0 a8fb a a8fc 0 a8fd a a8ff 4 a900 10 a90a a a926 4 a92e 0 a930 a a947 4 a954 0
a960 a a97d 0 a980 4 a984 a a9b3 4 a9c1 0 a9cf a a9d0 10 a9da 0 a9e5 4 a9e6 0 a9f0 10
a9fa 0 aa00 a aa29 4 aa37 0 aa40 a aa43 4 aa44 a aa4c 4 aa4e 0 aa50 10 aa5a 0 aa7b 4
aa7e 0 aab0 4 aab1 0 aab2 4 aab5 0 aab7 4 aab9 0 aabe 4 aac0 0 aac1 4 aac2 0 aae0 a
aaeb 4 aaf0 0 aaf2 a aaf5 4 aaf7 0 ab01 a ab07 0 ab09 a ab0f 0 ab11 a ab17 0 ab20 a
ab27 0 ab28 a ab2f 0 ab30 a ab6a 0 ab70 a abe3 4 abeb 0 abec 4 abee 0 abf0 10 abfa 0
ac00 a d7a4 0 d7b0 a d7c7 0 d7cb a d7fc 0 fb00 a fb07 0 fb13 a fb18 0 fb1d 9 fb1e 4
fb1f 9 fb29 0 fb2a 9 fb37 0 fb38 9 fb3d 0 fb3e 9 fb3f 0 fb40 9 fb42 0 fb43 9 fb45 0
fb46 9 fb50 a fbb2 0 fbd3 a fd3e 0 fd50 a fd90 0 fd92 a fdc8 0 fdf0 a fdfc 0 fe00 4
fe10 0 fe13 e fe14 0 fe20 4 fe30 0 fe33 11 fe35 0 fe4d 11 fe50 f fe51 0 fe52 d fe53 0
fe54 f fe55 e fe56 0 fe70 a fe75 0 fe76 a fefd 0 feff 7 ff00 0 ff07 d ff08 0 ff0c f
ff0d 0 ff0e d ff0f 0 ff10 10 ff1a e ff1b f ff1c 0 ff21 a ff3b 0 ff3f 11 ff40 0 ff41 a
ff5b 0 ff66 8 ff9e 4 ffa0 a ffbf 0 ffc2 a ffc8 0 ffca a ffd0 0 ffd2 a ffd8 0 ffda a
ffdd 0 fff9 7 fffc 0 10000 a 1000c 0 1000d a 10027 0 10028 a 1003b 0 1003c a 1003e 0
1003f a 1004e 0 10050 a 1005e 0 10080 a 100fb 0 10140 a 10175 0 101fd 4 101fe 0 10280
a 1029d 0 102a0 a 102d1 0 102e0 4 102e1 0 10300 a 10320 0 1032d a 1034b 0 10350 a
10376 4 1037b 0 10380 a 1039e 0 103a0 a 103c4 0 103c8 a 103d0 0 103d1 a 103d6 0 10400
a 1049e 0 104a0 10 104aa 0 104b0 a 104d4 0 104d8 a 104fc 0 10500 a 10528 0 10530 a
10564 0 10570 a 1057b 0 1057c a 1058b 0 1058c a 10593 0 10594 a 10596 0 10597 a 105a2
0 105a3 a 105b2 0 105b3 a 105ba 0 105bb a 105bd 0 105c0 a 105f4 0 10600 a 10737 0
10740 a 10756 0 10760 a 10768 0 10780 a 10786 0 10787 a 107b1 0 107b2 a 107bb 0 10800
a 10806 0 10808 a 10809 0 1080a a 10836 0 10837 a 10839 0 1083c a 1083d 0 1083f a
10856 0 10860 a 10877 0 10880 a 1089f 0 108e0 a 108f3 0 108f4 a 108f6 0 10900 a 10916
0 10920 a 1093a 0 10940 a 1095a 0 10980 a 109b8 0 109be a 109c0 0 10a00 a 10a01 4
10a04 0 10a05 4 10a07 0 10a0c 4 10a10 a 10a14 0 10a15 a 10a18 0 10a19 a 10a36 0 10a38
4 10a3b 0 10a3f 4 10a40 0 10a60 a 10a7d 0 10a80 a 10a9d 0 10ac0 a 10ac8 0 10ac9 a
10ae5 4 10ae7 0 10b00 a 10b36 0 10b40 a 10b56 0 10b60 a 10b73 0 10b80 a 10b92 0 10c00
a 10c49 0 10c80 a 10cb3 0 10cc0 a 10cf3 0 10d00 a 10d24 4 10d28 0 10d30 10 10d3a 0
10d40 10 10d4a a 10d66 0 10d69 4 10d6e 0 10d6f a 10d86 0 10e80 a 10eaa 0 10eab 4 10ead
0 10eb0 a 10eb2 0 10ec2 a 10ec8 0 10efa 4 10f00 a 10f1d 0 10f27 a 10f28 0 10f30 a
10f46 4 10f51 0 10f70 a 10f82 4 10f86 0 10fb0 a 10fc5 0 10fe0 a 10ff7 0 11000 4 11003
a 11038 4 11047 0 11066 10 11070 4 11071 a 11073 4 11075 a 11076 0 1107f 4 11083 a
110b0 4 110bb 0 110bd 10 110be 0 110c2 4 110c3 0 110cd 10 110ce 0 110d0 a 110e9 0
110f0 10 110fa 0 11100 4 11103 a 11127 4 11135 0 11136 10 11140 0 11144 a 11145 4
11147 a 11148 0 11150 a 11173 4 11174 0 11176 a 11177 0 11180 4 11183 a 111b3 4 111c1
a 111c5 0 111c9 4 111cd 0 111ce 4 111d0 10 111da a 111db 0 111dc a 111dd 0 11200 a
11212 0 11213 a 1122c 4 11238 0 1123e 4 1123f a 11241 4 11242 0 11280 a 11287 0 11288
a 11289 0 1128a a 1128e 0 1128f a 1129e 0 1129f a 112a9 0 112b0 a 112df 4 112eb 0
112f0 10 112fa 0 11300 4 11304 0 11305 a 1130d 0 1130f a 11311 0 11313 a 11329 0 1132a
a 11331 0 11332 a 11334 0 11335 a 1133a 0 1133b 4 1133d a 1133e 4 11345 0 11347 4
11349 0 1134b 4 1134e 0 11350 a 11351 0 11357 4 11358 0 1135d a 11362 4 11364 0 11366
4 1136d 0 11370 4 11375 0 11380 a 1138a 0 1138b a 1138c 0 1138e a 1138f 0 11390 a
113b6 0 113b7 a 113b8 4 113c1 0 113c2 4 113c3 0 113c5 4 113c6 0 113c7 4 113cb 0 113cc
4 113d1 a 113d2 4 113d3 a 113d4 0 113e1 4 113e3 0 11400 a 11435 4 11447 a 1144b 0
11450 10 1145a 0 1145e 4 1145f a 11462 0 11480 a 114b0 4 114c4 a 114c6 0 114c7 a 114c8
0 114d0 10 114da 0 11580 a 115af 4 115b6 0 115b8 4 115c1 0 115d8 a 115dc 4 115de 0
11600 a 11630 4 11641 0 11644 a 11645 0 11650 10 1165a 0 11680 a 116ab 4 116b8 a 116b9
0 116c0 10 116ca 0 116d0 10 116e4 0 1171d 4 1172c 0 11730 10 1173a 0 11800 a 1182c 4
1183b 0 118a0 a 118e0 10 118ea 0 118ff a 11907 0 11909 a 1190a 0 1190c a 11914 0 11915
a 11917 0 11918 a 11930 4 11936 0 11937 4 11939 0 1193b 4 1193f a 11940 4 11941 a
11942 4 11944 0 11950 10 1195a 0 119a0 a 119a8 0 119aa a 119d1 4 119d8 0 119da 4 119e1
a 119e2 0 119e3 a 119e4 4 119e5 0 11a00 a 11a01 4 11a0b a 11a33 4 11a3a a 11a3b 4
11a3f 0 11a47 4 11a48 0 11a50 a 11a51 4 11a5c a 11a8a 4 11a9a 0 11a9d a 11a9e 0 11ab0
a 11af9 0 11b60 4 11b68 0 11bc0 a 11be1 0 11bf0 10 11bfa 0 11c00 a 11c09 0 11c0a a
11c2f 4 11c37 0 11c38 4 11c40 a 11c41 0 11c50 10 11c5a 0 11c72 a 11c90 0 11c92 4 11ca8
0 11ca9 4 11cb7 0 11d00 a 11d07 0 11d08 a 11d0a 0 11d0b a 11d31 4 11d37 0 11d3a 4
11d3b 0 11d3c 4 11d3e 0 11d3f 4 11d46 a 11d47 4 11d48 0 11d50 10 11d5a 0 11d60 a 11d66
0 11d67 a 11d69 0 11d6a a 11d8a 4 11d8f 0 11d90 4 11d92 0 11d93 4 11d98 a 11d99 0
11da0 10 11daa 0 11db0 a 11ddc 0 11de0 10 11dea 0 11ee0 a 11ef3 4 11ef7 0 11f00 4
11f02 a 11f03 4 11f04 a 11f11 0 11f12 a 11f34 4 11f3b 0 11f3e 4 11f43 0 11f50 10 11f5a
4 11f5b 0 11fb0 a 11fb1 0 12000 a 1239a 0 12400 a 1246f 0 12480 a 12544 0 12f90 a
12ff1 0 13000 a 13430 7 13440 4 13441 a 13447 4 13456 0 13460 a 143fb 0 14400 a 14647
0 16100 a 1611e 4 16130 10 1613a 0 16800 a 16a39 0 16a40 a 16a5f 0 16a60 10 16a6a 0
16a70 a 16abf 0 16ac0 10 16aca 0 16ad0 a 16aee 0 16af0 4 16af5 0 16b00 a 16b30 4 16b37
0 16b40 a 16b44 0 16b50 10 16b5a 0 16b63 a 16b78 0 16b7d a 16b90 0 16d40 a 16d6d 0
16d70 10 16d7a 0 16e40 a 16e80 0 16ea0 a 16eb9 0 16ebb a 16ed4 0 16f00 a 16f4b 0 16f4f
4 16f50 a 16f51 4 16f88 0 16f8f 4 16f93 a 16fa0 0 16fe0 a 16fe2 0 16fe3 a 16fe4 4
16fe5 0 16ff0 4 16ff2 0 1aff0 8 1aff4 0 1aff5 8 1affc 0 1affd 8 1afff 0 1b000 8 1b001
0 1b120 8 1b123 0 1b155 8 1b156 0 1b164 8 1b168 0 1bc00 a 1bc6b 0 1bc70 a 1bc7d 0
1bc80 a 1bc89 0 1bc90 a 1bc9a 0 1bc9d 4 1bc9f 0 1bca0 7 1bca4 0 1ccf0 10 1ccfa 0 1cf00
4 1cf2e 0 1cf30 4 1cf47 0 1d165 4 1d16a 0 1d16d 4 1d173 7 1d17b 4 1d183 0 1d185 4
1d18c 0 1d1aa 4 1d1ae 0 1d242 4 1d245 0 1d400 a 1d455 0 1d456 a 1d49d 0 1d49e a 1d4a0
0 1d4a2 a 1d4a3 0 1d4a5 a 1d4a7 0 1d4a9 a 1d4ad 0 1d4ae a 1d4ba 0 1d4bb a 1d4bc 0
1d4bd a 1d4c4 0 1d4c5 a 1d506 0 1d507 a 1d50b 0 1d50d a 1d515 0 1d516 a 1d51d 0 1d51e
a 1d53a 0 1d53b a 1d53f 0 1d540 a 1d545 0 1d546 a 1d547 0 1d54a a 1d551 0 1d552 a
1d6a6 0 1d6a8 a 1d6c1 0 1d6c2 a 1d6db 0 1d6dc a 1d6fb 0 1d6fc a 1d715 0 1d716 a 1d735
0 1d736 a 1d74f 0 1d750 a 1d76f 0 1d770 a 1d789 0 1d78a a 1d7a9 0 1d7aa a 1d7c3 0
1d7c4 a 1d7cc 0 1d7ce 10 1d800 0 1da00 4 1da37 0 1da3b 4 1da6d 0 1da75 4 1da76 0 1da84
4 1da85 0 1da9b 4 1daa0 0 1daa1 4 1dab0 0 1df00 a 1df1f 0 1df25 a 1df2b 0 1e000 4
1e007 0 1e008 4 1e019 0 1e01b 4 1e022 0 1e023 4 1e025 0 1e026 4 1e02b 0 1e030 a 1e06e
0 1e08f 4 1e090 0 1e100 a 1e12d 0 1e130 4 1e137 a 1e13e 0 1e140 10 1e14a 0 1e14e a
1e14f 0 1e290 a 1e2ae 4 1e2af 0 1e2c0 a 1e2ec 4 1e2f0 10 1e2fa 0 1e4d0 a 1e4ec 4 1e4f0
10 1e4fa 0 1e5d0 a 1e5ee 4 1e5f0 a 1e5f1 10 1e5fb 0 1e6e3 4 1e6e4 0 1e6e6 4 1e6e7 0
1e6ee 4 1e6f0 0 1e6f5 4 1e6f6 0 1e7e0 a 1e7e7 0 1e7e8 a 1e7ec 0 1e7ed a 1e7ef 0 1e7f0
a 1e7ff 0 1e800 a 1e8c5 0 1e8d0 4 1e8d7 0 1e900 a 1e944 4 1e94b a 1e94c 0 1e950 10
1e95a 0 1ee00 a 1ee04 0 1ee05 a 1ee20 0 1ee21 a 1ee23 0 1ee24 a 1ee25 0 1ee27 a 1ee28
0 1ee29 a 1ee33 0 1ee34 a 1ee38 0 1ee39 a 1ee3a 0 1ee3b a 1ee3c 0 1ee42 a 1ee43 0
1ee47 a 1ee48 0 1ee49 a 1ee4a 0 1ee4b a 1ee4c 0 1ee4d a 1ee50 0 1ee51 a 1ee53 0 1ee54
a 1ee55 0 1ee57 a 1ee58 0 1ee59 a 1ee5a 0 1ee5b a 1ee5c 0 1ee5d a 1ee5e 0 1ee5f a
1ee60 0 1ee61 a 1ee63 0 1ee64 a 1ee65 0 1ee67 a 1ee6b 0 1ee6c a 1ee73 0 1ee74 a 1ee78
0 1ee79 a 1ee7d 0 1ee7e a 1ee7f 0 1ee80 a 1ee8a 0 1ee8b a 1ee9c 0 1eea1 a 1eea4 0
1eea5 a 1eeaa 0 1eeab a 1eebc 0 1f130 a 1f14a 0 1f150 a 1f16a 0 1f170 a 1f18a 0 1f1e6
6 1f200 0 1f3fb 4 1f400 0 1fbf0 10 1fbfa 0 e0001 7 e0002 0 e0020 4 e0080 0 e0100 4
e01f0 0"

/-- The word-break class of a character. -/
def wordClass (c : Char) : WordClass := WordClass.ofCode (wordClassTable.get c)

/-- The long name of a class, as the `Word_Break` property names it. -/
def WordClass.name : WordClass → String
  | .other => "Other"
  | .cr => "CR"
  | .lf => "LF"
  | .newline => "Newline"
  | .extend => "Extend"
  | .zwj => "ZWJ"
  | .regionalIndicator => "Regional_Indicator"
  | .format => "Format"
  | .katakana => "Katakana"
  | .hebrewLetter => "Hebrew_Letter"
  | .aLetter => "ALetter"
  | .singleQuote => "Single_Quote"
  | .doubleQuote => "Double_Quote"
  | .midNumLet => "MidNumLet"
  | .midLetter => "MidLetter"
  | .midNum => "MidNum"
  | .numeric => "Numeric"
  | .extendNumLet => "ExtendNumLet"
  | .wSegSpace => "WSegSpace"

/-- Each class that some character has, by its long name, with all its names. `Other`
is left out: patterns cannot name it. -/
def wordClassAliases : List (String × List String) := [
  ("ALetter", ["LE", "ALetter"]),
  ("CR", ["CR"]),
  ("Double_Quote", ["DQ", "Double_Quote"]),
  ("Extend", ["Extend"]),
  ("ExtendNumLet", ["EX", "ExtendNumLet"]),
  ("Format", ["FO", "Format"]),
  ("Hebrew_Letter", ["HL", "Hebrew_Letter"]),
  ("Katakana", ["KA", "Katakana"]),
  ("LF", ["LF"]),
  ("MidLetter", ["ML", "MidLetter"]),
  ("MidNum", ["MN", "MidNum"]),
  ("MidNumLet", ["MB", "MidNumLet"]),
  ("Newline", ["NL", "Newline"]),
  ("Numeric", ["NU", "Numeric"]),
  ("Regional_Indicator", ["RI", "Regional_Indicator"]),
  ("Single_Quote", ["SQ", "Single_Quote"]),
  ("WSegSpace", ["WSegSpace"]),
  ("ZWJ", ["ZWJ"])]

/-- Bounds of the `Extended_Pictographic` characters. -/
def pictographicBounds : Array Nat := hexNumbers "
a9 aa ae af 203c 203d 2049 204a 2122 2123 2139 213a 2194 219a 21a9 21ab 231a 231c 2328
2329 23cf 23d0 23e9 23f4 23f8 23fb 24c2 24c3 25aa 25ac 25b6 25b7 25c0 25c1 25fb 25ff
2600 2605 260e 260f 2611 2612 2614 2616 2618 2619 261d 261e 2620 2621 2622 2624 2626
2627 262a 262b 262e 2630 2638 263b 2640 2641 2642 2643 2648 2654 265f 2661 2663 2664
2665 2667 2668 2669 267b 267c 267e 2680 2692 2698 2699 269a 269b 269d 26a0 26a2 26a7
26a8 26aa 26ac 26b0 26b2 26bd 26bf 26c4 26c6 26c8 26c9 26ce 26d0 26d1 26d2 26d3 26d5
26e9 26eb 26f0 26f6 26f7 26fb 26fd 26fe 2702 2703 2705 2706 2708 270e 270f 2710 2712
2713 2714 2715 2716 2717 271d 271e 2721 2722 2728 2729 2733 2735 2744 2745 2747 2748
274c 274d 274e 274f 2753 2756 2757 2758 2763 2765 2795 2798 27a1 27a2 27b0 27b1 27bf
27c0 2934 2936 2b05 2b08 2b1b 2b1d 2b50 2b51 2b55 2b56 3030 3031 303d 303e 3297 3298
3299 329a 1f004 1f005 1f02c 1f030 1f094 1f0a0 1f0af 1f0b1 1f0c0 1f0c1 1f0cf 1f0d1
1f0f6 1f100 1f170 1f172 1f17e 1f180 1f18e 1f18f 1f191 1f19b 1f1ae 1f1e6 1f201 1f210
1f21a 1f21b 1f22f 1f230 1f232 1f23b 1f23c 1f240 1f249 1f260 1f266 1f322 1f324 1f394
1f396 1f398 1f399 1f39c 1f39e 1f3f1 1f3f3 1f3f6 1f3f7 1f3fb 1f400 1f4fe 1f4ff 1f53e
1f549 1f54f 1f550 1f568 1f56f 1f571 1f573 1f57b 1f587 1f588 1f58a 1f58e 1f590 1f591
1f595 1f597 1f5a4 1f5a6 1f5a8 1f5a9 1f5b1 1f5b3 1f5bc 1f5bd 1f5c2 1f5c5 1f5d1 1f5d4
1f5dc 1f5df 1f5e1 1f5e2 1f5e3 1f5e4 1f5e8 1f5e9 1f5ef 1f5f0 1f5f3 1f5f4 1f5fa 1f650
1f680 1f6c6 1f6cb 1f6d3 1f6d5 1f6e6 1f6e9 1f6ea 1f6eb 1f6f1 1f6f3 1f700 1f7da 1f800
1f80c 1f810 1f848 1f850 1f85a 1f860 1f888 1f890 1f8ae 1f8b0 1f8bc 1f8c0 1f8c2 1f8d0
1f8d9 1f900 1f90c 1f93b 1f93c 1f946 1f947 1fa00 1fa58 1fa60 1fa6e 1fb00 1fc00 1fffe"

/-- Whether a character is `Extended_Pictographic`. -/
def isPictographic (c : Char) : Bool := inBounds pictographicBounds c

end TagStore.Text
