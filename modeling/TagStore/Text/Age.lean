import TagStore.Text.Ranges
/-!
# Text.Age

The version of the character database that assigned each character, after Unicode 16.0,
from 1.1 to 16.0. The versions are kept in order, so that a character assigned by a
version is one whose version comes at or before it; code points that are not assigned
have no version.

The characters that Unicode 17.0 assigned are kept as a set of their own: patterns follow
16.0, where they are not assigned, while text analysis follows 17.0.
-/

namespace TagStore.Text

/-- The versions in order, by their long names: `V1_1` for version 1.1 and so on. -/
def ageNames : Array String := #[
  "V1_1", "V2_0", "V2_1", "V3_0", "V3_1", "V3_2", "V4_0", "V4_1", "V5_0", "V5_1", "V5_2",
  "V6_0", "V6_1", "V6_2", "V6_3", "V7_0", "V8_0", "V9_0", "V10_0", "V11_0", "V12_0",
  "V12_1", "V13_0", "V14_0", "V15_0", "V15_1", "V16_0"]

/-- Each version by its long name, with all its names: its number and its long name. -/
def ageAliases : List (String × List String) := [
  ("V1_1", ["1.1", "V1_1"]),
  ("V2_0", ["2.0", "V2_0"]),
  ("V2_1", ["2.1", "V2_1"]),
  ("V3_0", ["3.0", "V3_0"]),
  ("V3_1", ["3.1", "V3_1"]),
  ("V3_2", ["3.2", "V3_2"]),
  ("V4_0", ["4.0", "V4_0"]),
  ("V4_1", ["4.1", "V4_1"]),
  ("V5_0", ["5.0", "V5_0"]),
  ("V5_1", ["5.1", "V5_1"]),
  ("V5_2", ["5.2", "V5_2"]),
  ("V6_0", ["6.0", "V6_0"]),
  ("V6_1", ["6.1", "V6_1"]),
  ("V6_2", ["6.2", "V6_2"]),
  ("V6_3", ["6.3", "V6_3"]),
  ("V7_0", ["7.0", "V7_0"]),
  ("V8_0", ["8.0", "V8_0"]),
  ("V9_0", ["9.0", "V9_0"]),
  ("V10_0", ["10.0", "V10_0"]),
  ("V11_0", ["11.0", "V11_0"]),
  ("V12_0", ["12.0", "V12_0"]),
  ("V12_1", ["12.1", "V12_1"]),
  ("V13_0", ["13.0", "V13_0"]),
  ("V14_0", ["14.0", "V14_0"]),
  ("V15_0", ["15.0", "V15_0"]),
  ("V15_1", ["15.1", "V15_1"]),
  ("V16_0", ["16.0", "V16_0"])]

/-- Range starts and the positions of the versions in `ageNames`, counted from one; zero
for code points that are not assigned. -/
def ageTable : RangeMap := RangeMap.ofHex "
0 1 1f6 4 1fa 1 218 4 220 6 221 7 222 4 234 7 237 8 242 9 250 1 2a9 4 2ae 7 2b0 1 2df
4 2e0 1 2ea 4 2ef 7 300 1 346 4 34f 6 350 7 358 8 35d 7 360 1 362 4 363 6 370 a 374 1
376 a 378 0 37a 1 37b 9 37e 1 37f 10 380 0 384 1 38b 0 38c 1 38d 0 38e 1 3a2 0 3a3 1
3cf a 3d0 1 3d7 4 3d8 6 3da 1 3db 4 3dc 1 3dd 4 3de 1 3df 4 3e0 1 3e1 4 3e2 1 3f4 5
3f6 6 3f7 7 3fc 8 400 4 401 1 40d 4 40e 1 450 4 451 1 45d 4 45e 1 487 a 488 4 48a 6
48c 4 490 1 4c5 6 4c7 1 4c9 6 4cb 1 4cd 6 4cf 9 4d0 1 4ec 4 4ee 1 4f6 8 4f8 1 4fa 9
500 6 510 9 514 a 524 b 526 c 528 10 530 0 531 1 557 0 559 1 560 14 561 1 588 14 589 1
58a 4 58b 0 58d 10 58f d 590 0 591 2 5a2 8 5a3 2 5b0 1 5ba 9 5bb 1 5c4 2 5c5 8 5c8 0
5d0 1 5eb 0 5ef 14 5f0 1 5f5 0 600 7 604 d 605 10 606 a 60b 8 60c 1 60d 7 616 a 61b 1
61c f 61d 18 61e 8 61f 1 620 c 621 1 63b a 640 1 653 4 656 7 659 8 65f c 660 1 66e 6
670 1 6b8 4 6ba 1 6bf 4 6c0 1 6cf 4 6d0 1 6ee 7 6f0 1 6fa 4 6ff 7 700 4 70e 0 70f 4
72d 7 730 4 74b 0 74d 7 750 8 76e a 780 4 7b1 6 7b2 0 7c0 9 7fb 0 7fd 14 800 b 82e 0
830 b 83f 0 840 c 85c 0 85e c 85f 0 860 13 86b 0 870 18 88f 0 890 18 892 0 897 1b 898
18 8a0 d 8a1 10 8a2 d 8ad 10 8b3 11 8b5 18 8b6 12 8be 17 8c8 18 8d3 14 8d4 12 8e3 11
8e4 d 8ff 10 900 b 901 1 904 7 905 1 93a c 93c 1 94e b 94f c 950 1 955 b 956 c 958 1
971 a 973 c 978 10 979 b 97b 9 97d 8 97e 9 980 10 981 1 984 0 985 1 98d 0 98f 1 991 0
993 1 9a9 0 9aa 1 9b1 0 9b2 1 9b3 0 9b6 1 9ba 0 9bc 1 9bd 7 9be 1 9c5 0 9c7 1 9c9 0
9cb 1 9ce 8 9cf 0 9d7 1 9d8 0 9dc 1 9de 0 9df 1 9e4 0 9e6 1 9fb b 9fc 13 9fe 14 9ff 0
a01 7 a02 1 a03 7 a04 0 a05 1 a0b 0 a0f 1 a11 0 a13 1 a29 0 a2a 1 a31 0 a32 1 a34 0
a35 1 a37 0 a38 1 a3a 0 a3c 1 a3d 0 a3e 1 a43 0 a47 1 a49 0 a4b 1 a4e 0 a51 a a52 0
a59 1 a5d 0 a5e 1 a5f 0 a66 1 a75 a a76 14 a77 0 a81 1 a84 0 a85 1 a8c 7 a8d 1 a8e 0
a8f 1 a92 0 a93 1 aa9 0 aaa 1 ab1 0 ab2 1 ab4 0 ab5 1 aba 0 abc 1 ac6 0 ac7 1 aca 0
acb 1 ace 0 ad0 1 ad1 0 ae0 1 ae1 7 ae4 0 ae6 1 af0 d af1 7 af2 0 af9 11 afa 13 b00 0
b01 1 b04 0 b05 1 b0d 0 b0f 1 b11 0 b13 1 b29 0 b2a 1 b31 0 b32 1 b34 0 b35 7 b36 1
b3a 0 b3c 1 b44 a b45 0 b47 1 b49 0 b4b 1 b4e 0 b55 17 b56 1 b58 0 b5c 1 b5e 0 b5f 1
b62 a b64 0 b66 1 b71 7 b72 c b78 0 b82 1 b84 0 b85 1 b8b 0 b8e 1 b91 0 b92 1 b96 0
b99 1 b9b 0 b9c 1 b9d 0 b9e 1 ba0 0 ba3 1 ba5 0 ba8 1 bab 0 bae 1 bb6 8 bb7 1 bba 0
bbe 1 bc3 0 bc6 1 bc9 0 bca 1 bce 0 bd0 a bd1 0 bd7 1 bd8 0 be6 8 be7 1 bf3 7 bfb 0
c00 10 c01 1 c04 14 c05 1 c0d 0 c0e 1 c11 0 c12 1 c29 0 c2a 1 c34 10 c35 1 c3a 0 c3c
18 c3d a c3e 1 c45 0 c46 1 c49 0 c4a 1 c4e 0 c55 1 c57 0 c58 a c5a 11 c5b 0 c5d 18 c5e
0 c60 1 c62 a c64 0 c66 1 c70 0 c77 15 c78 a c80 12 c81 10 c82 1 c84 14 c85 1 c8d 0
c8e 1 c91 0 c92 1 ca9 0 caa 1 cb4 0 cb5 1 cba 0 cbc 7 cbe 1 cc5 0 cc6 1 cc9 0 cca 1
cce 0 cd5 1 cd7 0 cdd 18 cde 1 cdf 0 ce0 1 ce2 9 ce4 0 ce6 1 cf0 0 cf1 9 cf3 19 cf4 0
d00 13 d01 10 d02 1 d04 17 d05 1 d0d 0 d0e 1 d11 0 d12 1 d29 c d2a 1 d3a c d3b 13 d3d
a d3e 1 d44 a d45 0 d46 1 d49 0 d4a 1 d4e c d4f 12 d50 0 d54 12 d57 1 d58 12 d5f 11
d60 1 d62 a d64 0 d66 1 d70 a d76 12 d79 a d80 0 d81 17 d82 4 d84 0 d85 4 d97 0 d9a 4
db2 0 db3 4 dbc 0 dbd 4 dbe 0 dc0 4 dc7 0 dca 4 dcb 0 dcf 4 dd5 0 dd6 4 dd7 0 dd8 4
de0 0 de6 10 df0 0 df2 4 df5 0 e01 1 e3b 0 e3f 1 e5c 0 e81 1 e83 0 e84 1 e85 0 e86 15
e87 1 e89 15 e8a 1 e8b 0 e8c 15 e8d 1 e8e 15 e94 1 e98 15 e99 1 ea0 15 ea1 1 ea4 0 ea5
1 ea6 0 ea7 1 ea8 15 eaa 1 eac 15 ead 1 eba 15 ebb 1 ebe 0 ec0 1 ec5 0 ec6 1 ec7 0 ec8
1 ece 19 ecf 0 ed0 1 eda 0 edc 1 ede d ee0 0 f00 2 f48 0 f49 2 f6a 4 f6b a f6d 0 f71 2
f8c c f90 2 f96 4 f97 2 f98 0 f99 2 fae 4 fb1 2 fb8 4 fb9 2 fba 4 fbd 0 fbe 4 fcd 0
fce a fcf 4 fd0 8 fd2 a fd5 b fd9 c fdb 0 1000 4 1022 a 1023 4 1028 a 1029 4 102b a
102c 4 1033 a 1036 4 103a a 1040 4 105a a 109a b 109e a 10a0 1 10c6 0 10c7 d 10c8 0
10cd d 10ce 0 10d0 1 10f7 6 10f9 8 10fb 1 10fc 8 10fd d 1100 1 115a b 115f 1 11a3 b
11a8 1 11fa b 1200 4 1207 8 1208 4 1247 8 1248 4 1249 0 124a 4 124e 0 1250 4 1257 0
1258 4 1259 0 125a 4 125e 0 1260 4 1287 8 1288 4 1289 0 128a 4 128e 0 1290 4 12af 8
12b0 4 12b1 0 12b2 4 12b6 0 12b8 4 12bf 0 12c0 4 12c1 0 12c2 4 12c6 0 12c8 4 12cf 8
12d0 4 12d7 0 12d8 4 12ef 8 12f0 4 130f 8 1310 4 1311 0 1312 4 1316 0 1318 4 131f 8
1320 4 1347 8 1348 4 135b 0 135d c 135f 8 1361 4 137d 0 1380 8 139a 0 13a0 4 13f5 11
13f6 0 13f8 11 13fe 0 1400 b 1401 4 1677 b 1680 4 169d 0 16a0 4 16f1 10 16f9 0 1700 6
170d 18 170e 6 1715 18 1716 0 171f 18 1720 6 1737 0 1740 6 1754 0 1760 6 176d 0 176e 6
1771 0 1772 6 1774 0 1780 4 17dd 7 17de 0 17e0 4 17ea 0 17f0 7 17fa 0 1800 4 180f 18
1810 4 181a 0 1820 4 1878 14 1879 0 1880 4 18aa a 18ab 0 18b0 b 18f6 0 1900 7 191d 10
191f 0 1920 7 192c 0 1930 7 193c 0 1940 7 1941 0 1944 7 196e 0 1970 7 1975 0 1980 8
19aa b 19ac 0 19b0 8 19ca 0 19d0 8 19da b 19db 0 19de 8 19e0 7 1a00 8 1a1c 0 1a1e 8
1a20 b 1a5f 0 1a60 b 1a7d 0 1a7f b 1a8a 0 1a90 b 1a9a 0 1aa0 b 1aae 0 1ab0 10 1abf 17
1ac1 18 1acf 0 1b00 9 1b4c 18 1b4d 0 1b4e 1b 1b50 9 1b7d 18 1b7f 1b 1b80 a 1bab d 1bae
a 1bba d 1bc0 c 1bf4 0 1bfc c 1c00 a 1c38 0 1c3b a 1c4a 0 1c4d a 1c80 12 1c89 1b 1c8b
0 1c90 14 1cbb 0 1cbd 14 1cc0 d 1cc8 0 1cd0 b 1cf3 d 1cf7 13 1cf8 10 1cfa 15 1cfb 0
1d00 7 1d6c 8 1dc4 9 1dcb a 1de7 10 1df6 13 1dfa 18 1dfb 12 1dfc c 1dfd b 1dfe 9 1e00
1 1e9b 2 1e9c a 1ea0 1 1efa a 1f00 1 1f16 0 1f18 1 1f1e 0 1f20 1 1f46 0 1f48 1 1f4e 0
1f50 1 1f58 0 1f59 1 1f5a 0 1f5b 1 1f5c 0 1f5d 1 1f5e 0 1f5f 1 1f7e 0 1f80 1 1fb5 0
1fb6 1 1fc5 0 1fc6 1 1fd4 0 1fd6 1 1fdc 0 1fdd 1 1ff0 0 1ff2 1 1ff5 0 1ff6 1 1fff 0
2000 1 202f 4 2030 1 2047 6 2048 4 204e 6 2053 7 2055 8 2057 6 2058 8 205f 6 2064 a
2065 0 2066 f 206a 1 2071 6 2072 0 2074 1 208f 0 2090 8 2095 c 209d 0 20a0 1 20ab 2
20ac 3 20ad 4 20b0 6 20b2 8 20b6 b 20b9 c 20ba e 20bb 10 20be 11 20bf 13 20c0 18 20c1
0 20d0 1 20e2 4 20e4 6 20eb 8 20ec 9 20f0 a 20f1 0 2100 1 2139 4 213b 7 213c 8 213d 6
214c 8 214d 9 214f a 2150 b 2153 1 2183 4 2184 9 2185 a 2189 b 218a 11 218c 0 2190 1
21eb 4 21f4 6 2200 1 22f2 6 2300 1 2301 4 2302 1 237b 4 237c 6 237d 4 239b 6 23cf 7
23d1 8 23dc 9 23e8 b 23e9 c 23f4 10 23fb 12 23ff 13 2400 1 2425 4 2427 1b 242a 0 2440
1 244b 0 2460 1 24eb 6 24ff 7 2500 1 2596 6 25a0 1 25f0 4 25f8 6 2600 1 2614 7 2616 6
2618 8 2619 4 261a 1 2670 4 2672 6 267e 8 2680 6 268a 7 2692 8 269d a 269e b 26a0 7
26a2 8 26b2 9 26b3 a 26bd b 26c0 a 26c4 b 26ce c 26cf b 26e2 c 26e3 b 26e4 c 26e8 b
2700 10 2701 1 2705 c 2706 1 270a c 270c 1 2728 c 2729 1 274c c 274d 1 274e c 274f 1
2753 c 2756 1 2757 b 2758 1 275f c 2761 1 2768 6 2776 1 2795 c 2798 1 27b0 c 27b1 1
27bf c 27c0 8 27c7 9 27cb d 27cc a 27cd d 27ce c 27d0 6 27ec a 27f0 6 2800 4 2900 6
2b00 7 2b0e 8 2b14 9 2b1b a 2b20 9 2b24 a 2b4d 10 2b50 a 2b55 b 2b5a 10 2b74 0 2b76 10
2b96 0 2b97 17 2b98 10 2bba 14 2bbd 10 2bc9 15 2bca 10 2bd2 13 2bd3 14 2bec 11 2bf0 14
2bff 15 2c00 8 2c2f 18 2c30 8 2c5f 18 2c60 9 2c6d a 2c70 b 2c71 a 2c74 9 2c78 a 2c7e b
2c80 8 2ceb b 2cf2 d 2cf4 0 2cf9 8 2d26 0 2d27 d 2d28 0 2d2d d 2d2e 0 2d30 8 2d66 d
2d68 0 2d6f 8 2d70 c 2d71 0 2d7f c 2d80 8 2d97 0 2da0 8 2da7 0 2da8 8 2daf 0 2db0 8
2db7 0 2db8 8 2dbf 0 2dc0 8 2dc7 0 2dc8 8 2dcf 0 2dd0 8 2dd7 0 2dd8 8 2ddf 0 2de0 a
2e00 8 2e18 a 2e1c 8 2e1e a 2e31 b 2e32 d 2e3c 10 2e43 12 2e45 13 2e4a 14 2e4f 15 2e50
17 2e53 18 2e5e 0 2e80 4 2e9a 0 2e9b 4 2ef4 0 2f00 4 2fd6 0 2ff0 4 2ffc 1a 3000 1 3038
4 303b 6 303e 4 303f 1 3040 0 3041 1 3095 6 3097 0 3099 1 309f 6 30a1 1 30ff 6 3100 0
3105 1 312d a 312e 13 312f 14 3130 0 3131 1 318f 0 3190 1 31a0 4 31b8 c 31bb 17 31c0 8
31d0 a 31e4 1b 31e6 0 31ef 1a 31f0 6 3200 1 321d 7 321f 0 3220 1 3244 b 3250 7 3251 6
3260 1 327c 7 327e 8 327f 1 32b1 6 32c0 1 32cc 7 32d0 1 32ff 16 3300 1 3377 7 337b 1
33de 7 33e0 1 33ff 7 3400 4 4db6 17 4dc0 7 4e00 1 9fa6 8 9fbc a 9fc4 b 9fcc d 9fcd 11
9fd6 13 9feb 14 9ff0 17 9ffd 18 a000 4 a48d 0 a490 4 a4a2 6 a4a4 4 a4b4 6 a4b5 4 a4c1
6 a4c2 4 a4c5 6 a4c6 4 a4c7 0 a4d0 b a500 a a62c 0 a640 a a660 c a662 a a674 d a67c a
a698 10 a69e 11 a69f d a6a0 b a6f8 0 a700 8 a717 9 a71b a a720 9 a722 a a78d c a78f 11
a790 c a792 d a794 10 a7a0 c a7aa d a7ab 10 a7ae 12 a7af 14 a7b0 10 a7b2 11 a7b8 14
a7ba 15 a7c0 18 a7c2 15 a7c7 17 a7cb 1b a7ce 0 a7d0 18 a7d2 0 a7d3 18 a7d4 0 a7d5 18
a7da 1b a7dd 0 a7f2 18 a7f5 17 a7f7 10 a7f8 d a7fa c a7fb a a800 8 a82c 17 a82d 0 a830
b a83a 0 a840 9 a878 0 a880 a a8c5 12 a8c6 0 a8ce a a8da 0 a8e0 b a8fc 11 a8fe 14 a900
a a954 0 a95f a a960 b a97d 0 a980 b a9ce 0 a9cf b a9da 0 a9de b a9e0 10 a9ff 0 aa00 a
aa37 0 aa40 a aa4e 0 aa50 a aa5a 0 aa5c a aa60 b aa7c 10 aa80 b aac3 0 aadb b aae0 d
aaf7 0 ab01 c ab07 0 ab09 c ab0f 0 ab11 c ab17 0 ab20 c ab27 0 ab28 c ab2f 0 ab30 10
ab60 11 ab64 10 ab66 15 ab68 17 ab6c 0 ab70 11 abc0 b abee 0 abf0 b abfa 0 ac00 2 d7a4
0 d7b0 b d7c7 0 d7cb b d7fc 0 d800 2 e000 1 fa2e d fa30 6 fa6b b fa6e 0 fa70 8 fada 0
fb00 1 fb07 0 fb13 1 fb18 0 fb1d 4 fb1e 1 fb37 0 fb38 1 fb3d 0 fb3e 1 fb3f 0 fb40 1
fb42 0 fb43 1 fb45 0 fb46 1 fbb2 c fbc2 18 fbc3 0 fbd3 1 fd40 18 fd50 1 fd90 0 fd92 1
fdc8 0 fdcf 18 fdd0 5 fdf0 1 fdfc 6 fdfd 7 fdfe 18 fe00 6 fe10 8 fe1a 0 fe20 1 fe24 a
fe27 10 fe2e 11 fe30 1 fe45 6 fe47 7 fe49 1 fe53 0 fe54 1 fe67 0 fe68 1 fe6c 0 fe70 1
fe73 6 fe74 1 fe75 0 fe76 1 fefd 0 feff 1 ff00 0 ff01 1 ff5f 6 ff61 1 ffbf 0 ffc2 1
ffc8 0 ffca 1 ffd0 0 ffd2 1 ffd8 0 ffda 1 ffdd 0 ffe0 1 ffe7 0 ffe8 1 ffef 0 fff9 4
fffc 3 fffd 1 10000 7 1000c 0 1000d 7 10027 0 10028 7 1003b 0 1003c 7 1003e 0 1003f 7
1004e 0 10050 7 1005e 0 10080 7 100fb 0 10100 7 10103 0 10107 7 10134 0 10137 7 10140
8 1018b 10 1018d 12 1018f 0 10190 a 1019c 17 1019d 0 101a0 10 101a1 0 101d0 a 101fe 0
10280 a 1029d 0 102a0 a 102d1 0 102e0 10 102fc 0 10300 5 1031f 10 10320 5 10324 0
1032d 13 10330 5 1034b 0 10350 10 1037b 0 10380 7 1039e 0 1039f 7 103a0 8 103c4 0
103c8 8 103d6 0 10400 5 10426 7 10428 5 1044e 7 1049e 0 104a0 7 104aa 0 104b0 12 104d4
0 104d8 12 104fc 0 10500 10 10528 0 10530 10 10564 0 1056f 10 10570 18 1057b 0 1057c
18 1058b 0 1058c 18 10593 0 10594 18 10596 0 10597 18 105a2 0 105a3 18 105b2 0 105b3
18 105ba 0 105bb 18 105bd 0 105c0 1b 105f4 0 10600 10 10737 0 10740 10 10756 0 10760
10 10768 0 10780 18 10786 0 10787 18 107b1 0 107b2 18 107bb 0 10800 7 10806 0 10808 7
10809 0 1080a 7 10836 0 10837 7 10839 0 1083c 7 1083d 0 1083f 7 10840 b 10856 0 10857
b 10860 10 1089f 0 108a7 10 108b0 0 108e0 11 108f3 0 108f4 11 108f6 0 108fb 11 10900 9
1091a b 1091c 0 1091f 9 10920 a 1093a 0 1093f a 10940 0 10980 d 109b8 0 109bc 11 109be
d 109c0 11 109d0 0 109d2 11 10a00 8 10a04 0 10a05 8 10a07 0 10a0c 8 10a14 0 10a15 8
10a18 0 10a19 8 10a34 14 10a36 0 10a38 8 10a3b 0 10a3f 8 10a48 14 10a49 0 10a50 8
10a59 0 10a60 b 10a80 10 10aa0 0 10ac0 10 10ae7 0 10aeb 10 10af7 0 10b00 b 10b36 0
10b39 b 10b56 0 10b58 b 10b73 0 10b78 b 10b80 10 10b92 0 10b99 10 10b9d 0 10ba9 10
10bb0 0 10c00 b 10c49 0 10c80 11 10cb3 0 10cc0 11 10cf3 0 10cfa 11 10d00 14 10d28 0
10d30 14 10d3a 0 10d40 1b 10d66 0 10d69 1b 10d86 0 10d8e 1b 10d90 0 10e60 b 10e7f 0
10e80 17 10eaa 0 10eab 17 10eae 0 10eb0 17 10eb2 0 10ec2 1b 10ec5 0 10efc 1b 10efd 19
10f00 14 10f28 0 10f30 14 10f5a 0 10f70 18 10f8a 0 10fb0 17 10fcc 0 10fe0 15 10ff7 0
11000 c 1104e 0 11052 c 11070 18 11076 0 1107f 10 11080 b 110c2 18 110c3 0 110cd 14
110ce 0 110d0 d 110e9 0 110f0 d 110fa 0 11100 d 11135 0 11136 d 11144 14 11147 17
11148 0 11150 10 11177 0 11180 d 111c9 11 111cd 10 111ce 17 111d0 d 111da 10 111db 11
111e0 0 111e1 10 111f5 0 11200 10 11212 0 11213 10 1123e 12 1123f 19 11242 0 11280 11
11287 0 11288 11 11289 0 1128a 11 1128e 0 1128f 11 1129e 0 1129f 11 112aa 0 112b0 10
112eb 0 112f0 10 112fa 0 11300 11 11301 10 11304 0 11305 10 1130d 0 1130f 10 11311 0
11313 10 11329 0 1132a 10 11331 0 11332 10 11334 0 11335 10 1133a 0 1133b 14 1133c 10
11345 0 11347 10 11349 0 1134b 10 1134e 0 11350 11 11351 0 11357 10 11358 0 1135d 10
11364 0 11366 10 1136d 0 11370 10 11375 0 11380 1b 1138a 0 1138b 1b 1138c 0 1138e 1b
1138f 0 11390 1b 113b6 0 113b7 1b 113c1 0 113c2 1b 113c3 0 113c5 1b 113c6 0 113c7 1b
113cb 0 113cc 1b 113d6 0 113d7 1b 113d9 0 113e1 1b 113e3 0 11400 12 1145a 17 1145b 12
1145c 0 1145d 12 1145e 14 1145f 15 11460 17 11462 0 11480 10 114c8 0 114d0 10 114da 0
11580 10 115b6 0 115b8 10 115ca 11 115de 0 11600 10 11645 0 11650 10 1165a 0 11660 12
1166d 0 11680 d 116b8 15 116b9 18 116ba 0 116c0 d 116ca 0 116d0 1b 116e4 0 11700 11
1171a 14 1171b 0 1171d 11 1172c 0 11730 11 11740 18 11747 0 11800 14 1183c 0 118a0 10
118f3 0 118ff 10 11900 17 11907 0 11909 17 1190a 0 1190c 17 11914 0 11915 17 11917 0
11918 17 11936 0 11937 17 11939 0 1193b 17 11947 0 11950 17 1195a 0 119a0 15 119a8 0
119aa 15 119d8 0 119da 15 119e5 0 11a00 13 11a48 0 11a50 13 11a84 15 11a86 13 11a9d 14
11a9e 13 11aa3 0 11ab0 18 11ac0 10 11af9 0 11b00 19 11b0a 0 11bc0 1b 11be2 0 11bf0 1b
11bfa 0 11c00 12 11c09 0 11c0a 12 11c37 0 11c38 12 11c46 0 11c50 12 11c6d 0 11c70 12
11c90 0 11c92 12 11ca8 0 11ca9 12 11cb7 0 11d00 13 11d07 0 11d08 13 11d0a 0 11d0b 13
11d37 0 11d3a 13 11d3b 0 11d3c 13 11d3e 0 11d3f 13 11d48 0 11d50 13 11d5a 0 11d60 14
11d66 0 11d67 14 11d69 0 11d6a 14 11d8f 0 11d90 14 11d92 0 11d93 14 11d99 0 11da0 14
11daa 0 11ee0 14 11ef9 0 11f00 19 11f11 0 11f12 19 11f3b 0 11f3e 19 11f5a 1b 11f5b 0
11fb0 17 11fb1 0 11fc0 15 11ff2 0 11fff 15 12000 9 1236f 10 12399 11 1239a 0 12400 9
12463 10 1246f 0 12470 9 12474 10 12475 0 12480 11 12544 0 12f90 18 12ff3 0 13000 b
1342f 19 13430 15 13439 19 13456 0 13460 1b 143fb 0 14400 11 14647 0 16100 1b 1613a 0
16800 c 16a39 0 16a40 10 16a5f 0 16a60 10 16a6a 0 16a6e 10 16a70 18 16abf 0 16ac0 18
16aca 0 16ad0 10 16aee 0 16af0 10 16af6 0 16b00 10 16b46 0 16b50 10 16b5a 0 16b5b 10
16b62 0 16b63 10 16b78 0 16b7d 10 16b90 0 16d40 1b 16d7a 0 16e40 14 16e9b 0 16f00 d
16f45 15 16f4b 0 16f4f 15 16f50 d 16f7f 15 16f88 0 16f8f d 16fa0 0 16fe0 12 16fe1 13
16fe2 15 16fe4 17 16fe5 0 16ff0 17 16ff2 0 17000 12 187ed 14 187f2 15 187f8 0 18800 12
18af3 17 18cd6 0 18cff 1b 18d00 17 18d09 0 1aff0 18 1aff4 0 1aff5 18 1affc 0 1affd 18
1afff 0 1b000 c 1b002 13 1b11f 18 1b123 0 1b132 19 1b133 0 1b150 15 1b153 0 1b155 19
1b156 0 1b164 15 1b168 0 1b170 13 1b2fc 0 1bc00 10 1bc6b 0 1bc70 10 1bc7d 0 1bc80 10
1bc89 0 1bc90 10 1bc9a 0 1bc9c 10 1bca4 0 1cc00 1b 1ccfa 0 1cd00 1b 1ceb4 0 1cf00 18
1cf2e 0 1cf30 18 1cf47 0 1cf50 18 1cfc4 0 1d000 5 1d0f6 0 1d100 5 1d127 0 1d129 a
1d12a 5 1d1de 11 1d1e9 18 1d1eb 0 1d200 8 1d246 0 1d2c0 19 1d2d4 0 1d2e0 14 1d2f4 0
1d300 7 1d357 0 1d360 9 1d372 14 1d379 0 1d400 5 1d455 0 1d456 5 1d49d 0 1d49e 5 1d4a0
0 1d4a2 5 1d4a3 0 1d4a5 5 1d4a7 0 1d4a9 5 1d4ad 0 1d4ae 5 1d4ba 0 1d4bb 5 1d4bc 0
1d4bd 5 1d4c1 7 1d4c2 5 1d4c4 0 1d4c5 5 1d506 0 1d507 5 1d50b 0 1d50d 5 1d515 0 1d516
5 1d51d 0 1d51e 5 1d53a 0 1d53b 5 1d53f 0 1d540 5 1d545 0 1d546 5 1d547 0 1d54a 5
1d551 0 1d552 5 1d6a4 8 1d6a6 0 1d6a8 5 1d7ca 9 1d7cc 0 1d7ce 5 1d800 11 1da8c 0 1da9b
11 1daa0 0 1daa1 11 1dab0 0 1df00 18 1df1f 0 1df25 19 1df2b 0 1e000 12 1e007 0 1e008
12 1e019 0 1e01b 12 1e022 0 1e023 12 1e025 0 1e026 12 1e02b 0 1e030 19 1e06e 0 1e08f
19 1e090 0 1e100 15 1e12d 0 1e130 15 1e13e 0 1e140 15 1e14a 0 1e14e 15 1e150 0 1e290
18 1e2af 0 1e2c0 15 1e2fa 0 1e2ff 15 1e300 0 1e4d0 19 1e4fa 0 1e5d0 1b 1e5fb 0 1e5ff
1b 1e600 0 1e7e0 18 1e7e7 0 1e7e8 18 1e7ec 0 1e7ed 18 1e7ef 0 1e7f0 18 1e7ff 0 1e800
10 1e8c5 0 1e8c7 10 1e8d7 0 1e900 12 1e94b 15 1e94c 0 1e950 12 1e95a 0 1e95e 12 1e960
0 1ec71 14 1ecb5 0 1ed01 15 1ed3e 0 1ee00 d 1ee04 0 1ee05 d 1ee20 0 1ee21 d 1ee23 0
1ee24 d 1ee25 0 1ee27 d 1ee28 0 1ee29 d 1ee33 0 1ee34 d 1ee38 0 1ee39 d 1ee3a 0 1ee3b
d 1ee3c 0 1ee42 d 1ee43 0 1ee47 d 1ee48 0 1ee49 d 1ee4a 0 1ee4b d 1ee4c 0 1ee4d d
1ee50 0 1ee51 d 1ee53 0 1ee54 d 1ee55 0 1ee57 d 1ee58 0 1ee59 d 1ee5a 0 1ee5b d 1ee5c
0 1ee5d d 1ee5e 0 1ee5f d 1ee60 0 1ee61 d 1ee63 0 1ee64 d 1ee65 0 1ee67 d 1ee6b 0
1ee6c d 1ee73 0 1ee74 d 1ee78 0 1ee79 d 1ee7d 0 1ee7e d 1ee7f 0 1ee80 d 1ee8a 0 1ee8b
d 1ee9c 0 1eea1 d 1eea4 0 1eea5 d 1eeaa 0 1eeab d 1eebc 0 1eef0 d 1eef2 0 1f000 a
1f02c 0 1f030 a 1f094 0 1f0a0 c 1f0af 0 1f0b1 c 1f0bf 10 1f0c0 0 1f0c1 c 1f0d0 0 1f0d1
c 1f0e0 10 1f0f6 0 1f100 b 1f10b 10 1f10d 17 1f110 b 1f12f 14 1f130 c 1f131 b 1f132 c
1f13d b 1f13e c 1f13f b 1f140 c 1f142 b 1f143 c 1f146 b 1f147 c 1f14a b 1f14f c 1f157
b 1f158 c 1f15f b 1f160 c 1f16a d 1f16c 15 1f16d 17 1f170 c 1f179 b 1f17a c 1f17b b
1f17d c 1f17f b 1f180 c 1f18a b 1f18e c 1f190 b 1f191 c 1f19b 12 1f1ad 17 1f1ae 0
1f1e6 c 1f200 b 1f201 c 1f203 0 1f210 b 1f232 c 1f23b 12 1f23c 0 1f240 b 1f249 0 1f250
c 1f252 0 1f260 13 1f266 0 1f300 c 1f321 10 1f32d 11 1f330 c 1f336 10 1f337 c 1f37d 10
1f37e 11 1f380 c 1f394 10 1f3a0 c 1f3c5 10 1f3c6 c 1f3cb 10 1f3cf 11 1f3d4 10 1f3e0 c
1f3f1 10 1f3f8 11 1f400 c 1f43f 10 1f440 c 1f441 10 1f442 c 1f4f8 10 1f4f9 c 1f4fd 10
1f4ff 11 1f500 c 1f53e 10 1f540 d 1f544 10 1f54b 11 1f550 c 1f568 10 1f57a 12 1f57b 10
1f5a4 12 1f5a5 10 1f5fb c 1f600 d 1f601 c 1f611 d 1f612 c 1f615 d 1f616 c 1f617 d
1f618 c 1f619 d 1f61a c 1f61b d 1f61c c 1f61f d 1f620 c 1f626 d 1f628 c 1f62c d 1f62d
c 1f62e d 1f630 c 1f634 d 1f635 c 1f641 10 1f643 11 1f645 c 1f650 10 1f680 c 1f6c6 10
1f6d0 11 1f6d1 12 1f6d3 13 1f6d5 15 1f6d6 17 1f6d8 0 1f6dc 19 1f6dd 18 1f6e0 10 1f6ed
0 1f6f0 10 1f6f4 12 1f6f7 13 1f6f9 14 1f6fa 15 1f6fb 17 1f6fd 0 1f700 c 1f774 19 1f777
0 1f77b 19 1f780 10 1f7d5 14 1f7d9 19 1f7da 0 1f7e0 15 1f7ec 0 1f7f0 18 1f7f1 0 1f800
10 1f80c 0 1f810 10 1f848 0 1f850 10 1f85a 0 1f860 10 1f888 0 1f890 10 1f8ae 0 1f8b0
17 1f8b2 1b 1f8bc 0 1f8c0 1b 1f8c2 0 1f900 13 1f90c 17 1f90d 15 1f910 11 1f919 12
1f91f 13 1f920 12 1f928 13 1f930 12 1f931 13 1f933 12 1f93f 15 1f940 12 1f94c 13 1f94d
14 1f950 12 1f95f 13 1f96c 14 1f971 15 1f972 17 1f973 14 1f977 17 1f979 18 1f97a 14
1f97b 15 1f97c 14 1f980 11 1f985 12 1f992 13 1f998 14 1f9a3 17 1f9a5 15 1f9ab 17 1f9ae
15 1f9b0 14 1f9ba 15 1f9c0 11 1f9c1 14 1f9c3 15 1f9cb 17 1f9cc 18 1f9cd 15 1f9d0 13
1f9e7 14 1fa00 15 1fa54 0 1fa60 14 1fa6e 0 1fa70 15 1fa74 17 1fa75 19 1fa78 15 1fa7b
18 1fa7d 0 1fa80 15 1fa83 17 1fa87 19 1fa89 1b 1fa8a 0 1fa8f 1b 1fa90 15 1fa96 17
1faa9 18 1faad 19 1fab0 17 1fab7 18 1fabb 19 1fabe 1b 1fabf 19 1fac0 17 1fac3 18 1fac6
1b 1fac7 0 1face 19 1fad0 17 1fad7 18 1fada 19 1fadc 1b 1fadd 0 1fadf 1b 1fae0 18
1fae8 19 1fae9 1b 1faea 0 1faf0 18 1faf7 19 1faf9 0 1fb00 17 1fb93 0 1fb94 17 1fbcb 1b
1fbf0 17 1fbfa 0 1fffe 2 20000 5 2a6d7 17 2a6de 18 2a6e0 0 2a700 b 2b735 18 2b739 19
2b73a 0 2b740 c 2b81e 0 2b820 11 2cea2 0 2ceb0 13 2ebe1 0 2ebf0 1a 2ee5e 0 2f800 5
2fa1e 0 2fffe 2 30000 17 3134b 0 31350 19 323b0 0 3fffe 2 40000 0 4fffe 2 50000 0
5fffe 2 60000 0 6fffe 2 70000 0 7fffe 2 80000 0 8fffe 2 90000 0 9fffe 2 a0000 0 afffe
2 b0000 0 bfffe 2 c0000 0 cfffe 2 d0000 0 dfffe 2 e0000 0 e0001 5 e0002 0 e0020 5
e0080 0 e0100 7 e01f0 0 efffe 2"

/-- The position in `ageNames`, counted from one, of the version that assigned a
character; zero when it is not assigned. -/
def ageOf (c : Char) : Nat := ageTable.get c

/-- Whether a character was assigned by the version at position `v` of `ageNames`,
counted from one: in that version or an earlier one. -/
def assignedBy (v : Nat) (c : Char) : Bool := 0 < ageOf c && ageOf c ≤ v

/-- The characters that Unicode 17.0 assigned, as sorted bounds. -/
def laterBounds : Array Nat := hexNumbers "
88f 890 c5c c5d cdc cdd 1acf 1ade 1ae0 1aec 20c1 20c2 2b96 2b97 a7ce a7d0 a7d2 a7d3
a7d4 a7d5 a7f1 a7f2 fbc3 fbd3 fd90 fd92 fdc8 fdcf 10940 1095a 10ec5 10ec8 10ed0 10ed9
10efa 10efc 11b60 11b68 11db0 11ddc 11de0 11dea 16ea0 16eb9 16ebb 16ed4 16ff2 16ff7
187f8 18800 18d09 18d1f 18d80 18df3 1ccfa 1ccfd 1ceba 1ced1 1cee0 1cef1 1e6c0 1e6df
1e6e0 1e6f6 1e6fe 1e700 1f6d8 1f6d9 1f777 1f77b 1f8d0 1f8d9 1fa54 1fa58 1fa8a 1fa8b
1fa8e 1fa8f 1fac8 1fac9 1facd 1face 1faea 1faeb 1faef 1faf0 1fbfa 1fbfb 2b73a 2b740
2cea2 2ceae 323b0 3347a"

/-- Whether Unicode 17.0 assigned a character, which 16.0 leaves unassigned. -/
def isLater (c : Char) : Bool := inBounds laterBounds c

end TagStore.Text
