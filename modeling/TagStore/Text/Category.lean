import TagStore.Text.Ranges
/-!
# Text.Category

The general category of every character, after Unicode 17.0, by its two-letter name:
`Lu` upper-case letter, `Nd` decimal digit, `Zs` space separator and so on; code points
that are not assigned are `Cn`.
-/

namespace TagStore.Text

/-- The category names in table-code order. -/
def categoryNames : Array String := #["Cn", "Lu", "Ll", "Lt", "Lm", "Lo", "Mn", "Mc", "Me", "Nd", "Nl", "No", "Pc", "Pd", "Ps", "Pe", "Pi", "Pf", "Po", "Sm", "Sc", "Sk", "So", "Zs", "Zl", "Zp", "Cc", "Cf", "Cs", "Co"]

/-- Range starts and category codes. -/
def categoryTable : RangeMap := RangeMap.ofHex "
0 1a 20 17 21 12 24 14 25 12 28 e 29 f 2a 12 2b 13 2c 12 2d d 2e 12 30 9 3a 12 3c 13
3f 12 41 1 5b e 5c 12 5d f 5e 15 5f c 60 15 61 2 7b e 7c 13 7d f 7e 13 7f 1a a0 17 a1
12 a2 14 a6 16 a7 12 a8 15 a9 16 aa 5 ab 10 ac 13 ad 1b ae 16 af 15 b0 16 b1 13 b2 b
b4 15 b5 2 b6 12 b8 15 b9 b ba 5 bb 11 bc b bf 12 c0 1 d7 13 d8 1 df 2 f7 13 f8 2 100
1 101 2 102 1 103 2 104 1 105 2 106 1 107 2 108 1 109 2 10a 1 10b 2 10c 1 10d 2 10e 1
10f 2 110 1 111 2 112 1 113 2 114 1 115 2 116 1 117 2 118 1 119 2 11a 1 11b 2 11c 1
11d 2 11e 1 11f 2 120 1 121 2 122 1 123 2 124 1 125 2 126 1 127 2 128 1 129 2 12a 1
12b 2 12c 1 12d 2 12e 1 12f 2 130 1 131 2 132 1 133 2 134 1 135 2 136 1 137 2 139 1
13a 2 13b 1 13c 2 13d 1 13e 2 13f 1 140 2 141 1 142 2 143 1 144 2 145 1 146 2 147 1
148 2 14a 1 14b 2 14c 1 14d 2 14e 1 14f 2 150 1 151 2 152 1 153 2 154 1 155 2 156 1
157 2 158 1 159 2 15a 1 15b 2 15c 1 15d 2 15e 1 15f 2 160 1 161 2 162 1 163 2 164 1
165 2 166 1 167 2 168 1 169 2 16a 1 16b 2 16c 1 16d 2 16e 1 16f 2 170 1 171 2 172 1
173 2 174 1 175 2 176 1 177 2 178 1 17a 2 17b 1 17c 2 17d 1 17e 2 181 1 183 2 184 1
185 2 186 1 188 2 189 1 18c 2 18e 1 192 2 193 1 195 2 196 1 199 2 19c 1 19e 2 19f 1
1a1 2 1a2 1 1a3 2 1a4 1 1a5 2 1a6 1 1a8 2 1a9 1 1aa 2 1ac 1 1ad 2 1ae 1 1b0 2 1b1 1
1b4 2 1b5 1 1b6 2 1b7 1 1b9 2 1bb 5 1bc 1 1bd 2 1c0 5 1c4 1 1c5 3 1c6 2 1c7 1 1c8 3
1c9 2 1ca 1 1cb 3 1cc 2 1cd 1 1ce 2 1cf 1 1d0 2 1d1 1 1d2 2 1d3 1 1d4 2 1d5 1 1d6 2
1d7 1 1d8 2 1d9 1 1da 2 1db 1 1dc 2 1de 1 1df 2 1e0 1 1e1 2 1e2 1 1e3 2 1e4 1 1e5 2
1e6 1 1e7 2 1e8 1 1e9 2 1ea 1 1eb 2 1ec 1 1ed 2 1ee 1 1ef 2 1f1 1 1f2 3 1f3 2 1f4 1
1f5 2 1f6 1 1f9 2 1fa 1 1fb 2 1fc 1 1fd 2 1fe 1 1ff 2 200 1 201 2 202 1 203 2 204 1
205 2 206 1 207 2 208 1 209 2 20a 1 20b 2 20c 1 20d 2 20e 1 20f 2 210 1 211 2 212 1
213 2 214 1 215 2 216 1 217 2 218 1 219 2 21a 1 21b 2 21c 1 21d 2 21e 1 21f 2 220 1
221 2 222 1 223 2 224 1 225 2 226 1 227 2 228 1 229 2 22a 1 22b 2 22c 1 22d 2 22e 1
22f 2 230 1 231 2 232 1 233 2 23a 1 23c 2 23d 1 23f 2 241 1 242 2 243 1 247 2 248 1
249 2 24a 1 24b 2 24c 1 24d 2 24e 1 24f 2 294 5 296 2 2b0 4 2c2 15 2c6 4 2d2 15 2e0 4
2e5 15 2ec 4 2ed 15 2ee 4 2ef 15 300 6 370 1 371 2 372 1 373 2 374 4 375 15 376 1 377
2 378 0 37a 4 37b 2 37e 12 37f 1 380 0 384 15 386 1 387 12 388 1 38b 0 38c 1 38d 0 38e
1 390 2 391 1 3a2 0 3a3 1 3ac 2 3cf 1 3d0 2 3d2 1 3d5 2 3d8 1 3d9 2 3da 1 3db 2 3dc 1
3dd 2 3de 1 3df 2 3e0 1 3e1 2 3e2 1 3e3 2 3e4 1 3e5 2 3e6 1 3e7 2 3e8 1 3e9 2 3ea 1
3eb 2 3ec 1 3ed 2 3ee 1 3ef 2 3f4 1 3f5 2 3f6 13 3f7 1 3f8 2 3f9 1 3fb 2 3fd 1 430 2
460 1 461 2 462 1 463 2 464 1 465 2 466 1 467 2 468 1 469 2 46a 1 46b 2 46c 1 46d 2
46e 1 46f 2 470 1 471 2 472 1 473 2 474 1 475 2 476 1 477 2 478 1 479 2 47a 1 47b 2
47c 1 47d 2 47e 1 47f 2 480 1 481 2 482 16 483 6 488 8 48a 1 48b 2 48c 1 48d 2 48e 1
48f 2 490 1 491 2 492 1 493 2 494 1 495 2 496 1 497 2 498 1 499 2 49a 1 49b 2 49c 1
49d 2 49e 1 49f 2 4a0 1 4a1 2 4a2 1 4a3 2 4a4 1 4a5 2 4a6 1 4a7 2 4a8 1 4a9 2 4aa 1
4ab 2 4ac 1 4ad 2 4ae 1 4af 2 4b0 1 4b1 2 4b2 1 4b3 2 4b4 1 4b5 2 4b6 1 4b7 2 4b8 1
4b9 2 4ba 1 4bb 2 4bc 1 4bd 2 4be 1 4bf 2 4c0 1 4c2 2 4c3 1 4c4 2 4c5 1 4c6 2 4c7 1
4c8 2 4c9 1 4ca 2 4cb 1 4cc 2 4cd 1 4ce 2 4d0 1 4d1 2 4d2 1 4d3 2 4d4 1 4d5 2 4d6 1
4d7 2 4d8 1 4d9 2 4da 1 4db 2 4dc 1 4dd 2 4de 1 4df 2 4e0 1 4e1 2 4e2 1 4e3 2 4e4 1
4e5 2 4e6 1 4e7 2 4e8 1 4e9 2 4ea 1 4eb 2 4ec 1 4ed 2 4ee 1 4ef 2 4f0 1 4f1 2 4f2 1
4f3 2 4f4 1 4f5 2 4f6 1 4f7 2 4f8 1 4f9 2 4fa 1 4fb 2 4fc 1 4fd 2 4fe 1 4ff 2 500 1
501 2 502 1 503 2 504 1 505 2 506 1 507 2 508 1 509 2 50a 1 50b 2 50c 1 50d 2 50e 1
50f 2 510 1 511 2 512 1 513 2 514 1 515 2 516 1 517 2 518 1 519 2 51a 1 51b 2 51c 1
51d 2 51e 1 51f 2 520 1 521 2 522 1 523 2 524 1 525 2 526 1 527 2 528 1 529 2 52a 1
52b 2 52c 1 52d 2 52e 1 52f 2 530 0 531 1 557 0 559 4 55a 12 560 2 589 12 58a d 58b 0
58d 16 58f 14 590 0 591 6 5be d 5bf 6 5c0 12 5c1 6 5c3 12 5c4 6 5c6 12 5c7 6 5c8 0 5d0
5 5eb 0 5ef 5 5f3 12 5f5 0 600 1b 606 13 609 12 60b 14 60c 12 60e 16 610 6 61b 12 61c
1b 61d 12 620 5 640 4 641 5 64b 6 660 9 66a 12 66e 5 670 6 671 5 6d4 12 6d5 5 6d6 6
6dd 1b 6de 16 6df 6 6e5 4 6e7 6 6e9 16 6ea 6 6ee 5 6f0 9 6fa 5 6fd 16 6ff 5 700 12 70e
0 70f 1b 710 5 711 6 712 5 730 6 74b 0 74d 5 7a6 6 7b1 5 7b2 0 7c0 9 7ca 5 7eb 6 7f4 4
7f6 16 7f7 12 7fa 4 7fb 0 7fd 6 7fe 14 800 5 816 6 81a 4 81b 6 824 4 825 6 828 4 829 6
82e 0 830 12 83f 0 840 5 859 6 85c 0 85e 12 85f 0 860 5 86b 0 870 5 888 15 889 5 890
1b 892 0 897 6 8a0 5 8c9 4 8ca 6 8e2 1b 8e3 6 903 7 904 5 93a 6 93b 7 93c 6 93d 5 93e
7 941 6 949 7 94d 6 94e 7 950 5 951 6 958 5 962 6 964 12 966 9 970 12 971 4 972 5 981
6 982 7 984 0 985 5 98d 0 98f 5 991 0 993 5 9a9 0 9aa 5 9b1 0 9b2 5 9b3 0 9b6 5 9ba 0
9bc 6 9bd 5 9be 7 9c1 6 9c5 0 9c7 7 9c9 0 9cb 7 9cd 6 9ce 5 9cf 0 9d7 7 9d8 0 9dc 5
9de 0 9df 5 9e2 6 9e4 0 9e6 9 9f0 5 9f2 14 9f4 b 9fa 16 9fb 14 9fc 5 9fd 12 9fe 6 9ff
0 a01 6 a03 7 a04 0 a05 5 a0b 0 a0f 5 a11 0 a13 5 a29 0 a2a 5 a31 0 a32 5 a34 0 a35 5
a37 0 a38 5 a3a 0 a3c 6 a3d 0 a3e 7 a41 6 a43 0 a47 6 a49 0 a4b 6 a4e 0 a51 6 a52 0
a59 5 a5d 0 a5e 5 a5f 0 a66 9 a70 6 a72 5 a75 6 a76 12 a77 0 a81 6 a83 7 a84 0 a85 5
a8e 0 a8f 5 a92 0 a93 5 aa9 0 aaa 5 ab1 0 ab2 5 ab4 0 ab5 5 aba 0 abc 6 abd 5 abe 7
ac1 6 ac6 0 ac7 6 ac9 7 aca 0 acb 7 acd 6 ace 0 ad0 5 ad1 0 ae0 5 ae2 6 ae4 0 ae6 9
af0 12 af1 14 af2 0 af9 5 afa 6 b00 0 b01 6 b02 7 b04 0 b05 5 b0d 0 b0f 5 b11 0 b13 5
b29 0 b2a 5 b31 0 b32 5 b34 0 b35 5 b3a 0 b3c 6 b3d 5 b3e 7 b3f 6 b40 7 b41 6 b45 0
b47 7 b49 0 b4b 7 b4d 6 b4e 0 b55 6 b57 7 b58 0 b5c 5 b5e 0 b5f 5 b62 6 b64 0 b66 9
b70 16 b71 5 b72 b b78 0 b82 6 b83 5 b84 0 b85 5 b8b 0 b8e 5 b91 0 b92 5 b96 0 b99 5
b9b 0 b9c 5 b9d 0 b9e 5 ba0 0 ba3 5 ba5 0 ba8 5 bab 0 bae 5 bba 0 bbe 7 bc0 6 bc1 7
bc3 0 bc6 7 bc9 0 bca 7 bcd 6 bce 0 bd0 5 bd1 0 bd7 7 bd8 0 be6 9 bf0 b bf3 16 bf9 14
bfa 16 bfb 0 c00 6 c01 7 c04 6 c05 5 c0d 0 c0e 5 c11 0 c12 5 c29 0 c2a 5 c3a 0 c3c 6
c3d 5 c3e 6 c41 7 c45 0 c46 6 c49 0 c4a 6 c4e 0 c55 6 c57 0 c58 5 c5b 0 c5c 5 c5e 0
c60 5 c62 6 c64 0 c66 9 c70 0 c77 12 c78 b c7f 16 c80 5 c81 6 c82 7 c84 12 c85 5 c8d 0
c8e 5 c91 0 c92 5 ca9 0 caa 5 cb4 0 cb5 5 cba 0 cbc 6 cbd 5 cbe 7 cbf 6 cc0 7 cc5 0
cc6 6 cc7 7 cc9 0 cca 7 ccc 6 cce 0 cd5 7 cd7 0 cdc 5 cdf 0 ce0 5 ce2 6 ce4 0 ce6 9
cf0 0 cf1 5 cf3 7 cf4 0 d00 6 d02 7 d04 5 d0d 0 d0e 5 d11 0 d12 5 d3b 6 d3d 5 d3e 7
d41 6 d45 0 d46 7 d49 0 d4a 7 d4d 6 d4e 5 d4f 16 d50 0 d54 5 d57 7 d58 b d5f 5 d62 6
d64 0 d66 9 d70 b d79 16 d7a 5 d80 0 d81 6 d82 7 d84 0 d85 5 d97 0 d9a 5 db2 0 db3 5
dbc 0 dbd 5 dbe 0 dc0 5 dc7 0 dca 6 dcb 0 dcf 7 dd2 6 dd5 0 dd6 6 dd7 0 dd8 7 de0 0
de6 9 df0 0 df2 7 df4 12 df5 0 e01 5 e31 6 e32 5 e34 6 e3b 0 e3f 14 e40 5 e46 4 e47 6
e4f 12 e50 9 e5a 12 e5c 0 e81 5 e83 0 e84 5 e85 0 e86 5 e8b 0 e8c 5 ea4 0 ea5 5 ea6 0
ea7 5 eb1 6 eb2 5 eb4 6 ebd 5 ebe 0 ec0 5 ec5 0 ec6 4 ec7 0 ec8 6 ecf 0 ed0 9 eda 0
edc 5 ee0 0 f00 5 f01 16 f04 12 f13 16 f14 12 f15 16 f18 6 f1a 16 f20 9 f2a b f34 16
f35 6 f36 16 f37 6 f38 16 f39 6 f3a e f3b f f3c e f3d f f3e 7 f40 5 f48 0 f49 5 f6d 0
f71 6 f7f 7 f80 6 f85 12 f86 6 f88 5 f8d 6 f98 0 f99 6 fbd 0 fbe 16 fc6 6 fc7 16 fcd 0
fce 16 fd0 12 fd5 16 fd9 12 fdb 0 1000 5 102b 7 102d 6 1031 7 1032 6 1038 7 1039 6
103b 7 103d 6 103f 5 1040 9 104a 12 1050 5 1056 7 1058 6 105a 5 105e 6 1061 5 1062 7
1065 5 1067 7 106e 5 1071 6 1075 5 1082 6 1083 7 1085 6 1087 7 108d 6 108e 5 108f 7
1090 9 109a 7 109d 6 109e 16 10a0 1 10c6 0 10c7 1 10c8 0 10cd 1 10ce 0 10d0 2 10fb 12
10fc 4 10fd 2 1100 5 1249 0 124a 5 124e 0 1250 5 1257 0 1258 5 1259 0 125a 5 125e 0
1260 5 1289 0 128a 5 128e 0 1290 5 12b1 0 12b2 5 12b6 0 12b8 5 12bf 0 12c0 5 12c1 0
12c2 5 12c6 0 12c8 5 12d7 0 12d8 5 1311 0 1312 5 1316 0 1318 5 135b 0 135d 6 1360 12
1369 b 137d 0 1380 5 1390 16 139a 0 13a0 1 13f6 0 13f8 2 13fe 0 1400 d 1401 5 166d 16
166e 12 166f 5 1680 17 1681 5 169b e 169c f 169d 0 16a0 5 16eb 12 16ee a 16f1 5 16f9 0
1700 5 1712 6 1715 7 1716 0 171f 5 1732 6 1734 7 1735 12 1737 0 1740 5 1752 6 1754 0
1760 5 176d 0 176e 5 1771 0 1772 6 1774 0 1780 5 17b4 6 17b6 7 17b7 6 17be 7 17c6 6
17c7 7 17c9 6 17d4 12 17d7 4 17d8 12 17db 14 17dc 5 17dd 6 17de 0 17e0 9 17ea 0 17f0 b
17fa 0 1800 12 1806 d 1807 12 180b 6 180e 1b 180f 6 1810 9 181a 0 1820 5 1843 4 1844 5
1879 0 1880 5 1885 6 1887 5 18a9 6 18aa 5 18ab 0 18b0 5 18f6 0 1900 5 191f 0 1920 6
1923 7 1927 6 1929 7 192c 0 1930 7 1932 6 1933 7 1939 6 193c 0 1940 16 1941 0 1944 12
1946 9 1950 5 196e 0 1970 5 1975 0 1980 5 19ac 0 19b0 5 19ca 0 19d0 9 19da b 19db 0
19de 16 1a00 5 1a17 6 1a19 7 1a1b 6 1a1c 0 1a1e 12 1a20 5 1a55 7 1a56 6 1a57 7 1a58 6
1a5f 0 1a60 6 1a61 7 1a62 6 1a63 7 1a65 6 1a6d 7 1a73 6 1a7d 0 1a7f 6 1a80 9 1a8a 0
1a90 9 1a9a 0 1aa0 12 1aa7 4 1aa8 12 1aae 0 1ab0 6 1abe 8 1abf 6 1ade 0 1ae0 6 1aec 0
1b00 6 1b04 7 1b05 5 1b34 6 1b35 7 1b36 6 1b3b 7 1b3c 6 1b3d 7 1b42 6 1b43 7 1b45 5
1b4d 0 1b4e 12 1b50 9 1b5a 12 1b61 16 1b6b 6 1b74 16 1b7d 12 1b80 6 1b82 7 1b83 5 1ba1
7 1ba2 6 1ba6 7 1ba8 6 1baa 7 1bab 6 1bae 5 1bb0 9 1bba 5 1be6 6 1be7 7 1be8 6 1bea 7
1bed 6 1bee 7 1bef 6 1bf2 7 1bf4 0 1bfc 12 1c00 5 1c24 7 1c2c 6 1c34 7 1c36 6 1c38 0
1c3b 12 1c40 9 1c4a 0 1c4d 5 1c50 9 1c5a 5 1c78 4 1c7e 12 1c80 2 1c89 1 1c8a 2 1c8b 0
1c90 1 1cbb 0 1cbd 1 1cc0 12 1cc8 0 1cd0 6 1cd3 12 1cd4 6 1ce1 7 1ce2 6 1ce9 5 1ced 6
1cee 5 1cf4 6 1cf5 5 1cf7 7 1cf8 6 1cfa 5 1cfb 0 1d00 2 1d2c 4 1d6b 2 1d78 4 1d79 2
1d9b 4 1dc0 6 1e00 1 1e01 2 1e02 1 1e03 2 1e04 1 1e05 2 1e06 1 1e07 2 1e08 1 1e09 2
1e0a 1 1e0b 2 1e0c 1 1e0d 2 1e0e 1 1e0f 2 1e10 1 1e11 2 1e12 1 1e13 2 1e14 1 1e15 2
1e16 1 1e17 2 1e18 1 1e19 2 1e1a 1 1e1b 2 1e1c 1 1e1d 2 1e1e 1 1e1f 2 1e20 1 1e21 2
1e22 1 1e23 2 1e24 1 1e25 2 1e26 1 1e27 2 1e28 1 1e29 2 1e2a 1 1e2b 2 1e2c 1 1e2d 2
1e2e 1 1e2f 2 1e30 1 1e31 2 1e32 1 1e33 2 1e34 1 1e35 2 1e36 1 1e37 2 1e38 1 1e39 2
1e3a 1 1e3b 2 1e3c 1 1e3d 2 1e3e 1 1e3f 2 1e40 1 1e41 2 1e42 1 1e43 2 1e44 1 1e45 2
1e46 1 1e47 2 1e48 1 1e49 2 1e4a 1 1e4b 2 1e4c 1 1e4d 2 1e4e 1 1e4f 2 1e50 1 1e51 2
1e52 1 1e53 2 1e54 1 1e55 2 1e56 1 1e57 2 1e58 1 1e59 2 1e5a 1 1e5b 2 1e5c 1 1e5d 2
1e5e 1 1e5f 2 1e60 1 1e61 2 1e62 1 1e63 2 1e64 1 1e65 2 1e66 1 1e67 2 1e68 1 1e69 2
1e6a 1 1e6b 2 1e6c 1 1e6d 2 1e6e 1 1e6f 2 1e70 1 1e71 2 1e72 1 1e73 2 1e74 1 1e75 2
1e76 1 1e77 2 1e78 1 1e79 2 1e7a 1 1e7b 2 1e7c 1 1e7d 2 1e7e 1 1e7f 2 1e80 1 1e81 2
1e82 1 1e83 2 1e84 1 1e85 2 1e86 1 1e87 2 1e88 1 1e89 2 1e8a 1 1e8b 2 1e8c 1 1e8d 2
1e8e 1 1e8f 2 1e90 1 1e91 2 1e92 1 1e93 2 1e94 1 1e95 2 1e9e 1 1e9f 2 1ea0 1 1ea1 2
1ea2 1 1ea3 2 1ea4 1 1ea5 2 1ea6 1 1ea7 2 1ea8 1 1ea9 2 1eaa 1 1eab 2 1eac 1 1ead 2
1eae 1 1eaf 2 1eb0 1 1eb1 2 1eb2 1 1eb3 2 1eb4 1 1eb5 2 1eb6 1 1eb7 2 1eb8 1 1eb9 2
1eba 1 1ebb 2 1ebc 1 1ebd 2 1ebe 1 1ebf 2 1ec0 1 1ec1 2 1ec2 1 1ec3 2 1ec4 1 1ec5 2
1ec6 1 1ec7 2 1ec8 1 1ec9 2 1eca 1 1ecb 2 1ecc 1 1ecd 2 1ece 1 1ecf 2 1ed0 1 1ed1 2
1ed2 1 1ed3 2 1ed4 1 1ed5 2 1ed6 1 1ed7 2 1ed8 1 1ed9 2 1eda 1 1edb 2 1edc 1 1edd 2
1ede 1 1edf 2 1ee0 1 1ee1 2 1ee2 1 1ee3 2 1ee4 1 1ee5 2 1ee6 1 1ee7 2 1ee8 1 1ee9 2
1eea 1 1eeb 2 1eec 1 1eed 2 1eee 1 1eef 2 1ef0 1 1ef1 2 1ef2 1 1ef3 2 1ef4 1 1ef5 2
1ef6 1 1ef7 2 1ef8 1 1ef9 2 1efa 1 1efb 2 1efc 1 1efd 2 1efe 1 1eff 2 1f08 1 1f10 2
1f16 0 1f18 1 1f1e 0 1f20 2 1f28 1 1f30 2 1f38 1 1f40 2 1f46 0 1f48 1 1f4e 0 1f50 2
1f58 0 1f59 1 1f5a 0 1f5b 1 1f5c 0 1f5d 1 1f5e 0 1f5f 1 1f60 2 1f68 1 1f70 2 1f7e 0
1f80 2 1f88 3 1f90 2 1f98 3 1fa0 2 1fa8 3 1fb0 2 1fb5 0 1fb6 2 1fb8 1 1fbc 3 1fbd 15
1fbe 2 1fbf 15 1fc2 2 1fc5 0 1fc6 2 1fc8 1 1fcc 3 1fcd 15 1fd0 2 1fd4 0 1fd6 2 1fd8 1
1fdc 0 1fdd 15 1fe0 2 1fe8 1 1fed 15 1ff0 0 1ff2 2 1ff5 0 1ff6 2 1ff8 1 1ffc 3 1ffd 15
1fff 0 2000 17 200b 1b 2010 d 2016 12 2018 10 2019 11 201a e 201b 10 201d 11 201e e
201f 10 2020 12 2028 18 2029 19 202a 1b 202f 17 2030 12 2039 10 203a 11 203b 12 203f c
2041 12 2044 13 2045 e 2046 f 2047 12 2052 13 2053 12 2054 c 2055 12 205f 17 2060 1b
2065 0 2066 1b 2070 b 2071 4 2072 0 2074 b 207a 13 207d e 207e f 207f 4 2080 b 208a 13
208d e 208e f 208f 0 2090 4 209d 0 20a0 14 20c2 0 20d0 6 20dd 8 20e1 6 20e2 8 20e5 6
20f1 0 2100 16 2102 1 2103 16 2107 1 2108 16 210a 2 210b 1 210e 2 2110 1 2113 2 2114
16 2115 1 2116 16 2118 13 2119 1 211e 16 2124 1 2125 16 2126 1 2127 16 2128 1 2129 16
212a 1 212e 16 212f 2 2130 1 2134 2 2135 5 2139 2 213a 16 213c 2 213e 1 2140 13 2145 1
2146 2 214a 16 214b 13 214c 16 214e 2 214f 16 2150 b 2160 a 2183 1 2184 2 2185 a 2189
b 218a 16 218c 0 2190 13 2195 16 219a 13 219c 16 21a0 13 21a1 16 21a3 13 21a4 16 21a6
13 21a7 16 21ae 13 21af 16 21ce 13 21d0 16 21d2 13 21d3 16 21d4 13 21d5 16 21f4 13
2300 16 2308 e 2309 f 230a e 230b f 230c 16 2320 13 2322 16 2329 e 232a f 232b 16 237c
13 237d 16 239b 13 23b4 16 23dc 13 23e2 16 242a 0 2440 16 244b 0 2460 b 249c 16 24ea b
2500 16 25b7 13 25b8 16 25c1 13 25c2 16 25f8 13 2600 16 266f 13 2670 16 2768 e 2769 f
276a e 276b f 276c e 276d f 276e e 276f f 2770 e 2771 f 2772 e 2773 f 2774 e 2775 f
2776 b 2794 16 27c0 13 27c5 e 27c6 f 27c7 13 27e6 e 27e7 f 27e8 e 27e9 f 27ea e 27eb f
27ec e 27ed f 27ee e 27ef f 27f0 13 2800 16 2900 13 2983 e 2984 f 2985 e 2986 f 2987 e
2988 f 2989 e 298a f 298b e 298c f 298d e 298e f 298f e 2990 f 2991 e 2992 f 2993 e
2994 f 2995 e 2996 f 2997 e 2998 f 2999 13 29d8 e 29d9 f 29da e 29db f 29dc 13 29fc e
29fd f 29fe 13 2b00 16 2b30 13 2b45 16 2b47 13 2b4d 16 2b74 0 2b76 16 2c00 1 2c30 2
2c60 1 2c61 2 2c62 1 2c65 2 2c67 1 2c68 2 2c69 1 2c6a 2 2c6b 1 2c6c 2 2c6d 1 2c71 2
2c72 1 2c73 2 2c75 1 2c76 2 2c7c 4 2c7e 1 2c81 2 2c82 1 2c83 2 2c84 1 2c85 2 2c86 1
2c87 2 2c88 1 2c89 2 2c8a 1 2c8b 2 2c8c 1 2c8d 2 2c8e 1 2c8f 2 2c90 1 2c91 2 2c92 1
2c93 2 2c94 1 2c95 2 2c96 1 2c97 2 2c98 1 2c99 2 2c9a 1 2c9b 2 2c9c 1 2c9d 2 2c9e 1
2c9f 2 2ca0 1 2ca1 2 2ca2 1 2ca3 2 2ca4 1 2ca5 2 2ca6 1 2ca7 2 2ca8 1 2ca9 2 2caa 1
2cab 2 2cac 1 2cad 2 2cae 1 2caf 2 2cb0 1 2cb1 2 2cb2 1 2cb3 2 2cb4 1 2cb5 2 2cb6 1
2cb7 2 2cb8 1 2cb9 2 2cba 1 2cbb 2 2cbc 1 2cbd 2 2cbe 1 2cbf 2 2cc0 1 2cc1 2 2cc2 1
2cc3 2 2cc4 1 2cc5 2 2cc6 1 2cc7 2 2cc8 1 2cc9 2 2cca 1 2ccb 2 2ccc 1 2ccd 2 2cce 1
2ccf 2 2cd0 1 2cd1 2 2cd2 1 2cd3 2 2cd4 1 2cd5 2 2cd6 1 2cd7 2 2cd8 1 2cd9 2 2cda 1
2cdb 2 2cdc 1 2cdd 2 2cde 1 2cdf 2 2ce0 1 2ce1 2 2ce2 1 2ce3 2 2ce5 16 2ceb 1 2cec 2
2ced 1 2cee 2 2cef 6 2cf2 1 2cf3 2 2cf4 0 2cf9 12 2cfd b 2cfe 12 2d00 2 2d26 0 2d27 2
2d28 0 2d2d 2 2d2e 0 2d30 5 2d68 0 2d6f 4 2d70 12 2d71 0 2d7f 6 2d80 5 2d97 0 2da0 5
2da7 0 2da8 5 2daf 0 2db0 5 2db7 0 2db8 5 2dbf 0 2dc0 5 2dc7 0 2dc8 5 2dcf 0 2dd0 5
2dd7 0 2dd8 5 2ddf 0 2de0 6 2e00 12 2e02 10 2e03 11 2e04 10 2e05 11 2e06 12 2e09 10
2e0a 11 2e0b 12 2e0c 10 2e0d 11 2e0e 12 2e17 d 2e18 12 2e1a d 2e1b 12 2e1c 10 2e1d 11
2e1e 12 2e20 10 2e21 11 2e22 e 2e23 f 2e24 e 2e25 f 2e26 e 2e27 f 2e28 e 2e29 f 2e2a
12 2e2f 4 2e30 12 2e3a d 2e3c 12 2e40 d 2e41 12 2e42 e 2e43 12 2e50 16 2e52 12 2e55 e
2e56 f 2e57 e 2e58 f 2e59 e 2e5a f 2e5b e 2e5c f 2e5d d 2e5e 0 2e80 16 2e9a 0 2e9b 16
2ef4 0 2f00 16 2fd6 0 2ff0 16 3000 17 3001 12 3004 16 3005 4 3006 5 3007 a 3008 e 3009
f 300a e 300b f 300c e 300d f 300e e 300f f 3010 e 3011 f 3012 16 3014 e 3015 f 3016 e
3017 f 3018 e 3019 f 301a e 301b f 301c d 301d e 301e f 3020 16 3021 a 302a 6 302e 7
3030 d 3031 4 3036 16 3038 a 303b 4 303c 5 303d 12 303e 16 3040 0 3041 5 3097 0 3099 6
309b 15 309d 4 309f 5 30a0 d 30a1 5 30fb 12 30fc 4 30ff 5 3100 0 3105 5 3130 0 3131 5
318f 0 3190 16 3192 b 3196 16 31a0 5 31c0 16 31e6 0 31ef 16 31f0 5 3200 16 321f 0 3220
b 322a 16 3248 b 3250 16 3251 b 3260 16 3280 b 328a 16 32b1 b 32c0 16 3400 5 4dc0 16
4e00 5 a015 4 a016 5 a48d 0 a490 16 a4c7 0 a4d0 5 a4f8 4 a4fe 12 a500 5 a60c 4 a60d 12
a610 5 a620 9 a62a 5 a62c 0 a640 1 a641 2 a642 1 a643 2 a644 1 a645 2 a646 1 a647 2
a648 1 a649 2 a64a 1 a64b 2 a64c 1 a64d 2 a64e 1 a64f 2 a650 1 a651 2 a652 1 a653 2
a654 1 a655 2 a656 1 a657 2 a658 1 a659 2 a65a 1 a65b 2 a65c 1 a65d 2 a65e 1 a65f 2
a660 1 a661 2 a662 1 a663 2 a664 1 a665 2 a666 1 a667 2 a668 1 a669 2 a66a 1 a66b 2
a66c 1 a66d 2 a66e 5 a66f 6 a670 8 a673 12 a674 6 a67e 12 a67f 4 a680 1 a681 2 a682 1
a683 2 a684 1 a685 2 a686 1 a687 2 a688 1 a689 2 a68a 1 a68b 2 a68c 1 a68d 2 a68e 1
a68f 2 a690 1 a691 2 a692 1 a693 2 a694 1 a695 2 a696 1 a697 2 a698 1 a699 2 a69a 1
a69b 2 a69c 4 a69e 6 a6a0 5 a6e6 a a6f0 6 a6f2 12 a6f8 0 a700 15 a717 4 a720 15 a722 1
a723 2 a724 1 a725 2 a726 1 a727 2 a728 1 a729 2 a72a 1 a72b 2 a72c 1 a72d 2 a72e 1
a72f 2 a732 1 a733 2 a734 1 a735 2 a736 1 a737 2 a738 1 a739 2 a73a 1 a73b 2 a73c 1
a73d 2 a73e 1 a73f 2 a740 1 a741 2 a742 1 a743 2 a744 1 a745 2 a746 1 a747 2 a748 1
a749 2 a74a 1 a74b 2 a74c 1 a74d 2 a74e 1 a74f 2 a750 1 a751 2 a752 1 a753 2 a754 1
a755 2 a756 1 a757 2 a758 1 a759 2 a75a 1 a75b 2 a75c 1 a75d 2 a75e 1 a75f 2 a760 1
a761 2 a762 1 a763 2 a764 1 a765 2 a766 1 a767 2 a768 1 a769 2 a76a 1 a76b 2 a76c 1
a76d 2 a76e 1 a76f 2 a770 4 a771 2 a779 1 a77a 2 a77b 1 a77c 2 a77d 1 a77f 2 a780 1
a781 2 a782 1 a783 2 a784 1 a785 2 a786 1 a787 2 a788 4 a789 15 a78b 1 a78c 2 a78d 1
a78e 2 a78f 5 a790 1 a791 2 a792 1 a793 2 a796 1 a797 2 a798 1 a799 2 a79a 1 a79b 2
a79c 1 a79d 2 a79e 1 a79f 2 a7a0 1 a7a1 2 a7a2 1 a7a3 2 a7a4 1 a7a5 2 a7a6 1 a7a7 2
a7a8 1 a7a9 2 a7aa 1 a7af 2 a7b0 1 a7b5 2 a7b6 1 a7b7 2 a7b8 1 a7b9 2 a7ba 1 a7bb 2
a7bc 1 a7bd 2 a7be 1 a7bf 2 a7c0 1 a7c1 2 a7c2 1 a7c3 2 a7c4 1 a7c8 2 a7c9 1 a7ca 2
a7cb 1 a7cd 2 a7ce 1 a7cf 2 a7d0 1 a7d1 2 a7d2 1 a7d3 2 a7d4 1 a7d5 2 a7d6 1 a7d7 2
a7d8 1 a7d9 2 a7da 1 a7db 2 a7dc 1 a7dd 0 a7f1 4 a7f5 1 a7f6 2 a7f7 5 a7f8 4 a7fa 2
a7fb 5 a802 6 a803 5 a806 6 a807 5 a80b 6 a80c 5 a823 7 a825 6 a827 7 a828 16 a82c 6
a82d 0 a830 b a836 16 a838 14 a839 16 a83a 0 a840 5 a874 12 a878 0 a880 7 a882 5 a8b4
7 a8c4 6 a8c6 0 a8ce 12 a8d0 9 a8da 0 a8e0 6 a8f2 5 a8f8 12 a8fb 5 a8fc 12 a8fd 5 a8ff
6 a900 9 a90a 5 a926 6 a92e 12 a930 5 a947 6 a952 7 a954 0 a95f 12 a960 5 a97d 0 a980
6 a983 7 a984 5 a9b3 6 a9b4 7 a9b6 6 a9ba 7 a9bc 6 a9be 7 a9c1 12 a9ce 0 a9cf 4 a9d0 9
a9da 0 a9de 12 a9e0 5 a9e5 6 a9e6 4 a9e7 5 a9f0 9 a9fa 5 a9ff 0 aa00 5 aa29 6 aa2f 7
aa31 6 aa33 7 aa35 6 aa37 0 aa40 5 aa43 6 aa44 5 aa4c 6 aa4d 7 aa4e 0 aa50 9 aa5a 0
aa5c 12 aa60 5 aa70 4 aa71 5 aa77 16 aa7a 5 aa7b 7 aa7c 6 aa7d 7 aa7e 5 aab0 6 aab1 5
aab2 6 aab5 5 aab7 6 aab9 5 aabe 6 aac0 5 aac1 6 aac2 5 aac3 0 aadb 5 aadd 4 aade 12
aae0 5 aaeb 7 aaec 6 aaee 7 aaf0 12 aaf2 5 aaf3 4 aaf5 7 aaf6 6 aaf7 0 ab01 5 ab07 0
ab09 5 ab0f 0 ab11 5 ab17 0 ab20 5 ab27 0 ab28 5 ab2f 0 ab30 2 ab5b 15 ab5c 4 ab60 2
ab69 4 ab6a 15 ab6c 0 ab70 2 abc0 5 abe3 7 abe5 6 abe6 7 abe8 6 abe9 7 abeb 12 abec 7
abed 6 abee 0 abf0 9 abfa 0 ac00 5 d7a4 0 d7b0 5 d7c7 0 d7cb 5 d7fc 0 d800 1c e000 1d
f900 5 fa6e 0 fa70 5 fada 0 fb00 2 fb07 0 fb13 2 fb18 0 fb1d 5 fb1e 6 fb1f 5 fb29 13
fb2a 5 fb37 0 fb38 5 fb3d 0 fb3e 5 fb3f 0 fb40 5 fb42 0 fb43 5 fb45 0 fb46 5 fbb2 15
fbc3 16 fbd3 5 fd3e f fd3f e fd40 16 fd50 5 fd90 16 fd92 5 fdc8 16 fdd0 0 fdf0 5 fdfc
14 fdfd 16 fe00 6 fe10 12 fe17 e fe18 f fe19 12 fe1a 0 fe20 6 fe30 12 fe31 d fe33 c
fe35 e fe36 f fe37 e fe38 f fe39 e fe3a f fe3b e fe3c f fe3d e fe3e f fe3f e fe40 f
fe41 e fe42 f fe43 e fe44 f fe45 12 fe47 e fe48 f fe49 12 fe4d c fe50 12 fe53 0 fe54
12 fe58 d fe59 e fe5a f fe5b e fe5c f fe5d e fe5e f fe5f 12 fe62 13 fe63 d fe64 13
fe67 0 fe68 12 fe69 14 fe6a 12 fe6c 0 fe70 5 fe75 0 fe76 5 fefd 0 feff 1b ff00 0 ff01
12 ff04 14 ff05 12 ff08 e ff09 f ff0a 12 ff0b 13 ff0c 12 ff0d d ff0e 12 ff10 9 ff1a 12
ff1c 13 ff1f 12 ff21 1 ff3b e ff3c 12 ff3d f ff3e 15 ff3f c ff40 15 ff41 2 ff5b e ff5c
13 ff5d f ff5e 13 ff5f e ff60 f ff61 12 ff62 e ff63 f ff64 12 ff66 5 ff70 4 ff71 5
ff9e 4 ffa0 5 ffbf 0 ffc2 5 ffc8 0 ffca 5 ffd0 0 ffd2 5 ffd8 0 ffda 5 ffdd 0 ffe0 14
ffe2 13 ffe3 15 ffe4 16 ffe5 14 ffe7 0 ffe8 16 ffe9 13 ffed 16 ffef 0 fff9 1b fffc 16
fffe 0 10000 5 1000c 0 1000d 5 10027 0 10028 5 1003b 0 1003c 5 1003e 0 1003f 5 1004e 0
10050 5 1005e 0 10080 5 100fb 0 10100 12 10103 0 10107 b 10134 0 10137 16 10140 a
10175 b 10179 16 1018a b 1018c 16 1018f 0 10190 16 1019d 0 101a0 16 101a1 0 101d0 16
101fd 6 101fe 0 10280 5 1029d 0 102a0 5 102d1 0 102e0 6 102e1 b 102fc 0 10300 5 10320
b 10324 0 1032d 5 10341 a 10342 5 1034a a 1034b 0 10350 5 10376 6 1037b 0 10380 5
1039e 0 1039f 12 103a0 5 103c4 0 103c8 5 103d0 12 103d1 a 103d6 0 10400 1 10428 2
10450 5 1049e 0 104a0 9 104aa 0 104b0 1 104d4 0 104d8 2 104fc 0 10500 5 10528 0 10530
5 10564 0 1056f 12 10570 1 1057b 0 1057c 1 1058b 0 1058c 1 10593 0 10594 1 10596 0
10597 2 105a2 0 105a3 2 105b2 0 105b3 2 105ba 0 105bb 2 105bd 0 105c0 5 105f4 0 10600
5 10737 0 10740 5 10756 0 10760 5 10768 0 10780 4 10786 0 10787 4 107b1 0 107b2 4
107bb 0 10800 5 10806 0 10808 5 10809 0 1080a 5 10836 0 10837 5 10839 0 1083c 5 1083d
0 1083f 5 10856 0 10857 12 10858 b 10860 5 10877 16 10879 b 10880 5 1089f 0 108a7 b
108b0 0 108e0 5 108f3 0 108f4 5 108f6 0 108fb b 10900 5 10916 b 1091c 0 1091f 12 10920
5 1093a 0 1093f 12 10940 5 1095a 0 10980 5 109b8 0 109bc b 109be 5 109c0 b 109d0 0
109d2 b 10a00 5 10a01 6 10a04 0 10a05 6 10a07 0 10a0c 6 10a10 5 10a14 0 10a15 5 10a18
0 10a19 5 10a36 0 10a38 6 10a3b 0 10a3f 6 10a40 b 10a49 0 10a50 12 10a59 0 10a60 5
10a7d b 10a7f 12 10a80 5 10a9d b 10aa0 0 10ac0 5 10ac8 16 10ac9 5 10ae5 6 10ae7 0
10aeb b 10af0 12 10af7 0 10b00 5 10b36 0 10b39 12 10b40 5 10b56 0 10b58 b 10b60 5
10b73 0 10b78 b 10b80 5 10b92 0 10b99 12 10b9d 0 10ba9 b 10bb0 0 10c00 5 10c49 0 10c80
1 10cb3 0 10cc0 2 10cf3 0 10cfa b 10d00 5 10d24 6 10d28 0 10d30 9 10d3a 0 10d40 9
10d4a 5 10d4e 4 10d4f 5 10d50 1 10d66 0 10d69 6 10d6e d 10d6f 4 10d70 2 10d86 0 10d8e
13 10d90 0 10e60 b 10e7f 0 10e80 5 10eaa 0 10eab 6 10ead d 10eae 0 10eb0 5 10eb2 0
10ec2 5 10ec5 4 10ec6 5 10ec8 0 10ed0 12 10ed1 16 10ed9 0 10efa 6 10f00 5 10f1d b
10f27 5 10f28 0 10f30 5 10f46 6 10f51 b 10f55 12 10f5a 0 10f70 5 10f82 6 10f86 12
10f8a 0 10fb0 5 10fc5 b 10fcc 0 10fe0 5 10ff7 0 11000 7 11001 6 11002 7 11003 5 11038
6 11047 12 1104e 0 11052 b 11066 9 11070 6 11071 5 11073 6 11075 5 11076 0 1107f 6
11082 7 11083 5 110b0 7 110b3 6 110b7 7 110b9 6 110bb 12 110bd 1b 110be 12 110c2 6
110c3 0 110cd 1b 110ce 0 110d0 5 110e9 0 110f0 9 110fa 0 11100 6 11103 5 11127 6 1112c
7 1112d 6 11135 0 11136 9 11140 12 11144 5 11145 7 11147 5 11148 0 11150 5 11173 6
11174 12 11176 5 11177 0 11180 6 11182 7 11183 5 111b3 7 111b6 6 111bf 7 111c1 5 111c5
12 111c9 6 111cd 12 111ce 7 111cf 6 111d0 9 111da 5 111db 12 111dc 5 111dd 12 111e0 0
111e1 b 111f5 0 11200 5 11212 0 11213 5 1122c 7 1122f 6 11232 7 11234 6 11235 7 11236
6 11238 12 1123e 6 1123f 5 11241 6 11242 0 11280 5 11287 0 11288 5 11289 0 1128a 5
1128e 0 1128f 5 1129e 0 1129f 5 112a9 12 112aa 0 112b0 5 112df 6 112e0 7 112e3 6 112eb
0 112f0 9 112fa 0 11300 6 11302 7 11304 0 11305 5 1130d 0 1130f 5 11311 0 11313 5
11329 0 1132a 5 11331 0 11332 5 11334 0 11335 5 1133a 0 1133b 6 1133d 5 1133e 7 11340
6 11341 7 11345 0 11347 7 11349 0 1134b 7 1134e 0 11350 5 11351 0 11357 7 11358 0
1135d 5 11362 7 11364 0 11366 6 1136d 0 11370 6 11375 0 11380 5 1138a 0 1138b 5 1138c
0 1138e 5 1138f 0 11390 5 113b6 0 113b7 5 113b8 7 113bb 6 113c1 0 113c2 7 113c3 0
113c5 7 113c6 0 113c7 7 113cb 0 113cc 7 113ce 6 113cf 7 113d0 6 113d1 5 113d2 6 113d3
5 113d4 12 113d6 0 113d7 12 113d9 0 113e1 6 113e3 0 11400 5 11435 7 11438 6 11440 7
11442 6 11445 7 11446 6 11447 5 1144b 12 11450 9 1145a 12 1145c 0 1145d 12 1145e 6
1145f 5 11462 0 11480 5 114b0 7 114b3 6 114b9 7 114ba 6 114bb 7 114bf 6 114c1 7 114c2
6 114c4 5 114c6 12 114c7 5 114c8 0 114d0 9 114da 0 11580 5 115af 7 115b2 6 115b6 0
115b8 7 115bc 6 115be 7 115bf 6 115c1 12 115d8 5 115dc 6 115de 0 11600 5 11630 7 11633
6 1163b 7 1163d 6 1163e 7 1163f 6 11641 12 11644 5 11645 0 11650 9 1165a 0 11660 12
1166d 0 11680 5 116ab 6 116ac 7 116ad 6 116ae 7 116b0 6 116b6 7 116b7 6 116b8 5 116b9
12 116ba 0 116c0 9 116ca 0 116d0 9 116e4 0 11700 5 1171b 0 1171d 6 1171e 7 1171f 6
11720 7 11722 6 11726 7 11727 6 1172c 0 11730 9 1173a b 1173c 12 1173f 16 11740 5
11747 0 11800 5 1182c 7 1182f 6 11838 7 11839 6 1183b 12 1183c 0 118a0 1 118c0 2 118e0
9 118ea b 118f3 0 118ff 5 11907 0 11909 5 1190a 0 1190c 5 11914 0 11915 5 11917 0
11918 5 11930 7 11936 0 11937 7 11939 0 1193b 6 1193d 7 1193e 6 1193f 5 11940 7 11941
5 11942 7 11943 6 11944 12 11947 0 11950 9 1195a 0 119a0 5 119a8 0 119aa 5 119d1 7
119d4 6 119d8 0 119da 6 119dc 7 119e0 6 119e1 5 119e2 12 119e3 5 119e4 7 119e5 0 11a00
5 11a01 6 11a0b 5 11a33 6 11a39 7 11a3a 5 11a3b 6 11a3f 12 11a47 6 11a48 0 11a50 5
11a51 6 11a57 7 11a59 6 11a5c 5 11a8a 6 11a97 7 11a98 6 11a9a 12 11a9d 5 11a9e 12
11aa3 0 11ab0 5 11af9 0 11b00 12 11b0a 0 11b60 6 11b61 7 11b62 6 11b65 7 11b66 6 11b67
7 11b68 0 11bc0 5 11be1 12 11be2 0 11bf0 9 11bfa 0 11c00 5 11c09 0 11c0a 5 11c2f 7
11c30 6 11c37 0 11c38 6 11c3e 7 11c3f 6 11c40 5 11c41 12 11c46 0 11c50 9 11c5a b 11c6d
0 11c70 12 11c72 5 11c90 0 11c92 6 11ca8 0 11ca9 7 11caa 6 11cb1 7 11cb2 6 11cb4 7
11cb5 6 11cb7 0 11d00 5 11d07 0 11d08 5 11d0a 0 11d0b 5 11d31 6 11d37 0 11d3a 6 11d3b
0 11d3c 6 11d3e 0 11d3f 6 11d46 5 11d47 6 11d48 0 11d50 9 11d5a 0 11d60 5 11d66 0
11d67 5 11d69 0 11d6a 5 11d8a 7 11d8f 0 11d90 6 11d92 0 11d93 7 11d95 6 11d96 7 11d97
6 11d98 5 11d99 0 11da0 9 11daa 0 11db0 5 11dd9 4 11dda 5 11ddc 0 11de0 9 11dea 0
11ee0 5 11ef3 6 11ef5 7 11ef7 12 11ef9 0 11f00 6 11f02 5 11f03 7 11f04 5 11f11 0 11f12
5 11f34 7 11f36 6 11f3b 0 11f3e 7 11f40 6 11f41 7 11f42 6 11f43 12 11f50 9 11f5a 6
11f5b 0 11fb0 5 11fb1 0 11fc0 b 11fd5 16 11fdd 14 11fe1 16 11ff2 0 11fff 12 12000 5
1239a 0 12400 a 1246f 0 12470 12 12475 0 12480 5 12544 0 12f90 5 12ff1 12 12ff3 0
13000 5 13430 1b 13440 6 13441 5 13447 6 13456 0 13460 5 143fb 0 14400 5 14647 0 16100
5 1611e 6 1612a 7 1612d 6 16130 9 1613a 0 16800 5 16a39 0 16a40 5 16a5f 0 16a60 9
16a6a 0 16a6e 12 16a70 5 16abf 0 16ac0 9 16aca 0 16ad0 5 16aee 0 16af0 6 16af5 12
16af6 0 16b00 5 16b30 6 16b37 12 16b3c 16 16b40 4 16b44 12 16b45 16 16b46 0 16b50 9
16b5a 0 16b5b b 16b62 0 16b63 5 16b78 0 16b7d 5 16b90 0 16d40 4 16d43 5 16d6b 4 16d6d
12 16d70 9 16d7a 0 16e40 1 16e60 2 16e80 b 16e97 12 16e9b 0 16ea0 1 16eb9 0 16ebb 2
16ed4 0 16f00 5 16f4b 0 16f4f 6 16f50 5 16f51 7 16f88 0 16f8f 6 16f93 4 16fa0 0 16fe0
4 16fe2 12 16fe3 4 16fe4 6 16fe5 0 16ff0 7 16ff2 4 16ff4 a 16ff7 0 17000 5 18cd6 0
18cff 5 18d1f 0 18d80 5 18df3 0 1aff0 4 1aff4 0 1aff5 4 1affc 0 1affd 4 1afff 0 1b000
5 1b123 0 1b132 5 1b133 0 1b150 5 1b153 0 1b155 5 1b156 0 1b164 5 1b168 0 1b170 5
1b2fc 0 1bc00 5 1bc6b 0 1bc70 5 1bc7d 0 1bc80 5 1bc89 0 1bc90 5 1bc9a 0 1bc9c 16 1bc9d
6 1bc9f 12 1bca0 1b 1bca4 0 1cc00 16 1ccf0 9 1ccfa 16 1ccfd 0 1cd00 16 1ceb4 0 1ceba
16 1ced1 0 1cee0 16 1cef0 13 1cef1 0 1cf00 6 1cf2e 0 1cf30 6 1cf47 0 1cf50 16 1cfc4 0
1d000 16 1d0f6 0 1d100 16 1d127 0 1d129 16 1d165 7 1d167 6 1d16a 16 1d16d 7 1d173 1b
1d17b 6 1d183 16 1d185 6 1d18c 16 1d1aa 6 1d1ae 16 1d1eb 0 1d200 16 1d242 6 1d245 16
1d246 0 1d2c0 b 1d2d4 0 1d2e0 b 1d2f4 0 1d300 16 1d357 0 1d360 b 1d379 0 1d400 1 1d41a
2 1d434 1 1d44e 2 1d455 0 1d456 2 1d468 1 1d482 2 1d49c 1 1d49d 0 1d49e 1 1d4a0 0
1d4a2 1 1d4a3 0 1d4a5 1 1d4a7 0 1d4a9 1 1d4ad 0 1d4ae 1 1d4b6 2 1d4ba 0 1d4bb 2 1d4bc
0 1d4bd 2 1d4c4 0 1d4c5 2 1d4d0 1 1d4ea 2 1d504 1 1d506 0 1d507 1 1d50b 0 1d50d 1
1d515 0 1d516 1 1d51d 0 1d51e 2 1d538 1 1d53a 0 1d53b 1 1d53f 0 1d540 1 1d545 0 1d546
1 1d547 0 1d54a 1 1d551 0 1d552 2 1d56c 1 1d586 2 1d5a0 1 1d5ba 2 1d5d4 1 1d5ee 2
1d608 1 1d622 2 1d63c 1 1d656 2 1d670 1 1d68a 2 1d6a6 0 1d6a8 1 1d6c1 13 1d6c2 2 1d6db
13 1d6dc 2 1d6e2 1 1d6fb 13 1d6fc 2 1d715 13 1d716 2 1d71c 1 1d735 13 1d736 2 1d74f 13
1d750 2 1d756 1 1d76f 13 1d770 2 1d789 13 1d78a 2 1d790 1 1d7a9 13 1d7aa 2 1d7c3 13
1d7c4 2 1d7ca 1 1d7cb 2 1d7cc 0 1d7ce 9 1d800 16 1da00 6 1da37 16 1da3b 6 1da6d 16
1da75 6 1da76 16 1da84 6 1da85 16 1da87 12 1da8c 0 1da9b 6 1daa0 0 1daa1 6 1dab0 0
1df00 2 1df0a 5 1df0b 2 1df1f 0 1df25 2 1df2b 0 1e000 6 1e007 0 1e008 6 1e019 0 1e01b
6 1e022 0 1e023 6 1e025 0 1e026 6 1e02b 0 1e030 4 1e06e 0 1e08f 6 1e090 0 1e100 5
1e12d 0 1e130 6 1e137 4 1e13e 0 1e140 9 1e14a 0 1e14e 5 1e14f 16 1e150 0 1e290 5 1e2ae
6 1e2af 0 1e2c0 5 1e2ec 6 1e2f0 9 1e2fa 0 1e2ff 14 1e300 0 1e4d0 5 1e4eb 4 1e4ec 6
1e4f0 9 1e4fa 0 1e5d0 5 1e5ee 6 1e5f0 5 1e5f1 9 1e5fb 0 1e5ff 12 1e600 0 1e6c0 5 1e6df
0 1e6e0 5 1e6e3 6 1e6e4 5 1e6e6 6 1e6e7 5 1e6ee 6 1e6f0 5 1e6f5 6 1e6f6 0 1e6fe 5
1e6ff 4 1e700 0 1e7e0 5 1e7e7 0 1e7e8 5 1e7ec 0 1e7ed 5 1e7ef 0 1e7f0 5 1e7ff 0 1e800
5 1e8c5 0 1e8c7 b 1e8d0 6 1e8d7 0 1e900 1 1e922 2 1e944 6 1e94b 4 1e94c 0 1e950 9
1e95a 0 1e95e 12 1e960 0 1ec71 b 1ecac 16 1ecad b 1ecb0 14 1ecb1 b 1ecb5 0 1ed01 b
1ed2e 16 1ed2f b 1ed3e 0 1ee00 5 1ee04 0 1ee05 5 1ee20 0 1ee21 5 1ee23 0 1ee24 5 1ee25
0 1ee27 5 1ee28 0 1ee29 5 1ee33 0 1ee34 5 1ee38 0 1ee39 5 1ee3a 0 1ee3b 5 1ee3c 0
1ee42 5 1ee43 0 1ee47 5 1ee48 0 1ee49 5 1ee4a 0 1ee4b 5 1ee4c 0 1ee4d 5 1ee50 0 1ee51
5 1ee53 0 1ee54 5 1ee55 0 1ee57 5 1ee58 0 1ee59 5 1ee5a 0 1ee5b 5 1ee5c 0 1ee5d 5
1ee5e 0 1ee5f 5 1ee60 0 1ee61 5 1ee63 0 1ee64 5 1ee65 0 1ee67 5 1ee6b 0 1ee6c 5 1ee73
0 1ee74 5 1ee78 0 1ee79 5 1ee7d 0 1ee7e 5 1ee7f 0 1ee80 5 1ee8a 0 1ee8b 5 1ee9c 0
1eea1 5 1eea4 0 1eea5 5 1eeaa 0 1eeab 5 1eebc 0 1eef0 13 1eef2 0 1f000 16 1f02c 0
1f030 16 1f094 0 1f0a0 16 1f0af 0 1f0b1 16 1f0c0 0 1f0c1 16 1f0d0 0 1f0d1 16 1f0f6 0
1f100 b 1f10d 16 1f1ae 0 1f1e6 16 1f203 0 1f210 16 1f23c 0 1f240 16 1f249 0 1f250 16
1f252 0 1f260 16 1f266 0 1f300 16 1f3fb 15 1f400 16 1f6d9 0 1f6dc 16 1f6ed 0 1f6f0 16
1f6fd 0 1f700 16 1f7da 0 1f7e0 16 1f7ec 0 1f7f0 16 1f7f1 0 1f800 16 1f80c 0 1f810 16
1f848 0 1f850 16 1f85a 0 1f860 16 1f888 0 1f890 16 1f8ae 0 1f8b0 16 1f8bc 0 1f8c0 16
1f8c2 0 1f8d0 13 1f8d9 0 1f900 16 1fa58 0 1fa60 16 1fa6e 0 1fa70 16 1fa7d 0 1fa80 16
1fa8b 0 1fa8e 16 1fac7 0 1fac8 16 1fac9 0 1facd 16 1fadd 0 1fadf 16 1faeb 0 1faef 16
1faf9 0 1fb00 16 1fb93 0 1fb94 16 1fbf0 9 1fbfa 16 1fbfb 0 20000 5 2a6e0 0 2a700 5
2b81e 0 2b820 5 2ceae 0 2ceb0 5 2ebe1 0 2ebf0 5 2ee5e 0 2f800 5 2fa1e 0 30000 5 3134b
0 31350 5 3347a 0 e0001 1b e0002 0 e0020 1b e0080 0 e0100 6 e01f0 0 f0000 1d ffffe 0
100000 1d 10fffe 0"

/-- The two-letter general category of a character. -/
def category (c : Char) : String := categoryNames[categoryTable.get c]?.getD "Cn"

end TagStore.Text
