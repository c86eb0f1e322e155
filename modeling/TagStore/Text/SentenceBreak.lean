import TagStore.Text.Ranges
/-!
# Text.SentenceBreak

The sentence-break classes of Unicode 16.0 (`Sentence_Break` of UAX #29): `ATerm` for
the full stop and its kin, `STerm` for other sentence terminators, `Upper`, `Lower`,
`OLetter` for letters without case, `Sp` for blanks and so on. Code points that are in
no class are of class `Other`.
-/

namespace TagStore.Text

/-- The class names in table-code order; code 0 is `Other`. -/
def sentenceClassNames : Array String := #[
  "Other", "ATerm", "CR", "Close", "Extend", "Format", "LF", "Lower", "Numeric", "OLetter",
  "SContinue", "STerm", "Sep", "Sp", "Upper"]

/-- Range starts and class codes. -/
def sentenceClassTable : RangeMap := RangeMap.ofHex "
9 d a 6 b d d 2 e 0 20 d 21 b 22 3 23 0 27 3 2a 0 2c a 2e 1 2f 0 30 8 3a a 3b 0 3f b
40 0 41 e 5b 3 5c 0 5d 3 5e 0 61 7 7b 3 7c 0 7d 3 7e 0 85 c 86 0 a0 d a1 0 aa 7 ab 3
ac 0 ad 5 ae 0 b5 7 b6 0 ba 7 bb 3 bc 0 c0 e d7 0 d8 e df 7 f7 0 f8 7 100 e 101 7 102
e 103 7 104 e 105 7 106 e 107 7 108 e 109 7 10a e 10b 7 10c e 10d 7 10e e 10f 7 110 e
111 7 112 e 113 7 114 e 115 7 116 e 117 7 118 e 119 7 11a e 11b 7 11c e 11d 7 11e e
11f 7 120 e 121 7 122 e 123 7 124 e 125 7 126 e 127 7 128 e 129 7 12a e 12b 7 12c e
12d 7 12e e 12f 7 130 e 131 7 132 e 133 7 134 e 135 7 136 e 137 7 139 e 13a 7 13b e
13c 7 13d e 13e 7 13f e 140 7 141 e 142 7 143 e 144 7 145 e 146 7 147 e 148 7 14a e
14b 7 14c e 14d 7 14e e 14f 7 150 e 151 7 152 e 153 7 154 e 155 7 156 e 157 7 158 e
159 7 15a e 15b 7 15c e 15d 7 15e e 15f 7 160 e 161 7 162 e 163 7 164 e 165 7 166 e
167 7 168 e 169 7 16a e 16b 7 16c e 16d 7 16e e 16f 7 170 e 171 7 172 e 173 7 174 e
175 7 176 e 177 7 178 e 17a 7 17b e 17c 7 17d e 17e 7 181 e 183 7 184 e 185 7 186 e
188 7 189 e 18c 7 18e e 192 7 193 e 195 7 196 e 199 7 19c e 19e 7 19f e 1a1 7 1a2 e
1a3 7 1a4 e 1a5 7 1a6 e 1a8 7 1a9 e 1aa 7 1ac e 1ad 7 1ae e 1b0 7 1b1 e 1b4 7 1b5 e
1b6 7 1b7 e 1b9 7 1bb 9 1bc e 1bd 7 1c0 9 1c4 e 1c6 7 1c7 e 1c9 7 1ca e 1cc 7 1cd e
1ce 7 1cf e 1d0 7 1d1 e 1d2 7 1d3 e 1d4 7 1d5 e 1d6 7 1d7 e 1d8 7 1d9 e 1da 7 1db e
1dc 7 1de e 1df 7 1e0 e 1e1 7 1e2 e 1e3 7 1e4 e 1e5 7 1e6 e 1e7 7 1e8 e 1e9 7 1ea e
1eb 7 1ec e 1ed 7 1ee e 1ef 7 1f1 e 1f3 7 1f4 e 1f5 7 1f6 e 1f9 7 1fa e 1fb 7 1fc e
1fd 7 1fe e 1ff 7 200 e 201 7 202 e 203 7 204 e 205 7 206 e 207 7 208 e 209 7 20a e
20b 7 20c e 20d 7 20e e 20f 7 210 e 211 7 212 e 213 7 214 e 215 7 216 e 217 7 218 e
219 7 21a e 21b 7 21c e 21d 7 21e e 21f 7 220 e 221 7 222 e 223 7 224 e 225 7 226 e
227 7 228 e 229 7 22a e 22b 7 22c e 22d 7 22e e 22f 7 230 e 231 7 232 e 233 7 23a e
23c 7 23d e 23f 7 241 e 242 7 243 e 247 7 248 e 249 7 24a e 24b 7 24c e 24d 7 24e e
24f 7 294 9 295 7 2b9 9 2c0 7 2c2 0 2c6 9 2d2 0 2e0 7 2e5 0 2ec 9 2ed 0 2ee 9 2ef 0
300 4 370 e 371 7 372 e 373 7 374 9 375 0 376 e 377 7 378 0 37a 7 37e 0 37f e 380 0
386 e 387 0 388 e 38b 0 38c e 38d 0 38e e 390 7 391 e 3a2 0 3a3 e 3ac 7 3cf e 3d0 7
3d2 e 3d5 7 3d8 e 3d9 7 3da e 3db 7 3dc e 3dd 7 3de e 3df 7 3e0 e 3e1 7 3e2 e 3e3 7
3e4 e 3e5 7 3e6 e 3e7 7 3e8 e 3e9 7 3ea e 3eb 7 3ec e 3ed 7 3ee e 3ef 7 3f4 e 3f5 7
3f6 0 3f7 e 3f8 7 3f9 e 3fb 7 3fd e 430 7 460 e 461 7 462 e 463 7 464 e 465 7 466 e
467 7 468 e 469 7 46a e 46b 7 46c e 46d 7 46e e 46f 7 470 e 471 7 472 e 473 7 474 e
475 7 476 e 477 7 478 e 479 7 47a e 47b 7 47c e 47d 7 47e e 47f 7 480 e 481 7 482 0
483 4 48a e 48b 7 48c e 48d 7 48e e 48f 7 490 e 491 7 492 e 493 7 494 e 495 7 496 e
497 7 498 e 499 7 49a e 49b 7 49c e 49d 7 49e e 49f 7 4a0 e 4a1 7 4a2 e 4a3 7 4a4 e
4a5 7 4a6 e 4a7 7 4a8 e 4a9 7 4aa e 4ab 7 4ac e 4ad 7 4ae e 4af 7 4b0 e 4b1 7 4b2 e
4b3 7 4b4 e 4b5 7 4b6 e 4b7 7 4b8 e 4b9 7 4ba e 4bb 7 4bc e 4bd 7 4be e 4bf 7 4c0 e
4c2 7 4c3 e 4c4 7 4c5 e 4c6 7 4c7 e 4c8 7 4c9 e 4ca 7 4cb e 4cc 7 4cd e 4ce 7 4d0 e
4d1 7 4d2 e 4d3 7 4d4 e 4d5 7 4d6 e 4d7 7 4d8 e 4d9 7 4da e 4db 7 4dc e 4dd 7 4de e
4df 7 4e0 e 4e1 7 4e2 e 4e3 7 4e4 e 4e5 7 4e6 e 4e7 7 4e8 e 4e9 7 4ea e 4eb 7 4ec e
4ed 7 4ee e 4ef 7 4f0 e 4f1 7 4f2 e 4f3 7 4f4 e 4f5 7 4f6 e 4f7 7 4f8 e 4f9 7 4fa e
4fb 7 4fc e 4fd 7 4fe e 4ff 7 500 e 501 7 502 e 503 7 504 e 505 7 506 e 507 7 508 e
509 7 50a e 50b 7 50c e 50d 7 50e e 50f 7 510 e 511 7 512 e 513 7 514 e 515 7 516 e
517 7 518 e 519 7 51a e 51b 7 51c e 51d 7 51e e 51f 7 520 e 521 7 522 e 523 7 524 e
525 7 526 e 527 7 528 e 529 7 52a e 52b 7 52c e 52d 7 52e e 52f 7 530 0 531 e 557 0
559 9 55a 0 55d a 55e 0 560 7 589 b 58a 0 591 4 5be 0 5bf 4 5c0 0 5c1 4 5c3 0 5c4 4
5c6 0 5c7 4 5c8 0 5d0 9 5eb 0 5ef 9 5f4 0 600 5 606 0 60c a 60e 0 610 4 61b 0 61c 5
61d b 620 9 64b 4 660 8 66a 0 66b 8 66d 0 66e 9 670 4 671 9 6d4 b 6d5 9 6d6 4 6dd 5
6de 0 6df 4 6e5 9 6e7 4 6e9 0 6ea 4 6ee 9 6f0 8 6fa 9 6fd 0 6ff 9 700 b 703 0 70f 5
710 9 711 4 712 9 730 4 74b 0 74d 9 7a6 4 7b1 9 7b2 0 7c0 8 7ca 9 7eb 4 7f4 9 7f6 0
7f8 a 7f9 b 7fa 9 7fb 0 7fd 4 7fe 0 800 9 816 4 81a 9 81b 4 824 9 825 4 828 9 829 4
82e 0 837 b 838 0 839 b 83a 0 83d b 83f 0 840 9 859 4 85c 0 860 9 86b 0 870 9 888 0
889 9 88f 0 890 5 892 0 897 4 8a0 9 8ca 4 8e2 5 8e3 4 904 9 93a 4 93d 9 93e 4 950 9
951 4 958 9 962 4 964 b 966 8 970 0 971 9 981 4 984 0 985 9 98d 0 98f 9 991 0 993 9
9a9 0 9aa 9 9b1 0 9b2 9 9b3 0 9b6 9 9ba 0 9bc 4 9bd 9 9be 4 9c5 0 9c7 4 9c9 0 9cb 4
9ce 9 9cf 0 9d7 4 9d8 0 9dc 9 9de 0 9df 9 9e2 4 9e4 0 9e6 8 9f0 9 9f2 0 9fc 9 9fd 0
9fe 4 9ff 0 a01 4 a04 0 a05 9 a0b 0 a0f 9 a11 0 a13 9 a29 0 a2a 9 a31 0 a32 9 a34 0
a35 9 a37 0 a38 9 a3a 0 a3c 4 a3d 0 a3e 4 a43 0 a47 4 a49 0 a4b 4 a4e 0 a51 4 a52 0
a59 9 a5d 0 a5e 9 a5f 0 a66 8 a70 4 a72 9 a75 4 a76 0 a81 4 a84 0 a85 9 a8e 0 a8f 9
a92 0 a93 9 aa9 0 aaa 9 ab1 0 ab2 9 ab4 0 ab5 9 aba 0 abc 4 abd 9 abe 4 ac6 0 ac7 4
aca 0 acb 4 ace 0 ad0 9 ad1 0 ae0 9 ae2 4 ae4 0 ae6 8 af0 0 af9 9 afa 4 b00 0 b01 4
b04 0 b05 9 b0d 0 b0f 9 b11 0 b13 9 b29 0 b2a 9 b31 0 b32 9 b34 0 b35 9 b3a 0 b3c 4
b3d 9 b3e 4 b45 0 b47 4 b49 0 b4b 4 b4e 0 b55 4 b58 0 b5c 9 b5e 0 b5f 9 b62 4 b64 0
b66 8 b70 0 b71 9 b72 0 b82 4 b83 9 b84 0 b85 9 b8b 0 b8e 9 b91 0 b92 9 b96 0 b99 9
b9b 0 b9c 9 b9d 0 b9e 9 ba0 0 ba3 9 ba5 0 ba8 9 bab 0 bae 9 bba 0 bbe 4 bc3 0 bc6 4
bc9 0 bca 4 bce 0 bd0 9 bd1 0 bd7 4 bd8 0 be6 8 bf0 0 c00 4 c05 9 c0d 0 c0e 9 c11 0
c12 9 c29 0 c2a 9 c3a 0 c3c 4 c3d 9 c3e 4 c45 0 c46 4 c49 0 c4a 4 c4e 0 c55 4 c57 0
c58 9 c5b 0 c5d 9 c5e 0 c60 9 c62 4 c64 0 c66 8 c70 0 c80 9 c81 4 c84 0 c85 9 c8d 0
c8e 9 c91 0 c92 9 ca9 0 caa 9 cb4 0 cb5 9 cba 0 cbc 4 cbd 9 cbe 4 cc5 0 cc6 4 cc9 0
cca 4 cce 0 cd5 4 cd7 0 cdd 9 cdf 0 ce0 9 ce2 4 ce4 0 ce6 8 cf0 0 cf1 9 cf3 4 cf4 0
d00 4 d04 9 d0d 0 d0e 9 d11 0 d12 9 d3b 4 d3d 9 d3e 4 d45 0 d46 4 d49 0 d4a 4 d4e 9
d4f 0 d54 9 d57 4 d58 0 d5f 9 d62 4 d64 0 d66 8 d70 0 d7a 9 d80 0 d81 4 d84 0 d85 9
d97 0 d9a 9 db2 0 db3 9 dbc 0 dbd 9 dbe 0 dc0 9 dc7 0 dca 4 dcb 0 dcf 4 dd5 0 dd6 4
dd7 0 dd8 4 de0 0 de6 8 df0 0 df2 4 df4 0 e01 9 e31 4 e32 9 e34 4 e3b 0 e40 9 e47 4
e4f 0 e50 8 e5a 0 e81 9 e83 0 e84 9 e85 0 e86 9 e8b 0 e8c 9 ea4 0 ea5 9 ea6 0 ea7 9
eb1 4 eb2 9 eb4 4 ebd 9 ebe 0 ec0 9 ec5 0 ec6 9 ec7 0 ec8 4 ecf 0 ed0 8 eda 0 edc 9
ee0 0 f00 9 f01 0 f18 4 f1a 0 f20 8 f2a 0 f35 4 f36 0 f37 4 f38 0 f39 4 f3a 3 f3e 4
f40 9 f48 0 f49 9 f6d 0 f71 4 f85 0 f86 4 f88 9 f8d 4 f98 0 f99 4 fbd 0 fc6 4 fc7 0
1000 9 102b 4 103f 9 1040 8 104a b 104c 0 1050 9 1056 4 105a 9 105e 4 1061 9 1062 4
1065 9 1067 4 106e 9 1071 4 1075 9 1082 4 108e 9 108f 4 1090 8 109a 4 109e 0 10a0 e
10c6 0 10c7 e 10c8 0 10cd e 10ce 0 10d0 9 10fb 0 10fc 7 10fd 9 1249 0 124a 9 124e 0
1250 9 1257 0 1258 9 1259 0 125a 9 125e 0 1260 9 1289 0 128a 9 128e 0 1290 9 12b1 0
12b2 9 12b6 0 12b8 9 12bf 0 12c0 9 12c1 0 12c2 9 12c6 0 12c8 9 12d7 0 12d8 9 1311 0
1312 9 1316 0 1318 9 135b 0 135d 4 1360 0 1362 b 1363 0 1367 b 1369 0 1380 9 1390 0
13a0 e 13f6 0 13f8 7 13fe 0 1401 9 166d 0 166e b 166f 9 1680 d 1681 9 169b 3 169d 0
16a0 9 16eb 0 16ee 9 16f9 0 1700 9 1712 4 1716 0 171f 9 1732 4 1735 b 1737 0 1740 9
1752 4 1754 0 1760 9 176d 0 176e 9 1771 0 1772 4 1774 0 1780 9 17b4 4 17d4 b 17d6 0
17d7 9 17d8 0 17dc 9 17dd 4 17de 0 17e0 8 17ea 0 1802 a 1803 b 1804 0 1808 a 1809 b
180a 0 180b 4 180e 5 180f 4 1810 8 181a 0 1820 9 1879 0 1880 9 1885 4 1887 9 18a9 4
18aa 9 18ab 0 18b0 9 18f6 0 1900 9 191f 0 1920 4 192c 0 1930 4 193c 0 1944 b 1946 8
1950 9 196e 0 1970 9 1975 0 1980 9 19ac 0 19b0 9 19ca 0 19d0 8 19db 0 1a00 9 1a17 4
1a1c 0 1a20 9 1a55 4 1a5f 0 1a60 4 1a7d 0 1a7f 4 1a80 8 1a8a 0 1a90 8 1a9a 0 1aa7 9
1aa8 b 1aac 0 1ab0 4 1acf 0 1b00 4 1b05 9 1b34 4 1b45 9 1b4d 0 1b4e b 1b50 8 1b5a b
1b5c 0 1b5e b 1b60 0 1b6b 4 1b74 0 1b7d b 1b80 4 1b83 9 1ba1 4 1bae 9 1bb0 8 1bba 9
1be6 4 1bf4 0 1c00 9 1c24 4 1c38 0 1c3b b 1c3d 0 1c40 8 1c4a 0 1c4d 9 1c50 8 1c5a 9
1c7e b 1c80 7 1c89 e 1c8a 7 1c8b 0 1c90 9 1cbb 0 1cbd 9 1cc0 0 1cd0 4 1cd3 0 1cd4 4
1ce9 9 1ced 4 1cee 9 1cf4 4 1cf5 9 1cf7 4 1cfa 9 1cfb 0 1d00 7 1dc0 4 1e00 e 1e01 7
1e02 e 1e03 7 1e04 e 1e05 7 1e06 e 1e07 7 1e08 e 1e09 7 1e0a e 1e0b 7 1e0c e 1e0d 7
1e0e e 1e0f 7 1e10 e 1e11 7 1e12 e 1e13 7 1e14 e 1e15 7 1e16 e 1e17 7 1e18 e 1e19 7
1e1a e 1e1b 7 1e1c e 1e1d 7 1e1e e 1e1f 7 1e20 e 1e21 7 1e22 e 1e23 7 1e24 e 1e25 7
1e26 e 1e27 7 1e28 e 1e29 7 1e2a e 1e2b 7 1e2c e 1e2d 7 1e2e e 1e2f 7 1e30 e 1e31 7
1e32 e 1e33 7 1e34 e 1e35 7 1e36 e 1e37 7 1e38 e 1e39 7 1e3a e 1e3b 7 1e3c e 1e3d 7
1e3e e 1e3f 7 1e40 e 1e41 7 1e42 e 1e43 7 1e44 e 1e45 7 1e46 e 1e47 7 1e48 e 1e49 7
1e4a e 1e4b 7 1e4c e 1e4d 7 1e4e e 1e4f 7 1e50 e 1e51 7 1e52 e 1e53 7 1e54 e 1e55 7
1e56 e 1e57 7 1e58 e 1e59 7 1e5a e 1e5b 7 1e5c e 1e5d 7 1e5e e 1e5f 7 1e60 e 1e61 7
1e62 e 1e63 7 1e64 e 1e65 7 1e66 e 1e67 7 1e68 e 1e69 7 1e6a e 1e6b 7 1e6c e 1e6d 7
1e6e e 1e6f 7 1e70 e 1e71 7 1e72 e 1e73 7 1e74 e 1e75 7 1e76 e 1e77 7 1e78 e 1e79 7
1e7a e 1e7b 7 1e7c e 1e7d 7 1e7e e 1e7f 7 1e80 e 1e81 7 1e82 e 1e83 7 1e84 e 1e85 7
1e86 e 1e87 7 1e88 e 1e89 7 1e8a e 1e8b 7 1e8c e 1e8d 7 1e8e e 1e8f 7 1e90 e 1e91 7
1e92 e 1e93 7 1e94 e 1e95 7 1e9e e 1e9f 7 1ea0 e 1ea1 7 1ea2 e 1ea3 7 1ea4 e 1ea5 7
1ea6 e 1ea7 7 1ea8 e 1ea9 7 1eaa e 1eab 7 1eac e 1ead 7 1eae e 1eaf 7 1eb0 e 1eb1 7
1eb2 e 1eb3 7 1eb4 e 1eb5 7 1eb6 e 1eb7 7 1eb8 e 1eb9 7 1eba e 1ebb 7 1ebc e 1ebd 7
1ebe e 1ebf 7 1ec0 e 1ec1 7 1ec2 e 1ec3 7 1ec4 e 1ec5 7 1ec6 e 1ec7 7 1ec8 e 1ec9 7
1eca e 1ecb 7 1ecc e 1ecd 7 1ece e 1ecf 7 1ed0 e 1ed1 7 1ed2 e 1ed3 7 1ed4 e 1ed5 7
1ed6 e 1ed7 7 1ed8 e 1ed9 7 1eda e 1edb 7 1edc e 1edd 7 1ede e 1edf 7 1ee0 e 1ee1 7
1ee2 e 1ee3 7 1ee4 e 1ee5 7 1ee6 e 1ee7 7 1ee8 e 1ee9 7 1eea e 1eeb 7 1eec e 1eed 7
1eee e 1eef 7 1ef0 e 1ef1 7 1ef2 e 1ef3 7 1ef4 e 1ef5 7 1ef6 e 1ef7 7 1ef8 e 1ef9 7
1efa e 1efb 7 1efc e 1efd 7 1efe e 1eff 7 1f08 e 1f10 7 1f16 0 1f18 e 1f1e 0 1f20 7
1f28 e 1f30 7 1f38 e 1f40 7 1f46 0 1f48 e 1f4e 0 1f50 7 1f58 0 1f59 e 1f5a 0 1f5b e
1f5c 0 1f5d e 1f5e 0 1f5f e 1f60 7 1f68 e 1f70 7 1f7e 0 1f80 7 1f88 e 1f90 7 1f98 e
1fa0 7 1fa8 e 1fb0 7 1fb5 0 1fb6 7 1fb8 e 1fbd 0 1fbe 7 1fbf 0 1fc2 7 1fc5 0 1fc6 7
1fc8 e 1fcd 0 1fd0 7 1fd4 0 1fd6 7 1fd8 e 1fdc 0 1fe0 7 1fe8 e 1fed 0 1ff2 7 1ff5 0
1ff6 7 1ff8 e 1ffd 0 2000 d 200b 5 200c 4 200e 5 2010 0 2013 a 2015 0 2018 3 2020 0
2024 1 2025 0 2028 c 202a 5 202f d 2030 0 2039 3 203b 0 203c b 203e 0 2045 3 2047 b
204a 0 205f d 2060 5 2065 0 2066 5 2070 0 2071 7 2072 0 207d 3 207f 7 2080 0 208d 3
208f 0 2090 7 209d 0 20d0 4 20f1 0 2102 e 2103 0 2107 e 2108 0 210a 7 210b e 210e 7
2110 e 2113 7 2114 0 2115 e 2116 0 2119 e 211e 0 2124 e 2125 0 2126 e 2127 0 2128 e
2129 0 212a e 212e 0 212f 7 2130 e 2134 7 2135 9 2139 7 213a 0 213c 7 213e e 2140 0
2145 e 2146 7 214a 0 214e 7 214f 0 2160 e 2170 7 2180 9 2183 e 2184 7 2185 9 2189 0
2308 3 230c 0 2329 3 232b 0 24b6 e 24d0 7 24ea 0 275b 3 2761 0 2768 3 2776 0 27c5 3
27c7 0 27e6 3 27f0 0 2983 3 2999 0 29d8 3 29dc 0 29fc 3 29fe 0 2c00 e 2c30 7 2c60 e
2c61 7 2c62 e 2c65 7 2c67 e 2c68 7 2c69 e 2c6a 7 2c6b e 2c6c 7 2c6d e 2c71 7 2c72 e
2c73 7 2c75 e 2c76 7 2c7e e 2c81 7 2c82 e 2c83 7 2c84 e 2c85 7 2c86 e 2c87 7 2c88 e
2c89 7 2c8a e 2c8b 7 2c8c e 2c8d 7 2c8e e 2c8f 7 2c90 e 2c91 7 2c92 e 2c93 7 2c94 e
2c95 7 2c96 e 2c97 7 2c98 e 2c99 7 2c9a e 2c9b 7 2c9c e 2c9d 7 2c9e e 2c9f 7 2ca0 e
2ca1 7 2ca2 e 2ca3 7 2ca4 e 2ca5 7 2ca6 e 2ca7 7 2ca8 e 2ca9 7 2caa e 2cab 7 2cac e
2cad 7 2cae e 2caf 7 2cb0 e 2cb1 7 2cb2 e 2cb3 7 2cb4 e 2cb5 7 2cb6 e 2cb7 7 2cb8 e
2cb9 7 2cba e 2cbb 7 2cbc e 2cbd 7 2cbe e 2cbf 7 2cc0 e 2cc1 7 2cc2 e 2cc3 7 2cc4 e
2cc5 7 2cc6 e 2cc7 7 2cc8 e 2cc9 7 2cca e 2ccb 7 2ccc e 2ccd 7 2cce e 2ccf 7 2cd0 e
2cd1 7 2cd2 e 2cd3 7 2cd4 e 2cd5 7 2cd6 e 2cd7 7 2cd8 e 2cd9 7 2cda e 2cdb 7 2cdc e
2cdd 7 2cde e 2cdf 7 2ce0 e 2ce1 7 2ce2 e 2ce3 7 2ce5 0 2ceb e 2cec 7 2ced e 2cee 7
2cef 4 2cf2 e 2cf3 7 2cf4 0 2cf9 b 2cfc 0 2d00 7 2d26 0 2d27 7 2d28 0 2d2d 7 2d2e 0
2d30 9 2d68 0 2d6f 9 2d70 0 2d7f 4 2d80 9 2d97 0 2da0 9 2da7 0 2da8 9 2daf 0 2db0 9
2db7 0 2db8 9 2dbf 0 2dc0 9 2dc7 0 2dc8 9 2dcf 0 2dd0 9 2dd7 0 2dd8 9 2ddf 0 2de0 4
2e00 3 2e0e 0 2e1c 3 2e1e 0 2e20 3 2e2a 0 2e2e b 2e2f 9 2e30 0 2e3c b 2e3d 0 2e42 3
2e43 0 2e53 b 2e55 3 2e5d 0 3000 d 3001 a 3002 b 3003 0 3005 9 3008 3 3012 0 3014 3
301c 0 301d 3 3020 0 3021 9 302a 4 3030 0 3031 9 3036 0 3038 9 303d 0 3041 9 3097 0
3099 4 309b 0 309d 9 30a0 0 30a1 9 30fb 0 30fc 9 3100 0 3105 9 3130 0 3131 9 318f 0
31a0 9 31c0 0 31f0 9 3200 0 3400 9 4dc0 0 4e00 9 a48d 0 a4d0 9 a4fe 0 a4ff b a500 9
a60d 0 a60e b a610 9 a620 8 a62a 9 a62c 0 a640 e a641 7 a642 e a643 7 a644 e a645 7
a646 e a647 7 a648 e a649 7 a64a e a64b 7 a64c e a64d 7 a64e e a64f 7 a650 e a651 7
a652 e a653 7 a654 e a655 7 a656 e a657 7 a658 e a659 7 a65a e a65b 7 a65c e a65d 7
a65e e a65f 7 a660 e a661 7 a662 e a663 7 a664 e a665 7 a666 e a667 7 a668 e a669 7
a66a e a66b 7 a66c e a66d 7 a66e 9 a66f 4 a673 0 a674 4 a67e 0 a67f 9 a680 e a681 7
a682 e a683 7 a684 e a685 7 a686 e a687 7 a688 e a689 7 a68a e a68b 7 a68c e a68d 7
a68e e a68f 7 a690 e a691 7 a692 e a693 7 a694 e a695 7 a696 e a697 7 a698 e a699 7
a69a e a69b 7 a69e 4 a6a0 9 a6f0 4 a6f2 0 a6f3 b a6f4 0 a6f7 b a6f8 0 a717 9 a720 0
a722 e a723 7 a724 e a725 7 a726 e a727 7 a728 e a729 7 a72a e a72b 7 a72c e a72d 7
a72e e a72f 7 a732 e a733 7 a734 e a735 7 a736 e a737 7 a738 e a739 7 a73a e a73b 7
a73c e a73d 7 a73e e a73f 7 a740 e a741 7 a742 e a743 7 a744 e a745 7 a746 e a747 7
a748 e a749 7 a74a e a74b 7 a74c e a74d 7 a74e e a74f 7 a750 e a751 7 a752 e a753 7
a754 e a755 7 a756 e a757 7 a758 e a759 7 a75a e a75b 7 a75c e a75d 7 a75e e a75f 7
a760 e a761 7 a762 e a763 7 a764 e a765 7 a766 e a767 7 a768 e a769 7 a76a e a76b 7
a76c e a76d 7 a76e e a76f 7 a779 e a77a 7 a77b e a77c 7 a77d e a77f 7 a780 e a781 7
a782 e a783 7 a784 e a785 7 a786 e a787 7 a788 9 a789 0 a78b e a78c 7 a78d e a78e 7
a78f 9 a790 e a791 7 a792 e a793 7 a796 e a797 7 a798 e a799 7 a79a e a79b 7 a79c e
a79d 7 a79e e a79f 7 a7a0 e a7a1 7 a7a2 e a7a3 7 a7a4 e a7a5 7 a7a6 e a7a7 7 a7a8 e
a7a9 7 a7aa e a7af 7 a7b0 e a7b5 7 a7b6 e a7b7 7 a7b8 e a7b9 7 a7ba e a7bb 7 a7bc e
a7bd 7 a7be e a7bf 7 a7c0 e a7c1 7 a7c2 e a7c3 7 a7c4 e a7c8 7 a7c9 e a7ca 7 a7cb e
a7cd 7 a7ce 0 a7d0 e a7d1 7 a7d2 0 a7d3 7 a7d4 0 a7d5 7 a7d6 e a7d7 7 a7d8 e a7d9 7
a7da e a7db 7 a7dc e a7dd 0 a7f2 7 a7f5 e a7f6 7 a7f7 9 a7f8 7 a7fb 9 a802 4 a803 9
a806 4 a807 9 a80b 4 a80c 9 a823 4 a828 0 a82c 4 a82d 0 a840 9 a874 0 a876 b a878 0
a880 4 a882 9 a8b4 4 a8c6 0 a8ce b a8d0 8 a8da 0 a8e0 4 a8f2 9 a8f8 0 a8fb 9 a8fc 0
a8fd 9 a8ff 4 a900 8 a90a 9 a926 4 a92e 0 a92f b a930 9 a947 4 a954 0 a960 9 a97d 0
a980 4 a984 9 a9b3 4 a9c1 0 a9c8 b a9ca 0 a9cf 9 a9d0 8 a9da 0 a9e0 9 a9e5 4 a9e6 9
a9f0 8 a9fa 9 a9ff 0 aa00 9 aa29 4 aa37 0 aa40 9 aa43 4 aa44 9 aa4c 4 aa4e 0 aa50 8
aa5a 0 aa5d b aa60 9 aa77 0 aa7a 9 aa7b 4 aa7e 9 aab0 4 aab1 9 aab2 4 aab5 9 aab7 4
aab9 9 aabe 4 aac0 9 aac1 4 aac2 9 aac3 0 aadb 9 aade 0 aae0 9 aaeb 4 aaf0 b aaf2 9
aaf5 4 aaf7 0 ab01 9 ab07 0 ab09 9 ab0f 0 ab11 9 ab17 0 ab20 9 ab27 0 ab28 9 ab2f 0
ab30 7 ab5b 0 ab5c 7 ab6a 0 ab70 7 abc0 9 abe3 4 abeb b abec 4 abee 0 abf0 8 abfa 0
ac00 9 d7a4 0 d7b0 9 d7c7 0 d7cb 9 d7fc 0 f900 9 fa6e 0 fa70 9 fada 0 fb00 7 fb07 0
fb13 7 fb18 0 fb1d 9 fb1e 4 fb1f 9 fb29 0 fb2a 9 fb37 0 fb38 9 fb3d 0 fb3e 9 fb3f 0
fb40 9 fb42 0 fb43 9 fb45 0 fb46 9 fbb2 0 fbd3 9 fd3e 3 fd40 0 fd50 9 fd90 0 fd92 9
fdc8 0 fdf0 9 fdfc 0 fe00 4 fe10 a fe12 b fe13 a fe14 0 fe15 b fe17 3 fe19 0 fe20 4
fe30 0 fe31 a fe33 0 fe35 3 fe45 0 fe47 3 fe49 0 fe50 a fe52 1 fe53 0 fe55 a fe56 b
fe58 a fe59 3 fe5f 0 fe63 a fe64 0 fe70 9 fe75 0 fe76 9 fefd 0 feff 5 ff00 0 ff01 b
ff02 0 ff08 3 ff0a 0 ff0c a ff0e 1 ff0f 0 ff10 8 ff1a a ff1b 0 ff1f b ff20 0 ff21 e
ff3b 3 ff3c 0 ff3d 3 ff3e 0 ff41 7 ff5b 3 ff5c 0 ff5d 3 ff5e 0 ff5f 3 ff61 b ff62 3
ff64 a ff65 0 ff66 9 ff9e 4 ffa0 9 ffbf 0 ffc2 9 ffc8 0 ffca 9 ffd0 0 ffd2 9 ffd8 0
ffda 9 ffdd 0 fff9 5 fffc 0 10000 9 1000c 0 1000d 9 10027 0 10028 9 1003b 0 1003c 9
1003e 0 1003f 9 1004e 0 10050 9 1005e 0 10080 9 100fb 0 10140 9 10175 0 101fd 4 101fe
0 10280 9 1029d 0 102a0 9 102d1 0 102e0 4 102e1 0 10300 9 10320 0 1032d 9 1034b 0
10350 9 10376 4 1037b 0 10380 9 1039e 0 103a0 9 103c4 0 103c8 9 103d0 0 103d1 9 103d6
0 10400 e 10428 7 10450 9 1049e 0 104a0 8 104aa 0 104b0 e 104d4 0 104d8 7 104fc 0
10500 9 10528 0 10530 9 10564 0 10570 e 1057b 0 1057c e 1058b 0 1058c e 10593 0 10594
e 10596 0 10597 7 105a2 0 105a3 7 105b2 0 105b3 7 105ba 0 105bb 7 105bd 0 105c0 9
105f4 0 10600 9 10737 0 10740 9 10756 0 10760 9 10768 0 10780 7 10781 9 10783 7 10786
0 10787 7 107b1 0 107b2 7 107bb 0 10800 9 10806 0 10808 9 10809 0 1080a 9 10836 0
10837 9 10839 0 1083c 9 1083d 0 1083f 9 10856 0 10860 9 10877 0 10880 9 1089f 0 108e0
9 108f3 0 108f4 9 108f6 0 10900 9 10916 0 10920 9 1093a 0 10980 9 109b8 0 109be 9
109c0 0 10a00 9 10a01 4 10a04 0 10a05 4 10a07 0 10a0c 4 10a10 9 10a14 0 10a15 9 10a18
0 10a19 9 10a36 0 10a38 4 10a3b 0 10a3f 4 10a40 0 10a56 b 10a58 0 10a60 9 10a7d 0
10a80 9 10a9d 0 10ac0 9 10ac8 0 10ac9 9 10ae5 4 10ae7 0 10b00 9 10b36 0 10b40 9 10b56
0 10b60 9 10b73 0 10b80 9 10b92 0 10c00 9 10c49 0 10c80 e 10cb3 0 10cc0 7 10cf3 0
10d00 9 10d24 4 10d28 0 10d30 8 10d3a 0 10d40 8 10d4a 9 10d50 e 10d66 0 10d69 4 10d6e
0 10d6f 9 10d70 7 10d86 0 10e80 9 10eaa 0 10eab 4 10ead 0 10eb0 9 10eb2 0 10ec2 9
10ec5 0 10efc 4 10f00 9 10f1d 0 10f27 9 10f28 0 10f30 9 10f46 4 10f51 0 10f55 b 10f5a
0 10f70 9 10f82 4 10f86 b 10f8a 0 10fb0 9 10fc5 0 10fe0 9 10ff7 0 11000 4 11003 9
11038 4 11047 b 11049 0 11066 8 11070 4 11071 9 11073 4 11075 9 11076 0 1107f 4 11083
9 110b0 4 110bb 0 110bd 5 110be b 110c2 4 110c3 0 110cd 5 110ce 0 110d0 9 110e9 0
110f0 8 110fa 0 11100 4 11103 9 11127 4 11135 0 11136 8 11140 0 11141 b 11144 9 11145
4 11147 9 11148 0 11150 9 11173 4 11174 0 11176 9 11177 0 11180 4 11183 9 111b3 4
111c1 9 111c5 b 111c7 0 111c9 4 111cd b 111ce 4 111d0 8 111da 9 111db 0 111dc 9 111dd
0 111de b 111e0 0 11200 9 11212 0 11213 9 1122c 4 11238 b 1123a 0 1123b b 1123d 0
1123e 4 1123f 9 11241 4 11242 0 11280 9 11287 0 11288 9 11289 0 1128a 9 1128e 0 1128f
9 1129e 0 1129f 9 112a9 b 112aa 0 112b0 9 112df 4 112eb 0 112f0 8 112fa 0 11300 4
11304 0 11305 9 1130d 0 1130f 9 11311 0 11313 9 11329 0 1132a 9 11331 0 11332 9 11334
0 11335 9 1133a 0 1133b 4 1133d 9 1133e 4 11345 0 11347 4 11349 0 1134b 4 1134e 0
11350 9 11351 0 11357 4 11358 0 1135d 9 11362 4 11364 0 11366 4 1136d 0 11370 4 11375
0 11380 9 1138a 0 1138b 9 1138c 0 1138e 9 1138f 0 11390 9 113b6 0 113b7 9 113b8 4
113c1 0 113c2 4 113c3 0 113c5 4 113c6 0 113c7 4 113cb 0 113cc 4 113d1 9 113d2 4 113d3
9 113d4 b 113d6 0 113e1 4 113e3 0 11400 9 11435 4 11447 9 1144b b 1144d 0 11450 8
1145a 0 1145e 4 1145f 9 11462 0 11480 9 114b0 4 114c4 9 114c6 0 114c7 9 114c8 0 114d0
8 114da 0 11580 9 115af 4 115b6 0 115b8 4 115c1 0 115c2 b 115c4 0 115c9 b 115d8 9
115dc 4 115de 0 11600 9 11630 4 11641 b 11643 0 11644 9 11645 0 11650 8 1165a 0 11680
9 116ab 4 116b8 9 116b9 0 116c0 8 116ca 0 116d0 8 116e4 0 11700 9 1171b 0 1171d 4
1172c 0 11730 8 1173a 0 1173c b 1173f 0 11740 9 11747 0 11800 9 1182c 4 1183b 0 118a0
e 118c0 7 118e0 8 118ea 0 118ff 9 11907 0 11909 9 1190a 0 1190c 9 11914 0 11915 9
11917 0 11918 9 11930 4 11936 0 11937 4 11939 0 1193b 4 1193f 9 11940 4 11941 9 11942
4 11944 b 11945 0 11946 b 11947 0 11950 8 1195a 0 119a0 9 119a8 0 119aa 9 119d1 4
119d8 0 119da 4 119e1 9 119e2 0 119e3 9 119e4 4 119e5 0 11a00 9 11a01 4 11a0b 9 11a33
4 11a3a 9 11a3b 4 11a3f 0 11a42 b 11a44 0 11a47 4 11a48 0 11a50 9 11a51 4 11a5c 9
11a8a 4 11a9a 0 11a9b b 11a9d 9 11a9e 0 11ab0 9 11af9 0 11bc0 9 11be1 0 11bf0 8 11bfa
0 11c00 9 11c09 0 11c0a 9 11c2f 4 11c37 0 11c38 4 11c40 9 11c41 b 11c43 0 11c50 8
11c5a 0 11c72 9 11c90 0 11c92 4 11ca8 0 11ca9 4 11cb7 0 11d00 9 11d07 0 11d08 9 11d0a
0 11d0b 9 11d31 4 11d37 0 11d3a 4 11d3b 0 11d3c 4 11d3e 0 11d3f 4 11d46 9 11d47 4
11d48 0 11d50 8 11d5a 0 11d60 9 11d66 0 11d67 9 11d69 0 11d6a 9 11d8a 4 11d8f 0 11d90
4 11d92 0 11d93 4 11d98 9 11d99 0 11da0 8 11daa 0 11ee0 9 11ef3 4 11ef7 b 11ef9 0
11f00 4 11f02 9 11f03 4 11f04 9 11f11 0 11f12 9 11f34 4 11f3b 0 11f3e 4 11f43 b 11f45
0 11f50 8 11f5a 4 11f5b 0 11fb0 9 11fb1 0 12000 9 1239a 0 12400 9 1246f 0 12480 9
12544 0 12f90 9 12ff1 0 13000 9 13430 5 13440 4 13441 9 13447 4 13456 0 13460 9 143fb
0 14400 9 14647 0 16100 9 1611e 4 16130 8 1613a 0 16800 9 16a39 0 16a40 9 16a5f 0
16a60 8 16a6a 0 16a6e b 16a70 9 16abf 0 16ac0 8 16aca 0 16ad0 9 16aee 0 16af0 4 16af5
b 16af6 0 16b00 9 16b30 4 16b37 b 16b39 0 16b40 9 16b44 b 16b45 0 16b50 8 16b5a 0
16b63 9 16b78 0 16b7d 9 16b90 0 16d40 9 16d6d 0 16d6e b 16d70 8 16d7a 0 16e40 e 16e60
7 16e80 0 16e98 b 16e99 0 16f00 9 16f4b 0 16f4f 4 16f50 9 16f51 4 16f88 0 16f8f 4
16f93 9 16fa0 0 16fe0 9 16fe2 0 16fe3 9 16fe4 4 16fe5 0 16ff0 4 16ff2 0 17000 9 187f8
0 18800 9 18cd6 0 18cff 9 18d09 0 1aff0 9 1aff4 0 1aff5 9 1affc 0 1affd 9 1afff 0
1b000 9 1b123 0 1b132 9 1b133 0 1b150 9 1b153 0 1b155 9 1b156 0 1b164 9 1b168 0 1b170
9 1b2fc 0 1bc00 9 1bc6b 0 1bc70 9 1bc7d 0 1bc80 9 1bc89 0 1bc90 9 1bc9a 0 1bc9d 4
1bc9f b 1bca0 5 1bca4 0 1ccf0 8 1ccfa 0 1cf00 4 1cf2e 0 1cf30 4 1cf47 0 1d165 4 1d16a
0 1d16d 4 1d173 5 1d17b 4 1d183 0 1d185 4 1d18c 0 1d1aa 4 1d1ae 0 1d242 4 1d245 0
1d400 e 1d41a 7 1d434 e 1d44e 7 1d455 0 1d456 7 1d468 e 1d482 7 1d49c e 1d49d 0 1d49e
e 1d4a0 0 1d4a2 e 1d4a3 0 1d4a5 e 1d4a7 0 1d4a9 e 1d4ad 0 1d4ae e 1d4b6 7 1d4ba 0
1d4bb 7 1d4bc 0 1d4bd 7 1d4c4 0 1d4c5 7 1d4d0 e 1d4ea 7 1d504 e 1d506 0 1d507 e 1d50b
0 1d50d e 1d515 0 1d516 e 1d51d 0 1d51e 7 1d538 e 1d53a 0 1d53b e 1d53f 0 1d540 e
1d545 0 1d546 e 1d547 0 1d54a e 1d551 0 1d552 7 1d56c e 1d586 7 1d5a0 e 1d5ba 7 1d5d4
e 1d5ee 7 1d608 e 1d622 7 1d63c e 1d656 7 1d670 e 1d68a 7 1d6a6 0 1d6a8 e 1d6c1 0
1d6c2 7 1d6db 0 1d6dc 7 1d6e2 e 1d6fb 0 1d6fc 7 1d715 0 1d716 7 1d71c e 1d735 0 1d736
7 1d74f 0 1d750 7 1d756 e 1d76f 0 1d770 7 1d789 0 1d78a 7 1d790 e 1d7a9 0 1d7aa 7
1d7c3 0 1d7c4 7 1d7ca e 1d7cb 7 1d7cc 0 1d7ce 8 1d800 0 1da00 4 1da37 0 1da3b 4 1da6d
0 1da75 4 1da76 0 1da84 4 1da85 0 1da88 b 1da89 0 1da9b 4 1daa0 0 1daa1 4 1dab0 0
1df00 7 1df0a 9 1df0b 7 1df1f 0 1df25 7 1df2b 0 1e000 4 1e007 0 1e008 4 1e019 0 1e01b
4 1e022 0 1e023 4 1e025 0 1e026 4 1e02b 0 1e030 7 1e06e 0 1e08f 4 1e090 0 1e100 9
1e12d 0 1e130 4 1e137 9 1e13e 0 1e140 8 1e14a 0 1e14e 9 1e14f 0 1e290 9 1e2ae 4 1e2af
0 1e2c0 9 1e2ec 4 1e2f0 8 1e2fa 0 1e4d0 9 1e4ec 4 1e4f0 8 1e4fa 0 1e5d0 9 1e5ee 4
1e5f0 9 1e5f1 8 1e5fb 0 1e7e0 9 1e7e7 0 1e7e8 9 1e7ec 0 1e7ed 9 1e7ef 0 1e7f0 9 1e7ff
0 1e800 9 1e8c5 0 1e8d0 4 1e8d7 0 1e900 e 1e922 7 1e944 4 1e94b 9 1e94c 0 1e950 8
1e95a 0 1ee00 9 1ee04 0 1ee05 9 1ee20 0 1ee21 9 1ee23 0 1ee24 9 1ee25 0 1ee27 9 1ee28
0 1ee29 9 1ee33 0 1ee34 9 1ee38 0 1ee39 9 1ee3a 0 1ee3b 9 1ee3c 0 1ee42 9 1ee43 0
1ee47 9 1ee48 0 1ee49 9 1ee4a 0 1ee4b 9 1ee4c 0 1ee4d 9 1ee50 0 1ee51 9 1ee53 0 1ee54
9 1ee55 0 1ee57 9 1ee58 0 1ee59 9 1ee5a 0 1ee5b 9 1ee5c 0 1ee5d 9 1ee5e 0 1ee5f 9
1ee60 0 1ee61 9 1ee63 0 1ee64 9 1ee65 0 1ee67 9 1ee6b 0 1ee6c 9 1ee73 0 1ee74 9 1ee78
0 1ee79 9 1ee7d 0 1ee7e 9 1ee7f 0 1ee80 9 1ee8a 0 1ee8b 9 1ee9c 0 1eea1 9 1eea4 0
1eea5 9 1eeaa 0 1eeab 9 1eebc 0 1f130 e 1f14a 0 1f150 e 1f16a 0 1f170 e 1f18a 0 1f676
3 1f679 0 1fbf0 8 1fbfa 0 20000 9 2a6e0 0 2a700 9 2b73a 0 2b740 9 2b81e 0 2b820 9
2cea2 0 2ceb0 9 2ebe1 0 2ebf0 9 2ee5e 0 2f800 9 2fa1e 0 30000 9 3134b 0 31350 9 323b0
0 e0001 5 e0002 0 e0020 4 e0080 0 e0100 4 e01f0 0"

/-- The class of a character, by its long name. -/
def sentenceClass (c : Char) : String := sentenceClassNames.getD (sentenceClassTable.get c) "Other"

/-- Each class that some character has, by its long name, with all its names. `Other`
is left out: patterns cannot name it. -/
def sentenceClassAliases : List (String × List String) := [
  ("ATerm", ["AT", "ATerm"]),
  ("CR", ["CR"]),
  ("Close", ["CL", "Close"]),
  ("Extend", ["EX", "Extend"]),
  ("Format", ["FO", "Format"]),
  ("LF", ["LF"]),
  ("Lower", ["LO", "Lower"]),
  ("Numeric", ["NU", "Numeric"]),
  ("OLetter", ["LE", "OLetter"]),
  ("SContinue", ["SC", "SContinue"]),
  ("STerm", ["ST", "STerm"]),
  ("Sep", ["SE", "Sep"]),
  ("Sp", ["SP", "Sp"]),
  ("Upper", ["UP", "Upper"])]

end TagStore.Text
