import TagStore.Text.Ranges
/-!
# Text.GraphemeBreak

The grapheme-cluster-break classes of Unicode 16.0 (`Grapheme_Cluster_Break` of UAX #29):
`Extend` for combining marks and their kin, `SpacingMark`, `Prepend`, `Control`, the
Hangul jamo classes `L`, `V`, `T`, `LV` and `LVT`, and so on. Code points that are in no
class are of class `Other`.
-/

namespace TagStore.Text

/-- The class names in table-code order; code 0 is `Other`. -/
def graphemeClassNames : Array String := #[
  "Other", "CR", "Control", "Extend", "L", "LF", "LV", "LVT", "Prepend",
  "Regional_Indicator", "SpacingMark", "T", "V", "ZWJ"]

/-- Range starts and class codes. -/
def graphemeClassTable : RangeMap := RangeMap.ofHex "
0 2 a 5 b 2 d 1 e 2 20 0 7f 2 a0 0 ad 2 ae 0 300 3 370 0 483 3 48a 0 591 3 5be 0 5bf 3
5c0 0 5c1 3 5c3 0 5c4 3 5c6 0 5c7 3 5c8 0 600 8 606 0 610 3 61b 0 61c 2 61d 0 64b 3
660 0 670 3 671 0 6d6 3 6dd 8 6de 0 6df 3 6e5 0 6e7 3 6e9 0 6ea 3 6ee 0 70f 8 710 0
711 3 712 0 730 3 74b 0 7a6 3 7b1 0 7eb 3 7f4 0 7fd 3 7fe 0 816 3 81a 0 81b 3 824 0
825 3 828 0 829 3 82e 0 859 3 85c 0 890 8 892 0 897 3 8a0 0 8ca 3 8e2 8 8e3 3 903 a
904 0 93a 3 93b a 93c 3 93d 0 93e a 941 3 949 a 94d 3 94e a 950 0 951 3 958 0 962 3
964 0 981 3 982 a 984 0 9bc 3 9bd 0 9be 3 9bf a 9c1 3 9c5 0 9c7 a 9c9 0 9cb a 9cd 3
9ce 0 9d7 3 9d8 0 9e2 3 9e4 0 9fe 3 9ff 0 a01 3 a03 a a04 0 a3c 3 a3d 0 a3e a a41 3
a43 0 a47 3 a49 0 a4b 3 a4e 0 a51 3 a52 0 a70 3 a72 0 a75 3 a76 0 a81 3 a83 a a84 0
abc 3 abd 0 abe a ac1 3 ac6 0 ac7 3 ac9 a aca 0 acb a acd 3 ace 0 ae2 3 ae4 0 afa 3
b00 0 b01 3 b02 a b04 0 b3c 3 b3d 0 b3e 3 b40 a b41 3 b45 0 b47 a b49 0 b4b a b4d 3
b4e 0 b55 3 b58 0 b62 3 b64 0 b82 3 b83 0 bbe 3 bbf a bc0 3 bc1 a bc3 0 bc6 a bc9 0
bca a bcd 3 bce 0 bd7 3 bd8 0 c00 3 c01 a c04 3 c05 0 c3c 3 c3d 0 c3e 3 c41 a c45 0
c46 3 c49 0 c4a 3 c4e 0 c55 3 c57 0 c62 3 c64 0 c81 3 c82 a c84 0 cbc 3 cbd 0 cbe a
cbf 3 cc1 a cc2 3 cc3 a cc5 0 cc6 3 cc9 0 cca 3 cce 0 cd5 3 cd7 0 ce2 3 ce4 0 cf3 a
cf4 0 d00 3 d02 a d04 0 d3b 3 d3d 0 d3e 3 d3f a d41 3 d45 0 d46 a d49 0 d4a a d4d 3
d4e 8 d4f 0 d57 3 d58 0 d62 3 d64 0 d81 3 d82 a d84 0 dca 3 dcb 0 dcf 3 dd0 a dd2 3
dd5 0 dd6 3 dd7 0 dd8 a ddf 3 de0 0 df2 a df4 0 e31 3 e32 0 e33 a e34 3 e3b 0 e47 3
e4f 0 eb1 3 eb2 0 eb3 a eb4 3 ebd 0 ec8 3 ecf 0 f18 3 f1a 0 f35 3 f36 0 f37 3 f38 0
f39 3 f3a 0 f3e a f40 0 f71 3 f7f a f80 3 f85 0 f86 3 f88 0 f8d 3 f98 0 f99 3 fbd 0
fc6 3 fc7 0 102d 3 1031 a 1032 3 1038 0 1039 3 103b a 103d 3 103f 0 1056 a 1058 3 105a
0 105e 3 1061 0 1071 3 1075 0 1082 3 1083 0 1084 a 1085 3 1087 0 108d 3 108e 0 109d 3
109e 0 1100 4 1160 c 11a8 b 1200 0 135d 3 1360 0 1712 3 1716 0 1732 3 1735 0 1752 3
1754 0 1772 3 1774 0 17b4 3 17b6 a 17b7 3 17be a 17c6 3 17c7 a 17c9 3 17d4 0 17dd 3
17de 0 180b 3 180e 2 180f 3 1810 0 1885 3 1887 0 18a9 3 18aa 0 1920 3 1923 a 1927 3
1929 a 192c 0 1930 a 1932 3 1933 a 1939 3 193c 0 1a17 3 1a19 a 1a1b 3 1a1c 0 1a55 a
1a56 3 1a57 a 1a58 3 1a5f 0 1a60 3 1a61 0 1a62 3 1a63 0 1a65 3 1a6d a 1a73 3 1a7d 0
1a7f 3 1a80 0 1ab0 3 1acf 0 1b00 3 1b04 a 1b05 0 1b34 3 1b3e a 1b42 3 1b45 0 1b6b 3
1b74 0 1b80 3 1b82 a 1b83 0 1ba1 a 1ba2 3 1ba6 a 1ba8 3 1bae 0 1be6 3 1be7 a 1be8 3
1bea a 1bed 3 1bee a 1bef 3 1bf4 0 1c24 a 1c2c 3 1c34 a 1c36 3 1c38 0 1cd0 3 1cd3 0
1cd4 3 1ce1 a 1ce2 3 1ce9 0 1ced 3 1cee 0 1cf4 3 1cf5 0 1cf7 a 1cf8 3 1cfa 0 1dc0 3
1e00 0 200b 2 200c 3 200d d 200e 2 2010 0 2028 2 202f 0 2060 2 2070 0 20d0 3 20f1 0
2cef 3 2cf2 0 2d7f 3 2d80 0 2de0 3 2e00 0 302a 3 3030 0 3099 3 309b 0 a66f 3 a673 0
a674 3 a67e 0 a69e 3 a6a0 0 a6f0 3 a6f2 0 a802 3 a803 0 a806 3 a807 0 a80b 3 a80c 0
a823 a a825 3 a827 a a828 0 a82c 3 a82d 0 a880 a a882 0 a8b4 a a8c4 3 a8c6 0 a8e0 3
a8f2 0 a8ff 3 a900 0 a926 3 a92e 0 a947 3 a952 a a953 3 a954 0 a960 4 a97d 0 a980 3
a983 a a984 0 a9b3 3 a9b4 a a9b6 3 a9ba a a9bc 3 a9be a a9c0 3 a9c1 0 a9e5 3 a9e6 0
aa29 3 aa2f a aa31 3 aa33 a aa35 3 aa37 0 aa43 3 aa44 0 aa4c 3 aa4d a aa4e 0 aa7c 3
aa7d 0 aab0 3 aab1 0 aab2 3 aab5 0 aab7 3 aab9 0 aabe 3 aac0 0 aac1 3 aac2 0 aaeb a
aaec 3 aaee a aaf0 0 aaf5 a aaf6 3 aaf7 0 abe3 a abe5 3 abe6 a abe8 3 abe9 a abeb 0
abec a abed 3 abee 0 ac00 6 ac01 7 ac1c 6 ac1d 7 ac38 6 ac39 7 ac54 6 ac55 7 ac70 6
ac71 7 ac8c 6 ac8d 7 aca8 6 aca9 7 acc4 6 acc5 7 ace0 6 ace1 7 acfc 6 acfd 7 ad18 6
ad19 7 ad34 6 ad35 7 ad50 6 ad51 7 ad6c 6 ad6d 7 ad88 6 ad89 7 ada4 6 ada5 7 adc0 6
adc1 7 addc 6 addd 7 adf8 6 adf9 7 ae14 6 ae15 7 ae30 6 ae31 7 ae4c 6 ae4d 7 ae68 6
ae69 7 ae84 6 ae85 7 aea0 6 aea1 7 aebc 6 aebd 7 aed8 6 aed9 7 aef4 6 aef5 7 af10 6
af11 7 af2c 6 af2d 7 af48 6 af49 7 af64 6 af65 7 af80 6 af81 7 af9c 6 af9d 7 afb8 6
afb9 7 afd4 6 afd5 7 aff0 6 aff1 7 b00c 6 b00d 7 b028 6 b029 7 b044 6 b045 7 b060 6
b061 7 b07c 6 b07d 7 b098 6 b099 7 b0b4 6 b0b5 7 b0d0 6 b0d1 7 b0ec 6 b0ed 7 b108 6
b109 7 b124 6 b125 7 b140 6 b141 7 b15c 6 b15d 7 b178 6 b179 7 b194 6 b195 7 b1b0 6
b1b1 7 b1cc 6 b1cd 7 b1e8 6 b1e9 7 b204 6 b205 7 b220 6 b221 7 b23c 6 b23d 7 b258 6
b259 7 b274 6 b275 7 b290 6 b291 7 b2ac 6 b2ad 7 b2c8 6 b2c9 7 b2e4 6 b2e5 7 b300 6
b301 7 b31c 6 b31d 7 b338 6 b339 7 b354 6 b355 7 b370 6 b371 7 b38c 6 b38d 7 b3a8 6
b3a9 7 b3c4 6 b3c5 7 b3e0 6 b3e1 7 b3fc 6 b3fd 7 b418 6 b419 7 b434 6 b435 7 b450 6
b451 7 b46c 6 b46d 7 b488 6 b489 7 b4a4 6 b4a5 7 b4c0 6 b4c1 7 b4dc 6 b4dd 7 b4f8 6
b4f9 7 b514 6 b515 7 b530 6 b531 7 b54c 6 b54d 7 b568 6 b569 7 b584 6 b585 7 b5a0 6
b5a1 7 b5bc 6 b5bd 7 b5d8 6 b5d9 7 b5f4 6 b5f5 7 b610 6 b611 7 b62c 6 b62d 7 b648 6
b649 7 b664 6 b665 7 b680 6 b681 7 b69c 6 b69d 7 b6b8 6 b6b9 7 b6d4 6 b6d5 7 b6f0 6
b6f1 7 b70c 6 b70d 7 b728 6 b729 7 b744 6 b745 7 b760 6 b761 7 b77c 6 b77d 7 b798 6
b799 7 b7b4 6 b7b5 7 b7d0 6 b7d1 7 b7ec 6 b7ed 7 b808 6 b809 7 b824 6 b825 7 b840 6
b841 7 b85c 6 b85d 7 b878 6 b879 7 b894 6 b895 7 b8b0 6 b8b1 7 b8cc 6 b8cd 7 b8e8 6
b8e9 7 b904 6 b905 7 b920 6 b921 7 b93c 6 b93d 7 b958 6 b959 7 b974 6 b975 7 b990 6
b991 7 b9ac 6 b9ad 7 b9c8 6 b9c9 7 b9e4 6 b9e5 7 ba00 6 ba01 7 ba1c 6 ba1d 7 ba38 6
ba39 7 ba54 6 ba55 7 ba70 6 ba71 7 ba8c 6 ba8d 7 baa8 6 baa9 7 bac4 6 bac5 7 bae0 6
bae1 7 bafc 6 bafd 7 bb18 6 bb19 7 bb34 6 bb35 7 bb50 6 bb51 7 bb6c 6 bb6d 7 bb88 6
bb89 7 bba4 6 bba5 7 bbc0 6 bbc1 7 bbdc 6 bbdd 7 bbf8 6 bbf9 7 bc14 6 bc15 7 bc30 6
bc31 7 bc4c 6 bc4d 7 bc68 6 bc69 7 bc84 6 bc85 7 bca0 6 bca1 7 bcbc 6 bcbd 7 bcd8 6
bcd9 7 bcf4 6 bcf5 7 bd10 6 bd11 7 bd2c 6 bd2d 7 bd48 6 bd49 7 bd64 6 bd65 7 bd80 6
bd81 7 bd9c 6 bd9d 7 bdb8 6 bdb9 7 bdd4 6 bdd5 7 bdf0 6 bdf1 7 be0c 6 be0d 7 be28 6
be29 7 be44 6 be45 7 be60 6 be61 7 be7c 6 be7d 7 be98 6 be99 7 beb4 6 beb5 7 bed0 6
bed1 7 beec 6 beed 7 bf08 6 bf09 7 bf24 6 bf25 7 bf40 6 bf41 7 bf5c 6 bf5d 7 bf78 6
bf79 7 bf94 6 bf95 7 bfb0 6 bfb1 7 bfcc 6 bfcd 7 bfe8 6 bfe9 7 c004 6 c005 7 c020 6
c021 7 c03c 6 c03d 7 c058 6 c059 7 c074 6 c075 7 c090 6 c091 7 c0ac 6 c0ad 7 c0c8 6
c0c9 7 c0e4 6 c0e5 7 c100 6 c101 7 c11c 6 c11d 7 c138 6 c139 7 c154 6 c155 7 c170 6
c171 7 c18c 6 c18d 7 c1a8 6 c1a9 7 c1c4 6 c1c5 7 c1e0 6 c1e1 7 c1fc 6 c1fd 7 c218 6
c219 7 c234 6 c235 7 c250 6 c251 7 c26c 6 c26d 7 c288 6 c289 7 c2a4 6 c2a5 7 c2c0 6
c2c1 7 c2dc 6 c2dd 7 c2f8 6 c2f9 7 c314 6 c315 7 c330 6 c331 7 c34c 6 c34d 7 c368 6
c369 7 c384 6 c385 7 c3a0 6 c3a1 7 c3bc 6 c3bd 7 c3d8 6 c3d9 7 c3f4 6 c3f5 7 c410 6
c411 7 c42c 6 c42d 7 c448 6 c449 7 c464 6 c465 7 c480 6 c481 7 c49c 6 c49d 7 c4b8 6
c4b9 7 c4d4 6 c4d5 7 c4f0 6 c4f1 7 c50c 6 c50d 7 c528 6 c529 7 c544 6 c545 7 c560 6
c561 7 c57c 6 c57d 7 c598 6 c599 7 c5b4 6 c5b5 7 c5d0 6 c5d1 7 c5ec 6 c5ed 7 c608 6
c609 7 c624 6 c625 7 c640 6 c641 7 c65c 6 c65d 7 c678 6 c679 7 c694 6 c695 7 c6b0 6
c6b1 7 c6cc 6 c6cd 7 c6e8 6 c6e9 7 c704 6 c705 7 c720 6 c721 7 c73c 6 c73d 7 c758 6
c759 7 c774 6 c775 7 c790 6 c791 7 c7ac 6 c7ad 7 c7c8 6 c7c9 7 c7e4 6 c7e5 7 c800 6
c801 7 c81c 6 c81d 7 c838 6 c839 7 c854 6 c855 7 c870 6 c871 7 c88c 6 c88d 7 c8a8 6
c8a9 7 c8c4 6 c8c5 7 c8e0 6 c8e1 7 c8fc 6 c8fd 7 c918 6 c919 7 c934 6 c935 7 c950 6
c951 7 c96c 6 c96d 7 c988 6 c989 7 c9a4 6 c9a5 7 c9c0 6 c9c1 7 c9dc 6 c9dd 7 c9f8 6
c9f9 7 ca14 6 ca15 7 ca30 6 ca31 7 ca4c 6 ca4d 7 ca68 6 ca69 7 ca84 6 ca85 7 caa0 6
caa1 7 cabc 6 cabd 7 cad8 6 cad9 7 caf4 6 caf5 7 cb10 6 cb11 7 cb2c 6 cb2d 7 cb48 6
cb49 7 cb64 6 cb65 7 cb80 6 cb81 7 cb9c 6 cb9d 7 cbb8 6 cbb9 7 cbd4 6 cbd5 7 cbf0 6
cbf1 7 cc0c 6 cc0d 7 cc28 6 cc29 7 cc44 6 cc45 7 cc60 6 cc61 7 cc7c 6 cc7d 7 cc98 6
cc99 7 ccb4 6 ccb5 7 ccd0 6 ccd1 7 ccec 6 cced 7 cd08 6 cd09 7 cd24 6 cd25 7 cd40 6
cd41 7 cd5c 6 cd5d 7 cd78 6 cd79 7 cd94 6 cd95 7 cdb0 6 cdb1 7 cdcc 6 cdcd 7 cde8 6
cde9 7 ce04 6 ce05 7 ce20 6 ce21 7 ce3c 6 ce3d 7 ce58 6 ce59 7 ce74 6 ce75 7 ce90 6
ce91 7 ceac 6 cead 7 cec8 6 cec9 7 cee4 6 cee5 7 cf00 6 cf01 7 cf1c 6 cf1d 7 cf38 6
cf39 7 cf54 6 cf55 7 cf70 6 cf71 7 cf8c 6 cf8d 7 cfa8 6 cfa9 7 cfc4 6 cfc5 7 cfe0 6
cfe1 7 cffc 6 cffd 7 d018 6 d019 7 d034 6 d035 7 d050 6 d051 7 d06c 6 d06d 7 d088 6
d089 7 d0a4 6 d0a5 7 d0c0 6 d0c1 7 d0dc 6 d0dd 7 d0f8 6 d0f9 7 d114 6 d115 7 d130 6
d131 7 d14c 6 d14d 7 d168 6 d169 7 d184 6 d185 7 d1a0 6 d1a1 7 d1bc 6 d1bd 7 d1d8 6
d1d9 7 d1f4 6 d1f5 7 d210 6 d211 7 d22c 6 d22d 7 d248 6 d249 7 d264 6 d265 7 d280 6
d281 7 d29c 6 d29d 7 d2b8 6 d2b9 7 d2d4 6 d2d5 7 d2f0 6 d2f1 7 d30c 6 d30d 7 d328 6
d329 7 d344 6 d345 7 d360 6 d361 7 d37c 6 d37d 7 d398 6 d399 7 d3b4 6 d3b5 7 d3d0 6
d3d1 7 d3ec 6 d3ed 7 d408 6 d409 7 d424 6 d425 7 d440 6 d441 7 d45c 6 d45d 7 d478 6
d479 7 d494 6 d495 7 d4b0 6 d4b1 7 d4cc 6 d4cd 7 d4e8 6 d4e9 7 d504 6 d505 7 d520 6
d521 7 d53c 6 d53d 7 d558 6 d559 7 d574 6 d575 7 d590 6 d591 7 d5ac 6 d5ad 7 d5c8 6
d5c9 7 d5e4 6 d5e5 7 d600 6 d601 7 d61c 6 d61d 7 d638 6 d639 7 d654 6 d655 7 d670 6
d671 7 d68c 6 d68d 7 d6a8 6 d6a9 7 d6c4 6 d6c5 7 d6e0 6 d6e1 7 d6fc 6 d6fd 7 d718 6
d719 7 d734 6 d735 7 d750 6 d751 7 d76c 6 d76d 7 d788 6 d789 7 d7a4 0 d7b0 c d7c7 0
d7cb b d7fc 0 d800 2 e000 0 fb1e 3 fb1f 0 fe00 3 fe10 0 fe20 3 fe30 0 feff 2 ff00 0
ff9e 3 ffa0 0 fff0 2 fffc 0 101fd 3 101fe 0 102e0 3 102e1 0 10376 3 1037b 0 10a01 3
10a04 0 10a05 3 10a07 0 10a0c 3 10a10 0 10a38 3 10a3b 0 10a3f 3 10a40 0 10ae5 3 10ae7
0 10d24 3 10d28 0 10d69 3 10d6e 0 10eab 3 10ead 0 10efc 3 10f00 0 10f46 3 10f51 0
10f82 3 10f86 0 11000 a 11001 3 11002 a 11003 0 11038 3 11047 0 11070 3 11071 0 11073
3 11075 0 1107f 3 11082 a 11083 0 110b0 a 110b3 3 110b7 a 110b9 3 110bb 0 110bd 8
110be 0 110c2 3 110c3 0 110cd 8 110ce 0 11100 3 11103 0 11127 3 1112c a 1112d 3 11135
0 11145 a 11147 0 11173 3 11174 0 11180 3 11182 a 11183 0 111b3 a 111b6 3 111bf a
111c0 3 111c1 0 111c2 8 111c4 0 111c9 3 111cd 0 111ce a 111cf 3 111d0 0 1122c a 1122f
3 11232 a 11234 3 11238 0 1123e 3 1123f 0 11241 3 11242 0 112df 3 112e0 a 112e3 3
112eb 0 11300 3 11302 a 11304 0 1133b 3 1133d 0 1133e 3 1133f a 11340 3 11341 a 11345
0 11347 a 11349 0 1134b a 1134d 3 1134e 0 11357 3 11358 0 11362 a 11364 0 11366 3
1136d 0 11370 3 11375 0 113b8 3 113b9 a 113bb 3 113c1 0 113c2 3 113c3 0 113c5 3 113c6
0 113c7 3 113ca a 113cb 0 113cc a 113ce 3 113d1 8 113d2 3 113d3 0 113e1 3 113e3 0
11435 a 11438 3 11440 a 11442 3 11445 a 11446 3 11447 0 1145e 3 1145f 0 114b0 3 114b1
a 114b3 3 114b9 a 114ba 3 114bb a 114bd 3 114be a 114bf 3 114c1 a 114c2 3 114c4 0
115af 3 115b0 a 115b2 3 115b6 0 115b8 a 115bc 3 115be a 115bf 3 115c1 0 115dc 3 115de
0 11630 a 11633 3 1163b a 1163d 3 1163e a 1163f 3 11641 0 116ab 3 116ac a 116ad 3
116ae a 116b0 3 116b8 0 1171d 3 1171e a 1171f 3 11720 0 11722 3 11726 a 11727 3 1172c
0 1182c a 1182f 3 11838 a 11839 3 1183b 0 11930 3 11931 a 11936 0 11937 a 11939 0
1193b 3 1193f 8 11940 a 11941 8 11942 a 11943 3 11944 0 119d1 a 119d4 3 119d8 0 119da
3 119dc a 119e0 3 119e1 0 119e4 a 119e5 0 11a01 3 11a0b 0 11a33 3 11a39 a 11a3a 8
11a3b 3 11a3f 0 11a47 3 11a48 0 11a51 3 11a57 a 11a59 3 11a5c 0 11a84 8 11a8a 3 11a97
a 11a98 3 11a9a 0 11c2f a 11c30 3 11c37 0 11c38 3 11c3e a 11c3f 3 11c40 0 11c92 3
11ca8 0 11ca9 a 11caa 3 11cb1 a 11cb2 3 11cb4 a 11cb5 3 11cb7 0 11d31 3 11d37 0 11d3a
3 11d3b 0 11d3c 3 11d3e 0 11d3f 3 11d46 8 11d47 3 11d48 0 11d8a a 11d8f 0 11d90 3
11d92 0 11d93 a 11d95 3 11d96 a 11d97 3 11d98 0 11ef3 3 11ef5 a 11ef7 0 11f00 3 11f02
8 11f03 a 11f04 0 11f34 a 11f36 3 11f3b 0 11f3e a 11f40 3 11f43 0 11f5a 3 11f5b 0
13430 2 13440 3 13441 0 13447 3 13456 0 1611e 3 1612a a 1612d 3 16130 0 16af0 3 16af5
0 16b30 3 16b37 0 16f4f 3 16f50 0 16f51 a 16f88 0 16f8f 3 16f93 0 16fe4 3 16fe5 0
16ff0 3 16ff2 0 1bc9d 3 1bc9f 0 1bca0 2 1bca4 0 1cf00 3 1cf2e 0 1cf30 3 1cf47 0 1d165
3 1d16a 0 1d16d 3 1d173 2 1d17b 3 1d183 0 1d185 3 1d18c 0 1d1aa 3 1d1ae 0 1d242 3
1d245 0 1da00 3 1da37 0 1da3b 3 1da6d 0 1da75 3 1da76 0 1da84 3 1da85 0 1da9b 3 1daa0
0 1daa1 3 1dab0 0 1e000 3 1e007 0 1e008 3 1e019 0 1e01b 3 1e022 0 1e023 3 1e025 0
1e026 3 1e02b 0 1e08f 3 1e090 0 1e130 3 1e137 0 1e2ae 3 1e2af 0 1e2ec 3 1e2f0 0 1e4ec
3 1e4f0 0 1e5ee 3 1e5f0 0 1e8d0 3 1e8d7 0 1e944 3 1e94b 0 1f1e6 9 1f200 0 1f3fb 3
1f400 0 e0000 2 e0100 3 e01f0 2 e1000 0"

/-- The class of a character, by its long name. -/
def graphemeClass (c : Char) : String := graphemeClassNames.getD (graphemeClassTable.get c) "Other"

/-- Each class that some character has, by its long name, with all its names. `Other`
is left out: patterns cannot name it. -/
def graphemeClassAliases : List (String × List String) := [
  ("CR", ["CR"]),
  ("Control", ["CN", "Control"]),
  ("Extend", ["EX", "Extend"]),
  ("L", ["L"]),
  ("LF", ["LF"]),
  ("LV", ["LV"]),
  ("LVT", ["LVT"]),
  ("Prepend", ["PP", "Prepend"]),
  ("Regional_Indicator", ["RI", "Regional_Indicator"]),
  ("SpacingMark", ["SM", "SpacingMark"]),
  ("T", ["T"]),
  ("V", ["V"]),
  ("ZWJ", ["ZWJ"])]

end TagStore.Text
