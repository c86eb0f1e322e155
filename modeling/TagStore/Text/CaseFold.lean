import TagStore.Text.Ranges
/-!
# Text.CaseFold

Characters that are equal up to case, after the simple case folding of Unicode 16.0:
two characters are equal up to case when they fold to the same character. The classes
of more than one character are listed, each as its size followed by its members, so
`k`, `K` and the Kelvin sign form one class.
-/

namespace TagStore.Text

/-- The case classes: each a size, then that many code points. -/
def caseClassList : Array Nat := hexNumbers "
2 41 61 2 42 62 2 43 63 2 44 64 2 45 65 2 46 66 2 47 67 2 48 68 2 49 69 2 4a 6a 3 4b
6b 212a 2 4c 6c 2 4d 6d 2 4e 6e 2 4f 6f 2 50 70 2 51 71 2 52 72 3 53 73 17f 2 54 74 2
55 75 2 56 76 2 57 77 2 58 78 2 59 79 2 5a 7a 3 b5 39c 3bc 2 c0 e0 2 c1 e1 2 c2 e2 2
c3 e3 2 c4 e4 3 c5 e5 212b 2 c6 e6 2 c7 e7 2 c8 e8 2 c9 e9 2 ca ea 2 cb eb 2 cc ec 2
cd ed 2 ce ee 2 cf ef 2 d0 f0 2 d1 f1 2 d2 f2 2 d3 f3 2 d4 f4 2 d5 f5 2 d6 f6 2 d8 f8
2 d9 f9 2 da fa 2 db fb 2 dc fc 2 dd fd 2 de fe 2 df 1e9e 2 ff 178 2 100 101 2 102 103
2 104 105 2 106 107 2 108 109 2 10a 10b 2 10c 10d 2 10e 10f 2 110 111 2 112 113 2 114
115 2 116 117 2 118 119 2 11a 11b 2 11c 11d 2 11e 11f 2 120 121 2 122 123 2 124 125 2
126 127 2 128 129 2 12a 12b 2 12c 12d 2 12e 12f 2 132 133 2 134 135 2 136 137 2 139
13a 2 13b 13c 2 13d 13e 2 13f 140 2 141 142 2 143 144 2 145 146 2 147 148 2 14a 14b 2
14c 14d 2 14e 14f 2 150 151 2 152 153 2 154 155 2 156 157 2 158 159 2 15a 15b 2 15c
15d 2 15e 15f 2 160 161 2 162 163 2 164 165 2 166 167 2 168 169 2 16a 16b 2 16c 16d 2
16e 16f 2 170 171 2 172 173 2 174 175 2 176 177 2 179 17a 2 17b 17c 2 17d 17e 2 180
243 2 181 253 2 182 183 2 184 185 2 186 254 2 187 188 2 189 256 2 18a 257 2 18b 18c 2
18e 1dd 2 18f 259 2 190 25b 2 191 192 2 193 260 2 194 263 2 195 1f6 2 196 269 2 197
268 2 198 199 2 19a 23d 2 19b a7dc 2 19c 26f 2 19d 272 2 19e 220 2 19f 275 2 1a0 1a1 2
1a2 1a3 2 1a4 1a5 2 1a6 280 2 1a7 1a8 2 1a9 283 2 1ac 1ad 2 1ae 288 2 1af 1b0 2 1b1
28a 2 1b2 28b 2 1b3 1b4 2 1b5 1b6 2 1b7 292 2 1b8 1b9 2 1bc 1bd 2 1bf 1f7 3 1c4 1c5
1c6 3 1c7 1c8 1c9 3 1ca 1cb 1cc 2 1cd 1ce 2 1cf 1d0 2 1d1 1d2 2 1d3 1d4 2 1d5 1d6 2
1d7 1d8 2 1d9 1da 2 1db 1dc 2 1de 1df 2 1e0 1e1 2 1e2 1e3 2 1e4 1e5 2 1e6 1e7 2 1e8
1e9 2 1ea 1eb 2 1ec 1ed 2 1ee 1ef 3 1f1 1f2 1f3 2 1f4 1f5 2 1f8 1f9 2 1fa 1fb 2 1fc
1fd 2 1fe 1ff 2 200 201 2 202 203 2 204 205 2 206 207 2 208 209 2 20a 20b 2 20c 20d 2
20e 20f 2 210 211 2 212 213 2 214 215 2 216 217 2 218 219 2 21a 21b 2 21c 21d 2 21e
21f 2 222 223 2 224 225 2 226 227 2 228 229 2 22a 22b 2 22c 22d 2 22e 22f 2 230 231 2
232 233 2 23a 2c65 2 23b 23c 2 23e 2c66 2 23f 2c7e 2 240 2c7f 2 241 242 2 244 289 2
245 28c 2 246 247 2 248 249 2 24a 24b 2 24c 24d 2 24e 24f 2 250 2c6f 2 251 2c6d 2 252
2c70 2 25c a7ab 2 261 a7ac 2 264 a7cb 2 265 a78d 2 266 a7aa 2 26a a7ae 2 26b 2c62 2
26c a7ad 2 271 2c6e 2 27d 2c64 2 282 a7c5 2 287 a7b1 2 29d a7b2 2 29e a7b0 4 345 399
3b9 1fbe 2 370 371 2 372 373 2 376 377 2 37b 3fd 2 37c 3fe 2 37d 3ff 2 37f 3f3 2 386
3ac 2 388 3ad 2 389 3ae 2 38a 3af 2 38c 3cc 2 38e 3cd 2 38f 3ce 2 391 3b1 3 392 3b2
3d0 2 393 3b3 2 394 3b4 3 395 3b5 3f5 2 396 3b6 2 397 3b7 4 398 3b8 3d1 3f4 3 39a 3ba
3f0 2 39b 3bb 2 39d 3bd 2 39e 3be 2 39f 3bf 3 3a0 3c0 3d6 3 3a1 3c1 3f1 3 3a3 3c2 3c3
2 3a4 3c4 2 3a5 3c5 3 3a6 3c6 3d5 2 3a7 3c7 2 3a8 3c8 3 3a9 3c9 2126 2 3aa 3ca 2 3ab
3cb 2 3cf 3d7 2 3d8 3d9 2 3da 3db 2 3dc 3dd 2 3de 3df 2 3e0 3e1 2 3e2 3e3 2 3e4 3e5 2
3e6 3e7 2 3e8 3e9 2 3ea 3eb 2 3ec 3ed 2 3ee 3ef 2 3f2 3f9 2 3f7 3f8 2 3fa 3fb 2 400
450 2 401 451 2 402 452 2 403 453 2 404 454 2 405 455 2 406 456 2 407 457 2 408 458 2
409 459 2 40a 45a 2 40b 45b 2 40c 45c 2 40d 45d 2 40e 45e 2 40f 45f 2 410 430 2 411
431 3 412 432 1c80 2 413 433 3 414 434 1c81 2 415 435 2 416 436 2 417 437 2 418 438 2
419 439 2 41a 43a 2 41b 43b 2 41c 43c 2 41d 43d 3 41e 43e 1c82 2 41f 43f 2 420 440 3
421 441 1c83 4 422 442 1c84 1c85 2 423 443 2 424 444 2 425 445 2 426 446 2 427 447 2
428 448 2 429 449 3 42a 44a 1c86 2 42b 44b 2 42c 44c 2 42d 44d 2 42e 44e 2 42f 44f 2
460 461 3 462 463 1c87 2 464 465 2 466 467 2 468 469 2 46a 46b 2 46c 46d 2 46e 46f 2
470 471 2 472 473 2 474 475 2 476 477 2 478 479 2 47a 47b 2 47c 47d 2 47e 47f 2 480
481 2 48a 48b 2 48c 48d 2 48e 48f 2 490 491 2 492 493 2 494 495 2 496 497 2 498 499 2
49a 49b 2 49c 49d 2 49e 49f 2 4a0 4a1 2 4a2 4a3 2 4a4 4a5 2 4a6 4a7 2 4a8 4a9 2 4aa
4ab 2 4ac 4ad 2 4ae 4af 2 4b0 4b1 2 4b2 4b3 2 4b4 4b5 2 4b6 4b7 2 4b8 4b9 2 4ba 4bb 2
4bc 4bd 2 4be 4bf 2 4c0 4cf 2 4c1 4c2 2 4c3 4c4 2 4c5 4c6 2 4c7 4c8 2 4c9 4ca 2 4cb
4cc 2 4cd 4ce 2 4d0 4d1 2 4d2 4d3 2 4d4 4d5 2 4d6 4d7 2 4d8 4d9 2 4da 4db 2 4dc 4dd 2
4de 4df 2 4e0 4e1 2 4e2 4e3 2 4e4 4e5 2 4e6 4e7 2 4e8 4e9 2 4ea 4eb 2 4ec 4ed 2 4ee
4ef 2 4f0 4f1 2 4f2 4f3 2 4f4 4f5 2 4f6 4f7 2 4f8 4f9 2 4fa 4fb 2 4fc 4fd 2 4fe 4ff 2
500 501 2 502 503 2 504 505 2 506 507 2 508 509 2 50a 50b 2 50c 50d 2 50e 50f 2 510
511 2 512 513 2 514 515 2 516 517 2 518 519 2 51a 51b 2 51c 51d 2 51e 51f 2 520 521 2
522 523 2 524 525 2 526 527 2 528 529 2 52a 52b 2 52c 52d 2 52e 52f 2 531 561 2 532
562 2 533 563 2 534 564 2 535 565 2 536 566 2 537 567 2 538 568 2 539 569 2 53a 56a 2
53b 56b 2 53c 56c 2 53d 56d 2 53e 56e 2 53f 56f 2 540 570 2 541 571 2 542 572 2 543
573 2 544 574 2 545 575 2 546 576 2 547 577 2 548 578 2 549 579 2 54a 57a 2 54b 57b 2
54c 57c 2 54d 57d 2 54e 57e 2 54f 57f 2 550 580 2 551 581 2 552 582 2 553 583 2 554
584 2 555 585 2 556 586 2 10a0 2d00 2 10a1 2d01 2 10a2 2d02 2 10a3 2d03 2 10a4 2d04 2
10a5 2d05 2 10a6 2d06 2 10a7 2d07 2 10a8 2d08 2 10a9 2d09 2 10aa 2d0a 2 10ab 2d0b 2
10ac 2d0c 2 10ad 2d0d 2 10ae 2d0e 2 10af 2d0f 2 10b0 2d10 2 10b1 2d11 2 10b2 2d12 2
10b3 2d13 2 10b4 2d14 2 10b5 2d15 2 10b6 2d16 2 10b7 2d17 2 10b8 2d18 2 10b9 2d19 2
10ba 2d1a 2 10bb 2d1b 2 10bc 2d1c 2 10bd 2d1d 2 10be 2d1e 2 10bf 2d1f 2 10c0 2d20 2
10c1 2d21 2 10c2 2d22 2 10c3 2d23 2 10c4 2d24 2 10c5 2d25 2 10c7 2d27 2 10cd 2d2d 2
10d0 1c90 2 10d1 1c91 2 10d2 1c92 2 10d3 1c93 2 10d4 1c94 2 10d5 1c95 2 10d6 1c96 2
10d7 1c97 2 10d8 1c98 2 10d9 1c99 2 10da 1c9a 2 10db 1c9b 2 10dc 1c9c 2 10dd 1c9d 2
10de 1c9e 2 10df 1c9f 2 10e0 1ca0 2 10e1 1ca1 2 10e2 1ca2 2 10e3 1ca3 2 10e4 1ca4 2
10e5 1ca5 2 10e6 1ca6 2 10e7 1ca7 2 10e8 1ca8 2 10e9 1ca9 2 10ea 1caa 2 10eb 1cab 2
10ec 1cac 2 10ed 1cad 2 10ee 1cae 2 10ef 1caf 2 10f0 1cb0 2 10f1 1cb1 2 10f2 1cb2 2
10f3 1cb3 2 10f4 1cb4 2 10f5 1cb5 2 10f6 1cb6 2 10f7 1cb7 2 10f8 1cb8 2 10f9 1cb9 2
10fa 1cba 2 10fd 1cbd 2 10fe 1cbe 2 10ff 1cbf 2 13a0 ab70 2 13a1 ab71 2 13a2 ab72 2
13a3 ab73 2 13a4 ab74 2 13a5 ab75 2 13a6 ab76 2 13a7 ab77 2 13a8 ab78 2 13a9 ab79 2
13aa ab7a 2 13ab ab7b 2 13ac ab7c 2 13ad ab7d 2 13ae ab7e 2 13af ab7f 2 13b0 ab80 2
13b1 ab81 2 13b2 ab82 2 13b3 ab83 2 13b4 ab84 2 13b5 ab85 2 13b6 ab86 2 13b7 ab87 2
13b8 ab88 2 13b9 ab89 2 13ba ab8a 2 13bb ab8b 2 13bc ab8c 2 13bd ab8d 2 13be ab8e 2
13bf ab8f 2 13c0 ab90 2 13c1 ab91 2 13c2 ab92 2 13c3 ab93 2 13c4 ab94 2 13c5 ab95 2
13c6 ab96 2 13c7 ab97 2 13c8 ab98 2 13c9 ab99 2 13ca ab9a 2 13cb ab9b 2 13cc ab9c 2
13cd ab9d 2 13ce ab9e 2 13cf ab9f 2 13d0 aba0 2 13d1 aba1 2 13d2 aba2 2 13d3 aba3 2
13d4 aba4 2 13d5 aba5 2 13d6 aba6 2 13d7 aba7 2 13d8 aba8 2 13d9 aba9 2 13da abaa 2
13db abab 2 13dc abac 2 13dd abad 2 13de abae 2 13df abaf 2 13e0 abb0 2 13e1 abb1 2
13e2 abb2 2 13e3 abb3 2 13e4 abb4 2 13e5 abb5 2 13e6 abb6 2 13e7 abb7 2 13e8 abb8 2
13e9 abb9 2 13ea abba 2 13eb abbb 2 13ec abbc 2 13ed abbd 2 13ee abbe 2 13ef abbf 2
13f0 13f8 2 13f1 13f9 2 13f2 13fa 2 13f3 13fb 2 13f4 13fc 2 13f5 13fd 3 1c88 a64a a64b
2 1c89 1c8a 2 1d79 a77d 2 1d7d 2c63 2 1d8e a7c6 2 1e00 1e01 2 1e02 1e03 2 1e04 1e05 2
1e06 1e07 2 1e08 1e09 2 1e0a 1e0b 2 1e0c 1e0d 2 1e0e 1e0f 2 1e10 1e11 2 1e12 1e13 2
1e14 1e15 2 1e16 1e17 2 1e18 1e19 2 1e1a 1e1b 2 1e1c 1e1d 2 1e1e 1e1f 2 1e20 1e21 2
1e22 1e23 2 1e24 1e25 2 1e26 1e27 2 1e28 1e29 2 1e2a 1e2b 2 1e2c 1e2d 2 1e2e 1e2f 2
1e30 1e31 2 1e32 1e33 2 1e34 1e35 2 1e36 1e37 2 1e38 1e39 2 1e3a 1e3b 2 1e3c 1e3d 2
1e3e 1e3f 2 1e40 1e41 2 1e42 1e43 2 1e44 1e45 2 1e46 1e47 2 1e48 1e49 2 1e4a 1e4b 2
1e4c 1e4d 2 1e4e 1e4f 2 1e50 1e51 2 1e52 1e53 2 1e54 1e55 2 1e56 1e57 2 1e58 1e59 2
1e5a 1e5b 2 1e5c 1e5d 2 1e5e 1e5f 3 1e60 1e61 1e9b 2 1e62 1e63 2 1e64 1e65 2 1e66 1e67
2 1e68 1e69 2 1e6a 1e6b 2 1e6c 1e6d 2 1e6e 1e6f 2 1e70 1e71 2 1e72 1e73 2 1e74 1e75 2
1e76 1e77 2 1e78 1e79 2 1e7a 1e7b 2 1e7c 1e7d 2 1e7e 1e7f 2 1e80 1e81 2 1e82 1e83 2
1e84 1e85 2 1e86 1e87 2 1e88 1e89 2 1e8a 1e8b 2 1e8c 1e8d 2 1e8e 1e8f 2 1e90 1e91 2
1e92 1e93 2 1e94 1e95 2 1ea0 1ea1 2 1ea2 1ea3 2 1ea4 1ea5 2 1ea6 1ea7 2 1ea8 1ea9 2
1eaa 1eab 2 1eac 1ead 2 1eae 1eaf 2 1eb0 1eb1 2 1eb2 1eb3 2 1eb4 1eb5 2 1eb6 1eb7 2
1eb8 1eb9 2 1eba 1ebb 2 1ebc 1ebd 2 1ebe 1ebf 2 1ec0 1ec1 2 1ec2 1ec3 2 1ec4 1ec5 2
1ec6 1ec7 2 1ec8 1ec9 2 1eca 1ecb 2 1ecc 1ecd 2 1ece 1ecf 2 1ed0 1ed1 2 1ed2 1ed3 2
1ed4 1ed5 2 1ed6 1ed7 2 1ed8 1ed9 2 1eda 1edb 2 1edc 1edd 2 1ede 1edf 2 1ee0 1ee1 2
1ee2 1ee3 2 1ee4 1ee5 2 1ee6 1ee7 2 1ee8 1ee9 2 1eea 1eeb 2 1eec 1eed 2 1eee 1eef 2
1ef0 1ef1 2 1ef2 1ef3 2 1ef4 1ef5 2 1ef6 1ef7 2 1ef8 1ef9 2 1efa 1efb 2 1efc 1efd 2
1efe 1eff 2 1f00 1f08 2 1f01 1f09 2 1f02 1f0a 2 1f03 1f0b 2 1f04 1f0c 2 1f05 1f0d 2
1f06 1f0e 2 1f07 1f0f 2 1f10 1f18 2 1f11 1f19 2 1f12 1f1a 2 1f13 1f1b 2 1f14 1f1c 2
1f15 1f1d 2 1f20 1f28 2 1f21 1f29 2 1f22 1f2a 2 1f23 1f2b 2 1f24 1f2c 2 1f25 1f2d 2
1f26 1f2e 2 1f27 1f2f 2 1f30 1f38 2 1f31 1f39 2 1f32 1f3a 2 1f33 1f3b 2 1f34 1f3c 2
1f35 1f3d 2 1f36 1f3e 2 1f37 1f3f 2 1f40 1f48 2 1f41 1f49 2 1f42 1f4a 2 1f43 1f4b 2
1f44 1f4c 2 1f45 1f4d 2 1f51 1f59 2 1f53 1f5b 2 1f55 1f5d 2 1f57 1f5f 2 1f60 1f68 2
1f61 1f69 2 1f62 1f6a 2 1f63 1f6b 2 1f64 1f6c 2 1f65 1f6d 2 1f66 1f6e 2 1f67 1f6f 2
1f70 1fba 2 1f71 1fbb 2 1f72 1fc8 2 1f73 1fc9 2 1f74 1fca 2 1f75 1fcb 2 1f76 1fda 2
1f77 1fdb 2 1f78 1ff8 2 1f79 1ff9 2 1f7a 1fea 2 1f7b 1feb 2 1f7c 1ffa 2 1f7d 1ffb 2
1f80 1f88 2 1f81 1f89 2 1f82 1f8a 2 1f83 1f8b 2 1f84 1f8c 2 1f85 1f8d 2 1f86 1f8e 2
1f87 1f8f 2 1f90 1f98 2 1f91 1f99 2 1f92 1f9a 2 1f93 1f9b 2 1f94 1f9c 2 1f95 1f9d 2
1f96 1f9e 2 1f97 1f9f 2 1fa0 1fa8 2 1fa1 1fa9 2 1fa2 1faa 2 1fa3 1fab 2 1fa4 1fac 2
1fa5 1fad 2 1fa6 1fae 2 1fa7 1faf 2 1fb0 1fb8 2 1fb1 1fb9 2 1fb3 1fbc 2 1fc3 1fcc 2
1fd0 1fd8 2 1fd1 1fd9 2 1fe0 1fe8 2 1fe1 1fe9 2 1fe5 1fec 2 1ff3 1ffc 2 2132 214e 2
2160 2170 2 2161 2171 2 2162 2172 2 2163 2173 2 2164 2174 2 2165 2175 2 2166 2176 2
2167 2177 2 2168 2178 2 2169 2179 2 216a 217a 2 216b 217b 2 216c 217c 2 216d 217d 2
216e 217e 2 216f 217f 2 2183 2184 2 24b6 24d0 2 24b7 24d1 2 24b8 24d2 2 24b9 24d3 2
24ba 24d4 2 24bb 24d5 2 24bc 24d6 2 24bd 24d7 2 24be 24d8 2 24bf 24d9 2 24c0 24da 2
24c1 24db 2 24c2 24dc 2 24c3 24dd 2 24c4 24de 2 24c5 24df 2 24c6 24e0 2 24c7 24e1 2
24c8 24e2 2 24c9 24e3 2 24ca 24e4 2 24cb 24e5 2 24cc 24e6 2 24cd 24e7 2 24ce 24e8 2
24cf 24e9 2 2c00 2c30 2 2c01 2c31 2 2c02 2c32 2 2c03 2c33 2 2c04 2c34 2 2c05 2c35 2
2c06 2c36 2 2c07 2c37 2 2c08 2c38 2 2c09 2c39 2 2c0a 2c3a 2 2c0b 2c3b 2 2c0c 2c3c 2
2c0d 2c3d 2 2c0e 2c3e 2 2c0f 2c3f 2 2c10 2c40 2 2c11 2c41 2 2c12 2c42 2 2c13 2c43 2
2c14 2c44 2 2c15 2c45 2 2c16 2c46 2 2c17 2c47 2 2c18 2c48 2 2c19 2c49 2 2c1a 2c4a 2
2c1b 2c4b 2 2c1c 2c4c 2 2c1d 2c4d 2 2c1e 2c4e 2 2c1f 2c4f 2 2c20 2c50 2 2c21 2c51 2
2c22 2c52 2 2c23 2c53 2 2c24 2c54 2 2c25 2c55 2 2c26 2c56 2 2c27 2c57 2 2c28 2c58 2
2c29 2c59 2 2c2a 2c5a 2 2c2b 2c5b 2 2c2c 2c5c 2 2c2d 2c5d 2 2c2e 2c5e 2 2c2f 2c5f 2
2c60 2c61 2 2c67 2c68 2 2c69 2c6a 2 2c6b 2c6c 2 2c72 2c73 2 2c75 2c76 2 2c80 2c81 2
2c82 2c83 2 2c84 2c85 2 2c86 2c87 2 2c88 2c89 2 2c8a 2c8b 2 2c8c 2c8d 2 2c8e 2c8f 2
2c90 2c91 2 2c92 2c93 2 2c94 2c95 2 2c96 2c97 2 2c98 2c99 2 2c9a 2c9b 2 2c9c 2c9d 2
2c9e 2c9f 2 2ca0 2ca1 2 2ca2 2ca3 2 2ca4 2ca5 2 2ca6 2ca7 2 2ca8 2ca9 2 2caa 2cab 2
2cac 2cad 2 2cae 2caf 2 2cb0 2cb1 2 2cb2 2cb3 2 2cb4 2cb5 2 2cb6 2cb7 2 2cb8 2cb9 2
2cba 2cbb 2 2cbc 2cbd 2 2cbe 2cbf 2 2cc0 2cc1 2 2cc2 2cc3 2 2cc4 2cc5 2 2cc6 2cc7 2
2cc8 2cc9 2 2cca 2ccb 2 2ccc 2ccd 2 2cce 2ccf 2 2cd0 2cd1 2 2cd2 2cd3 2 2cd4 2cd5 2
2cd6 2cd7 2 2cd8 2cd9 2 2cda 2cdb 2 2cdc 2cdd 2 2cde 2cdf 2 2ce0 2ce1 2 2ce2 2ce3 2
2ceb 2cec 2 2ced 2cee 2 2cf2 2cf3 2 a640 a641 2 a642 a643 2 a644 a645 2 a646 a647 2
a648 a649 2 a64c a64d 2 a64e a64f 2 a650 a651 2 a652 a653 2 a654 a655 2 a656 a657 2
a658 a659 2 a65a a65b 2 a65c a65d 2 a65e a65f 2 a660 a661 2 a662 a663 2 a664 a665 2
a666 a667 2 a668 a669 2 a66a a66b 2 a66c a66d 2 a680 a681 2 a682 a683 2 a684 a685 2
a686 a687 2 a688 a689 2 a68a a68b 2 a68c a68d 2 a68e a68f 2 a690 a691 2 a692 a693 2
a694 a695 2 a696 a697 2 a698 a699 2 a69a a69b 2 a722 a723 2 a724 a725 2 a726 a727 2
a728 a729 2 a72a a72b 2 a72c a72d 2 a72e a72f 2 a732 a733 2 a734 a735 2 a736 a737 2
a738 a739 2 a73a a73b 2 a73c a73d 2 a73e a73f 2 a740 a741 2 a742 a743 2 a744 a745 2
a746 a747 2 a748 a749 2 a74a a74b 2 a74c a74d 2 a74e a74f 2 a750 a751 2 a752 a753 2
a754 a755 2 a756 a757 2 a758 a759 2 a75a a75b 2 a75c a75d 2 a75e a75f 2 a760 a761 2
a762 a763 2 a764 a765 2 a766 a767 2 a768 a769 2 a76a a76b 2 a76c a76d 2 a76e a76f 2
a779 a77a 2 a77b a77c 2 a77e a77f 2 a780 a781 2 a782 a783 2 a784 a785 2 a786 a787 2
a78b a78c 2 a790 a791 2 a792 a793 2 a794 a7c4 2 a796 a797 2 a798 a799 2 a79a a79b 2
a79c a79d 2 a79e a79f 2 a7a0 a7a1 2 a7a2 a7a3 2 a7a4 a7a5 2 a7a6 a7a7 2 a7a8 a7a9 2
a7b3 ab53 2 a7b4 a7b5 2 a7b6 a7b7 2 a7b8 a7b9 2 a7ba a7bb 2 a7bc a7bd 2 a7be a7bf 2
a7c0 a7c1 2 a7c2 a7c3 2 a7c7 a7c8 2 a7c9 a7ca 2 a7cc a7cd 2 a7d0 a7d1 2 a7d6 a7d7 2
a7d8 a7d9 2 a7da a7db 2 a7f5 a7f6 2 ff21 ff41 2 ff22 ff42 2 ff23 ff43 2 ff24 ff44 2
ff25 ff45 2 ff26 ff46 2 ff27 ff47 2 ff28 ff48 2 ff29 ff49 2 ff2a ff4a 2 ff2b ff4b 2
ff2c ff4c 2 ff2d ff4d 2 ff2e ff4e 2 ff2f ff4f 2 ff30 ff50 2 ff31 ff51 2 ff32 ff52 2
ff33 ff53 2 ff34 ff54 2 ff35 ff55 2 ff36 ff56 2 ff37 ff57 2 ff38 ff58 2 ff39 ff59 2
ff3a ff5a 2 10400 10428 2 10401 10429 2 10402 1042a 2 10403 1042b 2 10404 1042c 2
10405 1042d 2 10406 1042e 2 10407 1042f 2 10408 10430 2 10409 10431 2 1040a 10432 2
1040b 10433 2 1040c 10434 2 1040d 10435 2 1040e 10436 2 1040f 10437 2 10410 10438 2
10411 10439 2 10412 1043a 2 10413 1043b 2 10414 1043c 2 10415 1043d 2 10416 1043e 2
10417 1043f 2 10418 10440 2 10419 10441 2 1041a 10442 2 1041b 10443 2 1041c 10444 2
1041d 10445 2 1041e 10446 2 1041f 10447 2 10420 10448 2 10421 10449 2 10422 1044a 2
10423 1044b 2 10424 1044c 2 10425 1044d 2 10426 1044e 2 10427 1044f 2 104b0 104d8 2
104b1 104d9 2 104b2 104da 2 104b3 104db 2 104b4 104dc 2 104b5 104dd 2 104b6 104de 2
104b7 104df 2 104b8 104e0 2 104b9 104e1 2 104ba 104e2 2 104bb 104e3 2 104bc 104e4 2
104bd 104e5 2 104be 104e6 2 104bf 104e7 2 104c0 104e8 2 104c1 104e9 2 104c2 104ea 2
104c3 104eb 2 104c4 104ec 2 104c5 104ed 2 104c6 104ee 2 104c7 104ef 2 104c8 104f0 2
104c9 104f1 2 104ca 104f2 2 104cb 104f3 2 104cc 104f4 2 104cd 104f5 2 104ce 104f6 2
104cf 104f7 2 104d0 104f8 2 104d1 104f9 2 104d2 104fa 2 104d3 104fb 2 10570 10597 2
10571 10598 2 10572 10599 2 10573 1059a 2 10574 1059b 2 10575 1059c 2 10576 1059d 2
10577 1059e 2 10578 1059f 2 10579 105a0 2 1057a 105a1 2 1057c 105a3 2 1057d 105a4 2
1057e 105a5 2 1057f 105a6 2 10580 105a7 2 10581 105a8 2 10582 105a9 2 10583 105aa 2
10584 105ab 2 10585 105ac 2 10586 105ad 2 10587 105ae 2 10588 105af 2 10589 105b0 2
1058a 105b1 2 1058c 105b3 2 1058d 105b4 2 1058e 105b5 2 1058f 105b6 2 10590 105b7 2
10591 105b8 2 10592 105b9 2 10594 105bb 2 10595 105bc 2 10c80 10cc0 2 10c81 10cc1 2
10c82 10cc2 2 10c83 10cc3 2 10c84 10cc4 2 10c85 10cc5 2 10c86 10cc6 2 10c87 10cc7 2
10c88 10cc8 2 10c89 10cc9 2 10c8a 10cca 2 10c8b 10ccb 2 10c8c 10ccc 2 10c8d 10ccd 2
10c8e 10cce 2 10c8f 10ccf 2 10c90 10cd0 2 10c91 10cd1 2 10c92 10cd2 2 10c93 10cd3 2
10c94 10cd4 2 10c95 10cd5 2 10c96 10cd6 2 10c97 10cd7 2 10c98 10cd8 2 10c99 10cd9 2
10c9a 10cda 2 10c9b 10cdb 2 10c9c 10cdc 2 10c9d 10cdd 2 10c9e 10cde 2 10c9f 10cdf 2
10ca0 10ce0 2 10ca1 10ce1 2 10ca2 10ce2 2 10ca3 10ce3 2 10ca4 10ce4 2 10ca5 10ce5 2
10ca6 10ce6 2 10ca7 10ce7 2 10ca8 10ce8 2 10ca9 10ce9 2 10caa 10cea 2 10cab 10ceb 2
10cac 10cec 2 10cad 10ced 2 10cae 10cee 2 10caf 10cef 2 10cb0 10cf0 2 10cb1 10cf1 2
10cb2 10cf2 2 10d50 10d70 2 10d51 10d71 2 10d52 10d72 2 10d53 10d73 2 10d54 10d74 2
10d55 10d75 2 10d56 10d76 2 10d57 10d77 2 10d58 10d78 2 10d59 10d79 2 10d5a 10d7a 2
10d5b 10d7b 2 10d5c 10d7c 2 10d5d 10d7d 2 10d5e 10d7e 2 10d5f 10d7f 2 10d60 10d80 2
10d61 10d81 2 10d62 10d82 2 10d63 10d83 2 10d64 10d84 2 10d65 10d85 2 118a0 118c0 2
118a1 118c1 2 118a2 118c2 2 118a3 118c3 2 118a4 118c4 2 118a5 118c5 2 118a6 118c6 2
118a7 118c7 2 118a8 118c8 2 118a9 118c9 2 118aa 118ca 2 118ab 118cb 2 118ac 118cc 2
118ad 118cd 2 118ae 118ce 2 118af 118cf 2 118b0 118d0 2 118b1 118d1 2 118b2 118d2 2
118b3 118d3 2 118b4 118d4 2 118b5 118d5 2 118b6 118d6 2 118b7 118d7 2 118b8 118d8 2
118b9 118d9 2 118ba 118da 2 118bb 118db 2 118bc 118dc 2 118bd 118dd 2 118be 118de 2
118bf 118df 2 16e40 16e60 2 16e41 16e61 2 16e42 16e62 2 16e43 16e63 2 16e44 16e64 2
16e45 16e65 2 16e46 16e66 2 16e47 16e67 2 16e48 16e68 2 16e49 16e69 2 16e4a 16e6a 2
16e4b 16e6b 2 16e4c 16e6c 2 16e4d 16e6d 2 16e4e 16e6e 2 16e4f 16e6f 2 16e50 16e70 2
16e51 16e71 2 16e52 16e72 2 16e53 16e73 2 16e54 16e74 2 16e55 16e75 2 16e56 16e76 2
16e57 16e77 2 16e58 16e78 2 16e59 16e79 2 16e5a 16e7a 2 16e5b 16e7b 2 16e5c 16e7c 2
16e5d 16e7d 2 16e5e 16e7e 2 16e5f 16e7f 2 1e900 1e922 2 1e901 1e923 2 1e902 1e924 2
1e903 1e925 2 1e904 1e926 2 1e905 1e927 2 1e906 1e928 2 1e907 1e929 2 1e908 1e92a 2
1e909 1e92b 2 1e90a 1e92c 2 1e90b 1e92d 2 1e90c 1e92e 2 1e90d 1e92f 2 1e90e 1e930 2
1e90f 1e931 2 1e910 1e932 2 1e911 1e933 2 1e912 1e934 2 1e913 1e935 2 1e914 1e936 2
1e915 1e937 2 1e916 1e938 2 1e917 1e939 2 1e918 1e93a 2 1e919 1e93b 2 1e91a 1e93c 2
1e91b 1e93d 2 1e91c 1e93e 2 1e91d 1e93f 2 1e91e 1e940 2 1e91f 1e941 2 1e920 1e942 2
1e921 1e943"

/-- The case classes as arrays. -/
def caseClasses : Array (Array Nat) :=
  let rec go : Nat → Nat → Array (Array Nat) → Array (Array Nat)
    | 0, _, acc => acc
    | fuel + 1, i, acc =>
      match caseClassList[i]? with
      | some n => go fuel (i + 1 + n) (acc.push (caseClassList.extract (i + 1) (i + 1 + n)))
      | none => acc
  go caseClassList.size 0 #[]

/-- Every character of a case class with the number of its class, sorted by character. -/
def caseMembers : Array (Nat × Nat) :=
  let pairs := (caseClasses.zipIdx.toList.flatMap fun (cls, i) => cls.toList.map fun c => (c, i))
  (pairs.mergeSort fun a b => a.1 ≤ b.1).toArray

/-- The characters of the sorted member list. -/
def caseMemberChars : Array Nat := caseMembers.map (·.1)

/-- The characters equal to `c` up to case, `c` included. -/
def caseVariants (c : Char) : List Char :=
  match rank caseMemberChars c.toNat with
  | 0 => [c]
  | k + 1 =>
    match caseMembers[k]? with
    | some (d, i) =>
      if d == c.toNat then ((caseClasses[i]?.getD #[]).toList.map Char.ofNat) else [c]
    | none => [c]

/-- Whether two characters are equal up to case. -/
def sameUpToCase (a b : Char) : Bool := a == b || (caseVariants a).contains b

end TagStore.Text
