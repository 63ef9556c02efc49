import TypedSheets.Number.IntegerText

/-!
# Decompositions

Characters of identifiers that are composed of others, or only variants of others: a
letter with its accents, a ligature, a letter in another width or style. Each has a
full decomposition, which holds no character that decomposes further. The syllables
of Hangul are left out, for theirs follow from their code points.
-/

namespace TypedSheets.Text

open TypedSheets.Number

/-- The decompositions of runs of code points: the first code point of the run in
hexadecimal digits, and the decomposition of each one from there on, with a plus sign
between code points. -/
def decompositionRows : List String := [
    "aa 61",
    "b5 3bc",
    "ba 6f",
    "c0 41+300 41+301 41+302 41+303 41+308 41+30a",
    "c7 43+327 45+300 45+301 45+302 45+308 49+300 49+301 49+302 49+308",
    "d1 4e+303 4f+300 4f+301 4f+302 4f+303 4f+308",
    "d9 55+300 55+301 55+302 55+308 59+301",
    "e0 61+300 61+301 61+302 61+303 61+308 61+30a",
    "e7 63+327 65+300 65+301 65+302 65+308 69+300 69+301 69+302 69+308",
    "f1 6e+303 6f+300 6f+301 6f+302 6f+303 6f+308",
    "f9 75+300 75+301 75+302 75+308 79+301",
    "ff 79+308 41+304 61+304 41+306 61+306 41+328 61+328 43+301 63+301 43+302 63+302 43+307",
    "10b 63+307 43+30c 63+30c 44+30c 64+30c",
    "112 45+304 65+304 45+306 65+306 45+307 65+307 45+328 65+328 45+30c 65+30c 47+302 67+302",
    "11e 47+306 67+306 47+307 67+307 47+327 67+327 48+302 68+302",
    "128 49+303 69+303 49+304 69+304 49+306 69+306 49+328 69+328 49+307",
    "132 49+4a 69+6a 4a+302 6a+302 4b+327 6b+327",
    "139 4c+301 6c+301 4c+327 6c+327 4c+30c 6c+30c 4c+b7 6c+b7",
    "143 4e+301 6e+301 4e+327 6e+327 4e+30c 6e+30c 2bc+6e",
    "14c 4f+304 6f+304 4f+306 6f+306 4f+30b 6f+30b",
    "154 52+301 72+301 52+327 72+327 52+30c 72+30c 53+301 73+301 53+302 73+302 53+327 73+327",
    "160 53+30c 73+30c 54+327 74+327 54+30c 74+30c",
    "168 55+303 75+303 55+304 75+304 55+306 75+306 55+30a 75+30a 55+30b 75+30b 55+328 75+328",
    "174 57+302 77+302 59+302 79+302 59+308 5a+301 7a+301 5a+307 7a+307 5a+30c 7a+30c 73",
    "1a0 4f+31b 6f+31b",
    "1af 55+31b 75+31b",
    "1c4 44+5a+30c 44+7a+30c 64+7a+30c 4c+4a 4c+6a 6c+6a 4e+4a 4e+6a 6e+6a 41+30c 61+30c",
    "1cf 49+30c 69+30c 4f+30c 6f+30c 55+30c 75+30c 55+308+304 75+308+304 55+308+301",
    "1d8 75+308+301 55+308+30c 75+308+30c 55+308+300 75+308+300",
    "1de 41+308+304 61+308+304 41+307+304 61+307+304 c6+304 e6+304",
    "1e6 47+30c 67+30c 4b+30c 6b+30c 4f+328 6f+328 4f+328+304 6f+328+304 1b7+30c 292+30c",
    "1f0 6a+30c 44+5a 44+7a 64+7a 47+301 67+301",
    "1f8 4e+300 6e+300 41+30a+301 61+30a+301 c6+301 e6+301 d8+301 f8+301 41+30f 61+30f 41+311",
    "203 61+311 45+30f 65+30f 45+311 65+311 49+30f 69+30f 49+311 69+311 4f+30f 6f+30f 4f+311",
    "20f 6f+311 52+30f 72+30f 52+311 72+311 55+30f 75+30f 55+311 75+311 53+326 73+326 54+326",
    "21b 74+326",
    "21e 48+30c 68+30c",
    "226 41+307 61+307 45+327 65+327 4f+308+304 6f+308+304 4f+303+304 6f+303+304 4f+307",
    "22f 6f+307 4f+307+304 6f+307+304 59+304 79+304",
    "2b0 68 266 6a 72 279 27b 281 77 79",
    "2e0 263 6c 73 78 295",
    "340 300 301",
    "343 313 308+301",
    "374 2b9",
    "386 391+301 b7 395+301 397+301 399+301",
    "38c 39f+301",
    "38e 3a5+301 3a9+301 3b9+308+301",
    "3aa 399+308 3a5+308 3b1+301 3b5+301 3b7+301 3b9+301 3c5+308+301",
    "3ca 3b9+308 3c5+308 3bf+301 3c5+301 3c9+301",
    "3d0 3b2 3b8 3a5 3a5+301 3a5+308 3c6 3c0",
    "3f0 3ba 3c1 3c2",
    "3f4 398 3b5",
    "3f9 3a3",
    "400 415+300 415+308",
    "403 413+301",
    "407 406+308",
    "40c 41a+301 418+300 423+306",
    "419 418+306",
    "439 438+306",
    "450 435+300 435+308",
    "453 433+301",
    "457 456+308",
    "45c 43a+301 438+300 443+306",
    "476 474+30f 475+30f",
    "4c1 416+306 436+306",
    "4d0 410+306 430+306 410+308 430+308",
    "4d6 415+306 435+306",
    "4da 4d8+308 4d9+308 416+308 436+308 417+308 437+308",
    "4e2 418+304 438+304 418+308 438+308 41e+308 43e+308",
    "4ea 4e8+308 4e9+308 42d+308 44d+308 423+304 443+304 423+308 443+308 423+30b 443+30b",
    "4f4 427+308 447+308",
    "4f8 42b+308 44b+308",
    "587 565+582",
    "622 627+653 627+654 648+654 627+655 64a+654",
    "675 627+674 648+674 6c7+674 64a+674",
    "6c0 6d5+654",
    "6c2 6c1+654",
    "6d3 6d2+654",
    "929 928+93c",
    "931 930+93c",
    "934 933+93c",
    "958 915+93c 916+93c 917+93c 91c+93c 921+93c 922+93c 92b+93c 92f+93c",
    "9cb 9c7+9be 9c7+9d7",
    "9dc 9a1+9bc 9a2+9bc",
    "9df 9af+9bc",
    "a33 a32+a3c",
    "a36 a38+a3c",
    "a59 a16+a3c a17+a3c a1c+a3c",
    "a5e a2b+a3c",
    "b48 b47+b56",
    "b4b b47+b3e b47+b57",
    "b5c b21+b3c b22+b3c",
    "b94 b92+bd7",
    "bca bc6+bbe bc7+bbe bc6+bd7",
    "c48 c46+c56",
    "cc0 cbf+cd5",
    "cc7 cc6+cd5 cc6+cd6",
    "cca cc6+cc2 cc6+cc2+cd5",
    "d4a d46+d3e d47+d3e d46+d57",
    "dda dd9+dca",
    "ddc dd9+dcf dd9+dcf+dca dd9+ddf",
    "e33 e4d+e32",
    "eb3 ecd+eb2",
    "edc eab+e99 eab+ea1",
    "f43 f42+fb7",
    "f4d f4c+fb7",
    "f52 f51+fb7",
    "f57 f56+fb7",
    "f5c f5b+fb7",
    "f69 f40+fb5",
    "f73 f71+f72",
    "f75 f71+f74 fb2+f80 fb2+f71+f80 fb3+f80 fb3+f71+f80",
    "f81 f71+f80",
    "f93 f92+fb7",
    "f9d f9c+fb7",
    "fa2 fa1+fb7",
    "fa7 fa6+fb7",
    "fac fab+fb7",
    "fb9 f90+fb5",
    "1026 1025+102e",
    "10fc 10dc",
    "1b06 1b05+1b35",
    "1b08 1b07+1b35",
    "1b0a 1b09+1b35",
    "1b0c 1b0b+1b35",
    "1b0e 1b0d+1b35",
    "1b12 1b11+1b35",
    "1b3b 1b3a+1b35",
    "1b3d 1b3c+1b35",
    "1b40 1b3e+1b35 1b3f+1b35",
    "1b43 1b42+1b35",
    "1d2c 41 c6 42",
    "1d30 44 45 18e 47 48 49 4a 4b 4c 4d 4e",
    "1d3c 4f 222 50 52 54 55 57 61 250 251 1d02 62 64 65 259 25b 25c 67",
    "1d4f 6b 6d 14b 6f 254 1d16 1d17 70 74 75 1d1d 26f 76 1d25 3b2 3b3 3b4 3c6 3c7 69 72 75",
    "1d65 76 3b2 3b3 3c1 3c6 3c7",
    "1d78 43d",
    "1d9b 252 63 255 f0 25c 66 25f 261 265 268 269 26a 1d7b 29d 26d 1d85 29f 271 270 272 273",
    "1db0 274 275 278 282 283 1ab 289 28a 1d1c 28b 28c 7a 290 291 292 3b8",
    "1e00 41+325 61+325 42+307 62+307 42+323 62+323 42+331 62+331 43+327+301 63+327+301",
    "1e0a 44+307 64+307 44+323 64+323 44+331 64+331 44+327 64+327 44+32d 64+32d 45+304+300",
    "1e15 65+304+300 45+304+301 65+304+301 45+32d 65+32d 45+330 65+330 45+327+306 65+327+306",
    "1e1e 46+307 66+307 47+304 67+304 48+307 68+307 48+323 68+323 48+308 68+308 48+327 68+327",
    "1e2a 48+32e 68+32e 49+330 69+330 49+308+301 69+308+301 4b+301 6b+301 4b+323 6b+323",
    "1e34 4b+331 6b+331 4c+323 6c+323 4c+323+304 6c+323+304 4c+331 6c+331 4c+32d 6c+32d",
    "1e3e 4d+301 6d+301 4d+307 6d+307 4d+323 6d+323 4e+307 6e+307 4e+323 6e+323 4e+331 6e+331",
    "1e4a 4e+32d 6e+32d 4f+303+301 6f+303+301 4f+303+308 6f+303+308 4f+304+300 6f+304+300",
    "1e52 4f+304+301 6f+304+301 50+301 70+301 50+307 70+307 52+307 72+307 52+323 72+323",
    "1e5c 52+323+304 72+323+304 52+331 72+331 53+307 73+307 53+323 73+323 53+301+307",
    "1e65 73+301+307 53+30c+307 73+30c+307 53+323+307 73+323+307 54+307 74+307 54+323 74+323",
    "1e6e 54+331 74+331 54+32d 74+32d 55+324 75+324 55+330 75+330 55+32d 75+32d 55+303+301",
    "1e79 75+303+301 55+304+308 75+304+308 56+303 76+303 56+323 76+323 57+300 77+300 57+301",
    "1e83 77+301 57+308 77+308 57+307 77+307 57+323 77+323 58+307 78+307 58+308 78+308 59+307",
    "1e8f 79+307 5a+302 7a+302 5a+323 7a+323 5a+331 7a+331 68+331 74+308 77+30a 79+30a 61+2be",
    "1e9b 73+307",
    "1ea0 41+323 61+323 41+309 61+309 41+302+301 61+302+301 41+302+300 61+302+300 41+302+309",
    "1ea9 61+302+309 41+302+303 61+302+303 41+323+302 61+323+302 41+306+301 61+306+301",
    "1eb0 41+306+300 61+306+300 41+306+309 61+306+309 41+306+303 61+306+303 41+323+306",
    "1eb7 61+323+306 45+323 65+323 45+309 65+309 45+303 65+303 45+302+301 65+302+301",
    "1ec0 45+302+300 65+302+300 45+302+309 65+302+309 45+302+303 65+302+303 45+323+302",
    "1ec7 65+323+302 49+309 69+309 49+323 69+323 4f+323 6f+323 4f+309 6f+309 4f+302+301",
    "1ed1 6f+302+301 4f+302+300 6f+302+300 4f+302+309 6f+302+309 4f+302+303 6f+302+303",
    "1ed8 4f+323+302 6f+323+302 4f+31b+301 6f+31b+301 4f+31b+300 6f+31b+300 4f+31b+309",
    "1edf 6f+31b+309 4f+31b+303 6f+31b+303 4f+31b+323 6f+31b+323 55+323 75+323 55+309 75+309",
    "1ee8 55+31b+301 75+31b+301 55+31b+300 75+31b+300 55+31b+309 75+31b+309 55+31b+303",
    "1eef 75+31b+303 55+31b+323 75+31b+323 59+300 79+300 59+323 79+323 59+309 79+309 59+303",
    "1ef9 79+303",
    "1f00 3b1+313 3b1+314 3b1+313+300 3b1+314+300 3b1+313+301 3b1+314+301 3b1+313+342",
    "1f07 3b1+314+342 391+313 391+314 391+313+300 391+314+300 391+313+301 391+314+301",
    "1f0e 391+313+342 391+314+342 3b5+313 3b5+314 3b5+313+300 3b5+314+300 3b5+313+301",
    "1f15 3b5+314+301",
    "1f18 395+313 395+314 395+313+300 395+314+300 395+313+301 395+314+301",
    "1f20 3b7+313 3b7+314 3b7+313+300 3b7+314+300 3b7+313+301 3b7+314+301 3b7+313+342",
    "1f27 3b7+314+342 397+313 397+314 397+313+300 397+314+300 397+313+301 397+314+301",
    "1f2e 397+313+342 397+314+342 3b9+313 3b9+314 3b9+313+300 3b9+314+300 3b9+313+301",
    "1f35 3b9+314+301 3b9+313+342 3b9+314+342 399+313 399+314 399+313+300 399+314+300",
    "1f3c 399+313+301 399+314+301 399+313+342 399+314+342 3bf+313 3bf+314 3bf+313+300",
    "1f43 3bf+314+300 3bf+313+301 3bf+314+301",
    "1f48 39f+313 39f+314 39f+313+300 39f+314+300 39f+313+301 39f+314+301",
    "1f50 3c5+313 3c5+314 3c5+313+300 3c5+314+300 3c5+313+301 3c5+314+301 3c5+313+342",
    "1f57 3c5+314+342",
    "1f59 3a5+314",
    "1f5b 3a5+314+300",
    "1f5d 3a5+314+301",
    "1f5f 3a5+314+342 3c9+313 3c9+314 3c9+313+300 3c9+314+300 3c9+313+301 3c9+314+301",
    "1f66 3c9+313+342 3c9+314+342 3a9+313 3a9+314 3a9+313+300 3a9+314+300 3a9+313+301",
    "1f6d 3a9+314+301 3a9+313+342 3a9+314+342 3b1+300 3b1+301 3b5+300 3b5+301 3b7+300 3b7+301",
    "1f76 3b9+300 3b9+301 3bf+300 3bf+301 3c5+300 3c5+301 3c9+300 3c9+301",
    "1f80 3b1+313+345 3b1+314+345 3b1+313+300+345 3b1+314+300+345 3b1+313+301+345",
    "1f85 3b1+314+301+345 3b1+313+342+345 3b1+314+342+345 391+313+345 391+314+345",
    "1f8a 391+313+300+345 391+314+300+345 391+313+301+345 391+314+301+345 391+313+342+345",
    "1f8f 391+314+342+345 3b7+313+345 3b7+314+345 3b7+313+300+345 3b7+314+300+345",
    "1f94 3b7+313+301+345 3b7+314+301+345 3b7+313+342+345 3b7+314+342+345 397+313+345",
    "1f99 397+314+345 397+313+300+345 397+314+300+345 397+313+301+345 397+314+301+345",
    "1f9e 397+313+342+345 397+314+342+345 3c9+313+345 3c9+314+345 3c9+313+300+345",
    "1fa3 3c9+314+300+345 3c9+313+301+345 3c9+314+301+345 3c9+313+342+345 3c9+314+342+345",
    "1fa8 3a9+313+345 3a9+314+345 3a9+313+300+345 3a9+314+300+345 3a9+313+301+345",
    "1fad 3a9+314+301+345 3a9+313+342+345 3a9+314+342+345 3b1+306 3b1+304 3b1+300+345 3b1+345",
    "1fb4 3b1+301+345",
    "1fb6 3b1+342 3b1+342+345 391+306 391+304 391+300 391+301 391+345",
    "1fbe 3b9",
    "1fc2 3b7+300+345 3b7+345 3b7+301+345",
    "1fc6 3b7+342 3b7+342+345 395+300 395+301 397+300 397+301 397+345",
    "1fd0 3b9+306 3b9+304 3b9+308+300 3b9+308+301",
    "1fd6 3b9+342 3b9+308+342 399+306 399+304 399+300 399+301",
    "1fe0 3c5+306 3c5+304 3c5+308+300 3c5+308+301 3c1+313 3c1+314 3c5+342 3c5+308+342 3a5+306",
    "1fe9 3a5+304 3a5+300 3a5+301 3a1+314",
    "1ff2 3c9+300+345 3c9+345 3c9+301+345",
    "1ff6 3c9+342 3c9+342+345 39f+300 39f+301 3a9+300 3a9+301 3a9+345",
    "2071 69",
    "207f 6e",
    "2090 61 65 6f 78 259 68 6b 6c 6d 6e 70 73 74",
    "2102 43",
    "2107 190",
    "210a 67 48 48 48 68 127 49 49 4c 6c",
    "2115 4e",
    "2119 50 51 52 52 52",
    "2124 5a",
    "2126 3a9",
    "2128 5a",
    "212a 4b 41+30a 42 43",
    "212f 65 45 46",
    "2133 4d 6f 5d0 5d1 5d2 5d3 69",
    "213c 3c0 3b3 393 3a0",
    "2145 44 64 65 69 6a",
    "2160 49 49+49 49+49+49 49+56 56 56+49 56+49+49 56+49+49+49 49+58 58 58+49 58+49+49 4c 43",
    "216e 44 4d 69 69+69 69+69+69 69+76 76 76+69 76+69+69 76+69+69+69 69+78 78 78+69 78+69+69",
    "217c 6c 63 64 6d",
    "2c7c 6a 56",
    "2d6f 2d61",
    "3038 5341 5344 5345",
    "304c 304b+3099",
    "304e 304d+3099",
    "3050 304f+3099",
    "3052 3051+3099",
    "3054 3053+3099",
    "3056 3055+3099",
    "3058 3057+3099",
    "305a 3059+3099",
    "305c 305b+3099",
    "305e 305d+3099",
    "3060 305f+3099",
    "3062 3061+3099",
    "3065 3064+3099",
    "3067 3066+3099",
    "3069 3068+3099",
    "3070 306f+3099 306f+309a",
    "3073 3072+3099 3072+309a",
    "3076 3075+3099 3075+309a",
    "3079 3078+3099 3078+309a",
    "307c 307b+3099 307b+309a",
    "3094 3046+3099",
    "309e 309d+3099 3088+308a",
    "30ac 30ab+3099",
    "30ae 30ad+3099",
    "30b0 30af+3099",
    "30b2 30b1+3099",
    "30b4 30b3+3099",
    "30b6 30b5+3099",
    "30b8 30b7+3099",
    "30ba 30b9+3099",
    "30bc 30bb+3099",
    "30be 30bd+3099",
    "30c0 30bf+3099",
    "30c2 30c1+3099",
    "30c5 30c4+3099",
    "30c7 30c6+3099",
    "30c9 30c8+3099",
    "30d0 30cf+3099 30cf+309a",
    "30d3 30d2+3099 30d2+309a",
    "30d6 30d5+3099 30d5+309a",
    "30d9 30d8+3099 30d8+309a",
    "30dc 30db+3099 30db+309a",
    "30f4 30a6+3099",
    "30f7 30ef+3099 30f0+3099 30f1+3099 30f2+3099",
    "30fe 30fd+3099 30b3+30c8",
    "3131 1100 1101 11aa 1102 11ac 11ad 1103 1104 1105 11b0 11b1 11b2 11b3 11b4 11b5 111a",
    "3141 1106 1107 1108 1121 1109 110a 110b 110c 110d 110e 110f 1110 1111 1112 1161 1162",
    "3151 1163 1164 1165 1166 1167 1168 1169 116a 116b 116c 116d 116e 116f 1170 1171 1172",
    "3161 1173 1174 1175 1160 1114 1115 11c7 11c8 11cc 11ce 11d3 11d7 11d9 111c 11dd 11df",
    "3171 111d 111e 1120 1122 1123 1127 1129 112b 112c 112d 112e 112f 1132 1136 1140 1147",
    "3181 114c 11f1 11f2 1157 1158 1159 1184 1185 1188 1191 1192 1194 119e 11a1",
    "a69c 44a 44c",
    "a770 a76f",
    "a7f2 43 46 51",
    "a7f8 126 153",
    "ab5c a727 ab37 26b ab52",
    "ab69 28d",
    "f900 8c48 66f4 8eca 8cc8 6ed1 4e32 53e5 9f9c 9f9c 5951 91d1 5587 5948 61f6 7669 7f85",
    "f910 863f 87ba 88f8 908f 6a02 6d1b 70d9 73de 843d 916a 99f1 4e82 5375 6b04 721b 862d",
    "f920 9e1e 5d50 6feb 85cd 8964 62c9 81d8 881f 5eca 6717 6d6a 72fc 90ce 4f86 51b7 52de",
    "f930 64c4 6ad3 7210 76e7 8001 8606 865c 8def 9732 9b6f 9dfa 788c 797f 7da0 83c9 9304",
    "f940 9e7f 8ad6 58df 5f04 7c60 807e 7262 78ca 8cc2 96f7 58d8 5c62 6a13 6dda 6f0f 7d2f",
    "f950 7e37 964b 52d2 808b 51dc 51cc 7a1c 7dbe 83f1 9675 8b80 62cf 6a02 8afe 4e39 5be7",
    "f960 6012 7387 7570 5317 78fb 4fbf 5fa9 4e0d 6ccc 6578 7d22 53c3 585e 7701 8449 8aaa",
    "f970 6bba 8fb0 6c88 62fe 82e5 63a0 7565 4eae 5169 51c9 6881 7ce7 826f 8ad2 91cf 52f5",
    "f980 5442 5973 5eec 65c5 6ffe 792a 95ad 9a6a 9e97 9ece 529b 66c6 6b77 8f62 5e74 6190",
    "f990 6200 649a 6f23 7149 7489 79ca 7df4 806f 8f26 84ee 9023 934a 5217 52a3 54bd 70c8",
    "f9a0 88c2 8aaa 5ec9 5ff5 637b 6bae 7c3e 7375 4ee4 56f9 5be7 5dba 601c 73b2 7469 7f9a",
    "f9b0 8046 9234 96f6 9748 9818 4f8b 79ae 91b4 96b8 60e1 4e86 50da 5bee 5c3f 6599 6a02",
    "f9c0 71ce 7642 84fc 907c 9f8d 6688 962e 5289 677b 67f3 6d41 6e9c 7409 7559 786b 7d10",
    "f9d0 985e 516d 622e 9678 502b 5d19 6dea 8f2a 5f8b 6144 6817 7387 9686 5229 540f 5c65",
    "f9e0 6613 674e 68a8 6ce5 7406 75e2 7f79 88cf 88e1 91cc 96e2 533f 6eba 541d 71d0 7498",
    "f9f0 85fa 96a3 9c57 9e9f 6797 6dcb 81e8 7acb 7b20 7c92 72c0 7099 8b58 4ec0 8336 523a",
    "fa00 5207 5ea6 62d3 7cd6 5b85 6d1e 66b4 8f3b 884c 964d 898b 5ed3 5140 55c0",
    "fa10 585a",
    "fa12 6674",
    "fa15 51de 732a 76ca 793c 795e 7965 798f 9756 7cbe 7fbd",
    "fa20 8612",
    "fa22 8af8",
    "fa25 9038 90fd",
    "fa2a 98ef 98fc 9928 9db4 90de 96b7 4fae 50e7 514d 52c9 52e4 5351 559d 5606 5668 5840",
    "fa3a 58a8 5c64 5c6e 6094 6168 618e 61f2 654f 65e2 6691 6885 6d77 6e1a 6f22 716e 722b",
    "fa4a 7422 7891 793e 7949 7948 7950 7956 795d 798d 798e 7a40 7a81 7bc0 7df4 7e09 7e41",
    "fa5a 7f72 8005 81ed 8279 8279 8457 8910 8996 8b01 8b39 8cd3 8d08 8fb6 9038 96e3 97ff",
    "fa6a 983b 6075 242ee 8218",
    "fa70 4e26 51b5 5168 4f80 5145 5180 52c7 52fa 559d 5555 5599 55e2 585a 58b3 5944 5954",
    "fa80 5a62 5b28 5ed2 5ed9 5f69 5fad 60d8 614e 6108 618e 6160 61f2 6234 63c4 641c 6452",
    "fa90 6556 6674 6717 671b 6756 6b79 6bba 6d41 6edb 6ecb 6f22 701e 716e 77a7 7235 72af",
    "faa0 732a 7471 7506 753b 761d 761f 76ca 76db 76f4 774a 7740 78cc 7ab1 7bc0 7c7b 7d5b",
    "fab0 7df4 7f3e 8005 8352 83ef 8779 8941 8986 8996 8abf 8af8 8acb 8b01 8afe 8aed 8b39",
    "fac0 8b8a 8d08 8f38 9072 9199 9276 967c 96e3 9756 97db 97ff 980b 983b 9b12 9f9c 2284a",
    "fad0 22844 233d5 3b9d 4018 4039 25249 25cd0 27ed3 9f43 9f8e",
    "fb00 66+66 66+69 66+6c 66+66+69 66+66+6c 73+74 73+74",
    "fb13 574+576 574+565 574+56b 57e+576 574+56d",
    "fb1d 5d9+5b4",
    "fb1f 5f2+5b7 5e2 5d0 5d3 5d4 5db 5dc 5dd 5e8 5ea",
    "fb2a 5e9+5c1 5e9+5c2 5e9+5bc+5c1 5e9+5bc+5c2 5d0+5b7 5d0+5b8 5d0+5bc 5d1+5bc 5d2+5bc",
    "fb33 5d3+5bc 5d4+5bc 5d5+5bc 5d6+5bc",
    "fb38 5d8+5bc 5d9+5bc 5da+5bc 5db+5bc 5dc+5bc",
    "fb3e 5de+5bc",
    "fb40 5e0+5bc 5e1+5bc",
    "fb43 5e3+5bc 5e4+5bc",
    "fb46 5e6+5bc 5e7+5bc 5e8+5bc 5e9+5bc 5ea+5bc 5d5+5b9 5d1+5bf 5db+5bf 5e4+5bf 5d0+5dc 671",
    "fb51 671 67b 67b 67b 67b 67e 67e 67e 67e 680 680 680 680 67a 67a 67a 67a 67f 67f 67f 67f",
    "fb66 679 679 679 679 6a4 6a4 6a4 6a4 6a6 6a6 6a6 6a6 684 684 684 684 683 683 683 683 686",
    "fb7b 686 686 686 687 687 687 687 68d 68d 68c 68c 68e 68e 688 688 698 698 691 691 6a9 6a9",
    "fb90 6a9 6a9 6af 6af 6af 6af 6b3 6b3 6b3 6b3 6b1 6b1 6b1 6b1 6ba 6ba 6bb 6bb 6bb 6bb",
    "fba4 6d5+654 6d5+654 6c1 6c1 6c1 6c1 6be 6be 6be 6be 6d2 6d2 6d2+654 6d2+654",
    "fbd3 6ad 6ad 6ad 6ad 6c7 6c7 6c6 6c6 6c8 6c8 6c7+674 6cb 6cb 6c5 6c5 6c9 6c9 6d0 6d0 6d0",
    "fbe7 6d0 649 649 64a+654+627 64a+654+627 64a+654+6d5 64a+654+6d5 64a+654+648 64a+654+648",
    "fbf0 64a+654+6c7 64a+654+6c7 64a+654+6c6 64a+654+6c6 64a+654+6c8 64a+654+6c8 64a+654+6d0",
    "fbf7 64a+654+6d0 64a+654+6d0 64a+654+649 64a+654+649 64a+654+649 6cc 6cc 6cc 6cc",
    "fc00 64a+654+62c 64a+654+62d 64a+654+645 64a+654+649 64a+654+64a 628+62c 628+62d 628+62e",
    "fc08 628+645 628+649 628+64a 62a+62c 62a+62d 62a+62e 62a+645 62a+649 62a+64a 62b+62c",
    "fc12 62b+645 62b+649 62b+64a 62c+62d 62c+645 62d+62c 62d+645 62e+62c 62e+62d 62e+645",
    "fc1c 633+62c 633+62d 633+62e 633+645 635+62d 635+645 636+62c 636+62d 636+62e 636+645",
    "fc26 637+62d 637+645 638+645 639+62c 639+645 63a+62c 63a+645 641+62c 641+62d 641+62e",
    "fc30 641+645 641+649 641+64a 642+62d 642+645 642+649 642+64a 643+627 643+62c 643+62d",
    "fc3a 643+62e 643+644 643+645 643+649 643+64a 644+62c 644+62d 644+62e 644+645 644+649",
    "fc44 644+64a 645+62c 645+62d 645+62e 645+645 645+649 645+64a 646+62c 646+62d 646+62e",
    "fc4e 646+645 646+649 646+64a 647+62c 647+645 647+649 647+64a 64a+62c 64a+62d 64a+62e",
    "fc58 64a+645 64a+649 64a+64a 630+670 631+670 649+670",
    "fc64 64a+654+631 64a+654+632 64a+654+645 64a+654+646 64a+654+649 64a+654+64a 628+631",
    "fc6b 628+632 628+645 628+646 628+649 628+64a 62a+631 62a+632 62a+645 62a+646 62a+649",
    "fc75 62a+64a 62b+631 62b+632 62b+645 62b+646 62b+649 62b+64a 641+649 641+64a 642+649",
    "fc7f 642+64a 643+627 643+644 643+645 643+649 643+64a 644+645 644+649 644+64a 645+627",
    "fc89 645+645 646+631 646+632 646+645 646+646 646+649 646+64a 649+670 64a+631 64a+632",
    "fc93 64a+645 64a+646 64a+649 64a+64a 64a+654+62c 64a+654+62d 64a+654+62e 64a+654+645",
    "fc9b 64a+654+647 628+62c 628+62d 628+62e 628+645 628+647 62a+62c 62a+62d 62a+62e 62a+645",
    "fca5 62a+647 62b+645 62c+62d 62c+645 62d+62c 62d+645 62e+62c 62e+645 633+62c 633+62d",
    "fcaf 633+62e 633+645 635+62d 635+62e 635+645 636+62c 636+62d 636+62e 636+645 637+62d",
    "fcb9 638+645 639+62c 639+645 63a+62c 63a+645 641+62c 641+62d 641+62e 641+645 642+62d",
    "fcc3 642+645 643+62c 643+62d 643+62e 643+644 643+645 644+62c 644+62d 644+62e 644+645",
    "fccd 644+647 645+62c 645+62d 645+62e 645+645 646+62c 646+62d 646+62e 646+645 646+647",
    "fcd7 647+62c 647+645 647+670 64a+62c 64a+62d 64a+62e 64a+645 64a+647 64a+654+645",
    "fce0 64a+654+647 628+645 628+647 62a+645 62a+647 62b+645 62b+647 633+645 633+647 634+645",
    "fcea 634+647 643+644 643+645 644+645 646+645 646+647 64a+645 64a+647 640+64e+651",
    "fcf3 640+64f+651 640+650+651 637+649 637+64a 639+649 639+64a 63a+649 63a+64a 633+649",
    "fcfc 633+64a 634+649 634+64a 62d+649 62d+64a 62c+649 62c+64a 62e+649 62e+64a 635+649",
    "fd06 635+64a 636+649 636+64a 634+62c 634+62d 634+62e 634+645 634+631 633+631 635+631",
    "fd10 636+631 637+649 637+64a 639+649 639+64a 63a+649 63a+64a 633+649 633+64a 634+649",
    "fd1a 634+64a 62d+649 62d+64a 62c+649 62c+64a 62e+649 62e+64a 635+649 635+64a 636+649",
    "fd24 636+64a 634+62c 634+62d 634+62e 634+645 634+631 633+631 635+631 636+631 634+62c",
    "fd2e 634+62d 634+62e 634+645 633+647 634+647 637+645 633+62c 633+62d 633+62e 634+62c",
    "fd38 634+62d 634+62e 637+645 638+645 627+64b 627+64b",
    "fd50 62a+62c+645 62a+62d+62c 62a+62d+62c 62a+62d+645 62a+62e+645 62a+645+62c 62a+645+62d",
    "fd57 62a+645+62e 62c+645+62d 62c+645+62d 62d+645+64a 62d+645+649 633+62d+62c 633+62c+62d",
    "fd5e 633+62c+649 633+645+62d 633+645+62d 633+645+62c 633+645+645 633+645+645 635+62d+62d",
    "fd65 635+62d+62d 635+645+645 634+62d+645 634+62d+645 634+62c+64a 634+645+62e 634+645+62e",
    "fd6c 634+645+645 634+645+645 636+62d+649 636+62e+645 636+62e+645 637+645+62d 637+645+62d",
    "fd73 637+645+645 637+645+64a 639+62c+645 639+645+645 639+645+645 639+645+649 63a+645+645",
    "fd7a 63a+645+64a 63a+645+649 641+62e+645 641+62e+645 642+645+62d 642+645+645 644+62d+645",
    "fd81 644+62d+64a 644+62d+649 644+62c+62c 644+62c+62c 644+62e+645 644+62e+645 644+645+62d",
    "fd88 644+645+62d 645+62d+62c 645+62d+645 645+62d+64a 645+62c+62d 645+62c+645 645+62e+62c",
    "fd8f 645+62e+645",
    "fd92 645+62c+62e 647+645+62c 647+645+645 646+62d+645 646+62d+649 646+62c+645 646+62c+645",
    "fd99 646+62c+649 646+645+64a 646+645+649 64a+645+645 64a+645+645 628+62e+64a 62a+62c+64a",
    "fda0 62a+62c+649 62a+62e+64a 62a+62e+649 62a+645+64a 62a+645+649 62c+645+64a 62c+62d+649",
    "fda7 62c+645+649 633+62e+649 635+62d+64a 634+62d+64a 636+62d+64a 644+62c+64a 644+645+64a",
    "fdae 64a+62d+64a 64a+62c+64a 64a+645+64a 645+645+64a 642+645+64a 646+62d+64a 642+645+62d",
    "fdb5 644+62d+645 639+645+64a 643+645+64a 646+62c+62d 645+62e+64a 644+62c+645 643+645+645",
    "fdbc 644+62c+645 646+62c+62d 62c+62d+64a 62d+62c+64a 645+62c+64a 641+645+64a 628+62d+64a",
    "fdc3 643+645+645 639+62c+645 635+645+645 633+62e+64a 646+62c+64a",
    "fdf0 635+644+6d2 642+644+6d2 627+644+644+647 627+643+628+631 645+62d+645+62f",
    "fdf5 635+644+639+645 631+633+648+644 639+644+64a+647 648+633+644+645 635+644+649",
    "fe33 5f 5f",
    "fe4d 5f 5f 5f",
    "fe71 640+64b",
    "fe77 640+64e",
    "fe79 640+64f",
    "fe7b 640+650",
    "fe7d 640+651",
    "fe7f 640+652 621 627+653 627+653 627+654 627+654 648+654 648+654 627+655 627+655 64a+654",
    "fe8a 64a+654 64a+654 64a+654 627 627 628 628 628 628 629 629 62a 62a 62a 62a 62b 62b 62b",
    "fe9c 62b 62c 62c 62c 62c 62d 62d 62d 62d 62e 62e 62e 62e 62f 62f 630 630 631 631 632 632",
    "feb1 633 633 633 633 634 634 634 634 635 635 635 635 636 636 636 636 637 637 637 637 638",
    "fec6 638 638 638 639 639 639 639 63a 63a 63a 63a 641 641 641 641 642 642 642 642 643 643",
    "fedb 643 643 644 644 644 644 645 645 645 645 646 646 646 646 647 647 647 647 648 648 649",
    "fef0 649 64a 64a 64a 64a 644+627+653 644+627+653 644+627+654 644+627+654 644+627+655",
    "fefa 644+627+655 644+627 644+627",
    "ff10 30 31 32 33 34 35 36 37 38 39",
    "ff21 41 42 43 44 45 46 47 48 49 4a 4b 4c 4d 4e 4f 50 51 52 53 54 55 56 57 58 59 5a",
    "ff3f 5f",
    "ff41 61 62 63 64 65 66 67 68 69 6a 6b 6c 6d 6e 6f 70 71 72 73 74 75 76 77 78 79 7a",
    "ff66 30f2 30a1 30a3 30a5 30a7 30a9 30e3 30e5 30e7 30c3 30fc 30a2 30a4 30a6 30a8 30aa",
    "ff76 30ab 30ad 30af 30b1 30b3 30b5 30b7 30b9 30bb 30bd 30bf 30c1 30c4 30c6 30c8 30ca",
    "ff86 30cb 30cc 30cd 30ce 30cf 30d2 30d5 30d8 30db 30de 30df 30e0 30e1 30e2 30e4 30e6",
    "ff96 30e8 30e9 30ea 30eb 30ec 30ed 30ef 30f3 3099 309a 1160 1100 1101 11aa 1102 11ac",
    "ffa6 11ad 1103 1104 1105 11b0 11b1 11b2 11b3 11b4 11b5 111a 1106 1107 1108 1121 1109",
    "ffb6 110a 110b 110c 110d 110e 110f 1110 1111 1112",
    "ffc2 1161 1162 1163 1164 1165 1166",
    "ffca 1167 1168 1169 116a 116b 116c",
    "ffd2 116d 116e 116f 1170 1171 1172",
    "ffda 1173 1174 1175",
    "10781 2d0 2d1 e6 299 253",
    "10787 2a3 ab66 2a5 2a4 256 257 1d91 258 25e 2a9 264 262 260 29b 127 29c 267 284 2aa 2ab",
    "1079b 26c 1df04 a78e 26e 1df05 28e 1df06 f8 276 277 71 27a 1df08 27d 27e 280 2a8 2a6",
    "107ad ab67 2a7 288 2c71",
    "107b2 28f 2a1 2a2 298 1c0 1c1 1c2 1df0a 1df1e",
    "1109a 11099+110ba",
    "1109c 1109b+110ba",
    "110ab 110a5+110ba",
    "1112e 11131+11127 11132+11127",
    "1134b 11347+1133e 11347+11357",
    "114bb 114b9+114ba 114b9+114b0",
    "114be 114b9+114bd",
    "115ba 115b8+115af 115b9+115af",
    "11938 11935+11930",
    "1d400 41 42 43 44 45 46 47 48 49 4a 4b 4c 4d 4e 4f 50 51 52 53 54 55 56 57 58 59 5a 61",
    "1d41b 62 63 64 65 66 67 68 69 6a 6b 6c 6d 6e 6f 70 71 72 73 74 75 76 77 78 79 7a 41 42",
    "1d436 43 44 45 46 47 48 49 4a 4b 4c 4d 4e 4f 50 51 52 53 54 55 56 57 58 59 5a 61 62 63",
    "1d451 64 65 66 67",
    "1d456 69 6a 6b 6c 6d 6e 6f 70 71 72 73 74 75 76 77 78 79 7a 41 42 43 44 45 46 47 48 49",
    "1d471 4a 4b 4c 4d 4e 4f 50 51 52 53 54 55 56 57 58 59 5a 61 62 63 64 65 66 67 68 69 6a",
    "1d48c 6b 6c 6d 6e 6f 70 71 72 73 74 75 76 77 78 79 7a 41",
    "1d49e 43 44",
    "1d4a2 47",
    "1d4a5 4a 4b",
    "1d4a9 4e 4f 50 51",
    "1d4ae 53 54 55 56 57 58 59 5a 61 62 63 64",
    "1d4bb 66",
    "1d4bd 68 69 6a 6b 6c 6d 6e",
    "1d4c5 70 71 72 73 74 75 76 77 78 79 7a 41 42 43 44 45 46 47 48 49 4a 4b 4c 4d 4e 4f 50",
    "1d4e0 51 52 53 54 55 56 57 58 59 5a 61 62 63 64 65 66 67 68 69 6a 6b 6c 6d 6e 6f 70 71",
    "1d4fb 72 73 74 75 76 77 78 79 7a 41 42",
    "1d507 44 45 46 47",
    "1d50d 4a 4b 4c 4d 4e 4f 50 51",
    "1d516 53 54 55 56 57 58 59",
    "1d51e 61 62 63 64 65 66 67 68 69 6a 6b 6c 6d 6e 6f 70 71 72 73 74 75 76 77 78 79 7a 41",
    "1d539 42",
    "1d53b 44 45 46 47",
    "1d540 49 4a 4b 4c 4d",
    "1d546 4f",
    "1d54a 53 54 55 56 57 58 59",
    "1d552 61 62 63 64 65 66 67 68 69 6a 6b 6c 6d 6e 6f 70 71 72 73 74 75 76 77 78 79 7a 41",
    "1d56d 42 43 44 45 46 47 48 49 4a 4b 4c 4d 4e 4f 50 51 52 53 54 55 56 57 58 59 5a 61 62",
    "1d588 63 64 65 66 67 68 69 6a 6b 6c 6d 6e 6f 70 71 72 73 74 75 76 77 78 79 7a 41 42 43",
    "1d5a3 44 45 46 47 48 49 4a 4b 4c 4d 4e 4f 50 51 52 53 54 55 56 57 58 59 5a 61 62 63 64",
    "1d5be 65 66 67 68 69 6a 6b 6c 6d 6e 6f 70 71 72 73 74 75 76 77 78 79 7a 41 42 43 44 45",
    "1d5d9 46 47 48 49 4a 4b 4c 4d 4e 4f 50 51 52 53 54 55 56 57 58 59 5a 61 62 63 64 65 66",
    "1d5f4 67 68 69 6a 6b 6c 6d 6e 6f 70 71 72 73 74 75 76 77 78 79 7a 41 42 43 44 45 46 47",
    "1d60f 48 49 4a 4b 4c 4d 4e 4f 50 51 52 53 54 55 56 57 58 59 5a 61 62 63 64 65 66 67 68",
    "1d62a 69 6a 6b 6c 6d 6e 6f 70 71 72 73 74 75 76 77 78 79 7a 41 42 43 44 45 46 47 48 49",
    "1d645 4a 4b 4c 4d 4e 4f 50 51 52 53 54 55 56 57 58 59 5a 61 62 63 64 65 66 67 68 69 6a",
    "1d660 6b 6c 6d 6e 6f 70 71 72 73 74 75 76 77 78 79 7a 41 42 43 44 45 46 47 48 49 4a 4b",
    "1d67b 4c 4d 4e 4f 50 51 52 53 54 55 56 57 58 59 5a 61 62 63 64 65 66 67 68 69 6a 6b 6c",
    "1d696 6d 6e 6f 70 71 72 73 74 75 76 77 78 79 7a 131 237",
    "1d6a8 391 392 393 394 395 396 397 398 399 39a 39b 39c 39d 39e 39f 3a0 3a1 398 3a3 3a4",
    "1d6bc 3a5 3a6 3a7 3a8 3a9",
    "1d6c2 3b1 3b2 3b3 3b4 3b5 3b6 3b7 3b8 3b9 3ba 3bb 3bc 3bd 3be 3bf 3c0 3c1 3c2 3c3 3c4",
    "1d6d6 3c5 3c6 3c7 3c8 3c9",
    "1d6dc 3b5 3b8 3ba 3c6 3c1 3c0 391 392 393 394 395 396 397 398 399 39a 39b 39c 39d 39e",
    "1d6f0 39f 3a0 3a1 398 3a3 3a4 3a5 3a6 3a7 3a8 3a9",
    "1d6fc 3b1 3b2 3b3 3b4 3b5 3b6 3b7 3b8 3b9 3ba 3bb 3bc 3bd 3be 3bf 3c0 3c1 3c2 3c3 3c4",
    "1d710 3c5 3c6 3c7 3c8 3c9",
    "1d716 3b5 3b8 3ba 3c6 3c1 3c0 391 392 393 394 395 396 397 398 399 39a 39b 39c 39d 39e",
    "1d72a 39f 3a0 3a1 398 3a3 3a4 3a5 3a6 3a7 3a8 3a9",
    "1d736 3b1 3b2 3b3 3b4 3b5 3b6 3b7 3b8 3b9 3ba 3bb 3bc 3bd 3be 3bf 3c0 3c1 3c2 3c3 3c4",
    "1d74a 3c5 3c6 3c7 3c8 3c9",
    "1d750 3b5 3b8 3ba 3c6 3c1 3c0 391 392 393 394 395 396 397 398 399 39a 39b 39c 39d 39e",
    "1d764 39f 3a0 3a1 398 3a3 3a4 3a5 3a6 3a7 3a8 3a9",
    "1d770 3b1 3b2 3b3 3b4 3b5 3b6 3b7 3b8 3b9 3ba 3bb 3bc 3bd 3be 3bf 3c0 3c1 3c2 3c3 3c4",
    "1d784 3c5 3c6 3c7 3c8 3c9",
    "1d78a 3b5 3b8 3ba 3c6 3c1 3c0 391 392 393 394 395 396 397 398 399 39a 39b 39c 39d 39e",
    "1d79e 39f 3a0 3a1 398 3a3 3a4 3a5 3a6 3a7 3a8 3a9",
    "1d7aa 3b1 3b2 3b3 3b4 3b5 3b6 3b7 3b8 3b9 3ba 3bb 3bc 3bd 3be 3bf 3c0 3c1 3c2 3c3 3c4",
    "1d7be 3c5 3c6 3c7 3c8 3c9",
    "1d7c4 3b5 3b8 3ba 3c6 3c1 3c0 3dc 3dd",
    "1d7ce 30 31 32 33 34 35 36 37 38 39 30 31 32 33 34 35 36 37 38 39 30 31 32 33 34 35 36",
    "1d7e9 37 38 39 30 31 32 33 34 35 36 37 38 39 30 31 32 33 34 35 36 37 38 39",
    "1ee00 627 628 62c 62f",
    "1ee05 648 632 62d 637 64a 643 644 645 646 633 639 641 635 642 631 634 62a 62b 62e 630",
    "1ee19 636 638 63a 66e 6ba 6a1 66f",
    "1ee21 628 62c",
    "1ee24 647",
    "1ee27 62d",
    "1ee29 64a 643 644 645 646 633 639 641 635 642",
    "1ee34 634 62a 62b 62e",
    "1ee39 636",
    "1ee3b 63a",
    "1ee42 62c",
    "1ee47 62d",
    "1ee49 64a",
    "1ee4b 644",
    "1ee4d 646 633 639",
    "1ee51 635 642",
    "1ee54 634",
    "1ee57 62e",
    "1ee59 636",
    "1ee5b 63a",
    "1ee5d 6ba",
    "1ee5f 66f",
    "1ee61 628 62c",
    "1ee64 647",
    "1ee67 62d 637 64a 643",
    "1ee6c 645 646 633 639 641 635 642",
    "1ee74 634 62a 62b 62e",
    "1ee79 636 638 63a 66e",
    "1ee7e 6a1",
    "1ee80 627 628 62c 62f 647 648 632 62d 637 64a",
    "1ee8b 644 645 646 633 639 641 635 642 631 634 62a 62b 62e 630 636 638 63a",
    "1eea1 628 62c 62f",
    "1eea5 648 632 62d 637 64a",
    "1eeab 644 645 646 633 639 641 635 642 631 634 62a 62b 62e 630 636 638 63a",
    "1fbf0 30 31 32 33 34 35 36 37 38 39",
    "2f800 4e3d 4e38 4e41 20122 4f60 4fae 4fbb 5002 507a 5099 50e7 50cf 349e 2063a 514d 5154",
    "2f810 5164 5177 2051c 34b9 5167 518d 2054b 5197 51a4 4ecc 51ac 51b5 291df 51f5 5203 34df",
    "2f820 523b 5246 5272 5277 3515 52c7 52c9 52e4 52fa 5305 5306 5317 5349 5351 535a 5373",
    "2f830 537d 537f 537f 537f 20a2c 7070 53ca 53df 20b63 53eb 53f1 5406 549e 5438 5448 5468",
    "2f840 54a2 54f6 5510 5553 5563 5584 5584 5599 55ab 55b3 55c2 5716 5606 5717 5651 5674",
    "2f850 5207 58ee 57ce 57f4 580d 578b 5832 5831 58ac 214e4 58f2 58f7 5906 591a 5922 5962",
    "2f860 216a8 216ea 59ec 5a1b 5a27 59d8 5a66 36ee 36fc 5b08 5b3e 5b3e 219c8 5bc3 5bd8 5be7",
    "2f870 5bf3 21b18 5bff 5c06 5f53 5c22 3781 5c60 5c6e 5cc0 5c8d 21de4 5d43 21de6 5d6e 5d6b",
    "2f880 5d7c 5de1 5de2 382f 5dfd 5e28 5e3d 5e69 3862 22183 387c 5eb0 5eb3 5eb6 5eca 2a392",
    "2f890 5efe 22331 22331 8201 5f22 5f22 38c7 232b8 261da 5f62 5f6b 38e3 5f9a 5fcd 5fd7",
    "2f89f 5ff9 6081 393a 391c 6094 226d4 60c7 6148 614c 614e 614c 617a 618e 61b2 61a4 61af",
    "2f8af 61de 61f2 61f6 6210 621b 625d 62b1 62d4 6350 22b0c 633d 62fc 6368 6383 63e4 22bf1",
    "2f8bf 6422 63c5 63a9 3a2e 6469 647e 649d 6477 3a6c 654f 656c 2300a 65e3 66f8 6649 3b19",
    "2f8cf 6691 3b08 3ae4 5192 5195 6700 669c 80ad 43d9 6717 671b 6721 675e 6753 233c3 3b49",
    "2f8df 67fa 6785 6852 6885 2346d 688e 681f 6914 3b9d 6942 69a3 69ea 6aa8 236a3 6adb 3c18",
    "2f8ef 6b21 238a7 6b54 3c4e 6b72 6b9f 6bba 6bbb 23a8d 21d0b 23afa 6c4e 23cbc 6cbf 6ccd",
    "2f8fe 6c67 6d16 6d3e 6d77 6d41 6d69 6d78 6d85 23d1e 6d34 6e2f 6e6e 3d33 6ecb 6ec7 23ed1",
    "2f90e 6df9 6f6e 23f5e 23f8e 6fc6 7039 701e 701b 3d96 704a 707d 7077 70ad 20525 7145",
    "2f91d 24263 719c 243ab 7228 7235 7250 24608 7280 7295 24735 24814 737a 738b 3eac 73a5",
    "2f92c 3eb8 3eb8 7447 745c 7471 7485 74ca 3f1b 7524 24c36 753e 24c92 7570 2219f 7610",
    "2f93b 24fa1 24fb8 25044 3ffc 4008 76f4 250f3 250f2 25119 25133 771e 771f 771f 774a 4039",
    "2f94a 778b 4046 4096 2541d 784e 788c 78cc 40e3 25626 7956 2569a 256c5 798f 79eb 412f",
    "2f959 7a40 7a4a 7a4f 2597c 25aa7 25aa7 7aee 4202 25bab 7bc6 7bc9 4227 25c80 7cd2 42a0",
    "2f968 7ce8 7ce3 7d00 25f86 7d63 4301 7dc7 7e02 7e45 4334 26228 26247 4359 262d9 7f7a",
    "2f977 2633e 7f95 7ffa 8005 264da 26523 8060 265a8 8070 2335f 43d5 80b2 8103 440b 813e",
    "2f986 5ab5 267a7 267b5 23393 2339c 8201 8204 8f9e 446b 8291 828b 829d 52b3 82b1 82b3",
    "2f995 82bd 82e6 26b3c 82e5 831d 8363 83ad 8323 83bd 83e7 8457 8353 83ca 83cc 83dc 26c36",
    "2f9a5 26d6b 26cd5 452b 84f1 84f3 8516 273ca 8564 26f2c 455d 4561 26fb1 270d2 456b 8650",
    "2f9b4 865c 8667 8669 86a9 8688 870e 86e2 8779 8728 876b 8786 45d7 87e1 8801 45f9 8860",
    "2f9c4 8863 27667 88d7 88de 4635 88fa 34bb 278ae 27966 46be 46c7 8aa0 8aed 8b8a 8c55",
    "2f9d3 27ca8 8cab 8cc1 8d1b 8d77 27f2f 20804 8dcb 8dbc 8df0 208de 8ed4 8f38 285d2 285ed",
    "2f9e2 9094 90f1 9111 2872e 911b 9238 92d7 92d8 927c 93f9 9415 28bfa 958b 4995 95b7 28d77",
    "2f9f2 49e6 96c3 5db2 9723 29145 2921a 4a6e 4a76 97e0 2940a 4ab2 29496 980b 980b 9829",
    "2fa01 295b6 98e2 4b33 9929 99a7 99c2 99fe 4bce 29b30 9b12 9c40 9cfd 4cce 4ced 9d67 2a0ce",
    "2fa11 4cf8 2a105 2a20e 2a291 9ebb 4d56 9ef9 9efe 9f05 9f0f 9f16 9f3b 2a600"]

/-- A run: its first code point and the decompositions from there on. -/
abbrev DecompositionRun := Nat × Array (List Nat)

/-- The code point that hexadecimal digits name. -/
def codeNamed (digits : String) : Nat := digitsValue 16 digits.toList

/-- The run that a row describes. -/
def decompositionRun (row : String) : DecompositionRun :=
  match row.splitOn " " with
  | first :: rest =>
    (codeNamed first, (rest.map fun text => (text.splitOn "+").map codeNamed).toArray)
  | [] => (0, #[])

/-- All runs, in ascending order. -/
def decompositionRuns : List DecompositionRun := decompositionRows.map decompositionRun

/-- The full decomposition of a code point of the table; any other one stands for itself. -/
def tabledDecomposition (code : Nat) : List Nat :=
  match decompositionRuns.find? fun run => run.1 ≤ code && code < run.1 + run.2.size with
  | some run => run.2.getD (code - run.1) [code]
  | none => [code]

end TypedSheets.Text
